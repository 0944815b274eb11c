import AtronixX.Library.Numerals
import Mathlib.Data.Finset.Dedup

/-! `config.py`: the settings of the bot from its environment. -/
namespace AtronixX.Config
open Library.Text Library.Numerals

abbrev Text := List Char

structure Settings where
  botToken : Text
  adminId : Int
  supportUsername : Text
  dataDir : Text
  tz : Text
  backupPassphrase : Text
  backupIntervalHours : Int
  defaultMaxLive : Int
  idleTimeoutMin : Int
  maxSessionHours : Int
  blockedIps : Finset Text
  deriving DecidableEq

/-- At least six digits, a colon and at least thirty letters. -/
def isToken (digit letter : Char → Bool) (text : Text) : Bool :=
  match text.span (· ≠ ':') with
  | (_,[]) => false
  | (number,_ :: secret) =>
    6 ≤ number.length && number.all digit && 30 ≤ secret.length && secret.all letter

theorem isToken_iff {digit letter : Char → Bool} {text : Text} :
    isToken digit letter text = true ↔ ∃ number secret, text = number ++ ':' :: secret ∧
      ':' ∉ number ∧ 6 ≤ number.length ∧ (∀ char ∈ number, digit char = true) ∧
      30 ≤ secret.length ∧ ∀ char ∈ secret, letter char = true := by
  unfold isToken
  constructor
  · intro accepted
    split at accepted
    next => contradiction
    next number colon secret split =>
      obtain ⟨same,single⟩ := append_of_span split
      simp only [Bool.and_eq_true,decide_eq_true_eq,List.all_eq_true] at accepted
      obtain ⟨⟨⟨six,digits⟩,thirty⟩,letters⟩ := accepted
      exact ⟨number,secret,same,single,six,digits,thirty,letters⟩
  · intro ⟨number,secret,same,single,six,digits,thirty,letters⟩
    rw [same,span_append secret single]
    simp only [Bool.and_eq_true,decide_eq_true_eq,List.all_eq_true]
    exact ⟨⟨⟨six,digits⟩,thirty⟩,letters⟩

section
variable (unicode : Unicode) (getenv : Text → Option Text)

/-- `\d{6,}:[\w-]{30,}`. -/
def tokenMatches (token : Text) : Bool :=
  isToken (fun char => (unicode.digit char).isSome)
    (fun char => unicode.word char || char == '-') token

def int_ (name : String) (default : Int) : Int :=
  let raw := strip ((getenv name.toList).getD [])
  if raw = [] then default else (int unicode raw).getD default

/-- `os.getenv(name) or default`. -/
def getenvOr (name default : String) : Text :=
  match getenv name.toList with
  | none | some [] => default.toList
  | some text => text

def loadSettings : Except String Settings :=
  let token := strip ((getenv "BOT_TOKEN".toList).getD [])
  if !tokenMatches unicode token then .error "BOT_TOKEN is missing or invalid (check .env)"
  else
  let adminId := int_ unicode getenv "ADMIN_ID" 0
  if adminId ≤ 0 then .error "ADMIN_ID must be a numeric Telegram user id (check .env)"
  else
  let passphrase := strip ((getenv "BACKUP_PASSPHRASE".toList).getD [])
  if passphrase.length < 8 then
    .error "BACKUP_PASSPHRASE must be at least 8 characters (check .env)"
  else .ok {
    botToken := token
    adminId := adminId
    supportUsername :=
      '@' :: (strip (getenvOr getenv "SUPPORT_USERNAME" "@AtronixX_Support")).dropWhile (· = '@')
    dataDir := (getenv "DATA_DIR".toList).getD "/data".toList
    tz := (getenv "TZ".toList).getD "Asia/Tehran".toList
    backupPassphrase := passphrase
    backupIntervalHours := max 1 (int_ unicode getenv "BACKUP_INTERVAL_HOURS" 24)
    defaultMaxLive := max 1 (int_ unicode getenv "MAX_LIVE_SESSIONS" 20)
    idleTimeoutMin := max 2 (int_ unicode getenv "IDLE_TIMEOUT_MIN" 10)
    maxSessionHours := max 1 (int_ unicode getenv "MAX_SESSION_HOURS" 2)
    blockedIps := ((((getenv "BLOCKED_IPS".toList).getD []).splitOn ',').map strip
      |>.filter (· ≠ [])).toFinset }

theorem loadSettings_iff (token passphrase : Text) (adminId : Int) :
    (∃ settings, loadSettings unicode getenv = .ok settings ∧ settings.botToken = token ∧
      settings.adminId = adminId ∧ settings.backupPassphrase = passphrase) ↔
    (tokenMatches unicode token = true ∧ 0 < adminId ∧ 8 ≤ passphrase.length) ∧
      strip ((getenv "BOT_TOKEN".toList).getD []) = token ∧
      int_ unicode getenv "ADMIN_ID" 0 = adminId ∧
      strip ((getenv "BACKUP_PASSPHRASE".toList).getD []) = passphrase := by
  unfold loadSettings
  constructor
  · intro ⟨settings,loaded,sameToken,sameId,samePassphrase⟩
    dsimp only at loaded
    split at loaded
    next => contradiction
    next good =>
      split at loaded
      next => contradiction
      next positive =>
        split at loaded
        next => contradiction
        next long =>
          cases loaded
          subst sameToken sameId samePassphrase
          exact ⟨⟨by simpa using good,Int.not_le.mp positive,Nat.not_lt.mp long⟩,rfl,rfl,rfl⟩
  · intro ⟨⟨good,positive,long⟩,sameToken,sameId,samePassphrase⟩
    dsimp only
    rw [sameToken,sameId,samePassphrase,if_neg (by simp [good]),if_neg (by omega),if_neg (by omega)]
    exact ⟨_,rfl,rfl,rfl,rfl⟩

end

end AtronixX.Config
