import AtronixX.Config
import AtronixX.Library.EnvFile
import Mathlib.Algebra.GroupWithZero.Nat

/-! The questions of `run_wizard` in `scripts/ax-manager.sh`, the `.env` that it writes from the
answers, and the environment that docker compose makes of it. What `hostname -I` prints, the
environment of compose and that of the image are parameters. -/
namespace AtronixX.Installer
open Library.Text Library.EnvFile Config

structure Line where
  text : Text
  single : '\n' ∉ text
  deriving DecidableEq

def ifs (char : Char) : Bool := char == ' ' || char == '\t'

/-- The variable that `read -r` sets. -/
def Line.read (line : Line) : Text := trimBy ifs line.text

inductive Charset
  | c
  | utf8
  deriving DecidableEq, Repr

/-- `${#text}`: bytes or characters. -/
def Charset.length (text : Text) : Charset → Nat
  | .c => (text.map Char.utf8Size).sum
  | .utf8 => text.length

def botTokenMatches (text : Text) : Bool :=
  isToken Char.isDigit (fun char => char.isAlphanum || char == '_' || char == '-') text

def adminIdMatches (text : Text) : Bool := !text.isEmpty && text.all Char.isDigit

/-- Ask again until the answer is accepted; `none` is still asking. -/
def ask (accepts : Text → Bool) : List Line → Option (Line × List Line)
  | [] => none
  | line :: lines => if accepts line.read then some (line,lines) else ask accepts lines

def askPassword (charset : Charset) : List Line → Option Line
  | bk1 :: bk2 :: lines =>
    if bk1.read = bk2.read ∧ 8 ≤ charset.length bk1.read then some bk1 else askPassword charset lines
  | _ => none

structure Answers where
  botToken : Line
  adminId : Line
  supportUsername : Line
  bk1 : Line
  deriving DecidableEq

def runWizard (charset : Charset) (lines : List Line) : Option Answers :=
  match ask botTokenMatches lines with
  | none => none
  | some (botToken,lines) => match ask adminIdMatches lines with
    | none => none
    | some (adminId,lines) => match lines with
      | [] => none
      | supportUsername :: lines =>
        (askPassword charset lines).map (Answers.mk botToken adminId supportUsername)

/-- `${support_username:-@AtronixX_Support}`. -/
def Answers.support (answers : Answers) : Text :=
  if answers.supportUsername.read = [] then "@AtronixX_Support".toList
  else answers.supportUsername.read

def assign (name : String) (text : Text) : Text := name.toList ++ '=' :: text

def envLines (answers : Answers) (selfIps : Line) : List Text :=
  [assign "BOT_TOKEN" answers.botToken.read,
    assign "ADMIN_ID" answers.adminId.read,
    assign "SUPPORT_USERNAME" answers.support,
    assign "BACKUP_PASSPHRASE" answers.bk1.read,
    assign "TZ" "Asia/Tehran".toList,
    assign "BACKUP_INTERVAL_HOURS" "24".toList,
    assign "MAX_LIVE_SESSIONS" "20".toList,
    assign "IDLE_TIMEOUT_MIN" "10".toList,
    assign "MAX_SESSION_HOURS" "2".toList,
    assign "BLOCKED_IPS" selfIps.text]

def envFile (answers : Answers) (selfIps : Line) : Text := written (envLines answers selfIps)

/-- The environment of the container: `env_file` over what the image has. -/
def getenv (outside image : Text → Option Text) (file : Text) (name : Text) : Option Text :=
  ((read outside file).lookup name).or (image name)

theorem accepts_of_ask {accepts : Text → Bool} {lines rest : List Line} {line : Line}
    (asked : ask accepts lines = some (line,rest)) : accepts line.read = true := by
  induction lines with
  | nil => contradiction
  | cons first lines ih =>
    unfold ask at asked
    split at asked
    next accepted =>
      cases asked
      exact accepted
    next => exact ih asked

theorem long_of_askPassword {charset : Charset} {lines : List Line} {line : Line}
    (asked : askPassword charset lines = some line) : 8 ≤ charset.length line.read := by
  fun_induction askPassword charset lines with
  | case1 bk1 bk2 lines accepted =>
    cases asked
    exact accepted.2
  | case2 bk1 bk2 lines refused ih => exact ih asked
  | case3 => contradiction

theorem accepted_of_runWizard {charset : Charset} {lines : List Line} {answers : Answers}
    (accepted : runWizard charset lines = some answers) :
    botTokenMatches answers.botToken.read = true ∧ adminIdMatches answers.adminId.read = true ∧
      8 ≤ charset.length answers.bk1.read := by
  unfold runWizard at accepted
  split at accepted
  next => contradiction
  next token afterToken askedToken =>
    split at accepted
    next => contradiction
    next admin afterAdmin askedAdmin =>
      split at accepted
      next => contradiction
      next support afterSupport =>
        obtain ⟨bk1,askedPassword,rfl⟩ := Option.map_eq_some_iff.mp accepted
        exact ⟨accepts_of_ask askedToken,accepts_of_ask askedAdmin,long_of_askPassword askedPassword⟩

theorem single_read (line : Line) : '\n' ∉ line.read :=
  fun member => line.single (trimBy_sublist.subset member)

theorem single_support (answers : Answers) : '\n' ∉ answers.support := by
  unfold Answers.support
  split
  · decide
  · exact single_read answers.supportUsername

theorem single_assign {name : String} {text : Text} (plain : '\n' ∉ name.toList ++ ['='])
    (single : '\n' ∉ text) : '\n' ∉ assign name text := by
  intro member
  unfold assign at member
  rw [List.append_cons] at member
  rcases List.mem_append.mp member with before | after
  · exact plain before
  · exact single after

theorem single_envLines (answers : Answers) (selfIps : Line) :
    ∀ line ∈ envLines answers selfIps, '\n' ∉ line := by
  have all : (envLines answers selfIps).Forall fun line => '\n' ∉ line :=
    ⟨single_assign (by decide) (single_read _),single_assign (by decide) (single_read _),
      single_assign (by decide) (single_support answers),
      single_assign (by decide) (single_read _),single_assign (by decide) (by decide),
      single_assign (by decide) (by decide),single_assign (by decide) (by decide),
      single_assign (by decide) (by decide),single_assign (by decide) (by decide),
      single_assign (by decide) selfIps.single⟩
  exact List.forall_iff_forall_mem.mp all

end AtronixX.Installer
