import AtronixX.Library.Base64
import AtronixX.Connection

/-! The texts behind `v1:` tokens and `SHA256:` fingerprints: `_b64e`, `_b64d`, `Vault.encrypt` and
`Vault.decrypt` of `core/crypto.py` with the strings that the database holds, and `fingerprint_of`
of `core/ssh_manager.py`. -/
namespace AtronixX.Encodings
open Library.Sealed Library.Base64 Crypto Connection

def letters : List Char := "ABCDEFGHIJKLMNOPQRSTUVWXYZabcdefghijklmnopqrstuvwxyz0123456789".toList

def standardDigits : List Char := letters ++ ['+','/']

def urlSafeDigits : List Char := letters ++ ['-','_']

def digitOf (digits : List Char) (number : Nat) : Char := digits.getD number '='

def valueIn (digits : List Char) (char : Char) : Option Nat := digits.findIdx? (· == char)

theorem value_standard : ∀ number < 64,
    valueIn standardDigits (digitOf standardDigits number) = some number := by decide

theorem standard_ne : ∀ number < 64, digitOf standardDigits number ≠ '=' := by decide

/-- `base64.b64encode`. -/
def standard : Alphabet :=
  ⟨digitOf standardDigits,valueIn standardDigits,value_standard,standard_ne⟩

/-- The translation of `urlsafe_b64decode`. -/
def untranslated (char : Char) : Char :=
  if char = '-' then '+' else if char = '_' then '/' else char

theorem value_urlSafe : ∀ number < 64,
    valueIn standardDigits (untranslated (digitOf urlSafeDigits number)) = some number := by decide

theorem urlSafe_ne : ∀ number < 64, digitOf urlSafeDigits number ≠ '=' := by decide

theorem urlSafe_ascii : ∀ number < 64, (digitOf urlSafeDigits number).toNat < 128 := by
  decide +kernel

/-- `base64.urlsafe_b64encode`; its decoder takes the digits of the other too. -/
def urlSafe : Alphabet :=
  ⟨digitOf urlSafeDigits,valueIn standardDigits ∘ untranslated,value_urlSafe,urlSafe_ne⟩

def b64e (raw : Bytes) : String := String.ofList (encode urlSafe raw)

/-- A text that is not ASCII does not get to the decoder. -/
def b64d (text : String) : Option Bytes :=
  if text.toList.all (·.toNat < 128) then decode urlSafe text.toList else none

/-- The string that a token is in the database. -/
def text : Token → String
  | .v1 raw => "v1:" ++ b64e raw
  | .text unknown => unknown

section
variable {κ : Type} (aead : Aead κ) (vault : Vault κ)

def encryptText (nonce : Nonce) (plaintext aad : String) : Except CryptoFault String :=
  match vault.aes with
  | none => .error (.cryptoError "vault not loaded")
  | some key =>
    .ok ("v1:" ++ b64e (nonce.val ++ aead.encrypt key nonce.val (utf8 plaintext) (utf8 aad)))

/-- AES-GCM takes no nonce of less than eight bytes. -/
def decryptText (token aad : String) : Except CryptoFault String :=
  match vault.aes with
  | none => .error (.cryptoError "vault not loaded")
  | some key =>
    if !"v1:".toList.isPrefixOf token.toList then .error (.cryptoError "unknown token format")
    else match b64d (String.ofList (token.toList.drop 3)) with
      | none => .error .other
      | some raw =>
        if raw.length < 8 then .error .other
        else match aead.decrypt key (raw.take 12) (raw.drop 12) (utf8 aad) with
          | none => .error (.cryptoError "decryption failed (wrong key or tampered data)")
          | some bytes => match decodeUtf8 bytes with
            | none => .error .other
            | some plaintext => .ok plaintext

end

theorem b64d_b64e (raw : Bytes) : b64d (b64e raw) = some raw := by
  have ascii : (encode urlSafe raw).all (·.toNat < 128) = true := by
    rw [List.all_eq_true]
    intro char member
    rcases List.mem_append.mp member with member | member
    · obtain ⟨number,small,rfl⟩ := mem_unpadded member
      exact decide_eq_true (urlSafe_ascii number small)
    · rw [List.eq_of_mem_replicate member]
      rfl
  simp only [b64d,b64e,String.toList_ofList,ascii,if_true]
  exact decode_encode raw

theorem b64e_injective {one two : Bytes} (same : b64e one = b64e two) : one = two := by
  have read := b64d_b64e one
  rw [same,b64d_b64e] at read
  exact (Option.some.inj read).symm

section
variable {κ : Type} (aead : Aead κ) (vault : Vault κ)

theorem decryptText_text {raw : Bytes} (long : 8 ≤ raw.length) (aad : String) :
    decryptText aead vault (text (.v1 raw)) aad = decrypt aead vault (.v1 raw) aad := by
  have front : "v1:".toList.isPrefixOf (text (.v1 raw)).toList = true := by
    rw [text,String.toList_append]
    simp
  have rest : String.ofList ((text (.v1 raw)).toList.drop 3) = b64e raw := by
    rw [text,String.toList_append,List.drop_left' (by rfl),String.ofList_toList]
  unfold decryptText decrypt
  cases vault.aes with
  | none => rfl
  | some key =>
    simp only [front,rest,b64d_b64e,Nat.not_lt.mpr long,Bool.not_true,Bool.false_eq_true,if_false]
    rfl

theorem encryptText_eq (nonce : Nonce) (plaintext aad : String) :
    encryptText aead vault nonce plaintext aad =
      (encrypt aead vault nonce plaintext aad).map text := by
  unfold encryptText encrypt
  cases vault.aes <;> rfl

theorem length_frame (key : κ) (nonce : Nonce) (data aad : Bytes) :
    8 ≤ (frame aead key nonce data aad).length := by
  have size := nonce.property
  rw [frame,List.length_append]
  omega

end

/-- The string of a secret stands for its token: every vault gets from the one what it gets from
the other, the vault that wrote it gets the secret back, and it is the string of no other token. -/
theorem secret_stored {κ : Type} (aead : Aead κ) (vault : Vault κ) {key : κ}
    (loaded : vault.aes = some key) (nonce : Nonce) (plaintext aad : String) :
    ∃ stored, encryptText aead vault nonce plaintext aad = .ok stored ∧
      decryptText aead vault stored aad = .ok plaintext ∧
      (∀ (other : Vault κ) aad', decryptText aead other stored aad' =
        decrypt aead other (sealToken aead key nonce plaintext aad) aad') ∧
      ∀ raw, text (.v1 raw) = stored → Token.v1 raw = sealToken aead key nonce plaintext aad := by
  have reads (other : Vault κ) (aad' : String) :=
    decryptText_text aead other (length_frame aead key nonce (utf8 plaintext) (utf8 aad)) aad'
  refine ⟨text (sealToken aead key nonce plaintext aad),?_,?_,reads,?_⟩
  · simp [encryptText_eq,encrypt,loaded,Except.map]
  · refine (reads vault aad).trans ?_
    rw [decrypt,loaded]
    exact openToken_sealToken aead key nonce plaintext aad
  · intro raw same
    have letters := congrArg String.toList same
    simp only [text,sealToken,String.toList_append] at letters
    have digits := String.toList_inj.mp (List.append_cancel_left letters)
    exact congrArg Token.v1 (b64e_injective digits)

theorem secret_stored_hunter2 : ∃ stored,
    encryptText (transparent id) ⟨some [],some []⟩ ⟨_,length_zeros⟩ "hunter2" "host:7:secret" =
      .ok stored ∧
    decryptText (transparent id) ⟨some [],some []⟩ stored "host:7:secret" = .ok "hunter2" := by
  obtain ⟨stored,wrote,reads,_⟩ := secret_stored (transparent id) ⟨some [],some []⟩ rfl
    ⟨_,length_zeros⟩ "hunter2" "host:7:secret"
  exact ⟨stored,wrote,reads⟩

def b64encode (raw : Bytes) : String := String.ofList (encode standard raw)

/-- The bytes of a key that `fingerprint_of` hashes. -/
def keyData (key : HostKey) : Bytes := if key.publicData.isEmpty then key.der else key.publicData

theorem stripPadding_b64encode (raw : Bytes) :
    stripPadding (b64encode raw) = String.ofList (unpadded standard raw) := by
  have digits : ∀ char ∈ (unpadded standard raw).reverse, decide (char = '=') = false := by
    intro char member
    have differs : char ≠ '=' := by
      rintro rfl
      exact pad_notMem raw (List.mem_reverse.mp member)
    exact decide_eq_false differs
  have kept : (unpadded standard raw).reverse.dropWhile (fun char => char = '=') =
      (unpadded standard raw).reverse := by
    cases is : (unpadded standard raw).reverse with
    | nil => rfl
    | cons char rest =>
      rw [is] at digits
      rw [List.dropWhile_cons,digits char List.mem_cons_self]
      rfl
  have dropped : (padding (unpadded standard raw).length).reverse.dropWhile
      (fun char => char = '=') = [] := by
    unfold padding
    rw [List.reverse_replicate,List.dropWhile_replicate]
    rfl
  unfold stripPadding b64encode encode
  rw [String.toList_ofList,List.reverse_append,List.dropWhile_append,dropped,kept,
    List.isEmpty_nil,if_pos rfl,List.reverse_reverse]

/-- `asyncssh` and the name server are outside, the hash is `sha256`. -/
def Hashes {κ : Type} (network : Network κ) (sha256 : Bytes → Bytes) : Prop :=
  ∀ data, network.digest data = b64encode (sha256 data)

section
variable {κ : Type} {network : Network κ} {sha256 : Bytes → Bytes}
variable (hashes : Hashes network sha256)
include hashes

theorem fingerprintOf_eq (key : HostKey) : fingerprintOf network key =
    "SHA256:" ++ String.ofList (unpadded standard (sha256 (keyData key))) := by
  unfold fingerprintOf
  dsimp only
  rw [hashes,stripPadding_b64encode]
  rfl

theorem fingerprintOf_inj {one two : HostKey} :
    fingerprintOf network one = fingerprintOf network two ↔
      sha256 (keyData one) = sha256 (keyData two) := by
  rw [fingerprintOf_eq hashes,fingerprintOf_eq hashes]
  constructor
  · intro same
    have letters := congrArg String.toList same
    simp only [String.toList_append,String.toList_ofList] at letters
    exact unpadded_injective (List.append_cancel_left letters)
  · intro same
    rw [same]

theorem fingerprintOf_ne (key : HostKey) {other : String}
    (differs : other.toList.head? ≠ some 'S') : fingerprintOf network key ≠ other := by
  rw [fingerprintOf_eq hashes]
  rintro rfl
  rw [String.toList_append] at differs
  exact differs rfl

end

/-- With a key approved before, `open_trusted` hands out exactly the connections to servers whose
key has the same hash. -/
theorem trusted_iff {κ : Type} (network : Network κ) (sha256 : Bytes → Bytes)
    (hashes : Hashes network sha256) (host : Host) (approved : HostKey)
    (stored : host.hostFingerprint = some (fingerprintOf network approved))
    (connection : Connected) :
    (openTrusted network host).result = .trusted connection ↔
      (openConnection network host 12).result = .ok connection ∧
        ∃ key, connection.serverKey = some key ∧
          sha256 (keyData key) = sha256 (keyData approved) := by
  have same (other : Connected) :
      (host.hostFingerprint = some (presented network other.serverKey) ∧
        presented network other.serverKey ≠ "") ↔
      ∃ key, other.serverKey = some key ∧ sha256 (keyData key) = sha256 (keyData approved) := by
    rw [stored]
    cases shown : other.serverKey with
    | none =>
      simp only [presented,Option.some.injEq,reduceCtorEq,false_and,exists_false,iff_false,not_and]
      exact fun is => absurd is (fingerprintOf_ne hashes approved (by decide))
    | some key =>
      simp only [presented,Option.some.injEq,exists_eq_left']
      rw [eq_comm,fingerprintOf_inj hashes]
      exact and_iff_left (fingerprintOf_ne hashes key (by decide))
  unfold openTrusted
  dsimp only
  cases attempt : (openConnection network host 12).result with
  | error raised => simp
  | ok other =>
    dsimp only
    by_cases trusted : ∃ key, other.serverKey = some key ∧
        sha256 (keyData key) = sha256 (keyData approved)
    · rw [if_pos ((same other).mpr trusted)]
      simp only [Opened.trusted.injEq,Except.ok.injEq]
      exact ⟨fun is => ⟨is,is ▸ trusted⟩,And.left⟩
    · rw [if_neg (mt (same other).mp trusted)]
      simp only [reduceCtorEq,Except.ok.injEq,false_iff,not_and]
      exact fun is => is ▸ trusted

def hashed : Bytes :=
  [0xba,0x78,0x16,0xbf,0x8f,0x01,0xcf,0xea,
    0x41,0x41,0x40,0xde,0x5d,0xae,0x22,0x23,
    0xb0,0x03,0x61,0xa3,0x96,0x17,0x7a,0x9c,
    0xb4,0x10,0xff,0x61,0xf2,0x00,0x15,0xad]

def abc : HostKey := ⟨"abc".toList.map fun char => UInt8.ofNat char.toNat,[]⟩

def server : Network Unit where
  resolvePublic _ := .ok "93.184.216.34"
  importPrivateKey _ _ := .error .other
  connect _ := ⟨some abc,true,.connected⟩
  digest _ := b64encode hashed
  connected_authenticated _ _ _ := rfl

def known : Host where
  ip := "example.org"
  port := 22
  username := "root"
  authType := "password"
  secret := "hunter2"
  passphrase := none
  hostFingerprint := some "SHA256:ungWv48Bz+pBQUDeXa4iI7ADYaOWF3qctBD/YfIAFa0"

theorem trusted_iff_abc : (openTrusted server known).result = .trusted ⟨some abc⟩ :=
  (trusted_iff server (fun _ => hashed) (fun _ => rfl) known abc (by decide +kernel) ⟨some abc⟩).mpr
    ⟨rfl,abc,rfl,rfl⟩

end AtronixX.Encodings
