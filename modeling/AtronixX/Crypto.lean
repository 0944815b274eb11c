import AtronixX.Library.Sealed

/-! The vault of `core/crypto.py`: the raw key in its file, the AES key derived
from it in memory, and the tokens stored in the database. AES-GCM and the HKDF
derivation are parameters; the base64 text of a token stands for its bytes. -/
namespace AtronixX.Crypto
open Library.Sealed

/-- Exceptions of `core.crypto`: `CryptoError` with its text, or one of the
standard library's (`OSError`, `UnicodeDecodeError`). -/
inductive CryptoFault
  | cryptoError (message : String)
  | other
  deriving DecidableEq, Repr

/-- What `secret` and `passphrase` columns hold: `"v1:"` followed by the base64
text of nonce and ciphertext, or a text in no known format. -/
inductive Token
  | v1 (raw : Bytes)
  | text (unknown : String)
  deriving DecidableEq, Repr

structure Vault (κ : Type) where
  keyFile : Option Bytes
  aes : Option κ

def utf8 (text : String) : Bytes := text.toByteArray.data.toList

def decodeUtf8 (bytes : Bytes) : Option String := String.fromUTF8? ⟨bytes.toArray⟩

@[simp] theorem decodeUtf8_utf8 (text : String) : decodeUtf8 (utf8 text) = some text := by
  have valid : text.toByteArray.IsValidUTF8 := text.isValidUTF8
  simp [decodeUtf8,utf8,String.fromUTF8?,valid,String.fromUTF8]

section
variable {κ : Type} (hkdf : Bytes → κ)

/-- `Vault.load`; `fresh` is what `os.urandom(32)` would give on a first start. -/
def load (fresh : Bytes) (vault : Vault κ) : Except CryptoFault Unit × Vault κ :=
  let raw := vault.keyFile.getD fresh
  let written := {vault with keyFile := some raw}
  if raw.length ≠ 32 then (.error (.cryptoError "secret.key is corrupted"),written)
  else (.ok (),{written with aes := some (hkdf raw)})

/-- `Vault.raw_key`: reads the file; a missing file raises. -/
def rawKey (vault : Vault κ) : Except CryptoFault Bytes :=
  match vault.keyFile with
  | some raw => .ok raw
  | none => .error .other

/-- The file operations of `Vault.install_raw_key` that may raise: writing the
new file or moving it over the old one, and reading it back in `load`. -/
inductive InstallFault
  | write
  | load
  deriving DecidableEq, Repr

/-- `Vault.install_raw_key`. A fault before `os.replace` leaves the file alone;
one in `load` leaves the new file under the old key in memory. -/
def installRawKey (fault : Option InstallFault) (raw : Bytes) (vault : Vault κ) :
    Except CryptoFault Unit × Vault κ :=
  if raw.length ≠ 32 then (.error (.cryptoError "invalid key size"),vault)
  else match fault with
    | some .write => (.error .other,vault)
    | some .load => (.error .other,{vault with keyFile := some raw})
    | none => load hkdf raw {vault with keyFile := some raw}

@[simp] theorem installRawKey_ok (raw : Bytes) (vault : Vault κ) (size : raw.length = 32) :
    installRawKey hkdf none raw vault = (.ok (),⟨some raw,some (hkdf raw)⟩) := by
  simp [installRawKey,load,size]

end

section
variable {κ : Type} (aead : Aead κ)

/-- The token of `Vault.encrypt` under a key; `nonce` is what `os.urandom(12)` gives. -/
def sealToken (key : κ) (nonce : Nonce) (plaintext aad : String) : Token :=
  .v1 (frame aead key nonce (utf8 plaintext) (utf8 aad))

/-- `Vault.decrypt` under a key. -/
def openToken (key : κ) (token : Token) (aad : String) : Except CryptoFault String :=
  match token with
  | .text _ => .error (.cryptoError "unknown token format")
  | .v1 raw => match unframe aead key raw (utf8 aad) with
    | none => .error (.cryptoError "decryption failed (wrong key or tampered data)")
    | some bytes => match decodeUtf8 bytes with
      | none => .error .other
      | some text => .ok text

@[simp] theorem openToken_sealToken (key : κ) (nonce : Nonce) (plaintext aad : String) :
    openToken aead key (sealToken aead key nonce plaintext aad) aad = .ok plaintext := by
  simp [openToken,sealToken]

def encrypt (vault : Vault κ) (nonce : Nonce) (plaintext aad : String) :
    Except CryptoFault Token :=
  match vault.aes with
  | none => .error (.cryptoError "vault not loaded")
  | some key => .ok (sealToken aead key nonce plaintext aad)

def decrypt (vault : Vault κ) (token : Token) (aad : String) : Except CryptoFault String :=
  match vault.aes with
  | none => .error (.cryptoError "vault not loaded")
  | some key => openToken aead key token aad

end

end AtronixX.Crypto
