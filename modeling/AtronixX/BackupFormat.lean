import AtronixX.Schema
import AtronixX.Storage

/-! The bytes of a backup: magic, salt and nonce before the ciphertext of a zip file with the
database, the key and a summary. AES-GCM, scrypt, zip, JSON and the file format of SQLite are
parameters with their round trips. -/
namespace AtronixX.BackupFormat
open Library.Sealed Crypto Database Schema

/-- `BACKUP_MAGIC`, the bytes of `ATXBAK1`. -/
def magic : Bytes := [0x41,0x54,0x58,0x42,0x41,0x4b,0x31]

abbrev Salt := {bytes : Bytes // bytes.length = 16}

structure Meta where
  format : Nat
  created : Int
  users : Nat
  hosts : Nat
  brand : String
  deriving DecidableEq, Repr

structure Formats where
  zip : List (String × Bytes) → Bytes
  /-- `none` is `BadZipFile`. -/
  unzip : Bytes → Option (List (String × Bytes))
  dumps : Meta → Bytes
  /-- `none` is a `ValueError`. -/
  loads : Bytes → Option Meta
  /-- `VACUUM INTO`, and the file it writes. -/
  vacuum : Tables → Bytes
  inspect : Bytes → Option DbFile
  content : Bytes → Tables
  unzip_zip : ∀ entries, unzip (zip entries) = some entries
  loads_dumps : ∀ summary, loads (dumps summary) = some summary
  inspect_vacuum : ∀ tables, ∃ file, inspect (vacuum tables) = some file ∧ file.intact = true ∧
    ∀ object ∈ written, object ∈ file.objects
  content_vacuum : ∀ tables, content (vacuum tables) = tables

section
variable {β : Type} (cipher : Aead β) (scrypt : Bytes → Bytes → β)

/-- `encrypt_backup`; salt and nonce are what `os.urandom` gives. -/
def encryptBackup (salt : Salt) (nonce : Nonce) (payload : Bytes) (passphrase : String) : Bytes :=
  magic ++ salt.val ++ nonce.val ++
    cipher.encrypt (scrypt (utf8 passphrase) salt.val) nonce.val payload magic

def decryptBackup (blob : Bytes) (passphrase : String) : Except CryptoFault Bytes :=
  let head := magic.length
  if blob.length < head + 28 + 16 ∨ magic.isPrefixOf blob = false then
    .error (.cryptoError "not an AtronixX-Core backup file")
  else
    let salt := (blob.drop head).take 16
    let nonce := (blob.drop (head + 16)).take 12
    match cipher.decrypt (scrypt (utf8 passphrase) salt) nonce (blob.drop (head + 28)) magic with
    | none => .error (.cryptoError "wrong password or corrupted file")
    | some raw => .ok raw

/-- Ideal encryption: a tag of 16 bytes, nothing opens under another key, and no two passphrases
have one key. -/
structure Ideal : Prop where
  tag : ∀ key nonce data aad, 16 ≤ (cipher.encrypt key nonce data aad).length
  wrong : ∀ key other nonce data aad, other ≠ key →
    cipher.decrypt other nonce (cipher.encrypt key nonce data aad) aad = none
  apart : ∀ salt one two, scrypt one salt = scrypt two salt → one = two

variable (formats : Formats)

/-- The three members that `_open_payload` reads; of two with one name the later counts. -/
def members (raw : Bytes) : Option (Bytes × Bytes × Meta) := do
  let entries ← formats.unzip raw
  let db ← entries.reverse.lookup "atronixx.db"
  let key ← entries.reverse.lookup "secret.key"
  let summary ← (entries.reverse.lookup "meta.json").bind formats.loads
  pure (db,key,summary)

def openPayload (blob : Bytes) (passphrase : String) :
    Except CryptoFault (Storage.Payload × Meta) :=
  match decryptBackup cipher scrypt blob passphrase with
  | .error fault => .error fault
  | .ok raw => match members formats raw with
    | none => .error (.cryptoError "backup content is corrupted")
    | some (db,key,summary) =>
      if sized : key.length = 32 then
        match validateDb (formats.inspect db) with
        | .error fault => .error fault
        | .ok () => .ok (⟨formats.content db,key,sized⟩,summary)
      else .error (.cryptoError "backup key is invalid")

/-- The zip file that `build_backup` makes of what it has read. -/
def packed (payload : Storage.BackupPayload) (created : Int) (brand : String) : Bytes :=
  formats.zip [("atronixx.db",formats.vacuum payload.db),("secret.key",payload.key),
    ("meta.json",formats.dumps ⟨1,created,payload.users,payload.hosts,brand⟩)]

/-- `passphrase or settings.backup_passphrase`. -/
def chosen (passphrase : Option String) (backupPassphrase : String) : String :=
  match passphrase with
  | none => backupPassphrase
  | some text => if text = "" then backupPassphrase else text

/-- The end of `build_backup`. -/
def buildBackup (payload : Storage.BackupPayload) (created : Int)
    (brand backupPassphrase : String) (passphrase : Option String) (salt : Salt) (nonce : Nonce) :
    Bytes :=
  encryptBackup cipher scrypt salt nonce (packed formats payload created brand)
    (chosen passphrase backupPassphrase)

end

section
variable {β : Type} {cipher : Aead β} {scrypt : Bytes → Bytes → β}

private theorem drop_magic (salt : Salt) (nonce : Nonce) (text : Bytes) :
    ((magic ++ salt.val ++ nonce.val ++ text).drop magic.length).take 16 = salt.val ∧
      ((magic ++ salt.val ++ nonce.val ++ text).drop (magic.length + 16)).take 12 = nonce.val ∧
      (magic ++ salt.val ++ nonce.val ++ text).drop (magic.length + 28) = text := by
  obtain ⟨salt,long⟩ := salt
  obtain ⟨nonce,wide⟩ := nonce
  simp only [List.append_assoc]
  refine ⟨?_,?_,?_⟩
  · rw [List.drop_left,← long,List.take_left]
  · rw [← List.drop_drop,List.drop_left,← long,List.drop_left,← wide,List.take_left]
  · have parts : magic.length + 28 = magic.length + (salt.length + nonce.length) := by omega
    rw [parts,← List.drop_drop,List.drop_left,← List.drop_drop,List.drop_left,List.drop_left]

theorem decryptBackup_encrypted (ideal : Ideal cipher scrypt) (salt : Salt) (nonce : Nonce)
    (payload : Bytes) (passphrase other : String) :
    decryptBackup cipher scrypt (encryptBackup cipher scrypt salt nonce payload passphrase) other =
      match cipher.decrypt (scrypt (utf8 other) salt.val) nonce.val
        (cipher.encrypt (scrypt (utf8 passphrase) salt.val) nonce.val payload magic) magic with
      | none => .error (.cryptoError "wrong password or corrupted file")
      | some raw => .ok raw := by
  have tag := ideal.tag (scrypt (utf8 passphrase) salt.val) nonce.val payload magic
  obtain ⟨first,second,third⟩ := drop_magic salt nonce
    (cipher.encrypt (scrypt (utf8 passphrase) salt.val) nonce.val payload magic)
  have long := salt.property
  have wide := nonce.property
  have fine : ¬((encryptBackup cipher scrypt salt nonce payload passphrase).length <
      magic.length + 28 + 16 ∨
      magic.isPrefixOf (encryptBackup cipher scrypt salt nonce payload passphrase) = false) := by
    rintro (short | differs)
    · simp only [encryptBackup,List.length_append] at short
      omega
    · have begins : magic.isPrefixOf (encryptBackup cipher scrypt salt nonce payload passphrase) =
          true := by
        rw [List.isPrefixOf_iff_prefix]
        simp only [encryptBackup,List.append_assoc]
        exact List.prefix_append _ _
      rw [begins] at differs
      contradiction
  unfold decryptBackup
  rw [if_neg fine]
  simp only [encryptBackup,first,second,third]

theorem utf8_injective {one two : String} (same : utf8 one = utf8 two) : one = two := by
  have decoded := decodeUtf8_utf8 one
  rw [same,decodeUtf8_utf8] at decoded
  exact (Option.some.inj decoded).symm

variable {formats : Formats}

theorem validateDb_vacuum (formats : Formats) (tables : Tables) :
    validateDb (formats.inspect (formats.vacuum tables)) = .ok () := by
  obtain ⟨file,read,intact,objects⟩ := formats.inspect_vacuum tables
  have present : requiredTables.all (fun name => file.objects.any fun object =>
      object.kind == .table && object.name == name) = true := by
    have listed : ∀ name ∈ requiredTables,
        ∃ object ∈ written, (object.kind == .table && object.name == name) = true := by decide
    apply List.all_eq_true.mpr
    intro name required
    obtain ⟨object,member,is⟩ := listed name required
    exact List.any_eq_true.mpr ⟨object,objects object member,is⟩
  simp [validateDb,read,intact,present]

theorem openPayload_buildBackup (ideal : Ideal cipher scrypt) (payload : Storage.BackupPayload)
    (sized : payload.key.length = 32) (created : Int) (brand backupPassphrase passphrase : String)
    (nonempty : passphrase ≠ "") (salt : Salt) (nonce : Nonce) :
    openPayload cipher scrypt formats (buildBackup cipher scrypt formats payload created brand
        backupPassphrase (some passphrase) salt nonce) passphrase =
      .ok (⟨payload.db,payload.key,sized⟩,⟨1,created,payload.users,payload.hosts,brand⟩) := by
  have opened := decryptBackup_encrypted ideal salt nonce (packed formats payload created brand)
    passphrase passphrase
  rw [cipher.decrypt_encrypt] at opened
  have read : members formats (packed formats payload created brand) =
      some (formats.vacuum payload.db,payload.key,
        ⟨1,created,payload.users,payload.hosts,brand⟩) := by
    simp [members,packed,formats.unzip_zip,formats.loads_dumps,List.lookup_cons]
  simp only [openPayload,buildBackup,chosen,if_neg nonempty,opened,read,sized,dif_pos,
    validateDb_vacuum,formats.content_vacuum]

theorem openPayload_wrong (ideal : Ideal cipher scrypt) (payload : Storage.BackupPayload)
    (created : Int) (brand backupPassphrase passphrase : String) (nonempty : passphrase ≠ "")
    (salt : Salt) (nonce : Nonce) {other : String} (differs : other ≠ passphrase) :
    openPayload cipher scrypt formats (buildBackup cipher scrypt formats payload created brand
        backupPassphrase (some passphrase) salt nonce) other =
      .error (.cryptoError "wrong password or corrupted file") := by
  have keys : scrypt (utf8 other) salt.val ≠ scrypt (utf8 passphrase) salt.val := by
    intro same
    exact differs (utf8_injective (ideal.apart salt.val _ _ same))
  have refused := decryptBackup_encrypted ideal salt nonce (packed formats payload created brand)
    passphrase other
  rw [ideal.wrong _ _ _ _ _ keys] at refused
  simp only [openPayload,buildBackup,chosen,if_neg nonempty,refused]

end

end AtronixX.BackupFormat
