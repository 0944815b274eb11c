import AtronixX.Database

/-! The asyncio tasks that share the database file and the vault: writers,
`restore_backup` and `build_backup` of `core/backup.py`, over the lock of
`database/db.py`. Every statement runs in a thread while its task holds
`Database._lock`; `serve` is that thread, `resume` is the holder going on, giving
up the lock and running up to its next await. The lock is a queue, holder first. -/
namespace AtronixX.Storage
open Library.Sealed Crypto Database

/-- The arguments of `add_host`, with the time and the nonces it draws. -/
structure HostArguments where
  owner : Int
  label : String
  ip : String
  port : Int
  username : String
  authType : String
  secret : String
  passphrase : Option String
  groupId : Option Int
  now : Int
  secretNonce : Nonce
  passphraseNonce : Nonce

inductive HostField
  | plain (column : PlainColumn)
  | secret (text : Option String) (nonce : Nonce)
  | passphrase (text : Option String) (nonce : Nonce)

/-- A method of `Database` that stores secrets, as another task calls it. -/
inductive Write
  | addHost (arguments : HostArguments)
  | updateHost (hostId owner : Int) (fields : List HostField)

/-- Every owner, secret and passphrase in `after` is the one the row has in `before`. -/
def SecretsKept (before after : Tables) : Prop :=
  ∀ id row, after.hosts.lookup id = some row → ∃ old, before.hosts.lookup id = some old ∧
    old.ownerId = row.ownerId ∧ old.secret = row.secret ∧ old.passphrase = row.passphrase

/-- A statement of any other method of `Database`: none of them writes the owner,
the secret or the passphrase of a host. -/
structure Statement where
  change : Tables → Option Tables
  kept : ∀ tables changed, change tables = some changed → SecretsKept tables changed

def Statement.setSetting (key value : String) : Statement where
  change tables := some (Database.setSetting key value tables)
  kept tables changed same := by
    cases Option.some.inj same
    exact fun id row found => ⟨row,found,rfl,rfl,rfl⟩

section
variable {κ : Type} (aead : Aead κ)

def sealOptional (key : κ) (nonce : Nonce) (text : Option String) (aad : String) : Option Token :=
  match text with
  | none => none
  | some value => if value = "" then none else some (sealToken aead key nonce value aad)

def hostRow (key : κ) (arguments : HostArguments) : HostRow where
  ownerId := arguments.owner
  label := arguments.label
  ip := arguments.ip
  port := arguments.port
  username := arguments.username
  authType := arguments.authType
  secret := sealToken aead key arguments.secretNonce arguments.secret (aad arguments.owner "secret")
  passphrase := sealOptional aead key arguments.passphraseNonce arguments.passphrase
    (aad arguments.owner "passphrase")
  hostFingerprint := none
  groupId := arguments.groupId
  favorite := false
  createdAt := arguments.now

/-- The column that `update_host` makes of a keyword argument. -/
def hostColumn (key : κ) (owner : Int) (field : HostField) : HostColumn :=
  match field with
  | .plain column => .plain column
  | .secret text nonce => .secret (sealOptional aead key nonce text (aad owner "secret"))
  | .passphrase text nonce => .passphrase (sealOptional aead key nonce text (aad owner "passphrase"))

/-- The statement that a write queues, its secrets encrypted under `key`. -/
def effect (key : κ) (write : Write) (tables : Tables) : Option Tables :=
  match write with
  | .addHost arguments => some (insertHost (hostRow aead key arguments) tables)
  | .updateHost hostId owner fields =>
    updateHost hostId owner (fields.map (hostColumn aead key owner)) tables

end

/-- What `_open_payload` gives for a blob and its passphrase, when it does not
raise: it has checked the length of the key. -/
structure Payload where
  db : Tables
  key : Bytes
  sized : key.length = 32

structure BackupPayload where
  db : Tables
  key : Bytes
  users : Nat
  hosts : Nat

inductive Client
  | restore
  | backup
  deriving DecidableEq

/-- A task waiting for `Database._lock`, by the function it will run in a thread. -/
inductive Job (κ : Type)
  | write (call : Write) (key : κ)
  | statement (other : Statement)
  | snapshot (client : Client)
  | replace (data : Tables)
  | countUsers
  | countHosts

inductive Reply
  | wrote (stored : Bool)
  | copied (content : Option Tables)
  | replaced (succeeded : Bool)
  | counted (number : Option Nat)

/-- Where `restore_backup` is: its awaits, and the two ways it ends. -/
inductive Restore
  | idle
  | opening
  | snapshotting (payload : Payload)
  | replacing (payload : Payload) (oldDb : Tables) (oldKey : Bytes)
  | rollingBack (oldDb : Tables)
  | returned
  | raised

inductive Backup
  | idle
  | snapshotting
  | countingUsers (snap : Tables)
  | countingHosts (snap : Tables) (users : Nat)

structure State (κ : Type) where
  file : Tables
  connected : Bool
  vault : Vault κ
  queue : List (Job κ)
  reply : Option Reply
  restore : Restore
  backup : Backup
  /-- History: the payloads packed so far. -/
  backups : List BackupPayload

def Restore.quiet : Restore → Bool
  | .idle => true
  | .returned => true
  | .raised => true
  | _ => false

/-- The file operations of `replace_file` that may raise: closing the connection,
writing the new file up to `os.replace`, and opening the connection again. -/
inductive ReplaceFault
  | close
  | write
  | connect
  deriving DecidableEq

inductive ServeFault
  | statement
  | replace (fault : ReplaceFault)
  deriving DecidableEq

/-- Where `restore_backup` raises between its snapshot and `replace_file`. -/
inductive SwapFault
  | rawKey
  | install (fault : InstallFault)
  deriving DecidableEq

inductive Action
  | call (write : Write)
  | execute (other : Statement)
  | startRestore
  | opened (payload : Option Payload)
  | startBackup
  | serve (fault : Option ServeFault)
  | resume (fault : Option SwapFault)

variable {κ : Type} (aead : Aead κ) (hkdf : Bytes → κ)

/-- `Database._run`: the task queues for the lock. -/
def enqueue (job : Job κ) (state : State κ) : State κ := {state with queue := state.queue ++ [job]}

/-- `add_host` and `update_host`: the secrets are encrypted under the loaded key
and the statement queues, with no await in between. Without a loaded key the call
raises, and `update_host` without fields runs no statement. -/
def call (write : Write) (state : State κ) : State κ :=
  match state.vault.aes, write with
  | none, _ => state
  | some _, .updateHost _ _ [] => state
  | some key, write => enqueue (.write write key) state

def replaceFile (fault : Option ServeFault) (data : Tables) (state : State κ) : State κ :=
  match fault with
  | some (.replace .close) =>
    if state.connected then {state with reply := some (.replaced false)}
    else {state with file := data, connected := true, reply := some (.replaced true)}
  | some (.replace .write) => {state with connected := false, reply := some (.replaced false)}
  | some (.replace .connect) =>
    {state with file := data, connected := false, reply := some (.replaced false)}
  | _ => {state with file := data, connected := true, reply := some (.replaced true)}

/-- Whether a statement runs: the connection is there and SQLite does not fail. -/
def runs (fault : Option ServeFault) (state : State κ) : Bool :=
  state.connected && fault.isNone

/-- A writing statement in the thread: it changes the file or raises. -/
def runStatement (fault : Option ServeFault) (change : Tables → Option Tables) (state : State κ) :
    State κ :=
  match (if runs fault state then change state.file else none) with
  | some changed => {state with file := changed, reply := some (.wrote true)}
  | none => {state with reply := some (.wrote false)}

def reads {α : Type} (fault : Option ServeFault) (query : Tables → α) (state : State κ) :
    Option α :=
  if runs fault state then some (query state.file) else none

def thread (fault : Option ServeFault) (job : Job κ) (state : State κ) : State κ :=
  match job with
  | .write write key => runStatement fault (effect aead key write) state
  | .statement other => runStatement fault other.change state
  | .snapshot _ => {state with reply := some (.copied (reads fault id state))}
  | .replace data => replaceFile fault data state
  | .countUsers => {state with reply := some (.counted (reads fault countUsers state))}
  | .countHosts => {state with reply := some (.counted (reads fault countHosts state))}

def serve (fault : Option ServeFault) (state : State κ) : Option (State κ) :=
  match state.reply, state.queue with
  | none, job :: _ => some (thread aead fault job state)
  | _, _ => none

/-- The `except` branch of `restore_backup`: `install_raw_key(old_key)`, then
`replace_file(old_db)` queues. -/
def rollBack (oldDb : Tables) (oldKey : Bytes) (state : State κ) : State κ :=
  match installRawKey hkdf none oldKey state.vault with
  | (.ok _,vault) =>
    enqueue (.replace oldDb) {state with vault := vault, restore := .rollingBack oldDb}
  | (.error _,vault) => {state with vault := vault, restore := .raised}

/-- `restore_backup` from its snapshot to the next await: `raw_key`,
`install_raw_key`, and `replace_file` queues. -/
def swap (fault : Option SwapFault) (payload : Payload) (oldDb : Tables) (state : State κ) :
    State κ :=
  match (if fault = some .rawKey then .error .other else rawKey state.vault) with
  | .error _ => {state with restore := .raised}
  | .ok oldKey =>
    let failing := match fault with
      | some (.install step) => some step
      | _ => none
    match installRawKey hkdf failing payload.key state.vault with
    | (.ok _,vault) =>
      enqueue (.replace payload.db)
        {state with vault := vault, restore := .replacing payload oldDb oldKey}
    | (.error _,vault) => rollBack hkdf oldDb oldKey {state with vault := vault}

/-- `build_backup` from its last count on: `raw_key` and the zip file. -/
def pack (snap : Tables) (users hosts : Nat) (state : State κ) : State κ :=
  match rawKey state.vault with
  | .ok key => {state with backup := .idle, backups := state.backups ++ [⟨snap,key,users,hosts⟩]}
  | .error _ => {state with backup := .idle}

/-- `restore_backup` goes on after one of its awaits on the database. -/
def resumeRestore (fault : Option SwapFault) (reply : Reply) (state : State κ) : Option (State κ) :=
  match state.restore, reply with
  | .snapshotting payload, .copied (some oldDb) => some (swap hkdf fault payload oldDb state)
  | .snapshotting _, .copied none => some {state with restore := .raised}
  | .replacing _ _ _, .replaced true => some {state with restore := .returned}
  | .replacing _ oldDb oldKey, .replaced false => some (rollBack hkdf oldDb oldKey state)
  | .rollingBack _, .replaced _ => some {state with restore := .raised}
  | _, _ => none

theorem serve_eq_some {fault : Option ServeFault} {before after : State κ} :
    serve aead fault before = some after ↔ ∃ job rest, before.reply = none ∧
      before.queue = job :: rest ∧ thread aead fault job before = after := by
  unfold serve
  split
  next job rest waits head =>
    rw [waits,head,Option.some_inj]
    constructor
    · intro served
      exact ⟨job,rest,rfl,rfl,served⟩
    · rintro ⟨_,_,_,front,served⟩
      obtain ⟨rfl,_⟩ := List.cons.inj front
      exact served
  next other =>
    refine iff_of_false (fun served => by contradiction) ?_
    rintro ⟨job,rest,waits,head,_⟩
    exact other job rest waits head

theorem resumeRestore_snapshotting {fault : Option SwapFault} {reply : Reply}
    {before after : State κ} {payload : Payload} (inside : before.restore = .snapshotting payload)
    (resumed : resumeRestore hkdf fault reply before = some after) :
    (∃ oldDb, reply = .copied (some oldDb) ∧ after = swap hkdf fault payload oldDb before) ∨
      (reply = .copied none ∧ after = {before with restore := .raised}) := by
  simp only [resumeRestore,inside] at resumed
  rcases reply with _ | (_ | oldDb) | _ | _
  · contradiction
  · exact .inr ⟨rfl,(Option.some.inj resumed).symm⟩
  · exact .inl ⟨oldDb,rfl,(Option.some.inj resumed).symm⟩
  · contradiction
  · contradiction

theorem resumeRestore_replacing {fault : Option SwapFault} {reply : Reply} {before after : State κ}
    {payload : Payload} {oldDb : Tables} {oldKey : Bytes}
    (inside : before.restore = .replacing payload oldDb oldKey)
    (resumed : resumeRestore hkdf fault reply before = some after) :
    (reply = .replaced true ∧ after = {before with restore := .returned}) ∨
      (reply = .replaced false ∧ after = rollBack hkdf oldDb oldKey before) := by
  simp only [resumeRestore,inside] at resumed
  rcases reply with _ | _ | (_ | _) | _
  · contradiction
  · contradiction
  · exact .inr ⟨rfl,(Option.some.inj resumed).symm⟩
  · exact .inl ⟨rfl,(Option.some.inj resumed).symm⟩
  · contradiction

theorem resumeRestore_rollingBack {fault : Option SwapFault} {reply : Reply}
    {before after : State κ} {oldDb : Tables} (inside : before.restore = .rollingBack oldDb)
    (resumed : resumeRestore hkdf fault reply before = some after) :
    (∃ succeeded, reply = .replaced succeeded) ∧ after = {before with restore := .raised} := by
  simp only [resumeRestore,inside] at resumed
  rcases reply with _ | _ | succeeded | _
  · contradiction
  · contradiction
  · exact ⟨⟨succeeded,rfl⟩,(Option.some.inj resumed).symm⟩
  · contradiction

/-- `build_backup` goes on after its snapshot or one of the two counts of `stats`. -/
def resumeBackup (reply : Reply) (state : State κ) : Option (State κ) :=
  match state.backup, reply with
  | .snapshotting, .copied (some snap) =>
    some (enqueue .countUsers {state with backup := .countingUsers snap})
  | .countingUsers snap, .counted (some users) =>
    some (enqueue .countHosts {state with backup := .countingHosts snap users})
  | .countingHosts snap users, .counted (some hosts) => some (pack snap users hosts state)
  | .snapshotting, .copied none => some {state with backup := .idle}
  | .countingUsers _, .counted none => some {state with backup := .idle}
  | .countingHosts _ _, .counted none => some {state with backup := .idle}
  | _, _ => none

/-- The task behind a job goes on with what the thread returned. -/
def proceed (fault : Option SwapFault) (job : Job κ) (reply : Reply) (state : State κ) :
    Option (State κ) :=
  match job with
  | .write _ _ => some state
  | .statement _ => some state
  | .snapshot .restore => resumeRestore hkdf fault reply state
  | .replace _ => resumeRestore hkdf fault reply state
  | .snapshot .backup => resumeBackup reply state
  | .countUsers => resumeBackup reply state
  | .countHosts => resumeBackup reply state

def resume (fault : Option SwapFault) (state : State κ) : Option (State κ) :=
  match state.reply, state.queue with
  | some reply, job :: rest => proceed hkdf fault job reply {state with queue := rest, reply := none}
  | _, _ => none

def step (state : State κ) (action : Action) : Option (State κ) :=
  match action with
  | .call write => some (call write state)
  | .execute other => some (enqueue (.statement other) state)
  | .startRestore => if state.restore.quiet then some {state with restore := .opening} else none
  | .opened none =>
    match state.restore with
    | .opening => some {state with restore := .raised}
    | _ => none
  | .opened (some payload) =>
    match state.restore with
    | .opening => some (enqueue (.snapshot .restore) {state with restore := .snapshotting payload})
    | _ => none
  | .startBackup =>
    match state.backup with
    | .idle => some (enqueue (.snapshot .backup) {state with backup := .snapshotting})
    | _ => none
  | .serve fault => serve aead fault state
  | .resume fault => resume hkdf fault state

end AtronixX.Storage
