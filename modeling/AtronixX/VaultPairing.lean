import AtronixX.Library.Transition
import AtronixX.Storage

/-! The key and the database stay a matching pair. The invariant follows the lock
queue: what waits behind a pending `replace_file` was encrypted under the key that
was installed when it queued, and nothing else can run in between. It is stated
for any property of a database under a key that writes preserve. -/
namespace AtronixX.VaultPairing
open Library.Transition Library.Tables Crypto Database Storage

variable {κ : Type} (aead : Library.Sealed.Aead κ)

/-- Both secrets of a row decrypt under the key with the owner's associated data. -/
structure RowReadable (key : κ) (row : HostRow) : Prop where
  secret : ∃ text, openToken aead key row.secret (aad row.ownerId "secret") = .ok text
  passphrase : ∀ token, row.passphrase = some token →
    ∃ text, openToken aead key token (aad row.ownerId "passphrase") = .ok text

def Readable (key : κ) (tables : Tables) : Prop :=
  ∀ id row, tables.hosts.lookup id = some row → RowReadable aead key row

private theorem sealOptional_opens (key : κ) (nonce : Library.Sealed.Nonce) (text : Option String)
    (data : String) (token : Token) (stored : sealOptional aead key nonce text data = some token) :
    ∃ plain, openToken aead key token data = .ok plain := by
  cases text with
  | none => simp [sealOptional] at stored
  | some value =>
    by_cases blank : value = ""
    · simp [sealOptional,blank] at stored
    · have same : sealToken aead key nonce value data = token := by
        simpa [sealOptional,blank] using stored
      exact ⟨value,by rw [← same]; simp⟩

theorem hostRow_readable (key : κ) (arguments : HostArguments) :
    RowReadable aead key (hostRow aead key arguments) where
  secret := ⟨arguments.secret,by simp [hostRow]⟩
  passphrase token stored := sealOptional_opens aead key _ _ _ token stored

private theorem plain_set_secrets (column : PlainColumn) (row : HostRow) :
    (column.set row).ownerId = row.ownerId ∧ (column.set row).secret = row.secret ∧
      (column.set row).passphrase = row.passphrase := by
  cases column <;> exact ⟨rfl,rfl,rfl⟩

private theorem column_readable (key : κ) (owner : Int) (field : HostField) (row changed : HostRow)
    (readable : RowReadable aead key row) (owned : row.ownerId = owner)
    (set : (hostColumn aead key owner field).set row = some changed) :
    RowReadable aead key changed ∧ changed.ownerId = owner := by
  cases field with
  | plain column =>
    have same : column.set row = changed := by simpa [hostColumn,HostColumn.set] using set
    obtain ⟨sameOwner,sameSecret,samePassphrase⟩ := plain_set_secrets column row
    rw [same] at sameOwner sameSecret samePassphrase
    refine ⟨⟨?_,?_⟩,sameOwner.trans owned⟩
    · rw [sameSecret,sameOwner]
      exact readable.secret
    · rw [samePassphrase,sameOwner]
      exact readable.passphrase
  | secret text nonce =>
    obtain ⟨token,stored,same⟩ : ∃ token, sealOptional aead key nonce text (aad owner "secret") =
        some token ∧ {row with secret := token} = changed := by
      simpa [hostColumn,HostColumn.set] using set
    subst same
    refine ⟨⟨?_,readable.passphrase⟩,owned⟩
    simp only [owned]
    exact sealOptional_opens aead key nonce text _ token stored
  | passphrase text nonce =>
    have same : {row with passphrase := sealOptional aead key nonce text (aad owner "passphrase")} =
        changed := by simpa [hostColumn,HostColumn.set] using set
    subst same
    refine ⟨⟨readable.secret,?_⟩,owned⟩
    simp only [owned]
    exact fun token stored => sealOptional_opens aead key nonce text _ token stored

private theorem columns_readable (key : κ) (owner : Int) (fields : List HostField)
    (row changed : HostRow) (readable : RowReadable aead key row) (owned : row.ownerId = owner)
    (set : setColumns (fields.map (hostColumn aead key owner)) row = some changed) :
    RowReadable aead key changed := by
  induction fields generalizing row with
  | nil =>
    have same : row = changed := by simpa [setColumns] using set
    exact same ▸ readable
  | cons field fields ih =>
    cases first : (hostColumn aead key owner field).set row with
    | none => simp [setColumns,first] at set
    | some next =>
      have rest : setColumns (fields.map (hostColumn aead key owner)) next = some changed := by
        simpa [setColumns,first] using set
      obtain ⟨nextReadable,nextOwned⟩ :=
        column_readable aead key owner field row next readable owned first
      exact ih next nextReadable nextOwned rest

theorem effect_readable (key : κ) (write : Write) (tables changed : Tables)
    (readable : Readable aead key tables) (stored : effect aead key write tables = some changed) :
    Readable aead key changed := by
  cases write with
  | addHost arguments =>
    have same : insertHost (hostRow aead key arguments) tables = changed := Option.some.inj stored
    subst same
    intro id row found
    by_cases fresh : id = tables.sequence.hosts + 1
    · have inserted : hostRow aead key arguments = row := by
        rw [fresh] at found
        exact Option.some.inj ((AList.lookup_insert _).symm.trans found)
      exact inserted ▸ hostRow_readable aead key arguments
    · apply readable id row
      simpa [insertHost,AList.lookup_insert_ne fresh] using found
  | updateHost hostId owner fields =>
    simp only [effect,updateHost] at stored
    split at stored
    next =>
      cases Option.some.inj stored
      exact readable
    next row present =>
      split at stored
      next owned =>
        obtain ⟨next,set,same⟩ := Option.map_eq_some_iff.mp stored
        subst same
        have nextReadable := columns_readable aead key owner fields row next
          (readable hostId row present) owned set
        intro id other found
        obtain ⟨old,presentOld,rewritten⟩ : ∃ old, tables.hosts.lookup id = some old ∧
            (if id = hostId then next else old) = other := by simpa using found
        by_cases target : id = hostId
        · rw [if_pos target] at rewritten
          exact rewritten ▸ nextReadable
        · rw [if_neg target] at rewritten
          exact readable id other (rewritten ▸ presentOld)
      next =>
        cases Option.some.inj stored
        exact readable

theorem statement_readable (key : κ) (other : Statement) (tables changed : Tables)
    (readable : Readable aead key tables) (stored : other.change tables = some changed) :
    Readable aead key changed := by
  intro id row found
  obtain ⟨old,present,sameOwner,sameSecret,samePassphrase⟩ :=
    other.kept tables changed stored id row found
  have before := readable id old present
  refine ⟨?_,?_⟩
  · rw [← sameSecret,← sameOwner]
    exact before.secret
  · rw [← samePassphrase,← sameOwner]
    exact before.passphrase

def OfRestore : Job κ → Prop
  | .snapshot .restore => True
  | .replace _ => True
  | _ => False

theorem ofRestore_cases {job : Job κ} (own : OfRestore job) :
    job = .snapshot .restore ∨ ∃ data, job = .replace data := by
  unfold OfRestore at own
  split at own
  · exact .inl rfl
  next data => exact .inr ⟨data,rfl⟩
  · exact own.elim

def Free (queue : List (Job κ)) : Prop := ∀ job ∈ queue, ¬ OfRestore job

def Keyed (key : κ) (queue : List (Job κ)) : Prop :=
  ∀ write other, Job.write write other ∈ queue → other = key

structure Settled (good : κ → Tables → Prop) (key : κ) (state : State κ) : Prop where
  connected : state.connected = true
  keyed : Keyed key state.queue
  file : good key state.file
  copied : ∀ content, state.reply = some (.copied (some content)) → good key content

/-- `replace_file` waits with the database of the loaded key; only what queued
behind it counts, since it overwrites what ran before. -/
structure Pending (key : κ) (data : Tables) (before after : List (Job κ)) (state : State κ) :
    Prop where
  queue : state.queue = before ++ .replace data :: after
  freeBefore : Free before
  freeAfter : Free after
  keyed : Keyed key after
  served : before = [] → state.reply = some (.replaced true) →
    state.file = data ∧ state.connected = true

variable (hkdf : Library.Sealed.Bytes → κ)

/-- What holds in each phase of `restore_backup`, `raw` being the installed key. -/
inductive Phase (good : κ → Tables → Prop) (raw : Library.Sealed.Bytes) (state : State κ) : Prop
  | quiet (outside : state.restore.quiet = true ∨ state.restore = .opening)
      (settled : Settled good (hkdf raw) state) (free : Free state.queue)
  | snapshotting (payload : Payload) (before after : List (Job κ))
      (inside : state.restore = .snapshotting payload)
      (settled : Settled good (hkdf raw) state)
      (matched : good (hkdf payload.key) payload.db)
      (queue : state.queue = before ++ .snapshot .restore :: after)
      (freeBefore : Free before) (freeAfter : Free after)
  | replacing (payload : Payload) (oldDb : Tables) (oldKey : Library.Sealed.Bytes)
      (before after : List (Job κ)) (inside : state.restore = .replacing payload oldDb oldKey)
      (installed : raw = payload.key) (sized : oldKey.length = 32)
      (matched : good (hkdf payload.key) payload.db) (previous : good (hkdf oldKey) oldDb)
      (pending : Pending (hkdf raw) payload.db before after state)
  | rollingBack (oldDb : Tables) (before after : List (Job κ))
      (inside : state.restore = .rollingBack oldDb) (previous : good (hkdf raw) oldDb)
      (pending : Pending (hkdf raw) oldDb before after state)
      (succeeds : before = [] → state.reply ≠ some (.replaced false))

/-- The loaded key is the one of the key file, and the phase's condition holds. -/
def Paired (good : κ → Tables → Prop) (state : State κ) : Prop :=
  ∃ raw, raw.length = 32 ∧ state.vault = ⟨some raw,some (hkdf raw)⟩ ∧ Phase hkdf good raw state

structure Grown (key : κ) (before after : State κ) : Prop where
  file : after.file = before.file
  connected : after.connected = before.connected
  vault : after.vault = before.vault
  reply : after.reply = before.reply
  restore : after.restore = before.restore
  queue : ∃ extra, after.queue = before.queue ++ extra ∧ Free extra ∧ Keyed key extra

theorem Free.append {first second : List (Job κ)} (left : Free first) (right : Free second) :
    Free (first ++ second) := by
  intro job member
  rcases List.mem_append.mp member with inside | inside
  · exact left job inside
  · exact right job inside

theorem Keyed.append {key : κ} {first second : List (Job κ)} (left : Keyed key first)
    (right : Keyed key second) : Keyed key (first ++ second) := by
  intro write other member
  rcases List.mem_append.mp member with inside | inside
  · exact left write other inside
  · exact right write other inside

theorem Free.tail {job : Job κ} {rest : List (Job κ)} (free : Free (job :: rest)) : Free rest :=
  fun other member => free other (List.mem_cons_of_mem job member)

theorem Keyed.tail {key : κ} {job : Job κ} {rest : List (Job κ)} (keyed : Keyed key (job :: rest)) :
    Keyed key rest := fun write other member => keyed write other (List.mem_cons_of_mem job member)

theorem Grown.refl (key : κ) (state : State κ) : Grown key state state :=
  ⟨rfl,rfl,rfl,rfl,rfl,[],by simp,by simp [Free],by simp [Keyed]⟩

theorem grown_backup (key : κ) (state : State κ) (backup : Backup) (backups : List BackupPayload) :
    Grown key state {state with backup := backup, backups := backups} :=
  ⟨rfl,rfl,rfl,rfl,rfl,[],by simp,by simp [Free],by simp [Keyed]⟩

theorem Grown.trans {key : κ} {first second third : State κ} (one : Grown key first second)
    (two : Grown key second third) : Grown key first third := by
  obtain ⟨front,frontQueue,frontFree,frontKeyed⟩ := one.queue
  obtain ⟨back,backQueue,backFree,backKeyed⟩ := two.queue
  refine ⟨two.file.trans one.file,two.connected.trans one.connected,two.vault.trans one.vault,
    two.reply.trans one.reply,two.restore.trans one.restore,front ++ back,?_,
    frontFree.append backFree,frontKeyed.append backKeyed⟩
  rw [backQueue,frontQueue,List.append_assoc]

theorem grown_enqueue (key : κ) (job : Job κ) (state : State κ) (free : ¬ OfRestore job)
    (keyed : ∀ write other, job = .write write other → other = key) :
    Grown key state (enqueue job state) := by
  refine ⟨rfl,rfl,rfl,rfl,rfl,[job],rfl,?_,?_⟩
  · simpa [Free] using free
  · intro write other member
    exact keyed write other (List.mem_singleton.mp member).symm

theorem grown_call (key : κ) (write : Write) (state : State κ)
    (loaded : state.vault.aes = some key) : Grown key state (call write state) := by
  unfold call
  rw [loaded]
  split
  · exact .refl key state
  · exact .refl key state
  next same _ =>
    cases Option.some.inj same
    apply grown_enqueue key _ state (by simp [OfRestore])
    intro other found equal
    cases equal
    rfl

theorem Settled.grow {good : κ → Tables → Prop} {key : κ} {before after : State κ}
    (settled : Settled good key before) (grown : Grown key before after) :
    Settled good key after := by
  obtain ⟨extra,queue,_,keyed⟩ := grown.queue
  refine ⟨grown.connected.trans settled.connected,?_,?_,?_⟩
  · rw [queue]
    exact settled.keyed.append keyed
  · rw [grown.file]
    exact settled.file
  · rw [grown.reply]
    exact settled.copied

theorem Pending.grow {key : κ} {data : Tables} {front back : List (Job κ)} {before after : State κ}
    (pending : Pending key data front back before) (grown : Grown key before after) :
    ∃ extra, Pending key data front (back ++ extra) after := by
  obtain ⟨extra,queue,free,keyed⟩ := grown.queue
  refine ⟨extra,?_,pending.freeBefore,pending.freeAfter.append free,pending.keyed.append keyed,?_⟩
  · rw [queue,pending.queue]
    simp
  · rw [grown.file,grown.connected,grown.reply]
    exact pending.served

theorem Pending.front {key : κ} {data other : Tables} {front back rest : List (Job κ)}
    {state : State κ} (pending : Pending key data front back state)
    (head : state.queue = .replace other :: rest) : front = [] ∧ other = data := by
  have queue := pending.queue
  rw [head] at queue
  cases front with
  | nil =>
    obtain ⟨same,_⟩ := List.cons.inj queue
    cases same
    exact ⟨rfl,rfl⟩
  | cons next front =>
    obtain ⟨rfl,_⟩ := List.cons.inj queue
    exact absurd trivial (pending.freeBefore (.replace other) (by simp))

theorem Pending.noSnapshot {key : κ} {data : Tables} {front back rest : List (Job κ)}
    {state : State κ} {job : Job κ} (pending : Pending key data front back state)
    (head : state.queue = job :: rest) : job ≠ .snapshot .restore := by
  rintro rfl
  have member : Job.snapshot Client.restore ∈ front ++ Job.replace data :: back := by
    rw [← pending.queue,head]
    simp
  rcases List.mem_append.mp member with inside | inside
  · exact pending.freeBefore _ inside trivial
  · rcases List.mem_cons.mp inside with same | inside
    · cases same
    · exact pending.freeAfter _ inside trivial

theorem Phase.grow {good : κ → Tables → Prop} {raw : Library.Sealed.Bytes} {before after : State κ}
    (phase : Phase hkdf good raw before) (grown : Grown (hkdf raw) before after) :
    Phase hkdf good raw after := by
  cases phase with
  | quiet outside settled free =>
    obtain ⟨extra,queue,freeExtra,_⟩ := grown.queue
    refine .quiet (by rwa [grown.restore]) (settled.grow grown) ?_
    rw [queue]
    exact free.append freeExtra
  | snapshotting payload front back inside settled matched queue freeBefore freeAfter =>
    obtain ⟨extra,longer,freeExtra,_⟩ := grown.queue
    refine .snapshotting payload front (back ++ extra) (grown.restore.trans inside)
      (settled.grow grown) matched ?_ freeBefore (freeAfter.append freeExtra)
    rw [longer,queue]
    simp
  | replacing payload oldDb oldKey front back inside installed sized matched previous pending =>
    obtain ⟨extra,longer⟩ := pending.grow grown
    exact .replacing payload oldDb oldKey front (back ++ extra) (grown.restore.trans inside)
      installed sized matched previous longer
  | rollingBack oldDb front back inside previous pending succeeds =>
    obtain ⟨extra,longer⟩ := pending.grow grown
    exact .rollingBack oldDb front (back ++ extra) (grown.restore.trans inside) previous longer
      (by rwa [grown.reply])

theorem Phase.of_quiet {good : κ → Tables → Prop} {raw : Library.Sealed.Bytes} {state : State κ}
    (phase : Phase hkdf good raw state) (idle : state.restore.quiet = true) :
    Settled good (hkdf raw) state ∧ Free state.queue := by
  cases phase with
  | quiet _ settled free => exact ⟨settled,free⟩
  | snapshotting payload _ _ inside => simp [inside,Restore.quiet] at idle
  | replacing payload _ _ _ _ inside => simp [inside,Restore.quiet] at idle
  | rollingBack _ _ _ inside => simp [inside,Restore.quiet] at idle

theorem Phase.of_opening {good : κ → Tables → Prop} {raw : Library.Sealed.Bytes} {state : State κ}
    (phase : Phase hkdf good raw state) (inside : state.restore = .opening) :
    Settled good (hkdf raw) state ∧ Free state.queue := by
  cases phase with
  | quiet _ settled free => exact ⟨settled,free⟩
  | snapshotting payload _ _ other => simp [inside] at other
  | replacing payload _ _ _ _ other => simp [inside] at other
  | rollingBack _ _ _ other => simp [inside] at other

theorem Phase.of_replacing {good : κ → Tables → Prop} {raw : Library.Sealed.Bytes} {state : State κ}
    {payload : Payload} {oldDb : Tables} {oldKey : Library.Sealed.Bytes}
    (phase : Phase hkdf good raw state) (inside : state.restore = .replacing payload oldDb oldKey) :
    oldKey.length = 32 ∧ ∃ before after, Pending (hkdf raw) payload.db before after state := by
  cases phase with
  | quiet outside => simp [inside,Restore.quiet] at outside
  | snapshotting _ _ _ other => simp [inside] at other
  | replacing _ _ _ before after same _ sized _ _ pending =>
    rw [inside] at same
    cases same
    exact ⟨sized,before,after,pending⟩
  | rollingBack _ _ _ other => simp [inside] at other

theorem Phase.of_rollingBack {good : κ → Tables → Prop} {raw : Library.Sealed.Bytes}
    {state : State κ} {oldDb : Tables} (phase : Phase hkdf good raw state)
    (inside : state.restore = .rollingBack oldDb) :
    ∃ before after, Pending (hkdf raw) oldDb before after state ∧
      (before = [] → state.reply ≠ some (.replaced false)) := by
  cases phase with
  | quiet outside => simp [inside,Restore.quiet] at outside
  | snapshotting _ _ _ other => simp [inside] at other
  | replacing _ _ _ _ _ other => simp [inside] at other
  | rollingBack _ before after same _ pending succeeds =>
    rw [inside] at same
    cases same
    exact ⟨before,after,pending,succeeds⟩

theorem Phase.of_replace {good : κ → Tables → Prop} {raw : Library.Sealed.Bytes} {state : State κ}
    {data : Tables} {rest : List (Job κ)} (phase : Phase hkdf good raw state)
    (head : state.queue = .replace data :: rest) : good (hkdf raw) data := by
  have member : Job.replace data ∈ state.queue := by simp [head]
  cases phase with
  | quiet _ _ free => exact absurd trivial (free _ member)
  | snapshotting payload before after _ _ _ queue freeBefore freeAfter =>
    rw [queue] at member
    rcases List.mem_append.mp member with inside | inside
    · exact absurd trivial (freeBefore _ inside)
    · rcases List.mem_cons.mp inside with same | inside
      · cases same
      · exact absurd trivial (freeAfter _ inside)
  | replacing payload _ _ _ _ _ installed _ matched _ pending =>
    rw [(pending.front head).2,installed]
    exact matched
  | rollingBack oldDb _ _ _ previous pending =>
    rw [(pending.front head).2]
    exact previous

theorem Paired.grow {good : κ → Tables → Prop} {before after : State κ} {key : κ}
    (paired : Paired hkdf good before) (loaded : before.vault.aes = some key)
    (grown : Grown key before after) : Paired hkdf good after := by
  obtain ⟨raw,size,vault,phase⟩ := paired
  have same : hkdf raw = key := by simpa [vault] using loaded
  subst same
  exact ⟨raw,size,grown.vault.trans vault,phase.grow hkdf grown⟩

theorem grown_resumeBackup (key : κ) (reply : Reply) (before after : State κ)
    (resumed : resumeBackup reply before = some after) : Grown key before after := by
  have count (job : Job κ) (backup : Backup) (free : ¬ OfRestore job)
      (keyed : ∀ write other, job = .write write other → other = key) :
      Grown key before (enqueue job {before with backup := backup}) :=
    (grown_backup key before backup before.backups).trans (grown_enqueue key job _ free keyed)
  unfold resumeBackup at resumed
  split at resumed
  all_goals first | contradiction | cases Option.some.inj resumed
  · exact count .countUsers _ (by simp [OfRestore]) (by simp)
  · exact count .countHosts _ (by simp [OfRestore]) (by simp)
  · unfold pack
    split
    · exact grown_backup key before _ _
    · exact grown_backup key before _ before.backups
  all_goals exact grown_backup key before _ before.backups

theorem grown_proceed (key : κ) (fault : Option SwapFault) (job : Job κ) (reply : Reply)
    (before after : State κ) (free : ¬ OfRestore job)
    (resumed : proceed hkdf fault job reply before = some after) : Grown key before after := by
  cases job with
  | write write other => exact Option.some.inj resumed ▸ .refl key before
  | statement other => exact Option.some.inj resumed ▸ .refl key before
  | snapshot client =>
    cases client with
    | restore => exact absurd trivial free
    | backup => exact grown_resumeBackup key reply before after resumed
  | replace data => exact absurd trivial free
  | countUsers => exact grown_resumeBackup key reply before after resumed
  | countHosts => exact grown_resumeBackup key reply before after resumed

@[simp] theorem runStatement_frame (fault : Option ServeFault) (change : Tables → Option Tables)
    (state : State κ) : (runStatement fault change state).queue = state.queue ∧
      (runStatement fault change state).vault = state.vault ∧
      (runStatement fault change state).restore = state.restore ∧
      (runStatement fault change state).connected = state.connected := by
  unfold runStatement
  split <;> exact ⟨rfl,rfl,rfl,rfl⟩

@[simp] theorem replaceFile_frame (fault : Option ServeFault) (data : Tables) (state : State κ) :
    (replaceFile fault data state).queue = state.queue ∧
      (replaceFile fault data state).vault = state.vault ∧
      (replaceFile fault data state).restore = state.restore := by
  unfold replaceFile
  split <;> try split
  all_goals exact ⟨rfl,rfl,rfl⟩

theorem thread_frame (fault : Option ServeFault) (job : Job κ) (state : State κ) :
    (thread aead fault job state).queue = state.queue ∧
      (thread aead fault job state).vault = state.vault ∧
      (thread aead fault job state).restore = state.restore := by
  cases job <;> simp [thread]

/-- `replace_file` reports success only with the new content in place. -/
theorem replaceFile_served (fault : Option ServeFault) (data : Tables) (state : State κ)
    (reported : (replaceFile fault data state).reply = some (.replaced true)) :
    (replaceFile fault data state).file = data ∧
      (replaceFile fault data state).connected = true := by
  unfold replaceFile at reported ⊢
  split at reported <;> try split at reported
  all_goals simp_all

def Held (state : State κ) : Prop := state.reply = none ∨ state.queue ≠ []

/-- The state in which the holder goes on: the lock is given up. -/
def released (state : State κ) (rest : List (Job κ)) : State κ :=
  {state with queue := rest, reply := none}

theorem rollBack_reply (oldDb : Tables) (oldKey : Library.Sealed.Bytes) (state : State κ) :
    (rollBack hkdf oldDb oldKey state).reply = state.reply := by
  unfold Storage.rollBack
  split <;> rfl

theorem swap_reply (fault : Option SwapFault) (payload : Payload) (oldDb : Tables)
    (state : State κ) : (swap hkdf fault payload oldDb state).reply = state.reply := by
  unfold Storage.swap
  split
  · rfl
  · dsimp only
    split
    · rfl
    · exact rollBack_reply hkdf oldDb _ _

theorem resume_reply {fault : Option SwapFault} {state after : State κ}
    (resumed : resume hkdf fault state = some after) : after.reply = none := by
  unfold Storage.resume at resumed
  split at resumed
  next reply job rest _ _ =>
    change proceed hkdf fault job reply (released state rest) = some after at resumed
    by_cases own : OfRestore job
    · have continued : resumeRestore hkdf fault reply (released state rest) = some after := by
        rcases ofRestore_cases own with rfl | ⟨data,rfl⟩ <;> exact resumed
      unfold resumeRestore at continued
      split at continued
      all_goals first | contradiction | cases Option.some.inj continued
      · exact swap_reply hkdf fault _ _ _
      · rfl
      · rfl
      · exact rollBack_reply hkdf _ _ _
      · rfl
    · exact (grown_proceed hkdf (hkdf []) fault job reply _ after own resumed).reply
  next => contradiction

section
variable {good : κ → Tables → Prop}
  (writes : ∀ key write tables changed, good key tables →
    effect aead key write tables = some changed → good key changed)
  (statements : ∀ key (other : Statement) tables changed, good key tables →
    other.change tables = some changed → good key changed)

private theorem Settled.runStatement {key : κ} {state : State κ} (settled : Settled good key state)
    (fault : Option ServeFault) (change : Tables → Option Tables)
    (kept : ∀ changed, change state.file = some changed → good key changed) :
    Settled good key (Storage.runStatement fault change state) := by
  unfold Storage.runStatement
  split
  next changed ran =>
    have stored : change state.file = some changed := by
      by_cases running : runs fault state = true
      · simpa [running] using ran
      · simp [running] at ran
    exact ⟨settled.connected,settled.keyed,kept changed stored,by simp⟩
  next => exact ⟨settled.connected,settled.keyed,settled.file,by simp⟩

private theorem Settled.read {key : κ} {state : State κ} (settled : Settled good key state)
    (reply : Reply) (fresh : ∀ content, reply = .copied (some content) → good key content) :
    Settled good key {state with reply := some reply} :=
  ⟨settled.connected,settled.keyed,settled.file,
    fun content stored => fresh content (Option.some.inj stored)⟩

include writes statements in
theorem Settled.thread {key : κ} {state : State κ} (settled : Settled good key state)
    (fault : Option ServeFault) (job : Job κ) (holder : job ∈ state.queue)
    (other : ∀ data, job ≠ .replace data) : Settled good key (Storage.thread aead fault job state) := by
  cases job with
  | write write used =>
    have same : used = key := settled.keyed write used holder
    subst same
    exact settled.runStatement fault _ (fun changed stored =>
      writes used write state.file changed settled.file stored)
  | statement change =>
    exact settled.runStatement fault _ (fun changed stored =>
      statements key change state.file changed settled.file stored)
  | snapshot client =>
    apply settled.read _
    intro content equal
    have copied : reads fault id state = some content := by simpa using equal
    have same : state.file = content := by
      unfold reads at copied
      split at copied
      · exact Option.some.inj copied
      · contradiction
    exact same ▸ settled.file
  | replace data => exact absurd rfl (other data)
  | countUsers => exact settled.read _ (by simp)
  | countHosts => exact settled.read _ (by simp)

private theorem Pending.thread {key : κ} {data : Tables} {before after : List (Job κ)}
    {state : State κ} (pending : Pending key data before after state)
    (fault : Option ServeFault) (job : Job κ) (rest : List (Job κ))
    (holder : state.queue = job :: rest) :
    Pending key data before after (Storage.thread aead fault job state) := by
  refine ⟨(thread_frame aead fault job state).1.trans pending.queue,pending.freeBefore,
    pending.freeAfter,pending.keyed,?_⟩
  intro first reported
  subst first
  have queue := pending.queue
  rw [holder] at queue
  obtain ⟨rfl,_⟩ := List.cons.inj queue
  exact replaceFile_served fault data state reported

/-- The second `replace_file` of a failing restore does not fail itself. -/
def rollbackSucceeds (state : State κ) (fault : Option ServeFault) : Prop :=
  match state.restore, state.queue with
  | .rollingBack _, .replace _ :: _ => fault = none
  | _, _ => True

include writes statements in
theorem Phase.serve {raw : Library.Sealed.Bytes} {state after : State κ}
    (phase : Phase hkdf good raw state) (fault : Option ServeFault)
    (succeeds : rollbackSucceeds state fault) (served : Storage.serve aead fault state = some after) :
    Phase hkdf good raw after ∧ after.vault = state.vault := by
  obtain ⟨job,rest,waiting,holder,rfl⟩ := (serve_eq_some aead).mp served
  obtain ⟨queue,vault,restore⟩ := thread_frame aead fault job state
  have member : job ∈ state.queue := by simp [holder]
  refine ⟨?_,vault⟩
  cases phase with
  | quiet outside settled free =>
    refine .quiet (by rwa [restore]) ?_ (by rwa [queue])
    apply settled.thread aead writes statements fault job member
    intro data equal
    exact free job member (equal ▸ trivial)
  | snapshotting payload front back inside settled matched split freeBefore freeAfter =>
    refine .snapshotting payload front back (restore.trans inside) ?_ matched
      (queue.trans split) freeBefore freeAfter
    apply settled.thread aead writes statements fault job member
    intro data equal
    subst equal
    rw [split] at member
    rcases List.mem_append.mp member with inside | inside
    · exact freeBefore _ inside trivial
    · rcases List.mem_cons.mp inside with equal | inside
      · cases equal
      · exact freeAfter _ inside trivial
  | replacing payload oldDb oldKey front back inside installed sized matched previous pending =>
    exact .replacing payload oldDb oldKey front back (restore.trans inside) installed sized
      matched previous (pending.thread aead fault job rest holder)
  | rollingBack oldDb front back inside previous pending _ =>
    refine .rollingBack oldDb front back (restore.trans inside) previous
      (pending.thread aead fault job rest holder) ?_
    intro first
    subst first
    have queue := pending.queue
    rw [holder] at queue
    obtain ⟨rfl,rfl⟩ := List.cons.inj queue
    have clean : fault = none := by simpa [rollbackSucceeds,inside,holder] using succeeds
    subst clean
    simp [Storage.thread,replaceFile]

private theorem Settled.release {key : κ} {state : State κ} {job : Job κ} {rest : List (Job κ)}
    (settled : Settled good key state) (holder : state.queue = job :: rest) :
    Settled good key (released state rest) :=
  ⟨settled.connected,(holder ▸ settled.keyed : Keyed key (job :: rest)).tail,settled.file,by
    simp [released]⟩

private theorem Pending.release {key : κ} {data : Tables} {job next : Job κ}
    {front back rest : List (Job κ)} {state : State κ}
    (pending : Pending key data (next :: front) back state) (holder : state.queue = job :: rest) :
    ¬ OfRestore job ∧ Pending key data front back (released state rest) := by
  have queue := pending.queue
  rw [holder,List.cons_append] at queue
  obtain ⟨rfl,rfl⟩ := List.cons.inj queue
  exact ⟨pending.freeBefore job (by simp),rfl,pending.freeBefore.tail,pending.freeAfter,
    pending.keyed,by simp [released]⟩

private theorem paired_rollBack {oldDb : Tables} {oldKey : Library.Sealed.Bytes} {state : State κ}
    (sized : oldKey.length = 32) (previous : good (hkdf oldKey) oldDb) (free : Free state.queue)
    (waiting : state.reply = none) : Paired hkdf good (rollBack hkdf oldDb oldKey state) := by
  have rolled : rollBack hkdf oldDb oldKey state = enqueue (.replace oldDb)
      {state with vault := ⟨some oldKey,some (hkdf oldKey)⟩, restore := .rollingBack oldDb} := by
    simp [rollBack,sized]
  rw [rolled]
  refine ⟨oldKey,sized,rfl,.rollingBack oldDb state.queue [] rfl previous ?_ ?_⟩
  · exact ⟨rfl,free,by simp [Free],by simp [Keyed],by simp [enqueue,waiting]⟩
  · simp [enqueue,waiting]

/-- From the snapshot to the queued `replace_file` nothing else runs, whatever raises. -/
private theorem paired_swap {raw : Library.Sealed.Bytes} {payload : Payload} {oldDb : Tables}
    {state : State κ} (fault : Option SwapFault) (size : raw.length = 32)
    (vault : state.vault = ⟨some raw,some (hkdf raw)⟩) (settled : Settled good (hkdf raw) state)
    (free : Free state.queue) (waiting : state.reply = none)
    (matched : good (hkdf payload.key) payload.db) (previous : good (hkdf raw) oldDb) :
    Paired hkdf good (swap hkdf fault payload oldDb state) := by
  unfold swap
  by_cases unread : fault = some .rawKey
  · rw [if_pos unread]
    exact ⟨raw,size,vault,.quiet (.inl rfl)
      ⟨settled.connected,settled.keyed,settled.file,settled.copied⟩ free⟩
  · have read : rawKey state.vault = .ok raw := by simp [rawKey,vault]
    rw [if_neg unread,read]
    dsimp only
    split
    next swapped installed =>
      have fresh : swapped = ⟨some payload.key,some (hkdf payload.key)⟩ := by
        unfold installRawKey at installed
        rw [if_neg (by simp [payload.sized])] at installed
        split at installed
        · simp at installed
        · simp at installed
        · simpa [load,payload.sized] using installed.symm
      refine ⟨payload.key,payload.sized,fresh,
        .replacing payload oldDb raw state.queue [] rfl rfl size matched previous ?_⟩
      exact ⟨rfl,free,by simp [Free],by simp [Keyed],by simp [enqueue,waiting]⟩
    next => exact paired_rollBack hkdf size previous free waiting

theorem Paired.resume {state after : State κ} (paired : Paired hkdf good state)
    (fault : Option SwapFault) (resumed : Storage.resume hkdf fault state = some after) :
    Paired hkdf good after := by
  obtain ⟨raw,size,vault,phase⟩ := paired
  unfold Storage.resume at resumed
  split at resumed
  next reply job rest replied holder =>
    change proceed hkdf fault job reply (released state rest) = some after at resumed
    have loaded : (released state rest).vault.aes = some (hkdf raw) := by
      change state.vault.aes = some (hkdf raw)
      rw [vault]
    -- A job that is not the restore's leaves its phase alone.
    have pass (free : ¬ OfRestore job) (phase : Phase hkdf good raw (released state rest)) :
        Paired hkdf good after := by
      have paired : Paired hkdf good (released state rest) := ⟨raw,size,vault,phase⟩
      exact paired.grow hkdf loaded
        (grown_proceed hkdf (hkdf raw) fault job reply (released state rest) after free resumed)
    cases phase with
    | quiet outside settled free =>
      rw [holder] at free
      exact pass (free job (by simp)) (.quiet outside (settled.release holder) free.tail)
    | snapshotting payload front back inside settled matched split freeBefore freeAfter =>
      rw [holder] at split
      cases front with
      | nil =>
        obtain ⟨rfl,rfl⟩ := List.cons.inj split
        have waiting : (released state rest).restore = .snapshotting payload := inside
        rcases resumeRestore_snapshotting hkdf waiting resumed with ⟨oldDb,copied,rfl⟩ | ⟨_,rfl⟩
        · subst copied
          exact paired_swap hkdf fault size vault (settled.release holder) freeAfter rfl matched
            (settled.copied oldDb replied)
        · have rested := settled.release holder
          exact ⟨raw,size,vault,.quiet (.inl rfl)
            ⟨rested.connected,rested.keyed,rested.file,rested.copied⟩ freeAfter⟩
      | cons next front =>
        obtain ⟨rfl,rfl⟩ := List.cons.inj split
        exact pass (freeBefore job (by simp)) (.snapshotting payload front back inside
          (settled.release holder) matched rfl freeBefore.tail freeAfter)
    | replacing payload oldDb oldKey front back inside installed sized matched previous pending =>
      cases front with
      | nil =>
        have queue := pending.queue
        rw [holder] at queue
        obtain ⟨rfl,rfl⟩ := List.cons.inj queue
        have waiting : (released state rest).restore = .replacing payload oldDb oldKey := inside
        rcases resumeRestore_replacing hkdf waiting resumed with ⟨done,rfl⟩ | ⟨_,rfl⟩
        · subst done
          obtain ⟨placed,connected⟩ := pending.served rfl replied
          refine ⟨raw,size,vault,.quiet (.inl rfl) ⟨connected,pending.keyed,?_,by simp [released]⟩
            pending.freeAfter⟩
          change good (hkdf raw) state.file
          rw [placed,installed]
          exact matched
        · exact paired_rollBack hkdf sized previous pending.freeAfter rfl
      | cons next front =>
        obtain ⟨free,rest⟩ := pending.release holder
        exact pass free
          (.replacing payload oldDb oldKey front back inside installed sized matched previous rest)
    | rollingBack oldDb front back inside previous pending succeeds =>
      cases front with
      | nil =>
        have queue := pending.queue
        rw [holder] at queue
        obtain ⟨rfl,rfl⟩ := List.cons.inj queue
        have waiting : (released state rest).restore = .rollingBack oldDb := inside
        obtain ⟨⟨succeeded,done⟩,rfl⟩ := resumeRestore_rollingBack hkdf waiting resumed
        subst done
        cases succeeded with
        | false => exact absurd replied (succeeds rfl)
        | true =>
          obtain ⟨placed,connected⟩ := pending.served rfl replied
          refine ⟨raw,size,vault,.quiet (.inl rfl) ⟨connected,pending.keyed,?_,by simp [released]⟩
            pending.freeAfter⟩
          change good (hkdf raw) state.file
          rw [placed]
          exact previous
      | cons next front =>
        obtain ⟨free,rest⟩ := pending.release holder
        exact pass free (.rollingBack oldDb front back inside previous rest (by simp [released]))
  next => contradiction

variable (good) in
/-- A backup that is opened holds a matching pair, and a rollback does not fail. -/
def fair (state : State κ) (action : Action) : Prop :=
  match action with
  | .opened (some payload) => good (hkdf payload.key) payload.db
  | .serve fault => rollbackSucceeds state fault
  | _ => True

include writes statements in
theorem Paired.step {before after : State κ} {action : Action} (paired : Paired hkdf good before)
    (met : fair hkdf good before action) (taken : Storage.step aead hkdf before action = some after) :
    Paired hkdf good after := by
  obtain ⟨raw,size,vault,phase⟩ := id paired
  have loaded : before.vault.aes = some (hkdf raw) := by rw [vault]
  cases action with
  | call write =>
    cases Option.some.inj taken
    exact paired.grow hkdf loaded (grown_call (hkdf raw) write before loaded)
  | execute other =>
    cases Option.some.inj taken
    exact paired.grow hkdf loaded
      (grown_enqueue (hkdf raw) (.statement other) before (by simp [OfRestore]) (by simp))
  | startRestore =>
    simp only [Storage.step] at taken
    split at taken
    next idle =>
      cases Option.some.inj taken
      obtain ⟨settled,free⟩ := phase.of_quiet hkdf idle
      exact ⟨raw,size,vault,.quiet (.inr rfl)
        ⟨settled.connected,settled.keyed,settled.file,settled.copied⟩ free⟩
    next => contradiction
  | opened payload =>
    have inside : before.restore = .opening := by
      cases payload <;> simp only [Storage.step] at taken <;> split at taken <;> trivial
    obtain ⟨settled,free⟩ := phase.of_opening hkdf inside
    cases payload with
    | none =>
      simp only [Storage.step,inside,Option.some.injEq] at taken
      subst taken
      exact ⟨raw,size,vault,.quiet (.inl rfl)
        ⟨settled.connected,settled.keyed,settled.file,settled.copied⟩ free⟩
    | some payload =>
      simp only [Storage.step,inside,Option.some.injEq] at taken
      subst taken
      refine ⟨raw,size,vault,.snapshotting payload before.queue [] rfl
        ⟨settled.connected,?_,settled.file,settled.copied⟩ met rfl free (by simp [Free])⟩
      exact settled.keyed.append (by simp [Keyed])
  | startBackup =>
    simp only [Storage.step] at taken
    split at taken
    next =>
      cases Option.some.inj taken
      exact paired.grow hkdf loaded ((grown_backup _ before _ before.backups).trans
        (grown_enqueue (hkdf raw) (.snapshot .backup) _ (by simp [OfRestore]) (by simp)))
    next => contradiction
  | serve fault =>
    obtain ⟨served,same⟩ := phase.serve aead hkdf writes statements fault met taken
    exact ⟨raw,size,same.trans vault,served⟩
  | resume fault => exact paired.resume hkdf fault taken

include writes statements in
theorem Paired.reach {first last : State κ} (paired : Paired hkdf good first)
    (reached : Reach (Storage.step aead hkdf) (fair hkdf good) first last) : Paired hkdf good last :=
  reached.invariant (Paired hkdf good) paired
    (fun _ _ _ before met taken => before.step aead hkdf writes statements met taken)

end

structure Started (raw : Library.Sealed.Bytes) (state : State κ) : Prop where
  size : raw.length = 32
  vault : state.vault = ⟨some raw,some (hkdf raw)⟩
  connected : state.connected = true
  queue : state.queue = []
  reply : state.reply = none
  restore : state.restore = .idle

theorem Started.paired {good : κ → Tables → Prop} {raw : Library.Sealed.Bytes} {state : State κ}
    (started : Started hkdf raw state) (file : good (hkdf raw) state.file) :
    Paired hkdf good state := by
  refine ⟨raw,started.size,started.vault,.quiet (.inl ?_) ⟨started.connected,?_,file,?_⟩ ?_⟩
  · rw [started.restore]
    rfl
  · simp [started.queue,Keyed]
  · simp [started.reply]
  · simp [started.queue,Free]

def boot (raw : Library.Sealed.Bytes) (file : Tables) : State κ :=
  ⟨file,true,⟨some raw,some (hkdf raw)⟩,[],none,.idle,.idle,[]⟩

theorem boot_started (raw : Library.Sealed.Bytes) (file : Tables) (size : raw.length = 32) :
    Started hkdf raw (boot hkdf raw file) := ⟨size,rfl,rfl,rfl,rfl,rfl⟩

/-- Whenever no restore is in progress, the loaded key is the one of the key file
and every stored secret decrypts under it. -/
theorem quiet_vault_opens_database {raw : Library.Sealed.Bytes} {start state : State κ}
    (started : Started hkdf raw start) (readable : Readable aead (hkdf raw) start.file)
    (reached : Reach (step aead hkdf) (fair hkdf (Readable aead)) start state)
    (idle : state.restore.quiet = true) :
    ∃ key, state.vault.keyFile = some key ∧ state.vault.aes = some (hkdf key) ∧
      Readable aead (hkdf key) state.file := by
  have paired : Paired hkdf (Readable aead) state :=
    (started.paired hkdf readable).reach aead hkdf (effect_readable aead)
      (statement_readable aead) reached
  obtain ⟨key,_,vault,phase⟩ := paired
  exact ⟨key,by rw [vault],by rw [vault],(phase.of_quiet hkdf idle).1.file⟩

def plainAead : Library.Sealed.Aead Library.Sealed.Bytes := Library.Sealed.transparent id

def firstKey : Library.Sealed.Bytes := List.replicate 32 1

def secondKey : Library.Sealed.Bytes := List.replicate 32 2

theorem length_secondKey : secondKey.length = 32 := rfl

def zeroNonce : Library.Sealed.Nonce := ⟨List.replicate 12 0,Library.Sealed.length_zeros⟩

def sampleHost : HostArguments where
  owner := 7
  label := "web"
  ip := "203.0.113.5"
  port := 22
  username := "root"
  authType := "password"
  secret := "hunter2"
  passphrase := none
  groupId := none
  now := 0
  secretNonce := zeroNonce
  passphraseNonce := zeroNonce

/-- A host is added, a restore fails in `replace_file` and rolls back, the next
one succeeds, and a host is added under the new key. -/
def restoring : List Action :=
  [.call (.addHost sampleHost),.serve none,.resume none,.startRestore,
    .opened (some ⟨empty,secondKey,length_secondKey⟩),.serve none,.resume none,.serve (some (.replace .write)),
    .resume none,.serve none,.resume none,.startRestore,.opened (some ⟨empty,secondKey,length_secondKey⟩),
    .serve none,.resume none,.call (.addHost sampleHost),.serve none,.resume none,.serve none,
    .resume none]

/-- A condition that a run can check and that implies `fair`. -/
def plain (state : State Library.Sealed.Bytes) (action : Action) : Bool :=
  match action with
  | .opened (some payload) => payload.db.hosts.entries.isEmpty
  | .serve (some _) => match state.restore with
    | .rollingBack _ => false
    | _ => true
  | _ => true

theorem plain_succeeds {state : State Library.Sealed.Bytes} {fault : Option ServeFault}
    (met : plain state (.serve fault) = true) : rollbackSucceeds state fault := by
  unfold rollbackSucceeds
  split
  next inside _ =>
    cases fault with
    | none => rfl
    | some fault => simp [plain,inside] at met
  next => trivial

theorem plain_fair (state : State Library.Sealed.Bytes) (action : Action)
    (met : plain state action = true) : fair id (Readable plainAead) state action := by
  unfold fair
  split
  next payload =>
    intro id row found
    have none : payload.db.hosts.entries = [] := List.isEmpty_iff.mp met
    simp [AList.lookup,none] at found
  · exact plain_succeeds met
  · trivial

theorem quiet_vault_opens_database_after_restores :
    ∃ state, restoring.foldlM (guarded (step plainAead id) (plain · ·)) (boot id firstKey empty) =
        some state ∧ ∃ key, state.vault.keyFile = some key ∧ state.vault.aes = some key ∧
      Readable plainAead key state.file := by
  refine ⟨_,rfl,?_⟩
  exact quiet_vault_opens_database plainAead id (boot_started id firstKey empty rfl)
    (by intro id row found; simp [boot,empty] at found)
    ((reach_of_run restoring rfl).weaken plain_fair) rfl

end AtronixX.VaultPairing
