import AtronixX.VaultPairing

/-! What `build_backup` packs. It copies the database, counts users and hosts and
reads the key in steps of their own. Beside the tasks runs which key the database
file was put in place with; a write encrypted under another key loses it. -/
namespace AtronixX.BackupConsistency
open Library.Transition Crypto Database Storage VaultPairing

variable {κ : Type} (aead : Library.Sealed.Aead κ)
  (hkdf : Library.Sealed.Bytes → κ)

/-- A payload whose secrets decrypt under its key and whose numbers are its row counts. -/
structure SelfConsistent (payload : BackupPayload) : Prop where
  readable : Readable aead (hkdf payload.key) payload.db
  users : payload.users = countUsers payload.db
  hosts : payload.hosts = countHosts payload.db

structure Traced (κ : Type) where
  base : State κ
  /-- The key file when the database file was put in place, as long as every
  write since was encrypted under that key. -/
  owner : Option Library.Sealed.Bytes
  /-- The same for the database that `build_backup` copied last. -/
  copied : Option Library.Sealed.Bytes

def trace (base : State κ) : Traced κ := ⟨base,base.vault.keyFile,none⟩

def track [DecidableEq κ] (fault : Option ServeFault) (job : Job κ) (traced : Traced κ) : Traced κ :=
  match job with
  | .write _ key =>
    if fault.isNone then {traced with owner := traced.owner.filter (fun raw => hkdf raw = key)}
    else traced
  | .replace data =>
    match (replaceFile fault data traced.base).reply with
    | some (.replaced true) => {traced with owner := traced.base.vault.keyFile}
    | _ => traced
  | .snapshot .backup => {traced with copied := traced.owner}
  | _ => traced

def step [DecidableEq κ] (traced : Traced κ) (action : Action) : Option (Traced κ) :=
  (Storage.step aead hkdf traced.base action).map (fun after =>
    match action, traced.base.queue with
    | .serve fault, job :: _ => {track hkdf fault job traced with base := after}
    | _, _ => {traced with base := after})

/-- The counts find as many rows as the copy has, and the key file that is read is
the one the copied database was put in place with. -/
def steady (traced : Traced κ) (action : Action) : Prop :=
  fair hkdf (Readable aead) traced.base action ∧
    match action, traced.base.backup, traced.base.queue, traced.base.reply with
    | .serve none, .countingUsers snap, .countUsers :: _, _ =>
      countUsers traced.base.file = countUsers snap
    | .serve none, .countingHosts snap _, .countHosts :: _, _ =>
      countHosts traced.base.file = countHosts snap
    | .resume _, .countingHosts _ _, .countHosts :: _, some (.counted (some _)) =>
      traced.base.vault.keyFile = traced.copied
    | _, _, _, _ => True

def awaited (backup : Backup) : List (Job κ) :=
  match backup with
  | .idle => []
  | .snapshotting => [.snapshot .backup]
  | .countingUsers _ => [.countUsers]
  | .countingHosts _ _ => [.countHosts]

def ofBackup : Job κ → Bool
  | .snapshot .backup => true
  | .countUsers => true
  | .countHosts => true
  | _ => false

/-- The database that has been copied is readable under the key traced for it. -/
def Copied (traced : Traced κ) (snap : Tables) : Prop :=
  ∀ raw, traced.copied = some raw → Readable aead (hkdf raw) snap

def Phases (traced : Traced κ) : Prop :=
  match traced.base.backup with
  | .idle => True
  | .snapshotting => ∀ rest snap, traced.base.queue = .snapshot .backup :: rest →
      traced.base.reply = some (.copied (some snap)) → Copied aead hkdf traced snap
  | .countingUsers snap => Copied aead hkdf traced snap ∧
      ∀ rest users, traced.base.queue = .countUsers :: rest →
        traced.base.reply = some (.counted (some users)) → users = countUsers snap
  | .countingHosts snap users => Copied aead hkdf traced snap ∧ users = countUsers snap ∧
      ∀ rest hosts, traced.base.queue = .countHosts :: rest →
        traced.base.reply = some (.counted (some hosts)) → hosts = countHosts snap

structure Consistent (traced : Traced κ) : Prop where
  paired : Paired hkdf (Readable aead) traced.base
  held : Held traced.base
  waiting : traced.base.queue.filter ofBackup = awaited traced.base.backup
  owned : traced.base.connected = true → ∀ raw, traced.owner = some raw →
    Readable aead (hkdf raw) traced.base.file
  phases : Phases aead hkdf traced
  packed : ∀ payload ∈ traced.base.backups, SelfConsistent aead hkdf payload

variable {aead hkdf}

theorem Phases.frame {traced : Traced κ} {after : State κ} (phases : Phases aead hkdf traced)
    (backup : after.backup = traced.base.backup)
    (heads : ∀ job rest, after.reply ≠ none → after.queue = job :: rest → ofBackup job = true →
      after.reply = traced.base.reply ∧ ∃ rest, traced.base.queue = job :: rest) :
    Phases aead hkdf {traced with base := after} := by
  unfold Phases at phases ⊢
  rw [backup]
  split at phases
  · trivial
  · intro rest snap (queue : after.queue = _) (reply : after.reply = _)
    obtain ⟨same,tail,front⟩ := heads _ rest (by simp [reply]) queue rfl
    exact phases tail snap front (same ▸ reply)
  · refine ⟨phases.1,?_⟩
    intro rest users (queue : after.queue = _) (reply : after.reply = _)
    obtain ⟨same,tail,front⟩ := heads _ rest (by simp [reply]) queue rfl
    exact phases.2 tail users front (same ▸ reply)
  · refine ⟨phases.1,phases.2.1,?_⟩
    intro rest hosts (queue : after.queue = _) (reply : after.reply = _)
    obtain ⟨same,tail,front⟩ := heads _ rest (by simp [reply]) queue rfl
    exact phases.2.2 tail hosts front (same ▸ reply)

structure Idle (before after : State κ) : Prop where
  file : after.file = before.file
  connected : after.connected = before.connected
  backup : after.backup = before.backup
  backups : after.backups = before.backups
  reply : after.reply = before.reply
  queue : ∃ extra, after.queue = before.queue ++ extra ∧ extra.filter ofBackup = []

theorem Consistent.idle {traced : Traced κ} {after : State κ} (inv : Consistent aead hkdf traced)
    (paired : Paired hkdf (Readable aead) after) (idle : Idle traced.base after) :
    Consistent aead hkdf {traced with base := after} := by
  obtain ⟨extra,queue,quiet⟩ := idle.queue
  refine ⟨paired,?_,?_,?_,?_,?_⟩
  · rcases inv.held with waiting | busy
    · exact .inl (idle.reply.trans waiting)
    · exact .inr (by simp [queue,busy])
  · simp only [queue,List.filter_append,quiet,List.append_nil,idle.backup,inv.waiting]
  · simpa only [idle.file,idle.connected] using inv.owned
  · apply inv.phases.frame idle.backup
    intro job rest replied front _
    rcases inv.held with waiting | busy
    · exact absurd (idle.reply.trans waiting) replied
    · obtain ⟨head,tail,split⟩ := List.exists_cons_of_ne_nil busy
      rw [queue,split] at front
      obtain ⟨rfl,_⟩ := List.cons.inj front
      exact ⟨idle.reply,tail,split⟩
  · simpa only [idle.backups] using inv.packed

theorem idle_enqueue (state : State κ) (restore : Restore) (job : Job κ)
    (other : ofBackup job = false) : Idle state (enqueue job {state with restore := restore}) :=
  ⟨rfl,rfl,rfl,rfl,rfl,[job],rfl,by simp [other]⟩

theorem idle_restore (state : State κ) (restore : Restore) :
    Idle state {state with restore := restore} := ⟨rfl,rfl,rfl,rfl,rfl,[],by simp,rfl⟩

theorem idle_call (write : Write) (state : State κ) : Idle state (call write state) := by
  unfold call
  split
  · exact idle_restore state state.restore
  · exact idle_restore state state.restore
  · exact idle_enqueue state state.restore _ rfl

variable (hkdf) in
theorem idle_rollBack (oldDb : Tables) (oldKey : Library.Sealed.Bytes) (state : State κ) :
    Idle state (rollBack hkdf oldDb oldKey state) := by
  unfold rollBack
  split
  · exact ⟨rfl,rfl,rfl,rfl,rfl,[.replace oldDb],rfl,rfl⟩
  · exact ⟨rfl,rfl,rfl,rfl,rfl,[],by simp,rfl⟩

theorem idle_swap (fault : Option SwapFault) (payload : Payload) (oldDb : Tables)
    (state : State κ) : Idle state (swap hkdf fault payload oldDb state) := by
  unfold swap
  split
  · exact idle_restore state .raised
  · dsimp only
    split
    · exact ⟨rfl,rfl,rfl,rfl,rfl,[.replace payload.db],rfl,rfl⟩
    · obtain ⟨file,connected,backup,backups,reply,queue⟩ := idle_rollBack hkdf oldDb _ _
      exact ⟨file,connected,backup,backups,reply,queue⟩

theorem idle_resumeRestore {fault : Option SwapFault} {reply : Reply} {before after : State κ}
    (resumed : resumeRestore hkdf fault reply before = some after) : Idle before after := by
  unfold resumeRestore at resumed
  split at resumed
  all_goals first | contradiction | cases Option.some.inj resumed
  · exact idle_swap fault _ _ before
  · exact idle_restore before .raised
  · exact idle_restore before .returned
  · exact idle_rollBack hkdf _ _ before
  · exact idle_restore before .raised

private theorem runStatement_kept (fault : Option ServeFault) (change : Tables → Option Tables)
    (state : State κ) : (runStatement fault change state).backup = state.backup ∧
      (runStatement fault change state).backups = state.backups := by
  unfold runStatement
  split <;> exact ⟨rfl,rfl⟩

private theorem replaceFile_kept (fault : Option ServeFault) (data : Tables) (state : State κ) :
    (replaceFile fault data state).backup = state.backup ∧
      (replaceFile fault data state).backups = state.backups := by
  unfold replaceFile
  split <;> try split
  all_goals exact ⟨rfl,rfl⟩

variable (aead) in
private theorem thread_kept (fault : Option ServeFault) (job : Job κ) (state : State κ) :
    (thread aead fault job state).backup = state.backup ∧
      (thread aead fault job state).backups = state.backups := by
  cases job with
  | write write key => exact runStatement_kept fault _ state
  | statement other => exact runStatement_kept fault _ state
  | replace data => exact replaceFile_kept fault data state
  | snapshot => exact ⟨rfl,rfl⟩
  | countUsers => exact ⟨rfl,rfl⟩
  | countHosts => exact ⟨rfl,rfl⟩

theorem Consistent.awaits {traced : Traced κ} {job : Job κ} {rest : List (Job κ)}
    (inv : Consistent aead hkdf traced) (head : traced.base.queue = job :: rest)
    (own : ofBackup job = true) :
    awaited traced.base.backup = [job] ∧ rest.filter ofBackup = [] := by
  have waiting := inv.waiting
  rw [head,List.filter_cons_of_pos own] at waiting
  generalize traced.base.backup = backup at waiting ⊢
  cases backup with
  | idle => simp [awaited] at waiting
  | _ =>
    obtain ⟨rfl,quiet⟩ := List.cons.inj waiting
    exact ⟨rfl,quiet⟩

private theorem runStatement_owned {key : κ} {state : State κ} (fault : Option ServeFault)
    (change : Tables → Option Tables) (file : Readable aead key state.file)
    (kept : fault = none → ∀ changed, change state.file = some changed →
      Readable aead key changed) : Readable aead key (runStatement fault change state).file := by
  unfold runStatement
  split
  next changed ran =>
    by_cases running : runs fault state = true
    · have clean : fault = none := by simpa [runs] using (Bool.and_eq_true_iff.mp running).2
      exact kept clean changed (by simpa [running] using ran)
    · simp [running] at ran
  next => exact file

section
variable [DecidableEq κ]

private theorem track_copied (fault : Option ServeFault) (job : Job κ) (traced : Traced κ)
    (other : job ≠ .snapshot .backup) : (track hkdf fault job traced).copied = traced.copied := by
  unfold track
  split
  · split <;> rfl
  · split <;> rfl
  · exact absurd rfl other
  · rfl

private theorem Consistent.serve_owned {traced : Traced κ} {job : Job κ} {rest : List (Job κ)}
    (inv : Consistent aead hkdf traced) (fault : Option ServeFault)
    (head : traced.base.queue = job :: rest)
    (connected : (thread aead fault job traced.base).connected = true)
    (raw : Library.Sealed.Bytes) (owner : (track hkdf fault job traced).owner = some raw) :
    Readable aead (hkdf raw) (thread aead fault job traced.base).file := by
  cases job with
  | write write key =>
    have opened : traced.base.connected = true :=
      ((runStatement_frame fault (effect aead key write) traced.base).2.2.2).symm.trans connected
    cases fault with
    | none =>
      obtain ⟨before,same⟩ : traced.owner = some raw ∧ hkdf raw = key := by
        simpa [track,Option.filter_eq_some_iff] using owner
      subst same
      have file := inv.owned opened raw before
      exact runStatement_owned none _ file
        (fun _ changed stored => effect_readable aead (hkdf raw) write _ changed file stored)
    | some fault =>
      exact runStatement_owned (some fault) _ (inv.owned opened raw owner) (by simp)
  | statement other =>
    have opened : traced.base.connected = true :=
      ((runStatement_frame fault other.change traced.base).2.2.2).symm.trans connected
    have file := inv.owned opened raw owner
    exact runStatement_owned fault _ file
      (fun _ changed stored => statement_readable aead (hkdf raw) other _ changed file stored)
  | replace data =>
    obtain ⟨key,_,vault,phase⟩ := inv.paired
    by_cases placed : (replaceFile fault data traced.base).reply = some (.replaced true)
    · have same : key = raw := by simpa [track,placed,vault] using owner
      rw [← same]
      have file : (thread aead fault (.replace data) traced.base).file = data :=
        (replaceFile_served fault data traced.base placed).1
      rw [file]
      exact phase.of_replace hkdf head
    · have before : traced.owner = some raw := by simpa [track,placed] using owner
      change (replaceFile fault data traced.base).connected = true at connected
      change Readable aead (hkdf raw) (replaceFile fault data traced.base).file
      rcases fault with _ | _ | _ | _ | _
      · simp [replaceFile] at placed
      · simp [replaceFile] at placed
      · by_cases running : traced.base.connected = true
        · simpa [replaceFile,running] using inv.owned running raw before
        · simp [replaceFile,running] at placed
      · simp [replaceFile] at connected
      · simp [replaceFile] at connected
  | snapshot client =>
    cases client with
    | restore => exact inv.owned connected raw owner
    | backup => exact inv.owned connected raw owner
  | countUsers => exact inv.owned connected raw owner
  | countHosts => exact inv.owned connected raw owner

private theorem Consistent.serve_phases {traced : Traced κ} {job : Job κ} {rest : List (Job κ)}
    {fault : Option ServeFault} (inv : Consistent aead hkdf traced)
    (met : steady aead hkdf traced (.serve fault)) (head : traced.base.queue = job :: rest) :
    Phases aead hkdf {track hkdf fault job traced with
      base := thread aead fault job traced.base} := by
  obtain ⟨queue,_,_⟩ := thread_frame aead fault job traced.base
  obtain ⟨backup,_⟩ := thread_kept aead fault job traced.base
  by_cases own : ofBackup job = true
  · obtain ⟨waiting,_⟩ := inv.awaits head own
    have clean {α : Type} {query : Tables → α} {result : α}
        (read : reads fault query traced.base = some result) :
        fault = none ∧ traced.base.connected = true ∧ query traced.base.file = result := by
      unfold reads at read
      split at read
      next running =>
        obtain ⟨connected,fine⟩ := Bool.and_eq_true_iff.mp running
        exact ⟨Option.isNone_iff_eq_none.mp fine,connected,Option.some.inj read⟩
      next => contradiction
    have phases := inv.phases
    unfold Phases at phases ⊢
    simp only [backup,queue]
    split at phases
    next inside => simp [awaited,inside] at waiting
    next inside =>
      have same : Job.snapshot Client.backup = job := by simpa [awaited,inside] using waiting
      subst same
      intro tail snap _ replied
      have read : reads fault id traced.base = some snap := by simpa [thread] using replied
      obtain ⟨_,connected,copied⟩ := clean read
      intro raw owner
      exact copied ▸ inv.owned connected raw owner
    next snap inside =>
      have same : Job.countUsers = job := by simpa [awaited,inside] using waiting
      subst same
      refine ⟨phases.1,?_⟩
      intro tail users _ replied
      have read : reads fault countUsers traced.base = some users := by
        simpa [thread] using replied
      obtain ⟨rfl,_,counted⟩ := clean read
      have fresh : countUsers traced.base.file = countUsers snap := by
        simpa [steady,inside,head] using met.2
      exact counted.symm.trans fresh
    next snap users inside =>
      have same : Job.countHosts = job := by simpa [awaited,inside] using waiting
      subst same
      refine ⟨phases.1,phases.2.1,?_⟩
      intro tail hosts _ replied
      have read : reads fault countHosts traced.base = some hosts := by
        simpa [thread] using replied
      obtain ⟨rfl,_,counted⟩ := clean read
      have fresh : countHosts traced.base.file = countHosts snap := by
        simpa [steady,inside,head] using met.2
      exact counted.symm.trans fresh
  · have kept : (track hkdf fault job traced).copied = traced.copied :=
      track_copied fault job traced (by rintro rfl; exact own rfl)
    have framed : Phases aead hkdf {traced with base := thread aead fault job traced.base} := by
      apply inv.phases.frame backup
      intro other tail _ front mine
      rw [queue,head] at front
      obtain ⟨rfl,_⟩ := List.cons.inj front
      exact absurd mine own
    unfold Phases Copied at framed ⊢
    simpa only [kept] using framed

private theorem Consistent.serve {traced : Traced κ} {job : Job κ} {rest : List (Job κ)}
    {fault : Option ServeFault} (inv : Consistent aead hkdf traced)
    (met : steady aead hkdf traced (.serve fault)) (waits : traced.base.reply = none)
    (head : traced.base.queue = job :: rest) :
    Consistent aead hkdf {track hkdf fault job traced with
      base := thread aead fault job traced.base} := by
  obtain ⟨queue,_,_⟩ := thread_frame aead fault job traced.base
  obtain ⟨backup,backups⟩ := thread_kept aead fault job traced.base
  have served : Storage.step aead hkdf traced.base (.serve fault) =
      some (thread aead fault job traced.base) := by
    exact (serve_eq_some aead).mpr ⟨job,rest,waits,head,rfl⟩
  refine ⟨?_,.inr (by simp [queue,head]),?_,?_,inv.serve_phases met head,?_⟩
  · exact inv.paired.step aead hkdf (effect_readable aead) (statement_readable aead) met.1 served
  · simp only [queue,backup,inv.waiting]
  · exact fun connected raw owner => inv.serve_owned fault head connected raw owner
  · simpa only [backups] using inv.packed

end

private theorem Consistent.resumeBackup {traced : Traced κ} {reply : Reply} {job : Job κ}
    {rest : List (Job κ)} {after : State κ} (inv : Consistent aead hkdf traced)
    (met : ∀ hosts, reply = .counted (some hosts) → job = .countHosts →
      traced.base.vault.keyFile = traced.copied)
    (paired : Paired hkdf (Readable aead) after) (replied : traced.base.reply = some reply)
    (head : traced.base.queue = job :: rest) (own : ofBackup job = true)
    (resumed : resumeBackup reply (released traced.base rest) = some after) :
    Consistent aead hkdf {traced with base := after} := by
  obtain ⟨waiting,quiet⟩ := inv.awaits head own
  have phases := inv.phases
  unfold Phases at phases
  have count (next : Job κ) (backup : Backup) (same : awaited backup = [next])
      (mine : ofBackup next = true) :
      (enqueue next {released traced.base rest with backup := backup}).queue.filter ofBackup =
        awaited backup := by
    simp [enqueue,released,quiet,same,mine]
  unfold Storage.resumeBackup at resumed
  split at resumed
  all_goals first | contradiction | cases Option.some.inj resumed
  next snap inside =>
    have inside : traced.base.backup = .snapshotting := inside
    have same : Job.snapshot Client.backup = job := by simpa [awaited,inside] using waiting
    subst same
    rw [inside] at phases
    refine ⟨paired,.inl rfl,count .countUsers _ rfl rfl,inv.owned,?_,inv.packed⟩
    exact ⟨phases rest snap head replied,by simp [enqueue,released]⟩
  next snap users inside =>
    have inside : traced.base.backup = .countingUsers snap := inside
    have same : Job.countUsers = job := by simpa [awaited,inside] using waiting
    subst same
    rw [inside] at phases
    refine ⟨paired,.inl rfl,count .countHosts _ rfl rfl,inv.owned,?_,inv.packed⟩
    exact ⟨phases.1,phases.2 rest users head replied,by simp [enqueue,released]⟩
  next snap users hosts inside =>
    have inside : traced.base.backup = .countingHosts snap users := inside
    have same : Job.countHosts = job := by simpa [awaited,inside] using waiting
    subst same
    rw [inside] at phases
    obtain ⟨raw,_,vault,_⟩ := inv.paired
    have owner : traced.copied = some raw := by rw [← met hosts rfl rfl,vault]
    have packed : pack snap users hosts (released traced.base rest) =
        {released traced.base rest with
          backup := .idle, backups := traced.base.backups ++ [⟨snap,raw,users,hosts⟩]} := by
      simp [pack,rawKey,released,vault]
    rw [packed] at paired ⊢
    refine ⟨paired,.inl rfl,quiet,inv.owned,trivial,?_⟩
    intro payload member
    rcases List.mem_append.mp member with old | fresh
    · exact inv.packed payload old
    · cases List.mem_singleton.mp fresh
      exact ⟨phases.1 raw owner,phases.2.1,phases.2.2 rest hosts head replied⟩
  all_goals exact ⟨paired,.inl rfl,quiet,inv.owned,trivial,inv.packed⟩

private theorem Consistent.resume {traced : Traced κ} {fault : Option SwapFault}
    {after : State κ} (inv : Consistent aead hkdf traced)
    (met : steady aead hkdf traced (.resume fault))
    (resumed : resume hkdf fault traced.base = some after) :
    Consistent aead hkdf {traced with base := after} := by
  have paired := inv.paired.resume hkdf fault resumed
  have waiting := resume_reply hkdf resumed
  unfold Storage.resume at resumed
  split at resumed
  next reply job rest replied head =>
    change proceed hkdf fault job reply (released traced.base rest) = some after at resumed
    by_cases own : ofBackup job = true
    · refine inv.resumeBackup ?_ paired replied head own ?_
      · rintro hosts rfl rfl
        obtain ⟨expected,_⟩ := inv.awaits head own
        cases inside : traced.base.backup with
        | countingHosts snap users => simpa [steady,inside,head,replied] using met.2
        | _ => simp [awaited,inside] at expected
      · cases job with
        | snapshot client =>
          cases client with
          | restore => contradiction
          | backup => exact resumed
        | countUsers => exact resumed
        | countHosts => exact resumed
        | _ => contradiction
    · -- No job of the backup left the queue.
      have idle : Idle (released traced.base rest) after := by
        cases job with
        | write => exact Option.some.inj resumed ▸ idle_restore _ _
        | statement => exact Option.some.inj resumed ▸ idle_restore _ _
        | snapshot client =>
          cases client with
          | restore => exact idle_resumeRestore resumed
          | backup => exact absurd rfl own
        | replace => exact idle_resumeRestore resumed
        | countUsers => exact absurd rfl own
        | countHosts => exact absurd rfl own
      obtain ⟨extra,queue,quiet⟩ := idle.queue
      have before := inv.waiting
      rw [head,List.filter_cons_of_neg own] at before
      refine ⟨paired,.inl waiting,?_,?_,?_,?_⟩
      · rw [queue,List.filter_append,quiet,List.append_nil,idle.backup]
        exact before
      · rw [idle.file,idle.connected]
        exact inv.owned
      · exact inv.phases.frame idle.backup (fun _ _ busy => absurd waiting busy)
      · rw [idle.backups]
        exact inv.packed
  next => contradiction

variable [DecidableEq κ]

theorem Consistent.step {before after : Traced κ} {action : Action}
    (inv : Consistent aead hkdf before) (met : steady aead hkdf before action)
    (taken : step aead hkdf before action = some after) : Consistent aead hkdf after := by
  obtain ⟨base,ran,same⟩ := Option.map_eq_some_iff.mp taken
  have paired := inv.paired.step aead hkdf (effect_readable aead) (statement_readable aead) met.1 ran
  cases action with
  | call write =>
    subst same
    cases Option.some.inj ran
    exact inv.idle paired (idle_call write before.base)
  | execute other =>
    subst same
    cases Option.some.inj ran
    exact inv.idle paired (idle_enqueue before.base before.base.restore _ rfl)
  | startRestore =>
    subst same
    simp only [Storage.step] at ran
    split at ran
    next =>
      cases Option.some.inj ran
      exact inv.idle paired (idle_restore before.base .opening)
    next => contradiction
  | opened payload =>
    subst same
    cases payload with
    | none =>
      simp only [Storage.step] at ran
      split at ran
      next =>
        cases Option.some.inj ran
        exact inv.idle paired (idle_restore before.base .raised)
      next => contradiction
    | some payload =>
      simp only [Storage.step] at ran
      split at ran
      next =>
        cases Option.some.inj ran
        exact inv.idle paired (idle_enqueue before.base (.snapshotting payload) _ rfl)
      next => contradiction
  | startBackup =>
    subst same
    simp only [Storage.step] at ran
    split at ran
    next inside =>
      cases Option.some.inj ran
      have none : before.base.queue.filter ofBackup = [] := by
        rw [inv.waiting,inside]
        rfl
      refine ⟨paired,.inr (by simp [enqueue]),?_,inv.owned,?_,inv.packed⟩
      · simp [enqueue,none,awaited,ofBackup]
      -- A reply that waits belongs to a job in front of the copy.
      · intro rest snap queue replied
        rcases inv.held with waiting | busy
        · exact absurd (waiting.symm.trans replied) (by simp)
        · obtain ⟨job,tail,front⟩ := List.exists_cons_of_ne_nil busy
          change before.base.queue ++ [Job.snapshot Client.backup] = _ at queue
          rw [front] at queue none
          obtain ⟨rfl,_⟩ := List.cons.inj queue
          simp [ofBackup] at none
    next => contradiction
  | serve fault =>
    obtain ⟨job,rest,waiting,head,rfl⟩ := (serve_eq_some aead).mp ran
    simp only [head] at same
    subst same
    exact inv.serve met waiting head
  | resume fault =>
    subst same
    exact inv.resume met ran

/-- Every payload is self-consistent, as long as no other task changes the number
of rows or the installed key between the copy and the reads that follow it. -/
theorem backups_self_consistent {raw : Library.Sealed.Bytes} {start : State κ}
    {traced : Traced κ} (started : Started hkdf raw start)
    (fresh : start.backup = .idle ∧ start.backups = [])
    (readable : Readable aead (hkdf raw) start.file)
    (reached : Reach (step aead hkdf) (steady aead hkdf) (trace start) traced) :
    ∀ payload ∈ traced.base.backups, SelfConsistent aead hkdf payload := by
  have initial : Consistent aead hkdf (trace start) := by
    refine ⟨started.paired hkdf readable,.inl started.reply,?_,?_,?_,?_⟩
    · simp [trace,started.queue,fresh.1,awaited]
    · intro _ owner same
      have loaded : raw = owner := by simpa [trace,started.vault] using same
      exact loaded ▸ readable
    · simp [Phases,trace,fresh.1]
    · simp [trace,fresh.2]
  exact (reached.invariant (Consistent aead hkdf) initial
    (fun _ _ _ before met taken => before.step met taken)).packed

def addingHost : List Action := [.call (.addHost sampleHost),.serve none,.resume none]

/-- The restore swaps the key before the backup reads it. -/
def torn : List Action :=
  addingHost ++ [.startBackup,.serve none,.resume none,.startRestore,
    .opened (some ⟨empty,secondKey,length_secondKey⟩),.serve none,.resume none,.serve none,.resume none,
    .serve none,.resume none]

/-- The restore fails and puts the key back before the backup reads it. -/
def mended : List Action :=
  addingHost ++ [.startBackup,.startRestore,.opened (some ⟨empty,secondKey,length_secondKey⟩),.serve none,
    .resume none,.serve none,.resume (some (.install .load)),.serve none,.resume none,.serve none,
    .resume none,.serve none,.resume none]

def level (traced : Traced Library.Sealed.Bytes) (action : Action) : Bool :=
  plain traced.base action &&
    match action, traced.base.backup with
    | .serve none, .countingUsers snap => countUsers traced.base.file = countUsers snap
    | .serve none, .countingHosts snap _ => countHosts traced.base.file = countHosts snap
    | .resume _, .countingHosts _ _ => traced.base.vault.keyFile = traced.copied
    | _, _ => true

private theorem level_steady (traced : Traced Library.Sealed.Bytes) (action : Action)
    (met : level traced action = true) : steady plainAead id traced action := by
  obtain ⟨plain,counts⟩ := Bool.and_eq_true_iff.mp met
  refine ⟨plain_fair traced.base action plain,?_⟩
  split
  next inside _ => simpa [inside] using counts
  next inside _ => simpa [inside] using counts
  next inside _ _ => simpa [inside] using counts
  next => trivial

theorem backups_self_consistent_mended :
    ∃ last, mended.foldlM (guarded (step plainAead id) (fun state action =>
      level state action = true)) (trace (boot id firstKey empty)) = some last ∧
      last.base.backups.length = 1 ∧
      ∀ payload ∈ last.base.backups, SelfConsistent plainAead id payload := by
  refine ⟨_,rfl,rfl,?_⟩
  exact backups_self_consistent (boot_started id firstKey empty rfl) ⟨rfl,rfl⟩
    (by intro id row found; simp [boot,empty] at found)
    ((reach_of_run mended rfl).weaken level_steady)

/-- A backup that overlaps a restore can hold the old database and the new key. -/
theorem torn_backup : ¬ ∀ traced : Traced Library.Sealed.Bytes,
    Reach (step plainAead id) (fun state => fair id (Readable plainAead) state.base)
      (trace (boot id firstKey empty)) traced →
    ∀ payload ∈ traced.base.backups, SelfConsistent plainAead id payload := by
  intro claimed
  obtain ⟨last,run,payload,member,row,found,sealed⟩ : ∃ last, torn.foldlM
      (guarded (step plainAead id) (fun state action => plain state.base action = true))
      (trace (boot id firstKey empty)) = some last ∧ ∃ payload, payload ∈ last.base.backups ∧
      ∃ row, payload.db.hosts.lookup 1 = some row ∧
      openToken plainAead payload.key row.secret (aad row.ownerId "secret") =
        .error (.cryptoError "decryption failed (wrong key or tampered data)") :=
    ⟨_,rfl,_,List.mem_singleton.mpr rfl,_,rfl,rfl⟩
  have fine (state : Traced Library.Sealed.Bytes) (action : Action)
      (met : plain state.base action = true) : fair id (Readable plainAead) state.base action :=
    plain_fair state.base action met
  have consistent := claimed last ((reach_of_run torn run).weaken fine) payload member
  obtain ⟨text,opens⟩ := (consistent.readable 1 row found).secret
  rw [id,sealed] at opens
  contradiction

end AtronixX.BackupConsistency
