import AtronixX.VaultPairing

/-! What a failed restore leaves behind. Beside the tasks runs the database as it
would be had `restore_backup` not been called, and the jobs served since the
snapshot was taken. The second `replace_file` puts the snapshot back, so these
jobs are undone with the restore. -/
namespace AtronixX.RestoreLoss
open Library.Transition Crypto Database Storage VaultPairing

variable {κ : Type} (aead : Library.Sealed.Aead κ) (hkdf : Library.Sealed.Bytes → κ)

/-- What a served job makes of the tables under a vault, when SQLite does not fail. -/
def committed (vault : Vault κ) (job : Job κ) (tables : Tables) : Tables :=
  match job, vault.aes with
  | .write write _, some key => (effect aead key write tables).getD tables
  | .statement other, _ => (other.change tables).getD tables
  | _, _ => tables

def replay (vault : Vault κ) (jobs : List (Job κ)) (tables : Tables) : Tables :=
  jobs.foldl (fun current job => committed aead vault job current) tables

@[simp] theorem replay_nil (vault : Vault κ) (tables : Tables) :
    replay aead vault [] tables = tables := rfl

@[simp] theorem replay_append (vault : Vault κ) (jobs : List (Job κ)) (job : Job κ)
    (tables : Tables) : replay aead vault (jobs ++ [job]) tables =
      committed aead vault job (replay aead vault jobs tables) := by
  simp [replay]

structure Watched (κ : Type) where
  base : State κ
  /-- The tables and the vault had the last `restore_backup` not been called. -/
  alone : Tables
  vault : Vault κ
  /-- The jobs served since its snapshot. -/
  window : List (Job κ)

def watch (base : State κ) : Watched κ := ⟨base,base.file,base.vault,[]⟩

def observe (fault : Option ServeFault) (job : Job κ) (watched : Watched κ) : Watched κ :=
  match fault, job with
  | some _, _ => watched
  | none, .snapshot .restore => {watched with window := []}
  | none, job =>
    {watched with
      alone := committed aead watched.vault job watched.alone
      window := watched.window ++ [job]}

def step (watched : Watched κ) (action : Action) : Option (Watched κ) :=
  (Storage.step aead hkdf watched.base action).map (fun after =>
    match action, watched.base.queue with
    | .startRestore, _ => {watch watched.base with base := after}
    | .serve fault, job :: _ => {observe aead fault job watched with base := after}
    | _, _ => {watched with base := after})

/-- The vault and the database content survive a `restore_backup` that raises. -/
def LosesNothing (watched : Watched κ) : Prop :=
  watched.base.restore = .raised →
    watched.base.vault = watched.vault ∧ watched.base.file = watched.alone

/-- When a rollback puts the snapshot back, what ran since leaves it as it is. -/
def lossless (watched : Watched κ) (action : Action) : Prop :=
  match action, watched.base.restore, watched.base.queue with
  | .serve fault, .rollingBack oldDb, .replace _ :: _ =>
    fault = none ∧ replay aead watched.vault watched.window oldDb = oldDb
  | _, _, _ => True

/-- The database and the vault are what they would be without the restore. -/
def Level (watched : Watched κ) : Prop :=
  watched.base.vault = watched.vault ∧ watched.base.file = watched.alone

def Kept (watched : Watched κ) : Prop :=
  match watched.base.restore with
  | .idle => True
  | .returned => True
  | .opening => Level watched
  | .raised => Level watched
  | .snapshotting _ => Level watched ∧ ∀ rest content,
      watched.base.queue = .snapshot .restore :: rest →
      watched.base.reply = some (.copied (some content)) →
      content = watched.base.file ∧ watched.window = []
  | .replacing _ oldDb oldKey => watched.vault = ⟨some oldKey,some (hkdf oldKey)⟩ ∧
      watched.alone = replay aead watched.vault watched.window oldDb
  | .rollingBack oldDb => watched.base.vault = watched.vault ∧
      watched.alone = replay aead watched.vault watched.window oldDb ∧
      ∀ data rest, watched.base.queue = .replace data :: rest →
      watched.base.reply = some (.replaced true) → watched.base.file = watched.alone

structure Lossless (watched : Watched κ) : Prop where
  paired : Paired hkdf (fun _ _ => True) watched.base
  held : Held watched.base
  kept : Kept aead hkdf watched

variable {aead hkdf}

theorem Kept.frame {watched : Watched κ} {after : State κ} (kept : Kept aead hkdf watched)
    (file : after.file = watched.base.file) (vault : after.vault = watched.base.vault)
    (restore : after.restore = watched.base.restore)
    (heads : ∀ job rest, after.reply ≠ none → after.queue = job :: rest →
      after.reply = watched.base.reply ∧ ∃ rest, watched.base.queue = job :: rest) :
    Kept aead hkdf {watched with base := after} := by
  unfold Kept at kept ⊢
  rw [restore]
  split at kept
  · trivial
  · trivial
  · exact ⟨vault.trans kept.1,file.trans kept.2⟩
  · exact ⟨vault.trans kept.1,file.trans kept.2⟩
  next =>
    refine ⟨⟨vault.trans kept.1.1,file.trans kept.1.2⟩,?_⟩
    intro rest content (queue : after.queue = _) (reply : after.reply = _)
    obtain ⟨same,tail,front⟩ := heads _ rest (by simp [reply]) queue
    obtain ⟨copied,fresh⟩ := kept.2 tail content front (same ▸ reply)
    exact ⟨copied.trans file.symm,fresh⟩
  · exact kept
  next =>
    refine ⟨vault.trans kept.1,kept.2.1,?_⟩
    intro data rest (queue : after.queue = _) (reply : after.reply = _)
    obtain ⟨same,tail,front⟩ := heads _ rest (by simp [reply]) queue
    exact file.trans (kept.2.2 data tail front (same ▸ reply))

theorem Lossless.grow {watched : Watched κ} {after : State κ} {key : κ}
    (inv : Lossless aead hkdf watched) (loaded : watched.base.vault.aes = some key)
    (grown : Grown key watched.base after) :
    Lossless aead hkdf {watched with base := after} := by
  obtain ⟨extra,queue,_⟩ := grown.queue
  have held : Held after := by
    rcases inv.held with waiting | busy
    · exact .inl (grown.reply.trans waiting)
    · exact .inr (by simp [queue,busy])
  refine ⟨inv.paired.grow hkdf loaded grown,held,
    inv.kept.frame grown.file grown.vault grown.restore ?_⟩
  intro job rest replied front
  rcases inv.held with waiting | busy
  · exact absurd (grown.reply.trans waiting) replied
  · obtain ⟨head,tail,split⟩ := List.exists_cons_of_ne_nil busy
    rw [queue,split] at front
    obtain ⟨rfl,_⟩ := List.cons.inj front
    exact ⟨grown.reply,tail,split⟩

private theorem observe_frame (fault : Option ServeFault) (job : Job κ) (watched : Watched κ) :
    (observe aead fault job watched).vault = watched.vault := by
  unfold observe
  split <;> rfl

private theorem observe_alone (fault : Option ServeFault) (job : Job κ) (watched : Watched κ) :
    (observe aead fault job watched).alone =
      if fault = none then committed aead watched.vault job watched.alone else watched.alone := by
  unfold observe
  split <;> simp [committed]

private theorem observe_replay (fault : Option ServeFault) (job : Job κ) (watched : Watched κ)
    (tables : Tables) (other : job ≠ .snapshot .restore)
    (same : watched.alone = replay aead watched.vault watched.window tables) :
    (observe aead fault job watched).alone =
      replay aead watched.vault (observe aead fault job watched).window tables := by
  unfold observe
  split
  · exact same
  · exact absurd rfl other
  · simp [← same]

variable (aead) in
/-- With the connection open and the key in place a served job does to the file
what it does to the comparison. -/
private theorem thread_committed (fault : Option ServeFault) (job : Job κ) (state : State κ)
    (connected : state.connected = true) (other : ∀ data, job ≠ .replace data)
    (keyed : ∀ write key, job = .write write key → state.vault.aes = some key) :
    (thread aead fault job state).file =
      if fault = none then committed aead state.vault job state.file else state.file := by
  have statement (change : Tables → Option Tables) :
      (runStatement fault change state).file =
        if fault = none then (change state.file).getD state.file else state.file := by
    cases fault with
    | none => cases changed : change state.file <;> simp [runStatement,runs,connected,changed]
    | some fault => simp [runStatement,runs]
  cases job with
  | write write key =>
    have loaded := keyed write key rfl
    simp [thread,committed,loaded,statement]
  | statement change => simp [thread,committed,statement]
  | replace data => exact absurd rfl (other data)
  | snapshot client => simp [thread,committed]
  | countUsers => simp [thread,committed]
  | countHosts => simp [thread,committed]

private theorem Level.serve {watched : Watched κ} (level : Level watched)
    (fault : Option ServeFault) (job : Job κ) (connected : watched.base.connected = true)
    (other : ∀ data, job ≠ .replace data)
    (keyed : ∀ write key, job = .write write key → watched.base.vault.aes = some key) :
    Level {observe aead fault job watched with base := thread aead fault job watched.base} := by
  obtain ⟨vault,file⟩ := level
  refine ⟨?_,?_⟩
  · exact ((thread_frame aead fault job watched.base).2.1.trans vault).trans
      (observe_frame fault job watched).symm
  · have served := thread_committed aead fault job watched.base connected other keyed
    simp only [served,observe_alone,vault,file]

private theorem Lossless.settled {watched : Watched κ} (inv : Lossless aead hkdf watched)
    (outside : watched.base.restore.quiet = true ∨ watched.base.restore = .opening ∨
      ∃ payload, watched.base.restore = .snapshotting payload) :
    watched.base.connected = true ∧ (∀ data, Job.replace data ∉ watched.base.queue) ∧
      ∀ write key, Job.write write key ∈ watched.base.queue → watched.base.vault.aes = some key := by
  obtain ⟨raw,_,vault,phase⟩ := inv.paired
  have keyed (settled : Settled (fun _ _ => True) (hkdf raw) watched.base) (write : Write)
      (key : κ) (member : Job.write write key ∈ watched.base.queue) :
      watched.base.vault.aes = some key := by
    rw [vault,settled.keyed write key member]
  cases phase with
  | quiet _ settled free =>
    exact ⟨settled.connected,fun data member => free _ member trivial,keyed settled⟩
  | snapshotting payload front back _ settled _ queue freeFront freeBack =>
    refine ⟨settled.connected,?_,keyed settled⟩
    intro data member
    rw [queue] at member
    rcases List.mem_append.mp member with inside | inside
    · exact freeFront _ inside trivial
    · rcases List.mem_cons.mp inside with same | inside
      · cases same
      · exact freeBack _ inside trivial
  | replacing payload _ _ _ _ inside => simp [inside,Restore.quiet] at outside
  | rollingBack _ _ _ inside => simp [inside,Restore.quiet] at outside

private theorem Kept.serve {watched : Watched κ} {fault : Option ServeFault} {job : Job κ}
    {rest : List (Job κ)} (inv : Lossless aead hkdf watched)
    (met : lossless aead watched (.serve fault)) (head : watched.base.queue = job :: rest) :
    Kept aead hkdf {observe aead fault job watched with
      base := thread aead fault job watched.base} := by
  obtain ⟨queue,vault,restore⟩ := thread_frame aead fault job watched.base
  have member : job ∈ watched.base.queue := by simp [head]
  have level (level : Level watched) (outside : watched.base.restore.quiet = true ∨
      watched.base.restore = .opening ∨ ∃ payload, watched.base.restore = .snapshotting payload) :
      Level {observe aead fault job watched with base := thread aead fault job watched.base} := by
    obtain ⟨connected,other,keyed⟩ := inv.settled outside
    exact level.serve fault job connected (fun data same => other data (same ▸ member))
      (fun write key same => keyed write key (same ▸ member))
  have kept := inv.kept
  unfold Kept at kept ⊢
  simp only [restore,queue]
  split at kept
  · trivial
  · trivial
  next inside => exact level kept (.inr (.inl inside))
  next inside => exact level kept (.inl (by simp [inside,Restore.quiet]))
  next payload inside =>
    refine ⟨level kept.1 (.inr (.inr ⟨payload,inside⟩)),?_⟩
    intro tail content front replied
    rw [head] at front
    obtain ⟨rfl,_⟩ := List.cons.inj front
    have copied : reads fault id watched.base = some content := by simpa [thread] using replied
    unfold reads at copied
    split at copied
    next running =>
      have clean : fault = none := by simpa [runs] using (Bool.and_eq_true_iff.mp running).2
      subst clean
      exact ⟨(Option.some.inj copied).symm,rfl⟩
    next => contradiction
  next payload oldDb oldKey inside =>
    obtain ⟨raw,_,_,phase⟩ := inv.paired
    obtain ⟨_,front,back,pending⟩ := phase.of_replacing hkdf inside
    rw [observe_frame]
    exact ⟨kept.1,observe_replay fault job watched oldDb (pending.noSnapshot head) kept.2⟩
  next oldDb inside =>
    obtain ⟨raw,_,_,phase⟩ := inv.paired
    obtain ⟨front,back,pending,_⟩ := phase.of_rollingBack hkdf inside
    have replayed := observe_replay fault job watched oldDb (pending.noSnapshot head) kept.2.1
    rw [observe_frame]
    refine ⟨vault.trans kept.1,replayed,?_⟩
    intro data tail first replied
    rw [head] at first
    obtain ⟨rfl,_⟩ := List.cons.inj first
    obtain ⟨_,same⟩ := pending.front head
    obtain ⟨clean,unchanged⟩ : fault = none ∧
        replay aead watched.vault watched.window oldDb = oldDb := by
      simpa [lossless,inside,head] using met
    subst clean
    change data = committed aead watched.vault (.replace data) watched.alone
    rw [kept.2.1,unchanged,same]
    simp [committed]

private theorem Lossless.serve {watched : Watched κ} {fault : Option ServeFault} {job : Job κ}
    {rest : List (Job κ)} (inv : Lossless aead hkdf watched)
    (met : lossless aead watched (.serve fault)) (waiting : watched.base.reply = none)
    (head : watched.base.queue = job :: rest) :
    Lossless aead hkdf {observe aead fault job watched with
      base := thread aead fault job watched.base} := by
  have served : Storage.step aead hkdf watched.base (.serve fault) =
      some (thread aead fault job watched.base) := by
    exact (serve_eq_some aead).mpr ⟨job,rest,waiting,head,rfl⟩
  have succeeds : fair hkdf (fun _ _ => True) watched.base (.serve fault) := by
    change rollbackSucceeds watched.base fault
    unfold rollbackSucceeds
    split
    next oldDb _ _ inside front =>
      have clean : fault = none ∧ replay aead watched.vault watched.window oldDb = oldDb := by
        simpa [lossless,inside,front] using met
      exact clean.1
    next => trivial
  refine ⟨?_,.inr ?_,Kept.serve inv met head⟩
  · exact inv.paired.step aead hkdf (by simp) (by simp) succeeds served
  · rw [(thread_frame aead fault job watched.base).1,head]
    simp

private theorem Kept.rollBack {watched : Watched κ} {state : State κ} {oldDb : Tables}
    {oldKey : Library.Sealed.Bytes} (sized : oldKey.length = 32) (waiting : state.reply = none)
    (vault : watched.vault = ⟨some oldKey,some (hkdf oldKey)⟩)
    (alone : watched.alone = replay aead watched.vault watched.window oldDb) :
    Kept aead hkdf {watched with base := Storage.rollBack hkdf oldDb oldKey state} := by
  have rolled : Storage.rollBack hkdf oldDb oldKey state = enqueue (.replace oldDb)
      {state with vault := ⟨some oldKey,some (hkdf oldKey)⟩, restore := .rollingBack oldDb} := by
    simp [Storage.rollBack,sized]
  rw [rolled]
  exact ⟨vault.symm,alone,by simp [enqueue,waiting]⟩

private theorem Kept.swap {watched : Watched κ} {state : State κ} {payload : Payload}
    {oldDb : Tables} {raw : Library.Sealed.Bytes} (fault : Option SwapFault)
    (size : raw.length = 32) (loaded : state.vault = ⟨some raw,some (hkdf raw)⟩)
    (waiting : state.reply = none) (vault : state.vault = watched.vault)
    (file : state.file = watched.alone) (copied : oldDb = state.file)
    (fresh : watched.window = []) :
    Kept aead hkdf {watched with base := Storage.swap hkdf fault payload oldDb state} := by
  have alone : watched.alone = replay aead watched.vault watched.window oldDb := by
    rw [fresh,replay_nil,copied,file]
  have same : watched.vault = ⟨some raw,some (hkdf raw)⟩ := vault.symm.trans loaded
  unfold Storage.swap
  by_cases unread : fault = some .rawKey
  · rw [if_pos unread]
    exact ⟨vault,file⟩
  · have read : rawKey state.vault = .ok raw := by simp [rawKey,loaded]
    rw [if_neg unread,read]
    dsimp only
    split
    next => exact ⟨same,alone⟩
    next => exact Kept.rollBack size waiting same alone

private theorem Kept.resume {watched : Watched κ} {fault : Option SwapFault} {after : State κ}
    (inv : Lossless aead hkdf watched) (resumed : resume hkdf fault watched.base = some after) :
    Kept aead hkdf {watched with base := after} := by
  obtain ⟨raw,size,vault,phase⟩ := inv.paired
  have kept := inv.kept
  unfold Storage.resume at resumed
  split at resumed
  next reply job rest replied head =>
    change proceed hkdf fault job reply (released watched.base rest) = some after at resumed
    by_cases own : OfRestore job
    · have continued : resumeRestore hkdf fault reply (released watched.base rest) = some after := by
        rcases ofRestore_cases own with rfl | ⟨data,rfl⟩ <;> exact resumed
      unfold Kept at kept
      split at kept
      next inside => simp [resumeRestore,released,inside] at continued
      next inside => simp [resumeRestore,released,inside] at continued
      next inside => simp [resumeRestore,released,inside] at continued
      next inside => simp [resumeRestore,released,inside] at continued
      next payload inside =>
        have waiting : (released watched.base rest).restore = .snapshotting payload := inside
        rcases resumeRestore_snapshotting hkdf waiting continued with ⟨oldDb,same,rfl⟩ | ⟨_,rfl⟩
        · subst same
          obtain ⟨_,other,_⟩ := inv.settled (.inr (.inr ⟨payload,inside⟩))
          rcases ofRestore_cases own with rfl | ⟨data,rfl⟩
          · obtain ⟨copied,fresh⟩ := kept.2 rest oldDb head replied
            exact Kept.swap fault size vault rfl kept.1.1 kept.1.2 copied fresh
          · exact absurd (by simp [head]) (other data)
        · exact kept.1
      next payload oldDb oldKey inside =>
        have waiting : (released watched.base rest).restore =
          .replacing payload oldDb oldKey := inside
        rcases resumeRestore_replacing hkdf waiting continued with ⟨_,rfl⟩ | ⟨_,rfl⟩
        · trivial
        · exact Kept.rollBack (phase.of_replacing hkdf inside).1 rfl kept.1 kept.2
      next oldDb inside =>
        have waiting : (released watched.base rest).restore = .rollingBack oldDb := inside
        obtain ⟨⟨succeeded,same⟩,rfl⟩ := resumeRestore_rollingBack hkdf waiting continued
        subst same
        obtain ⟨front,back,pending,succeeds⟩ := phase.of_rollingBack hkdf inside
        rcases ofRestore_cases own with rfl | ⟨data,rfl⟩
        · exact absurd rfl (pending.noSnapshot head)
        · obtain ⟨first,_⟩ := pending.front head
          cases succeeded with
          | false => exact absurd replied (succeeds first)
          | true => exact ⟨kept.1,kept.2.2 data rest head replied⟩
    -- A job of another task leaves file, vault and phase alone, and no reply waits.
    · have grown := grown_proceed hkdf (hkdf raw) fault job reply _ after own resumed
      exact kept.frame grown.file grown.vault grown.restore
        (fun _ _ waiting => absurd grown.reply waiting)
  next => contradiction

theorem Lossless.step {before after : Watched κ} {action : Action}
    (inv : Lossless aead hkdf before) (met : lossless aead before action)
    (taken : step aead hkdf before action = some after) : Lossless aead hkdf after := by
  obtain ⟨base,ran,same⟩ := Option.map_eq_some_iff.mp taken
  obtain ⟨raw,size,vault,phase⟩ := inv.paired
  have loaded : before.base.vault.aes = some (hkdf raw) := by rw [vault]
  cases action with
  | call write =>
    subst same
    cases Option.some.inj ran
    exact inv.grow loaded (grown_call (hkdf raw) write before.base loaded)
  | execute other =>
    subst same
    cases Option.some.inj ran
    exact inv.grow loaded
      (grown_enqueue (hkdf raw) (.statement other) before.base (by simp [OfRestore]) (by simp))
  | startBackup =>
    subst same
    simp only [Storage.step] at ran
    split at ran
    next =>
      cases Option.some.inj ran
      exact inv.grow loaded ((grown_backup _ before.base _ before.base.backups).trans
        (grown_enqueue (hkdf raw) (.snapshot .backup) _ (by simp [OfRestore]) (by simp)))
    next => contradiction
  | startRestore =>
    subst same
    have fine : fair hkdf (fun _ _ => True) before.base .startRestore := trivial
    have paired := inv.paired.step aead hkdf (by simp) (by simp) fine ran
    simp only [Storage.step] at ran
    split at ran
    next =>
      cases Option.some.inj ran
      exact ⟨paired,inv.held,⟨rfl,rfl⟩⟩
    next => contradiction
  | opened payload =>
    subst same
    have fine : fair hkdf (fun _ _ => True) before.base (.opened payload) := by
      cases payload <;> trivial
    have paired := inv.paired.step aead hkdf (by simp) (by simp) fine ran
    have inside : before.base.restore = .opening := by
      cases payload <;> simp only [Storage.step] at ran <;> split at ran <;> trivial
    have level : Level before := by simpa [Kept,inside] using inv.kept
    cases payload with
    | none =>
      simp only [Storage.step,inside,Option.some.injEq] at ran
      subst ran
      exact ⟨paired,inv.held,level⟩
    | some payload =>
      simp only [Storage.step,inside,Option.some.injEq] at ran
      subst ran
      refine ⟨paired,.inr (by simp [enqueue]),level,?_⟩
      -- Whatever reply waits belongs to a job in front of the snapshot.
      intro rest content queue replied
      rcases inv.held with waiting | busy
      · exact absurd (waiting.symm.trans replied) (by simp)
      · obtain ⟨job,tail,front⟩ := List.exists_cons_of_ne_nil busy
        obtain ⟨_,free⟩ := phase.of_opening hkdf inside
        change before.base.queue ++ [Job.snapshot Client.restore] = _ at queue
        rw [front] at queue free
        obtain ⟨rfl,_⟩ := List.cons.inj queue
        exact absurd trivial (free (.snapshot .restore) (by simp))
  | serve fault =>
    obtain ⟨job,rest,waiting,head,rfl⟩ := (serve_eq_some aead).mp ran
    simp only [head] at same
    subst same
    exact inv.serve met waiting head
  | resume fault =>
    subst same
    exact ⟨inv.paired.resume hkdf fault ran,.inl (resume_reply hkdf ran),Kept.resume inv ran⟩

/-- The vault and the tables survive every restore that raises, as long as no
write is served between its snapshot and its rollback that changes the tables. -/
theorem failed_restore_loses_nothing {raw : Library.Sealed.Bytes} {start : State κ}
    {watched : Watched κ} (started : Started hkdf raw start)
    (reached : Reach (step aead hkdf) (lossless aead) (watch start) watched) :
    LosesNothing watched := by
  have initial : Lossless aead hkdf (watch start) := by
    refine ⟨started.paired hkdf trivial,.inl started.reply,?_⟩
    simp [Kept,watch,started.restore]
  have inv := reached.invariant (Lossless aead hkdf) initial
    (fun _ _ _ before met taken => before.step met taken)
  intro raised
  have kept := inv.kept
  simp only [Kept,raised] at kept
  exact kept

def storing : Action := .execute (.setSetting "mode" "paid")

def undisturbed : List Action :=
  [storing,.serve none,.resume none,.startRestore,.opened (some ⟨empty,secondKey,length_secondKey⟩),
    .serve none,.resume none,.serve (some (.replace .write)),.resume none,.serve none,
    .resume none,storing,.serve none,.resume none]

/-- A setting is stored between the snapshot and the new file. -/
def disturbed : List Action :=
  [.startRestore,.opened (some ⟨empty,secondKey,length_secondKey⟩),storing,.serve none,.resume none,
    .serve none,.resume none,.serve (some (.replace .write)),.resume none,.serve none,
    .resume none]

/-- A condition that a run can check and that implies `lossless`. -/
def calm (watched : Watched Library.Sealed.Bytes) (action : Action) : Bool :=
  match action, watched.base.restore with
  | .serve fault, .rollingBack _ => fault.isNone && watched.window.all (fun job =>
    match job with
    | .write _ _ => false
    | .statement _ => false
    | _ => true)
  | _, _ => true

private theorem calm_lossless (watched : Watched Library.Sealed.Bytes) (action : Action)
    (met : calm watched action = true) : lossless plainAead watched action := by
  unfold lossless
  split
  next fault oldDb _ _ inside _ =>
    obtain ⟨clean,readers⟩ := Bool.and_eq_true_iff.mp (by simpa only [calm,inside] using met)
    refine ⟨Option.isNone_iff_eq_none.mp clean,?_⟩
    generalize watched.window = jobs at readers
    induction jobs with
    | nil => rfl
    | cons job jobs ih =>
      obtain ⟨reader,rest⟩ := Bool.and_eq_true_iff.mp readers
      have same : committed plainAead watched.vault job oldDb = oldDb := by
        cases job with
        | write => contradiction
        | statement => contradiction
        | _ => simp [committed]
      simpa [replay,same] using ih rest
  · trivial

theorem failed_restore_loses_nothing_undisturbed :
    ∃ last, undisturbed.foldlM (guarded (step plainAead id) (fun state action =>
      calm state action = true)) (watch (boot id firstKey empty)) = some last ∧
      last.base.restore = .raised ∧ LosesNothing last := by
  refine ⟨_,rfl,rfl,?_⟩
  exact failed_restore_loses_nothing (boot_started id firstKey empty rfl)
    ((reach_of_run undisturbed rfl).weaken calm_lossless)

private theorem plain_fine (watched : Watched Library.Sealed.Bytes) (action : Action)
    (met : plain watched.base action = true) : fair id (fun _ _ => True) watched.base action := by
  unfold fair
  split
  · trivial
  · exact plain_succeeds met
  · trivial

/-- A setting stored between the snapshot and the rollback is gone afterwards. -/
theorem setting_lost_by_failed_restore : ¬ ∀ watched : Watched Library.Sealed.Bytes,
    Reach (step plainAead id) (fun state => fair id (fun _ _ => True) state.base)
      (watch (boot id firstKey empty)) watched → LosesNothing watched := by
  intro claimed
  obtain ⟨last,run,raised,lost,kept⟩ : ∃ last, disturbed.foldlM (guarded (step plainAead id)
      (fun state action => plain state.base action = true)) (watch (boot id firstKey empty)) =
        some last ∧ last.base.restore = .raised ∧ getSetting "mode" last.base.file = none ∧
      getSetting "mode" last.alone = some "paid" := ⟨_,rfl,rfl,rfl,rfl⟩
  have same := (claimed last ((reach_of_run disturbed run).weaken plain_fine) raised).2
  rw [same,kept] at lost
  contradiction

end AtronixX.RestoreLoss
