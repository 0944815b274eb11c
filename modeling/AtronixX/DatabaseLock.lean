import AtronixX.Library.AsyncLock
import AtronixX.Library.Transactions
import AtronixX.Handlers

/-! `Database._run`: every method of `database/db.py` gives a job to a thread while its task holds
`_lock`, and all threads share one connection. A task that is cancelled gives up the lock, but its
thread works on. -/
namespace AtronixX.DatabaseLock
open Library.Transition Library.Programs Library.AsyncLock Library.Transactions Library.Tables
open Library.Sealed Crypto Database

/-- What a handler asks of the database; secrets are encrypted under the key of the moment. -/
inductive Method (κ : Type)
  | write (statement : Handlers.Write) (vault : Vault κ)
  | addHost (arguments : Storage.HostArguments) (key : κ)
  | select

/-- What it gets: a `SELECT` finds what follows from the tables that it sees. -/
inductive Answer
  | wrote
  | inserted (id : Int)
  | saw (tables : Tables)

/-- A statement that cannot violate a constraint. -/
def certain (change : Tables → Tables) (tables : Tables) : Option (Unit × Tables) :=
  some ((),change tables)

def deleteUserWork (uid : Int) : Program (Query Tables) Answer := do
  execute (certain fun tables => {tables with
    hosts := deleteWhere (fun _ row => row.ownerId == uid) tables.hosts})
  execute (certain fun tables => {tables with
    groups := deleteWhere (fun _ row => row.ownerId == uid) tables.groups})
  execute (certain fun tables => {tables with
    snippets := deleteWhere (fun _ row => row.ownerId == uid) tables.snippets})
  execute (certain fun tables => {tables with
    users := deleteWhere (fun id _ => id == uid) tables.users})
  pure .wrote

def deleteGroupWork (gid owner : Int) : Program (Query Tables) Answer := do
  execute (certain fun tables => {tables with
    hosts := updateWhere (fun _ row => row.groupId == some gid && row.ownerId == owner)
      (fun row => {row with groupId := none}) tables.hosts})
  execute (certain fun tables => {tables with
    groups := Library.Owned.remove GroupRow.ownerId owner gid tables.groups})
  pure .wrote

section
variable {κ : Type} (aead : Aead κ)

/-- `execute`, `fetchone` and `fetchall` are one statement each, `txn` is a transaction. -/
def Method.job : Method κ → Job Tables Answer
  | .write (.deleteUser uid) _ => .transaction (deleteUserWork uid)
  | .write (.deleteGroup gid owner) _ => .transaction (deleteGroupWork gid owner)
  | .write statement vault => .single fun tables =>
    (statement.run aead vault tables).map fun after => (.wrote,after)
  | .addHost arguments key => .single fun tables =>
    some (.inserted (tables.sequence.hosts + 1),
      insertHost (Storage.hostRow aead key arguments) tables)
  | .select => .single fun tables => some (.saw tables,tables)

def Method.apply (tables : Tables) : Method κ → Option (Answer × Tables)
  | .write statement vault => (statement.run aead vault tables).map fun after => (.wrote,after)
  | .addHost arguments key => some (.inserted (tables.sequence.hosts + 1),
      insertHost (Storage.hostRow aead key arguments) tables)
  | .select => some (.saw tables,tables)

theorem apply_job (method : Method κ) (tables : Tables) :
    (method.job aead).apply tables = method.apply aead tables := by
  cases method with
  | write statement vault =>
    cases statement with
    | deleteUser uid => rfl
    | deleteGroup gid owner => rfl
    | _ => rfl
  | addHost arguments key => rfl
  | select => rfl

section
variable (hkdf : Bytes → κ) (uid : Int) (reply : Handlers.Reply) (world : Handlers.World κ)

theorem perform_write (statement : Handlers.Write) :
    Handlers.perform aead hkdf Unit uid (.write statement) reply world =
      ((Method.write statement world.vault).apply aead world.tables).map fun result =>
        ((),{world with tables := result.2}) := by
  simp [Handlers.perform,Method.apply,Function.comp_def]

theorem perform_addHost {key : κ} (loaded : world.vault.aes = some key)
    (arguments : Storage.HostArguments) :
    Handlers.perform aead hkdf Int uid (.addHost arguments) reply world =
      some (world.tables.sequence.hosts + 1,
        {world with tables := insertHost (Storage.hostRow aead key arguments) world.tables}) ∧
    (Method.addHost arguments key).apply aead world.tables =
      some (.inserted (world.tables.sequence.hosts + 1),
        insertHost (Storage.hostRow aead key arguments) world.tables) := by
  simp [Handlers.perform,Method.apply,loaded]

theorem perform_select {α : Type} (query : Tables → α) :
    Handlers.perform aead hkdf α uid (.select query) reply world = some (query world.tables,world) ∧
      (Method.select : Method κ).apply aead world.tables = some (.saw world.tables,world.tables) :=
  ⟨rfl,rfl⟩

end

end

variable {κ : Type}

/-- A call of `_run`: its thread once the lock was taken, whether a call of the thread has failed
for reasons of its own, and whether the task was cancelled since. -/
structure Call (κ : Type) where
  method : Method κ
  thread : Option (Thread Tables Answer)
  failed : Bool
  cancelled : Bool

/-- Calls are numbered as they come. As history, and the last one first, which of them began, and
which came to their end and how. -/
structure Access (κ : Type) where
  connection : Connection Tables
  lock : Lock
  calls : Nat → Option (Call κ)
  next : Nat
  started : List Nat
  log : List (Nat × Method κ × Bool × Option Answer)

def opened (tables : Tables) : Access κ := ⟨⟨tables,none⟩,Lock.new,fun _ => none,0,[],[]⟩

def setCall (id : Nat) (call : Option (Call κ)) (access : Access κ) : Access κ :=
  {access with calls := Function.update access.calls id call}

/-- The pool has not come to the thread yet. -/
def atStart : Thread Tables Answer → Bool
  | .single _ => true
  | .beginning _ => true
  | _ => false

inductive Event (κ : Type)
  /-- A method is called. -/
  | call (method : Method κ)
  /-- A woken waiter takes the lock. -/
  | resume (id : Nat)
  /-- The task is cancelled; `begun` tells whether its thread, if it has one, works already. -/
  | cancel (id : Nat) (begun : Bool)
  /-- A cancelled waiter leaves. -/
  | unwind (id : Nat)
  /-- The next call of the thread on the connection. -/
  | work (id : Nat) (fails : Bool)
  /-- The task goes on after its thread. -/
  | finish (id : Nat)

section
variable (aead : Aead κ)

def begin (id : Nat) (method : Method κ) (access : Access κ) : Access κ :=
  {setCall id (some ⟨method,some (Thread.start (method.job aead)),false,false⟩) access with
    started := id :: access.started}

def cancel (id : Nat) (begun : Bool) (call : Call κ) (access : Access κ) : Access κ :=
  match call.thread with
  | none => {access with lock := access.lock.cancel id}
  | some thread =>
    if call.cancelled then access
    else if !begun && atStart thread then
      {setCall id none access with lock := access.lock.release}
    else {setCall id (some {call with cancelled := true}) access with lock := access.lock.release}

def work (id : Nat) (fails : Bool) (call : Call κ) (access : Access κ) : Option (Access κ) :=
  call.thread.bind fun thread => (thread.step fails access.connection).map fun (next,connection) =>
    let after := {call with thread := some next, failed := call.failed || fails}
    {setCall id (some after) access with
      connection := connection
      log := match next.result with
        | none => access.log
        | some result => (id,call.method,after.failed,result) :: access.log}

def finish (id : Nat) (call : Call κ) (access : Access κ) : Option (Access κ) :=
  (call.thread.bind Thread.result).map fun _ =>
    {setCall id none access with
      lock := if call.cancelled then access.lock else access.lock.release}

def step (access : Access κ) : Event κ → Option (Access κ)
  | .call method =>
    let id := access.next
    let queued := {setCall id (some ⟨method,none,false,false⟩) access with
      next := id + 1
      lock := access.lock.acquire id}
    some (if access.lock.vacant then begin aead id method queued else queued)
  | .resume id => (access.calls id).bind fun call =>
    if call.thread.isSome then none
    else (access.lock.resume id).map fun lock => begin aead id call.method {access with lock := lock}
  | .cancel id begun => (access.calls id).map fun call => cancel id begun call access
  | .unwind id => (access.calls id).bind fun call =>
    if call.thread.isSome then none
    else (access.lock.unwind id).map fun lock => {setCall id none access with lock := lock}
  | .work id fails => (access.calls id).bind fun call => work id fails call access
  | .finish id => (access.calls id).bind fun call => finish id call access

end

/-- No task is cancelled while its thread works: it waits still, its thread has not come to its
turn, or has come to its end. -/
def Patient (access : Access κ) : Event κ → Prop
  | .cancel id begun => ∀ call ∈ access.calls id, ∀ thread ∈ call.thread,
      thread.result.isSome = true ∨ (begun = false ∧ atStart thread = true)
  | _ => True

instance (access : Access κ) (event : Event κ) : Decidable (Patient access event) :=
  match event with
  | .cancel id begun => inferInstanceAs (Decidable (∀ call ∈ access.calls id,
      ∀ thread ∈ call.thread, thread.result.isSome = true ∨ (begun = false ∧ atStart thread = true)))
  | .call _ => .isTrue trivial
  | .resume _ => .isTrue trivial
  | .unwind _ => .isTrue trivial
  | .work _ _ => .isTrue trivial
  | .finish _ => .isTrue trivial

def Working (access : Access κ) (id : Nat) (call : Call κ) (thread : Thread Tables Answer) : Prop :=
  access.calls id = some call ∧ call.thread = some thread ∧ thread.result = none

/-- A task that waits can go on, or a thread whether or not its call fails, or its task after it. -/
def GoesOn (aead : Aead κ) (access : Access κ) : Prop :=
  ∃ id, (step aead access (.resume id)).isSome = true ∨
    (step aead access (.unwind id)).isSome = true ∨
    (∀ fails, (step aead access (.work id fails)).isSome = true) ∨
    (step aead access (.finish id)).isSome = true

/-- What is in the file is what the methods that came to their end make of the tables one after
the other, in the order in which they were called. At most one thread works, no transaction is
left open, and as long as a call has not returned something can go on. -/
structure Serialised (aead : Aead κ) (tables : Tables) (access : Access κ) : Prop where
  serial : Serial (fun method tables => method.apply aead tables) tables (access.log.map Prod.snd)
    access.connection.committed
  order : (access.log.map Prod.fst).Pairwise (· > ·)
  alone : ∀ id other call call' thread thread', Working access id call thread →
    Working access other call' thread' → id = other
  clean : (∀ id call thread, ¬Working access id call thread) → access.connection.working = none
  ready : ∀ id call, access.calls id = some call → GoesOn aead access

def Waits (access : Access κ) (id : Nat) : Prop :=
  ∃ call, access.calls id = some call ∧ call.thread = none

def Runs (access : Access κ) (id : Nat) : Prop :=
  ∃ call thread, access.calls id = some call ∧ call.thread = some thread ∧ call.cancelled = false

structure Kept (aead : Aead κ) (tables : Tables) (access : Access κ) : Prop where
  known : ∀ id call, access.calls id = some call → id < access.next
  began : ∀ id ∈ access.started, id < access.next
  served : access.lock.Served (Waits access) (Runs access) access.started
  orphan : ∀ id call thread, access.calls id = some call → call.thread = some thread →
    call.cancelled = true → thread.result.isSome = true
  serial : ∃ before,
    Serial (fun method tables => method.apply aead tables) tables (access.log.map Prod.snd) before ∧
    (∀ id call thread, Working access id call thread →
      Alone (call.method.job aead) before call.failed thread access.connection) ∧
    ((∀ id call thread, ¬Working access id call thread) → access.connection = ⟨before,none⟩)
  logged : (access.log.map Prod.fst).Sublist access.started
  last : ∀ id call thread, Working access id call thread →
    ∃ rest, access.started = id :: rest ∧ (access.log.map Prod.fst).Sublist rest

variable {aead : Aead κ} {tables : Tables}

@[simp] theorem calls_setCall (id other : Nat) (call : Option (Call κ)) (access : Access κ) :
    (setCall id call access).calls other = if other = id then call else access.calls other :=
  Function.update_apply _ _ _ _

theorem Kept.opened : Kept aead tables (opened tables : Access κ) := by
  have none (id : Nat) (call : Call κ) : (DatabaseLock.opened tables : Access κ).calls id ≠ some call := by
    intro found
    contradiction
  refine ⟨fun id call found => absurd found (none id call),fun id member => by contradiction,?_,
    fun id call thread found => absurd found (none id call),⟨tables,.nil tables,
      fun id call thread working => absurd working.1 (none id call),fun _ => rfl⟩,.slnil,
    fun id call thread working => absurd working.1 (none id call)⟩
  apply (Lock.Served.new .nil).congr
  · intro id
    simp only [Waits,iff_false,not_exists,not_and]
    exact fun call found => absurd found (none id call)
  · intro id
    simp only [Runs,iff_false,not_exists,not_and]
    exact fun call thread found => absurd found (none id call)

section
variable {access after : Access κ}

theorem Kept.fresh (kept : Kept aead tables access) : access.calls access.next = none := by
  cases found : access.calls access.next with
  | none => rfl
  | some call => exact absurd (kept.known _ call found) (Nat.lt_irrefl _)

theorem Kept.runs (kept : Kept aead tables access) {id : Nat} {call : Call κ}
    {thread : Thread Tables Answer} (working : Working access id call thread) : Runs access id := by
  obtain ⟨found,is,unfinished⟩ := working
  refine ⟨call,thread,found,is,?_⟩
  by_contra cancelled
  have finished := kept.orphan id call thread found is (by simpa using cancelled)
  rw [unfinished] at finished
  contradiction

theorem Kept.idle (kept : Kept aead tables access) (free : access.lock.locked = false) :
    ∀ id call thread, ¬Working access id call thread :=
  fun id _ _ working => kept.served.idle free id (kept.runs working)

private theorem alone_atStart {job : Job Tables Answer} {before : Tables} {failed : Bool}
    {thread : Thread Tables Answer} {connection : Connection Tables}
    (alone : Alone job before failed thread connection) (start : atStart thread = true) :
    connection = ⟨before,none⟩ := by
  cases alone with
  | single => rfl
  | beginning => rfl
  | _ => contradiction

theorem Kept.start (kept : Kept aead tables access) {id : Nat} (next : Nat) (method : Method κ)
    {lock : Lock} (free : access.lock.locked = false) (before : id < next) (more : access.next ≤ next)
    (served : lock.Served (fun other => Waits access other ∧ other ≠ id) (fun other => other = id)
      (id :: access.started)) :
    Kept aead tables {access with
      lock := lock
      next := next
      calls := Function.update access.calls id
        (some ⟨method,some (Thread.start (method.job aead)),false,false⟩)
      started := id :: access.started} := by
  have idle := kept.idle free
  obtain ⟨rows,serial,_,quiet⟩ := kept.serial
  refine ⟨?_,?_,?_,?_,⟨rows,serial,?_,?_⟩,.cons _ kept.logged,?_⟩
  · intro other call found
    simp only [Function.update_apply] at found
    split at found
    next same => exact same ▸ before
    next => exact Nat.lt_of_lt_of_le (kept.known other call found) more
  · intro other member
    rcases List.mem_cons.mp member with rfl | member
    · exact before
    · exact Nat.lt_of_lt_of_le (kept.began other member) more
  · apply served.congr
    · intro other
      simp only [Waits,Function.update_apply]
      by_cases same : other = id
      · subst same
        simp
      · simp [same]
    · intro other
      simp only [Runs,Function.update_apply]
      by_cases same : other = id
      · subst same
        simp
      · simp only [same,if_false,iff_false,not_exists,not_and]
        intro call thread found is cancelled
        exact kept.served.idle free other ⟨call,thread,found,is,by simpa using cancelled⟩
  · intro other call thread found is cancelled
    simp only [Function.update_apply] at found
    split at found
    next =>
      cases found
      contradiction
    next => exact kept.orphan other call thread found is cancelled
  · rintro other call thread ⟨found,is,unfinished⟩
    simp only [Function.update_apply] at found
    split at found
    next =>
      cases found
      cases is
      rw [quiet idle]
      exact .start _ rows
    next => exact absurd ⟨found,is,unfinished⟩ (idle other call thread)
  · intro none
    refine absurd ⟨?_,rfl,?_⟩ (none id ⟨method,some (Thread.start (method.job aead)),false,false⟩
      (Thread.start (method.job aead)))
    · exact Function.update_self _ _ _
    · cases method.job aead <;> rfl
  · rintro other call thread ⟨found,is,unfinished⟩
    simp only [Function.update_apply] at found
    split at found
    next same => exact ⟨access.started,by rw [same],kept.logged⟩
    next => exact absurd ⟨found,is,unfinished⟩ (idle other call thread)

theorem Kept.setQuiet (kept : Kept aead tables access) (id next : Nat) (call : Option (Call κ))
    {lock : Lock} (resting : ∀ old thread, ¬Working access id old thread)
    (rests : ∀ new ∈ call, ∀ thread, new.thread = some thread → thread.result.isSome = true)
    (before : id < next) (more : access.next ≤ next)
    (served : lock.Served (Waits {access with calls := Function.update access.calls id call})
      (Runs {access with calls := Function.update access.calls id call}) access.started) :
    Kept aead tables {access with
      lock := lock
      next := next
      calls := Function.update access.calls id call} := by
  have still {other : Nat} {found : Call κ} {thread : Thread Tables Answer} :
      Working {access with
        lock := lock
        next := next
        calls := Function.update access.calls id call} other found thread ↔
        Working access other found thread := by
    simp only [Working,Function.update_apply]
    by_cases same : other = id
    · subst same
      refine iff_of_false ?_ (resting found thread)
      rintro ⟨here,is,unfinished⟩
      rw [if_pos rfl] at here
      have finished := rests found here thread is
      rw [unfinished] at finished
      contradiction
    · simp [same]
  obtain ⟨rows,serial,alone,quiet⟩ := kept.serial
  refine ⟨?_,?_,served,?_,⟨rows,serial,?_,?_⟩,kept.logged,?_⟩
  · intro other found there
    simp only [Function.update_apply] at there
    split at there
    next same => exact same ▸ before
    next => exact Nat.lt_of_lt_of_le (kept.known other found there) more
  · exact fun other member => Nat.lt_of_lt_of_le (kept.began other member) more
  · intro other found thread there is cancelled
    simp only [Function.update_apply] at there
    split at there
    next => exact rests found there thread is
    next => exact kept.orphan other found thread there is cancelled
  · exact fun other found thread working => alone other found thread (still.mp working)
  · exact fun none => quiet fun other found thread working =>
      none other found thread (still.mpr working)
  · exact fun other found thread working => kept.last other found thread (still.mp working)

private theorem waits_update {calls : Nat → Option (Call κ)} {id : Nat} {call : Option (Call κ)}
    (other : Nat) :
    Waits {access with calls := Function.update calls id call} other ↔
      (other = id ∧ ∃ new, call = some new ∧ new.thread = none) ∨
        (other ≠ id ∧ Waits {access with calls := calls} other) := by
  simp only [Waits,Function.update_apply]
  by_cases same : other = id
  · simp [same]
  · simp [same]

private theorem runs_update {calls : Nat → Option (Call κ)} {id : Nat} {call : Option (Call κ)}
    (other : Nat) :
    Runs {access with calls := Function.update calls id call} other ↔
      (other = id ∧ ∃ new thread, call = some new ∧ new.thread = some thread ∧
        new.cancelled = false) ∨ (other ≠ id ∧ Runs {access with calls := calls} other) := by
  simp only [Runs,Function.update_apply]
  by_cases same : other = id
  · simp [same]
  · simp [same]

theorem Kept.call (kept : Kept aead tables access) (method : Method κ)
    (taken : step aead access (.call method) = some after) : Kept aead tables after := by
  have newest (other : Nat) (waits : Waits access other) : other < access.next := by
    obtain ⟨call,found,_⟩ := waits
    exact kept.known other call found
  have unknown (other : Nat) (call : Call κ) (found : access.calls other = some call) :
      other ≠ access.next := by
    rintro rfl
    rw [kept.fresh] at found
    contradiction
  cases taken
  by_cases vacant : access.lock.vacant = true
  · have free : access.lock.locked = false := by
      simp only [Lock.vacant,Bool.and_eq_true,Bool.not_eq_true'] at vacant
      exact vacant.1
    have served := kept.served.take vacant newest kept.began
    have started := kept.start (access.next + 1) method free (Nat.lt_succ_self access.next)
      (Nat.le_succ access.next) (served.congr (fun other => ⟨And.left,fun waits =>
        ⟨waits,fun same => absurd (newest other waits) (by omega)⟩⟩) fun _ => Iff.rfl)
    simpa only [vacant,if_true,begin,setCall,Function.update_idem] using started
  · have taken : access.lock.vacant = false := by simpa using vacant
    have served := kept.served.enqueue taken newest kept.began
    have queued := kept.setQuiet access.next (access.next + 1) (some ⟨method,none,false,false⟩)
      (fun old thread working => unknown _ old working.1 rfl)
      (by rintro new ⟨⟩ thread is; contradiction) (Nat.lt_succ_self _) (Nat.le_succ _)
      (served.congr ?_ ?_)
    · simpa only [taken,if_false,Bool.false_eq_true,setCall] using queued
    · intro other
      rw [waits_update]
      constructor
      · rintro (⟨same,_⟩ | ⟨_,waits⟩)
        · exact .inr same
        · exact .inl waits
      · rintro (waits | same)
        · exact .inr ⟨fun same => absurd (newest other waits) (by omega),waits⟩
        · exact .inl ⟨same,_,rfl,rfl⟩
    · intro other
      rw [runs_update]
      constructor
      · rintro (⟨_,new,thread,same,is,_⟩ | ⟨_,runs⟩)
        · cases same
          contradiction
        · exact runs
      · intro runs
        obtain ⟨call,_,found,_⟩ := id runs
        exact .inr ⟨unknown other call found,runs⟩

theorem Kept.resume (kept : Kept aead tables access) {id : Nat}
    (taken : step aead access (.resume id) = some after) : Kept aead tables after := by
  obtain ⟨call,found,taken⟩ := Option.bind_eq_some_iff.mp taken
  split at taken
  next => contradiction
  next =>
    obtain ⟨lock,resumed,rfl⟩ := Option.map_eq_some_iff.mp taken
    obtain ⟨free,served⟩ := kept.served.resume resumed
    exact kept.start access.next call.method free (kept.known id call found) (Nat.le_refl _) served

theorem Kept.unwind (kept : Kept aead tables access) {id : Nat}
    (taken : step aead access (.unwind id) = some after) : Kept aead tables after := by
  obtain ⟨call,found,taken⟩ := Option.bind_eq_some_iff.mp taken
  split at taken
  next => contradiction
  next waiting =>
    obtain ⟨lock,unwound,rfl⟩ := Option.map_eq_some_iff.mp taken
    have absent : call.thread = none := by simpa using waiting
    have served := kept.served.unwind unwound
    refine kept.setQuiet id access.next none ?_ (by rintro _ ⟨⟩) (kept.known id call found) (Nat.le_refl _)
      (served.congr ?_ ?_)
    · rintro old thread ⟨here,is,_⟩
      cases found.symm.trans here
      rw [absent] at is
      contradiction
    · intro other
      rw [waits_update]
      constructor
      · rintro (⟨_,new,same,_⟩ | ⟨differs,waits⟩)
        · contradiction
        · exact ⟨waits,differs⟩
      · exact fun both => .inr ⟨both.2,both.1⟩
    · intro other
      rw [runs_update]
      constructor
      · rintro (⟨_,new,thread,same,_⟩ | ⟨_,runs⟩)
        · contradiction
        · exact runs
      · intro runs
        refine .inr ⟨?_,runs⟩
        rintro rfl
        obtain ⟨old,thread,here,is,_⟩ := runs
        cases found.symm.trans here
        rw [absent] at is
        contradiction

theorem Kept.finish (kept : Kept aead tables access) {id : Nat}
    (taken : step aead access (.finish id) = some after) : Kept aead tables after := by
  obtain ⟨call,found,taken⟩ := Option.bind_eq_some_iff.mp taken
  obtain ⟨result,ended,rfl⟩ := Option.map_eq_some_iff.mp taken
  obtain ⟨thread,is,ended⟩ := Option.bind_eq_some_iff.mp ended
  have resting (old : Call κ) (other : Thread Tables Answer) : ¬Working access id old other := by
    rintro ⟨here,there,unfinished⟩
    cases found.symm.trans here
    cases is.symm.trans there
    rw [ended] at unfinished
    contradiction
  have waits (other : Nat) :
      Waits {access with calls := Function.update access.calls id none} other ↔ Waits access other := by
    rw [waits_update]
    constructor
    · rintro (⟨_,new,same,_⟩ | ⟨_,waits⟩)
      · contradiction
      · exact waits
    · intro waits
      refine .inr ⟨?_,waits⟩
      rintro rfl
      obtain ⟨old,here,none⟩ := waits
      cases found.symm.trans here
      rw [is] at none
      contradiction
  refine kept.setQuiet id access.next none resting (by rintro _ ⟨⟩) (kept.known id call found) (Nat.le_refl _) ?_
  by_cases cancelled : call.cancelled = true
  · rw [if_pos cancelled]
    apply kept.served.congr waits
    intro other
    rw [runs_update]
    constructor
    · rintro (⟨_,new,thread,same,_⟩ | ⟨_,runs⟩)
      · contradiction
      · exact runs
    · intro runs
      refine .inr ⟨?_,runs⟩
      rintro rfl
      obtain ⟨old,_,here,_,alive⟩ := runs
      cases found.symm.trans here
      rw [cancelled] at alive
      contradiction
  · rw [if_neg cancelled]
    apply kept.served.release.congr waits
    intro other
    rw [runs_update]
    simp only [iff_false]
    rintro (⟨_,new,thread,same,_⟩ | ⟨differs,runs⟩)
    · contradiction
    · exact differs (kept.served.alone other id runs ⟨call,thread,found,is,by simpa using cancelled⟩)

/-- A task that is cancelled before its thread comes to its turn takes it away. -/
private theorem Kept.drop (kept : Kept aead tables access) {id : Nat} {call : Call κ}
    {thread : Thread Tables Answer} (found : access.calls id = some call)
    (is : call.thread = some thread) (alive : call.cancelled = false)
    (start : atStart thread = true) :
    Kept aead tables {setCall id none access with lock := access.lock.release} := by
  have working : Working access id call thread := by
    refine ⟨found,is,?_⟩
    cases thread with
    | single => rfl
    | beginning => rfl
    | _ => contradiction
  have running : Runs access id := ⟨call,thread,found,is,alive⟩
  have nobody (other : Nat) (old : Call κ) (there : Thread Tables Answer)
      (here : Function.update access.calls id none other = some old ∧ old.thread = some there ∧
        there.result = none) : False := by
    obtain ⟨here,is',unfinished⟩ := here
    rw [Function.update_apply] at here
    split at here
    next => contradiction
    next differs => exact differs (kept.served.alone other id (kept.runs ⟨here,is',unfinished⟩) running)
  obtain ⟨rows,serial,alone,_⟩ := kept.serial
  have connection := alone_atStart (alone id call thread working) start
  refine ⟨?_,kept.began,?_,?_,⟨rows,serial,fun other old there here => (nobody other old there here).elim,
    fun _ => connection⟩,kept.logged,fun other old there here => (nobody other old there here).elim⟩
  · intro other old here
    simp only [calls_setCall] at here
    split at here
    next => contradiction
    next => exact kept.known other old here
  · apply kept.served.release.congr
    · intro other
      change Waits {access with calls := Function.update access.calls id none} other ↔ _
      rw [waits_update]
      constructor
      · rintro (⟨_,new,same,_⟩ | ⟨_,waits⟩)
        · contradiction
        · exact waits
      · intro waits
        refine .inr ⟨?_,waits⟩
        rintro rfl
        obtain ⟨old,here,none⟩ := waits
        cases found.symm.trans here
        rw [is] at none
        contradiction
    · intro other
      change Runs {access with calls := Function.update access.calls id none} other ↔ _
      rw [runs_update]
      simp only [iff_false]
      rintro (⟨_,new,there,same,_⟩ | ⟨differs,runs⟩)
      · contradiction
      · exact differs (kept.served.alone other id runs running)
  · intro other old there here is' cancelled
    simp only [calls_setCall] at here
    split at here
    next => contradiction
    next => exact kept.orphan other old there here is' cancelled

theorem Kept.cancel (kept : Kept aead tables access) {id : Nat} {begun : Bool}
    (patient : Patient access (.cancel id begun))
    (taken : step aead access (.cancel id begun) = some after) : Kept aead tables after := by
  obtain ⟨call,found,rfl⟩ := Option.map_eq_some_iff.mp taken
  unfold DatabaseLock.cancel
  cases is : call.thread with
  | none =>
    obtain ⟨rows,serial,alone,quiet⟩ := kept.serial
    exact ⟨kept.known,kept.began,kept.served.cancel id,kept.orphan,⟨rows,serial,alone,quiet⟩,
      kept.logged,kept.last⟩
  | some thread =>
    dsimp only
    by_cases cancelled : call.cancelled = true
    · rw [if_pos cancelled]
      exact kept
    rw [if_neg cancelled]
    have alive : call.cancelled = false := by simpa using cancelled
    split
    next early =>
      simp only [Bool.and_eq_true] at early
      exact kept.drop found is alive early.2
    next late =>
      have ended : thread.result.isSome = true := by
        rcases patient call found thread is with ended | ⟨rfl,start⟩
        · exact ended
        · simp [start] at late
      refine kept.setQuiet id access.next
        (some {call with thread := some thread, cancelled := true}) ?_ ?_
        (kept.known id call found) (Nat.le_refl _) (kept.served.release.congr ?_ ?_)
      · rintro old there ⟨here,is',unfinished⟩
        cases found.symm.trans here
        cases is.symm.trans is'
        rw [unfinished] at ended
        contradiction
      · rintro _ ⟨⟩ there is'
        cases is'
        exact ended
      · intro other
        rw [waits_update]
        constructor
        · rintro (⟨_,new,same,none⟩ | ⟨_,waits⟩)
          · cases same
            contradiction
          · exact waits
        · intro waits
          refine .inr ⟨?_,waits⟩
          rintro rfl
          obtain ⟨old,here,none⟩ := waits
          cases found.symm.trans here
          rw [is] at none
          contradiction
      · intro other
        rw [runs_update]
        simp only [iff_false]
        rintro (⟨_,new,there,same,_,alive⟩ | ⟨differs,runs⟩)
        · cases same
          contradiction
        · exact differs (kept.served.alone other id runs ⟨call,thread,found,is,alive⟩)

theorem Kept.work (kept : Kept aead tables access) {id : Nat} {fails : Bool}
    (taken : step aead access (.work id fails) = some after) : Kept aead tables after := by
  obtain ⟨call,found,taken⟩ := Option.bind_eq_some_iff.mp taken
  obtain ⟨thread,is,taken⟩ := Option.bind_eq_some_iff.mp taken
  obtain ⟨⟨next,connection⟩,stepped,rfl⟩ := Option.map_eq_some_iff.mp taken
  have working : Working access id call thread := by
    refine ⟨found,is,?_⟩
    cases thread with
    | finished => contradiction
    | _ => rfl
  have running := kept.runs working
  have only {other : Nat} {old : Call κ} {there : Thread Tables Answer}
      (here : Working access other old there) : other = id :=
    kept.served.alone other id (kept.runs here) running
  obtain ⟨rows,serial,alone,_⟩ := kept.serial
  have alone := (alone id call thread working).step stepped
  obtain ⟨rest,started,logged⟩ := kept.last id call thread working
  have same (other : Nat) (new : Call κ) (there : Thread Tables Answer)
      (here : Function.update access.calls id (some {call with
        thread := some next, failed := call.failed || fails}) other = some new)
      (is' : new.thread = some there) (unfinished : there.result = none) :
      other = id ∧ new = {call with thread := some next, failed := call.failed || fails} ∧
        there = next := by
    rw [Function.update_apply] at here
    split at here
    next same =>
      cases here
      cases is'
      exact ⟨same,rfl,rfl⟩
    next differs => exact absurd (only ⟨here,is',unfinished⟩) differs
  have lock : access.lock.Served
      (Waits {access with calls := Function.update access.calls id (some {call with
        thread := some next, failed := call.failed || fails})})
      (Runs {access with calls := Function.update access.calls id (some {call with
        thread := some next, failed := call.failed || fails})}) access.started := by
    apply kept.served.congr
    · intro other
      rw [waits_update]
      constructor
      · rintro (⟨_,new,same,none⟩ | ⟨_,waits⟩)
        · cases same
          contradiction
        · exact waits
      · intro waits
        refine .inr ⟨?_,waits⟩
        rintro rfl
        obtain ⟨old,here,none⟩ := waits
        cases found.symm.trans here
        rw [is] at none
        contradiction
    · intro other
      rw [runs_update]
      constructor
      · rintro (⟨rfl,_⟩ | ⟨_,runs⟩)
        · exact running
        · exact runs
      · intro runs
        obtain rfl := kept.served.alone other id runs running
        obtain ⟨old,_,here,_,alive⟩ := runs
        cases found.symm.trans here
        exact .inl ⟨rfl,_,next,rfl,rfl,alive⟩
  have known (other : Nat) (new : Call κ)
      (here : Function.update access.calls id (some {call with
        thread := some next, failed := call.failed || fails}) other = some new) :
      other < access.next := by
    rw [Function.update_apply] at here
    split at here
    next same => exact same ▸ kept.known id call found
    next => exact kept.known other new here
  have orphan (other : Nat) (new : Call κ) (there : Thread Tables Answer)
      (here : Function.update access.calls id (some {call with
        thread := some next, failed := call.failed || fails}) other = some new)
      (is' : new.thread = some there) (cancelled : new.cancelled = true) :
      there.result.isSome = true := by
    rw [Function.update_apply] at here
    split at here
    next =>
      cases here
      obtain ⟨old,_,here,_,alive⟩ := running
      cases found.symm.trans here
      rw [alive] at cancelled
      contradiction
    next => exact kept.orphan other new there here is' cancelled
  dsimp only [setCall]
  cases ended : next.result with
  | none =>
    refine ⟨known,kept.began,lock,orphan,⟨rows,serial,?_,?_⟩,kept.logged,?_⟩
    · rintro other new there ⟨here,is',unfinished⟩
      obtain ⟨rfl,rfl,rfl⟩ := same other new there here is' unfinished
      exact alone
    · intro none
      exact absurd ⟨Function.update_self _ _ _,rfl,ended⟩ (none id
        {call with thread := some next, failed := call.failed || fails} next)
    · rintro other new there ⟨here,is',unfinished⟩
      obtain ⟨rfl,_,_⟩ := same other new there here is' unfinished
      exact ⟨rest,started,logged⟩
  | some result =>
    obtain rfl : next = .finished result := by
      cases next with
      | finished other =>
        cases ended
        rfl
      | _ => contradiction
    obtain ⟨rows',serial,quiet⟩ := serial.finish (fun tables => apply_job aead call.method tables) alone
    have nobody (other : Nat) (new : Call κ) (there : Thread Tables Answer)
        (here : Function.update access.calls id (some {call with
          thread := some (.finished result), failed := call.failed || fails}) other = some new ∧
          new.thread = some there ∧ there.result = none) : False := by
      obtain ⟨here,is',unfinished⟩ := here
      obtain ⟨_,_,rfl⟩ := same other new there here is' unfinished
      contradiction
    refine ⟨known,kept.began,lock,orphan,⟨rows',serial,
      fun other new there here => (nobody other new there here).elim,fun _ => quiet⟩,?_,
      fun other new there here => (nobody other new there here).elim⟩
    rw [started]
    exact .cons_cons _ logged

theorem Kept.step (kept : Kept aead tables access) {event : Event κ} (patient : Patient access event)
    (taken : DatabaseLock.step aead access event = some after) : Kept aead tables after := by
  cases event with
  | call method => exact kept.call method taken
  | resume id => exact kept.resume taken
  | cancel id begun => exact kept.cancel patient taken
  | unwind id => exact kept.unwind taken
  | work id fails => exact kept.work taken
  | finish id => exact kept.finish taken

end

private theorem goesOn_thread {access : Access κ} {id : Nat} {call : Call κ}
    {thread : Thread Tables Answer} (found : access.calls id = some call)
    (is : call.thread = some thread) : GoesOn aead access := by
  cases ended : thread.result with
  | none =>
    refine ⟨id,.inr (.inr (.inl fun fails => ?_))⟩
    have goes := thread.step_isSome fails access.connection ended
    simpa [step,work,found,is] using goes
  | some result => exact ⟨id,.inr (.inr (.inr (by simp [step,finish,found,is,ended])))⟩

/-- When no thread works, the first of those who wait can go on. -/
theorem Kept.ready {access : Access κ} (kept : Kept aead tables access) {id : Nat} {call : Call κ}
    (found : access.calls id = some call) : GoesOn aead access := by
  cases is : call.thread with
  | some thread => exact goesOn_thread found is
  | none =>
    by_cases running : ∃ other, Runs access other
    · obtain ⟨other,call,thread,found,is,_⟩ := running
      exact goesOn_thread found is
    · obtain ⟨first,⟨call,found,is⟩,lock,goes⟩ := kept.served.not_stuck ⟨call,found,is⟩
        fun other runs => running ⟨other,runs⟩
      rcases goes with resumed | unwound
      · exact ⟨first,.inl (by simp [DatabaseLock.step,found,is,resumed])⟩
      · exact ⟨first,.inr (.inl (by simp [DatabaseLock.step,found,is,unwound]))⟩

theorem Kept.serialised {access : Access κ} (kept : Kept aead tables access) :
    Serialised aead tables access := by
  obtain ⟨rows,serial,alone,quiet⟩ := kept.serial
  have committed : access.connection.committed = rows := by
    by_cases working : ∃ id call thread, Working access id call thread
    · obtain ⟨id,call,thread,working⟩ := working
      exact (alone id call thread working).committed working.2.2
    · simp only [not_exists] at working
      rw [quiet working]
  refine ⟨committed ▸ serial,kept.served.order.sublist kept.logged,?_,?_,fun id call => kept.ready⟩
  · intro id other call call' thread thread' one two
    exact kept.served.alone id other (kept.runs one) (kept.runs two)
  · intro none
    rw [quiet none]

/-- However the calls of the methods, their threads and their cancellations interleave, the
methods take effect one after the other, as long as no task is cancelled while its thread
works. -/
theorem database_serialised {κ : Type} (aead : Aead κ) (tables : Tables) (access : Access κ)
    (reached : Reach (step aead) Patient (opened tables) access) :
    Serialised aead tables access := by
  apply Kept.serialised
  apply reached.invariant (Kept aead tables) Kept.opened
  intro before event after kept patient taken
  exact kept.step patient taken

def loaded : Vault Bytes := ⟨some [],some []⟩

theorem database_serialised_deleted : ∃ access : Access Bytes,
    getSetting "mode" access.connection.committed = some "paid" ∧ access.log.length = 2 ∧
      Serialised (transparent id) Database.empty access := by
  obtain ⟨access,ran,mode,two⟩ : ∃ access, [Event.call (.write (.deleteUser 7) loaded),
      .call (.write (.setSetting "mode" "paid") loaded),.call .select,.work 0 false,.work 0 false,
      .work 0 false,.cancel 2 true,.work 0 false,.work 0 false,.work 0 false,.finish 0,.resume 1,
      .work 1 false,.unwind 2,.finish 1].foldlM (guarded (step (transparent id)) Patient)
        (opened Database.empty) = some access ∧
      getSetting "mode" access.connection.committed = some "paid" ∧ access.log.length = 2 :=
    ⟨_,rfl,rfl,rfl⟩
  exact ⟨access,mode,two,database_serialised (transparent id) _ access (reach_of_run _ ran)⟩

/-- The thread of a cancelled task takes the write of another along when it rolls back, although
that write returned. -/
theorem cancelled_write_lost : ∃ access : Access Bytes,
    Reach (step (transparent id)) always (opened Database.empty) access ∧
      access.log = [(0,.write (.deleteUser 7) loaded,true,none),
        (1,.write (.setSetting "mode" "paid") loaded,false,some .wrote)] ∧
      access.connection = ⟨Database.empty,none⟩ := by
  obtain ⟨access,ran,ended⟩ : ∃ access, [Event.call (.write (.deleteUser 7) loaded),
      .work 0 false,.work 0 false,.cancel 0 true,.call (.write (.setSetting "mode" "paid") loaded),
      .work 1 false,.finish 1,.work 0 true,.work 0 false].foldlM
        (guarded (step (transparent id)) always) (opened Database.empty) = some access ∧
      access.log = [(0,.write (.deleteUser 7) loaded,true,none),
        (1,.write (.setSetting "mode" "paid") loaded,false,some .wrote)] ∧
      access.connection = ⟨Database.empty,none⟩ := ⟨_,rfl,rfl,rfl⟩
  exact ⟨access,reach_of_run _ ran,ended⟩

end AtronixX.DatabaseLock
