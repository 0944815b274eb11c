import AtronixX.Library.AsyncLock
import AtronixX.Library.Tables
import AtronixX.Library.Transition

/-! `OrderedProcessor` of `main.py`: the updates of one chat are handled one after the
other, those of different chats side by side. `_locks` and `_refs` are kept by hand, and a
lock that is dropped while somebody uses it would let two handlers of a chat run. -/
namespace AtronixX.OrderedProcessor
open Library.AsyncLock Library.Tables Library.Transition

/-- A call of `do_process_update` that has not returned: its key, the lock object it found
in `_locks`, and whether it has begun to await its coroutine. -/
structure Update where
  key : Int
  lock : Nat
  running : Bool
  deriving DecidableEq, Repr

/-- Updates and lock objects are numbered as they come. `started` says, as history and the
last one first, for which key the coroutine of which update was begun. -/
structure Processor where
  locks : Table Int Nat
  refs : Table Int Nat
  objects : Table Nat Lock
  updates : Table Nat Update
  nextLock : Nat
  nextUpdate : Nat
  started : List (Int × Nat)

def Processor.new : Processor := ⟨∅,∅,∅,∅,0,0,[]⟩

/-- The key of an update: the id of its chat, 0 when it has none. -/
def keyOf (chat : Option Int) : Int := chat.getD 0

/-- `self._locks.setdefault(key, asyncio.Lock())`. -/
def setdefault (key : Int) (processor : Processor) : Nat × Processor :=
  match processor.locks.lookup key with
  | some lock => (lock,processor)
  | none => (processor.nextLock,{processor with
      locks := processor.locks.insert key processor.nextLock
      objects := processor.objects.insert processor.nextLock Lock.new
      nextLock := processor.nextLock + 1})

def object (lock : Nat) (processor : Processor) : Lock :=
  (processor.objects.lookup lock).getD Lock.new

def setObject (lock : Nat) (value : Lock) (processor : Processor) : Processor :=
  {processor with objects := processor.objects.insert lock value}

def begin (id : Nat) (update : Update) (processor : Processor) : Processor :=
  {processor with
    updates := processor.updates.insert id {update with running := true}
    started := (update.key,id) :: processor.started}

/-- `do_process_update` up to its first await. -/
def arrive (chat : Option Int) (processor : Processor) : Processor :=
  let key := keyOf chat
  let (lock,found) := setdefault key processor
  let id := processor.nextUpdate
  let counted := {found with
    refs := found.refs.insert key ((found.refs.lookup key).getD 0 + 1)
    nextUpdate := id + 1
    updates := found.updates.insert id ⟨key,lock,false⟩}
  let acquired := setObject lock ((object lock found).acquire id) counted
  if (object lock found).vacant then begin id ⟨key,lock,false⟩ acquired else acquired

/-- The `finally` of an update, which then is gone. Its `KeyError` changes nothing. -/
def leave (id : Nat) (key : Int) (processor : Processor) : Processor :=
  let gone := {processor with updates := processor.updates.erase id}
  match processor.refs.lookup key with
  | none => gone
  | some count =>
    if count - 1 ≤ 0 then
      {gone with refs := gone.refs.erase key, locks := gone.locks.erase key}
    else {gone with refs := gone.refs.insert key (count - 1)}

/-- What happens next: an update arrives; a woken waiter runs; a task is cancelled, which
ends its coroutine or not when that is running; a cancelled waiter runs; a coroutine
returns, raises or is cancelled. Its own awaits change nothing here. -/
inductive Event
  | arrive (chat : Option Int)
  | resume (id : Nat)
  | cancel (id : Nat)
  | unwind (id : Nat)
  | finish (id : Nat)
  deriving DecidableEq, Repr

def step (processor : Processor) : Event → Option Processor
  | .arrive chat => some (arrive chat processor)
  | .resume id => (processor.updates.lookup id).bind (fun update =>
    if update.running then none
    else ((object update.lock processor).resume id).map (fun lock =>
      begin id update (setObject update.lock lock processor)))
  | .cancel id => (processor.updates.lookup id).map (fun update =>
    if update.running then processor
    else setObject update.lock ((object update.lock processor).cancel id) processor)
  | .unwind id => (processor.updates.lookup id).bind (fun update =>
    if update.running then none
    else ((object update.lock processor).unwind id).map (fun lock =>
      leave id update.key (setObject update.lock lock processor)))
  | .finish id => (processor.updates.lookup id).bind (fun update =>
    if update.running then
      some (leave id update.key
        (setObject update.lock (object update.lock processor).release processor))
    else none)

def startedOf (key : Int) (processor : Processor) : List Nat :=
  (processor.started.filter (fun item => item.1 = key)).map Prod.snd

def inFlight (key : Int) (processor : Processor) : Nat :=
  countWhere (fun _ update => update.key == key) processor.updates

/-- The handlers of a chat run one at a time and in the order of arrival. Lock objects are
shared within a chat only, and an update that waits while no other of its chat runs does
not wait for anything outside its chat: one of them can go on. -/
structure Serialised (processor : Processor) : Prop where
  alone : ∀ id other update another, processor.updates.lookup id = some update →
    processor.updates.lookup other = some another → update.running = true →
    another.running = true → update.key = another.key → id = other
  inOrder : ∀ key, (startedOf key processor).Pairwise (· > ·)
  apart : ∀ id other update another, processor.updates.lookup id = some update →
    processor.updates.lookup other = some another → update.lock = another.lock →
    update.key = another.key
  ready : ∀ id update, processor.updates.lookup id = some update →
    (∀ other another, processor.updates.lookup other = some another →
      another.key = update.key → another.running = false) →
    ∃ other another, processor.updates.lookup other = some another ∧ another.key = update.key ∧
      ((step processor (.resume other)).isSome ∨ (step processor (.unwind other)).isSome)
  locks : ∀ key, key ∈ processor.locks ↔
    ∃ id update, processor.updates.lookup id = some update ∧ update.key = key
  refs : ∀ key, processor.refs.lookup key =
    if inFlight key processor = 0 then none else some (inFlight key processor)

def Has (updates : Table Nat Update) (key : Int) (running : Bool) (id : Nat) : Prop :=
  ∃ update, updates.lookup id = some update ∧ update.key = key ∧ update.running = running

theorem has_insert (updates : Table Nat Update) (id : Nat) (update : Update) (key : Int)
    (running : Bool) (other : Nat) : Has (updates.insert id update) key running other ↔
      (other = id ∧ update.key = key ∧ update.running = running) ∨
        (other ≠ id ∧ Has updates key running other) := by
  constructor
  · rintro ⟨row,found,is⟩
    rcases lookup_insert_some found with ⟨same,rfl⟩ | ⟨differs,was⟩
    · exact .inl ⟨same,is⟩
    · exact .inr ⟨differs,row,was,is⟩
  · rintro (⟨rfl,is⟩ | ⟨differs,row,was,is⟩)
    · exact ⟨update,AList.lookup_insert _,is⟩
    · exact ⟨row,(AList.lookup_insert_ne differs).trans was,is⟩

theorem has_erase (updates : Table Nat Update) (id : Nat) (key : Int) (running : Bool)
    (other : Nat) : Has (updates.erase id) key running other ↔
      other ≠ id ∧ Has updates key running other := by
  constructor
  · rintro ⟨row,found,is⟩
    have was := lookup_erase_some found
    exact ⟨was.1,row,was.2,is⟩
  · rintro ⟨differs,row,was,is⟩
    exact ⟨row,(AList.lookup_erase_ne differs).trans was,is⟩

theorem has_only {updates : Table Nat Update} {id : Nat} {update : Update}
    (found : updates.lookup id = some update) {key : Int} {running : Bool}
    (has : Has updates key running id) : update.key = key ∧ update.running = running := by
  obtain ⟨row,was,is⟩ := has
  cases Option.some.inj (found.symm.trans was)
  exact is

structure Kept (processor : Processor) : Prop where
  known : ∀ id update, processor.updates.lookup id = some update → id < processor.nextUpdate
  began : ∀ item ∈ processor.started, item.2 < processor.nextUpdate
  shared : ∀ id update, processor.updates.lookup id = some update →
    processor.locks.lookup update.key = some update.lock
  distinct : ∀ key other lock, processor.locks.lookup key = some lock →
    processor.locks.lookup other = some lock → key = other
  fresh : ∀ key lock, processor.locks.lookup key = some lock → lock < processor.nextLock
  counted : ∀ key, processor.refs.lookup key =
    if inFlight key processor = 0 then none else some (inFlight key processor)
  used : ∀ key, processor.locks.lookup key = none ↔ inFlight key processor = 0
  served : ∀ key lock, processor.locks.lookup key = some lock →
    (object lock processor).Served (Has processor.updates key false)
      (Has processor.updates key true) (startedOf key processor)
  order : ∀ key, (startedOf key processor).Pairwise (· > ·)

theorem Kept.new : Kept Processor.new := by
  refine ⟨?_,?_,?_,?_,?_,fun _ => rfl,fun _ => ⟨fun _ => rfl,fun _ => rfl⟩,?_,fun _ => .nil⟩
  · intro id update found
    contradiction
  · intro item member
    contradiction
  · intro id update found
    contradiction
  · intro key other lock found
    contradiction
  · intro key lock found
    contradiction
  · intro key lock found
    contradiction

theorem inFlight_eq_zero {key : Int} {processor : Processor} :
    inFlight key processor = 0 ↔
      ∀ id update, processor.updates.lookup id = some update → update.key ≠ key := by
  unfold inFlight
  rw [countWhere_eq_zero_iff]
  simp

theorem Kept.ready {processor : Processor} (kept : Kept processor) {id : Nat} {update : Update}
    (found : processor.updates.lookup id = some update)
    (idle : ∀ other another, processor.updates.lookup other = some another →
      another.key = update.key → another.running = false) :
    ∃ other another, processor.updates.lookup other = some another ∧ another.key = update.key ∧
      ((step processor (.resume other)).isSome ∨ (step processor (.unwind other)).isSome) := by
  have mine := kept.shared id update found
  have waits : Has processor.updates update.key false id :=
    ⟨update,found,rfl,idle id update found rfl⟩
  obtain ⟨other,⟨another,present,same,waiting⟩,lock,moves⟩ :=
    (kept.served _ _ mine).not_stuck waits (by
      rintro other ⟨another,present,same,runs⟩
      rw [idle other another present same] at runs
      contradiction)
  have its := kept.shared other another present
  rw [same,mine] at its
  rw [Option.some.inj its] at moves
  refine ⟨other,another,present,same,?_⟩
  rcases moves with resumed | unwound
  · exact .inl (by simp [step,present,waiting,resumed])
  · exact .inr (by simp [step,present,waiting,unwound])

theorem Kept.serialised {processor : Processor} (kept : Kept processor) :
    Serialised processor := by
  refine ⟨?_,kept.order,?_,fun _ _ found => kept.ready found,?_,kept.counted⟩
  · intro id other update another found found' running running' same
    have served := kept.served update.key update.lock (kept.shared id update found)
    exact served.alone id other ⟨update,found,rfl,running⟩ ⟨another,found',same.symm,running'⟩
  · intro id other update another found found' same
    have first := kept.shared id update found
    rw [same] at first
    exact kept.distinct _ _ _ first (kept.shared other another found')
  · intro key
    rw [← AList.lookup_isSome,Option.isSome_iff_ne_none,ne_eq,kept.used key,inFlight_eq_zero]
    simp

structure Local (key : Int) (lock : Nat) (before after : Processor) : Prop where
  own : ∀ other, other ≠ key → before.locks.lookup other ≠ some lock
  known : lock < after.nextLock
  nextLock : before.nextLock ≤ after.nextLock
  locks : ∀ other, other ≠ key → after.locks.lookup other = before.locks.lookup other
  refs : ∀ other, other ≠ key → after.refs.lookup other = before.refs.lookup other
  objects : ∀ other, other ≠ lock → object other after = object other before
  rows : ∀ id update, update.key ≠ key →
    (after.updates.lookup id = some update ↔ before.updates.lookup id = some update)
  count : ∀ other, other ≠ key → inFlight other after = inFlight other before
  started : ∀ other, other ≠ key → startedOf other after = startedOf other before

theorem Local.served {key other : Int} {lock another : Nat} {before after : Processor}
    (change : Local key lock before after) (kept : Kept before) (differs : other ≠ key)
    (found : before.locks.lookup other = some another) :
    (object another after).Served (Has after.updates other false) (Has after.updates other true)
      (startedOf other after) := by
  have apart : another ≠ lock := by
    rintro rfl
    exact change.own other differs found
  have same (running : Bool) (id : Nat) :
      Has after.updates other running id ↔ Has before.updates other running id := by
    refine exists_congr (fun update => ?_)
    by_cases elsewhere : update.key = other
    · rw [change.rows id update (by rwa [elsewhere])]
    · simp [elsewhere]
  rw [change.objects another apart,change.started other differs]
  exact (kept.served other another found).congr (same false) (same true)

structure Here (key : Int) (lock : Nat) (processor : Processor) : Prop where
  known : ∀ id update, processor.updates.lookup id = some update → id < processor.nextUpdate
  began : ∀ item ∈ processor.started, item.2 < processor.nextUpdate
  shared : ∀ id update, processor.updates.lookup id = some update → update.key = key →
    update.lock = lock
  found : processor.locks.lookup key =
    if inFlight key processor = 0 then none else some lock
  counted : processor.refs.lookup key =
    if inFlight key processor = 0 then none else some (inFlight key processor)
  served : (object lock processor).Served (Has processor.updates key false)
    (Has processor.updates key true) (startedOf key processor)

theorem inFlight_pos {key : Int} {processor : Processor} {id : Nat} {update : Update}
    (found : processor.updates.lookup id = some update) (same : update.key = key) :
    inFlight key processor ≠ 0 :=
  fun zero => inFlight_eq_zero.mp zero id update found same

theorem Kept.step_local {before after : Processor} {key : Int} {lock : Nat} (kept : Kept before)
    (change : Local key lock before after) (here : Here key lock after) : Kept after := by
  have mine (another : Nat) (found : after.locks.lookup key = some another) : another = lock := by
    rw [here.found] at found
    split at found
    · contradiction
    · exact (Option.some.inj found).symm
  refine ⟨here.known,here.began,?_,?_,?_,?_,?_,?_,?_⟩
  · intro id update found
    by_cases same : update.key = key
    · rw [same,here.found,if_neg (inFlight_pos found same),here.shared id update found same]
    · rw [change.locks _ same]
      exact kept.shared id update ((change.rows id update same).mp found)
  · intro first second another found found'
    by_cases same : first = key <;> by_cases same' : second = key
    · rw [same,same']
    · rw [change.locks _ same',mine another (same ▸ found)] at found'
      exact absurd found' (change.own second same')
    · rw [change.locks _ same,mine another (same' ▸ found')] at found
      exact absurd found (change.own first same)
    · rw [change.locks _ same] at found
      rw [change.locks _ same'] at found'
      exact kept.distinct first second another found found'
  · intro other another found
    by_cases same : other = key
    · rw [mine another (same ▸ found)]
      exact change.known
    · rw [change.locks _ same] at found
      exact lt_of_lt_of_le (kept.fresh other another found) change.nextLock
  · intro other
    by_cases same : other = key
    · rw [same]
      exact here.counted
    · rw [change.refs _ same,change.count _ same]
      exact kept.counted other
  · intro other
    by_cases same : other = key
    · rw [same,here.found]
      split
      next zero => exact iff_of_true rfl zero
      next some => exact iff_of_false (by simp) some
    · rw [change.locks _ same,change.count _ same]
      exact kept.used other
  · intro other another found
    by_cases same : other = key
    · subst same
      rw [mine another found]
      exact here.served
    · rw [change.locks _ same] at found
      exact change.served kept same found
  · intro other
    by_cases same : other = key
    · rw [same]
      exact here.served.order
    · rw [change.started other same]
      exact kept.order other

theorem rows_insert {updates : Table Nat Update} {id : Nat} (new : Update)
    (before : ∀ old, updates.lookup id = some old → old.key = new.key) (other : Nat)
    (update : Update) (differs : update.key ≠ new.key) :
    (updates.insert id new).lookup other = some update ↔ updates.lookup other = some update := by
  by_cases same : other = id
  · subst same
    rw [AList.lookup_insert]
    refine iff_of_false ?_ (fun found => differs (before update found))
    intro found
    exact differs (by rw [← Option.some.inj found])
  · rw [AList.lookup_insert_ne same]

theorem rows_erase {updates : Table Nat Update} {id : Nat} {old : Update}
    (before : updates.lookup id = some old) (other : Nat) (update : Update)
    (differs : update.key ≠ old.key) :
    (updates.erase id).lookup other = some update ↔ updates.lookup other = some update := by
  by_cases same : other = id
  · subst same
    rw [AList.lookup_erase,before]
    refine iff_of_false (by simp) ?_
    intro found
    exact differs (by rw [Option.some.inj found])
  · rw [AList.lookup_erase_ne same]

theorem startedOf_begin (key other : Int) (id : Nat) (started : List (Int × Nat)) :
    (((key,id) :: started).filter (fun item => item.1 = other)).map Prod.snd =
      if other = key then id :: (started.filter (fun item => item.1 = other)).map Prod.snd
      else (started.filter (fun item => item.1 = other)).map Prod.snd := by
  by_cases same : key = other
  · simp [same]
  · simp [same,Ne.symm same]

theorem count_insert {updates : Table Nat Update} {id : Nat} (new : Update)
    (before : ∀ old, updates.lookup id = some old → old.key = new.key) (key : Int) :
    countWhere (fun _ update => update.key == key) (updates.insert id new) =
      countWhere (fun _ update => update.key == key) updates +
        if new.key = key ∧ updates.lookup id = none then 1 else 0 := by
  rw [countWhere_insert,countWhere_split _ updates id]
  cases found : updates.lookup id with
  | none => simp
  | some old => simp [before old found]

theorem count_erase {updates : Table Nat Update} {id : Nat} {old : Update}
    (before : updates.lookup id = some old) (key : Int) :
    countWhere (fun _ update => update.key == key) updates =
      countWhere (fun _ update => update.key == key) (updates.erase id) +
        if old.key = key then 1 else 0 := by
  rw [countWhere_split _ updates id,before]
  simp

theorem object_setObject (lock other : Nat) (value : Lock) (processor : Processor) :
    object other (setObject lock value processor) =
      if other = lock then value else object other processor := by
  unfold object setObject
  by_cases same : other = lock
  · subst same
    simp
  · simp [AList.lookup_insert_ne same,same]

@[simp] theorem updates_setObject (lock : Nat) (value : Lock) (processor : Processor) :
    (setObject lock value processor).updates = processor.updates := rfl

theorem Kept.own {processor : Processor} (kept : Kept processor) {key : Int} {lock : Nat}
    (mine : processor.locks.lookup key = some lock) (other : Int) (differs : other ≠ key) :
    processor.locks.lookup other ≠ some lock :=
  fun found => differs (kept.distinct other key lock found mine)

variable {processor : Processor} {id : Nat} {update : Update}

theorem Kept.cancel (kept : Kept processor) (found : processor.updates.lookup id = some update) :
    Kept (setObject update.lock ((object update.lock processor).cancel id) processor) := by
  have mine := kept.shared id update found
  have change : Local update.key update.lock processor
      (setObject update.lock ((object update.lock processor).cancel id) processor) := by
    refine ⟨kept.own mine,kept.fresh _ _ mine,le_refl _,fun _ _ => rfl,fun _ _ => rfl,?_,
      fun _ _ _ => Iff.rfl,fun _ _ => rfl,fun _ _ => rfl⟩
    intro other differs
    rw [object_setObject,if_neg differs]
  refine kept.step_local change ⟨kept.known,kept.began,?_,?_,kept.counted _,?_⟩
  · intro other another present same
    have its := kept.shared other another present
    rw [same,mine] at its
    exact (Option.some.inj its).symm
  · exact mine.trans (if_neg (inFlight_pos found rfl)).symm
  · rw [object_setObject,if_pos rfl]
    exact (kept.served _ _ mine).cancel id

theorem Kept.resume (kept : Kept processor) (found : processor.updates.lookup id = some update)
    {lock : Lock}
    (resumed : (object update.lock processor).resume id = some lock) :
    Kept (begin id update (setObject update.lock lock processor)) := by
  have mine := kept.shared id update found
  obtain ⟨free,served⟩ := (kept.served _ _ mine).resume resumed
  have idle := (kept.served _ _ mine).idle free
  have same (old : Update) (was : processor.updates.lookup id = some old) :
      old.key = update.key := by
    cases Option.some.inj (found.symm.trans was)
    rfl
  have count (key : Int) : inFlight key (begin id update (setObject update.lock lock processor)) =
      inFlight key processor := by
    refine (count_insert {update with running := true} same key).trans ?_
    simp [found,inFlight]
  have change : Local update.key update.lock processor
      (begin id update (setObject update.lock lock processor)) := by
    refine ⟨kept.own mine,kept.fresh _ _ mine,le_refl _,fun _ _ => rfl,fun _ _ => rfl,?_,
      rows_insert {update with running := true} same,fun other _ => count other,?_⟩
    · intro other differs
      exact (object_setObject _ _ _ _).trans (if_neg differs)
    · intro other differs
      exact (startedOf_begin update.key other id processor.started).trans (if_neg differs)
  refine kept.step_local change ⟨?_,?_,?_,?_,?_,?_⟩
  · intro other row present
    rcases lookup_insert_some present with ⟨rfl,_⟩ | ⟨_,was⟩
    · exact kept.known _ update found
    · exact kept.known other row was
  · intro item member
    rcases List.mem_cons.mp member with rfl | before
    · exact kept.known id update found
    · exact kept.began item before
  · intro other row present equal
    rcases lookup_insert_some present with ⟨_,rfl⟩ | ⟨_,was⟩
    · rfl
    · have its := kept.shared other row was
      rw [equal,mine] at its
      exact (Option.some.inj its).symm
  · rw [count]
    exact mine.trans (if_neg (inFlight_pos found rfl)).symm
  · rw [count]
    exact kept.counted _
  · have now : object update.lock (begin id update (setObject update.lock lock processor)) =
        lock := (object_setObject _ _ _ _).trans (if_pos rfl)
    have begun : startedOf update.key (begin id update (setObject update.lock lock processor)) =
        id :: startedOf update.key processor :=
      (startedOf_begin update.key update.key id processor.started).trans (if_pos rfl)
    rw [now,begun]
    refine served.congr ?_ ?_
    · intro other
      refine (has_insert _ _ _ _ _ _).trans ?_
      simp [and_comm]
    · intro other
      refine (has_insert _ _ _ _ _ _).trans ?_
      simp [idle other]

theorem leave_frame (id : Nat) (key : Int) (processor : Processor) :
    (leave id key processor).updates = processor.updates.erase id ∧
      (leave id key processor).objects = processor.objects ∧
      (leave id key processor).nextLock = processor.nextLock ∧
      (leave id key processor).nextUpdate = processor.nextUpdate ∧
      (leave id key processor).started = processor.started := by
  unfold leave
  split
  · exact ⟨rfl,rfl,rfl,rfl,rfl⟩
  · split <;> exact ⟨rfl,rfl,rfl,rfl,rfl⟩

theorem leave_elsewhere (id : Nat) (processor : Processor) {key other : Int}
    (differs : other ≠ key) :
    (leave id key processor).locks.lookup other = processor.locks.lookup other ∧
      (leave id key processor).refs.lookup other = processor.refs.lookup other := by
  unfold leave
  split
  · exact ⟨rfl,rfl⟩
  · split
    · exact ⟨AList.lookup_erase_ne differs,AList.lookup_erase_ne differs⟩
    · exact ⟨rfl,AList.lookup_insert_ne differs⟩

theorem leave_here (id : Nat) {processor : Processor} {key : Int} {count : Nat}
    (counted : processor.refs.lookup key = some count) :
    (leave id key processor).locks.lookup key =
        (if count - 1 = 0 then none else processor.locks.lookup key) ∧
      (leave id key processor).refs.lookup key =
        if count - 1 = 0 then none else some (count - 1) := by
  simp only [leave,counted,Nat.le_zero_eq]
  split
  · exact ⟨AList.lookup_erase _ _,AList.lookup_erase _ _⟩
  · exact ⟨rfl,AList.lookup_insert _⟩

theorem Kept.leave (kept : Kept processor) (found : processor.updates.lookup id = some update)
    {lock : Lock}
    (served : lock.Served (fun other => Has processor.updates update.key false other ∧ other ≠ id)
      (fun other => Has processor.updates update.key true other ∧ other ≠ id)
      (startedOf update.key processor)) :
    Kept (leave id update.key (setObject update.lock lock processor)) := by
  have mine := kept.shared id update found
  have counted := kept.counted update.key
  rw [if_neg (inFlight_pos found rfl)] at counted
  have frame := leave_frame id update.key (setObject update.lock lock processor)
  have here := leave_here id (show (setObject update.lock lock processor).refs.lookup update.key =
    some (inFlight update.key processor) from counted)
  generalize after_eq : OrderedProcessor.leave id update.key
    (setObject update.lock lock processor) = after at frame here ⊢
  obtain ⟨updates,objects,nextLock,nextUpdate,started⟩ := frame
  have count (key : Int) : inFlight key processor =
      inFlight key after + if update.key = key then 1 else 0 := by
    rw [inFlight,inFlight,updates]
    exact count_erase found key
  have less : inFlight update.key processor - 1 = inFlight update.key after := by
    rw [count update.key,if_pos rfl]
    omega
  have object_eq (other : Nat) : object other after =
      if other = update.lock then lock else object other processor := by
    rw [← object_setObject]
    unfold object
    rw [objects]
  have started_eq (key : Int) : startedOf key after = startedOf key processor := by
    unfold startedOf
    rw [started]
    rfl
  have change : Local update.key update.lock processor after := by
    refine ⟨kept.own mine,?_,?_,?_,?_,?_,?_,?_,fun other _ => started_eq other⟩
    · rw [nextLock]
      exact kept.fresh _ _ mine
    · exact le_of_eq nextLock.symm
    · intro other differs
      rw [← after_eq]
      exact (leave_elsewhere id _ differs).1
    · intro other differs
      rw [← after_eq]
      exact (leave_elsewhere id _ differs).2
    · intro other differs
      rw [object_eq,if_neg differs]
    · rw [updates]
      exact rows_erase found
    · intro other differs
      rw [count other,if_neg differs.symm]
      rfl
  refine kept.step_local change ⟨?_,?_,?_,?_,?_,?_⟩
  · intro other row present
    rw [updates] at present
    rw [nextUpdate]
    exact kept.known other row (lookup_erase_some present).2
  · intro item member
    rw [started] at member
    rw [nextUpdate]
    exact kept.began item member
  · intro other row present same
    rw [updates] at present
    have its := kept.shared other row (lookup_erase_some present).2
    rw [same,mine] at its
    exact (Option.some.inj its).symm
  · rw [here.1,less]
    exact ite_congr rfl (fun _ => rfl) (fun _ => mine)
  · rw [here.2,less]
  · rw [object_eq,if_pos rfl,started_eq,updates]
    refine served.congr ?_ ?_
    · intro other
      exact (has_erase _ _ _ _ _).trans and_comm
    · intro other
      exact (has_erase _ _ _ _ _).trans and_comm

structure Found (key : Int) (lock : Nat) (before found : Processor) : Prop where
  updates : found.updates = before.updates
  refs : found.refs = before.refs
  started : found.started = before.started
  nextUpdate : found.nextUpdate = before.nextUpdate
  nextLock : before.nextLock ≤ found.nextLock
  own : ∀ other, other ≠ key → before.locks.lookup other ≠ some lock
  known : lock < found.nextLock
  mine : found.locks.lookup key = some lock
  locks : ∀ other, other ≠ key → found.locks.lookup other = before.locks.lookup other
  objects : ∀ other, other ≠ lock → object other found = object other before
  shared : ∀ id update, before.updates.lookup id = some update → update.key = key →
    update.lock = lock
  served : (object lock found).Served (Has before.updates key false)
    (Has before.updates key true) (startedOf key before)

theorem Kept.registered (kept : Kept processor) (key : Int) :
    Found key (setdefault key processor).1 processor (setdefault key processor).2 := by
  unfold setdefault
  cases mine : processor.locks.lookup key with
  | some lock =>
    refine ⟨rfl,rfl,rfl,rfl,le_refl _,kept.own mine,kept.fresh key lock mine,mine,
      fun _ _ => rfl,fun _ _ => rfl,?_,kept.served key lock mine⟩
    intro id update found same
    have its := kept.shared id update found
    rw [same,mine] at its
    exact (Option.some.inj its).symm
  | none =>
    have unused := inFlight_eq_zero.mp ((kept.used key).mp mine)
    have nobody (running : Bool) (id : Nat) : ¬ Has processor.updates key running id := by
      rintro ⟨update,found,same,_⟩
      exact unused id update found same
    refine ⟨rfl,rfl,rfl,rfl,Nat.le_succ _,?_,Nat.lt_succ_self _,AList.lookup_insert _,
      fun _ differs => AList.lookup_insert_ne differs,?_,?_,?_⟩
    · intro other _ found
      exact Nat.lt_irrefl _ (kept.fresh other _ found)
    · intro other differs
      simp [object,AList.lookup_insert_ne differs]
    · intro id update found same
      exact absurd same (unused id update found)
    · have new := Lock.Served.new (kept.order key)
      simpa [object] using new.congr (fun id => iff_false_intro (nobody false id))
        (fun id => iff_false_intro (nobody true id))

structure Arrived (key : Int) (lock : Nat) (before found after : Processor) : Prop where
  updates : after.updates = before.updates.insert before.nextUpdate
    ⟨key,lock,(object lock found).vacant⟩
  refs : after.refs = before.refs.insert key ((before.refs.lookup key).getD 0 + 1)
  locks : after.locks = found.locks
  objects : after.objects =
    found.objects.insert lock ((object lock found).acquire before.nextUpdate)
  nextLock : after.nextLock = found.nextLock
  nextUpdate : after.nextUpdate = before.nextUpdate + 1
  started : after.started = if (object lock found).vacant then
    (key,before.nextUpdate) :: before.started else before.started

theorem Found.arrive {key : Int} {lock : Nat} {found : Processor}
    (is : Found key lock processor found) (chat : Option Int) (isKey : keyOf chat = key)
    (registered : setdefault key processor = (lock,found)) :
    Arrived key lock processor found (arrive chat processor) := by
  subst isKey
  simp only [OrderedProcessor.arrive,registered]
  cases vacant : (object lock found).vacant with
  | true =>
    refine ⟨?_,?_,rfl,rfl,rfl,rfl,?_⟩
    · rw [vacant,← is.updates]
      exact AList.insert_insert _
    · rw [← is.refs]
      rfl
    · rw [if_pos vacant,← is.started]
      rfl
  | false =>
    refine ⟨?_,?_,rfl,rfl,rfl,rfl,?_⟩
    · rw [vacant,← is.updates]
      rfl
    · rw [← is.refs]
      rfl
    · rw [if_neg (Bool.eq_false_iff.mp vacant),← is.started]
      rfl

theorem Kept.newest (kept : Kept processor) (key : Int) :
    (∀ running id, Has processor.updates key running id → id < processor.nextUpdate) ∧
      ∀ earlier ∈ startedOf key processor, earlier < processor.nextUpdate := by
  constructor
  · rintro running id ⟨update,found,_⟩
    exact kept.known id update found
  · intro earlier member
    obtain ⟨item,kind,rfl⟩ := List.mem_map.mp member
    exact kept.began item (List.mem_of_mem_filter kind)

theorem Kept.absent (kept : Kept processor) :
    processor.updates.lookup processor.nextUpdate = none := by
  cases present : processor.updates.lookup processor.nextUpdate with
  | none => rfl
  | some update => exact absurd (kept.known _ update present) (Nat.lt_irrefl _)

theorem Kept.overwrites_nothing (kept : Kept processor) (update old : Update)
    (was : processor.updates.lookup processor.nextUpdate = some old) : old.key = update.key := by
  rw [kept.absent] at was
  contradiction

section Arrival
variable {key : Int} {lock : Nat} {found after : Processor}

theorem Arrived.inFlight_eq (arrived : Arrived key lock processor found after)
    (kept : Kept processor) (other : Int) :
    inFlight other after = inFlight other processor + if key = other then 1 else 0 := by
  rw [inFlight,arrived.updates,count_insert _ (kept.overwrites_nothing _),kept.absent]
  simp [inFlight]

theorem Arrived.object_eq (arrived : Arrived key lock processor found after) (other : Nat) :
    object other after = if other = lock then (object lock found).acquire processor.nextUpdate
      else object other found := by
  rw [← object_setObject]
  unfold object
  rw [arrived.objects]
  rfl

theorem Arrived.startedOf_eq (arrived : Arrived key lock processor found after) (other : Int) :
    startedOf other after = if (object lock found).vacant = true ∧ other = key then
      processor.nextUpdate :: startedOf other processor else startedOf other processor := by
  rw [startedOf,arrived.started]
  cases (object lock found).vacant with
  | true => simpa [startedOf] using startedOf_begin key other processor.nextUpdate _
  | false => simp [startedOf]

theorem Arrived.local (arrived : Arrived key lock processor found after)
    (is : Found key lock processor found) (kept : Kept processor) :
    Local key lock processor after := by
  refine ⟨is.own,?_,?_,?_,?_,?_,?_,?_,?_⟩
  · rw [arrived.nextLock]
    exact is.known
  · rw [arrived.nextLock]
    exact is.nextLock
  · intro other differs
    rw [arrived.locks]
    exact is.locks other differs
  · intro other differs
    rw [arrived.refs]
    exact AList.lookup_insert_ne differs
  · intro other differs
    rw [arrived.object_eq,if_neg differs]
    exact is.objects other differs
  · rw [arrived.updates]
    exact rows_insert ⟨key,lock,(object lock found).vacant⟩ (kept.overwrites_nothing _)
  · intro other differs
    rw [arrived.inFlight_eq kept other,if_neg differs.symm]
    rfl
  · intro other differs
    rw [arrived.startedOf_eq,if_neg (fun both => differs both.2)]

theorem Arrived.served (arrived : Arrived key lock processor found after)
    (is : Found key lock processor found) (kept : Kept processor) :
    (object lock after).Served (Has after.updates key false) (Has after.updates key true)
      (startedOf key after) := by
  obtain ⟨before,last⟩ := kept.newest key
  have older (running : Bool) (other : Nat) (has : Has processor.updates key running other) :
      other ≠ processor.nextUpdate := Nat.ne_of_lt (before running other has)
  rw [arrived.object_eq,if_pos rfl,arrived.startedOf_eq,arrived.updates]
  cases vacant : (object lock found).vacant with
  | true =>
    have served := is.served.take vacant (before false) last
    rw [if_pos ⟨rfl,rfl⟩]
    have idle := is.served.idle (by
      simp only [Lock.vacant,Bool.and_eq_true,Bool.not_eq_true'] at vacant
      exact vacant.1)
    refine served.congr ?_ ?_
    · intro other
      rw [has_insert]
      simpa using older false other
    · intro other
      rw [has_insert]
      simp [idle other]
  | false =>
    have served := is.served.enqueue vacant (before false) last
    rw [if_neg (by simp)]
    refine served.congr ?_ ?_
    · intro other
      rw [has_insert,or_comm]
      simpa using or_congr_left (and_iff_right_of_imp (older false other))
    · intro other
      rw [has_insert]
      simpa using older true other

end Arrival

theorem Kept.arrive (kept : Kept processor) (chat : Option Int) :
    Kept (arrive chat processor) := by
  obtain ⟨key,isKey⟩ : ∃ key, keyOf chat = key := ⟨_,rfl⟩
  obtain ⟨lock,found,registered⟩ : ∃ lock found, setdefault key processor = (lock,found) :=
    ⟨_,_,rfl⟩
  have is := kept.registered key
  rw [registered] at is
  have arrived := is.arrive chat isKey registered
  generalize OrderedProcessor.arrive chat processor = after at arrived ⊢
  have some : inFlight key after ≠ 0 := by
    rw [arrived.inFlight_eq kept key,if_pos rfl]
    exact Nat.succ_ne_zero _
  refine kept.step_local (arrived.local is kept) ⟨?_,?_,?_,?_,?_,arrived.served is kept⟩
  · intro other row present
    rw [arrived.updates] at present
    rw [arrived.nextUpdate]
    rcases lookup_insert_some present with ⟨rfl,_⟩ | ⟨_,was⟩
    · exact Nat.lt_succ_self _
    · exact Nat.lt_succ_of_lt (kept.known other row was)
  · intro item member
    rw [arrived.nextUpdate]
    rw [arrived.started] at member
    split at member
    · rcases List.mem_cons.mp member with rfl | old
      · exact Nat.lt_succ_self _
      · exact Nat.lt_succ_of_lt (kept.began item old)
    · exact Nat.lt_succ_of_lt (kept.began item member)
  · intro other row present same
    rw [arrived.updates] at present
    rcases lookup_insert_some present with ⟨_,rfl⟩ | ⟨_,was⟩
    · rfl
    · exact is.shared other row was same
  · rw [arrived.locks,if_neg some]
    exact is.mine
  · rw [arrived.refs,if_neg some,AList.lookup_insert,arrived.inFlight_eq kept key,if_pos rfl,
      kept.counted key]
    split
    next none => simp [none]
    next => rfl

theorem Kept.step {after : Processor} (kept : Kept processor) {event : Event}
    (taken : step processor event = some after) : Kept after := by
  cases event with
  | arrive chat =>
    cases Option.some.inj taken
    exact kept.arrive chat
  | resume id =>
    obtain ⟨update,found,taken⟩ := Option.bind_eq_some_iff.mp taken
    split at taken
    next => contradiction
    next =>
      obtain ⟨lock,resumed,rfl⟩ := Option.map_eq_some_iff.mp taken
      exact kept.resume found resumed
  | cancel id =>
    obtain ⟨update,found,rfl⟩ := Option.map_eq_some_iff.mp taken
    split
    next => exact kept
    next => exact kept.cancel found
  | unwind id =>
    obtain ⟨update,found,taken⟩ := Option.bind_eq_some_iff.mp taken
    split at taken
    next => contradiction
    next waits =>
      obtain ⟨lock,unwound,rfl⟩ := Option.map_eq_some_iff.mp taken
      refine kept.leave found (((kept.served _ _ (kept.shared id update found)).unwind
        unwound).congr (fun _ => Iff.rfl) ?_)
      intro other
      refine and_iff_left_of_imp ?_
      rintro runs rfl
      exact waits (has_only found runs).2
  | finish id =>
    obtain ⟨update,found,taken⟩ := Option.bind_eq_some_iff.mp taken
    split at taken
    next runs =>
      cases Option.some.inj taken
      have served := kept.served _ _ (kept.shared id update found)
      refine kept.leave found (served.release.congr ?_ ?_)
      · intro other
        refine and_iff_left_of_imp ?_
        rintro waits rfl
        have still := (has_only found waits).2
        rw [runs] at still
        contradiction
      · intro other
        refine iff_false_intro ?_
        rintro ⟨also,differs⟩
        exact differs (served.alone other id also ⟨update,found,rfl,runs⟩)
    next => contradiction

/-- Whatever arrives, and in whatever order handlers are suspended, end, fail or are
cancelled, the updates of a chat are serialised. -/
theorem run_serialised {after : Processor}
    (reached : Reach step always Processor.new after) : Serialised after :=
  (reached.invariant Kept Kept.new (fun _ _ _ kept _ taken => kept.step taken)).serialised

/-- Two updates of a chat, of which the second waits when the first is cancelled, and one of
another chat. -/
def cancelledRun : List Event :=
  [.arrive (some 7),.arrive (some 7),.arrive (some 7),.arrive (some 8),.cancel 1,.finish 0,
    .unwind 1,.resume 2]

theorem run_serialised_cancelled : ∃ after,
    cancelledRun.foldlM (guarded step always) Processor.new = some after ∧
      startedOf 7 after = [2,0] ∧ inFlight 7 after = 1 ∧ Serialised after := by
  obtain ⟨after,run,started,flight⟩ : ∃ after,
      cancelledRun.foldlM (guarded step always) Processor.new = some after ∧
        startedOf 7 after = [2,0] ∧ inFlight 7 after = 1 := ⟨_,rfl,rfl,rfl⟩
  exact ⟨after,run,started,flight,run_serialised (reach_of_run _ run)⟩

end AtronixX.OrderedProcessor
