import AtronixX.Library.AsyncLock

/-! `asyncio.Semaphore`. A permit is taken at once when one is left and everybody who waits has
been cancelled; else its taker waits in a queue. A release wakes the first who still waits, and
reserves the permit for it. A waiter that leaves the queue wakes as many others as there are
permits left, and first gives back the one reserved for it if it was cancelled. -/
namespace AtronixX.Library.AsyncSemaphore
open AsyncLock

def reserved (waiter : Nat × Future) : Bool :=
  match waiter.2 with
  | .woken => true
  | .doomed => true
  | _ => false

/-- The permits that are left, and the tasks that wait for one, numbered as they came. -/
structure Semaphore where
  value : Nat
  waiters : List (Nat × Future)
  deriving DecidableEq, Repr

def Semaphore.new (limit : Nat) : Semaphore := ⟨limit,[]⟩

def Semaphore.locked (semaphore : Semaphore) : Bool :=
  semaphore.value == 0 || semaphore.waiters.any fun waiter => waiter.2 != .cancelled

/-- The first that still waits is woken, if there is one. -/
def wakeNext : List (Nat × Future) → Option (List (Nat × Future))
  | [] => none
  | (task,.pending) :: rest => some ((task,.woken) :: rest)
  | waiter :: rest => (wakeNext rest).map fun rest => waiter :: rest

/-- `while self._value > 0: if not self._wake_up_next(): break`. -/
def wake : Nat → List (Nat × Future) → Semaphore
  | 0, waiters => ⟨0,waiters⟩
  | value + 1, waiters => match wakeNext waiters with
    | none => ⟨value + 1,waiters⟩
    | some waiters => wake value waiters

/-- `acquire` up to its await; a permit is taken when the semaphore was not `locked`. -/
def Semaphore.acquire (task : Nat) (semaphore : Semaphore) : Semaphore :=
  if semaphore.locked then
    {semaphore with waiters := semaphore.waiters ++ [(task,.pending)]}
  else {semaphore with value := semaphore.value - 1}

def without (task : Nat) (waiters : List (Nat × Future)) : List (Nat × Future) :=
  waiters.filter fun waiter => waiter.1 != task

/-- A woken waiter runs. -/
def Semaphore.resume (task : Nat) (semaphore : Semaphore) : Option Semaphore :=
  if semaphore.waiters.contains (task,.woken) then
    some (wake semaphore.value (without task semaphore.waiters))
  else none

def Semaphore.cancel (task : Nat) (semaphore : Semaphore) : Semaphore :=
  {semaphore with waiters := semaphore.waiters.map fun waiter =>
    if waiter.1 = task then (waiter.1,waiter.2.cancel) else waiter}

/-- A cancelled waiter runs. -/
def Semaphore.unwind (task : Nat) (semaphore : Semaphore) : Option Semaphore :=
  if semaphore.waiters.contains (task,.doomed) then
    some (wake (semaphore.value + 1) (without task semaphore.waiters))
  else if semaphore.waiters.contains (task,.cancelled) then
    some (wake semaphore.value (without task semaphore.waiters))
  else none

def Semaphore.release (semaphore : Semaphore) : Semaphore :=
  match wakeNext semaphore.waiters with
  | none => {semaphore with value := semaphore.value + 1}
  | some waiters => {semaphore with waiters := waiters}

def Semaphore.tasks (semaphore : Semaphore) : List Nat := semaphore.waiters.map Prod.fst

/-- Nobody for whom a permit is reserved stands behind one who still waits. -/
def InTurn (waiters : List (Nat × Future)) : Prop :=
  waiters.Pairwise fun one two => one.2 = .pending → reserved two = false

theorem wakeNext_eq_none {waiters : List (Nat × Future)} :
    wakeNext waiters = none ↔ ∀ waiter ∈ waiters, waiter.2 ≠ .pending := by
  induction waiters with
  | nil => simp [wakeNext]
  | cons waiter rest ih =>
    obtain ⟨task,future⟩ := waiter
    cases future <;> simp [wakeNext,ih]

theorem wakeNext_eq_some {waiters woken : List (Nat × Future)}
    (is : wakeNext waiters = some woken) :
    ∃ before task after, waiters = before ++ (task,.pending) :: after ∧
      woken = before ++ (task,.woken) :: after ∧ ∀ waiter ∈ before, waiter.2 ≠ .pending := by
  induction waiters generalizing woken with
  | nil => contradiction
  | cons waiter rest ih =>
    obtain ⟨task,future⟩ := waiter
    by_cases waits : future = .pending
    · subst waits
      cases is
      exact ⟨[],task,rest,rfl,rfl,by simp⟩
    · have tail : (wakeNext rest).map (fun rest => (task,future) :: rest) = some woken := by
        cases future <;> first | contradiction | exact is
      obtain ⟨woken,next,rfl⟩ := Option.map_eq_some_iff.mp tail
      obtain ⟨before,first,after,rfl,rfl,done⟩ := ih next
      refine ⟨(task,future) :: before,first,after,rfl,rfl,?_⟩
      intro waiter member
      rcases List.mem_cons.mp member with rfl | member
      · exact waits
      · exact done waiter member

theorem inTurn_wakeNext {waiters woken : List (Nat × Future)} (inTurn : InTurn waiters)
    (is : wakeNext waiters = some woken) : InTurn woken := by
  obtain ⟨before,task,after,rfl,rfl,done⟩ := wakeNext_eq_some is
  obtain ⟨one,two,apart⟩ := List.pairwise_append.mp inTurn
  obtain ⟨_,two⟩ := List.pairwise_cons.mp two
  refine List.pairwise_append.mpr ⟨one,List.pairwise_cons.mpr ⟨by simp,two⟩,?_⟩
  intro first member second _ waits
  exact absurd waits (done first member)

/-- What is left after permits are given to those who wait. -/
structure Woken (value : Nat) (waiters : List (Nat × Future)) (after : Semaphore) : Prop where
  tasks : after.tasks = waiters.map Prod.fst
  total : after.value + after.waiters.countP reserved = value + waiters.countP reserved
  inTurn : InTurn waiters → InTurn after.waiters
  satisfied : after.value = 0 ∨ ∀ waiter ∈ after.waiters, waiter.2 ≠ .pending

theorem woken_wake (value : Nat) (waiters : List (Nat × Future)) :
    Woken value waiters (wake value waiters) := by
  induction value generalizing waiters with
  | zero => exact ⟨rfl,rfl,id,.inl rfl⟩
  | succ value ih =>
    unfold wake
    cases is : wakeNext waiters with
    | none => exact ⟨rfl,rfl,id,.inr (wakeNext_eq_none.mp is)⟩
    | some woken =>
      have after := ih woken
      obtain ⟨before,task,rest,same,same',_⟩ := wakeNext_eq_some is
      refine ⟨after.tasks.trans (by simp [same,same']),after.total.trans ?_,fun inTurn =>
        after.inTurn (inTurn_wakeNext inTurn is),after.satisfied⟩
      simp only [same,same',List.countP_append,List.countP_cons,reserved]
      simp only [Bool.false_eq_true,if_false,if_true]
      omega

/-- Every permit is left, reserved or held. Those who wait do so in the order they came, and a
permit that is left is not left for long when somebody waits. -/
structure Semaphore.Served (semaphore : Semaphore) (limit held : Nat) (waits : Nat → Prop) :
    Prop where
  total : semaphore.value + semaphore.waiters.countP reserved + held = limit
  waiting : ∀ task, task ∈ semaphore.tasks ↔ waits task
  sorted : semaphore.tasks.Pairwise (· < ·)
  inTurn : InTurn semaphore.waiters
  awake : 0 < semaphore.value → (∃ waiter ∈ semaphore.waiters, waiter.2 = .pending) →
    ∃ waiter ∈ semaphore.waiters, waiter.2 ≠ .pending

variable {semaphore after : Semaphore} {limit held : Nat} {waits : Nat → Prop} {task : Nat}

theorem Semaphore.Served.congr {waits' : Nat → Prop} (served : semaphore.Served limit held waits)
    (waiting : ∀ task, waits' task ↔ waits task) : semaphore.Served limit held waits' := by
  have same : waits' = waits := funext fun task => propext (waiting task)
  rw [same]
  exact served

theorem Semaphore.Served.new (limit : Nat) : (Semaphore.new limit).Served limit 0 fun _ => False :=
  ⟨by simp [Semaphore.new],by simp [Semaphore.new,Semaphore.tasks],.nil,.nil,
    by simp [Semaphore.new]⟩

theorem Semaphore.Served.held_le (served : semaphore.Served limit held waits) : held ≤ limit := by
  have total := served.total
  omega

theorem Semaphore.Served.take (served : semaphore.Served limit held waits)
    (free : semaphore.locked = false) :
    (semaphore.acquire task).Served limit (held + 1) waits := by
  have taken : semaphore.acquire task = {semaphore with value := semaphore.value - 1} := by
    simp [Semaphore.acquire,free]
  simp only [Semaphore.locked,Bool.or_eq_false_iff,beq_eq_false_iff_ne,ne_eq,
    List.any_eq_false] at free
  rw [taken]
  refine ⟨?_,served.waiting,served.sorted,served.inTurn,?_⟩
  · have total := served.total
    dsimp only
    omega
  · rintro _ ⟨waiter,member,pending⟩
    have cancelled := free.2 waiter member
    rw [pending] at cancelled
    exact absurd rfl cancelled

theorem Semaphore.Served.enqueue (served : semaphore.Served limit held waits)
    (locked : semaphore.locked = true) (newest : ∀ other, waits other → other < task) :
    (semaphore.acquire task).Served limit held fun other => waits other ∨ other = task := by
  have queued : semaphore.acquire task =
      {semaphore with waiters := semaphore.waiters ++ [(task,.pending)]} := by
    simp [Semaphore.acquire,locked]
  rw [queued]
  refine ⟨?_,?_,?_,?_,?_⟩
  · simpa [List.countP_append,reserved] using served.total
  · intro other
    simp only [Semaphore.tasks,List.map_append,List.mem_append,List.map_cons,List.map_nil,
      List.mem_singleton]
    exact or_congr (served.waiting other) Iff.rfl
  · simp only [Semaphore.tasks,List.map_append,List.map_cons,List.map_nil]
    refine List.pairwise_append.mpr ⟨served.sorted,List.pairwise_singleton _ _,?_⟩
    intro other member last same
    rw [List.mem_singleton.mp same]
    exact newest other ((served.waiting other).mp member)
  · refine List.pairwise_append.mpr ⟨served.inTurn,List.pairwise_singleton _ _,?_⟩
    intro one _ two member _
    rw [List.mem_singleton.mp member]
    rfl
  · intro left _
    simp only [Semaphore.locked,Bool.or_eq_true,beq_iff_eq,List.any_eq_true,bne_iff_ne,
      ne_eq] at locked
    rcases locked with none | ⟨waiter,member,_⟩
    · dsimp only at left
      omega
    · by_cases pending : waiter.2 = .pending
      · obtain ⟨ready,there,is⟩ := served.awake left ⟨waiter,member,pending⟩
        exact ⟨ready,List.mem_append_left _ there,is⟩
      · exact ⟨waiter,List.mem_append_left _ member,pending⟩

private theorem mem_without {waiters : List (Nat × Future)} {other : Nat} :
    other ∈ (without task waiters).map Prod.fst ↔ other ∈ waiters.map Prod.fst ∧ other ≠ task := by
  simp only [without,List.mem_map,List.mem_filter,bne_iff_ne]
  constructor
  · rintro ⟨waiter,⟨member,differs⟩,rfl⟩
    exact ⟨⟨waiter,member,rfl⟩,differs⟩
  · rintro ⟨⟨waiter,member,rfl⟩,differs⟩
    exact ⟨waiter,⟨member,differs⟩,rfl⟩

private theorem countP_without {waiters : List (Nat × Future)} {future : Future}
    (sorted : (waiters.map Prod.fst).Pairwise (· < ·)) (member : (task,future) ∈ waiters) :
    waiters.countP reserved =
      (without task waiters).countP reserved + if reserved (task,future) then 1 else 0 := by
  obtain ⟨before,rest,rfl⟩ := List.append_of_mem member
  simp only [List.map_append,List.map_cons] at sorted
  obtain ⟨_,later,earlier⟩ := List.pairwise_append.mp sorted
  obtain ⟨later,_⟩ := List.pairwise_cons.mp later
  have front : without task before = before := by
    refine List.filter_eq_self.mpr fun waiter member => ?_
    have less := earlier waiter.1 (List.mem_map.mpr ⟨waiter,member,rfl⟩) task List.mem_cons_self
    simpa using Nat.ne_of_lt less
  have back : without task rest = rest := by
    refine List.filter_eq_self.mpr fun waiter member => ?_
    have less := later waiter.1 (List.mem_map.mpr ⟨waiter,member,rfl⟩)
    simpa using Nat.ne_of_gt less
  have split : without task (before ++ (task,future) :: rest) =
      without task before ++ without task rest := by
    simp [without]
  rw [split,front,back,List.countP_append,List.countP_append,List.countP_cons]
  omega

private theorem Semaphore.Served.leave (served : semaphore.Served limit held waits)
    {future : Future} {value held' : Nat} (member : (task,future) ∈ semaphore.waiters)
    (paid : value + held' =
      semaphore.value + held + if reserved (task,future) then 1 else 0) :
    (wake value (without task semaphore.waiters)).Served limit held'
      fun other => waits other ∧ other ≠ task := by
  have woken := woken_wake value (without task semaphore.waiters)
  refine ⟨?_,?_,?_,woken.inTurn ?_,?_⟩
  · have total := served.total
    have counted := countP_without served.sorted member
    have rest := woken.total
    omega
  · intro other
    rw [woken.tasks,mem_without]
    exact and_congr_left fun _ => served.waiting other
  · rw [woken.tasks]
    exact served.sorted.sublist (List.filter_sublist.map _)
  · exact List.Pairwise.filter _ served.inTurn
  · rintro left ⟨waiter,there,pending⟩
    rcases woken.satisfied with none | done
    · omega
    · exact absurd pending (done waiter there)

theorem Semaphore.Served.resume (served : semaphore.Served limit held waits)
    (resumed : semaphore.resume task = some after) :
    after.Served limit (held + 1) fun other => waits other ∧ other ≠ task := by
  unfold Semaphore.resume at resumed
  split at resumed
  next member =>
    cases resumed
    exact served.leave (List.contains_iff_mem.mp member) (by simp [reserved]; omega)
  next => contradiction

theorem Semaphore.Served.unwind (served : semaphore.Served limit held waits)
    (unwound : semaphore.unwind task = some after) :
    after.Served limit held fun other => waits other ∧ other ≠ task := by
  unfold Semaphore.unwind at unwound
  split at unwound
  next member =>
    cases unwound
    exact served.leave (List.contains_iff_mem.mp member) (by simp [reserved]; omega)
  next =>
    split at unwound
    next member =>
      cases unwound
      exact served.leave (List.contains_iff_mem.mp member) (by simp [reserved])
    next => contradiction

private theorem reserved_cancel (waiter : Nat × Future) :
    reserved (if waiter.1 = task then (waiter.1,waiter.2.cancel) else waiter) =
      reserved waiter := by
  obtain ⟨id,future⟩ := waiter
  dsimp only
  split
  next => cases future <;> rfl
  next => rfl

private theorem pending_cancel {waiter : Nat × Future}
    (pending : (if waiter.1 = task then (waiter.1,waiter.2.cancel) else waiter).2 = .pending) :
    waiter.2 = .pending := by
  obtain ⟨id,future⟩ := waiter
  dsimp only at pending ⊢
  split at pending
  next => cases future <;> first | rfl | contradiction
  next => exact pending

theorem Semaphore.Served.cancel (served : semaphore.Served limit held waits) (task : Nat) :
    (semaphore.cancel task).Served limit held waits := by
  have same : (semaphore.cancel task).tasks = semaphore.tasks := by
    simp only [Semaphore.cancel,Semaphore.tasks,List.map_map]
    refine List.map_congr_left fun waiter _ => ?_
    simp only [Function.comp_apply]
    split <;> rfl
  refine ⟨?_,fun other => same ▸ served.waiting other,same ▸ served.sorted,?_,?_⟩
  · simp only [Semaphore.cancel,List.countP_map,Function.comp_def,reserved_cancel]
    exact served.total
  · refine List.pairwise_map.mpr (served.inTurn.imp ?_)
    intro one two apart pending
    rw [reserved_cancel]
    exact apart (pending_cancel pending)
  · rintro left ⟨waiter,member,pending⟩
    obtain ⟨old,was,rfl⟩ := List.mem_map.mp member
    obtain ⟨ready,there,is⟩ := served.awake left ⟨old,was,pending_cancel pending⟩
    exact ⟨_,List.mem_map.mpr ⟨ready,there,rfl⟩,fun pending => is (pending_cancel pending)⟩

theorem Semaphore.Served.release (served : semaphore.Served limit (held + 1) waits) :
    semaphore.release.Served limit held waits := by
  have total := served.total
  unfold Semaphore.release
  cases is : wakeNext semaphore.waiters with
  | none =>
    refine ⟨by dsimp only; omega,served.waiting,served.sorted,served.inTurn,?_⟩
    rintro _ ⟨waiter,member,pending⟩
    exact absurd pending (wakeNext_eq_none.mp is waiter member)
  | some woken =>
    obtain ⟨before,first,rest,was,same,_⟩ := wakeNext_eq_some is
    have tasks : woken.map Prod.fst = semaphore.tasks := by simp [Semaphore.tasks,was,same]
    refine ⟨?_,?_,?_,inTurn_wakeNext served.inTurn is,?_⟩
    · simp only [same,was,List.countP_append,List.countP_cons,reserved] at total ⊢
      simp only [Bool.false_eq_true,if_false,if_true] at total ⊢
      omega
    · intro other
      exact (iff_of_eq (congrArg (other ∈ ·) tasks)).trans (served.waiting other)
    · show (woken.map Prod.fst).Pairwise (· < ·)
      rw [tasks]
      exact served.sorted
    · intro _ _
      exact ⟨(first,.woken),by simp [same],by simp⟩

/-- No wakeup is lost: when somebody waits and a permit is not held, some waiter can run. -/
theorem Semaphore.Served.not_stuck (served : semaphore.Served limit held waits)
    (waited : waits task) (room : held < limit) : ∃ ready, waits ready ∧
      ∃ after, semaphore.resume ready = some after ∨ semaphore.unwind ready = some after := by
  have ready : ∃ waiter ∈ semaphore.waiters, waiter.2 ≠ .pending := by
    by_contra asleep
    simp only [not_exists,not_and,not_not] at asleep
    obtain ⟨waiter,member,_⟩ := List.mem_map.mp ((served.waiting task).mpr waited)
    have none : semaphore.waiters.countP reserved = 0 := by
      apply List.countP_eq_zero.mpr
      intro waiter member
      simp [reserved,asleep waiter member]
    have total := served.total
    obtain ⟨other,there,is⟩ := served.awake (by omega) ⟨waiter,member,asleep waiter member⟩
    exact is (asleep other there)
  obtain ⟨⟨id,future⟩,member,awake⟩ := ready
  have front : waits id := (served.waiting id).mp (List.mem_map.mpr ⟨_,member,rfl⟩)
  refine ⟨id,front,?_⟩
  cases future with
  | pending => contradiction
  | woken => exact ⟨_,.inl (by simp [Semaphore.resume,member]; rfl)⟩
  | doomed => exact ⟨_,.inr (by simp [Semaphore.unwind,member]; rfl)⟩
  | cancelled =>
    by_cases doomed : (id,Future.doomed) ∈ semaphore.waiters
    · exact ⟨_,.inr (by simp [Semaphore.unwind,doomed]; rfl)⟩
    · exact ⟨_,.inr (by simp [Semaphore.unwind,doomed,member]; rfl)⟩

end AtronixX.Library.AsyncSemaphore
