import Mathlib.Data.List.Pairwise
import Mathlib.Data.List.Nodup

/-! `asyncio.Lock`. A lock is taken at once when it is free and everybody who waits for it
has been cancelled; else its taker waits in a queue. A release wakes the first waiter,
which takes the lock when it runs; a waiter that is cancelled leaves when it runs, and
wakes the first of the others if the lock is free. -/
namespace AtronixX.Library.AsyncLock

/-- The future of a waiter: not done, done with a result, done and its task cancelled
after that, or cancelled. -/
inductive Future
  | pending
  | woken
  | doomed
  | cancelled
  deriving DecidableEq, Repr

/-- The task can still take the lock. -/
def Future.alive : Future → Bool
  | .pending => true
  | .woken => true
  | _ => false

/-- The lock, with the tasks that wait for it, numbered as they came. -/
structure Lock where
  locked : Bool
  waiters : List (Nat × Future)
  deriving DecidableEq, Repr

def Lock.new : Lock := ⟨false,[]⟩

def wakeUpFirst : List (Nat × Future) → List (Nat × Future)
  | (task,.pending) :: rest => (task,.woken) :: rest
  | waiters => waiters

def Lock.vacant (lock : Lock) : Bool :=
  !lock.locked && lock.waiters.all (fun waiter => waiter.2 == .cancelled)

/-- `acquire` up to its await; the lock is taken when it was `vacant`. -/
def Lock.acquire (task : Nat) (lock : Lock) : Lock :=
  if lock.vacant then {lock with locked := true}
  else {lock with waiters := lock.waiters ++ [(task,.pending)]}

def Lock.leave (task : Nat) (lock : Lock) : Lock :=
  {lock with waiters := lock.waiters.filter (fun waiter => waiter.1 != task)}

/-- A woken waiter runs. -/
def Lock.resume (task : Nat) (lock : Lock) : Option Lock :=
  if (task,.woken) ∈ lock.waiters then some {lock.leave task with locked := true} else none

def Future.cancel : Future → Future
  | .pending => .cancelled
  | .woken => .doomed
  | future => future

def Lock.cancel (task : Nat) (lock : Lock) : Lock :=
  {lock with waiters := lock.waiters.map (fun waiter =>
    if waiter.1 = task then (waiter.1,waiter.2.cancel) else waiter)}

/-- A cancelled waiter runs. -/
def Lock.unwind (task : Nat) (lock : Lock) : Option Lock :=
  if (task,.doomed) ∈ lock.waiters ∨ (task,.cancelled) ∈ lock.waiters then
    some (if lock.locked then lock.leave task
      else {lock with waiters := wakeUpFirst (lock.leave task).waiters})
  else none

def Lock.release (lock : Lock) : Lock := ⟨false,wakeUpFirst lock.waiters⟩

def Lock.tasks (lock : Lock) : List Nat := lock.waiters.map Prod.fst

def asleep (future : Future) : Prop := future = .pending ∨ future = .cancelled

/-- Waiters stand in the order they came. Only the first has been woken, and none while the
lock is held; when the lock is free the first does not sleep on. -/
structure Lock.Fair (lock : Lock) : Prop where
  sorted : lock.tasks.Pairwise (· < ·)
  behind : ∀ waiter ∈ lock.waiters.tail, asleep waiter.2
  held : lock.locked = true → ∀ waiter ∈ lock.waiters, asleep waiter.2
  awake : lock.locked = false → ∀ task, lock.waiters.head? ≠ some (task,.pending)

@[simp] theorem map_wakeUpFirst (waiters : List (Nat × Future)) :
    (wakeUpFirst waiters).map Prod.fst = waiters.map Prod.fst := by
  unfold wakeUpFirst
  split <;> rfl

@[simp] theorem tail_wakeUpFirst (waiters : List (Nat × Future)) :
    (wakeUpFirst waiters).tail = waiters.tail := by
  unfold wakeUpFirst
  split <;> rfl

theorem head_wakeUpFirst (waiters : List (Nat × Future)) (task : Nat) :
    (wakeUpFirst waiters).head? ≠ some (task,.pending) := by
  unfold wakeUpFirst
  split
  next first rest => simp
  next other =>
    intro head
    cases waiters with
    | nil => contradiction
    | cons first rest =>
      cases Option.some.inj head
      exact other task rest rfl

theorem mem_wakeUpFirst {waiters : List (Nat × Future)} {waiter : Nat × Future}
    (member : waiter ∈ wakeUpFirst waiters) :
    waiter ∈ waiters ∨ waiter.2 = .woken ∧ (waiter.1,.pending) ∈ waiters := by
  unfold wakeUpFirst at member
  split at member
  next first rest =>
    rcases List.mem_cons.mp member with rfl | later
    · exact .inr ⟨rfl,by simp⟩
    · exact .inl (List.mem_cons_of_mem _ later)
  next => exact .inl member

theorem Lock.Fair.new : Lock.new.Fair :=
  ⟨.nil,fun _ member => by contradiction,fun held => by contradiction,
    fun _ task head => by contradiction⟩

private theorem tasks_leave (lock : Lock) (task : Nat) :
    (lock.leave task).tasks = lock.tasks.filter (· != task) := by
  unfold Lock.leave Lock.tasks
  rw [List.filter_map]
  rfl

private theorem tail_filter {α : Type} (keep : α → Bool) (items : List α) (item : α)
    (member : item ∈ (items.filter keep).tail) : item ∈ items.tail := by
  cases items with
  | nil => simp at member
  | cons first rest =>
    rw [List.filter_cons] at member
    split at member
    · exact List.mem_of_mem_filter member
    · exact List.mem_of_mem_filter (List.mem_of_mem_tail member)

theorem Lock.Fair.acquire {lock : Lock} (fair : lock.Fair) {task : Nat}
    (last : ∀ other ∈ lock.tasks, other < task) : (lock.acquire task).Fair := by
  unfold Lock.acquire
  split
  next free =>
    simp only [Lock.vacant,Bool.and_eq_true,List.all_eq_true,beq_iff_eq] at free
    exact ⟨fair.sorted,fair.behind,fun _ waiter member => .inr (free.2 waiter member),
      fun unlocked => by contradiction⟩
  next taken =>
    refine ⟨?_,?_,?_,?_⟩
    · simp only [Lock.tasks,List.map_append,List.map_cons,List.map_nil]
      refine List.pairwise_append.mpr ⟨fair.sorted,List.pairwise_singleton _ _,?_⟩
      intro other member newest same
      rw [List.mem_singleton.mp same]
      exact last other member
    · intro waiter member
      cases waiters : lock.waiters with
      | nil => simp [waiters] at member
      | cons first rest =>
        simp only [waiters,List.cons_append,List.tail_cons,List.mem_append,
          List.mem_singleton] at member
        rcases member with before | rfl
        · exact fair.behind waiter (by rw [waiters]; exact before)
        · exact .inl rfl
    · intro held waiter member
      rcases List.mem_append.mp member with before | new
      · exact fair.held held waiter before
      · rw [List.mem_singleton.mp new]
        exact .inl rfl
    · intro free other head
      cases waiters : lock.waiters with
      | nil =>
        have empty : lock.locked = false := free
        simp [Lock.vacant,empty,waiters] at taken
      | cons first rest =>
        simp only [waiters,List.cons_append,List.head?_cons,Option.some.injEq] at head
        exact fair.awake free other (by simp [waiters,head])

theorem Lock.Fair.woken_first {lock : Lock} (fair : lock.Fair) {task : Nat}
    (member : (task,.woken) ∈ lock.waiters) :
    lock.locked = false ∧ ∃ rest, lock.waiters = (task,.woken) :: rest := by
  constructor
  · cases held : lock.locked with
    | false => rfl
    | true => rcases fair.held held _ member with pending | cancelled <;> contradiction
  · cases waiters : lock.waiters with
    | nil => simp [waiters] at member
    | cons first rest =>
      rw [waiters] at member
      rcases List.mem_cons.mp member with rfl | later
      · exact ⟨rest,rfl⟩
      · rcases fair.behind _ (by rw [waiters]; exact later) with pending | cancelled <;>
          contradiction

theorem Lock.Fair.leave {lock : Lock} (fair : lock.Fair) (task : Nat) :
    (lock.leave task).tasks.Pairwise (· < ·) ∧
      ∀ waiter ∈ (lock.leave task).waiters.tail, asleep waiter.2 := by
  refine ⟨?_,fun waiter member => fair.behind waiter (tail_filter _ _ _ member)⟩
  rw [tasks_leave]
  exact fair.sorted.filter _

theorem Lock.Fair.resume {lock after : Lock} (fair : lock.Fair) {task : Nat}
    (resumed : lock.resume task = some after) : after.Fair := by
  unfold Lock.resume at resumed
  split at resumed
  next member =>
    cases Option.some.inj resumed
    obtain ⟨_,rest,waiters⟩ := fair.woken_first member
    refine ⟨(fair.leave task).1,(fair.leave task).2,?_,fun free => by contradiction⟩
    intro _ waiter member
    have kept := List.mem_filter.mp member
    rw [waiters] at kept
    rcases List.mem_cons.mp kept.1 with rfl | later
    · simp at kept
    · exact fair.behind waiter (by rw [waiters]; exact later)
  next => contradiction

theorem Lock.Fair.cancel {lock : Lock} (fair : lock.Fair) (task : Nat) :
    (lock.cancel task).Fair := by
  have sleeps (waiter : Nat × Future) (before : asleep waiter.2) :
      asleep (if waiter.1 = task then (waiter.1,waiter.2.cancel) else waiter).2 := by
    split
    · rcases before with pending | cancelled
      · exact .inr (by rw [pending]; rfl)
      · exact .inr (by rw [cancelled]; rfl)
    · exact before
  refine ⟨?_,?_,?_,?_⟩
  · have same : (lock.cancel task).tasks = lock.tasks := by
      simp only [Lock.cancel,Lock.tasks,List.map_map]
      congr 1
      funext waiter
      simp only [Function.comp_apply]
      split <;> rfl
    rw [same]
    exact fair.sorted
  · intro waiter member
    simp only [Lock.cancel,← List.map_tail] at member
    obtain ⟨old,was,rfl⟩ := List.mem_map.mp member
    exact sleeps old (fair.behind old was)
  · intro held waiter member
    obtain ⟨old,was,rfl⟩ := List.mem_map.mp member
    exact sleeps old (fair.held held old was)
  · intro free other head
    cases waiters : lock.waiters with
    | nil => simp [Lock.cancel,waiters] at head
    | cons first rest =>
      have active := fair.awake free first.1
      simp only [waiters,List.head?_cons,ne_eq,Option.some.injEq] at active
      simp only [Lock.cancel,waiters,List.map_cons,List.head?_cons,Option.some.injEq] at head
      split at head
      · have future := congrArg Prod.snd head
        cases first with
        | mk id status => cases status <;> simp_all [Future.cancel]
      · rw [head] at active
        exact active rfl

theorem Lock.Fair.unwind {lock after : Lock} (fair : lock.Fair) {task : Nat}
    (unwound : lock.unwind task = some after) : after.Fair := by
  unfold Lock.unwind at unwound
  split at unwound
  next =>
    cases Option.some.inj unwound
    split
    next held =>
      refine ⟨(fair.leave task).1,(fair.leave task).2,?_,?_⟩
      · intro _ waiter member
        exact fair.held held waiter (List.mem_of_mem_filter member)
      · intro free
        have taken : lock.locked = false := free
        rw [held] at taken
        contradiction
    next free =>
      have unlocked : lock.locked = false := by simpa using free
      refine ⟨?_,?_,?_,fun _ other => head_wakeUpFirst _ other⟩
      · simpa [Lock.tasks] using (fair.leave task).1
      · intro waiter member
        exact (fair.leave task).2 waiter (by simpa using member)
      · intro held
        have taken : lock.locked = true := held
        rw [unlocked] at taken
        contradiction
  next => contradiction

theorem Lock.Fair.release {lock : Lock} (fair : lock.Fair) : lock.release.Fair := by
  refine ⟨?_,?_,fun held => by contradiction,fun _ other => head_wakeUpFirst _ other⟩
  · simpa [Lock.tasks,Lock.release] using fair.sorted
  · intro waiter member
    exact fair.behind waiter (by simpa [Lock.release] using member)

/-- Who waits, who runs, and in which order they began, the last one first. -/
structure Lock.Served (lock : Lock) (waits runs : Nat → Prop) (started : List Nat) : Prop where
  fair : lock.Fair
  waiting : ∀ task, task ∈ lock.tasks ↔ waits task
  holder : lock.locked = true ↔ ∃ task, runs task
  alone : ∀ task other, runs task → runs other → task = other
  order : started.Pairwise (· > ·)
  later : ∀ waiter ∈ lock.waiters, waiter.2.alive = true → ∀ earlier ∈ started, earlier < waiter.1

variable {lock after : Lock} {waits runs : Nat → Prop} {started : List Nat} {task : Nat}

theorem Lock.Served.congr {waits' runs' : Nat → Prop} (served : lock.Served waits runs started)
    (waiting : ∀ task, waits' task ↔ waits task) (running : ∀ task, runs' task ↔ runs task) :
    lock.Served waits' runs' started := by
  have sameWaits : waits' = waits := funext (fun task => propext (waiting task))
  have sameRuns : runs' = runs := funext (fun task => propext (running task))
  rw [sameWaits,sameRuns]
  exact served

theorem Lock.Served.new (order : started.Pairwise (· > ·)) :
    Lock.new.Served (fun _ => False) (fun _ => False) started :=
  ⟨.new,fun _ => by simp [Lock.new,Lock.tasks],by simp [Lock.new],fun _ _ runs => runs.elim,order,
    fun _ member => by contradiction⟩

theorem Lock.Served.waiter (served : lock.Served waits runs started)
    {waiter : Nat × Future} (member : waiter ∈ lock.waiters) : waits waiter.1 :=
  (served.waiting waiter.1).mp (List.mem_map.mpr ⟨waiter,member,rfl⟩)

private theorem order_cons (served : lock.Served waits runs started)
    (last : ∀ earlier ∈ started, earlier < task) : (task :: started).Pairwise (· > ·) :=
  List.pairwise_cons.mpr ⟨last,served.order⟩

theorem Lock.Served.idle (served : lock.Served waits runs started)
    (free : lock.locked = false) (other : Nat) : ¬ runs other := by
  intro running
  have held := served.holder.mpr ⟨other,running⟩
  rw [free] at held
  contradiction

theorem Lock.Served.take (served : lock.Served waits runs started)
    (vacant : lock.vacant = true) (newest : ∀ other, waits other → other < task)
    (last : ∀ earlier ∈ started, earlier < task) :
    (lock.acquire task).Served waits (fun other => other = task) (task :: started) := by
  have fair := served.fair.acquire (fun other member =>
    newest other ((served.waiting other).mp member))
  have taken : lock.acquire task = {lock with locked := true} := by simp [Lock.acquire,vacant]
  simp only [Lock.vacant,Bool.and_eq_true,List.all_eq_true,beq_iff_eq] at vacant
  rw [taken] at fair ⊢
  refine ⟨fair,served.waiting,⟨fun _ => ⟨task,rfl⟩,fun _ => rfl⟩,
    fun _ _ one other => one.trans other.symm,order_cons served last,?_⟩
  intro waiter member alive
  rw [vacant.2 waiter member] at alive
  contradiction

theorem Lock.Served.enqueue (served : lock.Served waits runs started)
    (taken : lock.vacant = false) (newest : ∀ other, waits other → other < task)
    (last : ∀ earlier ∈ started, earlier < task) :
    (lock.acquire task).Served (fun other => waits other ∨ other = task) runs started := by
  have fair := served.fair.acquire (fun other member =>
    newest other ((served.waiting other).mp member))
  have queued : lock.acquire task =
      {lock with waiters := lock.waiters ++ [(task,.pending)]} := by simp [Lock.acquire,taken]
  rw [queued] at fair ⊢
  refine ⟨fair,?_,served.holder,served.alone,served.order,?_⟩
  · intro other
    simp only [Lock.tasks,List.map_append,List.mem_append,List.map_cons,List.map_nil,
      List.mem_singleton]
    exact or_congr (served.waiting other) Iff.rfl
  · intro waiter member alive
    rcases List.mem_append.mp member with before | new
    · exact served.later waiter before alive
    · rw [List.mem_singleton.mp new]
      exact last

private theorem mem_leave (served : lock.Served waits runs started) (task other : Nat) :
    other ∈ (lock.leave task).tasks ↔ waits other ∧ other ≠ task := by
  rw [tasks_leave,List.mem_filter,served.waiting other]
  simp

theorem Lock.Served.resume (served : lock.Served waits runs started)
    (resumed : lock.resume task = some after) : lock.locked = false ∧
      after.Served (fun other => waits other ∧ other ≠ task) (fun other => other = task)
        (task :: started) := by
  have fair := served.fair.resume resumed
  unfold Lock.resume at resumed
  split at resumed
  next member =>
    cases Option.some.inj resumed
    obtain ⟨free,rest,waiters⟩ := served.fair.woken_first member
    refine ⟨free,fair,fun other => mem_leave served task other,
      ⟨fun _ => ⟨task,rfl⟩,fun _ => rfl⟩,fun _ _ one other => one.trans other.symm,
      order_cons served (served.later _ member rfl),?_⟩
    intro waiter kept alive earlier member'
    obtain ⟨was,differs⟩ := List.mem_filter.mp kept
    rcases List.mem_cons.mp member' with rfl | before
    · have sorted := served.fair.sorted
      rw [Lock.tasks,waiters,List.map_cons,List.pairwise_cons] at sorted
      rw [waiters] at was
      rcases List.mem_cons.mp was with rfl | behind
      · simp at differs
      · exact sorted.1 waiter.1 (List.mem_map.mpr ⟨waiter,behind,rfl⟩)
    · exact served.later waiter was alive earlier before
  next => contradiction

private theorem alive_cancel {future : Future} (alive : future.cancel.alive = true) :
    future.alive = true := by
  cases future <;> first | rfl | contradiction

theorem Lock.Served.cancel (served : lock.Served waits runs started) (task : Nat) :
    (lock.cancel task).Served waits runs started := by
  refine ⟨served.fair.cancel task,?_,served.holder,served.alone,served.order,?_⟩
  · intro other
    rw [← served.waiting other]
    simp only [Lock.cancel,Lock.tasks,List.map_map]
    refine iff_of_eq (congrArg (other ∈ ·) ?_)
    refine List.map_congr_left (fun waiter _ => ?_)
    simp only [Function.comp_apply]
    split <;> rfl
  · intro waiter member alive earlier before
    obtain ⟨old,was,rfl⟩ := List.mem_map.mp member
    by_cases named : old.1 = task
    · rw [if_pos named] at alive ⊢
      exact served.later old was (alive_cancel alive) earlier before
    · rw [if_neg named] at alive ⊢
      exact served.later old was alive earlier before

private theorem alive_wakeUpFirst {waiters : List (Nat × Future)} {waiter : Nat × Future}
    (member : waiter ∈ wakeUpFirst waiters) (alive : waiter.2.alive = true) :
    ∃ future, (waiter.1,future) ∈ waiters ∧ future.alive = true := by
  rcases mem_wakeUpFirst member with was | ⟨_,was⟩
  · exact ⟨waiter.2,was,alive⟩
  · exact ⟨.pending,was,rfl⟩

theorem Lock.Served.unwind (served : lock.Served waits runs started)
    (unwound : lock.unwind task = some after) :
    after.Served (fun other => waits other ∧ other ≠ task) runs started := by
  have fair := served.fair.unwind unwound
  unfold Lock.unwind at unwound
  split at unwound
  next =>
    have left (waiter : Nat × Future) (member : waiter ∈ (lock.leave task).waiters)
        (alive : waiter.2.alive = true) (earlier : Nat) (before : earlier ∈ started) :
        earlier < waiter.1 :=
      served.later waiter (List.mem_of_mem_filter member) alive earlier before
    cases Option.some.inj unwound
    by_cases held : lock.locked = true
    · rw [if_pos held] at fair ⊢
      exact ⟨fair,fun other => mem_leave served task other,served.holder,served.alone,
        served.order,left⟩
    · rw [if_neg held] at fair ⊢
      refine ⟨fair,?_,served.holder,served.alone,served.order,?_⟩
      · intro other
        rw [← mem_leave served task other]
        simp [Lock.tasks]
      · intro waiter member alive earlier before
        obtain ⟨future,was,lives⟩ := alive_wakeUpFirst member alive
        exact left (waiter.1,future) was lives earlier before
  next => contradiction

theorem Lock.Served.release (served : lock.Served waits runs started) :
    lock.release.Served waits (fun _ => False) started := by
  refine ⟨served.fair.release,?_,by simp [Lock.release],fun _ _ runs => runs.elim,
    served.order,?_⟩
  · intro other
    rw [← served.waiting other]
    simp [Lock.tasks,Lock.release]
  · intro waiter member alive earlier before
    obtain ⟨future,was,lives⟩ := alive_wakeUpFirst member alive
    exact served.later (waiter.1,future) was lives earlier before

/-- No wakeup is lost: when somebody waits and nobody runs, the first waiter can run. -/
theorem Lock.Served.not_stuck (served : lock.Served waits runs started) (waited : waits task)
    (idle : ∀ other, ¬ runs other) :
    ∃ first, waits first ∧
      ∃ after, lock.resume first = some after ∨ lock.unwind first = some after := by
  have free : lock.locked = false := by
    cases held : lock.locked with
    | false => rfl
    | true =>
      obtain ⟨other,running⟩ := served.holder.mp held
      exact absurd running (idle other)
  have member := (served.waiting task).mpr waited
  cases waiters : lock.waiters with
  | nil => simp [Lock.tasks,waiters] at member
  | cons first rest =>
    obtain ⟨id,future⟩ := first
    have active := served.fair.awake free id
    have front := served.waiter (show (id,future) ∈ lock.waiters by simp [waiters])
    cases future with
    | pending => simp [waiters] at active
    | woken => exact ⟨id,front,_,.inl (by simp [Lock.resume,waiters]; rfl)⟩
    | doomed => exact ⟨id,front,_,.inr (by simp [Lock.unwind,waiters]; rfl)⟩
    | cancelled => exact ⟨id,front,_,.inr (by simp [Lock.unwind,waiters]; rfl)⟩

end AtronixX.Library.AsyncLock
