import AtronixX.Errors
import AtronixX.Handlers
import AtronixX.Library.Transition

/-! `_broadcast_running` of `handlers/admin.py`. `cb_bc_go` sets it and still awaits
`ui.show` before it creates the task that clears it. -/
namespace AtronixX.BroadcastLock
open Errors Library.Transition
open Handlers (Flow)

/-- What the handler awaits: an answer to the query that starts nothing, that to the query
that starts the broadcast, `audience_ids`, and the two calls of `ui.show`. -/
inductive Await
  | refusing
  | answering
  | selecting
  | editing (ids : List Int)
  | sending (ids : List Int)
  deriving DecidableEq

/-- A `cb_bc_go` under way, and whether its query has a message. -/
structure Handler where
  message : Bool
  await : Await
  deriving DecidableEq

inductive Stage
  | sending
  /-- The sleep after a `RetryAfter`. -/
  | waiting
  | resending
  /-- The progress in the admin's message. -/
  | reporting
  | pausing
  | logging
  | closing
  deriving DecidableEq

/-- Of `ids` those that are left, the first of them under way, and the counters. -/
structure Task where
  left : List Int
  done : Nat
  sent : Nat
  failed : Nat
  blocked : Nat
  stage : Stage
  deriving DecidableEq

/-- The head of the loop over the receivers. -/
def Task.loop (task : Task) : Task :=
  {task with stage := if task.left = [] then .logging else .sending}

def Task.new (ids : List Int) : Task := Task.loop ⟨ids,0,0,0,0,.sending⟩

/-- The rest of the loop's body once a receiver is counted. -/
def Task.counted (task : Task) : Task :=
  let i := task.done + 1
  {task with
    left := task.left.tail, done := i, stage := if i % 25 = 0 then .reporting else .pausing}

/-- A message that is not sent again. -/
def Task.sentOne (task : Task) : Option Fault → Option Task
  | none => some {task with sent := task.sent + 1}.counted
  | some (.telegram .forbidden) => some {task with blocked := task.blocked + 1}.counted
  | some (.telegram _) => some {task with failed := task.failed + 1}.counted
  | some .other => none

/-- The task goes on with what the awaited call raised, or has finished. -/
def Task.resume (task : Task) (raised : Option Fault) : Option Task :=
  match task.stage,raised with
  | .sending,some (.telegram (.retryAfter _)) => some {task with stage := .waiting}
  | .sending,raised | .resending,raised => task.sentOne raised
  | .waiting,none => some {task with stage := .resending}
  -- `ui.edit` catches what Telegram raises.
  | .reporting,none | .reporting,some (.telegram _) => some {task with stage := .pausing}
  | .pausing,none => some task.loop
  | .logging,none => some {task with stage := .closing}
  | _,_ => none

structure Task.Tallied (ids : List Int) (task : Task) : Prop where
  counters : task.sent + task.failed + task.blocked = task.done
  receivers : task.done + task.left.length = ids.length
  turn : task.stage = .sending ∨ task.stage = .waiting ∨ task.stage = .resending → task.left ≠ []
  last : task.stage = .logging ∨ task.stage = .closing → task.left = []

private theorem Task.Tallied.loop {ids : List Int} {task : Task} (counters : task.sent + task.failed +
    task.blocked = task.done) (receivers : task.done + task.left.length = ids.length) :
    task.loop.Tallied ids := by
  refine ⟨counters,receivers,?_,?_⟩
  · unfold Task.loop
    dsimp only
    split
    next => simp
    next some_ => exact fun _ => some_
  · unfold Task.loop
    dsimp only
    split
    next none => exact fun _ => none
    next => simp

private theorem Task.Tallied.counted {ids : List Int} {task : Task} (counters : task.sent +
    task.failed + task.blocked = task.done + 1) (some_ : task.left ≠ [])
    (receivers : task.done + task.left.length = ids.length) : task.counted.Tallied ids := by
  have positive := List.length_pos_iff.mpr some_
  refine ⟨counters,?_,?_,?_⟩
  · unfold Task.counted
    dsimp only
    rw [List.length_tail]
    omega
  · unfold Task.counted
    dsimp only
    split <;> simp
  · unfold Task.counted
    dsimp only
    split <;> simp

private theorem Task.Tallied.sentOne {ids : List Int} {task after : Task} {raised : Option Fault}
    (tallied : task.Tallied ids) (some_ : task.left ≠ []) (taken : task.sentOne raised = some after) :
    after.Tallied ids := by
  have counters := tallied.counters
  rcases raised with _ | (error | _)
  · cases taken
    exact .counted (by dsimp only; omega) some_ tallied.receivers
  · cases error with
    | forbidden =>
      cases taken
      exact .counted (by dsimp only; omega) some_ tallied.receivers
    | _ =>
      cases taken
      exact .counted (by dsimp only; omega) some_ tallied.receivers
  · contradiction

theorem Task.Tallied.resume {ids : List Int} {task after : Task} {raised : Option Fault}
    (tallied : task.Tallied ids) (taken : task.resume raised = some after) : after.Tallied ids := by
  obtain ⟨counters,receivers,turn,last⟩ := tallied
  unfold Task.resume at taken
  split at taken
  next is =>
    cases taken
    exact ⟨counters,receivers,fun _ => turn (.inl is),fun later => by simp at later⟩
  next is _ => exact .sentOne ⟨counters,receivers,turn,last⟩ (turn (.inl is)) taken
  next is => exact .sentOne ⟨counters,receivers,turn,last⟩ (turn (.inr (.inr is))) taken
  next is =>
    cases taken
    exact ⟨counters,receivers,fun _ => turn (.inr (.inl is)),fun later => by simp at later⟩
  next =>
    cases taken
    exact ⟨counters,receivers,fun now => by simp at now,fun later => by simp at later⟩
  next =>
    cases taken
    exact ⟨counters,receivers,fun now => by simp at now,fun later => by simp at later⟩
  next =>
    cases taken
    exact .loop counters receivers
  next is =>
    cases taken
    exact ⟨counters,receivers,fun now => by simp at now,fun _ => last (.inl is)⟩
  next => contradiction

/-- When a broadcast is logged, everybody it was for is in one of the counters. -/
theorem all_counted (ids : List Int) (raised : List (Option Fault)) (task : Task)
    (ran : raised.foldlM Task.resume (Task.new ids) = some task) (logging : task.stage = .logging) :
    task.sent + task.failed + task.blocked = ids.length := by
  have tallied : task.Tallied ids :=
    run_invariant (fun _ _ _ tallied taken => tallied.resume taken) raised (.loop rfl (by simp)) ran
  have receivers := tallied.receivers
  rw [tallied.last (.inl logging),List.length_nil] at receivers
  exact tallied.counters.trans receivers

structure State where
  broadcastRunning : Bool
  /-- `context.user_data["flow"]` of the admin. -/
  flow : Option Flow
  handler : Option Handler
  tasks : List Task

def start : State := ⟨false,none,none,[]⟩

inductive Event
  /-- The button of `cb_bc_go`, and whether the query has a message. -/
  | press (message : Bool)
  /-- What the handler awaits returns or raises. -/
  | reply (reply : Except Fault (List Int))
  | task (index : Nat) (raised : Option Fault)
  /-- What another update of the admin makes of the flow. -/
  | update (flow : Option Flow)

def cbBcGo (message : Bool) (state : State) : State :=
  match state.flow with
  | some (.admBc _ (some _)) =>
    if state.broadcastRunning then {state with handler := some ⟨message,.refusing⟩}
    else {state with handler := some ⟨message,.answering⟩}
  | _ => {state with handler := some ⟨message,.refusing⟩}

def createTask (ids : List Int) (state : State) : State :=
  {state with handler := none, tasks := state.tasks ++ [Task.new ids]}

def resume (handler : Handler) (state : State) (reply : Except Fault (List Int)) : State :=
  let awaits (await : Await) := some {handler with await := await}
  match handler.await,reply with
  | .answering,.ok _ => {state with flow := none, handler := awaits .selecting}
  | .selecting,.ok ids => {state with
      broadcastRunning := true
      handler := awaits (if handler.message then .editing ids else .sending ids)}
  | .editing ids,.ok _ | .editing ids,.error (.telegram .notModified) => createTask ids state
  | .editing ids,.error (.telegram _) => {state with handler := awaits (.sending ids)}
  | .sending ids,.ok _ =>
    -- Without a message `q.message.chat_id` raises.
    if handler.message then createTask ids state else {state with handler := none}
  | _,_ => {state with handler := none}

def step (state : State) : Event → Option State
  | .press message => if state.handler.isSome then none else some (cbBcGo message state)
  | .reply reply => state.handler.map fun handler => resume handler state reply
  | .task index raised => state.tasks[index]?.map fun task =>
    match task.resume raised with
    | some next => {state with tasks := state.tasks.set index next}
    | none => {state with tasks := state.tasks.eraseIdx index, broadcastRunning := false}
  | .update flow => if state.handler.isSome then none else some {state with flow := flow}

/-- `ui.show` raises nothing between the flag and the task, and there is a message. -/
def Shows (state : State) : Event → Prop
  | .reply reply => match state.handler,reply with
    | some ⟨_,.editing _⟩,.error .other => False
    | some ⟨message,.sending _⟩,.ok _ => message = true
    | some ⟨_,.sending _⟩,.error _ => False
    | _,_ => True
  | _ => True

instance (state : State) (event : Event) : Decidable (Shows state event) := by
  unfold Shows
  split
  next => split <;> infer_instance
  next => infer_instance

def Good (state : State) : Prop :=
  match state.handler.map Handler.await with
  | none | some .refusing =>
    state.tasks.length ≤ 1 ∧ (state.broadcastRunning = true ↔ state.tasks ≠ [])
  | some .answering | some .selecting => state.broadcastRunning = false ∧ state.tasks = []
  | some (.editing _) | some (.sending _) => state.broadcastRunning = true ∧ state.tasks = []

/-- Nothing will clear the flag. -/
def Stuck (state : State) : Prop :=
  state.broadcastRunning = true ∧ state.tasks = [] ∧
    ∀ handler ∈ state.handler, handler.await = .refusing

private theorem only_task {tasks : List Task} {index : Nat} {task : Task} (few : tasks.length ≤ 1)
    (found : tasks[index]? = some task) : tasks = [task] ∧ index = 0 := by
  obtain ⟨inside,is⟩ := List.getElem?_eq_some_iff.mp found
  have first : index = 0 := by omega
  subst first
  obtain ⟨only,rfl⟩ := List.length_eq_one_iff.mp (show tasks.length = 1 by omega)
  exact ⟨congrArg (fun task => [task]) is,rfl⟩

private theorem Good.few {state : State} (good : Good state) {index : Nat} {task : Task}
    (found : state.tasks[index]? = some task) :
    state.tasks.length ≤ 1 ∧ state.broadcastRunning = true ∧
      ∀ handler ∈ state.handler, handler.await = .refusing := by
  have some_ : state.tasks ≠ [] := by
    intro none
    rw [none] at found
    contradiction
  unfold Good at good
  cases under : state.handler with
  | none =>
    simp only [under,Option.map_none] at good
    exact ⟨good.1,good.2.mpr some_,fun handler is => by contradiction⟩
  | some handler =>
    obtain ⟨message,await⟩ := handler
    simp only [under,Option.map_some] at good
    cases await with
    | refusing =>
      refine ⟨good.1,good.2.mpr some_,fun handler is => ?_⟩
      cases is
      rfl
    | answering => exact absurd good.2 some_
    | selecting => exact absurd good.2 some_
    | editing ids => exact absurd good.2 some_
    | sending ids => exact absurd good.2 some_

private theorem good_of_refusing {state : State}
    (refusing : ∀ handler ∈ state.handler, handler.await = .refusing) (few : state.tasks.length ≤ 1)
    (flag : state.broadcastRunning = true ↔ state.tasks ≠ []) : Good state := by
  unfold Good
  cases under : state.handler with
  | none => exact ⟨few,flag⟩
  | some handler =>
    have await := refusing handler under
    simp only [Option.map_some,await]
    exact ⟨few,flag⟩

private theorem good_press {state : State} (good : Good state) (idle : state.handler = none)
    (message : Bool) : Good (cbBcGo message state) := by
  simp only [Good,idle,Option.map_none] at good
  unfold cbBcGo
  split
  next =>
    split
    next => exact good
    next free =>
      have clear : state.broadcastRunning = false := Bool.eq_false_iff.mpr free
      refine ⟨clear,?_⟩
      by_contra some_
      exact free (good.2.mpr some_)
  next => exact good

private theorem good_createTask {state : State} (ids : List Int) (none : state.tasks = [])
    (set : state.broadcastRunning = true) : Good (createTask ids state) := by
  unfold createTask
  rw [none,set]
  exact ⟨le_refl 1,by simp⟩

private theorem good_abandoned {state : State} (none : state.tasks = [])
    (clear : state.broadcastRunning = false) : Good {state with handler := .none} := by
  refine ⟨by simp [none],?_⟩
  dsimp only
  rw [none,clear]
  simp

private theorem good_reply {state : State} {handler : Handler}
    {reply : Except Fault (List Int)} (good : Good state) (under : state.handler = some handler)
    (shows_ : Shows state (.reply reply)) : Good (resume handler state reply) := by
  obtain ⟨message,await⟩ := handler
  simp only [Good,under,Option.map_some] at good
  simp only [Shows,under] at shows_
  cases await with
  | refusing => cases reply <;> exact good
  | answering =>
    obtain ⟨clear,none⟩ := good
    cases reply with
    | ok _ => exact ⟨clear,none⟩
    | error _ => exact good_abandoned none clear
  | selecting =>
    obtain ⟨clear,none⟩ := good
    cases reply with
    | ok ids => cases message <;> exact ⟨rfl,none⟩
    | error _ => exact good_abandoned none clear
  | editing ids =>
    obtain ⟨set,none⟩ := good
    rcases reply with (error | _) | _
    · cases error with
      | notModified => exact good_createTask ids none set
      | _ => exact ⟨set,none⟩
    · exact shows_.elim
    · exact good_createTask ids none set
  | sending ids =>
    obtain ⟨set,none⟩ := good
    cases reply with
    | ok _ =>
      have message : message = true := shows_
      simp only [resume,message,if_true]
      exact good_createTask ids none set
    | error _ => exact shows_.elim

private theorem keeps (before : State) (event : Event) (after : State) (good : Good before)
    (shows_ : Shows before event) (taken : step before event = some after) : Good after := by
  cases event with
  | press message =>
    obtain ⟨idle,same⟩ := Option.ite_none_left_eq_some.mp taken
    cases same
    exact good_press good (by simpa using idle) message
  | reply reply =>
    obtain ⟨handler,under,rfl⟩ := Option.map_eq_some_iff.mp taken
    exact good_reply good under shows_
  | task index raised =>
    obtain ⟨task,found,rfl⟩ := Option.map_eq_some_iff.mp taken
    obtain ⟨few,set,refusing⟩ := good.few found
    obtain ⟨only,rfl⟩ := only_task few found
    split
    next next_ _ => exact good_of_refusing refusing (by simp [only]) (by simp [only,set])
    next => exact good_of_refusing refusing (by simp [only]) (by simp [only])
  | update flow =>
    obtain ⟨_,same⟩ := Option.ite_none_left_eq_some.mp taken
    cases same
    exact good

private theorem leaves (before : State) (event : Event) (after : State) (good : Good before)
    (broken : ¬ Shows before event) (taken : step before event = some after) : Stuck after := by
  cases event with
  | reply reply =>
    obtain ⟨⟨message,await⟩,under,rfl⟩ := Option.map_eq_some_iff.mp taken
    simp only [Good,under,Option.map_some] at good
    simp only [Shows,under] at broken
    cases await with
    | editing ids =>
      rcases reply with (error | _) | _
      · exact absurd trivial broken
      · exact ⟨good.1,good.2,fun handler is => by contradiction⟩
      · exact absurd trivial broken
    | sending ids =>
      cases reply with
      | ok _ =>
        have without : message = false := Bool.eq_false_iff.mpr broken
        simp only [resume,without]
        exact ⟨good.1,good.2,fun handler is => by contradiction⟩
      | error _ => exact ⟨good.1,good.2,fun handler is => by contradiction⟩
    | refusing => exact absurd trivial broken
    | answering => exact absurd trivial broken
    | selecting => exact absurd trivial broken
  | press message => exact absurd trivial broken
  | task index raised => exact absurd trivial broken
  | update flow => exact absurd trivial broken

theorem stuck_step (before : State) (event : Event) (after : State) (stuck : Stuck before)
    (taken : step before event = some after) : Stuck after := by
  obtain ⟨set,none,refusing⟩ := stuck
  cases event with
  | press message =>
    obtain ⟨_,same⟩ := Option.ite_none_left_eq_some.mp taken
    cases same
    unfold cbBcGo
    split
    next =>
      rw [if_pos set]
      exact ⟨set,none,fun handler is => by cases is; rfl⟩
    next => exact ⟨set,none,fun handler is => by cases is; rfl⟩
  | reply reply =>
    obtain ⟨⟨message,await⟩,under,rfl⟩ := Option.map_eq_some_iff.mp taken
    have await : await = .refusing := refusing _ under
    subst await
    cases reply <;> exact ⟨set,none,fun handler is => by contradiction⟩
  | task index raised =>
    obtain ⟨task,found,_⟩ := Option.map_eq_some_iff.mp taken
    rw [none] at found
    contradiction
  | update flow =>
    obtain ⟨_,same⟩ := Option.ite_none_left_eq_some.mp taken
    cases same
    exact ⟨set,none,refusing⟩

/-- Between the presses, the flag says whether there is a broadcast exactly if nothing was
raised between the flag and the task in the whole run. -/
theorem lock_free_iff (events : List Event) (last : State)
    (ran : events.foldlM step start = some last) (idle : last.handler = none) :
    (last.broadcastRunning = true ↔ last.tasks ≠ []) ↔
      events.foldlM (guarded step Shows) start = some last := by
  have initial : Good start := ⟨Nat.zero_le 1,by simp [start]⟩
  rcases guarded_or_left keeps leaves stuck_step events initial ran with ⟨met,good⟩ | ⟨broken,stuck⟩
  · simp only [Good,idle,Option.map_none] at good
    exact iff_of_true good.2 met
  · obtain ⟨set,none,_⟩ := stuck
    refine iff_of_false ?_ (by rw [broken]; simp)
    rw [set,none]
    simp

def launching (shown : List (Except Fault (List Int))) : List Event :=
  [.update (some (.admBc "all".toList (some "Hello".toList))),.press true,.reply (.ok []),
    .reply (.ok [7])] ++ shown.map .reply

/-- The old message cannot be edited, and the user can only be written to after a while. -/
def delayed : List Event :=
  launching [.error (.telegram .badRequest),.ok []] ++
    [.press true,.reply (.ok []),.task 0 (some (.telegram (.retryAfter 5))),.task 0 none]

theorem lock_free_delayed : ∃ last, delayed.foldlM step start = some last ∧
    last.tasks = [⟨[7],0,0,0,0,.resending⟩] ∧
    (last.broadcastRunning = true ↔ last.tasks ≠ []) := by
  obtain ⟨last,ran,met,idle,tasks⟩ : ∃ last, delayed.foldlM step start = some last ∧
      delayed.foldlM (guarded step Shows) start = some last ∧ last.handler = none ∧
      last.tasks = [⟨[7],0,0,0,0,.resending⟩] := ⟨_,rfl,rfl,rfl,rfl⟩
  exact ⟨last,ran,tasks,(lock_free_iff delayed last ran idle).mpr met⟩

/-- Neither the edit nor the new message comes through. -/
def unshown : List Event :=
  launching [.error (.telegram .timedOut),.error (.telegram .networkError)]

theorem lock_stuck : ¬ ∀ (events : List Event) (last : State),
    events.foldlM step start = some last → last.handler = none →
    (last.broadcastRunning = true ↔ last.tasks ≠ []) := by
  intro claimed
  obtain ⟨last,ran,idle,set,none⟩ : ∃ last, unshown.foldlM step start = some last ∧
      last.handler = none ∧ last.broadcastRunning = true ∧ last.tasks = [] :=
    ⟨_,rfl,rfl,rfl,rfl⟩
  exact (claimed unshown last ran idle).mp set none

end AtronixX.BroadcastLock
