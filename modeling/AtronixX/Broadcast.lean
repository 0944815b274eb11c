import AtronixX.BroadcastLock

/-! What the receivers of a broadcast get: `_broadcast` and `_send_one` of `handlers/admin.py`. A
message that Telegram puts off is sent once more, and nobody's failure keeps it from the others. -/
namespace AtronixX.Broadcast
open Errors BroadcastLock Library.Transition

structure Delivery where
  task : Task
  attempts : List (Int × Option Fault)

def Delivery.new (ids : List Int) : Delivery := ⟨Task.new ids,[]⟩

/-- The receiver under way, while a message is on its way to him. -/
def receiver (task : Task) : Option Int :=
  match task.stage with
  | .sending => task.left.head?
  | .resending => task.left.head?
  | _ => none

def step (delivery : Delivery) (raised : Option Fault) : Option Delivery :=
  (delivery.task.resume raised).map fun task =>
    ⟨task,delivery.attempts ++ (receiver delivery.task).toList.map fun uid => (uid,raised)⟩

/-- How it went with one receiver: whether Telegram put the first message off, and what the last
one raised. -/
structure Turn where
  uid : Int
  retried : Option Nat
  outcome : Option TelegramError
  deriving DecidableEq

def putOff (uid : Int) (retried : Option Nat) : List (Int × Option Fault) :=
  retried.toList.map fun seconds => (uid,some (.telegram (.retryAfter seconds)))

def Turn.attempts (turn : Turn) : List (Int × Option Fault) :=
  putOff turn.uid turn.retried ++ [(turn.uid,turn.outcome.map .telegram)]

/-- Whoever was put off was tried again. -/
def Turn.Fair (turn : Turn) : Prop :=
  ∀ seconds, turn.outcome = some (.retryAfter seconds) → turn.retried.isSome = true

def Turn.got (turn : Turn) : Bool := turn.outcome == none

def Turn.blocked (turn : Turn) : Bool := turn.outcome == some .forbidden

def Begun (task : Task) (part : List (Int × Option Fault)) : Prop :=
  match task.stage with
  | .waiting => ∃ uid seconds, task.left.head? = some uid ∧ part = putOff uid (some seconds)
  | .resending => ∃ uid seconds, task.left.head? = some uid ∧ part = putOff uid (some seconds)
  | _ => part = []

/-- The receivers had their turns one after the other; the counters tell how these went. -/
structure Delivered (ids : List Int) (delivery : Delivery) (turns : List Turn) : Prop where
  receivers : ids = turns.map Turn.uid ++ delivery.task.left
  attempts : ∃ part, Begun delivery.task part ∧
    delivery.attempts = turns.flatMap Turn.attempts ++ part
  fair : ∀ turn ∈ turns, turn.Fair
  sent : delivery.task.sent = turns.countP Turn.got
  blocked : delivery.task.blocked = turns.countP Turn.blocked
  failed : delivery.task.failed = turns.countP fun turn => !turn.got && !turn.blocked

variable {ids : List Int} {delivery after : Delivery} {turns : List Turn} {task : Task}

theorem begun_nil (first : task.stage ≠ .waiting) (second : task.stage ≠ .resending) :
    Begun task [] := by
  unfold Begun
  split
  next is => exact absurd is first
  next is => exact absurd is second
  next => rfl

theorem begun_loop (task : Task) : Begun task.loop [] := by
  apply begun_nil <;> (simp only [Task.loop]; split <;> simp)

theorem begun_counted (task : Task) : Begun task.counted [] := by
  apply begun_nil <;> (simp only [Task.counted]; split <;> simp)

theorem Delivered.new (ids : List Int) : Delivered ids (.new ids) [] where
  receivers := rfl
  attempts := ⟨[],begun_loop _,rfl⟩
  fair turn member := by contradiction
  sent := rfl
  blocked := rfl
  failed := rfl

theorem sentOne_eq_some {raised : Option Fault} (taken : delivery.task.sentOne raised = some task) :
    ∃ outcome : Option TelegramError, raised = outcome.map Fault.telegram ∧
      task.left = delivery.task.left.tail ∧ Begun task [] ∧ ∀ uid retried,
        let turn : Turn := ⟨uid,retried,outcome⟩
        task.sent = delivery.task.sent + (if turn.got then 1 else 0) ∧
        task.blocked = delivery.task.blocked + (if turn.blocked then 1 else 0) ∧
        task.failed = delivery.task.failed + if !turn.got && !turn.blocked then 1 else 0 := by
  rcases raised with _ | (error | _)
  · cases taken
    exact ⟨none,rfl,rfl,begun_counted _,fun uid retried => ⟨rfl,rfl,rfl⟩⟩
  · refine ⟨some error,rfl,?_⟩
    cases error with
    | forbidden =>
      cases taken
      exact ⟨rfl,begun_counted _,fun uid retried => ⟨rfl,rfl,rfl⟩⟩
    | _ =>
      cases taken
      exact ⟨rfl,begun_counted _,fun uid retried => ⟨rfl,rfl,rfl⟩⟩
  · contradiction

theorem Delivered.turn (delivered : Delivered ids delivery turns) {uid : Int} {rest : List Int}
    {retried : Option Nat} {raised : Option Fault} (under : delivery.task.left = uid :: rest)
    (before : delivery.attempts = turns.flatMap Turn.attempts ++ putOff uid retried)
    (fair : ∀ seconds, raised = some (.telegram (.retryAfter seconds)) → retried.isSome = true)
    (taken : delivery.task.sentOne raised = some task) :
    ∃ turns, Delivered ids ⟨task,delivery.attempts ++ [(uid,raised)]⟩ turns := by
  obtain ⟨outcome,rfl,left,begun,counters⟩ := sentOne_eq_some taken
  obtain ⟨sent,blocked,failed⟩ := counters uid retried
  refine ⟨turns ++ [⟨uid,retried,outcome⟩],?_,⟨[],begun,?_⟩,?_,?_,?_,?_⟩
  · rw [delivered.receivers,left,under]
    simp
  · simp [before,Turn.attempts]
  · intro turn member
    rcases List.mem_append.mp member with member | member
    · exact delivered.fair turn member
    · rw [List.mem_singleton.mp member]
      intro seconds is
      exact fair seconds (congrArg (Option.map Fault.telegram) is)
  · rw [List.countP_append,List.countP_singleton,← delivered.sent]
    exact sent
  · rw [List.countP_append,List.countP_singleton,← delivered.blocked]
    exact blocked
  · rw [List.countP_append,List.countP_singleton,← delivered.failed]
    exact failed

theorem Delivered.rest (delivered : Delivered ids delivery turns)
    (left : task.left = delivery.task.left)
    (counters : task.sent = delivery.task.sent ∧ task.blocked = delivery.task.blocked ∧
      task.failed = delivery.task.failed)
    (begun : ∀ part, Begun delivery.task part → Begun task part) :
    Delivered ids ⟨task,delivery.attempts⟩ turns where
  receivers := by rw [left]; exact delivered.receivers
  attempts := delivered.attempts.imp fun part is => ⟨begun part is.1,is.2⟩
  fair := delivered.fair
  sent := counters.1.trans delivered.sent
  blocked := counters.2.1.trans delivered.blocked
  failed := counters.2.2.trans delivered.failed

theorem Delivered.step {raised : Option Fault} (delivered : Delivered ids delivery turns)
    (tallied : delivery.task.Tallied ids) (taken : step delivery raised = some after) :
    ∃ turns, Delivered ids after turns := by
  obtain ⟨task,resumed,rfl⟩ := Option.map_eq_some_iff.mp taken
  obtain ⟨part,begun,attempts⟩ := delivered.attempts
  have under : ∀ stage, delivery.task.stage = stage →
      stage = .sending ∨ stage = .waiting ∨ stage = .resending →
      ∃ uid rest, delivery.task.left = uid :: rest := by
    rintro _ rfl now
    exact List.exists_cons_of_ne_nil (tallied.turn now)
  have quiet (silent : receiver delivery.task = none) (left : task.left = delivery.task.left)
      (counters : task.sent = delivery.task.sent ∧ task.blocked = delivery.task.blocked ∧
        task.failed = delivery.task.failed)
      (further : ∀ part, Begun delivery.task part → Begun task part) :
      ∃ turns, Delivered ids ⟨task,delivery.attempts ++
        (receiver delivery.task).toList.map fun uid => (uid,raised)⟩ turns := by
    simpa [silent] using ⟨turns,delivered.rest left counters further⟩
  unfold Task.resume at resumed
  split at resumed
  next seconds is =>
    -- The first message is put off.
    cases resumed
    obtain ⟨uid,rest,under⟩ := under .sending is (.inl rfl)
    simp only [Begun,is] at begun
    subst begun
    refine ⟨turns,delivered.receivers,⟨putOff uid (some seconds),⟨uid,seconds,?_,rfl⟩,?_⟩,
      delivered.fair,delivered.sent,delivered.blocked,delivered.failed⟩
    · simp [under]
    · simp [attempts,receiver,is,under,putOff]
  next is first =>
    obtain ⟨uid,rest,under⟩ := under .sending is (.inl rfl)
    simp only [Begun,is] at begun
    subst begun
    have alone : delivery.attempts = turns.flatMap Turn.attempts ++ putOff uid none := attempts
    have last := delivered.turn under alone
      (fun seconds same => absurd same (first seconds)) resumed
    simpa [receiver,is,under] using last
  next is =>
    obtain ⟨uid,rest,under⟩ := under .resending is (.inr (.inr rfl))
    simp only [Begun,is,under,List.head?_cons,Option.some.injEq] at begun
    obtain ⟨_,seconds,rfl,rfl⟩ := begun
    have last := delivered.turn under attempts (fun _ _ => rfl) resumed
    simpa [receiver,is,under] using last
  next is =>
    cases resumed
    exact quiet (by simp [receiver,is]) rfl ⟨rfl,rfl,rfl⟩ fun part begun => by
      simpa [Begun,is] using begun
  next is =>
    cases resumed
    exact quiet (by simp [receiver,is]) rfl ⟨rfl,rfl,rfl⟩ fun part begun => by
      simpa [Begun,is] using begun
  next is =>
    cases resumed
    exact quiet (by simp [receiver,is]) rfl ⟨rfl,rfl,rfl⟩ fun part begun => by
      simpa [Begun,is] using begun
  next is =>
    cases resumed
    refine quiet (by simp [receiver,is]) rfl ⟨rfl,rfl,rfl⟩ fun part begun => ?_
    simp only [Begun,is] at begun
    subst begun
    exact begun_loop _
  next is =>
    cases resumed
    exact quiet (by simp [receiver,is]) rfl ⟨rfl,rfl,rfl⟩ fun part begun => by
      simpa [Begun,is] using begun
  next => contradiction

theorem tallied_new (ids : List Int) : (Task.new ids).Tallied ids where
  counters := rfl
  receivers := Nat.zero_add _
  turn now := by
    intro none
    simp [Task.new,Task.loop,show ids = [] from none] at now
  last ends := by
    by_contra some_
    simp [Task.new,Task.loop,show ids ≠ [] from some_] at ends

/-- Whatever the calls raise: so far each receiver had one turn, in the order of the list, and got
the message in it once or not at all; the counters tell how many did, and when the broadcast is
logged everybody had his turn. -/
theorem broadcast_delivers (ids : List Int) (raised : List (Option Fault)) (delivery : Delivery)
    (ran : raised.foldlM step (.new ids) = some delivery) : ∃ turns, Delivered ids delivery turns ∧
      (delivery.task.stage = .logging ∨ delivery.task.stage = .closing →
        turns.map Turn.uid = ids) := by
  have keeps (before : Delivery) (raised : Option Fault) (after : Delivery)
      (kept : (∃ turns, Delivered ids before turns) ∧ before.task.Tallied ids)
      (taken : step before raised = some after) :
      (∃ turns, Delivered ids after turns) ∧ after.task.Tallied ids := by
    obtain ⟨⟨turns,delivered⟩,tallied⟩ := kept
    refine ⟨delivered.step tallied taken,?_⟩
    obtain ⟨task,resumed,rfl⟩ := Option.map_eq_some_iff.mp taken
    exact tallied.resume resumed
  obtain ⟨⟨turns,delivered⟩,tallied⟩ :=
    run_invariant keeps raised ⟨⟨[],.new ids⟩,tallied_new ids⟩ ran
  refine ⟨turns,delivered,fun ends => ?_⟩
  have all := delivered.receivers
  rw [tallied.last ends,List.append_nil] at all
  exact all.symm

/-- The first is put off and then gets it, the second has blocked the bot. -/
def replies : List (Option Fault) :=
  [some (.telegram (.retryAfter 3)),none,none,none,some (.telegram .forbidden),none]

theorem broadcast_delivers_replies : ∃ delivery, replies.foldlM step (.new [7,8]) = some delivery ∧
    delivery.task.stage = .logging ∧ delivery.attempts.length = 3 ∧
    ∃ turns, Delivered [7,8] delivery turns ∧
      (delivery.task.stage = .logging ∨ delivery.task.stage = .closing →
        turns.map Turn.uid = [7,8]) :=
  ⟨_,rfl,rfl,rfl,broadcast_delivers [7,8] replies _ rfl⟩

end AtronixX.Broadcast
