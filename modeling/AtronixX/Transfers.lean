import AtronixX.Library.AsyncSemaphore
import AtronixX.Library.Tables
import AtronixX.Library.Transition

/-! The transfers of `handlers/sftp.py`: the tasks `_download` and `_upload` of all chats, the
semaphore that they share, and their local files in `tmp_dir`, which `_cleanup_tmp` of
`core/housekeeping.py` sweeps. -/
namespace AtronixX.Transfers
open Library.Transition Library.AsyncSemaphore Library.Tables

def maxTransfers : Nat := 3

inductive Kind
  | download
  | upload
  deriving DecidableEq, Repr

/-- What is awaited after the removal of the file: the deletion of the status message and of
the message with the upload, and `_render`, which lists the folder, sends the browser anew and
deletes the old one, or excuses itself. -/
inductive Call
  | status
  | message
  | listing
  | page
  | old
  | excuse
  deriving DecidableEq, Repr

/-- The await at which a transfer is: the message at its start, the semaphore, the calls under
it, the message about the failure of a download, and what follows the removal of the file. -/
inductive Stage
  | starting
  | waiting (ticket : Nat)
  | downloading
  | sending
  | getting
  | fetching
  | uploading
  | failing
  | tidying (call : Call)
  deriving DecidableEq, Repr

structure Transfer where
  kind : Kind
  stage : Stage
  deriving DecidableEq, Repr

/-- `transferSem` is made when it is first asked for. Waiters have tickets, numbered as they come
to the semaphore; `files` has the transfers whose `local` is on the disk. -/
structure Traffic where
  tasks : Table Nat Transfer
  next : Nat
  transferSem : Option Semaphore
  tickets : Nat
  files : List Nat

def opened : Traffic := ⟨∅,0,none,0,[]⟩

def sem (traffic : Traffic) : Semaphore := traffic.transferSem.getD (Semaphore.new maxTransfers)

/-- The await of a transfer returns, or raises, or `local` appears while it lasts; a sweep removes
`local`; a task is cancelled, and one that waits runs after that. A transfer whose browser is gone,
or whose page does not arrive, ends as if the await had raised; where there is no message to
delete, the await returns at once. -/
inductive Event
  | start (kind : Kind)
  | proceed (id : Nat)
  | fail (id : Nat)
  | write (id : Nat)
  | sweep (id : Nat)
  | cancel (id : Nat)
  | unwind (id : Nat)
  deriving DecidableEq, Repr

def put (id : Nat) (task : Option Transfer) (traffic : Traffic) : Traffic :=
  {traffic with tasks := match task with
    | none => traffic.tasks.erase id
    | some task => traffic.tasks.insert id task}

def setSem (semaphore : Semaphore) (traffic : Traffic) : Traffic :=
  {traffic with transferSem := some semaphore}

def first : Kind → Stage
  | .download => .downloading
  | .upload => .getting

/-- `async with _sem()` up to its await. -/
def enter (id : Nat) (kind : Kind) (traffic : Traffic) : Traffic :=
  let semaphore := sem traffic
  let after := setSem (semaphore.acquire traffic.tickets) traffic
  if semaphore.locked then
    {put id (some ⟨kind,.waiting traffic.tickets⟩) after with tickets := traffic.tickets + 1}
  else put id (some ⟨kind,first kind⟩) after

def release (traffic : Traffic) : Traffic := setSem (sem traffic).release traffic

/-- `finally`: the file is removed if there is one. -/
def tidy (id : Nat) (kind : Kind) (traffic : Traffic) : Traffic :=
  {put id (some ⟨kind,.tidying .status⟩) traffic with files := traffic.files.filter (· != id)}

/-- An exception under the semaphore: `_download` tells the user before the `finally`. -/
def failed (id : Nat) (kind : Kind) (traffic : Traffic) : Traffic :=
  match kind with
  | .download => put id (some ⟨kind,.failing⟩) (release traffic)
  | .upload => tidy id kind (release traffic)

def Call.next : Kind → Call → Option Call
  | .download,.status => some .listing
  | .upload,.status => some .message
  | _,.message => some .listing
  | _,.listing => some .page
  | _,.page => some .old
  | _,.old => none
  | _,.excuse => none

/-- `_render` tells the user when the folder cannot be listed. -/
def Call.failed : Call → Option Call
  | .listing => some .excuse
  | _ => none

def goOn (id : Nat) (kind : Kind) (call : Option Call) (traffic : Traffic) : Traffic :=
  put id (call.map fun call => ⟨kind,.tidying call⟩) traffic

def proceed (id : Nat) (task : Transfer) (traffic : Traffic) : Option Traffic :=
  match task.stage with
  | .starting => some (enter id task.kind traffic)
  | .waiting ticket => ((sem traffic).resume ticket).map fun semaphore =>
    put id (some ⟨task.kind,first task.kind⟩) (setSem semaphore traffic)
  | .downloading => some (if id ∈ traffic.files then put id (some ⟨task.kind,.sending⟩) traffic
    else failed id task.kind traffic)
  | .getting => some (put id (some ⟨task.kind,.fetching⟩) traffic)
  | .fetching => some (put id (some ⟨task.kind,.uploading⟩) traffic)
  | .sending => some (tidy id task.kind (release traffic))
  | .uploading => some (tidy id task.kind (release traffic))
  | .failing => some (tidy id task.kind traffic)
  | .tidying call => some (goOn id task.kind (call.next task.kind) traffic)

/-- `acquire` does not raise by itself. -/
def fail (id : Nat) (task : Transfer) (traffic : Traffic) : Option Traffic :=
  match task.stage with
  | .starting => some (put id none traffic)
  | .waiting _ => none
  | .failing => some (tidy id task.kind traffic)
  | .tidying call => some (goOn id task.kind call.failed traffic)
  | _ => some (failed id task.kind traffic)

/-- No `except` of the transfers takes a `CancelledError`. -/
def cancel (id : Nat) (task : Transfer) (traffic : Traffic) : Traffic :=
  match task.stage with
  | .starting => put id none traffic
  | .waiting ticket => setSem ((sem traffic).cancel ticket) traffic
  | .failing => tidy id task.kind traffic
  | .tidying _ => put id none traffic
  | _ => tidy id task.kind (release traffic)

/-- The calls that make `local`. -/
def writes : Stage → Bool
  | .downloading => true
  | .fetching => true
  | _ => false

def unwind (id : Nat) (task : Transfer) (traffic : Traffic) : Option Traffic :=
  match task.stage with
  | .waiting ticket => ((sem traffic).unwind ticket).map fun semaphore =>
    tidy id task.kind (setSem semaphore traffic)
  | _ => none

def step (traffic : Traffic) : Event → Option Traffic
  | .start kind =>
    some {put traffic.next (some ⟨kind,.starting⟩) traffic with next := traffic.next + 1}
  | .proceed id => (traffic.tasks.lookup id).bind fun task => proceed id task traffic
  | .fail id => (traffic.tasks.lookup id).bind fun task => fail id task traffic
  | .write id => (traffic.tasks.lookup id).bind fun task =>
    if writes task.stage then some {traffic with files := id :: traffic.files.filter (· != id)}
    else none
  | .sweep id => some {traffic with files := traffic.files.filter (· != id)}
  | .cancel id => (traffic.tasks.lookup id).map fun task => cancel id task traffic
  | .unwind id => (traffic.tasks.lookup id).bind fun task => unwind id task traffic

def Stage.holds : Stage → Bool
  | .downloading => true
  | .sending => true
  | .getting => true
  | .fetching => true
  | .uploading => true
  | _ => false

def Stage.keeps : Stage → Bool
  | .downloading => true
  | .sending => true
  | .fetching => true
  | .uploading => true
  | .failing => true
  | _ => false

def holding (traffic : Traffic) : Nat := countWhere (fun _ task => task.stage.holds) traffic.tasks

def Call.rank : Call → Nat
  | .status => 5
  | .message => 4
  | .listing => 3
  | .page => 2
  | .old => 1
  | .excuse => 1

/-- At most so many awaits of a transfer are left. -/
def Stage.rank : Stage → Nat
  | .starting => 11
  | .waiting _ => 10
  | .downloading => 8
  | .getting => 9
  | .sending => 7
  | .fetching => 8
  | .uploading => 7
  | .failing => 6
  | .tidying call => call.rank

def left (traffic : Traffic) : Nat := total (fun _ task => task.stage.rank) traffic.tasks

/-- An await of a transfer comes to its end, in whatever way. -/
def Event.onward : Event → Bool
  | .proceed _ => true
  | .fail _ => true
  | .unwind _ => true
  | _ => false

def Event.starts : Event → Bool
  | .start _ => true
  | _ => false

/-- At most `maxTransfers` transfers work at a time, the permits are given in the order in which
the transfers came, and none is lost. A file on the disk belongs to a transfer that has not ended.
As long as there is a transfer one can go on. In a run without new ones the awaits that end are
bounded by those that are left, whatever is written, swept and cancelled; when there is no
transfer left, all permits are back and there is no file. -/
structure Orderly (traffic : Traffic) : Prop where
  few : holding traffic ≤ maxTransfers
  files : ∀ id ∈ traffic.files, ∃ task, traffic.tasks.lookup id = some task ∧
    task.stage.keeps = true
  sorted : (sem traffic).tasks.Pairwise (· < ·)
  inTurn : InTurn (sem traffic).waiters
  prompt : ∀ id kind ticket, traffic.tasks.lookup id = some ⟨kind,.waiting ticket⟩ →
    holding traffic < maxTransfers → ∃ other kind ticket,
      traffic.tasks.lookup other = some ⟨kind,.waiting ticket⟩ ∧
      ((step traffic (.proceed other)).isSome = true ∨ (step traffic (.unwind other)).isSome = true)
  goesOn : traffic.tasks ≠ ∅ → ∃ event : Event, event.onward = true ∧
    (step traffic event).isSome = true
  ends : ∀ (events : List Event) (last : Traffic), (∀ event ∈ events, event.starts = false) →
    events.foldlM step traffic = some last →
    events.countP Event.onward + left last ≤ left traffic
  quiet : traffic.tasks = ∅ → sem traffic = Semaphore.new maxTransfers ∧ traffic.files = []

def Waits (traffic : Traffic) (ticket : Nat) : Prop :=
  ∃ id kind, traffic.tasks.lookup id = some ⟨kind,.waiting ticket⟩

structure Kept (traffic : Traffic) : Prop where
  known : ∀ id task, traffic.tasks.lookup id = some task → id < traffic.next
  ticketed : ∀ ticket, Waits traffic ticket → ticket < traffic.tickets
  single : ∀ id other kind kind' ticket, traffic.tasks.lookup id = some ⟨kind,.waiting ticket⟩ →
    traffic.tasks.lookup other = some ⟨kind',.waiting ticket⟩ → id = other
  served : (sem traffic).Served maxTransfers (holding traffic) (Waits traffic)
  files : ∀ id ∈ traffic.files, ∃ task, traffic.tasks.lookup id = some task ∧
    task.stage.keeps = true

theorem Kept.opened : Kept opened := by
  have none (id : Nat) (task : Transfer) : Transfers.opened.tasks.lookup id ≠ some task := by
    intro found
    contradiction
  refine ⟨fun id task found => absurd found (none id task),?_,
    fun id other kind kind' ticket found => absurd found (none id _),?_,
    fun id member => by contradiction⟩
  · rintro ticket ⟨id,kind,found⟩
    exact absurd found (none id _)
  · apply (Semaphore.Served.new maxTransfers).congr
    intro ticket
    simp only [Waits,iff_false,not_exists]
    exact fun id kind => none id _

section
variable {traffic after : Traffic} {id : Nat}

@[simp] theorem lookup_put (id other : Nat) (task : Option Transfer) (traffic : Traffic) :
    (put id task traffic).tasks.lookup other =
      if other = id then task else traffic.tasks.lookup other := by
  by_cases same : other = id
  · subst same
    cases task <;> simp [put]
  · cases task <;> simp [put,same]

theorem holding_put (id : Nat) (task : Option Transfer) (traffic : Traffic) :
    holding (put id task traffic) +
        (if (traffic.tasks.lookup id).any (·.stage.holds) then 1 else 0) =
      holding traffic + if task.any (·.stage.holds) then 1 else 0 := by
  have split := countWhere_split (fun _ (task : Transfer) => task.stage.holds) traffic.tasks id
  cases task with
  | none =>
    simp only [holding,put,Option.any_none,Bool.false_eq_true,if_false] at split ⊢
    omega
  | some task =>
    have added := countWhere_insert (fun _ (task : Transfer) => task.stage.holds) traffic.tasks id
      task
    simp only [holding,put,Option.any_some] at split added ⊢
    omega

theorem left_put (id : Nat) (task : Option Transfer) (traffic : Traffic) :
    left (put id task traffic) + (traffic.tasks.lookup id).elim 0 (·.stage.rank) =
      left traffic + task.elim 0 (·.stage.rank) := by
  have split := total_split (fun _ (task : Transfer) => task.stage.rank) traffic.tasks id
  cases task with
  | none =>
    simp only [left,put,Option.elim_none] at split ⊢
    omega
  | some task =>
    have added := total_insert (fun _ (task : Transfer) => task.stage.rank) traffic.tasks id task
    simp only [left,put,Option.elim_some] at split added ⊢
    omega

theorem Kept.fresh (kept : Kept traffic) : traffic.tasks.lookup traffic.next = none := by
  cases found : traffic.tasks.lookup traffic.next with
  | none => rfl
  | some task => exact absurd (kept.known _ task found) (Nat.lt_irrefl _)

def ticketOf : Option Transfer → Option Nat
  | some ⟨_,.waiting ticket⟩ => some ticket
  | _ => none

theorem waiting_of_ticketOf {task : Option Transfer} {ticket : Nat}
    (waits : ticketOf task = some ticket) : ∃ kind, task = some ⟨kind,.waiting ticket⟩ := by
  unfold ticketOf at waits
  split at waits
  next kind other => exact ⟨kind,by rw [Option.some.inj waits]⟩
  next => contradiction

theorem Kept.put (kept : Kept traffic) (task : Option Transfer) {made : Option Semaphore}
    {next tickets : Nat} {files : List Nat} (before : id < next) (more : traffic.next ≤ next)
    (later : traffic.tickets ≤ tickets)
    (ticket : ∀ ticket, ticketOf task = some ticket → traffic.tickets ≤ ticket ∧ ticket < tickets)
    (served : (made.getD (Semaphore.new maxTransfers)).Served maxTransfers
      (holding (put id task traffic)) fun ticket =>
        (Waits traffic ticket ∧ ticketOf (traffic.tasks.lookup id) ≠ some ticket) ∨
          ticketOf task = some ticket)
    (kept' : ∀ other ∈ files, if other = id then task.any (·.stage.keeps) = true
      else other ∈ traffic.files) :
    Kept {Transfers.put id task traffic with
      transferSem := made
      next := next
      tickets := tickets
      files := files} := by
  have waits (ticket : Nat) : Waits (Transfers.put id task traffic) ticket ↔
      (Waits traffic ticket ∧ ticketOf (traffic.tasks.lookup id) ≠ some ticket) ∨
        ticketOf task = some ticket := by
    simp only [Waits,lookup_put]
    constructor
    · rintro ⟨other,kind,found⟩
      split at found
      next => exact .inr (by rw [found]; rfl)
      next differs =>
        refine .inl ⟨⟨other,kind,found⟩,?_⟩
        intro same
        obtain ⟨kind',is⟩ := waiting_of_ticketOf same
        exact differs (kept.single _ _ _ _ _ found is)
    · rintro (⟨⟨other,kind,found⟩,differs⟩ | is)
      · refine ⟨other,kind,?_⟩
        rw [if_neg]
        · exact found
        · rintro rfl
          exact differs (by rw [found]; rfl)
      · obtain ⟨kind,same⟩ := waiting_of_ticketOf is
        exact ⟨id,kind,by rw [if_pos rfl,same]⟩
  refine ⟨?_,?_,?_,served.congr waits,?_⟩
  · intro other new found
    simp only [lookup_put] at found
    split at found
    next same => exact same ▸ before
    next => exact Nat.lt_of_lt_of_le (kept.known other new found) more
  · intro number is
    rcases (waits number).mp is with ⟨was,_⟩ | is
    · exact Nat.lt_of_lt_of_le (kept.ticketed number was) later
    · exact (ticket number is).2
  · intro one two kind kind' number found found'
    simp only [lookup_put] at found found'
    have old {other : Nat} {kind : Kind} (is : traffic.tasks.lookup other =
        some ⟨kind,.waiting number⟩) : number < traffic.tickets :=
      kept.ticketed number ⟨other,kind,is⟩
    have new {kind : Kind} (is : task = some ⟨kind,.waiting number⟩) : traffic.tickets ≤ number :=
      (ticket number (by rw [is]; rfl)).1
    split at found <;> split at found'
    next same same' => rw [same,same']
    next => exact absurd (old found') (Nat.not_lt.mpr (new found))
    next => exact absurd (old found) (Nat.not_lt.mpr (new found'))
    next => exact kept.single one two kind kind' number found found'
  · intro other member
    have there := kept' other member
    simp only [lookup_put]
    split at there
    next same =>
      rw [if_pos same]
      exact (Option.any_eq_true _ _).mp there
    next differs =>
      rw [if_neg differs]
      exact kept.files other there

theorem Kept.move (kept : Kept traffic) {task : Transfer}
    (found : traffic.tasks.lookup id = some task) (new : Option Transfer)
    (awake : ticketOf (some task) = none) (awake' : ticketOf new = none) {made : Option Semaphore}
    (served : (made.getD (Semaphore.new maxTransfers)).Served maxTransfers
      (holding (Transfers.put id new traffic)) (Waits traffic)) {files : List Nat}
    (kept' : ∀ other ∈ files, if other = id then new.any (·.stage.keeps) = true
      else other ∈ traffic.files) :
    Kept {Transfers.put id new traffic with
      transferSem := made
      files := files} := by
  refine kept.put new (kept.known id task found) (Nat.le_refl _) (Nat.le_refl _) ?_ ?_ kept'
  · intro ticket waits
    rw [awake'] at waits
    contradiction
  · apply served.congr
    intro ticket
    simp [found,awake,awake']

theorem holding_eq {task : Option Transfer} (new : Option Transfer)
    (found : traffic.tasks.lookup id = task)
    (same : new.any (·.stage.holds) = task.any (·.stage.holds)) :
    holding (put id new traffic) = holding traffic := by
  have moved := holding_put id new traffic
  rw [found,same] at moved
  omega

theorem holding_add {task : Option Transfer} (new : Option Transfer)
    (found : traffic.tasks.lookup id = task)
    (held : task.any (·.stage.holds) = false) (holds : new.any (·.stage.holds) = true) :
    holding (put id new traffic) = holding traffic + 1 := by
  have moved := holding_put id new traffic
  rw [found,held,holds] at moved
  simpa using moved

theorem holding_release {task : Option Transfer} (new : Option Transfer)
    (found : traffic.tasks.lookup id = task)
    (held : task.any (·.stage.holds) = true) (holds : new.any (·.stage.holds) = false) :
    holding traffic = holding (put id new traffic) + 1 := by
  have moved := holding_put id new traffic
  rw [found,held,holds] at moved
  simpa using moved.symm

private theorem removed {Keeps : Prop} : ∀ other ∈ traffic.files.filter (· != id),
    if other = id then Keeps else other ∈ traffic.files := by
  intro other member
  obtain ⟨there,differs⟩ := List.mem_filter.mp member
  rw [if_neg (by simpa using differs)]
  exact there

theorem Kept.tidy (kept : Kept traffic) {task : Transfer}
    (found : traffic.tasks.lookup id = some task) (awake : ticketOf (some task) = none)
    (idle : task.stage.holds = false) : Kept (tidy id task.kind traffic) := by
  apply kept.move found (some ⟨task.kind,.tidying .status⟩) awake rfl _ removed
  rw [holding_eq (some ⟨task.kind,.tidying .status⟩) found idle.symm]
  exact kept.served

theorem Kept.free (kept : Kept traffic) {task : Transfer}
    (found : traffic.tasks.lookup id = some task) (holds : task.stage.holds = true)
    {stage : Stage} (awake : ticketOf (some ⟨task.kind,stage⟩) = none)
    (idle : stage.holds = false) {files : List Nat}
    (kept' : ∀ other ∈ files, if other = id then stage.keeps = true else other ∈ traffic.files) :
    Kept {Transfers.put id (some ⟨task.kind,stage⟩) (release traffic) with files := files} := by
  have awake' : ticketOf (some task) = none := by
    obtain ⟨kind,stage⟩ := task
    cases stage <;> first | rfl | contradiction
  apply kept.move found (some ⟨task.kind,stage⟩) awake' awake _ kept'
  apply Semaphore.Served.release
  rw [← holding_release (some ⟨task.kind,stage⟩) found (by simpa using holds) (by simpa using idle)]
  exact kept.served

theorem Kept.start (kept : Kept traffic) (kind : Kind) :
    Kept {Transfers.put traffic.next (some ⟨kind,.starting⟩) traffic with
      next := traffic.next + 1} := by
  refine kept.put (some ⟨kind,.starting⟩) (Nat.lt_succ_self _) (Nat.le_succ _) (Nat.le_refl _)
    (fun ticket waits => by contradiction) ?_ ?_
  · rw [holding_eq (some ⟨kind,.starting⟩) kept.fresh rfl]
    apply kept.served.congr
    intro ticket
    simp [kept.fresh,ticketOf]
  · intro other member
    rw [if_neg]
    · exact member
    · obtain ⟨task,found,_⟩ := kept.files other member
      exact Nat.ne_of_lt (kept.known other task found)

private theorem untouched {stage : Stage} (kept : Kept traffic) {kind : Kind}
    (found : traffic.tasks.lookup id = some ⟨kind,stage⟩) {new : Transfer}
    (keeps : stage.keeps = true → new.stage.keeps = true) : ∀ other ∈ traffic.files,
      if other = id then (some new).any (·.stage.keeps) = true else other ∈ traffic.files := by
  intro other member
  split
  next same =>
    obtain ⟨task,there,was⟩ := kept.files other member
    rw [same,found] at there
    cases there
    exact keeps was
  next => exact member

theorem Kept.enter (kept : Kept traffic) {kind : Kind}
    (found : traffic.tasks.lookup id = some ⟨kind,.starting⟩) : Kept (enter id kind traffic) := by
  unfold Transfers.enter
  dsimp only
  split
  next locked =>
    refine kept.put (some ⟨kind,.waiting traffic.tickets⟩) (kept.known id _ found) (Nat.le_refl _)
      (Nat.le_succ _) ?_ ?_ (untouched kept found nofun)
    · intro ticket is
      cases is
      exact ⟨Nat.le_refl _,Nat.lt_succ_self _⟩
    · rw [holding_eq (some ⟨kind,.waiting traffic.tickets⟩) found rfl]
      apply (kept.served.enqueue locked kept.ticketed).congr
      intro ticket
      simp [found,ticketOf,eq_comm]
  next free =>
    refine kept.move found (some ⟨kind,first kind⟩) rfl (by cases kind <;> rfl) ?_
      (untouched kept found (fun keeps => by contradiction))
    rw [holding_add (some ⟨kind,first kind⟩) found rfl (by cases kind <;> rfl)]
    exact kept.served.take (by simpa using free)

theorem Kept.resume (kept : Kept traffic) {kind : Kind} {ticket : Nat} {semaphore : Semaphore}
    (found : traffic.tasks.lookup id = some ⟨kind,.waiting ticket⟩)
    (resumed : (sem traffic).resume ticket = some semaphore) :
    Kept (Transfers.put id (some ⟨kind,first kind⟩) (setSem semaphore traffic)) := by
  have awake : ticketOf (some ⟨kind,first kind⟩) = none := by cases kind <;> rfl
  refine kept.put (some ⟨kind,first kind⟩) (kept.known id _ found) (Nat.le_refl _) (Nat.le_refl _)
    ?_ ?_ (untouched kept found (fun keeps => by contradiction))
  · intro number is
    rw [awake] at is
    contradiction
  · rw [holding_add (some ⟨kind,first kind⟩) found rfl (by cases kind <;> rfl)]
    apply (kept.served.resume resumed).congr
    intro number
    simp only [found,awake,reduceCtorEq,or_false]
    simp [ticketOf,eq_comm]

theorem Kept.unwind (kept : Kept traffic) {task : Transfer}
    (found : traffic.tasks.lookup id = some task) (unwound : unwind id task traffic = some after) :
    Kept after := by
  obtain ⟨kind,stage⟩ := task
  cases stage with
  | waiting ticket =>
    obtain ⟨semaphore,left,rfl⟩ := Option.map_eq_some_iff.mp unwound
    refine kept.put (some ⟨kind,.tidying .status⟩) (kept.known id _ found) (Nat.le_refl _)
      (Nat.le_refl _) (fun number is => by contradiction) ?_ removed
    rw [holding_eq (some ⟨kind,.tidying .status⟩) found rfl]
    apply (kept.served.unwind left).congr
    intro number
    simp [found,ticketOf,eq_comm]
  | _ => contradiction

theorem Kept.failed (kept : Kept traffic) {task : Transfer}
    (found : traffic.tasks.lookup id = some task) (holds : task.stage.holds = true) :
    Kept (failed id task.kind traffic) := by
  obtain ⟨kind,stage⟩ := task
  cases kind with
  | download =>
    have keeps : (⟨.download,.failing⟩ : Transfer).stage.keeps = true := rfl
    exact kept.free found holds rfl rfl (untouched kept found fun _ => keeps)
  | upload => exact kept.free found holds rfl rfl removed

theorem Kept.idle (kept : Kept traffic) {task : Transfer}
    (found : traffic.tasks.lookup id = some task) (awake : ticketOf (some task) = none)
    (idle : task.stage.holds = false) (clean : task.stage.keeps = false)
    {new : Option Transfer} (awake' : ticketOf new = none)
    (idle' : new.any (·.stage.holds) = false) : Kept (Transfers.put id new traffic) := by
  refine kept.move found new awake awake' ?_ ?_
  · rw [holding_eq new found (idle'.trans idle.symm)]
    exact kept.served
  · intro other member
    rw [if_neg]
    · exact member
    · rintro rfl
      obtain ⟨old,there,keeps⟩ := kept.files other member
      rw [found] at there
      cases there
      rw [clean] at keeps
      contradiction

theorem Kept.done (kept : Kept traffic) {task : Transfer}
    (found : traffic.tasks.lookup id = some task) (awake : ticketOf (some task) = none)
    (idle : task.stage.holds = false) (clean : task.stage.keeps = false) :
    Kept (Transfers.put id none traffic) :=
  kept.idle found awake idle clean rfl rfl

theorem Kept.goOn (kept : Kept traffic) {kind : Kind} {call : Call}
    (found : traffic.tasks.lookup id = some ⟨kind,.tidying call⟩) (next : Option Call) :
    Kept (goOn id kind next traffic) := by
  apply kept.idle found rfl rfl rfl
  · cases next <;> rfl
  · cases next <;> rfl

theorem Kept.further (kept : Kept traffic) {task : Transfer} {stage : Stage}
    (found : traffic.tasks.lookup id = some task) (holds : task.stage.holds = true)
    (holds' : stage.holds = true) (keeps : task.stage.keeps = true → stage.keeps = true) :
    Kept (Transfers.put id (some ⟨task.kind,stage⟩) traffic) := by
  obtain ⟨kind,old⟩ := task
  refine kept.move found _ ?_ ?_ ?_ (untouched kept found keeps)
  · cases old <;> first | rfl | contradiction
  · cases stage <;> first | rfl | contradiction
  · rw [holding_eq (some ⟨kind,stage⟩) found (holds'.trans holds.symm)]
    exact kept.served

theorem Kept.proceed (kept : Kept traffic) {task : Transfer}
    (found : traffic.tasks.lookup id = some task) (gone : proceed id task traffic = some after) :
    Kept after := by
  obtain ⟨kind,stage⟩ := task
  cases stage with
  | starting =>
    cases gone
    exact kept.enter found
  | waiting ticket =>
    obtain ⟨semaphore,resumed,rfl⟩ := Option.map_eq_some_iff.mp gone
    exact kept.resume found resumed
  | downloading =>
    cases gone
    split
    next => exact kept.further found rfl rfl fun _ => rfl
    next => exact kept.failed found rfl
  | sending =>
    cases gone
    exact kept.free found rfl rfl rfl removed
  | getting =>
    cases gone
    exact kept.further found rfl rfl fun _ => rfl
  | fetching =>
    cases gone
    exact kept.further found rfl rfl fun _ => rfl
  | uploading =>
    cases gone
    exact kept.free found rfl rfl rfl removed
  | failing =>
    cases gone
    exact kept.tidy found rfl rfl
  | tidying call =>
    cases gone
    exact kept.goOn found _

theorem Kept.fail (kept : Kept traffic) {task : Transfer}
    (found : traffic.tasks.lookup id = some task) (raised : fail id task traffic = some after) :
    Kept after := by
  obtain ⟨kind,stage⟩ := task
  cases stage with
  | waiting ticket => contradiction
  | starting =>
    cases raised
    exact kept.done found rfl rfl rfl
  | failing =>
    cases raised
    exact kept.tidy found rfl rfl
  | tidying call =>
    cases raised
    exact kept.goOn found _
  | _ =>
    cases raised
    exact kept.failed found rfl

theorem Kept.cancel (kept : Kept traffic) {task : Transfer}
    (found : traffic.tasks.lookup id = some task) : Kept (cancel id task traffic) := by
  obtain ⟨kind,stage⟩ := task
  cases stage with
  | waiting ticket =>
    exact ⟨kept.known,kept.ticketed,kept.single,kept.served.cancel ticket,kept.files⟩
  | starting => exact kept.done found rfl rfl rfl
  | failing => exact kept.tidy found rfl rfl
  | tidying call => exact kept.done found rfl rfl rfl
  | _ => exact kept.free found rfl rfl rfl removed

theorem Kept.write (kept : Kept traffic) {task : Transfer}
    (found : traffic.tasks.lookup id = some task) (writing : writes task.stage = true) :
    Kept {traffic with files := id :: traffic.files.filter (· != id)} := by
  refine ⟨kept.known,kept.ticketed,kept.single,kept.served,?_⟩
  intro other member
  rcases List.mem_cons.mp member with rfl | member
  · refine ⟨task,found,?_⟩
    obtain ⟨kind,stage⟩ := task
    cases stage <;> first | rfl | contradiction
  · exact kept.files other (List.mem_filter.mp member).1

theorem Kept.step {event : Event} (kept : Kept traffic)
    (taken : step traffic event = some after) : Kept after := by
  cases event with
  | start kind =>
    cases taken
    exact kept.start kind
  | proceed id =>
    obtain ⟨task,found,gone⟩ := Option.bind_eq_some_iff.mp taken
    exact kept.proceed found gone
  | fail id =>
    obtain ⟨task,found,raised⟩ := Option.bind_eq_some_iff.mp taken
    exact kept.fail found raised
  | write id =>
    obtain ⟨task,found,written⟩ := Option.bind_eq_some_iff.mp taken
    split at written
    next writing =>
      cases written
      exact kept.write found writing
    next => contradiction
  | sweep id =>
    cases taken
    exact ⟨kept.known,kept.ticketed,kept.single,kept.served,fun other member =>
      kept.files other (List.mem_filter.mp member).1⟩
  | cancel id =>
    obtain ⟨task,found,rfl⟩ := Option.map_eq_some_iff.mp taken
    exact kept.cancel found
  | unwind id =>
    obtain ⟨task,found,unwound⟩ := Option.bind_eq_some_iff.mp taken
    exact kept.unwind found unwound

theorem left_less {task : Transfer} (found : traffic.tasks.lookup id = some task)
    (new : Option Transfer) (less : new.elim 0 (·.stage.rank) < task.stage.rank) :
    left (put id new traffic) < left traffic := by
  have moved := left_put id new traffic
  rw [found,Option.elim_some] at moved
  omega

theorem left_enter {kind : Kind} (found : traffic.tasks.lookup id = some ⟨kind,.starting⟩) :
    left (enter id kind traffic) < left traffic := by
  unfold enter
  dsimp only
  split
  next => exact left_less found (some ⟨kind,.waiting traffic.tickets⟩) (Nat.lt_succ_self 10)
  next => exact left_less found (some ⟨kind,first kind⟩) (by cases kind <;> decide)

theorem left_tidy {task : Transfer} (found : traffic.tasks.lookup id = some task)
    (early : 5 < task.stage.rank) : left (tidy id task.kind traffic) < left traffic :=
  left_less found (some ⟨task.kind,.tidying .status⟩) early

theorem left_failed {task : Transfer} (found : traffic.tasks.lookup id = some task)
    (holds : task.stage.holds = true) : left (failed id task.kind traffic) < left traffic := by
  obtain ⟨kind,stage⟩ := task
  have early : 6 < stage.rank := by cases stage <;> first | contradiction | decide
  cases kind with
  | download => exact left_less found (some ⟨.download,.failing⟩) early
  | upload => exact left_tidy found (Nat.lt_of_succ_lt early)

theorem left_goOn {kind : Kind} {call : Call} {next : Option Call}
    (found : traffic.tasks.lookup id = some ⟨kind,.tidying call⟩)
    (less : next.elim 0 Call.rank < call.rank) :
    left (goOn id kind next traffic) < left traffic := by
  apply left_less found
  cases next with
  | none => exact less
  | some next => exact less

theorem left_proceed {task : Transfer} (found : traffic.tasks.lookup id = some task)
    (gone : proceed id task traffic = some after) : left after < left traffic := by
  have less (stage : Stage) (less : stage.rank < task.stage.rank) :=
    left_less found (some ⟨task.kind,stage⟩) less
  obtain ⟨kind,stage⟩ := task
  cases stage with
  | starting =>
    cases gone
    exact left_enter found
  | waiting ticket =>
    obtain ⟨semaphore,_,rfl⟩ := Option.map_eq_some_iff.mp gone
    have down : (first kind).rank < 10 := by cases kind <;> decide
    exact less (first kind) down
  | downloading =>
    cases gone
    split
    next => exact less .sending (Nat.lt_succ_self 7)
    next => exact left_failed found rfl
  | getting =>
    cases gone
    exact less .fetching (Nat.lt_succ_self 8)
  | fetching =>
    cases gone
    exact less .uploading (Nat.lt_succ_self 7)
  | sending =>
    cases gone
    exact left_tidy found (by decide : 5 < 7)
  | uploading =>
    cases gone
    exact left_tidy found (by decide : 5 < 7)
  | failing =>
    cases gone
    exact left_tidy found (Nat.lt_succ_self 5)
  | tidying call =>
    cases gone
    exact left_goOn found (by cases kind <;> cases call <;> decide)

theorem left_fail {task : Transfer} (found : traffic.tasks.lookup id = some task)
    (raised : fail id task traffic = some after) : left after < left traffic := by
  obtain ⟨kind,stage⟩ := task
  cases stage with
  | waiting ticket => contradiction
  | starting =>
    cases raised
    exact left_less found none (Nat.succ_pos 10)
  | failing =>
    cases raised
    exact left_tidy found (Nat.lt_succ_self 5)
  | tidying call =>
    cases raised
    exact left_goOn found (by cases call <;> decide)
  | _ =>
    cases raised
    exact left_failed found rfl

theorem left_unwind {task : Transfer} (found : traffic.tasks.lookup id = some task)
    (unwound : unwind id task traffic = some after) : left after < left traffic := by
  obtain ⟨kind,stage⟩ := task
  cases stage with
  | waiting ticket =>
    obtain ⟨semaphore,_,rfl⟩ := Option.map_eq_some_iff.mp unwound
    exact left_tidy found (by decide : 5 < 10)
  | _ => contradiction

theorem left_cancel {task : Transfer} (found : traffic.tasks.lookup id = some task) :
    left (cancel id task traffic) ≤ left traffic := by
  obtain ⟨kind,stage⟩ := task
  cases stage with
  | waiting ticket => exact Nat.le_refl (left traffic)
  | starting => exact (left_less found none (Nat.succ_pos 10)).le
  | failing => exact (left_tidy found (Nat.lt_succ_self 5)).le
  | tidying call => exact (left_less found none (by cases call <;> exact Nat.succ_pos _)).le
  | downloading => exact (left_tidy found (by decide : 5 < 8)).le
  | getting => exact (left_tidy found (by decide : 5 < 9)).le
  | fetching => exact (left_tidy found (by decide : 5 < 8)).le
  | sending => exact (left_tidy found (by decide : 5 < 7)).le
  | uploading => exact (left_tidy found (by decide : 5 < 7)).le

/-- Only a new transfer makes more awaits, and whatever goes on makes less. -/
theorem left_step {event : Event} (old : event.starts = false)
    (taken : step traffic event = some after) :
    left after + (if event.onward then 1 else 0) ≤ left traffic := by
  cases event with
  | start kind => contradiction
  | proceed id =>
    obtain ⟨task,found,gone⟩ := Option.bind_eq_some_iff.mp taken
    exact left_proceed found gone
  | fail id =>
    obtain ⟨task,found,raised⟩ := Option.bind_eq_some_iff.mp taken
    exact left_fail found raised
  | unwind id =>
    obtain ⟨task,found,unwound⟩ := Option.bind_eq_some_iff.mp taken
    exact left_unwind found unwound
  | write id =>
    obtain ⟨task,found,written⟩ := Option.bind_eq_some_iff.mp taken
    split at written
    next =>
      cases written
      exact Nat.le_refl (left traffic)
    next => contradiction
  | sweep id =>
    cases taken
    exact Nat.le_refl (left traffic)
  | cancel id =>
    obtain ⟨task,found,rfl⟩ := Option.map_eq_some_iff.mp taken
    exact left_cancel found

/-- No wakeup is lost: somebody who waits goes on while a permit is not held. -/
theorem Kept.prompt (kept : Kept traffic) {ticket : Nat} (waits : Waits traffic ticket)
    (room : holding traffic < maxTransfers) : ∃ other kind ticket,
      traffic.tasks.lookup other = some ⟨kind,.waiting ticket⟩ ∧
      ((Transfers.step traffic (.proceed other)).isSome = true ∨
        (Transfers.step traffic (.unwind other)).isSome = true) := by
  obtain ⟨ready,⟨other,kind,found⟩,semaphore,runs⟩ := kept.served.not_stuck waits room
  refine ⟨other,kind,ready,found,?_⟩
  rcases runs with resumed | unwound
  · exact .inl (by simp [Transfers.step,found,Transfers.proceed,resumed])
  · exact .inr (by simp [Transfers.step,found,Transfers.unwind,unwound])

theorem Kept.goesOn (kept : Kept traffic) (busy : traffic.tasks ≠ ∅) :
    ∃ event : Event, event.onward = true ∧ (Transfers.step traffic event).isSome = true := by
  by_cases waiting : ∃ ticket, Waits traffic ticket ∧ holding traffic < maxTransfers
  · obtain ⟨ticket,waits,room⟩ := waiting
    obtain ⟨other,_,_,_,goes | goes⟩ := kept.prompt waits room
    · exact ⟨.proceed other,rfl,goes⟩
    · exact ⟨.unwind other,rfl,goes⟩
  · -- A transfer that does not wait can go on, and there is one: else no permit were held.
    obtain ⟨id,task,found,awake⟩ : ∃ id task, traffic.tasks.lookup id = some task ∧
        ticketOf (some task) = none := by
      by_contra none
      simp only [not_exists,not_and] at none
      have idle : holding traffic = 0 := by
        rw [holding,countWhere_eq_zero_iff]
        intro id task found
        cases is : ticketOf (some task) with
        | none => exact absurd is (none id task found)
        | some ticket =>
          obtain ⟨kind,same⟩ := waiting_of_ticketOf is
          cases same
          rfl
      obtain ⟨id,member⟩ : ∃ id, id ∈ traffic.tasks := by
        by_contra empty
        simp only [not_exists] at empty
        exact busy (AList.ext (List.eq_nil_iff_forall_not_mem.mpr fun row member =>
          empty row.1 (List.mem_map_of_mem member)))
      obtain ⟨task,found⟩ := Option.isSome_iff_exists.mp (AList.lookup_isSome.mpr member)
      obtain ⟨ticket,is⟩ := Option.ne_none_iff_exists'.mp (none id task found)
      obtain ⟨kind,same⟩ := waiting_of_ticketOf is
      exact waiting ⟨ticket,⟨id,kind,by rw [found,same]⟩,by rw [idle]; decide⟩
    refine ⟨.proceed id,rfl,?_⟩
    obtain ⟨kind,stage⟩ := task
    cases stage with
    | waiting ticket => contradiction
    | _ => simp [Transfers.step,found,Transfers.proceed]

theorem Kept.orderly (kept : Kept traffic) : Orderly traffic := by
  refine ⟨kept.served.held_le,kept.files,kept.served.sorted,kept.served.inTurn,?_,kept.goesOn,?_,?_⟩
  · intro id kind ticket found room
    exact kept.prompt ⟨id,kind,found⟩ room
  · intro events last old ran
    exact countP_add_le events (fun event member before after taken =>
      left_step (old event member) taken) ran
  · intro empty
    have gone (id : Nat) (task : Transfer) : traffic.tasks.lookup id ≠ some task := by
      rw [empty]
      simp
    have nobody : (sem traffic).waiters = [] := by
      refine List.eq_nil_iff_forall_not_mem.mpr fun waiter member => ?_
      obtain ⟨id,kind,found⟩ := (kept.served.waiting waiter.1).mp (List.mem_map_of_mem member)
      exact gone id _ found
    have idle : holding traffic = 0 := by
      rw [holding,countWhere_eq_zero_iff]
      exact fun id task found => absurd found (gone id task)
    have total := kept.served.total
    rw [nobody,idle] at total
    constructor
    · generalize sem traffic = semaphore at nobody total ⊢
      obtain ⟨value,waiters⟩ := semaphore
      cases nobody
      simpa [Semaphore.new] using total
    · refine List.eq_nil_iff_forall_not_mem.mpr fun id member => ?_
      obtain ⟨task,found,_⟩ := kept.files id member
      exact gone id task found

end

/-- In every run of the transfers of all chats, whatever fails or is cancelled and when. -/
theorem transfers_orderly {traffic : Traffic} (reached : Reach step always opened traffic) :
    Orderly traffic :=
  (reached.invariant Kept Kept.opened fun _ _ _ kept _ taken => kept.step taken).orderly

/-- The fourth download waits until the first fails, whose file is there still. -/
def crowd : List Event :=
  [.start .download,.start .upload,.start .download,.start .download,.proceed 0,.proceed 1,
    .proceed 2,.proceed 3,.write 0,.fail 0,.proceed 3]

theorem transfers_orderly_crowd : ∃ traffic,
    crowd.foldlM (guarded step always) opened = some traffic ∧
      holding traffic = maxTransfers ∧ traffic.files = [0] ∧ Orderly traffic :=
  ⟨_,rfl,rfl,rfl,transfers_orderly (reach_of_run crowd rfl)⟩

end AtronixX.Transfers
