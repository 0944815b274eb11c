import AtronixX.Library.Transition
import AtronixX.Live

/-! The three tables of a live terminal. `active_sessions`, `live_message` and
`render_tasks` are filled one after the other by `launch_terminal` and emptied together by
`close_session`; they agree after a launch unless one of the steps that
`Undisturbed` excludes comes in between or ends the render loop. -/
namespace AtronixX.Zombies
open Library.Tables Library.Transition Live

/-- A launch that has put its session into `active_sessions`: its render loop is not yet in
`render_tasks`, or it has raised and will call `close_session`. -/
inductive Stage
  | launching
  | failing
  deriving DecidableEq, Repr

def stageOf : Phase → Option Stage
  | .editing _ => some .launching
  | .sending _ => some .launching
  | .failing => some .failing
  | _ => none

def Busy (stage : Stage) (chat : Chat) : Prop :=
  ∃ id task, chat.tasks.lookup id = some task ∧ stageOf task.phase = some stage

instance (stage : Stage) (chat : Chat) : Decidable (Busy stage chat) :=
  decidable_of_iff (someWhere (fun _ task => stageOf task.phase = some stage) chat.tasks = true)
    (by simp only [someWhere_iff,decide_eq_true_eq]; rfl)

/-- A session has an unfinished render loop and a live message; without a session there
is neither. -/
def Agree (chat : Chat) : Prop :=
  (∀ session, chat.session = some session →
    (∃ id loop, chat.renderTask = some id ∧ chat.loops.lookup id = some loop) ∧
      chat.liveMessage.isSome = true) ∧
  (chat.session = none → chat.renderTask = none ∧ chat.liveMessage = none)

/-- `start_action` closes a session that is closed, or that the user gives up. -/
def Update.closes (chat : Chat) : Update → Bool
  | .start attempt force allowed closed =>
    allowed && attempt.operation == .terminal && chat.session.isSome && (closed || force)
  | _ => false

def Handler.closes : Handler → Bool
  | .closingSftp (.leave keepTerminal) => !keepTerminal
  | .exitingTerminal => true
  | _ => false

def Closer.closes (chat : Chat) : Closer → Bool
  | .closingSftp => true
  | .examined _ ends => ends && !announces chat
  | .noticing _ => true
  | _ => false

def closes (chat : Chat) : Event → Bool
  | .update update => Update.closes chat update
  | .proceed _ => chat.handler.any Handler.closes
  | .advance id _ => (chat.tasks.lookup id).any
    (fun task => task.phase == .abandoning && task.operation == .terminal ||
      task.phase == .failing)
  | .outside id _ => (chat.closers.lookup id).any (Closer.closes chat)
  | .ticked _ tick => chat.session.isSome && tick == .closed && !announces chat
  | .noticed _ => true
  | _ => false

/-- No close and no cancellation hits a launch, and neither an error that the render loop does
not catch nor a screen that cannot be composed ends it. -/
def Undisturbed (chat : Chat) (event : Event) : Prop :=
  (closes chat event = true → ¬ Busy .launching chat) ∧
  match event with
  | .unwind id => ∀ task ∈ chat.tasks.lookup id, stageOf task.phase = none
  | .ticked id tick => tick ≠ .raised ∨ chat.renderTask ≠ some id
  | .drawn id error => error.all caught = true ∨ chat.renderTask ≠ some id
  | _ => True

structure Consistent (chat : Chat) : Prop where
  known : ∀ id task, chat.tasks.lookup id = some task → id < chat.next
  empty : chat.session = none →
    chat.renderTask = none ∧ chat.liveMessage = none ∧ ¬ Busy .launching chat
  tracked : ∀ id, chat.renderTask = some id →
    (∃ loop, chat.loops.lookup id = some loop ∧ loop ≠ .leaving) ∧ chat.liveMessage.isSome = true
  running : chat.session ≠ none → (∀ stage, ¬ Busy stage chat) → chat.renderTask ≠ none

structure Aside (before after : Chat) : Prop where
  session : after.session = before.session
  liveMessage : after.liveMessage = before.liveMessage
  renderTask : after.renderTask = before.renderTask
  loops : after.loops = before.loops
  busy : ∀ stage, Busy stage after ↔ Busy stage before
  known : (∀ id task, before.tasks.lookup id = some task → id < before.next) →
    ∀ id task, after.tasks.lookup id = some task → id < after.next

theorem Aside.trans {first second third : Chat} (one : Aside first second)
    (two : Aside second third) : Aside first third :=
  ⟨two.session.trans one.session,two.liveMessage.trans one.liveMessage,
    two.renderTask.trans one.renderTask,two.loops.trans one.loops,
    fun stage => (two.busy stage).trans (one.busy stage),
    fun known => two.known (one.known known)⟩

theorem Consistent.aside {before after : Chat} (inv : Consistent before)
    (aside : Aside before after) : Consistent after := by
  refine ⟨aside.known inv.known,?_,?_,?_⟩
  · rw [aside.session,aside.renderTask,aside.liveMessage,aside.busy]
    exact inv.empty
  · rw [aside.renderTask,aside.loops,aside.liveMessage]
    exact inv.tracked
  · rw [aside.session,aside.renderTask]
    intro session idle
    exact inv.running session fun stage busy => idle stage ((aside.busy stage).mpr busy)

theorem aside_of_tasks {before after : Chat} (session : after.session = before.session)
    (liveMessage : after.liveMessage = before.liveMessage)
    (renderTask : after.renderTask = before.renderTask) (loops : after.loops = before.loops)
    (tasks : after.tasks = before.tasks) (next : before.next ≤ after.next) :
    Aside before after := by
  refine ⟨session,liveMessage,renderTask,loops,?_,?_⟩
  · intro stage
    unfold Busy
    rw [tasks]
  · intro known id task found
    exact lt_of_lt_of_le (known id task (tasks ▸ found)) next

theorem aside_insert {chat : Chat} {id : Nat} {task : Task} (new : Task)
    (found : chat.tasks.lookup id = some task)
    (same : stageOf new.phase = stageOf task.phase) :
    Aside chat {chat with tasks := chat.tasks.insert id new} := by
  refine ⟨rfl,rfl,rfl,rfl,fun stage => ⟨?_,?_⟩,?_⟩
  · rintro ⟨other,task',found',busy⟩
    rcases lookup_insert_some found' with ⟨rfl,rfl⟩ | ⟨_,was⟩
    · exact ⟨other,task,found,same ▸ busy⟩
    · exact ⟨other,task',was,busy⟩
  · rintro ⟨other,task',found',busy⟩
    by_cases here : other = id
    · subst here
      cases Option.some.inj (found.symm.trans found')
      exact ⟨other,new,AList.lookup_insert _,same.trans busy⟩
    · exact ⟨other,task',(AList.lookup_insert_ne here).trans found',busy⟩
  · intro known other task' found'
    rcases lookup_insert_some found' with ⟨rfl,_⟩ | ⟨_,was⟩
    · exact known other task found
    · exact known other task' was

theorem aside_drop {chat : Chat} {id : Nat} {task : Task} (connecting : Option Nat)
    (found : chat.tasks.lookup id = some task) (idle : stageOf task.phase = none) :
    Aside chat {dropTask id chat with connecting := connecting} := by
  refine ⟨rfl,rfl,rfl,rfl,fun stage => ⟨?_,?_⟩,?_⟩
  · rintro ⟨other,task',found',busy⟩
    exact ⟨other,task',(lookup_erase_some found').2,busy⟩
  · rintro ⟨other,task',found',busy⟩
    have differs : other ≠ id := by
      rintro rfl
      cases Option.some.inj (found.symm.trans found')
      rw [idle] at busy
      contradiction
    exact ⟨other,task',(AList.lookup_erase_ne differs).trans found',busy⟩
  · intro known other task' found'
    exact known other task' (lookup_erase_some found').2

theorem aside_endTask {chat : Chat} {id : Nat} {task : Task}
    (found : chat.tasks.lookup id = some task) (idle : stageOf task.phase = none) :
    Aside chat (endTask id chat) := aside_drop _ found idle

theorem aside_cancelTask (id : Nat) (chat : Chat) : Aside chat (cancelTask id chat) := by
  refine ⟨rfl,rfl,rfl,rfl,fun stage => ⟨?_,?_⟩,?_⟩
  · rintro ⟨other,task,found,busy⟩
    simp only [cancelTask,lookup_updateWhere,Option.map_eq_some_iff] at found
    obtain ⟨old,was,rfl⟩ := found
    refine ⟨other,old,was,?_⟩
    split at busy <;> exact busy
  · rintro ⟨other,task,found,busy⟩
    refine ⟨other,if other == id then {task with cancelled := true} else task,?_,?_⟩
    · simp [cancelTask,found]
    · split <;> exact busy
  · intro known other task found
    simp only [cancelTask,lookup_updateWhere,Option.map_eq_some_iff] at found
    obtain ⟨old,was,_⟩ := found
    exact known other old was

theorem aside_reset (chat : Chat) : Aside chat (resetChat chat) := by
  have discarded (chat : Chat) : Aside chat (discardPendingTrust chat) :=
    aside_of_tasks rfl rfl rfl rfl rfl (Nat.le_refl _)
  refine Aside.trans ?_ (discarded _)
  unfold cancelConnecting
  split
  · exact aside_of_tasks rfl rfl rfl rfl rfl (Nat.le_refl _)
  next id _ =>
    exact (aside_cancelTask id chat).trans (aside_of_tasks rfl rfl rfl rfl rfl (Nat.le_refl _))

theorem aside_create {chat : Chat} (known : ∀ id task, chat.tasks.lookup id = some task →
    id < chat.next) (task : Task) (idle : stageOf task.phase = none) :
    Aside chat (createTask task chat) := by
  refine ⟨rfl,rfl,rfl,rfl,fun stage => ⟨?_,?_⟩,?_⟩
  · rintro ⟨other,task',found,busy⟩
    rcases lookup_insert_some found with ⟨_,rfl⟩ | ⟨_,was⟩
    · rw [idle] at busy
      contradiction
    · exact ⟨other,task',was,busy⟩
  · rintro ⟨other,task',found,busy⟩
    have differs : other ≠ chat.next := Nat.ne_of_lt (known other task' found)
    exact ⟨other,task',(AList.lookup_insert_ne differs).trans found,busy⟩
  · intro _ other task' found
    rcases lookup_insert_some found with ⟨rfl,_⟩ | ⟨_,was⟩
    · exact Nat.lt_succ_self _
    · exact Nat.lt_succ_of_lt (known other task' was)

theorem Consistent.closeSession {chat : Chat} (inv : Consistent chat) (self : Option Nat)
    (idle : ¬ Busy .launching chat) : Consistent (closeSession self chat) :=
  ⟨inv.known,fun _ => ⟨rfl,rfl,idle⟩,fun _ tracked => by contradiction,
    fun session => absurd rfl session⟩

private theorem aside_wait (handler : Handler) (chat : Chat) : Aside chat (wait handler chat) :=
  aside_of_tasks rfl rfl rfl rfl rfl (Nat.le_refl _)

private theorem aside_closeSftp (raises : Bool) (chat : Chat) :
    Aside chat (closeSftp raises chat) :=
  aside_of_tasks rfl rfl rfl rfl rfl (Nat.le_refl _)

private theorem aside_closeConn (connection : Nat) (chat : Chat) :
    Aside chat (closeConn connection chat) :=
  aside_of_tasks rfl rfl rfl rfl rfl (Nat.le_refl _)

private theorem aside_closers (closers : Table Nat Closer) (next : Nat) (chat : Chat)
    (more : chat.next ≤ next) : Aside chat {chat with closers := closers, next := next} :=
  aside_of_tasks rfl rfl rfl rfl rfl more

private theorem aside_setPhase {chat : Chat} {id : Nat} {task : Task} (phase : Phase)
    (found : chat.tasks.lookup id = some task) (same : stageOf phase = stageOf task.phase) :
    Aside chat (setPhase id task phase chat) := aside_insert {task with phase := phase} found same

private theorem Consistent.begin {chat : Chat} (inv : Consistent chat) (update : Update)
    (undisturbed : closes chat (.update update) = true → ¬ Busy .launching chat) :
    Consistent (begin update chat) := by
  cases update with
  | start attempt force allowed closed =>
    unfold Live.begin Live.startAction
    dsimp only
    split
    · exact inv.aside (aside_wait _ chat)
    next permitted =>
      split
      · exact inv.aside (aside_wait _ chat)
      next terminal =>
        split
        · exact inv.aside (aside_wait _ chat)
        next session stored =>
          split
          · exact inv.aside (aside_wait _ chat)
          next ends =>
            have idle := undisturbed (by
              cases closed <;> cases force <;> simp_all [closes,Update.closes])
            exact (inv.closeSession none idle).aside (aside_wait _ _)
  | connCancel => exact inv.aside (aside_wait _ chat)
  | trustYes mid =>
    unfold Live.begin Live.cbTrustYes
    dsimp only
    split <;> exact inv.aside (aside_of_tasks rfl rfl rfl rfl rfl (Nat.le_refl _))
  | trustNo => exact inv.aside (aside_wait _ chat)
  | reset keepTerminal => exact inv.aside ((aside_reset chat).trans (aside_wait _ _))
  | exitTerminal => exact inv.aside (aside_wait _ chat)
  | exitSftp => exact inv.aside (aside_wait _ chat)
  | write statement => exact inv.aside (aside_wait _ chat)

private theorem aside_cancel (chat : Chat) : Aside chat (cancelConnecting chat) := by
  have reset := aside_reset chat
  exact ⟨reset.session,reset.liveMessage,reset.renderTask,reset.loops,reset.busy,reset.known⟩

private theorem Consistent.proceed {chat : Chat} (inv : Consistent chat) (handler : Handler)
    (answer : Answer) (running : chat.handler = some handler)
    (undisturbed : closes chat (.proceed answer) = true → ¬ Busy .launching chat) :
    Consistent (proceed handler answer chat) := by
  have idle (ends : Handler.closes handler = true) : ¬ Busy .launching chat :=
    undisturbed (by simp [closes,running,ends])
  have created (tables : Database.Tables) (task : Task) (fresh : stageOf task.phase = none) :
      Consistent (createTask task {chat with handler := none, tables := tables}) := by
    have freed : Consistent {chat with handler := none, tables := tables} :=
      inv.aside ⟨rfl,rfl,rfl,rfl,fun _ => Iff.rfl,fun known => known⟩
    exact freed.aside (aside_create freed.known task fresh)
  cases handler with
  | closing attempt => exact inv.aside (aside_wait _ chat)
  | counting attempt =>
    unfold Live.proceed
    dsimp only
    split <;> exact inv.aside (aside_wait _ chat)
  | answering attempt => exact inv.aside (aside_wait _ chat)
  | loading attempt =>
    unfold Live.proceed
    dsimp only
    split
    · exact inv.aside (aside_wait _ chat)
    · exact inv.aside ((aside_reset chat).trans (aside_wait _ _))
  | discarding follow => exact inv.aside ((aside_closeSftp _ chat).trans (aside_wait _ _))
  | closingSftp follow => cases follow with
    | connect host operation mid => exact created chat.tables _ rfl
    | leave keepTerminal => cases keepTerminal with
      | true => exact inv.aside (aside_wait _ chat)
      | false => exact (inv.closeSession none (idle rfl)).aside (aside_wait _ _)
  | approving pending mid => exact inv.aside (aside_wait _ chat)
  | storing pending mid => exact created _ _ rfl
  | declining => exact inv.aside ⟨rfl,rfl,rfl,rfl,fun _ => Iff.rfl,fun known => known⟩
  | cancelling => exact inv.aside ((aside_cancel chat).trans (aside_wait _ _))
  | exitingTerminal => exact (inv.closeSession none (idle rfl)).aside (aside_wait _ _)
  | exitingSftp => exact inv.aside ((aside_closeSftp _ chat).trans (aside_wait _ _))
  | writing statement => exact inv.aside ⟨rfl,rfl,rfl,rfl,fun _ => Iff.rfl,fun known => known⟩
  | finishing => exact inv.aside ⟨rfl,rfl,rfl,rfl,fun _ => Iff.rfl,fun known => known⟩

private theorem Consistent.stored {chat : Chat} (inv : Consistent chat) {id : Nat} {task : Task}
    (connection : Nat) (found : chat.tasks.lookup id = some task) :
    Consistent (setPhase id task (.editing connection)
      {chat with session := some connection}) := by
  have busy : Busy .launching (setPhase id task (.editing connection)
      {chat with session := some connection}) := ⟨id,_,AList.lookup_insert _,rfl⟩
  refine ⟨?_,fun none => by contradiction,inv.tracked,fun _ idle => absurd busy (idle _)⟩
  intro other task' found'
  rcases lookup_insert_some found' with ⟨rfl,_⟩ | ⟨_,was⟩
  · exact inv.known other task found
  · exact inv.known other task' was

private theorem Consistent.launched {chat : Chat} (inv : Consistent chat) {id : Nat} {task : Task}
    (mid : Int) (found : chat.tasks.lookup id = some task)
    (busy : stageOf task.phase = some .launching) : Consistent (launched id mid chat) := by
  have session : chat.session ≠ none := fun none => (inv.empty none).2.2 ⟨id,task,found,busy⟩
  refine ⟨?_,fun none => absurd none session,?_,fun _ _ none => by contradiction⟩
  · intro other task' found'
    exact Nat.lt_succ_of_lt (inv.known other task' (lookup_erase_some found').2)
  · intro other tracked
    cases Option.some.inj tracked
    exact ⟨⟨.sleeping,AList.lookup_insert _,by simp⟩,rfl⟩

private theorem Consistent.failed {chat : Chat} (inv : Consistent chat) {id : Nat} {task : Task}
    (connection : Nat) (found : chat.tasks.lookup id = some task)
    (launching : stageOf task.phase = some .launching) :
    Consistent (setPhase id task .failing (closeConn connection chat)) := by
  have session : chat.session ≠ none :=
    fun none => (inv.empty none).2.2 ⟨id,task,found,launching⟩
  have busy : Busy .failing (setPhase id task .failing (closeConn connection chat)) :=
    ⟨id,_,AList.lookup_insert _,rfl⟩
  refine ⟨?_,fun none => absurd none session,inv.tracked,fun _ idle => absurd busy (idle _)⟩
  intro other task' found'
  rcases lookup_insert_some found' with ⟨rfl,_⟩ | ⟨_,was⟩
  · exact inv.known other task found
  · exact inv.known other task' was

private theorem Consistent.ending {chat : Chat} (inv : Consistent chat) {id : Nat} {task : Task}
    (found : chat.tasks.lookup id = some task) (empty : chat.session = none) :
    Consistent (setPhase id task .ending chat) := by
  obtain ⟨render,live,idle⟩ := inv.empty empty
  refine ⟨?_,fun _ => ⟨render,live,?_⟩,inv.tracked,fun session => absurd empty session⟩
  · intro other task' found'
    rcases lookup_insert_some found' with ⟨rfl,_⟩ | ⟨_,was⟩
    · exact inv.known other task found
    · exact inv.known other task' was
  · rintro ⟨other,task',found',launching⟩
    rcases lookup_insert_some found' with ⟨_,rfl⟩ | ⟨_,was⟩
    · contradiction
    · exact idle ⟨other,task',was,launching⟩

private theorem stageOf_entry (operation : Registry.Operation) (connection : Nat) :
    stageOf (entry operation connection) = none := by
  cases operation <;> rfl

private theorem Consistent.abandon {chat : Chat} (inv : Consistent chat) {id : Nat} {task : Task}
    (connection : Nat) (found : chat.tasks.lookup id = some task)
    (idle : stageOf task.phase = none) : Consistent (abandon id task connection chat) :=
  inv.aside ((aside_closeConn connection chat).trans
    (aside_setPhase .abandoning
      (show (closeConn connection chat).tasks.lookup id = some task from found) idle.symm))

private theorem stageOf_moves {operation : Registry.Operation} {before after : Phase}
    (moves : Moves operation before after) : stageOf after = stageOf before := by
  cases moves with
  | entering connection => rw [stageOf_entry]; rfl
  | _ => rfl

private theorem stageOf_last {phase : Phase} (last : Last phase) : stageOf phase = none := by
  cases last <;> rfl

private theorem stageOf_raising {phase : Phase} {connection : Nat}
    (raising : Raising phase connection) : stageOf phase = none := by
  cases raising <;> rfl

private theorem Consistent.advance {chat after : Chat} (inv : Consistent chat) {id : Nat}
    {task : Task} (answer : Answer) (found : chat.tasks.lookup id = some task)
    (undisturbed : closes chat (.advance id answer) = true → ¬ Busy .launching chat)
    (went : advance id task answer chat = some after) : Consistent after := by
  cases advanced_of_advance went with
  | moved phase moves => exact inv.aside (aside_setPhase phase found (stageOf_moves moves))
  | ended last => exact inv.aside (aside_endTask found (stageOf_last last))
  | raised connection raising =>
    exact inv.abandon connection found (stageOf_raising raising)
  | stored connection => exact inv.stored connection found
  | launched mid connection phase =>
    apply inv.launched mid found
    rcases phase with phase | phase <;> rw [phase] <;> rfl
  | emptied connection phase =>
    exact inv.aside ((aside_closeSftp answer.raises chat).trans
      (aside_setPhase _
        (show (closeSftp answer.raises chat).tasks.lookup id = some task from found)
        (by rw [phase]; rfl)))
  | browsing connection phase =>
    have stored : Aside chat {chat with sftp := some connection} :=
      aside_of_tasks rfl rfl rfl rfl rfl (Nat.le_refl _)
    exact (inv.aside stored).aside (aside_setPhase _
      (show chat.tasks.lookup id = some task from found) (by rw [phase]; rfl))
  | released connection phase =>
    exact inv.aside ((aside_closeConn connection chat).trans
      (aside_setPhase _ (show (closeConn connection chat).tasks.lookup id = some task from found)
        (by rw [phase]; rfl)))
  | failed connection phase => exact inv.failed connection found (by rw [phase]; rfl)
  | closed phase =>
    have closing : closes chat (.advance id answer) = true := by
      rcases phase with ⟨phase,terminal⟩ | phase
      · simp [closes,found,phase,terminal]
      · simp [closes,found,phase]
    have idle := undisturbed closing
    exact (inv.closeSession none idle).ending
      (show chat.tasks.lookup id = some task from found) rfl

private theorem Consistent.opened {chat : Chat} (inv : Consistent chat) {id : Nat} {task : Task}
    (fingerprint : Option String) (found : chat.tasks.lookup id = some task)
    (phase : task.phase = .opening) : Consistent (opened id task fingerprint chat) := by
  have idle : stageOf task.phase = none := by rw [phase]; rfl
  unfold Live.opened
  split
  · exact inv.aside (aside_setPhase _ found idle.symm)
  next presented =>
    dsimp only
    have connected (pending : Option PendingTrust) : Consistent {chat with
        opened := chat.opened + 1
        presented := ⟨task.host,presented⟩ :: chat.presented
        pendingTrust := pending} :=
      inv.aside (aside_of_tasks rfl rfl rfl rfl rfl (Nat.le_refl _))
    split
    · exact (connected chat.pendingTrust).aside
        (aside_setPhase _ found ((stageOf_entry _ _).trans idle.symm))
    · exact (connected _).aside (aside_setPhase _ found idle.symm)

private theorem Consistent.unwind {chat : Chat} (inv : Consistent chat) {id : Nat} {task : Task}
    (found : chat.tasks.lookup id = some task) (idle : stageOf task.phase = none) :
    Consistent (unwind id task chat) := by
  unfold Live.unwind
  split
  · exact inv.aside (aside_drop chat.connecting found idle)
  · split
    next connection _ =>
      exact inv.aside ((aside_closeConn connection chat).trans
        (aside_insert ⟨task.host,task.operation,task.mid,.unwinding,false⟩
          (show (closeConn connection chat).tasks.lookup id = some task from found) idle.symm))
    next => exact inv.aside (aside_endTask found idle)

private theorem Consistent.noticed {chat : Chat} (inv : Consistent chat) (self : Option Nat)
    (examined : Nat) (idle : ¬ Busy .launching chat) : Consistent (closeNoticed self examined chat) :=
  (inv.closeSession self idle).aside (aside_of_tasks rfl rfl rfl rfl rfl (Nat.le_refl _))

private theorem Consistent.outside {chat : Chat} (inv : Consistent chat) {id : Nat}
    {closer : Closer} (answer : Answer) (found : chat.closers.lookup id = some closer)
    (undisturbed : closes chat (.outside id answer) = true → ¬ Busy .launching chat) :
    Consistent (outside id closer answer chat) := by
  have idle (ends : Closer.closes chat closer = true) : ¬ Busy .launching chat :=
    undisturbed (by simp [closes,found,ends])
  have aside (chat : Chat) (closers : Table Nat Closer) :=
    aside_closers closers chat.next chat (Nat.le_refl _)
  unfold Live.outside
  split
  · exact inv.aside ((aside_closeSftp _ chat).trans (aside _ _))
  · exact (inv.closeSession none (idle rfl)).aside (aside _ _)
  next session ends =>
    split
    · exact inv.aside (aside chat _)
    next go =>
      split
      · split <;> exact inv.aside (aside chat _)
      next silent =>
        have closing : Closer.closes chat (.examined session ends) = true := by
          simp_all [Closer.closes]
        exact (inv.noticed none session (idle closing)).aside (aside _ _)
  next session => exact (inv.noticed none session (idle rfl)).aside (aside _ _)
  · split
    · exact inv.aside (aside chat _)
    · exact inv.aside (aside_of_tasks rfl rfl rfl rfl rfl (Nat.le_refl _))

private theorem Consistent.loops {chat : Chat} (inv : Consistent chat) (loops : Table Nat Loop)
    (kept : ∀ id loop, chat.renderTask = some id → chat.loops.lookup id = some loop →
      loop ≠ .leaving → ∃ after, loops.lookup id = some after ∧ after ≠ .leaving) :
    Consistent {chat with loops := loops} := by
  refine ⟨inv.known,inv.empty,?_,inv.running⟩
  intro id tracked
  obtain ⟨⟨loop,found,active⟩,shown⟩ := inv.tracked id tracked
  exact ⟨kept id loop tracked found active,shown⟩

private theorem Consistent.setLoop {chat : Chat} (inv : Consistent chat) (id : Nat) (loop : Loop)
    (active : loop ≠ .leaving) : Consistent (setLoop id loop chat) := by
  refine inv.loops _ ?_
  intro other was tracked found rest
  by_cases same : other = id
  · subst same
    exact ⟨loop,AList.lookup_insert _,active⟩
  · exact ⟨was,(AList.lookup_insert_ne same).trans found,rest⟩

private theorem Consistent.dropLoop {chat : Chat} (inv : Consistent chat) (id : Nat)
    (untracked : chat.renderTask ≠ some id) : Consistent (dropLoop id chat) := by
  refine inv.loops _ ?_
  intro other was tracked found rest
  have differs : other ≠ id := by
    rintro rfl
    exact untracked tracked
  exact ⟨was,(AList.lookup_erase_ne differs).trans found,rest⟩

private theorem Consistent.leaving {chat : Chat} (inv : Consistent chat) (id session : Nat)
    (idle : ¬ Busy .launching chat) :
    Consistent (Live.setLoop id .leaving (closeNoticed (some id) session chat)) := by
  have closed := inv.noticed (some id) session idle
  exact closed.loops _ (fun _ _ tracked => by contradiction)

private theorem Consistent.ticked {chat : Chat} (inv : Consistent chat) (id : Nat) (tick : Tick)
    (undisturbed : closes chat (.ticked id tick) = true → ¬ Busy .launching chat)
    (composed : tick ≠ .raised ∨ chat.renderTask ≠ some id) :
    Consistent (ticked id tick chat) := by
  unfold Live.ticked
  split
  next none =>
    exact inv.dropLoop id (by rw [(inv.empty none).1]; simp)
  next session stored =>
    split
    · exact inv
    · split
      · exact inv.setLoop id _ (by simp)
      next silent =>
        exact inv.leaving id session (undisturbed (by simp_all [closes]))
    · split
      · exact inv.setLoop id _ (by simp)
      next silent =>
        refine inv.dropLoop id ?_
        intro tracked
        exact silent (inv.tracked id tracked).2
    · exact inv.dropLoop id (composed.resolve_left (by simp))

theorem Consistent.step {chat after : Chat} {event : Event} (inv : Consistent chat)
    (undisturbed : Undisturbed chat event) (stepped : step chat event = some after) :
    Consistent after := by
  obtain ⟨idle,kept⟩ := undisturbed
  cases taken_of_step stepped with
  | update update free => exact inv.begin update idle
  | proceed answer handler running => exact inv.proceed handler answer running idle
  | fail handler running may => exact inv.aside ⟨rfl,rfl,rfl,rfl,fun _ => Iff.rfl,fun known => known⟩
  | cancel id => exact inv.aside (aside_cancelTask id chat)
  | advance id answer task _ found alive went => exact inv.advance answer found idle went
  | opened id fingerprint task found alive phase => exact inv.opened fingerprint found phase
  | unwind id task found cancelled => exact inv.unwind found (kept task found)
  | ban => exact inv.aside ((aside_reset chat).trans (aside_closers _ _ _ (Nat.le_succ _)))
  | examine ends session stored => exact inv.aside (aside_closers _ _ chat (Nat.le_succ _))
  | examineSftp ends browser stored => exact inv.aside (aside_closers _ _ chat (Nat.le_succ _))
  | outside id answer closer found => exact inv.outside answer found idle
  | ticked id tick found => exact inv.ticked id tick idle kept
  | drawn id error found =>
    unfold Live.drawn
    split
    · exact inv.setLoop id _ (by simp)
    next uncaught => exact inv.dropLoop id (kept.resolve_left uncaught)
  | noticed id session found => exact inv.leaving id session (idle rfl)
  | left id found =>
    refine inv.dropLoop id ?_
    intro tracked
    obtain ⟨⟨loop,found',active⟩,_⟩ := inv.tracked id tracked
    cases Option.some.inj (found.symm.trans found')
    exact active rfl

theorem Consistent.start (owner : Int) (tables : Database.Tables) :
    Consistent (idleChat owner tables) := by
  refine ⟨?_,fun _ => ⟨rfl,rfl,?_⟩,fun _ tracked => by contradiction,
    fun session => absurd rfl session⟩
  · intro id task found
    contradiction
  · rintro ⟨id,task,found,_⟩
    contradiction

theorem Consistent.agree {chat : Chat} (inv : Consistent chat)
    (idle : ∀ stage, ¬ Busy stage chat) : Agree chat := by
  refine ⟨?_,fun none => ⟨(inv.empty none).1,(inv.empty none).2.1⟩⟩
  intro session stored
  obtain ⟨id,tracked⟩ := Option.ne_none_iff_exists'.mp (inv.running (by simp [stored]) idle)
  obtain ⟨⟨loop,found,_⟩,shown⟩ := inv.tracked id tracked
  exact ⟨⟨id,loop,tracked,found⟩,shown⟩

/-- In a run whose steps leave launches and the render loop undisturbed, the three tables
agree whenever no launch is in progress, whether or not a close is. -/
theorem undisturbed_run_agrees (owner : Int) (tables : Database.Tables) (chat : Chat)
    (reached : Reach step Undisturbed (idleChat owner tables) chat)
    (idle : ∀ stage, ¬ Busy stage chat) : Agree chat := by
  have consistent : Consistent chat := reached.invariant Consistent
    (Consistent.start owner tables) (fun _ _ _ inv undisturbed stepped =>
      inv.step undisturbed stepped)
  exact consistent.agree idle

def connecting : List Event :=
  [.update (.start ⟨1,.terminal,5⟩ false true false),.proceed done,.proceed done,.proceed done,
    .proceed done,.proceed done,.advance 0 done,.advance 0 done,.opened 0 (some "SHA256:k"),
    .advance 0 done]

def shown : List Event := [.advance 0 done]

def cancelling : List Event :=
  [.update .connCancel,.proceed done,.unwind 0,.advance 0 done,.proceed done]

instance (chat : Chat) (event : Event) : Decidable (Undisturbed chat event) := by
  apply event.casesOn (motive := fun event => Decidable (Undisturbed chat event))
  all_goals
    intros
    unfold Undisturbed
    infer_instance

theorem undisturbed_run_agrees_launched :
    ∃ chat, (connecting ++ shown).foldlM (guarded step Undisturbed)
      (idleChat 7 trustedHost) = some chat ∧ chat.session = some 0 ∧ Agree chat := by
  obtain ⟨chat,run,session,tasks⟩ : ∃ chat, (connecting ++ shown).foldlM
      (guarded step Undisturbed) (idleChat 7 trustedHost) = some chat ∧
      chat.session = some 0 ∧ chat.tasks.entries = [] := ⟨_,rfl,rfl,rfl⟩
  have idle (stage : Stage) : ¬ Busy stage chat := by
    rintro ⟨id,task,found,_⟩
    simp [AList.lookup,tasks] at found
  exact ⟨chat,run,session,undisturbed_run_agrees 7 trustedHost chat (reach_of_run _ run) idle⟩

/-- Nothing is at work in the chat, so no launch and no close is in progress. -/
def Resting (chat : Chat) : Prop :=
  chat.handler = none ∧ (∀ id, chat.tasks.lookup id = none) ∧
    (∀ id, chat.closers.lookup id = none) ∧ ∀ id, chat.loops.lookup id = none

/-- `conn:cancel` hits the launch while it edits its message: the session stays, without a
render loop and without a live message. -/
theorem cancelled_launch_leaves_session : ¬ ∀ (owner : Int) (tables : Database.Tables)
    (chat : Chat), Reach step always (idleChat owner tables) chat → Resting chat →
    Agree chat := by
  intro claimed
  obtain ⟨chat,run,session,task,handler,tasks,closers,loops⟩ : ∃ chat,
      (connecting ++ cancelling).foldlM (guarded step always) (idleChat 7 trustedHost) =
        some chat ∧ chat.session = some 0 ∧ chat.renderTask = none ∧ chat.handler = none ∧
      chat.tasks.entries = [] ∧ chat.closers.entries = [] ∧ chat.loops.entries = [] :=
    ⟨_,rfl,rfl,rfl,rfl,rfl,rfl,rfl⟩
  have resting : Resting chat := ⟨handler,fun id => by simp [AList.lookup,tasks],
    fun id => by simp [AList.lookup,closers],fun id => by simp [AList.lookup,loops]⟩
  obtain ⟨⟨id,_,tracked,_⟩,_⟩ :=
    (claimed 7 trustedHost chat (reach_of_run _ run) resting).1 0 session
  rw [task] at tracked
  contradiction

end AtronixX.Zombies
