import AtronixX.Library.Custody
import AtronixX.Live

/-! Who answers for a connection that was opened: an entry of `registry`, the handler of
`trust:yes`, or a task that has not stored it yet. Each is passed on from one to the
next; the steps that drop one on the way are those that `Careful` excludes. -/
namespace AtronixX.Orphans
open Library.Custody Library.Tables Live

inductive Entry
  | activeSessions
  | sftpState
  | pendingTrust
  deriving DecidableEq, Repr

inductive Place
  | entry (entry : Entry)
  | handler
  | task (id : Nat)
  deriving DecidableEq, Repr

def stored (chat : Chat) : Entry → Option Nat
  | .activeSessions => chat.session
  | .sftpState => chat.sftp
  | .pendingTrust => chat.pendingTrust.map PendingTrust.connection

/-- The connection that a task has and no entry yet. -/
def owned : Phase → Option Nat
  | .handed connection => some connection
  | .creating connection => some connection
  | .starting connection => some connection
  | .resolving connection => some connection
  | .replacing connection => some connection
  | .running connection => some connection
  | _ => none

def carried : Handler → Option Nat
  | .approving pending _ => some pending.connection
  | .storing pending _ => some pending.connection
  | _ => none

def content (chat : Chat) : Place → Option Nat
  | .entry entry => stored chat entry
  | .handler => chat.handler.bind carried
  | .task id => (chat.tasks.lookup id).bind (fun task => owned task.phase)

def Quiet (chat : Chat) : Prop :=
  chat.handler = none ∧ ∀ id, chat.tasks.lookup id = none

/-- Every connection that was opened is closed or in exactly one entry. -/
def NoOrphan (chat : Chat) : Prop :=
  ∀ connection, connection < chat.opened →
    connection ∈ chat.closed ∨ ∃! entry, stored chat entry = some connection

/-- When the client's `exit` raises, its connection has been closed before. -/
def exits (chat : Chat) (answer : Answer) : Prop :=
  answer.raises = true → ∀ browser ∈ chat.sftp, browser ∈ chat.closed

/-- The awaits of a handler after which it calls `close_sftp`. -/
def closesBrowser : Handler → Bool
  | .discarding _ => true
  | .exitingSftp => true
  | _ => false

def Closer.closesBrowser : Closer → Bool
  | .discarding => true
  | .examinedSftp _ ends => ends
  | _ => false

def Phase.careful (chat : Chat) (answer : Answer) : Phase → Prop
  | .creating _ => answer.ok = true → ∀ session ∈ chat.session, session ∈ chat.closed
  | .resolving _ => answer.ok = true → exits chat answer
  | _ => True

/-- The step drops no open connection: no exception and no cancellation between the two
hands of `trust:yes`, no session put over an open one, no browser whose `exit` raises. -/
def Careful (chat : Chat) : Event → Prop
  | .fail => chat.handler.bind carried = none
  | .unwind id => ∀ task ∈ chat.tasks.lookup id, unstarted task.phase = true →
    owned task.phase = none
  | .advance id answer => ∀ task ∈ chat.tasks.lookup id, Phase.careful chat answer task.phase
  | .proceed answer => ∀ handler ∈ chat.handler, closesBrowser handler = true → exits chat answer
  | .outside id answer => ∀ closer ∈ chat.closers.lookup id,
    Closer.closesBrowser closer = true → exits chat answer
  | _ => True

def mayStore : Phase → Bool
  | .fresh => true
  | .connecting => true
  | .opening => true
  | .handed _ => true
  | .creating _ => true
  | .starting _ => true
  | .resolving _ => true
  | .replacing _ => true
  | _ => false

def Storing (chat : Chat) (id : Nat) : Prop :=
  ∃ task, chat.tasks.lookup id = some task ∧ task.cancelled = false ∧ mayStore task.phase = true

def Replacing (chat : Chat) (id : Nat) : Prop :=
  ∃ task, chat.tasks.lookup id = some task ∧ task.cancelled = false ∧
    ∃ connection, task.phase = .replacing connection

/-- No task can store anything, and nothing waits for approval. -/
def Clear (chat : Chat) : Prop := (∀ id, ¬ Storing chat id) ∧ chat.pendingTrust = none

def Handled (chat : Chat) : Option Handler → Prop
  | some (.discarding (.connect _ _ _)) => Clear chat
  | some (.closingSftp (.connect _ _ _)) => Clear chat
  | some (.approving _ _) => Clear chat
  | some (.storing _ _) => Clear chat
  | _ => True

/-- Beside the places: one task at most can still store something, the one in `connecting`. -/
structure Kept (chat : Chat) : Prop where
  accounted : Accounted (content chat) chat.opened chat.closed
  known : ∀ id task, chat.tasks.lookup id = some task → id < chat.next
  tracked : ∀ id, Storing chat id → chat.connecting = some id
  waiting : chat.pendingTrust ≠ none → ∀ id, ¬ Storing chat id
  replacing : ∀ id, Replacing chat id → chat.sftp = none
  handled : Handled chat chat.handler

structure Quieter (before after : Chat) : Prop where
  released : Released (content before) before.closed (content after) after.closed
  opened : after.opened = before.opened
  next : before.next ≤ after.next
  known : ∀ id task, after.tasks.lookup id = some task → ∃ old, before.tasks.lookup id = some old
  storing : ∀ id, Storing after id → Storing before id
  connecting : ∀ id, Storing after id → before.connecting = some id → after.connecting = some id
  waiting : after.pendingTrust = before.pendingTrust ∨ after.pendingTrust = none
  replacing : ∀ id, Replacing after id → Replacing before id
  sftp : after.sftp = before.sftp ∨ after.sftp = none

theorem Quieter.trans {first second third : Chat} (one : Quieter first second)
    (two : Quieter second third) : Quieter first third := by
  refine ⟨one.released.trans two.released,two.opened.trans one.opened,le_trans one.next two.next,
    ?_,fun id is => one.storing id (two.storing id is),?_,?_,
    fun id is => one.replacing id (two.replacing id is),?_⟩
  · intro id task found
    obtain ⟨middle,was⟩ := two.known id task found
    exact one.known id middle was
  · intro id is connecting
    exact two.connecting id is (one.connecting id (two.storing id is) connecting)
  · rcases two.waiting with same | none
    · exact same ▸ one.waiting
    · exact .inr none
  · rcases two.sftp with same | none
    · exact same ▸ one.sftp
    · exact .inr none

theorem Clear.quieter {before after : Chat} (clear : Clear before)
    (quieter : Quieter before after) : Clear after := by
  refine ⟨fun id is => clear.1 id (quieter.storing id is),?_⟩
  rcases quieter.waiting with same | none
  · exact same.trans clear.2
  · exact none

theorem Handled.quieter {before after : Chat} {handler : Option Handler}
    (handled : Handled before handler) (quieter : Quieter before after) :
    Handled after handler := by
  unfold Handled at handled ⊢
  split <;> first | exact Clear.quieter handled quieter | trivial

theorem Kept.quieter {before after : Chat} (inv : Kept before) (quieter : Quieter before after)
    (handled : Handled after after.handler) : Kept after := by
  refine ⟨?_,?_,?_,?_,?_,handled⟩
  · rw [quieter.opened]
    exact inv.accounted.released quieter.released
  · intro id task found
    obtain ⟨old,was⟩ := quieter.known id task found
    exact lt_of_lt_of_le (inv.known id old was) quieter.next
  · intro id is
    exact quieter.connecting id is (inv.tracked id (quieter.storing id is))
  · intro some_ id is
    rcases quieter.waiting with same | none
    · exact inv.waiting (same ▸ some_) id (quieter.storing id is)
    · exact some_ none
  · intro id is
    have empty := inv.replacing id (quieter.replacing id is)
    rcases quieter.sftp with same | none
    · exact same.trans empty
    · exact none

/-- An entry stays, or is emptied of what is closed by then. -/
def LetGo {α : Type} (numbered : α → Nat) (before after : Option α) (closed : List Nat) : Prop :=
  after = before ∨ after = none ∧ ∀ one, before = some one → numbered one ∈ closed

theorem LetGo.same {α : Type} {numbered : α → Nat} (held : Option α) (closed : List Nat) :
    LetGo numbered held held closed := .inl rfl

theorem Quieter.entries {before after : Chat} (tasks : after.tasks = before.tasks)
    (connecting : after.connecting = before.connecting)
    (handler : after.handler.bind carried = before.handler.bind carried)
    (opened : after.opened = before.opened) (next : before.next ≤ after.next)
    (session : LetGo id before.session after.session after.closed)
    (sftp : LetGo id before.sftp after.sftp after.closed)
    (pending : LetGo PendingTrust.connection before.pendingTrust after.pendingTrust after.closed)
    (closed : ∀ one, one ∈ before.closed → one ∈ after.closed) : Quieter before after := by
  refine ⟨⟨?_,closed⟩,opened,next,?_,?_,?_,?_,?_,?_⟩
  · rintro ((_ | _ | _) | _ | id)
    · exact session
    · exact sftp
    · rcases pending with same | ⟨none,shut⟩
      · exact .inl (congrArg (Option.map PendingTrust.connection) same)
      · refine .inr ⟨congrArg (Option.map PendingTrust.connection) none,?_⟩
        intro one held
        obtain ⟨record,was,rfl⟩ := Option.map_eq_some_iff.mp held
        exact shut record was
    · exact .inl handler
    · exact .inl (by simp only [content,tasks])
  · intro id task found
    exact ⟨task,tasks ▸ found⟩
  · rintro id ⟨task,found,rest⟩
    exact ⟨task,tasks ▸ found,rest⟩
  · intro id _ was
    exact connecting.trans was
  · exact pending.imp_right And.left
  · rintro id ⟨task,found,rest⟩
    exact ⟨task,tasks ▸ found,rest⟩
  · exact sftp.imp_right And.left

theorem quieter_wait (handler : Handler) {chat : Chat} (before : chat.handler.bind carried = none)
    (after : carried handler = none) : Quieter chat (wait handler chat) :=
  .entries rfl rfl (before ▸ after) rfl (Nat.le_refl _) (.same _ _) (.same _ _) (.same _ _)
    (fun _ => id)

theorem quieter_finished {chat : Chat} (before : chat.handler.bind carried = none) :
    Quieter chat {chat with handler := none} :=
  .entries rfl rfl before.symm rfl (Nat.le_refl _) (.same _ _) (.same _ _) (.same _ _)
    (fun _ => id)

theorem quieter_closeConn (connection : Nat) (chat : Chat) :
    Quieter chat (closeConn connection chat) :=
  .entries rfl rfl rfl rfl (Nat.le_refl _) (.same _ _) (.same _ _) (.same _ _)
    (fun _ => List.mem_cons_of_mem _)

theorem quieter_closeSession (self : Option Nat) (chat : Chat) :
    Quieter chat (closeSession self chat) := by
  refine .entries rfl rfl rfl rfl (Nat.le_refl _) (.inr ⟨rfl,?_⟩) (.same _ _) (.same _ _)
    (fun _ => List.mem_append_right _)
  intro one held
  simp [closeSession,held]

theorem quieter_discard (chat : Chat) : Quieter chat (discardPendingTrust chat) := by
  refine .entries rfl rfl rfl rfl (Nat.le_refl _) (.same _ _) (.same _ _) (.inr ⟨rfl,?_⟩)
    (fun _ => List.mem_append_right _)
  intro pending held
  simp [discardPendingTrust,held]

theorem quieter_closeSftp {chat : Chat} (answer : Answer) (exited : exits chat answer) :
    Quieter chat (closeSftp answer.raises chat) := by
  refine .entries rfl rfl rfl rfl (Nat.le_refl _) (.same _ _) (.inr ⟨rfl,?_⟩) (.same _ _) ?_
  · intro browser held
    cases raises : answer.raises with
    | true =>
      have shut := exited raises browser held
      simpa [closeSftp,raises] using shut
    | false => simp [closeSftp,held]
  · intro one member
    cases raises : answer.raises with
    | true => simpa [closeSftp,raises] using member
    | false => simp [closeSftp,member]

theorem quieter_cancelTask (id : Nat) (chat : Chat) : Quieter chat (cancelTask id chat) := by
  have back (other : Nat) (task : Task)
      (found : (cancelTask id chat).tasks.lookup other = some task) :
      ∃ old, chat.tasks.lookup other = some old ∧ old.phase = task.phase ∧
        (task.cancelled = false → old.cancelled = false) := by
    simp only [cancelTask,lookup_updateWhere,Option.map_eq_some_iff] at found
    obtain ⟨old,was,rfl⟩ := found
    refine ⟨old,was,?_,?_⟩ <;> split <;> simp
  refine ⟨⟨?_,fun _ shut => shut⟩,rfl,Nat.le_refl _,?_,?_,fun _ _ same => same,.inl rfl,?_,.inl rfl⟩
  · rintro ((_ | _ | _) | _ | other) <;> refine .inl ?_
    · rfl
    · rfl
    · rfl
    · rfl
    · simp only [content,cancelTask,lookup_updateWhere,Option.bind_map]
      congr 1
      funext task
      simp only [Function.comp_apply]
      split <;> rfl
  · intro other task found
    obtain ⟨old,was,_⟩ := back other task found
    exact ⟨old,was⟩
  · rintro other ⟨task,found,alive,may⟩
    obtain ⟨old,was,phase,old_alive⟩ := back other task found
    exact ⟨old,was,old_alive alive,phase ▸ may⟩
  · rintro other ⟨task,found,alive,connection,at_⟩
    obtain ⟨old,was,phase,old_alive⟩ := back other task found
    exact ⟨old,was,old_alive alive,connection,phase.trans at_⟩

theorem quieter_cancel (chat : Chat) : Quieter chat (cancelConnecting chat) := by
  unfold cancelConnecting
  split
  · exact .entries rfl rfl rfl rfl (Nat.le_refl _) (.same _ _) (.same _ _) (.same _ _)
      (fun _ shut => shut)
  next id connecting =>
    have marked := quieter_cancelTask id chat
    refine ⟨⟨?_,marked.released.closed⟩,rfl,Nat.le_refl _,marked.known,marked.storing,?_,.inl rfl,
      marked.replacing,.inl rfl⟩
    · rintro ((_ | _ | _) | _ | other)
      · exact .inl rfl
      · exact .inl rfl
      · exact .inl rfl
      · exact .inl rfl
      · exact marked.released.places (.task other)
    · rintro other ⟨task,found,alive,_⟩ same
      rw [connecting] at same
      cases same
      simp only [cancelTask,lookup_updateWhere,Option.map_eq_some_iff] at found
      obtain ⟨old,_,rfl⟩ := found
      simp at alive

theorem Kept.cancelled {chat : Chat} (inv : Kept chat) : Clear (resetChat chat) := by
  refine ⟨?_,rfl⟩
  intro id is
  have before : Storing (cancelConnecting chat) id := is
  have tracked := inv.tracked id ((quieter_cancel chat).storing id before)
  have still := (quieter_cancel chat).connecting id before tracked
  simp [cancelConnecting,tracked] at still

theorem quieter_reset (chat : Chat) : Quieter chat (resetChat chat) :=
  (quieter_cancel chat).trans (quieter_discard _)

theorem quieter_drop {chat : Chat} {id : Nat} {task : Task} (connecting : Option Nat)
    (found : chat.tasks.lookup id = some task)
    (free : ∀ one, owned task.phase = some one → one ∈ chat.closed)
    (elsewhere : ∀ other, other ≠ id → chat.connecting = some other → connecting = some other) :
    Quieter chat {dropTask id chat with connecting := connecting} := by
  refine ⟨⟨?_,fun _ shut => shut⟩,rfl,Nat.le_refl _,?_,?_,?_,.inl rfl,?_,.inl rfl⟩
  · rintro ((_ | _ | _) | _ | other)
    · exact .inl rfl
    · exact .inl rfl
    · exact .inl rfl
    · exact .inl rfl
    · by_cases same : other = id
      · subst same
        refine .inr ⟨by simp [content,dropTask],?_⟩
        intro one held
        simp only [content,found,Option.bind_some] at held
        exact free one held
      · exact .inl (by simp [content,dropTask,AList.lookup_erase_ne same])
  · intro other found'
    exact fun was => ⟨found',(lookup_erase_some was).2⟩
  · rintro other ⟨task',found',rest⟩
    exact ⟨task',(lookup_erase_some found').2,rest⟩
  · rintro other ⟨_,found',_⟩ was
    exact elsewhere other (lookup_erase_some found').1 was
  · rintro other ⟨task',found',rest⟩
    exact ⟨task',(lookup_erase_some found').2,rest⟩

theorem quieter_dropTask {chat : Chat} {id : Nat} {task : Task}
    (found : chat.tasks.lookup id = some task)
    (free : ∀ one, owned task.phase = some one → one ∈ chat.closed) :
    Quieter chat (dropTask id chat) :=
  quieter_drop chat.connecting found free (fun _ _ was => was)

theorem quieter_endTask {chat : Chat} {id : Nat} {task : Task}
    (found : chat.tasks.lookup id = some task)
    (free : ∀ one, owned task.phase = some one → one ∈ chat.closed) :
    Quieter chat (endTask id chat) := by
  refine quieter_drop _ found free ?_
  intro other differs was
  have unlike : id ≠ other := fun same => differs same.symm
  simp [was,unlike.symm]

theorem quieter_insert {chat : Chat} {id : Nat} {task : Task} (new : Task)
    (found : chat.tasks.lookup id = some task)
    (free : owned new.phase = owned task.phase ∨
      owned new.phase = none ∧ ∀ one, owned task.phase = some one → one ∈ chat.closed)
    (still : mayStore new.phase = true → new.cancelled = false →
      mayStore task.phase = true ∧ task.cancelled = false)
    (elsewhere : ∀ connection, new.phase ≠ .replacing connection) :
    Quieter chat {chat with tasks := chat.tasks.insert id new} := by
  refine ⟨⟨?_,fun _ shut => shut⟩,rfl,Nat.le_refl _,?_,?_,fun _ _ same => same,.inl rfl,?_,.inl rfl⟩
  · rintro ((_ | _ | _) | _ | other)
    · exact .inl rfl
    · exact .inl rfl
    · exact .inl rfl
    · exact .inl rfl
    · by_cases same : other = id
      · subst same
        simpa [content,found] using free
      · exact .inl (by simp [content,AList.lookup_insert_ne same])
  · intro other task' found'
    rcases lookup_insert_some found' with ⟨rfl,_⟩ | ⟨_,was⟩
    · exact ⟨task,found⟩
    · exact ⟨task',was⟩
  · rintro other ⟨task',found',alive,may⟩
    rcases lookup_insert_some found' with ⟨rfl,rfl⟩ | ⟨_,was⟩
    · have before := still may alive
      exact ⟨task,found,before.2,before.1⟩
    · exact ⟨task',was,alive,may⟩
  · rintro other ⟨task',found',alive,connection,at_⟩
    rcases lookup_insert_some found' with ⟨rfl,rfl⟩ | ⟨_,was⟩
    · exact absurd at_ (elsewhere connection)
    · exact ⟨task',was,alive,connection,at_⟩

theorem quieter_aside {before after : Chat} (tasks : after.tasks = before.tasks)
    (connecting : after.connecting = before.connecting) (handler : after.handler = before.handler)
    (opened : after.opened = before.opened) (next : before.next ≤ after.next)
    (session : after.session = before.session) (sftp : after.sftp = before.sftp)
    (pending : after.pendingTrust = before.pendingTrust) (closed : after.closed = before.closed) :
    Quieter before after :=
  .entries tasks connecting (congrArg (·.bind carried) handler) opened next (.inl session)
    (.inl sftp) (.inl pending) (fun _ member => closed ▸ member)

end AtronixX.Orphans
