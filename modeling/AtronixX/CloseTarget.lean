import AtronixX.Library.Transition
import AtronixX.Live

/-! What a close ends. `close_with_notice` and `close_sftp` look the object up by chat id
again, after the awaits that follow the decision to close it. -/
namespace AtronixX.CloseTarget
open Library.Tables Library.Transition Live

/-- The terminal session, or the browser, that a closer has looked at and will end. -/
def terminalOf : Closer → Option Nat
  | .examined session true => some session
  | .noticing session => some session
  | _ => none

def browserOf : Closer → Option Nat
  | .examinedSftp browser true => some browser
  | _ => none

def noticedBy : Loop → Option Nat
  | .noticing session => some session
  | _ => none

/-- A close is on its way for what was looked at. -/
def terminalAwaited (chat : Chat) : Bool :=
  someWhere (fun _ closer => (terminalOf closer).isSome) chat.closers ||
    someWhere (fun _ loop => (noticedBy loop).isSome) chat.loops

def browserAwaited (chat : Chat) : Bool :=
  someWhere (fun _ closer => (browserOf closer).isSome) chat.closers

def Phase.patient (chat : Chat) (answer : Answer) : Phase → Prop
  | .creating _ => answer.ok = true → terminalAwaited chat = false
  | .replacing _ => browserAwaited chat = false
  | _ => True

/-- No new session or browser is stored while a close of the old one is on its way. -/
def Patient (chat : Chat) : Event → Prop
  | .advance id answer => ∀ task ∈ chat.tasks.lookup id, Phase.patient chat answer task.phase
  | _ => True

/-- Every close ended what was examined for it, or found nothing. -/
def OnTarget (chat : Chat) : Prop :=
  ∀ closing ∈ chat.closings, ∀ ended, closing.ended = some ended → ended = closing.examined

def Still (current : Option Nat) (examined : Nat) : Prop :=
  current = none ∨ current = some examined

structure Aimed (chat : Chat) : Prop where
  terminal : ∀ id closer session, chat.closers.lookup id = some closer →
    terminalOf closer = some session → Still chat.session session
  browser : ∀ id closer browser, chat.closers.lookup id = some closer →
    browserOf closer = some browser → Still chat.sftp browser
  loop : ∀ id loop session, chat.loops.lookup id = some loop → noticedBy loop = some session →
    Still chat.session session
  hit : ∀ closing ∈ chat.closings, Still closing.ended closing.examined

structure Idle (before after : Chat) : Prop where
  session : after.session = before.session ∨ after.session = none
  sftp : after.sftp = before.sftp ∨ after.sftp = none
  closers : ∀ id closer, after.closers.lookup id = some closer →
    before.closers.lookup id = some closer ∨ terminalOf closer = none ∧ browserOf closer = none
  loops : ∀ id loop, after.loops.lookup id = some loop →
    before.loops.lookup id = some loop ∨ noticedBy loop = none
  closings : after.closings = before.closings

theorem Still.fewer {before after : Option Nat} {examined : Nat} (still : Still before examined)
    (fewer : after = before ∨ after = none) : Still after examined := by
  rcases fewer with same | none
  · exact same ▸ still
  · exact .inl none

theorem Idle.trans {first second third : Chat} (one : Idle first second)
    (two : Idle second third) : Idle first third := by
  refine ⟨?_,?_,?_,?_,two.closings.trans one.closings⟩
  · rcases two.session with same | none
    · exact same ▸ one.session
    · exact .inr none
  · rcases two.sftp with same | none
    · exact same ▸ one.sftp
    · exact .inr none
  · intro id closer found
    rcases two.closers id closer found with was | harmless
    · exact one.closers id closer was
    · exact .inr harmless
  · intro id loop found
    rcases two.loops id loop found with was | harmless
    · exact one.loops id loop was
    · exact .inr harmless

theorem Aimed.idle {before after : Chat} (inv : Aimed before) (idle : Idle before after) :
    Aimed after := by
  refine ⟨?_,?_,?_,?_⟩
  · intro id closer session found looks
    rcases idle.closers id closer found with was | ⟨harmless,_⟩
    · exact (inv.terminal id closer session was looks).fewer idle.session
    · rw [harmless] at looks
      contradiction
  · intro id closer browser found looks
    rcases idle.closers id closer found with was | ⟨_,harmless⟩
    · exact (inv.browser id closer browser was looks).fewer idle.sftp
    · rw [harmless] at looks
      contradiction
  · intro id loop session found looks
    rcases idle.loops id loop found with was | harmless
    · exact (inv.loop id loop session was looks).fewer idle.session
    · rw [harmless] at looks
      contradiction
  · rw [idle.closings]
    exact inv.hit

theorem idle_aside {before after : Chat} (session : after.session = before.session)
    (sftp : after.sftp = before.sftp) (closers : after.closers = before.closers)
    (loops : after.loops = before.loops) (closings : after.closings = before.closings) :
    Idle before after :=
  ⟨.inl session,.inl sftp,fun _ _ found => .inl (closers ▸ found),
    fun _ _ found => .inl (loops ▸ found),closings⟩

theorem idle_wait (handler : Handler) (chat : Chat) : Idle chat (wait handler chat) :=
  idle_aside rfl rfl rfl rfl rfl

theorem idle_setPhase (id : Nat) (task : Task) (phase : Phase) (chat : Chat) :
    Idle chat (setPhase id task phase chat) := idle_aside rfl rfl rfl rfl rfl

theorem idle_endTask (id : Nat) (chat : Chat) : Idle chat (endTask id chat) :=
  idle_aside rfl rfl rfl rfl rfl

theorem idle_closeConn (connection : Nat) (chat : Chat) :
    Idle chat (closeConn connection chat) := idle_aside rfl rfl rfl rfl rfl

theorem idle_closeSftp (raises : Bool) (chat : Chat) : Idle chat (closeSftp raises chat) :=
  ⟨.inl rfl,.inr rfl,fun _ _ found => .inl found,fun _ _ found => .inl found,rfl⟩

theorem idle_closeSession (self : Option Nat) (chat : Chat) :
    Idle chat (closeSession self chat) := by
  refine ⟨.inr rfl,.inl rfl,fun _ _ found => .inl found,?_,rfl⟩
  intro id loop found
  simp only [closeSession,cancelLoop] at found
  split at found
  · exact .inl found
  · split at found
    · exact .inl found
    · exact .inl (lookup_erase_some found).2

theorem idle_cancel (chat : Chat) : Idle chat (cancelConnecting chat) := by
  unfold cancelConnecting
  split <;> exact idle_aside rfl rfl rfl rfl rfl

theorem idle_reset (chat : Chat) : Idle chat (resetChat chat) :=
  (idle_cancel chat).trans (idle_aside rfl rfl rfl rfl rfl)

theorem idle_dropCloser (id : Nat) (chat : Chat) : Idle chat (dropCloser id chat) :=
  ⟨.inl rfl,.inl rfl,fun _ _ found => .inl (lookup_erase_some found).2,
    fun _ _ found => .inl found,rfl⟩

theorem idle_dropLoop (id : Nat) (chat : Chat) : Idle chat (dropLoop id chat) :=
  ⟨.inl rfl,.inl rfl,fun _ _ found => .inl found,
    fun _ _ found => .inl (lookup_erase_some found).2,rfl⟩

theorem idle_setLoop (id : Nat) (loop : Loop) (chat : Chat) (harmless : noticedBy loop = none) :
    Idle chat (setLoop id loop chat) := by
  refine ⟨.inl rfl,.inl rfl,fun _ _ found => .inl found,?_,rfl⟩
  intro other found' found
  rcases lookup_insert_some found with ⟨_,rfl⟩ | ⟨_,was⟩
  · exact .inr harmless
  · exact .inl was

theorem idle_setCloser (id : Nat) (closer : Closer) (chat : Chat)
    (harmless : terminalOf closer = none ∧ browserOf closer = none) :
    Idle chat {chat with closers := chat.closers.insert id closer} := by
  refine ⟨.inl rfl,.inl rfl,?_,fun _ _ found => .inl found,rfl⟩
  intro other found' found
  rcases lookup_insert_some found with ⟨_,rfl⟩ | ⟨_,was⟩
  · exact .inr harmless
  · exact .inl was

theorem idle_launched (id : Nat) (mid : Int) (chat : Chat) : Idle chat (launched id mid chat) := by
  refine ⟨.inl rfl,.inl rfl,fun _ _ found => .inl found,?_,rfl⟩
  intro other loop found
  rcases lookup_insert_some found with ⟨_,rfl⟩ | ⟨_,was⟩
  · exact .inr rfl
  · exact .inl was

private theorem idle_begin (update : Update) (chat : Chat) : Idle chat (begin update chat) := by
  cases update with
  | start attempt force allowed closed =>
    unfold Live.begin Live.startAction
    dsimp only
    split
    · exact idle_wait _ chat
    · split
      · exact idle_wait _ chat
      · split
        · exact idle_wait _ chat
        · split
          · exact idle_wait _ chat
          · exact (idle_closeSession none chat).trans (idle_wait _ _)
  | connCancel => exact idle_wait _ chat
  | trustYes mid =>
    unfold Live.begin Live.cbTrustYes
    dsimp only
    split <;> exact idle_aside rfl rfl rfl rfl rfl
  | trustNo => exact idle_wait _ chat
  | reset keepTerminal => exact (idle_reset chat).trans (idle_wait _ _)
  | exitTerminal => exact idle_wait _ chat
  | exitSftp => exact idle_wait _ chat
  | write statement => exact idle_wait _ chat

private theorem idle_proceed (handler : Handler) (answer : Answer) (chat : Chat) :
    Idle chat (proceed handler answer chat) := by
  cases handler with
  | closing attempt => exact idle_wait _ chat
  | counting attempt =>
    unfold Live.proceed
    dsimp only
    split <;> exact idle_wait _ chat
  | answering attempt => exact idle_wait _ chat
  | loading attempt =>
    unfold Live.proceed
    dsimp only
    split
    · exact idle_wait _ chat
    · exact (idle_reset chat).trans (idle_wait _ _)
  | discarding follow => exact (idle_closeSftp _ chat).trans (idle_wait _ _)
  | closingSftp follow => cases follow with
    | connect host operation mid => exact idle_aside rfl rfl rfl rfl rfl
    | leave keepTerminal => cases keepTerminal with
      | true => exact idle_wait _ chat
      | false => exact (idle_closeSession none chat).trans (idle_wait _ _)
  | approving pending mid => exact idle_wait _ chat
  | storing pending mid => exact idle_aside rfl rfl rfl rfl rfl
  | declining => exact idle_aside rfl rfl rfl rfl rfl
  | cancelling => exact (idle_cancel chat).trans (idle_wait _ _)
  | exitingTerminal => exact (idle_closeSession none chat).trans (idle_wait _ _)
  | exitingSftp => exact (idle_closeSftp _ chat).trans (idle_wait _ _)
  | writing statement => exact idle_aside rfl rfl rfl rfl rfl
  | finishing => exact idle_aside rfl rfl rfl rfl rfl

private theorem idle_opened (id : Nat) (task : Task) (fingerprint : Option String) (chat : Chat) :
    Idle chat (opened id task fingerprint chat) := by
  unfold Live.opened
  split
  · exact idle_setPhase ..
  · dsimp only
    split <;> exact idle_aside rfl rfl rfl rfl rfl

private theorem idle_unwind (id : Nat) (task : Task) (chat : Chat) :
    Idle chat (unwind id task chat) := by
  unfold Live.unwind
  split
  · exact idle_aside rfl rfl rfl rfl rfl
  · split <;> exact idle_aside rfl rfl rfl rfl rfl

private theorem Aimed.session {chat : Chat} (inv : Aimed chat) (connection : Nat)
    (patient : terminalAwaited chat = false) : Aimed {chat with session := some connection} := by
  simp only [terminalAwaited,Bool.or_eq_false_iff] at patient
  refine ⟨?_,inv.browser,?_,inv.hit⟩
  · intro id closer session found looks
    have awaited := (someWhere_iff (fun _ closer => (terminalOf closer).isSome) chat.closers).mpr
      ⟨id,closer,found,by simp [looks]⟩
    rw [patient.1] at awaited
    contradiction
  · intro id loop session found looks
    have awaited := (someWhere_iff (fun _ loop => (noticedBy loop).isSome) chat.loops).mpr
      ⟨id,loop,found,by simp [looks]⟩
    rw [patient.2] at awaited
    contradiction

private theorem Aimed.browser_ {chat : Chat} (inv : Aimed chat) (connection : Nat)
    (patient : browserAwaited chat = false) : Aimed {chat with sftp := some connection} := by
  refine ⟨inv.terminal,?_,inv.loop,inv.hit⟩
  intro id closer browser found looks
  have awaited := (someWhere_iff (fun _ closer => (browserOf closer).isSome) chat.closers).mpr
    ⟨id,closer,found,by simp [looks]⟩
  rw [browserAwaited] at patient
  rw [patient] at awaited
  contradiction

private theorem Aimed.advance {chat after : Chat} (inv : Aimed chat) {id : Nat} {task : Task}
    (answer : Answer) (found : chat.tasks.lookup id = some task)
    (patient : Patient chat (.advance id answer))
    (went : advance id task answer chat = some after) : Aimed after := by
  have patient := patient task found
  cases advanced_of_advance went with
  | moved => exact inv.idle (idle_setPhase ..)
  | ended => exact inv.idle (idle_endTask ..)
  | raised connection =>
    exact inv.idle ((idle_closeConn connection chat).trans (idle_setPhase ..))
  | stored connection phase ok =>
    rw [phase] at patient
    exact (inv.session connection (patient ok)).idle (idle_setPhase ..)
  | launched => exact inv.idle (idle_launched ..)
  | emptied => exact inv.idle ((idle_closeSftp _ chat).trans (idle_setPhase ..))
  | browsing connection phase =>
    rw [phase] at patient
    exact (inv.browser_ connection patient).idle (idle_setPhase ..)
  | released connection =>
    exact inv.idle ((idle_closeConn connection chat).trans (idle_setPhase ..))
  | failed connection =>
    exact inv.idle ((idle_closeConn connection chat).trans (idle_setPhase ..))
  | closed => exact inv.idle ((idle_closeSession none chat).trans (idle_setPhase ..))

private theorem Aimed.closing {chat : Chat} (inv : Aimed chat) (closing : Closing)
    (still : Still closing.ended closing.examined) :
    Aimed {chat with closings := closing :: chat.closings} := by
  refine ⟨inv.terminal,inv.browser,inv.loop,?_⟩
  intro other member
  rcases List.mem_cons.mp member with rfl | before
  · exact still
  · exact inv.hit other before

private theorem Aimed.noticed {chat : Chat} (inv : Aimed chat) (self : Option Nat)
    {examined : Nat} (still : Still chat.session examined) :
    Aimed (closeNoticed self examined chat) :=
  (inv.idle (idle_closeSession self chat)).closing ⟨examined,chat.session⟩ still

private theorem Aimed.outside {chat : Chat} (inv : Aimed chat) {id : Nat} {closer : Closer}
    (answer : Answer) (found : chat.closers.lookup id = some closer) :
    Aimed (outside id closer answer chat) := by
  unfold Live.outside
  split
  · exact inv.idle ((idle_closeSftp _ chat).trans
      (idle_setCloser id .closingSftp (closeSftp answer.raises chat) ⟨rfl,rfl⟩))
  · exact inv.idle ((idle_closeSession none chat).trans (idle_dropCloser ..))
  next session ends =>
    cases ends with
    | false => exact inv.idle (idle_dropCloser ..)
    | true =>
      have still := inv.terminal id _ session found rfl
      simp only [Bool.not_true,Bool.false_eq_true,if_false]
      split
      · split
        · refine ⟨?_,?_,inv.loop,inv.hit⟩
          · intro other closer' session' found' looks
            rcases lookup_insert_some found' with ⟨_,rfl⟩ | ⟨_,was⟩
            · cases Option.some.inj looks
              exact still
            · exact inv.terminal other closer' session' was looks
          · intro other closer' browser found' looks
            rcases lookup_insert_some found' with ⟨_,rfl⟩ | ⟨_,was⟩
            · contradiction
            · exact inv.browser other closer' browser was looks
        · exact inv.idle (idle_dropCloser ..)
      · exact (inv.noticed none still).idle (idle_dropCloser ..)
  next session =>
    exact (inv.noticed none (inv.terminal id _ session found rfl)).idle (idle_dropCloser ..)
  next browser ends =>
    cases ends with
    | false => exact inv.idle (idle_dropCloser ..)
    | true =>
      have still := inv.browser id _ browser found rfl
      have closed := inv.idle (idle_closeSftp answer.raises chat)
      exact (closed.closing ⟨browser,chat.sftp⟩ still).idle (idle_dropCloser ..)

private theorem Aimed.examined {chat : Chat} (inv : Aimed chat) (closer : Closer)
    (terminal : ∀ session, terminalOf closer = some session → Still chat.session session)
    (browser : ∀ browser, browserOf closer = some browser → Still chat.sftp browser) :
    Aimed (addCloser closer chat) := by
  refine ⟨?_,?_,inv.loop,inv.hit⟩
  · intro id closer' session found looks
    rcases lookup_insert_some found with ⟨_,rfl⟩ | ⟨_,was⟩
    · exact terminal session looks
    · exact inv.terminal id closer' session was looks
  · intro id closer' browser' found looks
    rcases lookup_insert_some found with ⟨_,rfl⟩ | ⟨_,was⟩
    · exact browser browser' looks
    · exact inv.browser id closer' browser' was looks

private theorem Aimed.ticked {chat : Chat} (inv : Aimed chat) (id : Nat) (tick : Tick) :
    Aimed (ticked id tick chat) := by
  unfold Live.ticked
  split
  · exact inv.idle (idle_dropLoop ..)
  next session stored =>
    split
    · exact inv
    · split
      · refine ⟨inv.terminal,inv.browser,?_,inv.hit⟩
        intro other loop session' found looks
        rcases lookup_insert_some found with ⟨_,rfl⟩ | ⟨_,was⟩
        · cases Option.some.inj looks
          exact .inr stored
        · exact inv.loop other loop session' was looks
      · exact (inv.noticed (some id) (.inr stored)).idle (idle_setLoop _ _ _ rfl)
    · split
      · exact inv.idle (idle_setLoop _ _ _ rfl)
      · exact inv.idle (idle_dropLoop ..)
    · exact inv.idle (idle_dropLoop ..)

theorem Aimed.step {chat after : Chat} {event : Event} (inv : Aimed chat)
    (patient : Patient chat event) (stepped : step chat event = some after) : Aimed after := by
  cases taken_of_step stepped with
  | update update free => exact inv.idle (idle_begin update chat)
  | proceed answer handler running => exact inv.idle (idle_proceed handler answer chat)
  | fail handler running may => exact inv.idle (idle_aside rfl rfl rfl rfl rfl)
  | cancel id => exact inv.idle (idle_aside rfl rfl rfl rfl rfl)
  | advance id answer task _ found alive went => exact inv.advance answer found patient went
  | opened id fingerprint task found alive phase => exact inv.idle (idle_opened ..)
  | unwind id task found cancelled => exact inv.idle (idle_unwind ..)
  | ban =>
    exact (inv.idle (idle_reset chat)).examined .discarding (fun _ looks => by contradiction)
      (fun _ looks => by contradiction)
  | examine ends session stored =>
    refine inv.examined (.examined session ends) ?_ (fun _ looks => by contradiction)
    intro other looks
    cases ends with
    | false => contradiction
    | true =>
      cases Option.some.inj looks
      exact .inr stored
  | examineSftp ends browser stored =>
    refine inv.examined (.examinedSftp browser ends) (fun _ looks => by contradiction) ?_
    intro other looks
    cases ends with
    | false => contradiction
    | true =>
      cases Option.some.inj looks
      exact .inr stored
  | outside id answer closer found => exact inv.outside answer found
  | ticked id tick found => exact inv.ticked id tick
  | drawn id error found =>
    unfold Live.drawn
    split
    · exact inv.idle (idle_setLoop _ _ _ rfl)
    · exact inv.idle (idle_dropLoop ..)
  | noticed id session found =>
    exact (inv.noticed (some id) (inv.loop id _ session found rfl)).idle (idle_setLoop _ _ _ rfl)
  | left id found => exact inv.idle (idle_dropLoop ..)

theorem Aimed.start (owner : Int) (tables : Database.Tables) : Aimed (idleChat owner tables) := by
  refine ⟨?_,?_,?_,fun _ member => by contradiction⟩
  · intro id closer session found
    contradiction
  · intro id closer browser found
    contradiction
  · intro id loop session found
    contradiction

/-- In a run that stores no session and no browser while a close of the old one is on its
way, every close ends what was examined for it. -/
theorem patient_run_on_target (owner : Int) (tables : Database.Tables) (chat : Chat)
    (reached : Reach step Patient (idleChat owner tables) chat) : OnTarget chat := by
  have aimed : Aimed chat := reached.invariant Aimed (Aimed.start owner tables)
    (fun _ _ _ inv patient stepped => inv.step patient stepped)
  intro closing member ended held
  rcases aimed.hit closing member with none | same
  · rw [none] at held
    contradiction
  · exact Option.some.inj (held.symm.trans same)

def connecting (force : Bool) : List Event :=
  [.update (.start ⟨1,.terminal,5⟩ force true false),.proceed done,.proceed done,.proceed done,
    .proceed done,.proceed done]

def reconnecting : List Event := connecting true ++ [.proceed done]

def launch (task : Nat) : List Event :=
  [.advance task done,.advance task done,.opened task (some "SHA256:k"),.advance task done,
    .advance task done]

def looking : List Event := [.examine true,.outside 2 done]

def closing : List Event := [.outside 2 done]

instance (chat : Chat) (answer : Answer) (phase : Phase) :
    Decidable (Phase.patient chat answer phase) := by
  unfold Phase.patient
  split <;> infer_instance

instance (chat : Chat) (event : Event) : Decidable (Patient chat event) := by
  unfold Patient
  split <;> infer_instance

theorem patient_run_on_target_idle :
    ∃ chat, (connecting false ++ launch 0 ++ looking ++ closing).foldlM (guarded step Patient)
      (idleChat 7 trustedHost) = some chat ∧ chat.closings = [⟨0,some 0⟩] ∧ OnTarget chat := by
  obtain ⟨chat,run,closings⟩ : ∃ chat, (connecting false ++ launch 0 ++ looking ++ closing).foldlM
      (guarded step Patient) (idleChat 7 trustedHost) = some chat ∧
      chat.closings = [⟨0,some 0⟩] := ⟨_,rfl,rfl⟩
  exact ⟨chat,run,closings,patient_run_on_target 7 trustedHost chat (reach_of_run _ run)⟩

/-- The user reconnects while `close_with_notice` edits the message of the idle session;
the close then ends the new one. -/
theorem reconnected_session_closed : ¬ ∀ (owner : Int) (tables : Database.Tables) (chat : Chat),
    Reach step always (idleChat owner tables) chat → OnTarget chat := by
  intro claimed
  obtain ⟨chat,run,closings⟩ : ∃ chat, (connecting false ++ launch 0 ++ looking ++
      reconnecting ++ launch 3 ++ closing).foldlM (guarded step always)
      (idleChat 7 trustedHost) = some chat ∧ chat.closings = [⟨0,some 1⟩] := ⟨_,rfl,rfl⟩
  have hit := claimed 7 trustedHost chat (reach_of_run _ run) ⟨0,some 1⟩ (by simp [closings]) 1 rfl
  contradiction

end AtronixX.CloseTarget
