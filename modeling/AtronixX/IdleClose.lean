import AtronixX.Library.Tables
import AtronixX.Library.Transition
import Mathlib.Algebra.Order.Ring.Cast
import Mathlib.Tactic.Linarith

/-! Idle terminals: the passes of `_idle_check` of `core/housekeeping.py` over the sessions
of the registry, and the two places of `core/ssh_manager.py` that note activity. Only one of
them forgets that the user has been warned. A warning is not repeated when Telegram refuses
it, and a pass ends at a session whose screen cannot be composed. -/
namespace AtronixX.IdleClose
open Library.Tables Library.Transition

variable {Time : Type}

structure Settings where
  idleTimeoutMin : Int
  maxSessionHours : Int

def Settings.idleLimit (settings : Settings) : Int := settings.idleTimeoutMin * 60

def Settings.warnAt (settings : Settings) : Int := max 60 (settings.idleLimit - 120)

def Settings.lifeLimit (settings : Settings) : Int := settings.maxSessionHours * 3600

/-- What `TerminalSession` notes of its activity, with the times at which the user was warned. -/
structure Session (Time : Type) where
  startedAt : Time
  lastInput : Time
  lastOutput : Time
  idleWarned : Bool
  closed : Bool
  warnings : List Time

structure Closing (Time : Type) where
  chat : Int
  session : Session Time

structure State (Time : Type) where
  clock : Time
  /-- The last pass, or the start of the bot. -/
  lastPass : Time
  activeSessions : Table Int (Session Time)
  closings : List (Closing Time)

def start (now : Time) : State Time := ⟨now,now,∅,[]⟩

def opened (now : Time) : Session Time := ⟨now,now,now,false,false,[]⟩

def Session.send (now : Time) (session : Session Time) : Session Time :=
  if session.closed then session else {session with lastInput := now, idleWarned := false}

def Session.read (now : Time) (session : Session Time) : Session Time :=
  if session.closed then session else {session with lastOutput := now}

def Session.ended (session : Session Time) : Session Time := {session with closed := true}

/-- The flag is set before `ui.send`, which swallows what Telegram answers. -/
def Session.warn (now : Time) (arrives : Bool) (session : Session Time) : Session Time :=
  {session with
    idleWarned := true
    warnings := if arrives then session.warnings ++ [now] else session.warnings}

inductive Verdict
  | maxLife | idle | warning | nothing
  deriving DecidableEq

inductive Event
  /-- `launch_terminal` puts a new session into the registry. -/
  | launch (chat : Int)
  | send (chat : Int)
  | read (chat : Int)
  | ended (chat : Int)
  /-- `close_session` for a reason of its own. -/
  | close (chat : Int)
  /-- A pass over the chats in this order, with those that no message reaches and those
  whose live message cannot be composed. -/
  | idleCheck (order unsent garbled : List Int)
  deriving DecidableEq

structure Action (Time : Type) where
  time : Time
  event : Event

section Model
variable [CommRing Time] [LinearOrder Time]

def Session.latest (session : Session Time) : Time := max session.lastInput session.lastOutput

variable (settings : Settings)

def verdict (now : Time) (session : Session Time) : Verdict :=
  let idle := now - session.latest
  if now - session.startedAt > settings.lifeLimit then .maxLife
  else if idle > settings.idleLimit then .idle
  else if idle > settings.warnAt ∧ session.idleWarned = false then .warning
  else .nothing

/-- A session in `_idle_check`; `none` when `close_with_notice` raises. -/
def checkSession (now : Time) (unsent garbled : List Int) (state : State Time) (chat : Int) :
    Option (State Time) :=
  match state.activeSessions.lookup chat with
  | none => some state
  | some session =>
    let closed := {state with activeSessions := state.activeSessions.erase chat}
    match verdict settings now session with
    | .maxLife => if chat ∈ garbled then none else some closed
    | .idle => if chat ∈ garbled then none
      else some {closed with closings := state.closings ++ [⟨chat,session⟩]}
    | .warning => some {state with
        activeSessions := updateWhere (fun key _ => key = chat)
          (Session.warn now (chat ∉ unsent)) state.activeSessions}
    | .nothing => some state

def idleCheck (now : Time) (order unsent garbled : List Int) (state : State Time) : State Time :=
  {(visitAll (checkSession settings now unsent garbled) order state).1 with
    clock := now, lastPass := now}

def onSession (chat : Int) (change : Session Time → Session Time) (now : Time)
    (state : State Time) : State Time :=
  {state with
    clock := now
    activeSessions := updateWhere (fun key _ => key = chat) change state.activeSessions}

/-- The clock never goes back, and a pass comes at most 60 seconds after the last. -/
def step (state : State Time) (action : Action Time) : Option (State Time) :=
  let now := action.time
  if now < state.clock then none
  else match action.event with
    | .launch chat => some {state with
        clock := now, activeSessions := state.activeSessions.insert chat (opened now)}
    | .send chat => some (onSession chat (Session.send now) now state)
    | .read chat => some (onSession chat (Session.read now) now state)
    | .ended chat => some (onSession chat Session.ended now state)
    | .close chat => some {state with
        clock := now, activeSessions := state.activeSessions.erase chat}
    | .idleCheck order unsent garbled =>
      if now - state.lastPass ≤ 60 ∧ order.Perm state.activeSessions.keys then
        some (idleCheck settings now order unsent garbled state)
      else none

/-- Every session that was closed as idle had been warned since its latest activity. -/
def Announced (state : State Time) : Prop :=
  ∀ closing ∈ state.closings, ∃ warned ∈ closing.session.warnings, closing.session.latest < warned

def stuck (now : Time) (garbled : List Int) (chat : Int) (session : Option (Session Time)) : Prop :=
  chat ∈ garbled ∧ ∃ live ∈ session,
    verdict settings now live = .maxLife ∨ verdict settings now live = .idle

instance (now : Time) (garbled : List Int) (chat : Int) (session : Option (Session Time)) :
    Decidable (stuck settings now garbled chat session) :=
  inferInstanceAs (Decidable (_ ∧ _))

/-- No output comes from a session whose user has been warned and has not answered, and every
warning that is due in a pass is sent and arrives. -/
def Quiet (state : State Time) (action : Action Time) : Prop :=
  match action.event with
  | .read chat => ∀ session ∈ state.activeSessions.lookup chat, session.idleWarned = false
  | .idleCheck order unsent garbled => ∀ chat ∈ order,
    ∀ session ∈ state.activeSessions.lookup chat, verdict settings action.time session = .warning →
      chat ∉ unsent ∧ chat ∈ order.takeWhile fun other =>
        ¬ stuck settings action.time garbled other (state.activeSessions.lookup other)
  | _ => True

end Model

section Invariant
variable [CommRing Time] [LinearOrder Time] {settings : Settings}

/-- A session that is not warned was not idle long at the last pass, or is past its life. -/
structure Watched (settings : Settings) (clock lastPass : Time) (session : Session Time) : Prop where
  past : session.latest ≤ clock
  warned : session.idleWarned = true → ∃ warned ∈ session.warnings, session.latest < warned
  recent : session.idleWarned = false → lastPass - session.latest ≤ settings.warnAt ∨
    lastPass - session.startedAt > settings.lifeLimit

structure Kept (settings : Settings) (state : State Time) : Prop where
  pass : state.lastPass ≤ state.clock
  watched : ∀ chat session, state.activeSessions.lookup chat = some session →
    Watched settings state.clock state.lastPass session
  announced : Announced state

theorem Watched.later {clock now lastPass : Time} {session : Session Time}
    (watched : Watched settings clock lastPass session) (later : clock ≤ now) :
    Watched settings now lastPass session :=
  ⟨watched.past.trans later,watched.warned,watched.recent⟩

private theorem verdict_maxLife {now : Time} {session : Session Time} :
    verdict settings now session = .maxLife ↔ now - session.startedAt > settings.lifeLimit := by
  unfold verdict
  dsimp only
  split_ifs <;> simp_all

private theorem verdict_idle {now : Time} {session : Session Time}
    (idle : verdict settings now session = .idle) :
    now - session.startedAt ≤ settings.lifeLimit ∧ now - session.latest > settings.idleLimit := by
  unfold verdict at idle
  dsimp only at idle
  split_ifs at idle with old long
  exact ⟨not_lt.mp old,long⟩

private theorem verdict_warning {now : Time} {session : Session Time}
    (due : verdict settings now session = .warning) : now - session.latest > settings.warnAt := by
  unfold verdict at due
  dsimp only at due
  split_ifs at due with old long late
  exact late.1

private theorem verdict_nothing {now : Time} {session : Session Time}
    (nothing : verdict settings now session = .nothing) (unwarned : session.idleWarned = false) :
    now - session.latest ≤ settings.warnAt := by
  unfold verdict at nothing
  dsimp only at nothing
  split_ifs at nothing with old long late
  exact not_lt.mp fun idle => late ⟨idle,unwarned⟩

variable [IsStrictOrderedRing Time]

theorem warnAt_pos (settings : Settings) : (0 : Time) < settings.warnAt := by
  have atLeast : 60 ≤ settings.warnAt := le_max_left _ _
  exact_mod_cast (show (0 : Int) < settings.warnAt by omega)

/-- There is a pass between the time to warn and the time to close. -/
theorem warnAt_le (settings : Settings) (enough : 2 ≤ settings.idleTimeoutMin) :
    settings.warnAt + 60 ≤ settings.idleLimit := by
  unfold Settings.warnAt Settings.idleLimit
  omega

private theorem watched_of_active {now lastPass : Time} {session : Session Time}
    (pass : lastPass ≤ now) (active : session.latest = now) (unwarned : session.idleWarned = false) :
    Watched settings now lastPass session := by
  refine ⟨active.le,fun warned => by rw [unwarned] at warned; contradiction,fun _ => ?_⟩
  have positive : (0 : Time) < settings.warnAt := warnAt_pos settings
  left
  rw [active]
  linarith

private theorem watched_send {clock now lastPass : Time} {session : Session Time}
    (watched : Watched settings clock lastPass session) (pass : lastPass ≤ clock)
    (later : clock ≤ now) : Watched settings now lastPass (session.send now) := by
  unfold Session.send
  split
  next => exact watched.later later
  next =>
    have output : session.lastOutput ≤ now := (le_max_right _ _).trans (watched.past.trans later)
    exact watched_of_active (pass.trans later) (max_eq_left output) rfl

private theorem watched_read {clock now lastPass : Time} {session : Session Time}
    (watched : Watched settings clock lastPass session) (pass : lastPass ≤ clock)
    (later : clock ≤ now) (unwarned : session.idleWarned = false) :
    Watched settings now lastPass (session.read now) := by
  unfold Session.read
  split
  next => exact watched.later later
  next =>
    have input : session.lastInput ≤ now := (le_max_left _ _).trans (watched.past.trans later)
    exact watched_of_active (pass.trans later) (max_eq_right input) unwarned

/-- A session that is due to be closed as idle was warned at the pass before, if not earlier. -/
private theorem warned_of_idle {clock now lastPass : Time} {session : Session Time}
    (watched : Watched settings clock lastPass session) (enough : 2 ≤ settings.idleTimeoutMin)
    (forward : lastPass ≤ now) (soon : now - lastPass ≤ 60)
    (idle : verdict settings now session = .idle) : session.idleWarned = true := by
  obtain ⟨young,long⟩ := verdict_idle idle
  by_contra unwarned
  have passes : ((settings.warnAt + 60 : Int) : Time) ≤ settings.idleLimit :=
    Int.cast_mono (warnAt_le settings enough)
  push_cast at passes
  rcases watched.recent (by simpa using unwarned) with recent | old <;> linarith

private theorem watched_unvisited {clock now lastPass : Time} {session : Session Time}
    (watched : Watched settings clock lastPass session) (enough : 2 ≤ settings.idleTimeoutMin)
    (later : clock ≤ now) (forward : lastPass ≤ now) (soon : now - lastPass ≤ 60)
    (undue : verdict settings now session ≠ .warning) : Watched settings now now session := by
  refine ⟨watched.past.trans later,watched.warned,fun unwarned => ?_⟩
  cases is : verdict settings now session with
  | maxLife => exact .inr (verdict_maxLife.mp is)
  | idle =>
    rw [warned_of_idle watched enough forward soon is] at unwarned
    contradiction
  | warning => contradiction
  | nothing => exact .inl (verdict_nothing is unwarned)

private theorem watched_warned {clock now lastPass : Time} {session : Session Time}
    (watched : Watched settings clock lastPass session) (later : clock ≤ now)
    (due : verdict settings now session = .warning) :
    Watched settings now now (session.warn now true) := by
  have positive : (0 : Time) < settings.warnAt := warnAt_pos settings
  have late := verdict_warning due
  refine ⟨watched.past.trans later,fun _ => ?_,fun warned => by contradiction⟩
  refine ⟨now,List.mem_append_right _ (List.mem_singleton_self now),?_⟩
  change session.latest < now
  linarith

omit [IsStrictOrderedRing Time] in
private theorem kept_onSession {state : State Time} {now : Time} {chat : Int}
    {change : Session Time → Session Time} (kept : Kept settings state) (later : state.clock ≤ now)
    (fine : ∀ session, state.activeSessions.lookup chat = some session →
      Watched settings state.clock state.lastPass session →
      Watched settings now state.lastPass (change session)) :
    Kept settings (onSession chat change now state) := by
  refine ⟨kept.pass.trans later,?_,kept.announced⟩
  intro key session found
  obtain ⟨before,was,rfl⟩ := Option.map_eq_some_iff.mp ((lookup_updateWhere _ _ _ _).symm.trans found)
  change Watched settings now state.lastPass _
  by_cases same : key = chat
  · subst same
    simpa using fine before was (kept.watched _ _ was)
  · simpa [same] using (kept.watched _ _ was).later later

structure Seen (Time : Type) where
  session : Option (Session Time)
  closings : List (Closing Time)

def seen (state : State Time) (chat : Int) : Seen Time where
  session := state.activeSessions.lookup chat
  closings := state.closings.filter fun closing => closing.chat = chat

def Seen.checked (settings : Settings) (now : Time) (unsent : List Int) (chat : Int)
    (seen : Seen Time) : Seen Time :=
  match seen.session with
  | none => seen
  | some session => match verdict settings now session with
    | .maxLife => ⟨none,seen.closings⟩
    | .idle => ⟨none,seen.closings ++ [⟨chat,session⟩]⟩
    | .warning => ⟨some (session.warn now (chat ∉ unsent)),seen.closings⟩
    | .nothing => seen

omit [IsStrictOrderedRing Time] in
theorem local_check (now : Time) (unsent garbled : List Int) :
    Local seen (checkSession settings now unsent garbled) (Seen.checked settings now unsent)
      fun chat seen => stuck settings now garbled chat seen.session where
  raises state chat := by
    unfold checkSession stuck seen
    cases state.activeSessions.lookup chat with
    | none => simp
    | some session => cases is : verdict settings now session <;> simp [is]
  elsewhere state chat after visited other differs := by
    unfold checkSession at visited
    cases found : state.activeSessions.lookup chat with
    | none =>
      rw [found] at visited
      cases visited
      rfl
    | some session =>
      rw [found] at visited
      cases is : verdict settings now session with
      | maxLife =>
        obtain ⟨_,rfl⟩ : chat ∉ garbled ∧ _ = after := by simpa [is] using visited
        simp [seen,AList.lookup_erase_ne differs]
      | idle =>
        obtain ⟨_,rfl⟩ : chat ∉ garbled ∧ _ = after := by simpa [is] using visited
        simp [seen,AList.lookup_erase_ne differs,differs.symm]
      | warning =>
        obtain rfl : _ = after := by simpa [is] using visited
        simp [seen,differs]
      | nothing =>
        obtain rfl : _ = after := by simpa [is] using visited
        rfl
  here state chat after visited := by
    unfold checkSession at visited
    cases found : state.activeSessions.lookup chat with
    | none =>
      rw [found] at visited
      cases visited
      simp [seen,Seen.checked,found]
    | some session =>
      rw [found] at visited
      cases is : verdict settings now session with
      | maxLife =>
        obtain ⟨_,rfl⟩ : chat ∉ garbled ∧ _ = after := by simpa [is] using visited
        simp [seen,Seen.checked,found,is]
      | idle =>
        obtain ⟨_,rfl⟩ : chat ∉ garbled ∧ _ = after := by simpa [is] using visited
        simp [seen,Seen.checked,found,is]
      | warning =>
        obtain rfl : _ = after := by simpa [is] using visited
        simp [seen,Seen.checked,found,is]
      | nothing =>
        obtain rfl : _ = after := by simpa [is] using visited
        simp [seen,Seen.checked,found,is]

omit [IsStrictOrderedRing Time] in
private theorem checked_session {now : Time} {unsent : List Int} {chat : Int} {before : Seen Time}
    {session : Session Time}
    (left : (before.checked settings now unsent chat).session = some session) :
    (∃ was, before.session = some was ∧ verdict settings now was = .warning ∧
      session = was.warn now (chat ∉ unsent)) ∨
    before.session = some session ∧ verdict settings now session = .nothing := by
  unfold Seen.checked at left
  cases found : before.session with
  | none => simp [found] at left
  | some was =>
    cases is : verdict settings now was with
    | maxLife => simp [found,is] at left
    | idle => simp [found,is] at left
    | warning => exact .inl ⟨was,rfl,is,by simpa [found,is] using left.symm⟩
    | nothing =>
      obtain rfl : was = session := by simpa [found,is] using left
      exact .inr ⟨rfl,is⟩

omit [IsStrictOrderedRing Time] in
private theorem checked_closings {now : Time} {unsent : List Int} {chat : Int} {before : Seen Time}
    {closing : Closing Time}
    (member : closing ∈ (before.checked settings now unsent chat).closings) :
    closing ∈ before.closings ∨
      before.session = some closing.session ∧ verdict settings now closing.session = .idle := by
  unfold Seen.checked at member
  cases found : before.session with
  | none => exact .inl (by simpa [found] using member)
  | some was =>
    cases is : verdict settings now was with
    | maxLife => exact .inl (by simpa [found,is] using member)
    | idle =>
      have member : closing ∈ before.closings ∨ closing = ⟨chat,was⟩ := by
        simpa [found,is] using member
      rcases member with before | rfl
      · exact .inl before
      · exact .inr ⟨rfl,is⟩
    | warning => exact .inl (by simpa [found,is] using member)
    | nothing => exact .inl (by simpa [found,is] using member)

private theorem kept_idleCheck {state : State Time} {now : Time} {order unsent garbled : List Int}
    (kept : Kept settings state) (enough : 2 ≤ settings.idleTimeoutMin)
    (later : state.clock ≤ now) (soon : now - state.lastPass ≤ 60)
    (whole : order.Perm state.activeSessions.keys)
    (quiet : Quiet settings state ⟨now,.idleCheck order unsent garbled⟩) :
    Kept settings (idleCheck settings now order unsent garbled state) := by
  have forward : state.lastPass ≤ now := kept.pass.trans later
  have distinct : order.Nodup := whole.nodup_iff.mpr state.activeSessions.keys_nodup
  have visits := @local_check _ _ _ settings now unsent garbled
  have listed {chat : Int} {session : Session Time}
      (found : state.activeSessions.lookup chat = some session) : chat ∈ order :=
    whole.mem_iff.mpr (AList.mem_keys.mp (AList.lookup_isSome.mp (Option.isSome_of_mem found)))
  have warned {chat : Int} {was : Session Time}
      (found : state.activeSessions.lookup chat = some was)
      (due : verdict settings now was = .warning) :
      Watched settings now now (was.warn now (chat ∉ unsent)) := by
    have arrives := (quiet chat (listed found) was found due).1
    rw [decide_eq_true arrives]
    exact watched_warned (kept.watched chat was found) later due
  have between (chat : Int) := visits.between distinct state chat
  refine ⟨le_refl now,?_,?_⟩
  · intro chat session found
    have left : (seen (visitAll (checkSession settings now unsent garbled) order state).1
      chat).session = some session := found
    by_cases due : ∃ was ∈ state.activeSessions.lookup chat, verdict settings now was = .warning
    · obtain ⟨was,before,due⟩ := due
      rw [visits.reached distinct (quiet chat (listed before) was before due).2] at left
      rcases checked_session left with ⟨other,same,_,rfl⟩ | ⟨same,nothing⟩
      · obtain rfl := Option.some.inj (before.symm.trans same)
        exact warned before due
      · obtain rfl := Option.some.inj (before.symm.trans same)
        rw [due] at nothing
        contradiction
    · have before : state.activeSessions.lookup chat = some session := by
        rcases between chat with unchanged | changed
        · rwa [unchanged] at left
        · rw [changed] at left
          rcases checked_session left with ⟨was,same,is,_⟩ | ⟨same,_⟩
          · exact absurd ⟨was,same,is⟩ due
          · exact same
      refine watched_unvisited (kept.watched chat session before) enough later forward soon ?_
      exact fun is => due ⟨session,before,is⟩
  · intro closing member
    have inside : closing ∈ (seen (visitAll (checkSession settings now unsent garbled) order
        state).1 closing.chat).closings := List.mem_filter.mpr ⟨member,by simp⟩
    have before : closing ∈ (seen state closing.chat).closings ∨
        (seen state closing.chat).session = some closing.session ∧
          verdict settings now closing.session = .idle := by
      rcases between closing.chat with unchanged | changed
      · exact .inl (unchanged ▸ inside)
      · exact checked_closings (changed ▸ inside)
    rcases before with earlier | ⟨found,idle⟩
    · exact kept.announced closing (List.mem_of_mem_filter earlier)
    · have watched := kept.watched closing.chat closing.session found
      exact watched.warned (warned_of_idle watched enough forward soon idle)

theorem Kept.step {state after : State Time} {action : Action Time} (kept : Kept settings state)
    (enough : 2 ≤ settings.idleTimeoutMin) (quiet : Quiet settings state action)
    (taken : step settings state action = some after) : Kept settings after := by
  obtain ⟨now,event⟩ := action
  unfold IdleClose.step at taken
  dsimp only at taken
  split at taken
  next => contradiction
  next forward =>
    have later : state.clock ≤ now := not_lt.mp forward
    cases event with
    | launch chat =>
      cases taken
      refine ⟨kept.pass.trans later,?_,kept.announced⟩
      intro key session found
      rcases lookup_insert_some found with ⟨_,rfl⟩ | ⟨_,was⟩
      · exact watched_of_active (kept.pass.trans later) (max_self now) rfl
      · exact (kept.watched _ _ was).later later
    | send chat =>
      cases taken
      exact kept_onSession kept later fun session _ watched => watched_send watched kept.pass later
    | read chat =>
      cases taken
      refine kept_onSession kept later fun session found watched => ?_
      exact watched_read watched kept.pass later (quiet session found)
    | ended chat =>
      cases taken
      refine kept_onSession kept later fun session _ watched => ?_
      exact ⟨watched.past.trans later,watched.warned,watched.recent⟩
    | close chat =>
      cases taken
      refine ⟨kept.pass.trans later,?_,kept.announced⟩
      intro key session found
      exact (kept.watched _ _ (lookup_erase_some found).2).later later
    | idleCheck order unsent garbled =>
      dsimp only at taken
      split at taken
      next due =>
        cases taken
        exact kept_idleCheck kept enough later due.1 due.2 quiet
      next => contradiction

/-- In a run in which no output comes after a warning that is not answered, and every warning
that is due arrives, every idle closing was announced. -/
theorem idle_closing_announced (settings : Settings) (enough : 2 ≤ settings.idleTimeoutMin)
    (first : Time) (state : State Time)
    (reached : Reach (step settings) (Quiet settings) (start first) state) : Announced state := by
  have kept : Kept settings state := by
    apply reached.invariant (Kept settings)
    · refine ⟨le_refl first,?_,?_⟩
      · intro chat session found
        contradiction
      · intro closing member
        contradiction
    · intro before action after kept quiet taken
      exact kept.step enough quiet taken
  exact kept.announced

end Invariant

/-- The shortest timeout that `load_settings` gives. -/
def twoMinutes : Settings := ⟨2,2⟩

instance (state : State Int) :
    (action : Action Int) → Decidable (Quiet twoMinutes state action)
  | ⟨_,.read _⟩ => inferInstanceAs (Decidable (∀ _ ∈ _,_))
  | ⟨_,.idleCheck _ _ _⟩ => inferInstanceAs (Decidable (∀ _ ∈ _,_))
  | ⟨_,.launch _⟩ | ⟨_,.send _⟩ | ⟨_,.ended _⟩ | ⟨_,.close _⟩ => isTrue trivial

def check (time : Int) : Action Int := ⟨time,.idleCheck [7] [] []⟩

theorem idle_closing_announced_alone : ∃ state : State Int, Announced state ∧
    state.closings.map (·.session.warnings) = [[120]] := by
  obtain ⟨state,run,closed⟩ : ∃ state, [(⟨0,.launch 7⟩ : Action Int),check 60,check 120,
      check 180].foldlM (guarded (step twoMinutes) (Quiet twoMinutes)) (start 0) =
        some state ∧ state.closings.map (·.session.warnings) = [[120]] := ⟨_,rfl,rfl⟩
  exact ⟨state,idle_closing_announced twoMinutes (by decide) 0 state (reach_of_run _ run),closed⟩

/-- Some output after the warning, and the session is closed without another. -/
theorem output_after_warning :
    ¬ ∀ state : State Int, Reach (step twoMinutes) always (start 0) state → Announced state := by
  intro holds
  obtain ⟨state,run,closed⟩ : ∃ state, [(⟨0,.launch 7⟩ : Action Int),check 60,check 120,
      ⟨130,.read 7⟩,check 180,check 240,check 300].foldlM
        (guarded (step twoMinutes) always) (start 0) = some state ∧
        state.closings = [⟨7,⟨0,0,130,true,false,[120]⟩⟩] := ⟨_,rfl,rfl⟩
  obtain ⟨warned,member,late⟩ := holds state (reach_of_run _ run) ⟨7,⟨0,0,130,true,false,[120]⟩⟩
    (by rw [closed]; exact List.mem_singleton_self _)
  obtain rfl := List.mem_singleton.mp member
  revert late
  decide

end AtronixX.IdleClose
