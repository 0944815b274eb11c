import AtronixX.Errors
import AtronixX.Library.Markup
import AtronixX.Library.Transition
import AtronixX.RenderedView

/-! The live message of an open terminal. `_render_loop` takes the session's dirty flag
before it tries an edit, and output may come while it waits for the answer or backs off. -/
namespace AtronixX.RenderLoop
open Errors Library.Markup Library.Text Library.Transition RenderedView Scrollback

variable {view : View} {limit : Nat}

structure Caption where
  brandHeader : Text
  label : Text
  ip : Text
  terminalHint : Text

def compose (caption : Caption) (terminal : Terminal view.toPyte limit) : Text :=
  let body := (render terminal).rtake 3300
  "<b>".toList ++ escape true caption.brandHeader ++ "</b> 🖥 ".toList ++
    escape true caption.label ++ "\n<code>".toList ++ escape true caption.ip ++
    "</code>\n\n<pre>".toList ++ escape true body ++ "</pre>\n".toList ++
    strip caption.terminalHint

structure Session (view : View) (limit : Nat) where
  terminal : Terminal view.toPyte limit
  dirty : Bool
  closed : Bool

def Session.markDirty (session : Session view limit) : Session view limit :=
  {session with dirty := true}

def Session.read (draw : Terminal view.toPyte limit → Terminal view.toPyte limit)
    (session : Session view limit) : Session view limit :=
  {session with terminal := draw session.terminal, dirty := true}

def Session.ended (draw : Terminal view.toPyte limit → Terminal view.toPyte limit)
    (session : Session view limit) : Session view limit :=
  {session with terminal := draw session.terminal, dirty := true, closed := true}

inductive Loop
  | refreshing
  | editing (text : Text)
  | backingOff
  | finished
  deriving DecidableEq

def Loop.text : Loop → Option Text
  | .editing text => some text
  | _ => none

/-- The last field is the text last shown in the message, by the loop or by the launch. -/
structure State (view : View) (limit : Nat) where
  session : Session view limit
  registered : Bool
  loop : Loop
  lastText : Option Text
  shown : Option Text

inductive Event (view : View) (limit : Nat)
  | chunk (draw : Terminal view.toPyte limit → Terminal view.toPyte limit)
  | ended (draw : Terminal view.toPyte limit → Terminal view.toPyte limit)
  /-- The refresh interval is over. -/
  | wake
  /-- The edit is answered, or fails. -/
  | answered (error : Option Fault)
  /-- The sleep after a `RetryAfter` is over. -/
  | rested
  /-- `close_session` cancels the task. -/
  | closeSession

def wake (caption : Caption) (state : State view limit) : State view limit :=
  if !state.registered || state.session.closed then {state with loop := .finished}
  -- `consume_dirty`
  else if !state.session.dirty then state
  else
    let state := {state with session := {state.session with dirty := false}}
    let text := compose caption state.session.terminal
    if some text = state.lastText then state else {state with loop := .editing text}

def answered (text : Text) (state : State view limit) : Option Fault → State view limit
  | none => {state with loop := .refreshing, lastText := some text, shown := some text}
  | some (.telegram (.retryAfter _)) =>
    {state with loop := .backingOff, session := state.session.markDirty}
  | some (.telegram .notModified) =>
    {state with loop := .refreshing, lastText := some text, shown := some text}
  -- This one is logged.
  | some (.telegram .badRequest) => {state with loop := .refreshing}
  | some (.telegram .timedOut) | some (.telegram .networkError) =>
    {state with loop := .refreshing, session := state.session.markDirty}
  -- The loop crashes.
  | some _ => {state with loop := .finished}

def step (caption : Caption) (state : State view limit) : Event view limit →
    Option (State view limit)
  | .chunk draw =>
    if state.session.closed then none else some {state with session := state.session.read draw}
  | .ended draw =>
    if state.session.closed then none else some {state with session := state.session.ended draw}
  | .wake => if state.loop = .refreshing then some (wake caption state) else none
  | .answered error => state.loop.text.map fun text => answered text state error
  | .rested => if state.loop = .backingOff then some {state with loop := .refreshing} else none
  | .closeSession => some {state with registered := false, loop := .finished}

/-- `launch_terminal` has shown a text, or failed to, and a session is dirty from the start. -/
def launched (terminal : Terminal view.toPyte limit) (shown : Option Text) : State view limit :=
  ⟨⟨terminal,true,false⟩,true,.refreshing,none,shown⟩

/-- Whenever the loop waits for more output, all there was has been shown. -/
def Shown (caption : Caption) (state : State view limit) : Prop :=
  state.loop = .refreshing → state.session.dirty = false →
    state.shown = some (compose caption state.session.terminal)

/-- No edit is refused, but for one that came too late or was not needed. -/
def Heard (state : State view limit) : Event view limit → Prop
  | .answered (some (.telegram .badRequest)) =>
    state.session.dirty = true ∨ state.shown = state.loop.text
  | _ => True

/-- While the flag is not set, an edit that is under way is about the screen as it is. -/
structure Kept (caption : Caption) (state : State view limit) : Prop where
  lastText : ∀ text, state.lastText = some text → state.shown = some text
  refreshing : Shown caption state
  editing : ∀ text, state.loop = .editing text → state.session.dirty = false →
    text = compose caption state.session.terminal
  backingOff : state.loop = .backingOff → state.session.dirty = true

variable {caption : Caption} {state after : State view limit}

private theorem Kept.drawn {session : Session view limit} (kept : Kept caption state)
    (dirty : session.dirty = true) : Kept caption {state with session := session} where
  lastText := kept.lastText
  refreshing _ clean := by
    have set : session.dirty = false := clean
    rw [dirty] at set
    contradiction
  editing _ _ clean := by
    have set : session.dirty = false := clean
    rw [dirty] at set
    contradiction
  backingOff _ := dirty

private theorem Kept.finished (kept : Kept caption state) (registered : Bool) :
    Kept caption {state with registered := registered, loop := .finished} where
  lastText := kept.lastText
  refreshing asleep := by contradiction
  editing _ under := by contradiction
  backingOff under := by contradiction

theorem Kept.wake (kept : Kept caption state) (asleep : state.loop = .refreshing) :
    Kept caption (wake caption state) := by
  unfold RenderLoop.wake
  split
  next => exact kept.finished state.registered
  next =>
    split
    next => exact kept
    next =>
      dsimp only
      split
      next same =>
        -- The text is the last one, which is still what is shown.
        have shown := kept.lastText _ same.symm
        refine ⟨kept.lastText,fun _ _ => shown,fun text under => ?_,fun under => ?_⟩
        · have never : state.loop = .editing text := under
          rw [asleep] at never
          contradiction
        · have never : state.loop = .backingOff := under
          rw [asleep] at never
          contradiction
      next =>
        refine ⟨kept.lastText,fun under => by contradiction,fun text under _ => ?_,
          fun under => by contradiction⟩
        exact (Loop.editing.inj under).symm

private theorem Kept.edited {text : Text} (kept : Kept caption state)
    (under : state.loop = .editing text) : Kept caption
      {state with loop := .refreshing, lastText := some text, shown := some text} where
  lastText _ same := same
  refreshing _ clean := congrArg some (kept.editing text under clean)
  editing _ under := by contradiction
  backingOff under := by contradiction

private theorem Kept.retried {loop : Loop} (kept : Kept caption state) :
    Kept caption {state with loop := loop, session := state.session.markDirty} where
  lastText := kept.lastText
  refreshing _ clean := by contradiction
  editing _ _ clean := by contradiction
  backingOff _ := rfl

private theorem Kept.refused {text : Text} (kept : Kept caption state)
    (under : state.loop = .editing text)
    (heard : state.session.dirty = true ∨ state.shown = some text) :
    Kept caption {state with loop := .refreshing} where
  lastText := kept.lastText
  refreshing _ clean := by
    have clear : state.session.dirty = false := clean
    rcases heard with dirty | shown
    · rw [dirty] at clear
      contradiction
    · exact shown.trans (congrArg some (kept.editing text under clear))
  editing _ under := by contradiction
  backingOff under := by contradiction

theorem Kept.answered {text : Text} {error : Option Fault} (kept : Kept caption state)
    (under : state.loop = .editing text) (heard : Heard state (.answered error)) :
    Kept caption (answered text state error) := by
  rcases error with _ | error
  · exact kept.edited under
  · rcases error with error | _
    · cases error with
      | notModified => exact kept.edited under
      | badRequest =>
        have late : state.session.dirty = true ∨ state.shown = state.loop.text := heard
        rw [under] at late
        exact kept.refused under late
      | retryAfter seconds => exact kept.retried
      | timedOut => exact kept.retried
      | networkError => exact kept.retried
      | forbidden => exact kept.finished state.registered
      | other => exact kept.finished state.registered
    · exact kept.finished state.registered

private theorem editing_of_text {loop : Loop} {text : Text} (is : loop.text = some text) :
    loop = .editing text := by
  cases loop with
  | editing other => exact congrArg Loop.editing (Option.some.inj is)
  | refreshing => contradiction
  | backingOff => contradiction
  | finished => contradiction

theorem Kept.step {event : Event view limit} (kept : Kept caption state)
    (heard : Heard state event) (taken : step caption state event = some after) :
    Kept caption after := by
  cases event with
  | chunk draw =>
    obtain ⟨_,same⟩ := Option.ite_none_left_eq_some.mp taken
    cases same
    exact kept.drawn rfl
  | ended draw =>
    obtain ⟨_,same⟩ := Option.ite_none_left_eq_some.mp taken
    cases same
    exact kept.drawn rfl
  | wake =>
    obtain ⟨asleep,same⟩ := Option.ite_none_right_eq_some.mp taken
    cases same
    exact kept.wake asleep
  | answered error =>
    obtain ⟨text,under,rfl⟩ := Option.map_eq_some_iff.mp taken
    exact kept.answered (editing_of_text under) heard
  | rested =>
    obtain ⟨under,same⟩ := Option.ite_none_right_eq_some.mp taken
    cases same
    refine ⟨kept.lastText,fun _ clean => ?_,fun _ other => by contradiction,
      fun other => by contradiction⟩
    have clear : state.session.dirty = false := clean
    rw [kept.backingOff under] at clear
    contradiction
  | closeSession =>
    cases taken
    exact kept.finished false

/-- A refused edit that was needed leaves the user with an old screen. -/
theorem Kept.lost {event : Event view limit} (kept : Kept caption state)
    (refused : ¬ Heard state event) (taken : RenderLoop.step caption state event = some after) :
    ¬ Shown caption after := by
  cases event with
  | answered error =>
    obtain ⟨text,under,rfl⟩ := Option.map_eq_some_iff.mp taken
    unfold Heard at refused
    split at refused
    next same =>
      cases same
      obtain ⟨clean,old⟩ := not_or.mp refused
      have clear : state.session.dirty = false := Bool.eq_false_iff.mpr clean
      rw [under,kept.editing text (editing_of_text under) clear] at old
      exact fun shown => old (shown rfl clear)
    next => exact absurd trivial refused
  | chunk draw => exact absurd trivial refused
  | ended draw => exact absurd trivial refused
  | wake => exact absurd trivial refused
  | rested => exact absurd trivial refused
  | closeSession => exact absurd trivial refused

/-- A run in which no edit is refused loses no update. -/
theorem updates_shown (caption : Caption) (terminal : Terminal view.toPyte limit)
    (first : Option Text) (state : State view limit)
    (reached : Reach (step caption) Heard (launched terminal first) state) :
    Shown caption state := by
  have kept : Kept caption state := by
    apply reached.invariant (Kept caption)
    · refine ⟨?_,?_,?_,?_⟩
      · intro text same
        contradiction
      · intro asleep clean
        contradiction
      · intro text under
        contradiction
      · intro under
        contradiction
    · intro before event after kept heard taken
      exact kept.step heard taken
  exact kept.refreshing

def server : Caption := ⟨"AtronixX-Core".toList,"web".toList,"10.0.0.7".toList,"⌨️".toList⟩

def typed (cells : List Text) (terminal : Terminal kanji.toPyte 1500) :
    Terminal kanji.toPyte 1500 :=
  {terminal with screen := ({terminal.screen with x := cells.length, cells := [cells]} : Grid)}

def opened : State kanji 1500 :=
  launched (showing [] 0) (some (compose server (showing [] 0)))

instance (state : State view limit) (event : Event view limit) : Decidable (Heard state event) := by
  unfold Heard
  split <;> infer_instance

/-- An edit that the server does not let through at once, with output while the loop backs off. -/
def flooded : List (Event kanji 1500) := [.chunk (typed [['$']]),.wake,
  .answered (some (.telegram (.retryAfter 3))),.chunk (typed [['$'],['l']]),.rested,.wake,
  .answered none]

theorem updates_shown_flooded : ∃ state, flooded.foldlM (guarded (step server) Heard) opened =
    some state ∧ state.session.dirty = false ∧ state.loop = .refreshing ∧ Shown server state := by
  obtain ⟨state,run,clean,asleep⟩ : ∃ state,
      flooded.foldlM (guarded (step server) Heard) opened = some state ∧
        state.session.dirty = false ∧ state.loop = .refreshing := ⟨_,rfl,rfl,rfl⟩
  exact ⟨state,run,clean,asleep,updates_shown server _ _ state (reach_of_run _ run)⟩

def refusing : List (Event kanji 1500) :=
  [.chunk (typed [['$']]),.wake,.answered (some (.telegram .badRequest))]

theorem refused_update_lost : ¬ ∀ state : State kanji 1500,
    Reach (step server) always opened state → Shown server state := by
  intro claimed
  obtain ⟨state,run,clean,asleep,shown,terminal⟩ : ∃ state,
      refusing.foldlM (guarded (step server) always) opened = some state ∧
        state.session.dirty = false ∧ state.loop = .refreshing ∧
        state.shown = opened.shown ∧ state.session.terminal = typed [['$']] (showing [] 0) :=
    ⟨_,rfl,rfl,rfl,rfl,rfl⟩
  have same := claimed state (reach_of_run _ run) asleep clean
  rw [shown,terminal] at same
  revert same
  decide +kernel

end AtronixX.RenderLoop
