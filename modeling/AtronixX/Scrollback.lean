import AtronixX.Library.Bounded
import AtronixX.Library.Text
import AtronixX.Library.Transition

/-! The scrollback of a terminal. `ScrollScreen` collects the lines that scroll off the
screen, and `_on_alt_screen` the lines that were on it when a full-screen program took the
screen over; what such a program does itself should not show in it. -/
namespace AtronixX.Scrollback
open Library.Bounded Library.Text Library.Transition

/-- What is used of `pyte.Screen`. Its own methods know nothing of the scrollback. -/
structure Pyte where
  Screen : Type
  columns : Screen → Nat
  lines : Screen → Nat
  cursorY : Screen → Nat
  margins : Screen → Option (Nat × Nat)
  cell : Screen → Nat → Nat → List Char
  display : Screen → List (List Char)
  index : Screen → Screen
  eraseInDisplay : Nat → Screen → Screen
  reset : Screen → Screen

variable {pyte : Pyte} {limit : Nat}

/-- A `ScrollScreen` with the `alt_screen` of its session. -/
structure Terminal (pyte : Pyte) (limit : Nat) where
  screen : pyte.Screen
  scrollback : Deque (List Char) limit
  altScreen : Bool

def rowText (screen : pyte.Screen) (row : Nat) : List Char :=
  rstrip ((List.range (pyte.columns screen)).flatMap (pyte.cell screen row))

def marginsOf (screen : pyte.Screen) : Nat × Nat :=
  (pyte.margins screen).getD (0,pyte.lines screen - 1)

/-- The cursor is where a line feed scrolls. -/
def atBottom (screen : pyte.Screen) : Bool := pyte.cursorY screen == (marginsOf screen).2

def index (terminal : Terminal pyte limit) : Terminal pyte limit :=
  {terminal with
    screen := pyte.index terminal.screen
    scrollback := if atBottom terminal.screen then
        terminal.scrollback.append (rowText terminal.screen (marginsOf terminal.screen).1)
      else terminal.scrollback}

def eraseInDisplay (how : Nat) (terminal : Terminal pyte limit) : Terminal pyte limit :=
  {terminal with
    screen := pyte.eraseInDisplay how terminal.screen
    scrollback := if how = 2 ∨ how = 3 then terminal.scrollback.clear else terminal.scrollback}

/-- The loop of `_screen_lines` from the last line to the first. -/
def lastText (display : List (List Char)) : Option Nat :=
  (List.range display.length).reverse.find? (fun line => display.getD line [] ≠ [])

def screenLines (screen : pyte.Screen) : List (List Char) :=
  let display := (pyte.display screen).map rstrip
  display.take (max (pyte.cursorY screen) ((lastText display).getD 0) + 1)

def onAltScreen (entering : Bool) (terminal : Terminal pyte limit) : Terminal pyte limit :=
  if entering && !terminal.altScreen then
    {terminal with
      screen := pyte.reset terminal.screen
      scrollback := terminal.scrollback.extend (screenLines terminal.screen)
      altScreen := true}
  else if !entering && terminal.altScreen then
    {terminal with screen := pyte.reset terminal.screen, altScreen := false}
  else terminal

/-- `full_log` is the text of these lines. -/
def fullLog (terminal : Terminal pyte limit) : List (List Char) :=
  terminal.scrollback.items ++ screenLines terminal.screen

/-- What the stream does to the screen: the two methods that are overridden, some other
one, or a sequence for the alternate screen. -/
inductive Event (pyte : Pyte)
  | index
  | eraseInDisplay (how : Nat)
  | other (change : pyte.Screen → pyte.Screen)
  | altScreen (entering : Bool)

def step (terminal : Terminal pyte limit) : Event pyte → Option (Terminal pyte limit)
  | .index => some (index terminal)
  | .eraseInDisplay how => some (eraseInDisplay how terminal)
  | .other change => some {terminal with screen := change terminal.screen}
  | .altScreen entering => some (onAltScreen entering terminal)

/-- The alternate screen is not left. -/
def Inside (_ : Terminal pyte limit) : Event pyte → Prop
  | .altScreen entering => entering = true
  | _ => True

/-- Nor does anything scroll off at the bottom margin or erase the whole display. -/
def Still (terminal : Terminal pyte limit) : Event pyte → Prop
  | .index => atBottom terminal.screen = false
  | .eraseInDisplay how => how ≠ 2 ∧ how ≠ 3
  | .other _ => True
  | .altScreen entering => entering = true

/-- The scrollback after the leave is that after the enter, which is the history with the
lines that were on the screen. -/
def Kept (before last : Terminal pyte limit) : Prop :=
  (onAltScreen false last).scrollback = (onAltScreen true before).scrollback ∧
    (onAltScreen true before).scrollback.items =
      (before.scrollback.items ++ screenLines before.screen).rtake limit

theorem enter_scrollback {terminal : Terminal pyte limit} (normal : terminal.altScreen = false) :
    (onAltScreen true terminal).scrollback.items =
      (terminal.scrollback.items ++ screenLines terminal.screen).rtake limit := by
  simp [onAltScreen,normal,Deque.items_extend]

theorem leave_scrollback (terminal : Terminal pyte limit) :
    (onAltScreen false terminal).scrollback = terminal.scrollback := by
  unfold onAltScreen
  cases terminal.altScreen <;> rfl

theorem step_still {before after : Terminal pyte limit} {event : Event pyte}
    (alt : before.altScreen = true) (still : Still before event)
    (taken : step before event = some after) :
    after.altScreen = true ∧ after.scrollback = before.scrollback := by
  cases event with
  | index =>
    cases Option.some.inj taken
    refine ⟨alt,?_⟩
    have quiet : atBottom before.screen = false := still
    simp [index,quiet]
  | eraseInDisplay how =>
    cases Option.some.inj taken
    refine ⟨alt,?_⟩
    have harmless : how ≠ 2 ∧ how ≠ 3 := still
    simp [eraseInDisplay,harmless]
  | other change =>
    cases Option.some.inj taken
    exact ⟨alt,rfl⟩
  | altScreen entering =>
    cases Option.some.inj taken
    have again : entering = true := still
    simp [onAltScreen,again,alt]

theorem still_run_kept (before last : Terminal pyte limit) (normal : before.altScreen = false)
    (reached : Reach step Still (onAltScreen true before) last) : Kept before last := by
  have same : last.altScreen = true ∧ last.scrollback = (onAltScreen true before).scrollback := by
    refine reached.invariant (fun state => state.altScreen = true ∧
      state.scrollback = (onAltScreen true before).scrollback) ?_ ?_
    · simp [onAltScreen,normal]
    · rintro state event after ⟨alt,unchanged⟩ still taken
      have kept := step_still alt still taken
      exact ⟨kept.1,kept.2.trans unchanged⟩
  exact ⟨(leave_scrollback last).trans same.2,enter_scrollback normal⟩

structure Grid where
  columns : Nat
  lines : Nat
  x : Nat
  y : Nat
  cells : List (List (List Char))

def Grid.erase (keep : Nat → Nat → Bool) (grid : Grid) : Grid :=
  {grid with cells := grid.cells.mapIdx (fun line cells =>
    cells.mapIdx (fun column cell => if keep line column then cell else [' ']))}

def Grid.draw (char : Char) (grid : Grid) : Grid :=
  {grid with
    x := grid.x + 1
    cells := grid.cells.modify grid.y (fun cells => cells.set grid.x [char])}

def Grid.moveTo (y x : Nat) (grid : Grid) : Grid := {grid with x := x, y := y}

def small : Pyte where
  Screen := Grid
  columns := Grid.columns
  lines := Grid.lines
  cursorY := Grid.y
  margins _ := none
  cell grid line column := (grid.cells.getD line []).getD column [' ']
  display grid := grid.cells.map List.flatten
  index grid := if grid.y = grid.lines - 1 then
      {grid with cells := grid.cells.drop 1 ++ [List.replicate grid.columns [' ']]}
    else {grid with y := grid.y + 1}
  eraseInDisplay how grid := match how with
    | 0 => grid.erase (fun line column => line < grid.y || line == grid.y && column < grid.x)
    | 1 => grid.erase (fun line column => grid.y < line || line == grid.y && grid.x < column)
    | _ => grid.erase (fun _ _ => false)
  reset grid := {grid with
    x := 0
    y := 0
    cells := List.replicate grid.lines (List.replicate grid.columns [' '])}

/-- `TERM_COLS`, `TERM_ROWS` and `SCROLLBACK_LINES`, with a prompt in the first line. -/
def shell : Terminal small 1500 :=
  ⟨(small.reset ⟨56,26,0,0,[]⟩ : Grid).draw '$',⟨[['l','s']],by decide⟩,false⟩

instance (terminal : Terminal pyte limit) (event : Event pyte) :
    Decidable (Still terminal event) := by
  unfold Still
  split <;> infer_instance

instance (terminal : Terminal pyte limit) (event : Event pyte) :
    Decidable (Inside terminal event) := by
  unfold Inside
  split <;> infer_instance

def editing : List (Event small) :=
  [.other (Grid.draw '~'),.index,.altScreen true,.eraseInDisplay 0]

theorem still_run_kept_editing : ∃ last,
    editing.foldlM (guarded step Still) (onAltScreen true shell) = some last ∧
      (onAltScreen false last).scrollback.items = [['l','s'],['$']] ∧ Kept shell last := by
  obtain ⟨last,run,items⟩ : ∃ last,
      editing.foldlM (guarded step Still) (onAltScreen true shell) = some last ∧
        (onAltScreen false last).scrollback.items = [['l','s'],['$']] := ⟨_,rfl,by decide⟩
  exact ⟨last,run,items,still_run_kept shell last rfl (reach_of_run _ run)⟩

/-- A pager goes to the last line and scrolls by one. -/
def scrolling : List (Event small) := [.other (Grid.moveTo 25 0),.index]

theorem full_screen_shows : ¬ ∀ (pyte : Pyte) (limit : Nat) (before last : Terminal pyte limit),
    before.altScreen = false → Reach step Inside (onAltScreen true before) last →
    Kept before last := by
  intro claimed
  obtain ⟨last,run,items⟩ : ∃ last,
      scrolling.foldlM (guarded step Inside) (onAltScreen true shell) = some last ∧
        (onAltScreen false last).scrollback.items = [['l','s'],['$'],[]] := ⟨_,rfl,by decide⟩
  have kept := (claimed small 1500 shell last rfl (reach_of_run _ run)).1
  have entered : (onAltScreen true shell).scrollback.items = [['l','s'],['$']] := by decide
  rw [← kept,items] at entered
  contradiction

end AtronixX.Scrollback
