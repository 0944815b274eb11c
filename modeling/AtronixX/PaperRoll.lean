import Mathlib.Algebra.Ring.Int.Defs
import Mathlib.Data.List.GetD
import AtronixX.Scrollback

/-! Rows that scroll off the screen. Text that is only drawn, returned and fed is written on a
roll of paper of which the screen shows the end; the log is that roll, but for the rows that
the deque has dropped. What has scrolled off was read from the cells by `_row_text`; what is
on the screen is read by `display` of pyte, which takes a wide character to fill two cells. -/
namespace AtronixX.PaperRoll
open Library.Bounded Library.Text Scrollback

/-- The characters of a row; where nothing was written is the default. -/
abbrev Row := Nat → List Char

def blank : Row := fun _ => [' ']

/-- What is used besides of `pyte.Screen`. `put` is `draw` of a character after the wrap, and
`displays` whether `display` returns. -/
structure Device (pyte : Pyte) where
  displays : pyte.Screen → Bool
  cursorX : pyte.Screen → Nat
  carriageReturn : pyte.Screen → pyte.Screen
  put : Char → pyte.Screen → pyte.Screen

inductive Event
  | draw (char : Char)
  | carriageReturn
  | lineFeed
  deriving DecidableEq

section
variable {pyte : Pyte} {limit : Nat} (device : Device pyte)

def carriageReturn (terminal : Terminal pyte limit) : Terminal pyte limit :=
  {terminal with screen := device.carriageReturn terminal.screen}

/-- `draw` after the last column returns and feeds first, and `linefeed` calls `self.index`. -/
def draw (char : Char) (terminal : Terminal pyte limit) : Terminal pyte limit :=
  let terminal := if device.cursorX terminal.screen = pyte.columns terminal.screen then
      index (carriageReturn device terminal)
    else terminal
  {terminal with screen := device.put char terminal.screen}

def step (terminal : Terminal pyte limit) : Event → Terminal pyte limit
  | .draw char => draw device char terminal
  | .carriageReturn => carriageReturn device terminal
  | .lineFeed => index terminal

def log (terminal : Terminal pyte limit) : Option (List (List Char)) :=
  if device.displays terminal.screen then some (fullLog terminal) else none

end

/-- What a character leaves: the row above it, which a combining mark may change, its own row,
and the column after it. -/
structure Written where
  above : Row
  here : Row
  x : Nat

/-- How a character is written on a screen of a width, below a row if there is one to be seen. -/
abbrev Ink := Nat → Char → Option Row → Row → Nat → Written

structure Paper where
  above : List Row
  here : Row
  x : Nat

namespace Paper

def rows (paper : Paper) : List Row := paper.above ++ [paper.here]

def clean : Paper := ⟨[],blank,0⟩

def feed (paper : Paper) : Paper :=
  {paper with above := paper.above ++ [paper.here], here := blank}

variable (ink : Ink) (columns lines : Nat)

def put (char : Char) (paper : Paper) : Paper :=
  match (if lines = 1 then none else paper.above.getLast?) with
  | none =>
    let written := ink columns char none paper.here paper.x
    {paper with here := written.here, x := written.x}
  | some row =>
    let written := ink columns char (some row) paper.here paper.x
    ⟨paper.above.dropLast ++ [written.above],written.here,written.x⟩

def draw (char : Char) (paper : Paper) : Paper :=
  put ink columns lines char (if paper.x = columns then {paper.feed with x := 0} else paper)

def step (paper : Paper) : Event → Paper
  | .draw char => paper.draw ink columns lines char
  | .carriageReturn => {paper with x := 0}
  | .lineFeed => paper.feed

end Paper

def text (columns : Nat) (row : Row) : List Char := rstrip ((List.range columns).flatMap row)

/-- The rows that a screen of this height still shows follow the last that scrolled off it. -/
def logged (limit lines : Nat) (rows : List (List Char)) : List (List Char) :=
  (rows.take (rows.length - lines)).rtake limit ++ rows.drop (rows.length - lines)

section
variable (wcwidth : Char → Int)

/-- A row in `display`: the cell after a wide character is skipped, an empty one raises. -/
def display : Bool → List (List Char) → Option (List Char)
  | _,[] => some []
  | true,_ :: cells => display false cells
  | false,[] :: _ => none
  | false,(char :: marks) :: cells =>
    if (marks.map wcwidth).sum = 0 then
      (display (wcwidth char == 2) cells).map ((char :: marks) ++ ·)
    else none

/-- The empty cells are those behind the wide characters, behind which there is nothing else
that the end of the row would not lose anyway. -/
def Whole : Bool → List (List Char) → Prop
  | _,[] => True
  | true,cell :: cells =>
    (cell = [] ∨ ∀ char ∈ cell ++ cells.flatten, isSpace char = true) ∧ Whole false cells
  | false,[] :: _ => False
  | false,(char :: marks) :: cells =>
    (marks.map wcwidth).sum = 0 ∧ Whole (wcwidth char == 2) cells

instance decidableWhole : (wide : Bool) → (cells : List (List Char)) →
    Decidable (Whole wcwidth wide cells)
  | true,[] | false,[] => isTrue trivial
  | true,_ :: cells =>
    have := decidableWhole false cells
    inferInstanceAs (Decidable ((_ ∨ _) ∧ _))
  | false,[] :: _ => isFalse id
  | false,(char :: _) :: cells =>
    have := decidableWhole (wcwidth char == 2) cells
    inferInstanceAs (Decidable (_ ∧ _))

def cellsOf (columns : Nat) (row : Row) : List (List Char) := (List.range columns).map row

end

section
variable (pyte : Pyte) (device : Device pyte) (ink : Ink) (wcwidth : Char → Int)

structure Frame (before after : pyte.Screen) : Prop where
  columns : pyte.columns after = pyte.columns before
  lines : pyte.lines after = pyte.lines before
  margins : pyte.margins after = pyte.margins before

/-- What is assumed of pyte. -/
structure Documented : Prop where
  display : ∀ screen, (if device.displays screen then some (pyte.display screen) else none) =
    (List.range (pyte.lines screen)).mapM fun line =>
      display wcwidth false (cellsOf (pyte.columns screen) (pyte.cell screen line))
  index_frame : ∀ screen, Frame pyte screen (pyte.index screen) ∧
    device.cursorX (pyte.index screen) = device.cursorX screen
  /-- On the bottom row the top row goes, the others move up and a blank row comes. -/
  index_bottom : ∀ screen, pyte.margins screen = none →
    pyte.cursorY screen = pyte.lines screen - 1 →
    pyte.cursorY (pyte.index screen) = pyte.cursorY screen ∧
      ∀ line < pyte.lines screen, pyte.cell (pyte.index screen) line =
        if line + 1 < pyte.lines screen then pyte.cell screen (line + 1) else blank
  index_above : ∀ screen, pyte.margins screen = none →
    pyte.cursorY screen < pyte.lines screen - 1 →
    pyte.cursorY (pyte.index screen) = pyte.cursorY screen + 1 ∧
      ∀ line < pyte.lines screen, pyte.cell (pyte.index screen) line = pyte.cell screen line
  return_frame : ∀ screen, Frame pyte screen (device.carriageReturn screen) ∧
    pyte.cursorY (device.carriageReturn screen) = pyte.cursorY screen ∧
    pyte.cell (device.carriageReturn screen) = pyte.cell screen
  return_x : ∀ screen, device.cursorX (device.carriageReturn screen) = 0
  put_frame : ∀ char screen, Frame pyte screen (device.put char screen) ∧
    pyte.cursorY (device.put char screen) = pyte.cursorY screen
  /-- A character is written in the row of the cursor, and may change the row above it. -/
  put_top : ∀ char screen, pyte.cursorY screen = 0 →
    device.cursorX (device.put char screen) =
        (ink (pyte.columns screen) char none (pyte.cell screen 0) (device.cursorX screen)).x ∧
      ∀ line < pyte.lines screen, pyte.cell (device.put char screen) line =
        if line = 0 then
          (ink (pyte.columns screen) char none (pyte.cell screen 0) (device.cursorX screen)).here
        else pyte.cell screen line
  put_below : ∀ char screen y, pyte.cursorY screen = y + 1 →
    device.cursorX (device.put char screen) =
        (ink (pyte.columns screen) char (some (pyte.cell screen y)) (pyte.cell screen (y + 1))
          (device.cursorX screen)).x ∧
      ∀ line < pyte.lines screen, pyte.cell (device.put char screen) line =
        if line = y + 1 then
          (ink (pyte.columns screen) char (some (pyte.cell screen y)) (pyte.cell screen (y + 1))
            (device.cursorX screen)).here
        else if line = y then
          (ink (pyte.columns screen) char (some (pyte.cell screen y)) (pyte.cell screen (y + 1))
            (device.cursorX screen)).above
        else pyte.cell screen line

structure Blank {limit : Nat} (terminal : Terminal pyte limit) : Prop where
  tall : 0 < pyte.lines terminal.screen
  margins : pyte.margins terminal.screen = none
  x : device.cursorX terminal.screen = 0
  y : pyte.cursorY terminal.screen = 0
  cells : ∀ line < pyte.lines terminal.screen, pyte.cell terminal.screen line = blank
  scrollback : terminal.scrollback.items = []

end

namespace Paper
variable {ink : Ink} {columns lines : Nat} {paper : Paper} {char : Char}

def row (paper : Paper) (number : Nat) : Row := paper.rows.getD number blank

def hidden (lines : Nat) (paper : Paper) : Nat := paper.above.length + 1 - lines

theorem length_rows : paper.rows.length = paper.above.length + 1 := by
  simp [rows]

theorem row_mk_here (above : List Row) (here : Row) (x : Nat) :
    (⟨above,here,x⟩ : Paper).row above.length = here := by
  simp [row,rows]

theorem row_mk_above {above : List Row} {here : Row} {x number : Nat}
    (before : number < above.length) :
    (⟨above,here,x⟩ : Paper).row number = above.getD number blank := by
  simp [row,rows,List.getElem?_append_left before]

theorem row_mk_beyond {above : List Row} {here : Row} {x number : Nat}
    (after : above.length < number) : (⟨above,here,x⟩ : Paper).row number = blank := by
  have outside : (above ++ [here]).length ≤ number := by
    rw [List.length_append]
    exact after
  simp [row,rows,List.getElem?_eq_none outside]

theorem row_here : paper.row paper.above.length = paper.here := row_mk_here _ _ _

theorem row_above {number : Nat} (before : number < paper.above.length) :
    paper.row number = paper.above.getD number blank := row_mk_above before

theorem row_beyond {number : Nat} (after : paper.above.length < number) :
    paper.row number = blank := row_mk_beyond after

theorem rows_feed : paper.feed.rows = paper.rows ++ [blank] := rfl

theorem row_feed (number : Nat) : paper.feed.row number = paper.row number := by
  unfold row
  rw [rows_feed]
  rcases Nat.lt_or_ge number paper.rows.length with inside | outside
  · rw [List.getD_append _ _ _ _ inside]
  · rw [List.getD_append_right _ _ _ _ outside,List.getD_eq_default _ _ outside]
    cases number - paper.rows.length <;> rfl

theorem put_alone (alone : (if lines = 1 then none else paper.above.getLast?) = none) :
    paper.put ink columns lines char =
      {paper with
        here := (ink columns char none paper.here paper.x).here
        x := (ink columns char none paper.here paper.x).x} := by
  unfold put
  rw [alone]

theorem put_below {earlier : List Row} {last : Row} (tall : lines ≠ 1)
    (is : paper.above = earlier ++ [last]) :
    paper.put ink columns lines char =
      ⟨earlier ++ [(ink columns char (some last) paper.here paper.x).above],
        (ink columns char (some last) paper.here paper.x).here,
        (ink columns char (some last) paper.here paper.x).x⟩ := by
  unfold put
  rw [if_neg tall,is,List.getLast?_concat,List.dropLast_concat]

end Paper

section
variable {pyte : Pyte} {device : Device pyte} {ink : Ink} {wcwidth : Char → Int}
variable {limit columns lines : Nat}

structure Rolled (device : Device pyte) (columns lines : Nat) (terminal : Terminal pyte limit)
    (paper : Paper) : Prop where
  width : pyte.columns terminal.screen = columns
  height : pyte.lines terminal.screen = lines
  margins : pyte.margins terminal.screen = none
  x : device.cursorX terminal.screen = paper.x
  y : pyte.cursorY terminal.screen + paper.hidden lines = paper.above.length
  shown : ∀ line < lines, pyte.cell terminal.screen line = paper.row (paper.hidden lines + line)
  scrolled : terminal.scrollback.items =
    ((paper.rows.take (paper.hidden lines)).map (text columns)).rtake limit

variable {terminal : Terminal pyte limit} {paper : Paper}

theorem rolled_blank (blank_ : Blank pyte device terminal) :
    Rolled device (pyte.columns terminal.screen) (pyte.lines terminal.screen) terminal
      Paper.clean := by
  have none : Paper.clean.hidden (pyte.lines terminal.screen) = 0 :=
    Nat.sub_eq_zero_of_le blank_.tall
  refine ⟨rfl,rfl,blank_.margins,blank_.x,?_,?_,?_⟩
  · rw [none,blank_.y]
    rfl
  · intro line within
    rw [none,blank_.cells line within]
    cases 0 + line <;> rfl
  · rw [none,blank_.scrollback,List.take_zero,List.map_nil,List.rtake_nil]

theorem Rolled.carriageReturn (rolled : Rolled device columns lines terminal paper)
    (documented : Documented pyte device ink wcwidth) :
    Rolled device columns lines (carriageReturn device terminal) {paper with x := 0} := by
  obtain ⟨frame,y,cells⟩ := documented.return_frame terminal.screen
  refine ⟨frame.columns.trans rolled.width,frame.lines.trans rolled.height,
    frame.margins.trans rolled.margins,documented.return_x _,?_,?_,rolled.scrolled⟩
  · rw [PaperRoll.carriageReturn,y]
    exact rolled.y
  · intro line within
    rw [PaperRoll.carriageReturn,cells]
    exact rolled.shown line within

theorem rowText_eq (rolled : Rolled device columns lines terminal paper) {line : Nat}
    (within : line < lines) :
    rowText terminal.screen line = text columns (paper.row (paper.hidden lines + line)) := by
  rw [rowText,text,rolled.width,rolled.shown line within]

private theorem take_hidden (paper : Paper) {number : Nat} (inside : number ≤ paper.above.length) :
    paper.rows.take (number + 1) = paper.rows.take number ++ [paper.row number] := by
  have bound : number < paper.rows.length := by
    rw [Paper.length_rows]
    omega
  rw [List.take_add_one,List.getElem?_eq_getElem bound,Paper.row,List.getD_eq_getElem _ _ bound]
  rfl

theorem Rolled.index (rolled : Rolled device columns lines terminal paper)
    (documented : Documented pyte device ink wcwidth) (tall : 0 < lines) :
    Rolled device columns lines (index terminal) paper.feed := by
  obtain ⟨frame,x⟩ := documented.index_frame terminal.screen
  have y := rolled.y
  have height : paper.feed.above.length = paper.above.length + 1 := by
    simp [Paper.feed]
  have margins : marginsOf terminal.screen = (0,lines - 1) := by
    rw [marginsOf,rolled.margins,rolled.height]
    rfl
  by_cases filled : pyte.cursorY terminal.screen = lines - 1
  · have bottom : atBottom terminal.screen = true := by
      rw [atBottom,margins,filled]
      exact beq_self_eq_true _
    obtain ⟨same,cells⟩ := documented.index_bottom terminal.screen rolled.margins
      (by rw [filled,rolled.height])
    have more : paper.feed.hidden lines = paper.hidden lines + 1 := by
      unfold Paper.hidden at y ⊢
      omega
    refine ⟨frame.columns.trans rolled.width,frame.lines.trans rolled.height,
      frame.margins.trans rolled.margins,x.trans rolled.x,?_,?_,?_⟩
    · rw [Scrollback.index,same,more,height]
      omega
    · intro line within
      rw [Scrollback.index,cells line (by rwa [rolled.height]),rolled.height,more,Paper.row_feed]
      split
      next moved =>
        rw [rolled.shown (line + 1) moved]
        congr 1
        omega
      next last =>
        refine (Paper.row_beyond ?_).symm
        omega
    · have kept : paper.feed.rows.take (paper.hidden lines + 1) =
          paper.rows.take (paper.hidden lines + 1) := by
        refine List.take_append_of_le_length ?_
        rw [height]
        omega
      have grown : (Scrollback.index terminal).scrollback.items =
          (terminal.scrollback.items ++ [rowText terminal.screen 0]).rtake limit := by
        rw [Scrollback.index,if_pos bottom,margins]
        rfl
      rw [grown,rolled.scrolled,rtake_rtake_append,more,kept,take_hidden paper (by omega),
        rowText_eq rolled tall,List.map_append]
      rfl
  · have above : pyte.cursorY terminal.screen < lines - 1 := by
      unfold Paper.hidden at y
      omega
    have free : atBottom terminal.screen = false := by
      rw [atBottom,margins]
      exact beq_false_of_ne filled
    obtain ⟨next,cells⟩ := documented.index_above terminal.screen rolled.margins
      (by rwa [rolled.height])
    have none : paper.hidden lines = 0 := by
      unfold Paper.hidden at y ⊢
      omega
    have still : paper.feed.hidden lines = 0 := by
      unfold Paper.hidden at y ⊢
      omega
    refine ⟨frame.columns.trans rolled.width,frame.lines.trans rolled.height,
      frame.margins.trans rolled.margins,x.trans rolled.x,?_,?_,?_⟩
    · rw [Scrollback.index,next,still,height]
      omega
    · intro line within
      rw [Scrollback.index,cells line (by rwa [rolled.height]),rolled.shown line within,none,still,
        Paper.row_feed]
    · have kept : (Scrollback.index terminal).scrollback = terminal.scrollback := by
        rw [Scrollback.index,free]
        rfl
      rw [kept,rolled.scrolled,none,still,List.take_zero,List.take_zero]

private theorem Rolled.written (rolled : Rolled device columns lines terminal paper)
    {screen : pyte.Screen} {after : Paper} (frame : Frame pyte terminal.screen screen)
    (y : pyte.cursorY screen = pyte.cursorY terminal.screen)
    (x : device.cursorX screen = after.x) (length : after.above.length = paper.above.length)
    (kept : after.rows.take (paper.hidden lines) = paper.rows.take (paper.hidden lines))
    (shown : ∀ line < lines, pyte.cell screen line = after.row (paper.hidden lines + line)) :
    Rolled device columns lines {terminal with screen := screen} after := by
  have hidden : after.hidden lines = paper.hidden lines := by
    rw [Paper.hidden,length,Paper.hidden]
  refine ⟨frame.columns.trans rolled.width,frame.lines.trans rolled.height,
    frame.margins.trans rolled.margins,x,?_,?_,?_⟩
  · rw [y,hidden,length]
    exact rolled.y
  · intro line within
    rw [hidden]
    exact shown line within
  · rw [hidden,kept]
    exact rolled.scrolled

private theorem Rolled.put_top (rolled : Rolled device columns lines terminal paper)
    (documented : Documented pyte device ink wcwidth) (tall : 0 < lines) (char : Char)
    (top : pyte.cursorY terminal.screen = 0) :
    Rolled device columns lines {terminal with screen := device.put char terminal.screen}
      (paper.put ink columns lines char) := by
  obtain ⟨frame,same⟩ := documented.put_frame char terminal.screen
  obtain ⟨x,cells⟩ := documented.put_top char terminal.screen top
  have y := rolled.y
  have all : paper.above.length = paper.hidden lines := by omega
  have here : pyte.cell terminal.screen 0 = paper.here := by
    rw [rolled.shown 0 tall,← all,Nat.add_zero,Paper.row_here]
  have alone : (if lines = 1 then none else paper.above.getLast?) = none := by
    split
    next => rfl
    next more =>
      have empty : paper.above.length = 0 := by
        unfold Paper.hidden at all
        omega
      rw [List.length_eq_zero_iff.mp empty]
      rfl
  rw [here,rolled.x,rolled.width] at x cells
  rw [Paper.put_alone alone]
  refine rolled.written frame same x rfl ?_ ?_
  · exact (List.take_left' all).trans (List.take_left' all).symm
  · intro line within
    rw [cells line (by rwa [rolled.height]),← all]
    split
    next first =>
      rw [first,Nat.add_zero,Paper.row_mk_here]
    next later =>
      rw [rolled.shown line within,← all,Paper.row_beyond (by omega),Paper.row_mk_beyond (by omega)]

/-- The row above the cursor is on the screen, so that it has not scrolled off either. -/
private theorem Rolled.put_below (rolled : Rolled device columns lines terminal paper)
    (documented : Documented pyte device ink wcwidth) (char : Char) {before : Nat}
    (below : pyte.cursorY terminal.screen = before + 1) :
    Rolled device columns lines {terminal with screen := device.put char terminal.screen}
      (paper.put ink columns lines char) := by
  obtain ⟨frame,same⟩ := documented.put_frame char terminal.screen
  obtain ⟨x,cells⟩ := documented.put_below char terminal.screen before below
  have y := rolled.y
  have within : before + 1 < lines := by
    unfold Paper.hidden at y
    omega
  obtain ⟨earlier,last,is⟩ : ∃ earlier last, paper.above = earlier ++ [last] := by
    refine ⟨_,_,(List.dropLast_append_getLast ?_).symm⟩
    intro none
    rw [none,List.length_nil] at y
    omega
  have height : paper.above.length = earlier.length + 1 := by
    rw [is,List.length_append,List.length_singleton]
  have length : paper.hidden lines + before = earlier.length := by omega
  have here : pyte.cell terminal.screen (before + 1) = paper.here := by
    rw [rolled.shown _ within,← Nat.add_assoc,length,← height,Paper.row_here]
  have above : pyte.cell terminal.screen before = last := by
    rw [rolled.shown before (by omega),length,Paper.row_above (by omega),is]
    simp
  rw [here,above,rolled.x,rolled.width] at x cells
  rw [Paper.put_below (by omega) is]
  refine rolled.written frame same x ?_ ?_ ?_
  · rw [height,List.length_append,List.length_singleton]
  · have short : paper.hidden lines ≤ earlier.length := by omega
    rw [Paper.rows,Paper.rows,is,List.append_assoc,List.append_assoc,
      List.take_append_of_le_length short,List.take_append_of_le_length short]
  · intro line inside
    rw [cells line (by rwa [rolled.height])]
    have size (row : Row) : (earlier ++ [row]).length = earlier.length + 1 := by simp
    split
    next now =>
      rw [now,← Nat.add_assoc,length,← size,Paper.row_mk_here]
    next other =>
      split
      next now =>
        rw [now,length,Paper.row_mk_above (by rw [size]; omega),
          List.getD_append_right _ _ _ _ (by omega),Nat.sub_self]
        rfl
      next rest =>
        rw [rolled.shown line inside]
        rcases Nat.lt_or_gt_of_ne rest with less | more
        · rw [Paper.row_above (by omega),Paper.row_mk_above (by rw [size]; omega),is,
            List.getD_append _ _ _ _ (by omega),List.getD_append _ _ _ _ (by omega)]
        · rw [Paper.row_beyond (by omega),Paper.row_mk_beyond (by rw [size]; omega)]

theorem Rolled.put (rolled : Rolled device columns lines terminal paper)
    (documented : Documented pyte device ink wcwidth) (tall : 0 < lines) (char : Char) :
    Rolled device columns lines {terminal with screen := device.put char terminal.screen}
      (paper.put ink columns lines char) := by
  cases place : pyte.cursorY terminal.screen with
  | zero => exact rolled.put_top documented tall char place
  | succ before => exact rolled.put_below documented char place

theorem Rolled.draw (rolled : Rolled device columns lines terminal paper)
    (documented : Documented pyte device ink wcwidth) (tall : 0 < lines) (char : Char) :
    Rolled device columns lines (draw device char terminal) (paper.draw ink columns lines char) := by
  unfold PaperRoll.draw Paper.draw
  rw [rolled.x,rolled.width]
  by_cases full : paper.x = columns
  · rw [if_pos full,if_pos full]
    exact ((rolled.carriageReturn documented).index documented tall).put documented tall char
  · rw [if_neg full,if_neg full]
    exact rolled.put documented tall char

theorem Rolled.step (rolled : Rolled device columns lines terminal paper)
    (documented : Documented pyte device ink wcwidth) (tall : 0 < lines) (event : Event) :
    Rolled device columns lines (step device terminal event) (paper.step ink columns lines event) := by
  cases event with
  | draw char => exact rolled.draw documented tall char
  | carriageReturn => exact rolled.carriageReturn documented
  | lineFeed => exact rolled.index documented tall

theorem Rolled.run (rolled : Rolled device columns lines terminal paper)
    (documented : Documented pyte device ink wcwidth) (tall : 0 < lines) (events : List Event) :
    Rolled device columns lines (events.foldl (PaperRoll.step device) terminal)
      (events.foldl (Paper.step ink columns lines) paper) := by
  induction events generalizing terminal paper with
  | nil => exact rolled
  | cons event events ih => exact ih (rolled.step documented tall event)

end

section
variable {wcwidth : Char → Int} {wide : Bool} {cells : List (List Char)} {shown : List Char}

theorem display_sublist (is : display wcwidth wide cells = some shown) :
    shown.Sublist cells.flatten := by
  induction cells generalizing wide shown with
  | nil =>
    cases wide <;> cases is <;> exact List.Sublist.refl _
  | cons cell cells ih =>
    cases wide with
    | true => exact (ih is).trans (List.sublist_append_right _ _)
    | false =>
      cases cell with
      | nil => contradiction
      | cons char marks =>
        unfold display at is
        split at is
        next =>
          obtain ⟨rest,after,rfl⟩ := Option.map_eq_some_iff.mp is
          exact List.Sublist.append_left (ih after) _
        next => contradiction

private theorem skipped {cell flat : List Char} (part : shown.Sublist flat)
    (same : rstrip shown = rstrip (cell ++ flat)) :
    cell = [] ∨ ∀ char ∈ cell ++ flat, isSpace char = true := by
  have less := length_rstrip_le part
  rw [← rstrip_eq_nil_iff,same,rstrip_append] at *
  split at less
  next empty =>
    rw [if_pos empty]
    rw [empty] at less
    exact .inr (List.length_eq_zero_iff.mp (Nat.le_zero.mp less))
  next =>
    rw [List.length_append] at less
    exact .inl (List.length_eq_zero_iff.mp (by omega))

/-- A row is shown with all that is in it if it is whole, and only then. -/
theorem display_iff_whole : (∃ shown, display wcwidth wide cells = some shown ∧
    rstrip shown = rstrip cells.flatten) ↔ Whole wcwidth wide cells := by
  induction cells generalizing wide with
  | nil => cases wide <;> exact iff_of_true ⟨[],rfl,rfl⟩ trivial
  | cons cell cells ih =>
    cases wide with
    | true =>
      constructor
      · rintro ⟨shown,is,same⟩
        have part : shown.Sublist cells.flatten := display_sublist is
        have nothing := skipped part same
        refine ⟨nothing,ih.mp ⟨shown,is,?_⟩⟩
        rcases nothing with rfl | space
        · exact same
        · have empty := rstrip_eq_nil_iff.mpr space
          have behind : rstrip cells.flatten = [] := rstrip_eq_nil_iff.mpr fun char member =>
            space char (List.mem_append_right _ member)
          exact (same.trans empty).trans behind.symm
      · rintro ⟨nothing,whole⟩
        obtain ⟨shown,is,same⟩ := ih.mpr whole
        refine ⟨shown,is,?_⟩
        rcases nothing with rfl | space
        · exact same
        · have empty := rstrip_eq_nil_iff.mpr space
          have behind : rstrip cells.flatten = [] := rstrip_eq_nil_iff.mpr fun char member =>
            space char (List.mem_append_right _ member)
          exact (same.trans behind).trans empty.symm
    | false =>
      cases cell with
      | nil => exact iff_of_false (fun ⟨_,is,_⟩ => by contradiction) id
      | cons char marks =>
        unfold display Whole
        rw [← ih,List.flatten_cons]
        by_cases zero : (marks.map wcwidth).sum = 0
        · rw [if_pos zero]
          constructor
          · rintro ⟨_,is,same⟩
            obtain ⟨rest,after,rfl⟩ := Option.map_eq_some_iff.mp is
            exact ⟨zero,rest,after,rstrip_append_inj.mp same⟩
          · rintro ⟨_,rest,after,same⟩
            exact ⟨_,Option.map_eq_some_iff.mpr ⟨rest,after,rfl⟩,rstrip_append_inj.mpr same⟩
        · rw [if_neg zero]
          exact iff_of_false (fun ⟨_,is,_⟩ => by contradiction) fun whole => zero whole.1

def displayed (wcwidth : Char → Int) (columns : Nat) (rows : List Row) :
    Option (List (List Char)) :=
  rows.mapM fun row => display wcwidth false (cellsOf columns row)

private theorem length_displayed {columns : Nat} {rows : List Row} {shown : List (List Char)}
    (is : displayed wcwidth columns rows = some shown) : shown.length = rows.length := by
  induction rows generalizing shown with
  | nil =>
    cases is
    rfl
  | cons row rows ih =>
    unfold displayed at is
    rw [List.mapM_cons] at is
    obtain ⟨first,_,is⟩ := Option.bind_eq_some_iff.mp is
    obtain ⟨rest,below,is⟩ := Option.bind_eq_some_iff.mp is
    cases is
    rw [List.length_cons,List.length_cons,ih below]

theorem displayed_iff_whole {columns : Nat} {rows : List Row} :
    (∃ shown, displayed wcwidth columns rows = some shown ∧
      shown.map rstrip = rows.map (text columns)) ↔
    ∀ row ∈ rows, Whole wcwidth false (cellsOf columns row) := by
  induction rows with
  | nil => exact iff_of_true ⟨[],rfl,rfl⟩ fun _ member => absurd member List.not_mem_nil
  | cons row rows ih =>
    rw [List.forall_mem_cons,← ih,← display_iff_whole]
    unfold displayed
    rw [List.mapM_cons]
    constructor
    · rintro ⟨_,is,same⟩
      obtain ⟨first,here,is⟩ := Option.bind_eq_some_iff.mp is
      obtain ⟨rest,below,is⟩ := Option.bind_eq_some_iff.mp is
      cases is
      obtain ⟨head,tail⟩ := List.cons.inj same
      exact ⟨⟨first,here,head⟩,rest,below,tail⟩
    · rintro ⟨⟨first,here,head⟩,rest,below,tail⟩
      refine ⟨first :: rest,?_,by rw [List.map_cons,head,tail]; rfl⟩
      rw [here,below]
      rfl

theorem whole_blank (columns : Nat) : Whole wcwidth false (cellsOf columns blank) := by
  have spaces (wide : Bool) (cells : List (List Char)) (blank : ∀ cell ∈ cells, cell = [' ']) :
      Whole wcwidth wide cells := by
    induction cells generalizing wide with
    | nil => cases wide <;> trivial
    | cons cell cells ih =>
      obtain ⟨rfl,below⟩ := List.forall_mem_cons.mp blank
      cases wide with
      | true =>
        refine ⟨.inr fun char member => ?_,ih false below⟩
        rcases List.mem_append.mp member with here | later
        · rw [List.mem_singleton.mp here]
          rfl
        · obtain ⟨cell,inside,here⟩ := List.mem_flatten.mp later
          rw [below cell inside] at here
          rw [List.mem_singleton.mp here]
          rfl
      | false => exact ⟨rfl,ih _ below⟩
  apply spaces
  intro cell member
  obtain ⟨_,_,rfl⟩ := List.mem_map.mp member
  rfl

end

theorem text_blank (columns : Nat) : text columns blank = [] := by
  refine List.rdropWhile_eq_nil_iff.mpr ?_
  intro char member
  obtain ⟨column,_,is⟩ := List.mem_flatMap.mp member
  rw [List.mem_singleton.mp is]
  rfl

private theorem lastText_le {display : List (List Char)} {bound : Nat}
    (empty : ∀ line, bound < line → display.getD line [] = []) :
    (lastText display).getD 0 ≤ bound := by
  cases found : lastText display with
  | none => exact Nat.zero_le _
  | some line =>
    have full := List.find?_some found
    rw [decide_eq_true_eq] at full
    apply Nat.le_of_not_lt
    intro below
    exact full (empty line below)

section
variable {pyte : Pyte} {device : Device pyte} {ink : Ink} {wcwidth : Char → Int}
variable {limit columns lines : Nat} {terminal : Terminal pyte limit} {paper : Paper}

theorem Rolled.length_visible (rolled : Rolled device columns lines terminal paper) :
    (paper.rows.drop (paper.hidden lines)).length = pyte.cursorY terminal.screen + 1 := by
  have y := rolled.y
  rw [List.length_drop,Paper.length_rows]
  omega

theorem Rolled.cells (rolled : Rolled device columns lines terminal paper) :
    (List.range lines).map (pyte.cell terminal.screen) = paper.rows.drop (paper.hidden lines) ++
      List.replicate (lines - (pyte.cursorY terminal.screen + 1)) blank := by
  have y := rolled.y
  have within : pyte.cursorY terminal.screen < lines := by
    unfold Paper.hidden at y
    omega
  apply List.ext_getElem
  · rw [List.length_map,List.length_range,List.length_append,rolled.length_visible,
      List.length_replicate]
    omega
  · intro line inside inside'
    rw [List.length_map,List.length_range] at inside
    rw [List.getElem_map,List.getElem_range,rolled.shown line inside,List.getElem_append]
    split
    next visible => rw [List.getElem_drop,Paper.row,List.getD_eq_getElem]
    next below =>
      rw [rolled.length_visible] at below
      rw [List.getElem_replicate,Paper.row_beyond (by omega)]

theorem Rolled.displayed (rolled : Rolled device columns lines terminal paper)
    (documented : Documented pyte device ink wcwidth) :
    (if device.displays terminal.screen then some (pyte.display terminal.screen) else none) = do
      let visible ← displayed wcwidth columns (paper.rows.drop (paper.hidden lines))
      let below ← PaperRoll.displayed wcwidth columns
        (List.replicate (lines - (pyte.cursorY terminal.screen + 1)) blank)
      return visible ++ below := by
  rw [documented.display,rolled.width,rolled.height]
  have rows := congrArg (PaperRoll.displayed wcwidth columns) rolled.cells
  unfold PaperRoll.displayed at rows ⊢
  rw [List.mapM_map,List.mapM_append] at rows
  exact rows

/-- The log is what is on the roll if the rows that the screen shows are whole, and only then. -/
theorem Rolled.log (rolled : Rolled device columns lines terminal paper)
    (documented : Documented pyte device ink wcwidth) :
    log device terminal = some (terminal.scrollback.items ++
        (paper.rows.drop (paper.hidden lines)).map (text columns)) ↔
      ∀ row ∈ paper.rows.drop (paper.hidden lines), Whole wcwidth false (cellsOf columns row) := by
  have all := rolled.displayed documented
  have blanks : ∀ row ∈ List.replicate (lines - (pyte.cursorY terminal.screen + 1)) blank,
      Whole wcwidth false (cellsOf columns row) := by
    intro row member
    rw [List.eq_of_mem_replicate member]
    exact whole_blank columns
  obtain ⟨below,shown,empty⟩ := displayed_iff_whole.mpr blanks
  rw [List.map_replicate,text_blank] at empty
  rw [shown] at all
  rw [← displayed_iff_whole]
  unfold PaperRoll.log
  constructor
  · intro logged
    split at logged
    next returns =>
      rw [if_pos returns] at all
      obtain ⟨visible,is,whole⟩ := Option.bind_eq_some_iff.mp all.symm
      have display : visible ++ below = pyte.display terminal.screen := Option.some.inj whole
      refine ⟨visible,is,?_⟩
      have height : (visible.map rstrip).length = pyte.cursorY terminal.screen + 1 := by
        rw [List.length_map,length_displayed is,rolled.length_visible]
      have lines := List.append_cancel_left (Option.some.inj logged)
      rw [Scrollback.screenLines,← display,List.map_append] at lines
      have cut := congrArg (List.take (pyte.cursorY terminal.screen + 1)) lines
      rw [List.take_take,Nat.min_eq_left (Nat.succ_le_succ (Nat.le_max_left _ _)),
        List.take_left' height] at cut
      rw [cut]
      refine List.take_of_length_le ?_
      rw [List.length_map,rolled.length_visible]
    next => contradiction
  · rintro ⟨visible,is,same⟩
    rw [is] at all
    split at all
    next returns =>
      have display : pyte.display terminal.screen = visible ++ below := Option.some.inj all
      have length : ((paper.rows.drop (paper.hidden lines)).map (text columns)).length =
          pyte.cursorY terminal.screen + 1 := by
        rw [List.length_map,rolled.length_visible]
      have last : (lastText ((paper.rows.drop (paper.hidden lines)).map (text columns) ++
          List.replicate (lines - (pyte.cursorY terminal.screen + 1)) [])).getD 0 ≤
            pyte.cursorY terminal.screen := by
        apply lastText_le
        intro line under
        rw [List.getD_append_right _ _ _ _ (by omega)]
        exact List.getElem?_getD_replicate_default_eq _ _ _
      rw [if_pos returns,fullLog,Scrollback.screenLines,display,List.map_append,same,empty,
        Nat.max_eq_left last,List.take_left' length]
    next => contradiction

end

/-- What the log of a new terminal holds after any text: the rows that the text fills on an
endless roll, each once, right-trimmed and in order. Of those that have scrolled off the screen
only the last are kept. This is so exactly when the rows that the screen shows are whole. -/
theorem full_log_iff_whole {pyte : Pyte} {device : Device pyte} {ink : Ink}
    {wcwidth : Char → Int} (documented : Documented pyte device ink wcwidth) {limit : Nat}
    (start : Terminal pyte limit) (new : Blank pyte device start) (events : List Event) :
    let roll := events.foldl (Paper.step ink (pyte.columns start.screen) (pyte.lines start.screen))
      Paper.clean
    log device (events.foldl (step device) start) = some (logged limit (pyte.lines start.screen)
        (roll.rows.map (text (pyte.columns start.screen)))) ↔
      ∀ row ∈ roll.rows.drop (roll.rows.length - pyte.lines start.screen),
        Whole wcwidth false (cellsOf (pyte.columns start.screen) row) := by
  intro roll
  have rolled := (rolled_blank new).run documented new.tall events
  have iff := rolled.log documented
  rw [rolled.scrolled] at iff
  rw [logged,List.length_map,← List.map_take,← List.map_drop,Paper.length_rows]
  exact iff

structure Sheet where
  columns : Nat
  lines : Nat
  x : Nat
  y : Nat
  cells : Nat → Row

def Sheet.erase (keep : Nat → Nat → Bool) (screen : Sheet) : Sheet :=
  {screen with
    cells := fun line column => if keep line column then screen.cells line column else [' ']}

def accent : Char := Char.ofNat 0x301

def widths (char : Char) : Int := if char = accent then 0 else if char = '日' then 2 else 1

def Sheet.rows (screen : Sheet) : Option (List (List Char)) :=
  (List.range screen.lines).mapM fun line =>
    display widths false (cellsOf screen.columns (screen.cells line))

/-- `pyte.Screen` without margins. -/
def sheet : Pyte where
  Screen := Sheet
  columns := Sheet.columns
  lines := Sheet.lines
  cursorY := Sheet.y
  margins _ := none
  cell := Sheet.cells
  display screen := screen.rows.getD []
  index screen := if screen.y = screen.lines - 1 then
      {screen with cells := fun line =>
        if line + 1 < screen.lines then screen.cells (line + 1) else blank}
    else {screen with y := min (screen.y + 1) (screen.lines - 1)}
  eraseInDisplay how screen := match how with
    | 0 => screen.erase fun line column => line < screen.y || line == screen.y && column < screen.x
    | 1 => screen.erase fun line column => screen.y < line || line == screen.y && screen.x < column
    | _ => screen.erase fun _ _ => false
  reset screen := {screen with x := 0, y := 0, cells := fun _ => blank}

/-- A wide character has an empty stub behind it, a mark goes to the cell before the cursor. -/
def letters : Ink := fun columns char above here x =>
  let above := above.getD blank
  if widths char = 0 then
    if x = 0 then ⟨Function.update above (columns - 1) (above (columns - 1) ++ [char]),here,x⟩
    else ⟨above,Function.update here (x - 1) (here (x - 1) ++ [char]),x⟩
  else if widths char = 2 then
    ⟨above,fun column => if column = x then [char] else if column = x + 1 then [] else here column,
      min (x + 2) columns⟩
  else ⟨above,Function.update here x [char],min (x + 1) columns⟩

def pen : Device sheet where
  displays screen := screen.rows.isSome
  cursorX := Sheet.x
  carriageReturn screen := {screen with x := 0}
  put char screen :=
    let above := if screen.y = 0 then none else some (screen.cells (screen.y - 1))
    let written := letters screen.columns char above (screen.cells screen.y) screen.x
    {screen with
      x := written.x
      cells := fun line => if line = screen.y then written.here
        else if line + 1 = screen.y then written.above else screen.cells line}

theorem documented_sheet : Documented sheet pen letters widths where
  display screen := by
    have returned (rows : Option (List (List Char))) :
        (if rows.isSome then some (rows.getD []) else none) = rows := by
      cases rows <;> rfl
    exact returned screen.rows
  index_frame screen := by
    dsimp only [sheet]
    split <;> exact ⟨⟨rfl,rfl,rfl⟩,rfl⟩
  index_bottom screen _ bottom := by
    have bottom : screen.y = screen.lines - 1 := bottom
    dsimp only [sheet]
    rw [if_pos bottom]
    exact ⟨rfl,fun _ _ => rfl⟩
  index_above screen _ above := by
    have above : screen.y < screen.lines - 1 := above
    dsimp only [sheet]
    rw [if_neg (Nat.ne_of_lt above)]
    exact ⟨Nat.min_eq_left above,fun _ _ => rfl⟩
  return_frame _ := ⟨⟨rfl,rfl,rfl⟩,rfl,rfl⟩
  return_x _ := rfl
  put_frame _ _ := ⟨⟨rfl,rfl,rfl⟩,rfl⟩
  put_top char screen top := by
    have top : screen.y = 0 := top
    refine ⟨?_,fun line _ => ?_⟩
    · simp only [sheet,pen,top,if_pos]
    · simp only [sheet,pen,top,if_pos,Nat.succ_ne_zero,if_false]
  put_below char screen y below := by
    have below : screen.y = y + 1 := below
    refine ⟨?_,fun line _ => ?_⟩
    · simp only [sheet,pen,below,Nat.succ_ne_zero,if_false,Nat.add_sub_cancel]
    · simp only [sheet,pen,below,Nat.succ_ne_zero,if_false,Nat.add_sub_cancel,
        Nat.add_right_cancel_iff]

/-- Two rows of three columns, over which one row is kept. -/
def page : Terminal sheet 1 := ⟨⟨3,2,0,0,fun _ => blank⟩,⟨[],Nat.zero_le _⟩,false⟩

theorem blank_page : Blank sheet pen page := ⟨by decide,rfl,rfl,rfl,fun _ _ => rfl,rfl⟩

def writing : List Event :=
  [.draw 'a',.lineFeed,.carriageReturn,.draw 'b',.draw '日',.draw 'd',.draw accent,.lineFeed,
    .draw 'e']

theorem full_log_iff_whole_written : log pen (writing.foldl (step pen) page) =
    some [['b','日'],['d',accent],[' ','e']] := by
  refine ((full_log_iff_whole documented_sheet page blank_page writing).mpr ?_).trans ?_
  · decide
  · decide

/-- The second half of a wide character stays, and `display` raises. -/
def overwriting : List Event := [.draw '日',.carriageReturn,.draw 'a']

theorem half_overwritten : ¬ ∀ (pyte : Pyte) (device : Device pyte) (ink : Ink)
    (wcwidth : Char → Int) (_ : Documented pyte device ink wcwidth) (limit : Nat)
    (start : Terminal pyte limit) (_ : Blank pyte device start) (events : List Event),
    log device (events.foldl (step device) start) = some (logged limit (pyte.lines start.screen)
      ((events.foldl (Paper.step ink (pyte.columns start.screen) (pyte.lines start.screen))
        Paper.clean).rows.map (text (pyte.columns start.screen)))) := by
  intro holds
  have raises : log pen (overwriting.foldl (step pen) page) = none := by decide
  have logged := holds sheet pen letters widths documented_sheet 1 page blank_page overwriting
  rw [raises] at logged
  contradiction

end AtronixX.PaperRoll
