import AtronixX.Scrollback
import Mathlib.Algebra.GroupWithZero.Nat

/-! What the live message of a terminal shows. `render` puts the cursor's mark at the index
of a string although the cursor counts columns, and the two differ where a cell is twice as
wide or holds several characters. -/
namespace AtronixX.RenderedView
open Library.Bounded Library.Text Scrollback

abbrev Text := List Char

def termRows : Nat := 26

def termCols : Nat := 56

/-- A cell that is displayed, with the columns that it takes. -/
structure Glyph where
  text : Text
  width : Nat
  deriving DecidableEq, Repr

/-- The cells of a row without the stubs after those of double width. -/
def glyphs (wide : Text → Bool) : List Text → List Glyph
  | [] => []
  | [cell] => [⟨cell,1⟩]
  | cell :: stub :: rest =>
    if wide cell then ⟨cell,2⟩ :: glyphs wide rest else ⟨cell,1⟩ :: glyphs wide (stub :: rest)

def textOf (row : List Glyph) : Text := row.flatMap Glyph.text

/-- What `render` uses of `pyte.Screen` besides, and what is assumed of `display`. -/
structure View extends Pyte where
  cursorX : Screen → Nat
  wide : Text → Bool
  display_eq : ∀ screen, display screen = (List.range (lines screen)).map fun row =>
    textOf (glyphs wide ((List.range (columns screen)).map (cell screen row)))

variable {view : View} {limit : Nat}

def rowGlyphs (screen : view.Screen) (row : Nat) : List Glyph :=
  glyphs view.wide ((List.range (view.columns screen)).map (view.cell screen row))

def ljust (width : Nat) (text : Text) : Text := text ++ List.replicate (width - text.length) ' '

def mark : Char := '█'

/-- The line with the mark at an index. -/
def withMark (x : Nat) (line : Text) : Text :=
  let ln := ljust (x + 1) line
  ln.take x ++ mark :: ln.drop (x + 1)

def joinLines (lines : List Text) : Text := List.intercalate ['\n'] lines

def render (terminal : Terminal view.toPyte limit) : Text :=
  let screen := terminal.screen
  let lines := screenLines screen
  let lines := if terminal.altScreen then lines
    else
      let need := termRows - lines.length
      let first := if need > 0 then terminal.scrollback.items.rtake need else []
      (first ++ lines).modify (first.length + view.cursorY screen) (withMark (view.cursorX screen))
  let lines := lines.rtake termRows
  if lines = [] then [' '] else joinLines lines

/-- The cells before a column, the cell that begins there, and those after it. -/
def split : Nat → List Glyph → List Glyph × Text × List Glyph
  | _,[] => ([],[],[])
  | 0,glyph :: rest => ([],glyph.text,rest)
  | x + 1,glyph :: rest =>
    -- The column is the stub of this cell.
    if glyph.width > x + 1 then ([glyph],[],rest)
    else
      let (before,cell,after) := split (x + 1 - glyph.width) rest
      (glyph :: before,cell,after)

/-- The columns up to the last cell that is not blank. -/
def widthOf (row : List Glyph) : Nat :=
  ((row.rdropWhile fun glyph => rstrip glyph.text = []).map Glyph.width).sum

/-- The text of a row, trimmed, with the cell of the cursor's column replaced by the mark. -/
def markedLine (x : Nat) (row : List Glyph) : Text :=
  let (before,cell,after) := split x row
  if rstrip (cell ++ textOf after) = [] then
    rstrip (textOf before) ++ List.replicate (x - widthOf before) ' ' ++ [mark]
  else textOf before ++ mark :: rstrip (textOf after)

/-- The tail of the full log, with the cursor's line marked. -/
def expected (terminal : Terminal view.toPyte limit) : Text :=
  let screen := terminal.screen
  let line := markedLine (view.cursorX screen) (rowGlyphs screen (view.cursorY screen))
  let place := terminal.scrollback.items.length + view.cursorY screen
  joinLines (((fullLog terminal).set place line).rtake termRows)

/-- The index of the mark is the cursor's column: the text before it has a character for
every column, and its cell has one character. -/
def Aligned (x : Nat) (row : List Glyph) : Prop :=
  let (before,cell,after) := split x row
  let trimmed := rstrip (textOf row)
  if rstrip (cell ++ textOf after) = [] then
    trimmed.length ≤ x ∧ x - trimmed.length = x - widthOf before
  else
    let seen := if rstrip (textOf after) = [] then rstrip cell else cell
    seen.length = 1 ∧ ((textOf before).length = x ∨
      -- Nothing is seen of a misplaced mark between other marks.
      seen = [mark] ∧ trimmed[x]? = some mark) ∨
    seen = [] ∧ trimmed.length = x ∧ ∀ char ∈ rstrip (textOf after), char = mark

theorem textOf_split (x : Nat) (row : List Glyph) :
    textOf row = textOf (split x row).1 ++ (split x row).2.1 ++ textOf (split x row).2.2 := by
  induction row generalizing x with
  | nil => cases x <;> rfl
  | cons glyph rest ih =>
    cases x with
    | zero => simp [split,textOf]
    | succ x =>
      unfold split
      split
      next => simp [textOf]
      next =>
        have tail := ih (x + 1 - glyph.width)
        simp only [textOf,List.flatMap_cons] at tail ⊢
        rw [tail]
        simp

theorem withMark_of_lt {x : Nat} {line : Text} (inside : x < line.length) :
    withMark x line = line.set x mark := by
  have padded : ljust (x + 1) line = line := by
    unfold ljust
    rw [Nat.sub_eq_zero_of_le inside,List.replicate_zero,List.append_nil]
  unfold withMark
  dsimp only
  rw [padded,List.set_eq_take_append_cons_drop,if_pos inside]

theorem withMark_of_le {x : Nat} {line : Text} (outside : line.length ≤ x) :
    withMark x line = line ++ List.replicate (x - line.length) ' ' ++ [mark] := by
  have gap : x + 1 - line.length = (x - line.length) + 1 := by omega
  have length : (line ++ List.replicate (x - line.length) ' ').length = x := by
    rw [List.length_append,List.length_replicate]
    omega
  have padded : ljust (x + 1) line = line ++ List.replicate (x - line.length) ' ' ++ [' '] := by
    unfold ljust
    rw [gap,List.replicate_succ',List.append_assoc]
  unfold withMark
  dsimp only
  rw [padded,List.take_left' length,List.drop_eq_nil_of_le (by simp; omega)]

theorem set_eq_set_iff {text : Text} {here there : Nat} (first : here < text.length)
    (second : there < text.length) : text.set here mark = text.set there mark ↔
      here = there ∨ text[here]? = some mark ∧ text[there]? = some mark := by
  constructor
  · intro same
    by_cases equal : here = there
    · exact .inl equal
    · have atHere := congrArg (·[here]?) same
      have atThere := congrArg (·[there]?) same
      simp only [List.getElem?_set_self first,List.getElem?_set_ne (Ne.symm equal)] at atHere
      simp only [List.getElem?_set_self second,List.getElem?_set_ne equal] at atThere
      exact .inr ⟨atHere.symm,atThere⟩
  · rintro (same | ⟨atHere,atThere⟩)
    · rw [same]
    · have unchanged {place : Nat} (at_ : text[place]? = some mark) :
          text.set place mark = text := by
        obtain ⟨inside,is⟩ := List.getElem?_eq_some_iff.mp at_
        rw [← is,List.set_getElem_self]
      rw [unchanged atHere,unchanged atThere]

theorem append_eq_cons_iff {rest : Text} {char : Char} :
    rest ++ [char] = char :: rest ↔ ∀ other ∈ rest, other = char := by
  constructor
  · intro same
    have rotated : rest ++ [char] = [char] ++ rest := same
    induction rest with
    | nil => simp
    | cons first rest ih =>
      simp only [List.cons_append,List.nil_append,List.cons.injEq] at rotated
      obtain ⟨rfl,tail⟩ := rotated
      exact List.forall_mem_cons.mpr ⟨rfl,ih tail tail⟩
  · intro all
    rw [List.eq_replicate_of_mem all,← List.replicate_succ',List.replicate_succ]

theorem withMark_blank_iff {x width : Nat} {line : Text} :
    withMark x line = line ++ List.replicate (x - width) ' ' ++ [mark] ↔
      line.length ≤ x ∧ x - line.length = x - width := by
  by_cases inside : x < line.length
  · rw [withMark_of_lt inside]
    constructor
    · intro same
      have lengths := congrArg List.length same
      simp only [List.length_set,List.length_append,List.length_replicate,List.length_singleton]
        at lengths
      omega
    · rintro ⟨outside,_⟩
      omega
  · have outside := not_lt.mp inside
    rw [withMark_of_le outside]
    constructor
    · intro same
      have lengths := congrArg List.length same
      simp only [List.length_append,List.length_replicate,List.length_singleton] at lengths
      exact ⟨outside,by omega⟩
    · rintro ⟨_,gap⟩
      rw [gap]

theorem withMark_seen_iff {x : Nat} {before seen rest : Text} :
    withMark x (before ++ seen ++ rest) = before ++ mark :: rest ↔
      seen.length = 1 ∧ (before.length = x ∨
        seen = [mark] ∧ (before ++ seen ++ rest)[x]? = some mark) ∨
      seen = [] ∧ (before ++ seen ++ rest).length = x ∧ ∀ char ∈ rest, char = mark := by
  by_cases inside : x < (before ++ seen ++ rest).length
  · rw [withMark_of_lt inside]
    by_cases single : seen.length = 1
    · obtain ⟨char,rfl⟩ := List.length_eq_one_iff.mp single
      have at_ : (before ++ [char] ++ rest)[before.length]? = some char := by simp
      have there : before.length < (before ++ [char] ++ rest).length := by simp
      have meant : before ++ mark :: rest =
          (before ++ [char] ++ rest).set before.length mark := by simp
      rw [meant,eq_comm,set_eq_set_iff there inside,at_]
      simp
    · have never : (before ++ seen ++ rest).set x mark ≠ before ++ mark :: rest := by
        intro same
        have lengths := congrArg List.length same
        simp only [List.length_set,List.length_append,List.length_cons] at lengths
        omega
      simp only [never,single,false_and,false_or,false_iff]
      rintro ⟨_,length,_⟩
      omega
  · have outside := not_lt.mp inside
    have nothing : (before ++ seen ++ rest)[x]? = none := List.getElem?_eq_none outside
    rw [withMark_of_le outside]
    constructor
    · intro same
      have lengths := congrArg List.length same
      simp only [List.length_append,List.length_replicate,List.length_cons,List.length_nil]
        at lengths outside
      have none : seen = [] := List.length_eq_zero_iff.mp (by omega)
      subst none
      have length : (before ++ [] ++ rest).length = x := by
        simp only [List.length_append,List.length_nil]
        simp only [List.length_nil] at outside lengths
        omega
      refine .inr ⟨rfl,length,append_eq_cons_iff.mp ?_⟩
      rw [length,Nat.sub_self,List.replicate_zero] at same
      simpa using same
    · rintro (⟨single,early | ⟨_,found⟩⟩ | ⟨rfl,length,all⟩)
      · simp only [List.length_append] at outside
        omega
      · rw [nothing] at found
        contradiction
      · rw [length,Nat.sub_self,List.replicate_zero]
        simpa using append_eq_cons_iff.mpr all

theorem withMark_eq_iff (x : Nat) (row : List Glyph) :
    withMark x (rstrip (textOf row)) = markedLine x row ↔ Aligned x row := by
  have parts := textOf_split x row
  unfold markedLine Aligned
  rcases pieces : split x row with ⟨before,cell,after⟩
  simp only [pieces] at parts ⊢
  rw [List.append_assoc] at parts
  by_cases blank : rstrip (cell ++ textOf after) = []
  · rw [if_pos blank,if_pos blank]
    have line : rstrip (textOf row) = rstrip (textOf before) := by
      rw [parts,rstrip_append,if_pos blank]
    rw [line]
    exact withMark_blank_iff
  · rw [if_neg blank,if_neg blank]
    have line : rstrip (textOf row) = textOf before ++
        (if rstrip (textOf after) = [] then rstrip cell else cell) ++ rstrip (textOf after) := by
      rw [parts,rstrip_append,if_neg blank,rstrip_append]
      split
      next none => rw [none,List.append_nil]
      next => rw [List.append_assoc]
    rw [line]
    exact withMark_seen_iff

private theorem shown_eq {α : Type} (items lines : List α) :
    (if termRows - lines.length > 0 then items.rtake (termRows - lines.length) else []) =
      items.rtake (termRows - lines.length) := by
  split
  next => rfl
  next none =>
    rw [Nat.eq_zero_of_not_pos none]
    simp [List.rtake]

private theorem modify_behind {α : Type} (first items : List α) (place : Nat) (change : α → α) :
    (first ++ items).modify (first.length + place) change = first ++ items.modify place change := by
  induction first with
  | nil => simp
  | cons head first ih =>
    have next : (head :: first).length + place = (first.length + place) + 1 := by
      rw [List.length_cons]
      omega
    rw [next,List.cons_append,List.modify_succ_cons,ih,List.cons_append]

theorem joinLines_eq_iff (first last : List Text) {line other : Text} :
    joinLines (first ++ line :: last) = joinLines (first ++ other :: last) ↔ line = other := by
  have parts : ∃ front back : Text, ∀ line : Text,
      joinLines (first ++ line :: last) = front ++ line ++ back := by
    induction first with
    | nil =>
      cases last with
      | nil => exact ⟨[],[],fun line => by simp [joinLines]⟩
      | cons next last =>
        refine ⟨[],'\n' :: joinLines (next :: last),fun line => ?_⟩
        simp [joinLines,List.intercalate_cons_cons]
    | cons head first ih =>
      obtain ⟨front,back,shape⟩ := ih
      refine ⟨head ++ '\n' :: front,back,fun line => ?_⟩
      have tail := shape line
      unfold joinLines at tail ⊢
      rw [List.cons_append]
      cases rest : first ++ line :: last with
      | nil => simp at rest
      | cons next more =>
        rw [rest] at tail
        rw [List.intercalate_cons_cons,tail]
        simp
  obtain ⟨front,back,shape⟩ := parts
  rw [shape,shape]
  simp

section Screen
variable {terminal : Terminal view.toPyte limit}

private theorem length_display (screen : view.Screen) :
    ((view.display screen).map rstrip).length = view.lines screen := by
  simp [view.display_eq]

theorem screenLines_cursor {screen : view.Screen}
    (onScreen : view.cursorY screen < view.lines screen) :
    (screenLines screen)[view.cursorY screen]? =
      some (rstrip (textOf (rowGlyphs screen (view.cursorY screen)))) := by
  unfold screenLines
  dsimp only
  rw [List.getElem?_take_of_lt (by omega),view.display_eq]
  simp [onScreen,rowGlyphs]

theorem length_screenLines (screen : view.Screen) :
    (screenLines screen).length ≤ view.lines screen := by
  have length := length_display screen
  unfold screenLines
  dsimp only
  rw [List.length_take,length]
  exact min_le_right _ _

def above (terminal : Terminal view.toPyte limit) : List Text :=
  terminal.scrollback.items.rtake (termRows - (screenLines terminal.screen).length) ++
    (screenLines terminal.screen).take (view.cursorY terminal.screen)

def below (terminal : Terminal view.toPyte limit) : List Text :=
  (screenLines terminal.screen).drop (view.cursorY terminal.screen + 1)

variable (rows : view.lines terminal.screen = termRows)
  (onScreen : view.cursorY terminal.screen < termRows)

include rows onScreen

private theorem cursor_inside :
    view.cursorY terminal.screen < (screenLines terminal.screen).length := by
  have found := screenLines_cursor (rows ▸ onScreen : view.cursorY terminal.screen < view.lines _)
  exact (List.getElem?_eq_some_iff.mp found).1

private theorem cursor_line (line : Text) :
    (screenLines terminal.screen).set (view.cursorY terminal.screen) line =
      (screenLines terminal.screen).take (view.cursorY terminal.screen) ++
        line :: below terminal := by
  rw [List.set_eq_take_append_cons_drop,if_pos (cursor_inside rows onScreen)]
  rfl

theorem expected_eq : expected terminal = joinLines (above terminal ++
    markedLine (view.cursorX terminal.screen)
      (rowGlyphs terminal.screen (view.cursorY terminal.screen)) :: below terminal) := by
  have fits : (screenLines terminal.screen).length ≤ termRows := rows ▸ length_screenLines _
  unfold expected fullLog above
  dsimp only
  rw [List.set_append_right _ _ (Nat.le_add_right _ _),Nat.add_sub_cancel_left,
    rtake_append_of_length_le _ (by rwa [List.length_set]),List.length_set,
    cursor_line rows onScreen,List.append_assoc]

theorem render_eq (normal : terminal.altScreen = false) : render terminal =
    joinLines (above terminal ++ withMark (view.cursorX terminal.screen)
      (rstrip (textOf (rowGlyphs terminal.screen (view.cursorY terminal.screen)))) ::
        below terminal) := by
  have fits : (screenLines terminal.screen).length ≤ termRows := rows ▸ length_screenLines _
  have inside := cursor_inside rows onScreen
  have found := screenLines_cursor (rows ▸ onScreen : view.cursorY terminal.screen < view.lines _)
  have marked : (screenLines terminal.screen).modify (view.cursorY terminal.screen)
      (withMark (view.cursorX terminal.screen)) = (screenLines terminal.screen).set
        (view.cursorY terminal.screen) (withMark (view.cursorX terminal.screen)
          (rstrip (textOf (rowGlyphs terminal.screen (view.cursorY terminal.screen))))) := by
    rw [List.modify_eq_take_cons_drop inside,List.set_eq_take_append_cons_drop,if_pos inside,
      (List.getElem?_eq_some_iff.mp found).2]
  have scrolled := shown_eq terminal.scrollback.items (screenLines terminal.screen)
  unfold render
  dsimp only
  rw [normal,if_neg Bool.false_ne_true,scrolled,modify_behind,marked,
    rtake_append_of_length_le _ (by rwa [List.length_set]),List.length_set,
    rtake_of_length_le (length_rtake _),cursor_line rows onScreen,if_neg (by simp),
    ← List.append_assoc]
  rfl

end Screen

theorem render_marked (terminal : Terminal view.toPyte limit)
    (rows : view.lines terminal.screen = termRows)
    (onScreen : view.cursorY terminal.screen < termRows) (normal : terminal.altScreen = false) :
    render terminal = expected terminal ↔ Aligned (view.cursorX terminal.screen)
      (rowGlyphs terminal.screen (view.cursorY terminal.screen)) := by
  rw [render_eq rows onScreen normal,expected_eq rows onScreen,joinLines_eq_iff]
  exact withMark_eq_iff _ _

def kanji : View where
  toPyte := {small with
    display := fun grid => (List.range grid.lines).map fun row =>
      textOf (glyphs (· == ['日']) ((List.range grid.columns).map (small.cell grid row)))}
  cursorX := Grid.x
  wide cell := cell == ['日']
  display_eq _ := rfl

def showing (cells : List Text) (x : Nat) : Terminal kanji.toPyte 1500 :=
  ⟨(⟨termCols,termRows,x,0,[cells]⟩ : Grid),⟨[['$']],by decide⟩,false⟩

instance (x : Nat) (row : List Glyph) : Decidable (Aligned x row) := by
  let letters (text : Text) : Decidable (∀ char ∈ text, char = mark) := List.decidableBAll _ text
  unfold Aligned
  infer_instance

theorem render_marked_word : render (showing [['l'],['s']] 1) = ['$','\n','l',mark] ∧
    render (showing [['l'],['s']] 1) = expected (showing [['l'],['s']] 1) :=
  ⟨by decide +kernel,
    (render_marked (showing [['l'],['s']] 1) rfl (by decide) rfl).mpr (by decide +kernel)⟩

theorem mark_too_far : ¬ ∀ (view : View) (limit : Nat) (terminal : Terminal view.toPyte limit),
    view.columns terminal.screen = termCols → view.lines terminal.screen = termRows →
    view.cursorX terminal.screen ≤ termCols → view.cursorY terminal.screen < termRows →
    terminal.altScreen = false → render terminal = expected terminal := by
  intro claimed
  have same := claimed kanji 1500 (showing [['日'],[]] 2) rfl rfl (by decide) (by decide) rfl
  have rendered : render (showing [['日'],[]] 2) = ['$','\n','日',' ',mark] := by decide +kernel
  have meant : expected (showing [['日'],[]] 2) = ['$','\n','日',mark] := by decide +kernel
  rw [rendered,meant] at same
  contradiction

end AtronixX.RenderedView
