import Mathlib.Data.List.TakeWhile

/-! Regular expressions that are sequences, as `re.match` reads them: characters, runs of a
class of characters, a character that may be missing, the end. What may not be missing keeps
two of them apart. -/
namespace AtronixX.Library.TextPattern

inductive Piece (κ : Type)
  | char (char : Char)
  /-- `[…]+`. -/
  | many (class_ : κ)
  /-- `c?`. -/
  | optional (char : Char)
  | dollar
  deriving DecidableEq, Repr

abbrev Shape (κ : Type) := List (Piece κ)

def lit {κ : Type} (text : List Char) : Shape κ := text.map .char

variable {κ : Type}

section
variable (accepts : κ → Char → Bool)

/-- Some way to match the beginning of the text. `$` also matches before a newline that ends
the text. -/
def Matches : Shape κ → List Char → Bool
  | [],_ => true
  | .char char :: rest,text => match text with
    | [] => false
    | first :: text => first == char && Matches rest text
  | .many class_ :: rest,text => (List.range (text.takeWhile (accepts class_)).length).any
      fun more => Matches rest (text.drop (more + 1))
  | .optional char :: rest,text =>
    Matches rest text || (text.head? == some char && Matches rest text.tail)
  | .dollar :: rest,text => (text == [] || text == ['\n']) && Matches rest text

end

/-- No text matches both: they ask for different characters somewhere, or one of them for
the end. -/
def apart : Shape κ → Shape κ → Bool
  | .char one :: first,.char two :: second => one != two || apart first second
  | .char one :: _,.dollar :: _ => one != '\n'
  | .dollar :: _,.char two :: _ => two != '\n'
  | _,_ => false

variable {accepts : κ → Char → Bool}

theorem not_matches_of_apart (first second : Shape κ) (text : List Char)
    (differ : apart first second = true) (one : Matches accepts first text = true) :
    Matches accepts second text = false := by
  fun_induction apart first second generalizing text with
  | case1 char first char' second ih =>
    cases text with
    | nil => rfl
    | cons head text =>
      simp only [Matches,Bool.and_eq_true,beq_iff_eq,Bool.or_eq_true,bne_iff_ne] at differ one ⊢
      rcases differ with differ | differ
      · simp [one.1,differ]
      · simp [ih text differ one.2]
  | case2 char first second =>
    cases text with
    | nil => contradiction
    | cons head text =>
      simp only [Matches,Bool.and_eq_true,beq_iff_eq,bne_iff_ne] at differ one
      simp [Matches,one.1,differ]
  | case3 first char second =>
    simp only [Matches,Bool.and_eq_true,Bool.or_eq_true,beq_iff_eq] at one
    rcases one.1 with same | same
    · subst same
      rfl
    · subst same
      simp only [bne_iff_ne] at differ
      simp [Matches,Ne.symm differ]
  | case4 => contradiction

@[simp] theorem matches_nil (text : List Char) : Matches accepts [] text = true := rfl

@[simp] theorem matches_char (char first : Char) (rest : Shape κ) (text : List Char) :
    Matches accepts (.char char :: rest) (first :: text) =
      (first == char && Matches accepts rest text) := rfl

@[simp] theorem matches_dollar_nil (rest : Shape κ) :
    Matches accepts (.dollar :: rest) [] = Matches accepts rest [] := by
  simp [Matches]

theorem matches_lit_append (beginning : List Char) (rest : Shape κ) (text : List Char) :
    Matches accepts (lit beginning ++ rest) (beginning ++ text) = Matches accepts rest text := by
  induction beginning with
  | nil => rfl
  | cons char beginning ih =>
    simp only [lit,List.map_cons,List.cons_append,matches_char,beq_self_eq_true,Bool.true_and]
    exact ih

theorem matches_many_append {class_ : κ} {rest : Shape κ} {run text : List Char} (nonempty : run ≠ [])
    (inside : ∀ char ∈ run, accepts class_ char = true)
    (matched : Matches accepts rest text = true) :
    Matches accepts (.many class_ :: rest) (run ++ text) = true := by
  have longer : run.length ≤ ((run ++ text).takeWhile (accepts class_)).length := by
    have whole : run.takeWhile (accepts class_) = run :=
      List.takeWhile_eq_self_iff.mpr inside
    rw [List.takeWhile_append,whole]
    simp
  have positive := List.length_pos_iff.mpr nonempty
  apply List.any_eq_true.mpr
  refine ⟨run.length - 1,List.mem_range.mpr (by omega),?_⟩
  have dropped : (run ++ text).drop (run.length - 1 + 1) = text := by
    rw [Nat.sub_add_cancel positive,List.drop_left]
  rwa [dropped]

end AtronixX.Library.TextPattern
