import Mathlib.Data.List.DropRight
import Mathlib.Data.List.TakeDrop

/-! `str.strip` and `str.rstrip` without an argument, on the characters of a string, and what
holds of stripping for any idea of whitespace. -/
namespace AtronixX.Library.Text

instance lawfulTexts : LawfulBEq (List Char) := inferInstance

/-- The code points that Python takes for whitespace. -/
def isSpace (char : Char) : Bool :=
  let code := char.toNat
  (9 ≤ code && code ≤ 13) || (28 ≤ code && code ≤ 32) || code == 0x85 || code == 0xa0 ||
    code == 0x1680 || (0x2000 ≤ code && code ≤ 0x200a) || code == 0x2028 || code == 0x2029 ||
    code == 0x202f || code == 0x205f || code == 0x3000

def rstrip (text : List Char) : List Char := text.rdropWhile isSpace

def strip (text : List Char) : List Char := rstrip (text.dropWhile isSpace)

theorem rstrip_append (text more : List Char) :
    rstrip (text ++ more) = if rstrip more = [] then rstrip text else text ++ rstrip more := by
  unfold rstrip List.rdropWhile
  rw [List.reverse_append,List.dropWhile_append]
  cases dropped : more.reverse.dropWhile isSpace with
  | nil => simp
  | cons char rest => simp

theorem rstrip_eq_nil_iff {text : List Char} :
    rstrip text = [] ↔ ∀ char ∈ text, isSpace char = true :=
  List.rdropWhile_eq_nil_iff

theorem rstrip_append_inj {text left right : List Char} :
    rstrip (text ++ left) = rstrip (text ++ right) ↔ rstrip left = rstrip right := by
  have shorter : (rstrip text).length ≤ text.length :=
    (List.rdropWhile_prefix isSpace text).length_le
  rw [rstrip_append,rstrip_append]
  by_cases empty : rstrip left = [] <;> by_cases none : rstrip right = []
  · rw [if_pos empty,if_pos none,empty,none]
    exact iff_of_true rfl rfl
  · rw [if_pos empty,if_neg none,empty]
    refine iff_of_false (fun same => ?_) (Ne.symm none)
    have longer := congrArg List.length same
    have positive := List.length_pos_of_ne_nil none
    rw [List.length_append] at longer
    omega
  · rw [if_neg empty,if_pos none,none]
    refine iff_of_false (fun same => ?_) empty
    have longer := congrArg List.length same
    have positive := List.length_pos_of_ne_nil empty
    rw [List.length_append] at longer
    omega
  · rw [if_neg empty,if_neg none]
    exact List.append_right_inj text

theorem length_rstrip_le {left right : List Char} (part : left.Sublist right) :
    (rstrip left).length ≤ (rstrip right).length := by
  have split : rstrip right ++ right.rtakeWhile isSpace = right :=
    List.rdropWhile_append_rtakeWhile
  rw [← split] at part
  obtain ⟨front,back,rfl,kept,rest⟩ := List.sublist_append_iff.mp part
  have space : rstrip back = [] := rstrip_eq_nil_iff.mpr fun char member =>
    List.mem_rtakeWhile_imp (rest.subset member)
  rw [rstrip_append,if_pos space]
  exact (List.rdropWhile_prefix isSpace front).length_le.trans kept.length_le

theorem strip_sublist (text : List Char) : (strip text).Sublist text :=
  (List.rdropWhile_prefix isSpace _).sublist.trans (List.dropWhile_sublist isSpace)

def trimBy {α : Type} (space : α → Bool) (text : List α) : List α :=
  (text.dropWhile space).rdropWhile space

section
variable {α : Type} {space other : α → Bool} {text : List α}

theorem trimBy_sublist : (trimBy space text).Sublist text :=
  (List.rdropWhile_prefix space _).sublist.trans (List.dropWhile_sublist space)

/-- Neither end is whitespace. -/
def Solid (space : α → Bool) (text : List α) : Prop :=
  (∀ char ∈ text.head?, space char = false) ∧ ∀ char ∈ text.getLast?, space char = false

theorem trimBy_of_solid (solid : Solid space text) : trimBy space text = text := by
  have front : text.dropWhile space = text := by
    cases text with
    | nil => rfl
    | cons char text => simp [solid.1 char rfl]
  unfold trimBy
  rw [front,List.rdropWhile_eq_self_iff]
  intro nonempty
  rw [solid.2 _ (List.getLast?_eq_some_getLast nonempty)]
  exact Bool.false_ne_true

theorem solid_trimBy : Solid space (trimBy space text) := by
  constructor
  · intro char first
    have before : (trimBy space text).head? = (text.dropWhile space).head? := by
      obtain ⟨rest,whole⟩ := List.rdropWhile_prefix space (text.dropWhile space)
      cases kept : trimBy space text with
      | nil =>
        rw [kept] at first
        contradiction
      | cons head tail =>
        unfold trimBy at kept
        rw [kept] at whole
        rw [← whole]
        rfl
    rw [before] at first
    have fails := List.head?_dropWhile_not space text
    rw [Option.mem_def.mp first] at fails
    exact Bool.eq_false_iff.mpr fun holds => by simp [holds] at fails
  · intro char last
    have nonempty : trimBy space text ≠ [] := by
      intro empty
      rw [empty] at last
      contradiction
    have fails := List.rdropWhile_last_not space (text.dropWhile space) nonempty
    rw [List.getLast?_eq_some_getLast nonempty] at last
    cases last
    exact Bool.eq_false_iff.mpr fails

theorem solid_iff : Solid space text ↔ trimBy space text = text := by
  constructor
  · exact trimBy_of_solid
  · intro same
    rw [← same]
    exact solid_trimBy

theorem Solid.mono (solid : Solid space text)
    (fewer : ∀ char, other char = true → space char = true) : Solid other text := by
  have kept : ∀ char, space char = false → other char = false := by
    intro char fails
    apply Bool.eq_false_iff.mpr
    intro holds
    rw [fewer char holds] at fails
    contradiction
  exact ⟨fun char first => kept char (solid.1 char first),
    fun char last => kept char (solid.2 char last)⟩

theorem solid_of_forall (free : ∀ char ∈ text, space char = false) : Solid space text :=
  ⟨fun char first => free char (List.mem_of_mem_head? first),
    fun char last => free char (List.mem_of_mem_getLast? last)⟩

end

theorem span_append {α : Type} [DecidableEq α] {separator : α} {before : List α} (rest : List α)
    (single : separator ∉ before) :
    (before ++ separator :: rest).span (· ≠ separator) = (before,separator :: rest) := by
  have letters : ∀ char ∈ before, decide (char ≠ separator) = true := by
    intro char member
    apply decide_eq_true
    intro same
    subst same
    exact single member
  rw [List.span_eq_takeWhile_dropWhile,List.takeWhile_append_of_pos letters,
    List.dropWhile_append_of_pos letters]
  simp

theorem append_of_span {α : Type} [DecidableEq α] {separator char : α} {text before rest : List α}
    (split : text.span (· ≠ separator) = (before,char :: rest)) :
    text = before ++ separator :: rest ∧ separator ∉ before := by
  rw [List.span_eq_takeWhile_dropWhile] at split
  obtain ⟨rfl,found⟩ := Prod.mk.inj split
  have head := List.head?_dropWhile_not (fun char => decide (char ≠ separator)) text
  rw [found] at head
  have same : char = separator := by simpa using head
  rw [same] at found
  constructor
  · rw [← found,List.takeWhile_append_dropWhile]
  · intro member
    have differs := List.mem_takeWhile_imp member
    simp at differs

end AtronixX.Library.Text
