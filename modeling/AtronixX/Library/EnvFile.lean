import AtronixX.Library.Text
import Mathlib.Tactic.Common

/-! Files of `NAME=value` lines. A value that is not in quotes may have a comment after it and
references to variables in it; whitespace around it does not belong to it. -/
namespace AtronixX.Library.EnvFile
open Text

def space (char : Char) : Bool := isSpace char && !(28 ≤ char.toNat && char.toNat ≤ 31)

def quotes : List Char := [Char.ofNat 34,Char.ofNat 39]

def surrounded (text : List Char) : Bool :=
  2 ≤ text.length && text.head?.any (fun first => first ∈ quotes) && text.getLast? == text.head?

def inner (text : List Char) : List Char := text.tail.dropLast

/-- The text in front of whitespace that `#` follows. -/
def uncomment : List Char → List Char
  | [] => []
  | char :: rest => if space char && rest.head? == some '#' then [] else char :: uncomment rest

def nameStart (char : Char) : Bool := char.isAlpha || char == '_'

def nameChar (char : Char) : Bool := char.isAlphanum || char == '_'

def isName (text : List Char) : Bool := text.head?.any nameStart

/-- The name that follows a dollar sign, with or without braces, and how long it is written. -/
def reference : List Char → Option (List Char × Nat)
  | '\x7b' :: rest =>
    let name := rest.takeWhile nameChar
    if isName name && (rest.dropWhile nameChar).head? == some '\x7d' then
      some (name,name.length + 2)
    else none
  | rest =>
    let name := rest.takeWhile nameChar
    if isName name then some (name,name.length) else none

section
variable (lookup : List Char → Option (List Char))

/-- Every reference replaced by what its variable stands for, with the next `skip` characters
used up already. -/
def substituteFrom : Nat → List Char → List Char
  | _,[] => []
  | skip + 1,_ :: rest => substituteFrom skip rest
  | 0,char :: rest => match if char = '$' then reference rest else none with
    | some (name,length) => (lookup name).getD [] ++ substituteFrom length rest
    | none => char :: substituteFrom 0 rest

abbrev substitute : List Char → List Char := substituteFrom lookup 0

def body (text : List Char) : List Char :=
  if surrounded text then text else (uncomment text).rdropWhile space

def value (text : List Char) : List Char :=
  let body := body (trimBy space text)
  if surrounded body then inner body else substitute lookup body

end

def references : List Char → Bool
  | [] => false
  | char :: rest => (char == '$' && (reference rest).isSome) || references rest

def commented : List Char → Bool
  | [] => false
  | char :: rest => (space char && rest.head? == some '#') || commented rest

def assignment (line : List Char) : Option (List Char × List Char) :=
  if line.head? = some '#' then none
  else match line.span (· ≠ '=') with
    | (_,[]) => none
    | (name,_ :: text) => some (trimBy space name,text)

/-- The assignments line by line, the last one first. A reference is looked up outside before
it is in the lines above. -/
def entries (outside : List Char → Option (List Char)) :
    List (List Char) → List (List Char × List Char) → List (List Char × List Char)
  | [],above => above
  | line :: rest,above => match assignment line with
    | none => entries outside rest above
    | some (name,text) =>
      entries outside rest
        ((name,value (fun name => (outside name).or (above.lookup name)) text) :: above)

def read (outside : List Char → Option (List Char)) (file : List Char) :
    List (List Char × List Char) :=
  entries outside (file.splitOn '\n') []

theorem length_inner {text : List Char} (quoted : surrounded text = true) :
    (inner text).length + 2 ≤ text.length := by
  simp only [surrounded,Bool.and_eq_true,decide_eq_true_eq] at quoted
  unfold inner
  rw [List.length_dropLast,List.length_tail]
  have two := quoted.1.1
  omega

theorem uncomment_isPrefix (text : List Char) : uncomment text <+: text := by
  induction text with
  | nil => exact List.prefix_rfl
  | cons char rest ih =>
    unfold uncomment
    split
    · exact List.nil_prefix
    · exact (List.prefix_cons_inj char).mpr ih

theorem uncomment_eq_self_iff (text : List Char) : uncomment text = text ↔ commented text = false := by
  induction text with
  | nil => exact iff_of_true rfl rfl
  | cons char rest ih =>
    unfold uncomment commented
    split
    next cut => simp [cut]
    next uncut =>
      rw [Bool.not_eq_true] at uncut
      simp [uncut,ih]

theorem body_sublist (text : List Char) : (body text).Sublist text := by
  unfold body
  split
  · exact List.Sublist.refl text
  · exact (List.rdropWhile_prefix space _).sublist.trans (uncomment_isPrefix text).sublist

variable {lookup : List Char → Option (List Char)}

theorem substitute_of_no_references {text : List Char} (free : references text = false) :
    substitute lookup text = text := by
  induction text with
  | nil => rfl
  | cons char rest ih =>
    simp only [references,Bool.or_eq_false_iff,Bool.and_eq_false_iff,beq_eq_false_iff_ne] at free
    unfold substitute substituteFrom
    have unread : (if char = '$' then reference rest else none) = none := by
      split
      next dollar =>
        rcases free.1 with other | missing
        · contradiction
        · simpa using missing
      next => rfl
    rw [unread]
    exact congrArg (char :: ·) (ih free.2)

/-- A character that no part of the format means something by. -/
def plain (char : Char) : Bool := !space char && char != '$' && char ∉ quotes

theorem value_of_plain {text : List Char} (chars : ∀ char ∈ text, plain char = true) :
    value lookup text = text := by
  have facts : ∀ char ∈ text, space char = false ∧ char ≠ '$' ∧ char ∉ quotes := by
    intro char member
    have holds := chars char member
    simpa [plain,and_assoc] using holds
  have unquoted : surrounded text = false := by
    cases text with
    | nil => rfl
    | cons char rest => simp [surrounded,(facts char List.mem_cons_self).2.2]
  have uncommented : ∀ text : List Char, (∀ char ∈ text, space char = false) →
      commented text = false := by
    intro text free
    induction text with
    | nil => rfl
    | cons char rest ih =>
      simp [commented,free char List.mem_cons_self,
        ih fun other member => free other (List.mem_cons_of_mem _ member)]
  have unreferenced : ∀ text : List Char, (∀ char ∈ text, char ≠ '$') →
      references text = false := by
    intro text free
    induction text with
    | nil => rfl
    | cons char rest ih =>
      simp [references,free char List.mem_cons_self,
        ih fun other member => free other (List.mem_cons_of_mem _ member)]
  have solid : Solid space text := solid_of_forall fun char member => (facts char member).1
  have whole : body text = text := by
    unfold body
    rw [if_neg (by simp [unquoted]),(uncomment_eq_self_iff text).mpr
      (uncommented text fun char member => (facts char member).1)]
    exact List.rdropWhile_eq_self_iff.mpr fun nonempty => by
      rw [solid.2 _ (List.getLast?_eq_some_getLast nonempty)]
      exact Bool.false_ne_true
  unfold value
  dsimp only
  rw [trimBy_of_solid solid,whole,if_neg (by simp [unquoted])]
  exact substitute_of_no_references (unreferenced text fun char member => (facts char member).2.1)

section
variable (free : ∀ name text, lookup name = some text → '$' ∉ text)
include free

private theorem count_found (name : List Char) : ((lookup name).getD []).count '$' = 0 := by
  apply List.count_eq_zero.mpr
  cases found : lookup name with
  | none => simp
  | some text => exact free name text found

theorem count_substituteFrom_le (skip : Nat) (text : List Char) :
    (substituteFrom lookup skip text).count '$' ≤ text.count '$' := by
  fun_induction substituteFrom lookup skip text with
  | case1 => exact Nat.le_refl _
  | case2 skip char rest ih => exact ih.trans (List.count_le_count_cons)
  | case3 char rest name length found ih =>
    rw [List.count_append,count_found free,Nat.zero_add]
    exact ih.trans (List.count_le_count_cons)
  | case4 char rest unread ih =>
    simp only [List.count_cons]
    omega

theorem count_substitute_lt {text : List Char} (referring : references text = true) :
    (substitute lookup text).count '$' < text.count '$' := by
  induction text with
  | nil => contradiction
  | cons char rest ih =>
    unfold substitute substituteFrom
    split
    next name length found =>
      have dollar : char = '$' := by
        by_contra other
        rw [if_neg other] at found
        contradiction
      have tail := count_substituteFrom_le free length rest
      rw [List.count_append,count_found free,Nat.zero_add,dollar,List.count_cons_self]
      omega
    next unread =>
      have later : references rest = true := by
        simp only [references,Bool.or_eq_true,Bool.and_eq_true,beq_iff_eq] at referring
        rcases referring with here | later
        · rw [if_pos here.1] at unread
          rw [unread] at here
          exact absurd here.2 Bool.false_ne_true
        · exact later
      have tail : (substituteFrom lookup 0 rest).count '$' < rest.count '$' := ih later
      simp only [List.count_cons]
      omega

end

def written (lines : List (List Char)) : List Char := lines.flatMap fun line => line ++ ['\n']

theorem splitOn_written {lines : List (List Char)} (single : ∀ line ∈ lines, '\n' ∉ line) :
    (written lines).splitOn '\n' = lines ++ [[]] := by
  induction lines with
  | nil => rfl
  | cons line lines ih =>
    have tail := ih fun other member => single other (List.mem_cons_of_mem _ member)
    have whole : line.splitOn '\n' = [line] := by
      apply List.splitOnP_eq_singleton
      intro char member
      apply beq_false_of_ne
      intro same
      subst same
      exact single line List.mem_cons_self member
    unfold List.splitOn at whole tail ⊢
    change List.splitOnP _ ((line ++ ['\n']) ++ written lines) = _
    rw [List.append_assoc,List.singleton_append,List.splitOnP_append_cons line _ (by rfl),whole,tail]
    rfl

theorem assignment_append {name : List Char} (text : List Char)
    (uncommented : (name ++ ['=']).head? ≠ some '#') (single : '=' ∉ name)
    (solid : trimBy space name = name) : assignment (name ++ '=' :: text) = some (name,text) := by
  have start : (name ++ '=' :: text).head? = (name ++ ['=']).head? := by
    cases name <;> rfl
  unfold assignment
  rw [start,if_neg uncommented,span_append text single]
  dsimp only
  rw [solid]

end AtronixX.Library.EnvFile
