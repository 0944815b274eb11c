import Mathlib.Data.List.Forall2
import Mathlib.Data.List.ReduceOption
import AtronixX.Library.Text

/-! Values among markup: how a value is escaped, what its escaped form cannot contain, and the
messages that are put together from fixed markup and from such forms. -/
namespace AtronixX.Library.Markup

/-- `html.escape` of one character. -/
def reference (quote : Bool) (char : Char) : List Char :=
  if char = '&' then "&amp;".toList
  else if char = '<' then "&lt;".toList
  else if char = '>' then "&gt;".toList
  else if quote ∧ char = '"' then "&quot;".toList
  else if quote ∧ char = '\'' then "&#x27;".toList
  else [char]

def escape (quote : Bool) (text : List Char) : List Char := text.flatMap (reference quote)

def references : List (List Char) :=
  ["&amp;".toList,"&lt;".toList,"&gt;".toList,"&quot;".toList,"&#x27;".toList]

/-- The reader's side. -/
def decode : List Char → List Char
  | '&' :: 'a' :: 'm' :: 'p' :: ';' :: rest => '&' :: decode rest
  | '&' :: 'l' :: 't' :: ';' :: rest => '<' :: decode rest
  | '&' :: 'g' :: 't' :: ';' :: rest => '>' :: decode rest
  | '&' :: 'q' :: 'u' :: 'o' :: 't' :: ';' :: rest => '"' :: decode rest
  | '&' :: '#' :: 'x' :: '2' :: '7' :: ';' :: rest => '\'' :: decode rest
  | char :: rest => char :: decode rest
  | [] => []

/-- What is shown cannot be read as markup, and is read as the value. -/
structure Stands (shown value : List Char) : Prop where
  inert : ∀ char ∈ shown, char ≠ '<' ∧ char ≠ '>'
  references : ∀ before after, shown = before ++ '&' :: after →
    ∃ name ∈ references, name <+: '&' :: after
  decoded : ∀ rest, decode (shown ++ rest) = value ++ decode rest

section
variable (quote : Bool)

theorem decode_plain {char : Char} (rest : List Char) (plain : char ≠ '&') :
    decode (char :: rest) = char :: decode rest := by
  rw [decode] <;> simp [plain]

theorem decode_reference (char : Char) (rest : List Char) :
    decode (reference quote char ++ rest) = char :: decode rest := by
  unfold reference
  split_ifs with ampersand less greater double single
  · rw [ampersand]
    rfl
  · rw [less]
    rfl
  · rw [greater]
    rfl
  · rw [double.2]
    rfl
  · rw [single.2]
    rfl
  · exact decode_plain rest ampersand

theorem reference_cases (char : Char) :
    reference quote char ∈ references ∨
      reference quote char = [char] ∧ char ≠ '&' ∧ char ≠ '<' ∧ char ≠ '>' := by
  unfold reference
  split_ifs with ampersand less greater
  all_goals simp_all [references]

private theorem inert_of_mem {name : List Char} (member : name ∈ references) {char : Char}
    (inside : char ∈ name) : char ≠ '<' ∧ char ≠ '>' := by
  have inert : references.all (fun name => name.all fun char => char != '<' && char != '>') = true :=
    rfl
  have plain := List.all_eq_true.mp (List.all_eq_true.mp inert name member) char inside
  simpa using plain

private theorem first_of_mem {name before after : List Char} (member : name ∈ references)
    (split : name = before ++ '&' :: after) : before = [] := by
  have single : references.all (fun name => name.tail.all fun char => char != '&') = true := rfl
  cases before with
  | nil => rfl
  | cons char before =>
    have inside : '&' ∈ name.tail := by simp [split]
    have differs := List.all_eq_true.mp (List.all_eq_true.mp single name member) '&' inside
    contradiction

private theorem inert_reference {char other : Char} (member : other ∈ reference quote char) :
    other ≠ '<' ∧ other ≠ '>' := by
  cases reference_cases quote char with
  | inl named => exact inert_of_mem named member
  | inr plain =>
    rw [plain.1,List.mem_singleton] at member
    rw [member]
    exact plain.2.2

private theorem references_reference {char : Char} {rest before after : List Char}
    (split : reference quote char = before ++ '&' :: after) :
    ∃ name ∈ references, name <+: '&' :: after ++ rest := by
  cases reference_cases quote char with
  | inl named =>
    refine ⟨reference quote char,named,rest,?_⟩
    rw [split,first_of_mem named split]
    rfl
  | inr plain =>
    have inside : '&' ∈ reference quote char := by simp [split]
    rw [plain.1,List.mem_singleton] at inside
    exact absurd inside.symm plain.2.1

theorem stands_escape (value : List Char) : Stands (escape quote value) value := by
  induction value with
  | nil => exact ⟨by simp [escape],by simp [escape],fun rest => rfl⟩
  | cons char value ih =>
    have unfolded : escape quote (char :: value) = reference quote char ++ escape quote value := rfl
    rw [unfolded]
    constructor
    · intro other member
      cases List.mem_append.mp member with
      | inl front => exact inert_reference quote front
      | inr back => exact ih.inert other back
    · intro before after split
      cases List.append_eq_append_iff.mp split with
      | inl later =>
        obtain ⟨middle,_,rest⟩ := later
        exact ih.references middle after rest
      | inr earlier =>
        obtain ⟨middle,front,rest⟩ := earlier
        cases middle with
        | nil => exact ih.references [] after rest.symm
        | cons head middle =>
          obtain ⟨rfl,rfl⟩ := List.cons.inj rest
          exact references_reference quote front
    · intro rest
      rw [List.append_assoc,decode_reference,ih.decoded]
      rfl

end

def numeral (char : Char) : Bool := char.isDigit || char == '-' || char == '.'

/-- Texts that are fixed markup, numbers and what stands for the values, in their order. -/
inductive Message (fixed : List Char → Prop) : List Char → List (List Char) → Prop
  | nil : Message fixed [] []
  | markup {part text : List Char} {values : List (List Char)} :
    fixed part → Message fixed text values → Message fixed (part ++ text) values
  | number {part text : List Char} {values : List (List Char)} :
    part.all numeral = true → Message fixed text values → Message fixed (part ++ text) values
  | value {shown value text : List Char} {values : List (List Char)} :
    Stands shown value → Message fixed text values → Message fixed (shown ++ text) (value :: values)

/-- A row that may be left out. -/
def Row (fixed : List Char → Prop) (row : Option (List Char)) (values : List (List Char)) : Prop :=
  row.elim (values = []) fun text => Message fixed text values

namespace Message
variable {fixed : List Char → Prop} {part text more : List Char} {values others : List (List Char)}

theorem append (first : Message fixed text values) (second : Message fixed more others) :
    Message fixed (text ++ more) (values ++ others) := by
  induction first with
  | nil => exact second
  | markup known _ ih =>
    rw [List.append_assoc]
    exact .markup known ih
  | number digits _ ih =>
    rw [List.append_assoc]
    exact .number digits ih
  | value stands _ ih =>
    rw [List.append_assoc]
    exact .value stands ih

theorem ofMarkup (known : fixed part) : Message fixed part [] := by
  have single := Message.markup known .nil
  rwa [List.append_nil] at single

theorem ofNumber (digits : part.all numeral = true) : Message fixed part [] := by
  have single := @Message.number fixed _ _ _ digits .nil
  rwa [List.append_nil] at single

theorem ofValue (quote : Bool) (value : List Char) :
    Message fixed (escape quote value) [value] := by
  have single := @Message.value fixed _ _ _ _ (stands_escape quote value) .nil
  rwa [List.append_nil] at single

theorem ofReplicate {char : Char} (known : fixed [char]) (count : Nat) :
    Message fixed (List.replicate count char) [] := by
  induction count with
  | zero => exact .nil
  | succ count ih => exact .markup known ih

theorem rows {separator : List Char} {rows : List (Option (List Char))}
    {values : List (List (List Char))} (known : fixed separator)
    (each : List.Forall₂ (Row fixed) rows values) :
    Message fixed (separator.intercalate rows.reduceOption) values.flatten := by
  induction each with
  | nil => exact .nil
  | @cons row values rows others first _ ih =>
    cases row with
    | none =>
      have empty : values = [] := first
      rw [empty]
      exact ih
    | some row =>
      have built : Message fixed row values := first
      rw [List.reduceOption_cons_of_some,List.flatten_cons]
      cases rest : rows.reduceOption with
      | nil =>
        rw [rest] at ih
        simpa using built.append ih
      | cons next later =>
        rw [rest] at ih
        rw [List.intercalate_cons_cons,List.append_assoc]
        exact built.append (.markup known ih)

theorem flatten_of_no_rows {rows : List (Option (List Char))} {values : List (List (List Char))}
    (each : List.Forall₂ (Row fixed) rows values) (none : rows.reduceOption = []) :
    values.flatten = [] := by
  induction each with
  | nil => rfl
  | @cons row values rows others first _ ih =>
    cases row with
    | none =>
      have empty : values = [] := first
      rw [empty]
      exact ih none
    | some row => contradiction

end Message

end AtronixX.Library.Markup
