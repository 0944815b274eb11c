import AtronixX.Library.Text
import Mathlib.Algebra.Group.Nat.Defs
import Mathlib.Tactic.Common

/-! `str` and `int` of Python on the characters of a text, and its character classes. What the
tables say beyond ASCII is a parameter. -/
namespace AtronixX.Library.Numerals
open Text

structure Unicode where
  /-- The value of a decimal digit beyond ASCII. -/
  decimal : Char → Option Nat
  isDigit : Char → Bool
  isAlphanumeric : Char → Bool

def ascii (char : Char) : Bool := char.toNat < 128

def str (value : Nat) : List Char := Nat.toDigits 10 value

def strInt : Int → List Char
  | .ofNat value => str value
  | .negSucc value => '-' :: str (value + 1)

section
variable (unicode : Unicode)

def Unicode.digit (char : Char) : Option Nat :=
  if ascii char then if char.isDigit then some (char.toNat - '0'.toNat) else none
  else unicode.decimal char

/-- `\w` of a pattern. -/
def Unicode.word (char : Char) : Bool :=
  if ascii char then char.isAlphanum || char == '_' else unicode.isAlphanumeric char

/-- `str.isdigit`, which knows more digits than `int`. -/
def Unicode.isdigit (text : List Char) : Bool :=
  !text.isEmpty && text.all fun char => if ascii char then char.isDigit else unicode.isDigit char

/-- `sys.get_int_max_str_digits()`. -/
def maxStrDigits : Nat := 4300

def valueOf (digits : List Nat) : Nat := digits.foldl (fun value digit => 10 * value + digit) 0

/-- Digits with single underscores between them. -/
def natural (text : List Char) : Option Nat :=
  if [] ∈ text.splitOn '_' then none
  else ((text.filter (· ≠ '_')).mapM unicode.digit).bind fun digits =>
    if digits.length > maxStrDigits then none else some (valueOf digits)

/-- What `int` takes for whitespace. -/
def blank (char : Char) : Bool :=
  if ascii char then (9 ≤ char.toNat && char.toNat ≤ 13) || char == ' ' else isSpace char

/-- `int(text)`; `none` is its `ValueError`. -/
def int (text : List Char) : Option Int :=
  match (text.dropWhile blank).rdropWhile blank with
  | '-' :: rest => (natural unicode rest).map fun value => -Int.ofNat value
  | '+' :: rest => (natural unicode rest).map Int.ofNat
  | rest => (natural unicode rest).map Int.ofNat

end

theorem isDigit_of_mem_str {value : Nat} {char : Char} (member : char ∈ str value) :
    char.isDigit = true :=
  Nat.isDigit_of_mem_toDigits (by omega) (by omega) member

theorem str_ne_nil (value : Nat) : str value ≠ [] := Nat.toDigits_ne_nil

theorem length_str_le {value : Nat} (places : Nat) (positive : 0 < places)
    (small : value < 10 ^ places) : (str value).length ≤ places :=
  (Nat.length_toDigits_le_iff (by omega) positive).mpr small

theorem isDigit_iff (char : Char) : char.isDigit = true ↔ 48 ≤ char.toNat ∧ char.toNat ≤ 57 := by
  simp only [Char.isDigit,Bool.and_eq_true,decide_eq_true_eq,ge_iff_le,UInt32.le_iff_toNat_le]
  exact Iff.rfl

theorem ascii_of_isDigit {char : Char} (digit : char.isDigit = true) : ascii char = true := by
  have bounds := (isDigit_iff char).mp digit
  unfold ascii
  exact decide_eq_true (by omega)

theorem blank_of_isDigit {char : Char} (digit : char.isDigit = true) : blank char = false := by
  have bounds := (isDigit_iff char).mp digit
  have differs : char ≠ ' ' := by
    intro same
    subst same
    contradiction
  unfold blank
  rw [ascii_of_isDigit digit]
  simp [differs]
  omega

@[simp] theorem digit_of_isDigit (unicode : Unicode) {char : Char} (digit : char.isDigit = true) :
    unicode.digit char = some (char.toNat - '0'.toNat) := by
  simp [Unicode.digit,ascii_of_isDigit digit,digit]

private theorem mapM_digits (unicode : Unicode) (text : List Char)
    (digits : ∀ char ∈ text, char.isDigit = true) :
    text.mapM unicode.digit = some (text.map fun char => char.toNat - '0'.toNat) := by
  induction text with
  | nil => rfl
  | cons char text ih =>
    have tail := ih fun other member => digits other (List.mem_cons_of_mem _ member)
    simp [List.mapM_cons,digits char List.mem_cons_self,tail]

private theorem valueOf_map (text : List Char) :
    valueOf (text.map fun char => char.toNat - '0'.toNat) = Nat.ofDigitChars 10 text 0 := by
  rw [Nat.ofDigitChars_eq_foldl]
  unfold valueOf
  rw [List.foldl_map]

private theorem natural_unseparated (unicode : Unicode) {text : List Char} (nonempty : text ≠ [])
    (plain : ∀ char ∈ text, char ≠ '_') :
    natural unicode text = (text.mapM unicode.digit).bind fun digits =>
      if digits.length > maxStrDigits then none else some (valueOf digits) := by
  have whole : text.splitOn '_' = [text] := by
    apply List.splitOnP_eq_singleton
    intro char member
    simpa using plain char member
  have kept : text.filter (· ≠ '_') = text := by
    apply List.filter_eq_self.mpr
    intro char member
    simpa using plain char member
  unfold natural
  rw [whole,kept]
  simp [Ne.symm nonempty]

private theorem natural_digits (unicode : Unicode) (text : List Char) (nonempty : text ≠ [])
    (digits : ∀ char ∈ text, char.isDigit = true) :
    natural unicode text =
      if text.length > maxStrDigits then none else some (Nat.ofDigitChars 10 text 0) := by
  have plain : ∀ char ∈ text, char ≠ '_' := by
    intro char member same
    have digit := digits char member
    rw [same] at digit
    contradiction
  rw [natural_unseparated unicode nonempty plain,mapM_digits unicode text digits,Option.bind_some,
    valueOf_map]
  simp

private theorem strip_solid (text : List Char) (solid : ∀ char ∈ text, blank char = false) :
    (text.dropWhile blank).rdropWhile blank = text := by
  have front : text.dropWhile blank = text := by
    cases text with
    | nil => rfl
    | cons char text => simp [solid char List.mem_cons_self]
  rw [front,List.rdropWhile_eq_self_iff]
  intro nonempty
  simp [solid _ (List.getLast_mem nonempty)]

theorem int_isdigit {unicode : Unicode} {text : List Char}
    (solid : ∀ char, unicode.isDigit char = true → isSpace char = false)
    (digits : unicode.isdigit text = true) :
    int unicode text = ((text.mapM unicode.digit).bind fun values =>
      if values.length > maxStrDigits then none else some (valueOf values)).map Int.ofNat := by
  unfold Unicode.isdigit at digits
  simp only [Bool.and_eq_true,Bool.not_eq_true',List.isEmpty_eq_false_iff,List.all_eq_true] at digits
  obtain ⟨nonempty,all⟩ := digits
  have isAscii {char : Char} (member : char ∈ text) (plain : ascii char = true) :
      char.isDigit = true := by
    have digit := all char member
    rwa [if_pos plain] at digit
  have unblank : ∀ char ∈ text, blank char = false := by
    intro char member
    cases plain : ascii char with
    | true => exact blank_of_isDigit (isAscii member plain)
    | false =>
      have digit := all char member
      simp only [plain,Bool.false_eq_true,if_false] at digit
      simp only [blank,plain,Bool.false_eq_true,if_false]
      exact solid char digit
  have without (sign : Char) (plain : ascii sign = true) (nondigit : sign.isDigit = false) :
      sign ∉ text := by
    intro member
    exact absurd (isAscii member plain) (by simp [nondigit])
  have separator : ∀ char ∈ text, char ≠ '_' := fun char member same =>
    without '_' (by decide) (by decide) (same ▸ member)
  unfold int
  rw [strip_solid text unblank,← natural_unseparated unicode nonempty separator]
  split
  next => exact absurd List.mem_cons_self (without '-' (by decide) (by decide))
  next => exact absurd List.mem_cons_self (without '+' (by decide) (by decide))
  next => rfl

theorem int_digits (unicode : Unicode) {text : List Char} (nonempty : text ≠ [])
    (digits : ∀ char ∈ text, char.isDigit = true) :
    int unicode text =
      if text.length > maxStrDigits then none
      else some (Int.ofNat (Nat.ofDigitChars 10 text 0)) := by
  unfold int
  rw [strip_solid text fun char member => blank_of_isDigit (digits char member)]
  split
  next =>
    have digit := digits '-' List.mem_cons_self
    contradiction
  next =>
    have digit := digits '+' List.mem_cons_self
    contradiction
  next =>
    rw [natural_digits unicode text nonempty digits]
    split <;> rfl

theorem int_str (unicode : Unicode) {value : Nat} (short : (str value).length ≤ maxStrDigits) :
    int unicode (str value) = some (value : Int) := by
  rw [int_digits unicode (str_ne_nil value) (fun _ => isDigit_of_mem_str),if_neg (Nat.not_lt.mpr short)]
  unfold str
  rw [Nat.ofDigitChars_ten_toDigits]
  rfl

theorem int_strInt (unicode : Unicode) {value : Int}
    (short : (str value.natAbs).length ≤ maxStrDigits) :
    int unicode (strInt value) = some value := by
  cases value with
  | ofNat value => exact int_str unicode short
  | negSucc value =>
    have solid : ∀ char ∈ '-' :: str (value + 1), blank char = false := by
      intro char member
      rcases List.mem_cons.mp member with minus | digit
      · subst minus
        decide
      · exact blank_of_isDigit (isDigit_of_mem_str digit)
    have read := natural_digits unicode (str (value + 1)) (str_ne_nil _) fun _ => isDigit_of_mem_str
    have fits : (str (value + 1)).length ≤ maxStrDigits := short
    rw [if_neg (Nat.not_lt.mpr fits)] at read
    unfold int strInt
    rw [strip_solid _ solid]
    simp only [read,Option.map_some]
    rw [str,Nat.ofDigitChars_ten_toDigits]
    rfl

theorem ofDigitChars_pos_iff {text : List Char} (digits : ∀ char ∈ text, char.isDigit = true) :
    0 < Nat.ofDigitChars 10 text 0 ↔ ∃ char ∈ text, char ≠ '0' := by
  have general : ∀ start, 0 < Nat.ofDigitChars 10 text start ↔
      0 < start ∨ ∃ char ∈ text, char ≠ '0' := by
    induction text with
    | nil => simp
    | cons char text ih =>
      intro start
      have bounds := (isDigit_iff char).mp (digits char List.mem_cons_self)
      have zero : char = '0' ↔ char.toNat = 48 :=
        ⟨fun same => same ▸ rfl,fun same => Char.toNat_inj.mp same⟩
      rw [Nat.ofDigitChars_cons,ih fun other member => digits other (List.mem_cons_of_mem _ member)]
      simp only [List.mem_cons,exists_eq_or_imp,ne_eq,zero]
      change 0 < 10 * start + (char.toNat - 48) ∨ _ ↔ _
      by_cases nonzero : ∃ char ∈ text, ¬ char = '0'
      · simp [nonzero]
      · simp only [nonzero,or_false]
        omega
  simpa using general 0

end AtronixX.Library.Numerals
