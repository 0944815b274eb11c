import Mathlib.Data.List.Basic

/-! Base64. Three bytes are four digits, and what is left over at the end is filled up with `=`.
The reader is lenient: it skips what is no digit, and stops at a padding that ends a group. -/
namespace AtronixX.Library.Base64

/-- The digits of an encoder, and what a decoder takes them for. -/
structure Alphabet where
  digit : Nat → Char
  value : Char → Option Nat
  value_digit : ∀ number < 64, value (digit number) = some number
  digit_ne : ∀ number < 64, digit number ≠ '='

variable (alphabet : Alphabet)

/-- The digits, without padding. -/
def unpadded : List UInt8 → List Char
  | one :: two :: three :: rest =>
    alphabet.digit (one.toNat / 4) ::
      alphabet.digit (one.toNat % 4 * 16 + two.toNat / 16) ::
        alphabet.digit (two.toNat % 16 * 4 + three.toNat / 64) ::
          alphabet.digit (three.toNat % 64) :: unpadded rest
  | [one,two] => [alphabet.digit (one.toNat / 4),
      alphabet.digit (one.toNat % 4 * 16 + two.toNat / 16),alphabet.digit (two.toNat % 16 * 4)]
  | [one] => [alphabet.digit (one.toNat / 4),alphabet.digit (one.toNat % 4 * 16)]
  | [] => []

/-- As many as it takes to make whole groups of four. -/
def padding (length : Nat) : List Char := List.replicate ((4 - length % 4) % 4) '='

def encode (bytes : List UInt8) : List Char :=
  unpadded alphabet bytes ++ padding (unpadded alphabet bytes).length

/-- The reader after some digits of a group, with the bits that are left of them and the number of
`=` it met since. -/
def read : List Char → Nat → Nat → Nat → Option (List UInt8)
  | [], group, _, _ => if group = 0 then some [] else none
  | char :: rest, group, left, pads =>
    if char = '=' then
      if 2 ≤ group then
        if 4 ≤ group + (pads + 1) then some [] else read rest group left (pads + 1)
      else read rest group left pads
    else match alphabet.value char with
      | none => read rest group left pads
      | some number => match group with
        | 0 => read rest 1 number 0
        | 1 => (read rest 2 (number % 16) 0).map (UInt8.ofNat (left * 4 + number / 16) :: ·)
        | 2 => (read rest 3 (number % 4) 0).map (UInt8.ofNat (left * 16 + number / 4) :: ·)
        | _ => (read rest 0 0 0).map (UInt8.ofNat (left * 64 + number) :: ·)

def decode (text : List Char) : Option (List UInt8) := read alphabet text 0 0 0

variable {alphabet}

section
variable {number left pads : Nat} (small : number < 64) (rest : List Char)
include small

theorem read_first : read alphabet (alphabet.digit number :: rest) 0 left pads =
    read alphabet rest 1 number 0 := by
  simp [read,alphabet.digit_ne number small,alphabet.value_digit number small]

theorem read_second : read alphabet (alphabet.digit number :: rest) 1 left pads =
    (read alphabet rest 2 (number % 16) 0).map (UInt8.ofNat (left * 4 + number / 16) :: ·) := by
  simp [read,alphabet.digit_ne number small,alphabet.value_digit number small]

theorem read_third : read alphabet (alphabet.digit number :: rest) 2 left pads =
    (read alphabet rest 3 (number % 4) 0).map (UInt8.ofNat (left * 16 + number / 4) :: ·) := by
  simp [read,alphabet.digit_ne number small,alphabet.value_digit number small]

theorem read_last : read alphabet (alphabet.digit number :: rest) 3 left pads =
    (read alphabet rest 0 0 0).map (UInt8.ofNat (left * 64 + number) :: ·) := by
  simp [read,alphabet.digit_ne number small,alphabet.value_digit number small]

end

private theorem ofNat_eq (byte : UInt8) {number : Nat} (same : number = byte.toNat) :
    UInt8.ofNat number = byte := by
  rw [same,UInt8.ofNat_toNat]

theorem read_group (one two three : UInt8) (rest : List Char) :
    read alphabet (alphabet.digit (one.toNat / 4) ::
      alphabet.digit (one.toNat % 4 * 16 + two.toNat / 16) ::
        alphabet.digit (two.toNat % 16 * 4 + three.toNat / 64) ::
          alphabet.digit (three.toNat % 64) :: rest) 0 0 0 =
      (read alphabet rest 0 0 0).map fun bytes => one :: two :: three :: bytes := by
  have first := one.toNat_lt
  have second := two.toNat_lt
  have third := three.toNat_lt
  rw [read_first (by omega),read_second (by omega),read_third (by omega),read_last (by omega)]
  simp only [Option.map_map,Function.comp_def]
  rw [ofNat_eq one (by omega),ofNat_eq two (by omega),ofNat_eq three (by omega)]

theorem length_unpadded (one two three : UInt8) (rest : List UInt8) :
    (unpadded alphabet (one :: two :: three :: rest)).length =
      (unpadded alphabet rest).length + 4 := rfl

theorem padding_add (length : Nat) : padding (length + 4) = padding length := by
  unfold padding
  rw [Nat.add_mod_right]

theorem decode_encode (bytes : List UInt8) :
    decode alphabet (encode alphabet bytes) = some bytes := by
  unfold decode encode
  induction bytes using unpadded.induct with
  | case1 one two three rest ih =>
    rw [length_unpadded,padding_add]
    rw [unpadded,List.cons_append,List.cons_append,List.cons_append,List.cons_append,read_group,ih]
    rfl
  | case2 one two =>
    have first := one.toNat_lt
    have second := two.toNat_lt
    simp only [unpadded,List.length_cons,List.length_nil,List.cons_append,List.nil_append]
    rw [read_first (by omega),read_second (by omega),read_third (by omega),
      ofNat_eq one (by omega),ofNat_eq two (by omega)]
    rfl
  | case3 one =>
    have first := one.toNat_lt
    simp only [unpadded,List.length_cons,List.length_nil,List.cons_append,List.nil_append]
    rw [read_first (by omega),read_second (by omega),ofNat_eq one (by omega)]
    rfl
  | case4 => simp [unpadded,padding,read]

theorem encode_injective {one two : List UInt8} (same : encode alphabet one = encode alphabet two) :
    one = two := by
  have decoded : decode alphabet (encode alphabet one) = some one := decode_encode one
  rw [same,decode_encode] at decoded
  exact (Option.some.inj decoded).symm

theorem unpadded_injective {one two : List UInt8}
    (same : unpadded alphabet one = unpadded alphabet two) : one = two := by
  have padded : encode alphabet one = encode alphabet two := by
    unfold encode
    rw [same]
  exact encode_injective padded

theorem mem_unpadded {bytes : List UInt8} {char : Char} (member : char ∈ unpadded alphabet bytes) :
    ∃ number < 64, char = alphabet.digit number := by
  induction bytes using unpadded.induct with
  | case1 one two three rest ih =>
    have first := one.toNat_lt
    have second := two.toNat_lt
    have third := three.toNat_lt
    simp only [unpadded,List.mem_cons] at member
    rcases member with rfl | rfl | rfl | rfl | member
    · exact ⟨_,by omega,rfl⟩
    · exact ⟨_,by omega,rfl⟩
    · exact ⟨_,by omega,rfl⟩
    · exact ⟨_,by omega,rfl⟩
    · exact ih member
  | case2 one two =>
    have first := one.toNat_lt
    have second := two.toNat_lt
    simp only [unpadded,List.mem_cons,List.not_mem_nil,or_false] at member
    rcases member with rfl | rfl | rfl
    · exact ⟨_,by omega,rfl⟩
    · exact ⟨_,by omega,rfl⟩
    · exact ⟨_,by omega,rfl⟩
  | case3 one =>
    have first := one.toNat_lt
    simp only [unpadded,List.mem_cons,List.not_mem_nil,or_false] at member
    rcases member with rfl | rfl
    · exact ⟨_,by omega,rfl⟩
    · exact ⟨_,by omega,rfl⟩
  | case4 => contradiction

theorem pad_notMem (bytes : List UInt8) : '=' ∉ unpadded alphabet bytes := by
  intro member
  obtain ⟨number,small,same⟩ := mem_unpadded member
  exact alphabet.digit_ne number small same.symm

end AtronixX.Library.Base64
