import AtronixX.Library.Address
import Mathlib.Data.List.TakeWhile
import Mathlib.Tactic.Common

/-! An address is read back from the text that is written for it. -/
namespace AtronixX.Library.Address

theorem mapM_eq_some {α β : Type} (f : α → Option β) (items : List α) (results : List β) :
    items.mapM f = some results ↔ items.map f = results.map some := by
  induction items generalizing results with
  | nil => cases results <;> simp
  | cons item items ih =>
    rw [List.mapM_cons,List.map_cons]
    cases found : f item with
    | none => cases results <;> simp
    | some result =>
      cases results with
      | nil => cases items.mapM f <;> simp
      | cons head tail =>
        simp only [List.map_cons,List.cons.injEq,Option.some.injEq,← ih tail]
        cases items.mapM f <;> simp

private theorem mapM_map_inverse {α β : Type} (write : α → β) (read : β → Option α)
    (inverse : ∀ item, read (write item) = some item) (items : List α) :
    (items.map write).mapM read = some items := by
  apply (mapM_eq_some _ _ _).mpr
  simp [inverse]

private theorem some_of_mapM {α β : Type} {f : α → Option β} {items : List α} {results : List β}
    (mapped : items.mapM f = some results) : ∀ item ∈ items, f item ≠ none := by
  intro item member missing
  have image : f item ∈ items.map f := List.mem_map_of_mem member
  rw [(mapM_eq_some _ _ _).mp mapped,missing] at image
  simp at image

set_option maxRecDepth 2000 in
theorem parseOctet_digits : ∀ octet : Fin 256,
    parseOctet (Nat.toDigits 10 octet.val) = some octet := by
  decide

private theorem number_append (base : Nat) (digits : List Nat) (digit : Nat) :
    number base (digits ++ [digit]) = base * number base digits + digit := by
  simp [number,List.foldl_append]

private theorem hexDigit_digitChar : ∀ digit < 16, hexDigit digit.digitChar = some digit := by
  decide

private theorem hex_digits (value : Nat) :
    ∃ digits, (hex value).mapM hexDigit = some digits ∧ number 16 digits = value := by
  induction value using Nat.strongRecOn with
  | ind value ih =>
    by_cases small : value < 16
    · refine ⟨[value],?_,by simp [number]⟩
      rw [hex,Nat.toDigits_of_lt_base small]
      simp [hexDigit_digitChar value small]
    · obtain ⟨digits,read,same⟩ := ih (value / 16) (by omega)
      refine ⟨digits ++ [value % 16],?_,?_⟩
      · rw [hex,Nat.toDigits_of_base_le (by omega) (by omega),List.mapM_append]
        rw [hex] at read
        simp [read,hexDigit_digitChar (value % 16) (by omega)]
      · rw [number_append,same]
        omega

theorem parseHextet_hex (hextet : Fin 65536) : parseHextet (hex hextet.val) = some hextet := by
  obtain ⟨digits,read,same⟩ := hex_digits hextet.val
  have short : (hex hextet.val).length ≤ 4 := by
    apply (Nat.length_toDigits_le_iff (by omega) (by omega)).mpr
    omega
  rw [parseHextet,if_pos ⟨Nat.toDigits_ne_nil,short⟩,read,Option.map_some,same]
  simp

private theorem notMem_hex {char : Char} (other : hexDigit char = none) (value : Nat) :
    char ∉ hex value := by
  obtain ⟨digits,read,_⟩ := hex_digits value
  exact fun member => some_of_mapM read char member other

private theorem hex_ne_nil (value : Nat) : hex value ≠ [] := Nat.toDigits_ne_nil

private theorem hex_eq_zero (hextet : Fin 65536) (zero : hex hextet.val = ['0']) : hextet = 0 := by
  have read := parseHextet_hex hextet
  rw [zero] at read
  exact (Option.some.inj read).symm

private structure ZeroRuns.Found (runs : ZeroRuns) (seen : List (List Char)) : Prop where
  index : runs.index = seen.length
  current : ∃ before, seen = before ++ List.replicate runs.length ['0']
  best : ∃ before after, seen = before ++ List.replicate runs.bestLength ['0'] ++ after ∧
    before.length = runs.bestStart

private theorem ZeroRuns.Found.next {runs : ZeroRuns} {seen : List (List Char)}
    (found : runs.Found seen) (hextet : List Char) : (runs.next hextet).Found (seen ++ [hextet]) := by
  obtain ⟨index,⟨before,current⟩,⟨first,last,best,start⟩⟩ := found
  have best' : seen ++ [hextet] =
      first ++ List.replicate runs.bestLength ['0'] ++ (last ++ [hextet]) := by
    rw [best]
    simp
  by_cases zero : hextet = ['0']
  · have extended : seen ++ [hextet] = before ++ List.replicate (runs.length + 1) ['0'] := by
      rw [current,zero,List.replicate_succ',List.append_assoc]
    by_cases longer : runs.bestLength < runs.length + 1
    · rw [ZeroRuns.next,if_pos zero]
      simp only [if_pos longer]
      refine ⟨by simp [index],⟨before,extended⟩,⟨before,[],by simpa using extended,?_⟩⟩
      have lengths := congrArg List.length current
      simp only [List.length_append,List.length_replicate] at lengths
      simp only [index]
      omega
    · rw [ZeroRuns.next,if_pos zero]
      simp only [if_neg longer]
      exact ⟨by simp [index],⟨before,extended⟩,⟨first,last ++ [hextet],best',start⟩⟩
  · rw [ZeroRuns.next,if_neg zero]
    exact ⟨by simp [index],⟨seen ++ [hextet],by simp⟩,⟨first,last ++ [hextet],best',start⟩⟩

private theorem ZeroRuns.Found.foldl {runs : ZeroRuns} {seen : List (List Char)}
    (found : runs.Found seen) (hextets : List (List Char)) :
    (hextets.foldl ZeroRuns.next runs).Found (seen ++ hextets) := by
  induction hextets generalizing runs seen with
  | nil => simpa using found
  | cons hextet hextets ih =>
    rw [List.foldl_cons,List.append_cons]
    exact ih (found.next hextet)

private def side (hextets : List (List Char)) : List (List Char) :=
  if hextets = [] then [[]] else hextets

private theorem side_eq (hextets : List (List Char)) :
    side hextets = (if hextets.length = 0 then [[]] else []) ++ hextets := by
  cases hextets <;> simp [side]

private theorem side_eq' (hextets : List (List Char)) :
    side hextets = hextets ++ (if hextets.length = 0 then [[]] else []) := by
  cases hextets <;> simp [side]

private theorem compressHextets_cases (hextets : List (List Char)) :
    compressHextets hextets = hextets ∨
      ∃ before count after, 1 < count ∧
        hextets = before ++ List.replicate count ['0'] ++ after ∧
        compressHextets hextets = side before ++ [[]] ++ side after := by
  have start : (⟨0,0,0,0⟩ : ZeroRuns).Found [] := ⟨rfl,⟨[],rfl⟩,⟨[],[],rfl,rfl⟩⟩
  obtain ⟨before,after,parts,length⟩ := (start.foldl hextets).best
  change hextets = before ++ List.replicate (zeroRuns hextets).bestLength ['0'] ++ after at parts
  change before.length = (zeroRuns hextets).bestStart at length
  simp only [compressHextets]
  generalize zeroRuns hextets = runs at parts length ⊢
  by_cases long : 1 < runs.bestLength
  · right
    refine ⟨before,runs.bestLength,after,long,parts,?_⟩
    have first : hextets.take runs.bestStart = before := by
      rw [parts,← length,List.append_assoc,List.take_left]
    have rest : hextets.drop (runs.bestStart + runs.bestLength) = after := by
      rw [parts]
      apply List.drop_left'
      simp [length]
    have total : runs.bestStart + runs.bestLength = hextets.length ↔ after.length = 0 := by
      have lengths := congrArg List.length parts
      simp only [List.length_append,List.length_replicate] at lengths
      omega
    rw [if_pos long,first,rest,side_eq,side_eq' after,length]
    simp only [total,List.append_assoc]
  · exact .inl (if_neg long)

private def written (groups : List (Fin 65536)) : List (List Char) :=
  groups.map fun group => hex group.val

private theorem ne_nil_of_mem_written {groups : List (Fin 65536)} :
    ∀ part ∈ written groups, part ≠ [] := by
  intro part member
  obtain ⟨group,_,rfl⟩ := List.mem_map.mp member
  exact hex_ne_nil _

private theorem parseSide_side (groups : List (Fin 65536)) :
    parseSide (side (written groups)) = some groups := by
  cases groups with
  | nil => rfl
  | cons group groups =>
    have filled : written (group :: groups) ≠ [[]] := by
      intro empty
      exact ne_nil_of_mem_written [] (empty ▸ List.mem_singleton_self []) rfl
    rw [side,if_neg (by simp [written]),parseSide,if_neg filled]
    exact mapM_map_inverse _ _ parseHextet_hex _

private theorem side_ne_nil (hextets : List (List Char)) : side hextets ≠ [] := by
  cases hextets <;> simp [side]

private theorem side_cons (groups : List (Fin 65536)) :
    ∃ first others, side (written groups) = first :: others ∧ ∀ part ∈ others, part ≠ [] := by
  cases groups with
  | nil => exact ⟨[],[],rfl,by simp⟩
  | cons group groups => exact ⟨_,written groups,rfl,ne_nil_of_mem_written⟩

private theorem parseGroups_sides (high low : List (Fin 65536))
    (fits : high.length + low.length < 8) :
    parseGroups (side (written high) ++ [[]] ++ side (written low)) =
      some (high ++ List.replicate (8 - (high.length + low.length)) 0 ++ low) := by
  obtain ⟨first,others,shape,filled⟩ := side_cons high
  have pass : ∀ part ∈ others, decide (part ≠ []) = true := fun part member =>
    decide_eq_true (filled part member)
  have kept : (others ++ [[]] ++ side (written low)).takeWhile (· ≠ []) = others := by
    rw [List.append_assoc,List.takeWhile_append_of_pos pass]
    simp
  have skipped : (others ++ [[]] ++ side (written low)).dropWhile (· ≠ []) =
      [] :: side (written low) := by
    rw [List.append_assoc,List.dropWhile_append_of_pos pass]
    simp
  have inner : 1 < ([] :: side (written low)).length := by
    have := List.length_pos_iff.mpr (side_ne_nil (written low))
    simp only [List.length_cons]
    omega
  rw [shape,List.append_assoc,List.cons_append,← List.append_assoc,parseGroups]
  simp only [kept,skipped,if_pos inner,List.tail_cons,← shape,parseSide_side]
  exact if_pos fits

private theorem parseGroups_written (groups : List (Fin 65536)) (filled : groups ≠ []) :
    parseGroups (written groups) = some groups := by
  cases groups with
  | nil => exact absurd rfl filled
  | cons group groups =>
    have none_skipped : (written groups).dropWhile (· ≠ []) = [] := by
      apply List.dropWhile_eq_nil_iff.mpr
      intro part member
      exact decide_eq_true (ne_nil_of_mem_written part member)
    change parseGroups (hex group.val :: written groups) = _
    simp only [parseGroups,none_skipped,List.length_nil,Nat.not_lt_zero,if_false]
    exact mapM_map_inverse _ _ parseHextet_hex (group :: groups)

private theorem written_eq_replicate {groups : List (Fin 65536)} {count : Nat}
    (zeros : written groups = List.replicate count ['0']) : groups = List.replicate count 0 := by
  apply List.eq_replicate_iff.mpr
  refine ⟨by simpa [written] using congrArg List.length zeros,fun group member => ?_⟩
  apply hex_eq_zero
  apply List.eq_of_mem_replicate
  rw [← zeros]
  exact List.mem_map_of_mem member

private theorem parseGroups_compress (groups : List (Fin 65536)) (eight : groups.length = 8) :
    parseGroups (compressHextets (written groups)) = some groups := by
  rcases compressHextets_cases (written groups) with same | ⟨before,count,after,long,parts,same⟩
  · rw [same]
    apply parseGroups_written
    intro empty
    simp [empty] at eight
  · obtain ⟨front,low,rfl,frontWritten,rfl⟩ := List.map_eq_append_iff.mp parts
    obtain ⟨high,zeros,rfl,rfl,zerosWritten⟩ := List.map_eq_append_iff.mp frontWritten
    obtain rfl := written_eq_replicate zerosWritten
    simp only [List.length_append,List.length_replicate] at eight
    have fits : high.length + low.length < 8 := by omega
    rw [same]
    refine (parseGroups_sides high low fits).trans ?_
    rw [show 8 - (high.length + low.length) = count by omega]

private theorem mem_intercalate {char separator : Char} {parts : List (List Char)}
    (member : char ∈ [separator].intercalate parts) :
    char = separator ∨ ∃ part ∈ parts, char ∈ part := by
  induction parts with
  | nil => simp at member
  | cons part parts ih =>
    cases parts with
    | nil =>
      rw [List.intercalate_singleton] at member
      exact .inr ⟨part,List.mem_cons_self,member⟩
    | cons next parts =>
      rw [List.intercalate_cons_cons,List.mem_append,List.mem_append,List.mem_singleton] at member
      rcases member with (here | same) | later
      · exact .inr ⟨part,List.mem_cons_self,here⟩
      · exact .inl same
      · rcases ih later with same | ⟨found,among,inside⟩
        · exact .inl same
        · exact .inr ⟨found,List.mem_cons_of_mem _ among,inside⟩

theorem parseIPv4_str (address : IPv4Address) : parseIPv4 address.str = some address := by
  obtain ⟨octets,four⟩ := address
  have split : (IPv4Address.str ⟨octets,four⟩).splitOn '.' =
      octets.map fun octet => Nat.toDigits 10 octet.val := by
    apply List.splitOn_intercalate
    · intro part member dot
      obtain ⟨octet,_,rfl⟩ := List.mem_map.mp member
      exact absurd (Nat.isDigit_of_mem_toDigits (by omega) (by omega) dot) (by decide)
    · intro empty
      obtain rfl : octets = [] := List.map_eq_nil_iff.mp empty
      exact absurd four (by decide)
  rw [parseIPv4,split,mapM_map_inverse _ _ parseOctet_digits]
  exact dif_pos four

private theorem colon_notMem_of_parseIPv4 {text : List Char} {address : IPv4Address}
    (parsed : parseIPv4 text = some address) : ':' ∉ text := by
  intro member
  have joined : ['.'].intercalate (text.splitOn '.') = text := List.intercalate_splitOn '.'
  rw [← joined] at member
  rcases mem_intercalate member with same | ⟨part,among,inside⟩
  · exact absurd same (by decide)
  · cases octets : (text.splitOn '.').mapM parseOctet with
    | none => simp [parseIPv4,octets] at parsed
    | some results =>
      apply some_of_mapM octets part among
      apply if_neg
      intro digits
      exact absurd (List.all_eq_true.mp digits.2.1 ':' inside) (by decide)

private theorem mem_side {hextets : List (List Char)} {part : List Char}
    (member : part ∈ side hextets) : part = [] ∨ part ∈ hextets := by
  cases hextets with
  | nil => exact .inl (List.mem_singleton.mp member)
  | cons hextet hextets => exact .inr (by simpa [side] using member)

private theorem mem_compress {groups : List (Fin 65536)} {part : List Char}
    (member : part ∈ compressHextets (written groups)) : part = [] ∨ part ∈ written groups := by
  rcases compressHextets_cases (written groups) with same | ⟨before,count,after,_,parts,same⟩
  · exact .inr (same ▸ member)
  · rw [same,List.mem_append,List.mem_append,List.mem_singleton] at member
    rw [parts,List.mem_append,List.mem_append]
    rcases member with (first | empty) | last
    · exact (mem_side first).imp_right (.inl ∘ .inl)
    · exact .inl empty
    · exact (mem_side last).imp_right .inr

private theorem notMem_compress {char : Char} (other : hexDigit char = none)
    (groups : List (Fin 65536)) : ∀ part ∈ compressHextets (written groups), char ∉ part := by
  intro part member
  rcases mem_compress member with rfl | member
  · exact List.not_mem_nil
  · obtain ⟨group,_,rfl⟩ := List.mem_map.mp member
    exact notMem_hex other _

private theorem two_parts (groups : List (Fin 65536)) (eight : groups.length = 8) :
    1 < (compressHextets (written groups)).length := by
  rcases compressHextets_cases (written groups) with same | ⟨before,count,after,_,_,same⟩
  · rw [same,written,List.length_map]
    omega
  · have first := List.length_pos_iff.mpr (side_ne_nil before)
    rw [same,List.length_append,List.length_append,List.length_singleton]
    omega

private def body (groups : List (Fin 65536)) : List Char :=
  [':'].intercalate (compressHextets (written groups))

private theorem splitOn_body (groups : List (Fin 65536)) (eight : groups.length = 8) :
    (body groups).splitOn ':' = compressHextets (written groups) := by
  apply List.splitOn_intercalate
  · exact notMem_compress rfl groups
  · intro empty
    have parts := two_parts groups eight
    simp [empty] at parts

private theorem colon_mem_body (groups : List (Fin 65536)) (eight : groups.length = 8) :
    ':' ∈ body groups := by
  by_contra missing
  have parts := two_parts groups eight
  rw [← splitOn_body groups eight,List.splitOn_eq_singleton missing] at parts
  simp at parts

private theorem percent_notMem_body (groups : List (Fin 65536)) : '%' ∉ body groups := by
  intro member
  rcases mem_intercalate member with same | ⟨part,among,inside⟩
  · exact absurd same (by decide)
  · exact notMem_compress rfl groups part among inside

private theorem expandDotted_compress (groups : List (Fin 65536)) :
    expandDotted (compressHextets (written groups)) = some (compressHextets (written groups)) := by
  apply if_neg
  intro dot
  rw [List.getLastD_eq_getLast?] at dot
  cases last : (compressHextets (written groups)).getLast? with
  | none => simp [last] at dot
  | some part =>
    rw [last,Option.getD_some] at dot
    exact notMem_compress rfl groups part (List.mem_of_getLast? last) dot

/-- What `str` appends for a scope. -/
private def scopeText : Option Scope → List Char
  | none => []
  | some scope => '%' :: scope.id

private theorem parseScope_text (scope : Option Scope) : parseScope (scopeText scope) = some scope := by
  cases scope with
  | none => rfl
  | some scope => exact dif_pos scope.wellFormed

private theorem cut_body (groups : List (Fin 65536)) (scope : Option Scope) :
    (body groups ++ scopeText scope).takeWhile (· ≠ '%') = body groups ∧
      (body groups ++ scopeText scope).dropWhile (· ≠ '%') = scopeText scope := by
  have pass : ∀ char ∈ body groups, decide (char ≠ '%') = true := by
    intro char member
    apply decide_eq_true
    rintro rfl
    exact percent_notMem_body groups member
  rw [List.takeWhile_append_of_pos pass,List.dropWhile_append_of_pos pass]
  cases scope <;> simp [scopeText]

theorem parseIPv6_str (address : IPv6Address) : parseIPv6 address.str = some address := by
  obtain ⟨groups,eight,scope⟩ := address
  have text : IPv6Address.str ⟨groups,eight,scope⟩ = body groups ++ scopeText scope := by
    cases scope <;> rfl
  rw [text,parseIPv6,(cut_body groups scope).1,(cut_body groups scope).2,parseScope_text,
    splitOn_body groups eight]
  simp only [Option.bind_eq_bind,Option.bind_some,expandDotted_compress,
    parseGroups_compress groups eight,dif_pos eight]

theorem ipAddress_str (address : IPAddress) : ipAddress address.str = some address := by
  cases address with
  | v4 address => rw [ipAddress,IPAddress.str,parseIPv4_str]
  | v6 address =>
    have colon : ':' ∈ address.str := List.mem_append_left _ (colon_mem_body _ address.length_eq)
    cases read : parseIPv4 address.str with
    | some other => exact absurd colon (colon_notMem_of_parseIPv4 read)
    | none => simp only [ipAddress,IPAddress.str,read,parseIPv6_str,Option.map_some]

theorem dropScope_of_ipAddress {text : List Char} {address : IPAddress} (unscoped : '%' ∉ text)
    (read : ipAddress text = some address) : address.dropScope = address := by
  cases address with
  | v4 address => rfl
  | v6 address =>
    have parsed : parseIPv6 text = some address := by
      cases found : parseIPv4 text with
      | some other => simp [ipAddress,found] at read
      | none => simpa [ipAddress,found] using read
    have rest : text.dropWhile (· ≠ '%') = [] := by
      apply List.dropWhile_eq_nil_iff.mpr
      intro char member
      apply decide_eq_true
      rintro rfl
      exact unscoped member
    rw [parseIPv6,rest] at parsed
    simp only [parseScope,Option.bind_eq_bind,Option.bind_some,Option.bind_eq_some_iff] at parsed
    obtain ⟨parts,_,groups,_,built⟩ := parsed
    split at built
    next eight =>
      obtain rfl := Option.some.inj built
      rfl
    next => contradiction

end AtronixX.Library.Address
