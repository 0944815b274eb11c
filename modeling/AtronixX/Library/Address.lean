import Mathlib.Data.List.Basic
import Mathlib.Data.Nat.Digits.Defs

/-! Internet addresses as the `ipaddress` module reads, writes and classifies them.
An address is kept as its octets or groups, which are the digits of the integer that
Python keeps. -/
namespace AtronixX.Library.Address

structure IPv4Address where
  octets : List (Fin 256)
  length_eq : octets.length = 4
  deriving DecidableEq

structure Scope where
  id : List Char
  wellFormed : id ≠ [] ∧ '%' ∉ id ∧ '/' ∉ id
  deriving DecidableEq

structure IPv6Address where
  groups : List (Fin 65536)
  length_eq : groups.length = 8
  scope : Option Scope
  deriving DecidableEq

inductive IPAddress
  | v4 (address : IPv4Address)
  | v6 (address : IPv6Address)
  deriving DecidableEq

def number (base : Nat) (digits : List Nat) : Nat := digits.foldl (base * · + ·) 0

def IPv4Address.number (address : IPv4Address) : Nat :=
  Address.number 256 (address.octets.map Fin.val)

def IPv4Address.ofNumber (number : Nat) : IPv4Address where
  octets := [24,16,8,0].map fun shift => Fin.ofNat 256 (number / 2 ^ shift)
  length_eq := rfl

def IPv6Address.number (address : IPv6Address) : Nat :=
  Address.number 65536 (address.groups.map Fin.val)

def parseOctet (text : List Char) : Option (Fin 256) :=
  if text ≠ [] ∧ text.all Char.isDigit ∧ text.length ≤ 3 ∧ (text = ['0'] ∨ text.head? ≠ some '0') then
    let octet := Nat.ofDigitChars 10 text 0
    if bound : octet < 256 then some ⟨octet,bound⟩ else none
  else none

def parseIPv4 (text : List Char) : Option IPv4Address := do
  let octets ← (text.splitOn '.').mapM parseOctet
  if four : octets.length = 4 then some ⟨octets,four⟩ else none

def hexDigit (char : Char) : Option Nat :=
  if '0' ≤ char ∧ char ≤ '9' then some (char.toNat - '0'.toNat)
  else if 'a' ≤ char ∧ char ≤ 'f' then some (char.toNat - 'a'.toNat + 10)
  else if 'A' ≤ char ∧ char ≤ 'F' then some (char.toNat - 'A'.toNat + 10)
  else none

/-- `_parse_hextet`, with the `int` of an empty text that fails. -/
def parseHextet (text : List Char) : Option (Fin 65536) :=
  if text ≠ [] ∧ text.length ≤ 4 then
    (text.mapM hexDigit).map fun digits => Fin.ofNat 65536 (number 16 digits)
  else none

def hex (number : Nat) : List Char := Nat.toDigits 16 number

/-- The last part may be an IPv4 address, which stands for two groups. -/
def expandDotted (parts : List (List Char)) : Option (List (List Char)) :=
  let last := parts.getLastD []
  if '.' ∈ last then
    (parseIPv4 last).map fun address =>
      parts.dropLast ++ [hex (address.number / 65536),hex (address.number % 65536)]
  else some parts

/-- The groups on one side of `::`. There a text that starts or ends with `::` has one
empty part; any other empty part is no hextet. -/
def parseSide (parts : List (List Char)) : Option (List (Fin 65536)) :=
  if parts = [[]] then some [] else parts.mapM parseHextet

def parseGroups : List (List Char) → Option (List (Fin 65536))
  | [] => none
  | first :: rest =>
    let skipped := rest.dropWhile (· ≠ [])
    -- An empty part that is neither the first nor the last is where `::` stands.
    if 1 < skipped.length then do
      let high ← parseSide (first :: rest.takeWhile (· ≠ []))
      let low ← parseSide skipped.tail
      let kept := high.length + low.length
      if kept < 8 then some (high ++ List.replicate (8 - kept) 0 ++ low) else none
    else (first :: rest).mapM parseHextet

/-- `_split_scope_id`, of the text from the `%` on. -/
def parseScope : List Char → Option (Option Scope)
  | [] => some none
  | _ :: id => if wellFormed : id ≠ [] ∧ '%' ∉ id ∧ '/' ∉ id then some (some ⟨id,wellFormed⟩) else none

def parseIPv6 (text : List Char) : Option IPv6Address := do
  let scope ← parseScope (text.dropWhile (· ≠ '%'))
  let parts ← expandDotted ((text.takeWhile (· ≠ '%')).splitOn ':')
  let groups ← parseGroups parts
  if eight : groups.length = 8 then some ⟨groups,eight,scope⟩ else none

/-- `ipaddress.ip_address` of a text; `none` is its `ValueError`. -/
def ipAddress (text : List Char) : Option IPAddress :=
  match parseIPv4 text with
  | some address => some (.v4 address)
  | none => (parseIPv6 text).map .v6

/-- The state of the loop in `_compress_hextets`: the run of zeros that ends before
`index`, and the first of the longest runs so far. -/
structure ZeroRuns where
  index : Nat
  length : Nat
  bestStart : Nat
  bestLength : Nat

def ZeroRuns.next (runs : ZeroRuns) (hextet : List Char) : ZeroRuns :=
  if hextet = ['0'] then
    let length := runs.length + 1
    if runs.bestLength < length then ⟨runs.index + 1,length,runs.index + 1 - length,length⟩
    else {runs with index := runs.index + 1, length := length}
  else {runs with index := runs.index + 1, length := 0}

def zeroRuns (hextets : List (List Char)) : ZeroRuns := hextets.foldl ZeroRuns.next ⟨0,0,0,0⟩

def compressHextets (hextets : List (List Char)) : List (List Char) :=
  let runs := zeroRuns hextets
  let stop := runs.bestStart + runs.bestLength
  if 1 < runs.bestLength then
    (if runs.bestStart = 0 then [[]] else []) ++ hextets.take runs.bestStart ++ [[]] ++
      hextets.drop stop ++ (if stop = hextets.length then [[]] else [])
  else hextets

def IPv4Address.str (address : IPv4Address) : List Char :=
  ['.'].intercalate (address.octets.map fun octet => Nat.toDigits 10 octet.val)

def IPv6Address.str (address : IPv6Address) : List Char :=
  [':'].intercalate (compressHextets (address.groups.map fun group => hex group.val)) ++
    match address.scope with
    | none => []
    | some scope => '%' :: scope.id

def IPAddress.str : IPAddress → List Char
  | .v4 address => address.str
  | .v6 address => address.str

def IPAddress.version : IPAddress → Nat
  | .v4 _ => 4
  | .v6 _ => 6

structure Block where
  network : Nat
  prefixLength : Nat

def Block.Contains (width : Nat) (block : Block) (number : Nat) : Prop :=
  number / 2 ^ (width - block.prefixLength) = block.network / 2 ^ (width - block.prefixLength)

instance (width : Nat) (block : Block) (number : Nat) : Decidable (block.Contains width number) :=
  inferInstanceAs (Decidable (_ = _))

/-- The tables of `_IPv4Constants` and `_IPv6Constants`. They follow the registries of
special addresses and grow from release to release. -/
structure Registry where
  publicNetwork : Block
  private4 : List Block
  exceptions4 : List Block
  private6 : List Block
  exceptions6 : List Block

variable (registry : Registry)

def IPv4Address.IsPrivate (address : IPv4Address) : Prop :=
  (∃ block ∈ registry.private4, block.Contains 32 address.number) ∧
    ∀ block ∈ registry.exceptions4, ¬block.Contains 32 address.number

def IPv4Address.IsGlobal (address : IPv4Address) : Prop :=
  ¬registry.publicNetwork.Contains 32 address.number ∧ ¬address.IsPrivate registry

def IPv6Address.ipv4Mapped (address : IPv6Address) : Option IPv4Address :=
  if address.number / 2 ^ 32 = 0xFFFF then some (.ofNumber (address.number % 2 ^ 32)) else none

def IPv6Address.IsPrivate (address : IPv6Address) : Prop :=
  match address.ipv4Mapped with
  | some mapped => mapped.IsPrivate registry
  | none => (∃ block ∈ registry.private6, block.Contains 128 address.number) ∧
      ∀ block ∈ registry.exceptions6, ¬block.Contains 128 address.number

def IPAddress.IsGlobal : IPAddress → Prop
  | .v4 address => address.IsGlobal registry
  | .v6 address => ¬address.IsPrivate registry

instance : DecidablePred (IPv4Address.IsPrivate registry) :=
  fun _ => inferInstanceAs (Decidable (_ ∧ _))

instance : DecidablePred (IPv4Address.IsGlobal registry) :=
  fun _ => inferInstanceAs (Decidable (_ ∧ _))

instance : DecidablePred (IPv6Address.IsPrivate registry) := fun address =>
  match mapped : address.ipv4Mapped with
  | some _ => decidable_of_iff _ (by rw [IPv6Address.IsPrivate,mapped])
  | none => decidable_of_iff ((∃ block ∈ registry.private6, block.Contains 128 address.number) ∧
      ∀ block ∈ registry.exceptions6, ¬block.Contains 128 address.number)
      (by rw [IPv6Address.IsPrivate,mapped])

instance : DecidablePred (IPAddress.IsGlobal registry)
  | .v4 address => inferInstanceAs (Decidable (address.IsGlobal registry))
  | .v6 address => inferInstanceAs (Decidable (¬address.IsPrivate registry))

/-- An IPv4-mapped address as the IPv4 address that it maps. -/
def IPAddress.unmapped : IPAddress → IPAddress
  | .v4 address => .v4 address
  | .v6 address => match address.ipv4Mapped with
    | some mapped => .v4 mapped
    | none => .v6 address

def IPAddress.dropScope : IPAddress → IPAddress
  | .v4 address => .v4 address
  | .v6 address => .v6 {address with scope := none}

/-- The address that is meant, in whatever form it is given. -/
def IPAddress.value (address : IPAddress) : IPAddress := address.unmapped.dropScope

theorem IPAddress.unmapped_unmapped (address : IPAddress) :
    address.unmapped.unmapped = address.unmapped := by
  cases address with
  | v4 address => rfl
  | v6 address =>
    cases mapped : address.ipv4Mapped with
    | none => simp only [unmapped,mapped]
    | some address => simp only [unmapped,mapped]

theorem IPAddress.value_unmapped (address : IPAddress) : address.unmapped.value = address.value := by
  rw [value,unmapped_unmapped,value]

theorem IPAddress.value_of_unscoped {address : IPAddress} (unscoped : address.dropScope = address) :
    address.value = address.unmapped := by
  cases address with
  | v4 address => rfl
  | v6 address =>
    cases mapped : address.ipv4Mapped with
    | some address => simp only [value,unmapped,mapped,dropScope]
    | none => simpa only [value,unmapped,mapped] using unscoped

theorem IPAddress.isGlobal_dropScope (address : IPAddress) :
    address.dropScope.IsGlobal registry ↔ address.IsGlobal registry := by
  cases address <;> rfl

end AtronixX.Library.Address
