import Mathlib.Data.List.Basic

/-! Regular expressions over bytes, as a backtracking matcher reads them: a pattern gives
the ways to match it in the order of preference, and the first of them counts. -/
namespace AtronixX.Library.Regex

inductive Pattern
  | empty
  | one (accepts : UInt8 → Bool)
  | seq (first second : Pattern)
  | alt (first second : Pattern)
  | optional (inner : Pattern)
  | group (number : Nat) (inner : Pattern)
  | dollar

structure Cursor where
  rest : List UInt8
  groups : List (Nat × List UInt8)
  deriving DecidableEq, Repr

def Cursor.close (number : Nat) (before after : Cursor) : Cursor :=
  {after with groups :=
    (number,before.rest.take (before.rest.length - after.rest.length)) :: after.groups}

/-- `$` also matches before a newline that ends the input. -/
def Pattern.run : Pattern → Cursor → List Cursor
  | .empty,cursor => [cursor]
  | .one accepts,cursor => match cursor.rest with
    | [] => []
    | byte :: rest => if accepts byte then [{cursor with rest := rest}] else []
  | .seq first second,cursor => (first.run cursor).flatMap second.run
  | .alt first second,cursor => first.run cursor ++ second.run cursor
  | .optional inner,cursor => inner.run cursor ++ [cursor]
  | .group number inner,cursor => (inner.run cursor).map (cursor.close number)
  | .dollar,cursor => if cursor.rest = [] ∨ cursor.rest = [10] then [cursor] else []

def literal (bytes : List UInt8) : Pattern :=
  bytes.foldr (fun byte pattern => .seq (.one (· == byte)) pattern) .empty

/-- `p{0,n}`. -/
def upTo (pattern : Pattern) : Nat → Pattern
  | 0 => .empty
  | count + 1 => .optional (.seq pattern (upTo pattern count))

/-- `\d` in a pattern of bytes. -/
def digit : Pattern := .one (fun byte => 48 ≤ byte && byte ≤ 57)

structure Match where
  start : Nat
  stop : Nat
  groups : List (Nat × List UInt8)
  deriving DecidableEq, Repr

def Match.group (number : Nat) (found : Match) : Option (List UInt8) :=
  (found.groups.find? (fun group => group.1 == number)).map Prod.snd

def Cursor.found (start : Nat) (rest : List UInt8) (cursor : Cursor) : Match :=
  ⟨start,start + (rest.length - cursor.rest.length),cursor.groups⟩

def matchAt (pattern : Pattern) (start : Nat) (rest : List UInt8) : Option Match :=
  (pattern.run ⟨rest,[]⟩).head?.map (Cursor.found start rest)

def searchFrom (pattern : Pattern) : Nat → List UInt8 → Option Match
  | start,[] => matchAt pattern start []
  | start,byte :: rest => match matchAt pattern start (byte :: rest) with
    | some found => some found
    | none => searchFrom pattern (start + 1) rest

def search (pattern : Pattern) (data : List UInt8) : Option Match := searchFrom pattern 0 data

/-- The matches of `finditer` that start here: after an empty match one that is not empty
may start at the same place. -/
def matchesAt (pattern : Pattern) (start : Nat) (rest : List UInt8) : List Match :=
  match matchAt pattern start rest with
  | none => []
  | some found =>
    if found.start < found.stop then [found]
    else found :: (((pattern.run ⟨rest,[]⟩).map (Cursor.found start rest)).find?
      (fun other => other.start < other.stop)).toList

def finditerFrom (pattern : Pattern) : Nat → Nat → List UInt8 → List Match
  | start,0,[] => matchesAt pattern start []
  | _,_ + 1,[] => []
  | start,skip + 1,_ :: rest => finditerFrom pattern (start + 1) skip rest
  | start,0,byte :: rest =>
    let found := matchesAt pattern start (byte :: rest)
    found ++ finditerFrom pattern (start + 1)
      ((found.getLast?.map (fun last => last.stop - last.start)).getD 0 - 1) rest

def finditer (pattern : Pattern) (data : List UInt8) : List Match := finditerFrom pattern 0 0 data

/-- Some way to match ends where `goal` holds. -/
def Pattern.Leads (pattern : Pattern) (goal : Cursor → Prop) (cursor : Cursor) : Prop :=
  ∃ after ∈ pattern.run cursor, goal after

variable {goal : Cursor → Prop} {cursor : Cursor}

section
variable (first second inner : Pattern) (number : Nat) (start : Cursor)

theorem run_empty : Pattern.empty.run start = [start] := rfl

theorem run_one (accepts : UInt8 → Bool) : (Pattern.one accepts).run start = match start.rest with
    | [] => []
    | byte :: rest => if accepts byte then [{start with rest := rest}] else [] := rfl

theorem run_seq : (Pattern.seq first second).run start = (first.run start).flatMap second.run := rfl

theorem run_alt : (Pattern.alt first second).run start = first.run start ++ second.run start := rfl

theorem run_optional : (Pattern.optional inner).run start = inner.run start ++ [start] := rfl

theorem run_group : (Pattern.group number inner).run start =
    (inner.run start).map (start.close number) := rfl

theorem run_dollar : Pattern.dollar.run start =
    if start.rest = [] ∨ start.rest = [10] then [start] else [] := rfl

end

@[simp] theorem leads_empty : Pattern.empty.Leads goal cursor ↔ goal cursor := by
  simp [Pattern.Leads,run_empty]

theorem leads_one {accepts : UInt8 → Bool} : (Pattern.one accepts).Leads goal cursor ↔
    ∃ byte rest, cursor.rest = byte :: rest ∧ accepts byte = true ∧
      goal {cursor with rest := rest} := by
  unfold Pattern.Leads
  rw [run_one]
  cases cursor.rest with
  | nil => simp
  | cons byte rest => by_cases fits : accepts byte <;> simp [fits]

theorem leads_digit : digit.Leads goal cursor ↔
    ∃ byte rest, cursor.rest = byte :: rest ∧ (48 ≤ byte ∧ byte ≤ 57) ∧
      goal {cursor with rest := rest} := by
  simp [digit,leads_one]

@[simp] theorem leads_seq {first second : Pattern} :
    (Pattern.seq first second).Leads goal cursor ↔
      first.Leads (second.Leads goal) cursor := by
  simp only [Pattern.Leads,run_seq,List.mem_flatMap]
  constructor
  · rintro ⟨after,⟨middle,one,two⟩,is⟩
    exact ⟨middle,one,after,two,is⟩
  · rintro ⟨middle,one,after,two,is⟩
    exact ⟨after,⟨middle,one,two⟩,is⟩

@[simp] theorem leads_alt {first second : Pattern} :
    (Pattern.alt first second).Leads goal cursor ↔
      first.Leads goal cursor ∨ second.Leads goal cursor := by
  simp [Pattern.Leads,run_alt,or_and_right,exists_or]

@[simp] theorem leads_optional {inner : Pattern} :
    (Pattern.optional inner).Leads goal cursor ↔ inner.Leads goal cursor ∨ goal cursor := by
  simp [Pattern.Leads,run_optional,or_and_right,exists_or]

@[simp] theorem leads_group {number : Nat} {inner : Pattern} :
    (Pattern.group number inner).Leads goal cursor ↔
      inner.Leads (fun after => goal (cursor.close number after)) cursor := by
  simp [Pattern.Leads,run_group]

@[simp] theorem leads_dollar : Pattern.dollar.Leads goal cursor ↔
    (cursor.rest = [] ∨ cursor.rest = [10]) ∧ goal cursor := by
  unfold Pattern.Leads
  rw [run_dollar]
  by_cases ends : cursor.rest = [] ∨ cursor.rest = [10] <;> simp [ends]

theorem leads_literal (bytes : List UInt8) : (literal bytes).Leads goal cursor ↔
    ∃ rest, cursor.rest = bytes ++ rest ∧ goal {cursor with rest := rest} := by
  induction bytes generalizing cursor with
  | nil => simp [literal]
  | cons byte bytes ih =>
    rw [show literal (byte :: bytes) = .seq (.one (· == byte)) (literal bytes) from rfl,leads_seq,
      leads_one]
    constructor
    · rintro ⟨first,rest,is,same,leads⟩
      obtain ⟨after,rest_eq,holds⟩ := ih.mp leads
      refine ⟨after,?_,holds⟩
      rw [is,beq_iff_eq.mp same,show rest = bytes ++ after from rest_eq]
      rfl
    · rintro ⟨rest,is,holds⟩
      exact ⟨byte,bytes ++ rest,is,by simp,ih.mpr ⟨rest,rfl,holds⟩⟩

theorem matchAt_isSome {pattern : Pattern} {start : Nat} {rest : List UInt8} :
    (matchAt pattern start rest).isSome = true ↔ pattern.Leads (fun _ => True) ⟨rest,[]⟩ := by
  unfold matchAt Pattern.Leads
  cases pattern.run ⟨rest,[]⟩ <;> simp

theorem matchAt_leads {pattern : Pattern} {start : Nat} {rest : List UInt8} {found : Match}
    (at_ : matchAt pattern start rest = some found) :
    pattern.Leads (fun cursor => found = cursor.found start rest) ⟨rest,[]⟩ := by
  unfold matchAt at at_
  unfold Pattern.Leads
  cases run : pattern.run ⟨rest,[]⟩ with
  | nil => simp [run] at at_
  | cons cursor others =>
    refine ⟨cursor,List.mem_cons_self,?_⟩
    simpa [run] using at_.symm

end AtronixX.Library.Regex
