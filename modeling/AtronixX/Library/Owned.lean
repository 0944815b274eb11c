import AtronixX.Library.Tables

/-! Tables whose rows name an owner: the statements with `WHERE id=? AND owner=?`, what
they find and change for their owner, and that they touch nobody else. -/
namespace AtronixX.Library.Owned
open Tables

variable {κ ν ο : Type} [DecidableEq ο] (owner : ν → ο)

section
variable [DecidableEq κ]

def select (who : ο) (key : κ) (table : Table κ ν) : Option ν :=
  (table.lookup key).filter (fun row => owner row == who)

def modify (who : ο) (key : κ) (change : ν → ν) (table : Table κ ν) : Table κ ν :=
  updateWhere (fun other row => other == key && owner row == who) change table

def remove (who : ο) (key : κ) (table : Table κ ν) : Table κ ν :=
  deleteWhere (fun other row => other == key && owner row == who) table

end

def rows (who : ο) (table : Table κ ν) : List (Row κ ν) :=
  table.entries.filter (fun row => owner row.2 == who)

def removeAll (who : ο) (table : Table κ ν) : Table κ ν :=
  deleteWhere (fun _ row => owner row == who) table

theorem rows_nodupKeys (who : ο) (table : Table κ ν) : (rows owner who table).NodupKeys :=
  table.nodupKeys.sublist List.filter_sublist

theorem rows_deleteWhere {condition : κ → ν → Bool} (table : Table κ ν) (who : ο)
    (others : ∀ key row, condition key row = true → owner row ≠ who) :
    rows owner who (deleteWhere condition table) = rows owner who table := by
  unfold rows deleteWhere
  dsimp only
  rw [List.filter_filter]
  apply List.filter_congr
  intro row _
  by_cases owned : owner row.2 = who
  · have unmet : condition row.1 row.2 = false := by
      apply Bool.eq_false_iff.mpr
      intro met
      exact others _ _ met owned
    simp [owned,unmet]
  · simp [owned]

theorem rows_removeAll_other {who who' : ο} (table : Table κ ν) (differs : who' ≠ who) :
    rows owner who' (removeAll owner who table) = rows owner who' table := by
  apply rows_deleteWhere
  intro key' row met
  have owned : owner row = who := by simpa using met
  rw [owned]
  exact Ne.symm differs

variable [DecidableEq κ]

theorem select_eq_some_iff {who : ο} {key : κ} {table : Table κ ν} {row : ν} :
    select owner who key table = some row ↔ table.lookup key = some row ∧ owner row = who := by
  simp [select,Option.filter_eq_some_iff]

theorem mem_rows_iff {who : ο} {table : Table κ ν} {row : Row κ ν} :
    row ∈ rows owner who table ↔ select owner who row.1 table = some row.2 := by
  rw [select_eq_some_iff]
  unfold rows
  rw [List.mem_filter]
  have member : row ∈ table.entries ↔ table.lookup row.1 = some row.2 :=
    AList.mem_lookup_iff.symm
  rw [member]
  simp

theorem select_modify {who : ο} {key : κ} {change : ν → ν} (table : Table κ ν)
    (keeps : ∀ row, owner (change row) = owner row) (who' : ο) (key' : κ) :
    select owner who' key' (modify owner who key change table) =
      if who' = who ∧ key' = key then (select owner who key table).map change
      else select owner who' key' table := by
  unfold select modify
  rw [lookup_updateWhere]
  cases found : table.lookup key' with
  | none =>
    split
    next same => rw [← same.2,found]; rfl
    next => rfl
  | some row =>
    by_cases here : key' = key
    · subst here
      rw [found]
      by_cases owned : owner row = who
      · by_cases same : who' = who
        · subst same
          simp [owned,keeps,Option.filter]
        · simp [owned,keeps,same,Ne.symm same,Option.filter]
      · by_cases same : who' = who
        · subst same
          simp [owned,Option.filter]
        · simp [owned,same,Option.filter]
    · simp [here]

theorem select_remove {who : ο} {key : κ} (table : Table κ ν) (who' : ο) (key' : κ) :
    select owner who' key' (remove owner who key table) =
      if who' = who ∧ key' = key then none else select owner who' key' table := by
  unfold select remove
  rw [lookup_deleteWhere]
  cases found : table.lookup key' with
  | none =>
    split
    next => rfl
    next => rfl
  | some row =>
    by_cases here : key' = key
    · by_cases owned : owner row = who
      · by_cases same : who' = who
        · simp [here,owned,same,Option.filter]
        · simp [here,owned,same,Ne.symm same,Option.filter]
      · by_cases same : who' = who
        · simp [here,owned,same,Option.filter]
        · simp [here,owned,same,Option.filter]
    · simp [here,Option.filter]

theorem select_removeAll {who : ο} (table : Table κ ν) (who' : ο) (key' : κ) :
    select owner who' key' (removeAll owner who table) =
      if who' = who then none else select owner who' key' table := by
  unfold select removeAll
  rw [lookup_deleteWhere]
  cases found : table.lookup key' with
  | none =>
    split
    next => rfl
    next => rfl
  | some row =>
    by_cases owned : owner row = who
    · by_cases same : who' = who
      · simp [owned,same,Option.filter]
      · simp [owned,same,Ne.symm same,Option.filter]
    · by_cases same : who' = who
      · simp [owned,same,Option.filter]
      · simp [owned,same,Option.filter]

theorem select_insert {key : κ} {row : ν} (table : Table κ ν) (fresh : table.lookup key = none)
    (who' : ο) (key' : κ) : select owner who' key' (table.insert key row) =
      if who' = owner row ∧ key' = key then some row else select owner who' key' table := by
  unfold select
  by_cases here : key' = key
  · subst here
    rw [AList.lookup_insert,fresh]
    by_cases same : who' = owner row
    · simp [same,Option.filter]
    · simp [same,Ne.symm same,Option.filter]
  · rw [AList.lookup_insert_ne here]
    simp [here]

theorem rows_updateWhere {condition : κ → ν → Bool} {change : ν → ν} (table : Table κ ν) (who : ο)
    (others : ∀ key row, table.lookup key = some row → condition key row = true →
      owner row ≠ who ∧ owner (change row) ≠ who) :
    rows owner who (updateWhere condition change table) = rows owner who table := by
  have member (row : Row κ ν) (inside : row ∈ table.entries) :
      table.lookup row.1 = some row.2 := AList.mem_lookup_iff.mpr inside
  unfold rows updateWhere
  dsimp only
  generalize table.entries = entries at member
  induction entries with
  | nil => rfl
  | cons row entries ih =>
    have tail := ih fun row inside => member row (List.mem_cons_of_mem _ inside)
    rw [List.map_cons,List.filter_cons,List.filter_cons,tail]
    cases met : condition row.1 row.2 with
    | false => simp [rewrite,met]
    | true =>
      obtain ⟨before,after⟩ := others row.1 row.2 (member row List.mem_cons_self) met
      simp [rewrite,met,before,after]

theorem rows_modify_other {who who' : ο} {key : κ} {change : ν → ν} (table : Table κ ν)
    (keeps : ∀ row, owner (change row) = owner row) (differs : who' ≠ who) :
    rows owner who' (modify owner who key change table) = rows owner who' table := by
  apply rows_updateWhere
  intro key' row _ met
  have owned : owner row = who := by
    rw [Bool.and_eq_true] at met
    simpa using met.2
  rw [keeps,owned]
  exact ⟨Ne.symm differs,Ne.symm differs⟩

theorem rows_remove_other {who who' : ο} {key : κ} (table : Table κ ν) (differs : who' ≠ who) :
    rows owner who' (remove owner who key table) = rows owner who' table := by
  apply rows_deleteWhere
  intro key' row met
  have owned : owner row = who := by
    rw [Bool.and_eq_true] at met
    simpa using met.2
  rw [owned]
  exact Ne.symm differs

theorem rows_insert {key : κ} {row : ν} (table : Table κ ν) (fresh : table.lookup key = none)
    (who : ο) : rows owner who (table.insert key row) =
      if owner row = who then ⟨key,row⟩ :: rows owner who table else rows owner who table := by
  unfold rows
  have entries : (table.insert key row).entries = ⟨key,row⟩ :: table.entries := by
    rw [AList.entries_insert_of_notMem]
    exact AList.lookup_eq_none.mp fresh
  rw [entries,List.filter_cons]
  simp

end AtronixX.Library.Owned
