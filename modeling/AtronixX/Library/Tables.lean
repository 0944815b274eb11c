import Mathlib.Data.List.AList
import Mathlib.Algebra.BigOperators.Group.List.Basic
import Mathlib.Algebra.GroupWithZero.Nat

/-! Tables with a primary key, over Mathlib's association lists: the statements
that change, remove or count the rows satisfying a condition. -/
namespace AtronixX.Library.Tables

/-- Rows by primary key; a key occurs at most once. -/
abbrev Table (κ ν : Type) := AList (fun _ : κ => ν)

abbrev Row (κ ν : Type) := Sigma (fun _ : κ => ν)

variable {κ ν : Type}

def rewrite (change : κ → ν → ν) (row : Row κ ν) : Row κ ν := ⟨row.1,change row.1 row.2⟩

private theorem keys_rewrite (change : κ → ν → ν) (rows : List (Row κ ν)) :
    (rows.map (rewrite change)).keys = rows.keys := by
  simp [List.keys,Function.comp_def,rewrite]

/-- `UPDATE … SET … WHERE`: rewrites the rows that satisfy the condition. -/
def updateWhere (condition : κ → ν → Bool) (change : ν → ν) (table : Table κ ν) : Table κ ν :=
  ⟨table.entries.map (rewrite fun key row => if condition key row then change row else row),by
    have distinct := table.nodupKeys
    rwa [List.NodupKeys,keys_rewrite]⟩

/-- `DELETE … WHERE`: removes the rows that satisfy the condition. -/
def deleteWhere (condition : κ → ν → Bool) (table : Table κ ν) : Table κ ν :=
  ⟨table.entries.filter (fun row => !condition row.1 row.2),
    table.nodupKeys.sublist List.filter_sublist⟩

/-- `SELECT COUNT(*) … WHERE`. -/
def countWhere (condition : κ → ν → Bool) (table : Table κ ν) : Nat :=
  table.entries.countP (fun row => condition row.1 row.2)

/-- `SELECT 1 … WHERE` finds a row. -/
def someWhere (condition : κ → ν → Bool) (table : Table κ ν) : Bool :=
  table.entries.any (fun row => condition row.1 row.2)

/-- `SELECT SUM(…)` of a whole table. -/
def total (weight : κ → ν → Nat) (table : Table κ ν) : Nat :=
  (table.entries.map fun row => weight row.1 row.2).sum

/-- `len()` of a dictionary, `SELECT COUNT(*)` of a whole table. -/
def size (table : Table κ ν) : Nat := table.entries.length

theorem countWhere_deleteWhere_le (condition check : κ → ν → Bool) (table : Table κ ν) :
    countWhere check (deleteWhere condition table) ≤ countWhere check table :=
  List.filter_sublist.countP_le

variable [DecidableEq κ]

private theorem dlookup_rewrite (change : κ → ν → ν) (rows : List (Row κ ν)) (key : κ) :
    (rows.map (rewrite change)).dlookup key = (rows.dlookup key).map (change key) := by
  induction rows with
  | nil => rfl
  | cons row rows ih =>
    obtain ⟨id,value⟩ := row
    by_cases same : key = id
    · subst same
      simp [rewrite]
    · have skip (rest : List (Row κ ν)) (other : ν) :=
        List.dlookup_cons_ne rest (Sigma.mk id other) same
      simp only [List.map_cons,rewrite,skip]
      exact ih

@[simp] theorem lookup_updateWhere (condition : κ → ν → Bool) (change : ν → ν)
    (table : Table κ ν) (key : κ) :
    (updateWhere condition change table).lookup key =
      (table.lookup key).map (fun row => if condition key row then change row else row) :=
  dlookup_rewrite (fun id row => if condition id row then change row else row) table.entries key

private theorem dlookup_filter (condition : κ → ν → Bool) (rows : List (Row κ ν))
    (distinct : rows.NodupKeys) (key : κ) :
    (rows.filter (fun row => !condition row.1 row.2)).dlookup key =
      (rows.dlookup key).filter (fun row => !condition key row) := by
  induction rows with
  | nil => rfl
  | cons row rows ih =>
    obtain ⟨id,value⟩ := row
    have tail := ih (List.nodupKeys_of_nodupKeys_cons distinct)
    by_cases same : key = id
    · subst same
      have fresh : rows.dlookup key = none := by
        rw [List.dlookup_eq_none]
        exact List.notMem_keys_of_nodupKeys_cons distinct
      cases holds : condition key value with
      | true => simp [Option.filter,holds,tail,fresh]
      | false => simp [Option.filter,holds]
    · have skip (rest : List (Row κ ν)) := List.dlookup_cons_ne rest (Sigma.mk id value) same
      cases holds : condition id value with
      | true => simpa [holds,skip] using tail
      | false => simpa [holds,skip] using tail

@[simp] theorem lookup_deleteWhere (condition : κ → ν → Bool) (table : Table κ ν) (key : κ) :
    (deleteWhere condition table).lookup key =
      (table.lookup key).filter (fun row => !condition key row) :=
  dlookup_filter condition table.entries table.nodupKeys key

theorem lookup_insert_some {table : Table κ ν} {key other : κ} {new row : ν}
    (found : (table.insert key new).lookup other = some row) :
    other = key ∧ row = new ∨ other ≠ key ∧ table.lookup other = some row := by
  by_cases same : other = key
  · subst same
    rw [AList.lookup_insert] at found
    exact .inl ⟨rfl,(Option.some.inj found).symm⟩
  · exact .inr ⟨same,by rwa [AList.lookup_insert_ne same] at found⟩

theorem lookup_erase_some {table : Table κ ν} {key other : κ} {row : ν}
    (found : (table.erase key).lookup other = some row) :
    other ≠ key ∧ table.lookup other = some row := by
  by_cases same : other = key
  · subst same
    simp at found
  · exact ⟨same,by rwa [AList.lookup_erase_ne same] at found⟩

theorem lookup_updateKey_some {table : Table κ ν} {key other : κ} {change : ν → ν} {row : ν}
    (found : (updateWhere (fun id _ => id == key) change table).lookup other = some row) :
    other = key ∧ (∃ before, table.lookup key = some before ∧ row = change before) ∨
      other ≠ key ∧ table.lookup other = some row := by
  rw [lookup_updateWhere] at found
  obtain ⟨before,present,same⟩ := Option.map_eq_some_iff.mp found
  by_cases is : other = key
  · subst is
    exact .inl ⟨rfl,before,present,by simpa using same.symm⟩
  · refine .inr ⟨is,?_⟩
    have unchanged : before = row := by simpa [is] using same
    rwa [unchanged] at present

theorem someWhere_iff (condition : κ → ν → Bool) (table : Table κ ν) :
    someWhere condition table = true ↔
      ∃ key row, table.lookup key = some row ∧ condition key row = true := by
  unfold someWhere
  rw [List.any_eq_true]
  constructor
  · rintro ⟨⟨key,row⟩,member,holds⟩
    exact ⟨key,row,AList.mem_lookup_iff.mpr member,holds⟩
  · rintro ⟨key,row,found,holds⟩
    exact ⟨⟨key,row⟩,AList.mem_lookup_iff.mp found,holds⟩

theorem countWhere_insert (condition : κ → ν → Bool) (table : Table κ ν) (key : κ) (row : ν) :
    countWhere condition (table.insert key row) =
      countWhere condition (table.erase key) + if condition key row then 1 else 0 := by
  have left : (table.erase key).entries = table.entries.kerase key := rfl
  simp [countWhere,AList.entries_insert,left,List.countP_cons]

private theorem countP_kerase (condition : κ → ν → Bool) (rows : List (Row κ ν))
    (distinct : rows.NodupKeys) (key : κ) :
    rows.countP (fun row => condition row.1 row.2) =
      (rows.kerase key).countP (fun row => condition row.1 row.2) +
        if (rows.dlookup key).any (condition key) then 1 else 0 := by
  induction rows with
  | nil => simp
  | cons row rows ih =>
    obtain ⟨id,value⟩ := row
    have tail := ih (List.nodupKeys_of_nodupKeys_cons distinct)
    by_cases same : key = id
    · subst same
      simp [List.countP_cons,List.kerase_cons_eq]
    · have differs : key ≠ (⟨id,value⟩ : Row κ ν).1 := same
      rw [List.kerase_cons_ne differs,List.dlookup_cons_ne rows ⟨id,value⟩ same]
      simp only [List.countP_cons]
      omega

theorem countWhere_split (condition : κ → ν → Bool) (table : Table κ ν) (key : κ) :
    countWhere condition table = countWhere condition (table.erase key) +
      if (table.lookup key).any (condition key) then 1 else 0 :=
  countP_kerase condition table.entries table.nodupKeys key

theorem countWhere_mono {condition other : κ → ν → Bool} (table : Table κ ν)
    (weaker : ∀ key row, table.lookup key = some row → condition key row = true →
      other key row = true) : countWhere condition table ≤ countWhere other table := by
  apply List.countP_mono_left
  intro row member holds
  exact weaker row.1 row.2 (AList.mem_lookup_iff.mpr member) holds

theorem countWhere_eq_zero_iff (condition : κ → ν → Bool) (table : Table κ ν) :
    countWhere condition table = 0 ↔
      ∀ key row, table.lookup key = some row → condition key row = false := by
  unfold countWhere
  rw [List.countP_eq_zero]
  constructor
  · intro none key row found
    simpa using none ⟨key,row⟩ (AList.mem_lookup_iff.mp found)
  · intro none row member
    simpa using none row.1 row.2 (AList.mem_lookup_iff.mpr member)

theorem countWhere_updateWhere {condition check : κ → ν → Bool} {change : ν → ν} (table : Table κ ν)
    (same : ∀ key row, table.lookup key = some row → condition key row = true →
      check key (change row) = check key row) :
    countWhere check (updateWhere condition change table) = countWhere check table := by
  unfold countWhere updateWhere
  rw [List.countP_map]
  apply List.countP_congr
  intro row member
  cases holds : condition row.1 row.2 with
  | false => simp [rewrite,holds]
  | true => simp [rewrite,holds,same row.1 row.2 (AList.mem_lookup_iff.mpr member) holds]

theorem countWhere_insert_le (condition : κ → ν → Bool) (table : Table κ ν) (key : κ) (row : ν) :
    countWhere condition (table.insert key row) ≤
      countWhere condition table + if condition key row then 1 else 0 := by
  rw [countWhere_insert,countWhere_split condition table key]
  omega

theorem total_insert (weight : κ → ν → Nat) (table : Table κ ν) (key : κ) (row : ν) :
    total weight (table.insert key row) = weight key row + total weight (table.erase key) := by
  have left : (table.erase key).entries = table.entries.kerase key := rfl
  simp [total,AList.entries_insert,left]

private theorem sum_kerase (weight : κ → ν → Nat) (rows : List (Row κ ν)) (key : κ) :
    (rows.map fun row => weight row.1 row.2).sum =
      ((rows.kerase key).map fun row => weight row.1 row.2).sum +
        (rows.dlookup key).elim 0 (weight key) := by
  induction rows with
  | nil => rfl
  | cons row rows ih =>
    obtain ⟨id,value⟩ := row
    by_cases same : key = id
    · subst same
      simp [List.kerase_cons_eq,Nat.add_comm]
    · have differs : key ≠ (⟨id,value⟩ : Row κ ν).1 := same
      rw [List.kerase_cons_ne differs,List.dlookup_cons_ne rows ⟨id,value⟩ same]
      simp only [List.map_cons,List.sum_cons]
      omega

theorem total_split (weight : κ → ν → Nat) (table : Table κ ν) (key : κ) :
    total weight table = total weight (table.erase key) + (table.lookup key).elim 0 (weight key) :=
  sum_kerase weight table.entries key

private theorem sum_single {γ : Type} [DecidableEq γ] (classes : List γ) (class_ : γ) :
    (classes.map fun other => if class_ = other then 1 else 0).sum = classes.count class_ := by
  induction classes with
  | nil => rfl
  | cons first classes ih =>
    rw [List.map_cons,List.sum_cons,ih,List.count_cons]
    by_cases same : class_ = first
    · subst same
      simp [Nat.add_comm]
    · simp [same,Ne.symm same]

/-- Items that fall into at most one of several classes are counted once by the classes
and the unclassified. -/
theorem sum_countP_class {ι γ : Type} [DecidableEq γ] (kind : ι → Option γ) (classes : List γ)
    (distinct : classes.Nodup) (items : List ι)
    (covered : ∀ item ∈ items, ∀ class_, kind item = some class_ → class_ ∈ classes) :
    (classes.map fun class_ => items.countP (fun item => kind item == some class_)).sum +
      items.countP (fun item => (kind item).isNone) = items.length := by
  induction items with
  | nil => simp
  | cons item items ih =>
    have tail := ih fun other member => covered other (List.mem_cons_of_mem _ member)
    simp only [List.countP_cons,List.length_cons,List.sum_map_add]
    cases found : kind item with
    | none =>
      simp
      omega
    | some class_ =>
      have once : (classes.map fun other => if class_ = other then 1 else 0).sum = 1 := by
        rw [sum_single]
        exact List.count_eq_one_of_mem distinct (covered item List.mem_cons_self class_ found)
      simp only [beq_iff_eq,Option.some.injEq,Option.isNone_some,Bool.false_eq_true,if_false]
      omega

private theorem takeWhile_congr {κ : Type} {left right : κ → Bool} {keys : List κ}
    (same : ∀ key ∈ keys, left key = right key) : keys.takeWhile left = keys.takeWhile right := by
  induction keys with
  | nil => rfl
  | cons key rest ih =>
    have tail := ih fun other member => same other (List.mem_cons_of_mem _ member)
    rw [List.takeWhile_cons,List.takeWhile_cons,same key List.mem_cons_self,tail]

/-- A loop over keys. It ends at the first visit that raises, with what was done by then. -/
def visitAll {σ κ : Type} (visit : σ → κ → Option σ) : List κ → σ → σ × Bool
  | [],state => (state,true)
  | key :: rest,state => match visit state key with
    | none => (state,false)
    | some next => visitAll visit rest next

/-- A visit depends on what is seen of its key, and changes nothing else. -/
structure Local {σ κ ν : Type} (view : σ → κ → ν) (visit : σ → κ → Option σ)
    (change : κ → ν → ν) (stops : κ → ν → Prop) : Prop where
  raises : ∀ state key, visit state key = none ↔ stops key (view state key)
  elsewhere : ∀ state key after, visit state key = some after → ∀ other, other ≠ key →
    view after other = view state other
  here : ∀ state key after, visit state key = some after →
    view after key = change key (view state key)

section
variable {σ κ ν : Type} {view : σ → κ → ν} {visit : σ → κ → Option σ} {change : κ → ν → ν}
variable {stops : κ → ν → Prop}

theorem Local.returns [DecidableEq κ] (apart : Local view visit change stops) {keys : List κ}
    (distinct : keys.Nodup) {state : σ} (fine : ∀ key ∈ keys, ¬ stops key (view state key)) :
    (visitAll visit keys state).2 = true ∧ ∀ key, view (visitAll visit keys state).1 key =
      if key ∈ keys then change key (view state key) else view state key := by
  induction keys generalizing state with
  | nil => exact ⟨rfl,fun key => by simp [visitAll]⟩
  | cons first rest ih =>
    obtain ⟨fresh,distinct⟩ := List.nodup_cons.mp distinct
    unfold visitAll
    cases visited : visit state first with
    | none => exact absurd ((apart.raises state first).mp visited) (fine first List.mem_cons_self)
    | some next =>
      have elsewhere := apart.elsewhere state first next visited
      have others : ∀ key ∈ rest, ¬ stops key (view next key) := by
        intro key member
        rw [elsewhere key (ne_of_mem_of_not_mem member fresh)]
        exact fine key (List.mem_cons_of_mem _ member)
      obtain ⟨whole,seen⟩ := ih distinct others
      refine ⟨whole,fun key => ?_⟩
      dsimp only
      rw [seen]
      by_cases same : key = first
      · subst same
        simp [fresh,apart.here state key next visited]
      · simp [same,elsewhere key same]

theorem Local.stuck (apart : Local view visit change stops) (keys : List κ) {state : σ} {key : κ}
    (stuck : stops key (view state key)) :
    view (visitAll visit keys state).1 key = view state key ∧
      (key ∈ keys → (visitAll visit keys state).2 = false) := by
  induction keys generalizing state with
  | nil => exact ⟨rfl,fun member => absurd member List.not_mem_nil⟩
  | cons first rest ih =>
    unfold visitAll
    cases visited : visit state first with
    | none => exact ⟨rfl,fun _ => rfl⟩
    | some next =>
      have differs : key ≠ first := by
        rintro rfl
        rw [(apart.raises state key).mpr stuck] at visited
        contradiction
      have same := apart.elsewhere state first next visited key differs
      obtain ⟨kept,raised⟩ := ih (same ▸ stuck)
      refine ⟨kept.trans same,fun member => raised ?_⟩
      exact (List.mem_cons.mp member).resolve_left differs

theorem Local.absent (apart : Local view visit change stops) {keys : List κ} {key : κ}
    (absent : key ∉ keys) (state : σ) :
    view (visitAll visit keys state).1 key = view state key := by
  induction keys generalizing state with
  | nil => rfl
  | cons first rest ih =>
    have differs : key ≠ first := List.ne_of_not_mem_cons absent
    have absent : key ∉ rest := List.not_mem_of_not_mem_cons absent
    unfold visitAll
    cases visited : visit state first with
    | none => rfl
    | some next => exact (ih absent next).trans (apart.elsewhere state first next visited key differs)

theorem Local.reached [DecidableEq κ] [∀ key seen, Decidable (stops key seen)]
    (apart : Local view visit change stops) {keys : List κ} (distinct : keys.Nodup) {state : σ}
    {key : κ} (before : key ∈ keys.takeWhile fun other => ¬ stops other (view state other)) :
    view (visitAll visit keys state).1 key = change key (view state key) := by
  induction keys generalizing state with
  | nil => contradiction
  | cons first rest ih =>
    obtain ⟨fresh,distinct⟩ := List.nodup_cons.mp distinct
    unfold visitAll
    cases visited : visit state first with
    | none =>
      have stuck := (apart.raises state first).mp visited
      simp [stuck] at before
    | some next =>
      have fine : ¬ stops first (view state first) := fun stuck => by
        rw [(apart.raises state first).mpr stuck] at visited
        contradiction
      have elsewhere := apart.elsewhere state first next visited
      rw [List.takeWhile_cons_of_pos (by simpa using fine)] at before
      rcases List.mem_cons.mp before with rfl | later
      · exact (apart.absent fresh next).trans (apart.here state key next visited)
      · have inside : key ∈ rest := (List.takeWhile_sublist _).subset later
        have same : rest.takeWhile (fun other => ¬ stops other (view next other)) =
            rest.takeWhile (fun other => ¬ stops other (view state other)) := by
          apply takeWhile_congr
          intro other member
          rw [elsewhere other (ne_of_mem_of_not_mem member fresh)]
        have seen := ih distinct (same ▸ later)
        rwa [elsewhere key (ne_of_mem_of_not_mem inside fresh)] at seen

theorem Local.between (apart : Local view visit change stops) {keys : List κ}
    (distinct : keys.Nodup) (state : σ) (key : κ) :
    view (visitAll visit keys state).1 key = view state key ∨
      view (visitAll visit keys state).1 key = change key (view state key) := by
  induction keys generalizing state with
  | nil => exact .inl rfl
  | cons first rest ih =>
    obtain ⟨fresh,distinct⟩ := List.nodup_cons.mp distinct
    unfold visitAll
    cases visited : visit state first with
    | none => exact .inl rfl
    | some next =>
      by_cases same : key = first
      · subst same
        exact .inr ((apart.absent fresh next).trans (apart.here state key next visited))
      · rw [← apart.elsewhere state first next visited key same]
        exact ih distinct next

end

end AtronixX.Library.Tables
