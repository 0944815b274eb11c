import AtronixX.Schema

/-! Whether a restored database can be used. Only names of tables are validated, and `SCHEMA` adds
what is missing as a whole: a table that lacks columns passes both. -/
namespace AtronixX.RestoredSchema
open Crypto Schema

def names : Create → List String
  | .table name _ => [name]
  | .index name target _ => [name,target]

theorem named_append (name : String) (objects : List Object) (new : Object) :
    named name (objects ++ [new]) =
      (named name objects).or (if same new.name name then some new else none) := by
  unfold named
  rw [List.find?_append]
  simp [List.find?_cons]
  cases same new.name name <;> rfl

theorem run_cases {create : Create} {objects after : List Object}
    (ran : create.run objects = some after) : after = objects ∨
      ∃ new, after = objects ++ [new] ∧ new.name = create.name ∧
        named create.name objects = none := by
  cases create with
  | table name columns =>
    simp only [Create.run] at ran
    split at ran
    next free =>
      cases ran
      exact .inr ⟨_,rfl,rfl,free⟩
    next =>
      split at ran
      next => contradiction
      next =>
        cases ran
        exact .inl rfl
  | index name target column =>
    simp only [Create.run] at ran
    split at ran
    next => contradiction
    next =>
      split at ran
      next => contradiction
      next =>
        split at ran
        next =>
          split at ran
          next =>
            cases ran
            exact .inl rfl
          next => contradiction
        next free =>
          split at ran
          next =>
            cases ran
            exact .inr ⟨_,rfl,rfl,free⟩
          next => contradiction

theorem run_keeps {create : Create} {objects after : List Object}
    (ran : create.run objects = some after) {name : String}
    (apart : same create.name name = false ∨ (named name objects).isSome = true) :
    named name after = named name objects := by
  rcases run_cases ran with rfl | ⟨new,rfl,same,_⟩
  · rfl
  · rw [named_append,same]
    rcases apart with differs | taken
    · simp [differs]
    · obtain ⟨object,found⟩ := Option.isSome_iff_exists.mp taken
      simp [found]

theorem run_congr {create : Create} {objects other : List Object}
    (alike : ∀ name ∈ names create, named name other = named name objects) :
    (create.run other).isSome = (create.run objects).isSome := by
  cases create with
  | table name columns =>
    have found := alike name List.mem_cons_self
    simp only [Create.run,found]
    split
    next => rfl
    next => split <;> rfl
  | index name target column =>
    have found := alike name List.mem_cons_self
    have indexed := alike target (List.mem_cons_of_mem _ List.mem_cons_self)
    simp only [Create.run,found,indexed]
    split
    next => rfl
    next =>
      split
      next => rfl
      next =>
        split
        next => split <;> rfl
        next => split <;> rfl

/-- No statement looks up a name that an earlier one gives. -/
def Apart (objects : List Object) (script : List Create) : Prop :=
  script.Pairwise fun earlier later => ∀ name ∈ names later,
    same earlier.name name = false ∨ (named name objects).isSome = true

private theorem Apart.step {objects after : List Object} {create : Create} {script : List Create}
    (apart : Apart objects (create :: script)) (ran : create.run objects = some after) :
    Apart after script := by
  apply (List.pairwise_cons.mp apart).2.imp
  intro earlier later separate name member
  apply (separate name member).imp_right
  intro taken
  rw [run_keeps ran (.inr taken)]
  exact taken

theorem script_isSome (script : List Create) (objects : List Object)
    (apart : Apart objects script) : (script.foldlM Create.run objects).isSome = true ↔
      ∀ create ∈ script, (create.run objects).isSome = true := by
  induction script generalizing objects with
  | nil => simp
  | cons create script ih =>
    rw [List.foldlM_cons,List.forall_mem_cons]
    cases ran : create.run objects with
    | none => simp
    | some after =>
      have rest := ih after (apart.step ran)
      simp only [Option.bind_eq_bind,Option.bind_some,rest,Option.isSome_some,true_and]
      apply forall₂_congr
      intro later member
      rw [run_congr]
      intro name looked
      exact run_keeps ran ((List.pairwise_cons.mp apart).1 later member name looked)

theorem script_keeps {script : List Create} {objects after : List Object}
    (ran : script.foldlM Create.run objects = some after) {name : String}
    (apart : (∀ create ∈ script, same create.name name = false) ∨
      (named name objects).isSome = true) : named name after = named name objects := by
  induction script generalizing objects with
  | nil =>
    cases ran
    rfl
  | cons create script ih =>
    rw [List.foldlM_cons] at ran
    obtain ⟨middle,first,rest⟩ := Option.bind_eq_some_iff.mp ran
    have kept := run_keeps first (apart.imp_left fun others => others create List.mem_cons_self)
    rw [← kept]
    apply ih rest
    rw [kept]
    exact apart.imp_left fun others later member => others later (List.mem_cons_of_mem _ member)

theorem script_table {script : List Create} {objects after : List Object} {name : String}
    {columns : List String} (member : Create.table name columns ∈ script)
    (distinct : script.Pairwise fun earlier later => same earlier.name later.name = false)
    (ran : script.foldlM Create.run objects = some after) :
    named name after = some ((named name objects).getD ⟨.table,name,columns⟩) := by
  induction script generalizing objects with
  | nil => contradiction
  | cons create script ih =>
    rw [List.foldlM_cons] at ran
    obtain ⟨middle,first,rest⟩ := Option.bind_eq_some_iff.mp ran
    obtain ⟨others,distinct⟩ := List.pairwise_cons.mp distinct
    rcases List.mem_cons.mp member with rfl | member
    · simp only [Create.run] at first
      split at first
      next free =>
        cases first
        have made : named name (objects ++ [⟨.table,name,columns⟩]) =
            some ⟨.table,name,columns⟩ := by
          rw [named_append,free]
          simp [same]
        rw [script_keeps rest (.inr (by rw [made]; rfl)),made,free]
        rfl
      next object found =>
        split at first
        next => contradiction
        next =>
          cases first
          rw [script_keeps rest (.inr (by rw [found]; rfl)),found]
          rfl
    · have other : same create.name name = false := others _ member
      rw [ih member distinct rest,run_keeps first (.inl other)]

/-- Tables that are there have their columns. -/
def Complete (objects : List Object) : Prop :=
  ∀ table ∈ tables, ∀ object, named table.1 objects = some object →
    object.kind = .table ∧ ∀ column ∈ table.2, object.has column = true

/-- The name of a table is an index's, or the index on `hosts` cannot be made. -/
def Refused (objects : List Object) : Prop :=
  (∃ table ∈ tables, ∃ object, named table.1 objects = some object ∧ object.kind = .index) ∨
    ∃ hosts, named "hosts" objects = some hosts ∧ (hosts.kind ≠ .table ∨
      (∃ object, named "idx_hosts_owner" objects = some object ∧ object.kind ≠ .index) ∨
      named "idx_hosts_owner" objects = none ∧ hosts.has "owner_id" = false)

theorem usable_iff (objects : List Object) :
    Usable objects ↔ ∀ table ∈ tables, Provides objects table.1 table.2 := by
  constructor
  · intro usable table member
    have there : ∃ object, named table.1 objects = some object ∧ object.kind = .table := by
      have nonempty : ∀ table ∈ tables, table.2 ≠ [] := by decide
      obtain ⟨column,inside⟩ := List.exists_mem_of_ne_nil _ (nonempty table member)
      obtain ⟨method,_,use,used,here,_⟩ := columns_used table member column inside
      obtain ⟨object,found,kind,_⟩ := usable method use used
      rw [here] at found
      exact ⟨object,found,kind⟩
    obtain ⟨object,found,kind⟩ := there
    refine ⟨object,found,kind,?_⟩
    intro column inside
    obtain ⟨method,_,use,used,here,names⟩ := columns_used table member column inside
    obtain ⟨other,found',_,provided⟩ := usable method use used
    rw [here,found] at found'
    cases found'
    exact provided column names
  · intro all method use used
    obtain ⟨table,member,here,covered⟩ := uses_covered method (mem_methods method) use used
    obtain ⟨object,found,kind,provided⟩ := all table member
    rw [here] at found
    exact ⟨object,found,kind,fun column names => provided column (covered column names)⟩

private theorem distinct_schema :
    schema.Pairwise fun earlier later => same earlier.name later.name = false := by
  decide

private theorem mem_tables {table : String × List String} (member : table ∈ tables) :
    Create.table table.1 table.2 ∈ schema := by
  obtain ⟨create,inside,same⟩ := List.mem_filterMap.mp member
  cases create with
  | table name columns =>
    cases same
    exact inside
  | index name target column => contradiction

private theorem apart_schema {objects : List Object}
    (hosts : (named "hosts" objects).isSome = true) : Apart objects schema := by
  have names_apart : schema.Pairwise fun earlier later => ∀ name ∈ names later,
      same earlier.name name = false ∨ name = "hosts" := by decide
  apply names_apart.imp
  intro earlier later separate name member
  rcases separate name member with differs | rfl
  · exact .inl differs
  · exact .inr hosts

theorem connect_isSome {objects : List Object} (hosts : (named "hosts" objects).isSome = true) :
    (connect objects).isSome = true ↔ ¬Refused objects := by
  obtain ⟨indexed,found⟩ := Option.isSome_iff_exists.mp hosts
  rw [connect,script_isSome schema objects (apart_schema hosts)]
  constructor
  · intro all refused
    rcases refused with ⟨table,member,object,taken,kind⟩ | ⟨other,found',refused⟩
    · have ran := all _ (mem_tables member)
      simp [Create.run,taken,kind] at ran
    · rw [found] at found'
      cases found'
      have ran := all (.index "idx_hosts_owner" "hosts" "owner_id") (by decide)
      rcases refused with view | ⟨object,taken,kind⟩ | ⟨free,missing⟩
      · simp [Create.run,found,view] at ran
      · simp [Create.run,found,taken,kind] at ran
      · simp [Create.run,found,free,missing] at ran
  · intro accepted create member
    cases create with
    | table name columns =>
      have listed : (name,columns) ∈ tables := List.mem_filterMap.mpr ⟨_,member,rfl⟩
      simp only [Create.run]
      split
      next => rfl
      next object taken =>
        split
        next kind => exact absurd (.inl ⟨_,listed,object,taken,kind⟩) accepted
        next => rfl
    | index name target column =>
      obtain ⟨rfl,rfl,rfl⟩ : name = "idx_hosts_owner" ∧ target = "hosts" ∧ column = "owner_id" := by
        simpa [schema] using member
      simp only [Create.run,found]
      split
      next view => exact absurd (.inr ⟨indexed,found,.inl view⟩) accepted
      next =>
        split
        next object taken =>
          split
          next => rfl
          next kind =>
            exact absurd (.inr ⟨indexed,found,.inr (.inl ⟨object,taken,kind⟩)⟩) accepted
        next free =>
          split
          next => rfl
          next missing =>
            refine absurd (.inr ⟨indexed,found,.inr (.inr ⟨free,?_⟩)⟩) accepted
            exact Bool.eq_false_iff.mpr missing

structure Disk (γ : Type) where
  objects : List Object
  content : γ
  key : Library.Sealed.Bytes
  connected : Bool

/-- What `_open_payload` reads, before it validates the database. -/
structure Payload (γ : Type) where
  file : Option DbFile
  content : γ
  key : Library.Sealed.Bytes

section
variable {γ : Type}

/-- `replace_file`, and whether it returns. -/
def replaceFile (objects : List Object) (content : γ) (disk : Disk γ) : Bool × Disk γ :=
  match connect objects with
  | some made => (true,{disk with objects := made, content := content, connected := true})
  | none => (false,{disk with objects := objects, content := content, connected := false})

/-- `restore_backup` on a disk that fails in nothing. -/
def restoreBackup (payload : Payload γ) (disk : Disk γ) : Except CryptoFault Unit × Disk γ :=
  match validateDb payload.file with
  | .error fault => (.error fault,disk)
  | .ok () =>
    let objects := (payload.file.map DbFile.objects).getD []
    match replaceFile objects payload.content {disk with key := payload.key} with
    | (true,after) => (.ok (),after)
    | (false,after) =>
      (.error .other,(replaceFile disk.objects disk.content {after with key := disk.key}).2)

/-- The restored database can be used, or the one of before is back. -/
def Sound (payload : Payload γ) (disk : Disk γ) : Prop :=
  match restoreBackup payload disk with
  | (.ok _,after) => Usable after.objects
  | (.error _,after) => after = disk

structure Opened (disk : Disk γ) : Prop where
  connected : disk.connected = true
  schema : connect disk.objects = some disk.objects

end

private theorem validated {file : Option DbFile} (valid : validateDb file = .ok ()) :
    ∃ db, file = some db ∧ ∀ name ∈ requiredTables, (named name db.objects).isSome = true := by
  unfold validateDb at valid
  split at valid
  next => contradiction
  next db =>
    split at valid
    next => contradiction
    next =>
      split at valid
      next all =>
        refine ⟨db,rfl,?_⟩
        intro name member
        obtain ⟨object,inside,here⟩ := List.any_eq_true.mp (List.all_eq_true.mp all name member)
        apply List.find?_isSome.mpr
        refine ⟨object,inside,?_⟩
        simp only [Bool.and_eq_true,beq_iff_eq] at here
        simp [same,here.2]
      next => contradiction

/-- What the script makes of the tables: those that were there stay as they were. -/
theorem provides_connect {objects after : List Object} (ran : connect objects = some after) :
    (∀ table ∈ tables, Provides after table.1 table.2) ↔ Complete objects := by
  have made (table : String × List String) (member : table ∈ tables) :
      named table.1 after = some ((named table.1 objects).getD ⟨.table,table.1,table.2⟩) :=
    script_table (mem_tables member) distinct_schema ran
  constructor
  · intro all table member object found
    obtain ⟨other,found',kind,provided⟩ := all table member
    rw [made table member,found] at found'
    cases found'
    exact ⟨kind,provided⟩
  · intro complete table member
    have here := made table member
    cases found : named table.1 objects with
    | some object =>
      rw [found] at here
      exact ⟨object,here,complete table member object found⟩
    | none =>
      rw [found] at here
      refine ⟨_,here,rfl,?_⟩
      intro column inside
      exact List.any_eq_true.mpr ⟨column,inside,by simp [same]⟩

/-- A restore that returns leaves a database that every method can use, and one that raises leaves
the old one, exactly if the tables of the backup have all their columns or `SCHEMA` itself
fails on it. -/
theorem restored_database_usable {γ : Type} (payload : Payload γ) (disk : Disk γ)
    (opened : Opened disk) (file : DbFile) (read : payload.file = some file)
    (valid : validateDb payload.file = .ok ()) :
    Sound payload disk ↔ Complete file.objects ∨ Refused file.objects := by
  rw [read] at valid
  obtain ⟨db,same,present⟩ := validated valid
  cases same
  have hosts := connect_isSome (present "hosts" (by decide))
  unfold Sound restoreBackup
  simp only [valid,read,Option.map_some,Option.getD_some,replaceFile,opened.schema]
  cases ran : connect file.objects with
  | some after =>
    rw [ran] at hosts
    have accepted := hosts.mp rfl
    simp only [usable_iff,provides_connect ran]
    exact ⟨.inl,fun either => either.resolve_right accepted⟩
  | none =>
    rw [ran] at hosts
    have refused : Refused file.objects := by
      by_contra accepted
      have made := hosts.mpr accepted
      contradiction
    obtain ⟨objects,content,key,connected⟩ := disk
    have connected : connected = true := opened.connected
    simp [refused,connected]

instance (objects : List Object) : Decidable (Complete objects) :=
  decidable_of_iff (∀ table ∈ tables, ((named table.1 objects).all fun object =>
      decide (object.kind = .table) && table.2.all object.has) = true) (by
    unfold Complete
    apply forall₂_congr
    intro table _
    cases named table.1 objects with
    | none => simp
    | some object => simp [List.all_eq_true])

/-- A version of the bot that did not record who has started it. -/
def older : List Object :=
  written.map fun object => {object with columns := object.columns.filter (· ≠ "started")}

def disk : Disk Unit := ⟨written,(),List.replicate 32 1,true⟩

def backup (objects : List Object) : Payload Unit := ⟨some ⟨true,objects⟩,(),List.replicate 32 2⟩

theorem restored_database_usable_written : Sound (backup written) disk :=
  (restored_database_usable (backup written) disk ⟨rfl,connect_written⟩ ⟨true,written⟩ rfl rfl).mpr
    (.inl (by decide))

/-- The restore returns, and `ensure_user` fails from then on. -/
theorem older_backup_unusable : ¬ ∀ payload : Payload Unit,
    validateDb payload.file = .ok () → Sound payload disk := by
  intro holds
  have usable : Usable older := holds (backup older) rfl
  obtain ⟨object,found,_,provided⟩ := usable .ensureUser _ List.mem_cons_self
  have users : named "users" older = some ⟨.table,"users",usersColumns.filter (· ≠ "started")⟩ := rfl
  rw [users] at found
  cases found
  exact absurd (provided "started" (by decide)) (by decide)

end AtronixX.RestoredSchema
