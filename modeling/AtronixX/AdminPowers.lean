import AtronixX.HostStore
import AtronixX.HandlerCalls
import AtronixX.WizardCompleteness

/-! What users can reach. Whatever they send, in whatever order and state of their flows, the
settings, the channels, the log, the key and everybody else's rows stay as they are, nobody's
subscription grows, and no backup or broadcast is started. -/
namespace AtronixX.AdminPowers
open Library.Transition Library.Programs Library.Tables Library.Owned Database HostStore
open Handlers AdminHandlers HandlerCalls

structure Sequenced (tables : Tables) : Prop where
  hosts : Numbered tables
  groups : ∀ id, tables.sequence.groups < id → tables.groups.lookup id = none
  snippets : ∀ id, tables.sequence.snippets < id → tables.snippets.lookup id = none

/-- The subscription is as it was, or there is none. -/
def Unraised (before : Option UserRow) (row : UserRow) : Prop :=
  (∃ old, before = some old ∧ row.subExpiresAt = old.subExpiresAt ∧
    row.subMaxHosts = old.subMaxHosts) ∨ row.subExpiresAt = none ∧ row.subMaxHosts = 0

structure Confined (who : Int → Prop) (before after : Tables) : Prop where
  settings : after.settings = before.settings
  channels : after.channels = before.channels
  adminLog : after.adminLog = before.adminLog
  users : ∀ other, ¬who other → getUser other after = getUser other before
  hosts : ∀ other, ¬who other →
    rows HostRow.ownerId other after.hosts = rows HostRow.ownerId other before.hosts
  groups : ∀ other, ¬who other →
    rows GroupRow.ownerId other after.groups = rows GroupRow.ownerId other before.groups
  snippets : ∀ other, ¬who other →
    rows SnippetRow.ownerId other after.snippets = rows SnippetRow.ownerId other before.snippets
  subscription : ∀ uid row, getUser uid after = some row → Unraised (getUser uid before) row

/-- Hosts keep their owners, and a new one has a new id. -/
structure Lineage (before after : Tables) : Prop where
  last : before.sequence.hosts ≤ after.sequence.hosts
  owners : ∀ id row, id ≤ before.sequence.hosts → after.hosts.lookup id = some row →
    ∃ old, before.hosts.lookup id = some old ∧ old.ownerId = row.ownerId

theorem Unraised.refl (row : UserRow) : Unraised (some row) row := .inl ⟨row,rfl,rfl,rfl⟩

theorem Confined.refl (who : Int → Prop) (tables : Tables) : Confined who tables tables where
  settings := rfl
  channels := rfl
  adminLog := rfl
  users _ _ := rfl
  hosts _ _ := rfl
  groups _ _ := rfl
  snippets _ _ := rfl
  subscription uid row found := by
    rw [found]
    exact Unraised.refl row

theorem Confined.trans {who : Int → Prop} {one two three : Tables}
    (first : Confined who one two) (second : Confined who two three) : Confined who one three where
  settings := second.settings.trans first.settings
  channels := second.channels.trans first.channels
  adminLog := second.adminLog.trans first.adminLog
  users other outside := (second.users other outside).trans (first.users other outside)
  hosts other outside := (second.hosts other outside).trans (first.hosts other outside)
  groups other outside := (second.groups other outside).trans (first.groups other outside)
  snippets other outside := (second.snippets other outside).trans (first.snippets other outside)
  subscription uid row found := by
    rcases second.subscription uid row found with ⟨middle,found',expires,hosts⟩ | none
    · rw [Unraised,expires,hosts]
      exact first.subscription uid middle found'
    · exact .inr none

theorem Confined.imp {who others : Int → Prop} {before after : Tables}
    (confined : Confined who before after) (more : ∀ uid, who uid → others uid) :
    Confined others before after where
  settings := confined.settings
  channels := confined.channels
  adminLog := confined.adminLog
  users other outside := confined.users other (mt (more other) outside)
  hosts other outside := confined.hosts other (mt (more other) outside)
  groups other outside := confined.groups other (mt (more other) outside)
  snippets other outside := confined.snippets other (mt (more other) outside)
  subscription := confined.subscription

theorem Lineage.refl (tables : Tables) : Lineage tables tables :=
  ⟨Int.le_refl _,fun _ row _ found => ⟨row,found,rfl⟩⟩

theorem Lineage.trans {one two three : Tables} (first : Lineage one two)
    (second : Lineage two three) : Lineage one three := by
  refine ⟨Int.le_trans first.last second.last,?_⟩
  intro id row bound found
  obtain ⟨middle,found',same'⟩ := second.owners id row (Int.le_trans bound first.last) found
  obtain ⟨old,found'',same⟩ := first.owners id middle bound found'
  exact ⟨old,found'',same.trans same'⟩

structure Step (uid : Int) (before after : Tables) : Prop where
  confined : Confined (· = uid) before after
  lineage : Lineage before after
  sequenced : Sequenced before → Sequenced after

theorem Step.refl (uid : Int) (tables : Tables) : Step uid tables tables :=
  ⟨Confined.refl _ tables,Lineage.refl tables,id⟩

theorem Step.trans {uid : Int} {one two three : Tables} (first : Step uid one two)
    (second : Step uid two three) : Step uid one three :=
  ⟨first.confined.trans second.confined,first.lineage.trans second.lineage,
    fun kept => second.sequenced (first.sequenced kept)⟩

private theorem Step.users {uid : Int} {tables : Tables} {users : Table Int UserRow}
    (others : ∀ other, other ≠ uid → users.lookup other = tables.users.lookup other)
    (own : ∀ row, users.lookup uid = some row → Unraised (tables.users.lookup uid) row) :
    Step uid tables {tables with users := users} where
  confined := {Confined.refl (· = uid) tables with
    users := others
    subscription := by
      intro other row found
      by_cases same : other = uid
      · subst same
        exact own row found
      · have found : users.lookup other = some row := found
        rw [others other same] at found
        rw [show getUser other tables = some row from found]
        exact Unraised.refl row}
  lineage := ⟨Int.le_refl _,fun _ row _ found => ⟨row,found,rfl⟩⟩
  sequenced kept := ⟨kept.hosts,kept.groups,kept.snippets⟩

theorem step_updateUser (uid : Int) (tables : Tables) {change : UserRow → UserRow}
    (keeps : ∀ row, (change row).subExpiresAt = row.subExpiresAt ∧
      (change row).subMaxHosts = row.subMaxHosts) :
    Step uid tables (updateUser uid change tables) := by
  refine Step.users ?_ ?_
  · intro other differs
    rw [lookup_updateWhere]
    simp [differs]
  · intro row found
    rw [lookup_updateWhere] at found
    obtain ⟨old,found',rfl⟩ := Option.map_eq_some_iff.mp found
    simp only [beq_self_eq_true,if_true]
    exact .inl ⟨old,found',keeps old⟩

theorem step_insertUser {uid : Int} {row : UserRow} {tables after : Tables}
    (inserted : insertUser uid row tables = some after)
    (fresh : row.subExpiresAt = none ∧ row.subMaxHosts = 0) : Step uid tables after := by
  unfold insertUser at inserted
  split at inserted
  next => contradiction
  next =>
    cases inserted
    refine Step.users ?_ ?_
    · intro other differs
      exact AList.lookup_insert_ne differs
    · intro row' found
      rw [AList.lookup_insert] at found
      cases found
      exact .inr fresh

private theorem Step.hosts {uid : Int} {tables : Tables} {hosts : Table Int HostRow}
    (others : ∀ other, other ≠ uid →
      rows HostRow.ownerId other hosts = rows HostRow.ownerId other tables.hosts)
    (owners : ∀ id row, hosts.lookup id = some row →
      ∃ old, tables.hosts.lookup id = some old ∧ old.ownerId = row.ownerId) :
    Step uid tables {tables with hosts := hosts} where
  confined := {Confined.refl (· = uid) tables with hosts := others}
  lineage := ⟨Int.le_refl _,fun id row _ found => owners id row found⟩
  sequenced kept := by
    refine ⟨?_,kept.groups,kept.snippets⟩
    intro id above
    have free := kept.hosts id above
    apply Option.eq_none_iff_forall_ne_some.mpr
    intro row found
    obtain ⟨old,found',_⟩ := owners id row found
    rw [free] at found'
    contradiction

private theorem Step.groups {uid last : Int} {tables : Tables} {groups : Table Int GroupRow}
    (others : ∀ other, other ≠ uid →
      rows GroupRow.ownerId other groups = rows GroupRow.ownerId other tables.groups)
    (free : ∀ id, last < id → groups.lookup id = none) :
    Step uid tables
      {tables with groups := groups, sequence := {tables.sequence with groups := last}} where
  confined := {Confined.refl (· = uid) tables with groups := others}
  lineage := ⟨Int.le_refl _,fun _ row _ found => ⟨row,found,rfl⟩⟩
  sequenced kept := ⟨kept.hosts,free,kept.snippets⟩

private theorem Step.snippets {uid last : Int} {tables : Tables} {snippets : Table Int SnippetRow}
    (others : ∀ other, other ≠ uid →
      rows SnippetRow.ownerId other snippets = rows SnippetRow.ownerId other tables.snippets)
    (free : ∀ id, last < id → snippets.lookup id = none) :
    Step uid tables
      {tables with snippets := snippets, sequence := {tables.sequence with snippets := last}} where
  confined := {Confined.refl (· = uid) tables with snippets := others}
  lineage := ⟨Int.le_refl _,fun _ row _ found => ⟨row,found,rfl⟩⟩
  sequenced kept := ⟨kept.hosts,kept.groups,free⟩

private theorem owners_deleteWhere {condition : Int → HostRow → Bool} {hosts : Table Int HostRow}
    {id : Int} {row : HostRow} (found : (deleteWhere condition hosts).lookup id = some row) :
    ∃ old, hosts.lookup id = some old ∧ old.ownerId = row.ownerId := by
  rw [lookup_deleteWhere] at found
  exact ⟨row,(Option.filter_eq_some_iff.mp found).1,rfl⟩

private theorem owners_updateWhere {condition : Int → HostRow → Bool} {change : HostRow → HostRow}
    {hosts : Table Int HostRow} {id : Int} {row : HostRow}
    (found : (updateWhere condition change hosts).lookup id = some row)
    (keeps : ∀ row, (change row).ownerId = row.ownerId) :
    ∃ old, hosts.lookup id = some old ∧ old.ownerId = row.ownerId := by
  rw [lookup_updateWhere] at found
  obtain ⟨old,found',rfl⟩ := Option.map_eq_some_iff.mp found
  refine ⟨old,found',?_⟩
  split
  next => exact (keeps old).symm
  next => rfl

private theorem step_modify (uid id : Int) (tables : Tables) {change : HostRow → HostRow}
    (keeps : ∀ row, (change row).ownerId = row.ownerId) :
    Step uid tables {tables with hosts := modify HostRow.ownerId uid id change tables.hosts} := by
  refine Step.hosts ?_ fun id row found => owners_updateWhere found keeps
  intro other differs
  exact rows_modify_other _ _ keeps differs

theorem step_toggleFavorite (uid id : Int) (tables : Tables) :
    Step uid tables (toggleFavorite id uid tables) :=
  step_modify uid id tables fun _ => rfl

theorem step_setHostGroup (uid id : Int) (groupId : Option Int) (tables : Tables) :
    Step uid tables (setHostGroup id uid groupId tables) :=
  step_modify uid id tables fun _ => rfl

theorem step_deleteHost (uid id : Int) (tables : Tables) :
    Step uid tables (deleteHost id uid tables) := by
  refine Step.hosts ?_ fun id row found => owners_deleteWhere found
  intro other differs
  exact rows_remove_other HostRow.ownerId tables.hosts differs

theorem step_setHostFingerprint {uid id : Int} {fingerprint : String} {tables : Tables}
    (own : ∀ row, tables.hosts.lookup id = some row → row.ownerId = uid) :
    Step uid tables (setHostFingerprint id fingerprint tables) := by
  refine Step.hosts ?_ fun id row found => owners_updateWhere found fun _ => rfl
  intro other differs
  apply rows_updateWhere
  intro key row found here
  obtain rfl : key = id := by simpa using here
  rw [own row found]
  exact ⟨Ne.symm differs,Ne.symm differs⟩

theorem step_updateHost {uid id : Int} {columns : List HostColumn} {tables after : Tables}
    (updated : updateHost id uid columns tables = some after) : Step uid tables after := by
  unfold updateHost at updated
  split at updated
  next =>
    cases updated
    exact Step.refl uid _
  next row found =>
    split at updated
    next own =>
      obtain ⟨changed,set,rfl⟩ := Option.map_eq_some_iff.mp updated
      have kept := columns_owner columns set
      refine Step.hosts ?_ ?_
      · intro other differs
        apply rows_updateWhere
        intro key row' found' here
        obtain rfl : key = id := by simpa using here
        rw [found] at found'
        cases found'
        rw [kept,own]
        exact ⟨Ne.symm differs,Ne.symm differs⟩
      · intro key row' found'
        rcases lookup_updateKey_some found' with ⟨rfl,old,present,rfl⟩ | ⟨_,present⟩
        · rw [found] at present
          cases present
          exact ⟨row,found,kept.symm⟩
        · exact ⟨row',present,rfl⟩
    next =>
      cases updated
      exact Step.refl uid _

theorem step_insertHost {uid : Int} {row : HostRow} {tables : Tables} (own : row.ownerId = uid)
    (sequenced : Sequenced tables) : Step uid tables (insertHost row tables) := by
  have fresh := sequenced.hosts (tables.sequence.hosts + 1) (by omega)
  refine
    { confined := {Confined.refl (· = uid) tables with hosts := ?_}
      lineage := ⟨?_,?_⟩
      sequenced := fun kept => ⟨?_,kept.groups,kept.snippets⟩ }
  · intro other differs
    refine (rows_insert HostRow.ownerId tables.hosts fresh other).trans (if_neg ?_)
    rw [own]
    exact Ne.symm differs
  · show tables.sequence.hosts ≤ tables.sequence.hosts + 1
    omega
  · intro id row' bound found
    rcases lookup_insert_some found with ⟨rfl,_⟩ | ⟨_,found⟩
    · omega
    · exact ⟨row',found,rfl⟩
  · intro id above
    have above : tables.sequence.hosts + 1 < id := above
    refine (AList.lookup_insert_ne ?_).trans (sequenced.hosts id ?_) <;> omega

private theorem free_deleteWhere {ν : Type} {condition : Int → ν → Bool} {table : Table Int ν}
    {id : Int} (free : table.lookup id = none) : (deleteWhere condition table).lookup id = none := by
  rw [lookup_deleteWhere,free]
  rfl

private theorem free_insert {ν : Type} {last id : Int} {row : ν} {table : Table Int ν}
    (free : ∀ id, last < id → table.lookup id = none) (above : last + 1 < id) :
    (table.insert (last + 1) row).lookup id = none := by
  rw [AList.lookup_insert_ne (by omega)]
  exact free id (by omega)

theorem step_addGroup (uid : Int) (name : String) {tables : Tables} (sequenced : Sequenced tables) :
    Step uid tables (addGroup uid name tables) := by
  refine Step.groups ?_ fun id above => free_insert sequenced.groups above
  intro other differs
  refine (rows_insert GroupRow.ownerId _ (sequenced.groups _ (by omega)) other).trans (if_neg ?_)
  exact Ne.symm differs

theorem step_addSnippet (uid : Int) (name command : String) {tables : Tables}
    (sequenced : Sequenced tables) : Step uid tables (addSnippet uid name command tables) := by
  refine Step.snippets ?_ fun id above => free_insert sequenced.snippets above
  intro other differs
  refine (rows_insert SnippetRow.ownerId _ (sequenced.snippets _ (by omega)) other).trans (if_neg ?_)
  exact Ne.symm differs

theorem step_deleteSnippet (uid sid : Int) {tables : Tables} (sequenced : Sequenced tables) :
    Step uid tables (deleteSnippet sid uid tables) := by
  refine Step.snippets ?_ fun id above => free_deleteWhere (sequenced.snippets id above)
  intro other differs
  exact rows_remove_other SnippetRow.ownerId tables.snippets differs

theorem step_deleteGroup (uid gid : Int) {tables : Tables} (sequenced : Sequenced tables) :
    Step uid tables (deleteGroup gid uid tables) := by
  have hosts : Step uid tables {tables with
      hosts := updateWhere (fun _ row => row.groupId == some gid && row.ownerId == uid)
        (fun row => {row with groupId := none}) tables.hosts} := by
    refine Step.hosts ?_ fun id row found => owners_updateWhere found fun _ => rfl
    intro other differs
    apply rows_updateWhere
    intro key row _ met
    have own : row.ownerId = uid := by
      rw [Bool.and_eq_true] at met
      simpa using met.2
    rw [own]
    exact ⟨Ne.symm differs,Ne.symm differs⟩
  apply hosts.trans
  refine Step.groups ?_ fun id above => free_deleteWhere (sequenced.groups id above)
  intro other differs
  exact rows_remove_other GroupRow.ownerId tables.groups differs

theorem step_deleteUser (uid : Int) {tables : Tables} (sequenced : Sequenced tables) :
    Step uid tables (deleteUser uid tables) := by
  let hosts := removeAll HostRow.ownerId uid tables.hosts
  let groups := removeAll GroupRow.ownerId uid tables.groups
  let snippets := removeAll SnippetRow.ownerId uid tables.snippets
  have first : Step uid tables {tables with hosts := hosts} := by
    refine Step.hosts ?_ fun id row found => owners_deleteWhere found
    intro other differs
    exact rows_removeAll_other HostRow.ownerId tables.hosts differs
  have second : Step uid {tables with hosts := hosts}
      {tables with hosts := hosts, groups := groups} := by
    refine Step.groups ?_ fun id above => free_deleteWhere (sequenced.groups id above)
    intro other differs
    exact rows_removeAll_other GroupRow.ownerId tables.groups differs
  have third : Step uid {tables with hosts := hosts, groups := groups}
      {tables with hosts := hosts, groups := groups, snippets := snippets} := by
    refine Step.snippets ?_ fun id above => free_deleteWhere (sequenced.snippets id above)
    intro other differs
    exact rows_removeAll_other SnippetRow.ownerId tables.snippets differs
  apply first.trans
  apply second.trans
  apply third.trans
  refine Step.users ?_ ?_
  · intro other differs
    rw [lookup_deleteWhere]
    cases tables.users.lookup other with
    | none => rfl
    | some row => simp [differs,Option.filter]
  · intro row found
    rw [lookup_deleteWhere] at found
    simp at found

theorem step_write {κ : Type} {aead : Library.Sealed.Aead κ} {vault : Crypto.Vault κ} {uid : Int}
    {statement : Write} {tables after : Tables} (own : OwnWrite uid statement)
    (sequenced : Sequenced tables) (ran : statement.run aead vault tables = some after) :
    Step uid tables after := by
  cases statement with
  | insertUser id username firstName now =>
    obtain rfl := own
    exact step_insertUser ran ⟨rfl,rfl⟩
  | updateSeen id username firstName now =>
    obtain ⟨rfl⟩ := own
    cases ran
    exact step_updateUser _ _ fun _ => ⟨rfl,rfl⟩
  | setLanguage id lang =>
    obtain rfl := own
    cases ran
    exact step_updateUser _ _ fun _ => ⟨rfl,rfl⟩
  | acceptTerms id =>
    obtain rfl := own
    cases ran
    exact step_updateUser _ _ fun _ => ⟨rfl,rfl⟩
  | setBanned id banned reason =>
    obtain rfl := own
    cases ran
    exact step_updateUser _ _ fun _ => ⟨rfl,rfl⟩
  | markRequestNotified id =>
    obtain rfl := own
    cases ran
    exact step_updateUser _ _ fun _ => ⟨rfl,rfl⟩
  | clearNotifyPending id =>
    obtain rfl := own
    cases ran
    exact step_updateUser _ _ fun _ => ⟨rfl,rfl⟩
  | deleteUser id =>
    obtain rfl := own
    cases ran
    exact step_deleteUser _ sequenced
  | updateHost id owner fields =>
    obtain rfl := own
    obtain ⟨key,_,ran⟩ := Option.bind_eq_some_iff.mp ran
    exact step_updateHost ran
  | deleteHost id owner =>
    obtain rfl := own
    cases ran
    exact step_deleteHost _ _ _
  | toggleFavorite id owner =>
    obtain rfl := own
    cases ran
    exact step_toggleFavorite _ _ _
  | setHostGroup id owner groupId =>
    obtain rfl := own
    cases ran
    exact step_setHostGroup _ _ _ _
  | addGroup owner name =>
    obtain rfl := own
    cases ran
    exact step_addGroup _ _ sequenced
  | deleteGroup gid owner =>
    obtain rfl := own
    cases ran
    exact step_deleteGroup _ _ sequenced
  | addSnippet owner name command =>
    obtain rfl := own
    cases ran
    exact step_addSnippet _ _ _ sequenced
  | deleteSnippet sid owner =>
    obtain rfl := own
    cases ran
    exact step_deleteSnippet _ _ sequenced
  | insertPlaceholder => exact own.elim
  | markNotified => exact own.elim
  | grant => exact own.elim
  | revoke => exact own.elim
  | setSetting => exact own.elim
  | setHostFingerprint => exact own.elim
  | addChannel => exact own.elim
  | removeChannel => exact own.elim
  | log => exact own.elim

/-- The host is the user's, or gone for good. -/
def Own (uid hid : Int) (tables : Tables) : Prop :=
  hid ≤ tables.sequence.hosts ∧ ∀ row, tables.hosts.lookup hid = some row → row.ownerId = uid

theorem Own.lineage {uid hid : Int} {before after : Tables} (own : Own uid hid before)
    (lineage : Lineage before after) : Own uid hid after := by
  refine ⟨Int.le_trans own.1 lineage.last,?_⟩
  intro row found
  obtain ⟨old,found',same⟩ := lineage.owners hid row own.1 found
  rw [← same]
  exact own.2 old found'

def Privileged : Task → Prop
  | .sendBackup _ => True
  | .broadcast => True
  | _ => False

def Proper (uid : Int) (tables : Tables) (task : Task) : Prop :=
  ¬Privileged task ∧ ∀ hid, task = .runAction hid → Own uid hid tables

section
variable {κ : Type}

structure Owned (senders : Int → Prop) (world : World κ) : Prop where
  sequenced : Sequenced world.tables
  pending : ∀ uid trust, world.pending.lookup uid = some trust → Own uid trust.hostId world.tables
  tasks : ∀ uid task, (uid,task) ∈ world.tasks → senders uid ∧ Proper uid world.tables task

/-- Of the database and the key only rows of these users differ, and the tasks that are new are
theirs and none of the admin's. -/
structure Untouched (who : Int → Prop) (before after : World κ) : Prop extends
    Confined who before.tables after.tables where
  vault : after.vault = before.vault
  tasks : ∀ uid task, (uid,task) ∈ after.tasks →
    (uid,task) ∈ before.tasks ∨ who uid ∧ ¬Privileged task

theorem Untouched.refl (who : Int → Prop) (world : World κ) : Untouched who world world :=
  ⟨Confined.refl who world.tables,rfl,fun _ _ started => .inl started⟩

theorem Untouched.trans {who : Int → Prop} {one two three : World κ}
    (first : Untouched who one two) (second : Untouched who two three) :
    Untouched who one three := by
  refine ⟨first.toConfined.trans second.toConfined,second.vault.trans first.vault,?_⟩
  intro uid task started
  rcases second.tasks uid task started with before | own
  · exact first.tasks uid task before
  · exact .inr own

theorem Untouched.imp {who others : Int → Prop} {before after : World κ}
    (untouched : Untouched who before after) (more : ∀ uid, who uid → others uid) :
    Untouched others before after :=
  ⟨untouched.toConfined.imp more,untouched.vault,fun uid task started =>
    (untouched.tasks uid task started).imp_right fun own => ⟨more uid own.1,own.2⟩⟩

/-- What a handler of the user does between two calls of others. -/
structure Within (senders : Int → Prop) (uid : Int) (before after : World κ) : Prop where
  sender : senders uid
  untouched : Untouched (· = uid) before after
  lineage : Lineage before.tables after.tables

variable {senders : Int → Prop} {uid : Int} {world : World κ}

private theorem Owned.tables (owned : Owned senders world) {tables : Tables}
    (step : Step uid world.tables tables) : Owned senders {world with tables := tables} := by
  refine ⟨step.sequenced owned.sequenced,?_,?_⟩
  · intro chat trust found
    exact (owned.pending chat trust found).lineage step.lineage
  · intro other task started
    obtain ⟨sender,plain,own⟩ := owned.tasks other task started
    exact ⟨sender,plain,fun hid same => (own hid same).lineage step.lineage⟩

private theorem kept_tables (sender : senders uid) (owned : Owned senders world) {tables : Tables}
    (step : Step uid world.tables tables) :
    Within senders uid world {world with tables := tables} ∧
      Owned senders {world with tables := tables} :=
  ⟨⟨sender,⟨step.confined,rfl,fun _ _ started => .inl started⟩,step.lineage⟩,owned.tables step⟩

private theorem kept_flows (sender : senders uid) (owned : Owned senders world)
    (flows : Table Int Flow) :
    Within senders uid world {world with flows := flows} ∧
      Owned senders {world with flows := flows} :=
  ⟨⟨sender,⟨Confined.refl _ _,rfl,fun _ _ started => .inl started⟩,Lineage.refl _⟩,
    ⟨owned.sequenced,owned.pending,owned.tasks⟩⟩

private theorem kept_same (sender : senders uid) (owned : Owned senders world) :
    Within senders uid world world ∧ Owned senders world :=
  ⟨⟨sender,Untouched.refl _ world,Lineage.refl _⟩,owned⟩

private theorem kept_pending (sender : senders uid) (owned : Owned senders world)
    {pending : Table Int PendingTrust}
    (fewer : ∀ chat trust, pending.lookup chat = some trust → Own chat trust.hostId world.tables) :
    Within senders uid world {world with pending := pending} ∧
      Owned senders {world with pending := pending} :=
  ⟨⟨sender,⟨Confined.refl _ _,rfl,fun _ _ started => .inl started⟩,Lineage.refl _⟩,
    ⟨owned.sequenced,fewer,owned.tasks⟩⟩

private theorem kept_task (sender : senders uid) (owned : Owned senders world) {task : Task}
    (proper : Proper uid world.tables task) :
    Within senders uid world {world with tasks := (uid,task) :: world.tasks} ∧
      Owned senders {world with tasks := (uid,task) :: world.tasks} := by
  refine ⟨⟨sender,⟨Confined.refl _ _,rfl,?_⟩,Lineage.refl _⟩,owned.sequenced,owned.pending,?_⟩
  · intro other started member
    rcases List.mem_cons.mp member with same | member
    · cases same
      exact .inr ⟨rfl,proper.1⟩
    · exact .inl member
  · intro other started member
    rcases List.mem_cons.mp member with same | member
    · cases same
      exact ⟨sender,proper⟩
    · exact owned.tasks other started member

private theorem proper_of_harmless {task : Task} {tables : Tables} (harmless : Harmless task) :
    Proper uid tables task := by
  cases task <;> simp_all [Proper,Privileged,Harmless]

variable {aead : Library.Sealed.Aead κ} {hkdf : Library.Sealed.Bytes → κ} {admin : Int}

theorem kept_ordinary {α : Type} {effect : Effect α} {reply : Reply} {answer : α}
    {after : World κ} (sender : senders uid) (differs : uid ≠ admin)
    (allowed : Ordinary admin uid α effect) (owned : Owned senders world)
    (performed : perform aead hkdf α uid effect reply world = some (answer,after)) :
    Within senders uid world after ∧ Owned senders after := by
  cases effect with
  | select query =>
    cases performed
    exact kept_same sender owned
  | write statement =>
    obtain ⟨tables,ran,same⟩ := Option.map_eq_some_iff.mp performed
    cases same
    exact kept_tables sender owned (step_write (allowed differs) owned.sequenced ran)
  | addHost arguments => exact allowed.elim
  | flow =>
    cases performed
    exact kept_same sender owned
  | setFlow flow =>
    cases flow with
    | none =>
      cases performed
      exact kept_flows sender owned _
    | some flow =>
      cases performed
      exact kept_flows sender owned _
  | ask read =>
    cases performed
    exact kept_same sender owned
  | popPending chatId =>
    cases performed
    apply kept_pending sender owned
    intro chat trust found
    exact owned.pending chat trust (lookup_erase_some found).2
  | clearPending => exact absurd allowed differs
  | setPending pending => exact allowed.elim
  | createTask task =>
    cases performed
    exact kept_task sender owned (proper_of_harmless (allowed differs))
  | raise => contradiction
  | restoreBackup blob passphrase => exact absurd allowed differs

end

section
variable {κ : Type} {aead : Library.Sealed.Aead κ} {hkdf : Library.Sealed.Bytes → κ}
variable {config : Config} {senders : Int → Prop} {uid : Int}

def Others (before after : World κ) : Prop := Lineage before.tables after.tables

private theorem ordinary_kept {actor : Actor} (sender : senders (actor.uid config))
    (differs : actor.uid config ≠ config.admin) {α : Type} (handler : Handler α)
    (calls : Calls config.admin (actor.uid config) handler) :
    Kept (performAs config aead hkdf) actor (Owned senders) Others
      (Within senders (actor.uid config)) handler := by
  intro world
  apply Program.Every.keeps calls
  intro β effect reply before answer after allowed owned performed
  exact kept_ordinary sender differs allowed owned performed

private theorem own_kept {actor : Actor} {owner hid : Int} {α : Type} {handler : Handler α}
    {world : World κ}
    (keeps : Kept (performAs config aead hkdf) actor (Owned senders) Others (Within senders uid)
      handler)
    (own : Own owner hid world.tables) :
    Keeps (performAs config aead hkdf) actor (Owned senders) Others (Within senders uid) handler
      (fun _ world => Own owner hid world.tables) world := by
  have framed := (keeps world).frame
    (fun before after (own : Own owner hid before.tables) others => own.lineage others)
    (fun before after own within => own.lineage within.lineage) own
  exact framed.imp fun _ _ both => both.2

private theorem ordinary_update (sender : senders uid) (differs : uid ≠ config.admin) {α : Type}
    {handler : Handler α} (tame : Tame config.admin uid true handler) :
    Kept (performAs config aead hkdf) (.update uid) (Owned senders) Others (Within senders uid)
      handler :=
  @ordinary_kept κ aead hkdf config senders (.update uid) sender differs α handler tame.calls

private theorem ordinary_task (sender : senders uid) (differs : uid ≠ config.admin) {α : Type}
    {handler : Handler α} (tame : Tame config.admin uid true handler) :
    Kept (performAs config aead hkdf) (.task uid) (Owned senders) Others (Within senders uid)
      handler :=
  @ordinary_kept κ aead hkdf config senders (.task uid) sender differs α handler tame.calls

private theorem save_kept (sender : senders uid) (differs : uid ≠ config.admin)
    (flow : Wizard.Flow) :
    Kept (performAs config aead hkdf) (.update uid) (Owned senders) Others (Within senders uid)
      (saveHost config.admin uid flow) := by
  refine (ordinary_update sender differs ((tame_setFlow _).mpr rfl)).bind fun _ => ?_
  refine (ordinary_update sender differs tame_limitReached).bind fun reached => ?_
  refine kept_ite (fun _ => ordinary_update sender differs tame_show) fun _ => ?_
  split
  next => exact ordinary_update sender differs tame_raise
  next host _ =>
    refine (ordinary_update sender differs (tame_ask _)).bind fun now => ?_
    refine (ordinary_update sender differs (tame_ask _)).bind fun nonces => ?_
    refine Kept.bind ?_ fun hid => ordinary_update sender differs ?_
    case refine_2 => exact (tame_setFlow_bind _ _).mpr ⟨rfl,tame_hostView hid⟩
    intro world middle _ owned reply answer after performed
    obtain ⟨key,_,same⟩ := Option.map_eq_some_iff.mp performed
    cases same
    exact ⟨kept_tables sender owned (step_insertHost rfl owned.sequenced),trivial⟩

private theorem start_kept (sender : senders uid) (differs : uid ≠ config.admin) (hid : Int)
    (kind : Callbacks.ConnectKind) :
    Kept (performAs config aead hkdf) (.update uid) (Owned senders) Others (Within senders uid)
      (startAction uid hid kind) := by
  refine (ordinary_update sender differs (tame_ask _)).bind fun allowed => ?_
  refine (ordinary_update sender differs (tame_ask _)).bind fun free => ?_
  refine (ordinary_update sender differs (tame_select _)).bind fun setting => ?_
  refine kept_ite (fun _ => ordinary_update sender differs tame_show) fun _ => ?_
  intro world
  apply keeps_run_bind
  intro middle _ owned reply answer after performed
  cases performed
  refine ⟨kept_same sender owned,?_⟩
  cases found : getHost hid uid middle.tables with
  | none => exact ordinary_update sender differs tame_show middle
  | some row =>
    obtain ⟨present,owner⟩ := (select_eq_some_iff HostRow.ownerId).mp found
    have own : Own uid hid middle.tables := by
      refine ⟨?_,?_⟩
      · apply Int.not_lt.mp
        intro above
        rw [owned.sequenced.hosts hid above] at present
        contradiction
      · intro row' found'
        rw [present] at found'
        cases found'
        exact owner
    apply Keeps.bind
    apply (own_kept (ordinary_update sender differs tame_resetChat) own).imp
    intro _ world own later others owned reply answer after performed
    cases performed
    refine ⟨kept_task sender owned ⟨id,?_⟩,trivial⟩
    intro hid' same
    cases same
    exact own.lineage others

private theorem trust_kept (sender : senders uid) (differs : uid ≠ config.admin) :
    Kept (performAs config aead hkdf) (.update uid) (Owned senders) Others (Within senders uid)
      (cbTrustYes uid) := by
  intro world
  apply keeps_run_bind
  intro middle _ owned reply answer after performed
  cases performed
  refine ⟨kept_pending sender owned fun chat trust found =>
    owned.pending chat trust (lookup_erase_some found).2,?_⟩
  cases found : middle.pending.lookup uid with
  | none => exact ordinary_update sender differs tame_show _
  | some trust =>
    have own := owned.pending uid trust found
    apply Keeps.bind
    apply (own_kept (ordinary_update sender differs tame_show) own).imp
    intro _ world own
    apply keeps_run_bind
    intro later others owned reply answer after performed
    cases performed
    refine ⟨kept_tables sender owned (step_setHostFingerprint (own.lineage others).2),?_⟩
    exact ordinary_update sender differs
      ((tame_createTask (.dispatchPending trust.hostId)).mpr fun _ => trivial) _

private theorem run_kept (sender : senders uid) (differs : uid ≠ config.admin) {hid : Int}
    {world : World κ} (own : Own uid hid world.tables) :
    Keeps (performAs config aead hkdf) (.task uid) (Owned senders) Others (Within senders uid)
      (runAction hid) (fun _ _ => True) world := by
  apply Keeps.bind
  apply (own_kept (ordinary_task sender differs tame_show) own).imp
  intro _ world own
  apply Keeps.bind
  apply (own_kept (ordinary_task sender differs (tame_ask _)) own).imp
  intro opened world own
  cases opened with
  | trusted => exact ordinary_task sender differs tame_show world
  | failed => exact ordinary_task sender differs tame_show world
  | untrusted fingerprint =>
    apply keeps_run_bind
    intro middle others owned reply answer after performed
    cases performed
    refine ⟨?_,ordinary_task sender differs tame_show _⟩
    apply kept_pending sender owned
    intro chat trust found
    rcases lookup_insert_some found with ⟨rfl,rfl⟩ | ⟨_,found⟩
    · exact own.lineage others
    · exact owned.pending chat trust found

/-- The moves of a run in which only these users send updates. Their tasks run whenever they
were started, and any handler may end with an exception. -/
def FromUsers (senders : Int → Prop) (state : Threads Effect Actor (World κ)) :
    Move Actor Request Reply (World κ) → Prop
  | .begin (.update uid) (.gated _) => senders uid
  | .begin (.update uid) (.ungated _) => senders uid
  | .begin (.task uid) (.task task) => (uid,task) ∈ state.shared.tasks
  | .begin _ _ => False
  | .advance _ _ => True
  | .abandon _ => True
  | .outside _ => False

instance [DecidablePred senders] (state : Threads Effect Actor (World κ))
    (move : Move Actor Request Reply (World κ)) : Decidable (FromUsers senders state move) :=
  match move with
  | .begin (.update uid) (.gated _) => inferInstanceAs (Decidable (senders uid))
  | .begin (.update uid) (.ungated _) => inferInstanceAs (Decidable (senders uid))
  | .begin (.update _) (.task _) => inferInstanceAs (Decidable False)
  | .begin (.update _) .tick => inferInstanceAs (Decidable False)
  | .begin (.task uid) (.task task) =>
    inferInstanceAs (Decidable ((uid,task) ∈ state.shared.tasks))
  | .begin (.task _) (.gated _) => inferInstanceAs (Decidable False)
  | .begin (.task _) (.ungated _) => inferInstanceAs (Decidable False)
  | .begin (.task _) .tick => inferInstanceAs (Decidable False)
  | .begin .housekeeping _ => inferInstanceAs (Decidable False)
  | .advance _ _ => inferInstanceAs (Decidable True)
  | .abandon _ => inferInstanceAs (Decidable True)
  | .outside _ => inferInstanceAs (Decidable False)

structure Quiet (state : Threads Effect Actor (World κ)) : Prop where
  running : state.running = []
  tasks : state.shared.tasks = []
  sequenced : Sequenced state.shared.tables
  pending : ∀ uid trust, state.shared.pending.lookup uid = some trust →
    Own uid trust.hostId state.shared.tables

theorem Quiet.owned {state : Threads Effect Actor (World κ)} (quiet : Quiet state) :
    Owned senders state.shared := by
  refine ⟨quiet.sequenced,quiet.pending,?_⟩
  intro uid task started
  rw [quiet.tasks] at started
  contradiction

def mover (config : Config) (state : Threads Effect Actor (World κ)) :
    Move Actor Request Reply (World κ) → Option Int
  | .advance index _ => state.running[index]?.map fun thread => thread.1.uid config
  | _ => none

private theorem update_kept (others : ¬senders config.admin) (sender : senders uid) :
    Kinds (performAs config aead hkdf) config (Owned senders) Others (Within senders uid) uid := by
  have differs : uid ≠ config.admin := by
    intro same
    rw [same] at sender
    exact others sender
  refine ⟨?_,save_kept sender differs,start_kept sender differs,trust_kept sender differs⟩
  intro α handler calls
  exact @ordinary_kept κ aead hkdf config senders (.update uid) sender differs α handler calls

private theorem task_kept (others : ¬senders config.admin) (sender : senders uid) {task : Task}
    {world : World κ} (proper : Proper uid world.tables task) :
    Keeps (performAs config aead hkdf) (.task uid) (Owned senders) Others (Within senders uid)
      (Task.body task) (fun _ _ => True) world := by
  have differs : uid ≠ config.admin := by
    intro same
    rw [same] at sender
    exact others sender
  have shown : Kept (performAs config aead hkdf) (.task uid) (Owned senders) Others
      (Within senders uid) show_ :=
    ordinary_task sender differs tame_show
  cases task with
  | runAction hid => exact run_kept sender differs (proper.2 hid rfl)
  | dispatchPending hid => exact shown world
  | download => exact shown world
  | upload => exact shown world
  | sendBackup manual => exact absurd trivial proper.1
  | broadcast => exact absurd trivial proper.1

theorem users_promise (others : ¬senders config.admin) :
    Promise (performAs config aead hkdf) (body config) (Owned senders) (fun _ => Others)
      (fun actor => Within senders (actor.uid config)) (fun _ _ => True) (FromUsers senders) where
  trans _ _ _ _ := Lineage.trans
  kept _ _ _ _ _ within := within.lineage
  begun state who request met owned := by
    refine ⟨?_,fun _ _ => ⟨trivial,trivial⟩⟩
    cases who with
    | update uid =>
      cases request with
      | gated update => exact (update_kept others met).cases.process update _
      | ungated update => exact (update_kept others met).cases.deliver update _
      | task task => exact met.elim
      | tick => exact met.elim
    | task uid =>
      cases request with
      | task task =>
        obtain ⟨sender,proper⟩ := owned.tasks uid task met
        exact task_kept others sender proper
      | gated update => exact met.elim
      | ungated update => exact met.elim
      | tick => exact met.elim
    | housekeeping => exact met.elim
  outside _ _ met := met.elim

end

/-- Updates of other users than the admin, through the gate or past it, change rows of their
sender only, and of these never a subscription; a whole run leaves everybody untouched who sends
nothing, and the settings, the channels, the log and the key as they were. -/
theorem admin_powers_unreachable {κ : Type} (aead : Library.Sealed.Aead κ)
    (hkdf : Library.Sealed.Bytes → κ) (config : Config) (senders : Int → Prop)
    (others : ¬senders config.admin) (first state : Threads Effect Actor (World κ))
    (quiet : Quiet first)
    (reached : Reach (step (performAs config aead hkdf) (body config)) (FromUsers senders) first
      state) :
    Untouched senders first.shared state.shared ∧
      ∀ move after, FromUsers senders state move →
        step (performAs config aead hkdf) (body config) state move = some after →
        Untouched (fun uid => mover config state move = some uid) state.shared after.shared := by
  have promise := @users_promise κ aead hkdf config senders others
  have refl (who : Actor) (world : World κ) : Others world world := Lineage.refl world.tables
  refine ⟨?_,?_⟩
  · apply related_of_reach (Untouched senders) promise refl quiet.owned
      quiet.running (Untouched.refl senders) (fun _ _ _ => Untouched.trans) ?_ ?_ reached
    · intro who before after within
      apply within.untouched.imp
      intro uid same
      rw [same]
      exact within.sender
    · intro state shared met
      exact met.elim
  · intro move after met taken
    have sound := sound_of_reach promise refl quiet.owned quiet.running reached
    rcases sound.step_shared refl taken with
      same | ⟨index,reply,thread,rfl,here,within⟩ | rfl
    · rw [same]
      exact Untouched.refl _ _
    · apply within.untouched.imp
      intro uid same
      simp [mover,here,same]
    · exact met.elim

def plainConfig : Config := ⟨1,[],WizardCompleteness.plainSetup⟩

def plainReply : Reply :=
  ⟨0,true,0,none,none,WizardCompleteness.noAnswer,⟨⟨List.replicate 12 0,Library.Sealed.length_zeros⟩,
    ⟨List.replicate 12 0,Library.Sealed.length_zeros⟩⟩,.trusted,none,none⟩

def idle : Threads Effect Actor (World Library.Sealed.Bytes) :=
  ⟨⟨Database.empty,⟨some [],some []⟩,∅,∅,[]⟩,[]⟩

theorem admin_powers_unreachable_pressed :
    ∃ state : Threads Effect Actor (World Library.Sealed.Bytes),
      state.running = [] ∧ Untouched (· = 7) idle.shared state.shared := by
  obtain ⟨state,run,done⟩ : ∃ state, [Move.begin (.update 7)
      (.ungated ⟨none,"",.callback "adm:modeyes:paid".toList⟩),.advance 0 plainReply,
      .advance 0 plainReply].foldlM (guarded (step
        (performAs plainConfig (Library.Sealed.transparent id) id) (body plainConfig))
        (FromUsers (· = 7))) idle = some state ∧ state.running = [] := ⟨_,rfl,rfl⟩
  have quiet : Quiet idle := by
    refine ⟨rfl,rfl,⟨fun _ _ => rfl,fun _ _ => rfl,fun _ _ => rfl⟩,?_⟩
    intro uid trust found
    contradiction
  exact ⟨state,done,(admin_powers_unreachable (Library.Sealed.transparent id) id plainConfig (· = 7)
    (by decide) idle state quiet (reach_of_run _ run)).1⟩

end AtronixX.AdminPowers
