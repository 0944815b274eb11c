import AtronixX.Library.Transition
import AtronixX.HostStore

/-! Groups of hosts, under the handlers of any number of users, one statement at a time.
`cb_set_group` checks the group in one statement and writes it in another; in between, the
admin may delete the user, but the user's own updates wait. -/
namespace AtronixX.Groups
open Library.Tables Library.Owned Library.Transition Database HostStore

structure Move where
  hostId : Int
  gid : Int
  deriving DecidableEq, Repr

structure State where
  tables : Tables
  moving : Table Int Move

def start : State := ⟨Database.empty,∅⟩

inductive Action
  | addHost (uid : Int) (row : HostRow)
  | setGroup (uid hostId gid : Int)
  | move (uid : Int)
  | abandon (uid : Int)
  | deleteHost (uid hostId : Int)
  | addGroup (uid : Int) (name : String)
  | deleteGroup (uid gid : Int)
  | deleteAccount (uid : Int)
  | adminDelete (uid : Int)
  deriving DecidableEq, Repr

def State.idle (uid : Int) (state : State) : Bool := (state.moving.lookup uid).isNone

def State.own (uid : Int) (statement : Tables → Tables) (state : State) : Option State :=
  if state.idle uid then some {state with tables := statement state.tables} else none

def step (state : State) : Action → Option State
  -- the wizard does not pass a group
  | .addHost uid row => state.own uid (insertHost {row with ownerId := uid, groupId := none})
  | .setGroup uid hostId gid =>
    if state.idle uid then
      if gid = 0 ∨ (getGroup gid uid state.tables).isSome then
        some {state with moving := state.moving.insert uid ⟨hostId,gid⟩}
      else some state
    else none
  | .move uid => (state.moving.lookup uid).map fun (move : Move) =>
    { tables := setHostGroup move.hostId uid (if move.gid = 0 then none else some move.gid) state.tables
      moving := state.moving.erase uid }
  | .abandon uid => some {state with moving := state.moving.erase uid}
  | .deleteHost uid hostId => state.own uid (Database.deleteHost hostId uid)
  | .addGroup uid name => state.own uid (Database.addGroup uid name)
  | .deleteGroup uid gid => state.own uid (Database.deleteGroup gid uid)
  | .deleteAccount uid => state.own uid (deleteUser uid)
  | .adminDelete uid => some {state with tables := deleteUser uid state.tables}

/-- The host is in no group, or in one of its owner's. -/
def Placed (tables : Tables) (host : HostRow) : Prop :=
  ∀ gid, host.groupId = some gid → ∃ group, getGroup gid host.ownerId tables = some group

structure Partitioned (tables : Tables) : Prop where
  placed : ∀ id host, tables.hosts.lookup id = some host → Placed tables host
  counted : ∀ uid gid group n, (gid,group,n) ∈ listGroups uid tables →
    n = (listHosts uid (some gid) tables).length
  total : ∀ uid, ((listGroups uid tables).map (fun entry => entry.2.2)).sum +
    (listHosts uid (some 0) tables).length = countHostsOf uid tables

theorem length_listHosts (uid : Int) (gid : Option Int) (tables : Tables) :
    (listHosts uid gid tables).length =
      (rows HostRow.ownerId uid tables.hosts).countP (fun row => inGroup gid row.2) := by
  simp [listHosts,List.countP_eq_length_filter]

theorem countHostsOf_eq (uid : Int) (tables : Tables) :
    countHostsOf uid tables = (rows HostRow.ownerId uid tables.hosts).length := by
  simp [countHostsOf,countWhere,rows,List.countP_eq_length_filter]

private theorem mem_listGroups_iff {uid gid : Int} {group : GroupRow} {n : Nat} {tables : Tables} :
    (gid,group,n) ∈ listGroups uid tables ↔ getGroup gid uid tables = some group ∧
      n = countWhere (fun _ host => host.groupId == some gid) tables.hosts := by
  unfold listGroups getGroup
  rw [List.mem_map]
  constructor
  · intro listed
    obtain ⟨⟨gid',group'⟩,member,same⟩ := listed
    cases same
    rw [List.mem_mergeSort,mem_rows_iff] at member
    exact ⟨member,rfl⟩
  · intro found
    obtain ⟨found,rfl⟩ := found
    refine ⟨⟨gid,group⟩,?_,rfl⟩
    rw [List.mem_mergeSort,mem_rows_iff]
    exact found

/-- The count of a group, which does not look at the owner, counts hosts of its owner. -/
private theorem countGroup_eq {tables : Tables} {uid gid : Int} {group : GroupRow}
    (placed : ∀ id host, tables.hosts.lookup id = some host → Placed tables host)
    (found : getGroup gid uid tables = some group) :
    countWhere (fun _ host => host.groupId == some gid) tables.hosts =
      (rows HostRow.ownerId uid tables.hosts).countP (fun row => row.2.groupId == some gid) := by
  unfold countWhere rows
  rw [List.countP_filter]
  apply List.countP_congr
  intro row member
  have stored : tables.hosts.lookup row.1 = some row.2 := AList.mem_lookup_iff.mpr member
  have owned : row.2.groupId = some gid → row.2.ownerId = uid := by
    intro inside
    obtain ⟨group',found'⟩ := placed row.1 row.2 stored gid inside
    obtain ⟨present,owner⟩ := (select_eq_some_iff _).mp found
    obtain ⟨present',owner'⟩ := (select_eq_some_iff _).mp found'
    rw [present] at present'
    cases present'
    rw [← owner',owner]
  simp only [beq_iff_eq,Bool.and_eq_true]
  constructor
  · intro inside
    exact ⟨inside,owned inside⟩
  · intro both
    exact both.1

theorem partitioned_of_placed {tables : Tables}
    (placed : ∀ id host, tables.hosts.lookup id = some host → Placed tables host)
    (positive : ∀ gid group, tables.groups.lookup gid = some group → gid ≠ 0) :
    Partitioned tables := by
  constructor
  · exact placed
  · intro uid gid group n listed
    obtain ⟨found,rfl⟩ := mem_listGroups_iff.mp listed
    have nonzero := positive gid group ((select_eq_some_iff _).mp found).1
    rw [countGroup_eq placed found,length_listHosts]
    simp [inGroup,nonzero]
  · intro uid
    rw [length_listHosts,countHostsOf_eq]
    have classes : ((listGroups uid tables).map (fun entry => entry.2.2)).sum =
        (((rows GroupRow.ownerId uid tables.groups).map Sigma.fst).map fun gid =>
          (rows HostRow.ownerId uid tables.hosts).countP
            (fun row => row.2.groupId == some gid)).sum := by
      unfold listGroups
      rw [List.map_map,List.map_map,(List.mergeSort_perm _ _).map _ |>.sum_eq]
      congr 1
      apply List.map_congr_left
      intro row member
      exact countGroup_eq placed ((mem_rows_iff _).mp member)
    have none : (fun row : Row Int HostRow => inGroup (some 0) row.2) =
        fun row => row.2.groupId.isNone := by
      funext row
      simp [inGroup]
    rw [classes,none]
    apply sum_countP_class
    · exact rows_nodupKeys _ _ _
    · intro row member gid inside
      obtain ⟨stored,owner⟩ := (select_eq_some_iff _).mp ((mem_rows_iff _).mp member)
      obtain ⟨group,found⟩ := placed row.1 row.2 stored gid inside
      rw [owner] at found
      exact List.mem_map.mpr ⟨⟨gid,group⟩,(mem_rows_iff _).mpr found,rfl⟩

/-- What `cb_set_group` has checked still holds, unless the user's hosts are gone. -/
def Checked (tables : Tables) (uid : Int) (move : Move) : Prop :=
  move.gid = 0 ∨ (∃ group, getGroup move.gid uid tables = some group) ∨
    ∀ id, getHost id uid tables = none

structure Sound (tables : Tables) : Prop where
  numbered : Numbered tables
  sequence : 0 ≤ tables.sequence.groups
  ids : ∀ gid group, tables.groups.lookup gid = some group →
    0 < gid ∧ gid ≤ tables.sequence.groups
  placed : ∀ id host, tables.hosts.lookup id = some host → Placed tables host

structure Good (state : State) : Prop where
  sound : Sound state.tables
  moves : ∀ uid move, state.moving.lookup uid = some move → Checked state.tables uid move

/-- Nobody but the user gets or loses a group or a host. -/
structure Apart (uid : Int) (before after : Tables) : Prop where
  groups : ∀ other, other ≠ uid → ∀ gid, getGroup gid other after = getGroup gid other before
  hosts : ∀ other, other ≠ uid → ∀ id, getHost id other after = getHost id other before

theorem Checked.apart {before after : Tables} {uid other : Int} {move : Move}
    (checked : Checked before other move) (apart : Apart uid before after) (differs : other ≠ uid) :
    Checked after other move := by
  unfold Checked
  rw [apart.groups other differs]
  apply checked.imp_right
  intro kept
  apply kept.imp_right
  intro gone id
  rw [apart.hosts other differs]
  exact gone id

theorem Good.own {state after : State} (good : Good state) {uid : Int} {statement : Tables → Tables}
    (sound : Sound (statement state.tables)) (apart : Apart uid state.tables (statement state.tables))
    (taken : state.own uid statement = some after) : Good after := by
  unfold State.own at taken
  split at taken
  next idle =>
    cases taken
    refine ⟨sound,?_⟩
    intro other move moving
    apply (good.moves other move moving).apart apart
    intro same
    subst same
    have moving : state.moving.lookup other = some move := moving
    simp [State.idle,moving] at idle
  next => contradiction

private theorem placed_groups {before after : Tables} {host : HostRow} (placed : Placed before host)
    (same : ∀ gid, getGroup gid host.ownerId after = getGroup gid host.ownerId before) :
    Placed after host := by
  intro gid inside
  rw [same]
  exact placed gid inside

theorem Sound.addHost {tables : Tables} (sound : Sound tables) (uid : Int) (row : HostRow) :
    Sound (insertHost {row with ownerId := uid, groupId := none} tables) := by
  refine ⟨?_,sound.sequence,sound.ids,?_⟩
  · intro id above
    have above : tables.sequence.hosts + 1 < id := above
    have unchanged : (insertHost {row with ownerId := uid, groupId := none} tables).hosts.lookup id =
        tables.hosts.lookup id := AList.lookup_insert_ne (by omega)
    rw [unchanged]
    exact sound.numbered id (by omega)
  · intro id host stored
    rcases lookup_insert_some stored with ⟨_,rfl⟩ | ⟨_,stored⟩
    · intro gid inside
      contradiction
    · exact sound.placed id host stored

theorem Sound.deleteHost {tables : Tables} (sound : Sound tables) (uid hostId : Int) :
    Sound (Database.deleteHost hostId uid tables) := by
  refine ⟨?_,sound.sequence,sound.ids,?_⟩
  · intro id above
    simp [Database.deleteHost,sound.numbered id above]
  · intro id host stored
    simp only [Database.deleteHost,lookup_deleteWhere,Option.filter_eq_some_iff] at stored
    exact sound.placed id host stored.1

theorem Sound.free {tables : Tables} (sound : Sound tables) :
    tables.groups.lookup (tables.sequence.groups + 1) = none := by
  apply Option.eq_none_iff_forall_ne_some.mpr
  intro group stored
  have bound := (sound.ids _ _ stored).2
  omega

theorem Sound.addGroup {tables : Tables} (sound : Sound tables) (uid : Int) (name : String) :
    Sound (Database.addGroup uid name tables) := by
  have positive := sound.sequence
  have fresh := sound.free
  refine ⟨sound.numbered,?_,?_,?_⟩
  · show 0 ≤ tables.sequence.groups + 1
    omega
  · intro gid group stored
    show 0 < gid ∧ gid ≤ tables.sequence.groups + 1
    rcases lookup_insert_some stored with ⟨rfl,_⟩ | ⟨_,stored⟩
    · omega
    · have bound := sound.ids gid group stored
      omega
  · intro id host stored gid inside
    obtain ⟨group,found⟩ := sound.placed id host stored gid inside
    have inserted : getGroup gid host.ownerId (Database.addGroup uid name tables) =
        if host.ownerId = uid ∧ gid = tables.sequence.groups + 1 then some ⟨uid,name⟩
        else getGroup gid host.ownerId tables :=
      select_insert GroupRow.ownerId tables.groups fresh host.ownerId gid
    rw [inserted]
    split
    next => exact ⟨_,rfl⟩
    next => exact ⟨group,found⟩

theorem Sound.deleteGroup {tables : Tables} (sound : Sound tables) (uid gid : Int) :
    Sound (Database.deleteGroup gid uid tables) := by
  refine ⟨?_,sound.sequence,?_,?_⟩
  · intro id above
    simp [Database.deleteGroup,sound.numbered id above]
  · intro gid' group stored
    simp only [Database.deleteGroup,remove,lookup_deleteWhere,Option.filter_eq_some_iff] at stored
    exact sound.ids gid' group stored.1
  · intro id host stored gid' inside
    simp only [Database.deleteGroup,lookup_updateWhere,Option.map_eq_some_iff] at stored
    obtain ⟨earlier,stored,same⟩ := stored
    split at same
    next =>
      rw [← same] at inside
      contradiction
    next elsewhere =>
      subst same
      obtain ⟨group,found⟩ := sound.placed id earlier stored gid' inside
      refine ⟨group,?_⟩
      have removed : getGroup gid' earlier.ownerId (Database.deleteGroup gid uid tables) =
          if earlier.ownerId = uid ∧ gid' = gid then none
          else getGroup gid' earlier.ownerId tables :=
        select_remove GroupRow.ownerId tables.groups earlier.ownerId gid'
      rw [removed,if_neg]
      · exact found
      · intro here
        apply elsewhere
        simp [inside,here.1,here.2]

theorem Sound.deleteUser {tables : Tables} (sound : Sound tables) (uid : Int) :
    Sound (Database.deleteUser uid tables) := by
  refine ⟨?_,sound.sequence,?_,?_⟩
  · intro id above
    simp [Database.deleteUser,sound.numbered id above]
  · intro gid group stored
    simp only [Database.deleteUser,lookup_deleteWhere,Option.filter_eq_some_iff] at stored
    exact sound.ids gid group stored.1
  · intro id host stored
    simp only [Database.deleteUser,lookup_deleteWhere,Option.filter_eq_some_iff] at stored
    obtain ⟨stored,other⟩ := stored
    have differs : host.ownerId ≠ uid := by simpa using other
    apply placed_groups (sound.placed id host stored)
    intro gid
    exact (select_removeAll GroupRow.ownerId tables.groups host.ownerId gid).trans (if_neg differs)

theorem Sound.move {tables : Tables} (sound : Sound tables) {uid : Int} {move : Move}
    (checked : Checked tables uid move) :
    Sound (setHostGroup move.hostId uid (if move.gid = 0 then none else some move.gid) tables) := by
  refine ⟨?_,sound.sequence,sound.ids,?_⟩
  · intro id above
    simp [setHostGroup,Library.Owned.modify,sound.numbered id above]
  · intro id host stored gid inside
    simp only [setHostGroup,Library.Owned.modify,lookup_updateWhere,Option.map_eq_some_iff] at stored
    obtain ⟨earlier,stored,same⟩ := stored
    split at same
    next here =>
      have owner : earlier.ownerId = uid := by
        rw [Bool.and_eq_true] at here
        simpa using here.2
      rw [← same] at inside ⊢
      rcases checked with zero | ⟨group,found⟩ | gone
      · simp [zero] at inside
      · have is : move.gid = gid := by
          by_cases zero : move.gid = 0
          · simp [zero] at inside
          · simpa [zero,Option.filter] using inside
        rw [is] at found
        show ∃ group, getGroup gid earlier.ownerId tables = some group
        rw [owner]
        exact ⟨group,found⟩
      · have present : getHost id uid tables = some earlier :=
          (select_eq_some_iff _).mpr ⟨stored,owner⟩
        rw [gone id] at present
        contradiction
    next =>
      subst same
      exact sound.placed id earlier stored gid inside

private theorem apart_addHost {tables : Tables} (sound : Sound tables) (uid : Int) (row : HostRow) :
    Apart uid tables (insertHost {row with ownerId := uid, groupId := none} tables) := by
  refine ⟨fun _ _ _ => rfl,?_⟩
  intro other differs id
  have fresh := sound.numbered (tables.sequence.hosts + 1) (by omega)
  apply (select_insert HostRow.ownerId tables.hosts fresh other id).trans
  exact if_neg fun here => differs here.1

private theorem apart_deleteHost (tables : Tables) (uid hostId : Int) :
    Apart uid tables (Database.deleteHost hostId uid tables) := by
  refine ⟨fun _ _ _ => rfl,?_⟩
  intro other differs id
  apply (select_remove HostRow.ownerId tables.hosts other id).trans
  exact if_neg fun here => differs here.1

private theorem apart_addGroup {tables : Tables} (sound : Sound tables) (uid : Int) (name : String) :
    Apart uid tables (Database.addGroup uid name tables) := by
  refine ⟨?_,fun _ _ _ => rfl⟩
  intro other differs gid
  have fresh := sound.free
  apply (select_insert GroupRow.ownerId tables.groups fresh other gid).trans
  exact if_neg fun here => differs here.1

private theorem apart_deleteGroup (tables : Tables) (uid gid : Int) :
    Apart uid tables (Database.deleteGroup gid uid tables) := by
  constructor
  · intro other differs gid'
    apply (select_remove GroupRow.ownerId tables.groups other gid').trans
    exact if_neg fun here => differs here.1
  · intro other differs
    have same : SameFor other tables (Database.deleteGroup gid uid tables) := by
      apply SameFor.of_rows
      refine rows_updateWhere HostRow.ownerId tables.hosts other ?_
      intro id host _ met
      have owner : host.ownerId = uid := by
        rw [Bool.and_eq_true] at met
        simpa using met.2
      have differs := Ne.symm differs
      rw [← owner] at differs
      exact ⟨differs,differs⟩
    exact same.host

private theorem apart_deleteUser (tables : Tables) (uid : Int) :
    Apart uid tables (Database.deleteUser uid tables) := by
  constructor
  · intro other differs gid
    exact (select_removeAll GroupRow.ownerId tables.groups other gid).trans (if_neg differs)
  · intro other differs id
    exact (select_removeAll HostRow.ownerId tables.hosts other id).trans (if_neg differs)

theorem Good.step {state after : State} {action : Action} (good : Good state)
    (taken : step state action = some after) : Good after := by
  have sound := good.sound
  cases action with
  | addHost uid row => exact good.own (sound.addHost uid row) (apart_addHost sound uid row) taken
  | deleteHost uid hostId =>
    exact good.own (sound.deleteHost uid hostId) (apart_deleteHost _ uid hostId) taken
  | addGroup uid name => exact good.own (sound.addGroup uid name) (apart_addGroup sound uid name) taken
  | deleteGroup uid gid =>
    exact good.own (sound.deleteGroup uid gid) (apart_deleteGroup _ uid gid) taken
  | deleteAccount uid => exact good.own (sound.deleteUser uid) (apart_deleteUser _ uid) taken
  | adminDelete uid =>
    cases taken
    refine ⟨sound.deleteUser uid,?_⟩
    intro other move moving
    by_cases same : other = uid
    · -- the hosts go with the groups
      right
      right
      intro id
      exact (select_removeAll HostRow.ownerId _ other id).trans (if_pos same)
    · exact (good.moves other move moving).apart (apart_deleteUser _ uid) same
  | setGroup uid hostId gid =>
    simp only [Groups.step] at taken
    split at taken
    next =>
      split at taken
      next allowed =>
        cases taken
        refine ⟨sound,?_⟩
        intro other move moving
        rcases lookup_insert_some moving with ⟨rfl,rfl⟩ | ⟨_,moving⟩
        · apply allowed.imp_right
          intro found
          exact .inl (Option.isSome_iff_exists.mp found)
        · exact good.moves other move moving
      next =>
        cases taken
        exact good
    next => contradiction
  | move uid =>
    obtain ⟨move,moving,rfl⟩ := Option.map_eq_some_iff.mp taken
    refine ⟨sound.move (good.moves uid move moving),?_⟩
    intro other move' moving'
    obtain ⟨differs,moving'⟩ := lookup_erase_some moving'
    have apart : Apart uid state.tables
        (setHostGroup move.hostId uid (if move.gid = 0 then none else some move.gid) state.tables) := by
      refine ⟨fun _ _ _ => rfl,?_⟩
      intro other differs id
      refine (select_modify HostRow.ownerId state.tables.hosts ?_ other id).trans ?_
      · intro row
        rfl
      · exact if_neg fun here => differs here.1
    exact (good.moves other move' moving').apart apart differs
  | abandon uid =>
    cases taken
    refine ⟨sound,?_⟩
    intro other move moving
    exact good.moves other move (lookup_erase_some moving).2

/-- In every reachable state the groups of each user partition his hosts. -/
theorem groups_partition (state : State) (reached : Reach step always start state) :
    Partitioned state.tables := by
  have good : Good state := by
    apply reached.invariant Good
    · refine ⟨⟨fun _ _ => rfl,Int.le_refl 0,?_,?_⟩,?_⟩
      · intro gid group stored
        contradiction
      · intro id host stored
        contradiction
      · intro uid move moving
        contradiction
    · intro state action after good _ taken
      exact good.step taken
  apply partitioned_of_placed good.sound.placed
  intro gid group stored
  have positive := (good.sound.ids gid group stored).1
  omega

theorem groups_partition_moved : ∃ state,
    [.addHost 5 ⟨0,"web","1.2.3.4",22,"root","password",.text "",none,none,none,false,100⟩,
        .addGroup 5 "prod",.setGroup 5 1 1,.move 5].foldlM (guarded step always) start = some state ∧
      (state.tables.hosts.lookup 1).bind HostRow.groupId = some 1 ∧ Partitioned state.tables := by
  obtain ⟨state,ran,moved⟩ : ∃ state,
      [.addHost 5 ⟨0,"web","1.2.3.4",22,"root","password",.text "",none,none,none,false,100⟩,
          .addGroup 5 "prod",.setGroup 5 1 1,.move 5].foldlM (guarded step always) start =
          some state ∧ (state.tables.hosts.lookup 1).bind HostRow.groupId = some 1 := ⟨_,rfl,rfl⟩
  exact ⟨state,ran,moved,groups_partition state (reach_of_run _ ran)⟩

end AtronixX.Groups
