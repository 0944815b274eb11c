import Mathlib.Algebra.Order.Floor.Ring
import Mathlib.Data.List.TFAE
import Mathlib.Data.List.Sort
import Mathlib.Data.Rat.Floor
import Mathlib.Tactic.TFAE
import AtronixX.AdminHandlers
import AtronixX.Notices

/-! The notions of an active subscription: the gate and the texts compare with the clock, the
statements of `database/db.py` with its whole seconds. The clock is an element of any ordered
field with a floor. -/
namespace AtronixX.Subscriptions
open Library.Tables Database AdminHandlers

section
variable {R : Type*} [Field R] [LinearOrder R] (time : R)

def hasAccess (user : UserRow) (mode : Mode) : Bool :=
  if user.isBanned then false
  else match mode with
    | .free => true
    | .paid => match user.subExpiresAt with
      | none => false
      | some exp => exp != 0 && decide (time < exp)

def subState (user : UserRow) : String :=
  if user.isBanned then "🚫"
  else match user.subExpiresAt with
    | none => "⚪"
    | some exp => if exp ≠ 0 ∧ time < exp then "💎" else if exp ≠ 0 then "⌛" else "⚪"

/-- `left` of a row in `_subscription_notices`. -/
def left (user : UserRow) : Option R :=
  match user.subExpiresAt with
  | none => none
  | some exp => some (exp - time)

/-- Every `left` that a pass of `_subscription_notices` computes. -/
def lefts (adminId : Int) (tables : Tables) : List (Int × R) :=
  (Notices.usersWithSubscription tables).filterMap fun row =>
    if !row.2.started || row.2.isBanned || row.1 == adminId then none
    else (left time row.2).map fun left => (row.1,left)

end

section
variable {R : Type*} [Field R] [LinearOrder R] [FloorRing R] (time : R)

def seconds : Int := if 0 ≤ time then ⌊time⌋ else ⌈time⌉

def daysLeft (exp : Option Int) : Int := max 0 ⌈((exp.getD 0 : Int) - time) / 86400⌉

/-- `_filter_sql`; a comparison with `NULL` is `none`. -/
def filterSql (flt : String) (now : Int) (user : UserRow) : Option Bool :=
  if flt = "sub" then user.subExpiresAt.map fun exp => decide (exp > now)
  else if flt = "exp" then
    if user.subExpiresAt.isNone then some false
    else user.subExpiresAt.map fun exp => decide (exp ≤ now)
  else if flt = "banned" then some user.isBanned
  else some true

structure Listed where
  id : Int
  user : UserRow
  hostCount : Nat

/-- The rows that satisfy the filter, the latest first. -/
def filtered (flt : String) (tables : Tables) : List (Row Int UserRow) :=
  (tables.users.entries.filter fun row => filterSql flt (seconds time) row.2 == some true).mergeSort
    fun one two => decide (two.2.createdAt ≤ one.2.createdAt)

def listUsers (flt : String) (offset limit : Nat) (tables : Tables) : List Listed × Nat :=
  let rows := filtered time flt tables
  (((rows.drop offset).take limit).map fun row =>
    ⟨row.1,row.2,countWhere (fun _ host => host.ownerId == row.1) tables.hosts⟩,rows.length)

structure Stats where
  users : Nat
  subs : Nat
  banned : Nat
  hosts : Nat

def stats (tables : Tables) : Stats :=
  let now := seconds time
  { users := size tables.users
    subs := countWhere (fun _ user => user.subExpiresAt.any fun exp => exp > now) tables.users
    banned := countWhere (fun _ user => user.isBanned) tables.users
    hosts := size tables.hosts }

end

theorem hasAccess_rat (user : UserRow) (mode : Mode) (now : Rat) :
    hasAccess now user mode = Handlers.hasAccess user mode now := by
  unfold hasAccess Handlers.hasAccess
  cases user.isBanned <;> cases mode <;> cases user.subExpiresAt <;> simp [bne,BEq.beq]

section
variable {R : Type*} [Field R] {time : R} {user : UserRow} {uid : Int} {tables : Tables}

theorem lefts_iff {adminId : Int} (found : getUser uid tables = some user)
    (free : user.isBanned = false) (started : user.started = true) (other : uid ≠ adminId)
    (rest : R) : (uid,rest) ∈ lefts time adminId tables ↔ left time user = some rest := by
  unfold lefts
  rw [List.mem_filterMap]
  constructor
  · intro computed
    obtain ⟨row,member,is⟩ := computed
    split at is
    next => contradiction
    next =>
      obtain ⟨value,of_,same⟩ := Option.map_eq_some_iff.mp is
      cases same
      have present : tables.users.lookup row.1 = some row.2 :=
        AList.mem_lookup_iff.mpr (List.mem_filter.mp member).1
      rwa [Option.some.inj (present.symm.trans found)] at of_
  · intro is
    have held : user.subExpiresAt.isSome = true := by
      unfold left at is
      split at is <;> simp_all
    refine ⟨⟨uid,user⟩,List.mem_filter.mpr ⟨AList.mem_lookup_iff.mp found,held⟩,?_⟩
    simp [started,free,other,is]

end

section
variable {R : Type*} [Field R] [LinearOrder R] {time : R} {user : UserRow}

def Active (time : R) (user : UserRow) : Prop :=
  ∃ exp : Int, user.subExpiresAt = some exp ∧ time < exp

theorem hasAccess_iff (free : user.isBanned = false) (sound : ∀ exp ∈ user.subExpiresAt, 0 < exp) :
    hasAccess time user .paid = true ↔ Active time user := by
  unfold hasAccess Active
  rw [if_neg (by simp [free])]
  dsimp only
  cases held : user.subExpiresAt with
  | none => simp
  | some exp =>
    have nonzero : exp ≠ 0 := (sound exp held).ne'
    simp [nonzero]

theorem subState_iff (free : user.isBanned = false) (sound : ∀ exp ∈ user.subExpiresAt, 0 < exp) :
    subState time user = "💎" ↔ Active time user := by
  unfold subState Active
  rw [if_neg (by simp [free])]
  cases held : user.subExpiresAt with
  | none => simp
  | some exp =>
    have nonzero : exp ≠ 0 := (sound exp held).ne'
    by_cases before : time < exp <;> simp [nonzero,before]

theorem left_iff [IsStrictOrderedRing R] :
    (∃ rest ∈ left time user, 0 < rest) ↔ Active time user := by
  unfold left Active
  cases user.subExpiresAt <;> simp

end

section
variable {R : Type*} [Field R] [LinearOrder R] [FloorRing R] {time : R}
variable {user : UserRow} {uid : Int} {tables : Tables}

theorem seconds_lt_iff (clock : 0 ≤ time) (exp : Int) : seconds time < exp ↔ time < exp := by
  rw [seconds,if_pos clock,Int.floor_lt]

theorem any_seconds_iff (clock : 0 ≤ time) :
    (user.subExpiresAt.any fun exp => exp > seconds time) = true ↔ Active time user := by
  unfold Active
  cases user.subExpiresAt with
  | none => simp
  | some exp => simp [seconds_lt_iff clock]

/-- Some page of the list shows the user. -/
def Selected (flt : String) (time : R) (tables : Tables) (uid : Int) : Prop :=
  ∃ offset limit, ∃ listed ∈ (listUsers time flt offset limit tables).1, listed.id = uid

theorem mem_filtered (flt : String) (row : Row Int UserRow) :
    row ∈ filtered time flt tables ↔ tables.users.lookup row.1 = some row.2 ∧
      filterSql flt (seconds time) row.2 = some true := by
  unfold filtered
  rw [(List.mergeSort_perm _ _).mem_iff,List.mem_filter,beq_iff_eq]
  exact and_congr_left' AList.mem_lookup_iff.symm

theorem selected_iff (flt : String) (found : getUser uid tables = some user) :
    Selected flt time tables uid ↔ filterSql flt (seconds time) user = some true := by
  unfold Selected listUsers
  dsimp only
  constructor
  · intro selected
    obtain ⟨offset,limit,listed,member,rfl⟩ := selected
    obtain ⟨row,page,rfl⟩ := List.mem_map.mp member
    have filtered := List.mem_of_mem_drop (List.mem_of_mem_take page)
    obtain ⟨present,holds⟩ := (mem_filtered flt row).mp filtered
    have same : row.2 = user := Option.some.inj (present.symm.trans found)
    rwa [same] at holds
  · intro holds
    refine ⟨0,(filtered time flt tables).length,_,List.mem_map.mpr ⟨⟨uid,user⟩,?_,rfl⟩,rfl⟩
    rw [List.drop_zero,List.take_length]
    exact (mem_filtered flt ⟨uid,user⟩).mpr ⟨found,holds⟩

theorem filterSql_sub_iff (clock : 0 ≤ time) :
    filterSql "sub" (seconds time) user = some true ↔ Active time user := by
  unfold filterSql Active
  cases user.subExpiresAt with
  | none => simp
  | some exp => simp [seconds_lt_iff clock]

theorem filterSql_exp_iff (clock : 0 ≤ time) :
    filterSql "exp" (seconds time) user = some true ↔
      user.subExpiresAt ≠ none ∧ ¬ Active time user := by
  unfold filterSql Active
  cases user.subExpiresAt with
  | none => simp
  | some exp => simp [← seconds_lt_iff clock]

theorem stats_subs (found : getUser uid tables = some user) :
    (stats time tables).subs = (stats time {tables with users := tables.users.erase uid}).subs +
      if user.subExpiresAt.any fun exp => exp > seconds time then 1 else 0 := by
  have present : tables.users.lookup uid = some user := found
  have split := countWhere_split
    (fun _ user => user.subExpiresAt.any fun exp => decide (exp > seconds time)) tables.users uid
  rw [present] at split
  exact split

theorem audienceIds_iff (found : getUser uid tables = some user) (free : user.isBanned = false)
    (started : user.started = true) (clock : 0 ≤ time) :
    uid ∈ audienceIds "subs".toList (seconds time) tables ↔ Active time user := by
  rw [← any_seconds_iff clock]
  unfold audienceIds
  constructor
  · intro listed
    obtain ⟨row,member,rfl⟩ := List.mem_map.mp listed
    obtain ⟨stored,holds⟩ := List.mem_filter.mp member
    have present : tables.users.lookup row.1 = some row.2 := AList.mem_lookup_iff.mpr stored
    have same : row.2 = user := Option.some.inj (present.symm.trans found)
    simpa [same,started,free] using holds
  · intro holds
    refine List.mem_map.mpr ⟨⟨uid,user⟩,List.mem_filter.mpr ⟨AList.mem_lookup_iff.mp found,?_⟩,rfl⟩
    simpa [started,free] using holds

theorem daysLeft_iff [IsStrictOrderedRing R] (clock : 0 ≤ time) :
    1 ≤ daysLeft time user.subExpiresAt ↔ Active time user := by
  have day : (0 : R) < 86400 := by norm_num
  have positive (exp : Int) :
      1 ≤ max 0 ⌈((exp : R) - time) / 86400⌉ ↔ time < exp := by
    rw [le_max_iff,Int.one_le_ceil_iff,div_pos_iff_of_pos_right day,sub_pos]
    simp
  unfold daysLeft Active
  cases user.subExpiresAt with
  | none =>
    rw [positive]
    simpa using clock
  | some exp =>
    rw [positive]
    simp

end

/-- All notions of an active subscription agree, and the filter of the expired ones selects
those with an expiry for which they do not hold. -/
theorem notions_agree {R : Type*} [Field R] [LinearOrder R] [IsStrictOrderedRing R] [FloorRing R]
    {time : R} (clock : 0 ≤ time) {tables : Tables} {uid : Int} {user : UserRow}
    (found : getUser uid tables = some user) (free : user.isBanned = false)
    (sound : ∀ exp ∈ user.subExpiresAt, 0 < exp) (adminId : Int) :
    [hasAccess time user .paid = true,
      Selected "sub" time tables uid,
      (stats time tables).subs =
        (stats time {tables with users := tables.users.erase uid}).subs + 1,
      subState time user = "💎",
      1 ≤ daysLeft time user.subExpiresAt,
      ∃ rest ∈ left time user, 0 < rest].TFAE ∧
    (user.started = true → (uid ∈ audienceIds "subs".toList (seconds time) tables ↔
      hasAccess time user .paid = true)) ∧
    (user.started = true → uid ≠ adminId →
      ((∃ rest, (uid,rest) ∈ lefts time adminId tables ∧ 0 < rest) ↔
        hasAccess time user .paid = true)) ∧
    (Selected "exp" time tables uid ↔
      user.subExpiresAt ≠ none ∧ ¬ hasAccess time user .paid = true) := by
  rw [hasAccess_iff free sound]
  refine ⟨?_,?_,?_,?_⟩
  · tfae_have 1 ↔ 2 := by
      rw [selected_iff "sub" found,filterSql_sub_iff clock]
    tfae_have 1 ↔ 3 := by
      rw [stats_subs found,← any_seconds_iff clock]
      simp
    tfae_have 1 ↔ 4 := (subState_iff free sound).symm
    tfae_have 1 ↔ 5 := (daysLeft_iff clock).symm
    tfae_have 1 ↔ 6 := left_iff.symm
    tfae_finish
  · exact fun started => audienceIds_iff found free started clock
  · intro started other
    rw [← left_iff]
    simp only [lefts_iff found free started other]
    exact exists_congr fun _ => Iff.rfl
  · rw [selected_iff "exp" found,filterSql_exp_iff clock]

def subscriber : UserRow := {freshUser 100 with subExpiresAt := some 1000, started := true}

def subscribed : Tables := {Database.empty with users := AList.insert 5 subscriber ∅}

theorem notions_agree_before_end : hasAccess (1999 / 2 : Rat) subscriber .paid = true ∧
    Selected "sub" (1999 / 2 : Rat) subscribed 5 ∧ ¬ Selected "exp" (1999 / 2 : Rat) subscribed 5 := by
  obtain ⟨notions,_,_,expired⟩ := @notions_agree Rat _ _ _ _ (1999 / 2) (by norm_num)
    subscribed 5 subscriber rfl rfl (by simp [subscriber]) 1
  have held : hasAccess (1999 / 2 : Rat) subscriber .paid = true := by
    simp only [hasAccess,subscriber,freshUser]
    norm_num
  exact ⟨held,(notions.out 0 1).mp held,fun selected => (expired.mp selected).2 held⟩

end AtronixX.Subscriptions
