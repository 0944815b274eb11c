import AtronixX.Library.Renewals
import AtronixX.Subscriptions

/-! The time that a sequence of grants pays for: `grant` of `database/db.py` against the clock
of `has_access`. -/
namespace AtronixX.PaidTime
open Library.Tables Library.Renewals Database Subscriptions MeasureTheory

structure Grant where
  time : Nat
  days : Nat
  maxHosts : Int
  deriving DecidableEq, Repr

variable (uid : Int)

/-- The row that `grant` finds or inserts. -/
def placeholder (now : Int) (tables : Tables) : Tables :=
  match getUser uid tables with
  | some _ => tables
  | none => {tables with users := tables.users.insert uid (freshUser now)}

def grant (tables : Tables) (order : Grant) : Tables :=
  let now : Int := order.time
  let placed := placeholder uid now tables
  let base := max now (((getUser uid placed).bind UserRow.subExpiresAt).getD 0)
  updateUser uid (granted (base + order.days * 86400) order.maxHosts) placed

def grants (tables : Tables) (orders : List Grant) : Tables := orders.foldl (grant uid) tables

/-- The user's row at an instant: the grants up to it are made. -/
noncomputable def rowAt (tables : Tables) (orders : List Grant) (instant : ℝ) : Option UserRow :=
  getUser uid (grants uid tables (orders.filter fun order => (order.time : ℝ) ≤ instant))

def expires (tables : Tables) : Int := ((getUser uid tables).bind UserRow.subExpiresAt).getD 0

theorem getUser_grant (tables : Tables) (order : Grant) :
    ∃ user, getUser uid (grant uid tables order) = some (granted
      (max (order.time : Int) (expires uid tables) + order.days * 86400) order.maxHosts user) ∧
      user.isBanned = ((getUser uid tables).map UserRow.isBanned).getD false := by
  unfold grant placeholder expires
  cases found : getUser uid tables with
  | some user => exact ⟨user,by simp [found],by simp⟩
  | none =>
    refine ⟨freshUser order.time,?_,rfl⟩
    simp [getUser,updateUser,freshUser]

/-- It is what the statements of the call do when nothing comes between them. -/
theorem grant_steps (contact : FirstContact.Contact) (tables : Tables) (order : Grant) :
    ∃ count, (fun state => (FirstContact.adminStep contact
        (.grant order.time order.days order.maxHosts) state.1 state.2).getD state)^[count]
      (tables,.reading) = (grant contact.uid tables order,.returned) := by
  unfold grant placeholder
  cases found : getUser contact.uid tables with
  | some user =>
    refine ⟨3,?_⟩
    simp [Function.iterate_succ,FirstContact.adminStep,FirstContact.Order.next,found]
  | none =>
    have missing : tables.users.lookup contact.uid = none := found
    have absent : contact.uid ∉ tables.users := AList.lookup_eq_none.mp found
    refine ⟨5,?_⟩
    simp [Function.iterate_succ,FirstContact.adminStep,FirstContact.Order.next,insertUser,absent,
      getUser,missing,FirstContact.Order.now]

theorem expires_grant (tables : Tables) (order : Grant) : expires uid (grant uid tables order) =
    max (order.time : Int) (expires uid tables) + order.days * 86400 := by
  obtain ⟨user,found,_⟩ := getUser_grant uid tables order
  rw [expires,found]
  rfl

noncomputable def renewal (order : Grant) : Renewal := ⟨order.time,(order.days * 86400 : Nat)⟩

theorem expires_grants (tables : Tables) (orders : List Grant) :
    (expires uid (grants uid tables orders) : ℝ) =
      expiry (expires uid tables) (orders.map renewal) := by
  induction orders generalizing tables with
  | nil => rfl
  | cons order orders ih =>
    have one : (expires uid (grant uid tables order) : ℝ) =
        renew (expires uid tables) (renewal order) := by
      rw [expires_grant]
      simp [renew,renewal]
    rw [grants,List.foldl_cons,← grants,ih,one]
    rfl

/-- The row has an end, and it is the one that counts. -/
def Paid (uid : Int) (tables : Tables) (user : UserRow) : Prop :=
  getUser uid tables = some user ∧ user.subExpiresAt = some (expires uid tables)

theorem paid_grant (tables : Tables) (order : Grant) :
    ∃ user, Paid uid (grant uid tables order) user := by
  obtain ⟨user,found,_⟩ := getUser_grant uid tables order
  refine ⟨_,found,?_⟩
  rw [expires_grant]
  rfl

variable {uid} in
theorem paid_grants {tables : Tables} {user : UserRow} (paid : Paid uid tables user)
    (orders : List Grant) : ∃ user, Paid uid (grants uid tables orders) user := by
  induction orders generalizing tables user with
  | nil => exact ⟨user,paid⟩
  | cons order orders ih =>
    obtain ⟨next,paid⟩ := paid_grant uid tables order
    exact ih paid

def banned (tables : Tables) : Bool := ((getUser uid tables).map UserRow.isBanned).getD false

theorem banned_grants (tables : Tables) (orders : List Grant) :
    banned uid (grants uid tables orders) = banned uid tables := by
  induction orders generalizing tables with
  | nil => rfl
  | cons order orders ih =>
    obtain ⟨user,found,same⟩ := getUser_grant uid tables order
    rw [grants,List.foldl_cons,← grants,ih,banned,found]
    exact same

section
variable {uid} {tables : Tables} {first : Grant} {rest : List Grant} {instant : ℝ}

theorem paid_since (since : (first.time : ℝ) ≤ instant) : ∃ user,
    rowAt uid tables (first :: rest) instant = some user ∧ ∃ exp : Int,
      user.subExpiresAt = some exp ∧ (exp : ℝ) =
        expiryAt (expires uid tables) ((first :: rest).map renewal) instant := by
  have made : (first :: rest).filter (fun order => (order.time : ℝ) ≤ instant) =
      first :: rest.filter (fun order => (order.time : ℝ) ≤ instant) := by simp [since]
  obtain ⟨_,begun⟩ := paid_grant uid tables first
  obtain ⟨user,found,ends⟩ :=
    paid_grants begun (rest.filter fun order => (order.time : ℝ) ≤ instant)
  refine ⟨user,?_,_,ends,?_⟩
  · rw [rowAt,made]
    exact found
  · have all := expires_grants uid tables
      ((first :: rest).filter fun order => (order.time : ℝ) ≤ instant)
    rw [expiryAt,List.filter_map]
    rw [made] at all
    exact all.trans (by rw [← made]; rfl)

theorem active_since (since : (first.time : ℝ) ≤ instant) :
    (∃ user ∈ rowAt uid tables (first :: rest) instant, Active instant user) ↔
      instant < expiryAt (expires uid tables) ((first :: rest).map renewal) instant := by
  obtain ⟨user,found,exp,held,ends⟩ := @paid_since uid tables first rest instant since
  rw [← ends,found]
  simp [Active,held]

theorem access_since (since : (first.time : ℝ) ≤ instant) (free : banned uid tables = false) :
    (∃ user ∈ rowAt uid tables (first :: rest) instant, hasAccess instant user .paid = true) ↔
      ∃ user ∈ rowAt uid tables (first :: rest) instant, Active instant user := by
  obtain ⟨user,found,exp,held,_⟩ := @paid_since uid tables first rest instant since
  have unbanned : user.isBanned = false := by
    have kept := banned_grants uid tables
      ((first :: rest).filter fun order => (order.time : ℝ) ≤ instant)
    rw [banned,show getUser uid _ = some user from found,free] at kept
    exact kept
  have past : (0 : ℝ) ≤ instant := le_trans (Nat.cast_nonneg _) since
  rw [found]
  simp only [Option.mem_def,Option.some.injEq,exists_eq_left',hasAccess,unbanned,Active,held]
  by_cases ended : exp = 0
  · subst ended
    simpa using past
  · simp [ended]

theorem expires_of_inactive
    (inactive : ∀ user ∈ getUser uid tables, ¬ Active (first.time : ℝ) user) :
    (expires uid tables : ℝ) ≤ first.time := by
  unfold expires
  cases found : getUser uid tables with
  | none => simp
  | some user =>
    have ended := inactive user found
    cases held : user.subExpiresAt with
    | none => simp [held]
    | some exp =>
      rw [Active,held] at ended
      simpa [held] using ended

theorem sum_lengths (orders : List Grant) :
    ((orders.map renewal).map Renewal.length).sum =
      ((86400 * (orders.map Grant.days).sum : Nat) : ℝ) := by
  induction orders with
  | nil => simp
  | cons order orders ih =>
    simp only [List.map_cons,List.sum_cons,ih,renewal]
    push_cast
    ring

end

private theorem volume_active {uid : Int} {tables : Tables} {first : Grant} {rest : List Grant}
    (ordered : (first :: rest).Pairwise fun one two => one.time ≤ two.time)
    (inactive : ∀ user ∈ getUser uid tables, ¬ Active (first.time : ℝ) user) :
    volume {instant : ℝ | first.time < instant ∧
        ∃ user ∈ rowAt uid tables (first :: rest) instant, Active instant user} =
      ((86400 * ((first :: rest).map Grant.days).sum : Nat) : ENNReal) := by
  have whole : {instant : ℝ | first.time < instant ∧
      ∃ user ∈ rowAt uid tables (first :: rest) instant, Active instant user} =
        covered first.time (expires uid tables) ((first :: rest).map renewal) \
          {(first.time : ℝ)} := by
    ext instant
    simp only [Set.mem_sdiff,Set.mem_singleton_iff,covered,Set.mem_ofPred_eq]
    constructor
    · intro active
      exact ⟨⟨active.1.le,(active_since active.1.le).mp active.2⟩,active.1.ne'⟩
    · intro inside
      exact ⟨lt_of_le_of_ne inside.1.1 (Ne.symm inside.2),(active_since inside.1.1).mpr inside.1.2⟩
  have sorted : Ordered ((first :: rest).map renewal) := by
    refine List.pairwise_map.mpr (ordered.imp ?_)
    intro one two earlier
    exact Nat.cast_le.mpr earlier
  have late : ∀ period ∈ (first :: rest).map renewal, (first.time : ℝ) ≤ period.time := by
    intro period member
    obtain ⟨order,listed,rfl⟩ := List.mem_map.mp member
    rcases List.mem_cons.mp listed with rfl | tail
    · exact le_rfl
    · exact Nat.cast_le.mpr (List.rel_of_pairwise_cons ordered tail)
  have lengths : ∀ period ∈ (first :: rest).map renewal, 0 ≤ period.length := by
    intro period member
    obtain ⟨order,_,rfl⟩ := List.mem_map.mp member
    exact Nat.cast_nonneg _
  have nothing : max 0 ((expires uid tables : ℝ) - first.time) = 0 := by
    have past := expires_of_inactive inactive
    exact max_eq_left (by linarith)
  rw [whole,measure_sdiff_null Real.volume_singleton,volume_covered sorted late lengths,nothing,
    zero_add,sum_lengths,ENNReal.ofReal_natCast]

/-- The subscription is active for exactly the days that were granted, and every grant leaves
its own limit, no notice sent and an activation to tell of. -/
theorem paid_time (uid : Int) (tables : Tables) (first : Grant) (rest : List Grant)
    (ordered : (first :: rest).Pairwise fun one two => one.time ≤ two.time)
    (inactive : ∀ user ∈ getUser uid tables, ¬ Active (first.time : ℝ) user) :
    volume {instant : ℝ | first.time < instant ∧
        ∃ user ∈ rowAt uid tables (first :: rest) instant, Active instant user} =
      ((86400 * ((first :: rest).map Grant.days).sum : Nat) : ENNReal) ∧
    (banned uid tables = false → volume {instant : ℝ | first.time < instant ∧
        ∃ user ∈ rowAt uid tables (first :: rest) instant, hasAccess instant user .paid = true} =
      ((86400 * ((first :: rest).map Grant.days).sum : Nat) : ENNReal)) ∧
    ∀ done order later, first :: rest = done ++ order :: later →
      ∃ user, getUser uid (grants uid tables (done ++ [order])) = some user ∧
        user.subMaxHosts = order.maxHosts ∧ user.n3 = false ∧ user.n1 = false ∧
        user.nexp = false ∧ user.notifyPending = true := by
  refine ⟨volume_active ordered inactive,?_,?_⟩
  · intro free
    rw [← volume_active ordered inactive]
    congr 1
    ext instant
    exact and_congr_right fun after => access_since after.le free
  · intro done order later _
    obtain ⟨user,found,_⟩ := getUser_grant uid (grants uid tables done) order
    have last : grants uid tables (done ++ [order]) = grant uid (grants uid tables done) order := by
      rw [grants,List.foldl_append]
      rfl
    exact ⟨_,(congrArg (getUser uid) last).trans found,rfl,rfl,rfl,rfl,rfl⟩

def history : List Grant := [⟨0,1,3⟩,⟨43200,1,5⟩,⟨200000,2,4⟩]

theorem paid_time_history : volume {instant : ℝ | 0 < instant ∧
    ∃ user ∈ rowAt 7 Database.empty history instant, Active instant user} = 345600 := by
  have total := (paid_time 7 Database.empty ⟨0,1,3⟩ [⟨43200,1,5⟩,⟨200000,2,4⟩] (by decide)
    (by simp [getUser,Database.empty])).1
  simpa [history] using total

end AtronixX.PaidTime
