import AtronixX.Library.Transition
import AtronixX.Database

/-! `ensure_user` of a user's first update beside what the admin does to the same user by
id: `grant`, or `ensure_placeholder` and `set_banned`. One statement at a time; all three
insert the row that their first statement did not find. -/
namespace AtronixX.FirstContact
open Library.Tables Library.Transition Database

structure Contact where
  uid : Int
  username : Option String
  firstName : Option String
  now : Int
  deriving DecidableEq, Repr

/-- What the admin does, with what the clock shows in `grant` and in `ensure_placeholder`. -/
inductive Order
  | grant (now days maxHosts : Int)
  | ban (now : Int)
  deriving DecidableEq, Repr

def Order.now : Order → Int
  | .grant now _ _ => now
  | .ban now => now

inductive Ensuring
  | reading
  | inserting
  | updating
  | reloading (created : Bool)
  | returned (created : Bool)
  | raised
  deriving DecidableEq, Repr

inductive Ordering
  | reading
  | inserting
  | reloading
  | updating (expiry maxHosts : Int)
  | returning
  | banning
  | returned
  | raised
  deriving DecidableEq, Repr

structure State where
  tables : Tables
  contact : Ensuring
  admin : Ordering

def start (tables : Tables) : State := ⟨tables,.reading,.reading⟩

variable (contact : Contact) (order : Order)

def contactStep (tables : Tables) : Ensuring → Option (Tables × Ensuring)
  | .reading => match getUser contact.uid tables with
    | none => some (tables,.inserting)
    | some user =>
      if outdated user contact.username contact.firstName contact.now then some (tables,.updating)
      else some (tables,.returned false)
  | .inserting => match insertUser contact.uid
      (startedUser contact.username contact.firstName contact.now) tables with
    | none => some (tables,.raised)
    | some inserted => some (inserted,.reloading true)
  | .updating => some (updateUser contact.uid
      (seen contact.username contact.firstName contact.now) tables,.reloading false)
  | .reloading created => some (tables,.returned created)
  | .returned _ => none
  | .raised => none

def Order.next (user : UserRow) : Order → Ordering
  | .grant now days maxHosts =>
    .updating (max now (user.subExpiresAt.getD 0) + days * 86400) maxHosts
  | .ban _ => .banning

/-- `user["sub_expires_at"]` of a row that is not there is a `TypeError`. -/
def adminStep (tables : Tables) : Ordering → Option (Tables × Ordering)
  | .reading => match getUser contact.uid tables with
    | none => some (tables,.inserting)
    | some user => some (tables,order.next user)
  | .inserting => match insertUser contact.uid (freshUser order.now) tables with
    | none => some (tables,.raised)
    | some inserted => some (inserted,match order with
      | .grant _ _ _ => .reloading
      | .ban _ => .banning)
  | .reloading => match getUser contact.uid tables with
    | none => some (tables,.raised)
    | some user => some (tables,order.next user)
  | .updating expiry maxHosts => some (updateUser contact.uid (granted expiry maxHosts) tables,.returning)
  | .returning => some (tables,.returned)
  | .banning => some (setBanned contact.uid true none tables,.returned)
  | .returned => none
  | .raised => none

inductive Side
  | contact
  | admin
  deriving DecidableEq, Repr

def step (state : State) : Side → Option State
  | .contact => (contactStep contact state.tables state.contact).map
    (fun next => ⟨next.1,next.2,state.admin⟩)
  | .admin => (adminStep contact order state.tables state.admin).map
    (fun next => ⟨next.1,state.contact,next.2⟩)

def Ensuring.ended : Ensuring → Bool
  | .returned _ => true
  | .raised => true
  | _ => false

def Ordering.ended : Ordering → Bool
  | .returned => true
  | .raised => true
  | _ => false

def Ended (state : State) : Prop := state.contact.ended = true ∧ state.admin.ended = true

/-- The expiry before the contact, or 0. -/
def previous (before : Tables) : Int :=
  ((getUser contact.uid before).bind UserRow.subExpiresAt).getD 0

/-- The row has what the admin ordered. -/
def Order.obeyed (previous : Int) (user : UserRow) : Order → Prop
  | .grant now days maxHosts =>
    user.subExpiresAt = some (max now previous + days * 86400) ∧ user.subMaxHosts = maxHosts
  | .ban _ => user.isBanned = true

structure Untouched (before after : Tables) : Prop where
  users : ∀ other, other ≠ contact.uid → getUser other after = getUser other before
  rest : after = {before with users := after.users}

structure Served (before : Tables) (state : State) : Prop where
  welcomed : ∃ created, state.contact = .returned created
  ordered : state.admin = .returned
  row : ∃ user, getUser contact.uid state.tables = some user ∧ user.started = true ∧
    order.obeyed (previous contact before) user
  untouched : Untouched contact before state.tables

def Ensuring.fine (user : UserRow) : Ensuring → Prop
  | .reading => True
  | .updating => True
  | .reloading _ => user.started = true
  | .returned _ => user.started = true
  | _ => False

def Ordering.fine (previous : Int) (user : UserRow) : Ordering → Prop
  | .reading => user.subExpiresAt.getD 0 = previous
  | .reloading => user.subExpiresAt.getD 0 = previous
  | .updating expiry maxHosts => ∃ now days, order = .grant now days maxHosts ∧
    expiry = max now previous + days * 86400
  | .banning => ∃ now, order = .ban now
  | .returning => order.obeyed previous user
  | .returned => order.obeyed previous user
  | _ => False

structure Settled (before : Tables) (state : State) : Prop where
  row : ∃ user, getUser contact.uid state.tables = some user ∧ state.contact.fine user ∧
    state.admin.fine order (previous contact before) user
  untouched : Untouched contact before state.tables

/-- One side has lost the race, or will. -/
def Lost (state : State) : Prop :=
  (state.contact = .inserting ∧
    (state.admin = .inserting ∨ (getUser contact.uid state.tables).isSome)) ∨
  (state.admin = .inserting ∧ (getUser contact.uid state.tables).isSome) ∨
  state.contact = .raised ∨ state.admin = .raised

variable {contact order}

theorem Untouched.refl (tables : Tables) : Untouched contact tables tables := ⟨fun _ _ => rfl,rfl⟩

theorem Untouched.update {before after : Tables} (untouched : Untouched contact before after)
    (change : UserRow → UserRow) : Untouched contact before (updateUser contact.uid change after) := by
  refine ⟨?_,?_⟩
  · intro other differs
    rw [getUser_updateUser,← untouched.users other differs]
    simp [differs]
  · rw [untouched.rest]
    rfl

theorem Untouched.insert {before after inserted : Tables}
    (untouched : Untouched contact before after) {row : UserRow}
    (done : insertUser contact.uid row after = some inserted) :
    Untouched contact before inserted := by
  unfold insertUser at done
  split at done
  next => contradiction
  next =>
    cases Option.some.inj done
    refine ⟨?_,?_⟩
    · intro other differs
      rw [← untouched.users other differs]
      exact AList.lookup_insert_ne differs
    · rw [untouched.rest]

theorem fine_seen {previous : Int} {user : UserRow} {admin : Ordering}
    (fine : admin.fine order previous user) (username firstName : Option String) (now : Int) :
    admin.fine order previous (seen username firstName now user) := by
  cases admin <;> exact fine

theorem fine_next {before : Tables} {user : UserRow}
    (unchanged : user.subExpiresAt.getD 0 = previous contact before) :
    (order.next user).fine order (previous contact before) user := by
  cases order with
  | grant now days maxHosts => exact ⟨now,days,by rw [← unchanged]; exact ⟨rfl,rfl⟩⟩
  | ban now => exact ⟨now,rfl⟩

theorem Settled.ensuring {before after : Tables} {state : State} {next : Ensuring}
    (settled : Settled contact order before state)
    (taken : contactStep contact state.tables state.contact = some (after,next)) :
    Settled contact order before ⟨after,next,state.admin⟩ := by
  obtain ⟨⟨user,found,reached,ordered⟩,untouched⟩ := settled
  obtain ⟨tables,ensuring,admin⟩ := state
  dsimp only at found reached ordered untouched taken
  cases ensuring with
  | reading =>
    simp only [contactStep,found] at taken
    split at taken
    · cases taken
      exact ⟨⟨user,found,trivial,ordered⟩,untouched⟩
    · next current =>
      cases taken
      have started : user.started = true := by
        simp only [outdated,Bool.or_eq_true,not_or] at current
        simpa using current.1.2
      exact ⟨⟨user,found,started,ordered⟩,untouched⟩
  | inserting => exact absurd reached id
  | updating =>
    cases taken
    refine ⟨⟨seen contact.username contact.firstName contact.now user,?_,rfl,fine_seen ordered _ _ _⟩,
      untouched.update _⟩
    simp [found]
  | reloading created =>
    cases taken
    exact ⟨⟨user,found,reached,ordered⟩,untouched⟩
  | returned created => contradiction
  | raised => contradiction

theorem Settled.ordering {before after : Tables} {state : State} {next : Ordering}
    (settled : Settled contact order before state)
    (taken : adminStep contact order state.tables state.admin = some (after,next)) :
    Settled contact order before ⟨after,state.contact,next⟩ := by
  obtain ⟨⟨user,found,reached,ordered⟩,untouched⟩ := settled
  obtain ⟨tables,ensuring,admin⟩ := state
  dsimp only at found reached ordered untouched taken
  cases admin with
  | reading =>
    simp only [adminStep,found] at taken
    cases taken
    exact ⟨⟨user,found,reached,fine_next ordered⟩,untouched⟩
  | inserting => exact absurd ordered id
  | reloading =>
    simp only [adminStep,found] at taken
    cases taken
    exact ⟨⟨user,found,reached,fine_next ordered⟩,untouched⟩
  | updating expiry maxHosts =>
    cases taken
    obtain ⟨now,days,ordered,rfl⟩ := ordered
    have row : getUser contact.uid (updateUser contact.uid (granted
        (max now (previous contact before) + days * 86400) maxHosts) tables) =
        some (granted (max now (previous contact before) + days * 86400) maxHosts user) := by
      simp [found]
    refine ⟨⟨_,row,?_,?_⟩,untouched.update _⟩
    · cases ensuring <;> exact reached
    · rw [ordered]
      exact ⟨rfl,rfl⟩
  | returning =>
    cases taken
    exact ⟨⟨user,found,reached,ordered⟩,untouched⟩
  | banning =>
    cases taken
    obtain ⟨now,rfl⟩ := ordered
    have row : getUser contact.uid (setBanned contact.uid true none tables) =
        some {user with isBanned := true, banReason := none} := by
      simp [found]
    refine ⟨⟨_,row,?_,rfl⟩,untouched.update _⟩
    cases ensuring <;> exact reached
  | returned => contradiction
  | raised => contradiction

theorem Settled.step {before : Tables} {state after : State} {side : Side}
    (settled : Settled contact order before state)
    (taken : step contact order state side = some after) : Settled contact order before after := by
  cases side with
  | contact =>
    obtain ⟨next,moved,rfl⟩ := Option.map_eq_some_iff.mp taken
    exact settled.ensuring moved
  | admin =>
    obtain ⟨next,moved,rfl⟩ := Option.map_eq_some_iff.mp taken
    exact settled.ordering moved

theorem Settled.served {before : Tables} {state : State}
    (settled : Settled contact order before state) (ended : Ended state) :
    Served contact order before state := by
  obtain ⟨⟨user,found,reached,ordered⟩,untouched⟩ := settled
  obtain ⟨tables,ensuring,admin⟩ := state
  obtain ⟨finished,finished'⟩ := ended
  dsimp only at found reached ordered untouched finished finished'
  cases ensuring <;> first | contradiction | exact absurd reached id | skip
  cases admin <;> first | contradiction | exact absurd ordered id | skip
  exact ⟨⟨_,rfl⟩,rfl,⟨user,found,reached,ordered⟩,untouched⟩

private theorem inserted_present {uid : Int} {row : UserRow} {tables inserted : Tables}
    (done : insertUser uid row tables = some inserted) :
    getUser uid tables = none ∧ (getUser uid inserted).isSome = true := by
  have fresh := insertUser_isSome uid row tables
  rw [done] at fresh
  exact ⟨Option.isNone_iff_eq_none.mp fresh.symm,by rw [getUser_insertUser _ _ _ _ done]; rfl⟩

private theorem contact_inserting {tables after : Tables} {next : Ensuring}
    (taken : contactStep contact tables .inserting = some (after,next)) :
    next = .raised ∨
      getUser contact.uid tables = none ∧ (getUser contact.uid after).isSome = true := by
  simp only [contactStep] at taken
  split at taken
  next => cases taken; exact .inl rfl
  next inserted done => cases taken; exact .inr (inserted_present done)

private theorem admin_inserting {tables after : Tables} {next : Ordering}
    (taken : adminStep contact order tables .inserting = some (after,next)) :
    next = .raised ∨
      getUser contact.uid tables = none ∧ (getUser contact.uid after).isSome = true := by
  simp only [adminStep] at taken
  split at taken
  next => cases taken; exact .inl rfl
  next inserted done => cases taken; exact .inr (inserted_present done)

private theorem contact_present {tables after : Tables} {ensuring next : Ensuring}
    (present : (getUser contact.uid tables).isSome = true)
    (taken : contactStep contact tables ensuring = some (after,next)) :
    (getUser contact.uid after).isSome = true := by
  obtain ⟨user,found⟩ := Option.isSome_iff_exists.mp present
  cases ensuring with
  | reading =>
    simp only [contactStep,found] at taken
    split at taken <;> cases taken <;> exact present
  | inserting =>
    simp only [contactStep] at taken
    split at taken
    next => cases taken; exact present
    next inserted done => cases taken; exact (inserted_present done).2
  | updating =>
    cases taken
    simp [found]
  | reloading created =>
    cases taken
    exact present
  | returned created => contradiction
  | raised => contradiction

private theorem admin_present {tables after : Tables} {ordering next : Ordering}
    (present : (getUser contact.uid tables).isSome = true)
    (taken : adminStep contact order tables ordering = some (after,next)) :
    (getUser contact.uid after).isSome = true := by
  obtain ⟨user,found⟩ := Option.isSome_iff_exists.mp present
  cases ordering with
  | reading =>
    simp only [adminStep,found] at taken
    cases taken
    exact present
  | inserting =>
    simp only [adminStep] at taken
    split at taken
    next => cases taken; exact present
    next inserted done => cases taken; exact (inserted_present done).2
  | reloading =>
    simp only [adminStep,found] at taken
    cases taken
    exact present
  | updating expiry maxHosts =>
    cases taken
    simp [found]
  | returning =>
    cases taken
    exact present
  | banning =>
    cases taken
    simp [found]
  | returned => contradiction
  | raised => contradiction

theorem Lost.step {state after : State} {side : Side} (lost : Lost contact state)
    (taken : step contact order state side = some after) : Lost contact after := by
  obtain ⟨tables,ensuring,ordering⟩ := state
  cases side with
  | contact =>
    obtain ⟨⟨tables',next⟩,moved,rfl⟩ := Option.map_eq_some_iff.mp taken
    dsimp only at moved
    rcases lost with ⟨rfl,other⟩ | ⟨rfl,present⟩ | rfl | rfl
    · rcases contact_inserting moved with rfl | ⟨absent,present⟩
      · exact .inr (.inr (.inl rfl))
      · rcases other with inserting | present'
        · exact .inr (.inl ⟨inserting,present⟩)
        · rw [absent] at present'
          contradiction
    · exact .inr (.inl ⟨rfl,contact_present present moved⟩)
    · contradiction
    · exact .inr (.inr (.inr rfl))
  | admin =>
    obtain ⟨⟨tables',next⟩,moved,rfl⟩ := Option.map_eq_some_iff.mp taken
    dsimp only at moved
    rcases lost with ⟨rfl,rfl | present⟩ | ⟨rfl,present⟩ | rfl | rfl
    · rcases admin_inserting moved with rfl | ⟨_,present⟩
      · exact .inr (.inr (.inr rfl))
      · exact .inl ⟨rfl,.inr present⟩
    · exact .inl ⟨rfl,.inr (admin_present present moved)⟩
    · rcases admin_inserting moved with rfl | ⟨absent,_⟩
      · exact .inr (.inr (.inr rfl))
      · rw [absent] at present
        contradiction
    · exact .inr (.inr (.inl rfl))
    · contradiction

theorem Lost.not_served {before : Tables} {state : State} (lost : Lost contact state) :
    ¬ Served contact order before state := by
  rintro ⟨⟨created,reached⟩,ordered,_⟩
  rcases lost with ⟨inserting,_⟩ | ⟨inserting,_⟩ | raised | raised
  · rw [reached] at inserting
    contradiction
  · rw [ordered] at inserting
    contradiction
  · rw [reached] at raised
    contradiction
  · rw [ordered] at raised
    contradiction

private theorem first_step {before middle : Tables} {ensuring : Ensuring} {ordering : Ordering}
    (absent : getUser contact.uid before = none) {side : Side}
    (taken : step contact order (start before) side = some ⟨middle,ensuring,ordering⟩) :
    middle = before ∧ match side with
      | .contact => ensuring = .inserting ∧ ordering = .reading
      | .admin => ensuring = .reading ∧ ordering = .inserting := by
  cases side with
  | contact =>
    simp only [step,start,contactStep,absent,Option.map_some,Option.some.injEq,
      State.mk.injEq] at taken
    obtain ⟨rfl,rfl,rfl⟩ := taken
    exact ⟨rfl,rfl,rfl⟩
  | admin =>
    simp only [step,start,adminStep,absent,Option.map_some,Option.some.injEq,
      State.mk.injEq] at taken
    obtain ⟨rfl,rfl,rfl⟩ := taken
    exact ⟨rfl,rfl,rfl⟩

theorem first_two {before : Tables} (absent : getUser contact.uid before = none) {one two : Side}
    {middle after : State} (first : step contact order (start before) one = some middle)
    (second : step contact order middle two = some after) :
    if one = two then Settled contact order before after else Lost contact after := by
  obtain ⟨tables,ensuring,ordering⟩ := middle
  obtain ⟨rfl,at_⟩ := first_step absent first
  have free (row : UserRow) : ∃ inserted, insertUser contact.uid row tables = some inserted := by
    rw [← Option.isSome_iff_exists,insertUser_isSome,absent]
    rfl
  cases one with
  | contact =>
    obtain ⟨rfl,rfl⟩ := at_
    cases two with
    | contact =>
      obtain ⟨inserted,done⟩ := free (startedUser contact.username contact.firstName contact.now)
      simp only [step,contactStep,done,Option.map_some,Option.some.injEq] at second
      subst second
      refine ⟨⟨_,getUser_insertUser _ _ _ _ done,rfl,?_⟩,(Untouched.refl tables).insert done⟩
      simp [Ordering.fine,previous,absent,startedUser,freshUser]
    | admin =>
      simp only [step,adminStep,absent,Option.map_some,Option.some.injEq] at second
      subst second
      exact .inl ⟨rfl,.inl rfl⟩
  | admin =>
    obtain ⟨rfl,rfl⟩ := at_
    cases two with
    | contact =>
      simp only [step,contactStep,absent,Option.map_some,Option.some.injEq] at second
      subst second
      exact .inl ⟨rfl,.inl rfl⟩
    | admin =>
      obtain ⟨inserted,done⟩ := free (freshUser order.now)
      simp only [step,adminStep,done,Option.map_some,Option.some.injEq] at second
      subst second
      refine ⟨⟨_,getUser_insertUser _ _ _ _ done,trivial,?_⟩,(Untouched.refl tables).insert done⟩
      cases order with
      | grant now days maxHosts => simp [Ordering.fine,previous,absent,freshUser]
      | ban now => exact ⟨now,rfl⟩

/-- A complete interleaving serves both sides exactly when the row was there, or when the
side that goes first inserts before the other has looked. -/
theorem served_iff (contact : Contact) (order : Order) (before : Tables) (schedule : List Side)
    (final : State) (ran : schedule.foldlM (step contact order) (start before) = some final)
    (ended : Ended final) : Served contact order before final ↔
      (getUser contact.uid before).isSome = true ∨ schedule[0]? = schedule[1]? := by
  cases found : getUser contact.uid before with
  | some user =>
    have settled : Settled contact order before (start before) :=
      ⟨⟨user,found,trivial,by simp [start,Ordering.fine,previous,found]⟩,.refl before⟩
    have last : Settled contact order before final :=
      run_invariant (fun _ _ _ settled taken => settled.step taken) schedule settled ran
    simp [last.served ended]
  | none =>
    match schedule,ran with
    | [],ran =>
      cases Option.some.inj ran
      cases ended.1
    | [one],ran =>
      have first : step contact order (start before) one = some final := by simpa using ran
      obtain ⟨tables,ensuring,ordering⟩ := final
      have at_ := (first_step found first).2
      cases one with
      | contact =>
        obtain ⟨rfl,rfl⟩ := at_
        cases ended.2
      | admin =>
        obtain ⟨rfl,rfl⟩ := at_
        cases ended.1
    | one :: two :: rest,ran =>
      obtain ⟨middle,first,ran⟩ := Option.bind_eq_some_iff.mp ran
      obtain ⟨after,second,ran⟩ := Option.bind_eq_some_iff.mp ran
      have both := first_two found first second
      by_cases same : one = two
      · rw [if_pos same] at both
        have last : Settled contact order before final :=
          run_invariant (fun _ _ _ settled taken => settled.step taken) rest both ran
        simp [last.served ended,same]
      · rw [if_neg same] at both
        have last : Lost contact final :=
          run_invariant (fun _ _ _ lost taken => lost.step taken) rest both ran
        simp [last.not_served,same]

def sam : Contact := ⟨5,none,some "Sam",100⟩

def tenDays : Order := .grant 100 10 3

theorem served_iff_inserted : ∃ final,
    [.contact,.contact,.admin,.contact,.admin,.admin].foldlM (step sam tenDays)
        (start Database.empty) = some final ∧ Served sam tenDays Database.empty final := by
  obtain ⟨final,ran,contact,admin⟩ : ∃ final,
      [.contact,.contact,.admin,.contact,.admin,.admin].foldlM (step sam tenDays)
          (start Database.empty) = some final ∧
        final.contact.ended = true ∧ final.admin.ended = true := ⟨_,rfl,rfl,rfl⟩
  exact ⟨final,ran,(served_iff sam tenDays Database.empty _ final ran ⟨contact,admin⟩).mpr
    (.inr rfl)⟩

/-- Both look before either inserts: `ensure_user` raises. -/
theorem both_insert : ¬ ∀ (contact : Contact) (order : Order) (before : Tables)
    (schedule : List Side) (final : State),
    schedule.foldlM (step contact order) (start before) = some final → Ended final →
      Served contact order before final := by
  intro claimed
  obtain ⟨final,ran,contact,admin⟩ : ∃ final,
      [.contact,.admin,.admin,.contact,.admin,.admin,.admin].foldlM (step sam tenDays)
          (start Database.empty) = some final ∧
        final.contact = .raised ∧ final.admin = .returned := ⟨_,rfl,rfl,rfl⟩
  obtain ⟨created,returned⟩ := (claimed sam tenDays Database.empty _ final ran
    ⟨by rw [contact]; rfl,by rw [admin]; rfl⟩).welcomed
  rw [contact] at returned
  contradiction

end AtronixX.FirstContact
