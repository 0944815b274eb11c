import AtronixX.FirstContact

/-! `_subscription_notices` of `core/housekeeping.py` beside calls of `grant` and `revoke`, one
statement or one message at a time. A pass reads all subscribers once and works on these rows.
The clock counts microseconds. -/
namespace AtronixX.Notices
open Library.Tables Library.Transition Database FirstContact

inductive Flag
  | n3
  | n1
  | nexp
  deriving DecidableEq, Repr

def Flag.get (user : UserRow) : Flag → Bool
  | .n3 => user.n3
  | .n1 => user.n1
  | .nexp => user.nexp

def Flag.mark (user : UserRow) : Flag → UserRow
  | .n3 => {user with n3 := true}
  | .n1 => {user with n1 := true}
  | .nexp => {user with nexp := true}

def markNotified (uid : Int) (flag : Flag) (tables : Tables) : Tables :=
  updateUser uid (fun user => flag.mark user) tables

def revoke (uid : Int) (tables : Tables) : Tables :=
  updateUser uid (fun user => {user with subExpiresAt := none, subMaxHosts := 0}) tables

def usersWithSubscription (tables : Tables) : List (Row Int UserRow) :=
  tables.users.entries.filter (fun row => row.2.subExpiresAt.isSome)

inductive Notice
  | threeDays
  | oneDay
  | expired
  deriving DecidableEq, Repr

/-- What may be left of the subscription, in seconds. -/
def Notice.threshold : Notice → Int
  | .threeDays => 3 * 86400
  | .oneDay => 86400
  | .expired => 0

def Notice.flag : Notice → Flag
  | .threeDays => .n3
  | .oneDay => .n1
  | .expired => .nexp

/-- The calls of `mark_notified` before the message. -/
def Notice.marks : Notice → List Flag
  | .threeDays => [.n3]
  | .oneDay => [.n1,.n3]
  | .expired => [.nexp]

def second : Int := 1000000

def Notice.satisfied (notice : Notice) (expires : Int) (clock : Nat) : Prop :=
  expires * second - clock ≤ notice.threshold * second

/-- The notice that a row gets in a pass that began at `now`. -/
def due (adminId : Int) (now : Nat) (row : Row Int UserRow) : Option Notice :=
  let user := row.2
  if !user.started || user.isBanned || row.1 == adminId then none
  else match user.subExpiresAt with
    | none => none
    | some expires =>
      let left := expires * second - now
      if left ≤ 0 then if user.nexp then none else some .expired
      else if left ≤ 86400 * second then if user.n1 then none else some .oneDay
      else if left ≤ 3 * 86400 * second then if user.n3 then none else some .threeDays
      else none

/-- The rows still to be visited, what the clock showed, and the grants made before they
were read. -/
structure Pass where
  now : Nat
  granted : List Int
  rows : List (Row Int UserRow)

/-- Where the pass is. A user to be notified has the columns still to be marked. -/
inductive Phase
  | idle
  | timing
  | reading (now : Nat)
  | visiting (pass : Pass)
  | notifying (pass : Pass) (uid : Int) (notice : Notice) (marks : List Flag)
  | reporting (pass : Pass)

structure Call where
  uid : Int
  now : Int
  days : Int
  maxHosts : Int
  position : FirstContact.Ordering

/-- A period is counted by the grants that the user got before it. -/
inductive Event
  | marked (uid : Int) (flag : Flag) (period : Nat)
  | sent (uid : Int) (notice : Notice) (period : Nat) (stored : Option Int) (clock : Nat)
  deriving DecidableEq, Repr

structure State where
  tables : Tables
  clock : Nat
  phase : Phase
  calls : List Call
  granted : List Int
  history : List Event

def start (tables : Tables) (clock : Nat) : State := ⟨tables,clock,.idle,[],[],[]⟩

def State.period (state : State) (uid : Int) : Nat := state.granted.count uid

def Pass.period (pass : Pass) (uid : Int) : Nat := pass.granted.count uid

inductive Action
  | tick (elapsed : Nat)
  | pass
  | fail
  | call (uid days maxHosts : Int)
  | grant (index : Nat)
  | revoke (uid : Int)
  deriving DecidableEq, Repr

def visit (adminId : Int) (pass : Pass) : Phase :=
  match pass.rows with
  | [] => .idle
  | row :: rows => match due adminId pass.now row with
    | none => .visiting {pass with rows := rows}
    | some notice => .notifying {pass with rows := rows} row.1 notice notice.marks

def passStep (adminId : Int) (state : State) : State :=
  match state.phase with
  | .idle => if getMode state.tables = .paid then {state with phase := .timing} else state
  | .timing => {state with phase := .reading state.clock}
  | .reading now =>
    {state with phase := .visiting ⟨now,state.granted,usersWithSubscription state.tables⟩}
  | .visiting pass => {state with phase := visit adminId pass}
  | .notifying pass uid notice (flag :: marks) =>
    {state with
      tables := markNotified uid flag state.tables
      phase := .notifying pass uid notice marks
      history := .marked uid flag (pass.period uid) :: state.history}
  | .notifying pass uid notice [] =>
    {state with
      -- the admin is told of an end only
      phase := if notice = .expired then .reporting pass else .visiting pass
      history := .sent uid notice (state.period uid)
        ((getUser uid state.tables).bind UserRow.subExpiresAt) state.clock :: state.history}
  | .reporting pass => {state with phase := .visiting pass}

def Call.contact (call : Call) : Contact := ⟨call.uid,none,none,call.now⟩

def Call.order (call : Call) : Order := .grant call.now call.days call.maxHosts

/-- The next statement of `grant` changes the subscription. -/
def Call.opens (call : Call) : Bool :=
  match call.position with
  | .updating _ _ => true
  | _ => false

def grantStep (state : State) (index : Nat) (call : Call) : Option State :=
  (adminStep call.contact call.order state.tables call.position).map (fun next =>
    {state with
      tables := next.1
      calls := state.calls.set index {call with position := next.2}
      granted := if call.opens then call.uid :: state.granted else state.granted})

def step (adminId : Int) (state : State) : Action → Option State
  | .tick elapsed => some {state with clock := state.clock + elapsed}
  | .pass => some (passStep adminId state)
  | .fail => some {state with phase := .idle}
  | .call uid days maxHosts =>
    some {state with calls := ⟨uid,state.clock / 1000000,days,maxHosts,.reading⟩ :: state.calls}
  | .grant index => state.calls[index]?.bind (grantStep state index)
  | .revoke uid => some {state with tables := Notices.revoke uid state.tables}

def Event.isSent (uid : Int) (notice : Notice) (period : Nat) : Event → Bool
  | .sent other notice' period' _ _ => other == uid && notice' == notice && period' == period
  | _ => false

/-- How often the notice was sent in the period. -/
def sentIn (uid : Int) (notice : Notice) (period : Nat) (history : List Event) : Nat :=
  history.countP (Event.isSent uid notice period)

structure Right (before : Tables) (state : State) : Prop where
  timely : ∀ uid notice period stored clock, .sent uid notice period stored clock ∈ state.history →
    ∃ expires, stored = some expires ∧ notice.satisfied expires clock
  once : ∀ uid notice period, sentIn uid notice period state.history ≤ 1
  current : ∀ uid user flag, getUser uid state.tables = some user → flag.get user = true →
    .marked uid flag (state.period uid) ∈ state.history ∨
      state.period uid = 0 ∧ (getUser uid before).any (fun user => flag.get user) = true

def Pass.owes (adminId uid : Int) (pass : Pass) : Bool :=
  pass.rows.any (fun row => row.1 == uid && (due adminId pass.now row).isSome)

def Phase.owes (adminId uid : Int) : Phase → Bool
  | .visiting pass => pass.owes adminId uid
  | .notifying pass other _ _ => other == uid || pass.owes adminId uid
  | .reporting pass => pass.owes adminId uid
  | _ => false

def renewed (state : State) : Action → Option Int
  | .grant index => (state.calls[index]?.filter Call.opens).map Call.uid
  | .revoke uid => some uid
  | _ => none

def Undisturbed (adminId : Int) (state : State) (action : Action) : Prop :=
  (renewed state action).all (fun uid => !state.phase.owes adminId uid) = true

instance (adminId : Int) (state : State) (action : Action) :
    Decidable (Undisturbed adminId state action) :=
  inferInstanceAs (Decidable (_ = true))

/-- A row keeps its expiry and its flags; a new row has no flag set. -/
structure Keeps (before after : Tables) (uid : Int) : Prop where
  row : ∀ user, getUser uid before = some user → ∃ user', getUser uid after = some user' ∧
    user'.subExpiresAt = user.subExpiresAt ∧ ∀ flag : Flag, flag.get user' = flag.get user
  fresh : getUser uid before = none → ∀ user, getUser uid after = some user →
    ∀ flag : Flag, flag.get user = false

theorem Keeps.refl (tables : Tables) (uid : Int) : Keeps tables tables uid := by
  constructor
  · intro user found
    exact ⟨user,found,rfl,fun _ => rfl⟩
  · intro absent user found
    rw [absent] at found
    contradiction

theorem Keeps.update {uid other : Int} {change : UserRow → UserRow} (tables : Tables)
    (keeps : other = uid → ∀ user, (change user).subExpiresAt = user.subExpiresAt ∧
      ∀ flag : Flag, flag.get (change user) = flag.get user) :
    Keeps tables (updateUser uid change tables) other := by
  constructor
  · intro user found
    rw [getUser_updateUser,found]
    by_cases same : other = uid
    · exact ⟨_,rfl,by simpa [same] using keeps same user⟩
    · exact ⟨_,rfl,by simp [same]⟩
  · intro absent user found
    simp [absent] at found

theorem Keeps.insert {uid other : Int} {row : UserRow} {tables inserted : Tables}
    (unmarked : ∀ flag : Flag, flag.get row = false)
    (done : insertUser uid row tables = some inserted) : Keeps tables inserted other := by
  by_cases same : other = uid
  · subst same
    have absent : getUser other tables = none := by
      have possible := insertUser_isSome other row tables
      rw [done] at possible
      exact Option.isNone_iff_eq_none.mp possible.symm
    constructor
    · intro user found
      rw [absent] at found
      contradiction
    · intro _ user found flag
      rw [getUser_insertUser _ _ _ _ done] at found
      rw [← Option.some.inj found]
      exact unmarked flag
  · have unchanged : getUser other inserted = getUser other tables := by
      unfold insertUser at done
      split at done
      next => contradiction
      next =>
        rw [← Option.some.inj done]
        exact AList.lookup_insert_ne same
    constructor
    · intro user found
      exact ⟨user,by rw [unchanged,found],rfl,fun _ => rfl⟩
    · intro none user found
      rw [unchanged,none] at found
      contradiction

theorem grant_effect {call : Call} {tables after : Tables} {position : FirstContact.Ordering}
    (taken : adminStep call.contact call.order tables call.position = some (after,position)) :
    (call.opens = false ∧ ∀ uid, Keeps tables after uid) ∨
      call.opens = true ∧
        ∃ expiry maxHosts, after = updateUser call.uid (granted expiry maxHosts) tables := by
  obtain ⟨uid,now,days,maxHosts,current⟩ := call
  have fresh : ∀ flag : Flag, flag.get (freshUser now) = false := by
    intro flag
    cases flag <;> rfl
  cases current with
  | updating expiry maxHosts =>
    cases taken
    exact .inr ⟨rfl,expiry,maxHosts,rfl⟩
  | reading =>
    simp only [adminStep] at taken
    split at taken <;> cases taken <;> exact .inl ⟨rfl,fun _ => .refl _ _⟩
  | inserting =>
    simp only [adminStep] at taken
    split at taken
    next =>
      cases taken
      exact .inl ⟨rfl,fun _ => .refl _ _⟩
    next inserted done =>
      cases taken
      exact .inl ⟨rfl,fun _ => .insert fresh done⟩
  | reloading =>
    simp only [adminStep] at taken
    split at taken <;> cases taken <;> exact .inl ⟨rfl,fun _ => .refl _ _⟩
  | returning =>
    cases taken
    exact .inl ⟨rfl,fun _ => .refl _ _⟩
  | banning =>
    cases taken
    refine .inl ⟨rfl,fun _ => .update _ ?_⟩
    intro _ user
    exact ⟨rfl,fun flag => by cases flag <;> rfl⟩
  | returned => contradiction
  | raised => contradiction

/-- A notice that the pass has still to send is due and was not sent in this period. -/
structure Owed (state : State) (pass : Pass) (uid : Int) (notice : Notice) : Prop where
  stored : ∃ user expires, getUser uid state.tables = some user ∧
    user.subExpiresAt = some expires ∧ notice.satisfied expires pass.now
  period : pass.period uid = state.period uid
  unsent : sentIn uid notice (state.period uid) state.history = 0

structure Ready (adminId : Int) (state : State) (pass : Pass) : Prop where
  clock : pass.now ≤ state.clock
  distinct : pass.rows.NodupKeys
  owed : ∀ row ∈ pass.rows, ∀ notice, due adminId pass.now row = some notice →
    Owed state pass row.1 notice

def Placed (adminId : Int) (state : State) : Phase → Prop
  | .idle => True
  | .timing => True
  | .reading now => now ≤ state.clock
  | .visiting pass => Ready adminId state pass
  | .notifying pass uid notice marks =>
    Ready adminId state pass ∧ uid ∉ pass.rows.keys ∧ Owed state pass uid notice ∧
      (notice.flag ∈ marks ∨
        ∃ user, getUser uid state.tables = some user ∧ notice.flag.get user = true)
  | .reporting pass => Ready adminId state pass

structure Good (adminId : Int) (before : Tables) (state : State) : Prop where
  right : Right before state
  flagged : ∀ uid notice, 0 < sentIn uid notice (state.period uid) state.history →
    ∃ user, getUser uid state.tables = some user ∧ notice.flag.get user = true
  later : ∀ uid notice period, state.period uid < period →
    sentIn uid notice period state.history = 0
  placed : Placed adminId state state.phase

structure Alike (state after : State) (uid : Int) : Prop where
  keeps : Keeps state.tables after.tables uid
  period : after.period uid = state.period uid
  sent : ∀ notice period, sentIn uid notice period after.history =
    sentIn uid notice period state.history

variable {adminId : Int} {before : Tables} {state after : State}

theorem Owed.alike {pass : Pass} {uid : Int} {notice : Notice}
    (owed : Owed state pass uid notice) (alike : Alike state after uid) :
    Owed after pass uid notice := by
  obtain ⟨⟨user,expires,found,until_,satisfied⟩,period,unsent⟩ := owed
  obtain ⟨user',found',same,_⟩ := alike.keeps.row user found
  constructor
  · exact ⟨user',expires,found',by rw [same,until_],satisfied⟩
  · rw [period,alike.period]
  · rw [alike.period,alike.sent,unsent]

theorem Ready.alike {pass : Pass} (ready : Ready adminId state pass)
    (clock : state.clock ≤ after.clock)
    (alike : ∀ uid, pass.owes adminId uid = true → Alike state after uid) :
    Ready adminId after pass := by
  constructor
  · have before := ready.clock
    omega
  · exact ready.distinct
  · intro row member notice isDue
    apply (ready.owed row member notice isDue).alike
    apply alike
    unfold Pass.owes
    rw [List.any_eq_true]
    exact ⟨row,member,by simp [isDue]⟩

theorem Placed.alike {phase : Phase} (placed : Placed adminId state phase)
    (clock : state.clock ≤ after.clock)
    (alike : ∀ uid, phase.owes adminId uid = true → Alike state after uid) :
    Placed adminId after phase := by
  cases phase with
  | idle => trivial
  | timing => trivial
  | reading now => exact Nat.le_trans placed clock
  | visiting pass => exact Ready.alike placed clock alike
  | reporting pass => exact Ready.alike placed clock alike
  | notifying pass uid notice marks =>
    obtain ⟨ready,absent,owed,marked⟩ := placed
    have here : Alike state after uid := alike uid (by simp [Phase.owes])
    refine ⟨ready.alike clock ?_,absent,owed.alike here,?_⟩
    · intro other owes
      apply alike
      simp [Phase.owes,owes]
    · apply marked.imp_right
      intro set
      obtain ⟨user,found,flag⟩ := set
      obtain ⟨user',found',_,flags⟩ := here.keeps.row user found
      exact ⟨user',found',by rw [flags,flag]⟩

theorem Good.quiet (good : Good adminId before state)
    (keeps : ∀ uid, Keeps state.tables after.tables uid) (granted : after.granted = state.granted)
    (history : after.history = state.history)
    (placed : Placed adminId after after.phase) : Good adminId before after := by
  have period (uid : Int) : after.period uid = state.period uid := by
    simp [State.period,granted]
  constructor
  · constructor
    · rw [history]
      exact good.right.timely
    · rw [history]
      exact good.right.once
    · intro uid user flag found set
      rw [history,period]
      cases earlier : getUser uid state.tables with
      | none =>
        rw [(keeps uid).fresh earlier user found] at set
        contradiction
      | some user' =>
        obtain ⟨same,found',_,flags⟩ := (keeps uid).row user' earlier
        rw [found] at found'
        cases found'
        exact good.right.current uid user' flag earlier (by rw [← flags,set])
  · intro uid notice sent
    rw [history,period] at sent
    obtain ⟨user,found,set⟩ := good.flagged uid notice sent
    obtain ⟨user',found',_,flags⟩ := (keeps uid).row user found
    exact ⟨user',found',by rw [flags,set]⟩
  · intro uid notice later
    rw [history,period]
    exact good.later uid notice later
  · exact placed

theorem Good.opened (good : Good adminId before state) {uid expiry maxHosts : Int}
    (spared : state.phase.owes adminId uid = false)
    (tables : after.tables = updateUser uid (granted expiry maxHosts) state.tables)
    (opened : after.granted = uid :: state.granted) (history : after.history = state.history)
    (clock : after.clock = state.clock) (phase : after.phase = state.phase) :
    Good adminId before after := by
  have here : after.period uid = state.period uid + 1 := by
    simp [State.period,opened]
  have elsewhere (other : Int) (differs : other ≠ uid) :
      getUser other after.tables = getUser other state.tables ∧
        after.period other = state.period other := by
    constructor
    · simp [tables,differs]
    · simp [State.period,opened,Ne.symm differs]
  have cleared (user : UserRow) (found : getUser uid after.tables = some user) (flag : Flag) :
      flag.get user = false := by
    rw [tables,getUser_updateUser] at found
    obtain ⟨earlier,_,same⟩ := Option.map_eq_some_iff.mp found
    rw [← same]
    cases flag <;> simp [Flag.get,granted]
  constructor
  · constructor
    · rw [history]
      exact good.right.timely
    · rw [history]
      exact good.right.once
    · intro other user flag found set
      by_cases same : other = uid
      · subst same
        rw [cleared user found flag] at set
        contradiction
      · rw [(elsewhere other same).1] at found
        rw [history,(elsewhere other same).2]
        exact good.right.current other user flag found set
  · intro other notice sent
    rw [history] at sent
    by_cases same : other = uid
    · subst same
      rw [good.later other notice _ (by omega)] at sent
      contradiction
    · rw [(elsewhere other same).2] at sent
      rw [(elsewhere other same).1]
      exact good.flagged other notice sent
  · intro other notice period later
    rw [history]
    apply good.later
    by_cases same : other = uid
    · subst same
      omega
    · rwa [← (elsewhere other same).2]
  · rw [phase]
    apply good.placed.alike (Nat.le_of_eq clock.symm)
    intro other owes
    have differs : other ≠ uid := by
      intro same
      rw [same,spared] at owes
      contradiction
    have unchanged := elsewhere other differs
    refine ⟨?_,unchanged.2,fun _ _ => by rw [history]⟩
    constructor
    · intro user found
      exact ⟨user,by rw [unchanged.1,found],rfl,fun _ => rfl⟩
    · intro absent user found
      rw [unchanged.1,absent] at found
      contradiction

theorem Good.revoked (good : Good adminId before state) {uid : Int}
    (spared : state.phase.owes adminId uid = false) :
    Good adminId before {state with tables := Notices.revoke uid state.tables} := by
  have rows (other : Int) (user : UserRow)
      (found : getUser other (Notices.revoke uid state.tables) = some user) :
      ∃ earlier, getUser other state.tables = some earlier ∧
        ∀ flag : Flag, flag.get user = flag.get earlier := by
    unfold Notices.revoke at found
    rw [getUser_updateUser] at found
    obtain ⟨earlier,found,same⟩ := Option.map_eq_some_iff.mp found
    refine ⟨earlier,found,?_⟩
    intro flag
    rw [← same]
    split
    next => cases flag <;> rfl
    next => rfl
  constructor
  · constructor
    · exact good.right.timely
    · exact good.right.once
    · intro other user flag found set
      obtain ⟨earlier,present,flags⟩ := rows other user found
      exact good.right.current other earlier flag present (by rw [← flags,set])
  · intro other notice sent
    obtain ⟨user,found,set⟩ := good.flagged other notice sent
    have after : getUser other (Notices.revoke uid state.tables) =
        some (if other == uid then {user with subExpiresAt := none, subMaxHosts := 0} else user) := by
      simp [Notices.revoke,found]
    refine ⟨_,after,?_⟩
    split
    next => cases notice <;> exact set
    next => exact set
  · exact good.later
  · refine Placed.alike good.placed (Nat.le_refl _) ?_
    intro other owes
    have differs : other ≠ uid := by
      intro same
      rw [same,spared] at owes
      contradiction
    refine ⟨?_,rfl,fun _ _ => rfl⟩
    apply Keeps.update
    intro same
    exact absurd same differs

private theorem unmarked_of_due {row : Row Int UserRow} {candidate notice : Notice}
    (isDue : (if candidate.flag.get row.2 then none else some candidate) = some notice) :
    candidate = notice ∧ notice.flag.get row.2 = false := by
  split at isDue
  next => contradiction
  next unmarked =>
    cases isDue
    exact ⟨rfl,Bool.eq_false_iff.mpr unmarked⟩

private theorem due_satisfied {now : Nat} {row : Row Int UserRow} {notice : Notice}
    (isDue : due adminId now row = some notice) :
    notice.flag.get row.2 = false ∧
      ∃ expires, row.2.subExpiresAt = some expires ∧ notice.satisfied expires now := by
  unfold due at isDue
  dsimp only at isDue
  split at isDue
  next => contradiction
  next =>
    split at isDue
    next => contradiction
    next expires until_ =>
      split at isDue
      next ended =>
        obtain ⟨rfl,unmarked⟩ := @unmarked_of_due row .expired notice isDue
        refine ⟨unmarked,expires,until_,?_⟩
        simpa [Notice.satisfied,Notice.threshold] using ended
      next =>
        split at isDue
        next ends =>
          obtain ⟨rfl,unmarked⟩ := @unmarked_of_due row .oneDay notice isDue
          exact ⟨unmarked,expires,until_,ends⟩
        next =>
          split at isDue
          next ends =>
            obtain ⟨rfl,unmarked⟩ := @unmarked_of_due row .threeDays notice isDue
            exact ⟨unmarked,expires,until_,ends⟩
          next => contradiction

private theorem ready_read (good : Good adminId before state) {now : Nat}
    (clock : now ≤ state.clock) :
    Ready adminId state ⟨now,state.granted,usersWithSubscription state.tables⟩ := by
  constructor
  · exact clock
  · exact state.tables.users.nodupKeys.sublist List.filter_sublist
  · intro row member notice isDue
    have found : getUser row.1 state.tables = some row.2 := by
      apply AList.mem_lookup_iff.mpr
      exact List.mem_of_mem_filter member
    obtain ⟨unmarked,expires,until_,satisfied⟩ := due_satisfied isDue
    constructor
    · exact ⟨row.2,expires,found,until_,satisfied⟩
    · rfl
    · apply Nat.eq_zero_of_not_pos
      intro sent
      obtain ⟨user,found',set⟩ := good.flagged row.1 notice sent
      rw [found] at found'
      cases found'
      rw [unmarked] at set
      contradiction

private theorem placed_visit {pass : Pass} (ready : Ready adminId state pass) :
    Placed adminId state (visit adminId pass) := by
  obtain ⟨now,read,rows⟩ := pass
  cases rows with
  | nil => trivial
  | cons row rows =>
    have distinct := ready.distinct
    have rest : Ready adminId state ⟨now,read,rows⟩ := by
      constructor
      · exact ready.clock
      · exact List.nodupKeys_of_nodupKeys_cons distinct
      · intro other member notice isDue
        obtain ⟨stored,period,unsent⟩ :=
          ready.owed other (List.mem_cons_of_mem _ member) notice isDue
        exact ⟨stored,period,unsent⟩
    unfold visit
    dsimp only
    split
    next => exact rest
    next notice isDue =>
      obtain ⟨stored,period,unsent⟩ := ready.owed row List.mem_cons_self notice isDue
      refine ⟨rest,List.notMem_keys_of_nodupKeys_cons distinct,⟨stored,period,unsent⟩,.inl ?_⟩
      cases notice <;> simp [Notice.flag,Notice.marks]

private theorem ready_elsewhere {pass : Pass} {uid : Int} (ready : Ready adminId state pass)
    (absent : uid ∉ pass.rows.keys) (clock : after.clock = state.clock)
    (alike : ∀ other, other ≠ uid → Alike state after other) : Ready adminId after pass := by
  apply ready.alike (Nat.le_of_eq clock.symm)
  intro other owes
  apply alike
  intro same
  apply absent
  unfold Pass.owes at owes
  obtain ⟨row,member,here⟩ := List.any_eq_true.mp owes
  have is : row.1 = other := by
    rw [Bool.and_eq_true] at here
    simpa using here.1
  rw [← same,← is]
  exact List.mem_map_of_mem member

private theorem mark_get (user : UserRow) (flag other : Flag)
    (set : other.get (flag.mark user) = true) : other = flag ∨ other.get user = true := by
  cases flag <;> cases other <;> simp_all [Flag.get,Flag.mark]

private theorem mark_keeps (user : UserRow) (flag other : Flag)
    (set : other = flag ∨ other.get user = true) : other.get (flag.mark user) = true := by
  cases flag <;> cases other <;> simp_all [Flag.get,Flag.mark]

private theorem mark_expires (user : UserRow) (flag : Flag) :
    (flag.mark user).subExpiresAt = user.subExpiresAt := by
  cases flag <;> rfl

private theorem getUser_marked {uid other : Int} {flag : Flag} {tables : Tables} {user : UserRow}
    (found : getUser other (markNotified uid flag tables) = some user) :
    ∃ earlier, getUser other tables = some earlier ∧
      user = if other = uid then flag.mark earlier else earlier := by
  unfold markNotified at found
  rw [getUser_updateUser] at found
  obtain ⟨earlier,present,same⟩ := Option.map_eq_some_iff.mp found
  exact ⟨earlier,present,by simpa using same.symm⟩

private theorem sentIn_marked (uid other : Int) (notice : Notice) (flag : Flag) (period past : Nat)
    (history : List Event) : sentIn uid notice period (.marked other flag past :: history) =
      sentIn uid notice period history := by
  simp [sentIn,Event.isSent]

theorem Good.marked (good : Good adminId before state) {pass : Pass} {uid : Int} {notice : Notice}
    {flag : Flag} {marks : List Flag} (phase : state.phase = .notifying pass uid notice (flag :: marks)) :
    Good adminId before
      {state with
        tables := markNotified uid flag state.tables
        phase := .notifying pass uid notice marks
        history := .marked uid flag (pass.period uid) :: state.history} := by
  have placed := good.placed
  rw [phase] at placed
  obtain ⟨ready,absent,owed,marked⟩ := placed
  obtain ⟨user,expires,found,until_,satisfied⟩ := owed.stored
  have here : getUser uid (markNotified uid flag state.tables) = some (flag.mark user) := by
    simp [markNotified,found]
  constructor
  · constructor
    · intro other notice' period stored clock member
      rcases List.mem_cons.mp member with same | earlier
      · contradiction
      · exact good.right.timely other notice' period stored clock earlier
    · intro other notice' period
      rw [sentIn_marked]
      exact good.right.once other notice' period
    · intro other user' flag' found' set
      obtain ⟨earlier,present,rfl⟩ := getUser_marked found'
      have before_ (set : flag'.get earlier = true) := good.right.current other earlier flag' present set
      by_cases same : other = uid
      · subst same
        rw [if_pos rfl] at set
        rcases mark_get earlier flag flag' set with rfl | set
        · left
          rw [owed.period]
          exact List.mem_cons_self
        · exact (before_ set).imp_left (List.mem_cons_of_mem _)
      · rw [if_neg same] at set
        exact (before_ set).imp_left (List.mem_cons_of_mem _)
  · intro other notice' sent
    rw [sentIn_marked] at sent
    obtain ⟨earlier,present,set⟩ := good.flagged other notice' sent
    by_cases same : other = uid
    · subst same
      rw [found] at present
      cases present
      exact ⟨_,here,mark_keeps _ _ _ (.inr set)⟩
    · refine ⟨earlier,?_,set⟩
      simp [markNotified,same,present]
  · intro other notice' period later
    rw [sentIn_marked]
    exact good.later other notice' period later
  · refine ⟨ready_elsewhere ready absent rfl ?_,absent,?_,?_⟩
    · intro other differs
      refine ⟨Keeps.update _ fun same => absurd same differs,rfl,?_⟩
      intro notice' period
      exact sentIn_marked _ _ _ _ _ _ _
    · constructor
      · exact ⟨_,expires,here,by rw [mark_expires,until_],satisfied⟩
      · exact owed.period
      · rw [sentIn_marked]
        exact owed.unsent
    · rcases marked with member | set
      · rcases List.mem_cons.mp member with same | later
        · exact .inr ⟨_,here,mark_keeps _ _ _ (.inl same)⟩
        · exact .inl later
      · obtain ⟨earlier,present,set⟩ := set
        rw [found] at present
        cases present
        exact .inr ⟨_,here,mark_keeps _ _ _ (.inr set)⟩

private theorem sentIn_sent (uid other : Int) (notice notice' : Notice) (period past clock : Nat)
    (stored : Option Int) (history : List Event) :
    sentIn uid notice period (.sent other notice' past stored clock :: history) =
      sentIn uid notice period history +
        if other = uid ∧ notice' = notice ∧ past = period then 1 else 0 := by
  simp [sentIn,Event.isSent,List.countP_cons,and_assoc]

theorem Good.sent (good : Good adminId before state) {pass : Pass} {uid : Int} {notice : Notice}
    (phase : state.phase = .notifying pass uid notice []) :
    Good adminId before
      {state with
        phase := if notice = .expired then .reporting pass else .visiting pass
        history := .sent uid notice (state.period uid)
          ((getUser uid state.tables).bind UserRow.subExpiresAt) state.clock :: state.history} := by
  have placed := good.placed
  rw [phase] at placed
  obtain ⟨ready,absent,owed,marked⟩ := placed
  obtain ⟨user,expires,found,until_,satisfied⟩ := owed.stored
  obtain ⟨user',found',set⟩ := marked.resolve_left List.not_mem_nil
  rw [found] at found'
  cases found'
  have clock := ready.clock
  constructor
  · constructor
    · intro other notice' period stored clock' member
      rcases List.mem_cons.mp member with same | earlier
      · cases same
        refine ⟨expires,by simp [found,until_],?_⟩
        unfold Notice.satisfied at satisfied ⊢
        omega
      · exact good.right.timely other notice' period stored clock' earlier
    · intro other notice' period
      rw [sentIn_sent]
      split
      next same =>
        obtain ⟨rfl,rfl,rfl⟩ := same
        rw [owed.unsent]
      next => exact good.right.once other notice' period
    · intro other user' flag found' set'
      exact (good.right.current other user' flag found' set').imp_left (List.mem_cons_of_mem _)
  · intro other notice' sent
    have sent : 0 < sentIn other notice' (state.period other) (.sent uid notice (state.period uid)
      ((getUser uid state.tables).bind UserRow.subExpiresAt) state.clock :: state.history) := sent
    rw [sentIn_sent] at sent
    split at sent
    next same =>
      obtain ⟨rfl,rfl,_⟩ := same
      exact ⟨user,found,set⟩
    next => exact good.flagged other notice' sent
  · intro other notice' period later
    have later : state.period other < period := later
    rw [sentIn_sent,if_neg,good.later other notice' period later]
    intro same
    obtain ⟨rfl,_,rfl⟩ := same
    omega
  · have rest (phase : Phase) : Ready adminId
        {state with
          phase := phase
          history := .sent uid notice (state.period uid)
            ((getUser uid state.tables).bind UserRow.subExpiresAt) state.clock :: state.history}
        pass := by
      refine ready_elsewhere ready absent rfl ?_
      intro other differs
      refine ⟨.refl _ _,rfl,?_⟩
      intro notice' period
      rw [sentIn_sent,if_neg fun same => differs same.1.symm,Nat.add_zero]
    dsimp only
    split
    next => exact rest _
    next => exact rest _

theorem Good.pass (good : Good adminId before state) : Good adminId before (passStep adminId state) := by
  have keeps (uid : Int) : Keeps state.tables state.tables uid := .refl _ _
  have placed := good.placed
  unfold passStep
  split
  next phase =>
    split
    next => exact good.quiet keeps rfl rfl trivial
    next => exact good
  next phase => exact good.quiet keeps rfl rfl (Nat.le_refl _)
  next now phase =>
    rw [phase] at placed
    obtain ⟨clock,distinct,owed⟩ := ready_read good placed
    refine good.quiet keeps rfl rfl ⟨clock,distinct,?_⟩
    intro row member notice isDue
    exact (owed row member notice isDue).alike ⟨.refl _ _,rfl,fun _ _ => rfl⟩
  next pass phase =>
    rw [phase] at placed
    refine good.quiet keeps rfl rfl ?_
    exact (placed_visit placed).alike (Nat.le_refl _) fun _ _ => ⟨.refl _ _,rfl,fun _ _ => rfl⟩
  next pass uid notice flag marks phase => exact good.marked phase
  next pass uid notice phase => exact good.sent phase
  next pass phase =>
    rw [phase] at placed
    refine good.quiet keeps rfl rfl ?_
    exact Ready.alike placed (Nat.le_refl _) fun _ _ => ⟨.refl _ _,rfl,fun _ _ => rfl⟩

theorem Good.grant (good : Good adminId before state) {index : Nat} {call : Call}
    (at_ : state.calls[index]? = some call) (undisturbed : Undisturbed adminId state (.grant index))
    (taken : grantStep state index call = some after) : Good adminId before after := by
  obtain ⟨⟨tables,position⟩,moved,rfl⟩ := Option.map_eq_some_iff.mp taken
  rcases grant_effect moved with ⟨closed,keeps⟩ | ⟨opens,expiry,maxHosts,rfl⟩
  · refine good.quiet keeps (by simp [closed]) rfl ?_
    refine good.placed.alike (Nat.le_refl _) ?_
    intro uid _
    exact ⟨keeps uid,by simp [State.period,closed],fun _ _ => rfl⟩
  · have spared : state.phase.owes adminId call.uid = false := by
      simpa [Undisturbed,renewed,at_,Option.filter,opens] using undisturbed
    exact good.opened spared rfl (by simp [opens]) rfl rfl rfl

theorem Good.step {action : Action} (good : Good adminId before state)
    (undisturbed : Undisturbed adminId state action)
    (taken : step adminId state action = some after) : Good adminId before after := by
  have keeps (uid : Int) : Keeps state.tables state.tables uid := .refl _ _
  cases action with
  | tick elapsed =>
    cases taken
    refine good.quiet keeps rfl rfl ?_
    exact good.placed.alike (Nat.le_add_right _ _) fun _ _ => ⟨.refl _ _,rfl,fun _ _ => rfl⟩
  | pass =>
    cases taken
    exact good.pass
  | fail =>
    cases taken
    exact good.quiet keeps rfl rfl trivial
  | call uid days maxHosts =>
    cases taken
    refine good.quiet keeps rfl rfl ?_
    exact good.placed.alike (Nat.le_refl _) fun _ _ => ⟨.refl _ _,rfl,fun _ _ => rfl⟩
  | grant index =>
    obtain ⟨call,at_,taken⟩ := Option.bind_eq_some_iff.mp taken
    exact good.grant at_ undisturbed taken
  | revoke uid =>
    cases taken
    apply good.revoked
    simpa [Undisturbed,renewed] using undisturbed

/-- The notices are right in every run in which no subscription is granted or revoked while
a pass still owes its user a notice. -/
theorem notices_right (adminId : Int) (before : Tables) (clock : Nat) (state : State)
    (reached : Reach (step adminId) (Undisturbed adminId) (start before clock) state) :
    Right before state := by
  have good : Good adminId before state := by
    apply reached.invariant (Good adminId before)
    · constructor
      · constructor
        · intro uid notice period stored clock member
          contradiction
        · intro uid notice period
          exact Nat.zero_le _
        · intro uid user flag found set
          exact .inr ⟨rfl,by rw [show getUser uid before = some user from found]; exact set⟩
      · intro uid notice sent
        contradiction
      · intro uid notice period _
        rfl
      · trivial
    · intro state action after good undisturbed taken
      exact good.step undisturbed taken
  exact good.right

def ended : Tables :=
  {empty with
    users := AList.insert 5 {freshUser 100 with subExpiresAt := some 1000, started := true} ∅
    settings := AList.insert "mode" "paid" ∅}

theorem notices_right_renewed : ∃ state,
    [.pass,.pass,.pass,.pass,.pass,.pass,.call 5 30 3,.grant 0,.grant 0].foldlM
        (guarded (step 1) (Undisturbed 1)) (start ended 2000000000) = some state ∧
      state.history = [.sent 5 .expired 0 (some 1000) 2000000000,.marked 5 .nexp 0] ∧
      Right ended state := by
  obtain ⟨state,ran,history⟩ : ∃ state,
      [.pass,.pass,.pass,.pass,.pass,.pass,.call 5 30 3,.grant 0,.grant 0].foldlM
          (guarded (step 1) (Undisturbed 1)) (start ended 2000000000) = some state ∧
        state.history = [.sent 5 .expired 0 (some 1000) 2000000000,.marked 5 .nexp 0] :=
    ⟨_,rfl,rfl⟩
  exact ⟨state,ran,history,notices_right 1 ended 2000000000 state (reach_of_run _ ran)⟩

/-- The pass has read his row when the grant comes. -/
theorem renewed_told_ended : ¬ ∀ (adminId : Int) (before : Tables) (clock : Nat) (state : State),
    Reach (step adminId) always (start before clock) state → Right before state := by
  intro claimed
  obtain ⟨state,ran,history⟩ : ∃ state,
      [.pass,.pass,.pass,.call 5 30 3,.grant 0,.grant 0,.pass,.pass,.pass].foldlM
          (guarded (step 1) always) (start ended 2000000000) = some state ∧
        state.history = [.sent 5 .expired 1 (some 2594000) 2000000000,.marked 5 .nexp 0] :=
    ⟨_,rfl,rfl⟩
  have right := claimed 1 ended 2000000000 state (reach_of_run _ ran)
  obtain ⟨expires,stored,satisfied⟩ := right.timely 5 .expired 1 (some 2594000) 2000000000
    (by rw [history]; exact List.mem_cons_self)
  cases stored
  simp only [Notice.satisfied,Notice.threshold,second] at satisfied
  omega

end AtronixX.Notices
