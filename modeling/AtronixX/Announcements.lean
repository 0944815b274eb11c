import AtronixX.FirstContact
import AtronixX.Handlers

/-! What user and admin are told of a subscription: `pre_check` and `send_activation` of
`handlers/gate.py` for the updates of one user, one statement or one message at a time, beside
what the admin does to his row. The columns `notify_pending` and `request_notified` keep what
is still to be told. Updates of one chat run one after the other. -/
namespace AtronixX.Announcements
open Library.Tables Library.Transition Database FirstContact
open Handlers (hasAccess Reason)

/-- What happened to the user. A grant is known by the number of grants up to it. -/
inductive Event
  | requested
  | granted
  | announced (grants : Nat)
  | cleared (grants : Nat)
  | revoked
  | deleted
  | restored
  deriving DecidableEq, Repr

abbrev History := List Event

def grants (history : History) : Nat := history.count .granted

/-- The grant that the row has its subscription from. -/
def current : History → Option Nat
  | [] => none
  | .granted :: history => some (grants history + 1)
  | .revoked :: _ => none
  | .deleted :: _ => none
  | .restored :: _ => none
  | _ :: history => current history

/-- What happened since the last grant. -/
def since (history : History) : History := history.takeWhile (· ≠ .granted)

/-- Where a call of `send_activation` is, and how many grants there were when it read the row. -/
inductive Sending
  | reading
  | sending (grants : Nat)
  | clearing (grants : Nat)
  deriving DecidableEq, Repr

/-- Where the update of the user is: in `ensure_user`, `_notify_admin_new_user`, `evaluate` or
`send_activation`. -/
inductive Gate
  | idle
  | ensuring (contact : Contact) (at_ : Ensuring)
  | notifying (user : UserRow) (created : Bool)
  | marking (user : UserRow) (created : Bool)
  | telling (user : UserRow) (created buttons : Bool)
  | evaluating (user : UserRow) (created : Bool)
  | judging (user : UserRow) (created : Bool) (mode : Mode)
  | activating (at_ : Sending)
  deriving DecidableEq, Repr

/-- Where the update of the admin is: in `grant` or `ensure_placeholder` and `set_banned`, or in
the `send_activation` that follows a grant. -/
inductive Admin
  | idle
  | working (order : Order) (at_ : FirstContact.Ordering)
  | activating (at_ : Sending)
  deriving DecidableEq, Repr

/-- What the world answers: the clock, whether some channel is missing, whether the data of the
button are among those that always pass, whether a message is delivered. -/
structure Answer where
  now : Rat
  missing : Bool
  passes : Bool
  sent : Bool

structure State where
  tables : Tables
  gate : Gate
  admin : Admin
  history : History

def start (tables : Tables) : State := ⟨tables,.idle,.idle,[]⟩

variable (uid : Int)

def sendingStep (sent : Bool) (tables : Tables) (history : History) :
    Sending → Tables × History × Option Sending
  | .reading => match getUser uid tables with
    | none => (tables,history,none)
    | some _ => (tables,history,some (.sending (grants history)))
  | .sending seen =>
    if sent then (tables,.announced seen :: history,some (.clearing seen))
    else (tables,history,none)
  | .clearing seen => (clearNotifyPending uid tables,.cleared seen :: history,none)

/-- What `evaluate` returns of a user who is not the admin. -/
def reason (user : UserRow) (mode : Mode) (answer : Answer) : Option Reason :=
  if user.isBanned then some .banned
  else if !hasAccess user mode answer.now then some .noaccess
  else if !user.termsAccepted then some .terms
  else if answer.missing then some .join
  else none

/-- What follows the row that `ensure_user` returns; of no row the language cannot be read. -/
def ensured (tables : Tables) (contact : Contact) : Ensuring → Gate
  | .returned created => match getUser contact.uid tables with
    | none => .idle
    | some user => if created then .notifying user true else .evaluating user false
  | .raised => .idle
  | at_ => .ensuring contact at_

def judged (user : UserRow) (created : Bool) (mode : Mode) (answer : Answer) : Gate :=
  match reason user mode answer with
  | none => if user.notifyPending then .activating .reading else .idle
  | some reason =>
    if answer.passes then .idle
    else if reason = .noaccess ∧ !user.requestNotified ∧ !created then .notifying user false
    else .idle

def gateStep (answer : Answer) (tables : Tables) (history : History) :
    Gate → Option (Tables × History × Gate)
  | .idle => none
  | .ensuring contact at_ => (contactStep contact tables at_).map fun next =>
    (next.1,history,ensured next.1 contact next.2)
  | .notifying user created => match getMode tables with
    | .free => some (tables,history,.telling user created false)
    | .paid => some (tables,history,.marking user created)
  | .marking user created =>
    some (markRequestNotified uid tables,history,.telling user created true)
  | .telling user created buttons =>
    some (tables,if buttons then .requested :: history else history,
      if created then .evaluating user true else .idle)
  | .evaluating user created => some (tables,history,.judging user created (getMode tables))
  | .judging user created mode => some (tables,history,judged user created mode answer)
  | .activating at_ =>
    let next := sendingStep uid answer.sent tables history at_
    some (next.1,next.2.1,next.2.2.elim .idle .activating)

/-- The `UPDATE` of `grant`, if there is a row. -/
def recorded (tables : Tables) (history : History) :
    FirstContact.Ordering → History
  | .updating _ _ => if (getUser uid tables).isSome then .granted :: history else history
  | _ => history

def ordered (order : Order) : FirstContact.Ordering → Admin
  | .returned => match order with
    | .grant _ _ _ => .activating .reading
    | .ban _ => .idle
  | .raised => .idle
  | at_ => .working order at_

/-- The admin's side of `AtronixX.FirstContact` reads no more of the contact than the id. -/
def target : Contact := ⟨uid,none,none,0⟩

def adminStep (sent : Bool) (tables : Tables) (history : History) :
    Admin → Option (Tables × History × Admin)
  | .idle => none
  | .working order at_ => (FirstContact.adminStep (target uid) order tables at_).map fun next =>
    (next.1,recorded uid tables history at_,ordered order next.2)
  | .activating at_ =>
    let next := sendingStep uid sent tables history at_
    some (next.1,next.2.1,next.2.2.elim .idle .activating)

/-- The columns of the user that tell what there is to tell. -/
def flags (tables : Tables) : Option (Bool × Option Int) :=
  (getUser uid tables).map fun user => (user.notifyPending,user.subExpiresAt)

def asked (tables : Tables) : Option Bool := (getUser uid tables).map UserRow.requestNotified

inductive Action
  | update (username firstName : Option String) (now : Int)
  | gate (answer : Answer)
  | order (order : Order)
  | admin (sent : Bool)
  /-- An exception or a cancellation. -/
  | stopGate
  | stopAdmin
  | revoke
  | delete
  | restore (tables : Tables)
  /-- Any other statement: it leaves these columns as they are. -/
  | other (statement : Tables → Tables)

def step (state : State) : Action → Option State
  | .update username firstName now => match state.gate with
    | .idle => some {state with gate := .ensuring ⟨uid,username,firstName,now⟩ .reading}
    | _ => none
  | .gate answer => (gateStep uid answer state.tables state.history state.gate).map fun next =>
    {state with tables := next.1, history := next.2.1, gate := next.2.2}
  | .order order => match state.admin with
    | .idle => some {state with admin := .working order .reading}
    | _ => none
  | .admin sent => (adminStep uid sent state.tables state.history state.admin).map fun next =>
    {state with tables := next.1, history := next.2.1, admin := next.2.2}
  | .stopGate => some {state with gate := .idle}
  | .stopAdmin => some {state with admin := .idle}
  | .revoke => some {state with
      tables := Database.revoke uid state.tables
      history := .revoked :: state.history}
  | .delete => some {state with
      tables := deleteUser uid state.tables
      history := if (getUser uid state.tables).isSome then .deleted :: state.history
        else state.history}
  | .restore tables => some {state with tables := tables, history := .restored :: state.history}
  | .other statement =>
    if flags uid (statement state.tables) = flags uid state.tables ∧
        asked uid (statement state.tables) = asked uid state.tables then
      some {state with tables := statement state.tables}
    else none

/-- The latest grant was announced, or a call that had read the row before it cleared the column
after it. -/
def Settled (history : History) : Prop :=
  .announced (grants history) ∈ history ∨ ∃ seen < grants history, .cleared seen ∈ since history

def Sending.Sound (history : History) : Sending → Prop
  | .reading => True
  | .sending seen => seen ≤ grants history
  | .clearing seen => seen ≤ grants history ∧ .announced seen ∈ history

/-- How often the user could become a new one to the bot. -/
def lives (history : History) : Nat := history.count .deleted + history.count .restored

/-- The admin may be asked once more. -/
def Open (asked : Option Bool) (history : History) : Prop :=
  history.count .requested ≤ lives history ∧
    (asked = none → history.count .requested < lives history)

def Marked (asked : Option Bool) (history : History) : Prop :=
  history.count .requested ≤ lives history ∧
    (asked ≠ some true → history.count .requested < lives history)

def Bounded (asked : Option Bool) (history : History) : Prop :=
  history.count .requested ≤ lives history + 1 ∧
    (asked ≠ some true → history.count .requested ≤ lives history)

inductive Turn (tables : Tables) (history : History) : Tables → History → Prop
  | same (after : Tables) (kept : flags uid after = flags uid tables)
      (unasked : asked uid after = asked uid tables) : Turn tables history after history
  | inserted (after : Tables) (absent : getUser uid tables = none)
      (fresh : flags uid after = some (false,none)) (unasked : asked uid after = some false) :
      Turn tables history after history
  | granted (after : Tables) (expiry : Int) (pending : flags uid after = some (true,some expiry))
      (unasked : asked uid after = asked uid tables) :
      Turn tables history after (.granted :: history)
  | announced (seen : Nat) : Turn tables history tables (.announced seen :: history)
  | cleared (after : Tables) (seen : Nat) (sound : (Sending.clearing seen).Sound history)
      (unset : flags uid after = (flags uid tables).map fun row => (false,row.2))
      (unasked : asked uid after = asked uid tables) :
      Turn tables history after (.cleared seen :: history)
  | revoked (after : Tables)
      (unset : flags uid after = (flags uid tables).map fun row => (row.1,none))
      (unasked : asked uid after = asked uid tables) :
      Turn tables history after (.revoked :: history)
  | deleted (after : Tables) (absent : flags uid after = none) (unasked : asked uid after = none) :
      Turn tables history after (.deleted :: history)
  | restored (after : Tables) : Turn tables history after (.restored :: history)

structure Row (flags : Option (Bool × Option Int)) (history : History) : Prop where
  absent : flags = none → current history = none
  told : ∀ expiry, flags = some (false,expiry) → (current history).isSome → Settled history
  source : ∀ pending expiry, flags = some (pending,some expiry) →
    .restored ∈ since history ∨ (current history).isSome

section
variable {uid}
variable {tables after : Tables} {history news : History}

theorem since_cons {event : Event} (plain : event ≠ .granted) :
    since (event :: history) = event :: since history := by
  simp [since,plain]

theorem Settled.cons {event : Event} (settled : Settled history) (plain : event ≠ .granted) :
    Settled (event :: history) := by
  have same : grants (event :: history) = grants history := by simp [grants,plain]
  unfold Settled
  rw [same,since_cons plain]
  rcases settled with told | ⟨seen,before,cleared⟩
  · exact .inl (.tail _ told)
  · exact .inr ⟨seen,before,.tail _ cleared⟩

theorem Turn.suffix (turn : Turn uid tables history after news) : history <:+ news := by
  cases turn <;> first | exact List.suffix_refl _ | exact List.suffix_cons _ _

theorem Sending.Sound.later {at_ : Sending} (sound : at_.Sound history)
    (longer : history <:+ news) : at_.Sound news := by
  have more : grants history ≤ grants news := longer.sublist.count_le _
  cases at_ with
  | reading => trivial
  | sending seen => exact Nat.le_trans sound more
  | clearing seen => exact ⟨Nat.le_trans sound.1 more,longer.subset sound.2⟩

theorem Row.cons {flags : Option (Bool × Option Int)} {event : Event} (row : Row flags history)
    (plain : event ≠ .granted) (same : current (event :: history) = current history) :
    Row flags (event :: history) := by
  refine ⟨?_,?_,?_⟩
  · intro absent
    rw [same]
    exact row.absent absent
  · intro expiry unset some_
    rw [same] at some_
    exact (row.told expiry unset some_).cons plain
  · intro pending expiry has
    rw [same,since_cons plain]
    exact (row.source pending expiry has).imp_left (.tail _)

theorem Turn.row (turn : Turn uid tables history after news)
    (row : Row (flags uid tables) history) : Row (flags uid after) news := by
  cases turn with
  | same _ kept => rwa [kept]
  | inserted _ absent fresh =>
    have none : current history = none := row.absent (by simp [flags,absent])
    rw [fresh]
    exact ⟨by simp,by simp [none],by simp⟩
  | granted _ expiry pending =>
    rw [pending]
    exact ⟨by simp,by simp,by simp [current]⟩
  | announced seen => exact row.cons (by simp) rfl
  | cleared _ seen sound unset =>
    rw [unset]
    refine ⟨?_,?_,?_⟩
    · intro absent
      exact row.absent (Option.map_eq_none_iff.mp absent)
    · intro expiry _ some_
      have same : grants (.cleared seen :: history) = grants history := by simp [grants]
      rcases Nat.lt_or_eq_of_le sound.1 with before | rfl
      · exact .inr ⟨seen,by rw [same]; exact before,by simp [since]⟩
      · exact .inl (by rw [same]; exact .tail _ sound.2)
    · intro pending expiry has
      obtain ⟨⟨pending',expiry'⟩,found,same⟩ := Option.map_eq_some_iff.mp has
      cases same
      rw [since_cons (by simp)]
      exact (row.source pending' expiry found).imp_left (.tail _)
  | revoked _ unset =>
    rw [unset]
    exact ⟨by simp [current],by simp [current],by simp⟩
  | deleted _ absent =>
    rw [absent]
    exact ⟨by simp [current],by simp,by simp⟩
  | restored => exact ⟨by simp [current],by simp [current],by simp [since]⟩

/-- The admin is not asked, and what the row says of it stays, or it is the row of a newer life. -/
def Beside (uid : Int) (tables after : Tables) (history news : History) : Prop :=
  news.count .requested = history.count .requested ∧ lives history ≤ lives news ∧
    (lives history < lives news ∨ asked uid after = asked uid tables ∨
      asked uid tables = none ∧ asked uid after = some false)

theorem Turn.beside (turn : Turn uid tables history after news) :
    Beside uid tables after history news := by
  cases turn with
  | same _ _ same => exact ⟨rfl,Nat.le_refl _,.inr (.inl same)⟩
  | inserted _ absent _ fresh =>
    exact ⟨rfl,Nat.le_refl _,.inr (.inr ⟨by simp [asked,absent],fresh⟩)⟩
  | granted _ _ _ same => exact ⟨by simp,by simp [lives],.inr (.inl same)⟩
  | announced seen => exact ⟨by simp,by simp [lives],.inr (.inl rfl)⟩
  | cleared _ seen _ _ same => exact ⟨by simp,by simp [lives],.inr (.inl same)⟩
  | revoked _ _ same => exact ⟨by simp,by simp [lives],.inr (.inl same)⟩
  | deleted =>
    have more : lives history < lives (.deleted :: history) := by
      simp [lives,Nat.add_right_comm]
    exact ⟨by simp,Nat.le_of_lt more,.inl more⟩
  | restored =>
    have more : lives history < lives (.restored :: history) := by
      simp [lives]
    exact ⟨by simp,Nat.le_of_lt more,.inl more⟩

theorem Beside.bounded (beside : Beside uid tables after history news)
    (bounded : Bounded (asked uid tables) history) : Bounded (asked uid after) news := by
  obtain ⟨same,more,rows⟩ := beside
  obtain ⟨most,unasked⟩ := bounded
  refine ⟨by omega,?_⟩
  intro unmarked
  rcases rows with younger | same' | ⟨absent,_⟩
  · omega
  · have less := unasked (same' ▸ unmarked)
    omega
  · have less := unasked (by simp [absent])
    omega

theorem Beside.opened (beside : Beside uid tables after history news)
    (opened : Open (asked uid tables) history) : Open (asked uid after) news := by
  obtain ⟨same,more,rows⟩ := beside
  obtain ⟨most,absent⟩ := opened
  refine ⟨by omega,?_⟩
  intro gone
  rcases rows with younger | same' | ⟨_,fresh⟩
  · omega
  · have less := absent (same' ▸ gone)
    omega
  · rw [fresh] at gone
    contradiction

theorem Beside.marked (beside : Beside uid tables after history news)
    (marked : Marked (asked uid tables) history) : Marked (asked uid after) news := by
  obtain ⟨same,more,rows⟩ := beside
  obtain ⟨most,unasked⟩ := marked
  refine ⟨by omega,?_⟩
  intro unmarked
  rcases rows with younger | same' | ⟨absent,_⟩
  · omega
  · have less := unasked (same' ▸ unmarked)
    omega
  · have less := unasked (by simp [absent])
    omega

end

def Gate.Fine (asked : Option Bool) (history : History) : Gate → Prop
  | .ensuring contact at_ => contact.uid = uid ∧ (at_ = .reloading true → Open asked history)
  | .notifying _ _ => Open asked history
  | .marking _ _ => Open asked history
  | .telling _ _ buttons => buttons = true → Marked asked history
  | .evaluating user created =>
    created = false → user.requestNotified = false → Open asked history
  | .judging user created _ => created = false → user.requestNotified = false → Open asked history
  | .activating at_ => at_.Sound history
  | .idle => True

def Admin.Fine (history : History) : Admin → Prop
  | .activating at_ => at_.Sound history
  | _ => True

structure Kept (state : State) : Prop where
  row : Row (flags uid state.tables) state.history
  bounded : Bounded (asked uid state.tables) state.history
  gate : state.gate.Fine uid (asked uid state.tables) state.history
  admin : state.admin.Fine state.history

section
variable {uid}
variable {tables after : Tables} {history news : History} {state : State}

theorem Turn.gate (turn : Turn uid tables history after news) {gate : Gate}
    (fine : gate.Fine uid (asked uid tables) history) :
    gate.Fine uid (asked uid after) news := by
  cases gate with
  | idle => trivial
  | ensuring contact at_ => exact ⟨fine.1,fun reloading => turn.beside.opened (fine.2 reloading)⟩
  | notifying user created => exact turn.beside.opened fine
  | marking user created => exact turn.beside.opened fine
  | telling user created buttons => exact fun shown => turn.beside.marked (fine shown)
  | evaluating user created => exact fun old unasked => turn.beside.opened (fine old unasked)
  | judging user created mode => exact fun old unasked => turn.beside.opened (fine old unasked)
  | activating at_ => exact fine.later turn.suffix

theorem Admin.Fine.later {admin : Admin} (fine : admin.Fine history) (longer : history <:+ news) :
    admin.Fine news := by
  cases admin with
  | idle => trivial
  | working order at_ => trivial
  | activating at_ => exact Sending.Sound.later fine longer

theorem Kept.turn (kept : Kept uid state) (turn : Turn uid state.tables state.history after news) :
    Kept uid {state with tables := after, history := news} where
  row := turn.row kept.row
  bounded := turn.beside.bounded kept.bounded
  gate := turn.gate kept.gate
  admin := kept.admin.later turn.suffix

theorem Kept.start (unknown : getUser uid tables = none) : Kept uid (start tables) where
  row := by
    have none : flags uid (Announcements.start tables).tables = none := by
      simp [flags,Announcements.start,unknown]
    rw [none]
    exact ⟨fun _ => rfl,by simp,by simp⟩
  bounded := by simp [Bounded,Announcements.start]
  gate := trivial
  admin := trivial

theorem turn_update {change : UserRow → UserRow}
    (keeps : ∀ user, (change user).notifyPending = user.notifyPending ∧
      (change user).subExpiresAt = user.subExpiresAt ∧
      (change user).requestNotified = user.requestNotified) :
    Turn uid tables history (updateUser uid change tables) history := by
  refine .same _ ?_ ?_
  · cases found : getUser uid tables with
    | none => simp [flags,found]
    | some user => simp [flags,found,keeps user]
  · cases found : getUser uid tables with
    | none => simp [asked,found]
    | some user => simp [asked,found,keeps user]

theorem turn_insert {user : UserRow} (inserted : insertUser uid user tables = some after)
    (pending : user.notifyPending = false) (free : user.subExpiresAt = none)
    (unasked : user.requestNotified = false) : Turn uid tables history after history := by
  have found := getUser_insertUser uid user tables after inserted
  have absent := insertUser_isSome uid user tables
  rw [inserted,Option.isSome_some] at absent
  refine .inserted after (Option.isNone_iff_eq_none.mp absent.symm) ?_ ?_
  · simp [flags,found,pending,free]
  · simp [asked,found,unasked]

theorem contact_turn {contact : Contact} {at_ next : Ensuring}
    (taken : contactStep contact tables at_ = some (after,next)) :
    Turn contact.uid tables history after history := by
  cases at_ with
  | reading =>
    simp only [contactStep] at taken
    split at taken
    next =>
      cases taken
      exact .same _ rfl rfl
    next =>
      split at taken
      next =>
        cases taken
        exact .same _ rfl rfl
      next =>
        cases taken
        exact .same _ rfl rfl
  | inserting =>
    simp only [contactStep] at taken
    split at taken
    next =>
      cases taken
      exact .same _ rfl rfl
    next inserted done =>
      cases taken
      exact turn_insert done rfl rfl rfl
  | updating =>
    cases taken
    exact turn_update fun _ => ⟨rfl,rfl,rfl⟩
  | reloading created =>
    cases taken
    exact .same _ rfl rfl
  | returned created => contradiction
  | raised => contradiction

theorem open_of_row (bounded : Bounded (asked uid tables) history) {user : UserRow}
    (found : getUser uid tables = some user) (unasked : user.requestNotified = false) :
    Open (asked uid tables) history := by
  have row : asked uid tables = some false := by simp [asked,found,unasked]
  rw [row] at bounded ⊢
  exact ⟨bounded.2 (by simp),by simp⟩

theorem ensured_fine {contact : Contact} {at_ next : Ensuring} (own : contact.uid = uid)
    (bounded : Bounded (asked uid tables) history)
    (opened : at_ = .reloading true → Open (asked uid tables) history)
    (taken : contactStep contact tables at_ = some (after,next)) :
    (ensured after contact next).Fine uid (asked uid after) history := by
  subst own
  cases at_ with
  | reading =>
    simp only [contactStep] at taken
    split at taken
    next =>
      cases taken
      refine ⟨rfl,?_⟩
      intro reloading
      contradiction
    next user found =>
      split at taken
      next =>
        cases taken
        refine ⟨rfl,?_⟩
        intro reloading
        contradiction
      next =>
        cases taken
        simp only [ensured,found]
        exact fun _ => open_of_row bounded found
  | inserting =>
    simp only [contactStep] at taken
    split at taken
    next =>
      cases taken
      trivial
    next inserted done =>
      cases taken
      refine ⟨rfl,fun _ => ?_⟩
      have turn : Turn contact.uid tables history after history := turn_insert done rfl rfl rfl
      have found := getUser_insertUser _ _ _ _ done
      exact open_of_row (turn.beside.bounded bounded) found rfl
  | updating =>
    cases taken
    refine ⟨rfl,?_⟩
    intro reloading
    contradiction
  | reloading created =>
    cases taken
    simp only [ensured]
    cases found : getUser contact.uid tables with
    | none => trivial
    | some user =>
      cases created with
      | true => exact opened rfl
      | false => exact fun _ => open_of_row bounded found
  | returned created => contradiction
  | raised => contradiction

theorem sending_turn {at_ : Sending} (sound : at_.Sound history) (sent : Bool) :
    Turn uid tables history (sendingStep uid sent tables history at_).1
        (sendingStep uid sent tables history at_).2.1 ∧
      ∀ next, (sendingStep uid sent tables history at_).2.2 = some next →
        next.Sound (sendingStep uid sent tables history at_).2.1 := by
  cases at_ with
  | reading =>
    simp only [sendingStep]
    split
    next => exact ⟨.same _ rfl rfl,nofun⟩
    next =>
      refine ⟨.same _ rfl rfl,?_⟩
      intro next is
      cases is
      exact Nat.le_refl _
  | sending seen =>
    simp only [sendingStep]
    cases sent with
    | false => exact ⟨.same _ rfl rfl,nofun⟩
    | true =>
      refine ⟨.announced seen,?_⟩
      intro next is
      cases is
      exact ⟨Sending.Sound.later sound (List.suffix_cons _ _),.head _⟩
  | clearing seen =>
    simp only [sendingStep]
    refine ⟨.cleared _ seen sound ?_ ?_,nofun⟩
    · cases found : getUser uid tables with
      | none => simp [flags,clearNotifyPending,found]
      | some user => simp [flags,clearNotifyPending,found]
    · cases found : getUser uid tables with
      | none => simp [asked,clearNotifyPending,found]
      | some user => simp [asked,clearNotifyPending,found]

theorem judged_fine {user : UserRow} {created : Bool} {mode : Mode} {answer : Answer}
    {asked : Option Bool}
    (opened : created = false → user.requestNotified = false → Open asked history) :
    (judged user created mode answer).Fine uid asked history := by
  unfold judged
  split
  next =>
    split
    next => trivial
    next => trivial
  next =>
    split
    next => trivial
    next =>
      split
      next which => exact opened (by simpa using which.2.2) (by simpa using which.2.1)
      next => trivial

theorem Kept.moves (kept : Kept uid state) {gate : Gate}
    (turn : Turn uid state.tables state.history after news)
    (fine : gate.Fine uid (asked uid after) news) :
    Kept uid {state with tables := after, history := news, gate := gate} :=
  {kept.turn turn with gate := fine}

theorem Kept.gate_step (kept : Kept uid state) {answer : Answer} {gate : Gate}
    (taken : gateStep uid answer state.tables state.history state.gate = some (after,news,gate)) :
    Kept uid {state with tables := after, history := news, gate := gate} := by
  have fine := kept.gate
  have still : Turn uid state.tables state.history state.tables state.history := .same _ rfl rfl
  cases at_ : state.gate with
  | idle =>
    rw [at_] at taken
    contradiction
  | ensuring contact at_' =>
    rw [at_] at taken fine
    obtain ⟨own,opened⟩ := fine
    obtain ⟨next,stepped,same⟩ := Option.map_eq_some_iff.mp taken
    cases same
    refine kept.moves ?_ (ensured_fine own kept.bounded opened stepped)
    subst own
    exact contact_turn stepped
  | notifying user created =>
    rw [at_] at taken fine
    simp only [gateStep] at taken
    split at taken
    next =>
      cases taken
      exact kept.moves still nofun
    next =>
      cases taken
      exact kept.moves still fine
  | marking user created =>
    rw [at_] at taken fine
    cases taken
    have kept_ : flags uid (markRequestNotified uid state.tables) = flags uid state.tables := by
      cases found : getUser uid state.tables with
      | none => simp [flags,markRequestNotified,found]
      | some user => simp [flags,markRequestNotified,found]
    have mark : asked uid (markRequestNotified uid state.tables) =
        (asked uid state.tables).map fun _ => true := by
      cases found : getUser uid state.tables with
      | none => simp [asked,markRequestNotified,found]
      | some user => simp [asked,markRequestNotified,found]
    have marked : Marked (asked uid (markRequestNotified uid state.tables)) state.history := by
      refine ⟨fine.1,?_⟩
      intro unmarked
      apply fine.2
      cases was : asked uid state.tables with
      | none => rfl
      | some before => simp [mark,was] at unmarked
    refine ⟨?_,?_,fun _ => marked,kept.admin⟩
    · dsimp only
      rw [kept_]
      exact kept.row
    · exact ⟨Nat.le_succ_of_le marked.1,fun unmarked => Nat.le_of_lt (marked.2 unmarked)⟩
  | telling user created buttons =>
    rw [at_] at taken fine
    cases taken
    have next (asked : Option Bool) (history : History) :
        (if created then Gate.evaluating user true else .idle).Fine uid asked history := by
      split
      next => exact nofun
      next => trivial
    cases buttons with
    | false => exact kept.moves still (next _ _)
    | true =>
      obtain ⟨most,unasked⟩ := fine rfl
      refine ⟨kept.row.cons (by simp) rfl,⟨?_,?_⟩,next _ _,?_⟩
      · simpa [lives] using most
      · intro unmarked
        simpa [lives,Nat.succ_le_iff] using unasked unmarked
      · exact kept.admin.later (List.suffix_cons _ _)
  | evaluating user created =>
    rw [at_] at taken fine
    cases taken
    exact kept.moves still fine
  | judging user created mode =>
    rw [at_] at taken fine
    cases taken
    exact kept.moves still (judged_fine fine)
  | activating at_' =>
    rw [at_] at taken fine
    cases taken
    obtain ⟨turn,sound⟩ := @sending_turn uid state.tables state.history at_' fine answer.sent
    refine kept.moves turn ?_
    cases next : (sendingStep uid answer.sent state.tables state.history at_').2.2 with
    | none => trivial
    | some next' => exact sound next' next

theorem order_turn {order : Order} {at_ next : FirstContact.Ordering}
    (taken : FirstContact.adminStep (target uid) order tables at_ = some (after,next)) :
    Turn uid tables history after (recorded uid tables history at_) := by
  cases at_ with
  | reading =>
    simp only [FirstContact.adminStep] at taken
    split at taken
    next =>
      cases taken
      exact .same _ rfl rfl
    next =>
      cases taken
      exact .same _ rfl rfl
  | inserting =>
    simp only [FirstContact.adminStep] at taken
    split at taken
    next =>
      cases taken
      exact .same _ rfl rfl
    next inserted done =>
      cases taken
      exact turn_insert done rfl rfl rfl
  | reloading =>
    simp only [FirstContact.adminStep] at taken
    split at taken
    next =>
      cases taken
      exact .same _ rfl rfl
    next =>
      cases taken
      exact .same _ rfl rfl
  | updating expiry maxHosts =>
    cases taken
    cases found : getUser uid tables with
    | none =>
      simp only [recorded,found]
      exact .same _ (by simp [flags,target,found]) (by simp [asked,target,found])
    | some user =>
      simp only [recorded,found]
      refine .granted _ expiry ?_ ?_
      · simp [flags,target,found,granted]
      · simp [asked,target,found,granted]
  | returning =>
    cases taken
    exact .same _ rfl rfl
  | banning =>
    cases taken
    exact turn_update fun _ => ⟨rfl,rfl,rfl⟩
  | returned => contradiction
  | raised => contradiction

theorem ordered_fine {order : Order} (at_ : FirstContact.Ordering) :
    (ordered order at_).Fine history := by
  cases at_ with
  | returned =>
    cases order with
    | grant now days maxHosts => trivial
    | ban now => trivial
  | _ => trivial

theorem Kept.admin_step (kept : Kept uid state) {sent : Bool} {admin : Admin}
    (taken : adminStep uid sent state.tables state.history state.admin = some (after,news,admin)) :
    Kept uid {state with tables := after, history := news, admin := admin} := by
  have fine := kept.admin
  cases at_ : state.admin with
  | idle =>
    rw [at_] at taken
    contradiction
  | working order at_' =>
    rw [at_] at taken
    obtain ⟨next,stepped,same⟩ := Option.map_eq_some_iff.mp taken
    cases same
    exact {kept.turn (order_turn stepped) with admin := ordered_fine _}
  | activating at_' =>
    rw [at_] at taken fine
    cases taken
    obtain ⟨turn,sound⟩ := @sending_turn uid state.tables state.history at_' fine sent
    refine {kept.turn turn with admin := ?_}
    cases next : (sendingStep uid sent state.tables state.history at_').2.2 with
    | none => trivial
    | some next' => exact sound next' next

theorem Kept.step (kept : Kept uid state) {action : Action} {next : State}
    (taken : step uid state action = some next) : Kept uid next := by
  cases action with
  | update username firstName now =>
    simp only [Announcements.step] at taken
    split at taken
    next =>
      cases taken
      exact {kept with gate := ⟨rfl,nofun⟩}
    next => contradiction
  | gate answer =>
    obtain ⟨⟨after,news,gate⟩,stepped,same⟩ := Option.map_eq_some_iff.mp taken
    cases same
    exact kept.gate_step stepped
  | order order =>
    simp only [Announcements.step] at taken
    split at taken
    next =>
      cases taken
      exact {kept with admin := trivial}
    next => contradiction
  | admin sent =>
    obtain ⟨⟨after,news,admin⟩,stepped,same⟩ := Option.map_eq_some_iff.mp taken
    cases same
    exact kept.admin_step stepped
  | stopGate =>
    cases taken
    exact {kept with gate := trivial}
  | stopAdmin =>
    cases taken
    exact {kept with admin := trivial}
  | revoke =>
    cases taken
    refine kept.turn (.revoked _ ?_ ?_)
    · cases found : getUser uid state.tables with
      | none => simp [flags,revoke,found]
      | some user => simp [flags,revoke,found]
    · cases found : getUser uid state.tables with
      | none => simp [asked,revoke,found]
      | some user => simp [asked,revoke,found]
  | delete =>
    cases taken
    cases found : getUser uid state.tables with
    | none =>
      exact kept.turn (.same _ (by simp [flags,found]) (by simp [asked,found]))
    | some user =>
      exact kept.turn (.deleted _ (by simp [flags]) (by simp [asked]))
  | restore tables =>
    cases taken
    exact kept.turn (.restored _)
  | other statement =>
    obtain ⟨⟨row,unasked⟩,same⟩ := Option.ite_none_right_eq_some.mp taken
    cases same
    exact kept.turn (.same _ row unasked)

end

theorem kept_of_reach {tables : Tables} {state : State} (unknown : getUser uid tables = none)
    (reached : Reach (step uid) always (start tables) state) : Kept uid state :=
  reached.invariant (Kept uid) (.start unknown) fun _ _ _ kept _ taken => kept.step taken

section
variable {uid}

theorem reason_seen {user : UserRow} (username firstName : Option String) (now : Int) (mode : Mode)
    (answer : Answer) : reason (seen username firstName now user) mode answer =
      reason user mode answer := rfl

theorem delivered {state : State} {user : UserRow} {answer : Answer}
    (idle : state.gate = .idle) (found : getUser uid state.tables = some user)
    (pending : user.notifyPending = true)
    (admitted : reason user (getMode state.tables) answer = none) (sent : answer.sent = true)
    (username firstName : Option String) (now : Int) : ∃ steps after,
      (Action.update username firstName now :: List.replicate steps (.gate answer)).foldlM
        (step uid) state = some after ∧ after.gate = .idle ∧
      .announced (grants state.history) ∈ after.history ∧
      flags uid after.tables = some (false,user.subExpiresAt) := by
  obtain ⟨tables,gate,admin,history⟩ := state
  dsimp only at idle found admitted
  subst idle
  cases old : outdated user username firstName now with
  | false =>
    refine ⟨6,⟨clearNotifyPending uid tables,.idle,admin,
      .cleared (grants history) :: .announced (grants history) :: history⟩,?_,rfl,by simp,?_⟩
    · simp [List.replicate,step,gateStep,contactStep,ensured,judged,sendingStep,found,old,admitted,
        pending,sent]
    · simp [flags,clearNotifyPending,found]
  | true =>
    refine ⟨8,⟨clearNotifyPending uid (updateUser uid (seen username firstName now) tables),.idle,
      admin,.cleared (grants history) :: .announced (grants history) :: history⟩,?_,rfl,by simp,?_⟩
    · have mode : getMode (updateUser uid (seen username firstName now) tables) =
          getMode tables := rfl
      have pending : (seen username firstName now user).notifyPending = true := pending
      simp [List.replicate,step,gateStep,contactStep,ensured,judged,sendingStep,found,old,admitted,
        pending,sent,mode,reason_seen]
    · simp [flags,clearNotifyPending,found,seen]

end

/-- The user's update is let in, its message is delivered, and it is not stopped; nor does his row
go away. -/
def LetIn (state : State) : Action → Prop
  | .gate answer => answer.sent = true ∧
    ∀ user created mode, state.gate = .judging user created mode → reason user mode answer = none
  | .stopGate => False
  | .delete => False
  | .restore _ => False
  | _ => True

/-- The row says that there is something to tell. -/
def Waiting (tables : Tables) : Prop := ∃ expiry, flags uid tables = some (true,expiry)

/-- The update will tell the user of a grant from this one on. -/
def Gate.Owes (first : Nat) : Gate → Prop
  | .ensuring contact at_ =>
    contact.uid = uid ∧ (at_ = .reading ∨ at_ = .updating ∨ at_ = .reloading false)
  | .evaluating user _ => user.notifyPending = true
  | .judging user _ _ => user.notifyPending = true
  | .activating .reading => True
  | .activating (.sending seen) => first ≤ seen
  | _ => False

def Admin.Owes (first : Nat) : Admin → Prop
  | .activating (.sending seen) => first ≤ seen
  | .activating (.clearing _) => False
  | _ => True

structure Owed (first : Nat) (state : State) : Prop where
  granted : first ≤ grants state.history
  waiting : Waiting uid state.tables
  gate : state.gate.Owes uid first
  admin : state.admin.Owes first

def Told (first : Nat) (history : History) : Prop :=
  ∃ grant, first ≤ grant ∧ .announced grant ∈ history

/-- Nothing is granted while the admin's own `send_activation` lasts. -/
def Admin.Latest (history : History) : Admin → Prop
  | .activating (.sending seen) => seen = grants history
  | .activating (.clearing seen) => seen = grants history
  | _ => True

section
variable {uid}
variable {tables after : Tables} {history news : History} {state next : State} {first : Nat}

theorem Waiting.found (waiting : Waiting uid tables) :
    ∃ user, getUser uid tables = some user ∧ user.notifyPending = true := by
  obtain ⟨expiry,row⟩ := waiting
  obtain ⟨user,found,same⟩ := Option.map_eq_some_iff.mp row
  exact ⟨user,found,congrArg Prod.fst same⟩

theorem waiting_of_found {user : UserRow} (found : getUser uid tables = some user)
    (pending : user.notifyPending = true) : Waiting uid tables :=
  ⟨user.subExpiresAt,by simp [flags,found,pending]⟩

theorem Waiting.update (waiting : Waiting uid tables) {change : UserRow → UserRow}
    (keeps : ∀ user, (change user).notifyPending = user.notifyPending) :
    Waiting uid (updateUser uid change tables) := by
  obtain ⟨user,found,pending⟩ := waiting.found
  have changed : getUser uid (updateUser uid change tables) = some (change user) := by
    simp [found]
  exact waiting_of_found changed (by rw [keeps,pending])

theorem grants_sending (sent : Bool) (at_ : Sending) :
    grants (sendingStep uid sent tables history at_).2.1 = grants history := by
  cases at_ with
  | reading =>
    simp only [sendingStep]
    split <;> rfl
  | sending seen => cases sent <;> simp [sendingStep,grants]
  | clearing seen => simp [sendingStep,grants]

theorem Admin.Latest.same {admin : Admin} (latest : admin.Latest history)
    (same : grants news = grants history) : admin.Latest news := by
  cases admin with
  | idle => trivial
  | working order at_ => trivial
  | activating at_ =>
    cases at_ with
    | reading => trivial
    | sending seen => exact Eq.trans latest same.symm
    | clearing seen => exact Eq.trans latest same.symm

theorem history_sending (sent : Bool) (at_ : Sending) :
    history ⊆ (sendingStep uid sent tables history at_).2.1 := by
  cases at_ with
  | reading =>
    simp only [sendingStep]
    split <;> exact List.Subset.refl _
  | sending seen =>
    cases sent with
    | false => exact List.Subset.refl _
    | true => exact List.subset_cons_self _ _
  | clearing seen => exact List.subset_cons_self _ _

theorem history_adminStep {sent : Bool} {admin admin' : Admin}
    (taken : adminStep uid sent tables history admin = some (after,news,admin')) :
    history ⊆ news ∧ grants history ≤ grants news := by
  cases admin with
  | idle => contradiction
  | working order at_ =>
    obtain ⟨next,_,same⟩ := Option.map_eq_some_iff.mp taken
    cases same
    cases at_ with
    | updating expiry maxHosts =>
      simp only [recorded]
      split
      next => exact ⟨List.subset_cons_self _ _,by simp [grants]⟩
      next => exact ⟨List.Subset.refl _,Nat.le_refl _⟩
    | _ => exact ⟨List.Subset.refl _,Nat.le_refl _⟩
  | activating at_ =>
    cases taken
    exact ⟨history_sending sent at_,Nat.le_of_eq (grants_sending sent at_).symm⟩

theorem Told.mono (told : Told first history) (longer : history ⊆ news) : Told first news := by
  obtain ⟨grant,late,announced⟩ := told
  exact ⟨grant,late,longer announced⟩

theorem Owed.gate_step {answer : Answer} {gate : Gate} (owed : Owed uid first state)
    (met : LetIn state (.gate answer))
    (taken : gateStep uid answer state.tables state.history state.gate = some (after,news,gate)) :
    Told first news ∨
      Owed uid first {state with tables := after, history := news, gate := gate} := by
  obtain ⟨granted,waiting,owes,admin⟩ := owed
  obtain ⟨user,found,pending⟩ := waiting.found
  cases at_ : state.gate with
  | idle =>
    rw [at_] at owes
    exact owes.elim
  | ensuring contact at_' =>
    rw [at_] at taken owes
    obtain ⟨rfl,place⟩ := owes
    right
    rcases place with rfl | rfl | rfl
    · cases old : outdated user contact.username contact.firstName contact.now with
      | true =>
        obtain ⟨rfl,rfl,rfl⟩ : after = state.tables ∧ news = state.history ∧
            gate = .ensuring contact .updating := by
          simpa [gateStep,contactStep,found,old,ensured,eq_comm] using taken
        exact ⟨granted,waiting,⟨rfl,.inr (.inl rfl)⟩,admin⟩
      | false =>
        obtain ⟨rfl,rfl,rfl⟩ : after = state.tables ∧ news = state.history ∧
            gate = .evaluating user false := by
          simpa [gateStep,contactStep,found,old,ensured,eq_comm] using taken
        exact ⟨granted,waiting,pending,admin⟩
    · cases taken
      exact ⟨granted,waiting.update fun _ => rfl,⟨rfl,.inr (.inr rfl)⟩,admin⟩
    · obtain ⟨rfl,rfl,rfl⟩ : after = state.tables ∧ news = state.history ∧
          gate = .evaluating user false := by
        simpa [gateStep,contactStep,found,ensured,eq_comm] using taken
      exact ⟨granted,waiting,pending,admin⟩
  | notifying user created =>
    rw [at_] at owes
    exact owes.elim
  | marking user created =>
    rw [at_] at owes
    exact owes.elim
  | telling user created buttons =>
    rw [at_] at owes
    exact owes.elim
  | evaluating user created =>
    rw [at_] at taken owes
    cases taken
    exact .inr ⟨granted,waiting,owes,admin⟩
  | judging user created mode =>
    rw [at_] at taken owes
    cases taken
    have let_ := met.2 user created mode at_
    have owes : user.notifyPending = true := owes
    have goes : judged user created mode answer = .activating .reading := by
      simp [judged,let_,owes]
    rw [goes]
    exact .inr ⟨granted,waiting,trivial,admin⟩
  | activating at_' =>
    rw [at_] at taken owes
    cases taken
    cases at_' with
    | reading =>
      simp only [sendingStep,found]
      exact .inr ⟨granted,waiting,granted,admin⟩
    | sending seen =>
      simp only [sendingStep,met.1,if_true]
      exact .inl ⟨seen,owes,List.mem_cons_self⟩
    | clearing seen => exact owes.elim

theorem Waiting.order (waiting : Waiting uid tables) {order : Order}
    {at_ next : FirstContact.Ordering}
    (taken : FirstContact.adminStep (target uid) order tables at_ = some (after,next)) :
    Waiting uid after := by
  obtain ⟨user,found,_⟩ := waiting.found
  cases at_ with
  | reading =>
    simp only [FirstContact.adminStep] at taken
    split at taken <;> cases taken <;> exact waiting
  | inserting =>
    simp only [FirstContact.adminStep] at taken
    split at taken
    next =>
      cases taken
      exact waiting
    next inserted done =>
      have absent := insertUser_isSome uid (freshUser order.now) tables
      have done : insertUser uid (freshUser order.now) tables = some inserted := done
      rw [done,found] at absent
      contradiction
  | reloading =>
    simp only [FirstContact.adminStep] at taken
    split at taken <;> cases taken <;> exact waiting
  | updating expiry maxHosts =>
    cases taken
    apply @waiting_of_found uid _ (granted expiry maxHosts user) _ rfl
    simp [target,found]
  | returning =>
    cases taken
    exact waiting
  | banning =>
    cases taken
    exact waiting.update fun _ => rfl
  | returned => contradiction
  | raised => contradiction

theorem Owed.admin_step {sent : Bool} {admin : Admin} (owed : Owed uid first state)
    (taken : adminStep uid sent state.tables state.history state.admin = some (after,news,admin)) :
    Told first news ∨
      Owed uid first {state with tables := after, history := news, admin := admin} := by
  have more := owed.granted.trans (history_adminStep taken).2
  obtain ⟨granted,waiting,gate,owes⟩ := owed
  obtain ⟨user,found,_⟩ := waiting.found
  cases at_ : state.admin with
  | idle =>
    rw [at_] at taken
    contradiction
  | working order at_' =>
    rw [at_] at taken
    obtain ⟨⟨tables,at_''⟩,stepped,same⟩ := Option.map_eq_some_iff.mp taken
    cases same
    refine .inr ⟨more,waiting.order stepped,gate,?_⟩
    cases at_'' with
    | returned => cases order <;> trivial
    | _ => trivial
  | activating at_' =>
    rw [at_] at taken owes
    cases taken
    cases at_' with
    | reading =>
      simp only [sendingStep,found]
      exact .inr ⟨granted,waiting,gate,granted⟩
    | sending seen =>
      cases sent with
      | false => exact .inr ⟨granted,waiting,gate,trivial⟩
      | true => exact .inl ⟨seen,owes,List.mem_cons_self⟩
    | clearing seen => exact owes.elim

/-- Whatever comes between, the update still owes the news, or they have been told. -/
theorem Owed.step {action : Action} (owed : Owed uid first state) (met : LetIn state action)
    (taken : step uid state action = some next) :
    Told first next.history ∨ Owed uid first next := by
  cases action with
  | update username firstName now =>
    simp only [Announcements.step] at taken
    split at taken
    next idle =>
      have gate := owed.gate
      rw [idle] at gate
      exact gate.elim
    next => contradiction
  | gate answer =>
    obtain ⟨⟨after,news,gate⟩,stepped,same⟩ := Option.map_eq_some_iff.mp taken
    cases same
    exact owed.gate_step met stepped
  | order order =>
    simp only [Announcements.step] at taken
    split at taken
    next =>
      cases taken
      exact .inr ⟨owed.granted,owed.waiting,owed.gate,trivial⟩
    next => contradiction
  | admin sent =>
    obtain ⟨⟨after,news,admin⟩,stepped,same⟩ := Option.map_eq_some_iff.mp taken
    cases same
    exact owed.admin_step stepped
  | stopGate => exact met.elim
  | stopAdmin =>
    cases taken
    exact .inr ⟨owed.granted,owed.waiting,owed.gate,trivial⟩
  | revoke =>
    cases taken
    refine .inr ⟨?_,owed.waiting.update fun _ => rfl,owed.gate,owed.admin⟩
    simpa [grants] using owed.granted
  | delete => exact met.elim
  | restore tables => exact met.elim
  | other statement =>
    obtain ⟨⟨row,_⟩,same⟩ := Option.ite_none_right_eq_some.mp taken
    cases same
    obtain ⟨expiry,waits⟩ := owed.waiting
    exact .inr ⟨owed.granted,⟨expiry,row.trans waits⟩,owed.gate,owed.admin⟩

end

def paid : Tables := {empty with settings := AList.singleton "mode" "paid"}

def reply (sent : Bool) : Answer := ⟨0,false,false,sent⟩

/-- A user comes whom the bot has not seen, the admin is asked, and the terms are accepted. -/
def arrives : List Action :=
  .update none none 0 :: List.replicate 8 (.gate (reply true)) ++ [.other (acceptTerms 7)]

/-- The subscription is granted, but the message does not get through. -/
def deferred : List Action :=
  arrives ++ .order (.grant 0 1 3) :: List.replicate 5 (.admin false)

/-- A call reads the row before the second grant and clears the column after it; the admin's own
message does not get through either. -/
def overlap : List Action :=
  deferred ++ .update none none 0 :: List.replicate 5 (.gate (reply true)) ++
    .order (.grant 0 1 3) :: List.replicate 3 (.admin false) ++ .gate (reply true) ::
      List.replicate 2 (.admin false)

theorem notice_lost : ∃ state user, overlap.foldlM (step 7) (start paid) = some state ∧
    state.gate = .idle ∧ state.admin = .idle ∧ getUser 7 state.tables = some user ∧
    user.subExpiresAt = some 172800 ∧ user.notifyPending = false ∧
    .announced 2 ∉ state.history := by
  refine ⟨_,_,rfl,rfl,rfl,rfl,rfl,rfl,?_⟩
  decide

/-- The admin is asked at most once for each life of the user's row, which ends when it is deleted
or a backup restored; and not yet in a life whose row does not say so. -/
theorem requests_bounded (tables : Tables) (unknown : getUser uid tables = none)
    (state : State) (reached : Reach (step uid) always (start tables) state) :
    state.history.count .requested ≤
      state.history.count .deleted + state.history.count .restored + 1 ∧
    (asked uid state.tables ≠ some true → state.history.count .requested ≤
      state.history.count .deleted + state.history.count .restored) :=
  (kept_of_reach uid unknown reached).bounded

theorem requests_bounded_again : ∃ state,
    (arrives ++ .delete :: arrives).foldlM (guarded (step 7) always) (start paid) = some state ∧
      state.history.count .requested = 2 ∧ 2 ≤ state.history.count .deleted + 0 + 1 := by
  obtain ⟨state,run,count,restored⟩ : ∃ state,
      (arrives ++ .delete :: arrives).foldlM (guarded (step 7) always) (start paid) = some state ∧
        state.history.count .requested = 2 ∧ state.history.count .restored = 0 := ⟨_,rfl,rfl,rfl⟩
  refine ⟨state,run,count,?_⟩
  rw [← count,← restored]
  exact (requests_bounded 7 paid rfl state (reach_of_run _ run)).1

end AtronixX.Announcements
