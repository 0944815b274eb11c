import AtronixX.Library.Transition
import AtronixX.Database

/-! `cb_account_delete_yes` of `handlers/start.py` beside `cb_ban` of
`handlers/admin.py` for the same user, one statement or await at a time. -/
namespace AtronixX.AccountDeletion
open Library.Transition Database

structure Request where
  uid : Int
  username : Option String
  fullName : String
  isAdmin : Bool
  /-- `adm:ban:`, not `adm:unban:`. -/
  banning : Bool

/-- The await at which `cb_account_delete_yes` is: `q.answer`, `get_user`, `reset_chat`,
`delete_user`, the up to three statements of `ensure_user`, `set_banned`, `ui.show`. -/
inductive Deletion
  | answering
  | reading
  | resetting (user : Option UserRow)
  | deleting (banned : Bool) (reason : Option String)
  | ensuring (now : Int) (reason : Option String)
  | inserting (now : Int) (reason : Option String)
  | touching (now : Int) (reason : Option String)
  | reloading (reason : Option String)
  | banning (reason : Option String)
  | showing
  | finished
  deriving DecidableEq, Repr

/-- The await at which `cb_ban` is: `q.answer`, the two statements of `ensure_placeholder`,
`set_banned`, `log`, `reset_chat`, `get_user`, `ui.send`, `_show_user`. -/
inductive Ban
  | answering
  | placing
  | inserting (now : Int)
  | banning
  | logging
  | resetting
  | reading
  | sending (language : String)
  | showing
  | finished
  deriving DecidableEq, Repr

structure State where
  tables : Tables
  deletion : Deletion
  ban : Ban

/-- Who goes on, with what its clock shows. -/
inductive Move
  | deletion (now : Int)
  | ban (now : Int)
  deriving DecidableEq, Repr

def start (tables : Tables) : State := ⟨tables,.answering,.answering⟩

variable (request : Request)

/-- The await of `cb_account_delete_yes` returns. A row that is not there is a
`TypeError`, and an `IntegrityError` also ends the handler. -/
def deletionStep (now : Int) (tables : Tables) (deletion : Deletion) :
    Option (Tables × Deletion) :=
  match deletion with
  | .answering => some (tables,if request.isAdmin then .finished else .reading)
  | .reading => some (tables,.resetting (getUser request.uid tables))
  | .resetting none => some (tables,.finished)
  | .resetting (some user) => some (tables,.deleting user.isBanned user.banReason)
  | .deleting banned reason =>
    some (deleteUser request.uid tables,if banned then .ensuring now reason else .showing)
  | .ensuring now reason =>
    match getUser request.uid tables with
    | none => some (tables,.inserting now reason)
    | some user =>
      if outdated user request.username (some request.fullName) now then
        some (tables,.touching now reason)
      else some (tables,.banning reason)
  | .inserting now reason =>
    match insertUser request.uid (startedUser request.username (some request.fullName) now)
        tables with
    | none => some (tables,.finished)
    | some inserted => some (inserted,.reloading reason)
  | .touching now reason =>
    some (updateUser request.uid (seen request.username (some request.fullName) now) tables,
      .reloading reason)
  | .reloading reason => some (tables,.banning reason)
  | .banning reason => some (setBanned request.uid true reason tables,.showing)
  | .showing => some (tables,.finished)
  | .finished => none

def banStep (now : Int) (tables : Tables) (ban : Ban) : Option (Tables × Ban) :=
  match ban with
  | .answering => some (tables,if request.isAdmin then .finished else .placing)
  | .placing =>
    match getUser request.uid tables with
    | none => some (tables,.inserting now)
    | some _ => some (tables,.banning)
  | .inserting now =>
    match insertUser request.uid (freshUser now) tables with
    | none => some (tables,.finished)
    | some inserted => some (inserted,.banning)
  | .banning => some (setBanned request.uid request.banning none tables,.logging)
  | .logging =>
    some (log now (if request.banning then "ban" else "unban") (some (toString request.uid)) none
      tables,if request.banning then .resetting else .showing)
  | .resetting => some (tables,.reading)
  | .reading => some (tables,.sending (((getUser request.uid tables).map (·.language)).getD "fa"))
  | .sending _ => some (tables,.showing)
  | .showing => some (tables,.finished)
  | .finished => none

def step (state : State) (move : Move) : Option State :=
  match move with
  | .deletion now => (deletionStep request now state.tables state.deletion).map
    (fun next => ⟨next.1,next.2,state.ban⟩)
  | .ban now => (banStep request now state.tables state.ban).map
    (fun next => ⟨next.1,state.deletion,next.2⟩)

def Banned (tables : Tables) : Prop :=
  (getUser request.uid tables).any UserRow.isBanned = true

def Ban.underway (ban : Ban) : Bool :=
  match ban with
  | .inserting _ => true
  | .banning => true
  | _ => false

/-- The deletion has read a row without a ban and has not deleted it yet. -/
def Deletion.unaware (deletion : Deletion) : Bool :=
  match deletion with
  | .resetting (some user) => !user.isBanned
  | .deleting banned _ => !banned
  | _ => false

/-- The deletion does not read a row without a ban while the ban is under way, and the
ban does not begin between such a read and the `delete_user`. -/
def apart (state : State) (move : Move) : Prop :=
  match move, state.deletion, state.ban with
  | .deletion _, .reading, ban =>
    ban.underway = true → (getUser request.uid state.tables).all UserRow.isBanned = true
  | .ban _, deletion, .placing => deletion.unaware = false
  | _, _, _ => True

def Ban.through (ban : Ban) : Bool :=
  match ban with
  | .answering => false
  | .placing => false
  | .inserting _ => false
  | .banning => false
  | _ => true

inductive BanEffect : Option UserRow → Ban → Option UserRow → Ban → Prop
  | answered (row : Option UserRow) : BanEffect row .answering row .placing
  | missing (now : Int) : BanEffect none .placing none (.inserting now)
  | present (user : UserRow) : BanEffect (some user) .placing (some user) .banning
  | refused (user : UserRow) (now : Int) :
    BanEffect (some user) (.inserting now) (some user) .finished
  | inserted (user : UserRow) (now : Int) : BanEffect none (.inserting now) (some user) .banning
  | banned (row : Option UserRow) : BanEffect row .banning
    (row.map (fun user => {user with isBanned := true, banReason := none})) .logging
  | later (row : Option UserRow) (ban next : Ban) (before : ban.through = true)
    (after : next.through = true) : BanEffect row ban row next

variable {request}

private theorem insertUser_none {uid : Int} {row : UserRow} {tables : Tables}
    (refused : insertUser uid row tables = none) : ∃ user, getUser uid tables = some user := by
  have isSome := insertUser_isSome uid row tables
  rw [refused] at isSome
  exact Option.isSome_iff_exists.mp (by simpa using isSome.symm)

private theorem insertUser_some {uid : Int} {row : UserRow} {tables result : Tables}
    (inserted : insertUser uid row tables = some result) : getUser uid tables = none := by
  have isSome := insertUser_isSome uid row tables
  rw [inserted] at isSome
  simpa using isSome.symm

theorem banStep_effect (user : request.isAdmin = false) (banning : request.banning = true)
    {now : Int} {tables after : Tables} {ban next : Ban}
    (taken : banStep request now tables ban = some (after,next)) :
    BanEffect (getUser request.uid tables) ban (getUser request.uid after) next := by
  cases ban with
  | answering =>
    simp only [banStep,user] at taken
    cases taken
    exact .answered _
  | placing =>
    simp only [banStep] at taken
    split at taken
    next absent =>
      cases taken
      rw [absent]
      exact .missing now
    next row found =>
      cases taken
      rw [found]
      exact .present row
  | inserting created =>
    simp only [banStep] at taken
    split at taken
    next refused =>
      cases taken
      obtain ⟨row,found⟩ := insertUser_none refused
      rw [found]
      exact .refused row created
    next result inserted =>
      cases taken
      rw [insertUser_some inserted,getUser_insertUser _ _ _ _ inserted]
      exact .inserted _ created
  | banning =>
    simp only [banStep,banning] at taken
    cases taken
    rw [getUser_setBanned]
    exact .banned _
  | logging =>
    simp only [banStep,banning] at taken
    cases taken
    exact .later _ _ _ rfl rfl
  | resetting =>
    cases taken
    exact .later _ _ _ rfl rfl
  | reading =>
    cases taken
    exact .later _ _ _ rfl rfl
  | sending language =>
    cases taken
    exact .later _ _ _ rfl rfl
  | showing =>
    cases taken
    exact .later _ _ _ rfl rfl
  | finished => contradiction

inductive DeletionEffect : Option UserRow → Deletion → Option UserRow → Deletion → Prop
  | answered (row : Option UserRow) : DeletionEffect row .answering row .reading
  | read (row : Option UserRow) : DeletionEffect row .reading row (.resetting row)
  | aborted (row : Option UserRow) : DeletionEffect row (.resetting none) row .finished
  | reset (row : Option UserRow) (user : UserRow) : DeletionEffect row (.resetting (some user))
    row (.deleting user.isBanned user.banReason)
  | deleted (row : Option UserRow) (reason : Option String) :
    DeletionEffect row (.deleting false reason) none .showing
  | replacing (row : Option UserRow) (reason : Option String) (now : Int) :
    DeletionEffect row (.deleting true reason) none (.ensuring now reason)
  | missing (now : Int) (reason : Option String) :
    DeletionEffect none (.ensuring now reason) none (.inserting now reason)
  | present (user : UserRow) (now : Int) (reason : Option String) (next : Deletion)
    (updates : next = .touching now reason ∨ next = .banning reason) :
    DeletionEffect (some user) (.ensuring now reason) (some user) next
  | refused (user : UserRow) (now : Int) (reason : Option String) :
    DeletionEffect (some user) (.inserting now reason) (some user) .finished
  | inserted (user : UserRow) (now : Int) (reason : Option String) :
    DeletionEffect none (.inserting now reason) (some user) (.reloading reason)
  | touched (row : Option UserRow) (change : UserRow → UserRow) (now : Int)
    (reason : Option String) :
    DeletionEffect row (.touching now reason) (row.map change) (.reloading reason)
  | reloaded (row : Option UserRow) (reason : Option String) :
    DeletionEffect row (.reloading reason) row (.banning reason)
  | banned (row : Option UserRow) (reason : Option String) : DeletionEffect row (.banning reason)
    (row.map (fun user => {user with isBanned := true, banReason := reason})) .showing
  | shown (row : Option UserRow) : DeletionEffect row .showing row .finished

theorem deletionStep_effect (user : request.isAdmin = false)
    {now : Int} {tables after : Tables} {deletion next : Deletion}
    (taken : deletionStep request now tables deletion = some (after,next)) :
    DeletionEffect (getUser request.uid tables) deletion (getUser request.uid after) next := by
  cases deletion with
  | answering =>
    simp only [deletionStep,user] at taken
    cases taken
    exact .answered _
  | reading =>
    cases taken
    exact .read _
  | resetting found =>
    cases found with
    | none =>
      cases taken
      exact .aborted _
    | some row =>
      cases taken
      exact .reset _ row
  | deleting banned reason =>
    simp only [deletionStep] at taken
    cases taken
    rw [getUser_deleteUser]
    cases banned with
    | false => exact .deleted _ reason
    | true => exact .replacing _ reason now
  | ensuring created reason =>
    simp only [deletionStep] at taken
    split at taken
    next absent =>
      cases taken
      rw [absent]
      exact .missing created reason
    next row found =>
      split at taken
      · cases taken
        rw [found]
        exact .present row created reason _ (.inl rfl)
      · cases taken
        rw [found]
        exact .present row created reason _ (.inr rfl)
  | inserting created reason =>
    simp only [deletionStep] at taken
    split at taken
    next refused =>
      cases taken
      obtain ⟨row,found⟩ := insertUser_none refused
      rw [found]
      exact .refused row created reason
    next result inserted =>
      cases taken
      rw [insertUser_some inserted,getUser_insertUser _ _ _ _ inserted]
      exact .inserted _ created reason
  | touching created reason =>
    cases taken
    simp only [getUser_updateUser,beq_self_eq_true,if_true]
    exact .touched _ _ created reason
  | reloading reason =>
    cases taken
    exact .reloaded _ reason
  | banning reason =>
    cases taken
    rw [getUser_setBanned]
    exact .banned _ reason
  | showing =>
    cases taken
    exact .shown _
  | finished => contradiction

def Ban.fresh (ban : Ban) : Bool := ban = .answering || ban = .placing

/-- Left alone, the ban ends with the user banned. -/
def Safe (row : Option UserRow) (ban : Ban) : Prop :=
  match ban with
  | .answering => True
  | .placing => True
  | .inserting _ => row = none ∨ row.any UserRow.isBanned = true
  | .banning => row.isSome = true
  | _ => row.any UserRow.isBanned = true

/-- The deletion leaves the ban alone or repeats it. -/
def Kept (row : Option UserRow) (deletion : Deletion) (ban : Ban) : Prop :=
  match deletion with
  | .resetting (some user) => user.isBanned = false → ban.fresh = true ∧ row.isSome = true
  | .deleting banned _ => banned = false → ban.fresh = true ∧ row.isSome = true
  | .ensuring _ _ => True
  | .inserting _ _ => row.isSome = true → ban = .banning ∨ row.any UserRow.isBanned = true
  | .touching _ _ => row.isSome = true
  | .reloading _ => row.isSome = true
  | .banning _ => row.isSome = true
  | _ => Safe row ban

/-- The deletion removes, or has removed, the row that the ban found. -/
def Lost (row : Option UserRow) (deletion : Deletion) (ban : Ban) : Prop :=
  match deletion with
  | .resetting (some user) => user.isBanned = false ∧ (ban = .banning ∨ ban.through = true)
  | .deleting banned _ => banned = false ∧ (ban = .banning ∨ ban.through = true)
  | .showing => row = none ∧ (ban = .banning ∨ ban.through = true)
  | .finished => row = none ∧ (ban = .banning ∨ ban.through = true)
  | _ => False

private theorem Safe.of_banned {row : Option UserRow} {ban : Ban}
    (banned : row.any UserRow.isBanned = true) : Safe row ban := by
  cases ban with
  | answering => trivial
  | placing => trivial
  | inserting now => exact .inr banned
  | banning =>
    obtain ⟨user,found,_⟩ := (Option.any_eq_true _ _).mp banned
    exact Option.isSome_iff_exists.mpr ⟨user,found⟩
  | _ => exact banned

private theorem safe_through {row : Option UserRow} {ban : Ban} (through : ban.through = true) :
    Safe row ban ↔ row.any UserRow.isBanned = true := by
  cases ban <;> first | contradiction | exact Iff.rfl

theorem BanEffect.safe {row after : Option UserRow} {ban next : Ban}
    (effect : BanEffect row ban after next) (safe : Safe row ban) : Safe after next := by
  cases effect with
  | answered => trivial
  | missing now => exact .inl rfl
  | present user => exact rfl
  | refused user now => exact safe.resolve_left (by simp)
  | inserted user now => exact rfl
  | banned =>
    obtain ⟨user,rfl⟩ := Option.isSome_iff_exists.mp safe
    exact rfl
  | later _ _ _ before after =>
    exact (safe_through after).mpr ((safe_through before).mp safe)

theorem BanEffect.isSome {row after : Option UserRow} {ban next : Ban}
    (effect : BanEffect row ban after next) (found : row.isSome = true) : after.isSome = true := by
  cases effect with
  | banned => simpa using found
  | inserted user now => rfl
  | _ => exact found

theorem BanEffect.any {row after : Option UserRow} {ban next : Ban}
    (effect : BanEffect row ban after next) (banned : row.any UserRow.isBanned = true) :
    after.any UserRow.isBanned = true := by
  cases effect with
  | banned =>
    obtain ⟨user,rfl,_⟩ := (Option.any_eq_true _ _).mp banned
    rfl
  | inserted user now => contradiction
  | _ => exact banned

theorem BanEffect.fresh {row after : Option UserRow} {ban next : Ban}
    (effect : BanEffect row ban after next) (fresh : ban.fresh = true) (waits : ban ≠ .placing) :
    next.fresh = true := by
  cases effect with
  | answered => rfl
  | missing => contradiction
  | present => contradiction
  | later _ _ _ before after => cases ban <;> contradiction
  | _ => contradiction

theorem BanEffect.kept {row after : Option UserRow} {ban next : Ban} {deletion : Deletion}
    (effect : BanEffect row ban after next) (kept : Kept row deletion ban)
    (met : ban = .placing → deletion.unaware = false) : Kept after deletion next := by
  have waits (unaware : deletion.unaware = true) : ban ≠ .placing := by
    intro placing
    rw [met placing] at unaware
    contradiction
  cases deletion with
  | resetting found =>
    cases found with
    | none => exact effect.safe kept
    | some user =>
      intro unbanned
      obtain ⟨fresh,found⟩ := kept unbanned
      exact ⟨effect.fresh fresh (waits (by simp [Deletion.unaware,unbanned])),effect.isSome found⟩
  | deleting banned reason =>
    intro unbanned
    obtain ⟨fresh,found⟩ := kept unbanned
    exact ⟨effect.fresh fresh (waits (by simp [Deletion.unaware,unbanned])),effect.isSome found⟩
  | ensuring now reason => trivial
  | inserting now reason =>
    intro found
    cases effect with
    | answered => exact .inr ((kept found).resolve_left (by simp))
    | missing => contradiction
    | present user => exact .inl rfl
    | refused user now => exact .inr ((kept rfl).resolve_left (by simp))
    | inserted user now => exact .inl rfl
    | banned =>
      obtain ⟨user,rfl⟩ := Option.isSome_iff_exists.mp ((Option.isSome_map ..).symm.trans found)
      exact .inr rfl
    | later _ _ _ before after =>
      refine .inr ((kept found).resolve_left ?_)
      rintro rfl
      contradiction
  | touching now reason => exact effect.isSome kept
  | reloading reason => exact effect.isSome kept
  | banning reason => exact effect.isSome kept
  | _ => exact effect.safe kept

theorem DeletionEffect.kept {row after : Option UserRow} {deletion next : Deletion} {ban : Ban}
    (effect : DeletionEffect row deletion after next) (kept : Kept row deletion ban)
    (met : deletion = .reading → ban.underway = true → row.all UserRow.isBanned = true) :
    Kept after next ban := by
  cases effect with
  | answered => exact kept
  | read =>
    cases row with
    | none => exact kept
    | some user =>
      intro unbanned
      have safe : Safe (some user) ban := kept
      cases ban with
      | answering => exact ⟨rfl,rfl⟩
      | placing => exact ⟨rfl,rfl⟩
      | inserting now => simp [Safe,unbanned] at safe
      | banning =>
        have banned := met rfl rfl
        simp [unbanned] at banned
      | _ => simp [Safe,unbanned] at safe
  | aborted => exact kept
  | reset => exact kept
  | deleted _ reason =>
    have fresh := (kept rfl).1
    cases ban with
    | answering => trivial
    | placing => trivial
    | _ => contradiction
  | replacing => trivial
  | missing => simp [Kept]
  | present user now reason _ updates => rcases updates with rfl | rfl <;> exact rfl
  | refused user now reason =>
    rcases kept rfl with rfl | banned
    · exact rfl
    · exact Safe.of_banned banned
  | inserted => exact rfl
  | touched => simpa [Kept] using kept
  | reloaded => exact kept
  | banned =>
    obtain ⟨user,rfl⟩ := Option.isSome_iff_exists.mp kept
    exact Safe.of_banned rfl
  | shown => exact kept

theorem BanEffect.lost {row after : Option UserRow} {ban next : Ban} {deletion : Deletion}
    (effect : BanEffect row ban after next) (lost : Lost row deletion ban) :
    Lost after deletion next := by
  have goes (begun : ban = .banning ∨ ban.through = true) :
      next = .banning ∨ next.through = true := by
    cases effect with
    | banned => exact .inr rfl
    | later _ _ _ before after => exact .inr after
    | _ => simp [Ban.through] at begun
  have gone (absent : row = none) (begun : ban = .banning ∨ ban.through = true) :
      after = none := by
    subst absent
    cases effect with
    | inserted => simp [Ban.through] at begun
    | _ => rfl
  cases deletion with
  | resetting found =>
    cases found with
    | none => contradiction
    | some user => exact ⟨lost.1,goes lost.2⟩
  | deleting banned reason => exact ⟨lost.1,goes lost.2⟩
  | showing => exact ⟨gone lost.1 lost.2,goes lost.2⟩
  | finished => exact ⟨gone lost.1 lost.2,goes lost.2⟩
  | _ => contradiction

theorem DeletionEffect.lost {row after : Option UserRow} {deletion next : Deletion} {ban : Ban}
    (effect : DeletionEffect row deletion after next) (lost : Lost row deletion ban) :
    Lost after next ban := by
  cases effect with
  | reset => exact lost
  | deleted => exact ⟨rfl,lost.2⟩
  | shown => exact lost
  | replacing => simp [Lost] at lost
  | _ => contradiction

theorem BanEffect.loses {row after : Option UserRow} {next : Ban} {deletion : Deletion}
    (effect : BanEffect row .placing after next) (kept : Kept row deletion .placing)
    (unaware : deletion.unaware = true) : Lost after deletion next := by
  have begun (found : row.isSome = true) : next = .banning := by
    cases effect with
    | missing => contradiction
    | present => rfl
    | later _ _ _ before after => contradiction
  unfold Deletion.unaware at unaware
  split at unaware
  next user =>
    have unbanned : user.isBanned = false := by simpa using unaware
    exact ⟨unbanned,.inl (begun (kept unbanned).2)⟩
  next banned reason =>
    have unbanned : banned = false := by simpa using unaware
    exact ⟨unbanned,.inl (begun (kept unbanned).2)⟩
  next => contradiction

theorem DeletionEffect.loses {row after : Option UserRow} {next : Deletion} {ban : Ban}
    (effect : DeletionEffect row .reading after next) (safe : Safe row ban)
    (underway : ban.underway = true) (unbanned : row.all UserRow.isBanned ≠ true) :
    Lost after next ban := by
  cases effect with
  | read =>
    cases row with
    | none => simp at unbanned
    | some user =>
      have unbanned : user.isBanned = false := by simpa using unbanned
      cases ban with
      | inserting now => simp [Safe,unbanned] at safe
      | banning => exact ⟨unbanned,.inl rfl⟩
      | _ => contradiction

instance (state : State) (move : Move) : Decidable (apart request state move) := by
  unfold apart
  split <;> infer_instance

variable (request) in
def KeptState (state : State) : Prop :=
  Kept (getUser request.uid state.tables) state.deletion state.ban

variable (request) in
def LostState (state : State) : Prop :=
  Lost (getUser request.uid state.tables) state.deletion state.ban

private theorem kept_step (user : request.isAdmin = false) (banning : request.banning = true)
    (before : State) (move : Move) (after : State) (kept : KeptState request before)
    (met : apart request before move) (taken : step request before move = some after) :
    KeptState request after := by
  cases move with
  | deletion now =>
    obtain ⟨⟨tables,next⟩,went,rfl⟩ := Option.map_eq_some_iff.mp taken
    apply (deletionStep_effect user went).kept kept
    intro reading underway
    simp only [apart,reading] at met
    exact met underway
  | ban now =>
    obtain ⟨⟨tables,next⟩,went,rfl⟩ := Option.map_eq_some_iff.mp taken
    apply (banStep_effect user banning went).kept kept
    intro placing
    simpa only [apart,placing] using met

private theorem leaves_step (user : request.isAdmin = false) (banning : request.banning = true)
    (before : State) (move : Move) (after : State) (kept : KeptState request before)
    (broken : ¬ apart request before move) (taken : step request before move = some after) :
    LostState request after := by
  obtain ⟨tables,deletion,ban⟩ := before
  cases move with
  | deletion now =>
    obtain ⟨⟨tables,next⟩,went,rfl⟩ := Option.map_eq_some_iff.mp taken
    have effect := deletionStep_effect user went
    unfold apart at broken
    cases deletion with
    | reading =>
      have broken := Classical.not_imp.mp broken
      exact effect.loses kept broken.1 broken.2
    | _ => exact absurd trivial broken
  | ban now =>
    obtain ⟨⟨tables,next⟩,went,rfl⟩ := Option.map_eq_some_iff.mp taken
    have effect := banStep_effect user banning went
    unfold apart at broken
    cases ban with
    | placing => exact effect.loses kept (by simpa using broken)
    | _ => exact absurd trivial broken

private theorem lost_step (user : request.isAdmin = false) (banning : request.banning = true)
    (before : State) (move : Move) (after : State) (lost : LostState request before)
    (taken : step request before move = some after) : LostState request after := by
  cases move with
  | deletion now =>
    obtain ⟨⟨tables,next⟩,went,rfl⟩ := Option.map_eq_some_iff.mp taken
    exact (deletionStep_effect user went).lost lost
  | ban now =>
    obtain ⟨⟨tables,next⟩,went,rfl⟩ := Option.map_eq_some_iff.mp taken
    exact (banStep_effect user banning went).lost lost

/-- When both handlers have finished, the user is banned exactly if the deletion and the
ban stayed apart in every step. -/
theorem ban_survives_iff (user : request.isAdmin = false) (banning : request.banning = true)
    (tables : Tables) (moves : List Move) (last : State)
    (ran : moves.foldlM (step request) (start tables) = some last)
    (deletionDone : last.deletion = .finished) (banDone : last.ban = .finished) :
    Banned request last.tables ↔
      moves.foldlM (guarded (step request) (apart request)) (start tables) = some last := by
  have initial : KeptState request (start tables) := trivial
  have fates := guarded_or_left (kept_step user banning) (leaves_step user banning)
    (lost_step user banning) moves initial ran
  rcases fates with ⟨met,kept⟩ | ⟨broken,lost⟩
  · have banned : Banned request last.tables := by
      simp only [KeptState,deletionDone,banDone] at kept
      exact kept
    exact iff_of_true banned met
  · have gone : getUser request.uid last.tables = none := by
      simp only [LostState,deletionDone,banDone] at lost
      exact lost.1
    refine iff_of_false ?_ (by rw [broken]; simp)
    simp [Banned,gone]

def sample : Request := ⟨7,none,"user",false,true⟩

def sampleTables : Tables := {empty with users := AList.singleton 7 (freshUser 0)}

def deletions (count : Nat) : List Move := List.replicate count (.deletion 0)

def bans (count : Nat) : List Move := List.replicate count (.ban 0)

theorem ban_survives_after :
    ∃ last, (deletions 5 ++ bans 9).foldlM (step sample) (start sampleTables) = some last ∧
      Banned sample last.tables := by
  obtain ⟨last,ran,met,deletionDone,banDone⟩ : ∃ last,
      (deletions 5 ++ bans 9).foldlM (step sample) (start sampleTables) = some last ∧
      (deletions 5 ++ bans 9).foldlM (guarded (step sample) (apart sample))
        (start sampleTables) = some last ∧ last.deletion = .finished ∧ last.ban = .finished :=
    ⟨_,rfl,rfl,rfl,rfl⟩
  exact ⟨last,ran,(ban_survives_iff rfl rfl sampleTables _ last ran deletionDone banDone).mpr met⟩

/-- The ban comes between `get_user` and `delete_user`. -/
theorem ban_undone : ¬ ∀ (tables : Tables) (moves : List Move) (last : State),
    moves.foldlM (step sample) (start tables) = some last → last.deletion = .finished →
    last.ban = .finished → Banned sample last.tables := by
  intro claimed
  obtain ⟨last,ran,deletionDone,banDone,gone⟩ : ∃ last,
      (deletions 2 ++ bans 8 ++ deletions 3).foldlM (step sample) (start sampleTables) =
        some last ∧ last.deletion = .finished ∧ last.ban = .finished ∧
      getUser 7 last.tables = none := ⟨_,rfl,rfl,rfl,rfl⟩
  have banned := claimed sampleTables _ last ran deletionDone banDone
  simp [Banned,sample,gone] at banned

end AtronixX.AccountDeletion
