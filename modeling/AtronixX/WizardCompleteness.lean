import AtronixX.Library.Transition
import AtronixX.Wizard

/-! When the add-host wizard comes to its confirmation with everything it asked for. The
shortcut buttons set the next step without looking at the current one; a run in which none
is pressed before its step has been reached keeps the data complete. -/
namespace AtronixX.WizardCompleteness
open Library.Transition PublicTarget Wizard

inductive Button
  | back | port22 | userroot | authPassword | authKey | test | save
  deriving DecidableEq, Repr

def Button.action : Button → Text
  | .back => "back".toList
  | .port22 => "port22".toList
  | .userroot => "userroot".toList
  | .authPassword => "auth:password".toList
  | .authKey => "auth:key".toList
  | .test => "test".toList
  | .save => "save".toList

inductive Action
  /-- `cb_add`; with `limited` its `_limit_reached` says no. -/
  | add (mid : Int) (limited : Bool)
  | press (mid : Int) (button : Button) (answers : Answers)
  | text (content : Text) (getaddrinfo : Resolver)
  | file (document : Option Document) (getaddrinfo : Resolver)
  /-- The gate drops the flow, or another one replaces it. -/
  | leave

/-- `user_data["flow"]` while it is the wizard's, and the history: the name servers that were
asked, what was raised and what was saved. -/
structure State where
  flow : Option Flow
  resolvers : List Resolver
  raised : List Raise
  saved : List Host

def start : State := ⟨none,[],[],[]⟩

def State.after (state : State) (turn : Turn) : State :=
  {state with
    flow := turn.flow
    raised := state.raised ++ turn.raised.toList
    saved := state.saved ++ turn.saved.toList}

def State.asked (state : State) (getaddrinfo : Resolver) : State :=
  {state with resolvers := state.resolvers ++ [getaddrinfo]}

variable (setup : Setup)

def turn (flow : Flow) : Action → Option Turn
  | .add _ _ => none
  | .press mid button answers => some (cbWizard flow mid button.action answers)
  | .text content getaddrinfo => some (wizInput setup getaddrinfo flow (Library.Text.strip content))
  | .file document getaddrinfo => flowMedia setup getaddrinfo flow document
  | .leave => none

def Action.noted (action : Action) (state : State) : State :=
  match action with
  | .text _ getaddrinfo => state.asked getaddrinfo
  | .file _ getaddrinfo => state.asked getaddrinfo
  | _ => state

def step (state : State) (action : Action) : Option State :=
  let noted := action.noted state
  match action with
  | .add mid limited => some (if limited then state else {state with flow := some (opened mid)})
  | .leave => some {state with flow := none}
  | _ => some (match state.flow.bind fun flow => turn setup flow action with
    | none => noted
    | some turn => noted.after turn)

def AddressAccepted (resolvers : List Resolver) (text : Text) : Prop :=
  ∃ getaddrinfo ∈ resolvers, validateField setup getaddrinfo .ip text = .ok none

/-- The check of the step depends on how the host is opened. -/
def SecretAccepted (auth : Option Text) (secret : Text) : Prop :=
  if auth = some "key".toList then
    ∃ text, readableKey setup text = true ∧ secret = Library.Text.strip text ++ ['\n']
  else lengthIn 256 secret = true

structure Valid (resolvers : List Resolver) (data : Data) : Prop where
  label : ∀ text ∈ data.label, lengthIn 32 text = true
  ip : ∀ text ∈ data.ip, AddressAccepted setup resolvers text
  port : ∀ port ∈ data.port, 1 ≤ port ∧ port ≤ 65535
  username : ∀ text ∈ data.username, userName text = true
  auth : ∀ text ∈ data.auth, text = "password".toList ∨ text = "key".toList
  secret : ∀ secret ∈ data.secret, SecretAccepted setup data.auth secret
  passphrase : ∀ text ∈ data.passphrase, lengthIn 256 text = true

/-- The step has left its value in the data. -/
def has (data : Data) : Step → Bool
  | .label => data.label.isSome
  | .addr => data.ip.isSome
  | .port => data.port.isSome
  | .user => data.username.isSome
  | .auth => data.auth.isSome
  | .secret => data.secret.isSome
  | .pass => true
  | .confirm => true

/-- The steps before this one have left their values. -/
def Filled (data : Data) (step : Step) : Prop :=
  ∀ earlier, order.idxOf earlier < order.idxOf step → has data earlier = true

def Complete (resolvers : List Resolver) (data : Data) : Prop :=
  Valid setup resolvers data ∧ ∀ step, has data step = true

def hostData (host : Host) : Data :=
  ⟨some host.label,some host.ip,some host.port,some host.username,some host.auth,some host.secret,
    none,host.passphrase⟩

structure Sound (state : State) : Prop where
  confirm : ∀ flow, state.flow = some flow → flow.step = .confirm →
    Complete setup state.resolvers flow.data
  raised : ∀ key, .keyError key ∉ state.raised
  saved : ∀ host ∈ state.saved, Complete setup state.resolvers (hostData host)

/-- The step that a shortcut fills. -/
def Button.own : Button → Option Step
  | .port22 => some .port
  | .userroot => some .user
  | .authPassword => some .auth
  | .authKey => some .auth
  | _ => none

/-- A shortcut is pressed when the steps before its own are done. -/
def InTurn (state : State) : Action → Prop
  | .press _ button _ => ∀ flow, state.flow = some flow → ∀ step, button.own = some step →
    Filled flow.data step
  | _ => True

instance (data : Data) (step : Step) : Decidable (Filled data step) :=
  decidable_of_iff (∀ earlier ∈ order, order.idxOf earlier < order.idxOf step →
      has data earlier = true)
    ⟨fun all earlier => all earlier (by cases earlier <;> decide),
      fun filled earlier _ => filled earlier⟩

instance (state : State) (action : Action) : Decidable (InTurn state action) :=
  match action with
  | .press _ button _ => decidable_of_iff
      ((state.flow.all fun flow => button.own.all fun step => decide (Filled flow.data step)) = true)
      (by simp [InTurn,Option.all_eq_true])
  | .add _ _ => isTrue trivial
  | .text _ _ => isTrue trivial
  | .file _ _ => isTrue trivial
  | .leave => isTrue trivial

structure Fine (resolvers : List Resolver) (flow : Flow) : Prop where
  valid : Valid setup resolvers flow.data
  filled : Filled flow.data flow.step

structure Kept (state : State) : Prop where
  flow : ∀ flow, state.flow = some flow → Fine setup state.resolvers flow
  raised : ∀ key, .keyError key ∉ state.raised
  saved : ∀ host ∈ state.saved, Complete setup state.resolvers (hostData host)

variable {setup}

theorem Valid.more {resolvers more : List Resolver} {data : Data}
    (valid : Valid setup resolvers data) : Valid setup (resolvers ++ more) data := by
  refine {valid with ip := ?_}
  intro text given
  obtain ⟨getaddrinfo,member,accepted⟩ := valid.ip text given
  exact ⟨getaddrinfo,List.mem_append_left _ member,accepted⟩

theorem filled_confirm_iff {data : Data} :
    Filled data .confirm ↔ ∀ step, has data step = true := by
  constructor
  · intro filled step
    by_cases last : step = .confirm
    · subst last
      rfl
    · apply filled
      cases step <;> first | contradiction | decide
  · intro all step _
    exact all step

/-- Each step, and a step to its right in the wizard. The passphrase may be left out. -/
private def follows : List (Step × Step) := order.zip order.tail ++ [(.secret,.confirm)]

private theorem follows_next {flow : Flow} {next : Step} (is : Wizard.next flow = some next) :
    (flow.step,next) ∈ follows := by
  obtain ⟨at_,data,mid⟩ := flow
  dsimp only
  cases at_ with
  | secret =>
    simp only [Wizard.next,if_true] at is
    split at is
    all_goals
      cases is
      decide
  | confirm => contradiction
  | _ =>
    cases is
    decide

private theorem follows_prev {flow : Flow} {prev : Step} (is : Wizard.prev flow = some prev) :
    (prev,flow.step) ∈ follows := by
  obtain ⟨at_,data,mid⟩ := flow
  dsimp only
  cases at_ with
  | label => contradiction
  | confirm =>
    simp only [Wizard.prev,reduceCtorEq,if_false,if_true] at is
    split at is
    all_goals
      cases is
      decide
  | _ =>
    cases is
    decide

private theorem mem_order (step : Step) : step ∈ order := by
  cases step <;> decide

private theorem earlier_follows {step next : Step} (follow : (step,next) ∈ follows)
    (earlier : Step) (before : order.idxOf earlier < order.idxOf next) :
    order.idxOf earlier < order.idxOf step ∨ earlier = step ∨ earlier = .pass :=
  (by decide : ∀ pair ∈ follows, ∀ earlier ∈ order, order.idxOf earlier < order.idxOf pair.2 →
    order.idxOf earlier < order.idxOf pair.1 ∨ earlier = pair.1 ∨ earlier = .pass)
    (step,next) follow earlier (mem_order earlier) before

private theorem idxOf_follows {step next : Step} (follow : (step,next) ∈ follows) :
    order.idxOf step < order.idxOf next :=
  (by decide : ∀ pair ∈ follows, order.idxOf pair.1 < order.idxOf pair.2) (step,next) follow

theorem filled_next {flow : Flow} {next : Step} (filled : Filled flow.data flow.step)
    (done : has flow.data flow.step = true) (is : Wizard.next flow = some next) :
    Filled flow.data next := by
  intro earlier before
  rcases earlier_follows (follows_next is) earlier before with earlier | same | same
  · exact filled _ earlier
  · exact same ▸ done
  · subst same
    rfl

theorem filled_prev {flow : Flow} {prev : Step} (filled : Filled flow.data flow.step)
    (is : Wizard.prev flow = some prev) : Filled flow.data prev := by
  intro earlier before
  exact filled earlier (Nat.lt_trans before (idxOf_follows (follows_prev is)))

theorem confirmation_ok {data : Data} (all : ∀ step, has data step = true) :
    ∃ shown, confirmation data = .ok shown := by
  obtain ⟨label,found⟩ := Option.isSome_iff_exists.mp (all .label)
  obtain ⟨ip,found'⟩ := Option.isSome_iff_exists.mp (all .addr)
  obtain ⟨port,found''⟩ := Option.isSome_iff_exists.mp (all .port)
  obtain ⟨username,found₃⟩ := Option.isSome_iff_exists.mp (all .user)
  obtain ⟨auth,found₄⟩ := Option.isSome_iff_exists.mp (all .auth)
  unfold confirmation
  rw [found,found',found'',found₃,found₄]
  exact ⟨_,rfl⟩

theorem savedHost_ok {data : Data} (all : ∀ step, has data step = true) :
    ∃ host, savedHost data = .ok host ∧ hostData host = {data with needsPass := none} := by
  obtain ⟨label,ip,port,username,auth,secret,needsPass,passphrase⟩ := data
  obtain ⟨label,rfl⟩ := Option.isSome_iff_exists.mp (all .label)
  obtain ⟨ip,rfl⟩ := Option.isSome_iff_exists.mp (all .addr)
  obtain ⟨port,rfl⟩ := Option.isSome_iff_exists.mp (all .port)
  obtain ⟨username,rfl⟩ := Option.isSome_iff_exists.mp (all .user)
  obtain ⟨auth,rfl⟩ := Option.isSome_iff_exists.mp (all .auth)
  obtain ⟨secret,rfl⟩ := Option.isSome_iff_exists.mp (all .secret)
  exact ⟨_,rfl,rfl⟩

theorem tempHost_ok {data : Data} (all : ∀ step, has data step = true) :
    ∃ target, tempHost data = .ok target := by
  obtain ⟨host,saved,_⟩ := savedHost_ok all
  unfold savedHost at saved
  obtain ⟨label,found⟩ := Option.isSome_iff_exists.mp (all .label)
  rw [found] at saved
  cases temp : tempHost data with
  | error raised => simp [temp,item,bind,Except.bind] at saved
  | ok target => exact ⟨target,rfl⟩

variable (setup) in
structure Good (resolvers : List Resolver) (turn : Turn) : Prop where
  flow : ∀ flow, turn.flow = some flow → Fine setup resolvers flow
  raised : ∀ key, turn.raised ≠ some (.keyError key)
  saved : ∀ host, turn.saved = some host → Complete setup resolvers (hostData host)

private theorem good_stay {resolvers : List Resolver} {flow : Flow}
    (fine : Fine setup resolvers flow) : Good setup resolvers (stay flow) := by
  refine ⟨?_,?_,?_⟩
  · intro other same
    cases same
    exact fine
  · intro key same
    contradiction
  · intro host same
    contradiction

private theorem good_raise {resolvers : List Resolver} {flow : Flow} {raised : Raise}
    (fine : Fine setup resolvers flow) (other : ∀ key, raised ≠ .keyError key) :
    Good setup resolvers (raise flow raised) := by
  refine ⟨?_,?_,?_⟩
  · intro other same
    cases same
    exact fine
  · intro key same
    exact other key (Option.some.inj same)
  · intro host same
    contradiction

private theorem good_render {resolvers : List Resolver} {flow : Flow}
    (fine : Fine setup resolvers flow) : Good setup resolvers (render flow) := by
  unfold render
  split
  next raised at_ failed =>
    have filled := fine.filled
    rw [at_] at filled
    obtain ⟨shown,ok⟩ := confirmation_ok (filled_confirm_iff.mp filled)
    rw [ok] at failed
    contradiction
  next => exact good_stay fine

private theorem good_dropped (resolvers : List Resolver) : Good setup resolvers ⟨none,none,none⟩ := by
  refine ⟨?_,?_,?_⟩
  · intro flow same
    contradiction
  · intro key same
    contradiction
  · intro host same
    contradiction

private theorem validateField_raises {getaddrinfo : Resolver} {field : Field} {text : Text}
    {raised : Raise} (failed : validateField setup getaddrinfo field text = .error raised)
    (key : String) : raised ≠ .keyError key := by
  intro same
  subst same
  cases field with
  | ip =>
    simp only [validateField] at failed
    split at failed
    next => contradiction
    next => split at failed <;> simp at failed
  | port =>
    simp only [validateField] at failed
    split at failed
    next => contradiction
    next => split at failed <;> simp at failed
  | _ => contradiction

variable (setup) in
structure Entered (resolvers : List Resolver) (flow : Flow) (data : Data) : Prop where
  valid : Valid setup resolvers data
  done : has data flow.step = true
  more : ∀ step, has flow.data step = true → has data step = true

private theorem more_of_eq {before after : Data} (label : before.label.isSome → after.label.isSome)
    (ip : before.ip.isSome → after.ip.isSome) (port : before.port.isSome → after.port.isSome)
    (username : before.username.isSome → after.username.isSome)
    (auth : before.auth.isSome → after.auth.isSome)
    (secret : before.secret.isSome → after.secret.isSome) (step : Step)
    (was : has before step = true) : has after step = true := by
  cases step with
  | label => exact label was
  | addr => exact ip was
  | port => exact port was
  | user => exact username was
  | auth => exact auth was
  | secret => exact secret was
  | pass => rfl
  | confirm => rfl

theorem checked_ok {getaddrinfo : Resolver} {field : Field} {text : Text}
    {data after : Data} (ok : checked setup getaddrinfo field text data = .ok (.ok after)) :
    validateField setup getaddrinfo field text = .ok none ∧ data = after := by
  unfold checked at ok
  split at ok
  next => contradiction
  next => simp at ok
  next accepted => exact ⟨accepted,by simpa using ok⟩

private theorem checked_raises {getaddrinfo : Resolver} {field : Field} {text : Text}
    {data : Data} {raised : Raise}
    (failed : checked setup getaddrinfo field text data = .error raised) (key : String) :
    raised ≠ .keyError key := by
  unfold checked at failed
  split at failed
  next failed' =>
    cases failed
    exact validateField_raises failed' key
  next => contradiction
  next => contradiction

private theorem entered_raises {getaddrinfo : Resolver} {flow : Flow} {text : Text} {raised : Raise}
    (failed : entered setup getaddrinfo flow text = .error raised) (key : String) :
    raised ≠ .keyError key := by
  unfold entered at failed
  dsimp only at failed
  split at failed
  next => contradiction
  next => exact checked_raises failed key
  next =>
    split at failed
    next =>
      split at failed
      next =>
        cases failed
        simp
      next => exact checked_raises failed key
    next => exact checked_raises failed key
  next => exact checked_raises failed key
  next => contradiction
  next =>
    split at failed
    next => contradiction
    next => exact checked_raises failed key
  next => contradiction
  next => contradiction

theorem entered_ok {resolvers : List Resolver} {getaddrinfo : Resolver} {flow : Flow} {text : Text}
    {data : Data} (member : getaddrinfo ∈ resolvers) (valid : Valid setup resolvers flow.data)
    (ok : entered setup getaddrinfo flow text = .ok (.ok data)) : Entered setup resolvers flow data := by
  obtain ⟨at_,before,mid⟩ := flow
  cases at_ with
  | label =>
    simp only [entered] at ok
    split at ok
    next short =>
      cases ok
      refine ⟨{valid with label := ?_},rfl,more_of_eq (fun _ => rfl) id id id id id⟩
      intro other same
      cases same
      exact short
    next => simp at ok
  | addr =>
    obtain ⟨accepted,same⟩ := checked_ok ok
    subst same
    refine ⟨{valid with ip := ?_},rfl,more_of_eq id (fun _ => rfl) id id id id⟩
    intro other same
    cases same
    exact ⟨getaddrinfo,member,accepted⟩
  | port =>
    simp only [entered] at ok
    split at ok
    next =>
      split at ok
      next => contradiction
      next unaccepted => exact absurd ok (unaccepted _)
    next port read =>
      obtain ⟨accepted,same⟩ := checked_ok ok
      subst same
      refine ⟨{valid with port := ?_},rfl,more_of_eq id id (fun _ => rfl) id id id⟩
      intro other same
      cases same
      simp only [validateField,read] at accepted
      split at accepted
      next => simp at accepted
      next =>
        split at accepted
        next inside => exact inside
        next => simp at accepted
  | user =>
    obtain ⟨accepted,same⟩ := checked_ok ok
    subst same
    refine ⟨{valid with username := ?_},rfl,more_of_eq id id id (fun _ => rfl) id id⟩
    intro other same
    cases same
    simpa [validateField] using accepted
  | auth => simp [entered] at ok
  | secret =>
    simp only [entered] at ok
    split at ok
    next auth =>
      simp only [acceptKey] at ok
      split at ok
      next readable =>
        cases ok
        refine ⟨{valid with secret := ?_},rfl,more_of_eq id id id id id (fun _ => rfl)⟩
        intro other same
        cases same
        simp only [SecretAccepted,auth,if_true]
        exact ⟨text,readable,rfl⟩
      next => simp at ok
    next auth =>
      obtain ⟨accepted,same⟩ := checked_ok ok
      subst same
      refine ⟨{valid with secret := ?_},rfl,more_of_eq id id id id id (fun _ => rfl)⟩
      intro other same
      cases same
      simp only [SecretAccepted,auth,if_false]
      simpa [validateField] using accepted
  | pass =>
    simp only [entered] at ok
    split at ok
    next short =>
      cases ok
      refine ⟨{valid with passphrase := ?_},rfl,more_of_eq id id id id id id⟩
      intro other same
      cases same
      exact short
    next => simp at ok
  | confirm => simp [entered] at ok

theorem good_wizInput {resolvers : List Resolver} {getaddrinfo : Resolver} {flow : Flow}
    {text : Text} (member : getaddrinfo ∈ resolvers) (fine : Fine setup resolvers flow) :
    Good setup resolvers (wizInput setup getaddrinfo flow text) := by
  unfold wizInput
  split
  next raised failed => exact good_raise fine (entered_raises failed)
  next => exact good_render fine
  next data ok =>
    obtain ⟨valid,done,more⟩ := entered_ok member fine.valid ok
    have filled : Filled data flow.step := fun earlier before =>
      more earlier (fine.filled earlier before)
    dsimp only
    split
    next => exact good_raise ⟨valid,filled⟩ (by simp)
    next step is => exact good_render ⟨valid,@filled_next {flow with data := data} step filled done is⟩

theorem good_flowMedia {resolvers : List Resolver} {getaddrinfo : Resolver} {flow : Flow}
    {document : Option Document} {turn : Turn} (member : getaddrinfo ∈ resolvers)
    (fine : Fine setup resolvers flow) (taken : flowMedia setup getaddrinfo flow document = some turn) :
    Good setup resolvers turn := by
  unfold flowMedia at taken
  split at taken
  next => contradiction
  next =>
    split at taken
    next => contradiction
    next document =>
      split at taken
      next =>
        cases taken
        exact good_render fine
      next =>
        cases taken
        exact good_wizInput member fine

/-- A shortcut that is pressed in turn leaves the steps before its own filled. -/
private theorem filled_shortcut {before after : Data} {own next : Step}
    (inTurn : Filled before own) (more : ∀ step, order.idxOf step < order.idxOf next →
      step ≠ own → has before step = true → has after step = true)
    (done : has after own = true) (follows : order.idxOf next = order.idxOf own + 1) :
    Filled after next := by
  intro earlier before_
  by_cases same : earlier = own
  · exact same ▸ done
  · have distinct : order.idxOf earlier ≠ order.idxOf own := by
      intro equal
      apply same
      revert equal
      cases earlier <;> cases own <;> decide
    exact more earlier before_ same (inTurn earlier (by omega))

private theorem fine_port22 {resolvers : List Resolver} {flow : Flow}
    (fine : Fine setup resolvers flow) (inTurn : Filled flow.data .port) (mid : Int) :
    Fine setup resolvers ⟨.user,{flow.data with port := some 22},mid⟩ := by
  constructor
  · refine {fine.valid with port := ?_}
    intro port same
    cases same
    omega
  · refine filled_shortcut inTurn ?_ rfl rfl
    intro step _ _ was
    cases step <;> first | exact was | rfl

private theorem fine_userroot {resolvers : List Resolver} {flow : Flow}
    (fine : Fine setup resolvers flow) (inTurn : Filled flow.data .user) (mid : Int) :
    Fine setup resolvers ⟨.auth,{flow.data with username := some "root".toList},mid⟩ := by
  constructor
  · refine {fine.valid with username := ?_}
    intro username same
    cases same
    decide
  · refine filled_shortcut inTurn ?_ rfl rfl
    intro step _ _ was
    cases step <;> first | exact was | rfl

private theorem fine_auth {resolvers : List Resolver} {flow : Flow} {kind : Text}
    (fine : Fine setup resolvers flow) (inTurn : Filled flow.data .auth)
    (known : kind = "password".toList ∨ kind = "key".toList) (mid : Int) :
    Fine setup resolvers ⟨.secret,{flow.data with
      auth := some kind, secret := none, needsPass := none, passphrase := none},mid⟩ := by
  constructor
  · refine {fine.valid with auth := ?_,secret := ?_,passphrase := ?_}
    · intro other same
      cases same
      exact known
    · intro secret same
      contradiction
    · intro text same
      contradiction
  · refine filled_shortcut inTurn ?_ rfl rfl
    intro step before _ was
    cases step <;> first | exact was | rfl | contradiction

private theorem good_saved {resolvers : List Resolver} {flow : Flow} {mid : Int}
    {answers : Answers} (fine : Fine setup resolvers flow) (all : ∀ step, has flow.data step = true) :
    Good setup resolvers (match savedHost flow.data with
      | .error raised => raise {flow with mid := mid} raised
      | .ok host => if answers.stored then ⟨none,none,some host⟩
        else raise {flow with mid := mid} .other) := by
  obtain ⟨host,ok,is⟩ := savedHost_ok all
  rw [ok]
  dsimp only
  split
  next =>
    refine ⟨?_,?_,?_⟩
    · intro other same
      contradiction
    · intro key same
      contradiction
    · intro other same
      cases same
      rw [is]
      have valid := fine.valid
      refine ⟨⟨valid.label,valid.ip,valid.port,valid.username,valid.auth,valid.secret,
        valid.passphrase⟩,?_⟩
      intro step
      have there := all step
      cases step <;> exact there
  next => exact good_raise ⟨fine.valid,fine.filled⟩ (by simp)

def Button.pressed : Button → Pressed
  | .back => .back
  | .port22 => .port22
  | .userroot => .userroot
  | .authPassword => .auth (some "password".toList)
  | .authKey => .auth (some "key".toList)
  | .test => .test
  | .save => .save

theorem read_action (button : Button) : Pressed.read button.action = button.pressed := by
  cases button <;> decide

theorem good_cbWizard {resolvers : List Resolver} {flow : Flow} (mid : Int) (button : Button)
    (answers : Answers) (fine : Fine setup resolvers flow)
    (inTurn : ∀ step, button.own = some step → Filled flow.data step) :
    Good setup resolvers (cbWizard flow mid button.action answers) := by
  have moved : Fine setup resolvers {flow with mid := mid} := ⟨fine.valid,fine.filled⟩
  have complete (confirm : ¬flow.step ≠ .confirm) (step : Step) : has flow.data step = true := by
    have filled := fine.filled
    rw [not_not.mp confirm] at filled
    exact filled_confirm_iff.mp filled step
  unfold cbWizard
  rw [read_action]
  cases button with
  | back =>
    dsimp only [Button.pressed]
    split
    next => exact good_dropped _
    next step is => exact good_render ⟨fine.valid,@filled_prev {flow with mid := mid} step fine.filled is⟩
  | port22 =>
    exact good_render (fine_port22 fine (inTurn .port rfl) mid)
  | userroot =>
    exact good_render (fine_userroot fine (inTurn .user rfl) mid)
  | authPassword =>
    exact good_render (fine_auth fine (inTurn .auth rfl) (.inl rfl) mid)
  | authKey =>
    exact good_render (fine_auth fine (inTurn .auth rfl) (.inr rfl) mid)
  | test =>
    dsimp only [Button.pressed]
    split
    next => exact good_stay moved
    next confirm =>
      split
      next => exact good_stay moved
      next =>
        obtain ⟨target,ok⟩ := tempHost_ok (complete confirm)
        rw [ok]
        exact good_render moved
  | save =>
    dsimp only [Button.pressed]
    split
    next => exact good_stay moved
    next confirm =>
      split
      next => exact good_stay moved
      next => exact good_saved fine (complete confirm)

theorem Kept.asked {state : State} (kept : Kept setup state) (getaddrinfo : Resolver) :
    Kept setup (state.asked getaddrinfo) := by
  refine ⟨?_,kept.raised,?_⟩
  · intro flow same
    have fine := kept.flow flow same
    exact ⟨fine.valid.more,fine.filled⟩
  · intro host member
    obtain ⟨valid,all⟩ := kept.saved host member
    exact ⟨valid.more,all⟩

theorem Kept.after {state : State} {turn : Turn} (kept : Kept setup state)
    (good : Good setup state.resolvers turn) : Kept setup (state.after turn) := by
  refine ⟨good.flow,?_,?_⟩
  · intro key member
    rcases List.mem_append.mp member with before | now
    · exact kept.raised key before
    · exact good.raised key (Option.mem_toList.mp now)
  · intro host member
    rcases List.mem_append.mp member with before | now
    · exact kept.saved host before
    · exact good.saved host (Option.mem_toList.mp now)

private theorem opened_fine (resolvers : List Resolver) (mid : Int) :
    Fine setup resolvers (opened mid) := by
  constructor
  · constructor <;> (intro value same; contradiction)
  · intro earlier before
    have first : order.idxOf (opened mid).step = 0 := rfl
    omega

private theorem Kept.noted {state : State} (kept : Kept setup state) (action : Action) :
    Kept setup (action.noted state) := by
  cases action with
  | text content getaddrinfo => exact kept.asked getaddrinfo
  | file document getaddrinfo => exact kept.asked getaddrinfo
  | _ => exact kept

private theorem good_turn {state : State} {action : Action} {flow : Flow} {turn : Turn}
    (kept : Kept setup state) (inTurn : InTurn state action) (same : state.flow = some flow)
    (taken : WizardCompleteness.turn setup flow action = some turn) :
    Good setup (action.noted state).resolvers turn := by
  have fine : Fine setup (action.noted state).resolvers flow := by
    apply (kept.noted action).flow
    cases action <;> exact same
  cases action with
  | add mid limited => contradiction
  | leave => contradiction
  | press mid button answers =>
    cases taken
    exact good_cbWizard mid button answers fine (inTurn flow same)
  | text content getaddrinfo =>
    cases taken
    exact good_wizInput (List.mem_append_right _ List.mem_cons_self) fine
  | file document getaddrinfo =>
    exact good_flowMedia (List.mem_append_right _ List.mem_cons_self) fine taken

theorem Kept.step {state after : State} {action : Action} (kept : Kept setup state)
    (inTurn : InTurn state action) (taken : step setup state action = some after) :
    Kept setup after := by
  have taken_ : ∀ turned : Option Turn, (state.flow.bind fun flow => turn setup flow action) = turned →
      Kept setup (match turned with
        | none => action.noted state
        | some turn => (action.noted state).after turn) := by
    intro turned is
    cases turned with
    | none => exact kept.noted action
    | some turned =>
      obtain ⟨flow,same,is⟩ := Option.bind_eq_some_iff.mp is
      exact (kept.noted action).after (good_turn kept inTurn same is)
  cases action with
  | add mid limited =>
    cases taken
    split
    next => exact kept
    next =>
      refine ⟨?_,kept.raised,kept.saved⟩
      intro flow same
      cases same
      exact opened_fine _ mid
  | leave =>
    cases taken
    refine ⟨?_,kept.raised,kept.saved⟩
    intro flow same
    contradiction
  | press mid button answers =>
    cases taken
    exact taken_ _ rfl
  | text content getaddrinfo =>
    cases taken
    exact taken_ _ rfl
  | file document getaddrinfo =>
    cases taken
    exact taken_ _ rfl

theorem Kept.sound {state : State} (kept : Kept setup state) : Sound setup state := by
  refine ⟨?_,kept.raised,kept.saved⟩
  intro flow same confirm
  have fine := kept.flow flow same
  have filled := fine.filled
  rw [confirm] at filled
  exact ⟨fine.valid,filled_confirm_iff.mp filled⟩

/-- In a run without a shortcut out of turn, a flow at its confirmation is complete, nothing
raises `KeyError` and every saved host passed the checks. -/
theorem wizard_complete (setup : Setup) (state : State)
    (reached : Reach (step setup) InTurn start state) : Sound setup state := by
  have kept : Kept setup state := by
    apply reached.invariant (Kept setup)
    · refine ⟨?_,?_,?_⟩
      · intro flow same
        contradiction
      · intro key member
        contradiction
      · intro host member
        contradiction
    · intro state action after kept inTurn taken
      exact kept.step inTurn taken
  exact kept.sound

/-- No character beyond ASCII counts as a digit or a letter, and no key can be read. -/
def plainSetup : Setup :=
  ⟨⟨fun _ => none,fun _ => false,fun _ => false⟩,python312,[],fun _ => (false,false)⟩

def noAnswer : Resolver := fun _ => .error (.osError "")

def yes : Answers := ⟨true,false,true⟩

theorem wizard_complete_saved : ∃ state, Sound plainSetup state ∧ state.saved.length = 1 := by
  obtain ⟨state,run,one⟩ : ∃ state, [Action.add 5 false,.text "web".toList noAnswer,
      .text "1.1.1.1".toList noAnswer,.press 5 .port22 yes,.press 5 .userroot yes,
      .press 5 .authPassword yes,.text "pw".toList noAnswer,.press 5 .save yes].foldlM
        (guarded (step plainSetup) InTurn) start = some state ∧ state.saved.length = 1 :=
    ⟨_,rfl,rfl⟩
  exact ⟨state,wizard_complete plainSetup state (reach_of_run _ run),one⟩

/-- A shortcut on the message of an earlier wizard leads to the confirmation of a host
without a label. -/
theorem stale_shortcut_confirms :
    ¬ ∀ state, Reach (step plainSetup) always start state → Sound plainSetup state := by
  intro claim
  obtain ⟨state,run,raised⟩ : ∃ state, [Action.add 9 false,.press 5 .authPassword yes,
      .text "pw".toList noAnswer].foldlM (guarded (step plainSetup) always) start = some state ∧
        state.raised = [.keyError "label"] := ⟨_,rfl,rfl⟩
  apply (claim state (reach_of_run _ run)).raised "label"
  rw [raised]
  exact List.mem_cons_self

end AtronixX.WizardCompleteness
