import AtronixX.WizardCompleteness

/-! The credentials that the wizard saves. `auth:*` forgets secret and passphrase together,
but another key is accepted over the passphrase of the last one, which stays when the new
key needs none. -/
namespace AtronixX.WizardCredentials
open Library.Text Library.Transition PublicTarget Wizard
open WizardCompleteness (Button Action turn checked_ok read_action)

inductive Kind
  | password | key
  deriving DecidableEq, Repr

def Kind.name : Kind → Text
  | .password => "password".toList
  | .key => "key".toList

/-- The secret that was accepted last, and the passphrase that was entered since. -/
structure Given where
  kind : Kind
  text : Text
  passphrase : Option Text
  deriving DecidableEq, Repr

/-- `user_data["flow"]`, with the history: what was given, and the hosts that were saved, each
with what was given then. -/
structure State where
  flow : Option Flow
  given : Option Given
  saved : List (Host × Option Given)

def start : State := ⟨none,none,[]⟩

variable (setup : Setup)

/-- The text that `_wiz_input` gets, and the name server it may ask. -/
def input (flow : Flow) : Action → Option (Text × Resolver)
  | .text content getaddrinfo => some (strip content,getaddrinfo)
  | .file document getaddrinfo =>
    if flow.step ≠ .secret ∨ flow.data.auth ≠ some "key".toList then none
    else document.bind fun document =>
      if document.size > maxKeyBytes then none
      else some (strip (document.content.getD []),getaddrinfo)
  | _ => none

def accepted (flow : Flow) (text : Text) (given : Option Given) : Option Given :=
  if flow.step = .secret then
    some ⟨if flow.data.auth = some "key".toList then .key else .password,text,none⟩
  else if flow.step = .pass then given.map fun last => {last with passphrase := some text}
  else given

def noted (flow : Flow) (action : Action) (given : Option Given) : Option Given :=
  match input flow action with
  | none => given
  | some (text,getaddrinfo) => match entered setup getaddrinfo flow text with
    | .ok (.ok _) => accepted flow text given
    | _ => given

def State.after (state : State) (given : Option Given) (turn : Turn) : State where
  flow := turn.flow
  given := given
  saved := state.saved ++ turn.saved.toList.map fun host => (host,given)

def step (state : State) (action : Action) : Option State :=
  match action with
  | .add mid limited => some (if limited then state else {state with flow := some (opened mid)})
  | .leave => some {state with flow := none}
  | _ => some (match state.flow with
    | none => state
    | some flow => match turn setup flow action with
      | none => state
      | some turn => state.after (noted setup flow action state.given) turn)

def needs (text : Text) : Bool := (setup.keyNeedsPassphrase text).2

/-- The saved host goes with the secret: its kind, its text, and the passphrase of a key
that needs one. -/
structure Coherent (host : Host) (given : Given) : Prop where
  kind : host.auth = given.kind.name
  secret : host.secret = if given.kind = .key then strip given.text ++ ['\n'] else given.text
  passphrase : ∀ text, host.passphrase = some text ↔
    given.kind = .key ∧ needs setup given.text = true ∧ given.passphrase = some text

def Sound (state : State) : Prop :=
  ∀ saved ∈ state.saved, ∃ given, saved.2 = some given ∧ Coherent setup saved.1 given

/-- No key that needs no passphrase is accepted while the wizard holds one. -/
def Fresh (state : State) (action : Action) : Prop :=
  ∀ flow, state.flow = some flow → flow.step = .secret → flow.data.auth = some "key".toList →
    ∀ text getaddrinfo, input flow action = some (text,getaddrinfo) →
      readableKey setup text = true → needs setup text = false → flow.data.passphrase = none

/-- The data go with the secret that was given. -/
def Fits (given : Given) (data : Data) (secret : Text) : Prop :=
  data.auth = some given.kind.name ∧
    match given.kind with
    | .password => secret = given.text ∧ data.needsPass = none ∧ data.passphrase = none
    | .key => secret = strip given.text ++ ['\n'] ∧ data.needsPass = some (needs setup given.text) ∧
      (needs setup given.text = false → data.passphrase = none)

structure Held (given : Option Given) (flow : Flow) : Prop where
  chosen : flow.step = .secret ∨ flow.step = .pass ∨ flow.step = .confirm →
    flow.data.auth.isSome = true
  auth : ∀ kind ∈ flow.data.auth, kind = Kind.password.name ∨ kind = Kind.key.name
  empty : flow.data.secret = none → flow.data.needsPass = none ∧ flow.data.passphrase = none
  secret : ∀ secret, flow.data.secret = some secret →
    ∃ last, given = some last ∧ Fits setup last flow.data secret
  pass : flow.step = .pass → flow.data.pass = true
  confirm : flow.step = .confirm → flow.data.pass = true →
    ∃ last, given = some last ∧ flow.data.passphrase = last.passphrase

variable {setup}

theorem needsPass_of_pass {data : Data} (pass : data.pass = true) : data.needsPass = some true := by
  cases needed : data.needsPass with
  | none => simp [Data.pass,needed] at pass
  | some value => simpa [Data.pass,needed] using pass

theorem Held.key_of_pass {given : Option Given} {flow : Flow} (held : Held setup given flow)
    (pass : flow.data.pass = true) : ∃ last secret, given = some last ∧ last.kind = .key ∧
      flow.data.secret = some secret ∧ Fits setup last flow.data secret ∧
      needs setup last.text = true := by
  have needed := needsPass_of_pass pass
  cases present : flow.data.secret with
  | none =>
    rw [(held.empty present).1] at needed
    contradiction
  | some secret =>
    obtain ⟨last,same,fits⟩ := held.secret secret present
    cases kind : last.kind with
    | password =>
      have none := fits.2
      simp only [kind,needed] at none
      exact absurd none.2.1 (by simp)
    | key =>
      have key := fits.2
      simp only [kind,needed] at key
      exact ⟨last,secret,same,kind,rfl,fits,(Option.some.inj key.2.1).symm⟩

private theorem bind_ok {α β : Type} {first : Except Raise α} {rest : α → Except Raise β} {result : β}
    (ok : (first >>= rest) = .ok result) : ∃ value, first = .ok value ∧ rest value = .ok result := by
  cases first with
  | error raised => contradiction
  | ok value => exact ⟨value,rfl,ok⟩

private theorem item_ok {α : Type} {key : String} {entry : Option α} {value : α}
    (ok : item key entry = .ok value) : entry = some value := by
  cases entry with
  | none => contradiction
  | some found =>
    cases ok
    rfl

theorem savedHost_reads {data : Data} {host : Host} (saved : savedHost data = .ok host) :
    data.auth = some host.auth ∧ data.secret = some host.secret ∧
      data.passphrase = host.passphrase := by
  obtain ⟨label,_,saved⟩ := bind_ok saved
  obtain ⟨target,temp,saved⟩ := bind_ok saved
  obtain ⟨ip,_,temp⟩ := bind_ok temp
  obtain ⟨port,_,temp⟩ := bind_ok temp
  obtain ⟨username,_,temp⟩ := bind_ok temp
  obtain ⟨auth,isAuth,temp⟩ := bind_ok temp
  obtain ⟨secret,isSecret,temp⟩ := bind_ok temp
  cases temp
  cases saved
  exact ⟨item_ok isAuth,item_ok isSecret,rfl⟩

theorem Held.coherent {given : Option Given} {flow : Flow} {host : Host}
    (held : Held setup given flow) (confirm : flow.step = .confirm)
    (saved : savedHost flow.data = .ok host) :
    ∃ last, given = some last ∧ Coherent setup host last := by
  obtain ⟨auth,present,passphrase⟩ := savedHost_reads saved
  obtain ⟨last,same,kind,fits⟩ := held.secret _ present
  refine ⟨last,same,?_⟩
  rw [auth] at kind
  cases is : last.kind with
  | password =>
    simp only [is] at fits
    refine ⟨Option.some.inj kind,by simp [is,fits.1],?_⟩
    intro text
    simp [is,← passphrase,fits.2.2]
  | key =>
    simp only [is] at fits
    refine ⟨Option.some.inj kind,by simp [is,fits.1],?_⟩
    intro text
    rw [← passphrase]
    cases needed : needs setup last.text with
    | false => simp [fits.2.2 needed]
    | true =>
      have pass : flow.data.pass = true := by simp [Data.pass,fits.2.1,needed]
      obtain ⟨other,same_,entered⟩ := held.confirm confirm pass
      obtain rfl := Option.some.inj (same.symm.trans same_)
      simp [is,entered]

variable (setup) in
structure Good (given : Option Given) (turn : Turn) : Prop where
  flow : ∀ flow, turn.flow = some flow → Held setup given flow
  saved : ∀ host, turn.saved = some host → ∃ last, given = some last ∧ Coherent setup host last

private theorem good_stay {given : Option Given} {flow : Flow} (held : Held setup given flow) :
    Good setup given (stay flow) := by
  constructor
  · intro other same
    cases same
    exact held
  · intro host same
    contradiction

private theorem good_raise {given : Option Given} {flow : Flow} {raised : Raise}
    (held : Held setup given flow) : Good setup given (raise flow raised) := by
  constructor
  · intro other same
    cases same
    exact held
  · intro host same
    contradiction

private theorem good_render {given : Option Given} {flow : Flow} (held : Held setup given flow) :
    Good setup given (render flow) := by
  unfold render
  split
  next => exact good_raise held
  next => exact good_stay held

private theorem held_early {given : Option Given} {flow : Flow} {step : Step}
    (held : Held setup given flow) (early : ¬(step = .secret ∨ step = .pass ∨ step = .confirm))
    (mid : Int) {data : Data} (auth : data.auth = flow.data.auth)
    (secret : data.secret = flow.data.secret) (needsPass : data.needsPass = flow.data.needsPass)
    (passphrase : data.passphrase = flow.data.passphrase) : Held setup given ⟨step,data,mid⟩ := by
  refine ⟨fun late => absurd late early,?_,?_,?_,fun is => absurd (.inr (.inl is)) early,
    fun is => absurd (.inr (.inr is)) early⟩
  · intro kind member
    exact held.auth kind (auth ▸ member)
  · intro none
    rw [needsPass,passphrase]
    exact held.empty (secret ▸ none)
  · intro text present
    obtain ⟨last,same,fits⟩ := held.secret text (secret ▸ present)
    refine ⟨last,same,?_⟩
    unfold Fits at fits ⊢
    dsimp only
    rwa [auth,needsPass,passphrase]

private theorem held_back {given : Option Given} {flow : Flow} {step : Step}
    (held : Held setup given flow) (is : prev flow = some step) :
    Held setup given {flow with step := step} := by
  have late (same : step = .secret ∨ step = .pass) : flow.data.auth.isSome = true := by
    apply held.chosen
    obtain ⟨at_,data,mid⟩ := flow
    cases at_ with
    | secret => exact .inl rfl
    | pass => exact .inr (.inl rfl)
    | confirm => exact .inr (.inr rfl)
    | label => contradiction
    | _ =>
      cases is
      rcases same with same | same <;> contradiction
  have backwards : step ≠ .confirm ∧ (step = .pass → flow.data.pass = true) := by
    obtain ⟨at_,data,mid⟩ := flow
    cases at_ with
    | label => contradiction
    | confirm =>
      simp only [prev,reduceCtorEq,if_false,if_true] at is
      split at is
      next pass =>
        cases is
        exact ⟨by simp,fun _ => pass⟩
      next =>
        cases is
        exact ⟨by simp,by simp⟩
    | _ =>
      cases is
      exact ⟨by decide,by intro same; contradiction⟩
  refine ⟨?_,held.auth,held.empty,held.secret,backwards.2,fun is => absurd is backwards.1⟩
  rintro (same | same | same)
  · exact late (.inl same)
  · exact late (.inr same)
  · exact absurd same backwards.1

private theorem held_auth (given : Option Given) (data : Data) (kind : Kind) (mid : Int) :
    Held setup given ⟨.secret,{data with
      auth := some kind.name, secret := none, needsPass := none, passphrase := none},mid⟩ := by
  refine ⟨fun _ => rfl,?_,fun _ => ⟨rfl,rfl⟩,?_,?_,?_⟩
  · intro other member
    obtain rfl := Option.some.inj member
    cases kind
    · exact .inl rfl
    · exact .inr rfl
  · intro secret present
    contradiction
  · intro is
    contradiction
  · intro is
    contradiction

private theorem entered_early {getaddrinfo : Resolver} {flow : Flow} {text : Text} {data : Data}
    (early : ¬(flow.step = .secret ∨ flow.step = .pass ∨ flow.step = .confirm))
    (ok : entered setup getaddrinfo flow text = .ok (.ok data)) :
    data.auth = flow.data.auth ∧ data.secret = flow.data.secret ∧
      data.needsPass = flow.data.needsPass ∧ data.passphrase = flow.data.passphrase ∧
      ∃ step, next {flow with data := data} = some step ∧
        ¬(step = .secret ∨ step = .pass ∨ step = .confirm) := by
  obtain ⟨at_,before,mid⟩ := flow
  cases at_ with
  | label =>
    simp only [entered] at ok
    split at ok
    next =>
      cases ok
      exact ⟨rfl,rfl,rfl,rfl,.addr,rfl,by simp⟩
    next => simp at ok
  | addr =>
    obtain ⟨_,rfl⟩ := checked_ok ok
    exact ⟨rfl,rfl,rfl,rfl,.port,rfl,by simp⟩
  | port =>
    simp only [entered] at ok
    split at ok
    next =>
      split at ok
      next => contradiction
      next unaccepted => exact absurd ok (unaccepted _)
    next =>
      obtain ⟨_,rfl⟩ := checked_ok ok
      exact ⟨rfl,rfl,rfl,rfl,.user,rfl,by simp⟩
  | user =>
    obtain ⟨_,rfl⟩ := checked_ok ok
    exact ⟨rfl,rfl,rfl,rfl,.auth,rfl,by simp⟩
  | auth => simp [entered] at ok
  | _ => simp at early

private theorem held_secret {getaddrinfo : Resolver} {given : Option Given} {flow : Flow}
    {text : Text} {data : Data} (held : Held setup given flow) (at_ : flow.step = .secret)
    (fresh : flow.data.auth = some "key".toList → readableKey setup text = true →
      needs setup text = false → flow.data.passphrase = none)
    (ok : entered setup getaddrinfo flow text = .ok (.ok data)) :
    ∃ step, next {flow with data := data} = some step ∧
      Held setup (accepted flow text given) {flow with data := data, step := step} := by
  have chosen := held.chosen (.inl at_)
  have next_ : next {flow with data := data} = some (if data.pass then .pass else .confirm) := by
    simp [next,at_]
  refine ⟨_,next_,?_⟩
  simp only [entered,at_] at ok
  simp only [accepted,at_,if_true]
  split at ok
  next key =>
    simp only [acceptKey] at ok
    split at ok
    next readable =>
      cases ok
      refine ⟨fun _ => chosen,held.auth,fun none => by contradiction,?_,?_,?_⟩
      · intro secret present
        cases present
        refine ⟨_,rfl,?_⟩
        rw [if_pos key]
        exact ⟨key,rfl,rfl,fresh key readable⟩
      · intro is
        by_contra none
        simp [none] at is
      · intro is pass
        simp [pass] at is
    next => simp at ok
  next password =>
    obtain ⟨_,rfl⟩ := checked_ok ok
    obtain ⟨kind,present⟩ := Option.isSome_iff_exists.mp chosen
    have isPassword : flow.data.auth = some Kind.password.name := by
      rcases held.auth kind present with same | same
      · rw [present,same]
      · exact absurd (present.trans (congrArg some same)) password
    have clear : flow.data.needsPass = none ∧ flow.data.passphrase = none := by
      cases secret : flow.data.secret with
      | none => exact held.empty secret
      | some secret =>
        obtain ⟨last,_,kind,fits⟩ := held.secret _ ‹_›
        rw [isPassword] at kind
        cases is : last.kind with
        | password =>
          simp only [is] at fits
          exact fits.2
        | key =>
          rw [is] at kind
          exact absurd kind (by decide)
    have unneeded : Data.pass {flow.data with secret := some text} = false := by
      simp [Data.pass,clear.1]
    refine ⟨fun _ => chosen,held.auth,fun none => by contradiction,?_,?_,?_⟩
    · intro secret present
      cases present
      refine ⟨_,rfl,?_⟩
      rw [if_neg password]
      exact ⟨isPassword,rfl,clear⟩
    · intro is
      simp [unneeded] at is
    · intro _ pass
      exact absurd pass (by simp [unneeded])

private theorem held_pass {getaddrinfo : Resolver} {given : Option Given} {flow : Flow}
    {text : Text} {data : Data} (held : Held setup given flow) (at_ : flow.step = .pass)
    (ok : entered setup getaddrinfo flow text = .ok (.ok data)) :
    ∃ step, next {flow with data := data} = some step ∧
      Held setup (accepted flow text given) {flow with data := data, step := step} := by
  obtain ⟨last,secret,same,isKey,present,⟨kind,fits⟩,needed⟩ := held.key_of_pass (held.pass at_)
  simp only [isKey] at fits
  simp only [entered,at_] at ok
  split at ok
  next =>
    cases ok
    refine ⟨.confirm,by simp only [next,at_]; rfl,?_⟩
    simp only [accepted,at_,reduceCtorEq,if_false,if_true,same,Option.map_some]
    refine ⟨fun _ => held.chosen (.inr (.inl at_)),held.auth,?_,?_,fun is => by contradiction,?_⟩
    · intro none
      simp [present] at none
    · intro other there
      obtain rfl := Option.some.inj (present.symm.trans there)
      refine ⟨_,rfl,kind,?_⟩
      simp only [isKey]
      exact ⟨fits.1,fits.2.1,fun unneeded => by rw [needed] at unneeded; contradiction⟩
    · intro _ _
      exact ⟨_,rfl,rfl⟩
  next => simp at ok

private theorem held_entered {getaddrinfo : Resolver} {given : Option Given} {flow : Flow}
    {text : Text} {data : Data} (held : Held setup given flow)
    (fresh : flow.step = .secret → flow.data.auth = some "key".toList →
      readableKey setup text = true → needs setup text = false → flow.data.passphrase = none)
    (ok : entered setup getaddrinfo flow text = .ok (.ok data)) :
    ∃ step, next {flow with data := data} = some step ∧
      Held setup (accepted flow text given) {flow with data := data, step := step} := by
  by_cases secret : flow.step = .secret
  · exact held_secret held secret (fresh secret) ok
  by_cases pass : flow.step = .pass
  · exact held_pass held pass ok
  by_cases confirm : flow.step = .confirm
  · simp [entered,confirm] at ok
  have early : ¬(flow.step = .secret ∨ flow.step = .pass ∨ flow.step = .confirm) := by
    simp [secret,pass,confirm]
  obtain ⟨auth,same,needsPass,passphrase,step,is,later⟩ := entered_early early ok
  refine ⟨step,is,?_⟩
  simp only [accepted,secret,pass,if_false]
  exact held_early held later _ auth same needsPass passphrase

private theorem good_wizInput {getaddrinfo : Resolver} {given : Option Given} {flow : Flow}
    {text : Text} (held : Held setup given flow)
    (fresh : flow.step = .secret → flow.data.auth = some "key".toList →
      readableKey setup text = true → needs setup text = false → flow.data.passphrase = none) :
    Good setup (match entered setup getaddrinfo flow text with
      | .ok (.ok _) => accepted flow text given
      | _ => given) (wizInput setup getaddrinfo flow text) := by
  unfold wizInput
  cases result : entered setup getaddrinfo flow text with
  | error raised => exact good_raise held
  | ok answer =>
    cases answer with
    | error message => exact good_render held
    | ok data =>
      obtain ⟨step,is,after⟩ := held_entered held fresh result
      simp only [is]
      exact good_render after

private theorem good_cbWizard {given : Option Given} {flow : Flow} (mid : Int) (button : Button)
    (answers : Answers) (held : Held setup given flow) :
    Good setup given (cbWizard flow mid button.action answers) := by
  have moved : Held setup given {flow with mid := mid} :=
    ⟨held.chosen,held.auth,held.empty,held.secret,held.pass,held.confirm⟩
  unfold cbWizard
  rw [read_action]
  cases button with
  | back =>
    dsimp only [Button.pressed]
    split
    next =>
      constructor
      · intro other same
        contradiction
      · intro host same
        contradiction
    next step is => exact good_render (held_back moved is)
  | port22 =>
    exact good_render (held_early held (by simp) _ rfl rfl rfl rfl)
  | userroot =>
    exact good_render (held_early held (by simp) _ rfl rfl rfl rfl)
  | authPassword =>
    exact good_render (held_auth given flow.data .password mid)
  | authKey =>
    exact good_render (held_auth given flow.data .key mid)
  | test =>
    dsimp only [Button.pressed]
    split
    next => exact good_stay moved
    next =>
      split
      next => exact good_stay moved
      next =>
        split
        next => exact good_raise moved
        next => exact good_render moved
  | save =>
    dsimp only [Button.pressed]
    split
    next => exact good_stay moved
    next confirm =>
      split
      next => exact good_stay moved
      next =>
        split
        next => exact good_raise moved
        next host saved =>
          split
          next =>
            constructor
            · intro other same
              contradiction
            · intro other same
              cases same
              exact held.coherent (not_not.mp confirm) saved
          next => exact good_raise moved

private theorem good_turn {given : Option Given} {flow : Flow} {action : Action} {result : Turn}
    (held : Held setup given flow)
    (fresh : flow.step = .secret → flow.data.auth = some "key".toList →
      ∀ text getaddrinfo, input flow action = some (text,getaddrinfo) →
        readableKey setup text = true → needs setup text = false → flow.data.passphrase = none)
    (taken : turn setup flow action = some result) :
    Good setup (noted setup flow action given) result := by
  cases action with
  | add mid limited => contradiction
  | leave => contradiction
  | press mid button answers =>
    cases taken
    exact good_cbWizard mid button answers held
  | text content getaddrinfo =>
    cases taken
    exact good_wizInput held fun at_ key => fresh at_ key _ _ rfl
  | file document getaddrinfo =>
    simp only [turn,flowMedia] at taken
    split at taken
    next => contradiction
    next expected =>
      cases document with
      | none => contradiction
      | some document =>
        simp only at taken
        split at taken
        next large =>
          cases taken
          simp only [noted,input,expected,if_false,Option.bind_some,large,if_true]
          exact good_render held
        next small =>
          cases taken
          have taken_ : input flow (.file (some document) getaddrinfo) =
              some (strip (document.content.getD []),getaddrinfo) := by
            simp only [input]
            rw [if_neg expected]
            simp [small]
          simp only [noted,taken_]
          exact good_wizInput held fun at_ key => fresh at_ key _ _ taken_

variable (setup) in
structure Kept (state : State) : Prop where
  flow : ∀ flow, state.flow = some flow → Held setup state.given flow
  saved : Sound setup state

private theorem opened_held (given : Option Given) (mid : Int) : Held setup given (opened mid) := by
  refine ⟨by rintro (is | is | is) <;> contradiction,?_,fun _ => ⟨rfl,rfl⟩,?_,?_,?_⟩
  · intro kind member
    contradiction
  · intro secret present
    contradiction
  · intro is
    contradiction
  · intro is
    contradiction

theorem Kept.after {state : State} {given : Option Given} {turn : Turn} (kept : Kept setup state)
    (good : Good setup given turn) : Kept setup (state.after given turn) := by
  refine ⟨good.flow,?_⟩
  intro saved member
  rcases List.mem_append.mp member with before | now
  · exact kept.saved saved before
  · obtain ⟨host,made,rfl⟩ := List.mem_map.mp now
    exact good.saved host (Option.mem_toList.mp made)

theorem Kept.step {state after : State} {action : Action} (kept : Kept setup state)
    (fresh : Fresh setup state action) (taken : step setup state action = some after) :
    Kept setup after := by
  have turned : Kept setup (match state.flow with
      | none => state
      | some flow => match turn setup flow action with
        | none => state
        | some turn => state.after (noted setup flow action state.given) turn) := by
    split
    next => exact kept
    next flow same =>
      split
      next => exact kept
      next result is => exact kept.after (good_turn (kept.flow flow same) (fresh flow same) is)
  cases action with
  | add mid limited =>
    cases taken
    split
    next => exact kept
    next =>
      refine ⟨?_,kept.saved⟩
      intro flow same
      cases same
      exact opened_held _ mid
  | leave =>
    cases taken
    refine ⟨?_,kept.saved⟩
    intro flow same
    contradiction
  | press mid button answers =>
    cases taken
    exact turned
  | text content getaddrinfo =>
    cases taken
    exact turned
  | file document getaddrinfo =>
    cases taken
    exact turned

/-- In a run in which no key without need for a passphrase replaces one with a passphrase,
every saved host is coherent. -/
theorem credentials_coherent (setup : Setup) (state : State)
    (reached : Reach (step setup) (Fresh setup) start state) : Sound setup state := by
  have kept : Kept setup state := by
    apply reached.invariant (Kept setup)
    · constructor
      · intro flow same
        contradiction
      · intro saved member
        contradiction
    · intro before action after kept fresh taken
      exact kept.step fresh taken
  exact kept.saved

/-- A key is encrypted when its text says so. -/
def keySetup : Setup :=
  ⟨⟨fun _ => none,fun _ => false,fun _ => false⟩,python312,[],
    fun text => (true,contains "ENCRYPTED".toList text)⟩

instance (state : State) (action : Action) : Decidable (Fresh keySetup state action) :=
  match flow : state.flow with
  | none => isTrue fun _ same => by rw [flow] at same; contradiction
  | some held =>
    match taken : input held action with
    | none => isTrue fun other same _ _ text getaddrinfo is => by
        obtain rfl := Option.some.inj (flow.symm.trans same)
        rw [taken] at is
        contradiction
    | some (text,_) => decidable_of_iff
        (held.step = .secret → held.data.auth = some "key".toList → readableKey keySetup text = true →
          needs keySetup text = false → held.data.passphrase = none) (by
        constructor
        · intro fresh other same at_ key entered getaddrinfo is
          obtain rfl := Option.some.inj (flow.symm.trans same)
          obtain ⟨rfl,_⟩ := Prod.mk.inj (Option.some.inj (taken.symm.trans is))
          exact fresh at_ key
        · intro fresh at_ key
          exact fresh held flow at_ key text _ taken)

open WizardCompleteness (noAnswer yes)

/-- The wizard up to the step of the secret, for a key. -/
def untilKey : List Action :=
  [.add 5 false,.text "web".toList noAnswer,.text "1.1.1.1".toList noAnswer,.press 5 .port22 yes,
    .press 5 .userroot yes,.press 5 .authKey yes]

def encrypted : Action := .text "ENCRYPTED PRIVATE KEY".toList noAnswer

def plain : Action := .text "PRIVATE KEY".toList noAnswer

theorem credentials_coherent_encrypted :
    ∃ state, Sound keySetup state ∧ state.saved.map (·.1.passphrase) = [some "pw".toList] := by
  obtain ⟨state,run,saved⟩ : ∃ state, (untilKey ++ [plain,.press 5 .back yes,encrypted,
      .text "pw".toList noAnswer,.press 5 .save yes]).foldlM
        (guarded (step keySetup) (Fresh keySetup)) start = some state ∧
        state.saved.map (·.1.passphrase) = [some "pw".toList] := ⟨_,rfl,rfl⟩
  exact ⟨state,credentials_coherent keySetup state (reach_of_run _ run),saved⟩

/-- The passphrase of the first key is saved with the second, which needs none. -/
theorem left_over_passphrase :
    ¬ ∀ state, Reach (step keySetup) always start state → Sound keySetup state := by
  intro claim
  obtain ⟨state,run,saved⟩ : ∃ state, (untilKey ++ [encrypted,.text "pw".toList noAnswer,
      .press 5 .back yes,.press 5 .back yes,plain,.press 5 .save yes]).foldlM
        (guarded (step keySetup) always) start = some state ∧
        state.saved.map (fun saved => (saved.1.passphrase,saved.2)) =
          [(some "pw".toList,some ⟨.key,"PRIVATE KEY".toList,none⟩)] := ⟨_,rfl,rfl⟩
  obtain ⟨entry,member,is⟩ : ∃ entry ∈ state.saved, (entry.1.passphrase,entry.2) =
      (some "pw".toList,some (⟨.key,"PRIVATE KEY".toList,none⟩ : Given)) := by
    apply List.mem_map.mp
    rw [saved]
    exact List.mem_cons_self
  obtain ⟨passphrase,given⟩ := Prod.mk.inj is
  obtain ⟨last,same,coherent⟩ := claim state (reach_of_run _ run) entry member
  obtain rfl := Option.some.inj (given.symm.trans same)
  have entered := ((coherent.passphrase _).mp passphrase).2.2
  contradiction

end AtronixX.WizardCredentials
