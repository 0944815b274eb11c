import AtronixX.Messages
import AtronixX.WizardCompleteness

/-! What the chat shows of the add-host wizard, and that the secrets typed into it make no
difference to that: two runs whose passwords, keys and passphrases pass the same checks show
the same. -/
namespace AtronixX.WizardSecrecy
open Library.Text Library.Numerals Library.Transition PublicTarget Wizard Messages
open Strings (Table t)
open WizardCompleteness (Button turn read_action plainSetup noAnswer yes)

inductive Shown
  /-- The message of the user is deleted. -/
  | deleted
  /-- `q.answer`, with its text if it has one. -/
  | answered (text : Option Text)
  /-- The message of the wizard, with the keyboard of the step. -/
  | edited (mid : Int) (text : Text) (step : Step)
  | saved (mid : Int) (text : Text)
  | mainMenu
  | limitReached
  | raised
  deriving DecidableEq, Repr

/-- What the world answers to a press: the limits, the connection test, the clock. -/
structure Outside where
  answers : Answers
  retryAfter : Int
  ok : Bool
  ms : Int
  err : Option Text
  clock : Clock
  now : Int

inductive Action
  | add (mid : Int) (limited : Bool)
  | press (mid : Int) (button : Button) (outside : Outside)
  | text (content : Text) (getaddrinfo : Resolver)
  | file (document : Option Document) (getaddrinfo : Resolver)
  | leave

def Action.plain : Action → WizardCompleteness.Action
  | .add mid limited => .add mid limited
  | .press mid button outside => .press mid button outside.answers
  | .text content getaddrinfo => .text content getaddrinfo
  | .file document getaddrinfo => .file document getaddrinfo
  | .leave => .leave

structure State where
  flow : Option Flow
  shown : List Shown

def start : State := ⟨none,[]⟩

section
variable (setup : Setup) (strings : Table) (lang : String)

def rendered (flow : Flow) (notice : Option Text) : List Shown :=
  match wizText strings flow lang notice with
  | .error _ => [.raised]
  | .ok text => [.edited flow.mid text flow.step]

def typed (flow : Flow) (text : Text) (getaddrinfo : Resolver) : List Shown :=
  match entered setup getaddrinfo flow text with
  | .error _ => [.raised]
  | .ok (.error key) => rendered strings lang flow (some (t strings key lang []))
  | .ok (.ok data) =>
    let flow := {flow with data := data}
    match next flow with
    | none => [.raised]
    | some step => rendered strings lang {flow with step := step} none

/-- `ui.host_view` of the new host, which `get_host` reads without its secrets. -/
def savedText (host : Host) (outside : Outside) : Option Text :=
  (fmtDt outside.clock (some outside.now) lang false).map fun date =>
    t strings "host_saved" lang [] ++ "\n\n".toList ++ t strings "host_detail" lang
      [("label",.str host.label),("addr",.str (host.ip ++ ":".toList ++ strInt host.port)),
        ("user",.str host.username),("auth",.str (t strings
          (if host.auth = "password".toList then "auth_pw" else "auth_key") lang [])),
        ("fp",.str "—".toList),("group",.str "—".toList),("date",.str date)]

def pressed (flow : Flow) (mid : Int) (button : Button) (outside : Outside) : List Shown :=
  let flow := {flow with mid := mid}
  match button with
  | .test =>
    if flow.step ≠ .confirm then [.answered none]
    else if !outside.answers.allowed then
      [.answered (some (t strings "rate_limited" lang [("sec",.str (strInt outside.retryAfter))]))]
    else .answered (some (t strings "testing" lang [])) :: match tempHost flow.data with
      | .error _ => [.raised]
      | .ok _ => rendered strings lang flow
        (some (testNotice strings lang outside.ok outside.ms outside.err))
  | .save =>
    if flow.step ≠ .confirm then [.answered none]
    else if outside.answers.limited then [.answered (some (t strings "limit_short" lang []))]
    else .answered none :: match savedHost flow.data with
      | .error _ => [.raised]
      | .ok host =>
        if outside.answers.stored then
          [(savedText strings lang host outside).elim .raised (.saved flow.mid)]
        else [.raised]
  | button =>
    .answered none :: (cbWizard flow mid button.action outside.answers).flow.elim [.mainMenu]
      fun flow => rendered strings lang flow none

def seen (flow : Flow) : Action → List Shown
  | .add _ _ => []
  | .press mid button outside => pressed strings lang flow mid button outside
  | .text content getaddrinfo =>
    .deleted :: typed setup strings lang flow (strip content) getaddrinfo
  | .file document getaddrinfo =>
    if flow.step ≠ .secret ∨ flow.data.auth ≠ some "key".toList then []
    else match document with
      | none => []
      | some document =>
        if document.size > maxKeyBytes then
          .deleted :: rendered strings lang flow (some (t strings "err_key" lang []))
        else .deleted :: typed setup strings lang flow (strip (document.content.getD []))
          getaddrinfo
  | .leave => []

/-- An update the wizard takes when it is open. -/
def wizardTurn (state : State) (action : Action) : State :=
  match state.flow with
  | none => state
  | some flow => match turn setup flow action.plain with
    | none => state
    | some turn => ⟨turn.flow,state.shown ++ seen setup strings lang flow action⟩

def step (state : State) (action : Action) : Option State :=
  match action with
  | .add mid limited => some (
    if limited then {state with shown := state.shown ++ [.limitReached]}
    else ⟨some (opened mid),state.shown ++ rendered strings lang (opened mid) none⟩)
  | .leave => some {state with flow := none}
  | action => some (wizardTurn setup strings lang state action)

/-- Two texts that the secret's check, or the passphrase's, does not tell apart; at any other
step they are the same. -/
def Indistinct (flow : Flow) (one two : Text) : Prop :=
  match flow.step with
  | .secret =>
    if flow.data.auth = some "key".toList then
      readableKey setup one = readableKey setup two ∧
        (setup.keyNeedsPassphrase one).2 = (setup.keyNeedsPassphrase two).2
    else lengthIn 256 one = lengthIn 256 two
  | .pass => lengthIn 256 one = lengthIn 256 two
  | _ => one = two

inductive Matching (flow : Option Flow) : Action → Action → Prop
  | same (action : Action) : Matching flow action action
  | text (one two : Text) (getaddrinfo : Resolver)
    (indistinct : ∀ here ∈ flow, Indistinct setup here (strip one) (strip two)) :
    Matching flow (.text one getaddrinfo) (.text two getaddrinfo)
  | file (one two : Document) (getaddrinfo : Resolver)
    (size : one.size > maxKeyBytes ↔ two.size > maxKeyBytes)
    (indistinct : ∀ here ∈ flow,
      Indistinct setup here (strip (one.content.getD [])) (strip (two.content.getD []))) :
    Matching flow (.file (some one) getaddrinfo) (.file (some two) getaddrinfo)

def both (states : State × State) (actions : Action × Action) : Option (State × State) :=
  match step setup strings lang states.1 actions.1,step setup strings lang states.2 actions.2 with
  | some one,some two => some (one,two)
  | _,_ => none

/-- The second run does what the first does. -/
def Meets (states : State × State) (actions : Action × Action) : Prop :=
  Matching setup states.1.flow actions.1 actions.2

end

def blotData (data : Data) : Data :=
  {data with secret := data.secret.map fun _ => [], passphrase := none}

def blot (flow : Flow) : Flow := {flow with data := blotData flow.data}

def blotHost (host : Host) : Host := {host with secret := [], passphrase := none}

def verdict (outcome : Except Raise (Except String Data)) : Except Raise (Except String Data) :=
  outcome.map (Except.map blotData)

section
variable {setup : Setup} {strings : Table} {lang : String} {flow other : Flow}

theorem rendered_blot (flow : Flow) (notice : Option Text) :
    rendered strings lang (blot flow) notice = rendered strings lang flow notice := rfl

theorem next_blot (flow : Flow) : next (blot flow) = next flow := rfl

theorem prev_blot (flow : Flow) : prev (blot flow) = prev flow := rfl

theorem rendered_alike (alike : blot flow = blot other) (notice : Option Text) :
    rendered strings lang flow notice = rendered strings lang other notice := by
  rw [← rendered_blot,alike,rendered_blot]

theorem next_alike (alike : blot flow = blot other) : next flow = next other := by
  rw [← next_blot,alike,next_blot]

theorem prev_alike (alike : blot flow = blot other) : prev flow = prev other := by
  rw [← prev_blot,alike,prev_blot]

theorem alike_data (alike : blot flow = blot other) {one two : Data}
    (data : blotData one = blotData two) :
    blot {flow with data := one} = blot {other with data := two} := by
  obtain ⟨step,_,mid⟩ := Wizard.Flow.mk.inj alike
  simp only [blot,step,mid,data]

theorem alike_step (alike : blot flow = blot other) (step : Step) :
    blot {flow with step := step} = blot {other with step := step} := by
  obtain ⟨_,data,mid⟩ := Wizard.Flow.mk.inj alike
  simp only [blot,mid,data]

theorem alike_mid (alike : blot flow = blot other) (mid : Int) :
    blot {flow with mid := mid} = blot {other with mid := mid} := by
  obtain ⟨step,data,_⟩ := Wizard.Flow.mk.inj alike
  simp only [blot,step,data]

theorem savedHost_blot (data : Data) : (savedHost (blotData data)).map blotHost =
    (savedHost data).map blotHost := by
  obtain ⟨label,ip,port,username,auth,secret,needsPass,passphrase⟩ := data
  cases label <;> cases ip <;> cases port <;> cases username <;> cases auth <;> cases secret <;> rfl

theorem tempHost_blot (data : Data) : (tempHost (blotData data)).map (fun _ => ()) =
    (tempHost data).map (fun _ => ()) := by
  obtain ⟨label,ip,port,username,auth,secret,needsPass,passphrase⟩ := data
  cases ip <;> cases port <;> cases username <;> cases auth <;> cases secret <;> rfl

private theorem verdict_checked {field : Field} {text : Text} {getaddrinfo : Resolver}
    {one two : Data} (data : blotData one = blotData two) :
    verdict (checked setup getaddrinfo field text one) =
      verdict (checked setup getaddrinfo field text two) := by
  unfold checked
  split
  next => rfl
  next => rfl
  next => exact congrArg (fun data => Except.ok (Except.ok data)) data

theorem verdict_alike (alike : blot flow = blot other) {one two : Text}
    (indistinct : Indistinct setup flow one two) (getaddrinfo : Resolver) :
    verdict (entered setup getaddrinfo flow one) =
      verdict (entered setup getaddrinfo other two) := by
  obtain ⟨step,⟨label,ip,port,username,auth,secret,needsPass,passphrase⟩,mid⟩ := flow
  obtain ⟨step',⟨label',ip',port',username',auth',secret',needsPass',passphrase'⟩,mid'⟩ := other
  simp only [blot,blotData,Wizard.Flow.mk.injEq,Data.mk.injEq] at alike
  obtain ⟨rfl,⟨rfl,rfl,rfl,rfl,rfl,there,rfl,_⟩,rfl⟩ := alike
  cases step with
  | label =>
    cases indistinct
    simp only [entered]
    split
    next => simp [verdict,Except.map,blotData,there]
    next => rfl
  | addr =>
    cases indistinct
    exact verdict_checked (by simp [blotData,there])
  | port =>
    cases indistinct
    simp only [entered]
    split
    next =>
      unfold checked
      cases validateField setup getaddrinfo .port one with
      | error raised => rfl
      | ok message => cases message <;> rfl
    next => exact verdict_checked (by simp [blotData,there])
  | user =>
    cases indistinct
    exact verdict_checked (by simp [blotData,there])
  | auth => rfl
  | secret =>
    simp only [Indistinct] at indistinct
    simp only [entered]
    split at indistinct
    next key =>
      obtain ⟨readable,needs⟩ := indistinct
      simp only [if_pos key,acceptKey,readable,needs]
      cases readableKey setup two with
      | true => rfl
      | false => rfl
    next key =>
      simp only [if_neg key,checked,validateField,indistinct]
      cases lengthIn 256 two with
      | true => rfl
      | false => rfl
  | pass =>
    simp only [Indistinct] at indistinct
    simp only [entered,indistinct]
    split
    next => simp [verdict,Except.map,blotData,there]
    next => rfl
  | confirm => rfl

def advanced (flow : Flow) (data : Data) : Flow :=
  let flow := {flow with data := data}
  (next flow).elim flow fun step => {flow with step := step}

theorem render_flow (flow : Flow) : (render flow).flow = some flow := by
  unfold render
  split <;> rfl

theorem wizInput_flow (flow : Flow) (text : Text) (getaddrinfo : Resolver) :
    (wizInput setup getaddrinfo flow text).flow =
      some (match entered setup getaddrinfo flow text with
        | .ok (.ok data) => advanced flow data
        | _ => flow) := by
  unfold wizInput
  split
  next failed => simp [failed,raise]
  next refused => simp [refused,render_flow]
  next data accepted =>
    simp only [accepted,advanced]
    split
    next none => simp [none,raise]
    next step some_ => simp [some_,render_flow]

theorem advanced_alike (alike : blot flow = blot other) {one two : Data}
    (data : blotData one = blotData two) :
    blot (advanced flow one) = blot (advanced other two) := by
  have alike := alike_data alike data
  unfold advanced
  dsimp only
  rw [next_alike alike]
  cases next {other with data := two} with
  | none => exact alike
  | some step => exact alike_step alike step

inductive Paired : Except Raise (Except String Data) → Except Raise (Except String Data) → Prop
  | raised (raise : Raise) : Paired (.error raise) (.error raise)
  | refused (key : String) : Paired (.ok (.error key)) (.ok (.error key))
  | accepted (one two : Data) (data : blotData one = blotData two) :
    Paired (.ok (.ok one)) (.ok (.ok two))

theorem paired_of_verdict {one two : Except Raise (Except String Data)}
    (same : verdict one = verdict two) : Paired one two := by
  rcases one with raise | key | data <;> rcases two with raise' | key' | data' <;>
    simp [verdict,Except.map] at same
  · exact same ▸ .raised raise
  · exact same ▸ .refused key
  · exact .accepted data data' same

theorem typed_alike (alike : blot flow = blot other) {one two : Text}
    (indistinct : Indistinct setup flow one two) (getaddrinfo : Resolver) :
    typed setup strings lang flow one getaddrinfo =
        typed setup strings lang other two getaddrinfo ∧
      (wizInput setup getaddrinfo flow one).flow.map blot =
        (wizInput setup getaddrinfo other two).flow.map blot := by
  have paired := paired_of_verdict (verdict_alike alike indistinct getaddrinfo)
  rw [wizInput_flow,wizInput_flow]
  unfold typed
  revert paired
  generalize entered setup getaddrinfo flow one = first
  generalize entered setup getaddrinfo other two = second
  intro paired
  cases paired with
  | raised raise => exact ⟨rfl,congrArg some alike⟩
  | refused key => exact ⟨rendered_alike alike _,congrArg some alike⟩
  | accepted data data' same =>
    refine ⟨?_,congrArg some (advanced_alike alike same)⟩
    have alike := alike_data alike same
    dsimp only
    rw [next_alike alike]
    cases next {other with data := data'} with
    | none => rfl
    | some step => exact rendered_alike (alike_step alike step) none

theorem tempHost_alike (alike : blot flow = blot other) :
    (tempHost flow.data).map (fun _ => ()) = (tempHost other.data).map (fun _ => ()) := by
  rw [← tempHost_blot,← tempHost_blot other.data,(Wizard.Flow.mk.inj alike).2.1]

theorem savedHost_alike (alike : blot flow = blot other) :
    (savedHost flow.data).map blotHost = (savedHost other.data).map blotHost := by
  rw [← savedHost_blot,← savedHost_blot other.data,(Wizard.Flow.mk.inj alike).2.1]

theorem savedText_blot (host : Host) (outside : Outside) :
    savedText strings lang (blotHost host) outside = savedText strings lang host outside := rfl

private theorem stays_test (flow : Flow) (mid : Int) (answers : Answers) :
    (cbWizard flow mid Button.test.action answers).flow = some {flow with mid := mid} := by
  simp only [cbWizard,read_action,Button.pressed]
  split
  next => rfl
  next =>
    split
    next => rfl
    next =>
      split
      next => rfl
      next => exact render_flow _

private theorem leaves_save (flow : Flow) (mid : Int) (answers : Answers) :
    (cbWizard flow mid Button.save.action answers).flow =
      if flow.step = .confirm ∧ answers.limited = false ∧ answers.stored = true ∧
          (savedHost flow.data).toOption.isSome then none
      else some {flow with mid := mid} := by
  simp only [cbWizard,read_action,Button.pressed]
  by_cases confirm : flow.step = .confirm
  · cases limited : answers.limited with
    | true => simp [confirm,stay]
    | false =>
      cases saved : savedHost flow.data with
      | error raised => simp [confirm,raise,Except.toOption]
      | ok host => cases stored : answers.stored <;> simp [confirm,raise,Except.toOption]
  · simp [confirm,stay]

theorem cbWizard_alike (alike : blot flow = blot other) (mid : Int) (button : Button)
    (answers : Answers) : (cbWizard flow mid button.action answers).flow.map blot =
      (cbWizard other mid button.action answers).flow.map blot := by
  have alike := alike_mid alike mid
  obtain ⟨step,data,_⟩ := Wizard.Flow.mk.inj alike
  have moved {one two : Data} (same : blotData one = blotData two) (step : Step) :
      (render {flow with step := step, data := one, mid := mid}).flow.map blot =
        (render {other with step := step, data := two, mid := mid}).flow.map blot := by
    rw [render_flow,render_flow]
    exact congrArg some (alike_step (alike_data alike same) step)
  cases button with
  | back =>
    simp only [cbWizard,read_action,Button.pressed,prev_alike alike]
    cases prev {other with mid := mid} with
    | none => rfl
    | some step => exact moved data step
  | port22 =>
    simp only [cbWizard,read_action,Button.pressed]
    exact moved (congrArg (fun data : Data => {data with port := some 22}) data) .user
  | userroot =>
    simp only [cbWizard,read_action,Button.pressed]
    exact moved (congrArg (fun data : Data => {data with username := some "root".toList}) data)
      .auth
  | authPassword =>
    simp only [cbWizard,read_action,Button.pressed]
    exact moved (congrArg (fun data : Data => {data with
      auth := some "password".toList, secret := none, needsPass := none, passphrase := none}) data)
      .secret
  | authKey =>
    simp only [cbWizard,read_action,Button.pressed]
    exact moved (congrArg (fun data : Data => {data with
      auth := some "key".toList, secret := none, needsPass := none, passphrase := none}) data)
      .secret
  | test =>
    rw [stays_test,stays_test]
    exact congrArg some alike
  | save =>
    have saved : (savedHost flow.data).toOption.isSome =
        (savedHost other.data).toOption.isSome := by
      have same := savedHost_alike alike
      cases one : savedHost flow.data <;> cases two : savedHost other.data <;>
        simp_all [Except.map,Except.toOption]
    have step : flow.step = other.step := step
    rw [leaves_save,leaves_save,saved,← step]
    split
    next => rfl
    next => exact congrArg some (step ▸ alike)

theorem pressed_alike (alike : blot flow = blot other) (mid : Int) (button : Button)
    (outside : Outside) : pressed strings lang flow mid button outside =
      pressed strings lang other mid button outside := by
  have moved (button : Button) :
      (cbWizard flow mid button.action outside.answers).flow.elim [Shown.mainMenu]
          (fun flow => rendered strings lang flow none) =
        (cbWizard other mid button.action outside.answers).flow.elim [Shown.mainMenu]
          (fun flow => rendered strings lang flow none) := by
    have same := cbWizard_alike alike mid button outside.answers
    revert same
    generalize (cbWizard flow mid button.action outside.answers).flow = one
    generalize (cbWizard other mid button.action outside.answers).flow = two
    intro same
    rcases one with _ | one <;> rcases two with _ | two
    · rfl
    · contradiction
    · contradiction
    · exact rendered_alike (Option.some.inj same) none
  have alike := alike_mid alike mid
  have step : flow.step = other.step := (Wizard.Flow.mk.inj alike).1
  have test := tempHost_alike alike
  have save := savedHost_alike alike
  cases button with
  | test =>
    simp only [pressed,rendered_alike alike]
    simp only [step]
    revert test
    dsimp only
    cases tempHost flow.data <;> cases tempHost other.data <;> intro test
    · rfl
    · contradiction
    · contradiction
    · rfl
  | save =>
    simp only [pressed,step]
    revert save
    dsimp only
    cases savedHost flow.data <;> cases savedHost other.data <;> intro save
    · rfl
    · contradiction
    · contradiction
    · next one two =>
      have same : blotHost one = blotHost two := Except.ok.inj save
      dsimp only
      rw [← savedText_blot one,same,savedText_blot]
  | back => exact congrArg (.answered none :: ·) (moved .back)
  | port22 => exact congrArg (.answered none :: ·) (moved .port22)
  | userroot => exact congrArg (.answered none :: ·) (moved .userroot)
  | authPassword => exact congrArg (.answered none :: ·) (moved .authPassword)
  | authKey => exact congrArg (.answered none :: ·) (moved .authKey)

theorem indistinct_refl (text : Text) : Indistinct setup flow text text := by
  unfold Indistinct
  split
  next => split <;> simp
  next => rfl
  next => rfl

/-- One update, on two flows that differ in their secrets only. -/
theorem turn_alike (alike : blot flow = blot other) {one two : Action}
    (matching : Matching setup (some flow) one two) :
    (turn setup flow one.plain).map (fun turn => turn.flow.map blot) =
        (turn setup other two.plain).map (fun turn => turn.flow.map blot) ∧
      seen setup strings lang flow one = seen setup strings lang other two := by
  obtain ⟨step,data,_⟩ := Wizard.Flow.mk.inj alike
  have auth : flow.data.auth = other.data.auth := (Data.mk.inj data).2.2.2.2.1
  have written (one two : Text) (getaddrinfo : Resolver)
      (indistinct : Indistinct setup flow (strip one) (strip two)) :
      (turn setup flow (.text one getaddrinfo)).map (fun turn => turn.flow.map blot) =
          (turn setup other (.text two getaddrinfo)).map (fun turn => turn.flow.map blot) ∧
        seen setup strings lang flow (.text one getaddrinfo) =
          seen setup strings lang other (.text two getaddrinfo) := by
    obtain ⟨shown,left⟩ := @typed_alike _ strings lang _ _ alike _ _ indistinct getaddrinfo
    exact ⟨congrArg some left,congrArg (Shown.deleted :: ·) shown⟩
  have sent (one two : Document) (getaddrinfo : Resolver)
      (size : one.size > maxKeyBytes ↔ two.size > maxKeyBytes)
      (indistinct : Indistinct setup flow (strip (one.content.getD []))
        (strip (two.content.getD []))) :
      (turn setup flow (.file (some one) getaddrinfo)).map (fun turn => turn.flow.map blot) =
          (turn setup other (.file (some two) getaddrinfo)).map (fun turn => turn.flow.map blot) ∧
        seen setup strings lang flow (.file (some one) getaddrinfo) =
          seen setup strings lang other (.file (some two) getaddrinfo) := by
    obtain ⟨shown,left⟩ := @typed_alike _ strings lang _ _ alike _ _ indistinct getaddrinfo
    simp only [turn,flowMedia,seen,step,auth]
    split
    next => exact ⟨rfl,rfl⟩
    next =>
      by_cases large : one.size > maxKeyBytes
      · rw [if_pos large,if_pos large,if_pos (size.mp large),if_pos (size.mp large)]
        simp only [Option.map_some,render_flow,rendered_alike alike]
        exact ⟨congrArg (some ∘ some) alike,trivial⟩
      · have other := fun large' => large (size.mpr large')
        rw [if_neg large,if_neg large,if_neg other,if_neg other]
        exact ⟨congrArg some left,congrArg (Shown.deleted :: ·) shown⟩
  cases matching with
  | same action =>
    cases one with
    | add mid limited => exact ⟨rfl,rfl⟩
    | leave => exact ⟨rfl,rfl⟩
    | press mid button outside =>
      exact ⟨congrArg some (cbWizard_alike alike mid button outside.answers),
        pressed_alike alike mid button outside⟩
    | text content getaddrinfo => exact written _ _ getaddrinfo (indistinct_refl _)
    | file document getaddrinfo =>
      cases document with
      | none =>
        simp only [Action.plain,turn,flowMedia,seen]
        exact ⟨by split <;> split <;> rfl,by split <;> split <;> rfl⟩
      | some document => exact sent _ _ getaddrinfo Iff.rfl (indistinct_refl _)
  | text one two getaddrinfo indistinct =>
    exact written one two getaddrinfo (indistinct flow rfl)
  | file one two getaddrinfo size indistinct =>
    exact sent one two getaddrinfo size (indistinct flow rfl)

/-- The chat shows the same, and the flows differ in their secrets only. -/
structure Alike (states : State × State) : Prop where
  shown : states.1.shown = states.2.shown
  flow : states.1.flow.map blot = states.2.flow.map blot

theorem Alike.step {states after : State × State} (alike : Alike states)
    {actions : Action × Action} (meets : Meets setup states actions)
    (taken : both setup strings lang states actions = some after) : Alike after := by
  obtain ⟨⟨flow,shown⟩,⟨flow',shown'⟩⟩ := states
  obtain ⟨one,two⟩ := actions
  obtain ⟨same,left⟩ := alike
  dsimp only at same left
  subst same
  have taken : both setup strings lang (⟨flow,shown⟩,⟨flow',shown⟩) (one,two) = some after := taken
  have meets : Matching setup flow one two := meets
  have turned (taken : some (wizardTurn setup strings lang ⟨flow,shown⟩ one,
      wizardTurn setup strings lang ⟨flow',shown⟩ two) = some after) : Alike after := by
    cases taken
    rcases flow with _ | flow <;> rcases flow' with _ | flow'
    · exact ⟨rfl,rfl⟩
    · contradiction
    · contradiction
    · obtain ⟨flows,seen⟩ := @turn_alike _ strings lang _ _ (Option.some.inj left) _ _ meets
      unfold wizardTurn
      dsimp only
      revert flows
      generalize turn setup flow one.plain = first
      generalize turn setup flow' two.plain = second
      intro flows
      rcases first with _ | first <;> rcases second with _ | second
      · exact ⟨rfl,left⟩
      · contradiction
      · contradiction
      · exact ⟨congrArg (shown ++ ·) seen,Option.some.inj flows⟩
  cases meets with
  | same action =>
    cases one with
    | add mid limited =>
      cases limited with
      | true => cases taken; exact ⟨rfl,left⟩
      | false => cases taken; exact ⟨rfl,rfl⟩
    | leave => cases taken; exact ⟨rfl,rfl⟩
    | press mid button outside => exact turned taken
    | text content getaddrinfo => exact turned taken
    | file document getaddrinfo => exact turned taken
  | text one two getaddrinfo indistinct => exact turned taken
  | file one two getaddrinfo size indistinct => exact turned taken

end

/-- Two runs of the wizard that differ in nothing but the secrets and passphrases typed or sent,
each of which passes or fails its check in both: the chat shows the same. -/
theorem secrets_unseen (setup : Setup) (strings : Table) (lang : String)
    (states : State × State)
    (reached : Reach (both setup strings lang) (Meets setup) (start,start) states) :
    states.1.shown = states.2.shown ∧ states.1.flow.map blot = states.2.flow.map blot := by
  have alike : Alike states := reached.invariant Alike ⟨rfl,rfl⟩
    fun _ _ _ alike meets taken => alike.step meets taken
  exact ⟨alike.shown,alike.flow⟩

def noStrings : Table := fun _ => none

def bothPress (button : Button) : Action × Action :=
  let press := Action.press 5 button ⟨yes,0,true,12,none,⟨0,fun _ => none⟩,0⟩
  (press,press)

def bothType (text : String) : Action × Action :=
  (.text text.toList noAnswer,.text text.toList noAnswer)

theorem secrets_unseen_typed : ∃ states : State × State,
    states.1.flow.bind (·.data.secret) = some "hunter2".toList ∧
      states.2.flow.bind (·.data.secret) = some "swordfish".toList ∧
      states.1.shown = states.2.shown ∧ states.1.flow.map blot = states.2.flow.map blot := by
  obtain ⟨asked,ran,one,two⟩ : ∃ asked, [(.add 5 false,.add 5 false),bothType "web",
      bothType "1.1.1.1",bothPress .port22,bothPress .userroot,bothPress .authPassword].foldlM
        (both plainSetup noStrings "en") (start,start) = some asked ∧
      asked.1.flow = some ⟨.secret,⟨some "web".toList,some "1.1.1.1".toList,some 22,
        some "root".toList,some "password".toList,none,none,none⟩,5⟩ ∧
      asked.2.flow = asked.1.flow := ⟨_,rfl,rfl,rfl⟩
  have reached : Reach (both plainSetup noStrings "en") (Meets plainSetup) (start,start) asked := by
    apply reach_of_met _ _ ran
    intro actions member states
    have same : actions.1 = actions.2 := by
      simp only [List.mem_cons,List.not_mem_nil,or_false] at member
      rcases member with rfl | rfl | rfl | rfl | rfl | rfl <;> rfl
    unfold Meets
    rw [← same]
    exact .same actions.1
  obtain ⟨states,taken,kept,other⟩ : ∃ states,
      both plainSetup noStrings "en" asked
        (.text "hunter2".toList noAnswer,.text "swordfish".toList noAnswer) = some states ∧
      states.1.flow.bind (·.data.secret) = some "hunter2".toList ∧
      states.2.flow.bind (·.data.secret) = some "swordfish".toList := by
    obtain ⟨⟨flow,shown⟩,⟨flow',shown'⟩⟩ := asked
    cases one
    cases two
    exact ⟨_,rfl,rfl,rfl⟩
  have meets : Meets plainSetup asked
      (.text "hunter2".toList noAnswer,.text "swordfish".toList noAnswer) := by
    apply Matching.text
    intro here member
    rw [one] at member
    cases member
    rfl
  exact ⟨states,kept,other,
    secrets_unseen plainSetup noStrings "en" states (.next asked _ states reached meets taken)⟩

end AtronixX.WizardSecrecy
