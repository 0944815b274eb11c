import AtronixX.Library.Contracts
import AtronixX.Rows
import AtronixX.WizardCompleteness

/-! The contracts of the calls of the bot: what is written must be as it should be, and then what
is read is. What a flow holds until it is written was checked when it was put there. -/
namespace AtronixX.RowContracts
open Library.Transition Library.Programs Library.Contracts Library.Text Database PublicTarget
open Handlers AdminHandlers Rows

structure DataFine (kinds : Text → Prop) (data : Wizard.Data) : Prop where
  label : ∀ text ∈ data.label, Wizard.lengthIn 32 text = true
  ip : ∀ text ∈ data.ip, Wizard.validAddress text = true
  port : ∀ port ∈ data.port, 1 ≤ port ∧ port ≤ 65535
  username : ∀ text ∈ data.username, Wizard.userChars text = true
  auth : ∀ text ∈ data.auth, kinds text

def FlowFine (kinds : Text → Prop) : Flow → Prop
  | .addHost flow => DataFine kinds flow.data
  | .snipAdd name => ∀ text ∈ name, Wizard.lengthIn 32 text = true
  | .admGrantHosts _ days => 1 ≤ days
  | _ => True

section
variable (kinds : Text → Prop)

def Asks : (α : Type) → Effect α → Prop
  | _,.write statement => WriteFine kinds statement
  | _,.addHost arguments => ArgumentsFine kinds arguments
  | _,.setFlow flow => ∀ found ∈ flow, FlowFine kinds found
  | _,_ => True

def Gets : (α : Type) → Effect α → α → Prop
  | _,.select query,answer => ∃ tables, Fine kinds tables ∧ query tables = answer
  | _,.flow,answer => ∀ found ∈ answer, FlowFine kinds found
  | _,.raise,_ => False
  | _,_,_ => True

def Fair {α : Type} (handler : Handler α) : Prop :=
  Obeys (Asks kinds) (Gets kinds) handler fun _ => True

structure Sound {κ : Type} (world : World κ) : Prop where
  tables : Fine kinds world.tables
  flows : EveryRow world.flows (FlowFine kinds)

/-- The tables of a backup that is restored are well formed themselves. -/
def Restored {κ : Type} (α : Type) (effect : Effect α) (_ after : World κ) : Prop :=
  match effect with
  | .restoreBackup _ _ => Fine kinds after.tables
  | _ => True

end

variable {kinds : Text → Prop}

theorem honours_perform {κ : Type} (aead : Library.Sealed.Aead κ) (hkdf : Library.Sealed.Bytes → κ)
    (config : Config) :
    Honours (performAs config aead hkdf) (Restored kinds) (Sound kinds) (Asks kinds)
      (Gets kinds) := by
  intro α actor effect reply before answer after asks sound performed restored
  cases effect with
  | select query =>
    cases performed
    exact ⟨⟨before.tables,sound.tables,rfl⟩,sound⟩
  | write statement =>
    obtain ⟨tables,ran,same⟩ := Option.map_eq_some_iff.mp performed
    cases same
    exact ⟨trivial,{sound with tables := fine_write sound.tables asks ran}⟩
  | addHost arguments =>
    obtain ⟨key,_,same⟩ := Option.map_eq_some_iff.mp performed
    cases same
    have new := hostRow_fine aead key asks
    exact ⟨trivial,{sound with tables := fine_insertHost sound.tables new}⟩
  | flow =>
    cases performed
    exact ⟨fun found here => sound.flows _ found here,sound⟩
  | setFlow flow =>
    cases flow with
    | none =>
      cases performed
      refine ⟨trivial,{sound with flows := ?_}⟩
      intro uid found there
      exact sound.flows uid found (Library.Tables.lookup_erase_some there).2
    | some flow =>
      cases performed
      exact ⟨trivial,{sound with flows := everyRow_insert sound.flows (asks flow rfl)}⟩
  | ask read =>
    cases performed
    exact ⟨trivial,sound⟩
  | popPending chatId =>
    cases performed
    exact ⟨trivial,{sound with}⟩
  | clearPending =>
    cases performed
    exact ⟨trivial,{sound with}⟩
  | setPending pending =>
    cases performed
    exact ⟨trivial,{sound with}⟩
  | createTask task =>
    cases performed
    exact ⟨trivial,{sound with}⟩
  | raise => contradiction
  | restoreBackup blob passphrase =>
    obtain ⟨payload,_,same⟩ := Option.map_eq_some_iff.mp performed
    cases same
    exact ⟨trivial,{sound with tables := restored}⟩

section
variable {α β : Type} {post : α → Prop}

theorem Fair.bind {first : Handler α} {next : α → Handler β} (one : Fair kinds first)
    (two : ∀ value, Fair kinds (next value)) : Fair kinds (first >>= next) :=
  Obeys.bind one two

@[simp] theorem fair_ite {condition : Prop} [Decidable condition] {one two : Handler α} :
    Fair kinds (if condition then one else two) ↔
      (condition → Fair kinds one) ∧ (¬condition → Fair kinds two) :=
  obeys_ite

theorem Fair.optional {condition : Prop} [Decidable condition] {first : Handler Unit}
    {next : Unit → Handler β} (one : condition → Fair kinds first) (two : Fair kinds (next ())) :
    Fair kinds (if condition then first >>= next else next ()) :=
  fair_ite.mpr ⟨fun holds => (one holds).bind fun _ => two,fun _ => two⟩

@[simp] theorem fair_pure (value : α) : Fair kinds (pure value : Handler α) := trivial

@[simp] theorem fair_select_bind (query : Tables → α) (next : α → Handler β) :
    Fair kinds (select query >>= next) ↔
      ∀ tables, Fine kinds tables → Fair kinds (next (query tables)) :=
  ⟨fun obeys tables fine => obeys.2 _ ⟨tables,fine,rfl⟩,
    fun all => ⟨trivial,fun _ known => known.elim fun tables read => read.2 ▸ all tables read.1⟩⟩

@[simp] theorem fair_ask_bind (read : Reply → α) (next : α → Handler β) :
    Fair kinds (ask read >>= next) ↔ ∀ value, Fair kinds (next value) :=
  ⟨fun obeys value => obeys.2 value trivial,fun all => ⟨trivial,fun value _ => all value⟩⟩

@[simp] theorem fair_seconds_bind (next : Int → Handler β) :
    Fair kinds (seconds >>= next) ↔ ∀ value, Fair kinds (next value) :=
  fair_ask_bind _ _

@[simp] theorem fair_show_bind (next : Unit → Handler β) :
    Fair kinds (show_ >>= next) ↔ Fair kinds (next ()) :=
  (fair_ask_bind _ _).trans ⟨fun all => all (),fun one _ => one⟩

@[simp] theorem fair_getFlow_bind (next : Option Flow → Handler β) :
    Fair kinds (getFlow >>= next) ↔
      ∀ flow, (∀ found ∈ flow, FlowFine kinds found) → Fair kinds (next flow) :=
  ⟨fun obeys flow => obeys.2 flow,fun all => ⟨trivial,all⟩⟩

@[simp] theorem fair_setFlow_bind (flow : Option Flow) (next : Unit → Handler β) :
    Fair kinds (setFlow flow >>= next) ↔
      (∀ found ∈ flow, FlowFine kinds found) ∧ Fair kinds (next ()) :=
  ⟨fun obeys => ⟨obeys.1,obeys.2 () trivial⟩,fun both => ⟨both.1,fun _ _ => both.2⟩⟩

@[simp] theorem fair_write_bind (statement : Write) (next : Unit → Handler β) :
    Fair kinds (write statement >>= next) ↔ WriteFine kinds statement ∧ Fair kinds (next ()) :=
  ⟨fun obeys => ⟨obeys.1,obeys.2 () trivial⟩,fun both => ⟨both.1,fun _ _ => both.2⟩⟩

@[simp] theorem fair_popPending_bind (chatId : Int) (next : Option PendingTrust → Handler β) :
    Fair kinds (Program.run (.popPending chatId) >>= next) ↔
      ∀ pending, Fair kinds (next pending) :=
  ⟨fun obeys pending => obeys.2 pending trivial,fun all => ⟨trivial,fun value _ => all value⟩⟩

@[simp] theorem fair_select (query : Tables → α) : Fair kinds (select query) :=
  ⟨trivial,fun _ _ => trivial⟩

@[simp] theorem fair_ask (read : Reply → α) : Fair kinds (ask read) := ⟨trivial,fun _ _ => trivial⟩

@[simp] theorem fair_show : Fair kinds show_ := fair_ask _

@[simp] theorem fair_raise : Fair kinds (raise : Handler α) := ⟨trivial,fun _ none => none.elim⟩

@[simp] theorem fair_setFlow (flow : Option Flow) :
    Fair kinds (setFlow flow) ↔ ∀ found ∈ flow, FlowFine kinds found :=
  ⟨fun obeys => obeys.1,fun given => ⟨given,fun _ _ => trivial⟩⟩

@[simp] theorem fair_write (statement : Write) :
    Fair kinds (write statement) ↔ WriteFine kinds statement :=
  ⟨fun obeys => obeys.1,fun given => ⟨given,fun _ _ => trivial⟩⟩

@[simp] theorem fair_createTask (task : Task) : Fair kinds (createTask task) :=
  ⟨trivial,fun _ _ => trivial⟩

end

section
variable {setup : Wizard.Setup} {getaddrinfo : Resolver}

/-- A text that was stripped does not end with the newline that the pattern would allow. -/
theorem userChars_of_userName {text : Text} (solid : Solid isSpace text)
    (accepted : Wizard.userName text = true) : Wizard.userChars text = true := by
  simp only [Wizard.userName,Bool.or_eq_true,Bool.and_eq_true,beq_iff_eq] at accepted
  rcases accepted with accepted | ⟨last,_⟩
  · exact accepted
  · have blank := solid.2 _ last
    contradiction

theorem label_of_validateField {text : Text}
    (ok : Wizard.validateField setup getaddrinfo .label text = .ok none) :
    Wizard.lengthIn 32 text = true := by
  simp only [Wizard.validateField,Except.ok.injEq] at ok
  split at ok
  next fits => exact fits
  next => contradiction

theorem ip_of_validateField {text : Text}
    (ok : Wizard.validateField setup getaddrinfo .ip text = .ok none) :
    Wizard.validAddress text = true := by
  simp only [Wizard.validateField] at ok
  split at ok
  next => simp at ok
  next valid => simpa using valid

theorem port_of_validateField {text : Text} {port : Int}
    (ok : Wizard.validateField setup getaddrinfo .port text = .ok none)
    (read : Library.Numerals.int setup.unicode text = some port) : 1 ≤ port ∧ port ≤ 65535 := by
  simp only [Wizard.validateField,read] at ok
  split at ok
  next => simp at ok
  next =>
    simp only [Except.ok.injEq] at ok
    split at ok
    next fits => exact fits
    next => contradiction

theorem userName_of_validateField {text : Text}
    (ok : Wizard.validateField setup getaddrinfo .username text = .ok none) :
    Wizard.userName text = true := by
  simp only [Wizard.validateField,Except.ok.injEq] at ok
  split at ok
  next fits => exact fits
  next => contradiction

theorem opened_fine (mid : Int) : DataFine kinds (Wizard.opened mid).data :=
  ⟨nofun,nofun,nofun,nofun,nofun⟩

theorem fine_entered {flow : Wizard.Flow} {text : Text} {data : Wizard.Data}
    (fine : DataFine kinds flow.data) (solid : Solid isSpace text)
    (ok : Wizard.entered setup getaddrinfo flow text = .ok (.ok data)) : DataFine kinds data := by
  obtain ⟨at_,before,mid⟩ := flow
  cases at_ with
  | label =>
    simp only [Wizard.entered,Except.ok.injEq] at ok
    split at ok
    next fits =>
      cases ok
      refine {fine with label := ?_}
      rintro _ ⟨⟩
      exact fits
    next => contradiction
  | addr =>
    obtain ⟨accepted,rfl⟩ := WizardCompleteness.checked_ok ok
    refine {fine with ip := ?_}
    rintro _ ⟨⟩
    exact ip_of_validateField accepted
  | port =>
    simp only [Wizard.entered] at ok
    split at ok
    next =>
      split at ok
      next => contradiction
      next other => exact absurd ok (other data)
    next port read =>
      obtain ⟨accepted,rfl⟩ := WizardCompleteness.checked_ok ok
      refine {fine with port := ?_}
      rintro _ ⟨⟩
      exact port_of_validateField accepted read
  | user =>
    obtain ⟨accepted,rfl⟩ := WizardCompleteness.checked_ok ok
    refine {fine with username := ?_}
    rintro _ ⟨⟩
    exact userChars_of_userName solid (userName_of_validateField accepted)
  | auth => simp [Wizard.entered] at ok
  | secret =>
    simp only [Wizard.entered] at ok
    split at ok
    next =>
      simp only [Wizard.acceptKey,Except.ok.injEq] at ok
      split at ok
      next =>
        cases ok
        exact {fine with}
      next => contradiction
    next =>
      obtain ⟨_,rfl⟩ := WizardCompleteness.checked_ok ok
      exact {fine with}
  | pass =>
    simp only [Wizard.entered,Except.ok.injEq] at ok
    split at ok
    next =>
      cases ok
      exact {fine with}
    next => contradiction
  | confirm => simp [Wizard.entered] at ok

def TurnFine (kinds : Text → Prop) (turn : Wizard.Turn) : Prop :=
  ∀ flow, turn.flow = some flow → DataFine kinds flow.data

theorem fine_gone (raised : Option Wizard.Raise) (saved : Option Wizard.Host) :
    TurnFine kinds ⟨none,raised,saved⟩ := by
  intro flow left
  contradiction

theorem fine_raise {flow : Wizard.Flow} (raised : Wizard.Raise) (fine : DataFine kinds flow.data) :
    TurnFine kinds (Wizard.raise flow raised) := by
  rintro _ ⟨⟩
  exact fine

theorem fine_stay {flow : Wizard.Flow} (fine : DataFine kinds flow.data) :
    TurnFine kinds (Wizard.stay flow) := by
  rintro _ ⟨⟩
  exact fine

theorem fine_render {flow : Wizard.Flow} (fine : DataFine kinds flow.data) :
    TurnFine kinds (Wizard.render flow) := by
  unfold Wizard.render
  split
  next => exact fine_raise _ fine
  next => exact fine_stay fine

theorem fine_wizInput {flow : Wizard.Flow} {text : Text} (fine : DataFine kinds flow.data)
    (solid : Solid isSpace text) : TurnFine kinds (Wizard.wizInput setup getaddrinfo flow text) := by
  unfold Wizard.wizInput
  split
  next => exact fine_raise _ fine
  next => exact fine_render fine
  next data ok =>
    have after := fine_entered fine solid ok
    dsimp only
    split
    next => exact fine_raise _ after
    next => exact fine_render after

theorem fine_flowMedia {flow : Wizard.Flow} {document : Option Wizard.Document} {turn : Wizard.Turn}
    (fine : DataFine kinds flow.data)
    (taken : Wizard.flowMedia setup getaddrinfo flow document = some turn) : TurnFine kinds turn := by
  unfold Wizard.flowMedia at taken
  split at taken
  next => contradiction
  next =>
    split at taken
    next => contradiction
    next =>
      split at taken
      next =>
        cases taken
        exact fine_render fine
      next =>
        cases taken
        exact fine_wizInput fine solid_trimBy

/-- The kind that an `auth:` button names. -/
def NamesKind (kinds : Text → Prop) (action : Text) : Prop :=
  ∀ kind, Wizard.Pressed.read action = .auth (some kind) → kinds kind

theorem fine_cbWizard {flow : Wizard.Flow} {mid : Int} {action : Text} {answers : Wizard.Answers}
    (fine : DataFine kinds flow.data) (names : NamesKind kinds action) :
    TurnFine kinds (Wizard.cbWizard flow mid action answers) := by
  unfold Wizard.cbWizard
  cases read : Wizard.Pressed.read action with
  | back =>
    dsimp only
    split
    next => exact fine_gone _ _
    next => exact fine_render fine
  | port22 =>
    refine fine_render {fine with port := ?_}
    rintro _ ⟨⟩
    decide
  | userroot =>
    refine fine_render {fine with username := ?_}
    rintro _ ⟨⟩
    decide
  | auth kind =>
    refine fine_render {fine with auth := ?_}
    rintro kind ⟨⟩
    exact names kind read
  | test =>
    dsimp only
    split
    next => exact fine_stay fine
    next =>
      split
      next => exact fine_stay fine
      next =>
        split
        next => exact fine_raise _ fine
        next => exact fine_render fine
  | save =>
    dsimp only
    split
    next => exact fine_stay fine
    next =>
      split
      next => exact fine_stay fine
      next =>
        split
        next => exact fine_raise _ fine
        next =>
          split
          next => exact fine_gone _ _
          next => exact fine_raise _ fine
  | other => exact fine_stay fine

theorem arguments_fine {data : Wizard.Data} {host : Wizard.Host} (fine : DataFine kinds data)
    (saved : Wizard.savedHost data = .ok host) (uid now : Int)
    (nonces : Library.Sealed.Nonce × Library.Sealed.Nonce) :
    ArgumentsFine kinds (hostArguments uid host now nonces) := by
  obtain ⟨label,ip,port,username,auth,secret,needsPass,passphrase⟩ := data
  cases label with
  | none => contradiction
  | some label =>
  cases ip with
  | none => contradiction
  | some ip =>
  cases port with
  | none => contradiction
  | some port =>
  cases username with
  | none => contradiction
  | some username =>
  cases auth with
  | none => contradiction
  | some auth =>
  cases secret with
  | none => contradiction
  | some secret =>
    cases saved
    refine ⟨?_,?_,fine.port port rfl,?_,?_⟩
    · simpa [hostArguments] using fine.label label rfl
    · simpa [hostArguments] using fine.ip ip rfl
    · simpa [hostArguments] using fine.username username rfl
    · simpa [hostArguments] using fine.auth auth rfl

end

end AtronixX.RowContracts
