import AtronixX.Callbacks
import AtronixX.PublicTarget

/-! The add-host wizard of `handlers/hosts.py` and the checks it shares with the editor: what
one update of the user makes of the flow in `user_data`, what it saves and what it raises. -/
namespace AtronixX.Wizard
open Library.Text Library.Numerals Library.Address Connection PublicTarget

inductive Step
  | label | addr | port | user | auth | secret | pass | confirm
  deriving DecidableEq, Repr

def order : List Step := [.label,.addr,.port,.user,.auth,.secret,.pass,.confirm]

structure Data where
  label : Option Text
  ip : Option Text
  port : Option Int
  username : Option Text
  auth : Option Text
  secret : Option Text
  needsPass : Option Bool
  passphrase : Option Text
  deriving DecidableEq, Repr

structure Flow where
  step : Step
  data : Data
  mid : Int
  deriving DecidableEq, Repr

/-- The flow that `cb_add` puts into `user_data`. -/
def opened (mid : Int) : Flow := ⟨.label,⟨none,none,none,none,none,none,none,none⟩,mid⟩

inductive Raise
  | keyError (key : String)
  | valueError
  | indexError
  | other
  deriving DecidableEq, Repr

/-- `data[key]`. -/
def item {α : Type} (key : String) : Option α → Except Raise α
  | none => .error (.keyError key)
  | some value => .ok value

structure Setup where
  unicode : Unicode
  registry : Registry
  blocked : List Text
  /-- `key_needs_passphrase`: whether the key can be read, and whether it asks for one. -/
  keyNeedsPassphrase : Text → Bool × Bool

def lengthIn (limit : Nat) (text : Text) : Bool := 1 ≤ text.length && text.length ≤ limit

def asciiAlphanumeric (char : Char) : Bool := char.isAlphanum

/-- `_HOST_RE`, of a text without a newline. -/
def hostName (text : Text) : Bool :=
  lengthIn 253 text && text.all (fun char => asciiAlphanumeric char || char ∈ ['.','_','-']) &&
    (text.head?.any asciiAlphanumeric) && (text.getLast?.any asciiAlphanumeric)

def validAddress (text : Text) : Bool :=
  let text := strip text
  (ipAddress text).isSome || (hostName text && text.contains '.')

def userChars (text : Text) : Bool :=
  lengthIn 64 text && text.all fun char => asciiAlphanumeric char || char ∈ ['_','.','@','-']

/-- `_USER_RE`, whose `$` also matches before a last newline. -/
def userName (text : Text) : Bool :=
  userChars text || (text.getLast? == some '\n' && userChars text.dropLast)

inductive Field
  | label | ip | port | username | secret
  deriving DecidableEq, Repr

section
variable (setup : Setup) (getaddrinfo : Resolver)

/-- The key of the message, or `none` when the text is accepted. -/
def validateField (field : Field) (text : Text) : Except Raise (Option String) :=
  match field with
  | .label => .ok (if lengthIn 32 text then none else some "err_label")
  | .ip =>
    if !validAddress text then .ok (some "err_addr")
    else match resolvePublic setup.registry setup.blocked getaddrinfo text with
      | .ok _ => .ok none
      | .error (.targetBlocked _) => .ok (some "err_blocked")
      | .error (.connectError _) => .ok (some "err_dns")
      | .error .other => .error .other
  | .port =>
    if !setup.unicode.isdigit text then .ok (some "err_port")
    else match int setup.unicode text with
      | none => .error .valueError
      | some port => .ok (if 1 ≤ port ∧ port ≤ 65535 then none else some "err_port")
  | .username => .ok (if userName text then none else some "err_user")
  | .secret => .ok (if lengthIn 256 text then none else some "err_secret")

def maxKeyBytes : Nat := 16 * 1024

def contains (part text : Text) : Bool := text.tails.any fun rest => part.isPrefixOf rest

/-- The checks of `_accept_key`. -/
def readableKey (text : Text) : Bool :=
  decide ((text.map Char.utf8Size).sum ≤ maxKeyBytes) && contains "PRIVATE KEY".toList text &&
    (setup.keyNeedsPassphrase text).1

def acceptKey (data : Data) (text : Text) : Except String Data :=
  if readableKey setup text then .ok {data with
    secret := some (strip text ++ ['\n']), needsPass := some (setup.keyNeedsPassphrase text).2}
  else .error "err_key"

def Data.pass (data : Data) : Bool := data.needsPass.getD false

/-- `ORDER[ORDER.index(s) + 1]`, except after the secret. -/
def next (flow : Flow) : Option Step :=
  if flow.step = .secret then some (if flow.data.pass then .pass else .confirm)
  else order[order.idxOf flow.step + 1]?

def prev (flow : Flow) : Option Step :=
  if flow.step = .label then none
  else if flow.step = .confirm then some (if flow.data.pass then .pass else .secret)
  else order[order.idxOf flow.step - 1]?

structure Confirmation where
  label : Text
  ip : Text
  port : Int
  username : Text
  auth : String
  deriving DecidableEq, Repr

/-- The arguments of the text `wz_confirm`. -/
def confirmation (data : Data) : Except Raise Confirmation := do
  let label ← item "label" data.label
  let ip ← item "ip" data.ip
  let port ← item "port" data.port
  let username ← item "username" data.username
  let auth ← item "auth" data.auth
  return ⟨label,ip,port,username,if auth = "password".toList then "auth_pw" else "auth_key"⟩

structure Target where
  ip : Text
  port : Int
  username : Text
  auth : Text
  secret : Text
  passphrase : Option Text
  deriving DecidableEq, Repr

def tempHost (data : Data) : Except Raise Target := do
  let ip ← item "ip" data.ip
  let port ← item "port" data.port
  let username ← item "username" data.username
  let auth ← item "auth" data.auth
  let secret ← item "secret" data.secret
  return ⟨ip,port,username,auth,secret,data.passphrase⟩

structure Host extends Target where
  label : Text
  deriving DecidableEq, Repr

/-- The arguments of `add_host`. -/
def savedHost (data : Data) : Except Raise Host := do
  let label ← item "label" data.label
  let target ← tempHost data
  return {target with label := label}

structure Turn where
  flow : Option Flow
  raised : Option Raise
  saved : Option Host
  deriving DecidableEq, Repr

def stay (flow : Flow) : Turn := ⟨some flow,none,none⟩

def raise (flow : Flow) (raised : Raise) : Turn := ⟨some flow,some raised,none⟩

/-- `_render`: only the confirmation reads keys that may be missing. -/
def render (flow : Flow) : Turn :=
  match flow.step,confirmation flow.data with
  | .confirm,.error raised => raise flow raised
  | _,_ => stay flow

/-- The data, when the text passes the check of a field; or its message. -/
def checked (field : Field) (text : Text) (data : Data) : Except Raise (Except String Data) :=
  match validateField setup getaddrinfo field text with
  | .error raised => .error raised
  | .ok (some message) => .ok (.error message)
  | .ok none => .ok (.ok data)

/-- The branch of `_wiz_input` for the step: a message, or the data with the input. -/
def entered (flow : Flow) (text : Text) : Except Raise (Except String Data) :=
  let data := flow.data
  match flow.step with
  | .label =>
    .ok (if lengthIn 32 text then .ok {data with label := some text} else .error "err_label")
  | .addr => checked setup getaddrinfo .ip text {data with ip := some text}
  | .port => match int setup.unicode text with
    | none => match checked setup getaddrinfo .port text data with
      | .ok (.ok _) => .error .valueError
      | failed => failed
    | some port => checked setup getaddrinfo .port text {data with port := some port}
  | .user => checked setup getaddrinfo .username text {data with username := some text}
  | .auth => .ok (.error "err_use_buttons")
  | .secret =>
    if data.auth = some "key".toList then .ok (acceptKey setup data text)
    else checked setup getaddrinfo .secret text {data with secret := some text}
  | .pass =>
    .ok (if lengthIn 256 text then .ok {data with passphrase := some text} else .error "err_secret")
  | .confirm => .ok (.error "err_use_buttons")

def wizInput (flow : Flow) (text : Text) : Turn :=
  match entered setup getaddrinfo flow text with
  | .error raised => raise flow raised
  | .ok (.error _) => render flow
  | .ok (.ok data) =>
    let flow := {flow with data := data}
    match next flow with
    | none => raise flow .indexError
    | some step => render {flow with step := step}

structure Document where
  size : Nat
  /-- `none` when it cannot be fetched or is not UTF-8. -/
  content : Option Text

/-- `flow_media`; `none` when the wizard does not take the file. -/
def flowMedia (flow : Flow) (document : Option Document) : Option Turn :=
  if flow.step ≠ .secret ∨ flow.data.auth ≠ some "key".toList then none
  else match document with
    | none => none
    | some document =>
      if document.size > maxKeyBytes then some (render flow)
      else some (wizInput setup getaddrinfo flow (strip (document.content.getD [])))

end

/-- What `cb_wizard` asks of others: the rate limit, `_limit_reached`, and whether `add_host`
went through. -/
structure Answers where
  allowed : Bool
  limited : Bool
  stored : Bool

/-- What `cb_wizard` tells apart in its data. -/
inductive Pressed
  | back | port22 | userroot
  | auth (kind : Option Text)
  | test | save | other
  deriving DecidableEq, Repr

def Pressed.read (action : Text) : Pressed :=
  if action = "back".toList then .back
  else if action = "port22".toList then .port22
  else if action = "userroot".toList then .userroot
  else if Callbacks.startsWith "auth:" action then .auth (action.splitOn ':')[1]?
  else if action = "test".toList then .test
  else if action = "save".toList then .save
  else .other

/-- `cb_wizard` with a flow of the wizard. -/
def cbWizard (flow : Flow) (mid : Int) (action : Text) (answers : Answers) : Turn :=
  let flow := {flow with mid := mid}
  let data := flow.data
  match Pressed.read action with
  | .back => match prev flow with
    | none => ⟨none,none,none⟩
    | some step => render {flow with step := step}
  | .port22 => render {flow with step := .user, data := {data with port := some 22}}
  | .userroot => render {flow with step := .auth, data := {data with username := some "root".toList}}
  | .auth kind => render {flow with
      step := .secret
      data := {data with auth := kind, secret := none, needsPass := none, passphrase := none}}
  | .test =>
    if flow.step ≠ .confirm then stay flow
    else if !answers.allowed then stay flow
    else match tempHost data with
      | .error raised => raise flow raised
      | .ok _ => render flow
  | .save =>
    if flow.step ≠ .confirm then stay flow
    else if answers.limited then stay flow
    else match savedHost data with
      | .error raised => raise flow raised
      | .ok host => if answers.stored then ⟨none,none,some host⟩ else raise flow .other
  | .other => stay flow

end AtronixX.Wizard
