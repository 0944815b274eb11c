import AtronixX.Library.Programs
import AtronixX.Storage
import AtronixX.Wizard

/-! The handlers of the bot as programs of calls: statements on the database, the user's flow,
approvals that wait in the registry, tasks that are created, and questions to the world outside
(Telegram, the clock, name servers, a server, the rate limit, what else is in the registry). An
exception ends a program between two calls, and a call that cannot be performed raises. A chat of
the bot is private and has the id of its user. Texts and keyboards are left out. -/
namespace AtronixX.Handlers
open Library.Programs Library.Tables Library.Sealed Crypto Database PublicTarget

structure PendingTrust where
  hostId : Int
  fingerprint : String
  deriving DecidableEq, Repr

inductive Task
  | runAction (hostId : Int)
  | dispatchPending (hostId : Int)
  | download
  | upload
  | sendBackup (manual : Bool)
  | broadcast
  deriving DecidableEq, Repr

inductive Write
  | insertUser (uid : Int) (username firstName : Option String) (now : Int)
  | updateSeen (uid : Int) (username firstName : Option String) (now : Int)
  | insertPlaceholder (uid now : Int)
  | setLanguage (uid : Int) (lang : String)
  | acceptTerms (uid : Int)
  | setBanned (uid : Int) (banned : Bool) (reason : Option String)
  | markRequestNotified (uid : Int)
  | clearNotifyPending (uid : Int)
  | markNotified (uid : Int) (column : NoticeColumn)
  | deleteUser (uid : Int)
  | grant (uid expiry maxHosts : Int)
  | revoke (uid : Int)
  | setSetting (key value : String)
  | updateHost (hostId owner : Int) (fields : List Storage.HostField)
  | deleteHost (hostId owner : Int)
  | setHostFingerprint (hostId : Int) (fingerprint : String)
  | toggleFavorite (hostId owner : Int)
  | setHostGroup (hostId owner : Int) (groupId : Option Int)
  | addGroup (owner : Int) (name : String)
  | deleteGroup (gid owner : Int)
  | addSnippet (owner : Int) (name command : String)
  | deleteSnippet (sid owner : Int)
  | addChannel (channel : ChannelRow)
  | removeChannel (cid : Int)
  | log (now : Int) (action : String) (target detail : Option String)

section
variable {κ : Type} (aead : Aead κ)

/-- The statement on the tables; `none` is an exception. -/
def Write.run (vault : Vault κ) (tables : Tables) : Write → Option Tables
  | .insertUser uid username firstName now =>
    Database.insertUser uid (startedUser username firstName now) tables
  | .updateSeen uid username firstName now =>
    some (updateUser uid (seen username firstName now) tables)
  | .insertPlaceholder uid now => Database.insertUser uid (freshUser now) tables
  | .setLanguage uid lang => some (Database.setLanguage uid lang tables)
  | .acceptTerms uid => some (Database.acceptTerms uid tables)
  | .setBanned uid banned reason => some (Database.setBanned uid banned reason tables)
  | .markRequestNotified uid => some (Database.markRequestNotified uid tables)
  | .clearNotifyPending uid => some (Database.clearNotifyPending uid tables)
  | .markNotified uid column => some (Database.markNotified uid column tables)
  | .deleteUser uid => some (Database.deleteUser uid tables)
  | .grant uid expiry maxHosts => some (updateUser uid (granted expiry maxHosts) tables)
  | .revoke uid => some (Database.revoke uid tables)
  | .setSetting key value => some (Database.setSetting key value tables)
  | .updateHost hostId owner fields => vault.aes.bind fun key =>
    Storage.effect aead key (.updateHost hostId owner fields) tables
  | .deleteHost hostId owner => some (Database.deleteHost hostId owner tables)
  | .setHostFingerprint hostId fingerprint =>
    some (Database.setHostFingerprint hostId fingerprint tables)
  | .toggleFavorite hostId owner => some (Database.toggleFavorite hostId owner tables)
  | .setHostGroup hostId owner groupId => some (Database.setHostGroup hostId owner groupId tables)
  | .addGroup owner name => some (Database.addGroup owner name tables)
  | .deleteGroup gid owner => some (Database.deleteGroup gid owner tables)
  | .addSnippet owner name command => some (Database.addSnippet owner name command tables)
  | .deleteSnippet sid owner => some (Database.deleteSnippet sid owner tables)
  | .addChannel channel => some (Database.addChannel channel tables)
  | .removeChannel cid => some (Database.removeChannel cid tables)
  | .log now action target detail => some (Database.log now action target detail tables)

end

inductive Flow
  | addHost (flow : Wizard.Flow)
  | editHost (hostId : Int) (field : Wizard.Field)
  /-- With the name once the step is `cmd`. -/
  | snipAdd (name : Option Text)
  | grpAdd
  | sftpMkdir
  | admGrantId
  | admGrantDays (uid : Int)
  | admGrantHosts (uid days : Int)
  | admFind
  | admMsg (uid : Int)
  | admBc (audience : Text) (payload : Option Text)
  | admChadd
  | admRsFile
  | admRsPass (blob : Bytes)
  | admRsReady (blob : Bytes) (passphrase : Text)

inductive Opened
  | trusted
  | untrusted (fingerprint : String)
  | failed

structure Reply where
  time : Rat
  flag : Bool
  number : Int
  text : Option Text
  bytes : Option Bytes
  getaddrinfo : Resolver
  nonces : Nonce × Nonce
  opened : Opened
  channel : Option ChannelRow
  payload : Option Storage.Payload

inductive Effect : Type → Type 1
  | select {α : Type} (query : Tables → α) : Effect α
  | write (statement : Write) : Effect Unit
  | addHost (arguments : Storage.HostArguments) : Effect Int
  | flow : Effect (Option Flow)
  | setFlow (flow : Option Flow) : Effect Unit
  | ask {α : Type} (read : Reply → α) : Effect α
  | popPending (chatId : Int) : Effect (Option PendingTrust)
  | clearPending : Effect Unit
  | setPending (pending : PendingTrust) : Effect Unit
  | createTask (task : Task) : Effect Unit
  /-- An exception of the handler's own. -/
  | raise {α : Type} : Effect α
  | restoreBackup (blob : Bytes) (passphrase : Text) : Effect Unit

abbrev Handler := Program Effect

structure World (κ : Type) where
  tables : Tables
  vault : Vault κ
  flows : Table Int Flow
  pending : Table Int PendingTrust
  /-- History: the tasks that were created, by the user of the handler. -/
  tasks : List (Int × Task)

section
variable {κ : Type} (aead : Aead κ) (hkdf : Bytes → κ)

/-- One call of a handler of the user. The steps of a restore are in `AtronixX.Storage`. -/
def perform (α : Type) (uid : Int) (effect : Effect α) (reply : Reply) (world : World κ) :
    Option (α × World κ) :=
  match effect with
  | .select query => some (query world.tables,world)
  | .write statement => (statement.run aead world.vault world.tables).map fun tables =>
    ((),{world with tables := tables})
  | .addHost arguments => world.vault.aes.map fun key =>
    (world.tables.sequence.hosts + 1,
      {world with tables := insertHost (Storage.hostRow aead key arguments) world.tables})
  | .flow => some (world.flows.lookup uid,world)
  | .setFlow none => some ((),{world with flows := world.flows.erase uid})
  | .setFlow (some flow) => some ((),{world with flows := world.flows.insert uid flow})
  | .ask read => some (read reply,world)
  | .popPending chatId =>
    some (world.pending.lookup chatId,{world with pending := world.pending.erase chatId})
  | .clearPending => some ((),{world with pending := ∅})
  | .setPending pending => some ((),{world with pending := world.pending.insert uid pending})
  | .createTask task => some ((),{world with tasks := (uid,task) :: world.tasks})
  | .raise => none
  | .restoreBackup _ _ => reply.payload.map fun payload =>
    ((),{world with tables := payload.db, vault := ⟨some payload.key,some (hkdf payload.key)⟩})

end

def select {α : Type} (query : Tables → α) : Handler α := .run (.select query)

def write (statement : Write) : Handler Unit := .run (.write statement)

def ask {α : Type} (read : Reply → α) : Handler α := .run (.ask read)

def getFlow : Handler (Option Flow) := .run .flow

def setFlow (flow : Option Flow) : Handler Unit := .run (.setFlow flow)

def createTask (task : Task) : Handler Unit := .run (.createTask task)

def raise {α : Type} : Handler α := .run .raise

def show_ : Handler Unit := ask fun _ => ()

/-- `int(time.time())`. -/
def seconds : Handler Int := ask fun reply => reply.time.floor

def resetChat (chatId : Int) : Handler Unit := do
  let _ ← Program.run (.popPending chatId)
  show_

def showMain (uid : Int) : Handler Unit := do
  let _ ← select (getUser uid)
  let _ ← select (countHostsOf uid)
  let _ ← select getMode
  show_

def hostView (hostId uid : Int) : Handler Unit := do
  let host ← select (getHost hostId uid)
  let _ ← select fun tables => (host.bind HostRow.groupId).bind fun gid => getGroup gid uid tables
  show_

section
variable (admin : Int) (setup : Wizard.Setup)

def ensureUser (uid : Int) (username firstName : Option String) :
    Handler (Option UserRow × Bool) := do
  let now ← seconds
  match ← select (getUser uid) with
  | none => do
    write (.insertUser uid username firstName now)
    let user ← select (getUser uid)
    pure (user,true)
  | some user =>
    if outdated user username firstName now then do
      write (.updateSeen uid username firstName now)
      let user ← select (getUser uid)
      pure (user,false)
    else pure (some user,false)

def hasAccess (user : UserRow) (mode : Mode) (now : Rat) : Bool :=
  !user.isBanned && (mode == .free || user.subExpiresAt.any fun exp => exp ≠ 0 && now < exp)

inductive Reason
  | banned | noaccess | terms | join
  deriving DecidableEq

def missingChannels : List ChannelRow → Handler Bool
  | [] => pure false
  | _ :: channels => do
    let present ← ask Reply.flag
    let missing ← missingChannels channels
    pure (!present || missing)

def evaluate (uid : Int) (user : UserRow) : Handler (Option Reason) :=
  if uid = admin then pure none
  else if user.isBanned then pure (some .banned)
  else do
    let mode ← select getMode
    let now ← ask Reply.time
    if !hasAccess user mode now then pure (some .noaccess)
    else if !user.termsAccepted then pure (some .terms)
    else do
      let channels ← select listChannels
      let missing ← missingChannels channels
      pure (if missing then some .join else none)

def refresh (uid : Int) : Handler Unit := do
  match ← select (getUser uid) with
  | none => raise
  | some user =>
    match ← evaluate admin uid user with
    | some _ => show_
    | none => showMain uid

def sendActivation (uid : Int) : Handler Bool := do
  match ← select (getUser uid) with
  | none => pure false
  | some _ =>
    let sent ← ask Reply.flag
    if sent then do
      write (.clearNotifyPending uid)
      pure true
    else pure false

def notifyAdminNewUser (uid : Int) : Handler Unit := do
  match ← select getMode with
  | .free => show_
  | .paid =>
    write (.markRequestNotified uid)
    show_

/-- Buttons that are part of a flow, and buttons that pass the gate. -/
def flowPrefixes : List String := ["wz:","af:","noop"]

def alwaysOk : List String := ["lang:","terms:","join:","noop"]

/-- `pre_check` in a private chat; `false` is its `ApplicationHandlerStop`. `data` is none when
the update is no callback. -/
def preCheck (uid : Int) (username : Option String) (fullName : String) (data : Option Text) :
    Handler Bool := do
  match ← ensureUser uid username (some fullName) with
  | (none,_) => raise
  | (some user,created) => do
    if data.any fun data => !flowPrefixes.any fun beginning => Callbacks.startsWith beginning data
      then setFlow none
      else pure ()
    if created ∧ uid ≠ admin then notifyAdminNewUser uid else pure ()
    match ← evaluate admin uid user with
    | none => do
      if user.notifyPending ∧ uid ≠ admin then do
        let _ ← sendActivation uid
        pure true
      else pure true
    | some reason =>
      if data.any fun data => alwaysOk.any fun beginning => Callbacks.startsWith beginning data
        then pure true
      else do
        if reason = .noaccess ∧ !user.requestNotified ∧ !created then notifyAdminNewUser uid
          else pure ()
        show_
        pure false

def reset (uid : Int) : Handler Unit := do
  setFlow none
  resetChat uid

/-- `cmd_start`, `cb_menu_home`, and `cmd_cancel` but for a message. -/
def cmdStart (uid : Int) : Handler Unit := do
  reset uid
  showMain uid

def cbLang (uid : Int) : Handler Unit := do
  match ← select (getUser uid) with
  | none => raise
  | some user => do
    write (.setLanguage uid (if user.language = "fa" then "en" else "fa"))
    refresh admin uid

def cbTerms (uid : Int) : Handler Unit := do
  write (.acceptTerms uid)
  refresh admin uid

def cbJoinCheck (uid : Int) : Handler Unit := do
  match ← select (getUser uid) with
  | none => raise
  | some user =>
    match ← evaluate admin uid user with
    | some .join => show_
    | _ => refresh admin uid

def cbAccount (uid : Int) : Handler Unit := do
  let _ ← select (getUser uid)
  let _ ← select (countHostsOf uid)
  let _ ← select getMode
  show_

def cbAccountDeleteYes (uid : Int) (username : Option String) (fullName : String) : Handler Unit :=
  if uid = admin then show_
  else do
    let user ← select (getUser uid)
    resetChat uid
    match user with
    | none => raise
    | some user => do
      write (.deleteUser uid)
      if user.isBanned then do
        let _ ← ensureUser uid username (some fullName)
        write (.setBanned uid true user.banReason)
        show_
      else show_

def cbList (uid gid : Int) : Handler Unit :=
  if gid = 0 then do
    let _ ← select (listGroups uid)
    let _ ← select (listHosts uid (some 0))
    let _ ← select (countHostsOf uid)
    show_
  else do
    let _ ← select (listHosts uid (some gid))
    let _ ← select (getGroup gid uid)
    show_

def cbFav (uid hid : Int) : Handler Unit := do
  write (.toggleFavorite hid uid)
  hostView hid uid

def cbGroupPick (uid : Int) : Handler Unit := do
  let _ ← select (listGroups uid)
  show_

def cbSetGroup (uid hid gid : Int) : Handler Unit := do
  let group ← if gid = 0 then pure none else select (getGroup gid uid)
  if gid = 0 ∨ group.isSome then
    write (.setHostGroup hid uid (if gid = 0 then none else some gid))
    else pure ()
  hostView hid uid

def cbTest (uid hid : Int) : Handler Unit := do
  let allowed ← ask Reply.flag
  if allowed then do
    let _ ← select (getHost hid uid)
    show_
  else show_

/-- `cb_delete` and `cb_edit`, which only look at the host. -/
def cbHost (uid hid : Int) : Handler Unit := do
  let _ ← select (getHost hid uid)
  show_

def cbDeleteYes (uid hid : Int) : Handler Unit := do
  write (.deleteHost hid uid)
  show_

def fieldOf (name : Text) : Option Wizard.Field :=
  if name = "label".toList then some .label
  else if name = "ip".toList then some .ip
  else if name = "port".toList then some .port
  else if name = "username".toList then some .username
  else if name = "secret".toList then some .secret
  else none

def cbEditField (uid hid : Int) (field : Text) : Handler Unit := do
  match ← select (getHost hid uid),fieldOf field with
  | some _,some field => do
    show_
    setFlow (some (.editHost hid field))
  | _,_ => pure ()

/-- The keyword arguments of `update_host` in `_edit_text`; `none` is a `ValueError`. -/
def editFields (field : Wizard.Field) (text : Text) (nonce : Nonce) :
    Option (List Storage.HostField) :=
  match field with
  | .label => some [.plain (.label (String.ofList text))]
  | .ip => some [.plain (.ip (String.ofList text)),.plain (.hostFingerprint none)]
  | .port => (Library.Numerals.int setup.unicode text).map fun port =>
    [.plain (.port port),.plain (.hostFingerprint none)]
  | .username => some [.plain (.username (String.ofList text))]
  | .secret => some [.secret (some (String.ofList text)) nonce]

def editText (uid hid : Int) (field : Wizard.Field) (text : Text) : Handler Unit := do
  let getaddrinfo ← ask Reply.getaddrinfo
  let nonces ← ask Reply.nonces
  match Wizard.validateField setup getaddrinfo field text,editFields setup field text nonces.1 with
  | .ok none,some fields => do
    write (.updateHost hid uid fields)
    setFlow none
    hostView hid uid
  | .ok (some _),_ => show_
  | _,_ => raise

def limitReached (uid : Int) : Handler Bool :=
  if uid = admin then pure false
  else do
    match ← select getMode with
    | .free => pure false
    | .paid => do
      let user ← select (getUser uid)
      let count ← select (countHostsOf uid)
      match user with
      | none => raise
      | some user => pure (decide ((count : Int) ≥ user.subMaxHosts))

def cbAdd (uid : Int) : Handler Unit := do
  if ← limitReached admin uid then do
    let _ ← select (getUser uid)
    show_
  else do
    let mid ← ask Reply.number
    setFlow (some (.addHost (Wizard.opened mid)))
    show_

/-- The flow after an update of the wizard. -/
def leave (turn : Wizard.Turn) : Handler Unit := do
  setFlow (turn.flow.map .addHost)
  if turn.raised.isSome then raise else show_

def hostArguments (uid : Int) (host : Wizard.Host) (now : Int) (nonces : Nonce × Nonce) :
    Storage.HostArguments where
  owner := uid
  label := String.ofList host.label
  ip := String.ofList host.ip
  port := host.port
  username := String.ofList host.username
  authType := String.ofList host.auth
  secret := String.ofList host.secret
  passphrase := host.passphrase.map String.ofList
  groupId := none
  now := now
  secretNonce := nonces.1
  passphraseNonce := nonces.2

/-- The branch `save` of `cb_wizard`, at the step `confirm`. -/
def saveHost (uid : Int) (flow : Wizard.Flow) : Handler Unit := do
  setFlow (some (.addHost flow))
  if ← limitReached admin uid then show_
  else match Wizard.savedHost flow.data with
    | .error _ => raise
    | .ok host => do
      let now ← seconds
      let nonces ← ask Reply.nonces
      let hid ← Program.run (.addHost (hostArguments uid host now nonces))
      setFlow none
      hostView hid uid

def cbWizard (uid : Int) (action : Text) : Handler Unit := do
  match ← getFlow with
  | some (.addHost flow) => do
    let mid ← ask Reply.number
    if Wizard.Pressed.read action = .save ∧ flow.step = .confirm then
      saveHost admin uid {flow with mid := mid}
    else do
      let allowed ← ask Reply.flag
      leave (Wizard.cbWizard flow mid action ⟨allowed,false,false⟩)
  | _ => showMain uid

/-- The free inputs say whether the flow took the message. -/
def hostsFlowText (uid : Int) (text : Text) : Handler Bool := do
  match ← getFlow with
  | some (.editHost hid field) => do
    editText setup uid hid field (Library.Text.strip text)
    pure true
  | some (.addHost flow) => do
    let getaddrinfo ← ask Reply.getaddrinfo
    leave (Wizard.wizInput setup getaddrinfo flow (Library.Text.strip text))
    pure true
  | _ => pure false

def hostsFlowMedia (size : Nat) : Handler Bool := do
  match ← getFlow with
  | some (.addHost flow) => do
    let getaddrinfo ← ask Reply.getaddrinfo
    let content ← ask Reply.text
    match Wizard.flowMedia setup getaddrinfo flow (some ⟨size,content⟩) with
    | none => pure false
    | some turn => do
      leave turn
      pure true
  | _ => pure false

def maxSnippets : Nat := 50

def maxGroups : Nat := 30

def cbSnipList (uid : Int) : Handler Unit := do
  let _ ← select (listSnippets uid)
  show_

def cbSnipView (uid sid : Int) : Handler Unit := do
  let _ ← select (getSnippet sid uid)
  show_

def cbSnipDel (uid sid : Int) (confirmed : Bool) : Handler Unit :=
  if confirmed then do
    write (.deleteSnippet sid uid)
    cbSnipList uid
  else show_

def cbSnipAdd (uid : Int) : Handler Unit := do
  let snippets ← select (listSnippets uid)
  if snippets.length ≥ maxSnippets then show_
  else do
    show_
    setFlow (some (.snipAdd none))

def cbSnipRun (uid sid : Int) : Handler Unit := do
  let session ← ask Reply.flag
  if session then do
    let _ ← select (getSnippet sid uid)
    show_
  else show_

def cbGrpList (uid : Int) : Handler Unit := do
  let _ ← select (listGroups uid)
  show_

def cbGrpView (uid gid : Int) : Handler Unit := do
  let _ ← select (getGroup gid uid)
  let _ ← select (listHosts uid (some gid))
  show_

def cbGrpDel (uid gid : Int) (confirmed : Bool) : Handler Unit :=
  if confirmed then do
    write (.deleteGroup gid uid)
    cbGrpList uid
  else show_

def cbGrpAdd (uid : Int) : Handler Unit := do
  let groups ← select (listGroups uid)
  if groups.length ≥ maxGroups then show_
  else do
    show_
    setFlow (some .grpAdd)

def toolsFlowText (uid : Int) (text : Text) : Handler Bool := do
  let text := Library.Text.strip text
  match ← getFlow with
  | some .grpAdd =>
    if !Wizard.lengthIn 24 text then do
      show_
      pure true
    else do
      write (.addGroup uid (String.ofList text))
      setFlow none
      cbGrpList uid
      pure true
  | some (.snipAdd none) =>
    if !Wizard.lengthIn 32 text then do
      show_
      pure true
    else do
      setFlow (some (.snipAdd (some text)))
      show_
      pure true
  | some (.snipAdd (some name)) =>
    if !Wizard.lengthIn 1000 text then do
      show_
      pure true
    else do
      write (.addSnippet uid (String.ofList name) (String.ofList text))
      setFlow none
      cbSnipList uid
      pure true
  | _ => pure false

/-- `start_action`; sessions and the number of them are asked outside. -/
def startAction (uid hid : Int) (kind : Callbacks.ConnectKind) : Handler Unit := do
  let allowed ← ask Reply.flag
  let free ← ask Reply.flag
  let _ ← select (getSetting "max_live")
  if !allowed ∨ ((kind = .conn ∨ kind = .connf) ∧ !free) then show_
  else do
    match ← select (getHost hid uid) with
    | none => show_
    | some _ => do
      resetChat uid
      createTask (.runAction hid)

def runAction (hid : Int) : Handler Unit := do
  show_
  match ← ask Reply.opened with
  | .untrusted fingerprint => do
    Program.run (.setPending ⟨hid,fingerprint⟩)
    show_
  | _ => show_

def cbConnCancel (uid : Int) : Handler Unit := showMain uid

def cbTrustYes (uid : Int) : Handler Unit := do
  match ← Program.run (.popPending uid) with
  | none => show_
  | some pending => do
    show_
    write (.setHostFingerprint pending.hostId pending.fingerprint)
    createTask (.dispatchPending pending.hostId)

def cbTrustNo (uid : Int) : Handler Unit := do
  let _ ← Program.run (.popPending uid)
  show_

def cbControlPad (uid : Int) (action : Text) : Handler Unit :=
  if action = "snip".toList then do
    let _ ← select (listSnippets uid)
    show_
  else show_

/-- `handle_text`: whether a session took the text. -/
def handleText : Handler Bool := ask Reply.flag

def cbNav (uid : Int) (verb : Text) : Handler Unit := do
  let browsing ← ask Reply.flag
  if !browsing then showMain uid
  else if verb = "exit".toList then do
    let hid ← ask Reply.number
    hostView hid uid
  else if verb = "rf".toList then do
    setFlow none
    show_
  else if verb = "md".toList then do
    show_
    setFlow (some .sftpMkdir)
  else if verb = "dl".toList then do
    let fits ← ask Reply.flag
    if fits then createTask .download else show_
  else show_

def badName (name : Text) : Bool :=
  name.isEmpty || name = ".".toList || name = "..".toList ||
    name.any (fun char => char == '\\' || char == '/' || char == Char.ofNat 0) ||
    decide (name.length > 100)

def sftpFlowText (text : Text) : Handler Bool := do
  match ← getFlow with
  | some .sftpMkdir => do
    let browsing ← ask Reply.flag
    if !browsing then do
      setFlow none
      pure true
    else if badName (Library.Text.strip text) then do
      show_
      pure true
    else do
      setFlow none
      show_
      pure true
  | _ => pure false

def maxUpload : Nat := 20 * 1024 * 1024

def onUpload (size : Nat) : Handler Bool := do
  let browsing ← ask Reply.flag
  if !browsing then pure false
  else if size > maxUpload then do
    show_
    pure true
  else do
    createTask .upload
    pure true

end

end AtronixX.Handlers
