import AtronixX.Handlers

/-! The handlers of `handlers/admin.py`, the tasks of `core/housekeeping.py`, and every way into
a handler: the patterns of `main.register` and the free inputs of `handlers/router.py`. -/
namespace AtronixX.AdminHandlers
open Library.Programs Library.Tables Database PublicTarget Handlers

section
variable (admin : Int)

def guard_ (uid : Int) (body : Handler Unit) : Handler Unit :=
  if uid = admin then body else show_

def log (action : String) (target detail : Option String) : Handler Unit := do
  let now ← seconds
  write (.log now action target detail)

def stats : Handler Unit := do
  let _ ← select countUsers
  let _ ← select countHosts
  pure ()

def homeView : Handler Unit := do
  stats
  let _ ← select getMode
  let _ ← select (getSetting "max_live")
  show_

/-- `list_users`, `user_with_hosts` and `users_with_subscription` read the whole table here. -/
def cbUsers : Handler Unit := do
  let _ ← select Tables.users
  show_

def showUser (uid : Int) : Handler Unit := do
  let _ ← select (getUser uid)
  let _ ← select (countHostsOf uid)
  show_

def ensurePlaceholder (uid : Int) : Handler Unit := do
  match ← select (getUser uid) with
  | some _ => pure ()
  | none => do
    let now ← seconds
    write (.insertPlaceholder uid now)

def cbBan (banning : Bool) (uid : Int) : Handler Unit :=
  if uid = admin then show_
  else do
    ensurePlaceholder uid
    write (.setBanned uid banning none)
    log (if banning then "ban" else "unban") (some (toString uid)) none
    if banning then do
      resetChat uid
      let _ ← select (getUser uid)
      show_
    else pure ()
    showUser uid

/-- `enforce_access`: whom it closes is decided from these rows; the registry is left out. -/
def enforceAccess : Handler Unit := do
  let _ ← select getMode
  let _ ← select Tables.users
  show_

def cbRevoke (confirmed : Bool) (uid : Int) : Handler Unit :=
  if confirmed then do
    write (.revoke uid)
    log "revoke" (some (toString uid)) none
    enforceAccess
    showUser uid
  else show_

def cbDeleteUser (confirmed : Bool) (uid : Int) : Handler Unit :=
  if uid = admin then show_
  else if confirmed then do
    resetChat uid
    write (.deleteUser uid)
    log "delete_user" (some (toString uid)) none
    show_
  else show_

/-- The handlers that ask for input: a message, then the flow. -/
def askFor (flow : Flow) : Handler Unit := do
  show_
  setFlow (some flow)

def setMode (mode : Text) : Handler Unit :=
  write (.setSetting "mode" (if mode = "paid".toList then "paid" else "free"))

def cbModeYes (new : Text) : Handler Unit := do
  setMode new
  log "mode" (some (String.ofList new)) none
  enforceAccess
  show_

def cbMode : Handler Unit := do
  let _ ← select getMode
  show_

def audienceIds (audience : Text) (now : Int) (tables : Tables) : List Int :=
  (tables.users.entries.filter fun row => row.2.started && !row.2.isBanned &&
    (audience ≠ "subs".toList || row.2.subExpiresAt.any fun exp => now < exp)).map (·.1)

def bcCapture (audience : Text) : Handler Unit := do
  let payload ← ask Reply.text
  let now ← seconds
  let _ ← select (audienceIds audience now)
  setFlow (some (.admBc audience payload))
  show_

def cbBcGo : Handler Unit := do
  let running ← ask Reply.flag
  match ← getFlow with
  | some (.admBc audience (some _)) =>
    if running then show_
    else do
      setFlow none
      let now ← seconds
      let _ ← select (audienceIds audience now)
      show_
      createTask .broadcast
  | _ => show_

def broadcast : Handler Unit := do
  let sent ← ask Reply.number
  log "broadcast" (some (toString sent)) none
  show_

def cbChannels : Handler Unit := do
  let _ ← select listChannels
  show_

def cbChannelDelete (cid : Int) : Handler Unit := do
  write (.removeChannel cid)
  log "channel_remove" (some (toString cid)) none
  cbChannels

/-- `_channel_input`: the channel is what Telegram says of the reference. -/
def channelInput : Handler Unit := do
  match ← ask Reply.channel with
  | none => show_
  | some channel => do
    write (.addChannel channel)
    log "channel_add" (some (toString channel.chatId)) channel.title
    setFlow none
    cbChannels

def cbBackup : Handler Unit := do
  let _ ← select (getSetting "last_backup")
  show_

/-- The task `send_backup`; `build_backup` reads the database and the key. -/
def sendBackup (manual : Bool) : Handler Unit := do
  let _ ← select id
  stats
  show_
  let now ← seconds
  write (.setSetting "last_backup" (toString now))
  log "backup" (some (if manual then "manual" else "auto")) none

/-- `_restore_preview`, by what `inspect_backup` makes of the file. -/
def restorePreview (blob : Library.Sealed.Bytes) (passphrase : Text) : Handler Unit := do
  let magic ← ask Reply.flag
  let opens ← ask Reply.flag
  if !magic then setFlow (some .admRsFile)
  else if !opens then setFlow (some (.admRsPass blob))
  else setFlow (some (.admRsReady blob passphrase))
  show_

def cbRestoreGo : Handler Unit := do
  match ← getFlow with
  | some (.admRsReady blob passphrase) => do
    setFlow none
    show_
    Program.run (.restoreBackup blob passphrase)
    Program.run .clearPending
    log "restore" none none
    show_
  | _ => show_

def cbSessions : Handler Unit := do
  let _ ← select Tables.users
  let _ ← select (getSetting "max_live")
  show_

def cbKill (chatId : Int) : Handler Unit := do
  let _ ← select (getUser chatId)
  let live ← ask Reply.flag
  if live then log "kill_session" (some (toString chatId)) none else pure ()
  cbSessions

def cbSettings : Handler Unit := do
  let _ ← select (getSetting "max_live")
  show_

def cbLive (change : Int) : Handler Unit := do
  let _ ← select (getSetting "max_live")
  -- The number that this setting is read as.
  let cur ← ask Reply.number
  let cur := max 1 (min 200 (cur + change))
  write (.setSetting "max_live" (toString cur))
  log "max_live" (some (toString cur)) none
  show_

def cbLog : Handler Unit := do
  let _ ← select Tables.adminLog
  show_

/-- `_parse_int`: at most 16 digits. -/
def parseInt (unicode : Library.Numerals.Unicode) (text : Text) (lo hi : Int) : Option Int :=
  let text := Library.Text.strip text
  if 1 ≤ text.length ∧ text.length ≤ 16 ∧ text.all fun char => (unicode.digit char).isSome then
    (Library.Numerals.int unicode text).filter fun number => lo ≤ number ∧ number ≤ hi
  else none

def grant (uid days maxHosts : Int) : Handler Unit := do
  let now ← seconds
  match ← select (getUser uid) with
  | some user =>
    write (.grant uid (max now (user.subExpiresAt.getD 0) + days * 86400) maxHosts)
  | none => do
    write (.insertPlaceholder uid now)
    match ← select (getUser uid) with
    | none => raise
    | some user =>
      write (.grant uid (max now (user.subExpiresAt.getD 0) + days * 86400) maxHosts)
  let _ ← select (getUser uid)
  pure ()

def message (uid : Int) : Handler Unit := do
  let _ ← select (getUser uid)
  let sent ← ask Reply.flag
  if sent then log "message" (some (toString uid)) none else show_

def flowInput (unicode : Library.Numerals.Unicode) (text : Text) : Flow → Handler Unit
  | .admBc audience _ => bcCapture audience
  | .admChadd => channelInput
  | .admFind => match parseInt unicode text 1 (10 ^ 15) with
    | none => show_
    | some uid => do
      setFlow none
      showUser uid
  | .admGrantId => match parseInt unicode text 1 (10 ^ 15) with
    | none => show_
    | some uid => do
      setFlow (some (.admGrantDays uid))
      show_
  | .admGrantDays uid => match parseInt unicode text 1 3650 with
    | none => show_
    | some days => do
      setFlow (some (.admGrantHosts uid days))
      show_
  | .admGrantHosts uid days => match parseInt unicode text 1 1000 with
    | none => show_
    | some maxHosts => do
      setFlow none
      grant uid days maxHosts
      log "grant" (some (toString uid)) (some (toString days ++ "d/" ++ toString maxHosts))
      let _ ← sendActivation uid
      show_
  | .admMsg uid => do
    setFlow none
    message uid
    show_
  | .admRsPass blob => restorePreview blob text
  | _ => show_

def ofAdmin : Flow → Bool
  | .addHost _ => false
  | .editHost _ _ => false
  | .snipAdd _ => false
  | .grpAdd => false
  | .sftpMkdir => false
  | _ => true

/-- `flow_text`, which drops such a flow of anybody else. -/
def flowText (unicode : Library.Numerals.Unicode) (uid : Int) (text : Text) : Handler Bool := do
  match ← getFlow with
  | none => pure false
  | some flow =>
    if !ofAdmin flow then pure false
    else if uid ≠ admin then do
      setFlow none
      pure false
    else do
      flowInput unicode (Library.Text.strip text) flow
      pure true

def maxRestoreBytes : Nat := 20 * 1024 * 1024

/-- `flow_media`, of a file of this size or of a photo. -/
def flowMedia (uid : Int) (file : Option Nat) (backupPassphrase : Text) : Handler Bool := do
  match ← getFlow with
  | none => pure false
  | some flow =>
    if uid ≠ admin then pure false
    else match flow,file with
      | .admChadd,_ => do
        channelInput
        pure true
      | .admBc audience _,none => do
        bcCapture audience
        pure true
      | .admRsFile,some size => do
        if size > maxRestoreBytes then show_
        else match ← ask Reply.bytes with
          | none => show_
          | some blob => restorePreview blob backupPassphrase
        pure true
      | _,_ => pure false

def notice (now : Rat) (uid : Int) (user : UserRow) (exp : Int) : Handler Unit :=
  let left := exp - now
  if !user.started ∨ user.isBanned ∨ uid = admin then pure ()
  else if left ≤ 0 then
    if user.nexp then pure ()
    else do
      write (.markNotified uid .nexp)
      show_
  else if left ≤ 86400 then
    if user.n1 then pure ()
    else do
      write (.markNotified uid .n1)
      write (.markNotified uid .n3)
      show_
  else if left ≤ 3 * 86400 ∧ !user.n3 then do
    write (.markNotified uid .n3)
    show_
  else pure ()

def notices (now : Rat) : List (Int × UserRow × Int) → Handler Unit
  | [] => pure ()
  | (uid,user,exp) :: rest => do
    notice admin now uid user exp
    notices now rest

def usersWithSubscription (tables : Tables) : List (Int × UserRow × Int) :=
  tables.users.entries.filterMap fun row => row.2.subExpiresAt.map fun exp => (row.1,row.2,exp)

def subscriptionNotices : Handler Unit := do
  match ← select getMode with
  | .free => pure ()
  | .paid => do
    let now ← ask Reply.time
    let users ← select usersWithSubscription
    notices admin now users

def backupDue : Handler Unit := do
  let now ← seconds
  match ← select (getSetting "last_backup") with
  | none => write (.setSetting "last_backup" (toString now))
  | some _ => do
    let due ← ask Reply.flag
    if due then do
      write (.setSetting "last_backup_attempt" (toString now))
      sendBackup false
    else pure ()

def tick : Handler Unit := do
  enforceAccess
  subscriptionNotices admin
  backupDue

end

inductive Content
  | callback (data : Text)
  | start
  | help
  | cancel
  | text (content : Text)
  | document (size : Nat)
  | photo

structure Update where
  username : Option String
  fullName : String
  content : Content

def Update.data (update : Update) : Option Text :=
  match update.content with
  | .callback data => some data
  | _ => none

structure Config where
  admin : Int
  backupPassphrase : Text
  setup : Wizard.Setup

variable (config : Config)

def handlePress (uid : Int) (update : Update) : Callbacks.Press → Handler Unit
  | .menuHome => cmdStart uid
  | .noop => show_
  | .lang => cbLang config.admin uid
  | .terms => cbTerms config.admin uid
  | .joinCheck => cbJoinCheck config.admin uid
  | .account => cbAccount uid
  | .accountDelete => show_
  | .accountDeleteYes => cbAccountDeleteYes config.admin uid update.username update.fullName
  | .menuHosts => cbList uid 0
  | .hostList gid _ => cbList uid gid
  | .view hid => hostView hid uid
  | .fav hid => cbFav uid hid
  | .groupPick _ => cbGroupPick uid
  | .setGroup hid gid => cbSetGroup uid hid gid
  | .test hid => cbTest uid hid
  | .delete hid => cbHost uid hid
  | .deleteYes hid => cbDeleteYes uid hid
  | .edit hid => cbHost uid hid
  | .editField hid field => cbEditField uid hid field
  | .add => cbAdd config.admin uid
  | .wizard action => cbWizard config.admin uid action
  | .connect kind hid => startAction uid hid kind
  | .connCancel => cbConnCancel uid
  | .trustYes => cbTrustYes uid
  | .trustNo => cbTrustNo uid
  | .controlPad action => cbControlPad uid action
  | .nav verb _ => cbNav uid verb
  | .snipList => cbSnipList uid
  | .snipView sid => cbSnipView uid sid
  | .snipDel confirmed sid => cbSnipDel uid sid confirmed
  | .snipAdd => cbSnipAdd uid
  | .snipRun sid => cbSnipRun uid sid
  | .snipClose => show_
  | .grpList => cbGrpList uid
  | .grpView gid => cbGrpView uid gid
  | .grpDel confirmed gid => cbGrpDel uid gid confirmed
  | .grpAdd => cbGrpAdd uid
  | .admHome => guard_ config.admin uid homeView
  | .admStats => guard_ config.admin uid homeView
  | .admUsers _ _ => guard_ config.admin uid cbUsers
  | .admUser other => guard_ config.admin uid (showUser other)
  | .admBan banning other => guard_ config.admin uid (cbBan config.admin banning other)
  | .admRevoke confirmed other => guard_ config.admin uid (cbRevoke confirmed other)
  | .admDeleteUser confirmed other =>
    guard_ config.admin uid (cbDeleteUser config.admin confirmed other)
  | .admGrantNew => guard_ config.admin uid (askFor .admGrantId)
  | .admGrant other => guard_ config.admin uid (askFor (.admGrantDays other))
  | .admFind => guard_ config.admin uid (askFor .admFind)
  | .admMessageUser other => guard_ config.admin uid (askFor (.admMsg other))
  | .admMode => guard_ config.admin uid cbMode
  | .admModeYes new => guard_ config.admin uid (cbModeYes new)
  | .admBroadcast => guard_ config.admin uid show_
  | .admAudience audience => guard_ config.admin uid (askFor (.admBc audience none))
  | .admBcGo => guard_ config.admin uid cbBcGo
  | .admChannels => guard_ config.admin uid cbChannels
  | .admChannelDel cid => guard_ config.admin uid (cbChannelDelete cid)
  | .admChannelAdd => guard_ config.admin uid (askFor .admChadd)
  | .admBackup => guard_ config.admin uid cbBackup
  | .admBackupNow => guard_ config.admin uid (createTask (.sendBackup true))
  | .admRestore => guard_ config.admin uid (askFor .admRsFile)
  | .admRestoreGo => guard_ config.admin uid cbRestoreGo
  | .admSessions => guard_ config.admin uid cbSessions
  | .admKill chatId => guard_ config.admin uid (cbKill chatId)
  | .admSettings => guard_ config.admin uid cbSettings
  | .admLive change => guard_ config.admin uid (cbLive change)
  | .admLog => guard_ config.admin uid cbLog

def onText (uid : Int) (text : Text) : Handler Unit := do
  if ← hostsFlowText config.setup uid text then pure ()
  else if ← toolsFlowText uid text then pure ()
  else if ← sftpFlowText text then pure ()
  else if ← flowText config.admin config.setup.unicode uid text then pure ()
  else if ← handleText then pure ()
  else showMain uid

def onDocument (uid : Int) (size : Nat) : Handler Unit := do
  if ← hostsFlowMedia config.setup size then pure ()
  else if ← flowMedia config.admin uid (some size) config.backupPassphrase then pure ()
  else if ← onUpload size then pure ()
  else show_

def onPhoto (uid : Int) : Handler Unit := do
  if ← flowMedia config.admin uid none config.backupPassphrase then pure ()
  else show_

def deliver (uid : Int) (update : Update) : Handler Unit :=
  match update.content with
  | .callback data => match Callbacks.dispatch config.setup.unicode data with
    | none => pure ()
    | some callback => match callback.read config.setup.unicode data with
      | none => raise
      | some press => handlePress config uid update press
  | .start => cmdStart uid
  | .help => show_
  | .cancel => cmdStart uid
  | .text content => onText config uid content
  | .document size => onDocument config uid size
  | .photo => onPhoto config uid

/-- The update takes its way through the gate. -/
def process (uid : Int) (update : Update) : Handler Unit := do
  if ← preCheck config.admin uid update.username update.fullName update.data then
    deliver config uid update
  else pure ()

def Task.body : Task → Handler Unit
  | .runAction hostId => runAction hostId
  | .dispatchPending _ => show_
  | .download => show_
  | .upload => show_
  | .sendBackup manual => sendBackup manual
  | .broadcast => broadcast

/-- Who runs: the update of a user, a task created for a user, the loop of housekeeping. -/
inductive Actor
  | update (uid : Int)
  | task (uid : Int)
  | housekeeping
  deriving DecidableEq

def Actor.uid : Actor → Int
  | .update uid => uid
  | .task uid => uid
  | .housekeeping => config.admin

/-- After an exception in the gate the handlers of group 0 run all the same: `ungated`. -/
inductive Request
  | gated (update : Update)
  | ungated (update : Update)
  | task (task : Task)
  | tick

def body : Actor → Request → Handler Unit
  | .update uid,.gated update => process config uid update
  | .update uid,.ungated update => deliver config uid update
  | .task _,.task task => Task.body task
  | .housekeeping,.tick => tick config.admin
  | _,_ => pure ()

/-- A call of a handler, task or loop of this actor. -/
def performAs {κ : Type} (aead : Library.Sealed.Aead κ) (hkdf : Library.Sealed.Bytes → κ)
    (α : Type) (actor : Actor) (effect : Effect α) (reply : Reply) (world : World κ) : Option (α × World κ) :=
  perform aead hkdf α (actor.uid config) effect reply world

end AtronixX.AdminHandlers
