import AtronixX.Database
import AtronixX.Errors

/-! The access gate of `handlers/gate.py`, with `ui.show`, `ui.send` and
`router.on_error`, and the way an update takes through the handler groups. Every
call to Telegram or to the database has a name and an outcome; texts stand for
themselves by key, language and arguments. -/
namespace AtronixX.Gate
open Library.Tables Database Errors

structure Settings where
  adminId : Int
  supportUsername : String
  supportUrl : String

structure TgUser where
  id : Int
  username : Option String
  fullName : String

structure Chat where
  id : Int
  isPrivate : Bool

structure CallbackQuery where
  data : Option String
  hasMessage : Bool

inductive Content
  | command (name : String)
  | text
  | document
  | photo
  | callback (query : CallbackQuery)
  | other

structure Update where
  user : Option TgUser
  chat : Option Chat
  content : Content

def Update.callbackQuery (update : Update) : Option CallbackQuery :=
  match update.content with
  | .callback query => some query
  | _ => none

inductive Arg
  | text (value : String)
  | number (value : Int)
  | moment (time : Option Int)
  | daysLeft (time : Option Int)
  deriving DecidableEq

structure Text where
  key : String
  lang : String
  arguments : List (String × Arg)
  deriving DecidableEq

inductive Label
  | text (value : Text)
  | channel (name : String)
  deriving DecidableEq

inductive Target
  | data (callback : String)
  | url (link : String)
  deriving DecidableEq

structure Button where
  label : Label
  target : Target
  style : Option String
  deriving DecidableEq

structure View where
  text : Text
  keyboard : List (List Button)
  deriving DecidableEq

def t (key lang : String) (arguments : List (String × Arg)) : Text := ⟨key,lang,arguments⟩

def btn (key lang data : String) (style : Option String) : Button :=
  ⟨.text (t key lang []),.data data,style⟩

def supportButton (settings : Settings) (lang : String) : Button :=
  ⟨.text (t "b_support" lang []),.url settings.supportUrl,none⟩

def gateKb (settings : Settings) (lang : String) : List (List Button) :=
  [[supportButton settings lang,btn "b_lang" lang "lang:toggle" none]]

def mainMenuKb (settings : Settings) (lang : String) : List (List Button) :=
  [[btn "b_hosts" lang "menu:hosts" (some "primary"),btn "b_add" lang "hosts:add" (some "success")],
    [btn "b_snip" lang "snip:list" none,btn "b_groups" lang "grp:list" none],
    [btn "b_account" lang "me:home" none,btn "b_lang" lang "lang:toggle" none],
    [supportButton settings lang]]

/-- A message in a chat: a view, or the alert of `on_error` about an exception. -/
inductive Message
  | view (content : View)
  | alert (raised : Fault)
  deriving DecidableEq

inductive Call
  | getUser
  | insertUser
  | updateUser
  | reloadUser
  | noticeMode
  | markRequestNotified
  | noticeSend
  | evaluateMode
  | listChannels
  | member (chatId : Int)
  | answer
  | edit
  | send
  | activationUser
  | activationSend
  | clearNotifyPending
  | errorAnswer
  | errorSend
  deriving DecidableEq

structure Membership where
  status : String
  isMember : Bool

def Membership.present (membership : Membership) : Bool :=
  membership.status = "member" || membership.status = "administrator" ||
    membership.status = "creator" || (membership.status = "restricted" && membership.isMember)

/-- What the gate runs in: its settings, the clock as it reads it, and how each
call ends. -/
structure Environment where
  settings : Settings
  /-- `time.time()` in `ensure_user`, in `has_access`, in `_missing_channels` and
  in `on_error`. -/
  seconds : Int
  accessTime : Rat
  memberTime : Rat
  alertTime : Rat
  fails : Call → Option Fault
  membership : Int → Membership

structure World where
  tables : Tables
  /-- `_member_cache`, by user and channel. -/
  memberCache : Table (Int × Int) Rat
  lang : Option String
  flow : Bool
  lastAdminAlert : Rat
  shown : List (Int × Message)

abbrev Handler := EStateM Interrupt World

variable (env : Environment)

def perform (call : Call) (effect : World → World) : Handler Unit := fun world =>
  match env.fails call with
  | some fault => .error (.fault fault) world
  | none => .ok () (effect world)

def fetch {α : Type} (call : Call) (query : Tables → α) : Handler α := fun world =>
  match env.fails call with
  | some fault => .error (.fault fault) world
  | none => .ok (query world.tables) world

def store (call : Call) (change : Tables → Tables) : Handler Unit :=
  perform env call (fun world => {world with tables := change world.tables})

/-- `try: … except TelegramError as error: …`. -/
def catchTelegram {α : Type} (action : Handler α) (handle : TelegramError → Handler α) :
    Handler α := fun world =>
  match action world with
  | .error (.fault (.telegram error)) last => handle error last
  | result => result

def onlyIf (condition : Prop) [Decidable condition] (action : Handler Unit) : Handler Unit :=
  if condition then action else pure ()

def isAdmin (uid : Int) : Bool := uid = env.settings.adminId

def record (chatId : Int) (message : Message) (world : World) : World :=
  {world with shown := world.shown ++ [(chatId,message)]}

def uiSend (call : Call) (chatId : Int) (message : Message) : Handler Unit :=
  catchTelegram (perform env call (record chatId message)) (fun _ => pure ())

/-- `ui.show`: a button's message is edited, anything else gets a new message. -/
def uiShow (update : Update) (chat : Chat) (view : View) : Handler Unit :=
  let sendMessage := perform env .send (record chat.id (.view view))
  match update.callbackQuery with
  | none => sendMessage
  | some query =>
    if query.hasMessage then
      catchTelegram (perform env .edit (record chat.id (.view view)))
        (fun error => if error = .notModified then pure () else sendMessage)
    else sendMessage

def ensureUser (user : TgUser) : Handler (Option UserRow × Bool) := do
  match ← fetch env .getUser (getUser user.id) with
  | none =>
    let fresh := startedUser user.username (some user.fullName) env.seconds
    store env .insertUser (fun tables => {tables with users := tables.users.insert user.id fresh})
    pure (← fetch env .reloadUser (getUser user.id),true)
  | some row =>
    if outdated row user.username (some user.fullName) env.seconds then
      store env .updateUser (updateUser user.id (seen user.username (some user.fullName) env.seconds))
      pure (← fetch env .reloadUser (getUser user.id),false)
    else pure (some row,false)

/-- Why a user is kept out; `join` with the channels to join. -/
inductive Reason
  | banned
  | noaccess
  | terms
  | join (missing : List ChannelRow)
  deriving DecidableEq

def startsWith (data : String) (beginnings : List String) : Bool :=
  beginnings.any (fun beginning => beginning.toList.isPrefixOf data.toList)

def alwaysOk : List String := ["lang:","terms:","join:","noop"]

def flowPrefixes : List String := ["wz:","af:","noop"]

def hasAccess (user : UserRow) (mode : Mode) : Bool :=
  if user.isBanned then false
  else match mode with
    | .free => true
    | .paid => match user.subExpiresAt with
      | none => false
      | some expiry => expiry != 0 && decide (env.accessTime < expiry)

/-- The user's membership of a channel was seen less than five minutes ago. -/
def cached (uid : Int) (world : World) (channel : ChannelRow) : Bool :=
  decide (env.memberTime < (world.memberCache.lookup (uid,channel.chatId)).getD 0)

/-- One round of the loop of `_missing_channels`. -/
def checkChannel (uid : Int) (missing : List ChannelRow) (channel : ChannelRow) :
    Handler (List ChannelRow) := fun world =>
  if cached env uid world channel then .ok missing world
  else catchTelegram (do
    perform env (.member channel.chatId) id
    if (env.membership channel.chatId).present then
      modify (fun world => {world with
        memberCache := world.memberCache.insert (uid,channel.chatId) (env.memberTime + 300)})
      pure missing
    else pure (missing ++ [channel])) (fun _ => pure missing) world

def missingChannels (uid : Int) : Handler (List ChannelRow) := do
  let channels ← fetch env .listChannels listChannels
  let missing ← channels.foldlM (checkChannel env uid) []
  modify (fun world =>
    if size world.memberCache > 5000 then {world with memberCache := ∅} else world)
  pure missing

def evaluate (uid : Int) (user : UserRow) : Handler (Option Reason) :=
  if isAdmin env uid then pure none
  else if user.isBanned then pure (some .banned)
  else do
    let mode ← fetch env .evaluateMode getMode
    if !hasAccess env user mode then pure (some .noaccess)
    else if !user.termsAccepted then pure (some .terms)
    else do
      let missing ← missingChannels env uid
      pure (if missing.isEmpty then none else some (.join missing))

def joinRow (channel : ChannelRow) : Option (List Button) :=
  let filled (text : Option String) : Option String :=
    match text with
    | some "" => none
    | other => other
  let link := (filled channel.link).or
    ((filled channel.username).map (fun name => "https://t.me/" ++ name))
  link.map (fun link => [⟨.channel (((filled channel.title).or (filled channel.username)).getD ""),
    .url link,none⟩])

def blockView (uid : Int) (user : UserRow) (reason : Reason) : View :=
  let lang := user.language
  let support := ("support",Arg.text env.settings.supportUsername)
  match reason with
  | .banned => ⟨t "banned" lang [support],gateKb env.settings lang⟩
  | .noaccess =>
    let key := if user.subExpiresAt.getD 0 ≠ 0 then "no_access_expired" else "no_access"
    ⟨t key lang [support,("uid",.text (toString uid))],gateKb env.settings lang⟩
  | .terms => ⟨t "terms" lang [],[[btn "b_accept" lang "terms:accept" (some "success")],
      [btn "b_lang" lang "lang:toggle" none]]⟩
  | .join missing => ⟨t "join_required" lang [],missing.filterMap joinRow ++
      [[btn "b_joined" lang "join:check" (some "success")],
        [btn "b_lang" lang "lang:toggle" none]]⟩

def renderBlock (update : Update) (chat : Chat) (uid : Int) (user : UserRow) (reason : Reason) :
    Handler Unit := uiShow env update chat (blockView env uid user reason)

def activationView (user : UserRow) : View :=
  ⟨t "activated" user.language [("days",.daysLeft user.subExpiresAt),
      ("hosts",.number user.subMaxHosts),("until",.moment user.subExpiresAt)],
    mainMenuKb env.settings user.language⟩

def sendActivation (uid : Int) : Handler Bool := do
  match ← fetch env .activationUser (getUser uid) with
  | none => pure false
  | some user =>
    let sent ← catchTelegram (do
      perform env .activationSend (record uid (.view (activationView env user)))
      pure true) (fun _ => pure false)
    onlyIf (sent = true) (store env .clearNotifyPending (clearNotifyPending uid))
    pure sent

def mention (user : TgUser) : String :=
  match user.username with
  | some name => if name = "" then "—" else "@" ++ name
  | none => "—"

def noticeView (user : TgUser) (mode : Mode) : View :=
  ⟨t "adm_new_user" "fa" [("name",.text user.fullName),("username",.text (mention user)),
      ("uid",.text (toString user.id))],
    match mode with
    | .free => []
    | .paid => [[btn "b_grant" "fa" ("adm:grant:" ++ toString user.id) (some "success"),
        btn "b_ban" "fa" ("adm:ban:" ++ toString user.id) (some "danger")]]⟩

def notifyAdminNewUser (user : TgUser) : Handler Unit := do
  let mode ← fetch env .noticeMode getMode
  onlyIf (mode = .paid) (store env .markRequestNotified (markRequestNotified user.id))
  uiSend env .noticeSend env.settings.adminId (.view (noticeView user mode))

/-- What `pre_check` does with the verdict of `evaluate`. -/
def act (update : Update) (chat : Chat) (user : TgUser) (row : UserRow) (created : Bool)
    (data : String) (reason : Option Reason) : Handler Unit :=
  match reason with
  | none =>
    if row.notifyPending && !isAdmin env user.id then do
      let _ ← sendActivation env user.id
    else pure ()
  | some reason =>
    if startsWith data alwaysOk then pure ()
    else do
      onlyIf (update.callbackQuery.isSome = true)
        (catchTelegram (perform env .answer id) (fun _ => pure ()))
      onlyIf (reason = .noaccess ∧ row.requestNotified = false ∧ created = false)
        (notifyAdminNewUser env user)
      renderBlock env update chat user.id row reason
      throw .handlerStop

/-- `q.data if q else ""`; a query without data fails at the first `startswith`. -/
def callbackData (update : Update) : Handler String :=
  match update.callbackQuery with
  | none => pure ""
  | some query => match query.data with
    | some data => pure data
    | none => throw (.fault .other)

def checkUser (update : Update) (chat : Chat) (user : TgUser) (row : UserRow) (created : Bool) :
    Handler Unit := do
  modify (fun world => {world with lang := some row.language})
  let data ← callbackData update
  onlyIf (update.callbackQuery.isSome = true ∧ startsWith data flowPrefixes = false)
    (modify (fun world => {world with flow := false}))
  onlyIf (created = true ∧ isAdmin env user.id = false) (notifyAdminNewUser env user)
  let reason ← evaluate env user.id row
  act env update chat user row created data reason

def preCheck (update : Update) : Handler Unit :=
  match update.user, update.chat with
  | some user, some chat =>
    if !chat.isPrivate then throw .handlerStop
    else do
      match ← ensureUser env user with
      | (some row,created) => checkUser env update chat user row created
      | (none,_) => throw (.fault .other)
  | _, _ => pure ()

def onError (update : Update) (fault : Fault) : Handler Unit := do
  onlyIf (update.callbackQuery.isSome = true)
    (catchTelegram (perform env .errorAnswer id) (fun _ => pure ()))
  let world ← get
  onlyIf (env.alertTime - world.lastAdminAlert > 600) (do
    set {world with lastAdminAlert := env.alertTime}
    uiSend env .errorSend env.settings.adminId (.alert fault))

/-- Whether a handler of group 0 takes the update: the commands and filters of
`main.register`, and `pattern` for the patterns of its callback handlers. -/
def accepts (pattern : String → Bool) (update : Update) : Bool :=
  match update.content with
  | .command name => name ∈ ["start","menu","help","cancel"]
  | .text => true
  | .document => true
  | .photo => true
  | .callback query => match query.data with
    | some data => pattern data
    | none => false
  | .other => false

/-- The groups of an update: whether a handler of group 0 runs, and the state in
which it starts. -/
def processUpdate (pattern : String → Bool) (update : Update) (world : World) : Bool × World :=
  match preCheck env update world with
  | .ok _ last => (accepts pattern update,last)
  | .error .handlerStop last => (false,last)
  | .error (.fault fault) last =>
    match onError env update fault last with
    | .ok _ final => (accepts pattern update,final)
    | .error .handlerStop final => (false,final)
    | .error (.fault _) final => (accepts pattern update,final)

end AtronixX.Gate
