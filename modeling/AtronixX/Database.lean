import AtronixX.Library.Owned
import AtronixX.Crypto

/-! The tables of `database/db.py` and the statements that its methods run on
them. One definition here is one SQL statement or one transaction; a method that
awaits between two statements is put together where its interleavings matter.
Secrets are encrypted by the caller, before the statement is queued. `none` as a
result is the `sqlite3.IntegrityError` of a violated constraint. -/
namespace AtronixX.Database
open Library.Tables Library.Owned Library.Sealed Crypto

structure UserRow where
  username : Option String
  firstName : Option String
  language : String
  termsAccepted : Bool
  isBanned : Bool
  banReason : Option String
  createdAt : Int
  lastSeen : Option Int
  subExpiresAt : Option Int
  subMaxHosts : Int
  n3 : Bool
  n1 : Bool
  nexp : Bool
  notifyPending : Bool
  requestNotified : Bool
  started : Bool
  deriving DecidableEq, Repr

structure GroupRow where
  ownerId : Int
  name : String
  deriving DecidableEq, Repr

structure HostRow where
  ownerId : Int
  label : String
  ip : String
  port : Int
  username : String
  authType : String
  secret : Token
  passphrase : Option Token
  hostFingerprint : Option String
  groupId : Option Int
  favorite : Bool
  createdAt : Int
  deriving DecidableEq, Repr

structure SnippetRow where
  ownerId : Int
  name : String
  command : String
  deriving DecidableEq, Repr

structure ChannelRow where
  chatId : Int
  title : Option String
  username : Option String
  link : Option String
  deriving DecidableEq, Repr

structure LogRow where
  ts : Int
  action : String
  target : Option String
  detail : Option String
  deriving DecidableEq, Repr

structure Sequence where
  groups : Int
  hosts : Int
  snippets : Int
  channels : Int
  adminLog : Int
  deriving DecidableEq, Repr

structure Tables where
  users : Table Int UserRow
  groups : Table Int GroupRow
  hosts : Table Int HostRow
  snippets : Table Int SnippetRow
  settings : Table String String
  channels : Table Int ChannelRow
  adminLog : Table Int LogRow
  sequence : Sequence

def empty : Tables := ⟨∅,∅,∅,∅,∅,∅,∅,⟨0,0,0,0,0⟩⟩

def getUser (uid : Int) (tables : Tables) : Option UserRow := tables.users.lookup uid

/-- A row with the column defaults of `SCHEMA`. -/
def freshUser (now : Int) : UserRow :=
  { username := none, firstName := none, language := "fa", termsAccepted := false
    isBanned := false, banReason := none, createdAt := now, lastSeen := none
    subExpiresAt := none, subMaxHosts := 0, n3 := false, n1 := false, nexp := false
    notifyPending := false, requestNotified := false, started := false }

def insertUser (uid : Int) (row : UserRow) (tables : Tables) : Option Tables :=
  if uid ∈ tables.users then none else some {tables with users := tables.users.insert uid row}

def updateUser (uid : Int) (change : UserRow → UserRow) (tables : Tables) : Tables :=
  {tables with users := updateWhere (fun id _ => id == uid) change tables.users}

/-- The row that `ensure_user` inserts for a user it has not seen. -/
def startedUser (username firstName : Option String) (now : Int) : UserRow :=
  {freshUser now with
    username := username, firstName := firstName, lastSeen := some now, started := true}

def outdated (user : UserRow) (username firstName : Option String) (now : Int) : Bool :=
  user.username != username || user.firstName != firstName || !user.started ||
    decide (now - user.lastSeen.getD 0 > 60)

def seen (username firstName : Option String) (now : Int) (user : UserRow) : UserRow :=
  {user with username := username, firstName := firstName, started := true, lastSeen := some now}

def setBanned (uid : Int) (banned : Bool) (reason : Option String) (tables : Tables) : Tables :=
  updateUser uid (fun user => {user with isBanned := banned, banReason := reason}) tables

def granted (expiry maxHosts : Int) (user : UserRow) : UserRow :=
  {user with
    subExpiresAt := some expiry, subMaxHosts := maxHosts, n3 := false, n1 := false, nexp := false
    notifyPending := true}

def markRequestNotified (uid : Int) (tables : Tables) : Tables :=
  updateUser uid (fun user => {user with requestNotified := true}) tables

def clearNotifyPending (uid : Int) (tables : Tables) : Tables :=
  updateUser uid (fun user => {user with notifyPending := false}) tables

def setLanguage (uid : Int) (lang : String) (tables : Tables) : Tables :=
  updateUser uid (fun user => {user with language := lang}) tables

def acceptTerms (uid : Int) (tables : Tables) : Tables :=
  updateUser uid (fun user => {user with termsAccepted := true}) tables

inductive NoticeColumn
  | n3
  | n1
  | nexp
  deriving DecidableEq, Repr

def NoticeColumn.mark (column : NoticeColumn) (user : UserRow) : UserRow :=
  match column with
  | .n3 => {user with n3 := true}
  | .n1 => {user with n1 := true}
  | .nexp => {user with nexp := true}

def markNotified (uid : Int) (column : NoticeColumn) (tables : Tables) : Tables :=
  updateUser uid column.mark tables

def revoke (uid : Int) (tables : Tables) : Tables :=
  updateUser uid (fun user => {user with subExpiresAt := none, subMaxHosts := 0}) tables

def deleteUser (uid : Int) (tables : Tables) : Tables :=
  {tables with
    hosts := deleteWhere (fun _ row => row.ownerId == uid) tables.hosts
    groups := deleteWhere (fun _ row => row.ownerId == uid) tables.groups
    snippets := deleteWhere (fun _ row => row.ownerId == uid) tables.snippets
    users := deleteWhere (fun id _ => id == uid) tables.users}

@[simp] theorem getUser_updateUser (uid other : Int) (change : UserRow → UserRow)
    (tables : Tables) : getUser other (updateUser uid change tables) =
      (getUser other tables).map (fun row => if other == uid then change row else row) := by
  simp [getUser,updateUser]

@[simp] theorem getUser_setBanned (uid : Int) (banned : Bool) (reason : Option String)
    (tables : Tables) : getUser uid (setBanned uid banned reason tables) =
      (getUser uid tables).map (fun row => {row with isBanned := banned, banReason := reason}) := by
  simp [setBanned]

@[simp] theorem getUser_deleteUser (uid : Int) (tables : Tables) :
    getUser uid (deleteUser uid tables) = none := by
  simp [getUser,deleteUser]

theorem getUser_insertUser (uid : Int) (row : UserRow) (tables result : Tables)
    (inserted : insertUser uid row tables = some result) : getUser uid result = some row := by
  unfold insertUser at inserted
  split at inserted
  next => contradiction
  next =>
    cases Option.some.inj inserted
    exact AList.lookup_insert _

theorem insertUser_isSome (uid : Int) (row : UserRow) (tables : Tables) :
    (insertUser uid row tables).isSome = (getUser uid tables).isNone := by
  unfold insertUser getUser
  split
  next present =>
    have found := AList.lookup_isSome.mpr present
    simp [Option.isNone_eq_false_iff.mpr found]
  next absent => simp [AList.lookup_eq_none.mpr absent]

def getSetting (key : String) (tables : Tables) : Option String := tables.settings.lookup key

def setSetting (key value : String) (tables : Tables) : Tables :=
  {tables with settings := tables.settings.insert key value}

inductive Mode
  | free
  | paid
  deriving DecidableEq, Repr

def getMode (tables : Tables) : Mode :=
  if (getSetting "mode" tables).getD "free" = "paid" then .paid else .free

/-- `list_channels`: every channel, by id. -/
def listChannels (tables : Tables) : List ChannelRow :=
  (tables.channels.entries.mergeSort (fun a b => a.1 ≤ b.1)).map (·.2)

/-- `add_channel`: an id is drawn even when the chat is already there and only updated. -/
def addChannel (channel : ChannelRow) (tables : Tables) : Tables :=
  let id := tables.sequence.channels + 1
  {tables with
    channels :=
      if someWhere (fun _ row => row.chatId == channel.chatId) tables.channels then
        updateWhere (fun _ row => row.chatId == channel.chatId) (fun _ => channel) tables.channels
      else tables.channels.insert id channel
    sequence := {tables.sequence with channels := id}}

def removeChannel (cid : Int) (tables : Tables) : Tables :=
  {tables with channels := deleteWhere (fun id _ => id == cid) tables.channels}

def log (ts : Int) (action : String) (target detail : Option String) (tables : Tables) : Tables :=
  let id := tables.sequence.adminLog + 1
  {tables with
    adminLog := tables.adminLog.insert id ⟨ts,action,target,detail⟩
    sequence := {tables.sequence with adminLog := id}}

def aad (owner : Int) (field : String) : String := "host:" ++ toString owner ++ ":" ++ field

def insertHost (row : HostRow) (tables : Tables) : Tables :=
  let id := tables.sequence.hosts + 1
  {tables with
    hosts := tables.hosts.insert id row
    sequence := {tables.sequence with hosts := id}}

inductive PlainColumn
  | label (text : String)
  | ip (text : String)
  | port (number : Int)
  | username (text : String)
  | authType (text : String)
  | hostFingerprint (fingerprint : Option String)
  deriving DecidableEq, Repr

inductive HostColumn
  | plain (column : PlainColumn)
  | secret (token : Option Token)
  | passphrase (token : Option Token)
  deriving DecidableEq, Repr

def PlainColumn.set (column : PlainColumn) (row : HostRow) : HostRow :=
  match column with
  | .label text => {row with label := text}
  | .ip text => {row with ip := text}
  | .port number => {row with port := number}
  | .username text => {row with username := text}
  | .authType text => {row with authType := text}
  | .hostFingerprint fingerprint => {row with hostFingerprint := fingerprint}

/-- `secret` is `NOT NULL`. -/
def HostColumn.set (column : HostColumn) (row : HostRow) : Option HostRow :=
  match column with
  | .plain column => some (column.set row)
  | .secret token => token.map (fun sealed => {row with secret := sealed})
  | .passphrase token => some {row with passphrase := token}

def setColumns (columns : List HostColumn) (row : HostRow) : Option HostRow :=
  columns.foldlM (fun current column => column.set current) row

def updateHost (id owner : Int) (columns : List HostColumn) (tables : Tables) : Option Tables :=
  match tables.hosts.lookup id with
  | none => some tables
  | some row =>
    if row.ownerId = owner then
      (setColumns columns row).map (fun changed =>
        {tables with hosts := updateWhere (fun key _ => key == id) (fun _ => changed) tables.hosts})
    else some tables

def getHost (id owner : Int) (tables : Tables) : Option HostRow :=
  (tables.hosts.lookup id).filter (fun row => row.ownerId == owner)

def deleteHost (id owner : Int) (tables : Tables) : Tables :=
  {tables with
    hosts := deleteWhere (fun key row => key == id && row.ownerId == owner) tables.hosts}

/-- `set_host_fingerprint`, which does not look at the owner. -/
def setHostFingerprint (id : Int) (fingerprint : String) (tables : Tables) : Tables :=
  {tables with
    hosts := updateWhere (fun key _ => key == id)
      (fun row => {row with hostFingerprint := some fingerprint}) tables.hosts}

def toggleFavorite (id owner : Int) (tables : Tables) : Tables :=
  {tables with
    hosts := modify HostRow.ownerId owner id (fun row => {row with favorite := !row.favorite})
      tables.hosts}

/-- `set_host_group`; a group id 0 is written as `NULL`. -/
def setHostGroup (id owner : Int) (groupId : Option Int) (tables : Tables) : Tables :=
  {tables with
    hosts := modify HostRow.ownerId owner id
      (fun row => {row with groupId := groupId.filter (· != 0)}) tables.hosts}

/-- A row without its secrets: what `get_host` leaves, and the columns of `list_hosts`. -/
structure PublicHost where
  label : String
  ip : String
  port : Int
  username : String
  authType : String
  hostFingerprint : Option String
  groupId : Option Int
  favorite : Bool
  createdAt : Int
  deriving DecidableEq, Repr

def HostRow.shown (row : HostRow) : PublicHost :=
  ⟨row.label,row.ip,row.port,row.username,row.authType,row.hostFingerprint,row.groupId,
    row.favorite,row.createdAt⟩

/-- `COLLATE NOCASE`, which folds the ASCII letters. -/
def nocaseLe (first second : String) : Bool := decide (first.toLower ≤ second.toLower)

/-- `ORDER BY favorite DESC, label COLLATE NOCASE`; `listHosts` has rows that tie in the order of
the table, which SQLite leaves open. -/
def hostLe (first second : Row Int HostRow) : Bool :=
  if first.2.favorite == second.2.favorite then nocaseLe first.2.label second.2.label
  else first.2.favorite

/-- The condition that `list_hosts` adds for a group: 0 stands for no group. -/
def inGroup (groupId : Option Int) (row : HostRow) : Bool :=
  match groupId with
  | none => true
  | some gid => if gid = 0 then row.groupId.isNone else row.groupId == some gid

def listHosts (owner : Int) (groupId : Option Int) (tables : Tables) : List (Int × PublicHost) :=
  (((rows HostRow.ownerId owner tables.hosts).filter (fun row => inGroup groupId row.2)).mergeSort
    hostLe).map (fun row => (row.1,row.2.shown))

def countHostsOf (owner : Int) (tables : Tables) : Nat :=
  countWhere (fun _ row => row.ownerId == owner) tables.hosts

def getGroup (gid owner : Int) (tables : Tables) : Option GroupRow :=
  select GroupRow.ownerId owner gid tables.groups

def addGroup (owner : Int) (name : String) (tables : Tables) : Tables :=
  let id := tables.sequence.groups + 1
  {tables with
    groups := tables.groups.insert id ⟨owner,name⟩
    sequence := {tables.sequence with groups := id}}

def deleteGroup (gid owner : Int) (tables : Tables) : Tables :=
  {tables with
    hosts := updateWhere (fun _ row => row.groupId == some gid && row.ownerId == owner)
      (fun row => {row with groupId := none}) tables.hosts
    groups := remove GroupRow.ownerId owner gid tables.groups}

/-- `list_groups`: the count `n` of a group does not look at the owner of the hosts. -/
def listGroups (owner : Int) (tables : Tables) : List (Int × GroupRow × Nat) :=
  ((rows GroupRow.ownerId owner tables.groups).mergeSort
    (fun first second => nocaseLe first.2.name second.2.name)).map (fun row =>
      (row.1,row.2,countWhere (fun _ host => host.groupId == some row.1) tables.hosts))

def listSnippets (owner : Int) (tables : Tables) : List (Int × SnippetRow) :=
  ((rows SnippetRow.ownerId owner tables.snippets).mergeSort
    (fun first second => nocaseLe first.2.name second.2.name)).map (fun row => (row.1,row.2))

def getSnippet (sid owner : Int) (tables : Tables) : Option SnippetRow :=
  select SnippetRow.ownerId owner sid tables.snippets

def addSnippet (owner : Int) (name command : String) (tables : Tables) : Tables :=
  let id := tables.sequence.snippets + 1
  {tables with
    snippets := tables.snippets.insert id ⟨owner,name,command⟩
    sequence := {tables.sequence with snippets := id}}

def deleteSnippet (sid owner : Int) (tables : Tables) : Tables :=
  {tables with snippets := remove SnippetRow.ownerId owner sid tables.snippets}

def countUsers (tables : Tables) : Nat := size tables.users

def countHosts (tables : Tables) : Nat := size tables.hosts

end AtronixX.Database
