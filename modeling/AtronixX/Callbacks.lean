import AtronixX.Library.Numerals
import AtronixX.Library.TextPattern

/-! Callback data: the patterns that `main.register` gives its handlers, and how a handler
splits the data it is called with. -/
namespace AtronixX.Callbacks
open Library.Text Library.Numerals Library.TextPattern

abbrev Text := List Char

inductive CharClass
  | digit
  | word
  deriving DecidableEq, Repr

inductive Callback
  | menuHome | noop | lang | terms | joinCheck | account | accountDelete | accountDeleteYes
  | list | view | fav | groupPick | setGroup | test | delete | deleteYes | edit | editField | add
  | wizard | connect | connCancel | trustYes | trustNo | controlPad | nav
  | snipList | snipView | snipDel | snipAdd | snipRun | snipClose
  | grpList | grpView | grpDel | grpAdd
  | admHome | admStats | admUsers | admUser | admBan | admRevoke | admDeleteUser | admGrantNew
  | admGrant | admFind | admMessageUser | admMode | admBroadcast | admBcGo | admChannels
  | admChannelAdd | admBackup | admRestore | admRestoreGo | admSessions | admSettings | admLog
  deriving DecidableEq, Repr

open Callback in
def registered : List Callback :=
  [menuHome,noop,lang,terms,joinCheck,account,accountDelete,accountDeleteYes,
    list,view,fav,groupPick,setGroup,test,delete,deleteYes,edit,editField,add,
    wizard,connect,connCancel,trustYes,trustNo,controlPad,nav,
    snipList,snipView,snipDel,snipAdd,snipRun,snipClose,
    grpList,grpView,grpDel,grpAdd,
    admHome,admStats,admUsers,admUser,admBan,admRevoke,admDeleteUser,admGrantNew,
    admGrant,admFind,admMessageUser,admMode,admBroadcast,admBcGo,admChannels,
    admChannelAdd,admBackup,admRestore,admRestoreGo,admSessions,admSettings,admLog]

def word (text : String) : Shape CharClass := lit text.toList

def digits : Shape CharClass := [.many .digit]

def end_ : Shape CharClass := [.dollar]

def oneOf (texts : List String) (beginning rest : Shape CharClass) : List (Shape CharClass) :=
  texts.map fun text => beginning ++ word text ++ rest

/-- The pattern of each handler, as the sequences that it allows. -/
def pattern : Callback → List (Shape CharClass)
  | .menuHome => [word "menu:home" ++ end_]
  | .noop => [word "noop" ++ end_]
  | .lang => [word "lang:toggle" ++ end_]
  | .terms => [word "terms:accept" ++ end_]
  | .joinCheck => [word "join:check" ++ end_]
  | .account => [word "me:home" ++ end_]
  | .accountDelete => [word "me:del" ++ end_]
  | .accountDeleteYes => [word "me:delyes" ++ end_]
  | .list => [word "menu:hosts" ++ end_,word "hl:" ++ digits ++ word ":" ++ digits ++ end_]
  | .view => [word "h:view:" ++ digits ++ end_]
  | .fav => [word "h:fav:" ++ digits ++ end_]
  | .groupPick => [word "h:grp:" ++ digits ++ end_]
  | .setGroup => [word "h:setgrp:" ++ digits ++ word ":" ++ digits ++ end_]
  | .test => [word "h:test:" ++ digits ++ end_]
  | .delete => [word "h:del:" ++ digits ++ end_]
  | .deleteYes => [word "h:delyes:" ++ digits ++ end_]
  | .edit => [word "h:edit:" ++ digits ++ end_]
  | .editField => [word "h:ef:" ++ digits ++ word ":" ++ [.many .word] ++ end_]
  | .add => [word "hosts:add" ++ end_]
  | .wizard => [word "wz:"]
  | .connect => oneOf ["conn","connf","sftp","mon"] (word "h:") (word ":" ++ digits ++ end_)
  | .connCancel => [word "conn:cancel" ++ end_]
  | .trustYes => [word "trust:yes" ++ end_]
  | .trustNo => [word "trust:no" ++ end_]
  | .controlPad => [word "term:"]
  | .nav => [word "sf:"]
  | .snipList => [word "snip:list" ++ end_]
  | .snipView => [word "snip:view:" ++ digits ++ end_]
  | .snipDel => oneOf ["","yes"] (word "snip:del") (word ":" ++ digits ++ end_)
  | .snipAdd => [word "snip:add" ++ end_]
  | .snipRun => [word "snip:run:" ++ digits ++ end_]
  | .snipClose => [word "snip:close" ++ end_]
  | .grpList => [word "grp:list" ++ end_]
  | .grpView => [word "grp:view:" ++ digits ++ end_]
  | .grpDel => oneOf ["","yes"] (word "grp:del") (word ":" ++ digits ++ end_)
  | .grpAdd => [word "grp:add" ++ end_]
  | .admHome => [word "adm:home" ++ end_]
  | .admStats => [word "adm:st" ++ end_]
  | .admUsers => oneOf ["all","sub","exp","banned"] (word "adm:users:") (word ":" ++ digits ++ end_)
  | .admUser => [word "adm:u:" ++ digits ++ end_]
  | .admBan => oneOf ["ban","unban"] (word "adm:") (word ":" ++ digits ++ end_)
  | .admRevoke => oneOf ["","yes"] (word "adm:revoke") (word ":" ++ digits ++ end_)
  | .admDeleteUser => oneOf ["","yes"] (word "adm:del") (word ":" ++ digits ++ end_)
  | .admGrantNew => [word "adm:grantnew" ++ end_]
  | .admGrant => [word "adm:grant:" ++ digits ++ end_]
  | .admFind => [word "adm:find" ++ end_]
  | .admMessageUser => [word "adm:msg:" ++ digits ++ end_]
  | .admMode => (word "adm:mode" ++ end_) :: oneOf ["free","paid"] (word "adm:modeyes:") end_
  | .admBroadcast => (word "adm:bc" ++ end_) :: oneOf ["all","subs"] (word "adm:bcaud:") end_
  | .admBcGo => [word "af:bcgo" ++ end_]
  | .admChannels => [word "adm:ch" ++ end_,word "adm:chdel:" ++ digits ++ end_]
  | .admChannelAdd => [word "adm:chadd" ++ end_]
  | .admBackup => [word "adm:bk" ++ end_,word "adm:bknow" ++ end_]
  | .admRestore => [word "adm:rs" ++ end_]
  | .admRestoreGo => [word "af:rsgo" ++ end_]
  | .admSessions => [word "adm:ss" ++ end_,word "adm:kill:" ++ digits ++ end_]
  | .admSettings => [word "adm:set" ++ end_,word "adm:live:" ++ [.optional '-'] ++ digits ++ end_]
  | .admLog => [word "adm:log" ++ end_]

section
variable (unicode : Unicode)

def accepts (class_ : CharClass) (char : Char) : Bool :=
  match class_ with
  | .digit => (unicode.digit char).isSome
  | .word => unicode.word char

def Callback.matches (callback : Callback) (data : Text) : Bool :=
  (pattern callback).any fun shape => Matches (accepts unicode) shape data

def dispatch (data : Text) : Option Callback :=
  registered.find? fun callback => callback.matches unicode data

end

inductive ConnectKind
  | conn | connf | sftp | mon
  deriving DecidableEq, Repr

def ConnectKind.name : ConnectKind → Text
  | .conn => "conn".toList
  | .connf => "connf".toList
  | .sftp => "sftp".toList
  | .mon => "mon".toList

def ConnectKind.ofName (name : Text) : Option ConnectKind :=
  [conn,connf,sftp,mon].find? fun kind => kind.name == name

/-- A press, as its handler understands it. -/
inductive Press
  | menuHome | noop | lang | terms | joinCheck | account | accountDelete | accountDeleteYes
  | menuHosts
  | hostList (gid page : Int)
  | view (hid : Int)
  | fav (hid : Int)
  | groupPick (hid : Int)
  | setGroup (hid gid : Int)
  | test (hid : Int)
  | delete (hid : Int)
  | deleteYes (hid : Int)
  | edit (hid : Int)
  | editField (hid : Int) (field : Text)
  | add
  | wizard (action : Text)
  | connect (kind : ConnectKind) (hid : Int)
  | connCancel | trustYes | trustNo
  | controlPad (action : Text)
  | nav (verb : Text) (arg : Option Int)
  | snipList
  | snipView (sid : Int)
  | snipDel (confirmed : Bool) (sid : Int)
  | snipAdd
  | snipRun (sid : Int)
  | snipClose
  | grpList
  | grpView (gid : Int)
  | grpDel (confirmed : Bool) (gid : Int)
  | grpAdd
  | admHome | admStats
  | admUsers (flt : Text) (page : Int)
  | admUser (uid : Int)
  | admBan (banning : Bool) (uid : Int)
  | admRevoke (confirmed : Bool) (uid : Int)
  | admDeleteUser (confirmed : Bool) (uid : Int)
  | admGrantNew
  | admGrant (uid : Int)
  | admFind
  | admMessageUser (uid : Int)
  | admMode
  | admModeYes (new : Text)
  | admBroadcast
  | admAudience (audience : Text)
  | admBcGo | admChannels
  | admChannelDel (cid : Int)
  | admChannelAdd | admBackup | admBackupNow | admRestore | admRestoreGo | admSessions
  | admKill (chatId : Int)
  | admSettings
  | admLive (change : Int)
  | admLog
  deriving DecidableEq, Repr

def startsWith (beginning : String) (data : Text) : Bool := beginning.toList.isPrefixOf data

/-- `data.split(":", 1)[1]`. -/
def afterColon (data : Text) : Option Text :=
  match data.dropWhile (· != ':') with
  | [] => none
  | _ :: rest => some rest

/-- The verbs of `cb_nav` that go with a number. -/
def numberedVerbs : List Text :=
  ["pg".toList,"cd".toList,"dl".toList,"del".toList,"delyes".toList]

section
variable (unicode : Unicode)

def part (data : Text) (index : Nat) : Option Text := (data.splitOn ':')[index]?

/-- `int(data.split(":")[2])`. -/
def idFrom (data : Text) : Option Int := (part data 2).bind (int unicode)

/-- What the handler makes of the data; `none` is an exception. -/
def Callback.read (data : Text) : Callback → Option Press
  | .menuHome => some .menuHome
  | .noop => some .noop
  | .lang => some .lang
  | .terms => some .terms
  | .joinCheck => some .joinCheck
  | .account => some .account
  | .accountDelete => some .accountDelete
  | .accountDeleteYes => some .accountDeleteYes
  | .list =>
    if data = "menu:hosts".toList then some .menuHosts
    else match data.splitOn ':' with
      | [_,g,p] => do return .hostList (← int unicode g) (← int unicode p)
      | _ => none
  | .view => (idFrom unicode data).map .view
  | .fav => (idFrom unicode data).map .fav
  | .groupPick => (idFrom unicode data).map .groupPick
  | .setGroup => match data.splitOn ':' with
    | [_,_,hid,gid] => do return .setGroup (← int unicode hid) (← int unicode gid)
    | _ => none
  | .test => (idFrom unicode data).map .test
  | .delete => (idFrom unicode data).map .delete
  | .deleteYes => (idFrom unicode data).map .deleteYes
  | .edit => (idFrom unicode data).map .edit
  | .editField => match data.splitOn ':' with
    | [_,_,hid,field] => (int unicode hid).map fun hid => .editField hid field
    | _ => none
  | .add => some .add
  | .wizard => (afterColon data).map .wizard
  | .connect => match data.splitOn ':' with
    | [_,kind,hid] => do return .connect (← ConnectKind.ofName kind) (← int unicode hid)
    | _ => none
  | .connCancel => some .connCancel
  | .trustYes => some .trustYes
  | .trustNo => some .trustNo
  | .controlPad => (part data 1).map .controlPad
  | .nav => do
    let verb ← part data 1
    if verb ∈ numberedVerbs then return .nav verb (some (← idFrom unicode data))
    else return .nav verb none
  | .snipList => some .snipList
  | .snipView => (idFrom unicode data).map .snipView
  | .snipDel => (idFrom unicode data).map (.snipDel (startsWith "snip:delyes" data))
  | .snipAdd => some .snipAdd
  | .snipRun => (idFrom unicode data).map .snipRun
  | .snipClose => some .snipClose
  | .grpList => some .grpList
  | .grpView => (idFrom unicode data).map .grpView
  | .grpDel => (idFrom unicode data).map (.grpDel (startsWith "grp:delyes" data))
  | .grpAdd => some .grpAdd
  | .admHome => some .admHome
  | .admStats => some .admStats
  | .admUsers => match data.splitOn ':' with
    | [_,_,flt,page] => (int unicode page).map (.admUsers flt)
    | _ => none
  | .admUser => (idFrom unicode data).map .admUser
  | .admBan => (idFrom unicode data).map (.admBan (startsWith "adm:ban:" data))
  | .admRevoke => (idFrom unicode data).map (.admRevoke (startsWith "adm:revokeyes" data))
  | .admDeleteUser => (idFrom unicode data).map (.admDeleteUser (startsWith "adm:delyes" data))
  | .admGrantNew => some .admGrantNew
  | .admGrant => (idFrom unicode data).map .admGrant
  | .admFind => some .admFind
  | .admMessageUser => (idFrom unicode data).map .admMessageUser
  | .admMode =>
    if startsWith "adm:modeyes" data then (part data 2).map .admModeYes else some .admMode
  | .admBroadcast =>
    if startsWith "adm:bcaud" data then (part data 2).map .admAudience else some .admBroadcast
  | .admBcGo => some .admBcGo
  | .admChannels =>
    if startsWith "adm:chdel" data then (idFrom unicode data).map .admChannelDel
    else some .admChannels
  | .admChannelAdd => some .admChannelAdd
  | .admBackup => if data = "adm:bknow".toList then some .admBackupNow else some .admBackup
  | .admRestore => some .admRestore
  | .admRestoreGo => some .admRestoreGo
  | .admSessions =>
    if startsWith "adm:kill" data then (idFrom unicode data).map .admKill else some .admSessions
  | .admSettings =>
    if startsWith "adm:live:" data then (idFrom unicode data).map .admLive else some .admSettings
  | .admLog => some .admLog

end

def Press.callback : Press → Callback
  | .menuHome => .menuHome
  | .noop => .noop
  | .lang => .lang
  | .terms => .terms
  | .joinCheck => .joinCheck
  | .account => .account
  | .accountDelete => .accountDelete
  | .accountDeleteYes => .accountDeleteYes
  | .menuHosts => .list
  | .hostList _ _ => .list
  | .view _ => .view
  | .fav _ => .fav
  | .groupPick _ => .groupPick
  | .setGroup _ _ => .setGroup
  | .test _ => .test
  | .delete _ => .delete
  | .deleteYes _ => .deleteYes
  | .edit _ => .edit
  | .editField _ _ => .editField
  | .add => .add
  | .wizard _ => .wizard
  | .connect _ _ => .connect
  | .connCancel => .connCancel
  | .trustYes => .trustYes
  | .trustNo => .trustNo
  | .controlPad _ => .controlPad
  | .nav _ _ => .nav
  | .snipList => .snipList
  | .snipView _ => .snipView
  | .snipDel _ _ => .snipDel
  | .snipAdd => .snipAdd
  | .snipRun _ => .snipRun
  | .snipClose => .snipClose
  | .grpList => .grpList
  | .grpView _ => .grpView
  | .grpDel _ _ => .grpDel
  | .grpAdd => .grpAdd
  | .admHome => .admHome
  | .admStats => .admStats
  | .admUsers _ _ => .admUsers
  | .admUser _ => .admUser
  | .admBan _ _ => .admBan
  | .admRevoke _ _ => .admRevoke
  | .admDeleteUser _ _ => .admDeleteUser
  | .admGrantNew => .admGrantNew
  | .admGrant _ => .admGrant
  | .admFind => .admFind
  | .admMessageUser _ => .admMessageUser
  | .admMode => .admMode
  | .admModeYes _ => .admMode
  | .admBroadcast => .admBroadcast
  | .admAudience _ => .admBroadcast
  | .admBcGo => .admBcGo
  | .admChannels => .admChannels
  | .admChannelDel _ => .admChannels
  | .admChannelAdd => .admChannelAdd
  | .admBackup => .admBackup
  | .admBackupNow => .admBackup
  | .admRestore => .admRestore
  | .admRestoreGo => .admRestoreGo
  | .admSessions => .admSessions
  | .admKill _ => .admSessions
  | .admSettings => .admSettings
  | .admLive _ => .admSettings
  | .admLog => .admLog

/-- The f-strings of `keyboards.py` and the handlers. -/
def Press.data : Press → Text
  | .menuHome => "menu:home".toList
  | .noop => "noop".toList
  | .lang => "lang:toggle".toList
  | .terms => "terms:accept".toList
  | .joinCheck => "join:check".toList
  | .account => "me:home".toList
  | .accountDelete => "me:del".toList
  | .accountDeleteYes => "me:delyes".toList
  | .menuHosts => "menu:hosts".toList
  | .hostList gid page => "hl:".toList ++ strInt gid ++ ":".toList ++ strInt page
  | .view hid => "h:view:".toList ++ strInt hid
  | .fav hid => "h:fav:".toList ++ strInt hid
  | .groupPick hid => "h:grp:".toList ++ strInt hid
  | .setGroup hid gid => "h:setgrp:".toList ++ strInt hid ++ ":".toList ++ strInt gid
  | .test hid => "h:test:".toList ++ strInt hid
  | .delete hid => "h:del:".toList ++ strInt hid
  | .deleteYes hid => "h:delyes:".toList ++ strInt hid
  | .edit hid => "h:edit:".toList ++ strInt hid
  | .editField hid field => "h:ef:".toList ++ strInt hid ++ ":".toList ++ field
  | .add => "hosts:add".toList
  | .wizard action => "wz:".toList ++ action
  | .connect kind hid => "h:".toList ++ kind.name ++ ":".toList ++ strInt hid
  | .connCancel => "conn:cancel".toList
  | .trustYes => "trust:yes".toList
  | .trustNo => "trust:no".toList
  | .controlPad action => "term:".toList ++ action
  | .nav verb none => "sf:".toList ++ verb
  | .nav verb (some arg) => "sf:".toList ++ verb ++ ":".toList ++ strInt arg
  | .snipList => "snip:list".toList
  | .snipView sid => "snip:view:".toList ++ strInt sid
  | .snipDel false sid => "snip:del:".toList ++ strInt sid
  | .snipDel true sid => "snip:delyes:".toList ++ strInt sid
  | .snipAdd => "snip:add".toList
  | .snipRun sid => "snip:run:".toList ++ strInt sid
  | .snipClose => "snip:close".toList
  | .grpList => "grp:list".toList
  | .grpView gid => "grp:view:".toList ++ strInt gid
  | .grpDel false gid => "grp:del:".toList ++ strInt gid
  | .grpDel true gid => "grp:delyes:".toList ++ strInt gid
  | .grpAdd => "grp:add".toList
  | .admHome => "adm:home".toList
  | .admStats => "adm:st".toList
  | .admUsers flt page => "adm:users:".toList ++ flt ++ ":".toList ++ strInt page
  | .admUser uid => "adm:u:".toList ++ strInt uid
  | .admBan true uid => "adm:ban:".toList ++ strInt uid
  | .admBan false uid => "adm:unban:".toList ++ strInt uid
  | .admRevoke false uid => "adm:revoke:".toList ++ strInt uid
  | .admRevoke true uid => "adm:revokeyes:".toList ++ strInt uid
  | .admDeleteUser false uid => "adm:del:".toList ++ strInt uid
  | .admDeleteUser true uid => "adm:delyes:".toList ++ strInt uid
  | .admGrantNew => "adm:grantnew".toList
  | .admGrant uid => "adm:grant:".toList ++ strInt uid
  | .admFind => "adm:find".toList
  | .admMessageUser uid => "adm:msg:".toList ++ strInt uid
  | .admMode => "adm:mode".toList
  | .admModeYes new => "adm:modeyes:".toList ++ new
  | .admBroadcast => "adm:bc".toList
  | .admAudience audience => "adm:bcaud:".toList ++ audience
  | .admBcGo => "af:bcgo".toList
  | .admChannels => "adm:ch".toList
  | .admChannelDel cid => "adm:chdel:".toList ++ strInt cid
  | .admChannelAdd => "adm:chadd".toList
  | .admBackup => "adm:bk".toList
  | .admBackupNow => "adm:bknow".toList
  | .admRestore => "adm:rs".toList
  | .admRestoreGo => "af:rsgo".toList
  | .admSessions => "adm:ss".toList
  | .admKill chatId => "adm:kill:".toList ++ strInt chatId
  | .admSettings => "adm:set".toList
  | .admLive change => "adm:live:".toList ++ strInt change
  | .admLog => "adm:log".toList

theorem patterns_apart : registered.Pairwise fun one two =>
    ∀ first ∈ pattern one, ∀ second ∈ pattern two, apart first second = true := by
  decide +kernel

end AtronixX.Callbacks
