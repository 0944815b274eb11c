import AtronixX.Callbacks
import AtronixX.Sftp
import AtronixX.Wizard

/-! The inline keyboards of the bot: those of `handlers/keyboards.py` and those that the
handlers put together themselves. A button is the press that its `callback_data` stands for. -/
namespace AtronixX.Keyboards
open Callbacks

inductive Button
  | callback (press : Press)
  | url
  deriving DecidableEq, Repr

abbrev Keyboard := List (List Button)

def btn (press : Press) : Button := .callback press

def kb (rows : Keyboard) : Keyboard := rows.filter fun row => !row.isEmpty

def Button.press : Button → Option Press
  | .callback press => some press
  | .url => none

def presses (keyboard : Keyboard) : List Press := keyboard.flatten.filterMap Button.press

def backKb (target : Press) : Keyboard := kb [[btn target]]

def dangerConfirmKb (yes no : Press) : Keyboard := kb [[btn yes,btn no]]

def mainMenuKb (admin : Bool) : Keyboard :=
  let rows := [[btn .menuHosts,btn .add],[btn .snipList,btn .grpList],[btn .account,btn .lang],[.url]]
  kb (if admin then rows ++ [[btn .admHome]] else rows)

def gateKb (extra : Keyboard) : Keyboard := kb (extra ++ [[.url,btn .lang]])

def pairs : List Button → Keyboard
  | [] => []
  | [button] => [[button]]
  | one :: two :: rest => [one,two] :: pairs rest

def pageRow (page pages : Nat) (target : Int → Press) : List Button :=
  (if page > 0 then [btn (target (page - 1))] else []) ++ [btn .noop] ++
    (if page < (pages : Int) - 1 then [btn (target (page + 1))] else [])

def hostsListKb (groups hosts : List Int) (gid : Int) (page pages : Nat) : Keyboard :=
  kb ((if gid = 0 ∧ page = 0 then pairs ((groups.take 12).map fun group => btn (.hostList group 0))
      else []) ++
    hosts.map (fun host => [btn (.view host)]) ++
    (if pages > 1 then [pageRow page pages (.hostList gid)] else []) ++
    [[btn .add,btn (if gid = 0 then .menuHome else .hostList 0 0)]])

def hostDetailKb (hid : Int) (groupId : Option Int) : Keyboard :=
  kb [[btn (.connect .conn hid)],
    [btn (.connect .sftp hid),btn (.connect .mon hid)],
    [btn (.test hid),btn (.fav hid)],
    [btn (.groupPick hid),btn (.edit hid)],
    [btn (.delete hid),btn (.hostList (groupId.getD 0) 0)]]

def editFieldsKb (hid : Int) (authType : Text) : Keyboard :=
  kb ([[btn (.editField hid "label".toList),btn (.editField hid "ip".toList)],
      [btn (.editField hid "port".toList),btn (.editField hid "username".toList)]] ++
    (if authType = "password".toList then [[btn (.editField hid "secret".toList)]] else []) ++
    [[btn (.view hid)]])

def groupPickKb (hid : Int) (groups : List Int) : Keyboard :=
  kb (groups.map (fun group => [btn (.setGroup hid group)]) ++
    [[btn (.setGroup hid 0)],[btn (.view hid)]])

def trustKb : Keyboard := kb [[btn .trustYes,btn .trustNo]]

def connectingKb : Keyboard := kb [[btn .connCancel]]

def wizardKb (step : Wizard.Step) (home : Press) : Keyboard :=
  kb ((match step with
    | .port => [[btn (.wizard "port22".toList)]]
    | .user => [[btn (.wizard "userroot".toList)]]
    | .auth => [[btn (.wizard "auth:password".toList),btn (.wizard "auth:key".toList)]]
    | .confirm => [[btn (.wizard "save".toList),btn (.wizard "test".toList)]]
    | _ => []) ++
    [[btn (.wizard "back".toList),btn home]])

def terminalKb : Keyboard :=
  kb (([["ctrlc","ctrld","tab","esc"],["left","up","down","right"],["enter"],["clear","log","snip"],
    ["exit"]] : List (List String)).map fun row =>
      row.map fun action => btn (.controlPad action.toList))

def sftpKb (entries : List Sftp.Entry) (page pages perPage : Nat) (atRoot : Bool)
    (mode : Sftp.Mode) : Keyboard :=
  let start := page * perPage
  kb ((((entries.drop start).take perPage).zipIdx start).map (fun (entry,index) =>
      [btn (.nav (if mode = .delete then "del".toList
        else if entry.isDir then "cd".toList else "dl".toList) (some index))]) ++
    (if pages > 1 then [pageRow page pages fun page => .nav "pg".toList (some page)] else []) ++
    [(if atRoot then [] else [btn (.nav "up".toList none)]) ++
      [btn (.nav "rf".toList none),btn (.nav "uph".toList none)],
      [btn (.nav "md".toList none),btn (.nav "dm".toList none)],
      [btn (.nav "exit".toList none)]])

def cbAccount : Keyboard := kb [[btn .accountDelete],[btn .menuHome]]

def cbAccountDelete : Keyboard := dangerConfirmKb .accountDeleteYes .account

def terms : Keyboard := kb [[btn .terms],[btn .lang]]

/-- `links` says of each missing channel whether it has a link. -/
def join (links : List Bool) : Keyboard :=
  kb ((links.filter id).map (fun _ => [.url]) ++ [[btn .joinCheck],[btn .lang]])

def notifyAdminNewUser (uid : Int) : Keyboard := kb [[btn (.admGrant uid),btn (.admBan true uid)]]

def cbGroupPick (hid : Int) (groups : List Int) : Keyboard := groupPickKb hid groups

def cbDelete (hid : Int) : Keyboard := dangerConfirmKb (.deleteYes hid) (.view hid)

def startAction (hostId : Int) : Keyboard :=
  kb [[btn (.connect .connf hostId)],[btn (.view hostId)]]

def controlPadSnip (snippets : List Int) : Keyboard :=
  kb ((snippets.take 30).map (fun snippet => [btn (.snipRun snippet)]) ++ [[btn .snipClose]])

def controlPadExit (hostId : Int) : Keyboard := kb [[btn (.view hostId)],[btn .menuHome]]

def renderError : Keyboard :=
  kb [[btn (.nav "rf".toList none),btn (.nav "up".toList none)],[btn (.nav "exit".toList none)]]

def navDelete (idx : Int) : Keyboard :=
  dangerConfirmKb (.nav "delyes".toList (some idx)) (.nav "rf".toList none)

def cbSnipList (snippets : List Int) : Keyboard :=
  kb (snippets.map (fun snippet => [btn (.snipView snippet)]) ++ [[btn .snipAdd,btn .menuHome]])

def cbSnipView (sid : Int) : Keyboard := kb [[btn (.snipDel false sid),btn .snipList]]

def cbSnipDel (sid : Int) : Keyboard := dangerConfirmKb (.snipDel true sid) (.snipView sid)

def cbGrpList (groups : List Int) : Keyboard :=
  kb (groups.map (fun group => [btn (.grpView group)]) ++ [[btn .grpAdd,btn .menuHome]])

def cbGrpView (gid : Int) : Keyboard :=
  kb [[btn (.hostList gid 0)],[btn (.grpDel false gid),btn .grpList]]

def cbGrpDel (gid : Int) : Keyboard := dangerConfirmKb (.grpDel true gid) (.grpView gid)

def launchMonitor (hid : Int) : Keyboard := kb [[btn (.connect .mon hid)],[btn (.view hid)]]

def subscriptionNotices (uid : Int) : Keyboard := kb [[btn (.admGrant uid)]]

def homeView : Keyboard :=
  kb [[btn (.admUsers "all".toList 0),btn .admGrantNew],[btn .admStats,btn .admMode],
    [btn .admBroadcast,btn .admChannels],[btn .admBackup,btn .admSessions],
    [btn .admSettings,btn .admLog],[btn .menuHome]]

def cbStats : Keyboard := kb [[btn .admStats,btn .admHome]]

def cbUsers (flt : Text) (users : List Int) (page pages : Nat) : Keyboard :=
  let fltRow := (["all","sub","exp","banned"] : List String).map fun key =>
    btn (.admUsers key.toList 0)
  kb (users.map (fun user => [btn (.admUser user)]) ++
    (if pages > 1 then [pageRow page pages (.admUsers flt)] else []) ++
    [fltRow.take 2,fltRow.drop 2,[btn .admFind,btn .admHome]])

/-- `exp` says whether the user has had a subscription. -/
def userView (uid : Int) (exp admin banned : Bool) : Keyboard :=
  kb ([[btn (.admGrant uid)] ++ (if exp then [btn (.admRevoke false uid)] else [])] ++
    (if admin then []
      else [[btn (.admBan (!banned) uid),btn (.admDeleteUser false uid)]]) ++
    [[btn (.admMessageUser uid),btn (.admUsers "all".toList 0)]])

def cbRevoke (uid : Int) : Keyboard := dangerConfirmKb (.admRevoke true uid) (.admUser uid)

def cbDeleteUser (uid : Int) : Keyboard := dangerConfirmKb (.admDeleteUser true uid) (.admUser uid)

def cbMode (cur : Text) : Keyboard :=
  let target := if cur = "paid".toList then "free".toList else "paid".toList
  kb [[btn (.admModeYes target)],[btn .admHome]]

def cbBroadcast : Keyboard :=
  kb [[btn (.admAudience "all".toList),btn (.admAudience "subs".toList)],[btn .admHome]]

def bcCapture : Keyboard := kb [[btn .admBcGo],[btn .admBroadcast]]

def cbChannels (channels : List Int) : Keyboard :=
  kb (channels.map (fun channel => [btn (.admChannelDel channel)]) ++
    [[btn .admChannelAdd,btn .admHome]])

def cbBackup : Keyboard := kb [[btn .admBackupNow,btn .admRestore],[btn .admHome]]

def restorePreview : Keyboard := kb [[btn .admRestoreGo],[btn .admBackup]]

def cbSessions (chats : List Int) : Keyboard :=
  kb (chats.map (fun chat => [btn (.admKill chat)]) ++ [[btn .admSessions,btn .admHome]])

def cbSettings : Keyboard :=
  kb [[btn (.admLive (-5)),btn (.admLive (-1)),btn (.admLive 1),btn (.admLive 5)],[btn .admHome]]

def granted (uid : Int) : Keyboard := kb [[btn (.admUser uid)],[btn .admHome]]

end AtronixX.Keyboards
