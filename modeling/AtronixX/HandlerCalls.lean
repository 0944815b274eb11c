import AtronixX.AdminHandlers

/-! Which calls the handlers make. Four of them are looked at elsewhere: the branch that saves a
host, the connection that is started and the task behind it, and the approved fingerprint.
Every other handler of a user writes his own rows only; the admin's are behind the guard. -/
namespace AtronixX.HandlerCalls
open Library.Programs Library.Tables Database PublicTarget Handlers AdminHandlers

/-- The statement touches rows of this user only, and not his subscription. -/
def OwnWrite (uid : Int) : Write → Prop
  | .insertUser id _ _ _ => id = uid
  | .updateSeen id _ _ _ => id = uid
  | .setLanguage id _ => id = uid
  | .acceptTerms id => id = uid
  | .setBanned id _ _ => id = uid
  | .markRequestNotified id => id = uid
  | .clearNotifyPending id => id = uid
  | .deleteUser id => id = uid
  | .updateHost _ owner _ => owner = uid
  | .deleteHost _ owner => owner = uid
  | .toggleFavorite _ owner => owner = uid
  | .setHostGroup _ owner _ => owner = uid
  | .addGroup owner _ => owner = uid
  | .deleteGroup _ owner => owner = uid
  | .addSnippet owner _ _ => owner = uid
  | .deleteSnippet _ owner => owner = uid
  | _ => False

section
variable (uid id target : Int)

@[simp] theorem ownWrite_insertUser (username firstName : Option String) (now : Int) :
    OwnWrite uid (.insertUser id username firstName now) ↔ id = uid := Iff.rfl

@[simp] theorem ownWrite_updateSeen (username firstName : Option String) (now : Int) :
    OwnWrite uid (.updateSeen id username firstName now) ↔ id = uid := Iff.rfl

@[simp] theorem ownWrite_setLanguage (lang : String) :
    OwnWrite uid (.setLanguage id lang) ↔ id = uid := Iff.rfl

@[simp] theorem ownWrite_acceptTerms :
    OwnWrite uid (.acceptTerms id) ↔ id = uid := Iff.rfl

@[simp] theorem ownWrite_setBanned (banned : Bool) (reason : Option String) :
    OwnWrite uid (.setBanned id banned reason) ↔ id = uid := Iff.rfl

@[simp] theorem ownWrite_markRequestNotified :
    OwnWrite uid (.markRequestNotified id) ↔ id = uid := Iff.rfl

@[simp] theorem ownWrite_clearNotifyPending :
    OwnWrite uid (.clearNotifyPending id) ↔ id = uid := Iff.rfl

@[simp] theorem ownWrite_deleteUser :
    OwnWrite uid (.deleteUser id) ↔ id = uid := Iff.rfl

@[simp] theorem ownWrite_updateHost (fields : List Storage.HostField) :
    OwnWrite uid (.updateHost target id fields) ↔ id = uid := Iff.rfl

@[simp] theorem ownWrite_deleteHost :
    OwnWrite uid (.deleteHost target id) ↔ id = uid := Iff.rfl

@[simp] theorem ownWrite_toggleFavorite :
    OwnWrite uid (.toggleFavorite target id) ↔ id = uid := Iff.rfl

@[simp] theorem ownWrite_setHostGroup (groupId : Option Int) :
    OwnWrite uid (.setHostGroup target id groupId) ↔ id = uid := Iff.rfl

@[simp] theorem ownWrite_addGroup (name : String) :
    OwnWrite uid (.addGroup id name) ↔ id = uid := Iff.rfl

@[simp] theorem ownWrite_deleteGroup :
    OwnWrite uid (.deleteGroup target id) ↔ id = uid := Iff.rfl

@[simp] theorem ownWrite_addSnippet (name command : String) :
    OwnWrite uid (.addSnippet id name command) ↔ id = uid := Iff.rfl

@[simp] theorem ownWrite_deleteSnippet :
    OwnWrite uid (.deleteSnippet target id) ↔ id = uid := Iff.rfl

end

/-- Tasks that touch neither the database nor the registry's approvals. -/
def Harmless : Task → Prop
  | .dispatchPending _ => True
  | .download => True
  | .upload => True
  | _ => False

variable (admin uid : Int)

def Ordinary : (α : Type) → Effect α → Prop
  | _,.write statement => uid ≠ admin → OwnWrite uid statement
  | _,.addHost _ => False
  | _,.popPending chatId => uid ≠ admin → chatId = uid
  | _,.clearPending => uid = admin
  | _,.setPending _ => False
  | _,.createTask task => uid ≠ admin → Harmless task
  | _,.restoreBackup _ _ => uid = admin
  | _,_ => True

section
variable {admin uid}
variable {α : Type}

@[simp] theorem ordinary_select (query : Tables → α) : Ordinary admin uid α (.select query) := trivial

@[simp] theorem ordinary_ask (read : Reply → α) : Ordinary admin uid α (.ask read) := trivial

@[simp] theorem ordinary_raise : Ordinary admin uid α .raise := trivial

@[simp] theorem ordinary_flow : Ordinary admin uid _ .flow := trivial

@[simp] theorem ordinary_setFlow (flow : Option Flow) : Ordinary admin uid _ (.setFlow flow) := trivial

@[simp] theorem ordinary_write (statement : Write) : Ordinary admin uid _ (.write statement) ↔
    (uid ≠ admin → OwnWrite uid statement) := Iff.rfl

@[simp] theorem ordinary_popPending (chatId : Int) : Ordinary admin uid _ (.popPending chatId) ↔
    (uid ≠ admin → chatId = uid) := Iff.rfl

@[simp] theorem ordinary_clearPending : Ordinary admin uid _ .clearPending ↔ uid = admin := Iff.rfl

@[simp] theorem ordinary_createTask (task : Task) : Ordinary admin uid _ (.createTask task) ↔
    (uid ≠ admin → Harmless task) := Iff.rfl

@[simp] theorem ordinary_restoreBackup (blob : Library.Sealed.Bytes) (passphrase : Text) :
    Ordinary admin uid _ (.restoreBackup blob passphrase) ↔ uid = admin := Iff.rfl

end

def Calls {α : Type} (handler : Handler α) : Prop :=
  handler.Every (Ordinary admin uid) fun _ => True

@[simp] def inserts : Write → Bool
  | .addGroup _ _ => true
  | .addSnippet _ _ _ => true
  | _ => false

@[simp] def adds : Flow → Bool
  | .snipAdd _ => true
  | .grpAdd => true
  | _ => false

/-- Without `flows` no flow is set at all. -/
def Plain (flows : Bool) : (α : Type) → Effect α → Prop
  | _,.write statement => inserts statement = false
  | _,.setFlow flow => flows = true ∧ flow.all (fun flow => !adds flow) = true
  | _,_ => True

def Tame (flows : Bool) {α : Type} (handler : Handler α) : Prop :=
  handler.Every (fun α effect => Ordinary admin uid α effect ∧ Plain flows α effect) fun _ => True

variable {admin uid} {flows : Bool}

section
variable {α β : Type}

theorem Tame.calls {handler : Handler α} (tame : Tame admin uid flows handler) :
    Calls admin uid handler :=
  Program.Every.weaken tame fun _ _ => And.left

theorem Tame.plain {handler : Handler α} (tame : Tame admin uid flows handler) :
    handler.Every (Plain flows) fun _ => True :=
  Program.Every.weaken tame fun _ _ => And.right

theorem Tame.bind {first : Handler α} {next : α → Handler β} (one : Tame admin uid flows first)
    (two : ∀ value, Tame admin uid flows (next value)) : Tame admin uid flows (first >>= next) :=
  (every_bind _ _ _).mpr (Program.Every.imp one fun value _ => two value)

@[simp] theorem tame_ite {condition : Prop} [Decidable condition] {one two : Handler α} :
    Tame admin uid flows (if condition then one else two) ↔
      (condition → Tame admin uid flows one) ∧ (¬condition → Tame admin uid flows two) :=
  every_ite

theorem Tame.optional {condition : Prop} [Decidable condition] {first : Handler Unit}
    {next : Unit → Handler β} (one : condition → Tame admin uid flows first)
    (two : Tame admin uid flows (next ())) :
    Tame admin uid flows (if condition then first >>= next else next ()) :=
  tame_ite.mpr ⟨fun holds => (one holds).bind fun _ => two,fun _ => two⟩

@[simp] theorem tame_pure (value : α) : Tame admin uid flows (pure value : Handler α) := trivial

private theorem forall_unit {holds : Unit → Prop} : (∀ answer, holds answer) ↔ holds () :=
  ⟨fun all => all (),fun one _ => one⟩

theorem tame_run (effect : Effect α) :
    Tame admin uid flows (Program.run effect) ↔
      Ordinary admin uid α effect ∧ Plain flows α effect := by
  simp [Tame]

theorem tame_run_bind (effect : Effect α) (next : α → Handler β) :
    Tame admin uid flows (Program.run effect >>= next) ↔
      (Ordinary admin uid α effect ∧ Plain flows α effect) ∧
        ∀ value, Tame admin uid flows (next value) := by
  simp [Tame]

@[simp] theorem tame_select_bind (query : Tables → α) (next : α → Handler β) :
    Tame admin uid flows (select query >>= next) ↔ ∀ value, Tame admin uid flows (next value) :=
  (tame_run_bind _ _).trans ⟨And.right,fun all => ⟨⟨trivial,trivial⟩,all⟩⟩

@[simp] theorem tame_ask_bind (read : Reply → α) (next : α → Handler β) :
    Tame admin uid flows (ask read >>= next) ↔ ∀ value, Tame admin uid flows (next value) :=
  (tame_run_bind _ _).trans ⟨And.right,fun all => ⟨⟨trivial,trivial⟩,all⟩⟩

@[simp] theorem tame_seconds_bind (next : Int → Handler β) :
    Tame admin uid flows (seconds >>= next) ↔ ∀ value, Tame admin uid flows (next value) :=
  tame_ask_bind _ _

@[simp] theorem tame_show_bind (next : Unit → Handler β) :
    Tame admin uid flows (show_ >>= next) ↔ Tame admin uid flows (next ()) :=
  (tame_ask_bind _ _).trans forall_unit

@[simp] theorem tame_getFlow_bind (next : Option Flow → Handler β) :
    Tame admin uid flows (getFlow >>= next) ↔ ∀ value, Tame admin uid flows (next value) :=
  (tame_run_bind _ _).trans ⟨And.right,fun all => ⟨⟨trivial,trivial⟩,all⟩⟩

@[simp] theorem tame_setFlow_bind (flow : Option Flow) (next : Unit → Handler β) :
    Tame admin uid true (setFlow flow >>= next) ↔
      flow.all (fun flow => !adds flow) = true ∧ Tame admin uid true (next ()) :=
  (tame_run_bind _ _).trans
    ⟨fun both => ⟨both.1.2.2,both.2 ()⟩,fun both => ⟨⟨trivial,rfl,both.1⟩,fun _ => both.2⟩⟩

@[simp] theorem tame_write_bind (statement : Write) (next : Unit → Handler β) :
    Tame admin uid flows (write statement >>= next) ↔
      ((uid ≠ admin → OwnWrite uid statement) ∧ inserts statement = false) ∧
        Tame admin uid flows (next ()) :=
  (tame_run_bind _ _).trans (and_congr_right fun _ => forall_unit)

@[simp] theorem tame_popPending_bind (chatId : Int) (next : Option PendingTrust → Handler β) :
    Tame admin uid flows (Program.run (.popPending chatId) >>= next) ↔
      (uid ≠ admin → chatId = uid) ∧ ∀ value, Tame admin uid flows (next value) :=
  (tame_run_bind _ _).trans
    ⟨fun both => ⟨both.1.1,both.2⟩,fun both => ⟨⟨both.1,trivial⟩,both.2⟩⟩

@[simp] theorem tame_select (query : Tables → α) : Tame admin uid flows (select query) :=
  (tame_run _).mpr ⟨trivial,trivial⟩

@[simp] theorem tame_ask (read : Reply → α) : Tame admin uid flows (ask read) :=
  (tame_run _).mpr ⟨trivial,trivial⟩

@[simp] theorem tame_show : Tame admin uid flows show_ := tame_ask _

theorem tame_getFlow : Tame admin uid flows getFlow := (tame_run _).mpr ⟨trivial,trivial⟩

@[simp] theorem tame_setFlow (flow : Option Flow) :
    Tame admin uid true (setFlow flow) ↔ flow.all (fun flow => !adds flow) = true :=
  (tame_run _).trans ⟨fun both => both.2.2,fun all => ⟨trivial,rfl,all⟩⟩

@[simp] theorem tame_raise : Tame admin uid flows (raise : Handler α) :=
  (tame_run _).mpr ⟨trivial,trivial⟩

@[simp] theorem tame_write (statement : Write) :
    Tame admin uid flows (write statement) ↔
      (uid ≠ admin → OwnWrite uid statement) ∧ inserts statement = false :=
  tame_run _

@[simp] theorem tame_createTask (task : Task) :
    Tame admin uid flows (createTask task) ↔ (uid ≠ admin → Harmless task) :=
  (tame_run _).trans (and_iff_left trivial)

end

theorem tame_resetChat : Tame admin uid flows (resetChat uid) := by
  simp [resetChat]

@[simp] theorem tame_showMain : Tame admin uid flows (showMain uid) := by
  simp [showMain]

@[simp] theorem tame_hostView (hid : Int) : Tame admin uid flows (hostView hid uid) := by
  simp [hostView]

theorem tame_ensureUser (username firstName : Option String) :
    Tame admin uid flows (ensureUser uid username firstName) := by
  simp only [ensureUser,tame_seconds_bind,tame_select_bind]
  intro now user
  cases user with
  | none => simp
  | some user => simp

theorem tame_missingChannels (channels : List ChannelRow) :
    Tame admin uid flows (missingChannels channels) := by
  induction channels with
  | nil => exact tame_pure _
  | cons channel channels ih =>
    simp only [missingChannels,tame_ask_bind]
    intro present
    exact ih.bind fun missing => tame_pure _

theorem tame_evaluate (user : UserRow) : Tame admin uid flows (evaluate admin uid user) := by
  simp only [evaluate,tame_ite,tame_select_bind,tame_ask_bind,tame_pure,implies_true,true_and]
  intro _ _ mode now _ _ channels
  exact (tame_missingChannels channels).bind fun missing => tame_pure _

theorem tame_refresh : Tame admin uid flows (refresh admin uid) := by
  simp only [refresh,tame_select_bind]
  intro user
  cases user with
  | none => exact tame_raise
  | some user =>
    refine (tame_evaluate user).bind fun reason => ?_
    cases reason with
    | none => exact tame_showMain
    | some reason => exact tame_show

theorem tame_sendActivation : Tame admin uid flows (sendActivation uid) := by
  simp only [sendActivation,tame_select_bind]
  intro user
  cases user with
  | none => exact tame_pure _
  | some user => simp

theorem tame_notifyAdminNewUser : Tame admin uid flows (notifyAdminNewUser uid) := by
  simp only [notifyAdminNewUser,tame_select_bind]
  intro mode
  cases mode with
  | free => exact tame_show
  | paid => simp

theorem tame_preCheck (username : Option String) (fullName : String) (data : Option Text) :
    Tame admin uid true (preCheck admin uid username fullName data) := by
  refine (tame_ensureUser username (some fullName)).bind ?_
  intro found
  obtain ⟨user,created⟩ := found
  cases user with
  | none => exact tame_raise
  | some user =>
    refine Tame.optional (fun _ => (tame_setFlow _).mpr rfl) ?_
    refine Tame.optional (fun _ => tame_notifyAdminNewUser) ?_
    refine (tame_evaluate user).bind fun reason => ?_
    cases reason with
    | none =>
      simp only [tame_ite,tame_pure,implies_true,and_true]
      intro _
      exact tame_sendActivation.bind fun _ => tame_pure _
    | some reason =>
      refine tame_ite.mpr ⟨fun _ => tame_pure _,fun _ => ?_⟩
      refine Tame.optional (fun _ => tame_notifyAdminNewUser) ?_
      exact (tame_show_bind _).mpr (tame_pure _)

theorem tame_cmdStart : Tame admin uid true (cmdStart uid) := by
  simp only [cmdStart,reset]
  exact Tame.bind ((tame_setFlow_bind _ _).mpr ⟨rfl,tame_resetChat⟩) fun _ => tame_showMain

theorem tame_cbLang : Tame admin uid true (cbLang admin uid) := by
  simp only [cbLang,tame_select_bind]
  intro user
  cases user with
  | none => exact tame_raise
  | some user => simp [tame_refresh]

theorem tame_cbTerms : Tame admin uid true (cbTerms admin uid) := by
  simp [cbTerms,tame_refresh]

theorem tame_cbJoinCheck : Tame admin uid true (cbJoinCheck admin uid) := by
  simp only [cbJoinCheck,tame_select_bind]
  intro user
  cases user with
  | none => exact tame_raise
  | some user =>
    refine (tame_evaluate user).bind fun reason => ?_
    split
    next => exact tame_show
    next => exact tame_refresh

theorem tame_cbAccount : Tame admin uid true (cbAccount uid) := by
  simp [cbAccount]

theorem tame_cbAccountDeleteYes (username : Option String) (fullName : String) :
    Tame admin uid true (cbAccountDeleteYes admin uid username fullName) := by
  simp only [cbAccountDeleteYes,tame_ite,tame_show,implies_true,true_and,tame_select_bind]
  intro _ user
  refine tame_resetChat.bind fun _ => ?_
  cases user with
  | none => exact tame_raise
  | some user =>
    simp only [tame_write_bind,tame_ite,tame_show,implies_true,and_true]
    refine ⟨⟨fun _ => rfl,rfl⟩,fun _ => ?_⟩
    refine (tame_ensureUser _ _).bind fun _ => ?_
    simp

theorem tame_cbList (gid : Int) : Tame admin uid true (cbList uid gid) := by
  simp [cbList]

theorem tame_cbFav (hid : Int) : Tame admin uid true (cbFav uid hid) := by
  simp [cbFav]

theorem tame_cbGroupPick : Tame admin uid true (cbGroupPick uid) := by
  simp [cbGroupPick]

theorem tame_cbSetGroup (hid gid : Int) : Tame admin uid true (cbSetGroup uid hid gid) := by
  simp only [cbSetGroup]
  have rest (group : Option GroupRow) : Tame admin uid true (do
      if gid = 0 ∨ group.isSome then
        write (.setHostGroup hid uid (if gid = 0 then none else some gid))
        else pure ()
      hostView hid uid) :=
    Tame.optional (fun _ => (tame_write _).mpr ⟨fun _ => rfl,rfl⟩) (tame_hostView hid)
  exact tame_ite.mpr ⟨fun _ => rest none,fun _ => (tame_select_bind _ _).mpr rest⟩

theorem tame_cbTest (hid : Int) : Tame admin uid true (cbTest uid hid) := by
  simp [cbTest]

theorem tame_cbHost (hid : Int) : Tame admin uid true (cbHost uid hid) := by
  simp [cbHost]

theorem tame_cbDeleteYes (hid : Int) : Tame admin uid true (cbDeleteYes uid hid) := by
  simp [cbDeleteYes]

theorem tame_cbEditField (hid : Int) (field : Text) :
    Tame admin uid true (cbEditField uid hid field) := by
  simp only [cbEditField,tame_select_bind]
  intro host
  split <;> simp

theorem tame_editText (setup : Wizard.Setup) (hid : Int) (field : Wizard.Field) (text : Text) :
    Tame admin uid true (editText setup uid hid field text) := by
  simp only [editText,tame_ask_bind]
  intro getaddrinfo nonces
  split <;> simp

theorem tame_limitReached : Tame admin uid true (limitReached admin uid) := by
  simp only [limitReached,tame_ite,tame_pure,implies_true,true_and,tame_select_bind]
  intro _ mode
  cases mode with
  | free => exact tame_pure _
  | paid =>
    simp only [tame_select_bind]
    intro user count
    cases user with
    | none => exact tame_raise
    | some user => exact tame_pure _

theorem tame_cbAdd : Tame admin uid true (cbAdd admin uid) := by
  refine tame_limitReached.bind fun reached => ?_
  simp

theorem tame_leave (turn : Wizard.Turn) : Tame admin uid true (leave turn) := by
  refine (tame_setFlow_bind _ _).mpr ⟨?_,?_⟩
  · cases turn.flow <;> rfl
  · simp

theorem tame_hostsFlowText (setup : Wizard.Setup) (text : Text) :
    Tame admin uid true (hostsFlowText setup uid text) := by
  simp only [hostsFlowText,tame_getFlow_bind]
  intro flow
  split
  next => exact (tame_editText ..).bind fun _ => tame_pure _
  next =>
    simp only [tame_ask_bind]
    intro getaddrinfo
    exact (tame_leave _).bind fun _ => tame_pure _
  next => exact tame_pure _

theorem tame_hostsFlowMedia (setup : Wizard.Setup) (size : Nat) :
    Tame admin uid true (hostsFlowMedia setup size) := by
  simp only [hostsFlowMedia,tame_getFlow_bind]
  intro flow
  split
  next =>
    simp only [tame_ask_bind]
    intro getaddrinfo content
    split
    next => exact tame_pure _
    next => exact (tame_leave _).bind fun _ => tame_pure _
  next => exact tame_pure _

@[simp] theorem tame_cbSnipList : Tame admin uid true (cbSnipList uid) := by
  simp [cbSnipList]

theorem tame_cbSnipView (sid : Int) : Tame admin uid true (cbSnipView uid sid) := by
  simp [cbSnipView]

theorem tame_cbSnipDel (sid : Int) (confirmed : Bool) :
    Tame admin uid true (cbSnipDel uid sid confirmed) := by
  simp [cbSnipDel]

theorem calls_cbSnipAdd : Calls admin uid (cbSnipAdd uid) := by
  simp [Calls,cbSnipAdd,select,show_,ask,setFlow,every_ite]

theorem tame_cbSnipRun (sid : Int) : Tame admin uid true (cbSnipRun uid sid) := by
  simp [cbSnipRun]

@[simp] theorem tame_cbGrpList : Tame admin uid true (cbGrpList uid) := by
  simp [cbGrpList]

theorem tame_cbGrpView (gid : Int) : Tame admin uid true (cbGrpView uid gid) := by
  simp [cbGrpView]

theorem tame_cbGrpDel (gid : Int) (confirmed : Bool) :
    Tame admin uid true (cbGrpDel uid gid confirmed) := by
  simp [cbGrpDel]

theorem calls_cbGrpAdd : Calls admin uid (cbGrpAdd uid) := by
  simp [Calls,cbGrpAdd,select,show_,ask,setFlow,every_ite]

theorem calls_toolsFlowText (text : Text) : Calls admin uid (toolsFlowText uid text) := by
  refine Program.Every.call trivial fun flow => ?_
  have shown : Tame admin uid true (do
      show_
      pure true) := (tame_show_bind _).mpr (tame_pure true)
  split
  next =>
    refine every_ite.mpr ⟨fun _ => shown.calls,fun _ => ?_⟩
    refine ⟨fun _ => rfl,fun _ => ⟨trivial,fun _ => ?_⟩⟩
    exact (tame_cbGrpList.bind fun _ => tame_pure true).calls
  next =>
    refine every_ite.mpr ⟨fun _ => shown.calls,fun _ => ?_⟩
    exact ⟨trivial,fun _ => shown.calls⟩
  next name =>
    refine every_ite.mpr ⟨fun _ => shown.calls,fun _ => ?_⟩
    refine ⟨fun _ => rfl,fun _ => ⟨trivial,fun _ => ?_⟩⟩
    exact (tame_cbSnipList.bind fun _ => tame_pure true).calls
  next => trivial

theorem tame_cbConnCancel : Tame admin uid true (cbConnCancel uid) := tame_showMain

theorem tame_cbTrustNo : Tame admin uid true (cbTrustNo uid) := by
  simp [cbTrustNo]

theorem tame_cbControlPad (action : Text) : Tame admin uid true (cbControlPad uid action) := by
  simp [cbControlPad]

theorem tame_cbNav (verb : Text) : Tame admin uid true (cbNav uid verb) := by
  simp [cbNav,Harmless]

theorem tame_sftpFlowText (text : Text) : Tame admin uid true (sftpFlowText text) := by
  simp only [sftpFlowText,tame_getFlow_bind]
  intro flow
  split
  next => simp
  next => exact tame_pure _

theorem tame_onUpload (size : Nat) : Tame admin uid true (onUpload size) := by
  simp only [onUpload,tame_ask_bind]
  intro browsing
  split
  next => exact tame_pure _
  next =>
    split
    next => exact (tame_show_bind _).mpr (tame_pure _)
    next => exact Tame.bind (by simp [Harmless]) fun _ => tame_pure _

theorem tame_guard {handler : Handler Unit} (behind : Tame admin admin true handler) :
    Tame admin uid true (guard_ admin uid handler) := by
  unfold guard_
  refine tame_ite.mpr ⟨?_,fun _ => tame_show⟩
  intro same
  subst same
  exact behind

@[simp] theorem tame_log (action : String) (target detail : Option String) :
    Tame admin admin flows (AdminHandlers.log action target detail) := by
  simp [AdminHandlers.log]

theorem tame_stats : Tame admin uid flows stats := by
  simp [stats]

theorem tame_homeView : Tame admin admin true homeView := by
  refine tame_stats.bind fun _ => ?_
  simp

theorem tame_cbUsers : Tame admin admin true cbUsers := by
  simp [cbUsers]

theorem tame_showUser (other : Int) : Tame admin admin true (showUser other) := by
  simp [showUser]

theorem tame_ensurePlaceholder (other : Int) : Tame admin admin true (ensurePlaceholder other) := by
  simp only [ensurePlaceholder,tame_select_bind]
  intro user
  cases user with
  | none => simp
  | some user => exact tame_pure _

theorem tame_resetOther (other : Int) : Tame admin admin true (resetChat other) := by
  simp [resetChat]

theorem tame_cbBan (banning : Bool) (other : Int) :
    Tame admin admin true (cbBan admin banning other) := by
  refine tame_ite.mpr ⟨fun _ => tame_show,fun _ => ?_⟩
  refine (tame_ensurePlaceholder other).bind fun _ => ?_
  refine (tame_write_bind _ _).mpr ⟨⟨fun differs => absurd rfl differs,rfl⟩,?_⟩
  refine (tame_log _ _ _).bind fun _ => ?_
  refine tame_ite.mpr ⟨fun _ => ?_,fun _ => tame_showUser other⟩
  refine (tame_resetOther other).bind fun _ => ?_
  simp [tame_showUser]

theorem tame_enforceAccess : Tame admin uid flows enforceAccess := by
  simp [enforceAccess]

theorem tame_cbRevoke (confirmed : Bool) (other : Int) :
    Tame admin admin true (cbRevoke confirmed other) := by
  refine tame_ite.mpr ⟨fun _ => ?_,fun _ => tame_show⟩
  refine (tame_write_bind _ _).mpr ⟨⟨fun differs => absurd rfl differs,rfl⟩,?_⟩
  exact (tame_log _ _ _).bind fun _ => tame_enforceAccess.bind fun _ => tame_showUser other

theorem tame_cbDeleteUser (confirmed : Bool) (other : Int) :
    Tame admin admin true (cbDeleteUser admin confirmed other) := by
  refine tame_ite.mpr ⟨fun _ => tame_show,fun _ => ?_⟩
  refine tame_ite.mpr ⟨fun _ => ?_,fun _ => tame_show⟩
  refine (tame_resetOther other).bind fun _ => ?_
  refine (tame_write_bind _ _).mpr ⟨⟨fun differs => absurd rfl differs,rfl⟩,?_⟩
  exact (tame_log _ _ _).bind fun _ => tame_show

theorem tame_askFor {flow : Flow} (plain : adds flow = false) :
    Tame admin admin true (askFor flow) := by
  refine (tame_show_bind _).mpr ((tame_setFlow _).mpr ?_)
  simp only [Option.all_some,plain,Bool.not_false]

theorem tame_cbModeYes (new : Text) : Tame admin admin true (cbModeYes new) := by
  refine (tame_write_bind _ _).mpr ⟨⟨fun differs => absurd rfl differs,rfl⟩,?_⟩
  refine (tame_log _ _ _).bind fun _ => tame_enforceAccess.bind fun _ => tame_show

theorem tame_cbMode : Tame admin admin true cbMode := by
  simp [cbMode]

theorem tame_bcCapture (audience : Text) : Tame admin admin true (bcCapture audience) := by
  simp [bcCapture]

theorem tame_cbBcGo : Tame admin admin true cbBcGo := by
  simp only [cbBcGo,tame_ask_bind,tame_getFlow_bind]
  intro running flow
  split
  next => simp
  next => exact tame_show

theorem tame_broadcast : Tame admin admin flows broadcast := by
  simp only [broadcast,tame_ask_bind]
  intro sent
  exact (tame_log _ _ _).bind fun _ => tame_show

theorem tame_cbChannels : Tame admin admin true cbChannels := by
  simp [cbChannels]

theorem tame_cbChannelDelete (cid : Int) : Tame admin admin true (cbChannelDelete cid) := by
  refine (tame_write_bind _ _).mpr ⟨⟨fun differs => absurd rfl differs,rfl⟩,?_⟩
  exact (tame_log _ _ _).bind fun _ => tame_cbChannels

theorem tame_channelInput : Tame admin admin true channelInput := by
  simp only [channelInput,tame_ask_bind]
  intro channel
  cases channel with
  | none => exact tame_show
  | some channel =>
    refine (tame_write_bind _ _).mpr ⟨⟨fun differs => absurd rfl differs,rfl⟩,?_⟩
    refine (tame_log _ _ _).bind fun _ => ?_
    exact (tame_setFlow_bind _ _).mpr ⟨rfl,tame_cbChannels⟩

theorem tame_cbBackup : Tame admin admin true cbBackup := by
  simp [cbBackup]

theorem tame_sendBackup (manual : Bool) : Tame admin admin flows (sendBackup manual) := by
  refine (tame_select_bind _ _).mpr fun _ => ?_
  refine tame_stats.bind fun _ => ?_
  simp

theorem tame_restorePreview (blob : Library.Sealed.Bytes) (passphrase : Text) :
    Tame admin admin true (restorePreview blob passphrase) := by
  simp [restorePreview]

theorem tame_cbRestoreGo : Tame admin admin true cbRestoreGo := by
  simp only [cbRestoreGo,tame_getFlow_bind]
  intro flow
  split
  next =>
    refine (tame_setFlow_bind _ _).mpr ⟨rfl,(tame_show_bind _).mpr ?_⟩
    refine (tame_run_bind _ _).mpr ⟨⟨rfl,trivial⟩,fun _ => ?_⟩
    refine (tame_run_bind _ _).mpr ⟨⟨rfl,trivial⟩,fun _ => ?_⟩
    exact (tame_log _ _ _).bind fun _ => tame_show
  next => exact tame_show

theorem tame_cbSessions : Tame admin admin true cbSessions := by
  simp [cbSessions]

theorem tame_cbKill (chatId : Int) : Tame admin admin true (cbKill chatId) := by
  simp only [cbKill,tame_select_bind,tame_ask_bind]
  intro user live
  exact Tame.optional (fun _ => tame_log _ _ _) tame_cbSessions

theorem tame_cbSettings : Tame admin admin true cbSettings := by
  simp [cbSettings]

theorem tame_cbLive (change : Int) : Tame admin admin true (cbLive change) := by
  simp only [cbLive,tame_select_bind,tame_ask_bind,tame_write_bind]
  intro setting cur
  exact ⟨⟨fun differs => absurd rfl differs,rfl⟩,(tame_log _ _ _).bind fun _ => tame_show⟩

theorem tame_cbLog : Tame admin admin true cbLog := by
  simp [cbLog]

theorem tame_grant (other days maxHosts : Int) : Tame admin admin true (grant other days maxHosts) := by
  simp only [grant,tame_seconds_bind,tame_select_bind]
  intro now user
  cases user with
  | some user => simp
  | none =>
    simp only [tame_write_bind,tame_select_bind]
    refine ⟨⟨fun differs => absurd rfl differs,rfl⟩,?_⟩
    intro user
    cases user with
    | none => exact tame_raise.bind fun _ => by simp
    | some user => simp

theorem tame_sendActivationOther (other : Int) : Tame admin admin true (sendActivation other) := by
  simp only [sendActivation,tame_select_bind]
  intro user
  cases user with
  | none => exact tame_pure _
  | some user => simp

theorem tame_message (other : Int) : Tame admin admin true (message other) := by
  simp [message]

theorem tame_flowInput (unicode : Library.Numerals.Unicode) (text : Text) (flow : Flow) :
    Tame admin admin true (flowInput unicode text flow) := by
  cases flow with
  | admBc audience payload => exact tame_bcCapture audience
  | admChadd => exact tame_channelInput
  | admFind =>
    simp only [flowInput]
    split
    next => exact tame_show
    next => exact (tame_setFlow_bind _ _).mpr ⟨rfl,tame_showUser _⟩
  | admGrantId =>
    simp only [flowInput]
    split <;> simp
  | admGrantDays other =>
    simp only [flowInput]
    split <;> simp
  | admGrantHosts other days =>
    simp only [flowInput]
    split
    next => exact tame_show
    next =>
      refine (tame_setFlow_bind _ _).mpr ⟨rfl,?_⟩
      refine (tame_grant _ _ _).bind fun _ => ?_
      refine (tame_log _ _ _).bind fun _ => ?_
      exact (tame_sendActivationOther other).bind fun _ => tame_show
  | admMsg other =>
    refine (tame_setFlow_bind _ _).mpr ⟨rfl,?_⟩
    exact (tame_message other).bind fun _ => tame_show
  | admRsPass blob => exact tame_restorePreview blob text
  | addHost => exact tame_show
  | editHost => exact tame_show
  | snipAdd => exact tame_show
  | grpAdd => exact tame_show
  | sftpMkdir => exact tame_show
  | admRsFile => exact tame_show
  | admRsReady => exact tame_show

theorem tame_flowText (unicode : Library.Numerals.Unicode) (text : Text) :
    Tame admin uid true (flowText admin unicode uid text) := by
  simp only [flowText,tame_getFlow_bind]
  intro flow
  cases flow with
  | none => exact tame_pure _
  | some flow =>
    refine tame_ite.mpr ⟨fun _ => tame_pure _,fun _ => ?_⟩
    refine tame_ite.mpr ⟨fun _ => (tame_setFlow_bind _ _).mpr ⟨rfl,tame_pure _⟩,?_⟩
    intro same
    obtain rfl := not_ne_iff.mp same
    exact (tame_flowInput _ _ _).bind fun _ => tame_pure _

theorem tame_flowMedia (file : Option Nat) (backupPassphrase : Text) :
    Tame admin uid true (flowMedia admin uid file backupPassphrase) := by
  simp only [flowMedia,tame_getFlow_bind]
  intro flow
  cases flow with
  | none => exact tame_pure _
  | some flow =>
    refine tame_ite.mpr ⟨fun _ => tame_pure _,?_⟩
    intro same
    obtain rfl := not_ne_iff.mp same
    split
    next => exact tame_channelInput.bind fun _ => tame_pure _
    next => exact (tame_bcCapture _).bind fun _ => tame_pure _
    next =>
      refine tame_ite.mpr ⟨fun _ => (tame_show_bind _).mpr (tame_pure _),fun _ => ?_⟩
      simp only [tame_ask_bind]
      intro blob
      cases blob with
      | none => exact (tame_show_bind _).mpr (tame_pure _)
      | some blob => exact (tame_restorePreview _ _).bind fun _ => tame_pure _
    next => exact tame_pure _

theorem tame_notice (now : Rat) (other : Int) (user : UserRow) (exp : Int) :
    Tame admin admin flows (notice admin now other user exp) := by
  simp [notice]

theorem tame_notices (now : Rat) (users : List (Int × UserRow × Int)) :
    Tame admin admin flows (notices admin now users) := by
  induction users with
  | nil => exact tame_pure _
  | cons user users ih => exact (tame_notice now _ _ _).bind fun _ => ih

theorem tame_backupDue : Tame admin admin flows backupDue := by
  simp only [backupDue,tame_seconds_bind,tame_select_bind]
  intro now last
  cases last with
  | none => simp
  | some last => simp [tame_sendBackup]

theorem tame_tick : Tame admin admin flows (tick admin) := by
  refine tame_enforceAccess.bind fun _ => ?_
  refine Tame.bind ?_ fun _ => tame_backupDue
  simp only [subscriptionNotices,tame_select_bind]
  intro mode
  cases mode with
  | free => exact tame_pure _
  | paid =>
    simp only [tame_ask_bind,tame_select_bind]
    exact fun now users => tame_notices now users

section
variable (config : Config) (uid : Int) (holds : ∀ α : Type, Handler α → Prop)

structure Cases : Prop where
  bind : ∀ {α β : Type} {first : Handler α} {next : α → Handler β}, holds α first →
    (∀ value, holds β (next value)) → holds β (first >>= next)
  tame : ∀ {α : Type} {handler : Handler α}, Tame config.admin uid true handler → holds α handler
  save : ∀ flow, holds _ (saveHost config.admin uid flow)
  start : ∀ hid kind, holds _ (startAction uid hid kind)
  trust : holds _ (cbTrustYes uid)
  snippet : holds _ (cbSnipAdd uid)
  group : holds _ (cbGrpAdd uid)
  tools : ∀ text, holds _ (toolsFlowText uid text)

variable {config uid holds}

private theorem holds_ite {α : Type} {condition : Prop} [Decidable condition]
    {one two : Handler α} (yes : condition → holds α one) (no : ¬condition → holds α two) :
    holds α (if condition then one else two) := by
  split
  next holds => exact yes holds
  next fails => exact no fails

variable (cases : Cases config uid holds)
include cases

theorem Cases.wizard (action : Text) : holds _ (cbWizard config.admin uid action) := by
  refine cases.bind (cases.tame tame_getFlow) fun flow => ?_
  split
  next =>
    refine cases.bind (cases.tame (tame_ask _)) fun mid => ?_
    refine holds_ite (fun _ => cases.save _) fun _ => cases.tame ?_
    exact (tame_ask_bind _ _).mpr fun allowed => tame_leave _
  next => exact cases.tame tame_showMain

theorem Cases.press (update : Update) (press : Callbacks.Press) :
    holds _ (handlePress config uid update press) := by
  cases press with
  | menuHome => exact cases.tame tame_cmdStart
  | noop => exact cases.tame tame_show
  | lang => exact cases.tame tame_cbLang
  | terms => exact cases.tame tame_cbTerms
  | joinCheck => exact cases.tame tame_cbJoinCheck
  | account => exact cases.tame tame_cbAccount
  | accountDelete => exact cases.tame tame_show
  | accountDeleteYes => exact cases.tame (tame_cbAccountDeleteYes _ _)
  | menuHosts => exact cases.tame (tame_cbList 0)
  | hostList gid page => exact cases.tame (tame_cbList gid)
  | view hid => exact cases.tame (tame_hostView hid)
  | fav hid => exact cases.tame (tame_cbFav hid)
  | groupPick hid => exact cases.tame tame_cbGroupPick
  | setGroup hid gid => exact cases.tame (tame_cbSetGroup hid gid)
  | test hid => exact cases.tame (tame_cbTest hid)
  | delete hid => exact cases.tame (tame_cbHost hid)
  | deleteYes hid => exact cases.tame (tame_cbDeleteYes hid)
  | edit hid => exact cases.tame (tame_cbHost hid)
  | editField hid field => exact cases.tame (tame_cbEditField hid field)
  | add => exact cases.tame tame_cbAdd
  | wizard action => exact cases.wizard action
  | connect kind hid => exact cases.start hid kind
  | connCancel => exact cases.tame tame_cbConnCancel
  | trustYes => exact cases.trust
  | trustNo => exact cases.tame tame_cbTrustNo
  | controlPad action => exact cases.tame (tame_cbControlPad action)
  | nav verb index => exact cases.tame (tame_cbNav verb)
  | snipList => exact cases.tame tame_cbSnipList
  | snipView sid => exact cases.tame (tame_cbSnipView sid)
  | snipDel confirmed sid => exact cases.tame (tame_cbSnipDel sid confirmed)
  | snipAdd => exact cases.snippet
  | snipRun sid => exact cases.tame (tame_cbSnipRun sid)
  | snipClose => exact cases.tame tame_show
  | grpList => exact cases.tame tame_cbGrpList
  | grpView gid => exact cases.tame (tame_cbGrpView gid)
  | grpDel confirmed gid => exact cases.tame (tame_cbGrpDel gid confirmed)
  | grpAdd => exact cases.group
  | admHome => exact cases.tame (tame_guard tame_homeView)
  | admStats => exact cases.tame (tame_guard tame_homeView)
  | admUsers kind page => exact cases.tame (tame_guard tame_cbUsers)
  | admUser other => exact cases.tame (tame_guard (tame_showUser other))
  | admBan banning other => exact cases.tame (tame_guard (tame_cbBan banning other))
  | admRevoke confirmed other => exact cases.tame (tame_guard (tame_cbRevoke confirmed other))
  | admDeleteUser confirmed other => exact cases.tame (tame_guard (tame_cbDeleteUser confirmed other))
  | admGrantNew => exact cases.tame (tame_guard (tame_askFor rfl))
  | admGrant other => exact cases.tame (tame_guard (tame_askFor rfl))
  | admFind => exact cases.tame (tame_guard (tame_askFor rfl))
  | admMessageUser other => exact cases.tame (tame_guard (tame_askFor rfl))
  | admMode => exact cases.tame (tame_guard tame_cbMode)
  | admModeYes new => exact cases.tame (tame_guard (tame_cbModeYes new))
  | admBroadcast => exact cases.tame (tame_guard tame_show)
  | admAudience audience => exact cases.tame (tame_guard (tame_askFor rfl))
  | admBcGo => exact cases.tame (tame_guard tame_cbBcGo)
  | admChannels => exact cases.tame (tame_guard tame_cbChannels)
  | admChannelDel cid => exact cases.tame (tame_guard (tame_cbChannelDelete cid))
  | admChannelAdd => exact cases.tame (tame_guard (tame_askFor rfl))
  | admBackup => exact cases.tame (tame_guard tame_cbBackup)
  | admBackupNow =>
    exact cases.tame (tame_guard ((tame_createTask _).mpr fun differs => absurd rfl differs))
  | admRestore => exact cases.tame (tame_guard (tame_askFor rfl))
  | admRestoreGo => exact cases.tame (tame_guard tame_cbRestoreGo)
  | admSessions => exact cases.tame (tame_guard tame_cbSessions)
  | admKill chatId => exact cases.tame (tame_guard (tame_cbKill chatId))
  | admSettings => exact cases.tame (tame_guard tame_cbSettings)
  | admLive change => exact cases.tame (tame_guard (tame_cbLive change))
  | admLog => exact cases.tame (tame_guard tame_cbLog)

theorem Cases.text (text : Text) : holds _ (onText config uid text) := by
  refine cases.bind (cases.tame (tame_hostsFlowText _ _)) fun taken => ?_
  refine holds_ite (fun _ => cases.tame (tame_pure _)) fun _ => ?_
  refine cases.bind (cases.tools text) fun taken => ?_
  refine holds_ite (fun _ => cases.tame (tame_pure _)) fun _ => cases.tame ?_
  refine (tame_sftpFlowText _).bind fun taken => tame_ite.mpr ⟨fun _ => tame_pure _,fun _ => ?_⟩
  refine (tame_flowText _ _).bind fun taken => tame_ite.mpr ⟨fun _ => tame_pure _,fun _ => ?_⟩
  refine (tame_ask _).bind fun taken => tame_ite.mpr ⟨fun _ => tame_pure _,fun _ => ?_⟩
  exact tame_showMain

theorem Cases.document (size : Nat) : holds _ (onDocument config uid size) := by
  apply cases.tame
  refine (tame_hostsFlowMedia _ _).bind fun taken => tame_ite.mpr ⟨fun _ => tame_pure _,fun _ => ?_⟩
  refine (tame_flowMedia _ _).bind fun taken => tame_ite.mpr ⟨fun _ => tame_pure _,fun _ => ?_⟩
  refine (tame_onUpload _).bind fun taken => tame_ite.mpr ⟨fun _ => tame_pure _,fun _ => ?_⟩
  exact tame_show

theorem Cases.photo : holds _ (onPhoto config uid) := by
  apply cases.tame
  refine (tame_flowMedia _ _).bind fun taken => tame_ite.mpr ⟨fun _ => tame_pure _,fun _ => ?_⟩
  exact tame_show

theorem Cases.deliver (update : Update) :
    holds _ (deliver config uid update) := by
  unfold AdminHandlers.deliver
  split
  next =>
    split
    next => exact cases.tame (tame_pure _)
    next =>
      split
      next => exact cases.tame tame_raise
      next press _ => exact cases.press update press
  next => exact cases.tame tame_cmdStart
  next => exact cases.tame tame_show
  next => exact cases.tame tame_cmdStart
  next content _ => exact cases.text content
  next size _ => exact cases.document size
  next => exact cases.photo

theorem Cases.process (update : Update) :
    holds _ (process config uid update) := by
  refine cases.bind (cases.tame (tame_preCheck _ _ _)) fun passed => ?_
  exact holds_ite (fun _ => cases.deliver update) fun _ => cases.tame (tame_pure _)

end

section
variable {κ : Type} (perform : ∀ β, Actor → Effect β → Reply → World κ → Option (β × World κ))
variable (config : Config) (actor : Actor) (inv : World κ → Prop)
variable (rely guar : World κ → World κ → Prop)

/-- The handler keeps to the guarantee wherever it starts. -/
def Kept {α : Type} (handler : Handler α) : Prop :=
  ∀ world, Keeps perform actor inv rely guar handler (fun _ _ => True) world

variable {perform config actor inv rely guar}

theorem Kept.bind {α β : Type} {first : Handler α} {next : α → Handler β}
    (one : Kept perform actor inv rely guar first)
    (two : ∀ value, Kept perform actor inv rely guar (next value)) :
    Kept perform actor inv rely guar (first >>= next) := by
  intro world
  apply Keeps.bind
  apply (one world).imp
  intro value world _
  exact two value world

theorem kept_ite {α : Type} {condition : Prop} [Decidable condition] {one two : Handler α}
    (yes : condition → Kept perform actor inv rely guar one)
    (no : ¬condition → Kept perform actor inv rely guar two) :
    Kept perform actor inv rely guar (if condition then one else two) := by
  split
  next holds => exact yes holds
  next fails => exact no fails

variable (perform config inv) (uid : Int) (rely guar)

structure Kinds : Prop where
  ordinary : ∀ {α : Type} (handler : Handler α), Calls config.admin uid handler →
    Kept perform (.update uid) inv rely guar handler
  save : ∀ flow, Kept perform (.update uid) inv rely guar (saveHost config.admin uid flow)
  start : ∀ hid kind, Kept perform (.update uid) inv rely guar (startAction uid hid kind)
  trust : Kept perform (.update uid) inv rely guar (cbTrustYes uid)

variable {perform config inv uid rely guar} (kinds : Kinds perform config inv rely guar uid)
include kinds

theorem Kinds.cases : Cases config uid fun _ handler =>
    Kept perform (.update uid) inv rely guar handler where
  bind := Kept.bind
  tame tame := kinds.ordinary _ tame.calls
  save := kinds.save
  start := kinds.start
  trust := kinds.trust
  snippet := kinds.ordinary _ calls_cbSnipAdd
  group := kinds.ordinary _ calls_cbGrpAdd
  tools text := kinds.ordinary _ (calls_toolsFlowText text)

end

end AtronixX.HandlerCalls
