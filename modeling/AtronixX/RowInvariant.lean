import AtronixX.HostQuota
import AtronixX.RowContracts

/-! Every handler, task and tick writes rows as they should be, so the tables are well formed in
every state that the bot comes to. -/
namespace AtronixX.RowInvariant
open Library.Transition Library.Programs Library.Contracts Library.Text Database PublicTarget
open Handlers AdminHandlers Rows RowContracts

variable {kinds : Text → Prop}

section
variable (uid : Int)

@[simp] theorem fair_resetChat : Fair kinds (resetChat uid) := by
  simp [resetChat]

@[simp] theorem fair_showMain : Fair kinds (showMain uid) := by
  simp [showMain]

@[simp] theorem fair_hostView (hid : Int) : Fair kinds (hostView hid uid) := by
  simp [hostView]

theorem fair_ensureUser (username firstName : Option String) :
    Fair kinds (ensureUser uid username firstName) := by
  simp only [ensureUser,fair_seconds_bind,fair_select_bind]
  intro now tables _
  cases getUser uid tables with
  | none => simp [WriteFine]
  | some user => simp [WriteFine]

theorem fair_missingChannels (channels : List ChannelRow) :
    Fair kinds (missingChannels channels) := by
  induction channels with
  | nil => exact fair_pure _
  | cons channel channels ih =>
    simp only [missingChannels,fair_ask_bind]
    intro present
    exact ih.bind fun missing => fair_pure _

variable (admin : Int)

theorem fair_evaluate (user : UserRow) : Fair kinds (evaluate admin uid user) := by
  simp only [evaluate,fair_ite,fair_select_bind,fair_ask_bind,fair_pure,implies_true,true_and]
  intro _ _ tables _ now _ _ tables' _
  exact (fair_missingChannels _).bind fun missing => fair_pure _

theorem fair_refresh : Fair kinds (refresh admin uid) := by
  simp only [refresh,fair_select_bind]
  intro tables _
  cases getUser uid tables with
  | none => exact fair_raise
  | some user =>
    refine (fair_evaluate uid admin user).bind fun reason => ?_
    cases reason with
    | none => exact fair_showMain uid
    | some reason => exact fair_show

theorem fair_sendActivation : Fair kinds (sendActivation uid) := by
  simp only [sendActivation,fair_select_bind]
  intro tables _
  cases getUser uid tables with
  | none => exact fair_pure _
  | some user => simp [WriteFine]

theorem fair_notifyAdminNewUser : Fair kinds (notifyAdminNewUser uid) := by
  simp only [notifyAdminNewUser,fair_select_bind]
  intro tables _
  cases getMode tables with
  | free => exact fair_show
  | paid => simp [WriteFine]

theorem fair_preCheck (username : Option String) (fullName : String) (data : Option Text) :
    Fair kinds (preCheck admin uid username fullName data) := by
  refine (fair_ensureUser uid username (some fullName)).bind ?_
  intro found
  obtain ⟨user,created⟩ := found
  cases user with
  | none => exact fair_raise
  | some user =>
    refine Fair.optional (fun _ => by simp) ?_
    refine Fair.optional (fun _ => fair_notifyAdminNewUser uid) ?_
    refine (fair_evaluate uid admin user).bind fun reason => ?_
    cases reason with
    | none =>
      refine fair_ite.mpr ⟨fun _ => ?_,fun _ => fair_pure _⟩
      exact (fair_sendActivation uid).bind fun _ => fair_pure _
    | some reason =>
      refine fair_ite.mpr ⟨fun _ => fair_pure _,fun _ => ?_⟩
      refine Fair.optional (fun _ => fair_notifyAdminNewUser uid) ?_
      exact (fair_show_bind _).mpr (fair_pure _)

theorem fair_cmdStart : Fair kinds (cmdStart uid) := by
  simp only [cmdStart,reset]
  exact Fair.bind (by simp) fun _ => fair_showMain uid

theorem fair_cbLang : Fair kinds (cbLang admin uid) := by
  simp only [cbLang,fair_select_bind]
  intro tables _
  cases getUser uid tables with
  | none => exact fair_raise
  | some user =>
    refine (fair_write_bind _ _).mpr ⟨?_,fair_refresh uid admin⟩
    change (if user.language = "fa" then "en" else "fa") = "fa" ∨ _ = "en"
    split <;> simp

theorem fair_cbTerms : Fair kinds (cbTerms admin uid) := by
  simp [cbTerms,WriteFine,fair_refresh]

theorem fair_cbJoinCheck : Fair kinds (cbJoinCheck admin uid) := by
  simp only [cbJoinCheck,fair_select_bind]
  intro tables _
  cases getUser uid tables with
  | none => exact fair_raise
  | some user =>
    refine (fair_evaluate uid admin user).bind fun reason => ?_
    split
    next => exact fair_show
    next => exact fair_refresh uid admin

theorem fair_cbAccount : Fair kinds (cbAccount uid) := by
  simp [cbAccount]

theorem fair_cbAccountDeleteYes (username : Option String) (fullName : String) :
    Fair kinds (cbAccountDeleteYes admin uid username fullName) := by
  refine fair_ite.mpr ⟨fun _ => fair_show,fun _ => ?_⟩
  refine (fair_select _).bind fun user => ?_
  refine (fair_resetChat uid).bind fun _ => ?_
  cases user with
  | none => exact fair_raise
  | some user =>
    refine (fair_write_bind _ _).mpr ⟨trivial,fair_ite.mpr ⟨fun _ => ?_,fun _ => fair_show⟩⟩
    exact (fair_ensureUser uid _ _).bind fun _ => by simp [WriteFine]

end

section
variable (uid admin : Int) (setup : Wizard.Setup)

theorem fair_cbList (gid : Int) : Fair kinds (cbList uid gid) := by
  simp [cbList]

theorem fair_cbFav (hid : Int) : Fair kinds (cbFav uid hid) := by
  simp [cbFav,WriteFine]

theorem fair_cbGroupPick : Fair kinds (cbGroupPick uid) := by
  simp [cbGroupPick]

theorem fair_cbSetGroup (hid gid : Int) : Fair kinds (cbSetGroup uid hid gid) := by
  have rest (group : Option GroupRow) : Fair kinds (do
      if gid = 0 ∨ group.isSome then
        write (.setHostGroup hid uid (if gid = 0 then none else some gid))
        else pure ()
      hostView hid uid) :=
    Fair.optional (fun _ => (fair_write _).mpr trivial) (fair_hostView uid hid)
  exact fair_ite.mpr ⟨fun _ => rest none,fun _ => (fair_select _).bind rest⟩

theorem fair_cbTest (hid : Int) : Fair kinds (cbTest uid hid) := by
  simp [cbTest]

theorem fair_cbHost (hid : Int) : Fair kinds (cbHost uid hid) := by
  simp [cbHost]

theorem fair_cbDeleteYes (hid : Int) : Fair kinds (cbDeleteYes uid hid) := by
  simp [cbDeleteYes,WriteFine]

theorem fair_cbEditField (hid : Int) (field : Text) : Fair kinds (cbEditField uid hid field) := by
  refine (fair_select _).bind fun host => ?_
  split
  next => simp [FlowFine]
  next => exact fair_pure _

theorem editFields_fine {getaddrinfo : Resolver} {field : Wizard.Field} {text : Text}
    {nonce : Library.Sealed.Nonce} {fields : List Storage.HostField} (solid : Solid isSpace text)
    (accepted : Wizard.validateField setup getaddrinfo field text = .ok none)
    (given : editFields setup field text nonce = some fields) :
    ∀ column ∈ fields, FieldFine kinds column := by
  cases field with
  | label =>
    cases given
    simpa [FieldFine] using label_of_validateField accepted
  | ip =>
    cases given
    simpa [FieldFine] using ip_of_validateField accepted
  | port =>
    obtain ⟨port,read,rfl⟩ := Option.map_eq_some_iff.mp given
    simpa [FieldFine] using port_of_validateField accepted read
  | username =>
    cases given
    simpa [FieldFine] using userChars_of_userName solid (userName_of_validateField accepted)
  | secret =>
    cases given
    simp [FieldFine]

theorem fair_editText (hid : Int) (field : Wizard.Field) {text : Text} (solid : Solid isSpace text) :
    Fair kinds (editText setup uid hid field text) := by
  refine (fair_ask _).bind fun getaddrinfo => (fair_ask _).bind fun nonces => ?_
  split
  next fields accepted given =>
    refine (fair_write_bind _ _).mpr ⟨editFields_fine setup solid accepted given,?_⟩
    exact (fair_setFlow_bind _ _).mpr ⟨by simp,fair_hostView uid hid⟩
  next => exact fair_show
  next => exact fair_raise

theorem fair_limitReached : Fair kinds (limitReached admin uid) := by
  simp only [limitReached,fair_ite,fair_pure,implies_true,true_and,fair_select_bind]
  intro _ tables _
  cases getMode tables with
  | free => exact fair_pure _
  | paid =>
    simp only [fair_select_bind]
    intro tables _ tables' _
    cases getUser uid tables with
    | none => exact fair_raise
    | some user => exact fair_pure _

theorem fair_cbAdd : Fair kinds (cbAdd admin uid) := by
  refine (fair_limitReached uid admin).bind fun reached => ?_
  refine fair_ite.mpr ⟨fun _ => by simp,fun _ => ?_⟩
  refine (fair_ask _).bind fun mid => (fair_setFlow_bind _ _).mpr ⟨?_,fair_show⟩
  rintro _ ⟨⟩
  exact opened_fine mid

theorem fair_leave {turn : Wizard.Turn} (fine : TurnFine kinds turn) : Fair kinds (leave turn) := by
  refine (fair_setFlow_bind _ _).mpr ⟨?_,by simp⟩
  intro found member
  obtain ⟨flow,left,rfl⟩ := Option.map_eq_some_iff.mp (Option.mem_def.mp member)
  exact fine flow left

theorem fair_saveHost {flow : Wizard.Flow} (fine : DataFine kinds flow.data) :
    Fair kinds (saveHost admin uid flow) := by
  refine (fair_setFlow_bind _ _).mpr ⟨?_,?_⟩
  · rintro _ ⟨⟩
    exact fine
  refine (fair_limitReached uid admin).bind fun reached => ?_
  refine fair_ite.mpr ⟨fun _ => fair_show,fun _ => ?_⟩
  split
  next => exact fair_raise
  next host saved =>
    refine (fair_ask _).bind fun now => (fair_ask _).bind fun nonces => ?_
    refine ⟨arguments_fine fine saved uid now nonces,fun hid _ => ?_⟩
    exact (fair_setFlow_bind _ _).mpr ⟨by simp,fair_hostView uid hid⟩

theorem fair_cbWizard {action : Text} (names : NamesKind kinds action) :
    Fair kinds (cbWizard admin uid action) := by
  refine (fair_getFlow_bind _).mpr fun found fine => ?_
  split
  next flow =>
    have fine : DataFine kinds flow.data := fine _ rfl
    refine (fair_ask _).bind fun mid => ?_
    refine fair_ite.mpr ⟨fun _ => fair_saveHost uid admin fine,fun _ => ?_⟩
    exact (fair_ask _).bind fun allowed => fair_leave (fine_cbWizard fine names)
  next => exact fair_showMain uid

theorem fair_hostsFlowText (text : Text) : Fair kinds (hostsFlowText setup uid text) := by
  refine (fair_getFlow_bind _).mpr fun found fine => ?_
  split
  next => exact (fair_editText uid setup _ _ solid_trimBy).bind fun _ => fair_pure _
  next flow =>
    refine (fair_ask _).bind fun getaddrinfo => ?_
    exact (fair_leave (fine_wizInput (fine _ rfl) solid_trimBy)).bind fun _ => fair_pure _
  next => exact fair_pure _

theorem fair_hostsFlowMedia (size : Nat) : Fair kinds (hostsFlowMedia setup size) := by
  refine (fair_getFlow_bind _).mpr fun found fine => ?_
  split
  next flow =>
    refine (fair_ask _).bind fun getaddrinfo => (fair_ask _).bind fun content => ?_
    split
    next => exact fair_pure _
    next turn taken =>
      exact (fair_leave (fine_flowMedia (fine _ rfl) taken)).bind fun _ => fair_pure _
  next => exact fair_pure _

@[simp] theorem fair_cbSnipList : Fair kinds (cbSnipList uid) := by
  simp [cbSnipList]

theorem fair_cbSnipView (sid : Int) : Fair kinds (cbSnipView uid sid) := by
  simp [cbSnipView]

theorem fair_cbSnipDel (sid : Int) (confirmed : Bool) :
    Fair kinds (cbSnipDel uid sid confirmed) := by
  simp [cbSnipDel,WriteFine]

theorem fair_cbSnipAdd : Fair kinds (cbSnipAdd uid) := by
  simp [cbSnipAdd,FlowFine]

theorem fair_cbSnipRun (sid : Int) : Fair kinds (cbSnipRun uid sid) := by
  simp [cbSnipRun]

@[simp] theorem fair_cbGrpList : Fair kinds (cbGrpList uid) := by
  simp [cbGrpList]

theorem fair_cbGrpView (gid : Int) : Fair kinds (cbGrpView uid gid) := by
  simp [cbGrpView]

theorem fair_cbGrpDel (gid : Int) (confirmed : Bool) :
    Fair kinds (cbGrpDel uid gid confirmed) := by
  simp [cbGrpDel,WriteFine]

theorem fair_cbGrpAdd : Fair kinds (cbGrpAdd uid) := by
  simp [cbGrpAdd,FlowFine]

/-- The name of a snippet was checked one message before its command. -/
theorem fair_toolsFlowText (text : Text) : Fair kinds (toolsFlowText uid text) := by
  refine (fair_getFlow_bind _).mpr fun found fine => ?_
  split
  next =>
    refine fair_ite.mpr ⟨fun _ => by simp,fun fits => ?_⟩
    refine (fair_write_bind _ _).mpr ⟨?_,?_⟩
    · simpa [WriteFine] using fits
    · exact (fair_setFlow_bind _ _).mpr ⟨by simp,(fair_cbGrpList uid).bind fun _ => fair_pure _⟩
  next =>
    refine fair_ite.mpr ⟨fun _ => by simp,fun fits => ?_⟩
    refine (fair_setFlow_bind _ _).mpr ⟨?_,by simp⟩
    rintro _ ⟨⟩ _ ⟨⟩
    simpa using fits
  next name =>
    refine fair_ite.mpr ⟨fun _ => by simp,fun fits => ?_⟩
    refine (fair_write_bind _ _).mpr ⟨⟨?_,?_⟩,?_⟩
    · simpa using fine _ rfl name rfl
    · simpa using fits
    · exact (fair_setFlow_bind _ _).mpr ⟨by simp,(fair_cbSnipList uid).bind fun _ => fair_pure _⟩
  next => exact fair_pure _

theorem fair_startAction (hid : Int) (kind : Callbacks.ConnectKind) :
    Fair kinds (startAction uid hid kind) := by
  refine (fair_ask _).bind fun allowed => (fair_ask _).bind fun free => ?_
  refine (fair_select _).bind fun setting => ?_
  refine fair_ite.mpr ⟨fun _ => fair_show,fun _ => ?_⟩
  refine (fair_select _).bind fun host => ?_
  cases host with
  | none => exact fair_show
  | some row => exact (fair_resetChat uid).bind fun _ => fair_createTask _

theorem fair_runAction (hid : Int) : Fair kinds (runAction hid) := by
  refine fair_show.bind fun _ => (fair_ask _).bind fun opened => ?_
  cases opened with
  | untrusted fingerprint => exact ⟨trivial,fun _ _ => fair_show⟩
  | trusted => exact fair_show
  | failed => exact fair_show

theorem fair_cbTrustYes : Fair kinds (cbTrustYes uid) := by
  refine (fair_popPending_bind _ _).mpr fun pending => ?_
  cases pending with
  | none => exact fair_show
  | some pending => simp [WriteFine]

theorem fair_cbTrustNo : Fair kinds (cbTrustNo uid) := by
  simp [cbTrustNo]

theorem fair_cbControlPad (action : Text) : Fair kinds (cbControlPad uid action) := by
  simp [cbControlPad]

theorem fair_cbNav (verb : Text) : Fair kinds (cbNav uid verb) := by
  simp [cbNav,FlowFine]

theorem fair_sftpFlowText (text : Text) : Fair kinds (sftpFlowText text) := by
  refine (fair_getFlow_bind _).mpr fun found _ => ?_
  split
  next => simp
  next => exact fair_pure _

theorem fair_onUpload (size : Nat) : Fair kinds (onUpload size) := by
  refine (fair_ask _).bind fun browsing => ?_
  refine fair_ite.mpr ⟨fun _ => fair_pure _,fun _ => fair_ite.mpr ⟨fun _ => by simp,fun _ => ?_⟩⟩
  exact (fair_createTask _).bind fun _ => fair_pure _

end

section
variable (admin other : Int)

theorem fair_guard {uid : Int} {handler : Handler Unit} (behind : Fair kinds handler) :
    Fair kinds (guard_ admin uid handler) :=
  fair_ite.mpr ⟨fun _ => behind,fun _ => fair_show⟩

@[simp] theorem fair_log (action : String) (target detail : Option String) :
    Fair kinds (AdminHandlers.log action target detail) := by
  simp [AdminHandlers.log,WriteFine]

theorem fair_stats : Fair kinds stats := by
  simp [stats]

theorem fair_homeView : Fair kinds homeView := by
  refine fair_stats.bind fun _ => ?_
  simp

theorem fair_cbUsers : Fair kinds cbUsers := by
  simp [cbUsers]

@[simp] theorem fair_showUser : Fair kinds (showUser other) := by
  simp [showUser]

theorem fair_ensurePlaceholder : Fair kinds (ensurePlaceholder other) := by
  simp only [ensurePlaceholder,fair_select_bind]
  intro tables _
  cases getUser other tables with
  | none => simp [WriteFine]
  | some user => exact fair_pure _

theorem fair_cbBan (banning : Bool) : Fair kinds (cbBan admin banning other) := by
  refine fair_ite.mpr ⟨fun _ => fair_show,fun _ => ?_⟩
  refine (fair_ensurePlaceholder other).bind fun _ => ?_
  refine (fair_write_bind _ _).mpr ⟨trivial,(fair_log _ _ _).bind fun _ => ?_⟩
  refine fair_ite.mpr ⟨fun _ => ?_,fun _ => fair_showUser other⟩
  exact (fair_resetChat other).bind fun _ => by simp

@[simp] theorem fair_enforceAccess : Fair kinds enforceAccess := by
  simp [enforceAccess]

theorem fair_cbRevoke (confirmed : Bool) : Fair kinds (cbRevoke confirmed other) := by
  refine fair_ite.mpr ⟨fun _ => ?_,fun _ => fair_show⟩
  refine (fair_write_bind _ _).mpr ⟨trivial,(fair_log _ _ _).bind fun _ => ?_⟩
  exact fair_enforceAccess.bind fun _ => fair_showUser other

theorem fair_cbDeleteUser (confirmed : Bool) : Fair kinds (cbDeleteUser admin confirmed other) := by
  refine fair_ite.mpr ⟨fun _ => fair_show,fun _ => fair_ite.mpr ⟨fun _ => ?_,fun _ => fair_show⟩⟩
  refine (fair_resetChat other).bind fun _ => ?_
  exact (fair_write_bind _ _).mpr ⟨trivial,(fair_log _ _ _).bind fun _ => fair_show⟩

theorem fair_askFor {flow : Flow} (fine : FlowFine kinds flow) : Fair kinds (askFor flow) := by
  refine (fair_show_bind _).mpr ((fair_setFlow _).mpr ?_)
  rintro _ ⟨⟩
  exact fine

theorem setMode_fine (mode : Text) :
    SettingFine "mode" (if mode = "paid".toList then "paid" else "free") := by
  split
  next => exact .paid
  next => exact .free

theorem fair_cbModeYes (new : Text) : Fair kinds (cbModeYes new) := by
  refine (fair_write_bind _ _).mpr ⟨setMode_fine new,(fair_log _ _ _).bind fun _ => ?_⟩
  exact fair_enforceAccess.bind fun _ => fair_show

theorem fair_cbMode : Fair kinds cbMode := by
  simp [cbMode]

theorem fair_bcCapture (audience : Text) : Fair kinds (bcCapture audience) := by
  simp [bcCapture,FlowFine]

theorem fair_cbBcGo : Fair kinds cbBcGo := by
  refine (fair_ask _).bind fun running => (fair_getFlow_bind _).mpr fun found _ => ?_
  split
  next => simp
  next => exact fair_show

theorem fair_broadcast : Fair kinds broadcast := by
  simp only [broadcast,fair_ask_bind]
  intro sent
  exact (fair_log _ _ _).bind fun _ => fair_show

theorem fair_cbChannels : Fair kinds cbChannels := by
  simp [cbChannels]

theorem fair_cbChannelDelete (cid : Int) : Fair kinds (cbChannelDelete cid) := by
  refine (fair_write_bind _ _).mpr ⟨trivial,?_⟩
  exact (fair_log _ _ _).bind fun _ => fair_cbChannels

theorem fair_channelInput : Fair kinds channelInput := by
  refine (fair_ask _).bind fun channel => ?_
  cases channel with
  | none => exact fair_show
  | some channel =>
    refine (fair_write_bind _ _).mpr ⟨trivial,(fair_log _ _ _).bind fun _ => ?_⟩
    exact (fair_setFlow_bind _ _).mpr ⟨by simp,fair_cbChannels⟩

theorem fair_cbBackup : Fair kinds cbBackup := by
  simp [cbBackup]

theorem fair_sendBackup (manual : Bool) : Fair kinds (sendBackup manual) := by
  refine (fair_select _).bind fun _ => fair_stats.bind fun _ => fair_show.bind fun _ => ?_
  exact (fair_ask _).bind fun now => (fair_write_bind _ _).mpr ⟨.lastBackup now,fair_log _ _ _⟩

theorem fair_restorePreview (blob : Library.Sealed.Bytes) (passphrase : Text) :
    Fair kinds (restorePreview blob passphrase) := by
  simp [restorePreview,FlowFine]

theorem fair_cbRestoreGo : Fair kinds cbRestoreGo := by
  refine (fair_getFlow_bind _).mpr fun found _ => ?_
  split
  next =>
    refine (fair_setFlow_bind _ _).mpr ⟨by simp,(fair_show_bind _).mpr ?_⟩
    refine ⟨trivial,fun _ _ => ⟨trivial,fun _ _ => ?_⟩⟩
    exact (fair_log _ _ _).bind fun _ => fair_show
  next => exact fair_show

theorem fair_cbSessions : Fair kinds cbSessions := by
  simp [cbSessions]

theorem fair_cbKill (chatId : Int) : Fair kinds (cbKill chatId) := by
  refine (fair_select _).bind fun user => (fair_ask _).bind fun live => ?_
  exact Fair.optional (fun _ => fair_log _ _ _) fair_cbSessions

theorem fair_cbSettings : Fair kinds cbSettings := by
  simp [cbSettings]

theorem fair_cbLive (change : Int) : Fair kinds (cbLive change) := by
  refine (fair_select _).bind fun setting => (fair_ask _).bind fun cur => ?_
  refine (fair_write_bind _ _).mpr ⟨.maxLive _ ?_ ?_,(fair_log _ _ _).bind fun _ => fair_show⟩
  · omega
  · omega

theorem fair_cbLog : Fair kinds cbLog := by
  simp [cbLog]

theorem parseInt_bounds {unicode : Library.Numerals.Unicode} {text : Text} {lo hi number : Int}
    (read : parseInt unicode text lo hi = some number) : lo ≤ number ∧ number ≤ hi := by
  unfold parseInt at read
  dsimp only at read
  split at read
  next => simpa using (Option.filter_eq_some_iff.mp read).2
  next => contradiction

/-- A grant reaches at least a day beyond the epoch, whatever the clock says. -/
theorem fair_grant {days maxHosts : Int} (positive : 1 ≤ days) (low : 1 ≤ maxHosts)
    (high : maxHosts ≤ 1000) : Fair kinds (grant other days maxHosts) := by
  have granted {tables : Tables} (fine : Fine kinds tables) {user : UserRow} (now : Int)
      (found : getUser other tables = some user) :
      Fair kinds (write (.grant other (max now (user.subExpiresAt.getD 0) + days * 86400)
        maxHosts)) := by
    refine (fair_write _).mpr ⟨?_,low,high⟩
    have end_ : 0 ≤ user.subExpiresAt.getD 0 := by
      rcases (fine.users other user found).subscription with ⟨none,_⟩ | ⟨expiry,some,ends,_⟩
      · simp [none]
      · rw [some,Option.getD_some]
        omega
    omega
  refine (fair_ask _).bind fun now => (fair_select_bind _ _).mpr fun tables fine => ?_
  cases found : getUser other tables with
  | some user => exact (granted fine now found).bind fun _ => by simp
  | none =>
    refine (fair_write_bind _ _).mpr ⟨trivial,(fair_select_bind _ _).mpr fun tables' fine' => ?_⟩
    cases found' : getUser other tables' with
    | none => exact fair_raise.bind fun _ => by simp
    | some user => exact (granted fine' now found').bind fun _ => by simp

theorem fair_message : Fair kinds (message other) := by
  simp [message]

theorem fair_flowInput (unicode : Library.Numerals.Unicode) (text : Text) {flow : Flow}
    (fine : FlowFine kinds flow) : Fair kinds (flowInput unicode text flow) := by
  cases flow with
  | admBc audience payload => exact fair_bcCapture audience
  | admChadd => exact fair_channelInput
  | admFind =>
    simp only [flowInput]
    split
    next => exact fair_show
    next => exact (fair_setFlow_bind _ _).mpr ⟨by simp,fair_showUser _⟩
  | admGrantId =>
    simp only [flowInput]
    split
    next => exact fair_show
    next => simp [FlowFine]
  | admGrantDays other =>
    simp only [flowInput]
    split
    next => exact fair_show
    next days read => simpa [FlowFine] using (parseInt_bounds read).1
  | admGrantHosts other days =>
    simp only [flowInput]
    split
    next => exact fair_show
    next maxHosts read =>
      obtain ⟨low,high⟩ := parseInt_bounds read
      refine (fair_setFlow_bind _ _).mpr ⟨by simp,(fair_grant other fine low high).bind fun _ => ?_⟩
      refine (fair_log _ _ _).bind fun _ => (fair_sendActivation other).bind fun _ => fair_show
  | admMsg other =>
    refine (fair_setFlow_bind _ _).mpr ⟨by simp,?_⟩
    exact (fair_message other).bind fun _ => fair_show
  | admRsPass blob => exact fair_restorePreview blob text
  | addHost => exact fair_show
  | editHost => exact fair_show
  | snipAdd => exact fair_show
  | grpAdd => exact fair_show
  | sftpMkdir => exact fair_show
  | admRsFile => exact fair_show
  | admRsReady => exact fair_show

theorem fair_flowText (unicode : Library.Numerals.Unicode) (uid : Int) (text : Text) :
    Fair kinds (flowText admin unicode uid text) := by
  refine (fair_getFlow_bind _).mpr fun found fine => ?_
  cases found with
  | none => exact fair_pure _
  | some flow =>
    refine fair_ite.mpr ⟨fun _ => fair_pure _,fun _ => ?_⟩
    refine fair_ite.mpr ⟨fun _ => by simp,fun _ => ?_⟩
    exact (fair_flowInput unicode _ (fine flow rfl)).bind fun _ => fair_pure _

theorem fair_flowMedia (uid : Int) (file : Option Nat) (backupPassphrase : Text) :
    Fair kinds (flowMedia admin uid file backupPassphrase) := by
  refine (fair_getFlow_bind _).mpr fun found _ => ?_
  cases found with
  | none => exact fair_pure _
  | some flow =>
    refine fair_ite.mpr ⟨fun _ => fair_pure _,fun _ => ?_⟩
    split
    next => exact fair_channelInput.bind fun _ => fair_pure _
    next => exact (fair_bcCapture _).bind fun _ => fair_pure _
    next =>
      refine fair_ite.mpr ⟨fun _ => by simp,fun _ => (fair_ask _).bind fun blob => ?_⟩
      cases blob with
      | none => exact (fair_show_bind _).mpr (fair_pure _)
      | some blob => exact (fair_restorePreview _ _).bind fun _ => fair_pure _
    next => exact fair_pure _

end

section
variable (admin : Int)

theorem fair_notice (now : Rat) (uid : Int) (user : UserRow) (exp : Int) :
    Fair kinds (notice admin now uid user exp) := by
  simp [notice,WriteFine]

theorem fair_notices (now : Rat) (users : List (Int × UserRow × Int)) :
    Fair kinds (notices admin now users) := by
  induction users with
  | nil => exact fair_pure _
  | cons user users ih => exact (fair_notice admin now _ _ _).bind fun _ => ih

theorem fair_backupDue : Fair kinds backupDue := by
  refine (fair_ask _).bind fun now => (fair_select _).bind fun last => ?_
  cases last with
  | none => exact (fair_write _).mpr (.lastBackup now)
  | some last =>
    refine (fair_ask _).bind fun due => fair_ite.mpr ⟨fun _ => ?_,fun _ => fair_pure _⟩
    exact (fair_write_bind _ _).mpr ⟨.lastBackupAttempt now,fair_sendBackup false⟩

theorem fair_tick : Fair kinds (tick admin) := by
  refine fair_enforceAccess.bind fun _ => Fair.bind ?_ fun _ => fair_backupDue
  refine (fair_select _).bind fun mode => ?_
  cases mode with
  | free => exact fair_pure _
  | paid => exact (fair_ask _).bind fun now => (fair_select _).bind fun users =>
      fair_notices admin now users

end

section
variable (config : Config) (uid : Int)

/-- An `auth:` button names a kind that is allowed. -/
def Presses (kinds : Text → Prop) (unicode : Library.Numerals.Unicode) (update : Update) : Prop :=
  ∀ data, update.content = .callback data → ∀ callback,
    Callbacks.dispatch unicode data = some callback → ∀ action,
      callback.read unicode data = some (.wizard action) → NamesKind kinds action

theorem fair_handlePress (update : Update) (press : Callbacks.Press)
    (names : ∀ action, press = .wizard action → NamesKind kinds action) :
    Fair kinds (handlePress config uid update press) := by
  cases press with
  | menuHome => exact fair_cmdStart uid
  | noop => exact fair_show
  | lang => exact fair_cbLang uid config.admin
  | terms => exact fair_cbTerms uid config.admin
  | joinCheck => exact fair_cbJoinCheck uid config.admin
  | account => exact fair_cbAccount uid
  | accountDelete => exact fair_show
  | accountDeleteYes => exact fair_cbAccountDeleteYes uid config.admin _ _
  | menuHosts => exact fair_cbList uid 0
  | hostList gid page => exact fair_cbList uid gid
  | view hid => exact fair_hostView uid hid
  | fav hid => exact fair_cbFav uid hid
  | groupPick hid => exact fair_cbGroupPick uid
  | setGroup hid gid => exact fair_cbSetGroup uid hid gid
  | test hid => exact fair_cbTest uid hid
  | delete hid => exact fair_cbHost uid hid
  | deleteYes hid => exact fair_cbDeleteYes uid hid
  | edit hid => exact fair_cbHost uid hid
  | editField hid field => exact fair_cbEditField uid hid field
  | add => exact fair_cbAdd uid config.admin
  | wizard action => exact fair_cbWizard uid config.admin (names action rfl)
  | connect kind hid => exact fair_startAction uid hid kind
  | connCancel => exact fair_showMain uid
  | trustYes => exact fair_cbTrustYes uid
  | trustNo => exact fair_cbTrustNo uid
  | controlPad action => exact fair_cbControlPad uid action
  | nav verb index => exact fair_cbNav uid verb
  | snipList => exact fair_cbSnipList uid
  | snipView sid => exact fair_cbSnipView uid sid
  | snipDel confirmed sid => exact fair_cbSnipDel uid sid confirmed
  | snipAdd => exact fair_cbSnipAdd uid
  | snipRun sid => exact fair_cbSnipRun uid sid
  | snipClose => exact fair_show
  | grpList => exact fair_cbGrpList uid
  | grpView gid => exact fair_cbGrpView uid gid
  | grpDel confirmed gid => exact fair_cbGrpDel uid gid confirmed
  | grpAdd => exact fair_cbGrpAdd uid
  | admHome => exact fair_guard _ fair_homeView
  | admStats => exact fair_guard _ fair_homeView
  | admUsers kind page => exact fair_guard _ fair_cbUsers
  | admUser other => exact fair_guard _ (fair_showUser other)
  | admBan banning other => exact fair_guard _ (fair_cbBan _ other banning)
  | admRevoke confirmed other => exact fair_guard _ (fair_cbRevoke other confirmed)
  | admDeleteUser confirmed other => exact fair_guard _ (fair_cbDeleteUser _ other confirmed)
  | admGrantNew => exact fair_guard _ (fair_askFor trivial)
  | admGrant other => exact fair_guard _ (fair_askFor trivial)
  | admFind => exact fair_guard _ (fair_askFor trivial)
  | admMessageUser other => exact fair_guard _ (fair_askFor trivial)
  | admMode => exact fair_guard _ fair_cbMode
  | admModeYes new => exact fair_guard _ (fair_cbModeYes new)
  | admBroadcast => exact fair_guard _ fair_show
  | admAudience audience => exact fair_guard _ (fair_askFor trivial)
  | admBcGo => exact fair_guard _ fair_cbBcGo
  | admChannels => exact fair_guard _ fair_cbChannels
  | admChannelDel cid => exact fair_guard _ (fair_cbChannelDelete cid)
  | admChannelAdd => exact fair_guard _ (fair_askFor trivial)
  | admBackup => exact fair_guard _ fair_cbBackup
  | admBackupNow => exact fair_guard _ (fair_createTask _)
  | admRestore => exact fair_guard _ (fair_askFor trivial)
  | admRestoreGo => exact fair_guard _ fair_cbRestoreGo
  | admSessions => exact fair_guard _ fair_cbSessions
  | admKill chatId => exact fair_guard _ (fair_cbKill chatId)
  | admSettings => exact fair_guard _ fair_cbSettings
  | admLive change => exact fair_guard _ (fair_cbLive change)
  | admLog => exact fair_guard _ fair_cbLog

private theorem fair_rest {taken : Bool} {rest : Handler Unit} (fair : Fair kinds rest) :
    Fair kinds (if taken then pure () else rest) :=
  fair_ite.mpr ⟨fun _ => fair_pure _,fun _ => fair⟩

theorem fair_onText (text : Text) : Fair kinds (onText config uid text) := by
  refine (fair_hostsFlowText uid config.setup text).bind fun _ => fair_rest ?_
  refine (fair_toolsFlowText uid text).bind fun _ => fair_rest ?_
  refine (fair_sftpFlowText text).bind fun _ => fair_rest ?_
  refine (fair_flowText config.admin config.setup.unicode uid text).bind fun _ => fair_rest ?_
  exact (fair_ask _).bind fun _ => fair_rest (fair_showMain uid)

theorem fair_onDocument (size : Nat) : Fair kinds (onDocument config uid size) := by
  refine (fair_hostsFlowMedia config.setup size).bind fun _ => fair_rest ?_
  refine (fair_flowMedia config.admin uid _ _).bind fun _ => fair_rest ?_
  exact (fair_onUpload size).bind fun _ => fair_rest fair_show

theorem fair_onPhoto : Fair kinds (onPhoto config uid) :=
  (fair_flowMedia config.admin uid _ _).bind fun _ => fair_rest fair_show

theorem fair_deliver (update : Update) (presses : Presses kinds config.setup.unicode update) :
    Fair kinds (deliver config uid update) := by
  unfold deliver
  split
  next data same =>
    split
    next => exact fair_pure _
    next callback found =>
      split
      next => exact fair_raise
      next press read =>
        apply fair_handlePress
        intro action is
        exact presses data same callback found action (is ▸ read)
  next => exact fair_cmdStart uid
  next => exact fair_show
  next => exact fair_cmdStart uid
  next => exact fair_onText config uid _
  next => exact fair_onDocument config uid _
  next => exact fair_onPhoto config uid

theorem fair_process (update : Update) (presses : Presses kinds config.setup.unicode update) :
    Fair kinds (process config uid update) := by
  refine (fair_preCheck uid config.admin _ _ _).bind fun passed => ?_
  exact fair_ite.mpr ⟨fun _ => fair_deliver config uid update presses,fun _ => fair_pure _⟩

theorem fair_task (task : Task) : Fair kinds (Task.body task) := by
  cases task with
  | runAction hid => exact fair_runAction hid
  | dispatchPending hid => exact fair_show
  | download => exact fair_show
  | upload => exact fair_show
  | sendBackup manual => exact fair_sendBackup manual
  | broadcast => exact fair_broadcast

def Request.Presses (kinds : Text → Prop) (unicode : Library.Numerals.Unicode) : Request → Prop
  | .gated update => RowInvariant.Presses kinds unicode update
  | .ungated update => RowInvariant.Presses kinds unicode update
  | _ => True

theorem fair_body (actor : Actor) (request : Request)
    (presses : Request.Presses kinds config.setup.unicode request) :
    Fair kinds (body config actor request) := by
  cases actor with
  | update uid =>
    cases request with
    | gated update => exact fair_process config uid update presses
    | ungated update => exact fair_deliver config uid update presses
    | task task => exact fair_pure _
    | tick => exact fair_pure _
  | task uid =>
    cases request with
    | task task => exact fair_task task
    | gated update => exact fair_pure _
    | ungated update => exact fair_pure _
    | tick => exact fair_pure _
  | housekeeping =>
    cases request with
    | tick => exact fair_tick config.admin
    | gated update => exact fair_pure _
    | ungated update => exact fair_pure _
    | task task => exact fair_pure _

end

section
variable {κ : Type} (aead : Library.Sealed.Aead κ) (hkdf : Library.Sealed.Bytes → κ)
variable (config : Config)

/-- Any move whose button names a kind that is allowed, and whose restored backup is well
formed itself. Nothing else writes the tables. -/
def Meets (kinds : Text → Prop) (state : Threads Effect Actor (World κ))
    (move : Move Actor Request Reply (World κ)) : Prop :=
  Respects (performAs config aead hkdf) (Restored kinds) state move ∧ match move with
    | .begin _ request => Request.Presses kinds config.setup.unicode request
    | .outside _ => False
    | _ => True

/-- From well-formed tables every run of the bot comes to well-formed tables only, whatever the
users send, however handlers, tasks and housekeeping interleave, and wherever one is cut off. -/
theorem rows_well_formed (kinds : Text → Prop) (first state : Threads Effect Actor (World κ))
    (idle : first.running = []) (sound : Sound kinds first.shared)
    (reached : Reach (step (performAs config aead hkdf) (body config))
      (Meets aead hkdf config kinds) first state) : Sound kinds state.shared := by
  refine (lawful_of_reach (honours_perform aead hkdf config) ?_ ?_ ?_ ⟨sound,?_⟩ reached).held
  · intro state who request met
    exact fair_body config who request met.2
  · intro state shared met
    exact met.2.elim
  · intro state move met
    exact met.1
  · intro thread member
    rw [idle] at member
    contradiction

theorem respects_of_none {reply : Reply} (none : reply.payload = none) (kinds : Text → Prop)
    (index : Nat) (state : Threads Effect Actor (World κ)) :
    Respects (performAs config aead hkdf) (Restored kinds) state
      (.advance index reply : Move Actor Request Reply (World κ)) := by
  intro who β effect next answer shared _ performed
  cases effect with
  | restoreBackup blob passphrase =>
    obtain ⟨payload,given,_⟩ := Option.map_eq_some_iff.mp performed
    rw [none] at given
    contradiction
  | _ => trivial

end

def waiting : Threads Effect Actor (World Library.Sealed.Bytes) :=
  ⟨⟨Database.empty,⟨some [],some []⟩,AList.singleton 7 (.addHost HostQuota.confirmed),∅,[]⟩,[]⟩

theorem rows_well_formed_saved : ∃ state : Threads Effect Actor (World Library.Sealed.Bytes),
    countHosts state.shared.tables = 1 ∧ Sound (· = "password".toList) state.shared := by
  obtain ⟨state,run,one⟩ : ∃ state, (Move.begin (.update 7)
      (.ungated ⟨none,"",.callback "wz:save".toList⟩) ::
        List.replicate 9 (.advance 0 AdminPowers.plainReply)).foldlM
        (step (performAs AdminPowers.plainConfig (Library.Sealed.transparent id) id)
          (body AdminPowers.plainConfig)) waiting = some state ∧
      countHosts state.shared.tables = 1 := ⟨_,rfl,rfl⟩
  refine ⟨state,one,rows_well_formed (Library.Sealed.transparent id) id AdminPowers.plainConfig _
    waiting state rfl ⟨empty_fine _,?_⟩ (reach_of_met _ ?_ run)⟩
  · intro uid flow found
    have found : ((∅ : Library.Tables.Table Int Flow).insert 7
        (.addHost HostQuota.confirmed)).lookup uid = some flow := found
    rcases Library.Tables.lookup_insert_some found with ⟨_,rfl⟩ | ⟨_,absent⟩
    · refine ⟨?_,?_,?_,?_,?_⟩ <;> rintro _ ⟨⟩ <;> decide
    · contradiction
  · intro move member state
    rcases List.mem_cons.mp member with rfl | member
    · refine ⟨trivial,?_⟩
      rintro _ ⟨⟩ _ ⟨⟩ _ ⟨⟩ kind named
      contradiction
    · obtain rfl := List.eq_of_mem_replicate member
      exact ⟨respects_of_none _ _ _ rfl _ _ _,trivial⟩

end AtronixX.RowInvariant
