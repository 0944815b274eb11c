import AtronixX.Keyboards

/-! The keyboards that the bot shows and the presses on them. The ids of the database and of
Telegram are numbers of 64 bits. An id that a handler takes over from the press that it
answers is not checked by anything; it has to leave room for what stands before it on the
buttons of the answer. -/
namespace AtronixX.Buttons
open Library.Numerals Library.TextPattern Callbacks Keyboards

structure Number where
  value : Nat
  small : value < 2 ^ 63

/-- An id that the handler has from the press and does not look up. -/
structure Echoed (places : Nat) where
  value : Nat
  short : value < 10 ^ places

def ids (numbers : List Number) : List Int := numbers.map fun number => (number.value : Int)

def texts (names : List String) : List Text := names.map String.toList

def filters : List Text := texts ["all","sub","exp","banned"]

/-- The targets of `back_kb` that are the same for all ids. -/
def backTargets : List Press :=
  [.menuHome,.menuHosts,.admHome,.admUsers "all".toList 0,.admBroadcast,.admBackup,.admChannels,
    .snipList,.grpList,.nav "rf".toList none]

inductive Shown : Keyboard → Prop
  | back (target : Press) (known : target ∈ backTargets) : Shown (backKb target)
  | backToHost (hid : Number) : Shown (backKb (.view hid.value))
  | backToEdit (hid : Number) : Shown (backKb (.edit hid.value))
  /-- In `cb_grant` and `cb_message_user`, whose presses have no room for more digits. -/
  | backToUser (uid : Echoed 56) : Shown (backKb (.admUser uid.value))
  | mainMenu (admin : Bool) : Shown (mainMenuKb admin)
  | gate : Shown (gateKb [])
  | hostsList (groups hosts : List Number) (gid page pages : Number) :
    Shown (hostsListKb (ids groups) (ids hosts) gid.value page.value pages.value)
  | hostDetail (hid : Number) (groupId : Option Number) :
    Shown (hostDetailKb hid.value (groupId.map fun gid => (gid.value : Int)))
  | editFields (hid : Number) (authType : Text) : Shown (editFieldsKb hid.value authType)
  | groupPick (hid : Echoed 53) (groups : List Number)
    (fits : ∀ group ∈ groups, (str hid.value).length + (str group.value).length ≤ 54) :
    Shown (cbGroupPick hid.value (ids groups))
  | trust : Shown trustKb
  | connecting : Shown connectingKb
  | wizard (step : Wizard.Step) : Shown (wizardKb step .menuHosts)
  | terminal : Shown terminalKb
  | sftp (entries : List Sftp.Entry) (fits : entries.length < 2 ^ 63) (page pages : Number)
    (perPage : Nat) (atRoot : Bool) (mode : Sftp.Mode) :
    Shown (sftpKb entries page.value pages.value perPage atRoot mode)
  | account : Shown cbAccount
  | accountDelete : Shown cbAccountDelete
  | terms : Shown terms
  | join (links : List Bool) : Shown (join links)
  | newUser (uid : Number) : Shown (notifyAdminNewUser uid.value)
  | delete (hid : Number) : Shown (cbDelete hid.value)
  | startAction (hostId : Echoed 56) : Shown (startAction hostId.value)
  | controlPadSnip (snippets : List Number) : Shown (controlPadSnip (ids snippets))
  | controlPadExit (hostId : Number) : Shown (controlPadExit hostId.value)
  | renderError : Shown renderError
  /-- A negative index counts from the end. -/
  | navDelete (idx : Int) (within : -2 ^ 63 ≤ idx ∧ idx < 2 ^ 63) : Shown (navDelete idx)
  | snipList (snippets : List Number) : Shown (cbSnipList (ids snippets))
  | snipView (sid : Number) : Shown (cbSnipView sid.value)
  | snipDel (sid : Echoed 52) : Shown (cbSnipDel sid.value)
  | grpList (groups : List Number) : Shown (cbGrpList (ids groups))
  | grpView (gid : Number) : Shown (cbGrpView gid.value)
  | grpDel (gid : Echoed 53) : Shown (cbGrpDel gid.value)
  | monitor (hid : Number) : Shown (launchMonitor hid.value)
  | notices (uid : Number) : Shown (subscriptionNotices uid.value)
  | home : Shown homeView
  | stats : Shown cbStats
  | users (flt : Text) (known : flt ∈ filters) (users : List Number) (page pages : Number) :
    Shown (cbUsers flt (ids users) page.value pages.value)
  | user (uid : Number) (exp admin banned : Bool) : Shown (userView uid.value exp admin banned)
  | revoke (uid : Echoed 50) : Shown (cbRevoke uid.value)
  | deleteUser (uid : Echoed 53) : Shown (cbDeleteUser uid.value)
  | mode (cur : Text) : Shown (cbMode cur)
  | broadcast : Shown cbBroadcast
  | capture : Shown bcCapture
  | channels (channels : List Number) : Shown (cbChannels (ids channels))
  | backup : Shown cbBackup
  | restore : Shown restorePreview
  | sessions (chats : List Number) : Shown (cbSessions (ids chats))
  | settings : Shown cbSettings
  | granted (uid : Number) : Shown (granted uid.value)

def Stored (number : Int) : Prop := 0 ≤ number ∧ number < 2 ^ 63

def Carried (places : Nat) (number : Int) : Prop := 0 ≤ number ∧ number < 10 ^ places

def fieldsOfHost : List Text := texts ["label","ip","port","username","secret"]

def wizardActions : List Text :=
  texts ["port22","userroot","auth:password","auth:key","save","test","back"]

def padActions : List Text :=
  texts ["ctrlc","ctrld","tab","esc","left","up","down","right","enter","clear","log","snip","exit"]

def plainVerbs : List Text := texts ["rf","up","uph","md","dm","exit"]

/-- What a press is built from leaves it at 64 bytes. -/
def Sound : Press → Prop
  | .hostList gid page => Stored gid ∧ Stored page
  | .setGroup hid gid => 0 ≤ hid ∧ 0 ≤ gid ∧ (strInt hid).length + (strInt gid).length ≤ 54
  | .editField hid field => Carried 50 hid ∧ field ∈ fieldsOfHost
  | .view number | .edit number | .test number => Carried 57 number
  | .fav number | .groupPick number | .delete number | .admUser number => Carried 58 number
  | .connect _ number | .admMessageUser number => Carried 56 number
  | .deleteYes number | .snipRun number | .grpView number | .admKill number => Carried 55 number
  | .snipView number | .admBan _ number | .admGrant number | .admChannelDel number =>
    Carried 54 number
  | .snipDel _ number => Carried 52 number
  | .grpDel _ number | .admDeleteUser _ number => Carried 53 number
  | .admRevoke _ number => Carried 50 number
  | .wizard action => action ∈ wizardActions
  | .controlPad action => action ∈ padActions
  | .nav verb none => verb ∈ plainVerbs
  | .nav verb (some arg) => verb ∈ numberedVerbs ∧ -2 ^ 63 ≤ arg ∧ arg < 2 ^ 63
  | .admUsers flt page => flt ∈ filters ∧ Stored page
  | .admModeYes new => new ∈ texts ["free","paid"]
  | .admAudience audience => audience ∈ texts ["all","subs"]
  | .admLive change => change ∈ ([-5,-1,1,5] : List Int)
  | _ => True

theorem stored (number : Number) : Stored number.value := by
  have small := number.small
  unfold Stored
  omega

theorem carried {places : Nat} (number : Number) (enough : 19 ≤ places := by decide) :
    Carried places number.value := by
  have small := number.small
  have room : 10 ^ 19 ≤ 10 ^ places := Nat.pow_le_pow_right (by omega) enough
  refine ⟨by omega,?_⟩
  exact_mod_cast (show number.value < 10 ^ places by omega)

theorem carried_echoed {places digits : Nat} (number : Echoed digits)
    (enough : digits ≤ places := by decide) : Carried places number.value := by
  have room : 10 ^ digits ≤ 10 ^ places := Nat.pow_le_pow_right (by omega) enough
  have short := number.short
  refine ⟨by omega,?_⟩
  exact_mod_cast (show number.value < 10 ^ places by omega)

def ButtonSound : Button → Prop
  | .callback press => Sound press
  | .url => True

def Safe (keyboard : Keyboard) : Prop := keyboard.Forall fun row => row.Forall ButtonSound

theorem safe_kb {rows : Keyboard} (safe : Safe rows) : Safe (kb rows) := by
  apply List.forall_iff_forall_mem.mpr
  intro row member
  exact List.forall_iff_forall_mem.mp safe row (List.mem_of_mem_filter member)

theorem safe_append {one two : Keyboard} (first : Safe one) (second : Safe two) :
    Safe (one ++ two) :=
  List.forall_append.mpr ⟨first,second⟩

theorem safe_map {α : Type} {items : List α} {make : α → Press}
    (sound : ∀ item ∈ items, Sound (make item)) :
    Safe (items.map fun item => [btn (make item)]) := by
  apply List.forall_iff_forall_mem.mpr
  intro row member
  obtain ⟨item,inside,rfl⟩ := List.mem_map.mp member
  exact sound item inside

theorem safe_ids {numbers : List Number} {make : Int → Press}
    (sound : ∀ number : Number, Sound (make number.value)) :
    Safe ((ids numbers).map fun number => [btn (make number)]) := by
  apply safe_map
  intro number member
  obtain ⟨number,_,rfl⟩ := List.mem_map.mp member
  exact sound number

theorem safe_ite {condition : Prop} [Decidable condition] {one two : Keyboard}
    (first : condition → Safe one) (second : ¬ condition → Safe two) :
    Safe (if condition then one else two) := by
  split
  next holds => exact first holds
  next fails => exact second fails

theorem sound_of_safe {keyboard : Keyboard} (safe : Safe keyboard) {press : Press}
    (member : press ∈ presses keyboard) : Sound press := by
  obtain ⟨button,inside,same⟩ := List.mem_filterMap.mp member
  obtain ⟨row,kept,inside⟩ := List.mem_flatten.mp inside
  have holds := List.forall_iff_forall_mem.mp
    (List.forall_iff_forall_mem.mp safe row kept) button inside
  cases button with
  | callback found =>
    cases same
    exact holds
  | url => contradiction

theorem stored_zero : Stored 0 := by
  unfold Stored
  omega

theorem safe_pairs {buttons : List Button} (sound : ∀ button ∈ buttons, ButtonSound button) :
    Safe (pairs buttons) := by
  fun_induction pairs buttons with
  | case1 => trivial
  | case2 button => exact sound button List.mem_cons_self
  | case3 one two rest ih =>
    apply (List.forall_cons _ _ _).mpr
    refine ⟨⟨sound one List.mem_cons_self,sound two (by simp)⟩,ih ?_⟩
    intro button member
    exact sound button (by simp [member])

theorem safe_pageRow {page pages : Number} {target : Int → Press}
    (sound : ∀ number : Int, Stored number → Sound (target number)) :
    Safe (if pages.value > 1 then [pageRow page.value pages.value target] else []) := by
  have atPage := page.small
  have atPages := pages.small
  apply safe_ite
  · intro several
    unfold pageRow
    refine List.forall_append.mpr ⟨List.forall_append.mpr ⟨?_,trivial⟩,?_⟩
    · split
      next later =>
        apply sound
        unfold Stored
        omega
      next => trivial
    · split
      next earlier =>
        apply sound
        unfold Stored
        omega
      next => trivial
  · intro _
    trivial

theorem safe_hostsListKb (groups hosts : List Number) (gid page pages : Number) :
    Safe (hostsListKb (ids groups) (ids hosts) gid.value page.value pages.value) := by
  refine safe_kb (safe_append (safe_append (safe_append ?_ ?_) ?_) ?_)
  · apply safe_ite
    · intro _
      apply safe_pairs
      intro button member
      obtain ⟨number,taken,rfl⟩ := List.mem_map.mp member
      obtain ⟨group,_,rfl⟩ := List.mem_map.mp (List.mem_of_mem_take taken)
      exact ⟨stored group,stored_zero⟩
    · intro _
      trivial
  · exact safe_ids fun number => carried number
  · exact safe_pageRow fun number within => ⟨stored gid,within⟩
  · refine ⟨trivial,?_⟩
    split
    next => trivial
    next => exact ⟨stored_zero,stored_zero⟩

theorem safe_sftpKb (entries : List Sftp.Entry) (fits : entries.length < 2 ^ 63)
    (page pages : Number) (perPage : Nat) (atRoot : Bool) (mode : Sftp.Mode) :
    Safe (sftpKb entries page.value pages.value perPage atRoot mode) := by
  refine safe_kb (safe_append (safe_append ?_ ?_) ?_)
  · apply safe_map
    intro (entry,index) member
    obtain ⟨_,inside,_⟩ := List.mem_zipIdx member
    rw [List.length_take,List.length_drop] at inside
    refine ⟨?_,by omega,by omega⟩
    split
    next => decide
    next => split <;> decide
  · exact safe_pageRow fun number within =>
      ⟨by decide,by unfold Stored at within; omega,within.2⟩
  · have verbs : ∀ verb ∈ plainVerbs, Sound (.nav verb none) := fun verb member => member
    refine ⟨?_,⟨verbs _ (by decide),verbs _ (by decide)⟩,verbs _ (by decide)⟩
    cases atRoot with
    | true => exact ⟨verbs _ (by decide),verbs _ (by decide)⟩
    | false => exact ⟨verbs _ (by decide),verbs _ (by decide),verbs _ (by decide)⟩

theorem sound_backTargets {target : Press} (known : target ∈ backTargets) : Sound target := by
  have all : backTargets.Forall Sound :=
    ⟨trivial,trivial,trivial,⟨by decide,stored_zero⟩,trivial,trivial,trivial,trivial,trivial,
      (by decide : "rf".toList ∈ plainVerbs)⟩
  exact List.forall_iff_forall_mem.mp all target known

theorem safe_editFieldsKb (hid : Number) (authType : Text) :
    Safe (editFieldsKb hid.value authType) := by
  have fields : ∀ field ∈ fieldsOfHost,
      Sound (.editField hid.value field) := fun field member => ⟨carried hid,member⟩
  refine safe_kb (safe_append (safe_append ?_ ?_) (carried hid))
  · exact ⟨⟨fields _ (by decide),fields _ (by decide)⟩,fields _ (by decide),fields _ (by decide)⟩
  · exact safe_ite (fun _ => fields _ (by decide)) fun _ => trivial

theorem safe_wizardKb (step : Wizard.Step) : Safe (wizardKb step .menuHosts) := by
  have actions : ∀ action ∈ wizardActions, Sound (.wizard action) := fun action member => member
  refine safe_kb (safe_append ?_ ⟨actions _ (by decide),trivial⟩)
  cases step with
  | port => exact actions _ (by decide)
  | user => exact actions _ (by decide)
  | auth => exact ⟨actions _ (by decide),actions _ (by decide)⟩
  | confirm => exact ⟨actions _ (by decide),actions _ (by decide)⟩
  | label => trivial
  | addr => trivial
  | secret => trivial
  | pass => trivial

theorem safe_terminalKb : Safe terminalKb := by
  have actions : ∀ action ∈ padActions, Sound (.controlPad action) := fun action member => member
  apply safe_kb
  apply List.forall_iff_forall_mem.mpr
  intro row member
  obtain ⟨names,listed,rfl⟩ := List.mem_map.mp member
  apply List.forall_iff_forall_mem.mpr
  intro button inside
  obtain ⟨name,named,rfl⟩ := List.mem_map.mp inside
  exact actions _ ((by decide : ∀ names ∈ ([["ctrlc","ctrld","tab","esc"],
    ["left","up","down","right"],["enter"],["clear","log","snip"],["exit"]] : List (List String)),
    ∀ name ∈ names, name.toList ∈ padActions) names listed name named)

theorem safe_userView (uid : Number) (exp admin banned : Bool) :
    Safe (userView uid.value exp admin banned) := by
  refine safe_kb (safe_append (safe_append ?_ ?_) ⟨carried uid,by decide,stored_zero⟩)
  · cases exp with
    | true => exact ⟨carried uid,carried uid⟩
    | false => exact carried uid
  · exact safe_ite (fun _ => trivial) fun _ => ⟨carried uid,carried uid⟩

theorem safe_cbUsers (flt : Text) (known : flt ∈ filters) (users : List Number)
    (page pages : Number) : Safe (cbUsers flt (ids users) page.value pages.value) := by
  refine safe_kb (safe_append (safe_append ?_ ?_) ⟨⟨?_,?_⟩,⟨?_,?_⟩,trivial,trivial⟩)
  · exact safe_ids fun number => carried number
  · exact safe_pageRow fun number within => ⟨known,within⟩
  all_goals exact ⟨by decide,stored_zero⟩

theorem safe_of_shown {keyboard : Keyboard} (shown : Shown keyboard) : Safe keyboard := by
  cases shown with
  | back target known => exact safe_kb (sound_backTargets known)
  | backToHost hid => exact safe_kb (carried hid)
  | backToEdit hid => exact safe_kb (carried hid)
  | backToUser uid => exact safe_kb (carried_echoed uid)
  | mainMenu admin =>
    apply safe_kb
    cases admin with
    | true => exact ⟨⟨trivial,trivial⟩,⟨trivial,trivial⟩,⟨trivial,trivial⟩,trivial,trivial⟩
    | false => exact ⟨⟨trivial,trivial⟩,⟨trivial,trivial⟩,⟨trivial,trivial⟩,trivial⟩
  | gate => exact safe_kb ⟨trivial,trivial⟩
  | hostsList groups hosts gid page pages => exact safe_hostsListKb groups hosts gid page pages
  | hostDetail hid groupId =>
    refine safe_kb ⟨carried hid,⟨carried hid,carried hid⟩,⟨carried hid,carried hid⟩,
      ⟨carried hid,carried hid⟩,carried hid,?_,stored_zero⟩
    cases groupId with
    | none => exact stored_zero
    | some gid => exact stored gid
  | editFields hid authType => exact safe_editFieldsKb hid authType
  | groupPick hid groups fits =>
    refine safe_kb (safe_append (safe_map ?_) ⟨⟨by omega,le_refl 0,?_⟩,carried_echoed hid⟩)
    · intro gid member
      obtain ⟨group,listed,rfl⟩ := List.mem_map.mp member
      exact ⟨by omega,by omega,fits group listed⟩
    · exact Nat.add_le_add_right (length_str_le 53 (by omega) hid.short) 1
  | trust => exact safe_kb ⟨trivial,trivial⟩
  | connecting => exact safe_kb trivial
  | wizard step => exact safe_wizardKb step
  | terminal => exact safe_terminalKb
  | sftp entries fits page pages perPage atRoot mode =>
    exact safe_sftpKb entries fits page pages perPage atRoot mode
  | account => exact safe_kb ⟨trivial,trivial⟩
  | accountDelete => exact safe_kb ⟨trivial,trivial⟩
  | terms => exact safe_kb ⟨trivial,trivial⟩
  | join links =>
    refine safe_kb (safe_append ?_ ⟨trivial,trivial⟩)
    apply List.forall_iff_forall_mem.mpr
    intro row member
    obtain ⟨_,_,rfl⟩ := List.mem_map.mp member
    trivial
  | newUser uid => exact safe_kb ⟨carried uid,carried uid⟩
  | delete hid => exact safe_kb ⟨carried hid,carried hid⟩
  | startAction hostId => exact safe_kb ⟨carried_echoed hostId,carried_echoed hostId⟩
  | controlPadSnip snippets =>
    refine safe_kb (safe_append (safe_map ?_) trivial)
    intro number taken
    obtain ⟨snippet,_,rfl⟩ := List.mem_map.mp (List.mem_of_mem_take taken)
    exact carried snippet
  | controlPadExit hostId => exact safe_kb ⟨carried hostId,trivial⟩
  | renderError =>
    have verbs : ∀ verb ∈ plainVerbs, Sound (.nav verb none) := fun verb member => member
    exact safe_kb ⟨⟨verbs _ (by decide),verbs _ (by decide)⟩,verbs _ (by decide)⟩
  | navDelete idx within =>
    exact safe_kb ⟨⟨by decide,within⟩,(by decide : "rf".toList ∈ plainVerbs)⟩
  | snipList snippets =>
    exact safe_kb (safe_append (safe_ids fun number => carried number) ⟨trivial,trivial⟩)
  | snipView sid => exact safe_kb ⟨carried sid,trivial⟩
  | snipDel sid => exact safe_kb ⟨carried_echoed sid,carried_echoed sid⟩
  | grpList groups =>
    exact safe_kb (safe_append (safe_ids fun number => carried number) ⟨trivial,trivial⟩)
  | grpView gid => exact safe_kb ⟨⟨stored gid,stored_zero⟩,carried gid,trivial⟩
  | grpDel gid => exact safe_kb ⟨carried_echoed gid,carried_echoed gid⟩
  | monitor hid => exact safe_kb ⟨carried hid,carried hid⟩
  | notices uid => exact safe_kb (carried uid)
  | home =>
    exact safe_kb ⟨⟨⟨by decide,stored_zero⟩,trivial⟩,⟨trivial,trivial⟩,⟨trivial,trivial⟩,
      ⟨trivial,trivial⟩,⟨trivial,trivial⟩,trivial⟩
  | stats => exact safe_kb ⟨trivial,trivial⟩
  | users flt known users page pages => exact safe_cbUsers flt known users page pages
  | user uid exp admin banned => exact safe_userView uid exp admin banned
  | revoke uid => exact safe_kb ⟨carried_echoed uid,carried_echoed uid⟩
  | deleteUser uid => exact safe_kb ⟨carried_echoed uid,carried_echoed uid⟩
  | mode cur =>
    refine safe_kb ⟨?_,trivial⟩
    change (if cur = "paid".toList then "free".toList else "paid".toList) ∈ texts ["free","paid"]
    split <;> decide
  | broadcast =>
    have audiences : ∀ audience ∈ texts ["all","subs"], Sound (.admAudience audience) :=
      fun audience member => member
    exact safe_kb ⟨⟨audiences _ (by decide),audiences _ (by decide)⟩,trivial⟩
  | capture => exact safe_kb ⟨trivial,trivial⟩
  | channels channels =>
    exact safe_kb (safe_append (safe_ids fun number => carried number) ⟨trivial,trivial⟩)
  | backup => exact safe_kb ⟨⟨trivial,trivial⟩,trivial⟩
  | restore => exact safe_kb ⟨trivial,trivial⟩
  | sessions chats =>
    exact safe_kb (safe_append (safe_ids fun number => carried number) ⟨trivial,trivial⟩)
  | settings =>
    have changes : ∀ change ∈ ([-5,-1,1,5] : List Int), Sound (.admLive change) :=
      fun change member => member
    exact safe_kb ⟨⟨changes _ (by decide),changes _ (by decide),changes _ (by decide),
      changes _ (by decide)⟩,trivial⟩
  | granted uid => exact safe_kb ⟨carried uid,trivial⟩

end AtronixX.Buttons
