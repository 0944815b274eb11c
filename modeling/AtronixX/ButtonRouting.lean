import AtronixX.Buttons

/-! Every button that the bot can show leads to the handler it is meant for, and the handler
reads from it what it was built from. The bounds on the ids that are taken over from a press
are needed: there is a press whose answer has a button that is too long. -/
namespace AtronixX.ButtonRouting
open Library.Numerals Library.TextPattern Callbacks Keyboards Buttons

def bytes (data : Text) : Nat := (data.map Char.utf8Size).sum

theorem bytes_append (one two : Text) : bytes (one ++ two) = bytes one + bytes two := by
  simp [bytes]

theorem bytes_str (value : Nat) : bytes (str value) = (str value).length := by
  have single : ∀ char ∈ str value, char.utf8Size = 1 := by
    intro char member
    have bounds := (isDigit_iff char).mp (isDigit_of_mem_str member)
    apply Char.utf8Size_eq_one_iff.mpr
    rw [UInt32.le_iff_toNat_le]
    exact bounds.2.trans (by decide)
  unfold bytes
  rw [List.map_congr_left single]
  simp

theorem bytes_strInt_eq {number : Int} (positive : 0 ≤ number) :
    bytes (strInt number) = (strInt number).length := by
  obtain ⟨value,rfl⟩ := Int.eq_ofNat_of_zero_le positive
  exact bytes_str value

theorem length_carried {places : Nat} {number : Int} (carried : Carried places number)
    (any : 0 < places) : (strInt number).length ≤ places := by
  obtain ⟨value,rfl⟩ := Int.eq_ofNat_of_zero_le carried.1
  exact length_str_le places any (by exact_mod_cast carried.2)

theorem bytes_carried {places : Nat} {number : Int} (carried : Carried places number)
    (any : 0 < places) : bytes (strInt number) ≤ places :=
  (bytes_strInt_eq carried.1).trans_le (length_carried carried any)

theorem carried_of_stored {number : Int} (stored : Stored number) : Carried 19 number := by
  have small := stored.2
  exact ⟨stored.1,by omega⟩

theorem bytes_stored {number : Int} (stored : Stored number) : bytes (strInt number) ≤ 19 :=
  bytes_carried (carried_of_stored stored) (by decide)

theorem plain_strInt (number : Int) : ∀ char ∈ strInt number, (char == ':') = false := by
  intro char member
  have digit : ∀ value, char ∈ str value → (char == ':') = false := by
    intro value member
    have bounds := (isDigit_iff char).mp (isDigit_of_mem_str member)
    apply beq_false_of_ne
    intro same
    subst same
    exact absurd bounds.2 (by decide)
  cases number with
  | ofNat value => exact digit value member
  | negSucc value =>
    rcases List.mem_cons.mp member with minus | member
    · subst minus
      rfl
    · exact digit _ member

theorem splitOn_last (beginning : Text) {text : Text}
    (plain : ∀ char ∈ text, (char == ':') = false) :
    (beginning ++ ':' :: text).splitOn ':' = beginning.splitOn ':' ++ [text] := by
  have single := List.splitOnP_eq_singleton plain
  unfold List.splitOn
  rw [List.splitOnP_append_cons beginning _ (by rfl),single]

section
variable (unicode : Unicode)

structure Routed (press : Press) : Prop where
  short : bytes press.data ≤ 64
  matched : press.callback.matches unicode press.data = true
  read : press.callback.read unicode press.data = some press

theorem int_short {number : Int} {places : Nat} (small : number.natAbs < 10 ^ places)
    (any : 0 < places) (short : places ≤ 64) : int unicode (strInt number) = some number := by
  apply int_strInt
  exact (length_str_le places any small).trans (short.trans (by decide))

theorem int_carried {number : Int} {places : Nat} (carried : Carried places number)
    (any : 0 < places) (short : places ≤ 64) : int unicode (strInt number) = some number := by
  obtain ⟨value,rfl⟩ := Int.eq_ofNat_of_zero_le carried.1
  exact int_short unicode (by exact_mod_cast carried.2) any short

theorem int_stored {number : Int} (stored : Stored number) :
    int unicode (strInt number) = some number :=
  int_carried unicode (carried_of_stored stored) (by decide) (by decide)

theorem matches_end : Matches (accepts unicode) end_ [] = true := rfl

theorem matches_number {number : Int} (positive : 0 ≤ number) {rest : Shape CharClass}
    {text : Text} (matched : Matches (accepts unicode) rest text = true) :
    Matches (accepts unicode) (digits ++ rest) (strInt number ++ text) = true := by
  obtain ⟨value,rfl⟩ := Int.eq_ofNat_of_zero_le positive
  apply matches_many_append (str_ne_nil value)
  · intro char member
    simp [accepts,isDigit_of_mem_str member]
  · exact matched

theorem matches_digits {number : Int} (positive : 0 ≤ number) :
    Matches (accepts unicode) (digits ++ end_) (strInt number) = true := by
  have whole := matches_number unicode positive (matches_end unicode)
  rwa [List.append_nil] at whole

theorem matches_shape (callback : Callback) (shape : Shape CharClass) {data : Text}
    (listed : shape ∈ pattern callback) (matched : Matches (accepts unicode) shape data = true) :
    callback.matches unicode data = true :=
  List.any_eq_true.mpr ⟨shape,listed,matched⟩

theorem matches_id (callback : Callback) {number : Int} (beginning : Text) (positive : 0 ≤ number)
    (listed : lit (beginning ++ [':']) ++ (digits ++ end_) ∈ pattern callback) :
    callback.matches unicode (beginning ++ ':' :: strInt number) = true := by
  rw [List.append_cons]
  apply matches_shape unicode callback _ listed
  rw [matches_lit_append]
  exact matches_digits unicode positive

theorem routed_word {press : Press} (text : String) (written : press.data = text.toList)
    (read : press.callback.read unicode press.data = some press)
    (short : bytes text.toList ≤ 64 := by decide)
    (listed : word text ++ end_ ∈ pattern press.callback := by decide) : Routed unicode press := by
  refine ⟨written ▸ short,matches_shape unicode press.callback _ listed ?_,read⟩
  have whole := (matches_lit_append text.toList end_ []).trans (matches_end unicode)
  rw [List.append_nil] at whole
  rw [written]
  exact whole

theorem routed_id (callback : Callback) (make : Int → Press) (beginning : String) {number : Int}
    {places : Nat} (carried : Carried places number) (called : (make number).callback = callback)
    (written : (make number).data = beginning.toList ++ ':' :: strInt number)
    (read : callback.read unicode (make number).data = (idFrom unicode (make number).data).map make)
    (short : 0 < places ∧ bytes beginning.toList + 1 + places ≤ 64 := by decide)
    (parts : (beginning.toList.splitOn ':').length = 2 := by decide)
    (listed : lit (beginning.toList ++ [':']) ++ (digits ++ end_) ∈ pattern callback := by decide) :
    Routed unicode (make number) := by
  refine ⟨?_,?_,?_⟩
  · have last := bytes_carried carried short.1
    rw [written,bytes_append]
    change bytes beginning.toList + (1 + bytes (strInt number)) ≤ 64
    omega
  · rw [called,written]
    exact matches_id unicode callback beginning.toList carried.1 listed
  · have found : idFrom unicode (make number).data = some number := by
      unfold idFrom part
      rw [written,splitOn_last _ (plain_strInt number),List.getElem?_append_right parts.le,parts]
      exact int_carried unicode carried short.1 (by omega)
    rw [called,read,found,Option.map_some]

theorem matches_ids (callback : Callback) {first second : Int} (beginning : Text)
    (one : 0 ≤ first) (two : 0 ≤ second)
    (listed : lit (beginning ++ [':']) ++ (digits ++ (word ":" ++ (digits ++ end_))) ∈
      pattern callback) :
    callback.matches unicode ((beginning ++ ':' :: strInt first) ++ ':' :: strInt second) = true := by
  rw [List.append_cons beginning,List.append_assoc]
  apply matches_shape unicode callback _ listed
  rw [matches_lit_append]
  exact matches_number unicode one (matches_digits unicode two)

theorem bytes_ids {first second : Int} (beginning : Text) (one : 0 ≤ first) (two : 0 ≤ second) :
    bytes ((beginning ++ ':' :: strInt first) ++ ':' :: strInt second) =
      bytes beginning + 2 + (strInt first).length + (strInt second).length := by
  rw [← bytes_strInt_eq one,← bytes_strInt_eq two,bytes_append,bytes_append]
  change bytes beginning + (1 + bytes (strInt first)) + (1 + bytes (strInt second)) = _
  omega

theorem splitOn_ids (beginning : Text) (first second : Int) :
    ((beginning ++ ':' :: strInt first) ++ ':' :: strInt second).splitOn ':' =
      beginning.splitOn ':' ++ [strInt first] ++ [strInt second] := by
  rw [splitOn_last _ (plain_strInt second),splitOn_last _ (plain_strInt first)]

theorem routed_hostList {gid page : Int} (group : Stored gid) (number : Stored page) :
    Routed unicode (.hostList gid page) := by
  have written : Press.data (.hostList gid page) =
      ("hl".toList ++ ':' :: strInt gid) ++ ':' :: strInt page :=
    List.append_assoc _ ":".toList _
  refine ⟨?_,?_,?_⟩
  · have one := length_carried (carried_of_stored group) (by decide)
    have two := length_carried (carried_of_stored number) (by decide)
    rw [written,bytes_ids "hl".toList group.1 number.1]
    change 2 + 2 + (strInt gid).length + (strInt page).length ≤ 64
    omega
  · rw [written]
    exact matches_ids unicode .list "hl".toList group.1 number.1 (by decide)
  · have other : Press.data (.hostList gid page) ≠ "menu:hosts".toList := by
      intro same
      have head : some 'h' = some 'm' := congrArg List.head? same
      contradiction
    have parts := splitOn_ids "hl".toList gid page
    rw [← written] at parts
    change Callback.read unicode (Press.data (.hostList gid page)) .list = _
    unfold Callback.read
    dsimp only
    rw [if_neg other,parts]
    change (do return Press.hostList (← int unicode (strInt gid)) (← int unicode (strInt page))) = _
    rw [int_stored unicode group,int_stored unicode number]
    rfl

theorem routed_setGroup {hid gid : Int} (sound : Sound (.setGroup hid gid)) :
    Routed unicode (.setGroup hid gid) := by
  obtain ⟨host,group,room⟩ : 0 ≤ hid ∧ 0 ≤ gid ∧ (strInt hid).length + (strInt gid).length ≤ 54 :=
    sound
  have read {number : Int} (positive : 0 ≤ number) (short : (strInt number).length ≤ 54) :
      int unicode (strInt number) = some number := by
    obtain ⟨value,rfl⟩ := Int.eq_ofNat_of_zero_le positive
    exact int_strInt unicode (le_trans short (by decide))
  have written : Press.data (.setGroup hid gid) =
      ("h:setgrp".toList ++ ':' :: strInt hid) ++ ':' :: strInt gid :=
    List.append_assoc _ ":".toList _
  refine ⟨?_,?_,?_⟩
  · rw [written,bytes_ids "h:setgrp".toList host group]
    change 8 + 2 + (strInt hid).length + (strInt gid).length ≤ 64
    omega
  · rw [written]
    exact matches_ids unicode .setGroup "h:setgrp".toList host group (by decide)
  · have parts := splitOn_ids "h:setgrp".toList hid gid
    rw [← written] at parts
    change Callback.read unicode (Press.data (.setGroup hid gid)) .setGroup = _
    unfold Callback.read
    dsimp only
    rw [parts]
    change (do return Press.setGroup (← int unicode (strInt hid)) (← int unicode (strInt gid))) = _
    rw [read host (by omega),read group (by omega)]
    rfl

theorem word_fields (field : Text) (known : field ∈ fieldsOfHost) :
    field ≠ [] ∧ (∀ char ∈ field, accepts unicode .word char = true) ∧
      (∀ char ∈ field, (char == ':') = false) ∧ bytes field ≤ 8 := by
  have letters := (by decide : ∀ field ∈ fieldsOfHost,
    field.all (fun char => ascii char && char.isAlphanum && !(char == ':')) = true) field known
  simp only [List.all_eq_true,Bool.and_eq_true,Bool.not_eq_true'] at letters
  refine ⟨(by decide : ∀ field ∈ fieldsOfHost, field ≠ []) field known,?_,
    fun char member => (letters char member).2,
    (by decide : ∀ field ∈ fieldsOfHost, bytes field ≤ 8) field known⟩
  intro char member
  simp [accepts,Unicode.word,(letters char member).1]

theorem routed_editField {hid : Int} {field : Text} (host : Carried 50 hid)
    (known : field ∈ fieldsOfHost) : Routed unicode (.editField hid field) := by
  obtain ⟨nonempty,inside,plain,short⟩ := word_fields unicode field known
  have written : Press.data (.editField hid field) =
      ("h:ef".toList ++ ':' :: strInt hid) ++ ':' :: field :=
    List.append_assoc _ ":".toList _
  refine ⟨?_,?_,?_⟩
  · have number := bytes_carried host (by decide)
    rw [written,bytes_append,bytes_append]
    change 4 + (1 + bytes (strInt hid)) + (1 + bytes field) ≤ 64
    omega
  · have last : Matches (accepts unicode) ([.many .word] ++ end_) field = true := by
      have whole := matches_many_append nonempty inside (matches_end unicode)
      rwa [List.append_nil] at whole
    rw [written,List.append_assoc]
    apply matches_shape unicode .editField
      (lit "h:ef:".toList ++ (digits ++ (word ":" ++ ([.many .word] ++ end_)))) (by decide)
    change Matches (accepts unicode) _ ("h:ef:".toList ++ (strInt hid ++ (":".toList ++ field))) = true
    rw [matches_lit_append]
    apply matches_number unicode host.1
    exact (matches_lit_append ":".toList _ _).trans last
  · have parts : (Press.data (.editField hid field)).splitOn ':' =
        ["h".toList,"ef".toList,strInt hid,field] := by
      rw [written,splitOn_last _ plain,splitOn_last _ (plain_strInt hid)]
      rfl
    change Callback.read unicode (Press.data (.editField hid field)) .editField = _
    unfold Callback.read
    dsimp only
    rw [parts]
    change (int unicode (strInt hid)).map (fun hid => Press.editField hid field) = _
    rw [int_carried unicode host (by decide) (by decide)]
    rfl

theorem routed_connect {hid : Int} (kind : ConnectKind) (host : Carried 56 hid) :
    Routed unicode (.connect kind hid) := by
  have written : Press.data (.connect kind hid) =
      ("h:".toList ++ kind.name) ++ ':' :: strInt hid :=
    List.append_assoc _ ":".toList _
  refine ⟨?_,?_,?_⟩
  · have number := bytes_carried host (by decide)
    have name : bytes ("h:".toList ++ kind.name) ≤ 7 := by cases kind <;> decide
    rw [written,bytes_append]
    change bytes ("h:".toList ++ kind.name) + (1 + bytes (strInt hid)) ≤ 64
    omega
  · rw [written]
    exact matches_id unicode .connect ("h:".toList ++ kind.name) host.1
      (by cases kind <;> decide)
  · have names : ("h:".toList ++ kind.name).splitOn ':' = ["h".toList,kind.name] := by
      cases kind <;> decide
    have parts : (Press.data (.connect kind hid)).splitOn ':' =
        ["h".toList,kind.name,strInt hid] := by
      rw [written,splitOn_last _ (plain_strInt hid),names]
      rfl
    have found : ConnectKind.ofName kind.name = some kind := by cases kind <;> rfl
    change Callback.read unicode (Press.data (.connect kind hid)) .connect = _
    unfold Callback.read
    dsimp only
    rw [parts]
    change (do return Press.connect (← ConnectKind.ofName kind.name) (← int unicode (strInt hid))) = _
    rw [found,int_carried unicode host (by decide) (by decide)]
    rfl

theorem matches_beginning (callback : Callback) (beginning : String) (rest : Text)
    (listed : word beginning ∈ pattern callback) :
    callback.matches unicode (beginning.toList ++ rest) = true := by
  apply matches_shape unicode callback (lit beginning.toList ++ []) (by rwa [List.append_nil])
  rw [matches_lit_append]
  rfl

theorem routed_wizard {action : Text} (known : action ∈ wizardActions) :
    Routed unicode (.wizard action) := by
  refine ⟨?_,matches_beginning unicode .wizard "wz:" action (by decide),rfl⟩
  exact (by decide : ∀ action ∈ wizardActions, bytes ("wz:".toList ++ action) ≤ 64) action known

theorem routed_controlPad {action : Text} (known : action ∈ padActions) :
    Routed unicode (.controlPad action) := by
  refine ⟨?_,matches_beginning unicode .controlPad "term:" action (by decide),?_⟩
  · exact (by decide : ∀ action ∈ padActions, bytes ("term:".toList ++ action) ≤ 64) action known
  · have second : part ("term:".toList ++ action) 1 = some action :=
      (by decide : ∀ action ∈ padActions, part ("term:".toList ++ action) 1 = some action)
        action known
    change (part ("term:".toList ++ action) 1).map Press.controlPad = _
    rw [second]
    rfl

theorem routed_nav {verb : Text} (known : verb ∈ plainVerbs) : Routed unicode (.nav verb none) := by
  refine ⟨?_,matches_beginning unicode .nav "sf:" verb (by decide),?_⟩
  · exact (by decide : ∀ verb ∈ plainVerbs, bytes ("sf:".toList ++ verb) ≤ 64) verb known
  · have second : part ("sf:".toList ++ verb) 1 = some verb :=
      (by decide : ∀ verb ∈ plainVerbs, part ("sf:".toList ++ verb) 1 = some verb) verb known
    have other : verb ∉ numberedVerbs :=
      (by decide : ∀ verb ∈ plainVerbs, verb ∉ numberedVerbs) verb known
    change Callback.read unicode ("sf:".toList ++ verb) .nav = _
    unfold Callback.read
    dsimp only
    rw [second,Option.bind_eq_bind,Option.bind_some,if_neg other]
    rfl

theorem routed_nav_number {verb : Text} {arg : Int} (known : verb ∈ numberedVerbs)
    (within : -2 ^ 63 ≤ arg ∧ arg < 2 ^ 63) : Routed unicode (.nav verb (some arg)) := by
  have written : Press.data (.nav verb (some arg)) = ("sf:".toList ++ verb) ++ ':' :: strInt arg :=
    List.append_assoc _ ":".toList _
  have parts : (Press.data (.nav verb (some arg))).splitOn ':' =
      ["sf".toList,verb,strInt arg] := by
    have names : ("sf:".toList ++ verb).splitOn ':' = ["sf".toList,verb] :=
      (by decide : ∀ verb ∈ numberedVerbs, ("sf:".toList ++ verb).splitOn ':' = ["sf".toList,verb])
        verb known
    rw [written,splitOn_last _ (plain_strInt arg),names]
    rfl
  refine ⟨?_,?_,?_⟩
  · have before : bytes ("sf:".toList ++ verb) ≤ 9 :=
      (by decide : ∀ verb ∈ numberedVerbs, bytes ("sf:".toList ++ verb) ≤ 9) verb known
    have after : bytes (strInt arg) ≤ 20 := by
      cases arg with
      | ofNat value =>
        have small : (value : Int) < 2 ^ 63 := within.2
        have digits := @length_str_le value 19 (by omega) (by omega)
        exact (bytes_str value).trans_le (digits.trans (by omega))
      | negSucc value =>
        have digits := @length_str_le (value + 1) 19 (by omega) (by omega)
        change 1 + bytes (str (value + 1)) ≤ 20
        rw [bytes_str]
        omega
    rw [written,bytes_append]
    change bytes ("sf:".toList ++ verb) + (1 + bytes (strInt arg)) ≤ 64
    omega
  · rw [written,List.append_assoc]
    exact matches_beginning unicode .nav "sf:" _ (by decide)
  · have second : part (Press.data (.nav verb (some arg))) 1 = some verb := by
      unfold part
      rw [parts]
      rfl
    have third : idFrom unicode (Press.data (.nav verb (some arg))) = some arg := by
      unfold idFrom part
      rw [parts]
      exact @int_short unicode arg 19 (by omega) (by decide) (by decide)
    change Callback.read unicode (Press.data (.nav verb (some arg))) .nav = _
    unfold Callback.read
    dsimp only
    rw [second,Option.bind_eq_bind,Option.bind_some,if_pos known,third]
    rfl

theorem routed_admUsers {flt : Text} {page : Int} (known : flt ∈ filters) (number : Stored page) :
    Routed unicode (.admUsers flt page) := by
  have written : Press.data (.admUsers flt page) =
      ("adm:users:".toList ++ flt) ++ ':' :: strInt page :=
    List.append_assoc _ ":".toList _
  refine ⟨?_,?_,?_⟩
  · have before : bytes ("adm:users:".toList ++ flt) ≤ 16 :=
      (by decide : ∀ flt ∈ filters, bytes ("adm:users:".toList ++ flt) ≤ 16) flt known
    have after := bytes_stored number
    rw [written,bytes_append]
    change bytes ("adm:users:".toList ++ flt) + (1 + bytes (strInt page)) ≤ 64
    omega
  · rw [written]
    exact matches_id unicode .admUsers ("adm:users:".toList ++ flt) number.1
      ((by decide : ∀ flt ∈ filters, lit (("adm:users:".toList ++ flt) ++ [':']) ++ (digits ++ end_) ∈
        pattern .admUsers) flt known)
  · have names : ("adm:users:".toList ++ flt).splitOn ':' = ["adm".toList,"users".toList,flt] :=
      (by decide : ∀ flt ∈ filters, ("adm:users:".toList ++ flt).splitOn ':' =
        ["adm".toList,"users".toList,flt]) flt known
    have parts : (Press.data (.admUsers flt page)).splitOn ':' =
        ["adm".toList,"users".toList,flt,strInt page] := by
      rw [written,splitOn_last _ (plain_strInt page),names]
      rfl
    change Callback.read unicode (Press.data (.admUsers flt page)) .admUsers = _
    unfold Callback.read
    dsimp only
    rw [parts]
    change (int unicode (strInt page)).map (Press.admUsers flt) = _
    rw [int_stored unicode number]
    rfl

theorem routed_admModeYes {new : Text} (known : new ∈ texts ["free","paid"]) :
    Routed unicode (.admModeYes new) := by
  rcases List.mem_pair.mp known with same | same
  · subst same
    exact routed_word unicode "adm:modeyes:free" rfl rfl
  · subst same
    exact routed_word unicode "adm:modeyes:paid" rfl rfl

theorem routed_admAudience {audience : Text} (known : audience ∈ texts ["all","subs"]) :
    Routed unicode (.admAudience audience) := by
  rcases List.mem_pair.mp known with same | same
  · subst same
    exact routed_word unicode "adm:bcaud:all" rfl rfl
  · subst same
    exact routed_word unicode "adm:bcaud:subs" rfl rfl

theorem routed_admLive {change : Int} (known : change ∈ ([-5,-1,1,5] : List Int)) :
    Routed unicode (.admLive change) := by
  simp only [List.mem_cons,List.not_mem_nil,or_false] at known
  rcases known with same | same | same | same
  all_goals
    subst same
    exact ⟨by decide,rfl,rfl⟩

theorem routed {press : Press} (sound : Sound press) : Routed unicode press := by
  cases press with
  | menuHome => exact routed_word unicode "menu:home" rfl rfl
  | noop => exact routed_word unicode "noop" rfl rfl
  | lang => exact routed_word unicode "lang:toggle" rfl rfl
  | terms => exact routed_word unicode "terms:accept" rfl rfl
  | joinCheck => exact routed_word unicode "join:check" rfl rfl
  | account => exact routed_word unicode "me:home" rfl rfl
  | accountDelete => exact routed_word unicode "me:del" rfl rfl
  | accountDeleteYes => exact routed_word unicode "me:delyes" rfl rfl
  | menuHosts => exact routed_word unicode "menu:hosts" rfl rfl
  | hostList gid page => exact routed_hostList unicode sound.1 sound.2
  | view hid => exact routed_id unicode .view .view "h:view" sound rfl rfl rfl
  | fav hid => exact routed_id unicode .fav .fav "h:fav" sound rfl rfl rfl
  | groupPick hid => exact routed_id unicode .groupPick .groupPick "h:grp" sound rfl rfl rfl
  | setGroup hid gid => exact routed_setGroup unicode sound
  | test hid => exact routed_id unicode .test .test "h:test" sound rfl rfl rfl
  | delete hid => exact routed_id unicode .delete .delete "h:del" sound rfl rfl rfl
  | deleteYes hid => exact routed_id unicode .deleteYes .deleteYes "h:delyes" sound rfl rfl rfl
  | edit hid => exact routed_id unicode .edit .edit "h:edit" sound rfl rfl rfl
  | editField hid field => exact routed_editField unicode sound.1 sound.2
  | add => exact routed_word unicode "hosts:add" rfl rfl
  | wizard action => exact routed_wizard unicode sound
  | connect kind hid => exact routed_connect unicode kind sound
  | connCancel => exact routed_word unicode "conn:cancel" rfl rfl
  | trustYes => exact routed_word unicode "trust:yes" rfl rfl
  | trustNo => exact routed_word unicode "trust:no" rfl rfl
  | controlPad action => exact routed_controlPad unicode sound
  | nav verb arg =>
    cases arg with
    | none => exact routed_nav unicode sound
    | some arg => exact routed_nav_number unicode sound.1 sound.2
  | snipList => exact routed_word unicode "snip:list" rfl rfl
  | snipView sid => exact routed_id unicode .snipView .snipView "snip:view" sound rfl rfl rfl
  | snipDel confirmed sid =>
    cases confirmed with
    | false => exact routed_id unicode .snipDel (.snipDel false) "snip:del" sound rfl rfl rfl
    | true => exact routed_id unicode .snipDel (.snipDel true) "snip:delyes" sound rfl rfl rfl
  | snipAdd => exact routed_word unicode "snip:add" rfl rfl
  | snipRun sid => exact routed_id unicode .snipRun .snipRun "snip:run" sound rfl rfl rfl
  | snipClose => exact routed_word unicode "snip:close" rfl rfl
  | grpList => exact routed_word unicode "grp:list" rfl rfl
  | grpView gid => exact routed_id unicode .grpView .grpView "grp:view" sound rfl rfl rfl
  | grpDel confirmed gid =>
    cases confirmed with
    | false => exact routed_id unicode .grpDel (.grpDel false) "grp:del" sound rfl rfl rfl
    | true => exact routed_id unicode .grpDel (.grpDel true) "grp:delyes" sound rfl rfl rfl
  | grpAdd => exact routed_word unicode "grp:add" rfl rfl
  | admHome => exact routed_word unicode "adm:home" rfl rfl
  | admStats => exact routed_word unicode "adm:st" rfl rfl
  | admUsers flt page => exact routed_admUsers unicode sound.1 sound.2
  | admUser uid => exact routed_id unicode .admUser .admUser "adm:u" sound rfl rfl rfl
  | admBan banning uid =>
    cases banning with
    | false => exact routed_id unicode .admBan (.admBan false) "adm:unban" sound rfl rfl rfl
    | true => exact routed_id unicode .admBan (.admBan true) "adm:ban" sound rfl rfl rfl
  | admRevoke confirmed uid =>
    cases confirmed with
    | false => exact routed_id unicode .admRevoke (.admRevoke false) "adm:revoke" sound rfl rfl rfl
    | true => exact routed_id unicode .admRevoke (.admRevoke true) "adm:revokeyes" sound rfl rfl rfl
  | admDeleteUser confirmed uid =>
    cases confirmed with
    | false =>
      exact routed_id unicode .admDeleteUser (.admDeleteUser false) "adm:del" sound rfl rfl rfl
    | true =>
      exact routed_id unicode .admDeleteUser (.admDeleteUser true) "adm:delyes" sound rfl rfl rfl
  | admGrantNew => exact routed_word unicode "adm:grantnew" rfl rfl
  | admGrant uid => exact routed_id unicode .admGrant .admGrant "adm:grant" sound rfl rfl rfl
  | admFind => exact routed_word unicode "adm:find" rfl rfl
  | admMessageUser uid =>
    exact routed_id unicode .admMessageUser .admMessageUser "adm:msg" sound rfl rfl rfl
  | admMode => exact routed_word unicode "adm:mode" rfl rfl
  | admModeYes new => exact routed_admModeYes unicode sound
  | admBroadcast => exact routed_word unicode "adm:bc" rfl rfl
  | admAudience audience => exact routed_admAudience unicode sound
  | admBcGo => exact routed_word unicode "af:bcgo" rfl rfl
  | admChannels => exact routed_word unicode "adm:ch" rfl rfl
  | admChannelDel cid =>
    exact routed_id unicode .admChannels .admChannelDel "adm:chdel" sound rfl rfl rfl
  | admChannelAdd => exact routed_word unicode "adm:chadd" rfl rfl
  | admBackup => exact routed_word unicode "adm:bk" rfl rfl
  | admBackupNow => exact routed_word unicode "adm:bknow" rfl rfl
  | admRestore => exact routed_word unicode "adm:rs" rfl rfl
  | admRestoreGo => exact routed_word unicode "af:rsgo" rfl rfl
  | admSessions => exact routed_word unicode "adm:ss" rfl rfl
  | admKill chatId => exact routed_id unicode .admSessions .admKill "adm:kill" sound rfl rfl rfl
  | admSettings => exact routed_word unicode "adm:set" rfl rfl
  | admLive change => exact routed_admLive unicode sound
  | admLog => exact routed_word unicode "adm:log" rfl rfl

end

def Apart (unicode : Unicode) (data : Text) (one two : Callback) : Prop :=
  ¬ (one.matches unicode data = true ∧ two.matches unicode data = true)

instance (unicode : Unicode) (data : Text) : Std.Symm (Apart unicode data) :=
  ⟨fun _ _ apart both => apart both.symm⟩

theorem apart_handlers (unicode : Unicode) (data : Text) {one two : Callback}
    (different : one ≠ two) : Apart unicode data one two := by
  have listed : ∀ callback : Callback, callback ∈ registered := by
    intro callback
    cases callback <;> decide
  have pairwise : registered.Pairwise (Apart unicode data) := by
    apply patterns_apart.imp
    intro first second separate both
    obtain ⟨shape,inFirst,matched⟩ := List.any_eq_true.mp both.1
    obtain ⟨other,inSecond,also⟩ := List.any_eq_true.mp both.2
    have fails := not_matches_of_apart shape other data (separate shape inFirst other inSecond) matched
    rw [also] at fails
    contradiction
  exact pairwise.forall (listed one) (listed two) different

theorem only_handler (unicode : Unicode) {callback : Callback} {data : Text}
    (matched : callback.matches unicode data = true) :
    registered.filter (fun other => other.matches unicode data) = [callback] := by
  have same : registered.filter (fun other => other.matches unicode data) =
      registered.filter fun other => other == callback := by
    apply List.filter_congr
    intro other _
    by_cases equal : other = callback
    · simp [equal,matched]
    · have unmatched : other.matches unicode data = false :=
        Bool.eq_false_iff.mpr fun also => apart_handlers unicode data equal ⟨also,matched⟩
      rw [unmatched,beq_false_of_ne equal]
  rw [same]
  cases callback <;> rfl

theorem button_reaches_handler (unicode : Unicode) {keyboard : Keyboard} (shown : Shown keyboard)
    {press : Press} (button : press ∈ presses keyboard) :
    bytes press.data ≤ 64 ∧
      registered.filter (fun callback => callback.matches unicode press.data) = [press.callback] ∧
      press.callback.read unicode press.data = some press := by
  have routed := routed unicode (sound_of_safe (safe_of_shown shown) button)
  exact ⟨routed.short,only_handler unicode routed.matched,routed.read⟩

def plainUnicode : Unicode := ⟨fun _ => none,fun _ => false,fun _ => false⟩

theorem button_reaches_handler_secret :
    ∃ keyboard, Shown keyboard ∧ ∃ press ∈ presses keyboard,
      press = .editField 12 "secret".toList ∧ press.data = "h:ef:12:secret".toList ∧
      (bytes press.data ≤ 64 ∧
        registered.filter (fun callback => callback.matches plainUnicode press.data) =
          [press.callback] ∧
        press.callback.read plainUnicode press.data = some press) := by
  have shown : Shown (editFieldsKb 12 "password".toList) :=
    .editFields ⟨12,by omega⟩ "password".toList
  have button : Press.editField 12 "secret".toList ∈ presses (editFieldsKb 12 "password".toList) := by
    decide
  exact ⟨_,shown,_,button,rfl,rfl,button_reaches_handler plainUnicode shown button⟩

theorem long_id_no_button :
    ∃ data hid, bytes data = 64 ∧
      registered.filter (fun callback => callback.matches plainUnicode data) = [.groupPick] ∧
      Callback.read plainUnicode data .groupPick = some (.groupPick hid) ∧
      ∃ press ∈ presses (cbGroupPick hid []), 64 < bytes press.data := by
  refine ⟨Press.data (.groupPick (10 ^ 57)),10 ^ 57,by decide +kernel,?_,?_,.setGroup (10 ^ 57) 0,?_,?_⟩
  · decide +kernel
  · decide +kernel
  · decide +kernel
  · decide +kernel

end AtronixX.ButtonRouting
