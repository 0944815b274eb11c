import AtronixX.AdminHandlers

/-! Rows as the checks of the bot let them through, and the statements that keep them so. What
the host's `auth_type` may be is a parameter: `cb_wizard` stores whatever its button names. -/
namespace AtronixX.Rows
open Library.Tables Database PublicTarget Handlers

/-- A user has a subscription with an end and a limit, or neither. -/
structure UserFine (row : UserRow) : Prop where
  language : row.language = "fa" ∨ row.language = "en"
  subscription : (row.subExpiresAt = none ∧ row.subMaxHosts = 0) ∨
    ∃ expiry, row.subExpiresAt = some expiry ∧ 86400 ≤ expiry ∧
      1 ≤ row.subMaxHosts ∧ row.subMaxHosts ≤ 1000

structure HostFine (kinds : Text → Prop) (row : HostRow) : Prop where
  label : Wizard.lengthIn 32 row.label.toList = true
  ip : Wizard.validAddress row.ip.toList = true
  port : 1 ≤ row.port ∧ row.port ≤ 65535
  username : Wizard.userChars row.username.toList = true
  authType : kinds row.authType.toList

structure SnippetFine (row : SnippetRow) : Prop where
  name : Wizard.lengthIn 32 row.name.toList = true
  command : Wizard.lengthIn 1000 row.command.toList = true

inductive SettingFine : String → String → Prop
  | free : SettingFine "mode" "free"
  | paid : SettingFine "mode" "paid"
  | maxLive (cur : Int) (low : 1 ≤ cur) (high : cur ≤ 200) : SettingFine "max_live" (toString cur)
  | lastBackup (now : Int) : SettingFine "last_backup" (toString now)
  | lastBackupAttempt (now : Int) : SettingFine "last_backup_attempt" (toString now)

def EveryRow {κ ν : Type} [DecidableEq κ] (table : Table κ ν) (holds : ν → Prop) : Prop :=
  ∀ key row, table.lookup key = some row → holds row

def Numbered {ν : Type} (table : Table Int ν) (last : Int) : Prop :=
  ∀ id, id ∈ table → id ≤ last

structure Fine (kinds : Text → Prop) (tables : Tables) : Prop where
  users : EveryRow tables.users UserFine
  groups : EveryRow tables.groups fun row => Wizard.lengthIn 24 row.name.toList = true
  hosts : EveryRow tables.hosts (HostFine kinds)
  snippets : EveryRow tables.snippets SnippetFine
  settings : ∀ key value, getSetting key tables = some value → SettingFine key value
  channels : ∀ cid cid' row row', tables.channels.lookup cid = some row →
    tables.channels.lookup cid' = some row' → row.chatId = row'.chatId → cid = cid'
  groupIds : Numbered tables.groups tables.sequence.groups
  hostIds : Numbered tables.hosts tables.sequence.hosts
  snippetIds : Numbered tables.snippets tables.sequence.snippets
  channelIds : Numbered tables.channels tables.sequence.channels
  logIds : Numbered tables.adminLog tables.sequence.adminLog

section
variable {κ ν : Type} [DecidableEq κ] {table : Table κ ν} {holds : ν → Prop}

theorem everyRow_insert {key : κ} {row : ν} (every : EveryRow table holds) (new : holds row) :
    EveryRow (table.insert key row) holds := by
  intro other found there
  rcases lookup_insert_some there with ⟨_,rfl⟩ | ⟨_,there⟩
  · exact new
  · exact every other found there

theorem everyRow_updateWhere {condition : κ → ν → Bool} {change : ν → ν}
    (every : EveryRow table holds) (kept : ∀ row, holds row → holds (change row)) :
    EveryRow (updateWhere condition change table) holds := by
  intro key row found
  rw [lookup_updateWhere] at found
  obtain ⟨before,there,rfl⟩ := Option.map_eq_some_iff.mp found
  have held := every key before there
  split
  next => exact kept before held
  next => exact held

theorem everyRow_deleteWhere {condition : κ → ν → Bool} (every : EveryRow table holds) :
    EveryRow (deleteWhere condition table) holds := by
  intro key row found
  rw [lookup_deleteWhere] at found
  exact every key row (Option.filter_eq_some_iff.mp found).1

end

section
variable {ν : Type} {table : Table Int ν} {last : Int}

theorem numbered_insert {row : ν} (numbered : Numbered table last) :
    Numbered (table.insert (last + 1) row) (last + 1) := by
  intro id member
  rcases (AList.mem_insert _).mp member with rfl | member
  · exact Int.le_refl _
  · have bound := numbered id member
    omega

theorem numbered_updateWhere {condition : Int → ν → Bool} {change : ν → ν}
    (numbered : Numbered table last) : Numbered (updateWhere condition change table) last := by
  intro id member
  apply numbered id
  rw [← AList.lookup_isSome] at member ⊢
  simpa using member

theorem numbered_deleteWhere {condition : Int → ν → Bool} (numbered : Numbered table last) :
    Numbered (deleteWhere condition table) last := by
  intro id member
  apply numbered id
  rw [← AList.lookup_isSome,lookup_deleteWhere] at member
  rw [← AList.lookup_isSome]
  obtain ⟨row,found⟩ := Option.isSome_iff_exists.mp member
  rw [(Option.filter_eq_some_iff.mp found).1]
  rfl

theorem Numbered.fresh (numbered : Numbered table last) : last + 1 ∉ table := by
  intro member
  have bound := numbered _ member
  omega

end

private theorem lookup_none {κ ν : Type} [DecidableEq κ] {key : κ} {row : ν} {claim : Prop}
    (found : (∅ : Table κ ν).lookup key = some row) : claim := by
  rw [AList.lookup_empty] at found
  contradiction

theorem empty_fine (kinds : Text → Prop) : Fine kinds empty where
  users _ _ := lookup_none
  groups _ _ := lookup_none
  hosts _ _ := lookup_none
  snippets _ _ := lookup_none
  settings _ _ := lookup_none
  channels _ _ _ _ := lookup_none
  groupIds id member := absurd member (AList.notMem_empty id)
  hostIds id member := absurd member (AList.notMem_empty id)
  snippetIds id member := absurd member (AList.notMem_empty id)
  channelIds id member := absurd member (AList.notMem_empty id)
  logIds id member := absurd member (AList.notMem_empty id)

variable {kinds : Text → Prop} {tables : Tables}

def FieldFine (kinds : Text → Prop) : Storage.HostField → Prop
  | .plain (.label text) => Wizard.lengthIn 32 text.toList = true
  | .plain (.ip text) => Wizard.validAddress text.toList = true
  | .plain (.port number) => 1 ≤ number ∧ number ≤ 65535
  | .plain (.username text) => Wizard.userChars text.toList = true
  | .plain (.authType text) => kinds text.toList
  | _ => True

structure ArgumentsFine (kinds : Text → Prop) (arguments : Storage.HostArguments) : Prop where
  label : Wizard.lengthIn 32 arguments.label.toList = true
  ip : Wizard.validAddress arguments.ip.toList = true
  port : 1 ≤ arguments.port ∧ arguments.port ≤ 65535
  username : Wizard.userChars arguments.username.toList = true
  authType : kinds arguments.authType.toList

/-- What a statement is given when it keeps the rows as they should be. -/
def WriteFine (kinds : Text → Prop) : Write → Prop
  | .setLanguage _ lang => lang = "fa" ∨ lang = "en"
  | .grant _ expiry maxHosts => 86400 ≤ expiry ∧ 1 ≤ maxHosts ∧ maxHosts ≤ 1000
  | .setSetting key value => SettingFine key value
  | .updateHost _ _ fields => ∀ field ∈ fields, FieldFine kinds field
  | .addGroup _ name => Wizard.lengthIn 24 name.toList = true
  | .addSnippet _ name command =>
    Wizard.lengthIn 32 name.toList = true ∧ Wizard.lengthIn 1000 command.toList = true
  | _ => True

theorem freshUser_fine (now : Int) : UserFine (freshUser now) := ⟨.inl rfl,.inl ⟨rfl,rfl⟩⟩

theorem fine_updateUser (fine : Fine kinds tables) (uid : Int) {change : UserRow → UserRow}
    (kept : ∀ row, UserFine row → UserFine (change row)) :
    Fine kinds (updateUser uid change tables) :=
  {fine with users := everyRow_updateWhere fine.users kept}

theorem fine_insertUser (fine : Fine kinds tables) {uid : Int} {row : UserRow} {after : Tables}
    (new : UserFine row) (inserted : insertUser uid row tables = some after) : Fine kinds after := by
  unfold insertUser at inserted
  split at inserted
  next => contradiction
  next =>
    cases inserted
    exact {fine with users := everyRow_insert fine.users new}

theorem fine_updateHosts (fine : Fine kinds tables) {condition : Int → HostRow → Bool}
    {change : HostRow → HostRow} (kept : ∀ row, HostFine kinds row → HostFine kinds (change row)) :
    Fine kinds {tables with hosts := updateWhere condition change tables.hosts} :=
  {fine with
    hosts := everyRow_updateWhere fine.hosts kept
    hostIds := numbered_updateWhere fine.hostIds}

theorem fine_insertHost (fine : Fine kinds tables) {row : HostRow} (new : HostFine kinds row) :
    Fine kinds (insertHost row tables) :=
  {fine with
    hosts := everyRow_insert fine.hosts new
    hostIds := numbered_insert fine.hostIds}

theorem hostRow_fine {κ : Type} (aead : Library.Sealed.Aead κ) (key : κ)
    {arguments : Storage.HostArguments} (given : ArgumentsFine kinds arguments) :
    HostFine kinds (Storage.hostRow aead key arguments) :=
  ⟨given.label,given.ip,given.port,given.username,given.authType⟩

private theorem fine_setColumn {κ : Type} {aead : Library.Sealed.Aead κ} {key : κ} {owner : Int}
    {field : Storage.HostField} {row after : HostRow} (fine : HostFine kinds row)
    (given : FieldFine kinds field)
    (set : (Storage.hostColumn aead key owner field).set row = some after) : HostFine kinds after := by
  cases field with
  | plain column =>
    cases set
    cases column with
    | label text => exact {fine with label := given}
    | ip text => exact {fine with ip := given}
    | port number => exact {fine with port := given}
    | username text => exact {fine with username := given}
    | authType text => exact {fine with authType := given}
    | hostFingerprint fingerprint => exact {fine with}
  | secret text nonce =>
    obtain ⟨token,_,rfl⟩ := Option.map_eq_some_iff.mp set
    exact {fine with}
  | passphrase text nonce =>
    cases set
    exact {fine with}

private theorem fine_setColumns {κ : Type} {aead : Library.Sealed.Aead κ} {key : κ} {owner : Int}
    {fields : List Storage.HostField} {row after : HostRow} (fine : HostFine kinds row)
    (given : ∀ field ∈ fields, FieldFine kinds field)
    (set : setColumns (fields.map (Storage.hostColumn aead key owner)) row = some after) :
    HostFine kinds after := by
  unfold setColumns at set
  induction fields generalizing row with
  | nil =>
    cases set
    exact fine
  | cons field fields ih =>
    rw [List.map_cons,List.foldlM_cons] at set
    obtain ⟨middle,first,set⟩ := Option.bind_eq_some_iff.mp set
    have kept := fine_setColumn fine (given field List.mem_cons_self) first
    exact ih kept (fun other member => given other (List.mem_cons_of_mem _ member)) set

theorem fine_updateHost {κ : Type} {aead : Library.Sealed.Aead κ} {key : κ} {hostId owner : Int}
    {fields : List Storage.HostField} {after : Tables} (fine : Fine kinds tables)
    (given : ∀ field ∈ fields, FieldFine kinds field)
    (ran : Storage.effect aead key (.updateHost hostId owner fields) tables = some after) :
    Fine kinds after := by
  change updateHost _ _ _ _ = _ at ran
  unfold updateHost at ran
  split at ran
  next =>
    cases ran
    exact fine
  next row found =>
    split at ran
    next =>
      obtain ⟨changed,set,rfl⟩ := Option.map_eq_some_iff.mp ran
      have kept := fine_setColumns (fine.hosts hostId row found) given set
      exact fine_updateHosts fine fun _ _ => kept
    next =>
      cases ran
      exact fine

theorem fine_setSetting (fine : Fine kinds tables) {key value : String}
    (given : SettingFine key value) : Fine kinds (setSetting key value tables) := by
  refine {fine with settings := ?_}
  intro other found there
  rcases lookup_insert_some there with ⟨rfl,rfl⟩ | ⟨_,there⟩
  · exact given
  · exact fine.settings other found there

/-- A chat that is there already is updated, so no chat comes twice. -/
theorem fine_addChannel (fine : Fine kinds tables) (channel : ChannelRow) :
    Fine kinds (addChannel channel tables) := by
  have same {cid : Int} {row : ChannelRow}
      (found : (updateWhere (fun _ row => row.chatId == channel.chatId) (fun _ => channel)
        tables.channels).lookup cid = some row) :
      ∃ before, tables.channels.lookup cid = some before ∧ before.chatId = row.chatId := by
    rw [lookup_updateWhere] at found
    obtain ⟨before,there,rfl⟩ := Option.map_eq_some_iff.mp found
    refine ⟨before,there,?_⟩
    split
    next is => simpa using is
    next => rfl
  unfold addChannel
  dsimp only
  split
  next known =>
    refine {fine with channels := ?_, channelIds := ?_}
    · intro cid cid' row row' found found' equal
      obtain ⟨before,there,is⟩ := same found
      obtain ⟨before',there',is'⟩ := same found'
      exact fine.channels cid cid' before before' there there' (is.trans (equal.trans is'.symm))
    · intro id member
      have bound := numbered_updateWhere fine.channelIds id member
      dsimp only
      omega
  next unknown =>
    have absent {cid : Int} {row : ChannelRow} (found : tables.channels.lookup cid = some row) :
        row.chatId ≠ channel.chatId := by
      intro equal
      apply unknown
      exact (someWhere_iff _ _).mpr ⟨cid,row,found,by simpa using equal⟩
    refine {fine with channels := ?_, channelIds := numbered_insert fine.channelIds}
    intro cid cid' row row' found found' equal
    rcases lookup_insert_some found with ⟨rfl,rfl⟩ | ⟨_,there⟩
    · rcases lookup_insert_some found' with ⟨rfl,_⟩ | ⟨_,there'⟩
      · rfl
      · exact absurd equal.symm (absent there')
    · rcases lookup_insert_some found' with ⟨_,rfl⟩ | ⟨_,there'⟩
      · exact absurd equal (absent there)
      · exact fine.channels cid cid' row row' there there' equal

theorem fine_removeChannel (fine : Fine kinds tables) (cid : Int) :
    Fine kinds (removeChannel cid tables) := by
  refine {fine with channels := ?_, channelIds := numbered_deleteWhere fine.channelIds}
  intro one two row row' found found' equal
  have there {id : Int} {row : ChannelRow}
      (found : (deleteWhere (fun id _ => id == cid) tables.channels).lookup id = some row) :
      tables.channels.lookup id = some row := by
    rw [lookup_deleteWhere] at found
    exact (Option.filter_eq_some_iff.mp found).1
  exact fine.channels one two row row' (there found) (there found') equal

theorem fine_deleteUser (fine : Fine kinds tables) (uid : Int) :
    Fine kinds (deleteUser uid tables) :=
  {fine with
    users := everyRow_deleteWhere fine.users
    groups := everyRow_deleteWhere fine.groups
    hosts := everyRow_deleteWhere fine.hosts
    snippets := everyRow_deleteWhere fine.snippets
    groupIds := numbered_deleteWhere fine.groupIds
    hostIds := numbered_deleteWhere fine.hostIds
    snippetIds := numbered_deleteWhere fine.snippetIds}

theorem fine_write {κ : Type} {aead : Library.Sealed.Aead κ} {vault : Crypto.Vault κ}
    {statement : Write} {after : Tables} (fine : Fine kinds tables)
    (given : WriteFine kinds statement) (ran : statement.run aead vault tables = some after) :
    Fine kinds after := by
  cases statement with
  | insertUser uid username firstName now =>
    exact fine_insertUser fine ⟨.inl rfl,.inl ⟨rfl,rfl⟩⟩ ran
  | insertPlaceholder uid now => exact fine_insertUser fine (freshUser_fine now) ran
  | updateSeen uid username firstName now =>
    cases ran
    exact fine_updateUser fine uid fun _ kept => {kept with}
  | setLanguage uid lang =>
    cases ran
    exact fine_updateUser fine uid fun _ kept => {kept with language := given}
  | acceptTerms uid =>
    cases ran
    exact fine_updateUser fine uid fun _ kept => {kept with}
  | setBanned uid banned reason =>
    cases ran
    exact fine_updateUser fine uid fun _ kept => {kept with}
  | markRequestNotified uid =>
    cases ran
    exact fine_updateUser fine uid fun _ kept => {kept with}
  | clearNotifyPending uid =>
    cases ran
    exact fine_updateUser fine uid fun _ kept => {kept with}
  | markNotified uid column =>
    cases ran
    refine fine_updateUser fine uid fun _ kept => ?_
    cases column with
    | n3 => exact {kept with}
    | n1 => exact {kept with}
    | nexp => exact {kept with}
  | deleteUser uid =>
    cases ran
    exact fine_deleteUser fine uid
  | grant uid expiry maxHosts =>
    cases ran
    exact fine_updateUser fine uid fun _ kept =>
      {kept with subscription := .inr ⟨expiry,rfl,given.1,given.2.1,given.2.2⟩}
  | revoke uid =>
    cases ran
    exact fine_updateUser fine uid fun _ kept => {kept with subscription := .inl ⟨rfl,rfl⟩}
  | setSetting key value =>
    cases ran
    exact fine_setSetting fine given
  | updateHost hostId owner fields =>
    obtain ⟨key,_,ran⟩ := Option.bind_eq_some_iff.mp ran
    exact fine_updateHost fine given ran
  | deleteHost hostId owner =>
    cases ran
    exact {fine with
      hosts := everyRow_deleteWhere fine.hosts
      hostIds := numbered_deleteWhere fine.hostIds}
  | setHostFingerprint hostId fingerprint =>
    cases ran
    exact fine_updateHosts fine fun _ kept => {kept with}
  | toggleFavorite hostId owner =>
    cases ran
    exact fine_updateHosts fine fun _ kept => {kept with}
  | setHostGroup hostId owner groupId =>
    cases ran
    exact fine_updateHosts fine fun _ kept => {kept with}
  | addGroup owner name =>
    cases ran
    exact {fine with
      groups := everyRow_insert fine.groups given
      groupIds := numbered_insert fine.groupIds}
  | deleteGroup gid owner =>
    cases ran
    exact {fine with
      hosts := everyRow_updateWhere fine.hosts fun _ kept => {kept with}
      hostIds := numbered_updateWhere fine.hostIds
      groups := everyRow_deleteWhere fine.groups
      groupIds := numbered_deleteWhere fine.groupIds}
  | addSnippet owner name command =>
    cases ran
    exact {fine with
      snippets := everyRow_insert fine.snippets ⟨given.1,given.2⟩
      snippetIds := numbered_insert fine.snippetIds}
  | deleteSnippet sid owner =>
    cases ran
    exact {fine with
      snippets := everyRow_deleteWhere fine.snippets
      snippetIds := numbered_deleteWhere fine.snippetIds}
  | addChannel channel =>
    cases ran
    exact fine_addChannel fine channel
  | removeChannel cid =>
    cases ran
    exact fine_removeChannel fine cid
  | log now action target detail =>
    cases ran
    exact {fine with logIds := numbered_insert fine.logIds}

end AtronixX.Rows
