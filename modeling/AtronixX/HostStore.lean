import AtronixX.Storage

/-! The host methods of `Database` as a store: for each owner a map from host ids to what
he saved. Ownership is checked by each statement and again by the associated data of the
secrets; both have to agree with the map. -/
namespace AtronixX.HostStore
open Library.Tables Library.Owned Library.Sealed Crypto Database Storage

structure SecretHost extends PublicHost where
  secret : String
  passphrase : Option String
  deriving DecidableEq, Repr

inductive Argument
  | field (field : HostField)
  | unknown (key : String)

/-- A key that is neither a secret nor in `_HOST_UPDATABLE` raises before the statement. -/
def known (arguments : List Argument) : Option (List HostField) :=
  arguments.mapM fun
    | .field field => some field
    | .unknown _ => none

inductive Call
  | addHost (arguments : HostArguments)
  | updateHost (hostId owner : Int) (arguments : List Argument)
  | deleteHost (hostId owner : Int)
  | toggleFavorite (hostId owner : Int)
  | setHostGroup (hostId owner : Int) (groupId : Option Int)
  | deleteUser (uid : Int)

def Call.owner : Call → Int
  | .addHost arguments => arguments.owner
  | .updateHost _ owner _ => owner
  | .deleteHost _ owner => owner
  | .toggleFavorite _ owner => owner
  | .setHostGroup _ owner _ => owner
  | .deleteUser uid => uid

section
variable {κ : Type} (aead : Aead κ) (key : κ)

def run (tables : Tables) : Call → Tables
  | .addHost arguments => (effect aead key (.addHost arguments) tables).getD tables
  | .updateHost hostId owner arguments =>
    ((known arguments).bind fun fields =>
      effect aead key (.updateHost hostId owner fields) tables).getD tables
  | .deleteHost hostId owner => Database.deleteHost hostId owner tables
  | .toggleFavorite hostId owner => Database.toggleFavorite hostId owner tables
  | .setHostGroup hostId owner groupId => Database.setHostGroup hostId owner groupId tables
  | .deleteUser uid => Database.deleteUser uid tables

def openPassphrase (owner : Int) (token : Option Token) : Except CryptoFault (Option String) :=
  match token with
  | none => .ok none
  | some (.text "") => .ok none
  | some token => (openToken aead key token (aad owner "passphrase")).map some

/-- The two decryptions of `get_host_decrypted`. -/
def reveal (owner : Int) (row : HostRow) : Except CryptoFault SecretHost := do
  let secret ← openToken aead key row.secret (aad owner "secret")
  let passphrase ← openPassphrase aead key owner row.passphrase
  pure {row.shown with secret := secret, passphrase := passphrase}

def getHostDecrypted (id owner : Int) (tables : Tables) :
    Except CryptoFault (Option SecretHost) :=
  match getHost id owner tables with
  | none => .ok none
  | some row => (reveal aead key owner row).map some

end

def getHostShown (id owner : Int) (tables : Tables) : Option PublicHost :=
  (getHost id owner tables).map HostRow.shown

structure Ideal where
  hosts : Int → Int → Option SecretHost
  last : Int

def Ideal.empty : Ideal := ⟨fun _ _ => none,0⟩

def Ideal.set (owner id : Int) (value : Option SecretHost) (ideal : Ideal) : Ideal :=
  {ideal with
    hosts := fun owner' id' => if owner' = owner ∧ id' = id then value else ideal.hosts owner' id'}

def nonEmpty (text : Option String) : Option String := text.filter (· != "")

def saved (arguments : HostArguments) : SecretHost where
  label := arguments.label
  ip := arguments.ip
  port := arguments.port
  username := arguments.username
  authType := arguments.authType
  hostFingerprint := none
  groupId := arguments.groupId
  favorite := false
  createdAt := arguments.now
  secret := arguments.secret
  passphrase := nonEmpty arguments.passphrase

def savePlain (column : PlainColumn) (host : SecretHost) : SecretHost :=
  match column with
  | .label text => {host with label := text}
  | .ip text => {host with ip := text}
  | .port number => {host with port := number}
  | .username text => {host with username := text}
  | .authType text => {host with authType := text}
  | .hostFingerprint fingerprint => {host with hostFingerprint := fingerprint}

/-- A host cannot be left without a secret. -/
def save (field : HostField) (host : SecretHost) : Option SecretHost :=
  match field with
  | .plain column => some (savePlain column host)
  | .secret text _ => (nonEmpty text).map (fun secret => {host with secret := secret})
  | .passphrase text _ => some {host with passphrase := nonEmpty text}

def saveAll (fields : List HostField) (host : SecretHost) : Option SecretHost :=
  fields.foldlM (fun host field => save field host) host

def Ideal.call (ideal : Ideal) : Call → Ideal
  | .addHost arguments =>
    {ideal.set arguments.owner (ideal.last + 1) (some (saved arguments)) with last := ideal.last + 1}
  | .updateHost hostId owner arguments => match known arguments with
    | none => ideal
    | some fields => ideal.set owner hostId
        ((ideal.hosts owner hostId).map (fun host => (saveAll fields host).getD host))
  | .deleteHost hostId owner => ideal.set owner hostId none
  | .toggleFavorite hostId owner => ideal.set owner hostId
      ((ideal.hosts owner hostId).map (fun host => {host with favorite := !host.favorite}))
  | .setHostGroup hostId owner groupId => ideal.set owner hostId
      ((ideal.hosts owner hostId).map (fun host => {host with groupId := groupId.filter (· != 0)}))
  | .deleteUser uid => {ideal with hosts := fun owner id => if owner = uid then none else ideal.hosts owner id}

section
variable {κ : Type} {aead : Aead κ} {key : κ}

theorem reveal_eq_ok_iff {owner : Int} {row : HostRow} {host : SecretHost} :
    reveal aead key owner row = .ok host ↔
      openToken aead key row.secret (aad owner "secret") = .ok host.secret ∧
        openPassphrase aead key owner row.passphrase = .ok host.passphrase ∧
        row.shown = host.toPublicHost := by
  unfold reveal
  cases openToken aead key row.secret (aad owner "secret") with
  | error fault => simp [bind,Except.bind]
  | ok secret =>
    cases openPassphrase aead key owner row.passphrase with
    | error fault => simp [bind,Except.bind]
    | ok passphrase =>
      simp only [bind,Except.bind,pure,Except.pure,Except.ok.injEq]
      constructor
      · intro same
        subst same
        exact ⟨rfl,rfl,rfl⟩
      · intro same
        obtain ⟨rfl,rfl,shown⟩ := same
        rw [shown]

private theorem openPassphrase_sealed (owner : Int) (nonce : Nonce) (text : Option String) :
    openPassphrase aead key owner
      (sealOptional aead key nonce text (aad owner "passphrase")) = .ok (nonEmpty text) := by
  cases text with
  | none => rfl
  | some value =>
    by_cases blank : value = ""
    · simp [sealOptional,nonEmpty,blank,openPassphrase,Option.filter]
    · have opened : openToken aead key
          (sealToken aead key nonce value (aad owner "passphrase")) (aad owner "passphrase") =
          .ok value := openToken_sealToken _ _ _ _ _
      simp only [sealOptional,if_neg blank,openPassphrase]
      unfold sealToken at opened ⊢
      simp [opened,nonEmpty,Option.filter,blank,Except.map]

theorem hostRow_reveals (arguments : HostArguments) :
    reveal aead key arguments.owner (hostRow aead key arguments) = .ok (saved arguments) := by
  apply reveal_eq_ok_iff.mpr
  refine ⟨?_,?_,rfl⟩
  · exact openToken_sealToken _ _ _ _ _
  · exact openPassphrase_sealed _ _ _

private theorem plain_reveals {owner : Int} {row : HostRow} {host : SecretHost}
    (column : PlainColumn) (read : reveal aead key owner row = .ok host) :
    reveal aead key owner (column.set row) = .ok (savePlain column host) := by
  obtain ⟨secret,passphrase,shown⟩ := reveal_eq_ok_iff.mp read
  apply reveal_eq_ok_iff.mpr
  obtain ⟨⟨label,ip,port,username,authType,fingerprint,groupId,favorite,createdAt⟩,plain,phrase⟩ := host
  cases shown
  cases column <;> exact ⟨secret,passphrase,rfl⟩

theorem column_reveals {owner : Int} {row : HostRow} {host : SecretHost} (field : HostField)
    (read : reveal aead key owner row = .ok host) :
    ((hostColumn aead key owner field).set row).map (reveal aead key owner) =
      (save field host).map .ok := by
  cases field with
  | plain column =>
    simp only [hostColumn,HostColumn.set,save,Option.map_some,plain_reveals column read]
  | secret text nonce =>
    obtain ⟨_,passphrase,shown⟩ := reveal_eq_ok_iff.mp read
    have stored (value : String) : reveal aead key owner
        {row with secret := sealToken aead key nonce value (aad owner "secret")} =
        .ok {host with secret := value} := by
      apply reveal_eq_ok_iff.mpr
      exact ⟨openToken_sealToken _ _ _ _ _,passphrase,shown⟩
    cases text with
    | none => rfl
    | some value =>
      by_cases blank : value = ""
      · simp [hostColumn,HostColumn.set,sealOptional,save,nonEmpty,Option.filter,blank]
      · simp [hostColumn,HostColumn.set,sealOptional,save,nonEmpty,Option.filter,blank,stored]
  | passphrase text nonce =>
    obtain ⟨secret,_,shown⟩ := reveal_eq_ok_iff.mp read
    have stored : reveal aead key owner
        {row with passphrase := sealOptional aead key nonce text (aad owner "passphrase")} =
        .ok {host with passphrase := nonEmpty text} := by
      apply reveal_eq_ok_iff.mpr
      exact ⟨secret,openPassphrase_sealed _ _ _,shown⟩
    simp [hostColumn,HostColumn.set,save,stored]

theorem columns_reveal {owner : Int} (fields : List HostField) {row : HostRow} {host : SecretHost}
    (read : reveal aead key owner row = .ok host) :
    (setColumns (fields.map (hostColumn aead key owner)) row).map (reveal aead key owner) =
      (saveAll fields host).map .ok := by
  induction fields generalizing row host with
  | nil => simp [setColumns,saveAll,read]
  | cons field fields ih =>
    have first := column_reveals field read
    simp only [setColumns,saveAll,List.map_cons,List.foldlM_cons]
    cases changed : save field host with
    | none =>
      rw [changed,Option.map_none,Option.map_eq_none_iff] at first
      simp [first]
    | some host' =>
      rw [changed,Option.map_some,Option.map_eq_some_iff] at first
      obtain ⟨row',set,read'⟩ := first
      simpa [set,setColumns,saveAll] using ih read'

private theorem column_owner {column : HostColumn} {row changed : HostRow}
    (set : column.set row = some changed) : changed.ownerId = row.ownerId := by
  cases column with
  | plain column =>
    cases set
    cases column <;> rfl
  | secret token =>
    obtain ⟨sealed,_,rfl⟩ := Option.map_eq_some_iff.mp set
    rfl
  | passphrase token =>
    cases set
    rfl

theorem columns_owner (columns : List HostColumn) {row changed : HostRow}
    (set : setColumns columns row = some changed) : changed.ownerId = row.ownerId := by
  induction columns generalizing row with
  | nil =>
    cases set
    rfl
  | cons column columns ih =>
    obtain ⟨next,first,rest⟩ := Option.bind_eq_some_iff.mp set
    exact (ih rest).trans (column_owner first)

end

theorem getHost_eq (id owner : Int) (tables : Tables) :
    getHost id owner tables = select HostRow.ownerId owner id tables.hosts := rfl

/-- The row that an update leaves: the changed one, or the old one when it is refused. -/
def updated (columns : List HostColumn) (row : HostRow) : HostRow :=
  (setColumns columns row).getD row

private theorem updated_owner (columns : List HostColumn) (row : HostRow) :
    (updated columns row).ownerId = row.ownerId := by
  unfold updated
  cases set : setColumns columns row with
  | none => rfl
  | some changed => exact columns_owner columns set

private theorem updateHost_cases (id owner : Int) (columns : List HostColumn) (tables : Tables) :
    ((updateHost id owner columns tables).getD tables = tables ∧
        ∀ row, getHost id owner tables = some row → updated columns row = row) ∨
      ∃ row, getHost id owner tables = some row ∧
        (updateHost id owner columns tables).getD tables =
          {tables with
            hosts := updateWhere (fun key _ => key == id) (fun _ => updated columns row) tables.hosts} := by
  unfold updateHost
  cases found : tables.hosts.lookup id with
  | none =>
    refine .inl ⟨rfl,?_⟩
    intro row owned
    rw [getHost_eq,select_eq_some_iff,found] at owned
    exact absurd owned.1 (Option.some_ne_none row).symm
  | some row =>
    by_cases owned : row.ownerId = owner
    · have present : getHost id owner tables = some row := by
        rw [getHost_eq,select_eq_some_iff]
        exact ⟨found,owned⟩
      cases set : setColumns columns row with
      | none =>
        refine .inl ⟨by simp [owned,set],?_⟩
        intro other also
        rw [present] at also
        cases also
        simp [updated,set]
      | some changed =>
        refine .inr ⟨row,present,?_⟩
        simp [owned,set,updated]
    · refine .inl ⟨by simp [owned],?_⟩
      intro other also
      rw [getHost_eq,select_eq_some_iff,found] at also
      cases also.1
      exact absurd also.2 owned

theorem getHost_updateHost (id owner : Int) (columns : List HostColumn) (tables : Tables)
    (id' owner' : Int) :
    getHost id' owner' ((updateHost id owner columns tables).getD tables) =
      if owner' = owner ∧ id' = id then (getHost id owner tables).map (updated columns)
      else getHost id' owner' tables := by
  rcases updateHost_cases id owner columns tables with ⟨same,still⟩ | ⟨row,present,changed⟩
  · rw [same]
    split
    next here =>
      obtain ⟨rfl,rfl⟩ := here
      cases found : getHost id' owner' tables with
      | none => rfl
      | some row => rw [Option.map_some,still row found]
    next => rfl
  · obtain ⟨found,owned⟩ := (select_eq_some_iff _).mp present
    have kept := updated_owner columns row
    rw [changed,present]
    unfold getHost
    rw [lookup_updateWhere]
    by_cases here : id' = id
    · subst here
      rw [found]
      by_cases same : owner' = owner
      · subst same
        simp [kept,owned,Option.filter]
      · simp [kept,owned,same,Ne.symm same,Option.filter]
    · simp [here]

theorem rows_updateHost (id owner : Int) (columns : List HostColumn) (tables : Tables)
    {owner' : Int} (differs : owner' ≠ owner) :
    rows HostRow.ownerId owner' ((updateHost id owner columns tables).getD tables).hosts =
      rows HostRow.ownerId owner' tables.hosts := by
  rcases updateHost_cases id owner columns tables with ⟨same,_⟩ | ⟨row,present,changed⟩
  · rw [same]
  · obtain ⟨found,owned⟩ := (select_eq_some_iff _).mp present
    rw [changed]
    apply rows_updateWhere
    intro key other stored here
    have is : key = id := by simpa using here
    rw [is,found] at stored
    cases stored
    rw [updated_owner,owned]
    exact ⟨Ne.symm differs,Ne.symm differs⟩

def Numbered (tables : Tables) : Prop :=
  ∀ id, tables.sequence.hosts < id → tables.hosts.lookup id = none

section
variable {κ : Type} {aead : Aead κ} {key : κ}

private theorem run_update (tables : Tables) (hostId owner : Int) (arguments : List Argument) :
    run aead key tables (.updateHost hostId owner arguments) = match known arguments with
      | none => tables
      | some fields =>
        (updateHost hostId owner (fields.map (hostColumn aead key owner)) tables).getD tables := by
  simp only [run]
  cases known arguments <;> rfl

theorem run_sequence (tables : Tables) (call : Call) :
    (run aead key tables call).sequence.hosts =
      match call with
      | .addHost _ => tables.sequence.hosts + 1
      | _ => tables.sequence.hosts := by
  cases call with
  | addHost arguments => rfl
  | updateHost hostId owner arguments =>
    rw [run_update]
    cases known arguments with
    | none => rfl
    | some fields =>
      rcases updateHost_cases hostId owner (fields.map (hostColumn aead key owner)) tables with
        ⟨same,_⟩ | ⟨row,_,changed⟩
      · exact congrArg (fun tables => tables.sequence.hosts) same
      · exact congrArg (fun tables => tables.sequence.hosts) changed
  | deleteHost hostId owner => rfl
  | toggleFavorite hostId owner => rfl
  | setHostGroup hostId owner groupId => rfl
  | deleteUser uid => rfl

theorem Numbered.run {tables : Tables} (numbered : Numbered tables) (call : Call) :
    Numbered (run aead key tables call) := by
  intro id above
  rw [run_sequence] at above
  cases call with
  | addHost arguments =>
    have differs : id ≠ tables.sequence.hosts + 1 := by
      simp only at above
      omega
    have unchanged : (HostStore.run aead key tables (.addHost arguments)).hosts.lookup id =
        tables.hosts.lookup id := AList.lookup_insert_ne differs
    rw [unchanged]
    apply numbered
    simp only at above
    omega
  | updateHost hostId owner arguments =>
    have free := numbered id above
    rw [run_update]
    cases known arguments with
    | none => exact free
    | some fields =>
      rcases updateHost_cases hostId owner (fields.map (hostColumn aead key owner)) tables with
        ⟨same,_⟩ | ⟨row,_,changed⟩
      · dsimp only
        rw [same]
        exact free
      · dsimp only
        rw [changed]
        simp [free]
  | deleteHost hostId owner => simp [HostStore.run,Database.deleteHost,numbered id above]
  | toggleFavorite hostId owner =>
    simp [HostStore.run,Database.toggleFavorite,Library.Owned.modify,numbered id above]
  | setHostGroup hostId owner groupId =>
    simp [HostStore.run,Database.setHostGroup,Library.Owned.modify,numbered id above]
  | deleteUser uid => simp [HostStore.run,Database.deleteUser,numbered id above]

variable (aead key) in
structure Refines (tables : Tables) (ideal : Ideal) : Prop where
  last : tables.sequence.hosts = ideal.last
  numbered : Numbered tables
  hosts : ∀ owner id, (getHost id owner tables).map (reveal aead key owner) =
    (ideal.hosts owner id).map .ok

private theorem changed_alike {owner : Int} {row : Option HostRow} {host : Option SecretHost}
    {change : HostRow → HostRow} {change' : SecretHost → SecretHost}
    (alike : ∀ row host, reveal aead key owner row = .ok host →
      reveal aead key owner (change row) = .ok (change' host))
    (same : row.map (reveal aead key owner) = host.map .ok) :
    (row.map change).map (reveal aead key owner) = (host.map change').map .ok := by
  cases host with
  | none =>
    rw [Option.map_none,Option.map_eq_none_iff] at same
    simp [same]
  | some host =>
    rw [Option.map_some,Option.map_eq_some_iff] at same
    obtain ⟨row',rfl,read⟩ := same
    simp [alike row' host read]

private theorem updated_alike {owner : Int} (fields : List HostField) (row : HostRow)
    (host : SecretHost) (read : reveal aead key owner row = .ok host) :
    reveal aead key owner (updated (fields.map (hostColumn aead key owner)) row) =
      .ok ((saveAll fields host).getD host) := by
  have columns := columns_reveal fields read
  unfold updated
  cases changed : saveAll fields host with
  | none =>
    rw [changed,Option.map_none,Option.map_eq_none_iff] at columns
    rw [columns]
    exact read
  | some host' =>
    rw [changed,Option.map_some,Option.map_eq_some_iff] at columns
    obtain ⟨row',set,read'⟩ := columns
    rw [set]
    exact read'

private theorem shown_alike {owner : Int} {row changed : HostRow} {host : SecretHost}
    (change : PublicHost → PublicHost) (read : reveal aead key owner row = .ok host)
    (secret : changed.secret = row.secret) (passphrase : changed.passphrase = row.passphrase)
    (shows : changed.shown = change row.shown) :
    reveal aead key owner changed = .ok {host with toPublicHost := change host.toPublicHost} := by
  obtain ⟨opened,opened',shown⟩ := reveal_eq_ok_iff.mp read
  apply reveal_eq_ok_iff.mpr
  rw [secret,passphrase]
  exact ⟨opened,opened',shows.trans (congrArg change shown)⟩

theorem Refines.call {tables : Tables} {ideal : Ideal} (refines : Refines aead key tables ideal)
    (call : Call) : Refines aead key (HostStore.run aead key tables call) (ideal.call call) := by
  obtain ⟨last,numbered,hosts⟩ := refines
  refine ⟨?_,numbered.run call,?_⟩
  · rw [run_sequence]
    cases call with
    | addHost arguments => simp [Ideal.call,last]
    | updateHost hostId owner arguments =>
      simp only [Ideal.call]
      split <;> exact last
    | deleteHost hostId owner => exact last
    | toggleFavorite hostId owner => exact last
    | setHostGroup hostId owner groupId => exact last
    | deleteUser uid => exact last
  · intro owner id
    cases call with
    | addHost arguments =>
      have inserted : getHost id owner (HostStore.run aead key tables (.addHost arguments)) =
          if owner = arguments.owner ∧ id = tables.sequence.hosts + 1 then
            some (hostRow aead key arguments) else getHost id owner tables :=
        select_insert HostRow.ownerId tables.hosts (numbered _ (by omega)) owner id
      rw [inserted,last]
      simp only [Ideal.call,Ideal.set]
      split
      next here =>
        obtain ⟨rfl,_⟩ := here
        rw [Option.map_some,hostRow_reveals]
        rfl
      next => exact hosts owner id
    | updateHost hostId owner' arguments =>
      rw [run_update]
      cases all : known arguments with
      | none => simpa [Ideal.call,all] using hosts owner id
      | some fields =>
        simp only [Ideal.call,all,Ideal.set]
        rw [getHost_updateHost]
        split
        next here =>
          obtain ⟨rfl,rfl⟩ := here
          exact changed_alike (updated_alike fields) (hosts owner id)
        next => exact hosts owner id
    | deleteHost hostId owner' =>
      have removed : getHost id owner (HostStore.run aead key tables (.deleteHost hostId owner')) =
          if owner = owner' ∧ id = hostId then none else getHost id owner tables :=
        select_remove HostRow.ownerId tables.hosts owner id
      rw [removed]
      simp only [Ideal.call,Ideal.set]
      split
      next => rfl
      next => exact hosts owner id
    | toggleFavorite hostId owner' =>
      have toggled : getHost id owner
          (HostStore.run aead key tables (.toggleFavorite hostId owner')) =
          if owner = owner' ∧ id = hostId then
            (getHost hostId owner' tables).map (fun row => {row with favorite := !row.favorite})
          else getHost id owner tables := by
        refine select_modify HostRow.ownerId tables.hosts ?_ owner id
        intro row
        rfl
      rw [toggled]
      simp only [Ideal.call,Ideal.set]
      split
      next here =>
        obtain ⟨rfl,rfl⟩ := here
        apply changed_alike _ (hosts owner id)
        intro row host read
        exact shown_alike (fun shown => {shown with favorite := !shown.favorite}) read rfl rfl rfl
      next => exact hosts owner id
    | setHostGroup hostId owner' groupId =>
      have moved : getHost id owner
          (HostStore.run aead key tables (.setHostGroup hostId owner' groupId)) =
          if owner = owner' ∧ id = hostId then
            (getHost hostId owner' tables).map (fun row =>
              {row with groupId := groupId.filter (· != 0)})
          else getHost id owner tables := by
        refine select_modify HostRow.ownerId tables.hosts ?_ owner id
        intro row
        rfl
      rw [moved]
      simp only [Ideal.call,Ideal.set]
      split
      next here =>
        obtain ⟨rfl,rfl⟩ := here
        apply changed_alike _ (hosts owner id)
        intro row host read
        exact shown_alike (fun shown => {shown with groupId := groupId.filter (· != 0)}) read rfl rfl rfl
      next => exact hosts owner id
    | deleteUser uid =>
      have removed : getHost id owner (HostStore.run aead key tables (.deleteUser uid)) =
          if owner = uid then none else getHost id owner tables :=
        select_removeAll HostRow.ownerId tables.hosts owner id
      rw [removed]
      simp only [Ideal.call]
      split
      next => rfl
      next => exact hosts owner id

theorem refines_run (calls : List Call) :
    Refines aead key (calls.foldl (HostStore.run aead key) Database.empty)
      (calls.foldl Ideal.call Ideal.empty) := by
  suffices extend : ∀ tables ideal, Refines aead key tables ideal →
      Refines aead key (calls.foldl (HostStore.run aead key) tables)
        (calls.foldl Ideal.call ideal) from
    extend _ _ ⟨rfl,fun _ _ => rfl,fun _ _ => rfl⟩
  induction calls with
  | nil => exact fun _ _ refines => refines
  | cons call calls ih =>
    intro tables ideal refines
    exact ih _ _ (refines.call call)

structure SameFor (owner : Int) (before after : Tables) : Prop where
  host : ∀ id, getHost id owner after = getHost id owner before
  rows : rows HostRow.ownerId owner after.hosts = rows HostRow.ownerId owner before.hosts

theorem SameFor.of_rows {owner : Int} {before after : Tables}
    (same : Library.Owned.rows HostRow.ownerId owner after.hosts =
      Library.Owned.rows HostRow.ownerId owner before.hosts) : SameFor owner before after := by
  refine ⟨?_,same⟩
  intro id
  apply Option.ext
  intro row
  have listed (tables : Tables) : getHost id owner tables = some row ↔
      (⟨id,row⟩ : Row Int HostRow) ∈ Library.Owned.rows HostRow.ownerId owner tables.hosts := by
    rw [mem_rows_iff]
    rfl
  rw [listed,listed,same]

theorem run_sameFor {tables : Tables} (numbered : Numbered tables) {owner : Int} {call : Call}
    (differs : call.owner ≠ owner) : SameFor owner tables (HostStore.run aead key tables call) := by
  apply SameFor.of_rows
  have differs := Ne.symm differs
  cases call with
  | addHost arguments =>
    refine (rows_insert HostRow.ownerId tables.hosts (numbered _ ?_) owner).trans (if_neg ?_)
    · omega
    · exact Ne.symm differs
  | updateHost hostId owner' arguments =>
    rw [run_update]
    cases known arguments with
    | none => rfl
    | some fields => exact rows_updateHost _ _ _ _ differs
  | deleteHost hostId owner' => exact rows_remove_other _ _ differs
  | toggleFavorite hostId owner' =>
    refine rows_modify_other HostRow.ownerId tables.hosts ?_ differs
    intro row
    rfl
  | setHostGroup hostId owner' groupId =>
    refine rows_modify_other HostRow.ownerId tables.hosts ?_ differs
    intro row
    rfl
  | deleteUser uid => exact rows_removeAll_other _ _ differs

end

theorem mem_listHosts_iff {owner id : Int} {groupId : Option Int} {tables : Tables}
    {host : PublicHost} : (id,host) ∈ listHosts owner groupId tables ↔
      ∃ row, getHost id owner tables = some row ∧ inGroup groupId row = true ∧
        row.shown = host := by
  unfold listHosts
  rw [List.mem_map]
  constructor
  · intro listed
    obtain ⟨⟨id',row⟩,member,same⟩ := listed
    cases same
    rw [List.mem_mergeSort,List.mem_filter,mem_rows_iff] at member
    exact ⟨row,member.1,member.2,rfl⟩
  · intro present
    obtain ⟨row,found,grouped,rfl⟩ := present
    refine ⟨⟨id,row⟩,?_,rfl⟩
    rw [List.mem_mergeSort,List.mem_filter,mem_rows_iff]
    exact ⟨found,grouped⟩

theorem listHosts_nodup (owner : Int) (groupId : Option Int) (tables : Tables) :
    ((listHosts owner groupId tables).map Prod.fst).Nodup := by
  unfold listHosts
  rw [List.map_map]
  have distinct : ((rows HostRow.ownerId owner tables.hosts).filter
      (fun row => inGroup groupId row.2)).NodupKeys :=
    (rows_nodupKeys HostRow.ownerId owner tables.hosts).sublist List.filter_sublist
  have sorted := (List.mergeSort_perm ((rows HostRow.ownerId owner tables.hosts).filter
    (fun row => inGroup groupId row.2)) hostLe).map Sigma.fst
  exact sorted.nodup_iff.mpr distinct

/-- What the store promises to one owner. -/
structure Promise {κ : Type} (aead : Aead κ) (key : κ) (tables : Tables) (ideal : Ideal)
    (owner : Int) : Prop where
  decrypted : ∀ id, getHostDecrypted aead key id owner tables = .ok (ideal.hosts owner id)
  shown : ∀ id, getHostShown id owner tables =
    (ideal.hosts owner id).map SecretHost.toPublicHost
  once : ((listHosts owner none tables).map Prod.fst).Nodup
  listed : ∀ id host, (id,host) ∈ listHosts owner none tables ↔
    (ideal.hosts owner id).map SecretHost.toPublicHost = some host
  alone : ∀ call : Call, call.owner ≠ owner →
    (∀ id, getHostDecrypted aead key id owner (run aead key tables call) =
        getHostDecrypted aead key id owner tables ∧
      getHostShown id owner (run aead key tables call) = getHostShown id owner tables) ∧
    listHosts owner none (run aead key tables call) = listHosts owner none tables

/-- The host store refines the map, for every owner and after every sequence of calls. -/
theorem hostStore_promise {κ : Type} (aead : Aead κ) (key : κ) (calls : List Call) (owner : Int) :
    Promise aead key (calls.foldl (run aead key) Database.empty)
      (calls.foldl Ideal.call Ideal.empty) owner := by
  have refines : Refines aead key (calls.foldl (run aead key) Database.empty)
      (calls.foldl Ideal.call Ideal.empty) := refines_run calls
  generalize calls.foldl (run aead key) Database.empty = tables at refines
  generalize calls.foldl Ideal.call Ideal.empty = ideal at refines
  have shown (id : Int) : getHostShown id owner tables =
      (ideal.hosts owner id).map SecretHost.toPublicHost := by
    have same := refines.hosts owner id
    unfold getHostShown
    cases saved : ideal.hosts owner id with
    | none =>
      rw [saved,Option.map_none,Option.map_eq_none_iff] at same
      rw [same]
      rfl
    | some host =>
      rw [saved,Option.map_some,Option.map_eq_some_iff] at same
      obtain ⟨row,found,read⟩ := same
      rw [found,Option.map_some,Option.map_some,(reveal_eq_ok_iff.mp read).2.2]
  constructor
  · intro id
    have same := refines.hosts owner id
    unfold getHostDecrypted
    cases saved : ideal.hosts owner id with
    | none =>
      rw [saved,Option.map_none,Option.map_eq_none_iff] at same
      rw [same]
    | some host =>
      rw [saved,Option.map_some,Option.map_eq_some_iff] at same
      obtain ⟨row,found,read⟩ := same
      simp [found,read,Except.map]
  · exact shown
  · exact listHosts_nodup owner none tables
  · intro id host
    rw [mem_listHosts_iff,← shown]
    simp [getHostShown,inGroup]
  · intro call differs
    have same : SameFor owner tables (run aead key tables call) :=
      run_sameFor refines.numbered differs
    refine ⟨?_,?_⟩
    · intro id
      unfold getHostDecrypted getHostShown
      rw [same.host]
      exact ⟨rfl,rfl⟩
    · unfold listHosts
      rw [same.rows]

end AtronixX.HostStore
