import AtronixX.Library.Turns
import AtronixX.HostQuota

/-! The quotas of snippets and groups. They are read when a flow is opened, and the row is
inserted by a later update. What ties the two is the one flow of the user: one that inserts is
there only while there is room, except in the turn that inserts. -/
namespace AtronixX.ToolQuota
open Library.Transition Library.Programs Library.Tables Library.Owned Library.Turns Database
open PublicTarget Handlers AdminHandlers HandlerCalls
open HostQuota (restores Serialised)

def countSnippetsOf (uid : Int) (tables : Tables) : Nat :=
  countWhere (fun _ row => row.ownerId == uid) tables.snippets

def countGroupsOf (uid : Int) (tables : Tables) : Nat :=
  countWhere (fun _ row => row.ownerId == uid) tables.groups

theorem length_listSnippets (uid : Int) (tables : Tables) :
    (listSnippets uid tables).length = countSnippetsOf uid tables := by
  simp [listSnippets,countSnippetsOf,countWhere,rows,List.countP_eq_length_filter]

theorem length_listGroups (uid : Int) (tables : Tables) :
    (listGroups uid tables).length = countGroupsOf uid tables := by
  simp [listGroups,countGroupsOf,countWhere,rows,List.countP_eq_length_filter]

structure NoMore (uid : Int) (before after : Tables) : Prop where
  snippets : countSnippetsOf uid after ≤ countSnippetsOf uid before
  groups : countGroupsOf uid after ≤ countGroupsOf uid before

def insertsFor (uid : Int) : Write → Prop
  | .addGroup owner _ => owner = uid
  | .addSnippet owner _ _ => owner = uid
  | _ => False

section
variable {uid : Int} {tables after : Tables}

theorem NoMore.refl (tables : Tables) : NoMore uid tables tables := ⟨Nat.le_refl _,Nat.le_refl _⟩

theorem NoMore.trans {first second third : Tables} (one : NoMore uid first second)
    (two : NoMore uid second third) : NoMore uid first third :=
  ⟨Nat.le_trans two.snippets one.snippets,Nat.le_trans two.groups one.groups⟩

private theorem noMore_same (snippets : after.snippets = tables.snippets)
    (groups : after.groups = tables.groups) : NoMore uid tables after := by
  refine ⟨Nat.le_of_eq ?_,Nat.le_of_eq ?_⟩
  · rw [countSnippetsOf,snippets,countSnippetsOf]
  · rw [countGroupsOf,groups,countGroupsOf]

private theorem noMore_updateHost {id owner : Int} {columns : List HostColumn}
    (updated : updateHost id owner columns tables = some after) : NoMore uid tables after := by
  unfold updateHost at updated
  split at updated
  next =>
    cases updated
    exact .refl _
  next =>
    split at updated
    next =>
      obtain ⟨changed,_,rfl⟩ := Option.map_eq_some_iff.mp updated
      exact noMore_same rfl rfl
    next =>
      cases updated
      exact .refl _

private theorem noMore_insertUser {other : Int} {user : UserRow}
    (inserted : insertUser other user tables = some after) : NoMore uid tables after := by
  unfold insertUser at inserted
  split at inserted
  next => contradiction
  next =>
    cases inserted
    exact noMore_same rfl rfl

private theorem snippets_delete (condition : Int → SnippetRow → Bool) :
    countWhere (fun _ row => row.ownerId == uid) (deleteWhere condition tables.snippets) ≤
      countSnippetsOf uid tables :=
  countWhere_deleteWhere_le _ _ _

private theorem groups_delete (condition : Int → GroupRow → Bool) :
    countWhere (fun _ row => row.ownerId == uid) (deleteWhere condition tables.groups) ≤
      countGroupsOf uid tables :=
  countWhere_deleteWhere_le _ _ _

theorem count_addGroup (owner : Int) (name : String) :
    countGroupsOf uid (addGroup owner name tables) ≤
      countGroupsOf uid tables + if owner = uid then 1 else 0 := by
  have counted := countWhere_insert_le (fun (_ : Int) (row : GroupRow) => row.ownerId == uid)
    tables.groups (tables.sequence.groups + 1) ⟨owner,name⟩
  simpa [countGroupsOf,addGroup] using counted

theorem count_addSnippet (owner : Int) (name command : String) :
    countSnippetsOf uid (addSnippet owner name command tables) ≤
      countSnippetsOf uid tables + if owner = uid then 1 else 0 := by
  have counted := countWhere_insert_le (fun (_ : Int) (row : SnippetRow) => row.ownerId == uid)
    tables.snippets (tables.sequence.snippets + 1) ⟨owner,name,command⟩
  simpa [countSnippetsOf,addSnippet] using counted

theorem noMore_write {κ : Type} {aead : Library.Sealed.Aead κ} {vault : Crypto.Vault κ}
    {statement : Write} (spares : ¬insertsFor uid statement)
    (ran : statement.run aead vault tables = some after) : NoMore uid tables after := by
  cases statement with
  | updateHost id owner fields =>
    obtain ⟨key,_,ran⟩ := Option.bind_eq_some_iff.mp ran
    exact noMore_updateHost ran
  | insertUser other username firstName now => exact noMore_insertUser ran
  | insertPlaceholder other now => exact noMore_insertUser ran
  | deleteUser other =>
    cases ran
    exact ⟨snippets_delete _,groups_delete _⟩
  | deleteGroup gid owner =>
    cases ran
    exact ⟨Nat.le_refl _,groups_delete _⟩
  | deleteSnippet sid owner =>
    cases ran
    exact ⟨snippets_delete _,Nat.le_refl _⟩
  | addGroup owner name =>
    cases ran
    have counted := @count_addGroup uid tables owner name
    have differs : owner ≠ uid := spares
    rw [if_neg differs] at counted
    exact ⟨Nat.le_refl _,counted⟩
  | addSnippet owner name command =>
    cases ran
    have counted := @count_addSnippet uid tables owner name command
    have differs : owner ≠ uid := spares
    rw [if_neg differs] at counted
    exact ⟨counted,Nat.le_refl _⟩
  | _ =>
    cases ran
    exact noMore_same rfl rfl

end

section
variable {κ : Type}

structure Within (uid : Int) (world : World κ) : Prop where
  snippets : countSnippetsOf uid world.tables ≤ maxSnippets
  groups : countGroupsOf uid world.tables ≤ maxGroups

structure Room (uid : Int) (world : World κ) : Prop where
  within : Within uid world
  snippet : ∀ name, world.flows.lookup uid = some (.snipAdd name) →
    countSnippetsOf uid world.tables < maxSnippets
  group : world.flows.lookup uid = some .grpAdd → countGroupsOf uid world.tables < maxGroups

structure Others (uid : Int) (before after : World κ) : Prop where
  flow : after.flows.lookup uid = before.flows.lookup uid
  rows : NoMore uid before.tables after.tables

/-- A dictionary is written without a wait, so that no exception can end the turn there. -/
def waits {α : Type} : Effect α → Bool
  | .setFlow _ => false
  | _ => true

variable (config : Config) (uid : Int)

/-- No row of the user is inserted and his flow is not set. -/
def Foreign (who : Actor) : (α : Type) → Effect α → Prop
  | _,.write statement => ¬insertsFor uid statement
  | _,.setFlow _ => who.uid config ≠ uid
  | _,_ => True

variable {config uid}

theorem Others.refl (world : World κ) : Others uid world world := ⟨rfl,.refl _⟩

theorem Others.trans {first second third : World κ} (one : Others uid first second)
    (two : Others uid second third) : Others uid first third :=
  ⟨two.flow.trans one.flow,one.rows.trans two.rows⟩

theorem Within.others {before after : World κ} (within : Within uid before)
    (others : Others uid before after) : Within uid after :=
  ⟨Nat.le_trans others.rows.snippets within.snippets,
    Nat.le_trans others.rows.groups within.groups⟩

theorem Room.others {before after : World κ} (room : Room uid before)
    (others : Others uid before after) : Room uid after := by
  refine ⟨room.within.others others,?_,?_⟩
  · intro name flow
    rw [others.flow] at flow
    exact Nat.lt_of_le_of_lt others.rows.snippets (room.snippet name flow)
  · intro flow
    rw [others.flow] at flow
    exact Nat.lt_of_le_of_lt others.rows.groups (room.group flow)

variable {aead : Library.Sealed.Aead κ} {hkdf : Library.Sealed.Bytes → κ} {α : Type}
variable {effect : Effect α} {reply : Reply} {answer : α} {world after : World κ}

theorem others_perform {who : Actor} (foreign : Foreign config uid who α effect)
    (stays : restores effect = false)
    (performed : performAs config aead hkdf α who effect reply world = some (answer,after)) :
    Others uid world after := by
  cases effect with
  | write statement =>
    obtain ⟨tables,ran,same⟩ := Option.map_eq_some_iff.mp performed
    cases same
    exact ⟨rfl,noMore_write foreign ran⟩
  | addHost arguments =>
    obtain ⟨key,_,same⟩ := Option.map_eq_some_iff.mp performed
    cases same
    exact ⟨rfl,noMore_same rfl rfl⟩
  | setFlow flow =>
    have differs : uid ≠ who.uid config := Ne.symm foreign
    cases flow with
    | none =>
      cases performed
      exact ⟨AList.lookup_erase_ne differs,.refl _⟩
    | some flow =>
      cases performed
      exact ⟨AList.lookup_insert_ne differs,.refl _⟩
  | raise => contradiction
  | restoreBackup blob passphrase => contradiction
  | _ =>
    cases performed
    exact ⟨rfl,.refl _⟩

theorem set_flow {flow : Option Flow} {answer : Unit}
    (performed : performAs config aead hkdf _ (.update uid) (.setFlow flow) reply world =
      some (answer,after)) : after.tables = world.tables ∧ after.flows.lookup uid = flow := by
  cases flow with
  | none =>
    cases performed
    exact ⟨rfl,AList.lookup_erase _ _⟩
  | some flow =>
    cases performed
    exact ⟨rfl,AList.lookup_insert _⟩

theorem Within.same (within : Within uid world) (same : after.tables = world.tables) :
    Within uid after := by
  refine ⟨?_,?_⟩
  · rw [same]
    exact within.snippets
  · rw [same]
    exact within.groups

theorem Within.room {flow : Option Flow} (within : Within uid world)
    (same : world.flows.lookup uid = flow) (plain : flow.all (fun flow => !adds flow) = true) :
    Room uid world := by
  refine ⟨within,?_,?_⟩
  · intro name opened
    rw [← same,opened] at plain
    contradiction
  · intro opened
    rw [← same,opened] at plain
    contradiction

theorem Within.snippet {name : Option Text} (within : Within uid world)
    (flow : world.flows.lookup uid = some (.snipAdd name))
    (below : countSnippetsOf uid world.tables < maxSnippets) : Room uid world := by
  refine ⟨within,fun _ _ => below,?_⟩
  intro opened
  rw [flow] at opened
  cases opened

theorem Within.group (within : Within uid world) (flow : world.flows.lookup uid = some .grpAdd)
    (below : countGroupsOf uid world.tables < maxGroups) : Room uid world := by
  refine ⟨within,?_,fun _ => below⟩
  intro name opened
  rw [flow] at opened
  cases opened

theorem not_insertsFor {statement : Write} (plain : inserts statement = false) :
    ¬insertsFor uid statement := by
  intro inserted
  cases statement with
  | addGroup owner name => contradiction
  | addSnippet owner name command => contradiction
  | _ => exact inserted

theorem room_plain (plain : Plain true α effect) (stays : restores effect = false)
    (room : Room uid world)
    (performed : performAs config aead hkdf α (.update uid) effect reply world =
      some (answer,after)) : Room uid after := by
  cases effect with
  | setFlow flow =>
    obtain ⟨same,flow⟩ := set_flow performed
    exact (room.within.same same).room flow plain.2
  | write statement =>
    have foreign : Foreign config uid (.update uid) Unit (.write statement) := not_insertsFor plain
    exact room.others (others_perform foreign stays performed)
  | _ =>
    refine room.others (others_perform ?_ stays performed)
    trivial

end

section
variable {κ : Type} (aead : Library.Sealed.Aead κ) (hkdf : Library.Sealed.Bytes → κ)
variable (config : Config) (uid : Int)

def Unrestored (α : Type) (effect : Effect α) (_ _ : World κ) : Prop := restores effect = false

noncomputable def performUnrestored (α : Type) (actor : Actor) (effect : Effect α) (reply : Reply)
    (world : World κ) : Option (α × World κ) :=
  restrict (performAs config aead hkdf) Unrestored α actor effect reply world

abbrev Remains {α : Type} (handler : Handler α) (post : α → World κ → Prop)
    (world : World κ) : Prop :=
  Turn (performUnrestored aead hkdf config) (fun _ effect => waits effect) (.update uid)
    (Within uid) (Room uid) (Others uid) handler post world

/-- A turn with this handler, which ends with room if it began so. -/
def Mends {α : Type} (handler : Handler α) : Prop := ∀ world, Room uid world →
  Turn (performUnrestored aead hkdf config) (fun _ effect => waits effect) (.update uid)
    (Within uid) (Room uid) (Others uid) handler (fun _ world => Room uid world) world

variable {aead hkdf config uid} {α β : Type}

theorem Mends.bind {first : Handler α} {next : α → Handler β}
    (one : Mends aead hkdf config uid first)
    (two : ∀ value, Mends aead hkdf config uid (next value)) :
    Mends aead hkdf config uid (first >>= next) := by
  intro world room
  apply Turn.bind
  apply (one world room).imp
  intro value world room
  exact two value world room

theorem mends_plain {handler : Handler α} (plain : handler.Every (Plain true) fun _ => True) :
    Mends aead hkdf config uid handler := by
  intro world room
  refine turn_of_every plain ?_ (fun _ _ => Room.others) room
  intro β effect reply before answer after plain room performed
  obtain ⟨performed,stays⟩ := restrict_eq_some.mp performed
  have room := room_plain plain stays room performed
  exact ⟨room.within,room⟩

theorem mends_tame {admin : Int} {handler : Handler α} (tame : Tame admin uid true handler) :
    Mends aead hkdf config uid handler := mends_plain tame.plain

section
variable {post : α → World κ → Prop} {world : World κ}

private theorem turn_read {effect : Effect β} {read : World κ → β} {next : β → Handler α}
    (room : Room uid world)
    (reads : ∀ reply middle answer after,
      performAs config aead hkdf β (.update uid) effect reply middle = some (answer,after) →
        answer = read middle ∧ after = middle)
    (rest : ∀ middle, Others uid world middle →
      Remains aead hkdf config uid (next (read middle)) post middle) :
    Remains aead hkdf config uid (.run effect >>= next) post world := by
  apply turn_run_bind
  intro middle others
  have room := room.others others
  refine ⟨fun _ => room,?_⟩
  intro reply answer after performed
  obtain ⟨performed,_⟩ := restrict_eq_some.mp performed
  obtain ⟨rfl,rfl⟩ := reads reply middle answer after performed
  exact ⟨room.within,rest _ others⟩

private theorem turn_select {query : Tables → β} {next : β → Handler α} (room : Room uid world)
    (rest : ∀ middle, Others uid world middle →
      Remains aead hkdf config uid (next (query middle.tables)) post middle) :
    Remains aead hkdf config uid (Handlers.select query >>= next) post world := by
  refine turn_read room ?_ rest
  intro reply middle answer after performed
  cases performed
  exact ⟨rfl,rfl⟩

private theorem turn_show {next : Unit → Handler α} (room : Room uid world)
    (rest : ∀ middle, Others uid world middle →
      Remains aead hkdf config uid (next ()) post middle) :
    Remains aead hkdf config uid (show_ >>= next) post world := by
  refine turn_read room ?_ rest
  intro reply middle answer after performed
  cases performed
  exact ⟨rfl,rfl⟩

private theorem turn_getFlow {next : Option Flow → Handler α} (room : Room uid world)
    (rest : ∀ middle, Others uid world middle →
      Remains aead hkdf config uid (next (middle.flows.lookup uid)) post middle) :
    Remains aead hkdf config uid (getFlow >>= next) post world := by
  refine turn_read room ?_ rest
  intro reply middle answer after performed
  cases performed
  exact ⟨rfl,rfl⟩

private theorem turn_setFlow {flow : Option Flow} {next : Unit → Handler α}
    (within : Within uid world)
    (rest : ∀ middle after, Others uid world middle → after.tables = middle.tables →
      after.flows.lookup uid = flow → Within uid after →
        Remains aead hkdf config uid (next ()) post after) :
    Remains aead hkdf config uid (setFlow flow >>= next) post world := by
  apply turn_run_bind
  intro middle others
  refine ⟨fun waiting => by contradiction,?_⟩
  intro reply answer after performed
  obtain ⟨performed,_⟩ := restrict_eq_some.mp performed
  obtain ⟨same,flow⟩ := set_flow performed
  have within := (within.others others).same same
  exact ⟨within,rest middle after others same flow within⟩

private theorem turn_open {flow : Flow} (within : Within uid world)
    (room : ∀ after : World κ, Within uid after → NoMore uid world.tables after.tables →
      after.flows.lookup uid = some flow → Room uid after) :
    Remains aead hkdf config uid (setFlow (some flow)) (fun _ world => Room uid world) world := by
  have turn : Remains aead hkdf config uid (setFlow (some flow) >>= pure)
      (fun _ world => Room uid world) world := by
    refine turn_setFlow within fun middle after others same flow within => ?_
    refine room after within ?_ flow
    rw [same]
    exact others.rows
  exact turn

end

private theorem mends_show : Mends aead hkdf config uid show_ := mends_tame (@tame_show 0 uid true)

private theorem mends_adding {rows : Tables → List β} {limit : Nat} {flow : Flow}
    (shrinks : ∀ {before after}, NoMore uid before after →
      (rows after).length ≤ (rows before).length)
    (opens : ∀ {world : World κ}, Within uid world → world.flows.lookup uid = some flow →
      (rows world.tables).length < limit → Room uid world) :
    Mends aead hkdf config uid (do
      let found ← Handlers.select rows
      if found.length ≥ limit then show_
      else do
        show_
        setFlow (some flow)) := by
  intro world room
  refine turn_select room fun middle others => ?_
  have room := room.others others
  split
  next => exact mends_show middle room
  next below =>
    refine turn_show room fun later others => ?_
    have room := room.others others
    have below := Nat.lt_of_le_of_lt (shrinks others.rows) (Nat.lt_of_not_ge below)
    refine turn_open room.within fun after within less flow => opens within flow ?_
    exact Nat.lt_of_le_of_lt (shrinks less) below

theorem mends_cbSnipAdd : Mends aead hkdf config uid (cbSnipAdd uid) := by
  refine mends_adding ?_ ?_
  · intro before after less
    rw [length_listSnippets,length_listSnippets]
    exact less.snippets
  · intro world within opened below
    rw [length_listSnippets] at below
    exact within.snippet opened below

theorem mends_cbGrpAdd : Mends aead hkdf config uid (cbGrpAdd uid) := by
  refine mends_adding ?_ ?_
  · intro before after less
    rw [length_listGroups,length_listGroups]
    exact less.groups
  · intro world within opened below
    rw [length_listGroups] at below
    exact within.group opened below

/-- The insert may fill the table; the flow goes before anything else can happen. -/
private theorem turn_insert {statement : Write} {rest : Handler α} {world : World κ}
    (room : Room uid world)
    (fits : ∀ middle tables, Others uid world middle →
      statement.run aead middle.vault middle.tables = some tables →
        Within uid {middle with tables := tables})
    (mends : Mends aead hkdf config uid rest) :
    Remains aead hkdf config uid (write statement >>= fun _ => setFlow none >>= fun _ => rest)
      (fun _ world => Room uid world) world := by
  apply turn_run_bind
  intro middle others
  refine ⟨fun _ => room.others others,?_⟩
  intro reply answer after performed
  obtain ⟨performed,_⟩ := restrict_eq_some.mp performed
  obtain ⟨tables,ran,same⟩ := Option.map_eq_some_iff.mp performed
  cases same
  have within := fits middle tables others ran
  refine ⟨within,turn_setFlow within fun later after others same flow within => ?_⟩
  exact mends after (within.room flow rfl)

theorem mends_toolsFlowText (text : Text) :
    Mends aead hkdf config uid (toolsFlowText uid text) := by
  have shown : Mends aead hkdf config uid (do
      show_
      pure true) := mends_tame ((tame_show_bind _).mpr (@tame_pure 0 uid true _ true))
  intro world room
  refine turn_getFlow room fun middle others => ?_
  have room := room.others others
  split
  next opened =>
    split
    next => exact shown middle room
    next =>
      have below := room.group opened
      refine turn_insert room ?_
        (mends_tame ((@tame_cbGrpList 0 uid).bind fun _ => tame_pure true))
      intro later tables others ran
      cases ran
      have counted := @count_addGroup uid later.tables uid (String.ofList (Library.Text.strip text))
      have fewer := others.rows.groups
      rw [if_pos rfl] at counted
      refine ⟨(room.within.others others).snippets,?_⟩
      dsimp only
      omega
  next opened =>
    split
    next => exact shown middle room
    next =>
      have below := room.snippet none opened
      refine turn_setFlow room.within fun later after others same flow within => shown after ?_
      refine within.snippet flow ?_
      rw [same]
      exact Nat.lt_of_le_of_lt others.rows.snippets below
  next name opened =>
    split
    next => exact shown middle room
    next =>
      have below := room.snippet (some name) opened
      refine turn_insert room ?_
        (mends_tame ((@tame_cbSnipList 0 uid).bind fun _ => tame_pure true))
      intro later tables others ran
      cases ran
      have counted := @count_addSnippet uid later.tables uid (String.ofList name)
        (String.ofList (Library.Text.strip text))
      have fewer := others.rows.snippets
      rw [if_pos rfl] at counted
      refine ⟨?_,(room.within.others others).groups⟩
      dsimp only
      omega
  next => exact room

end

section
variable {config : Config} {admin uid other : Int} {flows : Bool} {α β : Type}

private theorem plain_bind {first : Handler α} {next : α → Handler β}
    (one : first.Every (Plain flows) fun _ => True)
    (two : ∀ value, (next value).Every (Plain flows) fun _ => True) :
    (first >>= next).Every (Plain flows) fun _ => True :=
  (every_bind _ _ _).mpr (Program.Every.imp one fun value _ => two value)

private theorem plain_show : show_.Every (Plain flows) fun _ => True :=
  ⟨trivial,fun _ => trivial⟩

theorem plain_saveHost (flow : Wizard.Flow) :
    (saveHost admin uid flow).Every (Plain true) fun _ => True := by
  refine Program.Every.call ⟨rfl,rfl⟩ fun _ => ?_
  refine plain_bind (@tame_limitReached admin uid).plain fun reached => ?_
  refine every_ite.mpr ⟨fun _ => plain_show,fun _ => ?_⟩
  split
  next => exact ⟨trivial,fun _ => trivial⟩
  next host _ =>
    refine Program.Every.call trivial fun now => Program.Every.call trivial fun nonces => ?_
    refine Program.Every.call trivial fun hid => Program.Every.call ⟨rfl,rfl⟩ fun _ => ?_
    exact (@tame_hostView admin uid true hid).plain

theorem plain_startAction (hid : Int) (kind : Callbacks.ConnectKind) :
    (startAction uid hid kind).Every (Plain true) fun _ => True := by
  refine Program.Every.call trivial fun allowed => Program.Every.call trivial fun free => ?_
  refine Program.Every.call trivial fun setting => ?_
  refine every_ite.mpr ⟨fun _ => plain_show,fun _ => Program.Every.call trivial fun host => ?_⟩
  cases host with
  | none => exact plain_show
  | some row =>
    exact plain_bind (@tame_resetChat 0 uid true).plain fun _ => ⟨trivial,fun _ => trivial⟩

theorem plain_cbTrustYes : (cbTrustYes uid).Every (Plain true) fun _ => True := by
  refine ⟨trivial,fun pending => ?_⟩
  cases pending with
  | none => exact plain_show
  | some pending => exact ⟨trivial,fun _ => ⟨rfl,fun _ => ⟨trivial,fun _ => trivial⟩⟩⟩

theorem plain_task (task : Task) : (Task.body task).Every (Plain false) fun _ => True := by
  cases task with
  | runAction hid =>
    refine ⟨trivial,fun _ => ⟨trivial,fun opened => ?_⟩⟩
    cases opened with
    | trusted => exact plain_show
    | failed => exact plain_show
    | untrusted fingerprint => exact ⟨trivial,fun _ => plain_show⟩
  | dispatchPending hid => exact plain_show
  | download => exact plain_show
  | upload => exact plain_show
  | sendBackup manual => exact (@tame_sendBackup 0 false manual).plain
  | broadcast => exact (@tame_broadcast 0 false).plain

theorem foreign_of_plain {who : Actor} {handler : Handler α}
    (plain : handler.Every (Plain flows) fun _ => True)
    (differs : flows = true → who.uid config ≠ uid) :
    handler.Every (Foreign config uid who) fun _ => True := by
  apply Program.Every.weaken plain
  intro β effect plain
  cases effect with
  | write statement => exact not_insertsFor plain
  | setFlow flow => exact differs plain.1
  | _ => trivial

theorem foreign_cases (differs : other ≠ uid) : Cases config other fun _ handler =>
    handler.Every (Foreign config uid (.update other)) fun _ => True := by
  have plain {α : Type} {handler : Handler α} (plain : handler.Every (Plain true) fun _ => True) :
      handler.Every (Foreign config uid (.update other)) fun _ => True :=
    foreign_of_plain plain fun _ => differs
  have opens (flow : Flow) : (setFlow (some flow)).Every (Foreign config uid (.update other))
      fun _ => True := ⟨differs,fun _ => trivial⟩
  have shown : show_.Every (Foreign config uid (.update other)) fun _ => True := plain plain_show
  refine ⟨?_,fun tame => plain tame.plain,fun flow => plain (plain_saveHost flow),
    fun hid kind => plain (plain_startAction hid kind),plain plain_cbTrustYes,?_,?_,?_⟩
  · intro α β first next one two
    exact (every_bind _ _ _).mpr (Program.Every.imp one fun value _ => two value)
  · refine ⟨trivial,fun snippets => every_ite.mpr ⟨fun _ => shown,fun _ => ?_⟩⟩
    exact ⟨trivial,fun _ => opens _⟩
  · refine ⟨trivial,fun groups => every_ite.mpr ⟨fun _ => shown,fun _ => ?_⟩⟩
    exact ⟨trivial,fun _ => opens _⟩
  · intro text
    have answered : (do
        show_
        pure true : Handler Bool).Every (Foreign config uid (.update other)) fun _ => True :=
      ⟨trivial,fun _ => trivial⟩
    refine Program.Every.call trivial fun flow => ?_
    split
    next =>
      refine every_ite.mpr ⟨fun _ => answered,fun _ => ?_⟩
      refine Program.Every.call differs fun _ => Program.Every.call differs fun _ => ?_
      exact plain ((@tame_cbGrpList 0 other).bind fun _ => tame_pure true).plain
    next =>
      refine every_ite.mpr ⟨fun _ => answered,fun _ => ?_⟩
      exact Program.Every.call differs fun _ => answered
    next name =>
      refine every_ite.mpr ⟨fun _ => answered,fun _ => ?_⟩
      refine Program.Every.call differs fun _ => Program.Every.call differs fun _ => ?_
      exact plain ((@tame_cbSnipList 0 other).bind fun _ => tame_pure true).plain
    next => trivial

end

section
variable {κ : Type} {aead : Library.Sealed.Aead κ} {hkdf : Library.Sealed.Bytes → κ}
variable {config : Config} {uid : Int}

theorem mends_cases : Cases config uid fun _ handler => Mends aead hkdf config uid handler where
  bind := Mends.bind
  tame := mends_tame
  save flow := mends_plain (plain_saveHost flow)
  start hid kind := mends_plain (plain_startAction hid kind)
  trust := mends_plain plain_cbTrustYes
  snippet := mends_cbSnipAdd
  group := mends_cbGrpAdd
  tools := mends_toolsFlowText

private theorem mends_body (request : Request) :
    Mends aead hkdf config uid (body config (.update uid) request) := by
  cases request with
  | gated update => exact mends_cases.process update
  | ungated update => exact mends_cases.deliver update
  | task task => exact fun _ room => room
  | tick => exact fun _ room => room

private theorem foreign_body {who : Actor} (differs : who ≠ .update uid) (request : Request) :
    (body config who request).Every (Foreign config uid who) fun _ => True := by
  cases who with
  | update other =>
    have differs : other ≠ uid := fun same => differs (congrArg Actor.update same)
    cases request with
    | gated update => exact (foreign_cases differs).process update
    | ungated update => exact (foreign_cases differs).deliver update
    | task task => trivial
    | tick => trivial
  | task owner =>
    cases request with
    | task task => exact foreign_of_plain (plain_task task) fun sets => by contradiction
    | gated update => trivial
    | ungated update => trivial
    | tick => trivial
  | housekeeping =>
    cases request with
    | tick =>
      exact foreign_of_plain (@tame_tick config.admin false).plain fun sets => by contradiction
    | gated update => trivial
    | ungated update => trivial
    | task task => trivial

/-- The handler waits at this call, if it has not returned. -/
def Waiting (state : Threads Effect Actor (World κ)) (index : Nat) : Prop :=
  match state.running[index]? with
  | some (_,.call effect _) => waits effect
  | _ => True

/-- Exceptions end a handler only where it waits. -/
def Raises (state : Threads Effect Actor (World κ)) : Move Actor Request Reply (World κ) → Prop
  | .abandon index => Waiting state index
  | _ => True

/-- A move of a run in which no backup is restored. -/
structure Meets (aead : Library.Sealed.Aead κ) (hkdf : Library.Sealed.Bytes → κ) (config : Config)
    (state : Threads Effect Actor (World κ)) (move : Move Actor Request Reply (World κ)) : Prop where
  serialised : Serialised state move
  raises : Raises state move
  unrestored : Respects (performAs config aead hkdf) Unrestored state move

instance (state : Threads Effect Actor (World κ)) (index : Nat) : Decidable (Waiting state index) :=
  match here : state.running[index]? with
  | none => .isTrue (by simp [Waiting,here])
  | some (_,.done _) => .isTrue (by simp [Waiting,here])
  | some (_,.call effect _) => decidable_of_iff (waits effect = true) (by simp [Waiting,here])

instance (state : Threads Effect Actor (World κ)) (move : Move Actor Request Reply (World κ)) :
    Decidable (Raises state move) :=
  match move with
  | .begin _ _ => .isTrue trivial
  | .advance _ _ => .isTrue trivial
  | .outside _ => .isTrue trivial
  | .abandon index => inferInstanceAs (Decidable (Waiting state index))

instance {α : Type} (effect : Effect α) (before after : World κ) :
    Decidable (Unrestored α effect before after) :=
  inferInstanceAs (Decidable (restores effect = false))

instance (state : Threads Effect Actor (World κ)) (move : Move Actor Request Reply (World κ)) :
    Decidable (Meets aead hkdf config state move) :=
  decidable_of_iff (_ ∧ _ ∧ _)
    ⟨fun all => ⟨all.1,all.2.1,all.2.2⟩,fun met => ⟨met.serialised,met.raises,met.unrestored⟩⟩

theorem quota_rules : Rules (performUnrestored aead hkdf config) (body config)
    (fun _ effect => waits effect) (· = .update uid) (Within uid) (Room uid) (Others uid)
    (Foreign config uid) (Meets aead hkdf config) where
  refl := Others.refl
  trans _ _ _ := Others.trans
  held _ _ := Within.others
  stable _ _ := Room.others
  others who β effect reply before answer after _ foreign performed := by
    obtain ⟨performed,stays⟩ := restrict_eq_some.mp performed
    exact others_perform foreign stays performed
  alone state who request met taking := by
    subst taking
    exact met.serialised
  turn who request state taking _ room := by
    subst taking
    exact mends_body request state room
  other who request differs := foreign_body differs request
  cut state index who β effect next met here _ := by
    have waiting : Waiting state index := met.raises
    simpa [Waiting,here] using waiting
  closed state shared met := met.serialised

end

/-- The user begins with no more rows than the limits, and with no open flow that finds no room,
such as no flow at all. Whatever updates follow, of him and of others, no row exceeds a limit. -/
theorem tool_quotas {κ : Type} (aead : Library.Sealed.Aead κ) (hkdf : Library.Sealed.Bytes → κ)
    (config : Config) (uid : Int) (first state : Threads Effect Actor (World κ))
    (idle : first.running = []) (room : Room uid first.shared)
    (reached : Reach (step (performAs config aead hkdf) (body config)) (Meets aead hkdf config)
      first state) :
    countSnippetsOf uid state.shared.tables ≤ maxSnippets ∧
      countGroupsOf uid state.shared.tables ≤ maxGroups := by
  have respects : ∀ state move, Meets aead hkdf config state move →
      Respects (performAs config aead hkdf) Unrestored state move := fun _ _ met => met.unrestored
  have within := (orderly_of_reach (@quota_rules κ aead hkdf config uid) idle room.within room
    (reach_restrict respects reached)).held
  exact ⟨within.snippets,within.groups⟩

/-- A user without groups is asked for a name. -/
def asked : Threads Effect Actor (World Library.Sealed.Bytes) :=
  ⟨⟨Database.empty,⟨some [],some []⟩,AList.singleton 7 .grpAdd,∅,[]⟩,[]⟩

theorem tool_quotas_named : ∃ state : Threads Effect Actor (World Library.Sealed.Bytes),
    countGroupsOf 7 state.shared.tables = 1 ∧ countGroupsOf 7 state.shared.tables ≤ maxGroups := by
  obtain ⟨state,run,one⟩ : ∃ state,
      (Move.begin (.update 7) (.ungated ⟨none,"",.text "web".toList⟩) ::
        List.replicate 7 (.advance 0 AdminPowers.plainReply)).foldlM
        (guarded (step (performAs AdminPowers.plainConfig (Library.Sealed.transparent id) id)
          (body AdminPowers.plainConfig))
          (Meets (Library.Sealed.transparent id) id AdminPowers.plainConfig)) asked = some state ∧
      countGroupsOf 7 state.shared.tables = 1 := ⟨_,rfl,rfl⟩
  have room : Room 7 asked.shared := by
    refine Within.group ⟨Nat.zero_le _,Nat.zero_le _⟩ rfl ?_
    decide
  exact ⟨state,one,(tool_quotas (Library.Sealed.transparent id) id AdminPowers.plainConfig 7 asked
    state rfl room (reach_of_run _ run)).2⟩

end AtronixX.ToolQuota
