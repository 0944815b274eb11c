import AtronixX.AdminPowers

/-! The host quota of a subscription. The wizard reads the limit and adds the host in separate
calls; what lies between them is kept apart only by the order of updates of one chat. -/
namespace AtronixX.HostQuota
open Library.Transition Library.Programs Library.Tables Library.Owned Database HostStore
open Handlers AdminHandlers HandlerCalls

/-- `sub_max_hosts`; who has no row may have no host. -/
def maxHosts (uid : Int) (tables : Tables) : Int :=
  ((getUser uid tables).map UserRow.subMaxHosts).getD 0

def restores {α : Type} : Effect α → Bool
  | .restoreBackup _ _ => true
  | _ => false

section
variable (uid : Int) (tables : Tables)

private theorem count_modify (id owner : Int) {change : HostRow → HostRow}
    (keeps : ∀ row, (change row).ownerId = row.ownerId) :
    countHostsOf uid {tables with hosts := modify HostRow.ownerId owner id change tables.hosts} =
      countHostsOf uid tables := by
  apply countWhere_updateWhere
  intro key row _ _
  rw [keeps]

private theorem count_updateHost {id owner : Int} {columns : List HostColumn} {after : Tables}
    (updated : updateHost id owner columns tables = some after) :
    countHostsOf uid after = countHostsOf uid tables := by
  unfold updateHost at updated
  split at updated
  next =>
    cases updated
    rfl
  next row found =>
    split at updated
    next =>
      obtain ⟨changed,set,rfl⟩ := Option.map_eq_some_iff.mp updated
      apply countWhere_updateWhere
      intro key row' found' here
      obtain rfl : key = id := by simpa using here
      rw [found] at found'
      cases found'
      rw [columns_owner columns set]
    next =>
      cases updated
      rfl

private theorem count_delete (condition : Int → HostRow → Bool) :
    countWhere (fun _ row => row.ownerId == uid) (deleteWhere condition tables.hosts) ≤
      countHostsOf uid tables :=
  countWhere_deleteWhere_le _ _ _

private theorem count_insertUser {other : Int} {user : UserRow} {after : Tables}
    (inserted : insertUser other user tables = some after) :
    countHostsOf uid after = countHostsOf uid tables := by
  unfold insertUser at inserted
  split at inserted
  next => contradiction
  next =>
    cases inserted
    rfl

theorem count_insertHost (row : HostRow) : countHostsOf uid (insertHost row tables) ≤
    countHostsOf uid tables + if row.ownerId = uid then 1 else 0 := by
  have counted := countWhere_insert_le (fun (_ : Int) (row : HostRow) => row.ownerId == uid) tables.hosts
    (tables.sequence.hosts + 1) row
  simpa [countHostsOf,insertHost] using counted

theorem count_write {κ : Type} {aead : Library.Sealed.Aead κ} {vault : Crypto.Vault κ}
    {statement : Write} {after : Tables} (ran : statement.run aead vault tables = some after) :
    countHostsOf uid after ≤ countHostsOf uid tables := by
  cases statement with
  | updateHost id owner fields =>
    obtain ⟨key,_,ran⟩ := Option.bind_eq_some_iff.mp ran
    exact Nat.le_of_eq (count_updateHost uid tables ran)
  | deleteHost id owner =>
    cases ran
    exact count_delete uid tables _
  | deleteUser other =>
    cases ran
    exact count_delete uid tables _
  | toggleFavorite id owner =>
    cases ran
    exact Nat.le_of_eq (count_modify uid tables id owner fun _ => rfl)
  | setHostGroup id owner groupId =>
    cases ran
    exact Nat.le_of_eq (count_modify uid tables id owner fun _ => rfl)
  | setHostFingerprint id fingerprint =>
    cases ran
    exact Nat.le_of_eq (countWhere_updateWhere tables.hosts fun _ _ _ _ => rfl)
  | deleteGroup gid owner =>
    cases ran
    exact Nat.le_of_eq (countWhere_updateWhere tables.hosts fun _ _ _ _ => rfl)
  | insertUser other username firstName now => exact Nat.le_of_eq (count_insertUser uid tables ran)
  | insertPlaceholder other now => exact Nat.le_of_eq (count_insertUser uid tables ran)
  | _ =>
    cases ran
    exact Nat.le_refl _

end

def Elsewhere (uid : Int) : (α : Type) → Effect α → Prop
  | _,.addHost arguments => arguments.owner ≠ uid
  | _,_ => True

section
variable {κ : Type} {aead : Library.Sealed.Aead κ} {hkdf : Library.Sealed.Bytes → κ}

theorem count_perform {α : Type} {uid actor : Int} {effect : Effect α} {reply : Reply} {answer : α}
    {world after : World κ} (elsewhere : Elsewhere uid α effect) (stays : restores effect = false)
    (performed : perform aead hkdf α actor effect reply world = some (answer,after)) :
    countHostsOf uid after.tables ≤ countHostsOf uid world.tables := by
  cases effect with
  | write statement =>
    obtain ⟨tables,ran,same⟩ := Option.map_eq_some_iff.mp performed
    cases same
    exact count_write uid world.tables ran
  | addHost arguments =>
    obtain ⟨key,_,same⟩ := Option.map_eq_some_iff.mp performed
    cases same
    have other : (Storage.hostRow aead key arguments).ownerId ≠ uid := elsewhere
    have counted := count_insertHost uid world.tables (Storage.hostRow aead key arguments)
    rw [if_neg other] at counted
    exact counted
  | setFlow flow =>
    cases flow with
    | none =>
      cases performed
      exact Nat.le_refl _
    | some flow =>
      cases performed
      exact Nat.le_refl _
  | raise => contradiction
  | restoreBackup blob passphrase => contradiction
  | _ =>
    cases performed
    exact Nat.le_refl _

end

def Spares (uid : Int) {α : Type} (handler : Handler α) : Prop :=
  handler.Every (Elsewhere uid) fun _ => True

section
variable {uid admin actor : Int}

theorem spares_of_calls {α : Type} {handler : Handler α} (calls : Calls admin actor handler) :
    Spares uid handler := by
  apply Program.Every.weaken calls
  intro β effect ordinary
  cases effect with
  | addHost arguments => exact ordinary.elim
  | _ => trivial

theorem spares_of_tame {α : Type} {handler : Handler α} (tame : Tame admin actor true handler) :
    Spares uid handler := spares_of_calls tame.calls

theorem Spares.bind {α β : Type} {first : Handler α} {next : α → Handler β}
    (one : Spares uid first) (two : ∀ value, Spares uid (next value)) : Spares uid (first >>= next) :=
  (every_bind _ _ _).mpr (one.imp fun value _ => two value)

theorem spares_ite {α : Type} {condition : Prop} [Decidable condition] {one two : Handler α}
    (yes : Spares uid one) (no : Spares uid two) :
    Spares uid (if condition then one else two) :=
  every_ite.mpr ⟨fun _ => yes,fun _ => no⟩

theorem spares_ask {α : Type} (read : Reply → α) : Spares uid (ask read) :=
  ⟨trivial,fun _ => trivial⟩

theorem spares_select {α : Type} (query : Tables → α) : Spares uid (Handlers.select query) :=
  ⟨trivial,fun _ => trivial⟩

theorem spares_show : Spares uid show_ := spares_ask _

theorem spares_saveHost (differs : actor ≠ uid) (flow : Wizard.Flow) :
    Spares uid (saveHost admin actor flow) := by
  refine (spares_of_tame ((@tame_setFlow admin actor _).mpr rfl)).bind fun _ => ?_
  refine (spares_of_tame (@tame_limitReached admin actor)).bind fun reached => ?_
  refine spares_ite spares_show ?_
  split
  next => exact spares_of_tame (@tame_raise admin actor true _)
  next host _ =>
    refine (spares_ask _).bind fun now => ?_
    refine (spares_ask _).bind fun nonces => ?_
    refine Spares.bind ⟨differs,fun _ => trivial⟩ fun hid => ?_
    exact spares_of_tame ((tame_setFlow_bind _ _).mpr ⟨rfl,@tame_hostView admin actor true hid⟩)

theorem spares_startAction (hid : Int) (kind : Callbacks.ConnectKind) :
    Spares uid (startAction actor hid kind) := by
  refine (spares_ask _).bind fun allowed => ?_
  refine (spares_ask _).bind fun free => ?_
  refine (spares_select _).bind fun setting => ?_
  refine spares_ite spares_show ?_
  refine (spares_select _).bind fun host => ?_
  cases host with
  | none => exact spares_show
  | some row =>
    exact (spares_of_tame (@tame_resetChat 0 actor true)).bind fun _ => ⟨trivial,fun _ => trivial⟩

theorem spares_cbTrustYes : Spares uid (cbTrustYes actor) := by
  refine Spares.bind ⟨trivial,fun _ => trivial⟩ fun pending => ?_
  cases pending with
  | none => exact spares_show
  | some pending =>
    refine spares_show.bind fun _ => ?_
    exact Spares.bind ⟨trivial,fun _ => trivial⟩ fun _ => ⟨trivial,fun _ => trivial⟩

theorem spares_task (task : Task) : Spares uid (Task.body task) := by
  cases task with
  | runAction hid =>
    refine spares_show.bind fun _ => ?_
    refine (spares_ask _).bind fun opened => ?_
    cases opened with
    | trusted => exact spares_show
    | failed => exact spares_show
    | untrusted fingerprint => exact Spares.bind ⟨trivial,fun _ => trivial⟩ fun _ => spares_show
  | dispatchPending hid => exact spares_show
  | download => exact spares_show
  | upload => exact spares_show
  | sendBackup manual => exact spares_of_tame (@tame_sendBackup 0 true manual)
  | broadcast => exact spares_of_tame (@tame_broadcast 0 true)

end

section
variable {κ : Type}

/-- The mode stays paid, the limit of the user is not lowered and nothing is restored. -/
def Unlowered (uid : Int) (α : Type) (effect : Effect α) (before after : World κ) : Prop :=
  restores effect = false ∧ getMode after.tables = .paid ∧
    maxHosts uid before.tables ≤ maxHosts uid after.tables

def Paid (world : World κ) : Prop := getMode world.tables = .paid

structure Within (uid : Int) (actor : Actor) (before after : World κ) : Prop where
  limit : maxHosts uid before.tables ≤ maxHosts uid after.tables
  count : countHostsOf uid after.tables ≤ countHostsOf uid before.tables ∨
    actor = .update uid ∧ countHostsOf uid after.tables ≤ maxHosts uid after.tables

def Others (uid : Int) (actor : Actor) (before after : World κ) : Prop :=
  actor = .update uid → maxHosts uid before.tables ≤ maxHosts uid after.tables ∧
    countHostsOf uid after.tables ≤ countHostsOf uid before.tables

variable {aead : Library.Sealed.Aead κ} {hkdf : Library.Sealed.Bytes → κ} {config : Config}
variable {uid : Int} {actor : Actor}

noncomputable def performPaid (aead : Library.Sealed.Aead κ) (hkdf : Library.Sealed.Bytes → κ)
    (config : Config) (uid : Int) (α : Type) (actor : Actor) (effect : Effect α) (reply : Reply)
    (world : World κ) : Option (α × World κ) :=
  restrict (performAs config aead hkdf) (Unlowered uid) α actor effect reply world

theorem spares_kept {α : Type} {handler : Handler α} (spares : Spares uid handler) :
    Kept (performPaid aead hkdf config uid) actor Paid (Others uid actor) (Within uid actor)
      handler := by
  intro world
  apply Program.Every.keeps spares
  intro β effect reply before answer after elsewhere _ performed
  obtain ⟨performed,stays,paid,limit⟩ := restrict_eq_some.mp performed
  exact ⟨⟨limit,.inl (count_perform elsewhere stays performed)⟩,paid⟩

private theorem Within.refl (world : World κ) : Within uid actor world world :=
  ⟨Int.le_refl _,.inl (Nat.le_refl _)⟩

private theorem keeps_select {α β : Type} {query : Tables → α} {next : α → Handler β}
    {post : β → World κ → Prop} {world : World κ}
    (rest : ∀ middle, Others uid actor world middle → Paid middle →
      Keeps (performPaid aead hkdf config uid) actor Paid (Others uid actor) (Within uid actor)
        (next (query middle.tables)) post middle) :
    Keeps (performPaid aead hkdf config uid) actor Paid (Others uid actor) (Within uid actor)
      (Handlers.select query >>= next) post world := by
  apply keeps_run_bind
  intro middle others paid reply answer after performed
  obtain ⟨performed,_⟩ := restrict_eq_some.mp performed
  cases performed
  exact ⟨⟨Within.refl middle,paid⟩,rest middle others paid⟩

private theorem keeps_ask {α β : Type} {read : Reply → α} {next : α → Handler β}
    {post : β → World κ → Prop} {world : World κ}
    (rest : ∀ middle answer, Others uid actor world middle →
      Keeps (performPaid aead hkdf config uid) actor Paid (Others uid actor) (Within uid actor)
        (next answer) post middle) :
    Keeps (performPaid aead hkdf config uid) actor Paid (Others uid actor) (Within uid actor)
      (ask read >>= next) post world := by
  apply keeps_run_bind
  intro middle others paid reply answer after performed
  obtain ⟨performed,_⟩ := restrict_eq_some.mp performed
  cases performed
  exact ⟨⟨Within.refl middle,paid⟩,rest middle _ others⟩

def Room (uid : Int) (world : World κ) : Prop :=
  (countHostsOf uid world.tables : Int) < maxHosts uid world.tables

private theorem Room.others {before after : World κ} (room : Room uid before)
    (others : Others uid (.update uid) before after) : Room uid after := by
  obtain ⟨limit,count⟩ := others rfl
  unfold Room at room ⊢
  omega

/-- The limit read first still bounds the count read after it. -/
theorem limit_keeps (differs : uid ≠ config.admin) (world : World κ) :
    Keeps (performPaid aead hkdf config uid) (.update uid) Paid (Others uid (.update uid))
      (Within uid (.update uid)) (limitReached config.admin uid)
      (fun reached world => reached = false → Room uid world) world := by
  unfold limitReached
  rw [if_neg differs]
  apply keeps_select
  intro one _ paid
  rw [paid]
  apply keeps_select
  intro two _ _
  apply keeps_select
  intro three others _
  cases found : getUser uid two.tables with
  | none =>
    intro middle _ _ reply answer after performed
    obtain ⟨performed,_⟩ := restrict_eq_some.mp performed
    contradiction
  | some user =>
    intro below
    have limit := (others rfl).1
    rw [decide_eq_false_iff_not] at below
    simp only [maxHosts,found,Option.map_some,Option.getD_some] at limit
    unfold Room maxHosts
    omega

/-- Between the second check and the insert nobody else takes the room. -/
theorem save_kept (differs : uid ≠ config.admin) (flow : Wizard.Flow) :
    Kept (performPaid aead hkdf config uid) (.update uid) Paid (Others uid (.update uid))
      (Within uid (.update uid)) (saveHost config.admin uid flow) := by
  refine Kept.bind (spares_kept (spares_of_tame ((@tame_setFlow 0 uid _).mpr rfl))) fun _ => ?_
  intro world
  apply Keeps.bind
  apply (limit_keeps differs world).imp
  intro reached world room
  cases reached with
  | true => exact spares_kept spares_show world
  | false =>
    have room := room rfl
    simp only [Bool.false_eq_true,if_false]
    split
    next => exact spares_kept (spares_of_tame (@tame_raise 0 uid true _)) world
    next host _ =>
      apply keeps_ask
      intro middle now others
      have room := room.others others
      apply keeps_ask
      intro middle nonces others
      have room := room.others others
      apply keeps_run_bind
      intro middle others paid reply answer after performed
      have room := room.others others
      obtain ⟨performed,_,paid,limit⟩ := restrict_eq_some.mp performed
      obtain ⟨key,_,same⟩ := Option.map_eq_some_iff.mp performed
      cases same
      refine ⟨⟨⟨limit,.inr ⟨rfl,?_⟩⟩,paid⟩,?_⟩
      · have counted := count_insertHost uid middle.tables
          (Storage.hostRow aead key (hostArguments uid host now nonces))
        have own : (Storage.hostRow aead key (hostArguments uid host now nonces)).ownerId = uid := rfl
        rw [if_pos own] at counted
        unfold Room at room
        dsimp only at limit ⊢
        omega
      · exact spares_kept (spares_of_calls
          ((tame_setFlow_bind _ _).mpr ⟨rfl,@tame_hostView 0 uid true _⟩).calls) _

def Serialised (state : Threads Effect Actor (World κ)) :
    Move Actor Request Reply (World κ) → Prop
  | .begin (.update uid) _ => ∀ thread ∈ state.running, thread.1 ≠ .update uid
  | .begin _ _ => True
  | .advance _ _ => True
  | .abandon _ => True
  | .outside _ => False

instance (state : Threads Effect Actor (World κ)) (move : Move Actor Request Reply (World κ)) :
    Decidable (Serialised state move) :=
  match move with
  | .begin (.update uid) _ =>
    inferInstanceAs (Decidable (∀ thread ∈ state.running, thread.1 ≠ .update uid))
  | .begin (.task _) _ => inferInstanceAs (Decidable True)
  | .begin .housekeeping _ => inferInstanceAs (Decidable True)
  | .advance _ _ => inferInstanceAs (Decidable True)
  | .abandon _ => inferInstanceAs (Decidable True)
  | .outside _ => inferInstanceAs (Decidable False)

instance {α : Type} (uid : Int) (effect : Effect α) (before after : World κ) :
    Decidable (Unlowered uid α effect before after) :=
  inferInstanceAs (Decidable (_ ∧ _ ∧ _))

/-- A move in which the mode stays paid, the limit of the user is not lowered, and no backup is
restored. -/
def Meets (aead : Library.Sealed.Aead κ) (hkdf : Library.Sealed.Bytes → κ) (config : Config)
    (uid : Int) (state : Threads Effect Actor (World κ))
    (move : Move Actor Request Reply (World κ)) : Prop :=
  Serialised state move ∧ Respects (performAs config aead hkdf) (Unlowered uid) state move

instance (state : Threads Effect Actor (World κ)) (move : Move Actor Request Reply (World κ)) :
    Decidable (Meets aead hkdf config uid state move) :=
  inferInstanceAs (Decidable (_ ∧ _))

private theorem update_kept (differs : uid ≠ config.admin) (owner : Int) :
    Kinds (performPaid aead hkdf config uid) config Paid (Others uid (.update owner))
      (Within uid (.update owner)) owner := by
  refine ⟨fun handler calls => spares_kept (spares_of_calls calls),?_,
    fun hid kind => spares_kept (spares_startAction hid kind),spares_kept spares_cbTrustYes⟩
  intro flow
  by_cases same : owner = uid
  · subst same
    exact save_kept differs flow
  · exact spares_kept (spares_saveHost same flow)

private theorem body_kept (differs : uid ≠ config.admin) (request : Request) :
    Kept (performPaid aead hkdf config uid) actor Paid (Others uid actor) (Within uid actor)
      (body config actor request) := by
  have nothing : Kept (performPaid aead hkdf config uid) actor Paid (Others uid actor)
      (Within uid actor) (pure ()) := fun _ => trivial
  cases actor with
  | update owner =>
    cases request with
    | gated update => exact (update_kept differs owner).cases.process update
    | ungated update => exact (update_kept differs owner).cases.deliver update
    | task task => exact nothing
    | tick => exact nothing
  | task owner =>
    cases request with
    | task task => exact spares_kept (spares_task task)
    | gated update => exact nothing
    | ungated update => exact nothing
    | tick => exact nothing
  | housekeeping =>
    cases request with
    | tick => exact spares_kept (spares_of_tame (@tame_tick config.admin true))
    | gated update => exact nothing
    | ungated update => exact nothing
    | task task => exact nothing

def Apart (uid : Int) (one two : Actor) : Prop := ¬(one = .update uid ∧ two = .update uid)

theorem quota_promise (differs : uid ≠ config.admin) :
    Promise (performPaid aead hkdf config uid) (body config) Paid (Others uid) (Within uid)
      (Apart uid) (Meets aead hkdf config uid) where
  trans who one two three first second here := by
    obtain ⟨limit,count⟩ := first here
    obtain ⟨limit',count'⟩ := second here
    exact ⟨Int.le_trans limit limit',Nat.le_trans count' count⟩
  kept who other before after apart within here := by
    refine ⟨within.limit,?_⟩
    rcases within.count with less | ⟨same,_⟩
    · exact less
    · exact absurd ⟨same,here⟩ apart
  begun state who request met paid := by
    refine ⟨body_kept differs request state.shared,?_⟩
    intro thread member
    have serial := met.1
    cases who with
    | update owner =>
      have alone := serial thread member
      refine ⟨?_,?_⟩
      · intro both
        exact alone (both.2.trans both.1.symm)
      · intro both
        exact alone (both.1.trans both.2.symm)
    | task owner => simp [Apart]
    | housekeeping => simp [Apart]
  outside state shared met := met.1.elim

end

/-- While the mode is paid and the limit of a user is not lowered, no step of any run gives him
a host more than the limit; who was within the limit at first stays within. -/
theorem host_quota {κ : Type} (aead : Library.Sealed.Aead κ) (hkdf : Library.Sealed.Bytes → κ)
    (config : Config) (uid : Int) (differs : uid ≠ config.admin)
    (first state : Threads Effect Actor (World κ)) (idle : first.running = [])
    (paid : getMode first.shared.tables = .paid)
    (reached : Reach (step (performAs config aead hkdf) (body config)) (Meets aead hkdf config uid)
      first state) :
    ((countHostsOf uid first.shared.tables : Int) ≤ maxHosts uid first.shared.tables →
      (countHostsOf uid state.shared.tables : Int) ≤ maxHosts uid state.shared.tables) ∧
    ∀ move after, Meets aead hkdf config uid state move →
      step (performAs config aead hkdf) (body config) state move = some after →
      countHostsOf uid after.shared.tables ≤ countHostsOf uid state.shared.tables ∨
        (countHostsOf uid after.shared.tables : Int) ≤ maxHosts uid after.shared.tables := by
  have promise := @quota_promise κ aead hkdf config uid differs
  have refl (who : Actor) (world : World κ) : Others uid who world world :=
    fun _ => ⟨Int.le_refl _,Nat.le_refl _⟩
  have respects : ∀ state move, Meets aead hkdf config uid state move →
      Respects (performAs config aead hkdf) (Unlowered uid) state move := fun _ _ met => met.2
  have restricted := reach_restrict respects reached
  refine ⟨?_,?_⟩
  · apply related_of_reach (fun before after : World κ =>
      (countHostsOf uid before.tables : Int) ≤ maxHosts uid before.tables →
        (countHostsOf uid after.tables : Int) ≤ maxHosts uid after.tables) promise refl paid idle
      (fun _ within => within) (fun _ _ _ one two within => two (one within)) ?_ ?_ restricted
    · intro who before after within fits
      rcases within.count with less | ⟨_,fine⟩
      · have limit := within.limit
        omega
      · exact fine
    · intro state shared met
      exact met.1.elim
  · intro move after met taken
    have sound := sound_of_reach promise refl paid idle restricted
    rcases sound.step_shared refl (step_restrict met.2 taken) with
      same | ⟨index,reply,thread,rfl,here,within⟩ | rfl
    · rw [same]
      exact .inl (Nat.le_refl _)
    · exact within.count.imp_right And.right
    · exact met.1.elim

def confirmed : Wizard.Flow :=
  ⟨.confirm,⟨some "web".toList,some "1.1.1.1".toList,some 22,some "root".toList,
    some "password".toList,some "pw".toList,none,none⟩,5⟩

def ready : Threads Effect Actor (World Library.Sealed.Bytes) :=
  ⟨⟨{Database.empty with
      users := AList.singleton 7 {freshUser 0 with subMaxHosts := 1}
      settings := AList.singleton "mode" "paid"},
    ⟨some [],some []⟩,AList.singleton 7 (.addHost confirmed),∅,[]⟩,[]⟩

theorem host_quota_saved : ∃ state : Threads Effect Actor (World Library.Sealed.Bytes),
    countHostsOf 7 state.shared.tables = 1 ∧
      (countHostsOf 7 state.shared.tables : Int) ≤ maxHosts 7 state.shared.tables := by
  obtain ⟨state,run,one⟩ : ∃ state, (Move.begin (.update 7)
      (.ungated ⟨none,"",.callback "wz:save".toList⟩) ::
        List.replicate 9 (.advance 0 AdminPowers.plainReply)).foldlM
        (guarded (step (performAs AdminPowers.plainConfig (Library.Sealed.transparent id) id)
          (body AdminPowers.plainConfig))
          (Meets (Library.Sealed.transparent id) id AdminPowers.plainConfig 7)) ready = some state ∧
      countHostsOf 7 state.shared.tables = 1 := ⟨_,rfl,rfl⟩
  refine ⟨state,one,?_⟩
  exact (host_quota (Library.Sealed.transparent id) id AdminPowers.plainConfig 7 (by decide) ready state rfl rfl
    (reach_of_run _ run)).1 (by decide)

end AtronixX.HostQuota
