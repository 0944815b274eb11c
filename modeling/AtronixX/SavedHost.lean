import AtronixX.Connection
import AtronixX.HostStore
import AtronixX.Handlers

/-! From the wizard through the store to the connection: a host is connected to with exactly the
credentials with which the wizard tested it, whatever was done to other hosts in between. -/
namespace AtronixX.SavedHost
open Library.Sealed Crypto Storage HostStore
open Connection (Network openConnection openTrusted testConnection credentials)

/-- The `dict` that `_temp_host` makes. -/
def typed (target : Wizard.Target) : Connection.Host where
  ip := String.ofList target.ip
  port := target.port
  username := String.ofList target.username
  authType := String.ofList target.auth
  secret := String.ofList target.secret
  passphrase := target.passphrase.map String.ofList
  hostFingerprint := none

/-- What `_open_connection` and `open_trusted` read of the `dict` of `get_host_decrypted`. -/
def connected (host : SecretHost) : Connection.Host where
  ip := host.ip
  port := host.port
  username := host.username
  authType := host.authType
  secret := host.secret
  passphrase := host.passphrase
  hostFingerprint := host.hostFingerprint

/-- A call after which the host may be another or gone. Favorites and groups are not among them. -/
def Touches (owner id : Int) : Call → Prop
  | .updateHost hostId uid _ => hostId = id ∧ uid = owner
  | .deleteHost hostId uid => hostId = id ∧ uid = owner
  | .deleteUser uid => uid = owner
  | _ => False

/-- The id was given out, and under it the owner has a host with these credentials. -/
structure Holds (owner id : Int) (credentials : Connection.Host) (ideal : Ideal) : Prop where
  given : id ≤ ideal.last
  host : (ideal.hosts owner id).map connected = some credentials

theorem holds_saved (arguments : HostArguments) (ideal : Ideal) :
    Holds arguments.owner (ideal.last + 1) (connected (saved arguments))
      (ideal.call (.addHost arguments)) := by
  refine ⟨Int.le_refl _,?_⟩
  simp [Ideal.call,Ideal.set]

theorem Ideal.set_other {owner id owner' id' : Int} {value : Option SecretHost} {ideal : Ideal}
    (differs : ¬(owner' = owner ∧ id' = id)) :
    (ideal.set owner id value).hosts owner' id' = ideal.hosts owner' id' :=
  if_neg differs

section
variable {owner id : Int} {credentials : Connection.Host} {ideal : Ideal}

theorem Holds.set (holds : Holds owner id credentials ideal) {owner' id' : Int}
    {change : SecretHost → SecretHost} (same : ∀ host, connected (change host) = connected host) :
    Holds owner id credentials (ideal.set owner' id' ((ideal.hosts owner' id').map change)) := by
  refine ⟨holds.given,?_⟩
  by_cases here : owner = owner' ∧ id = id'
  · obtain ⟨rfl,rfl⟩ := here
    have host := holds.host
    rw [← host]
    simp only [Ideal.set,and_self,if_true,Option.map_map]
    exact Option.map_congr fun host _ => same host
  · rw [Ideal.set_other here]
    exact holds.host

theorem Holds.call (holds : Holds owner id credentials ideal) {call : Call}
    (untouched : ¬Touches owner id call) : Holds owner id credentials (ideal.call call) := by
  have other {owner' id' : Int} {value : Option SecretHost}
      (differs : ¬(id' = id ∧ owner' = owner)) : (ideal.set owner' id' value).hosts owner id =
        ideal.hosts owner id :=
    Ideal.set_other fun same => differs ⟨same.2.symm,same.1.symm⟩
  cases call with
  | addHost arguments =>
    have given := holds.given
    refine ⟨Int.le_trans given (Int.le_of_lt (Int.lt_succ _)),?_⟩
    have differs : ¬(ideal.last + 1 = id ∧ arguments.owner = owner) := by omega
    exact (congrArg (Option.map connected) (other differs)).trans holds.host
  | updateHost hostId uid arguments =>
    simp only [Ideal.call]
    split
    next => exact holds
    next => exact ⟨holds.given,(congrArg (Option.map connected) (other untouched)).trans holds.host⟩
  | deleteHost hostId uid =>
    exact ⟨holds.given,(congrArg (Option.map connected) (other untouched)).trans holds.host⟩
  | toggleFavorite hostId uid => exact holds.set fun host => rfl
  | setHostGroup hostId uid groupId => exact holds.set fun host => rfl
  | deleteUser uid =>
    refine ⟨holds.given,?_⟩
    have stays : (ideal.call (.deleteUser uid)).hosts owner id = ideal.hosts owner id :=
      if_neg fun same => untouched same.symm
    rw [stays]
    exact holds.host

theorem Holds.calls {calls : List Call} (holds : Holds owner id credentials ideal)
    (untouched : ∀ call ∈ calls, ¬Touches owner id call) :
    Holds owner id credentials (calls.foldl Ideal.call ideal) := by
  induction calls generalizing ideal with
  | nil => exact holds
  | cons call calls ih =>
    refine ih (holds.call (untouched call List.mem_cons_self)) ?_
    intro later member
    exact untouched later (List.mem_cons_of_mem _ member)

end

theorem tempHost_of_saved {data : Wizard.Data} {host : Wizard.Host}
    (complete : Wizard.savedHost data = .ok host) : Wizard.tempHost data = .ok host.toTarget := by
  unfold Wizard.savedHost at complete
  cases label : Wizard.item "label" data.label with
  | error raised =>
    rw [label] at complete
    contradiction
  | ok text =>
    cases target : Wizard.tempHost data with
    | error raised =>
      rw [label,target] at complete
      contradiction
    | ok target =>
      rw [label,target] at complete
      cases complete
      rfl

theorem openConnection_saved {κ : Type} (network : Network κ) (uid : Int) (host : Wizard.Host)
    (now : Int) (nonces : Nonce × Nonce) (timeout : Nat) :
    openConnection network (connected (saved (Handlers.hostArguments uid host now nonces)))
      timeout = openConnection network (typed host.toTarget) timeout := by
  have phrase : (nonEmpty (host.passphrase.map String.ofList)).filter (· ≠ "") =
      (host.passphrase.map String.ofList).filter (· ≠ "") := by
    cases host.passphrase with
    | none => rfl
    | some text => by_cases blank : String.ofList text = "" <;> simp [nonEmpty,blank,Option.filter]
  have same : credentials network (connected (saved (Handlers.hostArguments uid host now nonces))) =
      credentials network (typed host.toTarget) := by
    unfold Connection.credentials
    simp only [connected,saved,Handlers.hostArguments,typed,phrase]
    rfl
  unfold Connection.openConnection
  rw [same]
  rfl

theorem untrusted_of_unknown {κ : Type} (network : Network κ) {host : Connection.Host}
    (unknown : host.hostFingerprint = none) (connection : Connection.Connected) :
    (openTrusted network host).result ≠ .trusted connection := by
  simp only [Connection.openTrusted,unknown]
  split <;> simp

/-- A host saved by the wizard, after any calls that neither edit nor delete it: it is read back,
every connection to it is made as the one of the wizard's test, and none is trusted until its key
has been approved. -/
theorem tested_as_saved {κ γ : Type} (aead : Aead κ) (key : κ) (network : Network γ)
    (before after : List Call) (uid : Int) (data : Wizard.Data) (host : Wizard.Host)
    (complete : Wizard.savedHost data = .ok host) (now : Int) (nonces : Nonce × Nonce) (id : Int)
    (given : id = (before.foldl (run aead key) Database.empty).sequence.hosts + 1)
    (untouched : ∀ call ∈ after, ¬Touches uid id call) :
    ∃ target row, Wizard.tempHost data = .ok target ∧
      getHostDecrypted aead key id uid
        ((before ++ .addHost (Handlers.hostArguments uid host now nonces) :: after).foldl
          (run aead key) Database.empty) = .ok (some row) ∧
      (∀ timeout, openConnection network (connected row) timeout =
        openConnection network (typed target) timeout) ∧
      testConnection network (connected row) = testConnection network (typed target) ∧
      ∀ connection, (openTrusted network (connected row)).result ≠ .trusted connection := by
  have last : id = (before.foldl Ideal.call Ideal.empty).last + 1 := by
    rw [given,(@refines_run κ aead key before).last]
  subst last
  have promise := hostStore_promise aead key
    (before ++ .addHost (Handlers.hostArguments uid host now nonces) :: after) uid
  have holds := (holds_saved (Handlers.hostArguments uid host now nonces)
    (before.foldl Ideal.call Ideal.empty)).calls untouched
  have ran : (before ++ .addHost (Handlers.hostArguments uid host now nonces) :: after).foldl
      Ideal.call Ideal.empty = after.foldl Ideal.call ((before.foldl Ideal.call Ideal.empty).call
        (.addHost (Handlers.hostArguments uid host now nonces))) := by
    rw [List.foldl_append,List.foldl_cons]
  obtain ⟨row,found,same⟩ := Option.map_eq_some_iff.mp holds.host
  have temp := tempHost_of_saved complete
  have attempts (timeout : Nat) : openConnection network (connected row) timeout =
      openConnection network (typed host.toTarget) timeout := by
    rw [same]
    exact openConnection_saved network uid host now nonces timeout
  refine ⟨host.toTarget,row,temp,?_,attempts,?_,?_⟩
  · rw [promise.decrypted,ran]
    exact congrArg Except.ok found
  · unfold Connection.testConnection
    rw [attempts 8]
  · intro connection
    refine untrusted_of_unknown network ?_ connection
    rw [same]
    rfl

def web : Wizard.Data :=
  ⟨some "web".toList,some "1.1.1.1".toList,some 22,some "root".toList,some "password".toList,
    some "pw".toList,none,none⟩

def webHost : Wizard.Host :=
  ⟨⟨"1.1.1.1".toList,22,"root".toList,"password".toList,"pw".toList,none⟩,"web".toList⟩

def zeros : Nonce × Nonce :=
  (⟨List.replicate 12 0,length_zeros⟩,⟨List.replicate 12 0,length_zeros⟩)

theorem tested_as_saved_web : ∃ target row, Wizard.tempHost web = .ok target ∧
    getHostDecrypted (transparent id) ([] : Bytes) 2 7
      ([.addHost (Handlers.hostArguments 8 webHost 0 zeros),
        .addHost (Handlers.hostArguments 7 webHost 0 zeros),.toggleFavorite 2 7].foldl
          (run (transparent id) []) Database.empty) = .ok (some row) ∧
    testConnection Connection.impostor (connected row) =
      testConnection Connection.impostor (typed target) := by
  obtain ⟨target,row,temp,found,_,same,_⟩ := tested_as_saved (transparent id) ([] : Bytes)
    Connection.impostor [.addHost (Handlers.hostArguments 8 webHost 0 zeros)] [.toggleFavorite 2 7]
    7 web webHost rfl 0 zeros 2 rfl (by simp [Touches])
  exact ⟨target,row,temp,found,same⟩

end AtronixX.SavedHost
