import AtronixX.Connection
import AtronixX.Library.AddressText
import AtronixX.Library.Text
import Mathlib.Data.List.Sort

/-! The guard on connection targets: `resolve_public` of `core/security.py`, with the list
`BLOCKED_IPS` that `config.py` reads. The list is compared with the text of an address,
so that it holds an address only in the spelling that `str` gives. -/
namespace AtronixX.PublicTarget
open Connection
open Library.Address Library.Text

abbrev Text := List Char

/-- `settings.blocked_ips`, of the variable `BLOCKED_IPS`. -/
def blockedIps (blockedEnv : Option Text) : List Text :=
  (((blockedEnv.getD []).splitOn ',').filter fun x => strip x ≠ []).map strip

/-- `addrs.sort`, which keeps the order of addresses of one version. -/
def sortByVersion (addrs : List IPAddress) : List IPAddress :=
  addrs.insertionSort fun first second => first.version ≤ second.version

theorem mem_sortByVersion {ip : IPAddress} {addrs : List IPAddress} :
    ip ∈ sortByVersion addrs ↔ ip ∈ addrs :=
  List.mem_insertionSort _

inductive DnsFault
  | osError (message : String)
  | other

/-- The addresses that a name server answers with, as `info[4][0]`. -/
abbrev Resolver := Text → Except DnsFault (List Text)

section Guard
variable (registry : Registry) (blocked : List Text) (getaddrinfo : Resolver)

def checkIp (ip : IPAddress) : Except ConnectFault IPAddress :=
  let ip := ip.unmapped
  if ¬ip.IsGlobal registry ∨ ip.str ∈ blocked then .error (.targetBlocked "blocked target")
  else .ok ip

/-- `ip_address` of an answer, its scope id split off. -/
def readAnswer (info : Text) : Option IPAddress := ipAddress (info.takeWhile (· ≠ '%'))

def checkAnswer (info : Text) : Except ConnectFault IPAddress :=
  match readAnswer info with
  | some ip => checkIp registry blocked ip
  -- The `ValueError` of an answer is not caught.
  | none => .error .other

def resolvePublic (target : Text) : Except ConnectFault Text :=
  match ipAddress (strip target) with
  | some ip => (checkIp registry blocked ip).map IPAddress.str
  | none =>
    match getaddrinfo target with
    | .error (.osError message) => .error (.connectError ("DNS: " ++ message))
    | .error .other => .error .other
    | .ok infos => do
      let addrs ← infos.mapM (checkAnswer registry blocked)
      match sortByVersion addrs with
      | [] => .error (.connectError "DNS: no address")
      | first :: _ => .ok first.str

/-- Some entry denotes the address, however the two are written. -/
def Listed (address : IPAddress) : Prop :=
  ∃ entry ∈ blocked, ∃ denoted, ipAddress entry = some denoted ∧ denoted.value = address.value

def Public (address : IPAddress) : Prop :=
  address.value.IsGlobal registry ∧ ¬Listed blocked address

/-- The addresses that a target leads to, when each of them can be read. -/
def addresses (target : Text) : Option (List IPAddress) :=
  match ipAddress (strip target) with
  | some ip => some [ip]
  | none =>
    match getaddrinfo target with
    | .error _ => none
    | .ok infos => infos.mapM readAnswer

/-- When an entry denotes an address that the target leads to, one of these addresses is not
global or stands among the entries in the spelling of `str`. -/
def Spelled (target : Text) : Prop :=
  ∀ found, addresses getaddrinfo target = some found → (∃ ip ∈ found, Listed blocked ip) →
    ∃ ip ∈ found, ¬ip.unmapped.IsGlobal registry ∨ ip.unmapped.str ∈ blocked

end Guard

/-- Two networks in which a connection to `ip` goes the same way, and perhaps no other. -/
structure AgreeAt {κ : Type} (network other : Network κ) (ip : Except ConnectFault String) : Prop where
  resolvePublic : other.resolvePublic = network.resolvePublic
  importPrivateKey : other.importPrivateKey = network.importPrivateKey
  digest : other.digest = network.digest
  connect : ∀ arguments, .ok arguments.host = ip →
    other.connect arguments = network.connect arguments

def resolver (registry : Registry) (blocked : List Text) (getaddrinfo : Resolver)
    (target : String) : Except ConnectFault String :=
  (resolvePublic registry blocked getaddrinfo target.toList).map String.ofList

/-- The target is guarded: an address that is returned is public, it is the only one that
`_open_connection` connects to, and an answer with an address that is not public gives none. -/
structure Guarded (registry : Registry) (blockedEnv : Option Text) (getaddrinfo : Resolver)
    (target : Text) : Prop where
  returned : ∀ text, resolvePublic registry (blockedIps blockedEnv) getaddrinfo target = .ok text →
    ∃ address, ipAddress text = some address ∧ Public registry (blockedIps blockedEnv) address
  connected : ∀ {κ : Type} (network other : Network κ) (host : Host) (timeout : Nat),
    host.ip.toList = target →
    network.resolvePublic = resolver registry (blockedIps blockedEnv) getaddrinfo →
    AgreeAt network other (network.resolvePublic host.ip) →
    openConnection other host timeout = openConnection network host timeout
  refused : ∀ infos, ipAddress (strip target) = none → getaddrinfo target = .ok infos →
    ∀ info ∈ infos, ∀ address, readAnswer info = some address →
      ¬Public registry (blockedIps blockedEnv) address →
      ∀ text, resolvePublic registry (blockedIps blockedEnv) getaddrinfo target ≠ .ok text

section Results
variable {registry : Registry} {blocked : List Text} {getaddrinfo : Resolver}

private theorem checkIp_ok {ip checked : IPAddress} :
    checkIp registry blocked ip = .ok checked ↔
      (ip.unmapped.IsGlobal registry ∧ ip.unmapped.str ∉ blocked) ∧ ip.unmapped = checked := by
  unfold checkIp
  dsimp only
  split
  next refused =>
    constructor
    · intro ok
      contradiction
    · intro passed
      exact absurd refused (not_or.mpr ⟨not_not_intro passed.1.1,passed.1.2⟩)
  next passed =>
    obtain ⟨isGlobal,absent⟩ := not_or.mp passed
    simp [not_not.mp isGlobal,absent]

private theorem checkAnswer_ok {info : Text} {checked : IPAddress} :
    checkAnswer registry blocked info = .ok checked ↔
      ∃ ip, readAnswer info = some ip ∧
        (ip.unmapped.IsGlobal registry ∧ ip.unmapped.str ∉ blocked) ∧ ip.unmapped = checked := by
  unfold checkAnswer
  cases readAnswer info with
  | none => simp
  | some ip => simp [checkIp_ok]

private theorem checkAnswers_ok {infos : List Text} {checked : List IPAddress} :
    infos.mapM (checkAnswer registry blocked) = .ok checked ↔
      ∃ found, infos.mapM readAnswer = some found ∧
        (∀ ip ∈ found, ip.unmapped.IsGlobal registry ∧ ip.unmapped.str ∉ blocked) ∧
        found.map IPAddress.unmapped = checked := by
  induction infos generalizing checked with
  | nil =>
    simp only [List.mapM_nil]
    constructor
    · intro ok
      exact ⟨[],rfl,by simp,Except.ok.inj ok⟩
    · rintro ⟨found,read,_,same⟩
      obtain rfl := Option.some.inj read
      exact congrArg Except.ok same
  | cons info infos ih =>
    rw [List.mapM_cons,List.mapM_cons]
    constructor
    · intro ok
      cases first : checkAnswer registry blocked info with
      | error fault => simp [first,bind,Except.bind] at ok
      | ok head =>
        cases rest : infos.mapM (checkAnswer registry blocked) with
        | error fault => simp [first,rest,bind,Except.bind] at ok
        | ok tail =>
          obtain ⟨ip,read,passed,same⟩ := checkAnswer_ok.mp first
          obtain ⟨found,reads,passes,sames⟩ := ih.mp rest
          have checkedEq : head :: tail = checked := by
            simpa [first,rest,bind,Except.bind,pure,Except.pure] using ok
          refine ⟨ip :: found,by simp [read,reads],?_,by simp [same,sames,checkedEq]⟩
          exact List.forall_mem_cons.mpr ⟨passed,passes⟩
    · rintro ⟨found,read,passes,same⟩
      cases first : readAnswer info with
      | none => simp [first] at read
      | some ip =>
        cases rest : infos.mapM readAnswer with
        | none => simp [first,rest] at read
        | some others =>
          obtain rfl : ip :: others = found := by simpa [first,rest] using read
          obtain ⟨passed,passesRest⟩ := List.forall_mem_cons.mp passes
          rw [checkAnswer_ok.mpr ⟨ip,first,passed,rfl⟩,ih.mpr ⟨others,rest,passesRest,rfl⟩]
          exact congrArg Except.ok same

theorem resolvePublic_ok {target text : Text}
    (ok : resolvePublic registry blocked getaddrinfo target = .ok text) :
    ∃ found, addresses getaddrinfo target = some found ∧
      (∀ ip ∈ found, ip.unmapped.IsGlobal registry ∧ ip.unmapped.str ∉ blocked) ∧
      ∃ ip ∈ found, text = ip.unmapped.str := by
  unfold resolvePublic at ok
  unfold addresses
  cases literal : ipAddress (strip target) with
  | some ip =>
    rw [literal] at ok
    cases checks : checkIp registry blocked ip with
    | error fault => simp [checks,Except.map] at ok
    | ok checked =>
      obtain ⟨passed,rfl⟩ := checkIp_ok.mp checks
      simp only [checks,Except.map,Except.ok.injEq] at ok
      refine ⟨[ip],rfl,?_,ip,List.mem_singleton_self ip,ok.symm⟩
      simpa using passed
  | none =>
    rw [literal] at ok
    cases answers : getaddrinfo target with
    | error fault => cases fault <;> simp [answers] at ok
    | ok infos =>
      cases checks : infos.mapM (checkAnswer registry blocked) with
      | error fault => simp [answers,checks,bind,Except.bind] at ok
      | ok addrs =>
        obtain ⟨found,read,passes,rfl⟩ := checkAnswers_ok.mp checks
        refine ⟨found,read,passes,?_⟩
        simp only [answers,checks,bind,Except.bind] at ok
        split at ok
        next => contradiction
        next first rest sorted =>
          have among : first ∈ found.map IPAddress.unmapped := by
            apply mem_sortByVersion.mp
            rw [sorted]
            exact List.mem_cons_self
          obtain ⟨ip,member,rfl⟩ := List.mem_map.mp among
          exact ⟨ip,member,(Except.ok.inj ok).symm⟩

theorem resolvePublic_returns {target : Text} {found : List IPAddress} {ip : IPAddress}
    (leads : addresses getaddrinfo target = some found) (member : ip ∈ found)
    (passes : ∀ ip ∈ found, ip.unmapped.IsGlobal registry ∧ ip.unmapped.str ∉ blocked) :
    ∃ text, resolvePublic registry blocked getaddrinfo target = .ok text := by
  unfold addresses at leads
  unfold resolvePublic
  cases literal : ipAddress (strip target) with
  | some address =>
    rw [literal] at leads
    obtain rfl : [address] = found := Option.some.inj leads
    have checks := checkIp_ok.mpr ⟨passes address (List.mem_singleton_self address),rfl⟩
    exact ⟨address.unmapped.str,by simp only [checks,Except.map]⟩
  | none =>
    rw [literal] at leads
    cases answers : getaddrinfo target with
    | error fault => simp [answers] at leads
    | ok infos =>
      rw [answers] at leads
      have checks := checkAnswers_ok.mpr ⟨found,leads,passes,rfl⟩
      simp only [checks,bind,Except.bind]
      split
      next sorted =>
        have image : ip.unmapped ∈ found.map IPAddress.unmapped := List.mem_map_of_mem member
        rw [← mem_sortByVersion,sorted] at image
        exact absurd image List.not_mem_nil
      next first rest sorted => exact ⟨first.str,rfl⟩

theorem openConnection_agree {κ : Type} (network other : Network κ) (host : Host) (timeout : Nat)
    (agree : AgreeAt network other (network.resolvePublic host.ip)) :
    openConnection other host timeout = openConnection network host timeout := by
  have sameCredentials : credentials other host = credentials network host := by
    simp only [credentials,agree.importPrivateKey]
  have samePresented : presented other = presented network := by
    funext key
    cases key with
    | none => rfl
    | some key => simp only [presented,fingerprintOf,agree.digest]
  unfold openConnection
  rw [agree.resolvePublic,sameCredentials,samePresented]
  cases resolved : network.resolvePublic host.ip with
  | error fault => rfl
  | ok ip =>
    cases credentials network host with
    | error fault => rfl
    | ok secrets =>
      have sameAttempt : other.connect (connectArgs host ip timeout secrets) =
          network.connect (connectArgs host ip timeout secrets) := by
        apply agree.connect
        rw [resolved]
        rfl
      simp only [sameAttempt]

private theorem listed_unmapped (ip : IPAddress) : Listed blocked ip.unmapped ↔ Listed blocked ip := by
  simp only [Listed,IPAddress.value_unmapped]

private theorem public_unmapped (ip : IPAddress) :
    Public registry blocked ip.unmapped ↔ Public registry blocked ip := by
  simp only [Public,IPAddress.value_unmapped,listed_unmapped]

private theorem public_of_passes {target : Text} {found : List IPAddress}
    (spelled : Spelled registry blocked getaddrinfo target)
    (leads : addresses getaddrinfo target = some found)
    (passes : ∀ ip ∈ found, ip.unmapped.IsGlobal registry ∧ ip.unmapped.str ∉ blocked) :
    ∀ ip ∈ found, Public registry blocked ip := by
  intro ip member
  constructor
  · apply (IPAddress.isGlobal_dropScope registry ip.unmapped).mpr
    exact (passes ip member).1
  · intro listed
    obtain ⟨caught,among,stopped⟩ := spelled found leads ⟨ip,member,listed⟩
    rcases stopped with outside | written
    · exact outside (passes caught among).1
    · exact (passes caught among).2 written

private theorem answer_of_mem {target : Text} {infos : List Text} {found : List IPAddress}
    (name : ipAddress (strip target) = none) (answers : getaddrinfo target = .ok infos)
    (leads : addresses getaddrinfo target = some found) :
    infos.map readAnswer = found.map some := by
  simp only [addresses,name,answers] at leads
  exact (mapM_eq_some _ _ _).mp leads

theorem spelled_of_guarded {blockedEnv : Option Text} {target : Text}
    (guarded : Guarded registry blockedEnv getaddrinfo target) :
    Spelled registry (blockedIps blockedEnv) getaddrinfo target := by
  rintro found leads ⟨ip,member,listed⟩
  by_contra escapes
  have passes : ∀ ip ∈ found, ip.unmapped.IsGlobal registry ∧
      ip.unmapped.str ∉ blockedIps blockedEnv := by
    intro other among
    by_contra stops
    exact escapes ⟨other,among,(not_and_or.mp stops).imp_right not_not.mp⟩
  obtain ⟨text,ok⟩ := resolvePublic_returns leads member passes
  cases literal : ipAddress (strip target) with
  | some address =>
    have single : addresses getaddrinfo target = some [address] := by
      simp only [addresses,literal]
    obtain rfl := Option.some.inj (single.symm.trans leads)
    obtain ⟨others,others_eq,_,only,among,rfl⟩ := resolvePublic_ok ok
    obtain rfl := Option.some.inj (single.symm.trans others_eq)
    obtain rfl := List.mem_singleton.mp among
    obtain rfl := List.mem_singleton.mp member
    obtain ⟨served,read,isPublic⟩ := guarded.returned _ ok
    obtain rfl := Option.some.inj ((ipAddress_str _).symm.trans read)
    exact isPublic.2 ((listed_unmapped ip).mpr listed)
  | none =>
    cases answers : getaddrinfo target with
    | error fault => simp [addresses,literal,answers] at leads
    | ok infos =>
      have image : some ip ∈ infos.map readAnswer := by
        rw [answer_of_mem literal answers leads]
        exact List.mem_map_of_mem member
      obtain ⟨info,among,read⟩ := List.mem_map.mp image
      apply guarded.refused infos literal answers info among ip read _ text ok
      exact fun isPublic => isPublic.2 listed

theorem guarded_of_spelled {blockedEnv : Option Text} {target : Text}
    (spelled : Spelled registry (blockedIps blockedEnv) getaddrinfo target) :
    Guarded registry blockedEnv getaddrinfo target where
  returned := by
    intro text ok
    obtain ⟨found,leads,passes,ip,member,rfl⟩ := resolvePublic_ok ok
    refine ⟨ip.unmapped,ipAddress_str _,?_⟩
    apply (public_unmapped ip).mpr
    exact public_of_passes spelled leads passes ip member
  connected := by
    intro κ network other host timeout _ _ agree
    exact openConnection_agree network other host timeout agree
  refused := by
    intro infos name answers info among address read outside text ok
    obtain ⟨found,leads,passes,_⟩ := resolvePublic_ok ok
    have image : some address ∈ found.map some := by
      rw [← answer_of_mem name answers leads,← read]
      exact List.mem_map_of_mem among
    obtain ⟨ip,member,same⟩ := List.mem_map.mp image
    obtain rfl := Option.some.inj same
    exact outside (public_of_passes spelled leads passes ip member)

/-- The guard holds exactly where no entry escapes by its spelling. -/
theorem guarded_iff (registry : Registry) (blockedEnv : Option Text) (getaddrinfo : Resolver)
    (target : Text) : Guarded registry blockedEnv getaddrinfo target ↔
      Spelled registry (blockedIps blockedEnv) getaddrinfo target :=
  ⟨spelled_of_guarded,guarded_of_spelled⟩

private theorem unscoped_of_addresses {target : Text} {found : List IPAddress}
    (unscoped : '%' ∉ target) (leads : addresses getaddrinfo target = some found) :
    ∀ ip ∈ found, ip.dropScope = ip := by
  intro ip member
  cases literal : ipAddress (strip target) with
  | some address =>
    simp only [addresses,literal] at leads
    obtain rfl := Option.some.inj leads
    obtain rfl := List.mem_singleton.mp member
    apply dropScope_of_ipAddress _ literal
    exact fun inside => unscoped ((strip_sublist target).subset inside)
  | none =>
    cases answers : getaddrinfo target with
    | error fault => simp [addresses,literal,answers] at leads
    | ok infos =>
      have image : some ip ∈ infos.map readAnswer := by
        rw [answer_of_mem literal answers leads]
        exact List.mem_map_of_mem member
      obtain ⟨info,_,read⟩ := List.mem_map.mp image
      apply dropScope_of_ipAddress _ read
      intro inside
      exact absurd (List.mem_takeWhile_imp inside) (by decide)

/-- Entries in the spelling of `str` guard every target without a scope id. -/
theorem guarded_of_canonical (registry : Registry) (blockedEnv : Option Text)
    (getaddrinfo : Resolver) (target : Text) (unscoped : '%' ∉ target)
    (canonical : ∀ entry ∈ blockedIps blockedEnv, ∀ denoted, ipAddress entry = some denoted →
      denoted.value.str = entry) : Guarded registry blockedEnv getaddrinfo target := by
  apply guarded_of_spelled
  rintro found leads ⟨ip,member,entry,among,denoted,read,same⟩
  have whole := unscoped_of_addresses unscoped leads ip member
  have spelling := canonical entry among denoted read
  rw [same,IPAddress.value_of_unscoped whole] at spelling
  exact ⟨ip,member,.inr (spelling.symm ▸ among)⟩

end Results

def block4 (octets : List Nat) (prefixLength : Nat) : Block := ⟨number 256 octets,prefixLength⟩

def block6 (groups : List Nat) (prefixLength : Nat) : Block := ⟨number 65536 groups,prefixLength⟩

/-- The tables of Python 3.12.4. -/
def python312 : Registry where
  publicNetwork := block4 [100,64,0,0] 10
  private4 := [block4 [0,0,0,0] 8,block4 [10,0,0,0] 8,block4 [127,0,0,0] 8,
    block4 [169,254,0,0] 16,block4 [172,16,0,0] 12,block4 [192,0,0,0] 24,block4 [192,0,0,170] 31,
    block4 [192,0,2,0] 24,block4 [192,168,0,0] 16,block4 [198,18,0,0] 15,block4 [198,51,100,0] 24,
    block4 [203,0,113,0] 24,block4 [240,0,0,0] 4,block4 [255,255,255,255] 32]
  exceptions4 := [block4 [192,0,0,9] 32,block4 [192,0,0,10] 32]
  private6 := [block6 [0,0,0,0,0,0,0,1] 128,block6 [0,0,0,0,0,0,0,0] 128,
    block6 [0,0,0,0,0,0xffff,0,0] 96,block6 [0x64,0xff9b,1,0,0,0,0,0] 48,
    block6 [0x100,0,0,0,0,0,0,0] 64,block6 [0x2001,0,0,0,0,0,0,0] 23,
    block6 [0x2001,0xdb8,0,0,0,0,0,0] 32,block6 [0x2002,0,0,0,0,0,0,0] 16,
    block6 [0xfc00,0,0,0,0,0,0,0] 7,block6 [0xfe80,0,0,0,0,0,0,0] 10]
  exceptions6 := [block6 [0x2001,1,0,0,0,0,0,1] 128,block6 [0x2001,1,0,0,0,0,0,2] 128,
    block6 [0x2001,3,0,0,0,0,0,0] 32,block6 [0x2001,4,0x112,0,0,0,0,0] 48,
    block6 [0x2001,0x20,0,0,0,0,0,0] 28,block6 [0x2001,0x30,0,0,0,0,0,0] 28]

def noNames : Resolver := fun _ => .error .other

example : resolvePublic python312 (blockedIps (some "8.8.4.4".toList)) noNames
    "::ffff:8.8.4.4".toList = .error (.targetBlocked "blocked target") := by
  decide

example : resolvePublic python312 [] (fun _ => .ok ["2606:4700::1%0".toList,"8.8.8.8".toList])
    "example.org".toList = .ok "8.8.8.8".toList := by
  decide

private theorem not_guarded {target entry text : Text}
    (served : resolvePublic python312 (blockedIps (some entry)) noNames target = .ok text)
    (listed : entry ∈ blockedIps (some entry)) (reads : (ipAddress entry).isSome)
    (same : (ipAddress entry).map IPAddress.value = (ipAddress text).map IPAddress.value) :
    ¬Guarded python312 (some entry) noNames target := by
  intro guarded
  obtain ⟨address,read,isPublic⟩ := guarded.returned text served
  obtain ⟨denoted,denotes⟩ := Option.isSome_iff_exists.mp reads
  rw [read,denotes] at same
  exact isPublic.2 ⟨entry,listed,denoted,denotes,Option.some.inj same⟩

/-- The entry writes its zeros out, or the target has a scope id. -/
theorem other_spellings_served :
    ¬Guarded python312 (some "2606:4700:4700:0:0:0:0:1111".toList) noNames
      "2606:4700:4700::1111".toList ∧
    ¬Guarded python312 (some "2606:4700:4700::1111".toList) noNames
      "2606:4700:4700::1111%eth0".toList := by
  constructor
  · apply @not_guarded _ _ "2606:4700:4700::1111".toList
    all_goals decide
  · apply @not_guarded _ _ "2606:4700:4700::1111%eth0".toList
    all_goals decide

end AtronixX.PublicTarget
