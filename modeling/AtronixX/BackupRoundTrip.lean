import Mathlib.Data.Countable.Basic
import Mathlib.Logic.Equiv.List
import Mathlib.Tactic.DeriveCountable
import AtronixX.BackupFormat
import AtronixX.VaultPairing

/-! A backup restores the database and the key it was taken of, whatever happened since, and only
under its own passphrase. -/
namespace AtronixX.BackupRoundTrip
open Library.Transition Library.Sealed Crypto Database Storage VaultPairing BackupFormat

variable {κ : Type} (aead : Aead κ) (hkdf : Bytes → κ)

structure Quiet (key : Bytes) (state : State κ) : Prop where
  sized : key.length = 32
  vault : state.vault = ⟨some key,some (hkdf key)⟩
  connected : state.connected = true
  queue : state.queue = []
  reply : state.reply = none
  restore : state.restore.quiet = true
  backup : state.backup = .idle

/-- `build_backup` up to its zip file, with no other task in between. -/
def building : List Action :=
  [.startBackup,.serve none,.resume none,.serve none,.resume none,.serve none,.resume none]

/-- `restore_backup` on the payload, with no other task in between. -/
def restoring (payload : Payload) : List Action :=
  [.startRestore,.opened (some payload),.serve none,.resume none,.serve none,.resume none]

/-- `restore_backup` when `_open_payload` raises. -/
def refusing : List Action := [.startRestore,.opened none]

variable {aead hkdf}

theorem built_eq {key : Bytes} {state : State κ} (quiet : Quiet hkdf key state) :
    building.foldlM (Storage.step aead hkdf) state = some {state with
      backups := state.backups ++ [⟨state.file,key,countUsers state.file,countHosts state.file⟩]} := by
  obtain ⟨file,connected,vault,queue,reply,restore,backup,backups⟩ := state
  obtain ⟨_,rfl,rfl,rfl,rfl,_,rfl⟩ := quiet
  rfl

theorem restored_eq {key : Bytes} {state : State κ} (vault : state.vault = ⟨some key,some (hkdf key)⟩)
    (connected : state.connected = true) (queue : state.queue = [])
    (reply : state.reply = none) (outside : state.restore.quiet = true) (payload : Payload) :
    (restoring payload).foldlM (Storage.step aead hkdf) state = some {state with
      file := payload.db
      vault := ⟨some payload.key,some (hkdf payload.key)⟩
      restore := .returned} := by
  obtain ⟨file,open_,vault',waiting,answer,restore,backup,backups⟩ := state
  dsimp only at vault connected queue reply outside
  subst vault connected queue reply
  simp [restoring,Storage.step,outside,enqueue,serve,thread,reads,runs,resume,proceed,resumeRestore,
    swap,rawKey,payload.sized,replaceFile]

theorem refused_eq {state : State κ} (outside : state.restore.quiet = true) :
    refusing.foldlM (Storage.step aead hkdf) state = some {state with restore := .raised} := by
  simp [refusing,Storage.step,outside]

private theorem Quiet.paired {key : Bytes} {state : State κ} (quiet : Quiet hkdf key state)
    (backups : List BackupPayload) :
    Paired hkdf (fun _ _ => True) {state with backups := backups} := by
  refine ⟨key,quiet.sized,quiet.vault,.quiet (.inl quiet.restore)
    ⟨quiet.connected,?_,trivial,fun _ _ => trivial⟩ ?_⟩
  · rw [quiet.queue]
    exact fun _ _ member => absurd member List.not_mem_nil
  · rw [quiet.queue]
    exact fun _ member => absurd member List.not_mem_nil

/-- A backup taken of database and key restores both, whatever ran in between, and no other
passphrase restores anything. -/
theorem backup_round_trip {κ β : Type} (aead : Aead κ) (hkdf : Bytes → κ) (cipher : Aead β)
    (scrypt : Bytes → Bytes → β) (formats : Formats) (ideal : Ideal cipher scrypt) {key : Bytes}
    {now built later : State κ} (quiet : Quiet hkdf key now)
    (readable : Readable aead (hkdf key) now.file)
    (ran : building.foldlM (Storage.step aead hkdf) now = some built) (payload : BackupPayload)
    (last : built.backups.getLast? = some payload)
    (since : Reach (Storage.step aead hkdf) (fair hkdf fun _ _ => True) built later)
    (outside : later.restore.quiet = true) (queue : later.queue = []) (reply : later.reply = none)
    (created : Int) (brand backupPassphrase passphrase : String) (nonempty : passphrase ≠ "")
    (salt : Salt) (nonce : Nonce) :
    let blob := buildBackup cipher scrypt formats payload created brand backupPassphrase
      (some passphrase) salt nonce
    (∃ opened summary restored,
      openPayload cipher scrypt formats blob passphrase = .ok (opened,summary) ∧
      (restoring opened).foldlM (Storage.step aead hkdf) later = some restored ∧
      restored.restore = .returned ∧ restored.file = now.file ∧
      restored.vault = ⟨some key,some (hkdf key)⟩ ∧ Readable aead (hkdf key) restored.file) ∧
    ∀ other, other ≠ passphrase → ∃ message raised,
      openPayload cipher scrypt formats blob other = .error (.cryptoError message) ∧
      refusing.foldlM (Storage.step aead hkdf) later = some raised ∧
      raised.restore = .raised ∧ raised.file = later.file ∧ raised.vault = later.vault := by
  rw [built_eq quiet] at ran
  obtain rfl := Option.some.inj ran
  rw [List.getLast?_append] at last
  obtain rfl : _ = payload := by simpa using last
  intro blob
  have paired : Paired hkdf (fun _ _ => True) later :=
    Paired.reach aead hkdf (fun _ _ _ _ _ _ => trivial) (fun _ _ _ _ _ _ => trivial)
      (quiet.paired _) since
  obtain ⟨loaded,_,vault,phase⟩ := paired
  have connected := (phase.of_quiet hkdf outside).1.connected
  refine ⟨?_,?_⟩
  · have opened : openPayload cipher scrypt formats blob passphrase = _ :=
      openPayload_buildBackup ideal _ quiet.sized created brand backupPassphrase passphrase nonempty
        salt nonce
    exact ⟨_,_,_,opened,restored_eq vault connected queue reply outside _,rfl,rfl,rfl,readable⟩
  · intro other differs
    have refused : openPayload cipher scrypt formats blob other = _ :=
      openPayload_wrong ideal _ created brand backupPassphrase passphrase nonempty salt nonce differs
    exact ⟨_,_,refused,refused_eq outside,rfl,rfl,rfl⟩

/-- A key behind its length in unary, which no other key's begins with. -/
def code (key : Bytes) : Bytes := List.replicate 16 0 ++ (List.replicate key.length 1 ++ 0 :: key)

private theorem unary_inj {one two : Nat} {rest other : Bytes}
    (same : List.replicate one 1 ++ 0 :: rest = List.replicate two 1 ++ 0 :: other) :
    one = two ∧ rest = other := by
  induction one generalizing two with
  | zero =>
    cases two with
    | zero => simpa using same
    | succ two => simp [List.replicate_succ] at same
  | succ one ih =>
    cases two with
    | zero => simp [List.replicate_succ] at same
    | succ two =>
      obtain ⟨counts,rests⟩ := ih (by simpa [List.replicate_succ] using same)
      exact ⟨congrArg _ counts,rests⟩

private theorem ideal_code : Ideal (transparent code) fun passphrase _ => passphrase where
  tag key nonce data aad := by
    simp only [transparent,code,List.length_append,List.length_replicate]
    omega
  wrong key other nonce data aad differs := by
    simp only [transparent]
    rw [if_neg]
    intro begins
    obtain ⟨tail,same⟩ := List.isPrefixOf_iff_prefix.mp begins
    simp only [code,List.append_assoc,List.append_cancel_left_eq,List.cons_append] at same
    obtain ⟨sizes,keys⟩ := unary_inj same
    exact differs (List.append_inj_left keys sizes)
  apart _ _ _ same := same

instance countableChar : Countable Char := Function.Injective.countable fun _ _ => Char.toNat_inj.mp

instance countableString : Countable String := Function.Injective.countable fun _ _ => String.toList_injective

instance countableUInt8 : Countable UInt8 := Function.Injective.countable fun _ _ => UInt8.toNat_inj.mp

instance {κ ν : Type} [Countable κ] [Countable ν] : Countable (Library.Tables.Table κ ν) :=
  Function.Injective.countable fun _ _ => AList.ext

deriving instance Countable for Token

deriving instance Countable for UserRow, GroupRow, HostRow, SnippetRow, ChannelRow, LogRow, Sequence

deriving instance Countable for Tables, Meta

private theorem coded {α : Type} [Countable α] (filler : α) : ∃ (encode : α → Bytes) (decode : Bytes → α),
    ∀ value, decode (encode value) = value := by
  obtain ⟨number,injective⟩ := Countable.exists_injective_nat α
  have : Nonempty α := ⟨filler⟩
  refine ⟨fun value => List.replicate (number value) 0,fun bytes => Function.invFun number bytes.length,?_⟩
  intro value
  dsimp only
  rw [List.length_replicate]
  exact Function.leftInverse_invFun injective value

theorem formats_exist : Nonempty Formats := by
  obtain ⟨zip,unzip,unzip_zip⟩ := coded ([] : List (String × Bytes))
  obtain ⟨dumps,loads,loads_dumps⟩ := coded (⟨1,0,0,0,""⟩ : Meta)
  obtain ⟨vacuum,content,content_vacuum⟩ := coded Database.empty
  exact ⟨{
    zip := zip
    unzip := fun bytes => some (unzip bytes)
    dumps := dumps
    loads := fun bytes => some (loads bytes)
    vacuum := vacuum
    inspect := fun _ => some ⟨true,Schema.written⟩
    content := content
    unzip_zip := fun entries => congrArg some (unzip_zip entries)
    loads_dumps := fun summary => congrArg some (loads_dumps summary)
    inspect_vacuum := fun _ => ⟨_,rfl,rfl,fun _ member => member⟩
    content_vacuum := content_vacuum }⟩

def sampleTables : Tables := insertHost (hostRow plainAead firstKey sampleHost) Database.empty

private theorem sample_readable : Readable plainAead firstKey sampleTables := by
  apply effect_readable plainAead firstKey (.addHost sampleHost) Database.empty sampleTables _ rfl
  intro id row found
  contradiction

theorem backup_round_trip_replaced : ∃ (later restored : State Bytes) (opened : Payload),
    (restoring opened).foldlM (Storage.step plainAead id) later = some restored ∧
      later.vault.keyFile = some secondKey ∧ restored.vault.keyFile = some firstKey ∧
      restored.file = sampleTables := by
  obtain ⟨formats⟩ := formats_exist
  obtain ⟨built,ran⟩ : ∃ built, building.foldlM (Storage.step plainAead id)
      (boot id firstKey sampleTables) = some built := ⟨_,rfl⟩
  have quiet : Quiet id firstKey (boot id firstKey sampleTables) := ⟨rfl,rfl,rfl,rfl,rfl,rfl,rfl⟩
  have is := ran
  rw [built_eq quiet] at is
  obtain ⟨later,run,other,outside,queue,reply⟩ : ∃ later,
      (restoring ⟨Database.empty,secondKey,rfl⟩).foldlM
        (guarded (Storage.step plainAead id) (plain · ·)) built = some later ∧
      later.vault.keyFile = some secondKey ∧ later.restore.quiet = true ∧ later.queue = [] ∧
      later.reply = none := by
    cases is
    exact ⟨_,rfl,rfl,rfl,rfl,rfl⟩
  have since : Reach (Storage.step plainAead id) (fair id fun _ _ => True) built later := by
    apply (reach_of_run _ run).weaken
    intro state action met
    have fine := plain_fair state action met
    unfold fair at fine ⊢
    split <;> simp_all
  obtain ⟨payload,last⟩ : ∃ payload, built.backups.getLast? = some payload := by
    cases is
    exact ⟨_,rfl⟩
  obtain ⟨⟨opened,_,restored,_,done,_,file,vault,_⟩,_⟩ :=
    backup_round_trip plainAead id (transparent code) (fun passphrase _ => passphrase) formats
      ideal_code quiet sample_readable ran payload last since outside queue reply 0 "" "" "secret"
      (by decide) ⟨List.replicate 16 0,rfl⟩ zeroNonce
  exact ⟨later,restored,opened,done,other,by rw [vault],file⟩

end AtronixX.BackupRoundTrip
