import AtronixX.Crypto
import AtronixX.Library.Transition

/-! The file operations of `Vault.load` and `Vault.install_raw_key` one by one, with a process that
may be killed between any two of them and started again. What a killed process has handed to the
system stays, what it has in its buffer is written as far as it comes. -/
namespace AtronixX.KeyFile
open Library.Sealed Library.Transition Crypto

/-- `secret.key` and `secret.key.new`. -/
structure Disk where
  key : Option Bytes
  new : Option Bytes
  deriving DecidableEq

/-- What `os.urandom(32)` gives. -/
abbrev Random := {bytes : Bytes // bytes.length = 32}

/-- Where the process is. `creating` and `writing` have an empty file open and the bytes in the
buffer; `moving` is before `os.replace`, `reading` and `rereading` before the file is read. -/
inductive Process
  | down
  | creating (random : Random)
  | reading
  | up
  | writing (raw : Bytes)
  | moving (raw : Bytes)
  | rereading
  deriving DecidableEq

variable {κ : Type}

/-- `keys` says, as history and the last one first, which keys have been under the name. -/
structure Machine (κ : Type) where
  disk : Disk
  process : Process
  aes : Option κ
  keys : List Bytes

def blank : Machine κ := ⟨⟨none,none⟩,.down,none,[]⟩

/-- What happens next: the process starts; a backup is restored; the next operation is done or
raises; the process is killed. A write that is cut off has brought so many bytes into the file, but
not all. -/
inductive Event
  | start (random : Random)
  | install (raw : Bytes)
  | go
  | fail (written : Nat)
  | kill (written : Nat)
  deriving DecidableEq

/-- What a killed or failed process leaves of the file that it writes. -/
def torn (written : Nat) (process : Process) (disk : Disk) : Disk :=
  match process with
  | .creating random => {disk with key := some (random.val.take written)}
  | .writing raw => {disk with new := some (raw.take written)}
  | _ => disk

section
variable (hkdf : Bytes → κ)

/-- The end of `load`. -/
def read (machine : Machine κ) (otherwise : Process) : Machine κ :=
  match machine.disk.key with
  | none => {machine with process := otherwise}
  | some raw =>
    if raw.length ≠ 32 then {machine with process := otherwise}
    else {machine with process := .up, aes := some (hkdf raw)}

def go (machine : Machine κ) : Option (Machine κ) :=
  match machine.process with
  | .creating random => some {machine with
      disk := {machine.disk with key := some random.val}
      process := .reading
      keys := random.val :: machine.keys}
  | .reading => some (read hkdf machine .down)
  | .writing raw => some {machine with
      disk := {machine.disk with new := some raw}
      process := .moving raw}
  | .moving raw => some {machine with
      disk := ⟨machine.disk.new,none⟩
      process := .rereading
      keys := raw :: machine.keys}
  | .rereading => some (read hkdf machine .up)
  | .down | .up => none

/-- The operation raises. In `load` at the start that ends the process, in a restore it does not. -/
def fail (written : Nat) (machine : Machine κ) : Option (Machine κ) :=
  match machine.process with
  | .creating _ | .reading => some {machine with
      disk := torn written machine.process machine.disk
      process := .down
      aes := none}
  | .writing _ | .moving _ | .rereading => some {machine with
      disk := torn written machine.process machine.disk
      process := .up}
  | .down | .up => none

def step (machine : Machine κ) : Event → Option (Machine κ)
  | .start random =>
    if machine.process = .down then
      match machine.disk.key with
      | none => some {machine with
          disk := {machine.disk with key := some []}
          process := .creating random}
      | some _ => some {machine with process := .reading}
    else none
  | .install raw =>
    if machine.process = .up then
      if raw.length ≠ 32 then some machine
      else some {machine with disk := {machine.disk with new := some []}, process := .writing raw}
    else none
  | .go => go hkdf machine
  | .fail written => if 32 ≤ written then none else fail written machine
  | .kill written =>
    if machine.process = .down ∨ 32 ≤ written then none
    else some {machine with
      disk := torn written machine.process machine.disk
      process := .down
      aes := none}

end

def serving : Process → Bool
  | .down | .creating _ | .reading => false
  | .up | .writing _ | .moving _ | .rereading => true

structure Kept (hkdf : Bytes → κ) (machine : Machine κ) : Prop where
  whole : ∀ raw ∈ machine.keys, raw.length = 32
  last : machine.keys ≠ [] → machine.disk.key = machine.keys.head?
  torn : machine.keys = [] → ∀ raw, machine.disk.key = some raw → raw.length < 32
  asleep : serving machine.process = false → machine.aes = none
  served : serving machine.process = true → machine.keys ≠ []
  memory : ∀ key, machine.aes = some key → ∃ raw ∈ machine.keys, key = hkdf raw
  creating : ∀ random, machine.process = .creating random → machine.keys = []
  writing : ∀ raw, machine.process = .writing raw → raw.length = 32
  moving : ∀ raw, machine.process = .moving raw → raw.length = 32 ∧ machine.disk.new = some raw

section
variable {hkdf : Bytes → κ} {machine after : Machine κ}

theorem Kept.blank (hkdf : Bytes → κ) : Kept hkdf blank where
  whole raw member := by contradiction
  last some_ := by contradiction
  torn _ raw found := by contradiction
  asleep _ := rfl
  served is := by contradiction
  memory key found := by contradiction
  creating random is := by contradiction
  writing raw is := by contradiction
  moving raw is := by contradiction

theorem Kept.turn (kept : Kept hkdf machine) {process : Process} {new : Option Bytes}
    (same : serving process = serving machine.process)
    (creating : ∀ random, process ≠ .creating random)
    (writing : ∀ raw, process = .writing raw → raw.length = 32)
    (moving : ∀ raw, process = .moving raw → raw.length = 32 ∧ new = some raw) :
    Kept hkdf {machine with disk := {machine.disk with new := new}, process := process} where
  whole := kept.whole
  last := kept.last
  torn := kept.torn
  asleep is := kept.asleep (same ▸ is)
  served is := kept.served (same ▸ is)
  memory := kept.memory
  creating random is := absurd is (creating random)
  writing := writing
  moving := moving

theorem Kept.down (kept : Kept hkdf machine) {disk : Disk}
    (last : machine.keys ≠ [] → disk.key = machine.keys.head?)
    (torn : machine.keys = [] → ∀ raw, disk.key = some raw → raw.length < 32) :
    Kept hkdf {machine with disk := disk, process := .down, aes := none} where
  whole := kept.whole
  last := last
  torn := torn
  asleep _ := rfl
  served is := by contradiction
  memory key found := by contradiction
  creating random is := by contradiction
  writing raw is := by contradiction
  moving raw is := by contradiction

theorem Kept.ends (kept : Kept hkdf machine) {written : Nat} (short : written < 32) :
    Kept hkdf {machine with
      disk := KeyFile.torn written machine.process machine.disk
      process := .down
      aes := none} := by
  unfold KeyFile.torn
  split
  next random is =>
    have first := kept.creating random is
    refine kept.down (fun some_ => absurd first some_) ?_
    rintro _ raw ⟨⟩
    rw [List.length_take]
    omega
  next => exact kept.down kept.last kept.torn
  next => exact kept.down kept.last kept.torn

theorem Kept.found (kept : Kept hkdf machine) (some_ : machine.keys ≠ []) :
    ∃ raw, machine.disk.key = some raw ∧ raw.length = 32 ∧ machine.keys.head? = some raw := by
  obtain ⟨raw,rest,shape⟩ := List.exists_cons_of_ne_nil some_
  have head : machine.keys.head? = some raw := by rw [shape]; rfl
  exact ⟨raw,(kept.last some_).trans head,kept.whole raw (List.mem_of_head? head),head⟩

theorem Kept.read (kept : Kept hkdf machine) {otherwise : Process}
    (same : serving otherwise = serving machine.process)
    (there : otherwise = .down ∨ otherwise = .up) : Kept hkdf (read hkdf machine otherwise) := by
  have stays : Kept hkdf {machine with process := otherwise} := by
    refine kept.turn same ?_ ?_ ?_ <;> rcases there with rfl | rfl <;> simp
  unfold KeyFile.read
  split
  next => exact stays
  next raw found =>
    split
    next => exact stays
    next whole =>
      have some_ : machine.keys ≠ [] := by
        intro none
        have short := kept.torn none raw found
        omega
      have head : raw ∈ machine.keys :=
        List.mem_of_head? ((kept.last some_).symm.trans found)
      refine ⟨kept.whole,kept.last,kept.torn,?_,fun _ => some_,?_,?_,?_,?_⟩
      · intro is
        contradiction
      · rintro key ⟨⟩
        exact ⟨raw,head,rfl⟩
      · intro random is
        contradiction
      · intro raw is
        contradiction
      · intro raw is
        contradiction

theorem Kept.go (kept : Kept hkdf machine) (taken : go hkdf machine = some after) :
    Kept hkdf after := by
  unfold KeyFile.go at taken
  split at taken
  next random is =>
    cases Option.some.inj taken
    have first := kept.creating random is
    refine ⟨?_,fun _ => rfl,fun none => by contradiction,?_,fun is => by contradiction,?_,?_,?_,?_⟩
    · intro raw member
      rcases List.mem_cons.mp member with rfl | member
      · exact random.property
      · exact kept.whole raw member
    · intro _
      exact kept.asleep (by rw [is]; rfl)
    · intro key found
      obtain ⟨raw,member,same⟩ := kept.memory key found
      exact ⟨raw,List.mem_cons_of_mem _ member,same⟩
    · intro random is
      contradiction
    · intro raw is
      contradiction
    · intro raw is
      contradiction
  next is =>
    cases Option.some.inj taken
    exact kept.read (by rw [is]; rfl) (.inl rfl)
  next raw is =>
    cases Option.some.inj taken
    refine kept.turn (by rw [is]; rfl) (by simp) (by simp) ?_
    rintro _ ⟨⟩
    exact ⟨kept.writing raw is,rfl⟩
  next raw is =>
    cases Option.some.inj taken
    obtain ⟨size,written⟩ := kept.moving raw is
    refine ⟨?_,fun _ => written,fun none => by contradiction,fun is => by contradiction,
      ?_,?_,?_,?_,?_⟩
    · intro raw member
      rcases List.mem_cons.mp member with rfl | member
      · exact size
      · exact kept.whole raw member
    · intro _ none
      contradiction
    · intro key found
      obtain ⟨raw,member,same⟩ := kept.memory key found
      exact ⟨raw,List.mem_cons_of_mem _ member,same⟩
    · intro random is
      contradiction
    · intro raw is
      contradiction
    · intro raw is
      contradiction
  next is =>
    cases Option.some.inj taken
    exact kept.read (by rw [is]; rfl) (.inr rfl)
  next => contradiction
  next => contradiction

theorem Kept.fail (kept : Kept hkdf machine) {written : Nat} (short : written < 32)
    (taken : fail written machine = some after) : Kept hkdf after := by
  have up {new : Option Bytes} (is : serving machine.process = true) :
      Kept hkdf {machine with disk := {machine.disk with new := new}, process := .up} :=
    kept.turn is.symm (by simp) (by simp) (by simp)
  unfold KeyFile.fail at taken
  split at taken
  next random is =>
    cases Option.some.inj taken
    exact kept.ends short
  next is =>
    cases Option.some.inj taken
    exact kept.ends short
  next raw is =>
    cases Option.some.inj taken
    rw [is]
    exact up (by rw [is]; rfl)
  next raw is =>
    cases Option.some.inj taken
    rw [is]
    exact up (by rw [is]; rfl)
  next is =>
    cases Option.some.inj taken
    rw [is]
    exact up (by rw [is]; rfl)
  next => contradiction
  next => contradiction

theorem Kept.step {event : Event} (kept : Kept hkdf machine)
    (taken : step hkdf machine event = some after) : Kept hkdf after := by
  cases event with
  | start random =>
    obtain ⟨down,taken⟩ := Option.ite_none_right_eq_some.mp taken
    split at taken
    next absent =>
      cases Option.some.inj taken
      have first : machine.keys = [] := by
        by_contra some_
        obtain ⟨raw,found,_⟩ := kept.found some_
        rw [absent] at found
        contradiction
      refine ⟨kept.whole,fun some_ => absurd first some_,?_,?_,fun is => by contradiction,
        kept.memory,fun _ _ => first,?_,?_⟩
      · rintro _ raw ⟨⟩
        decide
      · intro _
        exact kept.asleep (by rw [down]; rfl)
      · intro raw is
        contradiction
      · intro raw is
        contradiction
    next =>
      cases Option.some.inj taken
      exact kept.turn (by rw [down]; rfl) (by simp) (by simp) (by simp)
  | install raw =>
    obtain ⟨up,taken⟩ := Option.ite_none_right_eq_some.mp taken
    split at taken
    next => exact Option.some.inj taken ▸ kept
    next whole =>
      cases Option.some.inj taken
      refine kept.turn (by rw [up]; rfl) (by simp) ?_ (by simp)
      rintro _ ⟨⟩
      exact not_not.mp whole
  | go => exact kept.go taken
  | fail written =>
    obtain ⟨short,taken⟩ := Option.ite_none_left_eq_some.mp taken
    exact kept.fail (Nat.lt_of_not_le short) taken
  | kill written =>
    obtain ⟨alive,taken⟩ := Option.ite_none_left_eq_some.mp taken
    cases Option.some.inj taken
    exact kept.ends (Nat.lt_of_not_le fun all => alive (.inr all))

end

/-- Wherever the process is killed, also again and again: a vault works with a key that has been
under the name. From the first key on the file is whole and holds the last key that was moved
there, which every start takes; before, there is at most a part of one, under which nothing was
ever sealed and with which every start fails. -/
theorem key_survives (hkdf : Bytes → κ) (machine : Machine κ)
    (reached : Reach (step hkdf) always blank machine) :
    (∀ key, machine.aes = some key → ∃ raw ∈ machine.keys, key = hkdf raw) ∧
    (machine.keys ≠ [] → ∃ raw, machine.disk.key = some raw ∧ raw.length = 32 ∧
      machine.keys.head? = some raw ∧ (machine.process = .down → ∀ random, ∃ after,
        [.start random,.go].foldlM (step hkdf) machine = some after ∧ after.process = .up ∧
          after.aes = some (hkdf raw) ∧ after.disk = machine.disk)) ∧
    (machine.keys = [] → machine.aes = none ∧ ∀ raw, machine.disk.key = some raw →
      raw.length < 32 ∧ (machine.process = .down → ∀ random, ∃ after,
        [.start random,.go].foldlM (step hkdf) machine = some after ∧ after.process = .down ∧
          after.disk = machine.disk)) := by
  have kept : Kept hkdf machine := reached.invariant (Kept hkdf) (.blank hkdf)
    fun _ _ _ kept _ taken => kept.step taken
  refine ⟨kept.memory,?_,?_⟩
  · intro some_
    obtain ⟨raw,found,size,head⟩ := kept.found some_
    refine ⟨raw,found,size,head,?_⟩
    intro down random
    refine ⟨{machine with process := .up, aes := some (hkdf raw)},?_,rfl,rfl,rfl⟩
    simp [step,go,read,down,found,size]
  · intro none
    refine ⟨?_,?_⟩
    · cases remembered : machine.aes with
      | none => rfl
      | some key =>
        obtain ⟨raw,member,_⟩ := kept.memory key remembered
        rw [none] at member
        contradiction
    · intro raw found
      have short := kept.torn none raw found
      refine ⟨short,fun down random => ⟨{machine with process := .down},?_,rfl,rfl⟩⟩
      have differs : raw.length ≠ 32 := by omega
      simp [step,go,read,down,found,differs]

def first : Random := ⟨List.replicate 32 1,rfl⟩

def restored : Bytes := List.replicate 32 2

/-- A restore is killed while it writes, and a second one after the file is moved. -/
def kills : List Event :=
  [.start first,.go,.go,.install restored,.kill 5,.start first,.go,.install restored,.go,.go,
    .kill 0]

theorem key_survives_kills : ∃ machine : Machine Bytes,
    kills.foldlM (guarded (step id) always) blank = some machine ∧
      machine.keys = [restored,first.val] ∧ ∃ after,
        [.start first,.go].foldlM (step id) machine = some after ∧ after.aes = some restored := by
  obtain ⟨machine,run,keys,down⟩ : ∃ machine : Machine Bytes,
      kills.foldlM (guarded (step id) always) blank = some machine ∧
        machine.keys = [restored,first.val] ∧ machine.process = .down := ⟨_,rfl,rfl,rfl⟩
  obtain ⟨raw,_,_,head,starts⟩ :=
    (key_survives id machine (reach_of_run kills run)).2.1 (by rw [keys]; simp)
  obtain ⟨after,ran,_,aes,_⟩ := starts down first
  rw [keys] at head
  cases head
  exact ⟨machine,run,keys,after,ran,aes⟩

end AtronixX.KeyFile
