import AtronixX.Library.Transition

/-! The automatic backup: `_backup_due` of `core/housekeeping.py` beside the tasks of
`send_backup` that the admin starts, one statement or one file at a time, with exceptions,
restarts and restores anywhere. The two settings keep numbers as texts, which `int` reads back. -/
namespace AtronixX.BackupSchedule
open Library.Transition

/-- Where `send_backup` is: it sends the file, and then writes down when it did. -/
inductive Sending
  | sending
  | recording (at_ : Int)
  deriving DecidableEq, Repr

/-- Where `_backup_due` is, with the time of the check and what it read. -/
inductive Check
  | idle
  | reading (now : Int)
  | beginning (now : Int)
  | comparing (now last : Int)
  | noting (now last : Int)
  | sending (now : Int) (at_ : Sending)
  deriving DecidableEq, Repr

inductive Origin
  | firstStart
  | backup
  | restored
  deriving DecidableEq, Repr

/-- An attempt of the check, the time in `last_backup` that it saw, and the restores before it. -/
structure Attempt where
  now : Int
  last : Int
  restores : Nat
  deriving DecidableEq, Repr

/-- A setting is missing, or a text that `int` reads or refuses. -/
abbrev Setting := Option (Option Int)

structure State where
  clock : Int
  lastBackup : Setting
  lastBackupAttempt : Setting
  check : Check
  manual : List Sending
  restores : Nat
  /-- When the files went out, and all times that `last_backup` has ever held. -/
  delivered : List Int
  stamps : List (Origin × Int)
  /-- The attempts, and those that restored databases told of, the latest first. -/
  attempts : List Attempt
  brought : List Int
  /-- When the last check began that came to its end. -/
  checked : Option Int

def start (now : Int) : State := ⟨now,none,none,.idle,[],0,[],[],[],[],none⟩

def hour : Int := 3600

inductive Event
  | tick (elapsed : Nat)
  | check
  | go (succeeds : Bool)
  /-- An exception that `_loop` logs. -/
  | fail
  | backupNow
  | goManual (index : Nat) (succeeds : Bool)
  | restart
  /-- Another database takes the place of this one. -/
  | restore (lastBackup lastBackupAttempt : Setting)
  deriving DecidableEq, Repr

/-- `set_setting("last_backup", …)`. -/
def State.record (state : State) (origin : Origin) (at_ : Int) : State :=
  {state with lastBackup := some (some at_), stamps := (origin,at_) :: state.stamps}

/-- `set_setting("last_backup_attempt", …)`. -/
def State.note (state : State) (now last : Int) : State :=
  {state with
    lastBackupAttempt := some (some now)
    attempts := ⟨now,last,state.restores⟩ :: state.attempts}

def State.deliver (state : State) : State :=
  {state with delivered := state.clock :: state.delivered}

def State.finish (state : State) (now : Int) : State :=
  {state with check := .idle, checked := some now}

/-- `int(await db.get_setting("last_backup_attempt", "0"))`. -/
def State.attempt (state : State) : Option Int := state.lastBackupAttempt.getD (some 0)

/-- `_backup_due`; `send_backup` returns whatever happens to it. -/
def go (hours : Int) (succeeds : Bool) (state : State) : Option State :=
  match state.check with
  | .idle => none
  | .reading now => match state.lastBackup with
    | none => some {state with check := .beginning now}
    | some none => some {state with check := .idle}
    | some (some last) =>
      if now - last < hours * hour then some (state.finish now)
      else some {state with check := .comparing now last}
  | .beginning now => some ((state.record .firstStart now).finish now)
  | .comparing now last => match state.attempt with
    | none => some {state with check := .idle}
    | some attempt =>
      if now - attempt < hour then some (state.finish now)
      else some {state with check := .noting now last}
  | .noting now last => some {state.note now last with check := .sending now .sending}
  | .sending now .sending =>
    if succeeds then some {state.deliver with check := .sending now (.recording state.clock)}
    else some (state.finish now)
  | .sending now (.recording at_) =>
    if succeeds then some ((state.record .backup at_).finish now) else some (state.finish now)

def goManual (index : Nat) (succeeds : Bool) (state : State) : Option State :=
  state.manual[index]?.map fun at_ =>
    let ended := {state with manual := state.manual.eraseIdx index}
    if succeeds then match at_ with
      | .sending =>
        {state.deliver with manual := state.manual.set index (.recording state.clock)}
      | .recording at_ => ended.record .backup at_
    else ended

def step (hours : Int) (state : State) : Event → Option State
  | .tick elapsed => some {state with clock := state.clock + elapsed}
  | .check => match state.check with
    | .idle => some {state with check := .reading state.clock}
    | _ => none
  | .go succeeds => go hours succeeds state
  | .fail => some {state with check := .idle}
  | .backupNow => some {state with manual := .sending :: state.manual}
  | .goManual index succeeds => goManual index succeeds state
  | .restart => some {state with check := .idle, manual := []}
  | .restore lastBackup lastBackupAttempt => some {state with
      lastBackup := lastBackup
      lastBackupAttempt := lastBackupAttempt
      restores := state.restores + 1
      stamps := (lastBackup.join.map (Prod.mk .restored)).toList ++ state.stamps
      brought := lastBackupAttempt.join.toList ++ state.brought}

def State.Sent (state : State) : Sending → Prop
  | .sending => True
  | .recording at_ => at_ ∈ state.delivered

/-- The check has found the backup due; its attempt will be an hour after the one before. -/
def Check.Due (hours : Int) (state : State) : Check → Prop
  | .comparing now last => last ∈ state.stamps.map Prod.snd ∧ hours * hour ≤ now - last
  | .noting now last => last ∈ state.stamps.map Prod.snd ∧ hours * hour ≤ now - last ∧
    ∀ attempt ∈ state.attempts, attempt.restores = state.restores → attempt.now + hour ≤ now
  | .sending now at_ => now ∈ state.attempts.map Attempt.now ∧ state.Sent at_
  | _ => True

/-- A time that `last_backup` held lies within the interval, or an attempt within the hour. -/
def Covered (hours : Int) (state : State) (now : Int) : Prop :=
  (∃ stamp ∈ state.stamps, now - stamp.2 < hours * hour) ∨
    ∃ attempt ∈ 0 :: (state.attempts.map Attempt.now ++ state.brought), now - attempt < hour

structure Kept (hours : Int) (state : State) : Prop where
  stamp : ∀ last, state.lastBackup = some (some last) → last ∈ state.stamps.map Prod.snd
  attempt : ∀ last, state.lastBackupAttempt = some (some last) →
    last ∈ state.attempts.map Attempt.now ++ state.brought
  before : ∀ attempt ∈ state.attempts, attempt.restores ≤ state.restores
  latest : ∀ attempt ∈ state.attempts, attempt.restores = state.restores →
    ∃ held ∈ state.attempt, attempt.now ≤ held
  spaced : state.attempts.Pairwise fun later earlier =>
    earlier.restores = later.restores → earlier.now + hour ≤ later.now
  due : ∀ attempt ∈ state.attempts,
    attempt.last ∈ state.stamps.map Prod.snd ∧ hours * hour ≤ attempt.now - attempt.last
  recorded : ∀ at_, (Origin.backup,at_) ∈ state.stamps → at_ ∈ state.delivered
  manual : ∀ at_ ∈ state.manual, state.Sent at_
  check : state.check.Due hours state
  covered : ∀ now ∈ state.checked, Covered hours state now

structure Grown (state after : State) : Prop where
  delivered : state.delivered ⊆ after.delivered
  stamps : state.stamps ⊆ after.stamps
  attempts : state.attempts ⊆ after.attempts
  brought : state.brought ⊆ after.brought

section
variable {hours : Int} {state after : State}

theorem State.Sent.mono {at_ : Sending} (sent : state.Sent at_)
    (delivered : state.delivered ⊆ after.delivered) : after.Sent at_ := by
  cases at_ with
  | sending => trivial
  | recording at_ => exact delivered sent

theorem Covered.mono {now : Int} (covered : Covered hours state now)
    (grown : Grown state after) : Covered hours after now := by
  rcases covered with ⟨stamp,member,fresh⟩ | ⟨attempt,member,recent⟩
  · exact .inl ⟨stamp,grown.stamps member,fresh⟩
  · refine .inr ⟨attempt,List.cons_subset_cons 0 ?_ member,recent⟩
    exact List.append_subset.mpr
      ⟨List.subset_append_of_subset_left _ (List.map_subset _ grown.attempts),
        List.subset_append_of_subset_right _ grown.brought⟩

theorem Check.Due.mono {check : Check} (due : check.Due hours state) (grown : Grown state after)
    (new : ∀ attempt ∈ after.attempts, attempt.restores = after.restores →
      attempt ∈ state.attempts ∧ attempt.restores = state.restores) :
    check.Due hours after := by
  cases check with
  | idle => trivial
  | reading now => trivial
  | beginning now => trivial
  | comparing now last => exact ⟨List.map_subset _ grown.stamps due.1,due.2⟩
  | noting now last =>
    refine ⟨List.map_subset _ grown.stamps due.1,due.2.1,?_⟩
    intro attempt member same
    exact due.2.2 attempt (new attempt member same).1 (new attempt member same).2
  | sending now at_ =>
    exact ⟨List.map_subset _ grown.attempts due.1,due.2.mono grown.delivered⟩

theorem Kept.move {check : Check} (kept : Kept hours state) (due : check.Due hours state) :
    Kept hours {state with check := check} := by
  refine {kept with check := due.mono ⟨?_,?_,?_,?_⟩ ?_}
  all_goals first | exact List.Subset.refl _ | exact fun _ member same => ⟨member,same⟩

theorem Kept.finish (kept : Kept hours state) {now : Int} (covered : Covered hours state now) :
    Kept hours (state.finish now) where
  stamp := kept.stamp
  attempt := kept.attempt
  before := kept.before
  latest := kept.latest
  spaced := kept.spaced
  due := kept.due
  recorded := kept.recorded
  manual := kept.manual
  check := trivial
  covered now is := by
    cases is
    exact covered

theorem Grown.record (origin : Origin) (at_ : Int) : Grown state (state.record origin at_) :=
  ⟨List.Subset.refl _,List.subset_cons_self _ _,List.Subset.refl _,List.Subset.refl _⟩

theorem Kept.record (kept : Kept hours state) {origin : Origin} {at_ : Int}
    (sent : origin = .backup → at_ ∈ state.delivered) :
    Kept hours (state.record origin at_) where
  stamp last is := by
    cases is
    exact .head _
  attempt := kept.attempt
  before := kept.before
  latest := kept.latest
  spaced := kept.spaced
  due attempt member := ⟨.tail _ (kept.due attempt member).1,(kept.due attempt member).2⟩
  recorded stamp member := by
    rcases List.mem_cons.mp member with is | before
    · cases is
      exact sent rfl
    · exact kept.recorded stamp before
  manual := kept.manual
  check := kept.check.mono (.record origin at_) fun _ member same => ⟨member,same⟩
  covered now is := (kept.covered now is).mono (.record origin at_)

theorem Grown.deliver : Grown state state.deliver :=
  ⟨List.subset_cons_self _ _,List.Subset.refl _,List.Subset.refl _,List.Subset.refl _⟩

theorem Kept.deliver (kept : Kept hours state) : Kept hours state.deliver where
  stamp := kept.stamp
  attempt := kept.attempt
  before := kept.before
  latest := kept.latest
  spaced := kept.spaced
  due := kept.due
  recorded stamp member := .tail _ (kept.recorded stamp member)
  manual at_ member := (kept.manual at_ member).mono (List.subset_cons_self _ _)
  check := kept.check.mono .deliver fun _ member same => ⟨member,same⟩
  covered now is := (kept.covered now is).mono .deliver

/-- An attempt is not made within an hour of another. -/
theorem Kept.note (kept : Kept hours state) {now last : Int}
    (due : (Check.noting now last).Due hours state) :
    Kept hours {state.note now last with check := .sending now .sending} := by
  obtain ⟨seen,old,apart⟩ := due
  refine ⟨kept.stamp,?_,?_,?_,?_,?_,kept.recorded,kept.manual,⟨.head _,trivial⟩,?_⟩
  · intro last is
    cases is
    exact .head _
  · intro attempt member
    rcases List.mem_cons.mp member with rfl | before
    · exact Nat.le_refl _
    · exact kept.before attempt before
  · intro attempt member same
    refine ⟨now,rfl,?_⟩
    rcases List.mem_cons.mp member with rfl | before
    · exact Int.le_refl _
    · have hours := apart attempt before same
      have positive : 0 ≤ hour := by decide
      omega
  · exact List.pairwise_cons.mpr ⟨apart,kept.spaced⟩
  · intro attempt member
    rcases List.mem_cons.mp member with rfl | before
    · exact ⟨seen,old⟩
    · exact kept.due attempt before
  · intro now is
    exact (kept.covered now is).mono
      ⟨List.Subset.refl _,List.Subset.refl _,List.subset_cons_self _ _,List.Subset.refl _⟩

theorem Kept.fresh (kept : Kept hours state) {now last : Int}
    (found : state.lastBackup = some (some last)) (fresh : now - last < hours * hour) :
    Kept hours (state.finish now) := by
  obtain ⟨stamp,held,rfl⟩ := List.mem_map.mp (kept.stamp last found)
  exact kept.finish (.inl ⟨stamp,held,fresh⟩)

theorem Kept.recent (kept : Kept hours state) {now attempt : Int}
    (held : state.attempt = some attempt) (recent : now - attempt < hour) :
    Kept hours (state.finish now) := by
  refine kept.finish (.inr ⟨attempt,?_,recent⟩)
  cases stored : state.lastBackupAttempt with
  | none =>
    simp only [State.attempt,stored,Option.getD_none,Option.some.injEq] at held
    exact held ▸ .head _
  | some read =>
    simp only [State.attempt,stored,Option.getD_some] at held
    exact .tail _ (kept.attempt attempt (held ▸ stored))

theorem Kept.apart (kept : Kept hours state) {now attempt : Int}
    (held : state.attempt = some attempt) (old : hour ≤ now - attempt) :
    ∀ earlier ∈ state.attempts, earlier.restores = state.restores → earlier.now + hour ≤ now := by
  intro earlier member same
  obtain ⟨_,is,before⟩ := kept.latest earlier member same
  cases held.symm.trans is
  omega

/-- However the sending ends, its attempt has just been made. -/
theorem Kept.attempted (kept : Kept hours state) {now : Int}
    (made : now ∈ state.attempts.map Attempt.now) : Kept hours (state.finish now) := by
  have soon : now - now < hour := by simp [hour]
  exact kept.finish (.inr ⟨now,.tail _ (List.mem_append_left _ made),soon⟩)

theorem Kept.go (kept : Kept hours state) (atLeast : 1 ≤ hours) {succeeds : Bool}
    (taken : go hours succeeds state = some after) : Kept hours after := by
  have due := kept.check
  unfold BackupSchedule.go at taken
  split at taken
  next => contradiction
  next now is =>
    split at taken
    next =>
      cases taken
      exact kept.move trivial
    next =>
      cases taken
      exact kept.move trivial
    next last found =>
      split at taken
      next fresh =>
        cases taken
        exact kept.fresh found fresh
      next old =>
        cases taken
        exact kept.move ⟨kept.stamp last found,Int.not_lt.mp old⟩
  next now is =>
    cases taken
    have recorded : Kept hours (state.record .firstStart now) := kept.record nofun
    have interval : now - now < hours * hour := by
      unfold hour
      omega
    exact recorded.fresh rfl interval
  next now last is =>
    rw [is] at due
    split at taken
    next =>
      cases taken
      exact kept.move trivial
    next attempt held =>
      split at taken
      next recent =>
        cases taken
        exact kept.recent held recent
      next old =>
        cases taken
        exact kept.move ⟨due.1,due.2,kept.apart held (Int.not_lt.mp old)⟩
  next now last is =>
    rw [is] at due
    cases taken
    exact kept.note due
  next now is =>
    rw [is] at due
    split at taken
    next =>
      cases taken
      exact kept.deliver.move ⟨due.1,.head _⟩
    next =>
      cases taken
      exact kept.attempted due.1
  next now at_ is =>
    rw [is] at due
    split at taken
    next =>
      cases taken
      exact (kept.record fun _ => due.2).attempted due.1
    next =>
      cases taken
      exact kept.attempted due.1

theorem Kept.withManual (kept : Kept hours state) {manual : List Sending}
    (sent : ∀ at_ ∈ manual, state.Sent at_) : Kept hours {state with manual := manual} :=
  {kept with
    manual := sent
    check := kept.check.mono ⟨fun _ => id,fun _ => id,fun _ => id,fun _ => id⟩
      fun _ member same => ⟨member,same⟩}

theorem Kept.goManual (kept : Kept hours state) {index : Nat} {succeeds : Bool}
    (taken : goManual index succeeds state = some after) : Kept hours after := by
  obtain ⟨at_,found,rfl⟩ := Option.map_eq_some_iff.mp taken
  have sent := kept.manual at_ (List.mem_of_getElem? found)
  have ended : Kept hours {state with manual := state.manual.eraseIdx index} :=
    kept.withManual fun at_ member => kept.manual at_ (List.mem_of_mem_eraseIdx member)
  dsimp only
  split
  next =>
    cases at_ with
    | sending =>
      refine kept.deliver.withManual fun at_ member => ?_
      rcases List.mem_or_eq_of_mem_set member with before | rfl
      · exact kept.deliver.manual at_ before
      · exact .head _
    | recording at_ => exact ended.record fun _ => sent
  next => exact ended

/-- The attempts before a restore belong to another database. -/
theorem Kept.restore (kept : Kept hours state) {lastBackup lastBackupAttempt : Setting}
    (taken : step hours state (.restore lastBackup lastBackupAttempt) = some after) :
    Kept hours after := by
  cases taken
  have grown {backup attempt : Setting} : Grown state {state with
      lastBackup := backup
      lastBackupAttempt := attempt
      restores := state.restores + 1
      stamps := (backup.join.map (Prod.mk .restored)).toList ++ state.stamps
      brought := attempt.join.toList ++ state.brought} :=
    ⟨List.Subset.refl _,List.subset_append_right _ _,List.Subset.refl _,
      List.subset_append_right _ _⟩
  have old (attempt : Attempt) (member : attempt ∈ state.attempts) :
      attempt.restores ≠ state.restores + 1 := by
    have before := kept.before attempt member
    omega
  refine ⟨?_,?_,?_,?_,kept.spaced,?_,?_,kept.manual,?_,?_⟩
  · intro last is
    cases is
    exact .head _
  · intro last is
    cases is
    exact List.mem_append_right _ (.head _)
  · exact fun attempt member => Nat.le_succ_of_le (kept.before attempt member)
  · exact fun attempt member same => absurd same (old attempt member)
  · intro attempt member
    exact ⟨List.map_subset _ grown.stamps (kept.due attempt member).1,(kept.due attempt member).2⟩
  · intro at_ member
    rcases List.mem_append.mp member with restored | before
    · simp at restored
    · exact kept.recorded at_ before
  · exact kept.check.mono grown fun attempt member same => absurd same (old attempt member)
  · exact fun now is => (kept.covered now is).mono grown

theorem Kept.step (kept : Kept hours state) (atLeast : 1 ≤ hours) {event : Event}
    (taken : step hours state event = some after) : Kept hours after := by
  cases event with
  | tick elapsed =>
    cases taken
    exact {kept with
      check := kept.check.mono ⟨fun _ => id,fun _ => id,fun _ => id,fun _ => id⟩
        fun _ member same => ⟨member,same⟩}
  | check =>
    simp only [BackupSchedule.step] at taken
    split at taken
    next =>
      cases taken
      exact kept.move trivial
    next => contradiction
  | go succeeds => exact kept.go atLeast taken
  | fail =>
    cases taken
    exact kept.move trivial
  | backupNow =>
    cases taken
    exact kept.withManual (List.forall_mem_cons.mpr ⟨trivial,kept.manual⟩)
  | goManual index succeeds => exact kept.goManual taken
  | restart =>
    cases taken
    exact {kept with check := trivial, manual := nofun}
  | restore lastBackup lastBackupAttempt => exact kept.restore taken

def sent : List Event := .check :: List.replicate 5 (.go true)

end

end AtronixX.BackupSchedule
