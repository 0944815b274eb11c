import AtronixX.Library.SlidingWindow
import AtronixX.Library.Tables
import Mathlib.Algebra.Order.Floor.Ring
import Mathlib.Data.List.Induction
import Mathlib.Data.Rat.Floor

/-! The rate limiter of `core/security.py`: which calls of `allow` it grants on a clock that
never goes back, and what the seconds that `retry_after` gives are worth. Times are exact here,
where the floats of `time.monotonic` round at the edge of a window. -/
namespace AtronixX.RateLimit
open Library.SlidingWindow Library.Tables

variable {Time : Type}

structure RateLimiter (Time : Type) where
  limit : Int
  window : Time
  hits : Table Int (List Time)

def create (limit : Int) (window : Time) : RateLimiter Time := ⟨limit,window,∅⟩

def RateLimiter.queue (limiter : RateLimiter Time) (key : Int) : List Time :=
  (limiter.hits.lookup key).getD []

section Group
variable [AddCommGroup Time] [LinearOrder Time]

def allow (limiter : RateLimiter Time) (now : Time) (key : Int) : Bool × RateLimiter Time :=
  let q := pruned limiter.window now (limiter.queue key)
  if (q.length : Int) ≥ limiter.limit then
    (false,{limiter with hits := limiter.hits.insert key q})
  else (true,{limiter with hits := limiter.hits.insert key (q ++ [now])})

end Group

section Ring
variable [Ring Time] [LinearOrder Time] [FloorRing Time]

/-- `int` of a number. -/
def truncated (number : Time) : Int := if 0 ≤ number then ⌊number⌋ else ⌈number⌉

def retryAfter (limiter : RateLimiter Time) (now : Time) (key : Int) : Int :=
  match limiter.queue key with
  | [] => 0
  | oldest :: _ => max 1 (truncated (limiter.window - (now - oldest)))

end Ring

structure Call (Time : Type) where
  key : Int
  time : Time

structure Answer (Time : Type) extends Call Time where
  granted : Bool

def grants (key : Int) (answers : List (Answer Time)) : List Time :=
  (answers.filter fun answer => answer.key = key ∧ answer.granted).map fun answer => answer.time

section Runs
variable [AddCommGroup Time] [LinearOrder Time]

def serve (served : RateLimiter Time × List (Answer Time)) (call : Call Time) :
    RateLimiter Time × List (Answer Time) :=
  let (granted,limiter) := allow served.1 call.time call.key
  (limiter,served.2 ++ [⟨call,granted⟩])

def run (limit : Int) (window : Time) (calls : List (Call Time)) :
    RateLimiter Time × List (Answer Time) :=
  calls.foldl serve (create limit window,[])

def Ordered (calls : List (Call Time)) : Prop :=
  calls.Pairwise fun earlier later => earlier.time ≤ later.time

structure Exact (limit : Int) (window : Time) (calls : List (Call Time)) : Prop where
  decides : ∀ before call after, calls = before ++ call :: after →
    ((allow (run limit window before).1 call.time call.key).1 = true ↔
      ((within (call.time - window) call.time
        (grants call.key (run limit window before).2)).length : Int) < limit)
  bounded : ∀ key first,
    (within first (first + window) (grants key (run limit window calls).2)).length ≤ limit.toNat
  /-- Without a call that is refused, all other answers are the same. -/
  refused : ∀ before call after, calls = before ++ call :: after →
    (allow (run limit window before).1 call.time call.key).1 = false →
    ∃ answers, (run limit window (before ++ after)).2 = (run limit window before).2 ++ answers ∧
      (run limit window calls).2 = (run limit window before).2 ++ ⟨call,false⟩ :: answers
  /-- Without the calls of other keys, the answers for a key are the same. -/
  independent : ∀ key, (run limit window (calls.filter fun call => call.key = key)).2 =
    (run limit window calls).2.filter fun answer => answer.key = key

end Runs

theorem grants_append (key : Int) (answers more : List (Answer Time)) :
    grants key (answers ++ more) = grants key answers ++ grants key more := by
  simp [grants]

theorem grants_singleton (key : Int) (answer : Answer Time) :
    grants key [answer] = if answer.key = key ∧ answer.granted then [answer.time] else [] := by
  by_cases counts : answer.key = key ∧ answer.granted
  · simp [grants,counts]
  · rw [if_neg counts]
    simpa [grants] using counts

theorem grants_filter (key : Int) (answers : List (Answer Time)) :
    grants key (answers.filter fun answer => answer.key = key) = grants key answers := by
  unfold grants
  rw [List.filter_filter]
  congr 2
  funext answer
  by_cases same : answer.key = key <;> simp [same]

section Invariant
variable [AddCommGroup Time] [LinearOrder Time] {limit : Int} {window : Time}

theorem run_append (calls : List (Call Time)) (call : Call Time) :
    run limit window (calls ++ [call]) = serve (run limit window calls) call := by
  simp [run]

theorem answers_append (calls : List (Call Time)) (call : Call Time) :
    (run limit window (calls ++ [call])).2 = (run limit window calls).2 ++
      [⟨call,(allow (run limit window calls).1 call.time call.key).1⟩] := by
  rw [run_append]
  rfl

theorem settings_allow (limiter : RateLimiter Time) (now : Time) (key : Int) :
    (allow limiter now key).2.limit = limiter.limit ∧
      (allow limiter now key).2.window = limiter.window := by
  unfold allow
  dsimp only
  split <;> exact ⟨rfl,rfl⟩

theorem settings_run (limit : Int) (window : Time) (calls : List (Call Time)) :
    (run limit window calls).1.limit = limit ∧ (run limit window calls).1.window = window := by
  induction calls using List.reverseRecOn with
  | nil => exact ⟨rfl,rfl⟩
  | append_singleton calls call ih =>
    rw [run_append]
    have same := settings_allow (run limit window calls).1 call.time call.key
    exact ⟨same.1.trans ih.1,same.2.trans ih.2⟩

theorem granted_iff (limiter : RateLimiter Time) (now : Time) (key : Int) :
    (allow limiter now key).1 = true ↔
      ((pruned limiter.window now (limiter.queue key)).length : Int) < limiter.limit := by
  unfold allow
  dsimp only
  split
  next full => simp [full]
  next room => simpa using room

theorem queue_allow_self (limiter : RateLimiter Time) (now : Time) (key : Int) :
    (allow limiter now key).2.queue key = pruned limiter.window now (limiter.queue key) ++
      if (allow limiter now key).1 then [now] else [] := by
  unfold allow
  dsimp only
  split <;> simp [RateLimiter.queue]

theorem queue_allow_other (limiter : RateLimiter Time) (now : Time) {key other : Int}
    (differs : other ≠ key) : (allow limiter now key).2.queue other = limiter.queue other := by
  unfold allow
  dsimp only
  split <;> simp [RateLimiter.queue,AList.lookup_insert_ne differs]

structure Tracks (limit : Int) (window : Time) (calls : List (Call Time)) (key : Int) : Prop where
  admitted : Admitted limit window (grants key (run limit window calls).2)
  past : ∀ now, (∀ call ∈ calls, call.time ≤ now) →
    ∀ time ∈ grants key (run limit window calls).2, time ≤ now
  queue : ∀ now, (∀ call ∈ calls, call.time ≤ now) →
    pruned window now ((run limit window calls).1.queue key) =
      within (now - window) now (grants key (run limit window calls).2)

theorem grants_run (limit : Int) (window : Time) (calls : List (Call Time)) (call : Call Time) (key : Int) :
    grants key (run limit window (calls ++ [call])).2 = grants key (run limit window calls).2 ++
      if call.key = key ∧ (allow (run limit window calls).1 call.time call.key).1 = true
        then [call.time] else [] := by
  rw [answers_append,grants_append,grants_singleton]

omit [AddCommGroup Time] in
private theorem past_last {calls : List (Call Time)} {call : Call Time}
    (clock : Ordered (calls ++ [call])) : ∀ earlier ∈ calls, earlier.time ≤ call.time := by
  intro earlier member
  exact (List.pairwise_append.mp clock).2.2 earlier member call (List.mem_singleton_self call)

omit [AddCommGroup Time] in
private theorem ordered_append {calls : List (Call Time)} {call next : Call Time}
    (clock : Ordered (calls ++ [call])) (after : call.time ≤ next.time) :
    Ordered (calls ++ [call] ++ [next]) := by
  refine List.pairwise_append.mpr ⟨clock,List.pairwise_singleton _ _,?_⟩
  intro made member last same
  rw [List.mem_singleton.mp same]
  rcases List.mem_append.mp member with earlier | this
  · exact (past_last clock made earlier).trans after
  · exact List.mem_singleton.mp this ▸ after

omit [AddCommGroup Time] in
private theorem past_before {calls : List (Call Time)} {call : Call Time} {now : Time}
    (past : ∀ made ∈ calls ++ [call], made.time ≤ now) :
    (∀ made ∈ calls, made.time ≤ now) ∧ call.time ≤ now :=
  ⟨fun made member => past made (List.mem_append_left _ member),
    past call (List.mem_append_right _ (List.mem_singleton_self call))⟩

private theorem queue_run (limit : Int) (window : Time) (calls : List (Call Time)) (call : Call Time) (key : Int) :
    (run limit window (calls ++ [call])).1.queue key =
      (allow (run limit window calls).1 call.time call.key).2.queue key := by
  rw [run_append]
  rfl

theorem grants_others (calls others : List (Call Time)) {key : Int}
    (differs : ∀ call ∈ others, call.key ≠ key) :
    grants key (run limit window (calls ++ others)).2 = grants key (run limit window calls).2 := by
  induction others using List.reverseRecOn with
  | nil => rw [List.append_nil]
  | append_singleton others call ih =>
    have before := ih fun made member => differs made (List.mem_append_left _ member)
    have other := differs call (List.mem_append_right _ (List.mem_singleton_self call))
    rw [← List.append_assoc,grants_run,before]
    simp [other]

theorem grants_after_refusal {calls others : List (Call Time)} {key : Int} {now : Time}
    (differs : ∀ call ∈ others, call.key ≠ key)
    (refused : (allow (run limit window calls).1 now key).1 = false) :
    grants key (run limit window (calls ++ ⟨key,now⟩ :: others)).2 =
      grants key (run limit window calls).2 := by
  rw [List.append_cons,grants_others _ _ differs,grants_run]
  simp [refused]

private theorem tracks_other {calls : List (Call Time)} {call : Call Time} {key : Int}
    (before : Tracks limit window calls key) (other : call.key ≠ key) :
    Tracks limit window (calls ++ [call]) key := by
  have grantsSame : grants key (run limit window (calls ++ [call])).2 =
      grants key (run limit window calls).2 := by simp [grants_run,other]
  have queueSame : (run limit window (calls ++ [call])).1.queue key =
      (run limit window calls).1.queue key := by
    rw [queue_run,queue_allow_other _ _ (Ne.symm other)]
  constructor
  · rw [grantsSame]
    exact before.admitted
  · intro now past
    rw [grantsSame]
    exact before.past now (past_before past).1
  · intro now past
    rw [grantsSame,queueSame]
    exact before.queue now (past_before past).1

variable [IsOrderedAddMonoid Time]

private theorem within_later {now later : Time} {times : List Time} (after : now ≤ later)
    (past : ∀ time ∈ times, time ≤ now) :
    within (later - window) later (within (now - window) now times) =
      within (later - window) later times := by
  apply within_within
  intro time member recent _
  exact ⟨(sub_le_sub_right after window).trans recent,past time member⟩

private theorem tracks_self {calls : List (Call Time)} {call : Call Time}
    (before : Tracks limit window calls call.key)
    (last : ∀ made ∈ calls, made.time ≤ call.time) :
    Tracks limit window (calls ++ [call]) call.key := by
  obtain ⟨limitSame,windowSame⟩ := settings_run limit window calls
  have pastCall := before.past call.time last
  have kept := before.queue call.time last
  have queued := queue_run limit window calls call call.key
  rw [queue_allow_self,windowSame,kept] at queued
  have allowed := granted_iff (run limit window calls).1 call.time call.key
  rw [windowSame,limitSame,kept] at allowed
  have granted := grants_run limit window calls call call.key
  cases answer : (allow (run limit window calls).1 call.time call.key).1 with
  | false =>
    simp only [answer,Bool.false_eq_true,and_false,if_false,List.append_nil] at queued granted
    constructor
    · rw [granted]
      exact before.admitted
    · intro now past
      rw [granted]
      exact before.past now (past_before past).1
    · intro now past
      rw [granted,queued,pruned_eq_within,within_later (past_before past).2 pastCall]
      · exact before.admitted.sorted.filter _
      · intro time member
        exact (mem_within.mp member).2.2.trans (past_before past).2
  | true =>
    simp only [answer,and_self,if_true] at queued granted
    have admitted := Admitted.next _ _ before.admitted pastCall (allowed.mp answer)
    constructor
    · rw [granted]
      exact admitted
    · intro now past time member
      rw [granted,List.mem_append,List.mem_singleton] at member
      obtain ⟨pastNow,callNow⟩ := past_before past
      rcases member with earlier | same
      · exact before.past now pastNow time earlier
      · exact same ▸ callNow
    · intro now past
      have callNow := (past_before past).2
      rw [granted,queued,pruned_eq_within,within_append,within_append,within_later callNow pastCall]
      · rw [List.pairwise_append]
        refine ⟨before.admitted.sorted.filter _,List.pairwise_singleton _ _,?_⟩
        intro time member other same
        rw [List.mem_singleton.mp same]
        exact (mem_within.mp member).2.2
      · intro time member
        rcases List.mem_append.mp member with earlier | same
        · exact (mem_within.mp earlier).2.2.trans callNow
        · exact List.mem_singleton.mp same ▸ callNow

theorem tracks (limit : Int) (window : Time) {calls : List (Call Time)} (clock : Ordered calls) (key : Int) :
    Tracks limit window calls key := by
  induction calls using List.reverseRecOn with
  | nil => exact ⟨.start,fun _ _ time member => absurd member List.not_mem_nil,fun _ _ => rfl⟩
  | append_singleton calls call ih =>
    have before := ih (List.pairwise_append.mp clock).1
    by_cases same : call.key = key
    · subst same
      exact tracks_self before (past_last clock)
    · exact tracks_other before same

/-- The answer of `allow` counts the grants of the key in the window. -/
theorem allow_iff {calls : List (Call Time)} {call : Call Time}
    (clock : Ordered (calls ++ [call])) :
    (allow (run limit window calls).1 call.time call.key).1 = true ↔
      ((within (call.time - window) call.time
        (grants call.key (run limit window calls).2)).length : Int) < limit := by
  obtain ⟨limitSame,windowSame⟩ := settings_run limit window calls
  have before := tracks limit window (List.pairwise_append.mp clock).1 call.key
  rw [granted_iff,windowSame,limitSame,before.queue call.time (past_last clock)]

theorem full_of_refused {calls : List (Call Time)} {key : Int} {now : Time}
    (clock : Ordered (calls ++ [⟨key,now⟩]))
    (refused : (allow (run limit window calls).1 now key).1 = false) :
    limit ≤ (within (now - window) now (grants key (run limit window calls).2)).length ∧
      (run limit window (calls ++ [⟨key,now⟩])).1.queue key =
        within (now - window) now (grants key (run limit window calls).2) := by
  have counted := (@allow_iff _ _ _ limit window _ calls ⟨key,now⟩ clock).not
  have tracked := tracks limit window (List.pairwise_append.mp clock).1 key
  have queued := queue_run limit window calls ⟨key,now⟩ key
  rw [queue_allow_self,(settings_run limit window calls).2,refused,
    tracked.queue now (past_last clock)] at queued
  exact ⟨not_lt.mp (counted.mp (by simp [refused])),by simpa using queued⟩

private theorem independent_run (limit : Int) (window : Time) {calls : List (Call Time)}
    (clock : Ordered calls) (key : Int) :
    (run limit window (calls.filter fun call => call.key = key)).2 =
      (run limit window calls).2.filter fun answer => answer.key = key := by
  induction calls using List.reverseRecOn with
  | nil => rfl
  | append_singleton calls call ih =>
    have before := ih (List.pairwise_append.mp clock).1
    rw [answers_append,List.filter_append,List.filter_append]
    by_cases same : call.key = key
    · have ordered : Ordered ((calls.filter fun call => call.key = key) ++ [call]) :=
        clock.sublist (List.filter_sublist.append (List.Sublist.refl _))
      have answer := Bool.eq_iff_iff.mpr ((allow_iff ordered).trans (by
        rw [before,same,grants_filter,← same]
        exact (@allow_iff _ _ _ limit window _ _ _ clock).symm))
      have kept : ([call].filter fun call => call.key = key) = [call] := by simp [same]
      rw [kept,answers_append,before,answer]
      simp [same]
    · simp [same,before]

private theorem refused_run (limit : Int) (window : Time) {before after : List (Call Time)}
    {call : Call Time} (clock : Ordered (before ++ call :: after))
    (refused : (allow (run limit window before).1 call.time call.key).1 = false) :
    ∃ answers, (run limit window (before ++ after)).2 = (run limit window before).2 ++ answers ∧
      (run limit window (before ++ call :: after)).2 =
        (run limit window before).2 ++ ⟨call,false⟩ :: answers := by
  induction after using List.reverseRecOn with
  | nil =>
    refine ⟨[],by simp,?_⟩
    rw [answers_append,refused]
  | append_singleton after last ih =>
    have whole : Ordered ((before ++ call :: after) ++ [last]) := by simpa using clock
    obtain ⟨answers,without,within⟩ := ih (List.pairwise_append.mp whole).1
    have shorter : Ordered ((before ++ after) ++ [last]) := by
      have fewer : (before ++ after).Sublist (before ++ call :: after) :=
        (List.sublist_cons_self call after).append_left before
      exact List.Pairwise.sublist (fewer.append (List.Sublist.refl _)) whole
    have counted : grants last.key (run limit window (before ++ call :: after)).2 =
        grants last.key (run limit window (before ++ after)).2 := by
      rw [without,within,List.append_cons,grants_append,grants_append,grants_append,grants_singleton]
      simp
    have answer := Bool.eq_iff_iff.mpr ((allow_iff whole).trans (by
      rw [counted]
      exact (@allow_iff _ _ _ limit window _ _ _ shorter).symm))
    refine ⟨answers ++ [⟨last,(allow (run limit window (before ++ after)).1 last.time last.key).1⟩],?_,?_⟩
    · rw [← List.append_assoc,answers_append,without,List.append_assoc]
    · rw [← List.cons_append,← List.append_assoc,answers_append,within,answer]
      simp

/-- The calls of one user at the `connect_limiter`, all at the same time. -/
def sixCalls : List (Call ℚ) := List.replicate 6 ⟨7,0⟩

instance (calls : List (Call ℚ)) : Decidable (Ordered calls) :=
  inferInstanceAs (Decidable (calls.Pairwise _))

/-- `allow` grants exactly while the window has room. -/
theorem allow_exact (limit : Int) (window : Time) (calls : List (Call Time))
    (clock : Ordered calls) : Exact limit window calls := by
  constructor
  · intro before call after parts
    have prefixed : Ordered ((before ++ [call]) ++ after) := by simpa [← parts] using clock
    exact allow_iff (List.pairwise_append.mp prefixed).1
  · intro key first
    exact (tracks limit window clock key).admitted.length_within first
  · intro before call after parts refused
    subst parts
    exact refused_run limit window clock refused
  · intro key
    exact independent_run limit window clock key

theorem allow_exact_connections : Exact 6 60 (sixCalls ++ [⟨7,1⟩,⟨7,61⟩]) :=
  allow_exact 6 60 _ (by decide +kernel)

end Invariant

section Retry
variable [CommRing Time] [LinearOrder Time] [FloorRing Time]

/-- After a refusal, the next call of the key is granted once the seconds that `retry_after`
gave are over. -/
def Sufficient (limit : Int) (window : Time) (calls : List (Call Time)) (key : Int) (now : Time) :
    Prop :=
  ∀ others later, (∀ call ∈ others, call.key ≠ key) →
    Ordered (calls ++ ⟨key,now⟩ :: (others ++ [⟨key,later⟩])) →
    now + retryAfter (run limit window (calls ++ [⟨key,now⟩])).1 now key ≤ later →
    (allow (run limit window (calls ++ ⟨key,now⟩ :: others)).1 later key).1 = true

variable {limit : Int} {window : Time}

theorem truncated_nonneg {number : Time} (nonneg : 0 ≤ number) : truncated number = ⌊number⌋ :=
  if_pos nonneg

variable [IsStrictOrderedRing Time]

/-- The rounded seconds take the oldest grant out of the window only if one is enough. -/
private theorem seconds_iff {window now oldest : Time} :
    oldest < now + ((max 1 ⌊window - (now - oldest)⌋ : Int) : Time) - window ↔
      oldest < now - window + 1 := by
  constructor
  · intro left
    by_contra far
    have whole : 1 ≤ ⌊window - (now - oldest)⌋ := Int.le_floor.mpr (by push_cast; linarith)
    have below := Int.floor_le (window - (now - oldest))
    rw [max_eq_right whole] at left
    linarith
  · intro early
    have atLeast : (1 : Time) ≤ ((max 1 ⌊window - (now - oldest)⌋ : Int) : Time) := by
      exact_mod_cast le_max_left 1 _
    linarith

/-- The seconds suffice exactly when the oldest grant in the window leaves it within one. -/
theorem retry_after_sufficient (limit : Int) (window : Time) (calls : List (Call Time)) (key : Int)
    (now : Time) (positive : 1 ≤ limit) (clock : Ordered (calls ++ [⟨key,now⟩]))
    (refused : (allow (run limit window calls).1 now key).1 = false) :
    Sufficient limit window calls key now ↔
      ∃ grant ∈ within (now - window) now (grants key (run limit window calls).2),
        grant < now - window + 1 := by
  obtain ⟨full,queued⟩ := full_of_refused clock refused
  have tracked := tracks limit window (List.pairwise_append.mp clock).1 key
  have past := tracked.past now (past_last clock)
  have bounded := tracked.admitted.length_within (now - window)
  rw [sub_add_cancel] at bounded
  cases inWindow : within (now - window) now (grants key (run limit window calls).2) with
  | nil =>
    rw [inWindow,List.length_nil] at full
    omega
  | cons oldest rest =>
    rw [inWindow] at full bounded queued
    have exactly : ((oldest :: rest).length : Int) = limit := by omega
    have sorted : (oldest :: rest).Pairwise (· ≤ ·) := by
      rw [← inWindow]
      exact tracked.admitted.sorted.filter _
    have member {time : Time} (among : time ∈ oldest :: rest) : now - window ≤ time ∧ time ≤ now :=
      (mem_within.mp (inWindow ▸ among)).2
    -- The next call is granted as soon as the oldest grant is out of the window.
    have granted_iff {others : List (Call Time)} {later : Time}
        (differs : ∀ call ∈ others, call.key ≠ key)
        (ordered : Ordered (calls ++ ⟨key,now⟩ :: (others ++ [⟨key,later⟩]))) :
        (allow (run limit window (calls ++ ⟨key,now⟩ :: others)).1 later key).1 = true ↔
          oldest < later - window := by
      have shaped : Ordered ((calls ++ ⟨key,now⟩ :: others) ++ [⟨key,later⟩]) := by simpa using ordered
      have after : now ≤ later := past_last shaped ⟨key,now⟩ (by simp)
      have same := grants_after_refusal differs refused
      rw [← length_within_lt_iff sorted fun time among => (member among).2.trans after,
        ← Int.ofNat_lt,exactly,← inWindow,within_later after past,← same]
      exact allow_iff shaped
    have seconds : retryAfter (run limit window (calls ++ [⟨key,now⟩])).1 now key =
        max 1 ⌊window - (now - oldest)⌋ := by
      have recent := (member List.mem_cons_self).1
      unfold retryAfter
      rw [queued,(settings_run limit window _).2]
      dsimp only
      rw [truncated_nonneg (by linarith)]
    unfold Sufficient
    rw [seconds]
    constructor
    · intro sufficient
      have ordered : Ordered (calls ++ ⟨key,now⟩ ::
          ([] ++ [⟨key,now + max 1 ⌊window - (now - oldest)⌋⟩])) := by
        rw [List.nil_append,List.append_cons]
        exact ordered_append clock (le_add_of_nonneg_right (by positivity))
      have granted := sufficient [] _ (by simp) ordered (by simp)
      refine ⟨oldest,List.mem_cons_self,?_⟩
      exact seconds_iff.mp ((granted_iff (by simp) ordered).mp granted)
    · rintro ⟨grant,among,early⟩ others later differs ordered waited
      have first : oldest ≤ grant := by
        rcases List.mem_cons.mp among with rfl | rest
        · exact le_refl _
        · exact (List.pairwise_cons.mp sorted).1 grant rest
      have left := seconds_iff.mpr (first.trans_lt early)
      exact (granted_iff differs ordered).mpr (left.trans_le (sub_le_sub_right waited window))

theorem retry_after_sufficient_late : Sufficient 6 60 sixCalls 7 (119 / 2) := by
  apply (retry_after_sufficient 6 60 sixCalls 7 (119 / 2) (by decide) (by decide +kernel)
    (by decide +kernel)).mpr
  decide +kernel

end Retry

/-- Refused one second after the six, told to wait 59, and then refused again. -/
theorem waited_in_vain : Ordered (sixCalls ++ [⟨7,1⟩]) ∧
    (allow (run 6 60 sixCalls).1 1 7).1 = false ∧
    retryAfter (run 6 60 (sixCalls ++ [⟨7,1⟩])).1 1 7 = 59 ∧ ¬Sufficient 6 60 sixCalls 7 1 := by
  refine ⟨by decide +kernel,by decide +kernel,by decide +kernel,?_⟩
  intro sufficient
  have granted := sufficient [] 60 (by simp) (by decide +kernel) (by decide +kernel)
  revert granted
  decide +kernel

end AtronixX.RateLimit
