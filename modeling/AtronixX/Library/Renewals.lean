import Mathlib.MeasureTheory.Measure.Lebesgue.Basic

/-! Periods that are renewed: each renewal adds its length to what is left, or to the present
when nothing is left. Nothing here mentions a particular system. -/
namespace AtronixX.Library.Renewals
open MeasureTheory

structure Renewal where
  time : ℝ
  length : ℝ

/-- The end of the period after one more renewal. -/
noncomputable def renew (ends : ℝ) (renewal : Renewal) : ℝ := max renewal.time ends + renewal.length

noncomputable def expiry (ends : ℝ) (renewals : List Renewal) : ℝ := renewals.foldl renew ends

/-- The end of the period as it is known at an instant. -/
noncomputable def expiryAt (ends : ℝ) (renewals : List Renewal) (instant : ℝ) : ℝ :=
  expiry ends (renewals.filter fun renewal => renewal.time ≤ instant)

/-- The instants from `start` on at which the period of that instant has not ended. -/
def covered (start ends : ℝ) (renewals : List Renewal) : Set ℝ :=
  {instant | start ≤ instant ∧ instant < expiryAt ends renewals instant}

def Ordered (renewals : List Renewal) : Prop :=
  renewals.Pairwise fun one two => one.time ≤ two.time

variable {start ends instant : ℝ} {renewal : Renewal} {renewals : List Renewal}

theorem expiryAt_before (ordered : Ordered (renewal :: renewals)) (before : instant < renewal.time) :
    expiryAt ends (renewal :: renewals) instant = ends := by
  have none : (renewal :: renewals).filter (fun renewal => renewal.time ≤ instant) = [] := by
    rw [List.filter_eq_nil_iff]
    intro other member
    have later : renewal.time ≤ other.time := by
      rcases List.mem_cons.mp member with rfl | tail
      · exact le_rfl
      · exact List.rel_of_pairwise_cons ordered tail
    simpa using before.trans_le later
  rw [expiryAt,none]
  rfl

theorem expiryAt_since (since : renewal.time ≤ instant) :
    expiryAt ends (renewal :: renewals) instant = expiryAt (renew ends renewal) renewals instant := by
  simp [expiryAt,since,expiry]

theorem covered_cons (ordered : Ordered (renewal :: renewals)) (late : start ≤ renewal.time) :
    covered start ends (renewal :: renewals) = Set.Ico start (min renewal.time ends) ∪
      covered renewal.time (renew ends renewal) renewals := by
  ext instant
  simp only [covered,Set.mem_union,Set.mem_Ico,Set.mem_ofPred_eq,lt_min_iff]
  rcases lt_or_ge instant renewal.time with before | since
  · rw [expiryAt_before ordered before]
    simp [before,not_le.mpr before]
  · rw [expiryAt_since since]
    simp [since,not_lt.mpr since,late.trans since]

private theorem lengths_cons (first : start ≤ renewal.time) (long : 0 ≤ renewal.length) (sum : ℝ) :
    max 0 (min renewal.time ends - start) + (max 0 (renew ends renewal - renewal.time) + sum) =
      max 0 (ends - start) + (renewal.length + sum) := by
  unfold renew
  rcases le_total ends renewal.time with ended | running
  · rw [min_eq_right ended,max_eq_left ended,add_sub_cancel_left,max_eq_right long]
  · rw [min_eq_left running,max_eq_right running,max_eq_right (by linarith),
      max_eq_right (by linarith),max_eq_right (by linarith)]
    ring

/-- The covered time is what was left at the start and the sum of the lengths. -/
theorem volume_covered (ordered : Ordered renewals) (late : ∀ renewal ∈ renewals, start ≤ renewal.time)
    (lengths : ∀ renewal ∈ renewals, 0 ≤ renewal.length) :
    volume (covered start ends renewals) =
      ENNReal.ofReal (max 0 (ends - start) + (renewals.map Renewal.length).sum) := by
  induction renewals generalizing start ends with
  | nil =>
    have all : covered start ends [] = Set.Ico start ends := by
      ext instant
      simp [covered,expiryAt,expiry]
    rw [all,Real.volume_Ico]
    simp
  | cons renewal renewals ih =>
    have first := late renewal List.mem_cons_self
    have long := lengths renewal List.mem_cons_self
    have rest := @ih renewal.time (renew ends renewal) (List.Pairwise.of_cons ordered)
      (fun other member => List.rel_of_pairwise_cons ordered member)
      (fun other member => lengths other (List.mem_cons_of_mem _ member))
    have apart : Disjoint (Set.Ico start (min renewal.time ends))
        (covered renewal.time (renew ends renewal) renewals) := by
      rw [Set.disjoint_left]
      intro instant before since
      exact absurd since.1 (not_le.mpr (lt_min_iff.mp before.2).1)
    have sum : 0 ≤ (renewals.map Renewal.length).sum := by
      apply List.sum_nonneg
      intro length member
      obtain ⟨other,listed,rfl⟩ := List.mem_map.mp member
      exact lengths other (List.mem_cons_of_mem _ listed)
    have parts := ENNReal.ofReal_add (le_max_left 0 (min renewal.time ends - start))
      (add_nonneg (le_max_left 0 (renew ends renewal - renewal.time)) sum)
    have before : ENNReal.ofReal (max 0 (min renewal.time ends - start)) =
        ENNReal.ofReal (min renewal.time ends - start) := by simp [ENNReal.ofReal_max]
    rw [covered_cons ordered first,measure_union' apart measurableSet_Ico,rest,Real.volume_Ico,
      List.map_cons,List.sum_cons,← lengths_cons first long,parts,before]

end AtronixX.Library.Renewals
