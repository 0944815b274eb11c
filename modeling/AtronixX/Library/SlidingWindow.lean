import Mathlib.Algebra.Order.Group.Defs
import Mathlib.Algebra.Order.Group.Unbundled.Basic
import Mathlib.Data.List.Basic

/-! Sliding windows over times that do not decrease: what is left of a list when its old
entries are dropped at the head, and how many entries an interval holds when each was let
in by a count over the window before it. -/
namespace AtronixX.Library.SlidingWindow

section Order
variable {Time : Type*} [LinearOrder Time]

/-- The times in a closed interval. -/
def within (first last : Time) (times : List Time) : List Time :=
  times.filter fun time => first ≤ time ∧ time ≤ last

theorem within_append (first last : Time) (times more : List Time) :
    within first last (times ++ more) = within first last times ++ within first last more :=
  List.filter_append ..

theorem mem_within {first last time : Time} {times : List Time} :
    time ∈ within first last times ↔ time ∈ times ∧ first ≤ time ∧ time ≤ last := by
  simp [within]

theorem within_within {first last start stop : Time} {times : List Time}
    (wider : ∀ time ∈ times, first ≤ time → time ≤ last → start ≤ time ∧ time ≤ stop) :
    within first last (within start stop times) = within first last times := by
  unfold within
  rw [List.filter_filter]
  apply List.filter_congr
  intro time member
  by_cases inside : first ≤ time ∧ time ≤ last
  · simp [inside,wider time member inside.1 inside.2]
  · simp [inside]

theorem length_within_le {first last start stop : Time} {times : List Time}
    (wider : ∀ time ∈ times, first ≤ time → time ≤ last → start ≤ time ∧ time ≤ stop) :
    (within first last times).length ≤ (within start stop times).length := by
  rw [← within_within wider]
  exact List.length_filter_le _ _

theorem length_within_lt_iff {first last oldest : Time} {rest : List Time}
    (sorted : (oldest :: rest).Pairwise (· ≤ ·)) (past : ∀ time ∈ oldest :: rest, time ≤ last) :
    (within first last (oldest :: rest)).length < (oldest :: rest).length ↔ oldest < first := by
  constructor
  · intro fewer
    by_contra recent
    have all : within first last (oldest :: rest) = oldest :: rest := by
      apply List.filter_eq_self.mpr
      intro time member
      apply decide_eq_true
      refine ⟨?_,past time member⟩
      rcases List.mem_cons.mp member with rfl | later
      · exact not_lt.mp recent
      · exact (not_lt.mp recent).trans ((List.pairwise_cons.mp sorted).1 time later)
    rw [all] at fewer
    exact lt_irrefl _ fewer
  · intro old
    have dropped : within first last (oldest :: rest) = within first last rest := by
      unfold within
      rw [List.filter_cons_of_neg (by simp [not_le.mpr old])]
    rw [dropped]
    exact Nat.lt_succ_of_le (List.length_filter_le _ _)

end Order

variable {Time : Type*} [AddCommGroup Time] [LinearOrder Time] [IsOrderedAddMonoid Time]

omit [IsOrderedAddMonoid Time] in
/-- The times without those at the head that are older than the window. -/
def pruned (window now : Time) (times : List Time) : List Time :=
  times.dropWhile fun time => now - time > window

theorem pruned_eq_within {window now : Time} {times : List Time} (sorted : times.Pairwise (· ≤ ·))
    (past : ∀ time ∈ times, time ≤ now) :
    pruned window now times = within (now - window) now times := by
  induction times with
  | nil => rfl
  | cons oldest rest ih =>
    obtain ⟨first,sortedRest⟩ := List.pairwise_cons.mp sorted
    by_cases old : now - oldest > window
    · have outside : ¬ now - window ≤ oldest := not_le.mpr (lt_sub_comm.mp old)
      have tail := ih sortedRest fun time member => past time (List.mem_cons_of_mem _ member)
      unfold pruned within at tail ⊢
      simp only [List.dropWhile_cons,List.filter_cons,old,outside,decide_true,false_and,
        decide_false,if_true,Bool.false_eq_true,if_false]
      exact tail
    · have recent : now - window ≤ oldest := sub_le_comm.mp (not_lt.mp old)
      have all : ∀ time ∈ oldest :: rest, now - window ≤ time ∧ time ≤ now := by
        intro time member
        refine ⟨?_,past time member⟩
        rcases List.mem_cons.mp member with rfl | later
        · exact recent
        · exact recent.trans (first time later)
      have kept : within (now - window) now (oldest :: rest) = oldest :: rest :=
        List.filter_eq_self.mpr fun time member => decide_eq_true (all time member)
      rw [kept]
      simp [pruned,old]

/-- Times that came in order, each when fewer than `limit` were in the window before it. -/
inductive Admitted (limit : Int) (window : Time) : List Time → Prop
  | start : Admitted limit window []
  | next (times : List Time) (now : Time) (earlier : Admitted limit window times)
      (past : ∀ time ∈ times, time ≤ now)
      (room : ((within (now - window) now times).length : Int) < limit) :
      Admitted limit window (times ++ [now])

omit [IsOrderedAddMonoid Time] in
theorem Admitted.sorted {limit : Int} {window : Time} {times : List Time}
    (admitted : Admitted limit window times) : times.Pairwise (· ≤ ·) := by
  induction admitted with
  | start => exact List.Pairwise.nil
  | next times now _ past _ ih =>
    rw [List.pairwise_append]
    refine ⟨ih,List.pairwise_singleton _ _,?_⟩
    intro time member last same
    rw [List.mem_singleton.mp same]
    exact past time member

/-- No interval as long as the window holds more than `limit`. -/
theorem Admitted.length_within {limit : Int} {window : Time} {times : List Time}
    (admitted : Admitted limit window times) (first : Time) :
    (within first (first + window) times).length ≤ limit.toNat := by
  induction admitted with
  | start => exact Nat.zero_le _
  | next times now _ past room ih =>
    rw [within_append,List.length_append]
    by_cases inside : first ≤ now ∧ now ≤ first + window
    · have fits : (within first (first + window) times).length ≤
          (within (now - window) now times).length := by
        apply length_within_le
        intro time member after _
        exact ⟨(sub_le_iff_le_add.mpr inside.2).trans after,past time member⟩
      have single : (within first (first + window) [now]).length = 1 := by simp [within,inside]
      omega
    · have none : within first (first + window) [now] = [] := by simp [within,inside]
      rw [none]
      exact ih

end AtronixX.Library.SlidingWindow
