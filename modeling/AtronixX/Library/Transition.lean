import Mathlib.Data.List.Basic

/-! Runs of a labelled partial transition function. Every reachability notion
carries a condition that each step of the run has to meet; the trivial condition
gives all runs. Nothing here mentions a particular system. -/
namespace AtronixX.Library.Transition

variable {State Action : Type*}

/-- The states reached from `first` by steps that all meet `meets`. -/
inductive Reach (step : State → Action → Option State) (meets : State → Action → Prop)
    (first : State) : State → Prop
  | start : Reach step meets first first
  | next (before : State) (action : Action) (after : State)
      (reached : Reach step meets first before) (met : meets before action)
      (taken : step before action = some after) : Reach step meets first after

def always (_ : State) (_ : Action) : Prop := True

variable {step : State → Action → Option State} {meets : State → Action → Prop}

theorem Reach.invariant (inv : State → Prop) {first last : State} (initial : inv first)
    (preserved : ∀ before action after, inv before → meets before action →
      step before action = some after → inv after)
    (reached : Reach step meets first last) : inv last := by
  induction reached with
  | start => exact initial
  | next before action after _ met taken ih => exact preserved before action after ih met taken

theorem Reach.weaken {other : State → Action → Prop}
    (weaker : ∀ state action, meets state action → other state action) {first last : State}
    (reached : Reach step meets first last) : Reach step other first last := by
  induction reached with
  | start => exact .start
  | next before action after _ met taken ih =>
    exact .next before action after ih (weaker before action met) taken

/-- The steps of `step` that meet a decidable condition. -/
def guarded (step : State → Action → Option State) (meets : State → Action → Prop)
    [∀ state action, Decidable (meets state action)] (state : State) (action : Action) :
    Option State :=
  if meets state action then step state action else none

theorem reach_of_run [∀ state action, Decidable (meets state action)] {first last : State}
    (actions : List Action) (ran : actions.foldlM (guarded step meets) first = some last) :
    Reach step meets first last := by
  suffices extend : ∀ (rest : List Action) (state : State), Reach step meets first state →
      rest.foldlM (guarded step meets) state = some last → Reach step meets first last from
    extend actions first .start ran
  intro rest
  induction rest with
  | nil =>
    intro state reached done
    have same : state = last := by simpa using done
    exact same ▸ reached
  | cons action rest ih =>
    intro state reached ran
    by_cases met : meets state action
    · cases taken : step state action with
      | none => simp [guarded,met,taken] at ran
      | some next =>
        have tail : rest.foldlM (guarded step meets) next = some last := by
          simpa [guarded,met,taken] using ran
        exact ih next (.next state action next reached met taken) tail
    · simp [guarded,met] at ran

theorem reach_of_met {first last : State} (actions : List Action)
    (met : ∀ action ∈ actions, ∀ state, meets state action)
    (ran : actions.foldlM step first = some last) : Reach step meets first last := by
  suffices extend : ∀ (rest : List Action) (state : State), (∀ action ∈ rest, action ∈ actions) →
      Reach step meets first state → rest.foldlM step state = some last →
        Reach step meets first last from
    extend actions first (fun _ member => member) .start ran
  intro rest
  induction rest with
  | nil =>
    intro state _ reached done
    have same : state = last := by simpa using done
    exact same ▸ reached
  | cons action rest ih =>
    intro state among reached ran
    obtain ⟨next,taken,tail⟩ : ∃ next, step state action = some next ∧
        rest.foldlM step next = some last := by
      simpa [List.foldlM_cons,Option.bind_eq_some_iff] using ran
    have meets := met action (among action List.mem_cons_self) state
    refine ih next (fun other member => among other (List.mem_cons_of_mem _ member)) ?_ tail
    exact .next state action next reached meets taken

theorem run_invariant {inv : State → Prop}
    (preserved : ∀ before action after, inv before → step before action = some after → inv after)
    {first last : State} (actions : List Action) (initial : inv first)
    (ran : actions.foldlM step first = some last) : inv last := by
  induction actions generalizing first with
  | nil =>
    have same : first = last := by simpa using ran
    exact same ▸ initial
  | cons action rest ih =>
    obtain ⟨next,taken,tail⟩ : ∃ next, step first action = some next ∧
        rest.foldlM step next = some last := by
      simpa [List.foldlM_cons,Option.bind_eq_some_iff] using ran
    exact ih (preserved first action next initial taken) tail

/-- A measure that no step of a run makes larger bounds the steps that make it smaller. -/
theorem countP_add_le {measure : State → Nat} {counted : Action → Bool} {first last : State}
    (actions : List Action)
    (down : ∀ action ∈ actions, ∀ before after, step before action = some after →
      measure after + (if counted action then 1 else 0) ≤ measure before)
    (ran : actions.foldlM step first = some last) :
    actions.countP counted + measure last ≤ measure first := by
  induction actions generalizing first with
  | nil =>
    cases ran
    exact Nat.le_of_eq (Nat.zero_add _)
  | cons action rest ih =>
    obtain ⟨next,taken,tail⟩ : ∃ next, step first action = some next ∧
        rest.foldlM step next = some last := by
      simpa [List.foldlM_cons,Option.bind_eq_some_iff] using ran
    have less := down action List.mem_cons_self first next taken
    have short := ih (fun other member => down other (List.mem_cons_of_mem _ member)) tail
    rw [List.countP_cons]
    omega

/-- A run keeps `good` while its steps meet the condition; from the first that does not
it keeps `bad`. -/
theorem guarded_or_left [∀ state action, Decidable (meets state action)] {good bad : State → Prop}
    (keeps : ∀ before action after, good before → meets before action →
      step before action = some after → good after)
    (leaves : ∀ before action after, good before → ¬ meets before action →
      step before action = some after → bad after)
    (stays : ∀ before action after, bad before → step before action = some after → bad after)
    {first last : State} (actions : List Action) (initial : good first)
    (ran : actions.foldlM step first = some last) :
    (actions.foldlM (guarded step meets) first = some last ∧ good last) ∨
      (actions.foldlM (guarded step meets) first = none ∧ bad last) := by
  induction actions generalizing first with
  | nil =>
    have same : first = last := by simpa using ran
    subst same
    exact .inl ⟨rfl,initial⟩
  | cons action rest ih =>
    obtain ⟨next,taken,tail⟩ : ∃ next, step first action = some next ∧
        rest.foldlM step next = some last := by
      simpa [List.foldlM_cons,Option.bind_eq_some_iff] using ran
    by_cases met : meets first action
    · have kept := ih (keeps first action next initial met taken) tail
      simpa [List.foldlM_cons,guarded,met,taken] using kept
    · have left := run_invariant stays rest (leaves first action next initial met taken) tail
      exact .inr ⟨by simp [List.foldlM_cons,guarded,met],left⟩

instance (state : State) (action : Action) : Decidable (always state action) :=
  inferInstanceAs (Decidable True)

end AtronixX.Library.Transition
