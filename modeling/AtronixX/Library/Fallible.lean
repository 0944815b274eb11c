import Mathlib.Logic.Basic

/-! Computations that change a state and may stop with an exception. `Settles`
says from one state when such a computation returns, with which value, and that
it stops with an exception of a given kind in every other case. -/
namespace AtronixX.Library.Fallible

variable {ε σ α β : Type}

/-- From `before`, the computation returns `value` in a state of `after` when
`fine` holds, and stops with an exception of `faults` when it does not. -/
structure Settles (faults : ε → Prop) (computation : EStateM ε σ α) (before : σ) (fine : Prop)
    (value : α) (after : σ → Prop) : Prop where
  returns : fine → ∃ last, computation before = .ok value last ∧ after last
  stops : ¬ fine → ∃ fault last, computation before = .error fault last ∧ faults fault

variable {faults : ε → Prop} {before : σ} {value : α} {after : σ → Prop}

theorem Settles.pure {fine : Prop} (sure : fine) (holds : after before) :
    Settles faults (pure value) before fine value after where
  returns _ := ⟨before,rfl,holds⟩
  stops fails := absurd sure fails

theorem Settles.weaken {computation : EStateM ε σ α} {fine other : Prop} {weaker : σ → Prop}
    (settles : Settles faults computation before fine value after) (same : other ↔ fine)
    (weakened : ∀ last, after last → weaker last) :
    Settles faults computation before other value weaker where
  returns holds :=
    let ⟨last,ran,reached⟩ := settles.returns (same.mp holds)
    ⟨last,ran,weakened last reached⟩
  stops fails := settles.stops (fun holds => fails (same.mpr holds))

theorem bind_ok {first : EStateM ε σ α} {rest : α → EStateM ε σ β} {last : σ}
    (ran : first before = .ok value last) : (first >>= rest) before = rest value last := by
  change EStateM.bind first rest before = _
  simp only [EStateM.bind,ran]

theorem bind_error {first : EStateM ε σ α} {rest : α → EStateM ε σ β} {fault : ε} {last : σ}
    (ran : first before = .error fault last) : (first >>= rest) before = .error fault last := by
  change EStateM.bind first rest before = _
  simp only [EStateM.bind,ran]

theorem Settles.stops_bind {first : EStateM ε σ α} {rest : α → EStateM ε σ β} {fine next : Prop}
    (settles : Settles faults first before fine value after)
    (stops : ∀ middle, after middle → ¬ next →
      ∃ fault last, rest value middle = .error fault last ∧ faults fault)
    (fails : ¬ (fine ∧ next)) :
    ∃ fault last, (first >>= rest) before = .error fault last ∧ faults fault := by
  by_cases begins : fine
  · obtain ⟨middle,ran,reached⟩ := settles.returns begins
    rw [bind_ok ran]
    exact stops middle reached fun holds => fails ⟨begins,holds⟩
  · obtain ⟨fault,last,ran,kind⟩ := settles.stops begins
    exact ⟨fault,last,bind_error ran,kind⟩

theorem Settles.bind {first : EStateM ε σ α} {rest : α → EStateM ε σ β} {fine next : Prop}
    {result : β} {final : σ → Prop} (settles : Settles faults first before fine value after)
    (continues : ∀ middle, after middle → Settles faults (rest value) middle next result final) :
    Settles faults (first >>= rest) before (fine ∧ next) result final where
  returns holds := by
    obtain ⟨middle,ran,reached⟩ := settles.returns holds.1
    rw [bind_ok ran]
    exact (continues middle reached).returns holds.2
  stops := settles.stops_bind fun middle reached => (continues middle reached).stops

theorem Settles.bind_pure {first : EStateM ε σ α} {fine : Prop} (result : α → β)
    (settles : Settles faults first before fine value after) :
    Settles faults (first >>= fun found => Pure.pure (result found)) before fine (result value)
      after where
  returns holds := by
    obtain ⟨last,ran,reached⟩ := settles.returns holds
    exact ⟨last,(bind_ok ran).trans rfl,reached⟩
  stops fails := by
    obtain ⟨fault,last,ran,kind⟩ := settles.stops fails
    exact ⟨fault,last,bind_error ran,kind⟩

/-- From `before`, the computation stops with `stop` when `fine` holds, and with an
exception of `faults` when it does not. -/
structure Halts (faults : ε → Prop) (stop : ε) (computation : EStateM ε σ α) (before : σ)
    (fine : Prop) : Prop where
  halts : fine → ∃ last, computation before = .error stop last
  stops : ¬ fine → ∃ fault last, computation before = .error fault last ∧ faults fault

theorem Halts.throw (stop : ε) :
    Halts faults stop (throw stop : EStateM ε σ α) before True where
  halts _ := ⟨before,rfl⟩
  stops never := absurd trivial never

theorem Halts.weaken {stop : ε} {computation : EStateM ε σ α} {fine other : Prop}
    (halts : Halts faults stop computation before fine) (same : other ↔ fine) :
    Halts faults stop computation before other where
  halts holds := halts.halts (same.mp holds)
  stops fails := halts.stops (fun holds => fails (same.mpr holds))

theorem Settles.halts {stop : ε} {first : EStateM ε σ α} {rest : α → EStateM ε σ β}
    {fine next : Prop} (settles : Settles faults first before fine value after)
    (continues : ∀ middle, after middle → Halts faults stop (rest value) middle next) :
    Halts faults stop (first >>= rest) before (fine ∧ next) where
  halts holds := by
    obtain ⟨middle,ran,reached⟩ := settles.returns holds.1
    rw [bind_ok ran]
    exact (continues middle reached).halts holds.2
  stops := settles.stops_bind fun middle reached => (continues middle reached).stops

end AtronixX.Library.Fallible
