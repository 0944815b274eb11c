import AtronixX.Library.Programs

/-! Contracts of calls. A call asks for something of its caller, and while the shared state keeps
its invariant the caller gets something for it: what is known of the answer. Programs whose calls
keep to the contracts keep the invariant, however they interleave. -/
namespace AtronixX.Library.Contracts
open Transition Programs

variable {ε : Type → Type 1} {α β : Type}

/-- Each call of the program asks what it may, as long as its answers are as the contracts say,
and what it returns is as promised. -/
def Obeys (asks : ∀ β, ε β → Prop) (gets : ∀ β, ε β → β → Prop) :
    Program ε α → (α → Prop) → Prop
  | .done value, post => post value
  | .call effect next, post => asks _ effect ∧ ∀ answer, gets _ effect answer →
      Obeys asks gets (next answer) post

variable {asks : ∀ β, ε β → Prop} {gets : ∀ β, ε β → β → Prop} {post : α → Prop}

@[simp] theorem obeys_pure (value : α) :
    Obeys asks gets (pure value : Program ε α) post ↔ post value := Iff.rfl

@[simp] theorem obeys_run (effect : ε α) :
    Obeys asks gets (Program.run effect) post ↔
      asks α effect ∧ ∀ answer, gets α effect answer → post answer := Iff.rfl

@[simp] theorem obeys_bind (first : Program ε α) (next : α → Program ε β) (post : β → Prop) :
    Obeys asks gets (first >>= next) post ↔
      Obeys asks gets first fun value => Obeys asks gets (next value) post := by
  induction first with
  | done value => exact Iff.rfl
  | call effect rest ih =>
    constructor
    · intro obeys
      exact ⟨obeys.1,fun answer known => (ih answer).mp (obeys.2 answer known)⟩
    · intro obeys
      exact ⟨obeys.1,fun answer known => (ih answer).mpr (obeys.2 answer known)⟩

@[simp] theorem obeys_ite {condition : Prop} [Decidable condition] {one two : Program ε α} :
    Obeys asks gets (if condition then one else two) post ↔
      (condition → Obeys asks gets one post) ∧ (¬condition → Obeys asks gets two post) := by
  split
  next holds => simp [holds]
  next fails => simp [fails]

theorem Obeys.imp {other : α → Prop} {program : Program ε α}
    (obeys : Obeys asks gets program post) (weaker : ∀ value, post value → other value) :
    Obeys asks gets program other := by
  induction program with
  | done value => exact weaker value obeys
  | call effect rest ih =>
    exact ⟨obeys.1,fun answer known => ih answer (obeys.2 answer known)⟩

theorem Obeys.bind {first : Program ε α} {next : α → Program ε β} {post : β → Prop}
    (one : Obeys asks gets first fun _ => True)
    (two : ∀ value, Obeys asks gets (next value) post) :
    Obeys asks gets (first >>= next) post :=
  (obeys_bind _ _ _).mpr (one.imp fun value _ => two value)

variable {τ ι ρ σ : Type}

/-- What the calls that are `okay` do for who keeps to the contracts. -/
def Honours (perform : ∀ β, τ → ε β → ρ → σ → Option (β × σ)) (okay : ∀ β, ε β → σ → σ → Prop)
    (inv : σ → Prop) (asks : ∀ β, ε β → Prop) (gets : ∀ β, ε β → β → Prop) : Prop :=
  ∀ β who (effect : ε β) reply before answer after, asks β effect → inv before →
    perform β who effect reply before = some (answer,after) → okay β effect before after →
      gets β effect answer ∧ inv after

/-- The invariant holds, and every thread keeps to the contracts in what it has left to do. -/
structure Lawful (inv : σ → Prop) (asks : ∀ β, ε β → Prop) (gets : ∀ β, ε β → β → Prop)
    (state : Threads ε τ σ) : Prop where
  held : inv state.shared
  obeys : ∀ thread ∈ state.running, Obeys asks gets thread.2 fun _ => True

section
variable {perform : ∀ β, τ → ε β → ρ → σ → Option (β × σ)} {body : τ → ι → Program ε Unit}
variable {okay : ∀ β, ε β → σ → σ → Prop} {inv : σ → Prop}
variable {meets : Threads ε τ σ → Move τ ι ρ σ → Prop}

theorem Lawful.erase {state : Threads ε τ σ} (lawful : Lawful inv asks gets state) (index : Nat) :
    Lawful inv asks gets {state with running := state.running.eraseIdx index} :=
  ⟨lawful.held,fun thread member => lawful.obeys thread ((List.eraseIdx_sublist _ _).mem member)⟩

theorem Lawful.step {state after : Threads ε τ σ} {move : Move τ ι ρ σ}
    (honours : Honours perform okay inv asks gets)
    (begun : ∀ who request, move = .begin who request →
      Obeys asks gets (body who request) fun _ => True)
    (outside : ∀ shared, move = .outside shared → inv shared)
    (respects : Respects perform okay state move) (lawful : Lawful inv asks gets state)
    (taken : Programs.step perform body state move = some after) :
    Lawful inv asks gets after := by
  cases move with
  | begin who request =>
    cases taken
    refine ⟨lawful.held,fun thread member => ?_⟩
    rcases List.mem_cons.mp member with rfl | member
    · exact begun who request rfl
    · exact lawful.obeys thread member
  | abandon index =>
    cases taken
    exact lawful.erase index
  | outside shared =>
    cases taken
    exact ⟨outside shared rfl,lawful.obeys⟩
  | advance index reply =>
    obtain ⟨⟨who,program⟩,here,taken⟩ := Option.bind_eq_some_iff.mp taken
    cases program with
    | done value =>
      cases taken
      exact lawful.erase index
    | call effect next =>
      obtain ⟨⟨answer,shared⟩,performed,rfl⟩ := Option.map_eq_some_iff.mp taken
      have obeys := lawful.obeys _ (List.mem_of_getElem? here)
      have okay := respects who _ effect next answer shared here performed
      obtain ⟨known,held⟩ :=
        honours _ who effect reply state.shared answer shared obeys.1 lawful.held performed okay
      refine ⟨held,fun thread member => ?_⟩
      rcases List.mem_or_eq_of_mem_set member with member | rfl
      · exact lawful.obeys thread member
      · exact obeys.2 answer known

/-- A run of programs that keep to the contracts keeps the invariant. -/
theorem lawful_of_reach {first state : Threads ε τ σ}
    (honours : Honours perform okay inv asks gets)
    (begun : ∀ state who request, meets state (.begin who request) →
      Obeys asks gets (body who request) fun _ => True)
    (outside : ∀ state shared, meets state (.outside shared) → inv shared)
    (respects : ∀ state move, meets state move → Respects perform okay state move)
    (lawful : Lawful inv asks gets first)
    (reached : Reach (Programs.step perform body) meets first state) :
    Lawful inv asks gets state := by
  apply reached.invariant (Lawful inv asks gets) lawful
  intro before move after lawful met taken
  refine Lawful.step honours ?_ ?_ (respects before move met) lawful taken
  · intro who request same
    subst same
    exact begun before who request met
  · intro shared same
    subst same
    exact outside before shared met

end

end AtronixX.Library.Contracts
