import Mathlib.Data.List.Basic
import AtronixX.Library.Transition

/-! Programs as trees of calls, and threads that interleave at these calls. A rely/guarantee
rule: what each thread keeps to when the others keep to theirs holds of the whole run. -/
namespace AtronixX.Library.Programs
open Transition

inductive Program (ε : Type → Type 1) (α : Type) : Type 1
  | done (value : α)
  | call {β : Type} (effect : ε β) (next : β → Program ε α)

variable {ε : Type → Type 1} {α β : Type}

def Program.bind : Program ε α → (α → Program ε β) → Program ε β
  | .done value, next => next value
  | .call effect rest, next => .call effect fun answer => (rest answer).bind next

instance : Monad (Program ε) where
  pure := .done
  bind := Program.bind

def Program.run (effect : ε α) : Program ε α := .call effect .done

/-- Every call that the program can come to is allowed, and what it returns is as promised. -/
def Program.Every (allowed : ∀ β, ε β → Prop) : Program ε α → (α → Prop) → Prop
  | .done value,post => post value
  | .call effect next,post => allowed _ effect ∧ ∀ answer, (next answer).Every allowed post

variable {allowed : ∀ β, ε β → Prop} {post : α → Prop}

@[simp] theorem every_pure (value : α) : (pure value : Program ε α).Every allowed post ↔ post value :=
  Iff.rfl

@[simp] theorem every_run (effect : ε α) :
    (Program.run effect).Every allowed post ↔ allowed α effect ∧ ∀ answer, post answer :=
  Iff.rfl

@[simp] theorem every_bind (first : Program ε α) (next : α → Program ε β) (post : β → Prop) :
    (first >>= next).Every allowed post ↔
      first.Every allowed fun value => (next value).Every allowed post := by
  induction first with
  | done value => exact Iff.rfl
  | call effect rest ih =>
    constructor
    · intro every
      exact ⟨every.1,fun answer => (ih answer).mp (every.2 answer)⟩
    · intro every
      exact ⟨every.1,fun answer => (ih answer).mpr (every.2 answer)⟩

theorem Program.Every.call {effect : ε α} {next : α → Program ε β} {post : β → Prop}
    (one : allowed α effect) (two : ∀ answer, (next answer).Every allowed post) :
    (Program.run effect >>= next).Every allowed post := ⟨one,two⟩

theorem every_ite {condition : Prop} [Decidable condition] {one two : Program ε α} :
    (if condition then one else two).Every allowed post ↔
      (condition → one.Every allowed post) ∧ (¬condition → two.Every allowed post) := by
  split
  next holds => simp [holds]
  next fails => simp [fails]

theorem Program.Every.imp {other : α → Prop} {program : Program ε α}
    (every : program.Every allowed post) (weaker : ∀ value, post value → other value) :
    program.Every allowed other := by
  induction program with
  | done value => exact weaker value every
  | call effect rest ih => exact ⟨every.1,fun answer => ih answer (every.2 answer)⟩

theorem Program.Every.weaken {other : ∀ β, ε β → Prop} {program : Program ε α}
    (every : program.Every allowed post) (weaker : ∀ β effect, allowed β effect → other β effect) :
    program.Every other post := by
  induction program with
  | done value => exact every
  | call effect rest ih => exact ⟨weaker _ _ every.1,fun answer => ih answer (every.2 answer)⟩

variable {τ ι ρ σ : Type}

section
variable (perform : ∀ β, τ → ε β → ρ → σ → Option (β × σ)) (who : τ) (inv : σ → Prop)
variable (rely guar : σ → σ → Prop)

/-- Every call of the program keeps to `guar` and the invariant, if before each call the others
keep to `rely` and the invariant. -/
def Keeps : Program ε α → (α → σ → Prop) → σ → Prop
  | .done value, post, state => post value state
  | .call effect next, post, state => ∀ middle, rely state middle → inv middle →
      ∀ reply answer after, perform _ who effect reply middle = some (answer,after) →
        (guar middle after ∧ inv after) ∧ Keeps (next answer) post after

variable {perform who inv rely guar}

theorem Keeps.bind {first : Program ε α} {next : α → Program ε β} {post : β → σ → Prop} {state : σ}
    (keeps : Keeps perform who inv rely guar first
      (fun value => Keeps perform who inv rely guar (next value) post) state) :
    Keeps perform who inv rely guar (first >>= next) post state := by
  induction first generalizing state with
  | done value => exact keeps
  | call effect rest ih =>
    intro middle others held reply answer after performed
    obtain ⟨kept,rest⟩ := keeps middle others held reply answer after performed
    exact ⟨kept,ih answer rest⟩

theorem Keeps.imp {program : Program ε α} {post other : α → σ → Prop} {state : σ}
    (keeps : Keeps perform who inv rely guar program post state)
    (weaker : ∀ value state, post value state → other value state) :
    Keeps perform who inv rely guar program other state := by
  induction program generalizing state with
  | done value => exact weaker value state keeps
  | call effect rest ih =>
    intro middle others held reply answer after performed
    obtain ⟨kept,rest⟩ := keeps middle others held reply answer after performed
    exact ⟨kept,ih answer rest⟩

theorem Keeps.frame {program : Program ε α} {post : α → σ → Prop} {stays : σ → Prop} {state : σ}
    (keeps : Keeps perform who inv rely guar program post state)
    (others : ∀ before after, stays before → rely before after → stays after)
    (own : ∀ before after, stays before → guar before after → stays after) (now : stays state) :
    Keeps perform who inv rely guar program (fun value state => post value state ∧ stays state)
      state := by
  induction program generalizing state with
  | done value => exact ⟨keeps,now⟩
  | call effect rest ih =>
    intro middle relied held reply answer after performed
    obtain ⟨kept,rest⟩ := keeps middle relied held reply answer after performed
    exact ⟨kept,ih answer rest (own _ _ (others _ _ now relied) kept.1)⟩

theorem keeps_run_bind {effect : ε α} {next : α → Program ε β} {post : β → σ → Prop} {state : σ}
    (kept : ∀ middle, rely state middle → inv middle → ∀ reply answer after,
      perform α who effect reply middle = some (answer,after) → (guar middle after ∧ inv after) ∧
        Keeps perform who inv rely guar (next answer) post after) :
    Keeps perform who inv rely guar (Program.run effect >>= next) post state := kept

theorem Program.Every.keeps {program : Program ε α} {state : σ}
    (every : program.Every allowed post)
    (kept : ∀ β (effect : ε β) reply before answer after, allowed β effect → inv before →
      perform β who effect reply before = some (answer,after) → guar before after ∧ inv after) :
    Keeps perform who inv rely guar program (fun _ _ => True) state := by
  induction program generalizing state with
  | done value => trivial
  | call effect rest ih =>
    intro middle _ held reply answer after performed
    exact ⟨kept _ effect reply middle answer after every.1 held performed,
      ih answer (every.2 answer)⟩

theorem Keeps.stable {program : Program ε α} {before after : σ}
    (trans : ∀ first second third, rely first second → rely second third → rely first third)
    (keeps : Keeps perform who inv rely guar program (fun _ _ => True) before)
    (others : rely before after) : Keeps perform who inv rely guar program (fun _ _ => True) after := by
  cases program with
  | done value => trivial
  | call effect rest =>
    intro middle later
    exact keeps middle (trans _ _ _ others later)

end

structure Threads (ε : Type → Type 1) (τ σ : Type) : Type 1 where
  shared : σ
  running : List (τ × Program ε Unit)

inductive Move (τ ι ρ σ : Type)
  | begin (who : τ) (request : ι)
  | advance (index : Nat) (reply : ρ)
  | abandon (index : Nat)
  | outside (shared : σ)

section
variable (perform : ∀ β, τ → ε β → ρ → σ → Option (β × σ)) (body : τ → ι → Program ε Unit)

def advance (state : Threads ε τ σ) (index : Nat) (reply : ρ) :
    τ × Program ε Unit → Option (Threads ε τ σ)
  | (_,.done _) => some {state with running := state.running.eraseIdx index}
  | (who,.call effect next) => (perform _ who effect reply state.shared).map fun result =>
    { shared := result.2
      running := state.running.set index (who,next result.1) }

def step (state : Threads ε τ σ) : Move τ ι ρ σ → Option (Threads ε τ σ)
  | .begin who request => some {state with running := (who,body who request) :: state.running}
  | .advance index reply => state.running[index]?.bind (advance perform state index reply)
  | .abandon index => some {state with running := state.running.eraseIdx index}
  | .outside shared => some {state with shared := shared}

noncomputable def restrict (okay : ∀ β, ε β → σ → σ → Prop) (β : Type) (who : τ) (effect : ε β)
    (reply : ρ) (shared : σ) : Option (β × σ) := by
  classical
  exact (perform β who effect reply shared).filter fun result => okay β effect shared result.2

/-- The call that the move performs, if it performs one, meets the condition. -/
def Respects (okay : ∀ β, ε β → σ → σ → Prop) (state : Threads ε τ σ) : Move τ ι ρ σ → Prop
  | .advance index reply => ∀ who β (effect : ε β) next answer shared,
    state.running[index]? = some (who,.call effect next) →
      perform β who effect reply state.shared = some (answer,shared) →
        okay β effect state.shared shared
  | _ => True

/-- What the threads promise each other. `apart` holds of any two that run together. -/
structure Promise (inv : σ → Prop) (rely guar : τ → σ → σ → Prop) (apart : τ → τ → Prop)
    (meets : Threads ε τ σ → Move τ ι ρ σ → Prop) : Prop where
  trans : ∀ who first second third, rely who first second → rely who second third →
    rely who first third
  kept : ∀ who other before after, apart who other → guar who before after →
    rely other before after
  begun : ∀ state who request, meets state (.begin who request) → inv state.shared →
    Keeps perform who inv (rely who) (guar who) (body who request) (fun _ _ => True)
        state.shared ∧
      ∀ thread ∈ state.running, apart who thread.1 ∧ apart thread.1 who
  outside : ∀ state shared, meets state (.outside shared) → inv state.shared →
    inv shared ∧ ∀ who, rely who state.shared shared

structure Sound (inv : σ → Prop) (rely guar : τ → σ → σ → Prop) (apart : τ → τ → Prop)
    (state : Threads ε τ σ) : Prop where
  held : inv state.shared
  apart : state.running.Pairwise (fun one two => apart one.1 two.1 ∧ apart two.1 one.1)
  keeps : ∀ thread ∈ state.running,
    Keeps perform thread.1 inv (rely thread.1) (guar thread.1) thread.2 (fun _ _ => True)
      state.shared

end

section
variable {perform : ∀ β, τ → ε β → ρ → σ → Option (β × σ)} {body : τ → ι → Program ε Unit}
variable {inv : σ → Prop} {rely guar : τ → σ → σ → Prop} {apart : τ → τ → Prop}
variable {meets : Threads ε τ σ → Move τ ι ρ σ → Prop}

theorem restrict_eq_some {okay : ∀ β, ε β → σ → σ → Prop} {who : τ} {effect : ε α} {reply : ρ}
    {shared after : σ} {answer : α} :
    restrict perform okay α who effect reply shared = some (answer,after) ↔
      perform α who effect reply shared = some (answer,after) ∧ okay α effect shared after := by
  simp [restrict,Option.filter_eq_some_iff]

instance {okay : ∀ β, ε β → σ → σ → Prop}
    [∀ β (effect : ε β) before after, Decidable (okay β effect before after)]
    (state : Threads ε τ σ) (move : Move τ ι ρ σ) : Decidable (Respects perform okay state move) :=
  match move with
  | .begin _ _ => .isTrue trivial
  | .abandon _ => .isTrue trivial
  | .outside _ => .isTrue trivial
  | .advance index reply => match here : state.running[index]? with
    | none => .isTrue (by
      intro who β effect next answer shared there
      rw [here] at there
      contradiction)
    | some (_,.done _) => .isTrue (by
      intro who β effect next answer shared there
      rw [here] at there
      cases there)
    | some (who,.call effect _) => match performed : perform _ who effect reply state.shared with
      | none => .isTrue (by
        intro who β effect next answer shared there performed'
        rw [here] at there
        cases there
        rw [performed] at performed'
        contradiction)
      | some (_,shared) => decidable_of_iff (okay _ effect state.shared shared) (by
        constructor
        · intro fine who β effect next answer shared there performed'
          rw [here] at there
          cases there
          rw [performed] at performed'
          cases performed'
          exact fine
        · intro all
          exact all _ _ effect _ _ shared here performed)

theorem step_restrict {okay : ∀ β, ε β → σ → σ → Prop} {state after : Threads ε τ σ}
    {move : Move τ ι ρ σ} (respects : Respects perform okay state move)
    (taken : Programs.step perform body state move = some after) :
    Programs.step (restrict perform okay) body state move = some after := by
  cases move with
  | begin who request => exact taken
  | abandon index => exact taken
  | outside shared => exact taken
  | advance index reply =>
    obtain ⟨⟨who,program⟩,here,taken⟩ := Option.bind_eq_some_iff.mp taken
    apply Option.bind_eq_some_iff.mpr
    refine ⟨(who,program),here,?_⟩
    cases program with
    | done value => exact taken
    | call effect next =>
      obtain ⟨⟨answer,shared⟩,performed,rfl⟩ := Option.map_eq_some_iff.mp taken
      apply Option.map_eq_some_iff.mpr
      have okay := respects who _ effect next answer shared here performed
      exact ⟨(answer,shared),restrict_eq_some.mpr ⟨performed,okay⟩,rfl⟩

theorem reach_restrict {okay : ∀ β, ε β → σ → σ → Prop} {first state : Threads ε τ σ}
    (respects : ∀ state move, meets state move → Respects perform okay state move)
    (reached : Reach (Programs.step perform body) meets first state) :
    Reach (Programs.step (restrict perform okay) body) meets first state := by
  induction reached with
  | start => exact .start
  | next before move after _ met taken ih =>
    exact .next before move after ih met (step_restrict (respects before move met) taken)

private theorem apart_others {running : List (τ × Program ε Unit)} {index : Nat}
    {thread other : τ × Program ε Unit}
    (pairs : running.Pairwise (fun one two => apart one.1 two.1 ∧ apart two.1 one.1))
    (here : running[index]? = some thread) {place : Nat} (elsewhere : place ≠ index)
    (there : running[place]? = some other) : apart thread.1 other.1 := by
  rw [List.pairwise_iff_getElem] at pairs
  obtain ⟨bound,rfl⟩ := List.getElem?_eq_some_iff.mp here
  obtain ⟨bound',rfl⟩ := List.getElem?_eq_some_iff.mp there
  rcases Nat.lt_or_gt_of_ne elsewhere with before | after
  · exact (pairs place index bound' bound before).2
  · exact (pairs index place bound bound' after).1

private theorem Sound.erase {state : Threads ε τ σ} (sound : Sound perform inv rely guar apart state)
    (index : Nat) :
    Sound perform inv rely guar apart {state with running := state.running.eraseIdx index} := by
  refine ⟨sound.held,?_,?_⟩
  · exact sound.apart.sublist (List.eraseIdx_sublist _ _)
  · intro thread member
    exact sound.keeps thread ((List.eraseIdx_sublist _ _).mem member)

theorem Sound.advance {state after : Threads ε τ σ} {index : Nat} {reply : ρ}
    {thread : τ × Program ε Unit} (sound : Sound perform inv rely guar apart state)
    (refl : ∀ who shared, rely who shared shared)
    (here : state.running[index]? = some thread)
    (taken : Programs.advance perform state index reply thread = some after) :
    after.shared = state.shared ∨ guar thread.1 state.shared after.shared := by
  obtain ⟨who,program⟩ := thread
  have keeps := sound.keeps _ (List.mem_of_getElem? here)
  cases program with
  | done value =>
    cases taken
    exact .inl rfl
  | call effect next =>
    obtain ⟨⟨answer,shared⟩,performed,rfl⟩ := Option.map_eq_some_iff.mp taken
    exact .inr (keeps state.shared (refl who state.shared) sound.held reply answer shared
      performed).1.1

theorem Sound.step {state after : Threads ε τ σ} {move : Move τ ι ρ σ}
    (promise : Promise perform body inv rely guar apart meets)
    (refl : ∀ who shared, rely who shared shared)
    (sound : Sound perform inv rely guar apart state) (met : meets state move)
    (taken : Programs.step perform body state move = some after) :
    Sound perform inv rely guar apart after := by
  cases move with
  | begin who request =>
    cases taken
    obtain ⟨keeps,others⟩ := promise.begun state who request met sound.held
    refine ⟨sound.held,?_,?_⟩
    · exact List.pairwise_cons.mpr ⟨others,sound.apart⟩
    · intro thread member
      rcases List.mem_cons.mp member with rfl | member
      · exact keeps
      · exact sound.keeps thread member
  | abandon index =>
    cases taken
    exact sound.erase index
  | outside shared =>
    cases taken
    obtain ⟨held,others⟩ := promise.outside state shared met sound.held
    refine ⟨held,sound.apart,?_⟩
    intro thread member
    exact (sound.keeps thread member).stable (promise.trans thread.1) (others thread.1)
  | advance index reply =>
    obtain ⟨⟨who,program⟩,here,taken⟩ := Option.bind_eq_some_iff.mp taken
    cases program with
    | done value =>
      cases taken
      exact sound.erase index
    | call effect next =>
      obtain ⟨⟨answer,shared⟩,performed,rfl⟩ := Option.map_eq_some_iff.mp taken
      have keeps := sound.keeps _ (List.mem_of_getElem? here)
      obtain ⟨⟨kept,held⟩,rest⟩ := keeps state.shared (refl who state.shared) sound.held reply answer
        shared performed
      have whose (place : Nat) (thread : τ × Program ε Unit)
          (there : (state.running.set index (who,next answer))[place]? = some thread) :
          ∃ old, state.running[place]? = some old ∧ old.1 = thread.1 ∧ (place ≠ index → old = thread) := by
        rw [List.getElem?_set] at there
        split at there
        next same =>
          subst same
          split at there
          next =>
            cases there
            exact ⟨_,here,rfl,fun differs => absurd rfl differs⟩
          next => contradiction
        next => exact ⟨thread,there,rfl,fun _ => rfl⟩
      refine ⟨held,?_,?_⟩
      · rw [List.pairwise_iff_getElem]
        intro place place' bound bound' before
        obtain ⟨old,there,same,_⟩ := whose place _ (List.getElem?_eq_getElem bound)
        obtain ⟨old',there',same',_⟩ := whose place' _ (List.getElem?_eq_getElem bound')
        rw [← same,← same']
        constructor
        · exact apart_others sound.apart there (by omega) there'
        · exact apart_others sound.apart there' (by omega) there
      · intro thread member
        obtain ⟨place,there⟩ := List.mem_iff_getElem?.mp member
        by_cases same : place = index
        · subst same
          rw [List.getElem?_set] at there
          simp only [if_true] at there
          split at there
          next =>
            cases there
            exact rest
          next => contradiction
        · obtain ⟨old,there',_,is⟩ := whose place thread there
          cases is same
          have others := apart_others sound.apart here same there'
          exact (sound.keeps thread (List.mem_of_getElem? there')).stable (promise.trans thread.1)
            (promise.kept who thread.1 _ _ others kept)

theorem sound_of_reach {first state : Threads ε τ σ}
    (promise : Promise perform body inv rely guar apart meets)
    (refl : ∀ who shared, rely who shared shared) (held : inv first.shared)
    (idle : first.running = []) (reached : Reach (Programs.step perform body) meets first state) :
    Sound perform inv rely guar apart state := by
  apply reached.invariant (Sound perform inv rely guar apart)
  · refine ⟨held,?_,?_⟩
    · rw [idle]
      exact .nil
    · intro thread member
      rw [idle] at member
      contradiction
  · intro before move after sound met taken
    exact sound.step promise refl met taken

/-- What a step of the run does to the shared state: nothing, what its thread guarantees, or
what comes from outside. -/
theorem Sound.step_shared {state after : Threads ε τ σ} {move : Move τ ι ρ σ}
    (refl : ∀ who shared, rely who shared shared)
    (sound : Sound perform inv rely guar apart state)
    (taken : Programs.step perform body state move = some after) :
    after.shared = state.shared ∨
      (∃ index reply thread, move = .advance index reply ∧ state.running[index]? = some thread ∧
        guar thread.1 state.shared after.shared) ∨
      move = .outside after.shared := by
  cases move with
  | begin who request =>
    cases taken
    exact .inl rfl
  | abandon index =>
    cases taken
    exact .inl rfl
  | outside shared =>
    cases taken
    exact .inr (.inr rfl)
  | advance index reply =>
    obtain ⟨thread,here,taken⟩ := Option.bind_eq_some_iff.mp taken
    rcases sound.advance refl here taken with same | kept
    · exact .inl same
    · exact .inr (.inl ⟨index,reply,thread,rfl,here,kept⟩)

/-- A preorder that every guarantee implies relates the beginning of a run to its end. -/
theorem related_of_reach {first state : Threads ε τ σ} (relation : σ → σ → Prop)
    (promise : Promise perform body inv rely guar apart meets)
    (refl : ∀ who shared, rely who shared shared) (held : inv first.shared)
    (idle : first.running = []) (same : ∀ shared, relation shared shared)
    (trans : ∀ one two three, relation one two → relation two three → relation one three)
    (kept : ∀ who before after, guar who before after → relation before after)
    (outside : ∀ state shared, meets state (.outside shared) → relation state.shared shared)
    (reached : Reach (Programs.step perform body) meets first state) :
    relation first.shared state.shared := by
  induction reached with
  | start => exact same _
  | next before move after reached met taken ih =>
    apply trans _ _ _ ih
    have sound := sound_of_reach promise refl held idle reached
    rcases sound.step_shared refl taken with still | ⟨index,reply,thread,rfl,here,kept'⟩ | rfl
    · rw [still]
      exact same _
    · exact kept _ _ _ kept'
    · exact outside _ _ met

end

end AtronixX.Library.Programs
