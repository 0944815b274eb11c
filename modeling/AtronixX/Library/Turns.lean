import AtronixX.Library.Programs

/-! Threads of which some take turns. What holds between two turns may fail within one, as
long as the turn mends it before any call at which it can be cut off. -/
namespace AtronixX.Library.Turns
open Transition Programs

variable {ε : Type → Type 1} {α β : Type} {τ ι ρ σ : Type}

section
variable (perform : ∀ β, τ → ε β → ρ → σ → Option (β × σ)) (stops : ∀ β, ε β → Prop) (who : τ)
variable (inv rest : σ → Prop) (rely : σ → σ → Prop)

/-- Every call keeps the invariant, and `rest` holds wherever an exception may end the turn. -/
def Turn : Program ε α → (α → σ → Prop) → σ → Prop
  | .done value, post, state => post value state
  | .call effect next, post, state => ∀ middle, rely state middle → (stops _ effect → rest middle) ∧
      ∀ reply answer after, perform _ who effect reply middle = some (answer,after) →
        inv after ∧ Turn (next answer) post after

variable {perform stops who inv rest rely}

theorem Turn.bind {first : Program ε α} {next : α → Program ε β} {post : β → σ → Prop} {state : σ}
    (turn : Turn perform stops who inv rest rely first
      (fun value => Turn perform stops who inv rest rely (next value) post) state) :
    Turn perform stops who inv rest rely (first >>= next) post state := by
  induction first generalizing state with
  | done value => exact turn
  | call effect go ih =>
    intro middle others
    refine ⟨(turn middle others).1,?_⟩
    intro reply answer after performed
    obtain ⟨held,turn⟩ := (turn middle others).2 reply answer after performed
    exact ⟨held,ih answer turn⟩

theorem Turn.imp {program : Program ε α} {post other : α → σ → Prop} {state : σ}
    (turn : Turn perform stops who inv rest rely program post state)
    (weaker : ∀ value state, post value state → other value state) :
    Turn perform stops who inv rest rely program other state := by
  induction program generalizing state with
  | done value => exact weaker value state turn
  | call effect go ih =>
    intro middle others
    refine ⟨(turn middle others).1,?_⟩
    intro reply answer after performed
    obtain ⟨held,turn⟩ := (turn middle others).2 reply answer after performed
    exact ⟨held,ih answer turn⟩

theorem turn_run_bind {effect : ε α} {next : α → Program ε β} {post : β → σ → Prop} {state : σ}
    (turn : ∀ middle, rely state middle → (stops _ effect → rest middle) ∧
      ∀ reply answer after, perform α who effect reply middle = some (answer,after) →
        inv after ∧ Turn perform stops who inv rest rely (next answer) post after) :
    Turn perform stops who inv rest rely (Program.run effect >>= next) post state := turn

theorem turn_of_every {allowed : ∀ β, ε β → Prop} {done : α → Prop} {program : Program ε α} {state : σ}
    (every : program.Every allowed done)
    (kept : ∀ β (effect : ε β) reply before answer after, allowed β effect → rest before →
      perform β who effect reply before = some (answer,after) → inv after ∧ rest after)
    (stable : ∀ before after, rest before → rely before after → rest after) (now : rest state) :
    Turn perform stops who inv rest rely program (fun _ state => rest state) state := by
  induction program generalizing state with
  | done value => exact now
  | call effect go ih =>
    intro middle others
    have now := stable _ _ now others
    refine ⟨fun _ => now,?_⟩
    intro reply answer after performed
    obtain ⟨held,now⟩ := kept _ effect reply middle answer after every.1 now performed
    exact ⟨held,ih answer (every.2 answer) now⟩

theorem Turn.stable {program : Program ε α} {post : α → σ → Prop} {before after : σ}
    (trans : ∀ first second third, rely first second → rely second third → rely first third)
    (turn : Turn perform stops who inv rest rely program post before)
    (ended : ∀ value, post value before → post value after) (others : rely before after) :
    Turn perform stops who inv rest rely program post after := by
  cases program with
  | done value => exact ended value turn
  | call effect go =>
    intro middle later
    exact turn middle (trans _ _ _ others later)

end

section
variable (perform : ∀ β, τ → ε β → ρ → σ → Option (β × σ)) (body : τ → ι → Program ε Unit)
variable (stops : ∀ β, ε β → Prop) (takes : τ → Prop) (inv rest : σ → Prop) (rely : σ → σ → Prop)
variable (allowed : τ → ∀ β, ε β → Prop) (meets : Threads ε τ σ → Move τ ι ρ σ → Prop)

structure Rules : Prop where
  refl : ∀ state, rely state state
  trans : ∀ first second third, rely first second → rely second third → rely first third
  held : ∀ before after, inv before → rely before after → inv after
  stable : ∀ before after, rest before → rely before after → rest after
  others : ∀ who β (effect : ε β) reply before answer after, ¬takes who → allowed who β effect →
    perform β who effect reply before = some (answer,after) → rely before after
  alone : ∀ state who request, meets state (.begin who request) → takes who →
    ∀ thread ∈ state.running, ¬takes thread.1
  turn : ∀ who request state, takes who → inv state → rest state →
    Turn perform stops who inv rest rely (body who request) (fun _ state => rest state) state
  other : ∀ who request, ¬takes who → (body who request).Every (allowed who) fun _ => True
  cut : ∀ state index who β (effect : ε β) next, meets state (.abandon index) →
    state.running[index]? = some (who,.call effect next) → takes who → stops β effect
  closed : ∀ state shared, ¬meets state (.outside shared)

structure Orderly (state : Threads ε τ σ) : Prop where
  held : inv state.shared
  alone : (state.running.map Prod.fst).Pairwise fun one two => ¬(takes one ∧ takes two)
  turns : ∀ thread ∈ state.running, takes thread.1 →
    Turn perform stops thread.1 inv rest rely thread.2 (fun _ state => rest state) state.shared
  others : ∀ thread ∈ state.running, ¬takes thread.1 →
    thread.2.Every (allowed thread.1) fun _ => True
  rested : (∀ thread ∈ state.running, ¬takes thread.1) → rest state.shared

end

section
variable {perform : ∀ β, τ → ε β → ρ → σ → Option (β × σ)} {body : τ → ι → Program ε Unit}
variable {stops : ∀ β, ε β → Prop} {takes : τ → Prop} {inv rest : σ → Prop} {rely : σ → σ → Prop}
variable {allowed : τ → ∀ β, ε β → Prop} {meets : Threads ε τ σ → Move τ ι ρ σ → Prop}
variable {state : Threads ε τ σ} {index : Nat} {who : τ} {thread : τ × Program ε Unit}

private theorem mem_set_place {new : τ × Program ε Unit}
    (member : thread ∈ state.running.set index new) :
    thread = new ∨ ∃ place, place ≠ index ∧ state.running[place]? = some thread := by
  obtain ⟨place,there⟩ := List.mem_iff_getElem?.mp member
  rw [List.getElem?_set] at there
  split at there
  next same =>
    split at there
    next => exact .inl (Option.some.inj there).symm
    next => contradiction
  next differs => exact .inr ⟨place,Ne.symm differs,there⟩

private theorem map_set_same {program next : Program ε Unit}
    (here : state.running[index]? = some (who,program)) :
    (state.running.set index (who,next)).map Prod.fst = state.running.map Prod.fst := by
  obtain ⟨bound,is⟩ := List.getElem?_eq_some_iff.mp here
  have within : index < (state.running.map Prod.fst).length := by simpa using bound
  have first : who = (state.running.map Prod.fst)[index] := by simp [is]
  rw [List.map_set]
  exact (congrArg _ first).trans (List.set_getElem_self _)

private theorem Orderly.single
    (orderly : Orderly perform stops takes inv rest rely allowed state) {place : Nat}
    {other : τ × Program ε Unit} (here : state.running[index]? = some thread)
    (takes_ : takes thread.1) (differs : place ≠ index)
    (there : state.running[place]? = some other) : ¬takes other.1 := by
  have alone := List.pairwise_iff_getElem.mp orderly.alone
  obtain ⟨bound,rfl⟩ := List.getElem?_eq_some_iff.mp here
  obtain ⟨bound',rfl⟩ := List.getElem?_eq_some_iff.mp there
  intro also
  rcases Nat.lt_or_gt_of_ne differs with before | after
  · exact alone place index (by simpa using bound') (by simpa using bound) before
      (by simpa using ⟨also,takes_⟩)
  · exact alone index place (by simpa using bound) (by simpa using bound') after
      (by simpa using ⟨takes_,also⟩)

private theorem Orderly.erase
    (orderly : Orderly perform stops takes inv rest rely allowed state)
    (ends : ∀ thread, state.running[index]? = some thread → takes thread.1 → rest state.shared) :
    Orderly perform stops takes inv rest rely allowed
      {state with running := state.running.eraseIdx index} := by
  have kept := List.eraseIdx_sublist state.running index
  refine ⟨orderly.held,orderly.alone.sublist (kept.map _),?_,?_,?_⟩
  · intro thread member
    exact orderly.turns thread (kept.mem member)
  · intro thread member
    exact orderly.others thread (kept.mem member)
  · intro nobody
    by_cases last : ∃ thread, state.running[index]? = some thread ∧ takes thread.1
    · obtain ⟨thread,here,taking⟩ := last
      exact ends thread here taking
    · apply orderly.rested
      intro thread member taking
      obtain ⟨place,there⟩ := List.mem_iff_getElem?.mp member
      by_cases same : place = index
      · subst same
        exact last ⟨thread,there,taking⟩
      · obtain ⟨bound,is⟩ := List.getElem?_eq_some_iff.mp there
        have left : thread ∈ state.running.eraseIdx index :=
          List.mem_eraseIdx_iff_getElem.mpr ⟨place,bound,same,is⟩
        exact nobody thread left taking

private theorem Orderly.advance
    (rules : Rules perform body stops takes inv rest rely allowed meets)
    (orderly : Orderly perform stops takes inv rest rely allowed state) {β : Type} {effect : ε β}
    {next : β → Program ε Unit} {reply : ρ} {answer : β} {shared : σ}
    (here : state.running[index]? = some (who,.call effect next))
    (performed : perform β who effect reply state.shared = some (answer,shared)) :
    Orderly perform stops takes inv rest rely allowed
      ⟨shared,state.running.set index (who,next answer)⟩ := by
  have present := List.mem_of_getElem? here
  by_cases taking : takes who
  · obtain ⟨held,turn⟩ := (orderly.turns _ present taking state.shared (rules.refl _)).2
      reply answer shared performed
    refine ⟨held,?_,?_,?_,?_⟩
    · rw [map_set_same here]
      exact orderly.alone
    · intro thread member also
      rcases mem_set_place member with rfl | ⟨place,differs,there⟩
      · exact turn
      · exact absurd also (orderly.single here taking differs there)
    · intro thread member other
      rcases mem_set_place member with rfl | ⟨place,_,there⟩
      · exact absurd taking other
      · exact orderly.others thread (List.mem_of_getElem? there) other
    · intro nobody
      obtain ⟨bound,_⟩ := List.getElem?_eq_some_iff.mp here
      exact absurd taking (nobody _ (List.mem_set bound _))
  · have every := orderly.others _ present taking
    have relied := rules.others who β effect reply _ _ _ taking every.1 performed
    refine ⟨rules.held _ _ orderly.held relied,?_,?_,?_,?_⟩
    · rw [map_set_same here]
      exact orderly.alone
    · intro thread member also
      rcases mem_set_place member with rfl | ⟨place,_,there⟩
      · exact absurd also taking
      · exact (orderly.turns thread (List.mem_of_getElem? there) also).stable rules.trans
          (fun _ now => rules.stable _ _ now relied) relied
    · intro thread member other
      rcases mem_set_place member with rfl | ⟨place,_,there⟩
      · exact every.2 answer
      · exact orderly.others thread (List.mem_of_getElem? there) other
    · intro nobody
      refine rules.stable _ _ (orderly.rested ?_) relied
      intro thread member also
      obtain ⟨place,there⟩ := List.mem_iff_getElem?.mp member
      by_cases same : place = index
      · subst same
        rw [here] at there
        cases there
        exact taking also
      · refine nobody thread (List.mem_iff_getElem?.mpr ⟨place,?_⟩) also
        rw [List.getElem?_set_ne (Ne.symm same)]
        exact there

theorem Orderly.step {after : Threads ε τ σ} {move : Move τ ι ρ σ}
    (rules : Rules perform body stops takes inv rest rely allowed meets)
    (orderly : Orderly perform stops takes inv rest rely allowed state) (met : meets state move)
    (taken : Programs.step perform body state move = some after) :
    Orderly perform stops takes inv rest rely allowed after := by
  cases move with
  | begin who request =>
    cases taken
    by_cases taking : takes who
    · have nobody := rules.alone state who request met taking
      refine ⟨orderly.held,?_,?_,?_,?_⟩
      · refine List.pairwise_cons.mpr ⟨?_,orderly.alone⟩
        intro other listed both
        obtain ⟨thread,member,rfl⟩ := List.mem_map.mp listed
        exact nobody thread member both.2
      · intro thread member also
        rcases List.mem_cons.mp member with rfl | member
        · exact rules.turn who request state.shared taking orderly.held (orderly.rested nobody)
        · exact absurd also (nobody thread member)
      · intro thread member other
        rcases List.mem_cons.mp member with rfl | member
        · exact absurd taking other
        · exact orderly.others thread member other
      · intro none
        exact absurd taking (none _ List.mem_cons_self)
    · refine ⟨orderly.held,?_,?_,?_,?_⟩
      · refine List.pairwise_cons.mpr ⟨?_,orderly.alone⟩
        intro other listed both
        exact taking both.1
      · intro thread member also
        rcases List.mem_cons.mp member with rfl | member
        · exact absurd also taking
        · exact orderly.turns thread member also
      · intro thread member other
        rcases List.mem_cons.mp member with rfl | member
        · exact rules.other who request taking
        · exact orderly.others thread member other
      · intro nobody
        exact orderly.rested fun thread member => nobody thread (List.mem_cons_of_mem _ member)
  | abandon index =>
    cases taken
    apply orderly.erase
    intro thread here taking
    have turn := orderly.turns thread (List.mem_of_getElem? here) taking
    obtain ⟨who,program⟩ := thread
    cases program with
    | done value => exact turn
    | call effect next =>
      exact (turn state.shared (rules.refl _)).1 (rules.cut state index who _ effect next met here taking)
  | outside shared => exact absurd met (rules.closed state shared)
  | advance index reply =>
    obtain ⟨⟨who,program⟩,here,taken⟩ := Option.bind_eq_some_iff.mp taken
    cases program with
    | done value =>
      cases taken
      apply orderly.erase
      intro thread there taking
      rw [here] at there
      cases there
      exact orderly.turns _ (List.mem_of_getElem? here) taking
    | call effect next =>
      obtain ⟨⟨answer,shared⟩,performed,rfl⟩ := Option.map_eq_some_iff.mp taken
      exact orderly.advance rules here performed

theorem orderly_of_reach {first : Threads ε τ σ}
    (rules : Rules perform body stops takes inv rest rely allowed meets)
    (idle : first.running = []) (held : inv first.shared) (rested : rest first.shared)
    (reached : Reach (Programs.step perform body) meets first state) :
    Orderly perform stops takes inv rest rely allowed state := by
  apply reached.invariant (Orderly perform stops takes inv rest rely allowed)
  · exact ⟨held,by simp [idle],by simp [idle],by simp [idle],fun _ => rested⟩
  · intro before move after orderly met taken
    exact orderly.step rules met taken

end

end AtronixX.Library.Turns
