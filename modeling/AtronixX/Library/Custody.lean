import Mathlib.Data.List.Basic

/-! Resources that are numbered as they are opened and kept in places, at most one in a
place. Each that is not closed is kept in one place and in no other; the rules say what a
step has to respect that lets go of some, passes one on, or opens one. -/
namespace AtronixX.Library.Custody

variable {Place : Type*}

structure Accounted (content : Place → Option Nat) (opened : Nat) (closed : List Nat) : Prop where
  below : ∀ place one, content place = some one → one < opened
  alone : ∀ place other one, content place = some one → content other = some one → place = other
  kept : ∀ one, one < opened → one ∈ closed ∨ ∃ place, content place = some one

/-- Each place keeps what it has, or gives it up when it is closed by then. -/
structure Released (before : Place → Option Nat) (closed : List Nat)
    (after : Place → Option Nat) (closedAfter : List Nat) : Prop where
  places : ∀ place, after place = before place ∨
    after place = none ∧ ∀ one, before place = some one → one ∈ closedAfter
  closed : ∀ one, one ∈ closed → one ∈ closedAfter

variable {before after : Place → Option Nat} {opened : Nat} {closed closedAfter : List Nat}

theorem Released.refl (content : Place → Option Nat) (closed : List Nat) :
    Released content closed content closed := ⟨fun _ => .inl rfl,fun _ => id⟩

theorem Released.trans {last : Place → Option Nat} {closedLast : List Nat}
    (one : Released before closed after closedAfter)
    (two : Released after closedAfter last closedLast) : Released before closed last closedLast := by
  refine ⟨?_,fun item member => two.closed item (one.closed item member)⟩
  intro place
  rcases one.places place with same | ⟨gone,shut⟩
  · rcases two.places place with again | ⟨gone,shut⟩
    · exact .inl (again.trans same)
    · exact .inr ⟨gone,fun item held => shut item (same.trans held)⟩
  · rcases two.places place with again | ⟨gone',_⟩
    · exact .inr ⟨again.trans gone,fun item held => two.closed item (shut item held)⟩
    · exact .inr ⟨gone',fun item held => two.closed item (shut item held)⟩

private theorem Released.held (released : Released before closed after closedAfter)
    {place : Place} {one : Nat} (held : after place = some one) : before place = some one := by
  rcases released.places place with same | ⟨gone,_⟩
  · exact same.symm.trans held
  · rw [gone] at held
    contradiction

theorem Accounted.released (accounted : Accounted before opened closed)
    (released : Released before closed after closedAfter) :
    Accounted after opened closedAfter := by
  refine ⟨fun place one held => accounted.below place one (released.held held),
    fun place other one held also => accounted.alone place other one (released.held held)
      (released.held also),?_⟩
  intro one known
  rcases accounted.kept one known with shut | ⟨place,held⟩
  · exact .inl (released.closed one shut)
  · rcases released.places place with same | ⟨_,shut⟩
    · exact .inr ⟨place,same.trans held⟩
    · exact .inl (shut one held)

/-- One resource goes from its place to another; what was there is closed by then. -/
theorem Accounted.pass (accounted : Accounted before opened closed) (source target : Place)
    (one : Nat) (had : before source = some one) (put : after target = some one)
    (emptied : after source = none)
    (room : ∀ old, before target = some old → old ∈ closedAfter)
    (same : ∀ place, place ≠ source → place ≠ target → after place = before place)
    (shut : ∀ item, item ∈ closed → item ∈ closedAfter) :
    Accounted after opened closedAfter := by
  have origin (place : Place) (item : Nat) (held : after place = some item) :
      (place = target ∧ item = one) ∨
        (place ≠ source ∧ place ≠ target ∧ before place = some item) := by
    by_cases here : place = target
    · subst here
      exact .inl ⟨rfl,(Option.some.inj (put.symm.trans held)).symm⟩
    · have moved : place ≠ source := by
        rintro rfl
        rw [emptied] at held
        contradiction
      exact .inr ⟨moved,here,(same place moved here).symm.trans held⟩
  refine ⟨?_,?_,?_⟩
  · intro place item held
    rcases origin place item held with ⟨_,rfl⟩ | ⟨_,_,had'⟩
    · exact accounted.below source item had
    · exact accounted.below place item had'
  · intro place other item held also
    rcases origin place item held with ⟨rfl,rfl⟩ | ⟨moved,_,was⟩ <;>
      rcases origin other item also with ⟨rfl,same'⟩ | ⟨moved',_,was'⟩
    · rfl
    · exact absurd (accounted.alone other source item was' had) moved'
    · exact absurd (accounted.alone place source item was (same' ▸ had)) moved
    · exact accounted.alone place other item was was'
  · intro item known
    rcases accounted.kept item known with gone | ⟨place,held⟩
    · exact .inl (shut item gone)
    · by_cases away : place = source
      · subst away
        cases Option.some.inj (had.symm.trans held)
        exact .inr ⟨target,put⟩
      · by_cases there : place = target
        · subst there
          exact .inl (room item held)
        · exact .inr ⟨place,(same place away there).trans held⟩

/-- The next resource is opened into a place; what was there is closed by then. -/
theorem Accounted.acquire (accounted : Accounted before opened closed) (target : Place)
    (put : after target = some opened)
    (room : ∀ old, before target = some old → old ∈ closedAfter)
    (same : ∀ place, place ≠ target → after place = before place)
    (shut : ∀ item, item ∈ closed → item ∈ closedAfter) :
    Accounted after (opened + 1) closedAfter := by
  have origin (place : Place) (item : Nat) (held : after place = some item) :
      (place = target ∧ item = opened) ∨ (place ≠ target ∧ before place = some item) := by
    by_cases here : place = target
    · subst here
      exact .inl ⟨rfl,(Option.some.inj (put.symm.trans held)).symm⟩
    · exact .inr ⟨here,(same place here).symm.trans held⟩
  refine ⟨?_,?_,?_⟩
  · intro place item held
    rcases origin place item held with ⟨_,rfl⟩ | ⟨_,was⟩
    · exact Nat.lt_succ_self item
    · exact Nat.lt_succ_of_lt (accounted.below place item was)
  · intro place other item held also
    rcases origin place item held with ⟨rfl,rfl⟩ | ⟨_,was⟩ <;>
      rcases origin other item also with ⟨rfl,same'⟩ | ⟨_,was'⟩
    · rfl
    · exact absurd (accounted.below other item was') (Nat.lt_irrefl item)
    · exact absurd (accounted.below place item was) (same' ▸ Nat.lt_irrefl opened)
    · exact accounted.alone place other item was was'
  · intro item known
    rcases Nat.lt_succ_iff_lt_or_eq.mp known with old | rfl
    · rcases accounted.kept item old with gone | ⟨place,held⟩
      · exact .inl (shut item gone)
      · by_cases there : place = target
        · subst there
          exact .inl (room item held)
        · exact .inr ⟨place,(same place there).trans held⟩
    · exact .inr ⟨target,put⟩

end AtronixX.Library.Custody
