import Mathlib.Data.List.Range
import Mathlib.Tactic.Common

/-! A list that is shown page by page, with arrows to the page before and after: what a view of
a page must show so that a walk along the arrows shows the whole list. -/
namespace AtronixX.Library.Pages

variable {α β : Type}

/-- As many pages as are needed, and never none. -/
def pageCount (size count : Nat) : Nat := max 1 ((count + size - 1) / size)

def clamp (pages : Nat) (page : Int) : Int := max 0 (min page (pages - 1))

def chunk (size : Nat) (items : List α) (page : Nat) : List α :=
  (items.drop (page * size)).take size

theorem pageCount_pos (size count : Nat) : 0 < pageCount size count := by
  unfold pageCount
  omega

theorem clamp_nonneg (pages : Nat) (page : Int) : 0 ≤ clamp pages page := by
  unfold clamp
  omega

theorem clamp_lt {pages : Nat} (positive : 0 < pages) (page : Int) : clamp pages page < pages := by
  unfold clamp
  omega

theorem clamp_of_lt {pages : Nat} {page : Int} (lower : 0 ≤ page) (upper : page < pages) :
    clamp pages page = page := by
  unfold clamp
  omega

theorem chunk_map (f : α → β) (size : Nat) (items : List α) (page : Nat) :
    chunk size (items.map f) page = (chunk size items page).map f := by
  simp [chunk,List.map_take,List.map_drop]

private theorem flatMap_chunk_take (size : Nat) (items : List α) (pages : Nat) :
    (List.range pages).flatMap (chunk size items) = items.take (pages * size) := by
  induction pages with
  | zero => simp
  | succ pages ih =>
    rw [List.range_succ,List.flatMap_append,ih,Nat.succ_mul,List.take_add]
    simp [chunk]

theorem flatMap_chunk {size : Nat} (positive : 0 < size) (items : List α) :
    (List.range (pageCount size items.length)).flatMap (chunk size items) = items := by
  have enough : items.length ≤ pageCount size items.length * size := by
    have rounded : items.length + size - 1 < (items.length + size - 1) / size * size + size :=
      Nat.lt_div_mul_add positive
    have least : (items.length + size - 1) / size ≤ pageCount size items.length :=
      Nat.le_max_right _ _
    have scaled := Nat.mul_le_mul_right size least
    omega
  rw [flatMap_chunk_take,List.take_of_length_le enough]

/-- How a view is read: what it shows, and where its arrows lead. -/
structure Reader (β α : Type) where
  shown : β → List α
  back : β → Option Int
  forward : β → Option Int

variable {reader : Reader β α} {size : Nat} {items : List α} {view : Int → β}

/-- The view shows a page that exists, which is the one asked for if that one does. -/
structure Shows (reader : Reader β α) (size : Nat) (items : List α) (requested : Int) (board : β)
    (page : Nat) : Prop where
  inside : page < pageCount size items.length
  same : 0 ≤ requested → requested < pageCount size items.length → requested = page
  shown : reader.shown board = chunk size items page
  back : reader.back board = if 0 < page then some ((page : Int) - 1) else none
  forward : reader.forward board =
    if page + 1 < pageCount size items.length then some ((page : Int) + 1) else none

/-- Whatever is asked for, a page is shown. -/
def Paged (reader : Reader β α) (size : Nat) (items : List α) (view : Int → β) : Prop :=
  ∀ requested, ∃ page, Shows reader size items requested (view requested) page

/-- All that a walk sees from a page on, until there is no arrow forward. -/
inductive Walk (view : Int → β) (forward : β → Option Int) : Int → List β → Prop
  | last {page : Int} : forward (view page) = none → Walk view forward page [view page]
  | press {page target : Int} {rest : List β} : forward (view page) = some target →
    Walk view forward target rest → Walk view forward page (view page :: rest)

/-- The views partition the list. -/
structure Partition (reader : Reader β α) (size : Nat) (items : List α) (view : Int → β) :
    Prop where
  paged : Paged reader size items view
  arrows : ∀ requested target,
    reader.back (view requested) = some target ∨ reader.forward (view requested) = some target →
      0 ≤ target ∧ target < pageCount size items.length
  ends : ∃ visited, Walk view reader.forward 0 visited
  whole : ∀ visited, Walk view reader.forward 0 visited → visited.flatMap reader.shown = items

theorem Shows.of_inside {page : Nat} (inside : page < pageCount size items.length)
    (each : Paged reader size items view) :
    Shows reader size items page (view page) page := by
  obtain ⟨other,shows_⟩ := each page
  have same : (page : Int) = other := shows_.same (by omega) (by omega)
  rwa [← Int.ofNat_inj.mp same] at shows_

/-- The walk from a page sees that page and all that follow, by induction on how many these are. -/
theorem walk_iff (each : Paged reader size items view) (left : Nat) {page : Nat}
    (reached : page + left + 1 = pageCount size items.length) (visited : List β) :
    Walk view reader.forward page visited ↔
      visited = (List.range' page (left + 1)).map fun number : Nat => view number := by
  have here := Shows.of_inside (by omega : page < pageCount size items.length) each
  induction left generalizing page visited with
  | zero =>
    have none : reader.forward (view page) = none := by
      rw [here.forward,if_neg (by omega)]
    constructor
    · intro walk
      cases walk with
      | last => rfl
      | press forward =>
        rw [none] at forward
        contradiction
    · intro same
      rw [same]
      exact .last none
  | succ left ih =>
    have forward : reader.forward (view page) = some ((page + 1 : Nat) : Int) := by
      rw [here.forward,if_pos (by omega)]
      rfl
    have later := fun visited => @ih (page + 1) (by omega) visited (Shows.of_inside (by omega) each)
    rw [List.range'_succ,List.map_cons]
    constructor
    · intro walk
      cases walk with
      | last none =>
        rw [forward] at none
        contradiction
      | press found rest =>
        rw [forward] at found
        cases found
        rw [(later _).mp rest]
    · intro same
      rw [same]
      exact .press forward ((later _).mpr rfl)

theorem partition_of_shows (positive : 0 < size)
    (each : Paged reader size items view) :
    Partition reader size items view := by
  have pages := pageCount_pos size items.length
  have walk := walk_iff each (pageCount size items.length - 1) (by omega : 0 + _ + 1 = _)
  refine ⟨each,?_,⟨_,(walk _).mpr rfl⟩,?_⟩
  · intro requested target arrow
    obtain ⟨page,shows_⟩ := each requested
    have inside := shows_.inside
    rw [shows_.back,shows_.forward] at arrow
    cases arrow with
    | inl back =>
      split at back
      next =>
        cases back
        omega
      next => contradiction
    | inr forward =>
      split at forward
      next =>
        cases forward
        omega
      next => contradiction
  · intro visited walked
    rw [(walk visited).mp walked,List.flatMap_map,Nat.sub_add_cancel pages,← List.range_eq_range']
    have same : ∀ page ∈ List.range (pageCount size items.length),
        reader.shown (view page) = chunk size items page := fun page member =>
      (Shows.of_inside (List.mem_range.mp member) each).shown
    rw [List.flatMap_congr same,flatMap_chunk positive]

end AtronixX.Library.Pages
