import Mathlib.Data.List.DropRight

/-! `collections.deque` with a `maxlen`: an element that is appended to a full deque pushes
out the oldest. -/
namespace AtronixX.Library.Bounded

structure Deque (α : Type) (limit : Nat) where
  items : List α
  bounded : items.length ≤ limit

variable {α : Type} {limit : Nat}

theorem length_rtake (items : List α) : (items.rtake limit).length ≤ limit := by
  unfold List.rtake
  rw [List.length_drop]
  omega

theorem rtake_of_length_le {items : List α} (short : items.length ≤ limit) :
    items.rtake limit = items := by
  unfold List.rtake
  rw [Nat.sub_eq_zero_of_le short,List.drop_zero]

theorem rtake_rtake_append (items more : List α) :
    (items.rtake limit ++ more).rtake limit = (items ++ more).rtake limit := by
  rcases Nat.le_total items.length limit with short | long
  · rw [rtake_of_length_le short]
  · have prefixed : (items ++ more).length - limit = (items.length - limit) + more.length := by
      rw [List.length_append]
      omega
    have length : (items.drop (items.length - limit) ++ more).length - limit = more.length := by
      rw [List.length_append,List.length_drop]
      omega
    unfold List.rtake
    rw [length,prefixed,← List.drop_drop,List.drop_append_of_le_length (Nat.sub_le _ _)]

theorem rtake_append_of_length_le (items : List α) {more : List α} (fits : more.length ≤ limit) :
    (items ++ more).rtake limit = items.rtake (limit - more.length) ++ more := by
  have dropped : (items ++ more).length - limit = items.length - (limit - more.length) := by
    rw [List.length_append]
    omega
  unfold List.rtake
  rw [dropped,List.drop_append_of_le_length (by omega)]

def Deque.append (item : α) (deque : Deque α limit) : Deque α limit :=
  ⟨(deque.items ++ [item]).rtake limit,length_rtake _⟩

def Deque.clear (_ : Deque α limit) : Deque α limit := ⟨[],Nat.zero_le _⟩

def Deque.extend (items : List α) (deque : Deque α limit) : Deque α limit :=
  items.foldl (fun deque item => deque.append item) deque

theorem Deque.items_extend (items : List α) (deque : Deque α limit) :
    (deque.extend items).items = (deque.items ++ items).rtake limit := by
  induction items generalizing deque with
  | nil => rw [List.append_nil,rtake_of_length_le deque.bounded,extend,List.foldl_nil]
  | cons item rest ih =>
    refine (ih (deque.append item)).trans ?_
    rw [append,rtake_rtake_append,List.append_assoc,List.singleton_append]

end AtronixX.Library.Bounded
