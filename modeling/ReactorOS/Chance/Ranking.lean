import Mathlib.Algebra.Order.Field.Rat
import Mathlib.Data.List.Sort
namespace Chance
variable {α : Type}

-- A stable sort, the highest score first.
def ranked (score : α → ℚ) (items : List α) : List α := items.insertionSort fun one other => score other ≤ score one

section Ranking
variable {score : α → ℚ} {items : List α} {item : α}

theorem ranked_perm (score : α → ℚ) (items : List α) : (ranked score items).Perm items :=
  List.perm_insertionSort _ _

@[simp] theorem mem_ranked : item ∈ ranked score items ↔ item ∈ items := List.mem_insertionSort _

@[simp] theorem ranked_length : (ranked score items).length = items.length := List.length_insertionSort _ _

theorem ranked_ne_nil (nonempty : items ≠ []) : ranked score items ≠ [] := by
  intro empty
  have same : 0 = items.length := by rw [← @ranked_length _ score items,empty]; rfl
  exact nonempty (List.eq_nil_of_length_eq_zero same.symm)

theorem ranked_head {first : α} {rest : List α} (sorted : ranked score items = first :: rest) :
    ∀ other ∈ items, score other ≤ score first := by
  have total : Std.Total fun one other : α => score other ≤ score one := ⟨fun one other => le_total _ _⟩
  have trans : IsTrans α fun one other => score other ≤ score one := ⟨fun one two three second third => third.trans second⟩
  have pairwise := List.pairwise_insertionSort (fun one other : α => score other ≤ score one) items
  change (ranked score items).Pairwise _ at pairwise
  rw [sorted,List.pairwise_cons] at pairwise
  intro other member
  rcases List.mem_cons.mp (sorted ▸ mem_ranked.mpr member) with rfl | later
  · exact le_rfl
  · exact pairwise.1 other later

-- Where everything scores the same, nothing moves.
theorem ranked_even (even : ∀ one ∈ items, ∀ other ∈ items, score one = score other) : ranked score items = items := by
  refine List.Pairwise.insertionSort_eq (List.pairwise_of_forall_mem_list ?_)
  intro one listed other also
  exact (even other also one listed).le

-- What scores as high as everything else stays in front.
theorem ranked_front (count : Nat) (rest : List α) (top : ∀ other ∈ rest, score other ≤ score item) :
    ranked score (List.replicate count item ++ rest) = List.replicate count item ++ ranked score rest := by
  induction count with
  | zero => rfl
  | succ count ih =>
      rw [List.replicate_succ,List.cons_append,List.cons_append,← ih]
      refine List.insertionSort_cons_of_forall_rel _ ?_
      intro other member
      rcases List.mem_append.mp member with copy | below
      · obtain rfl := List.eq_of_mem_replicate copy
        exact le_rfl
      · exact top other below

theorem insert_behind (count : Nat) (rest : List α) {other : α} (lower : score other < score item) :
    (List.replicate count item ++ rest).orderedInsert (fun one other => score other ≤ score one) other =
      List.replicate count item ++ rest.orderedInsert (fun one other => score other ≤ score one) other := by
  induction count with
  | zero => rfl
  | succ count ih =>
      rw [List.replicate_succ,List.cons_append,List.orderedInsert_of_not_le,ih]
      · rfl
      · exact not_le.mpr lower

-- What scores higher than all that stood before it comes to the front.
theorem ranked_behind (count : Nat) (before rest : List α) (lower : ∀ other ∈ before, score other < score item)
    (top : ∀ other ∈ rest, score other ≤ score item) :
    ∃ tail, ranked score (before ++ (List.replicate count item ++ rest)) = List.replicate count item ++ tail := by
  induction before with
  | nil => exact ⟨_,ranked_front count rest top⟩
  | cons other before ih =>
      obtain ⟨tail,front⟩ := ih fun other member => lower other (List.mem_cons_of_mem _ member)
      unfold ranked at front
      refine ⟨tail.orderedInsert (fun one other => score other ≤ score one) other,?_⟩
      rw [ranked,List.cons_append,List.insertionSort_cons,front]
      exact insert_behind count tail (lower other List.mem_cons_self)

end Ranking

end Chance
