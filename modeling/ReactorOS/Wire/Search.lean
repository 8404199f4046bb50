import Mathlib.Data.List.Infix
namespace Wire
variable {α : Type}

-- The first place where the needle stands in a text, and the last one.
def indexOf [DecidableEq α] (needle : List α) : List α → Option Nat
  | [] => if needle.isEmpty then some 0 else none
  | ch :: rest => if needle.isPrefixOf (ch :: rest) then some 0 else (indexOf needle rest).map (·+1)

def lastIndexOf [DecidableEq α] (needle : List α) : List α → Option Nat
  | [] => if needle.isEmpty then some 0 else none
  | ch :: rest =>
      match lastIndexOf needle rest with
      | some place => some (place+1)
      | none => if needle.isPrefixOf (ch :: rest) then some 0 else none

def substring (text : List α) (start stop : Nat) : List α := (text.take stop).drop start

variable {needle front back text : List α} {mark : α}

theorem front_before (whole : mark ∉ needle) : needle <+: front ++ mark :: back ↔ needle <+: front := by
  constructor
  · intro starts
    rcases Nat.lt_or_ge front.length needle.length with long | short
    · have less := List.prefix_of_prefix_length_le (List.prefix_append front (mark :: back)) starts long.le
      obtain ⟨rest,rfl⟩ := less
      rw [List.prefix_append_right_inj] at starts
      cases rest with
      | nil => simp at long
      | cons ch rest =>
          obtain ⟨same,_⟩ := List.cons_prefix_cons.mp starts
          exact absurd (by simp [same]) whole
    · exact List.prefix_of_prefix_length_le starts (List.prefix_append _ _) short
  · intro starts
    exact starts.trans (List.prefix_append _ _)

variable [DecidableEq α]

theorem indexOf_front (starts : needle <+: text) : indexOf needle text = some 0 := by
  cases text with
  | nil =>
      obtain rfl := List.prefix_nil.mp starts
      rfl
  | cons ch rest => rw [indexOf,if_pos ( List.isPrefixOf_iff_prefix.mpr starts)]

theorem indexOf_none : indexOf needle text = none ↔ ¬needle <:+: text := by
  induction text with
  | nil => cases needle <;> simp [indexOf]
  | cons ch rest ih =>
      rw [indexOf,List.infix_cons_iff,← List.isPrefixOf_iff_prefix]
      split
      · rename_i starts
        simp [starts]
      · rename_i later
        rw [Option.map_eq_none_iff,ih]
        simp [later]

-- A needle without the mark stands on one side of it.
theorem indexOf_split (whole : mark ∉ needle) (nonempty : needle ≠ []) : indexOf needle (front ++ mark :: back) =
    (indexOf needle front).or ((indexOf needle back).map (· + (front.length+1))) := by
  induction front with
  | nil =>
      have elsewhere : needle.isPrefixOf (mark :: back) = false := by
        rw [←Bool.not_eq_true, List.isPrefixOf_iff_prefix]
        intro starts
        exact nonempty (List.prefix_nil.mp ((@front_before _ _ [] _ _ whole).mp starts))
      have nowhere : indexOf needle ([] : List α) = none := indexOf_none.mpr fun inside => nonempty (List.infix_nil.mp inside)
      rw [nowhere,Option.none_or,List.nil_append,indexOf.eq_2,elsewhere]
      rfl
  | cons ch front ih =>
      have same : needle.isPrefixOf (ch :: front ++ mark :: back) = needle.isPrefixOf (ch :: front) := by
        rw [Bool.eq_iff_iff, List.isPrefixOf_iff_prefix, List.isPrefixOf_iff_prefix]
        exact front_before whole
      rw [List.cons_append,indexOf.eq_2,←List.cons_append,same,ih,indexOf.eq_2]
      split
      · rfl
      · cases indexOf needle front with
        | some place => rfl
        | none =>
            cases indexOf needle back with
            | none => rfl
            | some place => simp [Nat.add_assoc]

theorem indexOf_mark (absent : mark ∉ front) : indexOf [mark] (front ++ mark :: back) = some front.length := by
  induction front with
  | nil => exact indexOf_front ⟨back,rfl⟩
  | cons ch front ih =>
      rw [List.mem_cons,not_or] at absent
      rw [List.cons_append,indexOf,ih absent.2]
      simp [absent.1]

theorem lastIndexOf_none (absent : mark ∉ text) : lastIndexOf (mark :: needle) text = none := by
  induction text with
  | nil => rfl
  | cons ch rest ih =>
      rw [List.mem_cons,not_or] at absent
      rw [lastIndexOf,ih absent.2]
      simp [absent.1]

-- The last place of a needle that starts with a mark, where the mark does not come again.
theorem lastIndexOf_last (absent : mark ∉ needle ++ back) :
    lastIndexOf (mark :: needle) (front ++ mark :: (needle ++ back)) = some front.length := by
  induction front with
  | nil =>
      rw [List.nil_append,lastIndexOf,lastIndexOf_none absent]
      simp
  | cons ch front ih =>
      rw [List.cons_append,lastIndexOf,ih]
      simp

end Wire
