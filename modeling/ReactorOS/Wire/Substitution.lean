import Mathlib.Data.List.Infix
import ReactorOS.Wire.Fields
namespace Wire

-- `${text//mark/by}`: every occurrence of a character is replaced.
def substituted (mark : Char) (replacement text : List Char) : List Char :=
  text.flatMap fun ch => if ch = mark then replacement else [ch]

-- `gsub(/first second/, by)`: every occurrence of two characters, from the left.
def collapsed (first second replacement : Char) : List Char → List Char
  | one :: two :: rest =>
      if one = first ∧ two = second then replacement :: collapsed first second replacement rest
      else one :: collapsed first second replacement (two :: rest)
  | rest => rest

variable {mark first second ch : Char} {text tail : List Char}

theorem substituted_mark (replacement text : List Char) :
    substituted mark replacement (mark :: text) = replacement ++ substituted mark replacement text := by
  simp [substituted]

theorem substituted_other (other : ch ≠ mark) (replacement text : List Char) :
    substituted mark replacement (ch :: text) = ch :: substituted mark replacement text := by
  simp [substituted,other]

theorem substituted_append (replacement text more : List Char) :
    substituted mark replacement (text ++ more) = substituted mark replacement text ++ substituted mark replacement more := by
  simp [substituted]

theorem substituted_absent (replacement : List Char) (absent : mark ∉ text) : substituted mark replacement text = text := by
  induction text with
  | nil => rfl
  | cons ch text ih =>
      rw [List.mem_cons,not_or] at absent
      rw [substituted_other (Ne.symm absent.1),ih absent.2]

-- A character that is neither replaced nor brought in stands where it stood.
theorem mem_substituted {replacement : List Char} (member : ch ∈ substituted mark replacement text) :
    (ch ∈ text ∧ ch ≠ mark) ∨ ch ∈ replacement := by
  obtain ⟨original,listed,inside⟩ := List.mem_flatMap.mp member
  split at inside
  · exact .inr inside
  · rename_i other
    obtain rfl := List.mem_singleton.mp inside
    exact .inl ⟨listed,other⟩

theorem collapsed_other (other : ch ≠ first) (replacement : Char) (text : List Char) :
    collapsed first second replacement (ch :: text) = ch :: collapsed first second replacement text := by
  cases text with
  | nil => rfl
  | cons next rest => simp [collapsed,other]

theorem collapsed_before (apart : ∀ next ∈ text.head?, next ≠ second) (replacement : Char) :
    collapsed first second replacement (ch :: text) = ch :: collapsed first second replacement text := by
  cases text with
  | nil => rfl
  | cons next rest => simp [collapsed,apart next rfl]

-- A character that was doubled is single again.
theorem collapsed_doubled (text tail : List Char) :
    collapsed mark mark mark (substituted mark [mark,mark] text ++ tail) = text ++ collapsed mark mark mark tail := by
  induction text with
  | nil => rfl
  | cons ch text ih =>
      by_cases same : ch = mark
      · subst same
        rw [substituted_mark]
        simp [collapsed,ih]
      · rw [substituted_other same,List.cons_append,collapsed_other same,ih,List.cons_append]

-- What stands in front of a character that was marked by another is gone again.
theorem collapsed_marked (apart : first ≠ second) (text : List Char) (ends : ∀ next ∈ tail.head?, next ≠ second) :
    collapsed first second second (substituted second [first,second] text ++ tail) =
      text ++ collapsed first second second tail := by
  induction text with
  | nil => rfl
  | cons ch text ih =>
      by_cases same : ch = second
      · subst same
        rw [substituted_mark]
        simp [collapsed,ih]
      · have opens : ∀ next ∈ (substituted second [first,second] text ++ tail).head?, next ≠ second := by
          intro next member
          cases text with
          | nil => exact ends next member
          | cons follower rest =>
              by_cases quoted : follower = second
              · subst quoted
                rw [substituted_mark] at member
                obtain rfl : first = next := by simpa using member
                exact apart
              · rw [substituted_other quoted] at member
                obtain rfl : follower = next := by simpa using member
                exact quoted
        rw [substituted_other same,List.cons_append,collapsed_before opens,ih,List.cons_append]

-- A text is cut at the first of its marks in one way.
theorem cut_first {front other back rest : List Char} (clear : mark ∉ front) (free : mark ∉ other)
    (same : front ++ mark :: back = other ++ mark :: rest) : front = other ∧ back = rest := by
  rcases List.append_eq_append_iff.mp same with ⟨more,rfl,tail⟩ | ⟨more,rfl,tail⟩
  · cases more with
    | nil => simpa using tail
    | cons ch more =>
        obtain ⟨rfl,_⟩ := List.cons.inj tail
        exact absurd (by simp) free
  · cases more with
    | nil => simpa using tail.symm
    | cons ch more =>
        obtain ⟨rfl,_⟩ := List.cons.inj tail
        exact absurd (by simp) clear

end Wire
