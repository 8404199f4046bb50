import Mathlib.Algebra.Ring.Nat
import Mathlib.Data.List.Infix
namespace Wire

-- The number of bytes of a text in UTF-8.
def byteLength (text : List Char) : Nat := (text.map Char.utf8Size).sum

-- The byte where the first such character begins, and the last one.
def find (ch : Char) : List Char → Option Nat
  | [] => none
  | head :: rest => if head = ch then some 0 else (find ch rest).map (head.utf8Size+·)

def rfind (ch : Char) : List Char → Option Nat
  | [] => none
  | head :: rest =>
      match rfind ch rest with
      | some place => some (head.utf8Size+place)
      | none => if head = ch then some 0 else none

-- The text up to a byte and from it on, if a character begins or the text ends there.
def splitAtByte : Nat → List Char → Option (List Char × List Char)
  | 0,text => some ([],text)
  | _+1,[] => none
  | place+1,head :: rest =>
      if head.utf8Size ≤ place+1 then
        (splitAtByte (place+1-head.utf8Size) rest).map fun (front,back) => (head :: front,back)
      else none

-- `&text[start..=stop]`, which panics where this is `none`.
def sliceInclusive (start stop : Nat) (text : List Char) : Option (List Char) := do
  guard (start ≤ stop+1)
  let (front,_) ← splitAtByte (stop+1) text
  let (_,middle) ← splitAtByte start front
  return middle

variable {ch : Char} {text front back middle : List Char}

@[simp] theorem byteLength_nil : byteLength [] = 0 := rfl

@[simp] theorem byteLength_cons (ch : Char) (text : List Char) : byteLength (ch :: text) = ch.utf8Size+byteLength text := by
  simp [byteLength]

@[simp] theorem byteLength_append (front back : List Char) : byteLength (front ++ back) = byteLength front+byteLength back := by
  simp [byteLength]

theorem byteLength_zero (empty : byteLength text = 0) : text = [] := by
  cases text with
  | nil => rfl
  | cons head rest =>
      have wide := Char.utf8Size_pos head
      rw [byteLength_cons] at empty
      omega

theorem find_none : find ch text = none ↔ ch ∉ text := by
  induction text with
  | nil => simp [find]
  | cons head rest ih =>
      rw [find]
      split
      · rename_i here
        simp [here]
      · rename_i other
        simp [ih,Ne.symm other]

theorem find_at (first : ch ∉ front) : find ch (front ++ ch :: back) = some (byteLength front) := by
  induction front with
  | nil => simp [find]
  | cons head front ih =>
      obtain ⟨other,later⟩ := List.ne_and_not_mem_of_not_mem_cons first
      rw [List.cons_append,find,if_neg (Ne.symm other),ih later,Option.map_some,byteLength_cons]

theorem rfind_none : rfind ch text = none ↔ ch ∉ text := by
  induction text with
  | nil => simp [rfind]
  | cons head rest ih =>
      rw [rfind]
      cases found : rfind ch rest with
      | some place =>
          have member : ch ∈ rest := by
            by_contra absent
            rw [ih.mpr absent] at found
            cases found
          simp [member]
      | none =>
          have absent := ih.mp found
          by_cases here : head = ch
          · simp [here]
          · simp [here,Ne.symm here,absent]

theorem rfind_at (last : ch ∉ back) : rfind ch (front ++ ch :: back) = some (byteLength front) := by
  induction front with
  | nil => rw [List.nil_append,rfind,rfind_none.mpr last,if_pos rfl,byteLength_nil]
  | cons head front ih => rw [List.cons_append,rfind,ih,byteLength_cons]

theorem mem_first (member : ch ∈ text) : ∃ front back, text = front ++ ch :: back ∧ ch ∉ front :=
  List.eq_append_cons_of_mem member

theorem mem_last (member : ch ∈ text) : ∃ front back, text = front ++ ch :: back ∧ ch ∉ back := by
  obtain ⟨front,back,same,first⟩ := List.eq_append_cons_of_mem (List.mem_reverse.mpr member)
  refine ⟨back.reverse,front.reverse,?_,by simpa using first⟩
  rw [← List.reverse_reverse text,same]
  simp

theorem splitAtByte_append (front back : List Char) : splitAtByte (byteLength front) (front ++ back) = some (front,back) := by
  induction front with
  | nil => cases back <;> rfl
  | cons head front ih =>
      have wide := Char.utf8Size_pos head
      obtain ⟨size,same⟩ : ∃ size, head.utf8Size+byteLength front = size+1 := ⟨head.utf8Size+byteLength front-1,by omega⟩
      rw [byteLength_cons,List.cons_append,same,splitAtByte,if_pos (by omega),
        show size+1-head.utf8Size = byteLength front by omega,ih]
      rfl

theorem sliceInclusive_append (some' : ch.utf8Size = 1) :
    sliceInclusive (byteLength front) (byteLength (front ++ middle)) (front ++ middle ++ ch :: back) = some (middle ++ [ch]) := by
  have upper : byteLength (front ++ middle)+1 = byteLength (front ++ (middle ++ [ch])) := by
    simp [some']
    omega
  have whole : front ++ middle ++ ch :: back = front ++ (middle ++ [ch]) ++ back := by simp
  have ordered : byteLength front ≤ byteLength (front ++ middle)+1 := by
    rw [byteLength_append]
    omega
  unfold sliceInclusive
  simp only [guard,if_pos ordered]
  rw [upper,whole,splitAtByte_append]
  change (do let (_,middle) ← splitAtByte (byteLength front) (front ++ (middle ++ [ch])); pure middle) = _
  rw [splitAtByte_append]
  rfl

theorem sliceInclusive_empty (some' : ch.utf8Size = 1) :
    sliceInclusive (byteLength (front ++ [ch])) (byteLength front) (front ++ [ch] ++ back) = some [] := by
  have upper : byteLength front+1 = byteLength (front ++ [ch]) := by simp [some']
  unfold sliceInclusive
  simp only [guard,if_pos upper.symm.le]
  rw [upper,splitAtByte_append]
  have empty := splitAtByte_append (front ++ [ch]) []
  rw [List.append_nil] at empty
  change (do let (_,middle) ← splitAtByte (byteLength (front ++ [ch])) (front ++ [ch]); pure middle) = _
  rw [empty]
  rfl

theorem sliceInclusive_crossed {start stop : Nat} (crossed : stop+1 < start) : sliceInclusive start stop text = none := by
  unfold sliceInclusive
  simp only [guard,if_neg (Nat.not_le.mpr crossed)]
  rfl

-- The last `close` ends before the first `opening`, with something between them.
def Crossed (opening close : Char) (text : List Char) : Prop :=
  ∃ front middle back, text = front ++ close :: (middle ++ opening :: back) ∧ middle ≠ [] ∧
    opening ∉ front ++ middle ∧ close ∉ middle ++ back

variable {opening close : Char}

-- Both marks are one byte long, so that the byte behind either is a boundary.
theorem slice_panics (apart : opening ≠ close) (single : close.utf8Size = 1) {start stop : Nat}
    (opens : find opening text = some start) (closes : rfind close text = some stop) :
    sliceInclusive start stop text = none ↔ Crossed opening close text := by
  have hasOpening : opening ∈ text := by
    by_contra absent
    rw [find_none.mpr absent] at opens
    cases opens
  have hasClose : close ∈ text := by
    by_contra absent
    rw [rfind_none.mpr absent] at closes
    cases closes
  constructor
  · intro panics
    obtain ⟨front,back,split,first⟩ := mem_first hasOpening
    obtain ⟨front',back',split',last⟩ := mem_last hasClose
    rw [split,find_at first] at opens
    rw [split',rfind_at last] at closes
    obtain rfl := Option.some.inj opens
    obtain rfl := Option.some.inj closes
    rcases List.append_eq_append_iff.mp (split.symm.trans split') with ⟨between,rfl,_⟩ | ⟨between,rfl,rest⟩
    · rw [split',sliceInclusive_append single] at panics
      cases panics
    · cases between with
      | nil => exact absurd (List.cons.inj rest).1.symm apart
      | cons ch middle =>
          rw [List.cons_append] at rest
          obtain ⟨rfl,rfl⟩ := List.cons.inj rest
          refine ⟨front',middle,back,by simpa using split,?_,?_,?_⟩
          · rintro rfl
            rw [split,sliceInclusive_empty single] at panics
            cases panics
          · simp only [List.mem_append,List.mem_cons,not_or] at first ⊢
            exact ⟨first.1,first.2.2⟩
          · simp only [List.mem_append,List.mem_cons,not_or] at last ⊢
            exact ⟨last.1,last.2.2⟩
  · rintro ⟨front,middle,back,rfl,some',first,last⟩
    have first' : opening ∉ front ++ close :: middle := by
      simp only [List.mem_append,List.mem_cons,not_or] at first ⊢
      exact ⟨first.1,apart,first.2⟩
    have last' : close ∉ middle ++ opening :: back := by
      simp only [List.mem_append,List.mem_cons,not_or] at last ⊢
      exact ⟨last.1,apart.symm,last.2⟩
    have whole : front ++ close :: (middle ++ opening :: back) = (front ++ close :: middle) ++ opening :: back := by simp
    rw [rfind_at last'] at closes
    rw [whole,find_at first'] at opens
    obtain rfl := Option.some.inj opens
    obtain rfl := Option.some.inj closes
    apply sliceInclusive_crossed
    have wide : byteLength middle ≠ 0 := fun empty => some' (byteLength_zero empty)
    rw [byteLength_append,byteLength_cons,single]
    omega

end Wire
