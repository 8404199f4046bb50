import Mathlib.Data.List.TakeWhile
import ReactorOS.Storage.Files
namespace Storage

namespace FilePath

-- What stands before the last dot of a name and what behind it. A dot at the start
-- parts nothing.
def splitAtDot (name : String) : String × Option String :=
  let behind := name.toList.reverse.takeWhile (· ≠ '.')
  let front := name.toList.reverse.drop (behind.length+1)
  if name = ".." ∨ behind.length = name.toList.length ∨ front = [] then (name,none)
  else (String.ofList front.reverse,some (String.ofList behind.reverse))

def extension (path : FilePath) : Option String := (splitAtDot path.fileName).2

def withExtension (path : FilePath) (extension : String) : FilePath :=
  path.withFileName ((splitAtDot path.fileName).1 ++ (if extension = "" then "" else "." ++ extension))

theorem splitAtDot_some {name stem extension : String} (parts : splitAtDot name = (stem,some extension)) :
    stem ++ "." ++ extension = name := by
  unfold splitAtDot at parts
  extract_lets behind front at parts
  split at parts
  · cases (Prod.mk.inj parts).2
  · rename_i parted
    obtain ⟨rfl,same⟩ := Prod.mk.inj parts
    obtain rfl := Option.some.inj same
    have whole : behind ++ name.toList.reverse.dropWhile (· ≠ '.') = name.toList.reverse :=
      List.takeWhile_append_dropWhile
    cases rest : name.toList.reverse.dropWhile (· ≠ '.') with
    | nil =>
        rw [rest,List.append_nil] at whole
        have lengths := congrArg List.length whole
        rw [List.length_reverse] at lengths
        exact (parted (.inr (.inl lengths))).elim
    | cons ch later =>
        have dot : ch = '.' := by
          have head := List.head?_dropWhile_not (fun ch : Char => decide (ch ≠ '.')) name.toList.reverse
          rw [rest] at head
          simpa using head
        rw [rest,dot] at whole
        have front_is : front = later := by
          change name.toList.reverse.drop (behind.length+1) = later
          rw [←whole,List.drop_append]
          simp
        have chars := congrArg List.reverse whole
        rw [List.reverse_reverse,List.reverse_append,List.reverse_cons] at chars
        apply String.toList_injective
        rw [front_is,←chars]
        simp

theorem splitAtDot_none {name stem : String} (parts : splitAtDot name = (stem,none)) : stem = name := by
  unfold splitAtDot at parts
  extract_lets behind front at parts
  split at parts
  · exact (Prod.mk.inj parts).1.symm
  · cases (Prod.mk.inj parts).2

variable {base path : FilePath} {tag other : String}

-- The files beside `base` whose names go on from its name with `tag`.
def Beside (base : FilePath) (tag : String) (path : FilePath) : Prop :=
  path.folder = base.folder ∧ ∃ rest, path.fileName = base.fileName ++ tag ++ rest

theorem beside_tag (base : FilePath) (tag rest : String) :
    base.Beside tag (base.withFileName (base.fileName ++ tag ++ rest)) := ⟨rfl,rest,rfl⟩

theorem Beside.append (beside : base.Beside tag path) (more : String) :
    base.Beside tag (path.withFileName (path.fileName ++ more)) := by
  obtain ⟨folder,rest,name⟩ := beside
  exact ⟨folder,rest ++ more,by simp [name,String.append_assoc]⟩

-- Two tags that part in their first characters share no file.
theorem Beside.apart (beside : base.Beside tag path) (count : Nat) (long : count ≤ tag.toList.length)
    (other_long : count ≤ other.toList.length) (apart : tag.toList.take count ≠ other.toList.take count) :
    ¬base.Beside other path := by
  intro also
  obtain ⟨_,rest,name⟩ := beside
  obtain ⟨_,tail,same⟩ := also
  have chars := congrArg String.toList (name.symm.trans same)
  simp only [String.toList_append,List.append_assoc,List.append_cancel_left_eq] at chars
  have first := congrArg (List.take count) chars
  rw [List.take_append_of_le_length long,List.take_append_of_le_length other_long] at first
  exact apart first

theorem Beside.ne_base (beside : base.Beside tag path) (long : tag ≠ "") : path ≠ base := by
  intro same
  obtain ⟨_,rest,name⟩ := beside
  rw [same] at name
  have lengths := congrArg String.length name
  simp only [String.length_append] at lengths
  exact long (String.length_eq_zero_iff.mp (by omega))

end FilePath

-- A name without the number at its end, read from behind.
def undigited (name : String) : List Char := name.toList.reverse.dropWhile Char.isDigit

theorem undigited_number (stem : String) (number : Nat) : undigited (stem ++ toString number) = undigited stem := by
  have digits : ∀ ch ∈ (toString number).toList.reverse, ch.isDigit = true := by
    intro ch member
    rw [List.mem_reverse,Nat.toString_eq_repr,Nat.repr_eq_ofList_toDigits,String.toList_ofList] at member
    exact Nat.isDigit_of_mem_toDigits (by decide) (by decide) member
  unfold undigited
  rw [String.toList_append,List.reverse_append,List.dropWhile_append_of_pos digits]

-- What a name ends with when its number is left out.
theorem undigited_append (stem ending : String) {ch : Char} {rest : List Char}
    (last : ending.toList.reverse = ch :: rest) (letter : ch.isDigit = false) :
    undigited (stem ++ ending) = ch :: (rest ++ stem.toList.reverse) := by
  unfold undigited
  rw [String.toList_append,List.reverse_append,last,List.cons_append,List.dropWhile_cons_of_neg (by simp [letter])]

end Storage
