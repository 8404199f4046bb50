import Mathlib.Data.List.Forall2
import Mathlib.Data.List.Induction
import Mathlib.Data.List.TakeDrop
import Mathlib.Data.List.TakeWhile
namespace Wire

def split (separator : Char) (text : String) : List String := (text.toList.splitOn separator).map String.ofList

def join (separator : Char) (parts : List String) : String :=
  String.ofList ([separator].intercalate (parts.map String.toList))

-- The text up to the first separator and the text behind it.
def splitOnce (separator : Char) (text : String) : Option (String × String) :=
  match text.toList.span (· ≠ separator) with
  | (_,[]) => none
  | (before,_ :: behind) => some (String.ofList before,String.ofList behind)

-- A map that was built by insertion, newest entry first.
abbrev Fields := List (String × String)

-- A computation that went well went well in each of its parts.
theorem bind_ok {ε α β : Type} {first : Except ε α} {next : α → Except ε β} {result : β}
    (done : first >>= next = .ok result) : ∃ value, first = .ok value ∧ next value = .ok result := by
  cases first with
  | error err => cases done
  | ok value => exact ⟨value,rfl,done⟩

theorem forM_ok {ε α : Type} {check : α → Except ε Unit} {items : List α} (passed : items.forM check = .ok ()) :
    ∀ item ∈ items, check item = .ok () := by
  induction items with
  | nil => exact nofun
  | cons item items ih =>
      obtain ⟨_,first,rest⟩ := bind_ok passed
      exact List.forall_mem_cons.mpr ⟨first,ih rest⟩

theorem ok_bind {ε α β : Type} {first : Except ε α} {next : α → Except ε β} {value : α} (done : first = .ok value) :
    first >>= next = next value := by
  rw [done]
  rfl

theorem forM_all {ε α : Type} {check : α → Except ε Unit} {items : List α} (passes : ∀ item ∈ items, check item = .ok ()) :
    items.forM check = .ok () := by
  induction items with
  | nil => rfl
  | cons item items ih =>
      obtain ⟨first,rest⟩ := List.forall_mem_cons.mp passes
      exact (ok_bind first).trans (ih rest)

theorem map_ok {ε α β : Type} {first : Except ε α} {next : α → β} {result : β}
    (done : first.map next = .ok result) : ∃ value, first = .ok value ∧ next value = result := by
  cases first with
  | error err => cases done
  | ok value => cases done; exact ⟨value,rfl,rfl⟩

-- Every item has gone well, and the results stand in its place.
theorem mapM_ok {ε α β : Type} {f : α → Except ε β} {rows : List α} {values : List β} :
    rows.mapM f = .ok values ↔ List.Forall₂ (fun row value => f row = .ok value) rows values := by
  induction rows generalizing values with
  | nil =>
      rw [List.forall₂_nil_left_iff,List.mapM_nil]
      constructor
      · intro same
        exact (Except.ok.inj same).symm
      · intro same
        rw [same]
        rfl
  | cons row rows ih =>
      rw [List.mapM_cons,List.forall₂_cons_left_iff]
      constructor
      · intro mapped
        obtain ⟨value,first,rest⟩ := bind_ok mapped
        obtain ⟨others,later,whole⟩ := bind_ok rest
        exact ⟨value,others,first,ih.mp later,(Except.ok.inj whole).symm⟩
      · intro parts
        obtain ⟨value,others,first,later,rfl⟩ := parts
        rw [first]
        exact ok_bind (ih.mpr later)

theorem mapM_all {ε α β : Type} {f : α → Except ε β} {rows : List α} (all : ∀ row ∈ rows, ∃ value, f row = .ok value) :
    ∃ values, rows.mapM f = .ok values := by
  induction rows with
  | nil => exact ⟨[],rfl⟩
  | cons row rows ih =>
      obtain ⟨⟨value,here⟩,rest⟩ := List.forall_mem_cons.mp all
      obtain ⟨values,others⟩ := ih rest
      exact ⟨value :: values,mapM_ok.mpr (.cons here (mapM_ok.mp others))⟩

-- Where one of them has failed, the failure is the answer.
theorem mapM_error {ε α β : Type} {f : α → Except ε β} {rows : List α} {err : ε} (failed : rows.mapM f = .error err) :
    ∃ row ∈ rows, f row = .error err := by
  induction rows with
  | nil => cases failed
  | cons row rows ih =>
      rw [List.mapM_cons] at failed
      cases here : f row with
      | error refused =>
          rw [here] at failed
          cases failed
          exact ⟨row,List.mem_cons_self,here⟩
      | ok value =>
          rw [here,ok_bind rfl] at failed
          cases others : rows.mapM f with
          | error refused =>
              rw [others] at failed
              cases failed
              obtain ⟨row,listed,refuses⟩ := ih others
              exact ⟨row,List.mem_cons_of_mem _ listed,refuses⟩
          | ok values =>
              rw [others] at failed
              cases failed

theorem split_join {separator : Char} {parts : List String} (absent : ∀ part ∈ parts, separator ∉ part.toList)
    (nonempty : parts ≠ []) : split separator (join separator parts) = parts := by
  have apart : ∀ part ∈ parts.map String.toList, separator ∉ part := by
    intro part member
    obtain ⟨original,inside,rfl⟩ := List.mem_map.mp member
    exact absent original inside
  unfold split join
  rw [String.toList_ofList,List.splitOn_intercalate separator apart (by simpa using nonempty),List.map_map]
  simp

theorem join_split (separator : Char) (text : String) : join separator (split separator text) = text := by
  unfold split join
  rw [List.map_map]
  simp [Function.comp_def]

theorem splitOn_absent (separator : Char) (text : List Char) : ∀ piece ∈ text.splitOn separator, separator ∉ piece := by
  induction text with
  | nil => simp
  | cons ch text ih =>
      intro piece member
      rw [List.splitOn_cons_eq_if_modifyHead] at member
      split at member
      · rcases List.mem_cons.mp member with rfl | inside
        · simp
        · exact ih piece inside
      · rename_i other
        cases pieces : text.splitOn separator with
        | nil => rw [pieces] at member; cases member
        | cons first rest =>
            rw [pieces] at member
            rw [pieces] at ih
            rcases List.mem_cons.mp member with rfl | inside
            · have apart := ih first (by simp)
              simp only [beq_iff_eq] at other
              simp [apart,Ne.symm other]
            · exact ih piece (by simp [inside])

theorem split_absent (separator : Char) (text : String) : ∀ part ∈ split separator text, separator ∉ part.toList := by
  intro part member
  obtain ⟨piece,inside,rfl⟩ := List.mem_map.mp member
  rw [String.toList_ofList]
  exact splitOn_absent separator _ piece inside

theorem split_ne_nil (separator : Char) (text : String) : split separator text ≠ [] := by
  unfold split
  simp

theorem join_snoc (separator : Char) {parts : List String} (nonempty : parts ≠ []) (last : String) :
    join separator (parts ++ [last]) = join separator parts ++ String.singleton separator ++ last := by
  have chars : [separator].intercalate (parts.map String.toList ++ [last.toList]) =
      [separator].intercalate (parts.map String.toList) ++ separator :: last.toList := by
    have nonempty : parts.map String.toList ≠ [] := by simpa using nonempty
    generalize parts.map String.toList = pieces at nonempty
    induction pieces with
    | nil => exact absurd rfl nonempty
    | cons piece pieces ih =>
        cases pieces with
        | nil => simp
        | cons next pieces =>
            rw [List.cons_append,List.cons_append,List.intercalate_cons_cons,←List.cons_append,ih (by simp),
              List.intercalate_cons_cons]
            simp
  apply String.toList_inj.mp
  unfold join
  rw [List.map_append]
  simp only [String.toList_ofList,String.toList_append,String.toList_singleton]
  simpa using chars

theorem join_append (separator : Char) {parts more : List String} (nonempty : parts ≠ []) (others : more ≠ []) :
    join separator (parts ++ more) = join separator parts ++ String.singleton separator ++ join separator more := by
  induction more using List.reverseRecOn with
  | nil => exact absurd rfl others
  | append_singleton more last ih =>
      rw [← List.append_assoc,join_snoc separator (by simp [nonempty])]
      by_cases empty : more = []
      · subst empty
        rw [List.append_nil]
        congr 1
        simp [join]
      · rw [ih empty,join_snoc separator empty,String.append_assoc,String.append_assoc,String.append_assoc,
          String.append_assoc,String.append_assoc]

-- A text that has the separator in it is cut there too.
theorem split_append (separator : Char) (one other : String) :
    split separator (one ++ String.singleton separator ++ other) = split separator one ++ split separator other := by
  have absent : ∀ part ∈ split separator one ++ split separator other, separator ∉ part.toList := by
    intro part member
    rcases List.mem_append.mp member with first | second
    · exact split_absent separator one part first
    · exact split_absent separator other part second
  have joined := join_append separator (split_ne_nil separator one) (split_ne_nil separator other)
  rw [join_split,join_split] at joined
  rw [← joined,split_join absent (by simp [split_ne_nil])]

theorem split_whole {separator : Char} {text : String} (absent : separator ∉ text.toList) : split separator text = [text] := by
  have alone : join separator [text] = text := by simp [join]
  have whole := @split_join separator [text] (by simpa using absent) (by simp)
  rwa [alone] at whole

theorem split_several {separator : Char} {text : String} (listed : separator ∈ text.toList) :
    2 ≤ (split separator text).length := by
  have joined := join_split separator text
  have absent := split_absent separator text
  cases parts : split separator text with
  | nil => exact absurd parts (split_ne_nil _ _)
  | cons part rest =>
      cases rest with
      | nil =>
          rw [parts] at joined absent
          have alone : part = text := by simpa [join] using joined
          exact absurd (alone ▸ listed) (absent part List.mem_cons_self)
      | cons next rest => simp

-- Where every part has a mark in it, the text has at least as many marks as parts.
theorem count_parts (separator : Char) {mark : Char} {parts : List String}
    (marked : ∀ part ∈ parts, mark ∈ part.toList) : parts.length ≤ (join separator parts).toList.count mark := by
  induction parts using List.reverseRecOn with
  | nil => simp
  | append_singleton parts last ih =>
      have here : 0 < last.toList.count mark := List.count_pos_iff.mpr (marked last (by simp))
      have before := ih fun part member => marked part (by simp [member])
      by_cases empty : parts = []
      · subst empty
        simpa [join] using here
      · rw [join_snoc separator empty,String.toList_append,String.toList_append,List.count_append,List.count_append,
          List.length_append,List.length_singleton]
        omega

theorem splitOnce_append {separator : Char} {key : String} (absent : separator ∉ key.toList) (value : String) :
    splitOnce separator (key ++ String.singleton separator ++ value) = some (key,value) := by
  have before : ∀ ch ∈ key.toList, decide (ch ≠ separator) = true := by
    intro ch member
    simpa using fun same : ch = separator => absent (same ▸ member)
  have text : (key ++ String.singleton separator ++ value).toList = key.toList ++ separator :: value.toList := by simp
  unfold splitOnce
  rw [text,List.span_eq_takeWhile_dropWhile,List.takeWhile_append_of_pos before,List.dropWhile_append_of_pos before,
    List.takeWhile_cons,List.dropWhile_cons]
  simp

theorem splitOnce_mem {separator : Char} {text key value : String} (cut : splitOnce separator text = some (key,value)) :
    separator ∈ text.toList := by
  by_contra absent
  have before : ∀ ch ∈ text.toList, decide (ch ≠ separator) = true := by
    intro ch member
    simpa using fun same : ch = separator => absent (same ▸ member)
  unfold splitOnce at cut
  rw [List.span_eq_takeWhile_dropWhile,List.dropWhile_eq_nil_iff.mpr before] at cut
  cases cut

end Wire
