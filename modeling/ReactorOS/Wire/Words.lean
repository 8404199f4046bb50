import Mathlib.Data.List.SplitOn
import Mathlib.Data.List.Chain
namespace Wire
variable {α : Type} {blank : α → Bool} {space : α}

-- The runs of characters that are not blank.
def words (blank : α → Bool) (text : List α) : List (List α) :=
  (text.splitOnP blank).filter fun word => !word.isEmpty

def unwords (space : α) (words : List (List α)) : List α := [space].intercalate words

-- A space for each run of blanks between two words. `started` once there is a word,
-- `owed` while a space is due before the next one.
def squeeze (blank : α → Bool) (space : α) : List α → Bool → Bool → List α
  | [],_,_ => []
  | ch :: rest,started,owed =>
      if blank ch then squeeze blank space rest started started
      else if owed then space :: ch :: squeeze blank space rest true false
      else ch :: squeeze blank space rest true false

-- No blank but single spaces between words.
structure Tidy (blank : α → Bool) (space : α) (text : List α) : Prop where
  spaces : ∀ ch ∈ text, blank ch = true → ch = space
  leading : ∀ ch ∈ text.head?, blank ch = false
  trailing : ∀ ch ∈ text.getLast?, blank ch = false
  single : text.IsChain fun one other => blank one = true → blank other = false

@[simp] theorem unwords_nil : unwords space [] = [] := rfl

theorem unwords_cons (word : List α) (others : List (List α)) :
    unwords space (word :: others) = word ++ others.flatMap (space :: ·) := by
  unfold unwords
  induction others generalizing word with
  | nil => simp
  | cons other others ih =>
      rw [List.intercalate_cons_cons,ih]
      simp

theorem squeeze_pieces (text : List α) : ∃ first others, text.splitOnP blank = first :: others ∧
    squeeze blank space text true false = first ++ (others.filter fun word => !word.isEmpty).flatMap (space :: ·) ∧
    squeeze blank space text true true =
      ((first :: others).filter fun word => !word.isEmpty).flatMap (space :: ·) := by
  induction text with
  | nil => exact ⟨[],[],rfl,rfl,rfl⟩
  | cons ch rest ih =>
      obtain ⟨first,others,pieces,closed,owed⟩ := ih
      cases kind : blank ch with
      | true =>
          refine ⟨[],first :: others,?_,?_,?_⟩
          · rw [List.splitOnP_cons_eq_if_modifyHead,if_pos kind,pieces]
          · simpa [squeeze,kind] using owed
          · simpa [squeeze,kind] using owed
      | false =>
          refine ⟨ch :: first,others,?_,?_,?_⟩
          · rw [List.splitOnP_cons_eq_if_modifyHead,if_neg (by simp [kind]),pieces]
            rfl
          · simp [squeeze,kind,closed]
          · simp [squeeze,kind,closed]

theorem squeeze_words (text : List α) : squeeze blank space text false false = unwords space (words blank text) := by
  induction text with
  | nil => rfl
  | cons ch rest ih =>
      unfold words at ih ⊢
      rw [List.splitOnP_cons_eq_if_modifyHead]
      cases kind : blank ch with
      | true =>
          rw [if_pos rfl,List.filter_cons_of_neg (by simp)]
          simpa [squeeze,kind] using ih
      | false =>
          obtain ⟨first,others,pieces,closed,_⟩ := @squeeze_pieces α blank space rest
          rw [if_neg (by simp),pieces,List.modifyHead_cons,List.filter_cons_of_pos (by simp),unwords_cons]
          simp [squeeze,kind,closed]

section Squeezed
variable (text : List α) (started owed : Bool)

theorem squeeze_chars : ∀ ch ∈ squeeze blank space text started owed, ch = space ∨ blank ch = false ∧ ch ∈ text := by
  induction text generalizing started owed with
  | nil => simp [squeeze]
  | cons head rest ih =>
      intro ch member
      have later : ∀ s o, ch ∈ squeeze blank space rest s o → ch = space ∨ blank ch = false ∧ ch ∈ head :: rest := by
        intro s o inside
        exact (ih s o ch inside).imp_right fun found => ⟨found.1,List.mem_cons_of_mem _ found.2⟩
      unfold squeeze at member
      cases kind : blank head with
      | true =>
          rw [if_pos kind] at member
          exact later _ _ member
      | false =>
          rw [if_neg (by simp [kind])] at member
          split at member
          · rcases List.mem_cons.mp member with rfl | member
            · exact .inl rfl
            · rcases List.mem_cons.mp member with rfl | member
              · exact .inr ⟨kind,List.mem_cons_self⟩
              · exact later _ _ member
          · rcases List.mem_cons.mp member with rfl | member
            · exact .inr ⟨kind,List.mem_cons_self⟩
            · exact later _ _ member

theorem squeeze_single : (squeeze blank space text started owed).IsChain fun one other => blank one = true → blank other = false := by
  induction text generalizing started owed with
  | nil => simp [squeeze]
  | cons head rest ih =>
      unfold squeeze
      cases kind : blank head with
      | true => simpa using ih started started
      | false =>
          have behind : (head :: squeeze blank space rest true false).IsChain
              fun one other => blank one = true → blank other = false := by
            rw [List.isChain_cons]
            refine ⟨fun _ _ impossible => ?_,ih true false⟩
            rw [kind] at impossible
            cases impossible
          cases owed with
          | false => simpa using behind
          | true =>
              simp only [Bool.false_eq_true,if_false,if_true]
              exact List.IsChain.cons_cons (fun _ => kind) behind

theorem squeeze_trailing : ∀ ch ∈ (squeeze blank space text started owed).getLast?, blank ch = false := by
  induction text generalizing started owed with
  | nil => simp [squeeze]
  | cons head rest ih =>
      unfold squeeze
      cases kind : blank head with
      | true => simpa using ih started started
      | false =>
          have behind : ∀ ch ∈ (head :: squeeze blank space rest true false).getLast?, blank ch = false := by
            intro ch last
            rw [List.getLast?_cons] at last
            cases found : (squeeze blank space rest true false).getLast? with
            | none =>
                rw [found] at last
                cases last
                exact kind
            | some inner =>
                rw [found] at last
                cases last
                exact ih true false _ found
          cases owed with
          | false => simpa using behind
          | true =>
              intro ch last
              simp only [Bool.false_eq_true,if_false,if_true] at last
              rw [List.getLast?_cons_cons] at last
              exact behind ch last

theorem squeeze_leading : ∀ ch ∈ (squeeze blank space text false false).head?, blank ch = false := by
  induction text with
  | nil => simp [squeeze]
  | cons head rest ih =>
      unfold squeeze
      cases kind : blank head with
      | true => simpa using ih
      | false => simp [kind]

end Squeezed

-- What is tidy stays as it is.
theorem squeeze_kept : ∀ text : List α, (∀ ch ∈ text, blank ch = true → ch = space) →
    (∀ ch ∈ text.getLast?, blank ch = false) → (text.IsChain fun one other => blank one = true → blank other = false) →
    squeeze blank space text true false = text
  | [],_,_,_ => rfl
  | [ch],_,trailing,_ => by
      have last := trailing ch rfl
      simp [squeeze,last]
  | ch :: next :: rest,spaces,trailing,single => by
      have last : ∀ other ∈ (next :: rest).getLast?, blank other = false := by
        intro other found
        exact trailing other (by rwa [List.getLast?_cons_cons])
      cases kind : blank ch with
      | false =>
          have kept := squeeze_kept (next :: rest) (fun other member => spaces other (List.mem_cons_of_mem _ member)) last
            single.tail
          unfold squeeze
          rw [if_neg (by simp [kind]),if_neg (by simp),kept]
      | true =>
          have second : blank next = false := by
            rw [List.isChain_cons_cons] at single
            exact single.1 kind
          have kept := squeeze_kept rest
            (fun other member => spaces other (List.mem_cons_of_mem _ (List.mem_cons_of_mem _ member)))
            (fun other found => by
              cases rest with
              | nil => cases found
              | cons third rest => exact last other (by rwa [List.getLast?_cons_cons]))
            single.tail.tail
          rw [spaces ch List.mem_cons_self kind]
          have wide : blank space = true := by
            rw [← spaces ch List.mem_cons_self kind]
            exact kind
          simp [squeeze,wide,second,kept]

theorem Tidy.kept {text : List α} (tidy : Tidy blank space text) : squeeze blank space text false false = text := by
  cases text with
  | nil => rfl
  | cons ch rest =>
      have first := tidy.leading ch rfl
      have kept := squeeze_kept (ch :: rest) tidy.spaces tidy.trailing tidy.single
      unfold squeeze at kept ⊢
      rw [if_neg (by simp [first]),if_neg (by simp)] at kept ⊢
      exact kept

theorem squeeze_tidy (text : List α) : Tidy blank space (squeeze blank space text false false) where
  spaces ch member kind := by
    rcases squeeze_chars text false false ch member with same | ⟨visible,_⟩
    · exact same
    · rw [visible] at kind
      cases kind
  leading := squeeze_leading text
  trailing := squeeze_trailing text false false
  single := squeeze_single text false false

-- The front of a tidy text is tidy unless it ends with a space.
theorem Tidy.take {text : List α} (tidy : Tidy blank space text) (count : Nat)
    (ends : ∀ ch ∈ (text.take count).getLast?, blank ch = false) : Tidy blank space (text.take count) where
  spaces ch member := tidy.spaces ch (List.mem_of_mem_take member)
  leading ch first := by
    cases count with
    | zero => simp at first
    | succ count =>
        rw [List.head?_take,if_neg (Nat.succ_ne_zero count)] at first
        exact tidy.leading ch first
  trailing := ends
  single := tidy.single.take count

theorem words_visible (text : List α) : ∀ word ∈ words blank text, ∀ ch ∈ word, blank ch = false := by
  induction text with
  | nil => simp [words]
  | cons head rest ih =>
      intro word member ch inside
      unfold words at ih member
      rw [List.splitOnP_cons_eq_if_modifyHead] at member
      cases kind : blank head with
      | true =>
          rw [if_pos kind,List.filter_cons_of_neg (by simp)] at member
          exact ih word member ch inside
      | false =>
          rw [if_neg (by simp [kind])] at member
          obtain ⟨first,others,pieces,_,_⟩ := @squeeze_pieces α blank head rest
          rw [pieces,List.modifyHead_cons,List.filter_cons_of_pos (by simp)] at member
          rw [pieces] at ih
          rcases List.mem_cons.mp member with rfl | later
          · rcases List.mem_cons.mp inside with rfl | deeper
            · exact kind
            · have present : first ∈ (first :: others).filter fun word => !word.isEmpty := by
                refine List.mem_filter.mpr ⟨List.mem_cons_self,?_⟩
                cases first with
                | nil => cases deeper
                | cons _ _ => rfl
              exact ih first present ch deeper
          · refine ih word ?_ ch inside
            obtain ⟨listed,filled⟩ := List.mem_filter.mp later
            exact List.mem_filter.mpr ⟨List.mem_cons_of_mem _ listed,filled⟩

theorem words_filled {text word : List α} (member : word ∈ words blank text) : word ≠ [] := by
  intro empty
  subst empty
  simp [words] at member

theorem unwords_empty {items : List (List α)} (filled : ∀ word ∈ items, word ≠ []) : unwords space items = [] ↔ items = [] := by
  cases items with
  | nil => simp
  | cons word items =>
      have here := filled word List.mem_cons_self
      rw [unwords_cons]
      simp [here]

-- A space stands behind each word but the last, and nowhere else.
theorem unwords_space {items : List (List α)} (visible : ∀ word ∈ items, space ∉ word) (place : Nat) :
    (unwords space items)[place]? = some space ↔
      ∃ count, 0 < count ∧ count < items.length ∧ (unwords space (items.take count)).length = place := by
  induction items generalizing place with
  | nil => simp
  | cons word items ih =>
      have plain : space ∉ word := visible word List.mem_cons_self
      cases items with
      | nil =>
          rw [unwords_cons,List.flatMap_nil,List.append_nil]
          refine iff_of_false (fun found => plain (List.mem_of_getElem? found)) ?_
          rintro ⟨count,positive,below,_⟩
          rw [List.length_singleton] at below
          omega
      | cons other items =>
          have rest := ih fun word member => visible word (List.mem_cons_of_mem _ member)
          have split : ∀ more, unwords space (word :: other :: more) = word ++ space :: unwords space (other :: more) := by
            intro more
            rw [unwords_cons,unwords_cons,List.flatMap_cons,List.cons_append]
          rw [split]
          constructor
          · intro found
            rcases Nat.lt_trichotomy place word.length with inside | rfl | behind
            · rw [List.getElem?_append_left inside] at found
              exact (plain (List.mem_of_getElem? found)).elim
            · refine ⟨1,Nat.one_pos,by simp,?_⟩
              simp [unwords_cons]
            · rw [List.getElem?_append_right (Nat.le_of_lt behind)] at found
              obtain ⟨more,rfl⟩ := Nat.exists_eq_add_of_lt behind
              rw [show word.length+more+1-word.length = more+1 by omega,List.getElem?_cons_succ] at found
              obtain ⟨count,positive,below,length⟩ := (rest more).mp found
              refine ⟨count+1,Nat.succ_pos count,Nat.succ_lt_succ below,?_⟩
              obtain ⟨fewer,rfl⟩ := Nat.exists_eq_succ_of_ne_zero (Nat.pos_iff_ne_zero.mp positive)
              rw [List.take_succ_cons,List.take_succ_cons,split,List.length_append,List.length_cons,
                ← List.take_succ_cons,length]
              omega
          · rintro ⟨count,positive,below,length⟩
            obtain ⟨fewer,rfl⟩ := Nat.exists_eq_succ_of_ne_zero (Nat.pos_iff_ne_zero.mp positive)
            rw [List.take_succ_cons] at length
            rcases Nat.eq_zero_or_pos fewer with rfl | more
            · rw [List.take_zero,unwords_cons,List.flatMap_nil,List.append_nil] at length
              subst length
              rw [List.getElem?_append_right (Nat.le_refl _),Nat.sub_self,List.getElem?_cons_zero]
            · obtain ⟨least,rfl⟩ := Nat.exists_eq_succ_of_ne_zero (Nat.pos_iff_ne_zero.mp more)
              rw [List.take_succ_cons,split,List.length_append,List.length_cons,← List.take_succ_cons] at length
              subst length
              rw [List.getElem?_append_right (Nat.le_add_right _ _),Nat.add_sub_cancel_left,List.getElem?_cons_succ]
              exact (rest _).mpr ⟨least+1,Nat.succ_pos least,Nat.lt_of_succ_lt_succ below,rfl⟩

end Wire
