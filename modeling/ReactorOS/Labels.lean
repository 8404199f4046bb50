import ReactorOS.Integration
import ReactorOS.Wire.Fields
import ReactorOS.Wire.Words
namespace ReactorOS
open Wire

def isBlank (ch : Char) : Bool := isControl ch || isWhitespace ch

def integrationTaskExternalIdMaxChars : Nat := 120

def validateIntegrationTaskChar (field : String) (allowInternalSpace : Bool) (ch : Char) : Except String Unit :=
  if isInvisibleFormatChar ch then .error s!"{field} must not contain invisible format characters"
  else if isControl ch then .error s!"{field} must not contain control characters"
  else if isWhitespace ch && ch ≠ ' ' then .error s!"{field} must not contain non-space whitespace"
  else if ch = ' ' && !allowInternalSpace then .error s!"{field} must not contain spaces"
  else .ok ()

def validateIntegrationTaskCleanText (field value : String) (maxChars : Nat) (allowInternalSpace : Bool) :
    Except String Unit := do
  if value.isEmpty then
    throw s!"{field} must not be empty"
  if trim value ≠ value then
    throw s!"{field} must not have leading or trailing whitespace"
  let chars := value.length
  if maxChars < chars then
    throw s!"{field} must be at most {maxChars} characters, got {chars}"
  value.toList.forM (validateIntegrationTaskChar field allowInternalSpace)

def validateIntegrationTaskExternalId (externalTaskId : String) : Except String Unit :=
  validateIntegrationTaskCleanText "external_task_id" externalTaskId integrationTaskExternalIdMaxChars true

-- The words of a text as an operator sees them.
def visibleWords (value : String) : List (List Char) :=
  words isBlank (value.toList.filter fun ch => !isInvisibleFormatChar ch)

-- Some of the words but not all, with single spaces between them, are one character short of the limit.
def CutAtSpace (value : String) (maxChars : Nat) : Prop :=
  ∃ count, 0 < count ∧ count < (visibleWords value).length ∧
    (unwords ' ' ((visibleWords value).take count)).length+1 = maxChars

-- A text as labels should be, and normalisation leaves it as it is.
structure Normalised (maxChars : Nat) (text : String) : Prop where
  short : text.length ≤ maxChars
  leading : ∀ ch ∈ text.toList.head?, isWhitespace ch = false
  trailing : ∀ ch ∈ text.toList.getLast?, isWhitespace ch = false
  single : text.toList.IsChain fun one other => isWhitespace one = true → isWhitespace other = false
  visible : ∀ ch ∈ text.toList, isControl ch = false ∧ isInvisibleFormatChar ch = false
  again : normalizeOperatorText text maxChars = text

theorem space_blank : isBlank ' ' = true := by decide

theorem taken_whole {maxChars : Nat} {written : List Char} (room : written.length ≤ maxChars) (more : List Char)
    (full : maxChars ≤ written.length) : ((written.reverse ++ more).take maxChars).reverse = written := by
  rw [List.take_append_of_le_length (by simpa using full),List.take_of_length_le (by simpa using room),List.reverse_reverse]

-- Normalisation writes the front of the squeezed text.
theorem normalizeChars_squeeze (maxChars : Nat) (text written : List Char) (owed : Bool) (room : written.length ≤ maxChars)
    (begun : owed = true → written ≠ []) :
    normalizeChars maxChars text written owed = ((written.reverse ++ squeeze isBlank ' '
      (text.filter fun ch => !isInvisibleFormatChar ch) (!written.isEmpty) owed).take maxChars).reverse := by
  induction text generalizing written owed with
  | nil => simp [normalizeChars,squeeze,List.take_of_length_le,room]
  | cons ch rest ih =>
      unfold normalizeChars
      cases hidden : isInvisibleFormatChar ch with
      | true =>
          rw [if_pos rfl,List.filter_cons_of_neg (by simp [hidden])]
          exact ih written owed room begun
      | false =>
          rw [if_neg (by simp),List.filter_cons_of_pos (by simp [hidden])]
          unfold squeeze
          cases kind : isBlank ch with
          | true =>
              have either : (isControl ch || isWhitespace ch) = true := kind
              rw [if_pos either,if_pos rfl]
              exact ih written _ room fun more => by simpa using more
          | false =>
              have neither : ¬(isControl ch || isWhitespace ch) = true := by
                intro either
                rw [isBlank,either] at kind
                cases kind
              rw [if_neg neither,if_neg Bool.false_ne_true]
              cases owed with
              | true =>
                  rw [if_pos rfl,if_pos rfl]
                  by_cases full : maxChars ≤ written.length
                  · rw [if_pos full,taken_whole room _ full]
                  · rw [if_neg full]
                    by_cases last : maxChars ≤ written.length+1
                    · -- the space is written and nothing behind it
                      have same : maxChars = written.reverse.length+1 := by simp; omega
                      rw [if_pos last,same,List.take_length_add_append]
                      simp
                    · have longer : (ch :: ' ' :: written).length ≤ maxChars := by simp; omega
                      rw [if_neg last,ih _ false longer (by simp)]
                      simp
              | false =>
                  rw [if_neg Bool.false_ne_true,if_neg Bool.false_ne_true]
                  by_cases full : maxChars ≤ written.length
                  · rw [if_pos full,taken_whole room _ full]
                  · have longer : (ch :: written).length ≤ maxChars := by simp; omega
                    rw [if_neg full,ih _ false longer (by simp)]
                    simp

theorem normalizeOperatorText_words (value : String) (maxChars : Nat) :
    (normalizeOperatorText value maxChars).toList = (unwords ' ' (visibleWords value)).take maxChars := by
  unfold normalizeOperatorText visibleWords
  rw [normalizeChars_squeeze _ _ _ _ (Nat.zero_le _) (by simp),← squeeze_words]
  simp

theorem blank_parts {ch : Char} (visible : isBlank ch = false) : isControl ch = false ∧ isWhitespace ch = false := by
  simpa [isBlank] using visible

theorem joined_tidy (value : String) : Tidy isBlank ' ' (unwords ' ' (visibleWords value)) := by
  unfold visibleWords
  rw [← squeeze_words]
  exact squeeze_tidy _

theorem joined_visible (value : String) : ∀ ch ∈ unwords ' ' (visibleWords value),
    isControl ch = false ∧ isInvisibleFormatChar ch = false := by
  intro ch member
  unfold visibleWords at member
  rw [← squeeze_words] at member
  rcases squeeze_chars _ _ _ ch member with rfl | ⟨plain,inside⟩
  · decide
  · have shown := (List.mem_filter.mp inside).2
    exact ⟨(blank_parts plain).1,by simpa using shown⟩

theorem words_no_space (value : String) : ∀ word ∈ visibleWords value, ' ' ∉ word := by
  intro word member inside
  have plain := words_visible _ word member ' ' inside
  rw [space_blank] at plain
  cases plain

-- The last character that fits is a space exactly where a word would have begun behind it.
theorem cut_iff (value : String) (maxChars : Nat) :
    CutAtSpace value maxChars ↔ ∃ ch ∈ ((unwords ' ' (visibleWords value)).take maxChars).getLast?, isBlank ch = true := by
  rw [List.getLast?_take]
  constructor
  · rintro ⟨count,positive,below,rfl⟩
    have here := (unwords_space (words_no_space value) _).mpr ⟨count,positive,below,rfl⟩
    refine ⟨' ',?_,space_blank⟩
    rw [if_neg (Nat.succ_ne_zero _),Nat.add_sub_cancel,here]
    rfl
  · rintro ⟨ch,last,blank⟩
    cases maxChars with
    | zero => simp at last
    | succ most =>
        rw [if_neg (Nat.succ_ne_zero most),Nat.add_sub_cancel] at last
        cases found : (unwords ' ' (visibleWords value))[most]? with
        | none =>
            rw [found] at last
            have plain := (joined_tidy value).trailing ch last
            rw [plain] at blank
            cases blank
        | some here =>
            rw [found] at last
            obtain rfl := Option.some.inj last
            have space := (joined_tidy value).spaces here (List.mem_of_getElem? found) blank
            rw [space] at found
            obtain ⟨count,positive,below,length⟩ := (unwords_space (words_no_space value) most).mp found
            exact ⟨count,positive,below,by rw [length]⟩

section Normal
variable {value : String} {maxChars : Nat}

theorem normal_visible : ∀ ch ∈ (normalizeOperatorText value maxChars).toList,
    isControl ch = false ∧ isInvisibleFormatChar ch = false := by
  intro ch member
  rw [normalizeOperatorText_words] at member
  exact joined_visible value ch (List.mem_of_mem_take member)

theorem normal_trailing : (∀ ch ∈ (normalizeOperatorText value maxChars).toList.getLast?, isWhitespace ch = false) ↔
    ¬CutAtSpace value maxChars := by
  rw [cut_iff,← normalizeOperatorText_words]
  constructor
  · rintro plain ⟨ch,last,blank⟩
    have visible := normal_visible ch (List.mem_of_getLast? last)
    rw [isBlank,visible.1,plain ch last] at blank
    cases blank
  · intro uncut ch last
    cases kind : isBlank ch with
    | true => exact (uncut ⟨ch,last,kind⟩).elim
    | false => exact (blank_parts kind).2

theorem normal_tidy (uncut : ¬CutAtSpace value maxChars) :
    Tidy isBlank ' ' (normalizeOperatorText value maxChars).toList := by
  rw [normalizeOperatorText_words]
  refine (joined_tidy value).take maxChars fun ch last => ?_
  rw [cut_iff] at uncut
  cases kind : isBlank ch with
  | true => exact (uncut ⟨ch,last,kind⟩).elim
  | false => rfl

theorem normal_short : (normalizeOperatorText value maxChars).length ≤ maxChars := by
  rw [← String.length_toList,normalizeOperatorText_words,List.length_take]
  exact Nat.min_le_left _ _

theorem normal_leading : ∀ ch ∈ (normalizeOperatorText value maxChars).toList.head?, isWhitespace ch = false := by
  intro ch first
  rw [normalizeOperatorText_words] at first
  cases maxChars with
  | zero => simp at first
  | succ most =>
      rw [List.head?_take,if_neg (Nat.succ_ne_zero most)] at first
      exact (blank_parts ((joined_tidy value).leading ch first)).2

theorem normal_single : (normalizeOperatorText value maxChars).toList.IsChain
    fun one other => isWhitespace one = true → isWhitespace other = false := by
  rw [normalizeOperatorText_words]
  refine ((joined_tidy value).single.take maxChars).imp fun one other alone wide => ?_
  have blank : isBlank one = true := by simp [isBlank,wide]
  exact (blank_parts (alone blank)).2

theorem normal_again (uncut : ¬CutAtSpace value maxChars) :
    normalizeOperatorText (normalizeOperatorText value maxChars) maxChars = normalizeOperatorText value maxChars := by
  have visible : (normalizeOperatorText value maxChars).toList.filter (fun ch => !isInvisibleFormatChar ch) =
      (normalizeOperatorText value maxChars).toList := by
    rw [List.filter_eq_self]
    intro ch member
    simp [(normal_visible ch member).2]
  have kept := (normal_tidy uncut).kept
  rw [← String.toList_inj,normalizeOperatorText_words]
  unfold visibleWords
  rw [visible,← squeeze_words,kept,List.take_of_length_le]
  exact normal_short

-- What is normalised is as labels should be, unless the limit falls right behind a space.
theorem normalised_iff : Normalised maxChars (normalizeOperatorText value maxChars) ↔ ¬CutAtSpace value maxChars := by
  constructor
  · intro normalised
    exact normal_trailing.mp normalised.trailing
  · intro uncut
    exact ⟨normal_short,normal_leading,normal_trailing.mpr uncut,normal_single,normal_visible,normal_again uncut⟩

end Normal

-- The text that a label is made of.
def labelSource (value : Option String) (fallback : String) : String :=
  match value with
  | some text => if visibleWords text = [] then fallback else text
  | none => fallback

theorem normal_empty (text : String) (maxChars : Nat) :
    normalizeOperatorText text maxChars = "" ↔ maxChars = 0 ∨ visibleWords text = [] := by
  have filled : ∀ word ∈ visibleWords text, word ≠ [] := fun word member => words_filled member
  rw [← String.toList_inj,normalizeOperatorText_words,String.toList_empty,List.take_eq_nil_iff,unwords_empty filled]

theorem cleanLabel_source (value : Option String) (fallback : String) (maxChars : Nat) :
    cleanLabel value fallback maxChars = normalizeOperatorText (labelSource value fallback) maxChars := by
  cases value with
  | none => rfl
  | some text =>
      unfold cleanLabel labelSource
      by_cases wordless : visibleWords text = []
      · have empty := (normal_empty text maxChars).mpr (.inr wordless)
        simp only [if_pos wordless]
        simp [empty]
      · simp only [if_neg wordless]
        by_cases none_fit : maxChars = 0
        · have empty := (normal_empty text maxChars).mpr (.inl none_fit)
          have fallen := (normal_empty fallback maxChars).mpr (.inl none_fit)
          simp [empty,fallen]
        · have filled : normalizeOperatorText text maxChars ≠ "" := by
            rw [Ne,normal_empty]
            exact not_or.mpr ⟨none_fit,wordless⟩
          simp [filled]

theorem cleanOptionalText_some {value : Option String} {maxChars : Nat} {cleaned : String}
    (found : cleanOptionalText value maxChars = some cleaned) :
    ∃ text, value = some text ∧ cleaned = normalizeOperatorText text maxChars ∧ cleaned ≠ "" := by
  cases value with
  | none => cases found
  | some text =>
      unfold cleanOptionalText at found
      simp only [Option.bind_some] at found
      split at found
      · cases found
      · rename_i filled
        obtain rfl := Option.some.inj found
        refine ⟨text,rfl,?_,by simpa using filled⟩
        rw [cleanLabel_source] at filled ⊢
        by_cases wordless : visibleWords text = []
        · have source : labelSource (some text) "" = "" := if_pos wordless
          have empty := (normal_empty "" maxChars).mpr (.inr (by decide))
          rw [source,empty] at filled
          exact (filled rfl).elim
        · have source : labelSource (some text) "" = text := if_neg wordless
          rw [source]

theorem trim_kept {text : String} (leading : ∀ ch ∈ text.toList.head?, isWhitespace ch = false)
    (trailing : ∀ ch ∈ text.toList.getLast?, isWhitespace ch = false) : trim text = text := by
  have front : text.toList.dropWhile isWhitespace = text.toList := by
    cases chars : text.toList with
    | nil => rfl
    | cons ch rest =>
        rw [chars] at leading
        rw [List.dropWhile_cons_of_neg (by simp [leading ch rfl])]
  have back : text.toList.reverse.dropWhile isWhitespace = text.toList.reverse := by
    rw [← List.head?_reverse] at trailing
    cases chars : text.toList.reverse with
    | nil => rfl
    | cons ch rest =>
        rw [chars] at trailing
        rw [List.dropWhile_cons_of_neg (by simp [trailing ch rfl])]
  unfold trim
  rw [front,back,List.reverse_reverse,String.ofList_toList]

theorem trim_trailing {text : String} (kept : trim text = text) : ∀ ch ∈ text.toList.getLast?, isWhitespace ch = false := by
  intro ch last
  rw [← kept] at last
  unfold trim at last
  rw [String.toList_ofList,List.getLast?_reverse] at last
  have head := List.head?_dropWhile_not isWhitespace (text.toList.dropWhile isWhitespace).reverse
  rw [Option.mem_def.mp last] at head
  exact head

-- The database's check of a normalised text is the check of its last character.
theorem validate_normal {text : String} (filled : normalizeOperatorText text 120 ≠ "") :
    validateIntegrationTaskExternalId (normalizeOperatorText text 120) = .ok () ↔ ¬CutAtSpace text 120 := by
  have short : ¬integrationTaskExternalIdMaxChars < (normalizeOperatorText text 120).length := Nat.not_lt.mpr normal_short
  unfold validateIntegrationTaskExternalId validateIntegrationTaskCleanText
  rw [if_neg (by simpa using filled)]
  simp only [if_neg short]
  constructor
  · intro passes
    split at passes
    · cases passes
    · rename_i kept
      exact normal_trailing.mp (trim_trailing (Decidable.not_not.mp kept))
  · intro uncut
    have kept := trim_kept normal_leading (normal_trailing.mpr uncut)
    rw [if_neg (Decidable.not_not.mpr kept)]
    refine forM_all fun ch member => ?_
    obtain ⟨control,invisible⟩ := normal_visible ch member
    have space : isWhitespace ch = true → ch = ' ' := by
      intro wide
      exact (normal_tidy uncut).spaces ch member (by simp [isBlank,wide])
    unfold validateIntegrationTaskChar
    rw [if_neg (by simp [invisible]),if_neg (by simp [control]),if_neg,if_neg (by simp)]
    intro wide
    obtain ⟨wide,other⟩ := Bool.and_eq_true_iff.mp wide
    exact (of_decide_eq_true other) (space wide)

-- Every text that is normalised is as labels should be, and every cleaned identifier passes
-- the check of the database, but for the texts whose limit falls right behind a space.
theorem labels_normalised_unless_cut (maxChars : Nat) :
    (∀ value, Normalised maxChars (normalizeOperatorText value maxChars) ↔ ¬CutAtSpace value maxChars) ∧
    (∀ value fallback, Normalised maxChars (cleanLabel value fallback maxChars) ↔
      ¬CutAtSpace (labelSource value fallback) maxChars) ∧
    ∀ value cleaned, cleanOptionalText value 120 = some cleaned →
      (validateIntegrationTaskExternalId cleaned = .ok () ↔ ∀ text ∈ value, ¬CutAtSpace text 120) := by
  refine ⟨fun value => normalised_iff,fun value fallback => ?_,fun value cleaned found => ?_⟩
  · rw [cleanLabel_source]
    exact normalised_iff
  · obtain ⟨text,rfl,rfl,filled⟩ := cleanOptionalText_some found
    rw [validate_normal filled]
    simp

-- The limit falls behind the space: it stays at the end, a second normalisation takes it
-- away, and the database refuses such an identifier.
def cutIdentifier : String := String.ofList (List.replicate 119 'a' ++ [' ','b'])

theorem cut_text_keeps_its_space :
    normalizeOperatorText "ab c" 3 = "ab " ∧ normalizeOperatorText "ab " 3 = "ab" ∧
      ∃ cleaned, cleanOptionalText (some cutIdentifier) 120 = some cleaned ∧
        validateIntegrationTaskExternalId cleaned = .error "external_task_id must not have leading or trailing whitespace" := by
  refine ⟨by decide +kernel,by decide +kernel,String.ofList (List.replicate 119 'a' ++ [' ']),?_,?_⟩ <;> decide +kernel

theorem plain_identifier_passes : ∃ cleaned, cleanOptionalText (some "job 7") 120 = some cleaned ∧
    (validateIntegrationTaskExternalId cleaned = .ok () ↔ ∀ text ∈ some "job 7", ¬CutAtSpace text 120) ∧
    ¬CutAtSpace "job 7" 120 := by
  refine ⟨"job 7",by decide +kernel,(labels_normalised_unless_cut 120).2.2 _ _ (by decide +kernel),?_⟩
  rintro ⟨count,positive,below,length⟩
  have shown : visibleWords "job 7" = [['j','o','b'],['7']] := by decide
  rw [shown] at below length
  have one : count = 1 := by
    rw [List.length_cons,List.length_singleton] at below
    omega
  subst one
  revert length
  decide

end ReactorOS
