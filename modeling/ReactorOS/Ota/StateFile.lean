import ReactorOS.Wire.Shell
import Mathlib.Data.List.Find
import ReactorOS.Wire.Substitution
namespace ReactorOS.Ota
open Wire

-- What `write_ota_state` is called with, and the time it writes down.
structure OtaState where
  status : String
  slot : String := ""
  reason : String := ""
  package : String := ""
  fromVersion : String := ""
  toVersion : String := ""
  fromGit : String := ""
  toGit : String := ""
  updatedAt : String := ""
  deriving DecidableEq

def OtaState.fields (state : OtaState) : List (String × String) :=
  [("status",state.status),("slot",state.slot),("reason",state.reason),("package",state.package),
    ("from_version",state.fromVersion),("to_version",state.toVersion),("from_git",state.fromGit),("to_git",state.toGit)]

def jsonEscape (input : String) : String :=
  let input := substituted '\\' ['\\','\\'] input.toList
  let input := substituted '"' ['\\','"'] input
  let input := substituted '\n' [' '] input
  String.ofList (substituted '\r' [' '] input)

def fieldLine (key value : String) : String := "  \"" ++ key ++ "\": \"" ++ captured (jsonEscape value) ++ "\""

def stateLines (state : OtaState) : List String :=
  "\x7b" :: state.fields.map (fun field => fieldLine field.1 field.2 ++ ",") ++
    ["  \"updated_at\": \"" ++ state.updatedAt ++ "\"","\x7d",""]

def stateText (state : OtaState) : String := join '\n' (stateLines state)

-- The class [[:space:]].
def posixSpace (ch : Char) : Bool := ch == ' ' || (0x09 ≤ ch.val && ch.val ≤ 0x0D)

-- `sub(/^[^:]*:[[:space:]]*"/, "")`
def withoutName (line : List Char) : List Char :=
  match line.dropWhile (· ≠ ':') with
  | [] => line
  | _ :: rest => match rest.dropWhile posixSpace with
    | '"' :: value => value
    | _ => line

-- `sub(/",[[:space:]]*$/, "")`
def withoutComma (line : List Char) : List Char :=
  match line.reverse.dropWhile posixSpace with
  | ',' :: '"' :: rest => rest.reverse
  | _ => line

-- `sub(/"$/, "")`
def withoutQuote (line : List Char) : List Char :=
  match line.reverse with
  | '"' :: rest => rest.reverse
  | _ => line

def fieldValue (line : List Char) : List Char :=
  collapsed '\\' '\\' '\\' (collapsed '\\' '"' '"' (withoutQuote (withoutComma (withoutName line))))

def quoted (key : String) : List Char := '"' :: key.toList ++ ['"']

-- Its output as `$(..)` takes it over: the value in the first line that has the key in quotes.
def jsonStateValue (key file : String) : String :=
  match (split '\n' file).find? fun line => (indexOf (quoted key) line.toList).isSome with
  | some line => captured (String.ofList (fieldValue line.toList) ++ "\n")
  | none => ""

-- The text that comes into the file: on one line.
def flat (value : String) : List Char := value.toList.map fun ch => if ch = '\n' ∨ ch = '\r' then ' ' else ch

-- What is read of it: of a quote at its end only the mark is left.
def readBack (value : String) : String :=
  if (flat value).getLast? = some '"' then String.ofList ((flat value).dropLast ++ ['\\']) else String.ofList (flat value)

-- A text that ends with a key, behind a quote or from its start, is taken for the key.
def Echoes (key value : String) : Prop := flat value = key.toList ∨ '"' :: key.toList <:+ flat value

instance (key value : String) : Decidable (Echoes key value) := inferInstanceAs (Decidable (_ ∨ _))

def escaped (value : List Char) : List Char := substituted '"' ['\\','"'] (substituted '\\' ['\\','\\'] value)

section Escape
variable {value : String} {text : List Char}

theorem escaped_append (text more : List Char) : escaped (text ++ more) = escaped text ++ escaped more := by
  unfold escaped
  rw [substituted_append,substituted_append]

theorem escaped_single (ch : Char) (plain : ch ≠ '"' ∧ ch ≠ '\\') : escaped [ch] = [ch] := by
  unfold escaped
  rw [@substituted_absent '\\' [ch] _ (by simpa using plain.2.symm),substituted_absent _ (by simpa using plain.1.symm)]

theorem escaped_cons (ch : Char) (text : List Char) : escaped (ch :: text) = escaped [ch] ++ escaped text :=
  escaped_append [ch] text

theorem escaped_plain (plain : ∀ ch ∈ text, ch ≠ '"' ∧ ch ≠ '\\') : escaped text = text := by
  induction text with
  | nil => rfl
  | cons ch text ih =>
      obtain ⟨here,rest⟩ := List.forall_mem_cons.mp plain
      rw [escaped_cons,escaped_single ch here,ih rest,List.singleton_append]

-- The two runs of `gsub` undo the two substitutions.
theorem unescape_escaped (text tail : List Char) (ends : ∀ next ∈ tail.head?, next ≠ '"') :
    collapsed '\\' '\\' '\\' (collapsed '\\' '"' '"' (escaped text ++ tail)) =
      text ++ collapsed '\\' '\\' '\\' (collapsed '\\' '"' '"' tail) := by
  rw [escaped,collapsed_marked (by decide) _ ends,collapsed_doubled]

theorem escaped_injective {one other : List Char} (same : escaped one = escaped other) : one = other := by
  have back : ∀ text, collapsed '\\' '\\' '\\' (collapsed '\\' '"' '"' (escaped text)) = text := fun text => by
    simpa [collapsed] using unescape_escaped text [] (by simp)
  rw [← back one,same,back]

theorem mem_escaped {ch : Char} (member : ch ∈ escaped text) : ch ∈ text ∨ ch = '\\' ∨ ch = '"' := by
  rcases mem_substituted member with ⟨inside,_⟩ | mark
  · rcases mem_substituted inside with ⟨original,_⟩ | mark
    · exact .inl original
    · simp at mark
      exact .inr (.inl mark)
  · simp at mark
    exact .inr mark

-- The line breaks are exchanged before as well as after the marks are set.
theorem jsonEscape_flat (value : String) : jsonEscape value = String.ofList (escaped (flat value)) := by
  have each : ∀ text : List Char, substituted '\r' [' '] (substituted '\n' [' '] (escaped text)) =
      escaped (text.map fun ch => if ch = '\n' ∨ ch = '\r' then ' ' else ch) := by
    intro text
    induction text with
    | nil => rfl
    | cons ch text ih =>
        change substituted _ _ (substituted _ _ (escaped ([ch] ++ text))) = escaped (([ch] ++ text).map _)
        rw [escaped_append,substituted_append,substituted_append,ih,List.map_append,escaped_append]
        congr 1
        by_cases broken : ch = '\n' ∨ ch = '\r'
        · rcases broken with rfl | rfl <;> decide
        · have other : substituted '\r' [' '] (substituted '\n' [' '] (escaped [ch])) = escaped [ch] := by
            have free : ∀ mark, mark ≠ '\\' → mark ≠ '"' → ch ≠ mark → mark ∉ escaped [ch] := by
              intro mark one two apart member
              rcases mem_escaped member with inside | rfl | rfl
              · exact apart (List.mem_singleton.mp inside).symm
              · exact one rfl
              · exact two rfl
            rw [substituted_absent _ (free '\n' (by decide) (by decide) fun same => broken (.inl same)),
              substituted_absent _ (free '\r' (by decide) (by decide) fun same => broken (.inr same))]
          simpa [broken] using other
  unfold jsonEscape flat
  rw [← each]
  rfl

theorem flat_line (value : String) : '\n' ∉ flat value := by
  intro member
  obtain ⟨ch,_,same⟩ := List.mem_map.mp member
  split at same
  · exact absurd same (by decide)
  · rename_i other
    exact other (.inl same)

theorem escaped_line (value : String) : '\n' ∉ escaped (flat value) := by
  intro member
  rcases mem_escaped member with inside | mark | mark
  · exact flat_line value inside
  · exact absurd mark (by decide)
  · exact absurd mark (by decide)

theorem captured_whole {text : String} (last : ∀ ch ∈ text.toList.getLast?, ch ≠ '\n') : captured text = text := by
  unfold captured
  cases reversed : text.toList.reverse with
  | nil =>
      have empty : text.toList = [] := List.reverse_eq_nil_iff.mp reversed
      rw [List.dropWhile_nil,List.reverse_nil,← empty,String.ofList_toList]
  | cons ch rest =>
      have ending : text.toList.getLast? = some ch := by
        rw [← List.head?_reverse,reversed]
        rfl
      rw [List.dropWhile_cons_of_neg (by simpa using last ch ending),← reversed,List.reverse_reverse,String.ofList_toList]

theorem fieldLine_chars (key value : String) :
    (fieldLine key value ++ ",").toList =
      (' ' :: ' ' :: quoted key) ++ ':' :: (' ' :: '"' :: (escaped (flat value) ++ ['"',','])) := by
  have kept : captured (jsonEscape value) = String.ofList (escaped (flat value)) := by
    rw [jsonEscape_flat]
    refine captured_whole fun ch last => ?_
    rw [String.toList_ofList] at last
    rintro rfl
    exact escaped_line value (List.mem_of_getLast? last)
  unfold fieldLine quoted
  rw [kept]
  simp

-- Every quote in an escaped text has its mark right in front of it.
theorem escaped_quotes {front back : List Char} (cut : escaped text = front ++ '"' :: back) : ∃ before, front = before ++ ['\\'] := by
  have each : ∀ text front : List Char, substituted '"' ['\\','"'] text = front ++ '"' :: back →
      ∃ before, front = before ++ ['\\'] := by
    intro text
    induction text with
    | nil =>
        intro front cut
        simp [substituted] at cut
    | cons ch text ih =>
        intro front cut
        by_cases quote : ch = '"'
        · subst quote
          rw [substituted_mark,List.cons_append,List.singleton_append] at cut
          cases front with
          | nil => simp at cut
          | cons one front =>
              rw [List.cons_append,List.cons.injEq] at cut
              obtain ⟨rfl,cut⟩ := cut
              cases front with
              | nil => exact ⟨[],rfl⟩
              | cons two front =>
                  rw [List.cons_append,List.cons.injEq] at cut
                  obtain ⟨rfl,cut⟩ := cut
                  obtain ⟨before,rfl⟩ := ih front cut
                  exact ⟨'\\' :: '"' :: before,rfl⟩
        · rw [substituted_other quote] at cut
          cases front with
          | nil => exact absurd (List.cons.inj cut).1 quote
          | cons one front =>
              rw [List.cons_append,List.cons.injEq] at cut
              obtain ⟨rfl,cut⟩ := cut
              obtain ⟨before,rfl⟩ := ih front cut
              exact ⟨ch :: before,rfl⟩
  exact each _ _ cut

end Escape

section Lookup
variable {key name : String} {value : String}

-- The letters of a key.
def Keyed (key : String) : Prop := key ≠ "" ∧ ∀ ch ∈ key.toList, ch ≠ '"' ∧ ch ≠ '\\' ∧ ch ≠ ':'

theorem infix_split {needle front back : List Char} {mark : Char} (whole : mark ∉ needle) (nonempty : needle ≠ []) :
    needle <:+: front ++ mark :: back ↔ needle <:+: front ∨ needle <:+: back := by
  rw [← not_iff_not,not_or,← indexOf_none,← indexOf_none,← indexOf_none,indexOf_split whole nonempty,Option.or_eq_none_iff,
    Option.map_eq_none_iff]

theorem quoted_whole (keyed : Keyed key) : ':' ∉ quoted key := by
  unfold quoted
  intro member
  simp only [List.cons_append,List.mem_cons,List.mem_append,List.not_mem_nil,or_false] at member
  rcases member with mark | inside | mark
  · exact absurd mark (by decide)
  · exact (keyed.2 _ inside).2.2 rfl
  · exact absurd mark (by decide)

theorem unquoted (keyed : Keyed key) : '"' ∉ key.toList := fun member => (keyed.2 _ member).1 rfl

theorem quoted_name (keyed : Keyed key) (named : Keyed name) : quoted key <:+: ' ' :: ' ' :: quoted name ↔ name = key := by
  constructor
  · rintro ⟨front,back,cut⟩
    have shape : front ++ '"' :: (key.toList ++ '"' :: back) = [' ',' '] ++ '"' :: (name.toList ++ '"' :: []) := by
      simpa [quoted] using cut
    -- Two quotes on the right, so the needle takes both.
    have clear : '"' ∉ front := by
      have quotes := congrArg (List.count '"') shape
      simp only [List.count_append,List.count_cons_self,List.count_eq_zero_of_not_mem (unquoted keyed),
        List.count_eq_zero_of_not_mem (unquoted named)] at quotes
      rw [← List.count_eq_zero]
      simp at quotes
      omega
    obtain ⟨_,rest⟩ := cut_first clear (by simp) shape
    exact (String.toList_injective (cut_first (unquoted keyed) (unquoted named) rest).1).symm
  · rintro rfl
    exact ⟨[' ',' '],[],by simp⟩

theorem plain_key (keyed : Keyed key) : ∀ ch ∈ key.toList, ch ≠ '"' ∧ ch ≠ '\\' :=
  fun ch member => ⟨(keyed.2 ch member).1,(keyed.2 ch member).2.1⟩

theorem escaped_key (keyed : Keyed key) {text : List Char} : escaped text = key.toList ↔ text = key.toList := by
  have plain := escaped_plain (plain_key keyed)
  constructor
  · intro same
    exact escaped_injective (same.trans plain.symm)
  · rintro rfl
    exact plain

theorem escaped_suffix (keyed : Keyed key) (text : List Char) : '"' :: key.toList <:+ escaped text ↔ '"' :: key.toList <:+ text := by
  constructor
  · rintro ⟨front,cut⟩
    induction text generalizing front with
    | nil => simp [escaped,substituted] at cut
    | cons ch text ih =>
        have later : ∀ more, more ++ '"' :: key.toList = escaped text → '"' :: key.toList <:+ ch :: text :=
          fun more cut => (ih more cut).trans (List.suffix_cons ch text)
        rw [escaped_cons] at cut
        by_cases quote : ch = '"'
        · subst quote
          have two : escaped ['"'] = ['\\','"'] := by decide
          rw [two] at cut
          rcases front with _ | ⟨_,_ | ⟨_,more⟩⟩
          · simp at cut
          · simp at cut
            rw [(escaped_key keyed).mp cut.2.symm]
          · simp at cut
            exact later more cut.2.2
        · by_cases mark : ch = '\\'
          · subst mark
            have two : escaped ['\\'] = ['\\','\\'] := by decide
            rw [two] at cut
            rcases front with _ | ⟨_,_ | ⟨_,more⟩⟩
            · simp at cut
            · simp at cut
            · simp at cut
              exact later more cut.2.2
          · rw [escaped_single ch ⟨quote,mark⟩] at cut
            cases front with
            | nil =>
                simp at cut
                exact absurd cut.1.symm quote
            | cons _ more =>
                simp at cut
                exact later more cut.2
  · rintro ⟨front,rfl⟩
    rw [escaped_append,escaped_cons,escaped_plain (plain_key keyed)]
    exact ⟨escaped front ++ ['\\'],by simp [(by decide : escaped ['"'] = ['\\','"'])]⟩

-- In the part of the value the closing quote of the needle is the one behind the value:
-- every other has its mark in front of it.
theorem quoted_value (keyed : Keyed key) : quoted key <:+: ' ' :: '"' :: (escaped (flat value) ++ ['"',',']) ↔ Echoes key value := by
  unfold Echoes
  rw [← escaped_key keyed,← escaped_suffix keyed]
  have unmarked : ∀ front before, front ++ key.toList ≠ before ++ ['\\'] := by
    intro front before same
    have filled : key.toList ≠ [] := fun empty => keyed.1 (String.toList_eq_nil_iff.mp empty)
    have last := congrArg List.getLast? same
    rw [List.getLast?_append_of_ne_nil _ filled,List.getLast?_append_of_ne_nil _ (by simp),List.getLast?_singleton] at last
    exact (keyed.2 _ (List.mem_of_getLast? last)).2.1 rfl
  constructor
  · rintro ⟨front,back,cut⟩
    have shape : (front ++ '"' :: key.toList) ++ '"' :: back = (' ' :: '"' :: escaped (flat value)) ++ '"' :: [','] := by
      simpa [quoted] using cut
    have whole : front ++ '"' :: key.toList = ' ' :: '"' :: escaped (flat value) := by
      rcases List.append_eq_append_iff.mp shape with ⟨more,longer,tail⟩ | ⟨more,longer,tail⟩
      · cases more with
        | nil => simpa using longer.symm
        | cons ch more =>
            obtain ⟨rfl,_⟩ := List.cons.inj tail
            rcases front with _ | ⟨_,_ | ⟨_,front⟩⟩
            · simp at longer
            · simp at longer
              obtain ⟨before,same⟩ := escaped_quotes longer.2
              exact absurd same (unmarked [] before)
            · simp at longer
              have inside : escaped (flat value) = (front ++ '"' :: key.toList) ++ '"' :: more := by simp [longer.2.2]
              obtain ⟨before,same⟩ := escaped_quotes inside
              exact absurd (by simpa using same) (unmarked (front ++ ['"']) before)
      · cases more with
        | nil => simpa using longer
        | cons ch more =>
            obtain ⟨_,rest⟩ := List.cons.inj tail
            have listed : '"' ∈ [','] := rest ▸ by simp
            simp at listed
    rcases front with _ | ⟨_,_ | ⟨_,more⟩⟩
    · simp at whole
    · simp at whole
      exact .inl whole.2.symm
    · simp at whole
      exact .inr ⟨more,whole.2.2⟩
  · rintro (same | ⟨front,same⟩)
    · exact ⟨[' '],[','],by simp [quoted,same]⟩
    · exact ⟨' ' :: '"' :: front,[','],by simp [quoted,← same]⟩

-- A line of a field is found by its key, and by every key that its value is taken for.
theorem fieldLine_found (keyed : Keyed key) (named : Keyed name) :
    (indexOf (quoted key) (fieldLine name value ++ ",").toList).isSome = true ↔ name = key ∨ Echoes key value := by
  have found : ∀ text, (indexOf (quoted key) text).isSome = true ↔ quoted key <:+: text := by
    intro text
    rw [Option.isSome_iff_ne_none,ne_eq,indexOf_none,not_not]
  rw [found,fieldLine_chars,infix_split (quoted_whole keyed) (by simp [quoted]),quoted_name keyed named,quoted_value keyed]

theorem fieldValue_line (named : Keyed name) : fieldValue (fieldLine name value ++ ",").toList = (readBack value).toList := by
  have front : ∀ ch ∈ ' ' :: ' ' :: quoted name, decide (ch ≠ ':') = true := by
    intro ch member
    rcases List.mem_cons.mp member with rfl | member
    · decide
    · rcases List.mem_cons.mp member with rfl | member
      · decide
      · exact decide_eq_true fun same => quoted_whole named (same ▸ member)
  have opened : withoutName (fieldLine name value ++ ",").toList = escaped (flat value) ++ ['"',','] := by
    unfold withoutName
    rw [fieldLine_chars,List.dropWhile_append_of_pos front]
    rfl
  have closed : withoutComma (escaped (flat value) ++ ['"',',']) = escaped (flat value) := by
    unfold withoutComma
    rw [List.reverse_append]
    change ((',' :: '"' :: (escaped (flat value)).reverse).dropWhile posixSpace).tail.tail.reverse = _
    rw [List.dropWhile_cons_of_neg (by decide)]
    simp
  unfold fieldValue readBack
  rw [opened,closed]
  rcases List.eq_nil_or_concat (flat value) with empty | ⟨init,last,whole⟩
  · rw [empty]
    rfl
  · rw [whole,List.concat_eq_append,List.getLast?_concat,List.dropLast_concat]
    by_cases quote : last = '"'
    · subst quote
      have cut : withoutQuote (escaped (init ++ ['"'])) = escaped init ++ ['\\'] := by
        rw [escaped_append,(by decide : escaped ['"'] = ['\\','"'])]
        unfold withoutQuote
        simp
      rw [cut,unescape_escaped init ['\\'] (by simp),if_pos rfl,String.toList_ofList]
      rfl
    · have kept : withoutQuote (escaped (init ++ [last])) = escaped (init ++ [last]) := by
        have ends : (escaped (init ++ [last])).getLast? = (escaped [last]).getLast? := by
          rw [escaped_append,List.getLast?_append_of_ne_nil]
          by_cases mark : last = '\\'
          · subst mark
            decide
          · simp [escaped_single last ⟨quote,mark⟩]
        have other : (escaped [last]).getLast? ≠ some '"' := by
          by_cases mark : last = '\\'
          · subst mark
            decide
          · simpa [escaped_single last ⟨quote,mark⟩] using quote
        unfold withoutQuote
        split
        · rename_i rest reversed
          rw [← ends,← List.head?_reverse,reversed] at other
          exact absurd rfl other
        · rfl
      have back := unescape_escaped (init ++ [last]) [] (by simp)
      rw [List.append_nil] at back
      rw [kept,back,if_neg (by simpa using quote),String.toList_ofList]
      simp [collapsed]

end Lookup

theorem fields_keyed (state : OtaState) : ∀ field ∈ state.fields, Keyed field.1 := by
  have keys : ∀ key ∈ ["status","slot","reason","package","from_version","to_version","from_git","to_git"], Keyed key := by
    simp only [List.forall_mem_cons]
    unfold Keyed
    refine ⟨?_,?_,?_,?_,?_,?_,?_,?_,?_⟩
    all_goals simp
  intro field member
  exact keys field.1 (List.mem_map_of_mem member : field.1 ∈ state.fields.map Prod.fst)

theorem readBack_line (value : String) : '\n' ∉ (readBack value).toList := by
  unfold readBack
  split
  · rw [String.toList_ofList]
    intro member
    rcases List.mem_append.mp member with inside | mark
    · exact flat_line value (List.mem_of_mem_dropLast inside)
    · simp at mark
  · rw [String.toList_ofList]
    exact flat_line value

theorem stateText_lines (state : OtaState) : ∃ rest, split '\n' (stateText state) =
    "\x7b" :: state.fields.map (fun field => fieldLine field.1 field.2 ++ ",") ++ rest := by
  have whole : ∀ line ∈ "\x7b" :: state.fields.map (fun field => fieldLine field.1 field.2 ++ ","), '\n' ∉ line.toList := by
    intro line member
    rcases List.mem_cons.mp member with rfl | member
    · decide
    · obtain ⟨field,listed,rfl⟩ := List.mem_map.mp member
      rw [fieldLine_chars]
      have letters : '\n' ∉ quoted field.1 := by
        have keys : ∀ key ∈ ["status","slot","reason","package","from_version","to_version","from_git","to_git"],
            '\n' ∉ quoted key := by decide
        exact keys field.1 (List.mem_map_of_mem listed : field.1 ∈ state.fields.map Prod.fst)
      simp [letters,escaped_line]
  refine ⟨split '\n' (join '\n' ["  \"updated_at\": \"" ++ state.updatedAt ++ "\"","\x7d",""]),?_⟩
  unfold stateText stateLines
  rw [join_append '\n' (by simp) (by simp),split_append,split_join whole (by simp)]

-- What is read back for a key: the text of the first field that has the key or is taken
-- for it, but for a quote at its end.
theorem state_file_read (state : OtaState) {key : String} (known : key ∈ state.fields.map Prod.fst) :
    ((state.fields.find? fun field => field.1 = key ∨ Echoes key field.2).map fun field => readBack field.2) =
      some (jsonStateValue key (stateText state)) := by
  obtain ⟨own,listed,rfl⟩ := List.mem_map.mp known
  have keyed := fields_keyed state own listed
  obtain ⟨rest,lines⟩ := stateText_lines state
  have each : ∀ field ∈ state.fields, (indexOf (quoted own.1) (fieldLine field.1 field.2 ++ ",").toList).isSome =
      decide (field.1 = own.1 ∨ Echoes own.1 field.2) := by
    intro field member
    rw [Bool.eq_iff_iff,decide_eq_true_eq]
    exact fieldLine_found keyed (fields_keyed state field member)
  have opening : (indexOf (quoted own.1) "\x7b".toList).isSome = false := by
    have keys : ∀ key ∈ ["status","slot","reason","package","from_version","to_version","from_git","to_git"],
        (indexOf (quoted key) "\x7b".toList).isSome = false := by decide
    exact keys own.1 known
  cases found : state.fields.find? fun field => decide (field.1 = own.1 ∨ Echoes own.1 field.2) with
  | none => exact absurd (List.find?_eq_none.mp found own listed) (by simp)
  | some field =>
      have hit : (state.fields.map fun field => fieldLine field.1 field.2 ++ ",").find?
          (fun line => (indexOf (quoted own.1) line.toList).isSome) = some (fieldLine field.1 field.2 ++ ",") := by
        rw [List.find?_map]
        have same : state.fields.find? ((fun line => (indexOf (quoted own.1) line.toList).isSome) ∘
            fun field => fieldLine field.1 field.2 ++ ",") =
            state.fields.find? fun field => decide (field.1 = own.1 ∨ Echoes own.1 field.2) := List.find?_congr each
        rw [same,found,Option.map_some]
      unfold jsonStateValue
      rw [lines,List.cons_append,List.find?_cons_of_neg (opening ▸ Bool.false_ne_true),List.find?_append,hit]
      simp only [Option.some_or,Option.map_some]
      rw [fieldValue_line (fields_keyed state field (List.mem_of_find?_eq_some found)),String.ofList_toList]
      rw [captured_line]
      rintro ch last rfl
      exact readBack_line field.2 (List.mem_of_getLast? last)

def quotedState : OtaState := {status := "failed",slot := "b",reason := "slot \"a\""}

-- The quote at the end of a reason is lost, and its mark is left.
theorem state_file_read_quoted : jsonStateValue "reason" (stateText quotedState) = "slot \"a\\" :=
  Option.some.inj ((state_file_read quotedState (by decide)).symm.trans (by decide +kernel))

end ReactorOS.Ota
