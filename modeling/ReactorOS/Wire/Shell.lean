import ReactorOS.Wire.Fields
import ReactorOS.Wire.Json
import ReactorOS.Wire.Search
namespace Wire

-- What `$(..)` keeps of the output of a command.
def captured (output : String) : String := String.ofList (output.toList.reverse.dropWhile (· == '\n')).reverse

-- `${text##*mark}`: the longest prefix that ends with the mark is left out.
def withoutPrefix (mark text : String) : String :=
  match lastIndexOf mark.toList text.toList with
  | some place => String.ofList (text.toList.drop (place+mark.length))
  | none => text

-- The blanks of the default IFS.
def fieldBlank (ch : Char) : Bool := ch == ' ' || ch == '\t' || ch == '\n'

-- The words of an expansion that stands outside of quotes.
def fieldWords (text : String) : List String :=
  ((text.toList.splitOnP fieldBlank).filter fun word => !word.isEmpty).map String.ofList

-- The parameter of a number from 1 on, or nothing.
def positional (args : List String) (place : Nat) : String := if place = 0 then "" else args.getD (place-1) ""

-- A word in double quotes. Without braces a parameter has one digit, and the next belongs to the text.
def expandQuoted (args : List String) : List Char → List Char
  | [] => []
  | [ch] => [ch]
  | ch :: digit :: rest =>
      if ch = '$' ∧ digit.isDigit then (positional args (digit.toNat - '0'.toNat)).toList ++ expandQuoted args rest
      else ch :: expandQuoted args (digit :: rest)

-- `[[ $text =~ ^[0-9]+$ ]]`
def digits (text : String) : Bool := !text.isEmpty && text.toList.all Char.isDigit

-- The second field, at `=`, of the first line whose first one is the key.
def lineValue (key text : String) : Option String :=
  ((split '\n' text).map (split '=')).find? (fun fields => fields.headD "" == key) |>.map fun fields => fields.getD 1 ""

variable {blank : Char → Bool} {separator : Char} {parts : List String}

theorem captured_line {line : String} (last : ∀ ch ∈ line.toList.getLast?, ch ≠ '\n') : captured (line ++ "\n") = line := by
  have front : line.toList.reverse.dropWhile (· == '\n') = line.toList.reverse := by
    cases reversed : line.toList.reverse with
    | nil => rfl
    | cons ch rest =>
        have ending : line.toList.getLast? = some ch := by
          rw [← List.head?_reverse,reversed]
          rfl
        have apart := last ch ending
        rw [List.dropWhile_cons_of_neg (by simpa using apart)]
  rw [captured,String.toList_append,List.reverse_append]
  change String.ofList ((List.dropWhile (· == '\n') ('\n' :: line.toList.reverse))).reverse = line
  rw [List.dropWhile_cons_of_pos (by rfl),front,List.reverse_reverse,String.ofList_toList]

theorem withoutPrefix_last {mark : Char} {rest front back : String} (absent : mark ∉ rest.toList ++ back.toList) :
    withoutPrefix (String.singleton mark ++ rest) (front ++ (String.singleton mark ++ rest) ++ back) = back := by
  have last : lastIndexOf (mark :: rest.toList) (front.toList ++ mark :: (rest.toList ++ back.toList)) = some front.toList.length :=
    lastIndexOf_last absent
  have whole : (front ++ (String.singleton mark ++ rest) ++ back).toList = front.toList ++ mark :: (rest.toList ++ back.toList) := by
    simp
  have needle : (String.singleton mark ++ rest).toList = mark :: rest.toList := by simp
  unfold withoutPrefix
  rw [needle,whole,last]
  have front' : front.toList ++ mark :: (rest.toList ++ back.toList) = (front.toList ++ mark :: rest.toList) ++ back.toList := by simp
  have width : front.toList.length+(String.singleton mark ++ rest).length = (front.toList ++ mark :: rest.toList).length := by
    rw [← String.length_toList,needle,List.length_append]
  simp only
  rw [front',width,List.drop_left,String.ofList_toList]

-- Fields that are joined by a blank are read back as they were.
theorem fieldWords_join (blank : fieldBlank separator) (whole : ∀ part ∈ parts, part ≠ "" ∧ ∀ ch ∈ part.toList, fieldBlank ch = false) :
    fieldWords (join separator parts) = parts := by
  have kept : ∀ part ∈ parts, (!part.toList.isEmpty) = true := by
    intro part member
    simpa using (whole part member).1
  have pieces : parts ≠ [] → (join separator parts).toList.splitOnP fieldBlank = parts.map String.toList := by
    intro nonempty
    unfold join
    rw [String.toList_ofList]
    clear kept
    induction parts with
    | nil => exact absurd rfl nonempty
    | cons part parts ih =>
        have first := (whole part List.mem_cons_self).2
        cases parts with
        | nil => simpa using List.splitOnP_eq_singleton first
        | cons next parts =>
            have later := ih (fun other member => whole other (List.mem_cons_of_mem part member)) (by simp)
            rw [List.map_cons] at later
            rw [List.map_cons,List.map_cons,List.intercalate_cons_cons,List.append_assoc,List.singleton_append,
              List.splitOnP_append_cons_of_forall_mem first _ blank,later]
  cases parts with
  | nil => rfl
  | cons part rest =>
      have every : ∀ word ∈ (part :: rest).map String.toList, (!word.isEmpty) = true := by
        intro word member
        obtain ⟨original,listed,rfl⟩ := List.mem_map.mp member
        exact kept original listed
      unfold fieldWords
      rw [pieces (by simp),List.filter_eq_self.mpr every,List.map_map]
      simp

theorem digits_iff {text : String} : digits text = true ↔ text ≠ "" ∧ ∀ ch ∈ text.toList, ch.isDigit = true := by
  unfold digits
  rw [Bool.and_eq_true,Bool.not_eq_true',← Bool.not_eq_true,String.isEmpty_iff,List.all_eq_true]

theorem digits_nat (number : Nat) : digits (toString number) = true := digits_iff.mpr ⟨repr_ne_empty number,repr_digits number⟩

end Wire
