import Mathlib.Data.List.TakeWhile
import Mathlib.Data.String.Defs
namespace Wire

-- The values of a flat object. A number is given by its text.
inductive JsonValue where
  | null
  | number (text : String)
  | string (text : String)
  deriving DecidableEq

def hexDigits (code : Nat) : List Char := [Nat.digitChar (code/16),Nat.digitChar (code%16)]

def escapeChar (ch : Char) : List Char :=
  if ch = '"' then ['\\','"']
  else if ch = '\\' then ['\\','\\']
  else if ch = '\x08' then ['\\','b']
  else if ch = '\t' then ['\\','t']
  else if ch = '\n' then ['\\','n']
  else if ch = '\x0c' then ['\\','f']
  else if ch = '\r' then ['\\','r']
  else if ch.toNat < 32 then '\\' :: 'u' :: '0' :: '0' :: hexDigits ch.toNat
  else [ch]

def JsonValue.render : JsonValue → List Char
  | .null => ['n','u','l','l']
  | .number text => text.toList
  | .string text => '"' :: (text.toList.flatMap escapeChar ++ ['"'])

def renderMembers : List (String × JsonValue) → List Char
  | [] => ['\x7d']
  | (key,value) :: members => (JsonValue.string key).render ++ ':' :: value.render ++
      if members.isEmpty then ['\x7d'] else ',' :: renderMembers members

def renderObject (members : List (String × JsonValue)) : String := String.ofList ('\x7b' :: renderMembers members)

-- The text of a number consists of these.
def isNumeric (ch : Char) : Bool := ch.isDigit || ch = '+' || ch = '-' || ch = '.' || ch = 'e' || ch = 'E'

theorem repr_digits (number : Nat) : ∀ ch ∈ (Nat.repr number).toList, ch.isDigit = true := by
  intro ch member
  rw [Nat.repr_eq_ofList_toDigits,String.toList_ofList] at member
  exact Nat.isDigit_of_mem_toDigits (by decide) (by decide) member

theorem repr_back (number : Nat) : Nat.ofDigitChars 10 (Nat.repr number).toList 0 = number := by
  rw [Nat.repr_eq_ofList_toDigits,String.toList_ofList,Nat.ofDigitChars_ten_toDigits]

theorem nat_text_injective {one other : Nat} (same : toString one = toString other) : one = other := by
  have back := repr_back one
  rw [show Nat.repr one = Nat.repr other from same,repr_back] at back
  exact back.symm

theorem repr_ne_empty (number : Nat) : Nat.repr number ≠ "" := by
  rw [Ne,← String.toList_eq_nil_iff,Nat.repr_eq_ofList_toDigits,String.toList_ofList]
  exact Nat.toDigits_ne_nil

theorem int_text_ne_empty (value : Int) : toString value ≠ "" := by
  rw [Int.toString_eq_repr,Int.repr_eq_if]
  split
  · exact repr_ne_empty _
  · simp

theorem int_text_numeric (value : Int) : ∀ ch ∈ (toString value).toList, isNumeric ch = true := by
  intro ch member
  rw [Int.toString_eq_repr,Int.repr_eq_if] at member
  split at member
  · simp [isNumeric,repr_digits _ ch member]
  · rw [String.toList_append,List.mem_append] at member
    rcases member with sign | digits
    · simp at sign
      simp [isNumeric,sign]
    · simp [isNumeric,repr_digits _ ch digits]

def JsonValue.wellFormed : JsonValue → Prop
  | .number text => ∀ ch ∈ text.toList, isNumeric ch = true
  | _ => True

def hexValue (digit : Char) : Nat := if digit.isDigit then digit.toNat-48 else digit.toNat-87

-- Reads one character of a string literal back.
def unescape : List Char → Option (Char × List Char)
  | '\\' :: '"' :: rest => some ('"',rest)
  | '\\' :: '\\' :: rest => some ('\\',rest)
  | '\\' :: 'b' :: rest => some ('\x08',rest)
  | '\\' :: 't' :: rest => some ('\t',rest)
  | '\\' :: 'n' :: rest => some ('\n',rest)
  | '\\' :: 'f' :: rest => some ('\x0c',rest)
  | '\\' :: 'r' :: rest => some ('\r',rest)
  | '\\' :: 'u' :: '0' :: '0' :: high :: low :: rest => some (Char.ofNat (16*hexValue high+hexValue low),rest)
  | '"' :: _ => none
  | ch :: rest => some (ch,rest)
  | [] => none

theorem hexValue_digit {code : Nat} (small : code < 16) : hexValue (Nat.digitChar code) = code := by
  have all : ∀ code : Fin 16, hexValue (Nat.digitChar code) = code := by decide
  exact all ⟨code,small⟩

theorem unescape_escape (ch : Char) (rest : List Char) : unescape (escapeChar ch ++ rest) = some (ch,rest) := by
  unfold escapeChar
  split
  · rename_i same; subst same; rfl
  split
  · rename_i same; subst same; rfl
  split
  · rename_i same; subst same; rfl
  split
  · rename_i same; subst same; rfl
  split
  · rename_i same; subst same; rfl
  split
  · rename_i same; subst same; rfl
  split
  · rename_i same; subst same; rfl
  split
  · rename_i control
    have code : 16*hexValue (Nat.digitChar (ch.toNat/16))+hexValue (Nat.digitChar (ch.toNat%16)) = ch.toNat := by
      rw [hexValue_digit (by omega),hexValue_digit (by omega)]
      omega
    change some (Char.ofNat (16*hexValue (Nat.digitChar (ch.toNat/16))+hexValue (Nat.digitChar (ch.toNat%16))),rest) = _
    rw [code,Char.ofNat_toNat]
  · rename_i quote backslash _ _ _ _ _ _
    rw [List.singleton_append]
    unfold unescape
    split <;> simp_all

theorem escape_quote (ch : Char) (rest others : List Char) : escapeChar ch ++ rest ≠ '"' :: others := by
  intro same
  have read := unescape_escape ch rest
  rw [same] at read
  cases read

-- The closing quote of a literal is the first that is not escaped.
theorem string_cancel {one two rest others : List Char}
    (same : one.flatMap escapeChar ++ '"' :: rest = two.flatMap escapeChar ++ '"' :: others) : one = two ∧ rest = others := by
  induction one generalizing two with
  | nil =>
      cases two with
      | nil => exact ⟨rfl,(List.cons.inj same).2⟩
      | cons ch two =>
          rw [List.flatMap_cons,List.append_assoc] at same
          exact absurd same.symm (escape_quote ch _ _)
  | cons ch one ih =>
      rw [List.flatMap_cons,List.append_assoc] at same
      cases two with
      | nil => exact absurd same (escape_quote ch _ _)
      | cons other two =>
          rw [List.flatMap_cons,List.append_assoc] at same
          have read := congrArg unescape same
          rw [unescape_escape,unescape_escape] at read
          obtain ⟨rfl,further⟩ := Prod.mk.inj (Option.some.inj read)
          obtain ⟨rfl,rfl⟩ := ih further
          exact ⟨rfl,rfl⟩

-- What follows a value in an object.
def Delimited (rest : List Char) : Prop := ∃ ch others, rest = ch :: others ∧ (ch = ',' ∨ ch = '\x7d')

theorem Delimited.not_numeric {rest : List Char} (delimited : Delimited rest) :
    ∃ ch others, rest = ch :: others ∧ isNumeric ch = false := by
  obtain ⟨ch,others,rfl,rfl | rfl⟩ := delimited
  · exact ⟨_,_,rfl,by decide⟩
  · exact ⟨_,_,rfl,by decide⟩

theorem takeWhile_numeric {text rest : List Char} (numeric : ∀ ch ∈ text, isNumeric ch = true)
    (delimited : Delimited rest) : (text ++ rest).takeWhile isNumeric = text := by
  obtain ⟨ch,others,rfl,stop⟩ := delimited.not_numeric
  rw [List.takeWhile_append_of_pos numeric,List.takeWhile_cons,stop]
  simp

theorem number_cancel {one two rest others : List Char} (first : ∀ ch ∈ one, isNumeric ch = true)
    (second : ∀ ch ∈ two, isNumeric ch = true) (ends : Delimited rest) (ends' : Delimited others)
    (same : one ++ rest = two ++ others) : one = two ∧ rest = others := by
  have text : one = two := by
    rw [←takeWhile_numeric first ends,same,takeWhile_numeric second ends']
  subst text
  exact ⟨rfl,List.append_cancel_left same⟩

theorem number_not_literal {text rest others : List Char} {ch : Char} (numeric : ∀ ch ∈ text, isNumeric ch = true)
    (ends : Delimited rest) (other : isNumeric ch = false) (inside : ch ≠ ',' ∧ ch ≠ '\x7d') :
    text ++ rest ≠ ch :: others := by
  intro same
  cases text with
  | nil =>
      obtain ⟨front,tail,rfl,comma | brace⟩ := ends
      · exact inside.1 ((List.cons.inj same).1.symm.trans comma)
      · exact inside.2 ((List.cons.inj same).1.symm.trans brace)
  | cons front text =>
      have first := numeric front (by simp)
      rw [(List.cons.inj same).1,other] at first
      cases first

-- Two values are told apart by what is written of them.
theorem render_cancel {one two : JsonValue} {rest others : List Char} (first : one.wellFormed) (second : two.wellFormed)
    (ends : Delimited rest) (ends' : Delimited others) (same : one.render ++ rest = two.render ++ others) :
    one = two ∧ rest = others := by
  cases one with
  | null =>
      cases two with
      | null => exact ⟨rfl,List.append_cancel_left same⟩
      | number text => exact absurd same.symm (number_not_literal second ends' (by decide) ⟨by decide,by decide⟩)
      | string text => cases (List.cons.inj same).1
  | number text =>
      cases two with
      | null => exact absurd same (number_not_literal first ends (by decide) ⟨by decide,by decide⟩)
      | number other =>
          obtain ⟨texts,tails⟩ := number_cancel first second ends ends' same
          exact ⟨congrArg JsonValue.number (String.toList_inj.mp texts),tails⟩
      | string other => exact absurd same (number_not_literal first ends (by decide) ⟨by decide,by decide⟩)
  | string text =>
      cases two with
      | null => cases (List.cons.inj same).1
      | number other => exact absurd same.symm (number_not_literal second ends' (by decide) ⟨by decide,by decide⟩)
      | string other =>
          have inner : text.toList.flatMap escapeChar ++ '"' :: rest = other.toList.flatMap escapeChar ++ '"' :: others := by
            simpa [JsonValue.render] using same
          obtain ⟨texts,tails⟩ := string_cancel inner
          exact ⟨congrArg JsonValue.string (String.toList_inj.mp texts),tails⟩

theorem delimited_tail (members : List (String × JsonValue)) :
    Delimited (if members.isEmpty then ['\x7d'] else ',' :: renderMembers members) := by
  split
  · exact ⟨_,_,rfl,.inr rfl⟩
  · exact ⟨_,_,rfl,.inl rfl⟩

-- Objects with the same keys in the same order are the same if they are written the same.
theorem renderMembers_injective {keys : List String} {one two : List JsonValue}
    (length : one.length = keys.length) (length' : two.length = keys.length)
    (first : ∀ value ∈ one, value.wellFormed) (second : ∀ value ∈ two, value.wellFormed)
    (same : renderMembers (keys.zip one) = renderMembers (keys.zip two)) : one = two := by
  induction keys generalizing one two with
  | nil => rw [List.length_eq_zero_iff.mp length,List.length_eq_zero_iff.mp length']
  | cons key keys ih =>
      cases one with
      | nil => cases length
      | cons value one =>
          cases two with
          | nil => cases length'
          | cons value' two =>
              rw [List.length_cons,List.length_cons,Nat.add_right_cancel_iff] at length length'
              rw [List.zip_cons_cons,List.zip_cons_cons,renderMembers,renderMembers,List.append_assoc,
                List.append_assoc] at same
              have values := (List.cons.inj (List.append_cancel_left same)).2
              obtain ⟨rfl,tails⟩ := render_cancel (first value (by simp)) (second value' (by simp))
                (delimited_tail _) (delimited_tail _) values
              congr 1
              cases keys with
              | nil => rw [List.length_eq_zero_iff.mp length,List.length_eq_zero_iff.mp length']
              | cons next keys =>
                  apply ih length length' (fun other member => first other (by simp [member]))
                    (fun other member => second other (by simp [member]))
                  cases one with
                  | nil => cases length
                  | cons _ _ =>
                      cases two with
                      | nil => cases length'
                      | cons _ _ => exact (List.cons.inj tails).2

theorem renderObject_injective {keys : List String} {one two : List JsonValue}
    (length : one.length = keys.length) (length' : two.length = keys.length)
    (first : ∀ value ∈ one, value.wellFormed) (second : ∀ value ∈ two, value.wellFormed)
    (same : renderObject (keys.zip one) = renderObject (keys.zip two)) : one = two := by
  have chars := congrArg String.toList same
  unfold renderObject at chars
  rw [String.toList_ofList,String.toList_ofList] at chars
  exact renderMembers_injective length length' first second (List.cons.inj chars).2

end Wire
