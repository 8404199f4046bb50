import Mathlib.Data.String.Defs
namespace ReactorOS

def isInvisibleFormatChar (ch : Char) : Bool :=
  ch.val == 0x00AD || ch.val == 0x034F || ch.val == 0x061C || ch.val == 0x180E ||
  (0x200B ≤ ch.val && ch.val ≤ 0x200F) || (0x202A ≤ ch.val && ch.val ≤ 0x202E) ||
  (0x2060 ≤ ch.val && ch.val ≤ 0x206F) || ch.val == 0xFEFF

-- The Unicode properties Cc and White_Space.
def isControl (ch : Char) : Bool := ch.val ≤ 0x1F || (0x7F ≤ ch.val && ch.val ≤ 0x9F)

def isWhitespace (ch : Char) : Bool :=
  (0x09 ≤ ch.val && ch.val ≤ 0x0D) || ch.val == 0x20 || ch.val == 0x85 || ch.val == 0xA0 ||
  ch.val == 0x1680 || (0x2000 ≤ ch.val && ch.val ≤ 0x200A) || ch.val == 0x2028 || ch.val == 0x2029 ||
  ch.val == 0x202F || ch.val == 0x205F || ch.val == 0x3000

-- A literal is read off as its characters, without the way through its bytes.
theorem toList_literal {text : String} {chars : List Char} (same : text = String.ofList chars) : text.toList = chars := by
  rw [same,String.toList_ofList]

-- Two texts are told apart where they begin.
theorem append_ne_literal {front text : String} {shown chars : List Char} (count : Nat)
    (opens : front = String.ofList shown) (reads : text = String.ofList chars) (long : count ≤ shown.length)
    (apart : shown.take count ≠ chars.take count) (rest : String) : front ++ rest ≠ text := by
  intro same
  have begins := congrArg (fun text => text.toList.take count) same
  simp only [String.toList_append,toList_literal opens,toList_literal reads,List.take_append_of_le_length long] at begins
  exact apart begins

def trim (text : String) : String :=
  String.ofList (((text.toList.dropWhile isWhitespace).reverse.dropWhile isWhitespace).reverse)

def startsWith (mark text : String) : Bool := mark.toList.isPrefixOf text.toList

-- `written` is the text so far, newest character first. A run of blanks becomes one
-- space, owed until the next visible character.
def normalizeChars (maxChars : Nat) : List Char → List Char → Bool → List Char
  | [],written,_ => written
  | ch :: rest,written,pending =>
      if isInvisibleFormatChar ch then normalizeChars maxChars rest written pending
      else if isControl ch || isWhitespace ch then
        normalizeChars maxChars rest written !written.isEmpty
      else if pending then
        if maxChars ≤ written.length then written
        else if maxChars ≤ written.length+1 then ' ' :: written
        else normalizeChars maxChars rest (ch :: ' ' :: written) false
      else if maxChars ≤ written.length then written
      else normalizeChars maxChars rest (ch :: written) false

def normalizeOperatorText (value : String) (maxChars : Nat) : String :=
  String.ofList (normalizeChars maxChars value.toList [] false).reverse

def cleanLabel (value : Option String) (fallback : String) (maxChars : Nat) : String :=
  let cleaned := value.bind fun text =>
    let normalized := normalizeOperatorText text maxChars
    if normalized.isEmpty then none else some normalized
  cleaned.getD (normalizeOperatorText fallback maxChars)

end ReactorOS
