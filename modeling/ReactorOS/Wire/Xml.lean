import Mathlib
import ReactorOS.Wire.Fields
import ReactorOS.Wire.Json
namespace Wire

-- What a document of XML 1.0 may consist of.
def isXmlChar (ch : Char) : Bool :=
  ch.val == 0x9 || ch.val == 0xA || ch.val == 0xD || (0x20 ≤ ch.val && ch.val ≤ 0xD7FF) ||
  (0xE000 ≤ ch.val && ch.val ≤ 0xFFFD) || 0x10000 ≤ ch.val

def isXmlSpace (ch : Char) : Bool := ch = ' ' || ch = '\t' || ch = '\n' || ch = '\r'

def isNameStart (ch : Char) : Bool :=
  ch = ':' || ch = '_' || ch.isAlpha || (0xC0 ≤ ch.val && ch.val ≤ 0xD6) || (0xD8 ≤ ch.val && ch.val ≤ 0xF6) ||
  (0xF8 ≤ ch.val && ch.val ≤ 0x2FF) || (0x370 ≤ ch.val && ch.val ≤ 0x37D) || (0x37F ≤ ch.val && ch.val ≤ 0x1FFF) ||
  (0x200C ≤ ch.val && ch.val ≤ 0x200D) || (0x2070 ≤ ch.val && ch.val ≤ 0x218F) ||
  (0x2C00 ≤ ch.val && ch.val ≤ 0x2FEF) || (0x3001 ≤ ch.val && ch.val ≤ 0xD7FF) ||
  (0xF900 ≤ ch.val && ch.val ≤ 0xFDCF) || (0xFDF0 ≤ ch.val && ch.val ≤ 0xFFFD) ||
  (0x10000 ≤ ch.val && ch.val ≤ 0xEFFFF)

def isNameChar (ch : Char) : Bool :=
  isNameStart ch || ch = '-' || ch = '.' || ch.isDigit || ch.val == 0xB7 || (0x300 ≤ ch.val && ch.val ≤ 0x36F) ||
  (0x203F ≤ ch.val && ch.val ≤ 0x2040)

-- Every line end is one line feed before anything else is read. `carriage` says that a carriage return has just been.
def lineEnds (carriage : Bool) : List Char → List Char
  | [] => []
  | ch :: rest =>
      if ch = '\r' then '\n' :: lineEnds true rest
      else if ch = '\n' ∧ carriage then lineEnds false rest
      else ch :: lineEnds false rest

def hexDigit (ch : Char) : Option Nat :=
  if ch.isDigit then some (ch.toNat-48)
  else if 'a' ≤ ch ∧ ch ≤ 'f' then some (ch.toNat-87)
  else if 'A' ≤ ch ∧ ch ≤ 'F' then some (ch.toNat-55)
  else none

def referenceNumber : List Char → Option Nat
  | [] | ['x'] => none
  | 'x' :: digits => digits.foldlM (fun number ch => (hexDigit ch).map (16*number+·)) 0
  | digits => if digits.all Char.isDigit then some (Nat.ofDigitChars 10 digits 0) else none

-- What stands between `&` and `;`.
def entity : List Char → Option Char
  | ['a','m','p'] => some '&'
  | ['l','t'] => some '<'
  | ['g','t'] => some '>'
  | ['q','u','o','t'] => some '"'
  | ['a','p','o','s'] => some '\''
  | '#' :: digits => (referenceNumber digits).bind fun number =>
      if number.isValidChar && isXmlChar (Char.ofNat number) then some (Char.ofNat number) else none
  | _ => none

-- The text with its references resolved. `reference` is the one that is being read, newest character first.
def resolve (reference : Option (List Char)) : List Char → Option (List Char)
  | [] => if reference.isNone then some [] else none
  | ch :: rest =>
      match reference with
      | none => if ch = '&' then resolve (some []) rest else (resolve none rest).map (ch :: ·)
      | some name =>
          if ch = ';' then (entity name.reverse).bind fun value => (resolve none rest).map (value :: ·)
          else resolve (some (ch :: name)) rest

inductive XmlNode where
  | element (name : String) (attributes : Fields) (children : List XmlNode)
  | text (value : String)

-- One attribute, and the text behind it.
def readAttribute (text : List Char) : Option ((String × String) × List Char) :=
  match text.head?.filter isNameStart,(text.dropWhile isNameChar).dropWhile isXmlSpace with
  | some _,'=' :: rest =>
      match rest.dropWhile isXmlSpace with
      | quote :: rest =>
          if quote ≠ '"' ∧ quote ≠ '\'' then none
          else match rest.dropWhile (· ≠ quote) with
          | [] => none
          | _ :: behind =>
              (resolve none ((rest.takeWhile (· ≠ quote)).map fun ch => if isXmlSpace ch then ' ' else ch)).map fun value =>
                ((String.ofList (text.takeWhile isNameChar),String.ofList value),behind)
      | [] => none
  | _,_ => none

-- An attribute has a blank in front of it. Each takes some text, so that `fuel` may be its length.
def readAttributes : Nat → List Char → Option Fields
  | 0,_ => none
  | fuel+1,text =>
      if (text.dropWhile isXmlSpace).isEmpty then some []
      else if !text.head?.any isXmlSpace then none
      else (readAttribute (text.dropWhile isXmlSpace)).bind fun (found,behind) =>
        (readAttributes fuel behind).map (found :: ·)

def parseTag (raw : List Char) : Option (String × Fields) :=
  match raw.head?.filter isNameStart,readAttributes (raw.length+1) (raw.dropWhile isNameChar) with
  | some _,some attributes =>
      if (attributes.map Prod.fst).Nodup then some (String.ofList (raw.takeWhile isNameChar),attributes) else none
  | _,_ => none

inductive XmlMode where
  | text | tag
  | quoted (quote : Char)

-- An element that is still open, with its children newest first.
structure XmlFrame where
  name : String
  attributes : Fields
  children : List XmlNode

-- A reader of documents without comments, instructions, CDATA sections and a document type.
structure XmlReader where
  mode : XmlMode := .text
  buffer : List Char := []
  stack : List XmlFrame := []
  root : Option XmlNode := none

namespace XmlReader

def attach (reader : XmlReader) (node : XmlNode) : Option XmlReader :=
  match reader.stack with
  | [] => if reader.root.isNone then some {reader with root := some node} else none
  | frame :: stack => some {reader with stack := {frame with children := node :: frame.children} :: stack}

-- The character data in front of a tag.
def flush (reader : XmlReader) : Option XmlReader :=
  match reader.buffer,reader.stack with
  | [],_ => some reader
  | buffer,[] => if buffer.all isXmlSpace then some {reader with buffer := []} else none
  | buffer,_ =>
      if [']',']','>'] <:+: buffer.reverse then none
      else (resolve none buffer.reverse).bind fun text => {reader with buffer := []}.attach (.text (String.ofList text))

def close (reader : XmlReader) (name : List Char) : Option XmlReader :=
  match reader.stack with
  | [] => none
  | frame :: stack =>
      if String.ofList (name.reverse.dropWhile isXmlSpace).reverse = frame.name then
        {reader with stack := stack}.attach (.element frame.name frame.attributes frame.children.reverse)
      else none

def finishTag (reader : XmlReader) (raw : List Char) : Option XmlReader :=
  let reader := {reader with mode := .text,buffer := []}
  if raw.head? = some '/' then reader.close raw.tail
  else if reader.stack.isEmpty && reader.root.isSome then none
  else if raw.getLast? = some '/' then
    (parseTag raw.dropLast).bind fun (name,attributes) => reader.attach (.element name attributes [])
  else (parseTag raw).map fun (name,attributes) => {reader with stack := ⟨name,attributes,[]⟩ :: reader.stack}

def step (reader : XmlReader) (ch : Char) : Option XmlReader :=
  match reader.mode with
  | .text =>
      if ch = '<' then reader.flush.map fun reader => {reader with mode := .tag}
      else some {reader with buffer := ch :: reader.buffer}
  | .tag =>
      if ch = '>' then reader.finishTag reader.buffer.reverse
      else if ch = '<' then none
      else some {reader with
        mode := if ch = '"' || ch = '\'' then .quoted ch else .tag
        buffer := ch :: reader.buffer }
  | .quoted quote =>
      if ch = '<' then none
      else some {reader with
        mode := if ch = quote then .tag else .quoted quote
        buffer := ch :: reader.buffer }

def read (reader : XmlReader) : List Char → Option XmlReader
  | [] => some reader
  | ch :: rest => (reader.step ch).bind (read · rest)

def finish (reader : XmlReader) : Option XmlNode :=
  match reader.mode,reader.stack with
  | .text,[] => if reader.buffer.all isXmlSpace then reader.root else none
  | _,_ => none

end XmlReader

-- The text in front of `?>`, and the text behind it.
def untilInstructionEnd : List Char → Option (List Char × List Char)
  | '?' :: '>' :: rest => some ([],rest)
  | ch :: rest => (untilInstructionEnd rest).map fun (front,behind) => (ch :: front,behind)
  | [] => none

def validDeclaration (attributes : Fields) : Bool :=
  match attributes with
  | ("version","1.0") :: rest =>
      let standalone := match rest with
        | ("encoding","UTF-8") :: rest => rest
        | rest => rest
      match standalone with
      | [] => true
      | [("standalone",value)] => value = "yes" || value = "no"
      | _ => false
  | _ => false

-- The document behind its declaration, if it begins with one.
def skipDeclaration (text : List Char) : Option (List Char) :=
  if ['<','?','x','m','l'].isPrefixOf text then
    (untilInstructionEnd (text.drop 5)).bind fun (inside,behind) =>
      (readAttributes (inside.length+1) inside).bind fun attributes =>
        if validDeclaration attributes then some behind else none
  else some text

def parseXml (text : String) : Option XmlNode :=
  if text.toList.all isXmlChar then
    (skipDeclaration (lineEnds false text.toList)).bind fun body => (XmlReader.read {} body).bind (·.finish)
  else none

-- The five characters that a text is not to hold as they are.
def xmlEntity (ch : Char) : List Char :=
  if ch = '&' then "&amp;".toList
  else if ch = '<' then "&lt;".toList
  else if ch = '>' then "&gt;".toList
  else if ch = '"' then "&quot;".toList
  else if ch = '\'' then "&apos;".toList
  else [ch]

def escapeXml (text : List Char) : List Char := text.flatMap xmlEntity

def writeAttributes (attributes : Fields) : List Char :=
  attributes.flatMap fun (name,value) => ' ' :: (name.toList ++ '=' :: '"' :: (value.toList ++ ['"']))

def tagText (name : String) (attributes : Fields) : List Char := name.toList ++ writeAttributes attributes

def openTag (name : String) (attributes : Fields) : List Char := '<' :: (tagText name attributes ++ ['>'])
def emptyTag (name : String) (attributes : Fields) : List Char := '<' :: (tagText name attributes ++ ['/','>'])
def closeTag (name : String) : List Char := '<' :: '/' :: (name.toList ++ ['>'])

def plainName (name : String) : Bool := name.toList.head?.any isNameStart && name.toList.all isNameChar

def plainValue (value : String) : Bool :=
  value.toList.all fun ch => ch ≠ '"' && ch ≠ '&' && ch ≠ '<' && !isXmlSpace ch && isXmlChar ch

-- A tag whose names are names, and whose values need no reference.
structure PlainTag (name : String) (attributes : Fields) : Prop where
  name : plainName name = true
  names : ∀ field ∈ attributes, plainName field.1 = true
  values : ∀ field ∈ attributes, plainValue field.2 = true
  distinct : (attributes.map Prod.fst).Nodup

variable {name : String} {attributes : Fields} {text rest : List Char} {ch : Char}

theorem resolve_plain (plain : '&' ∉ text) : resolve none text = some text := by
  induction text with
  | nil => rfl
  | cons ch text ih =>
      obtain ⟨here,there⟩ := not_or.mp (mt List.mem_cons.mpr plain)
      rw [resolve,if_neg (Ne.symm here),ih there]
      rfl

-- Each of the five characters apart, and every other one.
theorem markup_cases (ch : Char) : (ch = '&' ∨ ch = '<' ∨ ch = '>' ∨ ch = '"' ∨ ch = '\'') ∨
    ch ≠ '&' ∧ ch ≠ '<' ∧ ch ≠ '>' ∧ ch ≠ '"' ∧ ch ≠ '\'' := by
  tauto

theorem xmlEntity_plain (plain : ch ≠ '&' ∧ ch ≠ '<' ∧ ch ≠ '>' ∧ ch ≠ '"' ∧ ch ≠ '\'') : xmlEntity ch = [ch] := by
  obtain ⟨amp,lt,gt,quot,apos⟩ := plain
  rw [xmlEntity,if_neg amp,if_neg lt,if_neg gt,if_neg quot,if_neg apos]

theorem resolve_entity (ch : Char) (rest : List Char) :
    resolve none (xmlEntity ch ++ rest) = (resolve none rest).map (ch :: ·) := by
  rcases markup_cases ch with (rfl | rfl | rfl | rfl | rfl) | plain
  · simp [xmlEntity,resolve,entity]
  · simp [xmlEntity,resolve,entity]
  · simp [xmlEntity,resolve,entity]
  · simp [xmlEntity,resolve,entity]
  · simp [xmlEntity,resolve,entity]
  · rw [xmlEntity_plain plain,List.singleton_append,resolve]
    exact if_neg plain.1

-- Escaping is undone by the reader.
theorem resolve_escaped (text : List Char) : resolve none (escapeXml text) = some text := by
  induction text with
  | nil => rfl
  | cons ch text ih =>
      rw [escapeXml,List.flatMap_cons,resolve_entity]
      rw [escapeXml] at ih
      rw [ih]
      rfl

theorem nameChar_apart (named : isNameChar ch = true) :
    ch ≠ '<' ∧ ch ≠ '>' ∧ ch ≠ '"' ∧ ch ≠ '\'' ∧ ch ≠ '/' ∧ ch ≠ '=' ∧ isXmlSpace ch = false := by
  refine ⟨?_,?_,?_,?_,?_,?_,?_⟩
  · rintro rfl; revert named; decide
  · rintro rfl; revert named; decide
  · rintro rfl; revert named; decide
  · rintro rfl; revert named; decide
  · rintro rfl; revert named; decide
  · rintro rfl; revert named; decide
  · by_contra space
    rw [Bool.not_eq_false] at space
    unfold isXmlSpace at space
    simp only [Bool.or_eq_true,decide_eq_true_eq] at space
    rcases space with ((rfl | rfl) | rfl) | rfl <;> revert named <;> decide

theorem nameChar_xml (named : isNameChar ch = true) : isXmlChar ch = true := by
  unfold isNameChar isNameStart at named
  unfold isXmlChar
  simp only [Bool.or_eq_true,Bool.and_eq_true,decide_eq_true_eq,beq_iff_eq,Char.isAlpha,Char.isUpper,Char.isLower,Char.isDigit,
    UInt32.le_iff_toNat_le,← UInt32.toNat_inj,Char.ext_iff,ge_iff_le] at named ⊢
  simp at named ⊢
  omega

theorem plainName_cons (plain : plainName name = true) :
    ∃ first others, name.toList = first :: others ∧ isNameStart first = true ∧ ∀ ch ∈ name.toList, isNameChar ch = true := by
  unfold plainName at plain
  rw [Bool.and_eq_true] at plain
  obtain ⟨starts,all⟩ := plain
  cases text : name.toList with
  | nil =>
      rw [text] at starts
      cases starts
  | cons first others =>
      rw [text] at starts all
      exact ⟨first,others,rfl,starts,List.all_eq_true.mp all⟩

-- A name stands in front of what does not go on with it.
theorem span_name (plain : plainName name = true) (ends : ∀ ch ∈ rest.head?, isNameChar ch = false) :
    (name.toList ++ rest).takeWhile isNameChar = name.toList ∧ (name.toList ++ rest).dropWhile isNameChar = rest := by
  obtain ⟨_,_,_,_,all⟩ := plainName_cons plain
  rw [List.takeWhile_append_of_pos all,List.dropWhile_append_of_pos all]
  cases rest with
  | nil => simp
  | cons ch others =>
      have stops := ends ch rfl
      simp [stops]

theorem plainValue_apart {value : String} (valued : plainValue value = true) : ∀ ch ∈ value.toList,
    ch ≠ '"' ∧ ch ≠ '&' ∧ ch ≠ '<' ∧ isXmlSpace ch = false ∧ isXmlChar ch = true := by
  intro ch member
  have here := List.all_eq_true.mp valued ch member
  simp only [Bool.and_eq_true,decide_eq_true_eq,Bool.not_eq_true'] at here
  obtain ⟨⟨⟨⟨quot,amp⟩,lt⟩,visible⟩,allowed⟩ := here
  exact ⟨quot,amp,lt,visible,allowed⟩

theorem resolve_value {value : String} (valued : plainValue value = true) :
    resolve none (value.toList.map fun ch => if isXmlSpace ch then ' ' else ch) = some value.toList := by
  have apart := plainValue_apart valued
  have spaceless : (value.toList.map fun ch => if isXmlSpace ch then ' ' else ch) = value.toList := by
    refine (List.map_congr_left fun ch member => ?_).trans (List.map_id _)
    simp [(apart ch member).2.2.2.1]
  rw [spaceless]
  exact resolve_plain fun amp => (apart _ amp).2.1 rfl

theorem readAttribute_written {value : String} (named : plainName name = true) (valued : plainValue value = true) :
    readAttribute (name.toList ++ '=' :: '"' :: (value.toList ++ '"' :: rest)) = some ((name,value),rest) := by
  obtain ⟨first,others,same,starts,_⟩ := plainName_cons named
  obtain ⟨taken,dropped⟩ := @span_name name ('=' :: '"' :: (value.toList ++ '"' :: rest)) named (by simp; decide)
  have unquoted : ∀ ch ∈ value.toList, decide (ch ≠ '"') = true :=
    fun ch member => decide_eq_true (plainValue_apart valued ch member).1
  have starting : (name.toList ++ '=' :: '"' :: (value.toList ++ '"' :: rest)).head?.filter isNameStart = some first := by
    rw [same]
    simp [starts]
  have equals : ('=' :: '"' :: (value.toList ++ '"' :: rest)).dropWhile isXmlSpace =
      '=' :: '"' :: (value.toList ++ '"' :: rest) := List.dropWhile_cons_of_neg (by decide)
  have quote : ('"' :: (value.toList ++ '"' :: rest)).dropWhile isXmlSpace = '"' :: (value.toList ++ '"' :: rest) :=
    List.dropWhile_cons_of_neg (by decide)
  have inside : (value.toList ++ '"' :: rest).takeWhile (fun ch => decide (ch ≠ '"')) = value.toList := by
    rw [List.takeWhile_append_of_pos unquoted]
    simp
  have behind : (value.toList ++ '"' :: rest).dropWhile (fun ch => decide (ch ≠ '"')) = '"' :: rest := by
    rw [List.dropWhile_append_of_pos unquoted]
    simp
  unfold readAttribute
  rw [taken,dropped,starting,equals]
  simp only [quote]
  rw [if_neg (by simp),behind,inside]
  simp only [resolve_value valued,Option.map_some,String.ofList_toList]

theorem writeAttributes_cons (field : String × String) (attributes : Fields) :
    writeAttributes (field :: attributes) =
      ' ' :: (field.1.toList ++ '=' :: '"' :: (field.2.toList ++ '"' :: writeAttributes attributes)) := by
  simp [writeAttributes]

theorem writeAttributes_length (attributes : Fields) : attributes.length ≤ (writeAttributes attributes).length := by
  induction attributes with
  | nil => exact Nat.zero_le _
  | cons field attributes ih =>
      rw [writeAttributes_cons]
      simp only [List.length_cons,List.length_append]
      omega

theorem readAttributes_written (names : ∀ field ∈ attributes, plainName field.1 = true)
    (values : ∀ field ∈ attributes, plainValue field.2 = true) {fuel : Nat} (enough : attributes.length < fuel) :
    readAttributes fuel (writeAttributes attributes) = some attributes := by
  induction attributes generalizing fuel with
  | nil =>
      cases fuel with
      | zero => exact absurd enough (Nat.not_lt_zero _)
      | succ fuel => rfl
  | cons field attributes ih =>
      obtain ⟨named,otherNames⟩ := List.forall_mem_cons.mp names
      obtain ⟨valued,otherValues⟩ := List.forall_mem_cons.mp values
      obtain ⟨first,others,same,starts,all⟩ := plainName_cons named
      cases fuel with
      | zero => exact absurd enough (Nat.not_lt_zero _)
      | succ fuel =>
          have visible : isXmlSpace first = false := (nameChar_apart (all first (by rw [same]; exact List.mem_cons_self))).2.2.2.2.2.2
          have here := @readAttribute_written field.1 (writeAttributes attributes) field.2 named valued
          have there := ih otherNames otherValues (Nat.lt_of_succ_lt_succ enough)
          rw [writeAttributes_cons,readAttributes]
          rw [same,List.cons_append] at here ⊢
          have next : (' ' :: first :: (others ++ '=' :: '"' :: (field.2.toList ++ '"' :: writeAttributes attributes))).dropWhile
              isXmlSpace = first :: (others ++ '=' :: '"' :: (field.2.toList ++ '"' :: writeAttributes attributes)) := by
            rw [List.dropWhile_cons_of_pos (by decide),List.dropWhile_cons_of_neg (by simp [visible])]
          rw [next,if_neg (by simp),if_neg (by simp; decide),here,Option.bind_some]
          simp only [there,Option.map_some]

theorem parseTag_written (plain : PlainTag name attributes) : parseTag (tagText name attributes) = some (name,attributes) := by
  have ends : ∀ ch ∈ (writeAttributes attributes).head?, isNameChar ch = false := by
    cases attributes with
    | nil => simp [writeAttributes]
    | cons field attributes =>
        rw [writeAttributes_cons]
        simp
        decide
  obtain ⟨taken,dropped⟩ := span_name plain.name ends
  obtain ⟨first,others,same,starts,_⟩ := plainName_cons plain.name
  have starting : (tagText name attributes).head?.filter isNameStart = some first := by
    rw [tagText,same]
    simp [starts]
  have enough : attributes.length < (tagText name attributes).length+1 := by
    have counted := writeAttributes_length attributes
    rw [tagText,List.length_append]
    omega
  have found := readAttributes_written plain.names plain.values enough
  rw [parseTag,starting]
  simp only [tagText] at found ⊢
  rw [dropped,taken,found]
  simp [plain.distinct]

namespace XmlReader
variable {reader : XmlReader}

theorem read_append (front : List Char) : reader.read (front ++ rest) = (reader.read front).bind (read · rest) := by
  induction front generalizing reader with
  | nil => rfl
  | cons ch front ih =>
      simp only [List.cons_append,read]
      cases reader.step ch with
      | none => rfl
      | some next => exact ih

theorem read_text (inside : reader.mode = .text) (plain : '<' ∉ text) :
    reader.read text = some {reader with buffer := text.reverse ++ reader.buffer} := by
  induction text generalizing reader with
  | nil => rfl
  | cons ch text ih =>
      obtain ⟨here,there⟩ := not_or.mp (mt List.mem_cons.mpr plain)
      have next : reader.step ch = some {reader with buffer := ch :: reader.buffer} := by
        simp [step,inside,Ne.symm here]
      rw [read,next,Option.bind_some,@ih {reader with buffer := ch :: reader.buffer} inside there]
      simp

-- Characters that end no tag and open no quotes.
theorem read_bare (inside : reader.mode = .tag)
    (plain : ∀ ch ∈ text, ch ≠ '<' ∧ ch ≠ '>' ∧ ch ≠ '"' ∧ ch ≠ '\'') :
    reader.read text = some {reader with buffer := text.reverse ++ reader.buffer} := by
  induction text generalizing reader with
  | nil => rfl
  | cons ch text ih =>
      obtain ⟨⟨lt,gt,quot,apos⟩,there⟩ := List.forall_mem_cons.mp plain
      have next : reader.step ch = some {reader with buffer := ch :: reader.buffer} := by
        simp [step,inside,lt,gt,quot,apos]
      rw [read,next,Option.bind_some,@ih {reader with buffer := ch :: reader.buffer} inside there]
      simp

theorem read_quoted (inside : reader.mode = .quoted '"') (plain : ∀ ch ∈ text, ch ≠ '<' ∧ ch ≠ '"') :
    reader.read (text ++ ['"']) = some {reader with mode := .tag,buffer := '"' :: text.reverse ++ reader.buffer} := by
  induction text generalizing reader with
  | nil => simp [read,step,inside]
  | cons ch text ih =>
      obtain ⟨⟨lt,quot⟩,there⟩ := List.forall_mem_cons.mp plain
      have next : reader.step ch = some {reader with buffer := ch :: reader.buffer} := by
        simp [step,inside,lt,quot]
      rw [List.cons_append,read,next,Option.bind_some,@ih {reader with buffer := ch :: reader.buffer} inside there]
      simp

theorem read_attributes (inside : reader.mode = .tag) (names : ∀ field ∈ attributes, plainName field.1 = true)
    (values : ∀ field ∈ attributes, plainValue field.2 = true) :
    reader.read (writeAttributes attributes) =
      some {reader with buffer := (writeAttributes attributes).reverse ++ reader.buffer} := by
  induction attributes generalizing reader with
  | nil => rfl
  | cons field attributes ih =>
      obtain ⟨named,otherNames⟩ := List.forall_mem_cons.mp names
      obtain ⟨valued,otherValues⟩ := List.forall_mem_cons.mp values
      have order : writeAttributes (field :: attributes) =
          (' ' :: field.1.toList ++ ['=']) ++ '"' :: ((field.2.toList ++ ['"']) ++ writeAttributes attributes) := by
        simp [writeAttributes_cons]
      have front : ∀ ch ∈ ' ' :: field.1.toList ++ ['='], ch ≠ '<' ∧ ch ≠ '>' ∧ ch ≠ '"' ∧ ch ≠ '\'' := by
        obtain ⟨_,_,_,_,all⟩ := plainName_cons named
        intro ch member
        rcases List.mem_append.mp member with inside | equals
        · rcases List.mem_cons.mp inside with rfl | letter
          · decide
          · obtain ⟨lt,gt,quot,apos,_⟩ := nameChar_apart (all ch letter)
            exact ⟨lt,gt,quot,apos⟩
        · rw [List.mem_singleton.mp equals]
          decide
      have value : ∀ ch ∈ field.2.toList, ch ≠ '<' ∧ ch ≠ '"' := fun ch member =>
        ⟨(plainValue_apart valued ch member).2.2.1,(plainValue_apart valued ch member).1⟩
      have opens : ∀ buffer, ({reader with buffer := buffer} : XmlReader).step '"' =
          some {reader with mode := .quoted '"',buffer := '"' :: buffer} := by
        intro buffer
        simp [step,inside]
      rw [order,read_append,read_bare inside front,Option.bind_some,read,opens,Option.bind_some,read_append,
        read_quoted rfl value,Option.bind_some,@ih {reader with mode := .tag,buffer := _} rfl otherNames otherValues]
      simp [inside]

theorem read_tagText (plain : PlainTag name attributes) (inside : reader.mode = .tag) :
    reader.read (tagText name attributes) =
      some {reader with buffer := (tagText name attributes).reverse ++ reader.buffer} := by
  obtain ⟨_,_,_,_,all⟩ := plainName_cons plain.name
  have bare : ∀ ch ∈ name.toList, ch ≠ '<' ∧ ch ≠ '>' ∧ ch ≠ '"' ∧ ch ≠ '\'' := by
    intro ch member
    obtain ⟨lt,gt,quot,apos,_⟩ := nameChar_apart (all ch member)
    exact ⟨lt,gt,quot,apos⟩
  rw [tagText,read_append,read_bare inside bare,Option.bind_some,
    @read_attributes attributes {reader with buffer := name.toList.reverse ++ reader.buffer} inside plain.names plain.values]
  simp

-- A tag that is read to its end, behind what its beginning has flushed.
theorem read_markup {raw : List Char} {stack : List XmlFrame} {root : Option XmlNode} (inside : reader.mode = .text)
    (flushed : reader.flush = some ⟨.text,[],stack,root⟩)
    (whole : (⟨.tag,[],stack,root⟩ : XmlReader).read raw = some ⟨.tag,raw.reverse,stack,root⟩) :
    reader.read ('<' :: (raw ++ '>' :: rest)) =
      ((⟨.tag,raw.reverse,stack,root⟩ : XmlReader).finishTag raw).bind (read · rest) := by
  have opened : reader.step '<' = some ⟨.tag,[],stack,root⟩ := by
    simp [step,inside,flushed]
  rw [read,opened,Option.bind_some,read_append,whole,Option.bind_some,read]
  simp [step]

end XmlReader

theorem writeAttributes_last (some' : attributes ≠ []) : (writeAttributes attributes).getLast? = some '"' := by
  induction attributes with
  | nil => exact absurd rfl some'
  | cons field attributes ih =>
      have order : writeAttributes (field :: attributes) =
          (' ' :: field.1.toList ++ '=' :: '"' :: field.2.toList ++ ['"']) ++ writeAttributes attributes := by
        simp [writeAttributes_cons]
      rw [order]
      cases attributes with
      | nil => rw [writeAttributes,List.flatMap_nil,List.append_nil,List.getLast?_concat]
      | cons next others =>
          rw [List.getLast?_append,ih (List.cons_ne_nil _ _)]
          rfl

theorem tagText_ends (plain : PlainTag name attributes) :
    (tagText name attributes).head? ≠ some '/' ∧ (tagText name attributes).getLast? ≠ some '/' := by
  obtain ⟨first,others,same,_,all⟩ := plainName_cons plain.name
  have slashless : '/' ∉ name.toList := fun slash => (nameChar_apart (all _ slash)).2.2.2.2.1 rfl
  constructor
  · rw [tagText,same,List.cons_append,List.head?_cons]
    intro slash
    exact slashless (by rw [same,← Option.some.inj slash]; exact List.mem_cons_self)
  · rw [tagText,List.getLast?_append]
    cases attributes with
    | nil =>
        intro slash
        exact slashless (List.mem_of_getLast? (by simpa [writeAttributes] using slash))
    | cons field attributes => simp [writeAttributes_last (List.cons_ne_nil field attributes)]

theorem trimmed_name (plain : plainName name = true) : (name.toList.reverse.dropWhile isXmlSpace).reverse = name.toList := by
  obtain ⟨_,_,_,_,all⟩ := plainName_cons plain
  have visible : name.toList.reverse.dropWhile isXmlSpace = name.toList.reverse := by
    cases text : name.toList.reverse with
    | nil => rfl
    | cons ch rest =>
        have member : ch ∈ name.toList := List.mem_reverse.mp (by rw [text]; exact List.mem_cons_self)
        exact List.dropWhile_cons_of_neg (by simp [(nameChar_apart (all ch member)).2.2.2.2.2.2])
  rw [visible,List.reverse_reverse]

-- Inside of an element, the text adds these nodes to it.
def Adds (written : List Char) (nodes : List XmlNode) : Prop :=
  ∀ (frame : XmlFrame) (stack : List XmlFrame) (root : Option XmlNode) (rest : List Char),
    (⟨.text,[],frame :: stack,root⟩ : XmlReader).read (written ++ rest) =
      (⟨.text,[],{frame with children := nodes.reverse ++ frame.children} :: stack,root⟩ : XmlReader).read rest

theorem adds_nil : Adds [] [] := fun _ _ _ _ => rfl

theorem adds_append {first later : List Char} {nodes others : List XmlNode} (here : Adds first nodes)
    (there : Adds later others) : Adds (first ++ later) (nodes ++ others) := by
  intro frame stack root rest
  rw [List.append_assoc,here,there]
  simp

theorem adds_flatMap {α : Type} {items : List α} {written : α → List Char} {node : α → XmlNode}
    (each : ∀ item ∈ items, Adds (written item) [node item]) : Adds (items.flatMap written) (items.map node) := by
  induction items with
  | nil => exact adds_nil
  | cons item items ih =>
      obtain ⟨here,there⟩ := List.forall_mem_cons.mp each
      exact adds_append here (ih there)

-- An opening tag opens its element.
theorem read_openTag (plain : PlainTag name attributes) {reader : XmlReader} {stack : List XmlFrame}
    {root : Option XmlNode} (inside : reader.mode = .text) (flushed : reader.flush = some ⟨.text,[],stack,root⟩)
    (allowed : stack ≠ [] ∨ root = none) :
    reader.read (openTag name attributes ++ rest) =
      (⟨.text,[],⟨name,attributes,[]⟩ :: stack,root⟩ : XmlReader).read rest := by
  have whole := @XmlReader.read_tagText name attributes ⟨.tag,[],stack,root⟩ plain rfl
  obtain ⟨first,last⟩ := tagText_ends plain
  have order : openTag name attributes ++ rest = '<' :: (tagText name attributes ++ '>' :: rest) := by simp [openTag]
  have here : (stack.isEmpty && root.isSome) = false := by
    rcases allowed with some' | none'
    · cases stack with
      | nil => exact absurd rfl some'
      | cons frame stack => rfl
    · rw [none',Option.isSome_none,Bool.and_false]
  rw [order,XmlReader.read_markup inside flushed (by simpa using whole),XmlReader.finishTag,if_neg first]
  simp only [here,Bool.false_eq_true,if_false,if_neg last,parseTag_written plain,Option.map_some,Option.bind_some]

-- A closing tag hands the element to the one around it, behind what character data there is.
theorem read_closeTag (plain : plainName name = true) {reader after : XmlReader} {children : List XmlNode}
    {stack : List XmlFrame} {root : Option XmlNode} (inside : reader.mode = .text)
    (flushed : reader.flush = some ⟨.text,[],⟨name,attributes,children⟩ :: stack,root⟩)
    (attached : (⟨.text,[],stack,root⟩ : XmlReader).attach (.element name attributes children.reverse) = some after) :
    reader.read (closeTag name ++ rest) = after.read rest := by
  obtain ⟨_,_,_,_,all⟩ := plainName_cons plain
  have bare : ∀ ch ∈ '/' :: name.toList, ch ≠ '<' ∧ ch ≠ '>' ∧ ch ≠ '"' ∧ ch ≠ '\'' := by
    refine List.forall_mem_cons.mpr ⟨by decide,fun ch member => ?_⟩
    obtain ⟨lt,gt,quot,apos,_⟩ := nameChar_apart (all ch member)
    exact ⟨lt,gt,quot,apos⟩
  have whole := @XmlReader.read_bare ('/' :: name.toList) ⟨.tag,[],⟨name,attributes,children⟩ :: stack,root⟩ rfl bare
  have order : closeTag name ++ rest = '<' :: ('/' :: name.toList ++ '>' :: rest) := by simp [closeTag]
  rw [order,XmlReader.read_markup inside flushed (by simpa using whole),XmlReader.finishTag,if_pos List.head?_cons]
  simp only [List.tail_cons,XmlReader.close,trimmed_name plain,String.ofList_toList,if_true,attached,Option.bind_some]

theorem adds_empty (plain : PlainTag name attributes) : Adds (emptyTag name attributes) [.element name attributes []] := by
  intro frame stack root rest
  have whole := @XmlReader.read_tagText name attributes ⟨.tag,[],frame :: stack,root⟩ plain rfl
  obtain ⟨first,_⟩ := tagText_ends plain
  have order : emptyTag name attributes ++ rest = '<' :: (tagText name attributes ++ ['/'] ++ '>' :: rest) := by
    simp [emptyTag]
  have slash : (⟨.tag,[],frame :: stack,root⟩ : XmlReader).read (tagText name attributes ++ ['/']) =
      some ⟨.tag,(tagText name attributes ++ ['/']).reverse,frame :: stack,root⟩ := by
    rw [XmlReader.read_append,whole]
    simp [XmlReader.read,XmlReader.step]
  have opening : (tagText name attributes ++ ['/']).head? ≠ some '/' := by
    obtain ⟨letter,others,same,_⟩ := plainName_cons plain.name
    rw [tagText,same] at first ⊢
    exact first
  rw [order,XmlReader.read_markup rfl rfl slash,XmlReader.finishTag,if_neg opening]
  simp only [List.isEmpty_cons,Bool.false_and,Bool.false_eq_true,if_false,List.getLast?_concat,if_true,List.dropLast_concat,
    parseTag_written plain,Option.bind_some,XmlReader.attach,List.reverse_singleton,List.singleton_append]

theorem adds_element {written : List Char} {children : List XmlNode} (plain : PlainTag name attributes)
    (body : Adds written children) :
    Adds (openTag name attributes ++ written ++ closeTag name) [.element name attributes children] := by
  intro frame stack root rest
  rw [List.append_assoc,List.append_assoc,read_openTag plain rfl rfl (.inl (List.cons_ne_nil _ _)),body,
    read_closeTag plain.name rfl rfl rfl]
  simp

-- The character data of an element, if there is any.
def textNodes (text : List Char) : List XmlNode := if text = [] then [] else [.text (String.ofList text)]

theorem escapeXml_apart (text : List Char) : '<' ∉ escapeXml text ∧ '>' ∉ escapeXml text := by
  constructor
  all_goals
    intro inside
    obtain ⟨ch,_,found⟩ := List.mem_flatMap.mp inside
    revert found
    unfold xmlEntity
    split_ifs <;> simp
    tauto

theorem escapeXml_nil : escapeXml text = [] ↔ text = [] := by
  unfold escapeXml
  rw [List.flatMap_eq_nil_iff]
  constructor
  · intro missing
    cases text with
    | nil => rfl
    | cons ch text =>
        have here := missing ch List.mem_cons_self
        revert here
        unfold xmlEntity
        split_ifs <;> simp
  · intro same
    rw [same]
    exact List.forall_mem_nil _

theorem flush_escaped (text : List Char) (frame : XmlFrame) (stack : List XmlFrame) (root : Option XmlNode) :
    (⟨.text,(escapeXml text).reverse,frame :: stack,root⟩ : XmlReader).flush =
      some ⟨.text,[],{frame with children := (textNodes text).reverse ++ frame.children} :: stack,root⟩ := by
  by_cases empty : text = []
  · subst empty
    rfl
  · obtain ⟨ch,others,same⟩ := List.exists_cons_of_ne_nil (mt List.reverse_eq_nil_iff.mp (mt escapeXml_nil.mp empty))
    have unclosed : ¬[']',']','>'] <:+: escapeXml text := by
      intro inside
      exact (escapeXml_apart text).2 (inside.subset (by simp))
    rw [XmlReader.flush,same]
    simp only
    rw [← same,List.reverse_reverse,if_neg unclosed,resolve_escaped]
    simp [XmlReader.attach,textNodes,empty]

theorem adds_text (plain : PlainTag name attributes) (text : List Char) :
    Adds (openTag name attributes ++ escapeXml text ++ closeTag name) [.element name attributes (textNodes text)] := by
  intro frame stack root rest
  rw [List.append_assoc,List.append_assoc,read_openTag plain rfl rfl (.inl (List.cons_ne_nil _ _)),XmlReader.read_append,
    XmlReader.read_text rfl (escapeXml_apart text).1,Option.bind_some,
    read_closeTag plain.name rfl (by simpa using flush_escaped text _ _ _) rfl]
  simp

theorem flush_empty (stack : List XmlFrame) (root : Option XmlNode) :
    (⟨.text,[],stack,root⟩ : XmlReader).flush = some ⟨.text,[],stack,root⟩ := rfl

theorem attach_root (node : XmlNode) : (⟨.text,[],[],none⟩ : XmlReader).attach node = some ⟨.text,[],[],some node⟩ := rfl

theorem finish_root (node : XmlNode) : ((⟨.text,[],[],some node⟩ : XmlReader).read []).bind (·.finish) = some node := rfl

-- The root element, behind a line break.
theorem read_document {written : List Char} {children : List XmlNode} (plain : PlainTag name attributes)
    (body : Adds written children) :
    (XmlReader.read {} ('\n' :: (openTag name attributes ++ written ++ closeTag name))).bind (·.finish) =
      some (.element name attributes children) := by
  have text : ({} : XmlReader).step '\n' = some ⟨.text,['\n'],[],none⟩ := by simp [XmlReader.step]
  have blank : (⟨.text,['\n'],[],none⟩ : XmlReader).flush = some ⟨.text,[],[],none⟩ := by simp [XmlReader.flush,isXmlSpace]
  have whole : openTag name attributes ++ written ++ closeTag name = openTag name attributes ++ (written ++ (closeTag name ++ [])) := by
    simp
  rw [XmlReader.read,text,Option.bind_some,whole,read_openTag plain rfl blank (.inr rfl),body,
    read_closeTag plain.name rfl (flush_empty _ _) (attach_root _),finish_root,List.append_nil,List.reverse_reverse]

theorem lineEnds_plain {carriage : Bool} (plain : '\r' ∉ text) (apart : carriage = true → text.head? ≠ some '\n') :
    lineEnds carriage text = text := by
  induction text generalizing carriage with
  | nil => rfl
  | cons ch text ih =>
      obtain ⟨here,there⟩ := not_or.mp (mt List.mem_cons.mpr plain)
      have other : ¬(ch = '\n' ∧ carriage = true) := fun both => apart both.2 (by rw [both.1]; rfl)
      rw [lineEnds,if_neg (Ne.symm here),if_neg other,@ih false there nofun]

def endsReturn (carriage : Bool) : List Char → Bool
  | [] => carriage
  | ch :: rest => endsReturn (ch = '\r') rest

theorem endsReturn_plain {carriage : Bool} (plain : '\r' ∉ text) (some' : text ≠ []) : endsReturn carriage text = false := by
  induction text generalizing carriage with
  | nil => exact absurd rfl some'
  | cons ch text ih =>
      obtain ⟨here,there⟩ := not_or.mp (mt List.mem_cons.mpr plain)
      have other : decide (ch = '\r') = false := decide_eq_false (Ne.symm here)
      rw [endsReturn,other]
      cases text with
      | nil => rfl
      | cons next text => exact ih there (List.cons_ne_nil _ _)

theorem lineEnds_append (carriage : Bool) (first later : List Char) :
    lineEnds carriage (first ++ later) = lineEnds carriage first ++ lineEnds (endsReturn carriage first) later := by
  induction first generalizing carriage with
  | nil => rfl
  | cons ch first ih =>
      rw [List.cons_append,lineEnds,lineEnds,endsReturn,ih,ih]
      by_cases here : ch = '\r'
      · simp [here]
      · simp only [if_neg here,decide_eq_false here]
        split_ifs <;> rfl

theorem lineEnds_apart {carriage : Bool} (apart : text.head? ≠ some '\n') : lineEnds carriage text = lineEnds false text := by
  cases text with
  | nil => rfl
  | cons ch text =>
      have other : ch ≠ '\n' := fun same => apart (by rw [same]; rfl)
      simp [lineEnds,other]

theorem lineEnds_no_return (carriage : Bool) (text : List Char) : '\r' ∉ lineEnds carriage text := by
  induction text generalizing carriage with
  | nil => exact List.not_mem_nil
  | cons ch text ih =>
      rw [lineEnds]
      split_ifs with here there
      · exact not_or.mpr ⟨by decide,ih true⟩ ∘ List.mem_cons.mp
      · exact ih false
      · exact not_or.mpr ⟨Ne.symm here,ih false⟩ ∘ List.mem_cons.mp

theorem xmlEntity_cases (ch : Char) : xmlEntity ch = [ch] ∨
    (xmlEntity ch).head? = some '&' ∧ '\r' ∉ xmlEntity ch ∧ ch ≠ '\r' ∧ ch ≠ '\n' ∧ isXmlChar ch = true ∧
      (xmlEntity ch).all isXmlChar = true := by
  rcases markup_cases ch with (rfl | rfl | rfl | rfl | rfl) | plain
  · right; decide
  · right; decide
  · right; decide
  · right; decide
  · right; decide
  · left; exact xmlEntity_plain plain

theorem escapeXml_cons (ch : Char) (text : List Char) : escapeXml (ch :: text) = xmlEntity ch ++ escapeXml text := rfl

theorem lineEnds_escaped (carriage : Bool) (text : List Char) :
    lineEnds carriage (escapeXml text) = escapeXml (lineEnds carriage text) := by
  induction text generalizing carriage with
  | nil => rfl
  | cons ch text ih =>
      rw [escapeXml_cons]
      rcases xmlEntity_cases ch with same | ⟨amp,plain,noReturn,noLine,_⟩
      · have line : xmlEntity '\n' = ['\n'] := by decide
        rw [same,List.singleton_append,lineEnds,lineEnds,ih,ih]
        split_ifs
        · rw [escapeXml_cons,line,List.singleton_append]
        · rfl
        · rw [escapeXml_cons,same,List.singleton_append]
      · have nonempty : xmlEntity ch ≠ [] := by
          intro empty
          rw [empty] at amp
          cases amp
        have kept : lineEnds carriage (xmlEntity ch) = xmlEntity ch :=
          lineEnds_plain plain (fun _ => by rw [amp]; decide)
        rw [lineEnds_append,kept,endsReturn_plain plain nonempty,ih,lineEnds,if_neg noReturn,if_neg (fun both => noLine both.1),
          escapeXml_cons]

-- A text that has been escaped consists of characters of XML just when it did so before.
theorem escapeXml_chars (text : List Char) : (escapeXml text).all isXmlChar = text.all isXmlChar := by
  induction text with
  | nil => rfl
  | cons ch text ih =>
      rw [escapeXml_cons,List.all_append,ih,List.all_cons]
      rcases xmlEntity_cases ch with same | ⟨_,_,_,_,allowed,all⟩
      · rw [same,List.all_cons,List.all_nil,Bool.and_true]
      · rw [all,allowed]

theorem tagText_chars (plain : PlainTag name attributes) :
    (tagText name attributes).all isXmlChar = true ∧ '\r' ∉ tagText name attributes := by
  have space : isXmlSpace '\r' = true := by decide
  have named : ∀ name : String, plainName name = true → ∀ ch ∈ name.toList, isXmlChar ch = true ∧ ch ≠ '\r' := by
    intro name plain ch member
    obtain ⟨_,_,_,_,all⟩ := plainName_cons plain
    refine ⟨nameChar_xml (all ch member),?_⟩
    rintro rfl
    exact Bool.false_ne_true ((nameChar_apart (all _ member)).2.2.2.2.2.2.symm.trans space)
  have valued : ∀ value : String, plainValue value = true → ∀ ch ∈ value.toList, isXmlChar ch = true ∧ ch ≠ '\r' := by
    intro value plain ch member
    obtain ⟨_,_,_,visible,allowed⟩ := plainValue_apart plain ch member
    refine ⟨allowed,?_⟩
    rintro rfl
    exact Bool.false_ne_true (visible.symm.trans space)
  have every : ∀ ch ∈ tagText name attributes, isXmlChar ch = true ∧ ch ≠ '\r' := by
    intro ch member
    rcases List.mem_append.mp member with inName | inAttributes
    · exact named name plain.name ch inName
    · obtain ⟨field,listed,inField⟩ := List.mem_flatMap.mp inAttributes
      simp only [List.mem_cons,List.mem_append,List.not_mem_nil,or_false] at inField
      rcases inField with rfl | inside | rfl | rfl | inside | rfl
      · decide
      · exact named _ (plain.names field listed) ch inside
      · decide
      · decide
      · exact valued _ (plain.values field listed) ch inside
      · decide
  exact ⟨List.all_eq_true.mpr fun ch member => (every ch member).1,fun return' => (every _ return').2 rfl⟩

theorem plainTag_bare (plain : plainName name = true) : PlainTag name [] :=
  ⟨plain,fun _ none' => absurd none' List.not_mem_nil,fun _ none' => absurd none' List.not_mem_nil,List.nodup_nil⟩

theorem openTag_chars (plain : PlainTag name attributes) :
    (openTag name attributes).all isXmlChar = true ∧ '\r' ∉ openTag name attributes := by
  obtain ⟨all,noReturn⟩ := tagText_chars plain
  constructor
  · rw [openTag,List.all_cons,List.all_append,all]
    decide
  · simp [openTag,noReturn]

theorem emptyTag_chars (plain : PlainTag name attributes) :
    (emptyTag name attributes).all isXmlChar = true ∧ '\r' ∉ emptyTag name attributes := by
  obtain ⟨all,noReturn⟩ := tagText_chars plain
  constructor
  · rw [emptyTag,List.all_cons,List.all_append,all]
    decide
  · simp [emptyTag,noReturn]

theorem closeTag_chars (plain : plainName name = true) : (closeTag name).all isXmlChar = true ∧ '\r' ∉ closeTag name := by
  obtain ⟨all,noReturn⟩ := tagText_chars (plainTag_bare plain)
  rw [tagText,writeAttributes,List.flatMap_nil,List.append_nil] at all noReturn
  constructor
  · rw [closeTag,List.all_cons,List.all_cons,List.all_append,all]
    decide
  · simp [closeTag,noReturn]

theorem element_chars (plain : PlainTag name attributes) (body : List Char) :
    (openTag name attributes ++ body ++ closeTag name).all isXmlChar = body.all isXmlChar := by
  rw [List.all_append,List.all_append,(openTag_chars plain).1,(closeTag_chars plain.name).1,Bool.true_and,Bool.and_true]

-- What the text becomes, whatever stands behind it.
def Settles (written settled : List Char) : Prop :=
  ∀ rest : List Char, lineEnds false (written ++ rest) = settled ++ lineEnds false rest

theorem settles_plain (plain : '\r' ∉ text) : Settles text text := by
  intro rest
  have ends : endsReturn false text = false := by
    cases text with
    | nil => rfl
    | cons ch text => exact endsReturn_plain plain (List.cons_ne_nil _ _)
  rw [lineEnds_append,@lineEnds_plain _ false plain nofun,ends]

theorem settles_append {first later firstly lately : List Char} (here : Settles first firstly)
    (there : Settles later lately) : Settles (first ++ later) (firstly ++ lately) := by
  intro rest
  rw [List.append_assoc,here,there,List.append_assoc]

theorem settles_flatMap {α : Type} {items : List α} {written settled : α → List Char}
    (each : ∀ item ∈ items, Settles (written item) (settled item)) :
    Settles (items.flatMap written) (items.flatMap settled) := by
  induction items with
  | nil => exact fun _ => rfl
  | cons item items ih =>
      obtain ⟨here,there⟩ := List.forall_mem_cons.mp each
      exact settles_append here (ih there)

theorem settles_element {written settled : List Char} (plain : PlainTag name attributes) (body : Settles written settled) :
    Settles (openTag name attributes ++ written ++ closeTag name) (openTag name attributes ++ settled ++ closeTag name) :=
  settles_append (settles_append (settles_plain (openTag_chars plain).2) body) (settles_plain (closeTag_chars plain.name).2)

-- A text may end with half of a line end, but the closing tag is not the other half.
theorem settles_text (plain : PlainTag name attributes) (text : List Char) :
    Settles (openTag name attributes ++ escapeXml text ++ closeTag name)
      (openTag name attributes ++ escapeXml (lineEnds false text) ++ closeTag name) := by
  intro rest
  have close := settles_plain (closeTag_chars plain.name).2 rest
  have apart : (closeTag name ++ rest).head? ≠ some '\n' := by
    rw [closeTag,List.cons_append,List.head?_cons]
    decide
  rw [List.append_assoc,List.append_assoc,settles_plain (openTag_chars plain).2,lineEnds_append,lineEnds_escaped,
    lineEnds_apart apart,close]
  simp only [List.append_assoc]

-- How a document declares itself.
def xmlDeclaration : List Char :=
  ['<','?','x','m','l'] ++ (writeAttributes [("version","1.0"),("encoding","UTF-8"),("standalone","yes")] ++ ['?','>'])

theorem untilInstructionEnd_append {front : List Char} (plain : '?' ∉ front) :
    untilInstructionEnd (front ++ '?' :: '>' :: rest) = some (front,rest) := by
  induction front with
  | nil => rfl
  | cons ch front ih =>
      obtain ⟨here,there⟩ := not_or.mp (mt List.mem_cons.mpr plain)
      rw [List.cons_append,untilInstructionEnd,ih there]
      · rfl
      · intro _ same
        exact absurd same.symm here

theorem skipDeclaration_standard (rest : List Char) : skipDeclaration (xmlDeclaration ++ rest) = some rest := by
  have plain : '?' ∉ writeAttributes [("version","1.0"),("encoding","UTF-8"),("standalone","yes")] := by decide
  have order : xmlDeclaration ++ rest = ['<','?','x','m','l'] ++
      (writeAttributes [("version","1.0"),("encoding","UTF-8"),("standalone","yes")] ++ '?' :: '>' :: rest) := by
    simp [xmlDeclaration]
  have read := @readAttributes_written [("version","1.0"),("encoding","UTF-8"),("standalone","yes")] (by decide) (by decide)
    ((writeAttributes [("version","1.0"),("encoding","UTF-8"),("standalone","yes")]).length+1) (by decide)
  rw [order,skipDeclaration,if_pos (by rfl),List.drop_left' (by rfl),untilInstructionEnd_append plain,Option.bind_some]
  simp only [read,Option.bind_some]
  rfl

-- A document with a declaration is read just when all of it is made of characters of XML.
theorem parseXml_written {written settled : List Char} {children : List XmlNode} (plain : PlainTag name attributes)
    (settles : Settles written settled) (body : Adds settled children) :
    parseXml (String.ofList (xmlDeclaration ++ '\n' :: (openTag name attributes ++ written ++ closeTag name))) =
      if written.all isXmlChar then some (.element name attributes children) else none := by
  have declared : xmlDeclaration.all isXmlChar = true ∧ '\r' ∉ xmlDeclaration := by decide
  have line : isXmlChar '\n' = true := by decide
  have settled' := settles_append (settles_plain declared.2)
    (settles_append (@settles_plain ['\n'] (by decide)) (settles_element plain settles)) []
  rw [List.append_nil,lineEnds,List.append_nil,List.singleton_append,List.singleton_append] at settled'
  rw [parseXml,String.toList_ofList,List.all_append,declared.1,List.all_cons,line,element_chars plain,Bool.true_and,
    Bool.true_and,settled',skipDeclaration_standard,Option.bind_some,read_document plain body]

end Wire
