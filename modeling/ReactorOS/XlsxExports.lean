import ReactorOS.Wire.Decimal
import ReactorOS.Wire.Xml
import ReactorOS.CsvExports
import ReactorOS.Text
import ReactorOS.Worksheets
namespace ReactorOS
open Wire
variable {codec : ReportCodec}

-- Where a cell stands, and what a reader of worksheets finds in it.
structure CellPlace where
  column : Nat
  row : Nat
  deriving DecidableEq

inductive SheetValue where
  | text (value : String)
  | number (value : ℚ)
  | blank
  deriving DecidableEq

def readNat (digits : List Char) : Option Nat :=
  if digits.isEmpty || !digits.all Char.isDigit then none else some (Nat.ofDigitChars 10 digits 0)

-- The number of a column, the first of which is A.
def columnNumber (letters : List Char) : Nat := letters.foldl (fun number ch => 26*number+(ch.toNat-64)) 0

def readReference (reference : String) : Option CellPlace :=
  if (reference.toList.takeWhile Char.isUpper).isEmpty then none
  else (readNat (reference.toList.dropWhile Char.isUpper)).map fun row =>
    ⟨columnNumber (reference.toList.takeWhile Char.isUpper)-1,row⟩

def readText : List XmlNode → Option String
  | [] => some ""
  | [.text value] => some value
  | _ => none

section Reader
variable (codec : ReportCodec)

def readContent (type : Option String) (children : List XmlNode) : Option SheetValue :=
  match type,children with
  | some "inlineStr",[.element "is" _ [.element "t" _ texts]] => (readText texts).map .text
  | none,[.element "v" _ texts] => ((readText texts).bind codec.readNumber).map .number
  | none,[] => some .blank
  | _,_ => none

def readCell : XmlNode → Option (CellPlace × SheetValue)
  | .element "c" attributes children =>
      ((attributes.lookup "r").bind readReference).bind fun place =>
        (readContent codec (attributes.lookup "t") children).map fun value => (place,value)
  | _ => none

def readRow : XmlNode → Option (Nat × List (CellPlace × SheetValue))
  | .element "row" attributes cells =>
      ((attributes.lookup "r").bind fun number => readNat number.toList).bind fun number =>
        (cells.mapM (readCell codec)).map fun found => (number,found)
  | _ => none

def spreadsheetNamespace : String := "http://schemas.openxmlformats.org/spreadsheetml/2006/main"

def readSheet : XmlNode → Option (List (Nat × List (CellPlace × SheetValue)))
  | .element "worksheet" attributes [.element "sheetData" _ rows] =>
      if attributes.lookup "xmlns" = some spreadsheetNamespace then rows.mapM (readRow codec) else none
  | _ => none

end Reader

-- A cell reads as what it was, or with the apostrophe that keeps a text from being a formula.
def XlsxCell.ReadsAs : XlsxCell → SheetValue → Prop
  | .text original,.text found => found = original ∨ found = "'" ++ original
  | .number original,.number found => found = original
  | .blank,.blank => True
  | _,_ => False

-- The worksheet is well formed, and reads as these rows, each cell in its place.
def Faithful (codec : ReportCodec) (originals : List (List XlsxCell)) (xml : String) : Prop :=
  ∃ sheet, (parseXml xml).bind (readSheet codec) = some sheet ∧
    List.Forall₂ (fun (row,rowIndex) found => found.1 = rowIndex+1 ∧
      List.Forall₂ (fun (cell,colIndex) found => found.1 = ⟨colIndex,rowIndex+1⟩ ∧ XlsxCell.ReadsAs cell found.2)
        row.zipIdx found.2) originals.zipIdx sheet

-- A1 references.
theorem columnLetters_letter (colIndex : Nat) : ∀ ch ∈ columnLetters colIndex, ∃ letter < 26, ch = Char.ofNat (65+letter) := by
  induction colIndex using Nat.strong_induction_on with
  | _ colIndex ih =>
      rw [columnLetters]
      refine List.forall_mem_cons.mpr ⟨⟨colIndex%26,Nat.mod_lt _ (by decide),rfl⟩,?_⟩
      split_ifs with last
      · exact List.forall_mem_nil _
      · exact ih (colIndex/26-1) (by omega)

theorem letter_upper : ∀ letter < 26, (Char.ofNat (65+letter)).isUpper = true ∧ (Char.ofNat (65+letter)).toNat = 65+letter := by
  decide

theorem columnLetters_upper (colIndex : Nat) : ∀ ch ∈ columnLetters colIndex, ch.isUpper = true := by
  intro ch member
  obtain ⟨letter,small,same⟩ := columnLetters_letter colIndex ch member
  rw [same]
  exact (letter_upper letter small).1

theorem columnNumber_letters (colIndex : Nat) : columnNumber (columnLetters colIndex).reverse = colIndex+1 := by
  induction colIndex using Nat.strong_induction_on with
  | _ colIndex ih =>
      have digit := (letter_upper (colIndex%26) (Nat.mod_lt _ (by decide))).2
      rw [columnLetters,List.reverse_cons,columnNumber,List.foldl_concat,digit]
      split_ifs with last
      · simp only [List.reverse_nil,List.foldl_nil]
        omega
      · have front := ih (colIndex/26-1) (by omega)
        rw [columnNumber] at front
        rw [front]
        omega

theorem columnLetters_some (colIndex : Nat) : (columnLetters colIndex).reverse ≠ [] := by
  rw [columnLetters]
  simp

theorem digit_lower {ch : Char} (digit : ch.isDigit = true) : ch.isUpper = false := by
  simp only [Char.isDigit,Char.isUpper,Bool.and_eq_true,decide_eq_true_eq,decide_eq_false_iff_not,
    UInt32.le_iff_toNat_le,ge_iff_le] at digit ⊢
  simp at digit ⊢
  omega

theorem decimal_text (number : Nat) : (toString number).toList = Nat.toDigits 10 number := by
  rw [Nat.toString_eq_ofList_toDigits,String.toList_ofList]

theorem readNat_written (number : Nat) : readNat (toString number).toList = some number := by
  have digits : (Nat.toDigits 10 number).all Char.isDigit = true := List.all_eq_true.mpr (isDigit_toDigits number)
  have nonempty : (Nat.toDigits 10 number).isEmpty = false := by
    rw [List.isEmpty_eq_false_iff]
    exact Nat.toDigits_ne_nil
  rw [decimal_text,readNat,digits,nonempty,Nat.ofDigitChars_ten_toDigits]
  rfl

theorem readReference_written (colIndex rowNumber : Nat) :
    readReference (cellReference colIndex rowNumber) = some ⟨colIndex,rowNumber⟩ := by
  have upper : ∀ ch ∈ (columnLetters colIndex).reverse, ch.isUpper = true :=
    fun ch member => columnLetters_upper colIndex ch (List.mem_reverse.mp member)
  have text : (cellReference colIndex rowNumber).toList = (columnLetters colIndex).reverse ++ (toString rowNumber).toList := by
    rw [cellReference,String.toList_append,String.toList_ofList]
  have stops : (toString rowNumber).toList.takeWhile Char.isUpper = [] ∧
      (toString rowNumber).toList.dropWhile Char.isUpper = (toString rowNumber).toList := by
    cases digits : (toString rowNumber).toList with
    | nil => exact ⟨rfl,rfl⟩
    | cons first rest =>
        have digit := isDigit_toDigits rowNumber first (by rw [← decimal_text,digits]; exact List.mem_cons_self)
        have lower := digit_lower digit
        exact ⟨List.takeWhile_cons_of_neg (by simp [lower]),List.dropWhile_cons_of_neg (by simp [lower])⟩
  have letters : (cellReference colIndex rowNumber).toList.takeWhile Char.isUpper = (columnLetters colIndex).reverse := by
    rw [text,List.takeWhile_append_of_pos upper,stops.1,List.append_nil]
  have digits : (cellReference colIndex rowNumber).toList.dropWhile Char.isUpper = (toString rowNumber).toList := by
    rw [text,List.dropWhile_append_of_pos upper,stops.2]
  rw [readReference,letters,digits,readNat_written,columnNumber_letters,if_neg (mt List.isEmpty_iff.mp (columnLetters_some colIndex))]
  rfl

theorem plain_reference {text : String} (shown : ∀ ch ∈ text.toList, ch.isUpper = true ∨ ch.isDigit = true) :
    plainValue text = true := by
  refine List.all_eq_true.mpr fun ch member => ?_
  have named : isNameChar ch = true := by
    unfold isNameChar isNameStart Char.isAlpha
    rcases shown ch member with upper | digit
    · simp [upper]
    · simp [digit]
  have amp : ch ≠ '&' := by
    rintro rfl
    revert named
    decide
  obtain ⟨lt,_,quot,_,_,_,visible⟩ := nameChar_apart named
  simp [lt,quot,amp,visible,nameChar_xml named]

theorem cellReference_plain (colIndex rowNumber : Nat) : plainValue (cellReference colIndex rowNumber) = true := by
  refine plain_reference fun ch member => ?_
  rw [cellReference,String.toList_append,String.toList_ofList,decimal_text] at member
  rcases List.mem_append.mp member with letter | digit
  · exact .inl (columnLetters_upper colIndex ch (List.mem_reverse.mp letter))
  · exact .inr (isDigit_toDigits rowNumber ch digit)

theorem decimal_plain (number : Nat) : plainValue (toString number) = true := by
  refine plain_reference fun ch member => .inr ?_
  rw [decimal_text] at member
  exact isDigit_toDigits number ch member

-- The five replacements, one behind the other, are one replacement of each character.
theorem xmlEscape_escapes (value : String) : (xmlEscape value).toList = escapeXml value.toList := by
  unfold xmlEscape replaceChar escapeXml
  simp only [String.toList_ofList,List.flatMap_assoc]
  refine List.flatMap_congr fun ch _ => ?_
  rcases markup_cases ch with (rfl | rfl | rfl | rfl | rfl) | plain
  · decide
  · decide
  · decide
  · decide
  · decide
  · obtain ⟨amp,lt,gt,quot,apos⟩ := plain
    simp only [if_neg amp,if_neg lt,if_neg gt,if_neg quot,if_neg apos,xmlEntity,List.flatMap_cons,List.flatMap_nil,
      List.append_nil]

theorem escapeXml_numeric {text : List Char} (plain : ∀ ch ∈ text, isNumeric ch = true) : escapeXml text = text := by
  have kept : ∀ ch ∈ text, xmlEntity ch = [ch] := by
    intro ch member
    have numeric := plain ch member
    have apart : ch ≠ '&' ∧ ch ≠ '<' ∧ ch ≠ '>' ∧ ch ≠ '"' ∧ ch ≠ '\'' := by
      refine ⟨?_,?_,?_,?_,?_⟩ <;> rintro rfl <;> revert numeric <;> decide
    exact xmlEntity_plain apart
  rw [escapeXml,List.flatMap_congr kept,List.flatMap_singleton']

section Written
variable (codec : ReportCodec) (settle : List Char → List Char)

-- A cell, with its text settled before it is escaped.
def cellChars (reference : String) : XlsxCell → List Char
  | .text value =>
      openTag "c" [("r",reference),("t","inlineStr")] ++ (openTag "is" [] ++
        (openTag "t" [] ++ escapeXml (settle (spreadsheetTextEscape value).toList) ++ closeTag "t") ++ closeTag "is") ++ closeTag "c"
  | .number value =>
      openTag "c" [("r",reference)] ++ (openTag "v" [] ++ escapeXml (codec.number value).toList ++ closeTag "v") ++ closeTag "c"
  | .blank => emptyTag "c" [("r",reference)]

def cellNode (reference : String) : XlsxCell → XmlNode
  | .text value =>
      .element "c" [("r",reference),("t","inlineStr")] [.element "is" []
        [.element "t" [] (textNodes (settle (spreadsheetTextEscape value).toList))]]
  | .number value => .element "c" [("r",reference)] [.element "v" [] (textNodes (codec.number value).toList)]
  | .blank => .element "c" [("r",reference)] []

def rowChars (row : List XlsxCell) (rowIndex : Nat) : List Char :=
  openTag "row" [("r",toString (rowIndex+1))] ++
    (row.zipIdx.flatMap fun (cell,colIndex) => cellChars codec settle (cellReference colIndex (rowIndex+1)) cell) ++ closeTag "row"

def rowNode (row : List XlsxCell) (rowIndex : Nat) : XmlNode :=
  .element "row" [("r",toString (rowIndex+1))]
    (row.zipIdx.map fun (cell,colIndex) => cellNode codec settle (cellReference colIndex (rowIndex+1)) cell)

def sheetChars (rows : List (List XlsxCell)) : List Char :=
  openTag "sheetData" [] ++ (rows.zipIdx.flatMap fun (row,rowIndex) => rowChars codec settle row rowIndex) ++ closeTag "sheetData"

def sheetNode (rows : List (List XlsxCell)) : XmlNode :=
  .element "sheetData" [] (rows.zipIdx.map fun (row,rowIndex) => rowNode codec settle row rowIndex)

end Written

theorem cellXml_chars (reference : String) (cell : XlsxCell) :
    (cellXml codec reference cell).toList = cellChars codec id reference cell := by
  cases cell with
  | text value =>
      simp only [cellXml,cellChars,String.toList_append,xmlEscape_escapes]
      simp [openTag,closeTag,tagText,writeAttributes]
  | number value =>
      simp only [cellXml,cellChars,String.toList_append,escapeXml_numeric (codec.numeric value)]
      simp [openTag,closeTag,tagText,writeAttributes]
  | blank =>
      simp only [cellXml,cellChars,String.toList_append]
      simp [emptyTag,tagText,writeAttributes]

theorem join_chars {α : Type} (items : List α) (written : α → String) :
    (String.join (items.map written)).toList = items.flatMap fun item => (written item).toList := by
  rw [String.toList_join,List.flatMap_map]

theorem rowXml_chars (row : List XlsxCell) (rowIndex : Nat) :
    (rowXml codec row rowIndex).toList = rowChars codec id row rowIndex := by
  simp only [rowXml,rowChars,String.toList_append,join_chars,cellXml_chars]
  simp [openTag,closeTag,tagText,writeAttributes]

set_option maxRecDepth 4000 in
theorem worksheetHead_chars : worksheetHead.toList = xmlDeclaration ++
    '\n' :: (openTag "worksheet" [("xmlns",spreadsheetNamespace)] ++ openTag "sheetData" []) := by
  have head := @toList_literal worksheetHead _ rfl
  have space := @toList_literal spreadsheetNamespace _ rfl
  rw [head]
  simp only [openTag,tagText,writeAttributes,List.flatMap_cons,List.flatMap_nil,space]
  decide +kernel

theorem worksheetXml_chars (rows : List (List XlsxCell)) : (worksheetXml codec rows).toList = xmlDeclaration ++
    '\n' :: (openTag "worksheet" [("xmlns",spreadsheetNamespace)] ++ sheetChars codec id rows ++ closeTag "worksheet") := by
  have behind : "</sheetData></worksheet>".toList = closeTag "sheetData" ++ closeTag "worksheet" := by decide
  rw [worksheetXml,String.toList_append,String.toList_append,behind,join_chars,worksheetHead_chars,sheetChars]
  simp only [rowXml_chars,List.append_assoc,List.cons_append]

-- Every tag of a worksheet is a plain one.
theorem numbered_tag {name value : String} (named : plainName name = true) (valued : plainValue value = true) :
    PlainTag name [("r",value)] :=
  ⟨named,by simp; decide,by simpa using valued,by simp⟩

theorem typed_tag {value : String} (valued : plainValue value = true) :
    PlainTag "c" [("r",value),("t","inlineStr")] := by
  refine ⟨by decide,by simp; decide,?_,by simp⟩
  have type : plainValue "inlineStr" = true := by decide
  simp [valued,type]

theorem digit_xml {ch : Char} (digit : ch.isDigit = true) : isXmlChar ch = true := by
  refine nameChar_xml ?_
  simp [isNameChar,digit]

theorem numeric_xml {ch : Char} (numeric : isNumeric ch = true) : isXmlChar ch = true := by
  simp only [isNumeric,Bool.or_eq_true,decide_eq_true_eq] at numeric
  rcases numeric with ((((digit | rfl) | rfl) | rfl) | rfl) | rfl
  · exact digit_xml digit
  all_goals decide

section Settled
variable {settle : List Char → List Char} {reference : String}

theorem cell_settles (plain : plainValue reference = true) (cell : XlsxCell) :
    Settles (cellChars codec id reference cell) (cellChars codec (lineEnds false) reference cell) := by
  cases cell with
  | text value =>
      refine settles_element (typed_tag plain) ?_
      refine settles_element (plainTag_bare (by decide)) ?_
      exact settles_text (plainTag_bare (by decide)) _
  | number value =>
      refine settles_element (numbered_tag (by decide) plain) ?_
      refine settles_element (plainTag_bare (by decide)) (settles_plain ?_)
      rw [escapeXml_numeric (codec.numeric value)]
      intro return'
      exact Bool.false_ne_true ((by decide : isNumeric '\r' = false).symm.trans (codec.numeric value _ return'))
  | blank => exact settles_plain (emptyTag_chars (numbered_tag (by decide) plain)).2

theorem cell_adds (plain : plainValue reference = true) (cell : XlsxCell) :
    Adds (cellChars codec settle reference cell) [cellNode codec settle reference cell] := by
  cases cell with
  | text value =>
      refine adds_element (typed_tag plain) ?_
      refine adds_element (plainTag_bare (by decide)) ?_
      exact adds_text (plainTag_bare (by decide)) _
  | number value =>
      refine adds_element (numbered_tag (by decide) plain) ?_
      exact adds_text (plainTag_bare (by decide)) _
  | blank => exact adds_empty (numbered_tag (by decide) plain)

-- A cell of text decides by its text alone whether the worksheet is made of characters of XML.
def XlsxCell.Allowed : XlsxCell → Prop
  | .text value => ∀ ch ∈ value.toList, isXmlChar ch = true
  | _ => True

theorem guarded_allowed (value : String) : (spreadsheetTextEscape value).toList.all isXmlChar = value.toList.all isXmlChar := by
  unfold spreadsheetTextEscape
  split_ifs
  · rw [String.toList_append,List.all_append]
    exact Bool.true_and _
  · rfl

theorem cell_chars (plain : plainValue reference = true) (cell : XlsxCell) :
    (cellChars codec id reference cell).all isXmlChar = true ↔ cell.Allowed := by
  cases cell with
  | text value =>
      have name : plainName "is" = true ∧ plainName "t" = true := by decide
      rw [cellChars,element_chars (typed_tag plain),element_chars (plainTag_bare name.1),element_chars (plainTag_bare name.2),
        escapeXml_chars,id,guarded_allowed,List.all_eq_true]
      rfl
  | number value =>
      have numeric : (codec.number value).toList.all isXmlChar = true :=
        List.all_eq_true.mpr fun ch member => numeric_xml (codec.numeric value ch member)
      have name : plainName "c" = true ∧ plainName "v" = true := by decide
      rw [cellChars,element_chars (numbered_tag name.1 plain),element_chars (plainTag_bare name.2),escapeXml_chars,numeric]
      exact iff_of_true rfl trivial
  | blank => exact iff_of_true (emptyTag_chars (numbered_tag (by decide) plain)).1 trivial

end Settled

theorem row_settles (row : List XlsxCell) (rowIndex : Nat) :
    Settles (rowChars codec id row rowIndex) (rowChars codec (lineEnds false) row rowIndex) :=
  settles_element (numbered_tag (by decide) (decimal_plain _)) <|
    settles_flatMap fun (cell,colIndex) _ => cell_settles (cellReference_plain colIndex (rowIndex+1)) cell

theorem sheet_settles (rows : List (List XlsxCell)) :
    Settles (sheetChars codec id rows) (sheetChars codec (lineEnds false) rows) :=
  settles_element (plainTag_bare (by decide)) <| settles_flatMap fun (row,rowIndex) _ => row_settles row rowIndex

theorem row_adds (settle : List Char → List Char) (row : List XlsxCell) (rowIndex : Nat) :
    Adds (rowChars codec settle row rowIndex) [rowNode codec settle row rowIndex] :=
  adds_element (numbered_tag (by decide) (decimal_plain _)) <|
    adds_flatMap fun (cell,colIndex) _ => cell_adds (cellReference_plain colIndex (rowIndex+1)) cell

theorem sheet_adds (settle : List Char → List Char) (rows : List (List XlsxCell)) :
    Adds (sheetChars codec settle rows) [sheetNode codec settle rows] :=
  adds_element (plainTag_bare (by decide)) <| adds_flatMap fun (row,rowIndex) _ => row_adds settle row rowIndex

theorem forall_zipIdx {α : Type} {items : List α} {holds : α → Prop} :
    (∀ entry ∈ items.zipIdx, holds entry.1) ↔ ∀ item ∈ items, holds item := by
  rw [← @List.forall_mem_map _ _ Prod.fst,List.zipIdx_map_fst]

theorem sheet_chars (rows : List (List XlsxCell)) :
    (sheetChars codec id rows).all isXmlChar = true ↔ ∀ row ∈ rows, ∀ cell ∈ row, cell.Allowed := by
  have name : plainName "sheetData" = true ∧ plainName "row" = true := by decide
  have each : ∀ row : List XlsxCell, ∀ rowIndex : Nat,
      (rowChars codec id row rowIndex).all isXmlChar = true ↔ ∀ cell ∈ row, cell.Allowed := by
    intro row rowIndex
    rw [rowChars,element_chars (numbered_tag name.2 (decimal_plain _)),List.all_flatMap,List.all_eq_true]
    have cells := forall₂_congr fun (entry : XlsxCell × Nat) (_ : entry ∈ row.zipIdx) =>
      @cell_chars codec _ (cellReference_plain entry.2 (rowIndex+1)) entry.1
    exact cells.trans forall_zipIdx
  rw [sheetChars,element_chars (plainTag_bare name.1),List.all_flatMap,List.all_eq_true]
  have every := forall₂_congr fun (entry : List XlsxCell × Nat) (_ : entry ∈ rows.zipIdx) => each entry.1 entry.2
  exact every.trans (@forall_zipIdx _ rows fun row => ∀ cell ∈ row, XlsxCell.Allowed cell)

theorem parse_worksheet (rows : List (List XlsxCell)) : parseXml (worksheetXml codec rows) =
    if (sheetChars codec id rows).all isXmlChar then
      some (.element "worksheet" [("xmlns",spreadsheetNamespace)] [sheetNode codec (lineEnds false) rows])
    else none := by
  have tag : PlainTag "worksheet" [("xmlns",spreadsheetNamespace)] :=
    ⟨by decide,by simp; decide,by simp; decide +kernel,by simp⟩
  have read := parseXml_written tag (@sheet_settles codec rows) (sheet_adds (lineEnds false) rows)
  rw [← worksheetXml_chars,String.ofList_toList] at read
  exact read

-- What is found in a cell.
def XlsxCell.found : XlsxCell → SheetValue
  | .text value => .text (String.ofList (lineEnds false (spreadsheetTextEscape value).toList))
  | .number value => .number value
  | .blank => .blank

def foundRow (row : List XlsxCell) (rowIndex : Nat) : Nat × List (CellPlace × SheetValue) :=
  (rowIndex+1,row.zipIdx.map fun (cell,colIndex) => (⟨colIndex,rowIndex+1⟩,cell.found))

theorem readText_nodes (text : List Char) : readText (textNodes text) = some (String.ofList text) := by
  unfold textNodes
  split_ifs with empty
  · rw [empty]
    rfl
  · rfl

theorem readCell_written (colIndex rowNumber : Nat) (cell : XlsxCell) :
    readCell codec (cellNode codec (lineEnds false) (cellReference colIndex rowNumber) cell) =
      some (⟨colIndex,rowNumber⟩,cell.found) := by
  cases cell with
  | text value => simp [cellNode,readCell,List.lookup,readReference_written,readContent,readText_nodes,XlsxCell.found]
  | number value =>
      simp [cellNode,readCell,List.lookup,readReference_written,readContent,readText_nodes,XlsxCell.found,codec.read_number]
  | blank => simp [cellNode,readCell,List.lookup,readReference_written,readContent,XlsxCell.found]

theorem mapM_written {α β γ : Type} {items : List α} {node : α → β} {read : β → Option γ} {value : α → γ}
    (each : ∀ item, read (node item) = some (value item)) : (items.map node).mapM read = some (items.map value) := by
  induction items with
  | nil => rfl
  | cons item items ih =>
      rw [List.map_cons,List.mapM_cons,each,ih]
      rfl

theorem readRow_written (row : List XlsxCell) (rowIndex : Nat) :
    readRow codec (rowNode codec (lineEnds false) row rowIndex) = some (foundRow row rowIndex) := by
  have cells := @mapM_written _ _ _ row.zipIdx
    (fun entry => cellNode codec (lineEnds false) (cellReference entry.2 (rowIndex+1)) entry.1) (readCell codec) _
    (fun entry => readCell_written entry.2 (rowIndex+1) entry.1)
  simp only [rowNode,readRow,List.lookup,beq_self_eq_true,Option.bind_some,readNat_written,cells]
  rfl

theorem read_worksheet (rows : List (List XlsxCell)) : (parseXml (worksheetXml codec rows)).bind (readSheet codec) =
    if (sheetChars codec id rows).all isXmlChar then some (rows.zipIdx.map fun (row,rowIndex) => foundRow row rowIndex)
    else none := by
  have found := @mapM_written _ _ _ rows.zipIdx (fun entry => rowNode codec (lineEnds false) entry.1 entry.2) (readRow codec) _
    (fun entry => readRow_written entry.1 entry.2)
  rw [parse_worksheet]
  split_ifs
  · simp only [Option.bind_some,sheetNode,readSheet,List.lookup,beq_self_eq_true,if_true]
    exact found
  · rfl

theorem forall₂_zipIdx {α β : Type} {related : α → β → Prop} {items : List α} {others : List β} (start : Nat) :
    List.Forall₂ (fun entry other => other.2 = entry.2 ∧ related entry.1 other.1) (items.zipIdx start) (others.zipIdx start) ↔
      List.Forall₂ related items others := by
  induction items generalizing others start with
  | nil =>
      cases others with
      | nil => simp
      | cons other others => simp
  | cons item items ih =>
      cases others with
      | nil => simp
      | cons other others =>
          rw [List.zipIdx_cons,List.zipIdx_cons,List.forall₂_cons,List.forall₂_cons,ih]
          simp

theorem forall₂_iff {α β : Type} {related other : α → β → Prop} {items : List α} {others : List β}
    (same : ∀ item value, related item value ↔ other item value) :
    List.Forall₂ related items others ↔ List.Forall₂ other items others := by
  have equal : related = other := by
    funext item value
    exact propext (same item value)
  rw [equal]

theorem forall₂_and_right {α β : Type} {related : α → β → Prop} {holds : β → Prop} {items : List α} {others : List β} :
    List.Forall₂ (fun item value => holds value ∧ related item value) items others ↔
      (∀ value ∈ others, holds value) ∧ List.Forall₂ related items others := by
  have flipped := @List.forall₂_and_left _ _ (flip related) holds others items
  constructor
  · intro both
    obtain ⟨every,rest⟩ := flipped.mp both.flip
    exact ⟨every,rest.flip⟩
  · intro both
    exact (flipped.mpr ⟨both.1,both.2.flip⟩).flip

-- A worksheet cell of which nothing is lost.
def XlsxCell.Kept (original cell : XlsxCell) : Prop := cell.Allowed ∧ original.ReadsAs cell.found

theorem faithful_iff {originals rows : List (List XlsxCell)} :
    Faithful codec originals (worksheetXml codec rows) ↔ List.Forall₂ (List.Forall₂ XlsxCell.Kept) originals rows := by
  have inRow : ∀ (original row : List XlsxCell) (rowIndex : Nat),
      List.Forall₂ (fun (cell,colIndex) found => found.1 = ⟨colIndex,rowIndex+1⟩ ∧ XlsxCell.ReadsAs cell found.2)
        original.zipIdx (foundRow row rowIndex).2 ↔ List.Forall₂ (fun original cell => original.ReadsAs cell.found) original row := by
    intro original row rowIndex
    rw [foundRow,List.forall₂_map_right_iff,← @forall₂_zipIdx _ _ _ original row 0]
    refine forall₂_iff fun entry other => and_congr_left fun _ => ?_
    simp
  have inSheet : List.Forall₂ (fun (row,rowIndex) found => found.1 = rowIndex+1 ∧
      List.Forall₂ (fun (cell,colIndex) found => found.1 = ⟨colIndex,rowIndex+1⟩ ∧ XlsxCell.ReadsAs cell found.2)
        row.zipIdx found.2) originals.zipIdx (rows.zipIdx.map fun (row,rowIndex) => foundRow row rowIndex) ↔
      List.Forall₂ (List.Forall₂ fun original cell => original.ReadsAs cell.found) originals rows := by
    rw [List.forall₂_map_right_iff,← @forall₂_zipIdx _ _ _ originals rows 0]
    refine forall₂_iff fun (original,originalIndex) (row,rowIndex) => ?_
    constructor
    · intro ⟨number,cells⟩
      cases Nat.succ.inj number
      exact ⟨rfl,(inRow original row _).mp cells⟩
    · intro ⟨index,cells⟩
      cases index
      exact ⟨rfl,(inRow original row _).mpr cells⟩
  have kept : List.Forall₂ (List.Forall₂ XlsxCell.Kept) originals rows ↔ (∀ row ∈ rows, ∀ cell ∈ row, cell.Allowed) ∧
      List.Forall₂ (List.Forall₂ fun original cell => original.ReadsAs cell.found) originals rows := by
    rw [← forall₂_and_right]
    exact forall₂_iff fun original row => forall₂_and_right
  rw [kept,← inSheet,Faithful,read_worksheet,← @sheet_chars codec]
  split_ifs with allowed
  · simp [allowed]
  · simp [allowed]

theorem text_read (value : String) : (XlsxCell.text value).ReadsAs (XlsxCell.text value).found ↔ '\r' ∉ value.toList := by
  have guarded : spreadsheetTextEscape value = value ∨ spreadsheetTextEscape value = "'" ++ value := by
    unfold spreadsheetTextEscape
    split_ifs
    · exact .inr rfl
    · exact .inl rfl
  constructor
  · intro read return'
    have settled := lineEnds_no_return false (spreadsheetTextEscape value).toList
    rcases read with same | same <;> rw [← String.toList_inj,String.toList_ofList] at same <;> rw [same] at settled
    · exact settled return'
    · exact settled (by rw [String.toList_append]; exact List.mem_append_right _ return')
  · intro plain
    have kept : '\r' ∉ (spreadsheetTextEscape value).toList := by
      rcases guarded with same | same
      · rw [same]
        exact plain
      · rw [same,String.toList_append]
        exact fun inside => (List.mem_append.mp inside).elim (by decide) plain
    rw [XlsxCell.found,@lineEnds_plain _ false kept nofun,String.ofList_toList]
    exact guarded

theorem kept_text {value : String} :
    (XlsxCell.text value).Kept (.text value) ↔ ∀ ch ∈ value.toList, isXmlChar ch = true ∧ ch ≠ '\r' := by
  unfold XlsxCell.Kept
  rw [text_read]
  constructor
  · intro ⟨allowed,plain⟩ ch member
    refine ⟨allowed ch member,?_⟩
    rintro rfl
    exact plain member
  · intro every
    exact ⟨fun ch member => (every ch member).1,fun return' => (every _ return').2 rfl⟩

theorem kept_number {original value : ℚ} : (XlsxCell.number original).Kept (.number value) ↔ value = original := by
  unfold XlsxCell.Kept
  exact and_iff_right trivial

theorem kept_same_number {value : Option ℚ} : (XlsxCell.optionalNumber value).Kept (.optionalNumber value) := by
  cases value with
  | none => exact ⟨trivial,trivial⟩
  | some value => exact kept_number.mpr rfl

theorem kept_timestamp (moment : Instant) : (XlsxCell.text (codec.toRfc3339 moment)).Kept (.text (codec.toRfc3339 moment)) := by
  refine kept_text.mpr fun ch member => ?_
  have stamp := codec.timestamp moment ch member
  simp only [isTimestamp,Bool.or_eq_true,decide_eq_true_eq] at stamp
  refine ⟨?_,?_⟩
  · rcases stamp with ((((digit | rfl) | rfl) | rfl) | rfl) | rfl
    · exact digit_xml digit
    all_goals decide
  · rintro rfl
    revert stamp
    decide

-- The rows of the three worksheets with every number as it was before it became a double.
section Originals
variable (codec : ReportCodec)

def batchOriginal (outcomes : List BatchOutcome) (batch : Batch) : List XlsxCell :=
  let outcome := outcomeOf outcomes batch
  [.number batch.id,
    .optionalNumber (batch.processId.map fun processId => (processId : ℚ)),
    .text batch.name,
    .text (codec.toRfc3339 batch.startedAt),
    .optionalText (batch.finishedAt.map codec.toRfc3339),
    .number batch.targetTemperatureC,
    .number batch.targetStirrerRpm,
    .number batch.heatingMinutes,
    .number batch.stirringMinutes,
    .optionalNumber (outcome.map (·.yieldPercent)),
    .optionalNumber (outcome.map (·.productRatio))]

def batchOriginals (batches : List Batch) (outcomes : List BatchOutcome) : List (List XlsxCell) :=
  xlsxRow ["id","process_id","name","started_at","finished_at","target_temperature_c","target_stirrer_rpm",
    "heating_minutes","stirring_minutes","yield_percent","product_ratio"] :: batches.map (batchOriginal codec outcomes)

def resultOriginal (outcome : BatchOutcome) : List XlsxCell :=
  [.number outcome.batchId,
    .number outcome.targetTemperatureC,
    .number outcome.targetStirrerRpm,
    .number outcome.heatingMinutes,
    .number outcome.stirringMinutes,
    .number outcome.yieldPercent,
    .number outcome.productRatio]

def resultOriginals (outcomes : List BatchOutcome) : List (List XlsxCell) :=
  xlsxRow ["batch_id","target_temperature_c","target_stirrer_rpm","heating_minutes","stirring_minutes","yield_percent",
    "product_ratio"] :: outcomes.map resultOriginal

def finishedCount (batches : List Batch) : Nat := (batches.filter fun batch => batch.finishedAt.isSome).length

def summaryOriginals (batches : List Batch) (outcomes : List BatchOutcome) : List (List XlsxCell) :=
  [xlsxRow ["metric","value"],
    [.text "total_batches",.number batches.length],
    [.text "completed_batches",.number (finishedCount batches)],
    [.text "recorded_results",.number outcomes.length],
    [.text "average_yield_percent",.optionalNumber (average (outcomes.map (·.yieldPercent)))],
    [.text "average_product_ratio",.optionalNumber (average (outcomes.map (·.productRatio)))]]

end Originals

-- An integer that is a double.
def IsDouble (value : Int) : Prop := asF64 value = value

instance (value : Int) : Decidable (IsDouble value) := inferInstanceAs (Decidable (asF64 value = value))

structure Exportable (batches : List Batch) (outcomes : List BatchOutcome) : Prop where
  names : ∀ batch ∈ batches, ∀ ch ∈ batch.name.toList, isXmlChar ch = true ∧ ch ≠ '\r'
  ids : ∀ batch ∈ batches, IsDouble batch.id ∧ ∀ processId ∈ batch.processId, IsDouble processId
  results : ∀ outcome ∈ outcomes, IsDouble outcome.batchId
  counts : IsDouble batches.length ∧ IsDouble (finishedCount batches) ∧ IsDouble outcomes.length

theorem kept_option_int {value : Option Int} :
    (XlsxCell.optionalNumber (value.map fun number => (number : ℚ))).Kept (.optionalNumber (value.map asF64)) ↔
      ∀ number ∈ value, IsDouble number := by
  cases value with
  | none => exact iff_of_true ⟨trivial,trivial⟩ nofun
  | some value =>
      refine kept_number.trans ?_
      simp [IsDouble]

theorem kept_option_timestamp (moment : Option Instant) :
    (XlsxCell.optionalText (moment.map codec.toRfc3339)).Kept (.optionalText (moment.map codec.toRfc3339)) := by
  cases moment with
  | none => exact ⟨trivial,trivial⟩
  | some moment => exact kept_timestamp moment

theorem kept_label {value : String} (plain : value.toList.all (fun ch => isXmlChar ch && ch ≠ '\r') = true) :
    (XlsxCell.text value).Kept (.text value) := by
  refine kept_text.mpr fun ch member => ?_
  simpa using List.all_eq_true.mp plain ch member

theorem kept_header {values : List String}
    (plain : values.all (fun value => value.toList.all fun ch => isXmlChar ch && ch ≠ '\r') = true) :
    List.Forall₂ XlsxCell.Kept (xlsxRow values) (xlsxRow values) := by
  refine List.forall₂_same.mpr fun cell member => ?_
  obtain ⟨value,listed,rfl⟩ := List.mem_map.mp member
  exact kept_label (List.all_eq_true.mp plain value listed)

theorem batchOriginal_kept (outcomes : List BatchOutcome) (batch : Batch) :
    List.Forall₂ XlsxCell.Kept (batchOriginal codec outcomes batch) (batchRow codec outcomes batch) ↔
      (∀ ch ∈ batch.name.toList, isXmlChar ch = true ∧ ch ≠ '\r') ∧ IsDouble batch.id ∧
        ∀ processId ∈ batch.processId, IsDouble processId := by
  simp only [batchOriginal,batchRow,List.forall₂_cons,kept_number,kept_option_int,@kept_text batch.name,kept_timestamp,
    kept_option_timestamp,kept_same_number,List.Forall₂.nil,and_true]
  rw [← and_assoc,and_comm]
  rfl

theorem resultOriginal_kept (outcome : BatchOutcome) :
    List.Forall₂ XlsxCell.Kept (resultOriginal outcome) (resultRow outcome) ↔ IsDouble outcome.batchId := by
  simp only [resultOriginal,resultRow,List.forall₂_cons,kept_number,List.Forall₂.nil,and_true]
  rfl

theorem summary_kept (batches : List Batch) (outcomes : List BatchOutcome) :
    List.Forall₂ (List.Forall₂ XlsxCell.Kept) (summaryOriginals batches outcomes) (summaryRows batches outcomes) ↔
      IsDouble batches.length ∧ IsDouble (finishedCount batches) ∧ IsDouble outcomes.length := by
  have header : List.Forall₂ XlsxCell.Kept (xlsxRow ["metric","value"]) (xlsxRow ["metric","value"]) := kept_header (by decide)
  have labels := And.intro (@kept_label "total_batches" (by decide)) <| And.intro (@kept_label "completed_batches" (by decide)) <|
    And.intro (@kept_label "recorded_results" (by decide)) <|
    And.intro (@kept_label "average_yield_percent" (by decide)) (@kept_label "average_product_ratio" (by decide))
  simp only [summaryOriginals,summaryRows,List.forall₂_cons,header,labels,kept_number,kept_same_number,List.Forall₂.nil,
    true_and,and_true]
  rfl

theorem batches_faithful_iff (batches : List Batch) (outcomes : List BatchOutcome) :
    Faithful codec (batchOriginals codec batches outcomes) (worksheetXml codec (batchRows codec batches outcomes)) ↔
      ∀ batch ∈ batches, (∀ ch ∈ batch.name.toList, isXmlChar ch = true ∧ ch ≠ '\r') ∧ IsDouble batch.id ∧
        ∀ processId ∈ batch.processId, IsDouble processId := by
  rw [faithful_iff,batchOriginals,batchRows,List.forall₂_cons,and_iff_right (kept_header (by decide)),
    List.forall₂_map_left_iff,List.forall₂_map_right_iff,List.forall₂_same]
  exact forall₂_congr fun batch _ => batchOriginal_kept outcomes batch

theorem results_faithful_iff (outcomes : List BatchOutcome) :
    Faithful codec (resultOriginals outcomes) (worksheetXml codec (resultRows outcomes)) ↔
      ∀ outcome ∈ outcomes, IsDouble outcome.batchId := by
  rw [faithful_iff,resultOriginals,resultRows,List.forall₂_cons,and_iff_right (kept_header (by decide)),
    List.forall₂_map_left_iff,List.forall₂_map_right_iff,List.forall₂_same]
  exact forall₂_congr fun outcome _ => resultOriginal_kept outcome

theorem workbook_faithful_iff (codec : ReportCodec) (batches : List Batch) (outcomes : List BatchOutcome) :
    List.Forall₂ (Faithful codec)
      [batchOriginals codec batches outcomes,resultOriginals outcomes,summaryOriginals batches outcomes]
      (batchesWorksheets codec batches outcomes) ↔ Exportable batches outcomes := by
  rw [batchesWorksheets,List.forall₂_cons,List.forall₂_cons,List.forall₂_cons,batches_faithful_iff,results_faithful_iff,
    faithful_iff,summary_kept,and_iff_left List.Forall₂.nil]
  constructor
  · intro ⟨named,results,counts⟩
    exact ⟨fun batch member => (named batch member).1,fun batch member => (named batch member).2,results,counts⟩
  · intro exportable
    exact ⟨fun batch member => ⟨exportable.names batch member,exportable.ids batch member⟩,exportable.results,exportable.counts⟩

-- An operator has started a process under a name that ends with a control character.
def controlBatch : Batch where
  id := 1
  processId := some 1
  name := "lot 7\x01"
  startedAt := 0
  finishedAt := none
  targetTemperatureC := 60
  targetStirrerRpm := 300
  heatingMinutes := 10
  stirringMinutes := 10

theorem control_character_unreadable : trim controlBatch.name = controlBatch.name ∧
    parseXml (worksheetXml benchReports (batchRows benchReports [controlBatch] [])) = none ∧
    ¬List.Forall₂ (Faithful benchReports)
      [batchOriginals benchReports [controlBatch] [],resultOriginals [],summaryOriginals [controlBatch] []]
      (batchesWorksheets benchReports [controlBatch] []) := by
  have unallowed : ¬(XlsxCell.text controlBatch.name).Allowed := by
    intro allowed
    exact absurd (allowed '\x01' (by decide)) (by decide)
  refine ⟨by decide +kernel,?_,?_⟩
  · rw [parse_worksheet,if_neg]
    intro all
    have cells := (sheet_chars _).mp all (batchRow benchReports [] controlBatch) (List.mem_cons_of_mem _ List.mem_cons_self)
    exact unallowed (cells (.text controlBatch.name) (by simp [batchRow]))
  · intro faithful
    rw [batchesWorksheets,List.forall₂_cons,batches_faithful_iff] at faithful
    have named := (faithful.1 controlBatch List.mem_cons_self).1
    exact unallowed fun ch member => (named ch member).1

end ReactorOS
