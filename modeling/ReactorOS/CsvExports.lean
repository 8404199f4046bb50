import ReactorOS.Reports
import ReactorOS.TamperEvidence
namespace ReactorOS
open Wire
variable {codec : ReportCodec} {text : String}

-- A spreadsheet takes no such text for a formula.
def FormulaSafe (text : String) : Prop :=
  ∀ ch ∈ (text.toList.dropWhile isWhitespace).head?, ch ≠ '=' ∧ ch ≠ '+' ∧ ch ≠ '-' ∧ ch ≠ '@'

-- What stands in a column: a value as it is displayed, or a text that somebody has written.
inductive Column where
  | value (shown : String)
  | text (original : String)

-- How a column is read back.
def Column.Reads : Column → String → Prop
  | .value shown,field => field = shown
  | .text original,field => (field = original ∨ field = "'" ++ original) ∧ FormulaSafe field

-- An export reads as its header and one record for each of its rows, in their order.
def ReadsAs (csv : String) (header : List String) (rows : List (List Column)) : Prop :=
  ∃ records, parseCsv csv = some (header :: records) ∧ List.Forall₂ (List.Forall₂ Column.Reads) rows records

def auditColumns (codec : ReportCodec) (event : ControlEventRecord) : List Column :=
  [.value (toString event.id),
    .value (optionText toString event.batchId),
    .text event.eventType,
    .text event.actor,
    .text event.role,
    .value (optionText codec.number event.targetTemperatureC),
    .value (optionText codec.number event.targetStirrerRpm),
    .value (optionText codec.number event.targetShakeSpeedCpm),
    .text event.reason,
    .value (codec.toRfc3339 event.moment),
    .value (event.previousHash.getD ""),
    .value (event.eventHash.getD "")]

def batchColumns (codec : ReportCodec) (outcomes : List BatchOutcome) (batch : Batch) : List Column :=
  [.value (toString batch.id),
    .value (optionText toString batch.processId),
    .text batch.name,
    .value (codec.toRfc3339 batch.startedAt),
    .value (optionText codec.toRfc3339 batch.finishedAt),
    .value (codec.number batch.targetTemperatureC),
    .value (codec.number batch.targetStirrerRpm),
    .value (codec.number batch.heatingMinutes),
    .value (codec.number batch.stirringMinutes),
    .value (optionText codec.number ((outcomeOf outcomes batch).map (·.yieldPercent))),
    .value (optionText codec.number ((outcomeOf outcomes batch).map (·.productRatio)))]

def isHex (ch : Char) : Bool := ch.isDigit || ('a' ≤ ch && ch ≤ 'f')

def Hexadecimal (hash : Option String) : Prop := ∀ text ∈ hash, ∀ ch ∈ text.toList, isHex ch = true

theorem formulaSafe_iff : FormulaSafe text ↔ spreadsheetTextNeedsFormulaEscape text = false := by
  unfold FormulaSafe spreadsheetTextNeedsFormulaEscape
  cases text.toList.dropWhile isWhitespace with
  | nil => simp
  | cons ch rest => simp [and_assoc]

theorem formulaSafe_guarded (text : String) : FormulaSafe ("'" ++ text) := by
  intro ch first
  have front : ("'" ++ text).toList.dropWhile isWhitespace = '\'' :: text.toList := by
    rw [String.toList_append]
    exact List.dropWhile_cons_of_neg (by decide)
  rw [front] at first
  cases first
  decide

theorem spreadsheetTextEscape_reads (text : String) : (Column.text text).Reads (spreadsheetTextEscape text) := by
  unfold spreadsheetTextEscape
  by_cases formula : spreadsheetTextNeedsFormulaEscape text = true
  · rw [if_pos formula]
    exact ⟨.inr rfl,formulaSafe_guarded text⟩
  · rw [if_neg formula]
    exact ⟨.inl rfl,formulaSafe_iff.mpr (Bool.eq_false_iff.mpr formula)⟩

-- The field that is written for a text is one of the two ways to write the guarded text.
theorem csvEscape_writes (text : String) : Writes (csvEscape text).toList (spreadsheetTextEscape text).toList := by
  unfold csvEscape
  by_cases quote : ((spreadsheetTextEscape text).toList.any fun ch => ch = ',' || ch = '"' || ch = '\n' || ch = '\r') ||
      spreadsheetTextNeedsFormulaEscape text
  · simp only [quote,if_true,String.toList_ofList]
    exact .quoted _
  · simp only [quote,Bool.false_eq_true,if_false]
    refine .bare ?_
    rw [Bool.not_eq_true,Bool.or_eq_false_iff] at quote
    have plain := List.any_eq_false.mp quote.1
    refine List.all_eq_true.mpr fun ch member => ?_
    have here := plain ch member
    simp only [Bool.or_eq_true,decide_eq_true_eq,not_or] at here
    obtain ⟨⟨⟨comma,quoted⟩,line⟩,carriage⟩ := here
    simp [comma,quoted,line,carriage]

-- A value that is displayed stands in its field as it is.
theorem bare_of {allows : Char → Bool} (apart : ∀ ch, allows ch = true → ch ≠ ',' ∧ ch ≠ '"' ∧ ch ≠ '\n' ∧ ch ≠ '\r')
    (plain : ∀ ch ∈ text.toList, allows ch = true) : bare text.toList = true := by
  refine List.all_eq_true.mpr fun ch member => ?_
  obtain ⟨comma,quoted,line,carriage⟩ := apart ch (plain ch member)
  simp [comma,quoted,line,carriage]

theorem bare_numeric (plain : ∀ ch ∈ text.toList, isNumeric ch = true) : bare text.toList = true := by
  refine bare_of (fun ch numeric => ?_) plain
  refine ⟨?_,?_,?_,?_⟩ <;> rintro rfl <;> revert numeric <;> decide

theorem bare_timestamp (plain : ∀ ch ∈ text.toList, isTimestamp ch = true) : bare text.toList = true := by
  refine bare_of (fun ch stamp => ?_) plain
  refine ⟨?_,?_,?_,?_⟩ <;> rintro rfl <;> revert stamp <;> decide

theorem bare_hex {hash : Option String} (plain : Hexadecimal hash) : bare (hash.getD "").toList = true := by
  cases hash with
  | none => rfl
  | some text =>
      refine bare_of (fun ch hex => ?_) (plain text rfl)
      refine ⟨?_,?_,?_,?_⟩ <;> rintro rfl <;> revert hex <;> decide

theorem bare_option {α : Type} {shown : α → String} (plain : ∀ value, bare (shown value).toList = true) (value : Option α) :
    bare (optionText shown value).toList = true := by
  cases value with
  | none => rfl
  | some value => exact plain value

-- A field as it is written stands for one that the column reads as.
def Stands (column : Column) (written : String) : Prop := ∃ field, Writes written.toList field.toList ∧ column.Reads field

theorem stands_text (text : String) : Stands (.text text) (csvEscape text) :=
  ⟨spreadsheetTextEscape text,csvEscape_writes text,spreadsheetTextEscape_reads text⟩

theorem stands_value (plain : bare text.toList = true) : Stands (.value text) text := ⟨text,.bare plain,rfl⟩

theorem csvRecord_line {fields : List String} : (csvRecord fields).toList = csvLine (fields.map String.toList) := by
  unfold csvRecord
  rw [String.toList_append,String.toList_intercalate]
  induction fields with
  | nil => rfl
  | cons field fields ih =>
      cases fields with
      | nil => simp [csvLine]
      | cons next rest =>
          simp only [List.map_cons] at ih ⊢
          rw [csvLine,← ih]
          · simp
          · intro empty
            cases empty

-- What the records of an export stand for is what it is read as.
theorem readsAs_records {header : List String} {rows : List (List Column)} {records : List (List String)}
    (plain : (header.all fun field => bare field.toList) = true) (some' : header ≠ [])
    (stand : List.Forall₂ (List.Forall₂ Stands) rows records) (full : ∀ record ∈ records, record ≠ []) :
    ReadsAs (csvRecord header ++ String.join (records.map csvRecord)) header rows := by
  have fields : ∀ {columns : List Column} {record : List String}, List.Forall₂ Stands columns record →
      ∃ texts : List String, List.Forall₂ Writes (record.map String.toList) (texts.map String.toList) ∧
        List.Forall₂ Column.Reads columns texts := by
    intro columns record stands
    induction stands with
    | nil => exact ⟨[],.nil,.nil⟩
    | cons here _ ih =>
        obtain ⟨field,writes,reads⟩ := here
        obtain ⟨texts,written,read⟩ := ih
        exact ⟨field :: texts,.cons writes written,.cons reads read⟩
  have lines : ∃ texts : List (List String), List.Forall₂ (List.Forall₂ Writes) (records.map (·.map String.toList))
      (texts.map (·.map String.toList)) ∧ List.Forall₂ (List.Forall₂ Column.Reads) rows texts := by
    clear full
    induction stand with
    | nil => exact ⟨[],.nil,.nil⟩
    | cons here _ ih =>
        obtain ⟨texts,written,read⟩ := ih
        obtain ⟨line,writes,reads⟩ := fields here
        exact ⟨line :: texts,.cons writes written,.cons reads read⟩
  obtain ⟨texts,written,read⟩ := lines
  refine ⟨texts,?_,read⟩
  have head : List.Forall₂ Writes (header.map String.toList) (header.map String.toList) := by
    rw [List.forall₂_same]
    intro field member
    obtain ⟨original,listed,rfl⟩ := List.mem_map.mp member
    exact .bare (List.all_eq_true.mp plain original listed)
  have parsed := parseCsv_lines (.cons head written) (by
    intro line member
    rcases List.mem_cons.mp member with rfl | later
    · simpa using some'
    · obtain ⟨record,listed,rfl⟩ := List.mem_map.mp later
      simpa using full record listed)
  have same : csvRecord header ++ String.join (records.map csvRecord) = String.ofList
      ((header.map String.toList :: records.map (·.map String.toList)).flatMap csvLine) := by
    rw [← String.toList_inj,String.toList_ofList,String.toList_append,String.toList_join,List.flatMap_cons,csvRecord_line,
      List.flatMap_map,List.flatMap_map]
    simp only [csvRecord_line]
  rw [same,parsed]
  simp [Function.comp_def]

theorem auditCsvFields_stand {event : ControlEventRecord} (previous : Hexadecimal event.previousHash)
    (hash : Hexadecimal event.eventHash) : List.Forall₂ Stands (auditColumns codec event) (auditCsvFields codec event) := by
  have int : ∀ value : Int, bare (toString value).toList = true := fun value => bare_numeric (int_text_numeric value)
  have number : ∀ value, bare (codec.number value).toList = true := fun value => bare_numeric (codec.numeric value)
  have stamp : ∀ moment, bare (codec.toRfc3339 moment).toList = true := fun moment => bare_timestamp (codec.timestamp moment)
  refine .cons (stands_value (int _)) <| .cons (stands_value (bare_option int _)) <| .cons (stands_text _) <| ?_
  refine .cons (stands_text _) <| .cons (stands_text _) <| .cons (stands_value (bare_option number _)) <| ?_
  refine .cons (stands_value (bare_option number _)) <| .cons (stands_value (bare_option number _)) <| ?_
  refine .cons (stands_text _) <| .cons (stands_value (stamp _)) <| ?_
  exact .cons (stands_value (bare_hex previous)) <| .cons (stands_value (bare_hex hash)) .nil

theorem batchCsvFields_stand {outcomes : List BatchOutcome} {batch : Batch} :
    List.Forall₂ Stands (batchColumns codec outcomes batch) (batchCsvFields codec outcomes batch) := by
  have int : ∀ value : Int, bare (toString value).toList = true := fun value => bare_numeric (int_text_numeric value)
  have number : ∀ value, bare (codec.number value).toList = true := fun value => bare_numeric (codec.numeric value)
  have stamp : ∀ moment, bare (codec.toRfc3339 moment).toList = true := fun moment => bare_timestamp (codec.timestamp moment)
  refine .cons (stands_value (int _)) <| .cons (stands_value (bare_option int _)) <| .cons (stands_text _) <| ?_
  refine .cons (stands_value (stamp _)) <| .cons (stands_value (bare_option stamp _)) <| ?_
  refine .cons (stands_value (number _)) <| .cons (stands_value (number _)) <| ?_
  refine .cons (stands_value (number _)) <| .cons (stands_value (number _)) <| ?_
  exact .cons (stands_value (bare_option number _)) <| .cons (stands_value (bare_option number _)) .nil

theorem csv_exports_read_back (codec : ReportCodec) (events : List ControlEventRecord) (batches : List Batch)
    (outcomes : List BatchOutcome)
    (hashes : ∀ event ∈ events, Hexadecimal event.previousHash ∧ Hexadecimal event.eventHash) :
    (ReadsAs (buildAuditCsv codec events) auditCsvHeader (events.map (auditColumns codec)) ∧
      auditCsvHeader.length = 12 ∧ ∀ event, (auditColumns codec event).length = 12) ∧
    ReadsAs (buildBatchesCsv codec batches outcomes) batchesCsvHeader (batches.map (batchColumns codec outcomes)) ∧
      batchesCsvHeader.length = 11 ∧ ∀ batch, (batchColumns codec outcomes batch).length = 11 := by
  refine ⟨⟨?_,rfl,fun event => rfl⟩,?_,rfl,fun batch => rfl⟩
  · have stand : List.Forall₂ (List.Forall₂ Stands) (events.map (auditColumns codec)) (events.map (auditCsvFields codec)) := by
      rw [List.forall₂_map_left_iff,List.forall₂_map_right_iff,List.forall₂_same]
      exact fun event member => auditCsvFields_stand (hashes event member).1 (hashes event member).2
    have read := readsAs_records (rfl : (auditCsvHeader.all fun field => bare field.toList) = true) (by decide) stand (by simp [auditCsvFields])
    rw [List.map_map] at read
    exact read
  · have stand : List.Forall₂ (List.Forall₂ Stands) (batches.map (batchColumns codec outcomes))
        (batches.map (batchCsvFields codec outcomes)) := by
      rw [List.forall₂_map_left_iff,List.forall₂_map_right_iff,List.forall₂_same]
      exact fun batch _ => batchCsvFields_stand
    have read := readsAs_records (rfl : (batchesCsvHeader.all fun field => bare field.toList) = true) (by decide) stand (by simp [batchCsvFields])
    rw [List.map_map] at read
    exact read

-- A whole number stands as it is displayed, any other one behind an `e`.
def benchNumber (value : ℚ) : String :=
  if value = value.num.toNat then Nat.repr value.num.toNat else "e" ++ Nat.repr (Encodable.encode value)

def readBenchNumber (text : String) : Option ℚ :=
  match text.toList with
  | 'e' :: digits => Encodable.decode (Nat.ofDigitChars 10 digits 0)
  | digits => some (Nat.ofDigitChars 10 digits 0 : Nat)

theorem readBenchNumber_back (value : ℚ) : readBenchNumber (benchNumber value) = some value := by
  unfold benchNumber
  split_ifs with whole
  · have apart : ∀ digits, (Nat.repr value.num.toNat).toList ≠ 'e' :: digits := by
      intro digits same
      have digit := repr_digits value.num.toNat 'e' (by rw [same]; exact List.mem_cons_self)
      revert digit
      decide
    unfold readBenchNumber
    split
    · next digits same => exact absurd same (apart digits)
    · rw [repr_back,← whole]
  · have text : ("e" ++ Nat.repr (Encodable.encode value)).toList = 'e' :: (Nat.repr (Encodable.encode value)).toList := by
      rw [String.toList_append]
      rfl
    rw [readBenchNumber,text]
    simp only [repr_back,Encodable.encodek]

def benchReports : ReportCodec where
  number := benchNumber
  numeric value ch member := by
    unfold benchNumber at member
    split_ifs at member
    · simp [isNumeric,repr_digits _ ch member]
    · rw [String.toList_append] at member
      rcases List.mem_append.mp member with first | digit
      · rw [List.mem_singleton.mp first]
        rfl
      · simp [isNumeric,repr_digits _ ch digit]
  readNumber := readBenchNumber
  read_number := readBenchNumber_back
  toRfc3339 _ := "1970-01-01T00:00:00+00:00"
  timestamp _ := List.all_eq_true.mp (by decide)

-- An operator has written a formula over two lines.
def formulaEvent : ControlEventRecord where
  id := 1
  batchId := none
  eventType := "manual_lock_engaged"
  targetTemperatureC := none
  targetStirrerRpm := some 300
  targetShakeSpeedCpm := none
  reason := " =1+\"2\",\n3"
  actor := "operator"
  role := "operator"
  createdAt := "1970-01-01T00:00:00+00:00"
  previousHash := none
  eventHash := some "0f"
  moment := 0

theorem csv_exports_read_back_formula :
    ReadsAs (buildAuditCsv benchReports [formulaEvent]) auditCsvHeader [auditColumns benchReports formulaEvent] :=
  (csv_exports_read_back benchReports [formulaEvent] [] [] (by
    intro event member
    rw [List.mem_singleton.mp member]
    refine ⟨nofun,?_⟩
    intro text given
    cases given
    exact List.all_eq_true.mp (by decide))).1.1

end ReactorOS
