import Mathlib.Data.List.Forall2
namespace Wire

-- Where a reader of RFC 4180 stands in a field. A line may end in CR LF or in LF alone.
inductive CsvMode where
  | start | bare | quoted | closing | lineEnd
  deriving DecidableEq

-- `field` and `record` hold what has been read of them, newest first.
structure CsvReader where
  mode : CsvMode := .start
  field : List Char := []
  record : List String := []
  records : List (List String) := []

namespace CsvReader

def endField (reader : CsvReader) : CsvReader :=
  {reader with mode := .start,field := [],record := String.ofList reader.field.reverse :: reader.record}

def endRecord (reader : CsvReader) : CsvReader :=
  let ended := reader.endField
  {ended with record := [],records := ended.record.reverse :: ended.records}

def keep (reader : CsvReader) (mode : CsvMode) (ch : Char) : CsvReader :=
  {reader with mode := mode,field := ch :: reader.field}

-- What ends a field, or a record, outside of quotes.
def delimit (reader : CsvReader) (ch : Char) : Option CsvReader :=
  if ch = ',' then some reader.endField
  else if ch = '\n' then some reader.endRecord
  else if ch = '\r' then some {reader with mode := .lineEnd}
  else none

def step (reader : CsvReader) (ch : Char) : Option CsvReader :=
  match reader.mode with
  | .start => if ch = '"' then some {reader with mode := .quoted} else (reader.delimit ch).getD (reader.keep .bare ch)
  | .bare => if ch = '"' then none else some ((reader.delimit ch).getD (reader.keep .bare ch))
  | .quoted => if ch = '"' then some {reader with mode := .closing} else some (reader.keep .quoted ch)
  | .closing => if ch = '"' then some (reader.keep .quoted ch) else reader.delimit ch
  | .lineEnd => if ch = '\n' then some reader.endRecord else none

def read (reader : CsvReader) : List Char → Option CsvReader
  | [] => some reader
  | ch :: rest => (reader.step ch).bind (read · rest)

-- The end of the text ends a record, unless a line break has just done so.
def finish (reader : CsvReader) : Option (List (List String)) :=
  match reader.mode with
  | .start => some (if reader.record.isEmpty then reader.records else reader.endRecord.records).reverse
  | .bare | .closing => some reader.endRecord.records.reverse
  | .quoted | .lineEnd => none

end CsvReader

def parseCsv (text : String) : Option (List (List String)) := (CsvReader.read {} text.toList).bind (·.finish)

-- A text that needs no quotes.
def bare (text : List Char) : Bool := text.all fun ch => ch ≠ ',' && ch ≠ '"' && ch ≠ '\n' && ch ≠ '\r'

def doubled (text : List Char) : List Char := text.flatMap fun ch => if ch = '"' then ['"','"'] else [ch]

-- The two ways to write a field.
inductive Writes : List Char → List Char → Prop where
  | bare {text : List Char} (plain : bare text = true) : Writes text text
  | quoted (text : List Char) : Writes ('"' :: doubled text ++ ['"']) text

theorem bare_cons {ch : Char} {text : List Char} : bare (ch :: text) = true ↔ bare [ch] = true ∧ bare text = true := by
  simp [bare]

namespace CsvReader
variable {reader : CsvReader} {text written rest : List Char}

theorem read_append (front : List Char) : reader.read (front ++ rest) = (reader.read front).bind (read · rest) := by
  induction front generalizing reader with
  | nil => rfl
  | cons ch front ih =>
      simp only [List.cons_append,read]
      cases reader.step ch with
      | none => rfl
      | some next => exact ih

theorem delimit_bare (reader : CsvReader) {ch : Char} (plain : bare [ch] = true) : reader.delimit ch = none ∧ ch ≠ '"' := by
  simp only [bare,List.all_cons,List.all_nil,Bool.and_true,Bool.and_eq_true,ne_eq,decide_not,Bool.not_eq_true',
    decide_eq_false_iff_not] at plain
  obtain ⟨⟨⟨comma,quote⟩,line⟩,carriage⟩ := plain
  exact ⟨by simp [delimit,comma,line,carriage],quote⟩

theorem read_bare (inside : reader.mode = .bare) (plain : bare text = true) :
    reader.read text = some {reader with field := text.reverse ++ reader.field} := by
  induction text generalizing reader with
  | nil => rfl
  | cons ch text ih =>
      have parts := bare_cons.mp plain
      obtain ⟨plainly,unquoted⟩ := delimit_bare reader parts.1
      have next : reader.step ch = some (reader.keep .bare ch) := by simp [step,inside,unquoted,plainly]
      rw [read,next,Option.bind_some,ih rfl parts.2]
      simp [keep,inside]

theorem read_quoted (text : List Char) (inside : reader.mode = .quoted) :
    reader.read (doubled text) = some {reader with field := text.reverse ++ reader.field} := by
  induction text generalizing reader with
  | nil => rfl
  | cons ch text ih =>
      have here : reader.read (if ch = '"' then ['"','"'] else [ch]) = some (reader.keep .quoted ch) := by
        by_cases quote : ch = '"'
        · subst quote
          simp [read,step,inside,keep]
        · simp [quote,read,step,inside]
      have parts : doubled (ch :: text) = (if ch = '"' then ['"','"'] else [ch]) ++ doubled text := rfl
      rw [parts,read_append,here,Option.bind_some,ih rfl]
      simp [keep,inside]

-- A field and what ends it, wherever a field may begin.
theorem read_field {record : List String} {records : List (List String)} (after : CsvReader)
    (writes : Writes written text) {ch : Char} (ends : ∀ mode, (⟨mode,text.reverse,record,records⟩ : CsvReader).delimit ch = some after) :
    (⟨.start,[],record,records⟩ : CsvReader).read (written ++ ch :: rest) = after.read rest := by
  have unquoted : ch ≠ '"' := by
    intro same
    have never := ends .bare
    rw [same] at never
    simp [delimit] at never
  cases writes with
  | bare plain =>
      cases text with
      | nil =>
          have next : (⟨.start,[],record,records⟩ : CsvReader).step ch = some after := by
            have here := ends .start
            simp only [List.reverse_nil] at here
            simp [step,unquoted,here]
          rw [List.nil_append,read,next,Option.bind_some]
      | cons first others =>
          have parts := bare_cons.mp plain
          obtain ⟨plainly,unopened⟩ := delimit_bare ⟨.start,[],record,records⟩ parts.1
          have begun : (⟨.start,[],record,records⟩ : CsvReader).step first = some ⟨.bare,[first],record,records⟩ := by
            simp [step,unopened,plainly,keep]
          have next : (⟨.bare,others.reverse ++ [first],record,records⟩ : CsvReader).step ch = some after := by
            have here := ends .bare
            rw [List.reverse_cons] at here
            simp [step,unquoted,here]
          rw [List.cons_append,read,begun,Option.bind_some,read_append,read_bare rfl parts.2,Option.bind_some,read,next,
            Option.bind_some]
  | quoted =>
      have inner : (⟨.quoted,[],record,records⟩ : CsvReader).read (doubled text) = _ := read_quoted text rfl
      rw [List.append_nil] at inner
      have next : (⟨.closing,text.reverse,record,records⟩ : CsvReader).step ch = some after := by
        simp [step,unquoted,ends .closing]
      have order : '"' :: doubled text ++ ['"'] ++ ch :: rest = '"' :: (doubled text ++ '"' :: ch :: rest) := by simp
      rw [order]
      change (⟨.quoted,[],record,records⟩ : CsvReader).read _ = _
      rw [read_append,inner,Option.bind_some]
      change (⟨.closing,text.reverse,record,records⟩ : CsvReader).read _ = _
      rw [read,next,Option.bind_some]

end CsvReader

-- The fields of a record, one after the other, and the line break behind them.
def csvLine : List (List Char) → List Char
  | [] => ['\n']
  | [field] => field ++ ['\n']
  | field :: fields => field ++ ',' :: csvLine fields

namespace CsvReader

theorem read_line {written texts : List (List Char)} (writes : List.Forall₂ Writes written texts) (some' : written ≠ [])
    (record : List String) (records : List (List String)) (rest : List Char) :
    (⟨.start,[],record,records⟩ : CsvReader).read (csvLine written ++ rest) =
      (⟨.start,[],[],(record.reverse ++ texts.map String.ofList) :: records⟩ : CsvReader).read rest := by
  induction writes generalizing record with
  | nil => exact absurd rfl some'
  | @cons field text fields texts here others ih =>
      cases others with
      | nil =>
          have order : csvLine [field] ++ rest = field ++ '\n' :: rest := by simp [csvLine]
          rw [order,read_field ⟨.start,[],[],(String.ofList text :: record).reverse :: records⟩ here]
          · simp
          · intro mode
            simp [delimit,endRecord,endField]
      | cons next further =>
          have order : ∀ second fields', csvLine (field :: second :: fields') ++ rest =
              field ++ ',' :: (csvLine (second :: fields') ++ rest) := by simp [csvLine]
          rw [order,read_field ⟨.start,[],String.ofList text :: record,records⟩ here,
            ih (by simp) (String.ofList text :: record)]
          · simp
          · intro mode
            simp [delimit,endField]

theorem read_lines {written texts : List (List (List Char))} (writes : List.Forall₂ (List.Forall₂ Writes) written texts)
    (some' : ∀ line ∈ written, line ≠ []) (records : List (List String)) :
    (⟨.start,[],[],records⟩ : CsvReader).read (written.flatMap csvLine) =
      some ⟨.start,[],[],(texts.map (·.map String.ofList)).reverse ++ records⟩ := by
  induction writes generalizing records with
  | nil => rfl
  | @cons line fields lines others here rest ih =>
      rw [List.flatMap_cons,read_line here (some' line List.mem_cons_self),
        ih fun line member => some' line (List.mem_cons_of_mem _ member)]
      simp

end CsvReader

-- What is written by the rules is read as it was.
theorem parseCsv_lines {written texts : List (List (List Char))} (writes : List.Forall₂ (List.Forall₂ Writes) written texts)
    (some' : ∀ line ∈ written, line ≠ []) :
    parseCsv (String.ofList (written.flatMap csvLine)) = some (texts.map (·.map String.ofList)) := by
  unfold parseCsv
  have whole := CsvReader.read_lines writes some' []
  rw [String.toList_ofList]
  change ((⟨.start,[],[],[]⟩ : CsvReader).read _).bind _ = _
  rw [whole]
  simp [CsvReader.finish]

end Wire
