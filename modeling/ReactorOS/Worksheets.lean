import ReactorOS.Reports
namespace ReactorOS
open Wire

inductive XlsxCell where
  | text (value : String)
  | number (value : ℚ)
  | blank
  deriving DecidableEq

def xlsxRow (values : List String) : List XlsxCell := values.map .text

def XlsxCell.optionalText (value : Option String) : XlsxCell := (value.map .text).getD .blank

def XlsxCell.optionalNumber (value : Option ℚ) : XlsxCell := (value.map .number).getD .blank

-- The nearest double, of two the one with the even mantissa.
def asF64 (value : Int) : ℚ :=
  let size := value.natAbs.log2+1
  if size ≤ 53 then value else roundHalfEven (value/2^(size-53))*2^(size-53)

section Rows
variable (codec : ReportCodec)

def batchRow (outcomes : List BatchOutcome) (batch : Batch) : List XlsxCell :=
  let outcome := outcomeOf outcomes batch
  [.number (asF64 batch.id),
    .optionalNumber (batch.processId.map asF64),
    .text batch.name,
    .text (codec.toRfc3339 batch.startedAt),
    .optionalText (batch.finishedAt.map codec.toRfc3339),
    .number batch.targetTemperatureC,
    .number batch.targetStirrerRpm,
    .number batch.heatingMinutes,
    .number batch.stirringMinutes,
    .optionalNumber (outcome.map (·.yieldPercent)),
    .optionalNumber (outcome.map (·.productRatio))]

def batchRows (batches : List Batch) (outcomes : List BatchOutcome) : List (List XlsxCell) :=
  xlsxRow ["id","process_id","name","started_at","finished_at","target_temperature_c","target_stirrer_rpm",
    "heating_minutes","stirring_minutes","yield_percent","product_ratio"] :: batches.map (batchRow codec outcomes)

def resultRow (outcome : BatchOutcome) : List XlsxCell :=
  [.number (asF64 outcome.batchId),
    .number outcome.targetTemperatureC,
    .number outcome.targetStirrerRpm,
    .number outcome.heatingMinutes,
    .number outcome.stirringMinutes,
    .number outcome.yieldPercent,
    .number outcome.productRatio]

def resultRows (outcomes : List BatchOutcome) : List (List XlsxCell) :=
  xlsxRow ["batch_id","target_temperature_c","target_stirrer_rpm","heating_minutes","stirring_minutes","yield_percent",
    "product_ratio"] :: outcomes.map resultRow

def average (values : List ℚ) : Option ℚ := if values.isEmpty then none else some (values.sum/values.length)

def summaryRows (batches : List Batch) (outcomes : List BatchOutcome) : List (List XlsxCell) :=
  [xlsxRow ["metric","value"],
    [.text "total_batches",.number (asF64 batches.length)],
    [.text "completed_batches",.number (asF64 (batches.filter fun batch => batch.finishedAt.isSome).length)],
    [.text "recorded_results",.number (asF64 outcomes.length)],
    [.text "average_yield_percent",.optionalNumber (average (outcomes.map (·.yieldPercent)))],
    [.text "average_product_ratio",.optionalNumber (average (outcomes.map (·.productRatio)))]]

end Rows

-- The letters of a column, last one first.
def columnLetters (colIndex : Nat) : List Char :=
  Char.ofNat (65+colIndex%26) :: if colIndex/26 = 0 then [] else columnLetters (colIndex/26-1)

def cellReference (colIndex rowNumber : Nat) : String := String.ofList (columnLetters colIndex).reverse ++ toString rowNumber

def replaceChar (ch : Char) (shown : String) (text : String) : String :=
  String.ofList (text.toList.flatMap fun here => if here = ch then shown.toList else [here])

def xmlEscape (value : String) : String :=
  replaceChar '\'' "&apos;" (replaceChar '"' "&quot;" (replaceChar '>' "&gt;" (replaceChar '<' "&lt;" (replaceChar '&' "&amp;" value))))

section Xml
variable (codec : ReportCodec)

def cellXml (reference : String) : XlsxCell → String
  | .text value => "<c r=\"" ++ reference ++ "\" t=\"inlineStr\"><is><t>" ++ xmlEscape (spreadsheetTextEscape value) ++ "</t></is></c>"
  | .number value => "<c r=\"" ++ reference ++ "\"><v>" ++ codec.number value ++ "</v></c>"
  | .blank => "<c r=\"" ++ reference ++ "\"/>"

def rowXml (row : List XlsxCell) (rowIndex : Nat) : String :=
  "<row r=\"" ++ toString (rowIndex+1) ++ "\">" ++
    String.join (row.zipIdx.map fun (cell,colIndex) => cellXml codec (cellReference colIndex (rowIndex+1)) cell) ++ "</row>"

def worksheetHead : String :=
  "<?xml version=\"1.0\" encoding=\"UTF-8\" standalone=\"yes\"?>\n<worksheet xmlns=\"http://schemas.openxmlformats.org/spreadsheetml/2006/main\"><sheetData>"

def worksheetXml (rows : List (List XlsxCell)) : String :=
  worksheetHead ++
    String.join (rows.zipIdx.map fun (row,rowIndex) => rowXml codec row rowIndex) ++ "</sheetData></worksheet>"

-- The three worksheets of the workbook.
def batchesWorksheets (batches : List Batch) (outcomes : List BatchOutcome) : List String :=
  [worksheetXml codec (batchRows codec batches outcomes),
    worksheetXml codec (resultRows outcomes),
    worksheetXml codec (summaryRows batches outcomes)]

end Xml
end ReactorOS
