import ReactorOS.AuditChain
import ReactorOS.Optimizer
import ReactorOS.Text
import ReactorOS.Wire.Csv
namespace ReactorOS
open Wire

-- What RFC 3339 texts in UTC consist of.
def isTimestamp (ch : Char) : Bool := ch.isDigit || ch = '-' || ch = '+' || ch = ':' || ch = '.' || ch = 'T'

-- How doubles and times are displayed; a displayed double reads as the same double.
structure ReportCodec where
  number : ℚ → String
  numeric : ∀ value, ∀ ch ∈ (number value).toList, isNumeric ch = true
  readNumber : String → Option ℚ
  read_number : ∀ value, readNumber (number value) = some value
  toRfc3339 : Instant → String
  timestamp : ∀ moment, ∀ ch ∈ (toRfc3339 moment).toList, isTimestamp ch = true

def spreadsheetTextNeedsFormulaEscape (value : String) : Bool :=
  match value.toList.dropWhile isWhitespace with
  | ch :: _ => ch = '=' || ch = '+' || ch = '-' || ch = '@'
  | [] => false

def spreadsheetTextEscape (value : String) : String :=
  if spreadsheetTextNeedsFormulaEscape value then "'" ++ value else value

def csvEscape (value : String) : String :=
  let escaped := spreadsheetTextEscape value
  if (escaped.toList.any fun ch => ch = ',' || ch = '"' || ch = '\n' || ch = '\r') || spreadsheetTextNeedsFormulaEscape value then
    String.ofList ('"' :: doubled escaped.toList ++ ['"'])
  else escaped

-- The fields of one `format!` with commas between them and a line break behind.
def csvRecord (fields : List String) : String := ",".intercalate fields ++ "\n"

def optionText (show' : α → String) (value : Option α) : String := (value.map show').getD ""

def auditCsvHeader : List String :=
  ["id","batch_id","event_type","actor","role","target_temperature_c","target_stirrer_rpm","target_shake_speed_cpm",
    "reason","created_at","previous_hash","event_hash"]

def batchesCsvHeader : List String :=
  ["id","process_id","name","started_at","finished_at","target_temperature_c","target_stirrer_rpm","heating_minutes",
    "stirring_minutes","yield_percent","product_ratio"]

section Build
variable (codec : ReportCodec)

def auditCsvFields (event : ControlEventRecord) : List String :=
  [toString event.id,
    optionText toString event.batchId,
    csvEscape event.eventType,
    csvEscape event.actor,
    csvEscape event.role,
    optionText codec.number event.targetTemperatureC,
    optionText codec.number event.targetStirrerRpm,
    optionText codec.number event.targetShakeSpeedCpm,
    csvEscape event.reason,
    codec.toRfc3339 event.moment,
    event.previousHash.getD "",
    event.eventHash.getD ""]

def buildAuditCsv (events : List ControlEventRecord) : String :=
  csvRecord auditCsvHeader ++ String.join (events.map fun event => csvRecord (auditCsvFields codec event))

def outcomeOf (outcomes : List BatchOutcome) (batch : Batch) : Option BatchOutcome :=
  outcomes.find? fun outcome => outcome.batchId == batch.id

def batchCsvFields (outcomes : List BatchOutcome) (batch : Batch) : List String :=
  let outcome := outcomeOf outcomes batch
  [toString batch.id,
    optionText toString batch.processId,
    csvEscape batch.name,
    codec.toRfc3339 batch.startedAt,
    optionText codec.toRfc3339 batch.finishedAt,
    codec.number batch.targetTemperatureC,
    codec.number batch.targetStirrerRpm,
    codec.number batch.heatingMinutes,
    codec.number batch.stirringMinutes,
    optionText codec.number (outcome.map (·.yieldPercent)),
    optionText codec.number (outcome.map (·.productRatio))]

def buildBatchesCsv (batches : List Batch) (outcomes : List BatchOutcome) : String :=
  csvRecord batchesCsvHeader ++ String.join (batches.map fun batch => csvRecord (batchCsvFields codec outcomes batch))

end Build
end ReactorOS
