import ReactorOS.Db
import ReactorOS.Double
import ReactorOS.Ledger.HashChain
import ReactorOS.Wire.Json
namespace ReactorOS
open Wire HashChain

-- What the crates behind the audit trail do: SHA-256 in hexadecimal, doubles in JSON
-- and RFC 3339. The zeros are written differently.
structure AuditCodec where
  digest : String → String
  number : ℚ → String
  minusZero : String
  numeric : ∀ value, ∀ ch ∈ (number value).toList, isNumeric ch = true
  minusZero_numeric : ∀ ch ∈ minusZero.toList, isNumeric ch = true
  number_injective : Function.Injective number
  minusZero_apart : ∀ value, number value ≠ minusZero
  toRfc3339 : Instant → String
  parseRfc3339 : String → Option Instant
  parse_toRfc3339 : ∀ moment, parseRfc3339 (toRfc3339 moment) = some moment

def AuditCodec.double (codec : AuditCodec) : Double → String
  | .number value => codec.number value
  | .minusZero => codec.minusZero

def targetTemperatureCRange : SensorRange := ⟨"target_temperature_c",0,500⟩
def targetStirrerRpmRange : SensorRange := ⟨"target_stirrer_rpm",0,2000⟩
def processShakeSpeedCpmRange : SensorRange := ⟨"target_shake_speed_cpm",0,60⟩

@[irreducible] def auditChainCheckLimit : Nat := 10000

-- A row of `control_events`. A `REAL` column has one zero.
structure ControlEventRow where
  id : Int
  batchId : Option Int
  eventType : String
  targetTemperatureC : Option ℚ
  targetStirrerRpm : Option ℚ
  targetShakeSpeedCpm : Option ℚ
  reason : String
  actor : String
  role : String
  createdAt : String
  previousHash : Option String
  eventHash : Option String
  deriving DecidableEq

-- The row as it is read back.
structure ControlEventRecord extends ControlEventRow where
  moment : Instant

structure AuditChainStatus where
  totalHashedEvents : Nat
  checkedEvents : Nat
  chainedEvents : Nat
  brokenEvents : Nat
  windowValid : Bool
  valid : Bool
  lastEventHash : Option String
  checkedFromEventId : Option Int
  checkedToEventId : Option Int
  verificationLimit : Nat
  verificationTruncated : Bool
  deriving DecidableEq

-- The table keeps its rows in the order of their keys, and no key is given twice.
structure ControlEventTable where
  rows : List ControlEventRow
  nextId : Int
  ordered : rows.Pairwise (·.id < ·.id)
  below : ∀ row ∈ rows, row.id < nextId

def ControlEventTable.empty : ControlEventTable := ⟨[],1,List.Pairwise.nil,by simp⟩

def validateTarget (range : SensorRange) (value : Option ℚ) : Except String Unit :=
  match value with
  | some value => range.validate value
  | none => .ok ()

def validateControlEventTargets (targetTemperatureC targetStirrerRpm targetShakeSpeedCpm : Option ℚ) :
    Except String Unit := do
  validateTarget targetTemperatureCRange targetTemperatureC
  validateTarget targetStirrerRpmRange targetStirrerRpm
  validateTarget processShakeSpeedCpmRange targetShakeSpeedCpm

namespace ControlEventTable

def hashed (table : ControlEventTable) : List ControlEventRow := table.rows.filter (·.eventHash.isSome)

-- `SELECT event_hash .. WHERE event_hash IS NOT NULL ORDER BY id DESC LIMIT 1`
def previousHash (table : ControlEventTable) : Option String := table.hashed.getLast?.bind (·.eventHash)

-- `INSERT` under the next key.
def insert (table : ControlEventTable) (row : Int → ControlEventRow) (keyed : ∀ id, (row id).id = id) : ControlEventTable where
  rows := table.rows ++ [row table.nextId]
  nextId := table.nextId+1
  ordered := by
    rw [List.pairwise_append]
    refine ⟨table.ordered,List.pairwise_singleton _ _,?_⟩
    intro older member newer last
    obtain rfl := List.mem_singleton.mp last
    rw [keyed]
    exact table.below older member
  below := by
    intro older member
    rcases List.mem_append.mp member with before | last
    · have bound := table.below older before
      omega
    · obtain rfl := List.mem_singleton.mp last
      rw [keyed]
      omega

end ControlEventTable

section Codec
variable (codec : AuditCodec)

def optionalInt : Option Int → JsonValue
  | some value => .number (toString value)
  | none => .null

def optionalNumber : Option Double → JsonValue
  | some value => .number (codec.double value)
  | none => .null

def optionalText : Option String → JsonValue
  | some value => .string value
  | none => .null

-- The object that is hashed; a JSON map sorts its keys.
def hashedKeys : List String := ["batch_id","created_at","event_type","previous_hash","reason",
  "target_shake_speed_cpm","target_stirrer_rpm","target_temperature_c"]

def controlEventHash (previousHash : Option String) (batchId : Option Int) (eventType : String)
    (targetTemperatureC targetStirrerRpm targetShakeSpeedCpm : Option Double) (reason createdAt : String) : String :=
  codec.digest (renderObject (hashedKeys.zip [optionalInt batchId,.string createdAt,.string eventType,
    optionalText previousHash,.string reason,optionalNumber codec targetShakeSpeedCpm,
    optionalNumber codec targetStirrerRpm,optionalNumber codec targetTemperatureC]))

def controlEventFromRow (row : ControlEventRow) : Except String ControlEventRecord :=
  match codec.parseRfc3339 row.createdAt with
  | none => .error s!"invalid RFC3339 timestamp in database: {row.createdAt}"
  | some moment => do
      validateControlEventTargets row.targetTemperatureC row.targetStirrerRpm row.targetShakeSpeedCpm
      return ⟨row,moment⟩

-- The locals of the loop over the chain.
structure ChainCheck where
  checkedEvents : Nat
  brokenEvents : Nat
  previous : Option String
  lastEventHash : Option String
  checkedFromEventId : Option Int
  checkedToEventId : Option Int

def ChainCheck.start : ChainCheck := ⟨0,0,none,none,none,none⟩

def ChainCheck.step (truncated : Bool) (check : ChainCheck) (event : ControlEventRecord) : ChainCheck :=
  let previous := if check.checkedEvents = 0 ∧ truncated = true then event.previousHash else check.previous
  let expected := controlEventHash codec previous event.batchId event.eventType (event.targetTemperatureC.map .number)
    (event.targetStirrerRpm.map .number) (event.targetShakeSpeedCpm.map .number) event.reason
    (codec.toRfc3339 event.moment)
  { checkedEvents := check.checkedEvents+1
    brokenEvents := if event.previousHash ≠ previous ∨ event.eventHash ≠ some expected then check.brokenEvents+1
      else check.brokenEvents
    previous := event.eventHash
    lastEventHash := event.eventHash
    checkedFromEventId := check.checkedFromEventId.or (some event.id)
    checkedToEventId := some event.id }

def auditChainStatusFromEvents (events : List ControlEventRecord) (totalHashedEvents verificationLimit : Nat)
    (verificationTruncated : Bool) : AuditChainStatus :=
  let check := events.foldl (ChainCheck.step codec verificationTruncated) .start
  let windowValid := check.brokenEvents = 0
  { totalHashedEvents := totalHashedEvents
    checkedEvents := check.checkedEvents
    chainedEvents := check.checkedEvents-check.brokenEvents
    brokenEvents := check.brokenEvents
    windowValid := windowValid
    valid := windowValid && !verificationTruncated
    lastEventHash := check.lastEventHash
    checkedFromEventId := check.checkedFromEventId
    checkedToEventId := check.checkedToEventId
    verificationLimit := verificationLimit
    verificationTruncated := verificationTruncated }

-- The last events of the chain, up to a limit.
def auditChainStatus (table : ControlEventTable) : Except String AuditChainStatus := do
  let totalHashedEvents := table.hashed.length
  let verificationTruncated := auditChainCheckLimit < totalHashedEvents
  let events ← (table.hashed.drop (totalHashedEvents-auditChainCheckLimit)).mapM (controlEventFromRow codec)
  return auditChainStatusFromEvents codec events totalHashedEvents auditChainCheckLimit verificationTruncated

-- The whole chain.
def fullAuditChainStatusForDiagnostics (table : ControlEventTable) : Except String AuditChainStatus := do
  let events ← table.hashed.mapM (controlEventFromRow codec)
  return auditChainStatusFromEvents codec events events.length events.length false

end Codec
end ReactorOS
