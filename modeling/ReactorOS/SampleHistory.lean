import ReactorOS.Batches
import ReactorOS.Wire.Calendar
import ReactorOS.Wire.Fields
import Mathlib.Data.List.Sort
namespace ReactorOS
open Wire

-- A sensor snapshot with the time that it was captured at in full.
structure TimedSample where
  temperatureC : ℚ
  pressureMpa : ℚ
  stirrerRpm : ℚ
  shakeSpeedCpm : ℚ
  tiltState : Nat
  tiltAngleDeg : ℚ
  flowRateLMin : ℚ
  productConcentrationPercent : ℚ
  ph : ℚ
  capturedAt : DateTime

def TimedSample.snapshot (sample : TimedSample) : SensorSnapshot where
  temperatureC := sample.temperatureC
  pressureMpa := sample.pressureMpa
  stirrerRpm := sample.stirrerRpm
  shakeSpeedCpm := sample.shakeSpeedCpm
  tiltState := sample.tiltState
  tiltAngleDeg := sample.tiltAngleDeg
  flowRateLMin := sample.flowRateLMin
  productConcentrationPercent := sample.productConcentrationPercent
  ph := sample.ph
  capturedAt := sample.capturedAt.elapsed - daysBefore 1970*86400*1000000000

structure SensorSampleRecord where
  batchId : Option Int
  sample : TimedSample

def SensorSampleRecord.Valid (record : SensorSampleRecord) : Prop :=
  validateSensorSnapshot record.sample.snapshot = .ok ()

instance (record : SensorSampleRecord) : Decidable record.Valid := inferInstanceAs (Decidable (_ = _))

-- A row of `sensor_samples`; the time is text.
structure SensorSampleRow where
  id : Nat
  batchId : Option Int
  temperatureC : ℚ
  pressureMpa : ℚ
  stirrerRpm : ℚ
  shakeSpeedCpm : ℚ
  tiltState : Int
  tiltAngleDeg : ℚ
  flowRateLMin : ℚ
  productConcentrationPercent : ℚ
  ph : ℚ
  capturedAt : List UInt8

-- The rows in the order in which they came in, and the last identifier that was given out.
structure SensorSampleTable where
  rows : List SensorSampleRow
  sequence : Nat

def SensorSampleTable.empty : SensorSampleTable := ⟨[],0⟩

def sensorSampleRow (id : Nat) (record : SensorSampleRecord) : SensorSampleRow where
  id := id
  batchId := record.batchId
  temperatureC := record.sample.temperatureC
  pressureMpa := record.sample.pressureMpa
  stirrerRpm := record.sample.stirrerRpm
  shakeSpeedCpm := record.sample.shakeSpeedCpm
  tiltState := record.sample.tiltState
  tiltAngleDeg := record.sample.tiltAngleDeg
  flowRateLMin := record.sample.flowRateLMin
  productConcentrationPercent := record.sample.productConcentrationPercent
  ph := record.sample.ph
  capturedAt := record.sample.capturedAt.toRfc3339

def insertSample (table : SensorSampleTable) (record : SensorSampleRecord) : Except String SensorSampleTable :=
  match validateSensorSnapshot record.sample.snapshot with
  | .error reason => .error s!"invalid sensor sample rejected before DB insert: {reason}"
  | .ok () => .ok ⟨table.rows ++ [sensorSampleRow (table.sequence+1) record],table.sequence+1⟩

-- The table once samples have come in, one after the other; a rejected one leaves it as it was.
def insertSamples (table : SensorSampleTable) (records : List SensorSampleRecord) : SensorSampleTable :=
  records.foldl (fun table record => (insertSample table record).toOption.getD table) table

-- Rows with an invalid sample are skipped, any other error ends the read.
inductive SampleRowError where
  | invalid (reason : String)
  | other (error : Failure)

-- `parse` reads RFC 3339 text, or says why it cannot.
def parseDt (parse : List UInt8 → Except String DateTime) (value : List UInt8) : Except SampleRowError DateTime :=
  (parse value).mapError fun err =>
    let text := String.ofList (value.map fun byte => Char.ofNat byte.toNat)
    .other ⟨s!"invalid RFC3339 timestamp in database: {text}",[err]⟩

def sensorSampleRecordFromRow (parse : List UInt8 → Except String DateTime) (row : SensorSampleRow) :
    Except SampleRowError SensorSampleRecord := do
  if row.tiltState < 0 ∨ 255 < row.tiltState then
    throw (.invalid s!"tilt_state must be 0 or 1 for the shake vessel binary tilt sensor, got {row.tiltState}")
  let capturedAt ← parseDt parse row.capturedAt
  let sample : TimedSample := {
    temperatureC := row.temperatureC, pressureMpa := row.pressureMpa, stirrerRpm := row.stirrerRpm
    shakeSpeedCpm := row.shakeSpeedCpm, tiltState := row.tiltState.toNat, tiltAngleDeg := row.tiltAngleDeg
    flowRateLMin := row.flowRateLMin, productConcentrationPercent := row.productConcentrationPercent
    ph := row.ph, capturedAt := capturedAt}
  match validateSensorSnapshot sample.snapshot with
  | .error reason => throw (.invalid reason)
  | .ok () => return ⟨row.batchId,sample⟩

def collectValidSensorSampleRecords (parse : List UInt8 → Except String DateTime) :
    List SensorSampleRow → Except Failure (List SensorSampleRecord)
  | [] => .ok []
  | row :: rows =>
      match sensorSampleRecordFromRow parse row with
      | .ok record => (collectValidSensorSampleRecords parse rows).map (record :: ·)
      | .error (.invalid _) => collectValidSensorSampleRecords parse rows
      | .error (.other error) => .error error

-- `as i64` of a `usize`.
def asI64 (number : Nat) : Int := if number < 2^63 then number else number - 2^64

-- `LIMIT` and `OFFSET`: a negative limit is none, a negative offset is zero.
def sqlPage {α : Type} (limit offset : Int) (rows : List α) : List α :=
  let rest := rows.drop offset.toNat
  if limit < 0 then rest else rest.take limit.toNat

-- `ORDER BY captured_at ASC, id ASC`
def SensorSampleRow.NotAfter (one other : SensorSampleRow) : Prop :=
  one.capturedAt < other.capturedAt ∨ one.capturedAt = other.capturedAt ∧ one.id ≤ other.id

instance : DecidableRel SensorSampleRow.NotAfter := fun _ _ => inferInstanceAs (Decidable (_ ∨ _))

def samplesBetween (parse : List UInt8 → Except String DateTime) (table : SensorSampleTable) (startTime endTime : DateTime)
    (limit offset : Nat) : Except Failure (List SensorSampleRecord) :=
  let found := table.rows.filter fun row => startTime.toRfc3339 ≤ row.capturedAt && row.capturedAt ≤ endTime.toRfc3339
  collectValidSensorSampleRecords parse (sqlPage (asI64 limit) (asI64 offset) (found.insertionSort SensorSampleRow.NotAfter))

structure V1HistoryQuery where
  startTime : Option (List UInt8)
  endTime : Option (List UInt8)
  page : Option Nat
  pageSize : Option Nat

def parseRequiredTime (parse : List UInt8 → Except String DateTime) (value : Option (List UInt8)) (field : String) :
    Except AppError DateTime :=
  match value with
  | none => .error (.badRequest s!"{field} is required")
  | some value => match parse value with
    | .error _ => .error (.badRequest s!"{field} must be ISO8601")
    | .ok time => .ok time

-- The records of the answer; nothing where the offset overflows, which aborts the process.
def v1History (parse : List UInt8 → Except String DateTime) (table : SensorSampleTable) (deviceId : String)
    (query : V1HistoryQuery) : Except AppError (Option (List SensorSampleRecord)) := do
  ensureReactorDeviceId deviceId
  let startTime ← parseRequiredTime parse query.startTime "start_time"
  let endTime ← parseRequiredTime parse query.endTime "end_time"
  if endTime < startTime then
    throw (.badRequest "end_time must be greater than or equal to start_time")
  let page := max (query.page.getD 1) 1
  let pageSize := max 1 (min (query.pageSize.getD 100) 500)
  let offset := (page-1)*pageSize
  if 2^64 ≤ offset then return none
  let samples ← (samplesBetween parse table startTime endTime pageSize offset).mapError .internal
  return some samples

-- The row that a sample is kept in under its identifier.
def storedRow (entry : Nat × SensorSampleRecord) : SensorSampleRow := sensorSampleRow entry.1 entry.2

def SensorSampleTable.Keeps (table : SensorSampleTable) (records : List SensorSampleRecord) : Prop :=
  ∃ stored : List (Nat × SensorSampleRecord), table.rows = stored.map storedRow ∧ stored.map Prod.snd = records

def StoredNotAfter (one other : Nat × SensorSampleRecord) : Prop := (storedRow one).NotAfter (storedRow other)

instance : DecidableRel StoredNotAfter := fun _ _ => inferInstanceAs (Decidable (SensorSampleRow.NotAfter _ _))

theorem insertSample_keeps {table : SensorSampleTable} {kept : List SensorSampleRecord} (keeps : table.Keeps kept)
    (record : SensorSampleRecord) :
    ((insertSample table record).toOption.getD table).Keeps (kept ++ [record].filter (·.Valid)) := by
  obtain ⟨stored,rows,entries⟩ := keeps
  by_cases valid : record.Valid
  · have passes : validateSensorSnapshot record.sample.snapshot = .ok () := valid
    refine ⟨stored ++ [(table.sequence+1,record)],?_,by simp [entries,valid]⟩
    simp [insertSample,passes,rows,storedRow,Except.toOption]
  · have left : ((insertSample table record).toOption.getD table).rows = table.rows := by
      cases checked : validateSensorSnapshot record.sample.snapshot with
      | ok done => exact (valid checked).elim
      | error reason => simp [insertSample,checked,Except.toOption]
    exact ⟨stored,left.trans rows,by simp [entries,valid]⟩

-- Whatever comes in, the table keeps the samples that pass their checks, in that order.
theorem insertSamples_keeps {table : SensorSampleTable} {kept : List SensorSampleRecord} (keeps : table.Keeps kept)
    (records : List SensorSampleRecord) : (insertSamples table records).Keeps (kept ++ records.filter (·.Valid)) := by
  induction records generalizing table kept with
  | nil => simpa [insertSamples] using keeps
  | cons record records ih =>
      have whole := ih (insertSample_keeps keeps record)
      rw [List.append_assoc,← List.filter_append] at whole
      exact whole

theorem notAfter_total (one other : SensorSampleRow) : one.NotAfter other ∨ other.NotAfter one := by
  rcases Std.lt_trichotomy one.capturedAt other.capturedAt with before | same | after
  · exact .inl (.inl before)
  · rcases Nat.le_total one.id other.id with first | last
    · exact .inl (.inr ⟨same,first⟩)
    · exact .inr (.inr ⟨same.symm,last⟩)
  · exact .inr (.inl after)

theorem notAfter_trans {one two three : SensorSampleRow} (first : one.NotAfter two) (second : two.NotAfter three) :
    one.NotAfter three := by
  rcases first with before | ⟨same,ids⟩
  · rcases second with after | ⟨again,_⟩
    · exact .inl (List.lt_trans before after)
    · exact .inl (again ▸ before)
  · rcases second with after | ⟨again,more⟩
    · exact .inl (same ▸ after)
    · exact .inr ⟨same.trans again,Nat.le_trans ids more⟩

theorem sqlPage_map {α β : Type} (f : α → β) (limit offset : Int) (rows : List α) :
    sqlPage limit offset (rows.map f) = (sqlPage limit offset rows).map f := by
  unfold sqlPage
  split <;> simp [List.map_drop,List.map_take]

theorem sqlPage_mem {α : Type} {limit offset : Int} {rows : List α} {row : α} (member : row ∈ sqlPage limit offset rows) :
    row ∈ rows := by
  unfold sqlPage at member
  split at member
  · exact List.mem_of_mem_drop member
  · exact List.mem_of_mem_drop (List.mem_of_mem_take member)

theorem validateSensorTiltState_ok {value : Nat} (passes : validateSensorTiltState value = .ok ()) : value ≤ 1 := by
  unfold validateSensorTiltState at passes
  split at passes
  · assumption
  · cases passes

theorem valid_tilt {record : SensorSampleRecord} (valid : record.Valid) : record.sample.tiltState ≤ 1 := by
  have checks : validateSensorSnapshot record.sample.snapshot = .ok () := valid
  iterate 8 obtain ⟨_,_,checks⟩ := bind_ok checks
  exact validateSensorTiltState_ok checks

section Reading
variable {parse : List UInt8 → Except String DateTime}

-- A row is read as the sample that it was written for.
theorem sensorSampleRecordFromRow_row {record : SensorSampleRecord} (valid : record.Valid)
    (reads : parse record.sample.capturedAt.toRfc3339 = .ok record.sample.capturedAt) (id : Nat) :
    sensorSampleRecordFromRow parse (sensorSampleRow id record) = .ok record := by
  have tilt := valid_tilt valid
  have range : ¬((record.sample.tiltState : Int) < 0 ∨ 255 < (record.sample.tiltState : Int)) := by omega
  have passes : validateSensorSnapshot record.sample.snapshot = .ok () := valid
  unfold sensorSampleRecordFromRow sensorSampleRow parseDt
  simp only [if_neg range,reads,Except.mapError]
  change (match validateSensorSnapshot record.sample.snapshot with
    | .error reason => _
    | .ok () => _) = _
  rw [passes]
  rfl

theorem collectValidSensorSampleRecords_rows {stored : List (Nat × SensorSampleRecord)}
    (readable : ∀ entry ∈ stored, entry.2.Valid ∧
      parse entry.2.sample.capturedAt.toRfc3339 = .ok entry.2.sample.capturedAt) :
    collectValidSensorSampleRecords parse (stored.map storedRow) = .ok (stored.map Prod.snd) := by
  induction stored with
  | nil => rfl
  | cons entry stored ih =>
      obtain ⟨⟨valid,reads⟩,rest⟩ := List.forall_mem_cons.mp readable
      simp only [List.map_cons,collectValidSensorSampleRecords,storedRow,sensorSampleRecordFromRow_row valid reads]
      rw [ih rest]
      rfl

end Reading

-- From the start time to the end time, both included.
def SensorSampleRecord.within (startTime endTime : DateTime) (record : SensorSampleRecord) : Bool :=
  startTime ≤ record.sample.capturedAt && record.sample.capturedAt ≤ endTime

theorem within_text {startTime endTime : DateTime} (first : startTime.InYears) (last : endTime.InYears)
    {record : SensorSampleRecord} (years : record.sample.capturedAt.InYears) :
    (decide (startTime.toRfc3339 ≤ record.sample.capturedAt.toRfc3339) &&
      decide (record.sample.capturedAt.toRfc3339 ≤ endTime.toRfc3339)) = record.within startTime endTime := by
  simp only [DateTime.toRfc3339_le first years,DateTime.toRfc3339_le years last,SensorSampleRecord.within]

instance : Std.Total StoredNotAfter := ⟨fun _ _ => notAfter_total _ _⟩

instance : IsTrans _ StoredNotAfter := ⟨fun _ _ _ => notAfter_trans⟩

-- Rows by text and identifier are samples by time.
theorem storedNotAfter_time {one other : Nat × SensorSampleRecord} (years : one.2.sample.capturedAt.InYears)
    (also : other.2.sample.capturedAt.InYears) (ordered : StoredNotAfter one other) :
    one.2.sample.capturedAt ≤ other.2.sample.capturedAt := by
  rw [← DateTime.toRfc3339_le years also]
  rcases ordered with before | ⟨same,_⟩
  · exact List.le_of_lt before
  · have texts : one.2.sample.capturedAt.toRfc3339 = other.2.sample.capturedAt.toRfc3339 := same
    rw [texts]
    exact List.le_refl _

theorem samplesBetween_ordered {parse : List UInt8 → Except String DateTime} {table : SensorSampleTable}
    {records : List SensorSampleRecord} (keeps : table.Keeps records)
    (readable : ∀ record ∈ records, record.Valid ∧ record.sample.capturedAt.InYears ∧
      parse record.sample.capturedAt.toRfc3339 = .ok record.sample.capturedAt)
    {startTime endTime : DateTime} (first : startTime.InYears) (last : endTime.InYears) :
    ∃ ordered, ordered.Perm (records.filter (·.within startTime endTime)) ∧
      ordered.Pairwise (fun one other => one.sample.capturedAt ≤ other.sample.capturedAt) ∧
      ∀ limit offset, samplesBetween parse table startTime endTime limit offset =
        .ok (sqlPage (asI64 limit) (asI64 offset) ordered) := by
  obtain ⟨stored,rows,rfl⟩ := keeps
  have entry_readable : ∀ entry ∈ stored, entry.2.Valid ∧ entry.2.sample.capturedAt.InYears ∧
      parse entry.2.sample.capturedAt.toRfc3339 = .ok entry.2.sample.capturedAt :=
    fun entry member => readable entry.2 (List.mem_map_of_mem member)
  have found : (table.rows.filter fun row => startTime.toRfc3339 ≤ row.capturedAt && row.capturedAt ≤ endTime.toRfc3339) =
      (stored.filter fun entry => entry.2.within startTime endTime).map storedRow := by
    rw [rows,List.filter_map]
    congr 1
    exact List.filter_congr fun entry member => within_text first last (entry_readable entry member).2.1
  have listed : ∀ entry ∈ stored.filter fun entry => entry.2.within startTime endTime, entry ∈ stored :=
    fun entry => List.mem_of_mem_filter
  have same : (stored.map Prod.snd).filter (·.within startTime endTime) =
      (stored.filter fun entry => entry.2.within startTime endTime).map Prod.snd := List.filter_map
  unfold samplesBetween
  rw [found,same]
  generalize stored.filter (fun entry => entry.2.within startTime endTime) = entries at listed
  have permuted := List.perm_insertionSort StoredNotAfter entries
  have sorted_listed : ∀ entry ∈ entries.insertionSort StoredNotAfter, entry ∈ stored :=
    fun entry member => listed entry (permuted.mem_iff.mp member)
  refine ⟨(entries.insertionSort StoredNotAfter).map Prod.snd,permuted.map Prod.snd,?_,?_⟩
  · rw [List.pairwise_map]
    refine (List.pairwise_insertionSort StoredNotAfter entries).imp_of_mem fun one other ordered => ?_
    exact storedNotAfter_time (entry_readable _ (sorted_listed _ one)).2.1 (entry_readable _ (sorted_listed _ other)).2.1 ordered
  · intro limit offset
    have rowwise : (entries.map storedRow).insertionSort SensorSampleRow.NotAfter =
        (entries.insertionSort StoredNotAfter).map storedRow :=
      (List.map_insertionSort StoredNotAfter SensorSampleRow.NotAfter storedRow entries fun _ _ _ _ => Iff.rfl).symm
    simp only
    rw [rowwise,sqlPage_map,sqlPage_map]
    refine collectValidSensorSampleRecords_rows fun entry member => ?_
    obtain ⟨valid,_,reads⟩ := entry_readable entry (sorted_listed entry (sqlPage_mem member))
    exact ⟨valid,reads⟩

-- Text order is time order, and a history query gets the samples of its range, page by page in that order.
theorem history_in_time_order {parse : List UInt8 → Except String DateTime} {inserted : List SensorSampleRecord}
    (years : ∀ record ∈ inserted, record.sample.capturedAt.InYears)
    (reads : ∀ record ∈ inserted, parse record.sample.capturedAt.toRfc3339 = .ok record.sample.capturedAt) :
    (∀ one other : DateTime, one.InYears → other.InYears → (one.toRfc3339 < other.toRfc3339 ↔ one < other)) ∧
    ∀ startTime endTime : DateTime, startTime.InYears → endTime.InYears →
      ∃ ordered, ordered.Perm ((inserted.filter (·.Valid)).filter (·.within startTime endTime)) ∧
        ordered.Pairwise (fun one other => one.sample.capturedAt ≤ other.sample.capturedAt) ∧
        ∀ limit offset, samplesBetween parse (insertSamples .empty inserted) startTime endTime limit offset =
          .ok (sqlPage (asI64 limit) (asI64 offset) ordered) := by
  refine ⟨fun one other first last => DateTime.toRfc3339_lt first last,?_⟩
  intro startTime endTime first last
  have keeps := @insertSamples_keeps .empty [] ⟨[],rfl,rfl⟩ inserted
  refine samplesBetween_ordered keeps ?_ first last
  intro record member
  obtain ⟨member,valid⟩ := List.mem_filter.mp member
  exact ⟨of_decide_eq_true valid,years record member,reads record member⟩

-- A second before midnight, and half a second into the leap second after it.
def beforeMidnight : DateTime := ⟨2016,366,86399,0,by decide,by decide,by decide⟩

def leapSecond : DateTime := ⟨2016,366,86399,1500000000,by decide,by decide,by decide⟩

def sampleAt (time : DateTime) : SensorSampleRecord := ⟨none,⟨60,1,200,0,0,0,1,0,7,time⟩⟩

example : leapSecond.toRfc3339 = ascii "2016-12-31T23:59:60.500+00:00" := by decide

def parseMidnight (text : List UInt8) : Except String DateTime :=
  if text = beforeMidnight.toRfc3339 then .ok beforeMidnight
  else if text = leapSecond.toRfc3339 then .ok leapSecond
  else .error "input contains invalid characters"

theorem history_at_midnight : (∀ record ∈ [sampleAt leapSecond,sampleAt beforeMidnight], record.sample.capturedAt.InYears) ∧
    (∀ record ∈ [sampleAt leapSecond,sampleAt beforeMidnight],
      parseMidnight record.sample.capturedAt.toRfc3339 = .ok record.sample.capturedAt) ∧
    (∀ one other : DateTime, one.InYears → other.InYears → (one.toRfc3339 < other.toRfc3339 ↔ one < other)) ∧
    ∀ startTime endTime : DateTime, startTime.InYears → endTime.InYears →
      ∃ ordered, ordered.Perm (([sampleAt leapSecond,sampleAt beforeMidnight].filter (·.Valid)).filter
          (·.within startTime endTime)) ∧
        ordered.Pairwise (fun one other => one.sample.capturedAt ≤ other.sample.capturedAt) ∧
        ∀ limit offset, samplesBetween parseMidnight
          (insertSamples .empty [sampleAt leapSecond,sampleAt beforeMidnight]) startTime endTime limit offset =
            .ok (sqlPage (asI64 limit) (asI64 offset) ordered) := by
  have years : ∀ record ∈ [sampleAt leapSecond,sampleAt beforeMidnight], record.sample.capturedAt.InYears := by decide
  have reads : ∀ record ∈ [sampleAt leapSecond,sampleAt beforeMidnight],
      parseMidnight record.sample.capturedAt.toRfc3339 = .ok record.sample.capturedAt := by decide
  exact ⟨years,reads,history_in_time_order years reads⟩

end ReactorOS
