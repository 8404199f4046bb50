import ReactorOS.AuditInserts
import ReactorOS.SampleHistory
import ReactorOS.Storage.Pages
import ReactorOS.Text
namespace ReactorOS
open Wire Storage

structure AuditQuery where
  page : Option Nat
  pageSize : Option Nat
  eventType : Option String

structure AuditLogResponse where
  page : Nat
  pageSize : Nat
  total : Nat
  events : List ControlEventRecord
  chain : AuditChainStatus

-- `WHERE event_type = ?`, or every row.
def ControlEventTable.matching (table : ControlEventTable) (eventType : Option String) : List ControlEventRow :=
  table.rows.filter fun row => eventType.all (row.eventType = ·)

section Codec
variable (codec : AuditCodec)

-- Rows with targets out of range are skipped, an unreadable time ends the read.
def collectValidControlEvents : List ControlEventRow → Except Failure (List ControlEventRecord)
  | [] => .ok []
  | row :: rows =>
      match codec.parseRfc3339 row.createdAt with
      | none => .error ⟨s!"invalid RFC3339 timestamp in database: {row.createdAt}",[]⟩
      | some moment =>
          match validateControlEventTargets row.targetTemperatureC row.targetStirrerRpm row.targetShakeSpeedCpm with
          | .error _ => collectValidControlEvents rows
          | .ok () => (collectValidControlEvents rows).map (⟨row,moment⟩ :: ·)

def auditEventCount (table : ControlEventTable) (eventType : Option String) : Nat := (table.matching eventType).length

-- `ORDER BY id DESC LIMIT ? OFFSET ?`
def auditEvents (table : ControlEventTable) (limit offset : Nat) (eventType : Option String) :
    Except Failure (List ControlEventRecord) :=
  collectValidControlEvents codec (sqlPage (asI64 limit) (asI64 offset) (table.matching eventType).reverse)

def AuditQuery.filter (query : AuditQuery) : Option String := (query.eventType.map trim).filter fun value => !value.isEmpty

-- `permitted` is what the check of the caller's role said. Nothing where the offset
-- overflows, which aborts the process.
def auditLogs (table : ControlEventTable) (permitted : Except AppError Unit) (query : AuditQuery) :
    Except AppError (Option AuditLogResponse) := do
  permitted
  let page := max (query.page.getD 1) 1
  let pageSize := max 1 (min (query.pageSize.getD 50) 500)
  let total := auditEventCount table query.filter
  let offset := (page-1)*pageSize
  if 2^64 ≤ offset then return none
  let events ← (auditEvents codec table pageSize offset query.filter).mapError .internal
  let chain ← (auditChainStatus codec table).mapError fun err => .internal ⟨err,[]⟩
  return some ⟨page,pageSize,total,events,chain⟩

end Codec

def pageRows (otherwise : Nat) (pageSize : Option Nat) : Nat := max 1 (min (pageSize.getD otherwise) 500)

def firstRank (page : Option Nat) (size : Nat) : Nat := (max (page.getD 1) 1-1)*size

theorem pageRows_bounds (otherwise : Nat) (pageSize : Option Nat) :
    1 ≤ pageRows otherwise pageSize ∧ pageRows otherwise pageSize ≤ 500 := by
  unfold pageRows
  omega

theorem firstRank_page (page size : Nat) : firstRank (some (page+1)) size = page*size := by
  unfold firstRank
  rw [Option.getD_some,Nat.max_eq_left (Nat.succ_pos page)]
  rfl

-- Below the first half of the 64-bit numbers a page of SQL is the slice of its ranks.
theorem sqlPage_slice {α : Type} {limit offset : Nat} (limited : limit < 2^63) (bound : offset < 2^63) (rows : List α) :
    sqlPage (asI64 limit) (asI64 offset) rows = slice offset limit rows := by
  unfold sqlPage asI64 slice
  rw [if_pos limited,if_pos bound]
  simp

-- In the second half it is the first page again.
theorem sqlPage_wrapped {α : Type} {limit offset : Nat} (limited : limit < 2^63) (past : 2^63 ≤ offset) (fits : offset < 2^64)
    (rows : List α) : sqlPage (asI64 limit) (asI64 offset) rows = slice 0 limit rows := by
  unfold sqlPage asI64 slice
  have negative : (offset : Int)-2^64 ≤ 0 := by omega
  rw [if_pos limited,if_neg (Nat.not_lt.mpr past),Int.toNat_of_nonpos negative]
  simp

theorem asI64_nonneg {number : Nat} (fits : number < 2^64) : 0 ≤ asI64 number ↔ number < 2^63 := by
  unfold asI64
  split <;> omega

-- A row of either table as it is read for a page: kept, skipped, or the end of the read.
def readSampleRow (parse : List UInt8 → Except String DateTime) (row : SensorSampleRow) :
    Except Failure (Option SensorSampleRecord) :=
  match sensorSampleRecordFromRow parse row with
  | .ok record => .ok (some record)
  | .error (.invalid _) => .ok none
  | .error (.other error) => .error error

theorem collectValidSensorSampleRecords_collect (parse : List UInt8 → Except String DateTime) (rows : List SensorSampleRow) :
    collectValidSensorSampleRecords parse rows = collect (readSampleRow parse) rows := by
  induction rows with
  | nil => rfl
  | cons row rows ih =>
      rcases found : sensorSampleRecordFromRow parse row with error | record
      · cases error with
        | other error => simp only [collectValidSensorSampleRecords,collect,readSampleRow,found]
        | invalid reason =>
            simp only [collectValidSensorSampleRecords,collect,readSampleRow,found,ih]
            cases collect (readSampleRow parse) rows <;> rfl
      · simp only [collectValidSensorSampleRecords,collect,readSampleRow,found,ih]
        rfl

def readEventRow (codec : AuditCodec) (row : ControlEventRow) : Except Failure (Option ControlEventRecord) :=
  match codec.parseRfc3339 row.createdAt with
  | none => .error ⟨s!"invalid RFC3339 timestamp in database: {row.createdAt}",[]⟩
  | some moment =>
      match validateControlEventTargets row.targetTemperatureC row.targetStirrerRpm row.targetShakeSpeedCpm with
      | .error _ => .ok none
      | .ok () => .ok (some ⟨row,moment⟩)

theorem collectValidControlEvents_collect (codec : AuditCodec) (rows : List ControlEventRow) :
    collectValidControlEvents codec rows = collect (readEventRow codec) rows := by
  induction rows with
  | nil => rfl
  | cons row rows ih =>
      cases parsed : codec.parseRfc3339 row.createdAt with
      | none => simp only [collectValidControlEvents,collect,readEventRow,parsed]
      | some moment =>
          rcases checked : validateControlEventTargets row.targetTemperatureC row.targetStirrerRpm row.targetShakeSpeedCpm with
            reason | done
          · simp only [collectValidControlEvents,collect,readEventRow,parsed,checked,ih]
            cases collect (readEventRow codec) rows <;> rfl
          · simp only [collectValidControlEvents,collect,readEventRow,parsed,checked,ih]
            rfl

-- The rows of a history query, filtered and ordered.
def historyRows (table : SensorSampleTable) (startTime endTime : DateTime) : List SensorSampleRow :=
  (table.rows.filter fun row => startTime.toRfc3339 ≤ row.capturedAt && row.capturedAt ≤ endTime.toRfc3339).insertionSort
    SensorSampleRow.NotAfter

-- A history request that gets as far as its page.
structure HistoryAsked (parse : List UInt8 → Except String DateTime) (deviceId : String) (query : V1HistoryQuery)
    (startTime endTime : DateTime) : Prop where
  device : ensureReactorDeviceId deviceId = .ok ()
  start : parseRequiredTime parse query.startTime "start_time" = .ok startTime
  stop : parseRequiredTime parse query.endTime "end_time" = .ok endTime
  forwards : ¬endTime < startTime

-- The offset is a 64-bit number, it is not negative as SQL gets it, and the answer is
-- read from exactly the rows of the ranks that the page stands for.
structure ServesRanks {Row Answer : Type} (offset size : Nat) (rows : List Row) (read : List Row → Except AppError Answer)
    (answer : Except AppError (Option Answer)) : Prop where
  fits : offset < 2^64
  nonnegative : 0 ≤ asI64 offset
  ranks : answer = (read (slice offset size rows)).map some

section History
variable {parse : List UInt8 → Except String DateTime} {table : SensorSampleTable} {deviceId : String}
  {query : V1HistoryQuery} {startTime endTime : DateTime}

theorem samplesBetween_page (limit offset : Nat) : samplesBetween parse table startTime endTime limit offset =
    collect (readSampleRow parse) (sqlPage (asI64 limit) (asI64 offset) (historyRows table startTime endTime)) :=
  collectValidSensorSampleRecords_collect parse _

theorem v1History_page (asked : HistoryAsked parse deviceId query startTime endTime) :
    v1History parse table deviceId query =
      if 2^64 ≤ firstRank query.page (pageRows 100 query.pageSize) then .ok none
      else ((collect (readSampleRow parse) (sqlPage (asI64 (pageRows 100 query.pageSize))
        (asI64 (firstRank query.page (pageRows 100 query.pageSize))) (historyRows table startTime endTime))).mapError
          AppError.internal).map some := by
  unfold v1History
  rw [ok_bind asked.device,ok_bind asked.start,ok_bind asked.stop,if_neg asked.forwards]
  change (if 2^64 ≤ firstRank query.page (pageRows 100 query.pageSize) then _ else _) = _
  split
  · rfl
  · change ((samplesBetween parse table startTime endTime (pageRows 100 query.pageSize)
      (firstRank query.page (pageRows 100 query.pageSize))).mapError AppError.internal >>= fun samples => pure (some samples)) = _
    rw [samplesBetween_page]
    cases collect (readSampleRow parse) _ <;> rfl

theorem v1History_ranks (asked : HistoryAsked parse deviceId query startTime endTime) :
    ServesRanks (firstRank query.page (pageRows 100 query.pageSize)) (pageRows 100 query.pageSize)
      (historyRows table startTime endTime) (fun rows => (collect (readSampleRow parse) rows).mapError AppError.internal)
      (v1History parse table deviceId query) ↔ firstRank query.page (pageRows 100 query.pageSize) < 2^63 := by
  have limited : pageRows 100 query.pageSize < 2^63 := by
    have bounds := pageRows_bounds 100 query.pageSize
    omega
  constructor
  · intro served
    exact (asI64_nonneg served.fits).mp served.nonnegative
  · intro bound
    have fits : firstRank query.page (pageRows 100 query.pageSize) < 2^64 := by omega
    refine ⟨fits,(asI64_nonneg fits).mpr bound,?_⟩
    rw [v1History_page asked,if_neg (Nat.not_le.mpr fits),sqlPage_slice limited bound]

end History

section Audit
variable {codec : AuditCodec} {table : ControlEventTable} {query : AuditQuery} {chain : AuditChainStatus}

theorem auditEvents_page (limit offset : Nat) (eventType : Option String) : auditEvents codec table limit offset eventType =
    collect (readEventRow codec) (sqlPage (asI64 limit) (asI64 offset) (table.matching eventType).reverse) :=
  collectValidControlEvents_collect codec _

theorem auditLogs_page (status : auditChainStatus codec table = .ok chain) :
    auditLogs codec table (.ok ()) query =
      if 2^64 ≤ firstRank query.page (pageRows 50 query.pageSize) then .ok none
      else ((collect (readEventRow codec) (sqlPage (asI64 (pageRows 50 query.pageSize))
        (asI64 (firstRank query.page (pageRows 50 query.pageSize))) (table.matching query.filter).reverse)).mapError
          AppError.internal).map fun events => some ⟨max (query.page.getD 1) 1,pageRows 50 query.pageSize,
            auditEventCount table query.filter,events,chain⟩ := by
  unfold auditLogs
  rw [status]
  change (if 2^64 ≤ firstRank query.page (pageRows 50 query.pageSize) then _ else _) = _
  split
  · rfl
  · change ((auditEvents codec table (pageRows 50 query.pageSize) (firstRank query.page (pageRows 50 query.pageSize))
      query.filter).mapError AppError.internal >>= _) = _
    rw [auditEvents_page]
    generalize collect (readEventRow codec) _ = events
    cases events <;> rfl

theorem auditLogs_ranks (status : auditChainStatus codec table = .ok chain) :
    ServesRanks (firstRank query.page (pageRows 50 query.pageSize)) (pageRows 50 query.pageSize)
      (table.matching query.filter).reverse (fun rows => (collect (readEventRow codec) rows).mapError AppError.internal)
      ((auditLogs codec table (.ok ()) query).map (·.map AuditLogResponse.events)) ↔
        firstRank query.page (pageRows 50 query.pageSize) < 2^63 := by
  have limited : pageRows 50 query.pageSize < 2^63 := by
    have bounds := pageRows_bounds 50 query.pageSize
    omega
  constructor
  · intro served
    exact (asI64_nonneg served.fits).mp served.nonnegative
  · intro bound
    have fits : firstRank query.page (pageRows 50 query.pageSize) < 2^64 := by omega
    refine ⟨fits,(asI64_nonneg fits).mpr bound,?_⟩
    rw [auditLogs_page status,if_neg (Nat.not_le.mpr fits),sqlPage_slice limited bound]
    cases collect (readEventRow codec) _ <;> rfl

end Audit

-- The records of the pages from the first one on are, in their order and each once, the
-- records of so many rows; with enough pages these are all the rows.
def PagesJoin {Row Record : Type} (size : Nat) (rows : List Row) (read : Row → Except Failure (Option Record))
    (answer : Nat → Except AppError (Option (List Record))) : Prop :=
  ∀ count (pages : Nat → List Record), (∀ page < count, page*size < 2^63) →
    (∀ page < count, answer (page+1) = .ok (some (pages page))) →
    collect read (rows.take (count*size)) = .ok ((List.range count).flatMap pages) ∧
    (rows.length ≤ count*size → collect read rows = .ok ((List.range count).flatMap pages))

theorem mapError_ok {α : Type} {result : Except Failure α} {value : α}
    (done : (result.mapError AppError.internal).map some = .ok (some value)) : result = .ok value := by
  cases result with
  | error err => cases done
  | ok found =>
      cases done
      rfl

theorem pages_join {Row Record : Type} {size : Nat} {rows : List Row} {read : Row → Except Failure (Option Record)}
    {answer : Nat → Except AppError (Option (List Record))}
    (serves : ∀ page, page*size < 2^63 → ServesRanks (page*size) size rows
      (fun rows => (collect read rows).mapError AppError.internal) (answer (page+1))) :
    PagesJoin size rows read answer := by
  intro count pages bound answered
  have joined : collect read (rows.take (count*size)) = .ok ((List.range count).flatMap pages) := by
    refine collect_pages fun page before => ?_
    have served := (serves page (bound page before)).ranks
    rw [answered page before] at served
    exact mapError_ok served.symm
  refine ⟨joined,fun enough => ?_⟩
  rwa [List.take_of_length_le enough] at joined

section Claims
variable {parse : List UInt8 → Except String DateTime} {samples : SensorSampleTable} {deviceId : String}
  {history : V1HistoryQuery} {startTime endTime : DateTime} {codec : AuditCodec} {events : ControlEventTable}
  {audit : AuditQuery} {chain : AuditChainStatus}

-- A page of either endpoint is the page of its ranks as long as its offset is below 2^63,
-- and only then; such pages put one after the other are the table.
theorem pages_exact_below_half (asked : HistoryAsked parse deviceId history startTime endTime)
    (status : auditChainStatus codec events = .ok chain) :
    (∀ page pageSize, ServesRanks (firstRank page (pageRows 100 pageSize)) (pageRows 100 pageSize)
        (historyRows samples startTime endTime) (fun rows => (collect (readSampleRow parse) rows).mapError AppError.internal)
        (v1History parse samples deviceId {history with page := page, pageSize := pageSize}) ↔
          firstRank page (pageRows 100 pageSize) < 2^63) ∧
    (∀ page pageSize, ServesRanks (firstRank page (pageRows 50 pageSize)) (pageRows 50 pageSize)
        (events.matching audit.filter).reverse (fun rows => (collect (readEventRow codec) rows).mapError AppError.internal)
        ((auditLogs codec events (.ok ()) {audit with page := page, pageSize := pageSize}).map
          (·.map AuditLogResponse.events)) ↔ firstRank page (pageRows 50 pageSize) < 2^63) ∧
    (∀ pageSize, PagesJoin (pageRows 100 pageSize) (historyRows samples startTime endTime) (readSampleRow parse) fun page =>
      v1History parse samples deviceId {history with page := some page, pageSize := pageSize}) ∧
    ∀ pageSize, PagesJoin (pageRows 50 pageSize) (events.matching audit.filter).reverse (readEventRow codec) fun page =>
      (auditLogs codec events (.ok ()) {audit with page := some page, pageSize := pageSize}).map
        (·.map AuditLogResponse.events) := by
  have history_ranks : ∀ page pageSize, ServesRanks (firstRank page (pageRows 100 pageSize)) (pageRows 100 pageSize)
      (historyRows samples startTime endTime) (fun rows => (collect (readSampleRow parse) rows).mapError AppError.internal)
      (v1History parse samples deviceId {history with page := page, pageSize := pageSize}) ↔
        firstRank page (pageRows 100 pageSize) < 2^63 := by
    intro page pageSize
    have still : HistoryAsked parse deviceId {history with page := page, pageSize := pageSize} startTime endTime :=
      ⟨asked.device,asked.start,asked.stop,asked.forwards⟩
    exact v1History_ranks still
  have audit_ranks : ∀ page pageSize, ServesRanks (firstRank page (pageRows 50 pageSize)) (pageRows 50 pageSize)
      (events.matching audit.filter).reverse (fun rows => (collect (readEventRow codec) rows).mapError AppError.internal)
      ((auditLogs codec events (.ok ()) {audit with page := page, pageSize := pageSize}).map
        (·.map AuditLogResponse.events)) ↔ firstRank page (pageRows 50 pageSize) < 2^63 := by
    intro page pageSize
    have ranks := @auditLogs_ranks codec events {audit with page := page, pageSize := pageSize} chain status
    exact ranks
  refine ⟨history_ranks,audit_ranks,fun pageSize => pages_join fun page bound => ?_,
    fun pageSize => pages_join fun page bound => ?_⟩
  · have served := history_ranks (some (page+1)) pageSize
    rw [firstRank_page] at served
    exact served.mpr bound
  · have served := audit_ranks (some (page+1)) pageSize
    rw [firstRank_page] at served
    exact served.mpr bound

end Claims

def midnightTable : SensorSampleTable := insertSamples .empty [sampleAt beforeMidnight]

def midnightQuery (page pageSize : Option Nat) : V1HistoryQuery :=
  ⟨some beforeMidnight.toRfc3339,some beforeMidnight.toRfc3339,page,pageSize⟩

theorem midnight_asked (page pageSize : Option Nat) :
    HistoryAsked parseMidnight "reactor_001" (midnightQuery page pageSize) beforeMidnight beforeMidnight :=
  ⟨rfl,rfl,rfl,by decide⟩

theorem midnight_read : collect (readSampleRow parseMidnight) [sensorSampleRow 1 (sampleAt beforeMidnight)] =
    .ok [sampleAt beforeMidnight] := by
  have valid : (sampleAt beforeMidnight).Valid := by decide
  have reads : parseMidnight (sampleAt beforeMidnight).sample.capturedAt.toRfc3339 =
      .ok (sampleAt beforeMidnight).sample.capturedAt := by decide
  rw [← collectValidSensorSampleRecords_collect]
  exact @collectValidSensorSampleRecords_rows parseMidnight [(1,sampleAt beforeMidnight)] (by simpa using ⟨valid,reads⟩)

theorem empty_chain (codec : AuditCodec) : ∃ chain, auditChainStatus codec .empty = .ok chain := by
  have none_hashed : ControlEventTable.hashed .empty = [] := rfl
  simp only [auditChainStatus,none_hashed,List.drop_nil]
  exact ⟨_,rfl⟩

-- Page 2^63+1 of one row a page is the first page again, though the only row has rank 0;
-- the last page number that a request can name ends the process.
theorem pages_wrap_and_abort :
    v1History parseMidnight midnightTable "reactor_001" (midnightQuery (some (2^63+1)) (some 1)) =
        .ok (some [sampleAt beforeMidnight]) ∧
      slice (firstRank (some (2^63+1)) (pageRows 100 (some 1))) (pageRows 100 (some 1))
        (historyRows midnightTable beforeMidnight beforeMidnight) = [] ∧
      v1History parseMidnight midnightTable "reactor_001" (midnightQuery (some (2^64-1)) (some 500)) = .ok none ∧
      auditLogs benchCodec .empty (.ok ()) ⟨some (2^64-1),some 500,none⟩ = .ok none := by
  have rows : historyRows midnightTable beforeMidnight beforeMidnight = [sensorSampleRow 1 (sampleAt beforeMidnight)] := by
    have valid : validateSensorSnapshot (sampleAt beforeMidnight).sample.snapshot = .ok () := by decide
    have kept : midnightTable.rows = [sensorSampleRow 1 (sampleAt beforeMidnight)] := by
      simp only [midnightTable,insertSamples,List.foldl_cons,List.foldl_nil,insertSample]
      rw [valid]
      rfl
    simp [historyRows,kept,sensorSampleRow,sampleAt]
  have size : pageRows 100 (some 1) = 1 := rfl
  have rank : firstRank (some (2^63+1)) 1 = 2^63 := by decide
  refine ⟨?_,?_,?_,?_⟩
  · rw [v1History_page (midnight_asked _ _)]
    simp only [midnightQuery,size,rank]
    rw [if_neg (by decide),sqlPage_wrapped (by decide) (by decide) (by decide),rows]
    change ((collect (readSampleRow parseMidnight) [sensorSampleRow 1 (sampleAt beforeMidnight)]).mapError _).map some = _
    rw [midnight_read]
    rfl
  · rw [size,rank,rows]
    rfl
  · rw [v1History_page (midnight_asked _ _),if_pos (by decide)]
  · obtain ⟨chain,status⟩ := empty_chain benchCodec
    rw [auditLogs_page status,if_pos (by decide)]

theorem pages_exact_at_midnight :
    HistoryAsked parseMidnight "reactor_001" (midnightQuery none none) beforeMidnight beforeMidnight ∧
    ∃ chain, auditChainStatus benchCodec .empty = .ok chain ∧
      (∀ page pageSize, ServesRanks (firstRank page (pageRows 100 pageSize)) (pageRows 100 pageSize)
        (historyRows midnightTable beforeMidnight beforeMidnight)
        (fun rows => (collect (readSampleRow parseMidnight) rows).mapError AppError.internal)
        (v1History parseMidnight midnightTable "reactor_001" {midnightQuery none none with page := page, pageSize := pageSize}) ↔
          firstRank page (pageRows 100 pageSize) < 2^63) := by
  obtain ⟨chain,status⟩ := empty_chain benchCodec
  exact ⟨midnight_asked none none,chain,status,
    (@pages_exact_below_half parseMidnight midnightTable "reactor_001" _ _ _ benchCodec .empty ⟨none,none,none⟩ chain
      (midnight_asked none none) status).1⟩

end ReactorOS
