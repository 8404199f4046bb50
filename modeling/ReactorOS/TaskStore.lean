import ReactorOS.Labels
import ReactorOS.Storage.Encoded
import ReactorOS.TaskMigration
namespace ReactorOS.TaskStore
open Wire Storage

-- Values and instants as the reader and the writer of JSON and of RFC 3339 have them.
structure Formats (Value Time : Type) where
  toString : Value → String
  fromStr : String → Except String Value
  nesting : Value → Nat
  isObject : Value → Bool
  isNull : Value → Bool
  null : Value
  object : List (String × String) → Value
  toRfc3339 : Time → String
  parseFromRfc3339 : String → Except String Time

variable {Value Time : Type}

structure StoredTask (Value Time : Type) where
  id : Int
  externalTaskId : Option String
  source : String
  action : String
  status : String
  request : Value
  response : Value
  createdAt : Time
  updatedAt : Time

section Validators

def integrationTaskSourceMaxChars : Nat := 40
def integrationTaskActions : List String := ["set_targets","start_process","stop_process"]
def integrationTaskStatuses : List String := ["received","executing","executed","failed","rejected"]
def integrationTaskTerminalStatuses : List String := ["executed","failed","rejected"]

def isSourceChar (ch : Char) : Bool := ch.isLower || ch.isDigit || ch = '_' || ch = '-' || ch = '.'

def validateIntegrationTaskSource (source : String) : Except String Unit := do
  validateIntegrationTaskCleanText "source" source integrationTaskSourceMaxChars false
  if !source.toList.all isSourceChar then
    throw "source must contain only lowercase ASCII letters, digits, '.', '_' or '-'"

def validateOneOf (field value : String) (allowed : List String) : Except String Unit :=
  if allowed.contains value then .ok () else .error (field ++ " must be one of " ++ ", ".intercalate allowed)

def validateIntegrationTaskAction (action : String) : Except String Unit :=
  validateOneOf "action" action integrationTaskActions

def validateIntegrationTaskStatus (status : String) : Except String Unit :=
  validateOneOf "status" status integrationTaskStatuses

def validateIntegrationTaskTerminalStatus (status : String) : Except String Unit :=
  validateOneOf "status update" status integrationTaskTerminalStatuses

variable (formats : Formats Value Time)

def validateIntegrationTaskRequestPayload (request : Value) : Except String Unit :=
  if formats.isObject request then .ok () else .error "request JSON must be an object"

def validateIntegrationTaskResponsePayload (status : String) (response : Value) : Except String Unit :=
  if status = "received" && formats.isNull response then .ok ()
  else if formats.isObject response then .ok ()
  else .error "response JSON must be an object once a task leaves received status"

def validateExternalIdIfAny : Option String → Except String Unit
  | none => .ok ()
  | some externalTaskId => validateIntegrationTaskExternalId externalTaskId

def validateIntegrationTaskRecord (task : StoredTask Value Time) : Except String (StoredTask Value Time) := do
  validateIntegrationTaskSource task.source
  validateExternalIdIfAny task.externalTaskId
  validateIntegrationTaskAction task.action
  validateIntegrationTaskStatus task.status
  validateIntegrationTaskRequestPayload formats task.request
  validateIntegrationTaskResponsePayload formats task.status task.response
  return task

def ensureValidIntegrationTaskCreateForInsert (source : String) (externalTaskId : Option String) (action : String)
    (request : Value) : Except Failure Unit :=
  (do
    validateIntegrationTaskSource source
    validateExternalIdIfAny externalTaskId
    validateIntegrationTaskAction action
    validateIntegrationTaskRequestPayload formats request : Except String Unit).mapError fun reason =>
      ⟨s!"invalid integration task rejected before DB insert: {reason}",[]⟩

def ensureValidIntegrationTaskUpdateForInsert (status : String) (response : Value) : Except Failure Unit :=
  (do
    validateIntegrationTaskTerminalStatus status
    validateIntegrationTaskResponsePayload formats status response : Except String Unit).mapError fun reason =>
      ⟨s!"invalid integration task update rejected before DB insert: {reason}",[]⟩

end Validators

-- A payload or an instant that does not read, or a row that reads and is refused.
inductive RowError where
  | conversion (failure : Failure)
  | invalid (reason : String)

-- What a listing passes over with a warning.
def RowError.skipped : RowError → Bool
  | .conversion _ => false
  | .invalid _ => true

inductive StoreError where
  | failed (failure : Failure)
  | row (error : RowError)

section Payloads
variable (crypto : Cryptography) (formats : Formats Value Time) (encryption : Option EncryptionKey)

def serializeSensitiveJson (nonce : Nonce) (value : Value) : Except Failure String :=
  match encryption with
  | some key => crypto.encryptJson key nonce (formats.toString value)
  | none => .ok (formats.toString value)

def openSensitiveJson (value : String) : Except Failure String :=
  match encryption with
  | some key => crypto.decryptJsonIfNeeded key value
  | none =>
      if startsWith encryptedJsonPrefix value then
        .error ⟨"XINGSHU_DB_ENCRYPTION_KEY is required to read encrypted integration task payloads",[]⟩
      else .ok value

def parseSensitiveJson (value : String) : Except RowError Value := do
  let plaintext ← (openSensitiveJson crypto encryption value).mapError .conversion
  (formats.fromStr plaintext).mapError fun err => .conversion ⟨err,[]⟩

def parseDt (value : String) : Except RowError Time :=
  (formats.parseFromRfc3339 value).mapError fun err => .conversion ⟨err,[]⟩

def integrationTaskFromRow (row : TaskRow) : Except RowError (StoredTask Value Time) := do
  let request ← parseSensitiveJson crypto formats encryption row.requestJson
  let response ← parseSensitiveJson crypto formats encryption row.responseJson
  let createdAt ← parseDt formats row.createdAt
  let updatedAt ← parseDt formats row.updatedAt
  (validateIntegrationTaskRecord formats ⟨row.id,row.externalTaskId,row.source,row.action,row.status,request,response,
    createdAt,updatedAt⟩).mapError .invalid

end Payloads

-- The table with its row of `sqlite_sequence`.
structure Tables where
  tasks : TaskTable
  sequence : Int
  used : ∀ row ∈ tasks.rows, row.id ≤ sequence

def Tables.empty : Tables := ⟨⟨[],.nil⟩,0,fun _ member => by cases member⟩

def TaskRow.settle (status responseJson updatedAt : String) (row : TaskRow) : TaskRow :=
  {row with status := status,responseJson := responseJson,updatedAt := updatedAt}

def uniqueFailure : Failure :=
  ⟨"UNIQUE constraint failed: integration_tasks.source, integration_tasks.external_task_id",[]⟩

namespace Tables
variable (tables : Tables)

-- INSERT INTO integration_tasks .. VALUES .. under AUTOINCREMENT and the unique index.
def insertTask (row : TaskRow) : Except Failure Tables :=
  if 2^63-1 ≤ tables.sequence then .error ⟨"database or disk is full",[]⟩
  else if tables.tasks.rows.any (·.conflicts row) then .error uniqueFailure
  else .ok {
    tasks := {
      rows := tables.tasks.rows ++ [{row with id := tables.sequence+1}]
      ordered := by
        refine List.pairwise_append.mpr ⟨tables.tasks.ordered,List.pairwise_singleton _ _,?_⟩
        intro one member other single
        rw [List.mem_singleton.mp single]
        exact Int.lt_add_one_of_le (tables.used one member) }
    sequence := tables.sequence+1
    used := by
      intro row' member
      cases List.mem_append.mp member with
      | inl before => exact (tables.used row' before).trans (Int.le_add_one (Int.le_refl _))
      | inr single => rw [List.mem_singleton.mp single] }

def settled (selects : TaskRow → Bool) (status responseJson updatedAt : String) : List TaskRow :=
  tables.tasks.rows.map fun row => if selects row then TaskRow.settle status responseJson updatedAt row else row

theorem settled_id (selects : TaskRow → Bool) (status responseJson updatedAt : String) (row : TaskRow) :
    (if selects row then TaskRow.settle status responseJson updatedAt row else row).id = row.id := by
  split <;> rfl

-- UPDATE integration_tasks SET status, response_json, updated_at WHERE ..
def updateTask (selects : TaskRow → Bool) (status responseJson updatedAt : String) : Except Failure Tables :=
  if tables.tasks.rows.any fun row => selects row && tables.tasks.rows.any fun other =>
      other.id ≠ row.id && (TaskRow.settle status responseJson updatedAt row).conflicts other then .error uniqueFailure
  else .ok {
    tasks := {
      rows := tables.settled selects status responseJson updatedAt
      ordered := by
        refine List.pairwise_map.mpr ?_
        simpa only [settled_id] using tables.tasks.ordered }
    sequence := tables.sequence
    used := by
      intro row' member
      obtain ⟨row,present,rfl⟩ := List.mem_map.mp member
      rw [settled_id]
      exact tables.used row present }

end Tables

inductive TaskStatement where
  | lock | selectByExternalId | selectById | insert | update | selectAfterwards | list
  deriving DecidableEq

-- What one call of the store meets with: the statements that fail, the clock and the
-- nonces of the random generator.
structure Call (Time : Type) where
  failure : TaskStatement → Option Failure
  now : Time
  requestNonce : Nonce
  responseNonce : Nonce

-- A call as it leaves the tables, with its answer. What an error leaves stays.
abbrev Statements (α : Type) : Type := ExceptT StoreError (StateM Tables) α

def settle {α : Type} (result : Except Failure α) : Statements α := fun tables => (result.mapError .failed,tables)

def execute (write : Tables → Except Failure Tables) : Statements Unit := fun tables =>
  match write tables with
  | .ok written => (.ok (),written)
  | .error err => (.error (.failed err),tables)

def Call.allow (call : Call Time) (statement : TaskStatement) : Statements Unit :=
  settle (match call.failure statement with
    | none => .ok ()
    | some err => .error err)

section Store
variable (crypto : Cryptography) (formats : Formats Value Time) (encryption : Option EncryptionKey) (call : Call Time)

-- The first row that is selected, if there is one.
def queryRow (statement : TaskStatement) (selects : TaskRow → Bool) : Statements (Option (StoredTask Value Time)) := do
  call.allow statement
  match (← get).tasks.rows.find? selects with
  | none => return none
  | some row => match integrationTaskFromRow crypto formats encryption row with
    | .ok task => return some task
    | .error error => throw (.row error)

def integrationTaskByIdConn (statement : TaskStatement) (id : Int) : Statements (Option (StoredTask Value Time)) :=
  queryRow crypto formats encryption call statement fun row => row.id = id

def integrationTaskByExternalIdConn (source externalTaskId : String) : Statements (Option (StoredTask Value Time)) :=
  queryRow crypto formats encryption call .selectByExternalId fun row =>
    row.source = source && row.externalTaskId = some externalTaskId

def existingTask (source : String) : Option String → Statements (Option (StoredTask Value Time))
  | none => return none
  | some externalTaskId => integrationTaskByExternalIdConn crypto formats encryption call source externalTaskId

def createIntegrationTask (source : String) (externalTaskId : Option String) (action : String) (request : Value) :
    Statements (StoredTask Value Time) := do
  settle (ensureValidIntegrationTaskCreateForInsert formats source externalTaskId action request)
  call.allow .lock
  match ← existingTask crypto formats encryption call source externalTaskId with
  | some task => return task
  | none => do
      let now := formats.toRfc3339 call.now
      let requestJson ← settle (serializeSensitiveJson crypto formats encryption call.requestNonce request)
      let responseJson ← settle (serializeSensitiveJson crypto formats encryption call.responseNonce formats.null)
      call.allow .insert
      execute (·.insertTask ⟨0,externalTaskId,source,action,"received",requestJson,responseJson,now,now⟩)
      let id := (← get).sequence
      match ← integrationTaskByIdConn crypto formats encryption call .selectAfterwards id with
      | some task => return task
      | none => throw (.failed ⟨"integration task was not readable after insert",[]⟩)

def updateIntegrationTask (id : Int) (status : String) (response : Value) : Statements (Option (StoredTask Value Time)) := do
  settle (ensureValidIntegrationTaskUpdateForInsert formats status response)
  call.allow .lock
  match ← integrationTaskByIdConn crypto formats encryption call .selectById id with
  | none => return none
  | some _ => do
      let responseJson ← settle (serializeSensitiveJson crypto formats encryption call.responseNonce response)
      call.allow .update
      execute (·.updateTask (fun row => row.id = id) status responseJson (formats.toRfc3339 call.now))
      integrationTaskByIdConn crypto formats encryption call .selectAfterwards id

def executingResponse : Value :=
  formats.object [("status","executing"),("message",executingMessage)]

def markIntegrationTaskExecuting (id : Int) : Statements (Option (StoredTask Value Time)) := do
  call.allow .lock
  match ← integrationTaskByIdConn crypto formats encryption call .selectById id with
  | none => return none
  | some existing =>
      if existing.status ≠ "received" then return some existing
      else do
        let responseJson ← settle (serializeSensitiveJson crypto formats encryption call.responseNonce (executingResponse formats))
        call.allow .update
        execute (·.updateTask (fun row => row.id = id && row.status = "received") "executing" responseJson
          (formats.toRfc3339 call.now))
        integrationTaskByIdConn crypto formats encryption call .selectAfterwards id

def integrationTask (id : Int) : Statements (Option (StoredTask Value Time)) := do
  call.allow .lock
  integrationTaskByIdConn crypto formats encryption call .selectById id

-- LIMIT ?: a limit that does not fit comes out negative and limits nothing.
def limited {α : Type} (limit : Nat) (rows : List α) : List α := if limit < 2^63 then rows.take limit else rows

def integrationTasks (source : Option String) (limit : Nat) : Statements (List (StoredTask Value Time)) := do
  call.allow .lock
  call.allow .list
  let rows := (← get).tasks.rows.reverse.filter fun row => source.all (row.source = ·)
  match readAll (integrationTaskFromRow crypto formats encryption) RowError.skipped (limited limit rows) with
  | .ok tasks => return tasks
  | .error error => throw (.row error)

end Store

inductive Request (Value : Type) where
  | create (source : String) (externalTaskId : Option String) (action : String) (request : Value)
  | update (id : Int) (status : String) (response : Value)
  | markExecuting (id : Int)
  | get (id : Int)
  | list (source : Option String) (limit : Nat)

-- The tasks that a call answers with: none, one, or those of a listing.
def serve (crypto : Cryptography) (formats : Formats Value Time) (encryption : Option EncryptionKey) (call : Call Time) :
    Request Value → Statements (List (StoredTask Value Time))
  | .create source externalTaskId action request => do
      return [← createIntegrationTask crypto formats encryption call source externalTaskId action request]
  | .update id status response => do
      return (← updateIntegrationTask crypto formats encryption call id status response).toList
  | .markExecuting id => do return (← markIntegrationTaskExecuting crypto formats encryption call id).toList
  | .get id => do return (← integrationTask crypto formats encryption call id).toList
  | .list source limit => integrationTasks crypto formats encryption call source limit

end ReactorOS.TaskStore
