import ReactorOS.Control
namespace ReactorOS

structure Batch where
  id : Int
  processId : Option Int
  name : String
  startedAt : Instant
  finishedAt : Option Instant
  targetTemperatureC : ℚ
  targetStirrerRpm : ℚ
  heatingMinutes : ℚ
  stirringMinutes : ℚ
  deriving DecidableEq

structure ProcessDefinition where
  id : Int
  name : String
  description : String
  status : String
  version : Int
  stepCount : Int
  createdAt : Instant
  updatedAt : Instant
  appliedAt : Option Instant
  deriving DecidableEq

structure ProcessStep where
  id : Int
  targetTemperatureC : ℚ
  rampRateCMin : ℚ
  durationMinutes : ℚ
  targetStirrerRpm : ℚ
  targetShakeSpeedCpm : ℚ
  targetPressureMpa : ℚ

structure ProcessDetail where
  process : ProcessDefinition
  steps : List ProcessStep

structure AuditActor where
  username : String
  role : String
  deriving DecidableEq

def AuditActor.system : AuditActor := ⟨"system","system"⟩

structure ControlEvent where
  batchId : Option Int
  eventType : String
  command : Option SafeCommand
  reason : String
  actor : AuditActor
  deriving DecidableEq

structure ProcessApplyResponse where
  process : ProcessDefinition
  batch : Batch
  appliedTargets : ControlTargets
  status : String
  deriving DecidableEq

structure ProcessStopResponse where
  stoppedBatchId : Int
  processId : Option Int
  batch : Option Batch
  recovery : Option String
  activeBatchId : Option Int
  autoEnabled : Bool
  stoppedTargets : ControlTargets
  deriving DecidableEq

-- The request object as it is stored: an absent number and an explicit null are the
-- same there, an absent process id and a null one are not.
structure TaskRequest where
  externalTaskId : Option String
  action : String
  processId : Option (Option Int)
  targetTemperatureC : Option ℚ
  targetStirrerRpm : Option ℚ
  targetShakeSpeedCpm : Option ℚ
  targetPressureMpa : Option ℚ
  heatTimeS : Option ℚ
  holdTimeS : Option ℚ
  coolTimeS : Option ℚ
  reason : Option String
  deriving DecidableEq

inductive TaskResponse where
  | null
  | executing (message : String)
  | targets (action status safety : String) (targets : ControlTargets)
  | started (response : ProcessApplyResponse)
  | stopped (response : ProcessStopResponse)
  | error (code : Nat) (message : String)
  deriving DecidableEq

inductive TaskStatus where
  | received | executing | executed | failed | rejected
  deriving DecidableEq, Repr

def TaskStatus.terminal : TaskStatus → Bool
  | .received | .executing => false
  | .executed | .failed | .rejected => true

structure IntegrationTask where
  id : Int
  externalTaskId : Option String
  source : String
  action : String
  status : TaskStatus
  request : TaskRequest
  response : TaskResponse
  deriving DecidableEq

-- The tables in insertion order.
structure Db where
  batches : List Batch
  controlEvents : List ControlEvent
  integrationTasks : List IntegrationTask

namespace Db

def empty : Db := ⟨[],[],[]⟩

def nextBatchId (db : Db) : Int := db.batches.foldl (fun last batch => max last batch.id) 0 + 1

def nextTaskId (db : Db) : Int := db.integrationTasks.foldl (fun last task => max last task.id) 0 + 1

-- ORDER BY id DESC LIMIT: ids grow with every insert.
def unfinishedBatches (db : Db) (limit : Nat) : List Batch :=
  (db.batches.filter fun batch => batch.finishedAt.isNone).reverse.take limit

def batchById (db : Db) (batchId : Int) : Option Batch := db.batches.find? fun batch => batch.id == batchId

def insertBatch (db : Db) (batch : Batch) : Db := {db with batches := db.batches ++ [batch]}

def finishBatch (db : Db) (batchId : Int) (now : Instant) : Db :=
  {db with batches := db.batches.map fun batch =>
    if batch.id = batchId ∧ batch.finishedAt = none then {batch with finishedAt := some now} else batch}

def insertControlEvent (db : Db) (event : ControlEvent) : Db :=
  {db with controlEvents := db.controlEvents ++ [event]}

def integrationTask (db : Db) (id : Int) : Option IntegrationTask :=
  db.integrationTasks.find? fun task => task.id == id

def integrationTaskByExternalId (db : Db) (source externalTaskId : String) : Option IntegrationTask :=
  db.integrationTasks.find? fun task => task.source == source && task.externalTaskId == some externalTaskId

def insertIntegrationTask (db : Db) (task : IntegrationTask) : Db :=
  {db with integrationTasks := db.integrationTasks ++ [task]}

def updateIntegrationTask (db : Db) (id : Int) (status : TaskStatus) (response : TaskResponse) : Db :=
  {db with integrationTasks := db.integrationTasks.map fun task =>
    if task.id = id then {task with status := status,response := response} else task}

theorem le_foldl_max {α : Type} (key : α → Int) (rows : List α) (start : Int) :
    start ≤ rows.foldl (fun last row => max last (key row)) start ∧
      ∀ row ∈ rows, key row ≤ rows.foldl (fun last row => max last (key row)) start := by
  induction rows generalizing start with
  | nil => exact ⟨le_rfl,nofun⟩
  | cons first rest ih =>
      obtain ⟨above,bound⟩ := ih (max start (key first))
      refine ⟨(le_max_left _ _).trans above,fun row member => ?_⟩
      rcases List.mem_cons.mp member with rfl | later
      · exact (le_max_right _ _).trans above
      · exact bound row later

theorem nextBatchId_fresh (db : Db) : db.nextBatchId ∉ db.batches.map (·.id) := by
  intro listed
  obtain ⟨batch,member,same⟩ := List.mem_map.mp listed
  have bound : batch.id ≤ db.batches.foldl (fun last batch => max last batch.id) 0 :=
    (le_foldl_max (·.id) db.batches 0).2 batch member
  unfold nextBatchId at same
  omega

theorem nextTaskId_fresh (db : Db) : db.integrationTask db.nextTaskId = none := by
  apply List.find?_eq_none.mpr
  intro task member same
  have bound : task.id ≤ db.integrationTasks.foldl (fun last task => max last task.id) 0 :=
    (le_foldl_max (·.id) db.integrationTasks 0).2 task member
  rw [beq_iff_eq] at same
  unfold nextTaskId at same
  omega

end Db
end ReactorOS
