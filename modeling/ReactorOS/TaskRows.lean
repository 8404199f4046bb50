import ReactorOS.Discipline.Daemon
namespace ReactorOS
open Concurrency Journal
variable {plant : Plant} {event : Event} {db : Db} {source external : String} {id other : Int} {status : TaskStatus}
  {response : TaskResponse} {task : IntegrationTask} {me : TaskId}

-- An update and an insertion, row by row.
theorem integrationTask_updated :
    (db.updateIntegrationTask other status response).integrationTask id = (db.integrationTask id).map fun task =>
      if id = other then {task with status := status,response := response} else task := by
  unfold Db.integrationTask Db.updateIntegrationTask
  rw [List.find?_map]
  have keyed : ((fun task : IntegrationTask => task.id == id) ∘ fun task =>
      if task.id = other then {task with status := status,response := response} else task) = fun task => task.id == id := by
    funext task
    by_cases same : task.id = other
    · simp [same]
    · simp [same]
  rw [keyed]
  cases found : db.integrationTasks.find? (fun task => task.id == id) with
  | none => rfl
  | some task =>
      have named : task.id = id := integrationTask_id found
      simp [named]

theorem integrationTask_inserted : (db.insertIntegrationTask task).integrationTask id =
    (db.integrationTask id).or (if task.id = id then some task else none) := by
  unfold Db.integrationTask Db.insertIntegrationTask
  rw [List.find?_append]
  by_cases same : task.id = id
  · simp [same]
  · simp [same]

theorem integrationTask_elsewhere (different : id ≠ other) :
    (db.updateIntegrationTask other status response).integrationTask id = db.integrationTask id := by
  rw [integrationTask_updated]
  simp [different]

theorem integrationTask_kept (found : db.integrationTask id = some task) {new : IntegrationTask} :
    (db.insertIntegrationTask new).integrationTask id = some task := by
  rw [integrationTask_inserted,found]
  rfl

-- The row that the calls with this source and this external id work on.
def Db.taskFor (db : Db) (source external : String) : Option Int :=
  (db.integrationTaskByExternalId source external).map (·.id)

theorem taskFor_updated :
    (db.updateIntegrationTask other status response).taskFor source external = db.taskFor source external := by
  unfold Db.taskFor Db.integrationTaskByExternalId Db.updateIntegrationTask
  rw [List.find?_map,Option.map_map]
  have keyed : ((fun task : IntegrationTask => task.source == source && task.externalTaskId == some external) ∘ fun task =>
      if task.id = other then {task with status := status,response := response} else task) =
        fun task => task.source == source && task.externalTaskId == some external := by
    funext task
    by_cases same : task.id = other
    · simp [same]
    · simp [same]
  have named : ((·.id) ∘ fun task : IntegrationTask =>
      if task.id = other then {task with status := status,response := response} else task) = (·.id) := by
    funext task
    by_cases same : task.id = other
    · simp [same]
    · simp [same]
  rw [keyed,named]

theorem taskFor_inserted (found : db.taskFor source external = some id) :
    (db.insertIntegrationTask task).taskFor source external = some id := by
  obtain ⟨row,first,same⟩ := Option.map_eq_some_iff.mp found
  unfold Db.taskFor
  have kept : (db.insertIntegrationTask task).integrationTaskByExternalId source external = some row := by
    unfold Db.integrationTaskByExternalId Db.insertIntegrationTask at *
    rw [List.find?_append,first]
    rfl
  rw [kept,Option.map_some,same]

theorem taskFor_new (unknown : db.integrationTaskByExternalId source external = none) (from' : task.source = source)
    (named : task.externalTaskId = some external) :
    (db.insertIntegrationTask task).taskFor source external = some task.id := by
  have found : (db.insertIntegrationTask task).integrationTaskByExternalId source external = some task := by
    unfold Db.integrationTaskByExternalId Db.insertIntegrationTask at *
    rw [List.find?_append,unknown]
    simp [from',named]
  unfold Db.taskFor
  rw [found]
  rfl

-- No row is ever deleted or given to another task.
theorem taskFor_after (found : plant.db.taskFor source external = some id) :
    (Effect.apply event plant).db.taskFor source external = some id := by
  cases event with
  | store write =>
      cases write with
      | taskInserted task => exact taskFor_inserted found
      | taskMarkedExecuting other message => exact taskFor_updated.trans found
      | taskUpdated other status response => exact taskFor_updated.trans found
      | _ => exact found
  | _ => exact found

theorem taskFor_extend {w : World} {new : List (TaskId × Event)} (found : w.state.db.taskFor source external = some id) :
    (w.extend new).state.db.taskFor source external = some id := by
  induction new with
  | nil => exact found
  | cons entry new ih => exact taskFor_after ih

theorem taskFor_others {w after : World} (found : w.state.db.taskFor source external = some id) (moved : Others me w after) :
    after.state.db.taskFor source external = some id := by
  obtain ⟨new,_,rfl⟩ := moved
  exact taskFor_extend found

end ReactorOS
