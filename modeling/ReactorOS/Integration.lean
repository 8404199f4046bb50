import ReactorOS.Operator
namespace ReactorOS
open Concurrency Journal
variable {me : TaskId}

structure AinasTaskRequest where
  externalTaskId : Option String := none
  action : String
  processId : Option (Option Int) := none
  targetTemperatureC : Option (Option ℚ) := none
  targetStirrerRpm : Option (Option ℚ) := none
  targetShakeSpeedCpm : Option (Option ℚ) := none
  targetPressureMpa : Option (Option ℚ) := none
  heatTimeS : Option (Option ℚ) := none
  holdTimeS : Option (Option ℚ) := none
  coolTimeS : Option (Option ℚ) := none
  reason : Option String := none

def AinasTaskRequest.toValue (payload : AinasTaskRequest) : TaskRequest where
  externalTaskId := payload.externalTaskId
  action := payload.action
  processId := payload.processId
  targetTemperatureC := payload.targetTemperatureC.join
  targetStirrerRpm := payload.targetStirrerRpm.join
  targetShakeSpeedCpm := payload.targetShakeSpeedCpm.join
  targetPressureMpa := payload.targetPressureMpa.join
  heatTimeS := payload.heatTimeS.join
  holdTimeS := payload.holdTimeS.join
  coolTimeS := payload.coolTimeS.join
  reason := payload.reason

inductive AinasAction where
  | setTargets | startProcess | stopProcess
  deriving DecidableEq, Repr

def AinasAction.name : AinasAction → String
  | .setTargets => "set_targets"
  | .startProcess => "start_process"
  | .stopProcess => "stop_process"

def normalizeAinasAction (action : String) : Except AppError AinasAction :=
  let name := (trim action).map fun ch => if ch.isUpper then ch.toLower else ch
  if name ∈ ["set_targets","set-targets","control.set_targets","control:set_targets"] then .ok .setTargets
  else if name ∈ ["start_process","start-process","process.start","process:start","start"] then .ok .startProcess
  else if name ∈ ["stop_process","stop-process","process.stop","process:stop","stop"] then .ok .stopProcess
  else .error (.badRequest "AINAS action must be set_targets, start_process, or stop_process")

def requiredProcessId (payload : AinasTaskRequest) : Except AppError Int := do
  match ← optionalPresentI64 payload.processId "process_id" with
  | some processId => return processId
  | none => throw (.badRequest "process_id is required for start_process")

def validateIntegrationActionShape (action : AinasAction) (payload : AinasTaskRequest) : Except AppError Unit :=
  match action with
  | .startProcess => (requiredProcessId payload).map fun _ => ()
  | .setTargets => do
      if (← optionalPresentI64 payload.processId "process_id").isSome then
        throw (.badRequest "process_id is not accepted for set_targets")
  | .stopProcess => (optionalPresentI64 payload.processId "process_id").map fun _ => ()

def cleanOptionalText (value : Option String) (maxChars : Nat) : Option String :=
  value.bind fun value =>
    let cleaned := cleanLabel (some value) "" maxChars
    if cleaned.isEmpty then none else some cleaned

def validateIntegrationTargetPayload (safety : SafetyConfig) (payload : AinasTaskRequest) :
    Except AppError Unit := do
  if let some value ← optionalPresentNumber payload.targetTemperatureC "target_temperature_c" then
    validateTargetTemperature safety value
  if let some value ← optionalPresentNumber payload.targetStirrerRpm "target_stirrer_rpm" then
    validateStirSpeed safety value
  if let some value ← optionalPresentNumber payload.targetShakeSpeedCpm "target_shake_speed_cpm" then
    validateRange "target_shake_speed_cpm" value 0 60
  if let some value ← optionalPresentNumber payload.targetPressureMpa "target_pressure_mpa" then
    validateRange "target_pressure_mpa" value 0 10
  if let some value ← optionalPresentNumber payload.heatTimeS "heat_time_s" then
    validateRange "heat_time_s" value 0 (safety.optimizer.maxHeatingMinutes*60)
  if let some value ← optionalPresentNumber payload.holdTimeS "hold_time_s" then
    validateRange "hold_time_s" value 0 (safety.optimizer.maxStirringMinutes*60)
  if let some value ← optionalPresentNumber payload.coolTimeS "cool_time_s" then
    validateRange "cool_time_s" value 0 3600

def ainasTargets (safety : SafetyConfig) (payload : AinasTaskRequest) (current : ControlTargets) :
    Except AppError ControlTargets := do
  validateIntegrationTargetPayload safety payload
  let targets ← validateIntegrationTargets safety {
    temperatureC :=
      (← optionalPresentNumber payload.targetTemperatureC "target_temperature_c").getD current.temperatureC
    heatTimeS := (← optionalPresentNumber payload.heatTimeS "heat_time_s").getD current.heatTimeS
    holdTimeS := (← optionalPresentNumber payload.holdTimeS "hold_time_s").getD current.holdTimeS
    coolTimeS := (← optionalPresentNumber payload.coolTimeS "cool_time_s").getD current.coolTimeS
    stirrerRpm := (← optionalPresentNumber payload.targetStirrerRpm "target_stirrer_rpm").getD current.stirrerRpm
    shakeSpeedCpm :=
      (← optionalPresentNumber payload.targetShakeSpeedCpm "target_shake_speed_cpm").getD current.shakeSpeedCpm
    targetPressureMpa :=
      (← optionalPresentNumber payload.targetPressureMpa "target_pressure_mpa").getD current.targetPressureMpa }
  ensureTargetsAllowed safety targets
  return targets

def applyAinasTargets (safety : SafetyConfig) (payload : AinasTaskRequest) (actor : AuditActor) :
    Handler Event.work me AppError ControlTargets := do
  if payload.targetTemperatureC.isNone && payload.targetStirrerRpm.isNone &&
      payload.targetShakeSpeedCpm.isNone && payload.targetPressureMpa.isNone && payload.heatTimeS.isNone &&
      payload.holdTimeS.isNone && payload.coolTimeS.isNone then
    throw (.badRequest "set_targets requires at least one target field")
  let current ← locked readTargets
  let targets ← Task.ofExcept (ainasTargets safety payload current)
  let runtime ← locked disableAutoAndAcknowledge
  timed fun now => ensureTargetUpdateInterlockClear safety now runtime .desiredTargets
  let acknowledgedSafetyLatches := SafetyLatchGenerations.fromRuntime runtime
  let reason := cleanLabel payload.reason "AINAS task changed desired targets" 240
  orInternal (within (insertControlEventSqlx none "ainas_targets_updated"
    (some (safeCommandFromRuntimeTargets targets reason)) reason actor))
  commitTargetsAfterFinalInterlock safety targets .desiredTargets (some current) (some acknowledgedSafetyLatches)
  return targets

def executeAinasTask (safety : SafetyConfig) (action : AinasAction) (payload : AinasTaskRequest)
    (actor : AuditActor) : Handler Event.work me AppError TaskResponse :=
  match action with
  | .setTargets => do
      let targets ← applyAinasTargets safety payload actor
      return .targets "set_targets" "executed" "validated_against_configured_limits" targets
  | .startProcess => do
      let processId ← Task.ofExcept (requiredProcessId payload)
      let response ← startProcessLifecycle safety processId "ainas_process_started" none actor
      return .started response
  | .stopProcess => do
      let processId ← Task.ofExcept (optionalPresentI64 payload.processId "process_id")
      let response ← stopProcessLifecycle safety processId "ainas_process_stopped" payload.reason actor
      return .stopped response

-- Get or create, under the write lock of the database.
def createIntegrationTaskSqlx (source : String) (externalTaskId : Option String) (action : AinasAction)
    (request : TaskRequest) : Handler Event.work me Failure IntegrationTask :=
  locked (do
    let db ← database
    let env ← answer
    match externalTaskId.bind fun id => db.integrationTaskByExternalId source id with
    | some task => match env.db with
      | .done => return task
      | .failed error => throw error
      | .lost error => throw error
    | none => do
        let task : IntegrationTask := {
          id := db.nextTaskId
          externalTaskId := externalTaskId
          source := source
          action := action.name
          status := .received
          request := request
          response := .null }
        statement (.taskInserted task) rfl
        return task)

def executingMessage : String := "integration task action started; awaiting final receipt"

-- Returns the row as it is afterwards: a caller cannot see whether it was this call
-- that moved it on.
def markIntegrationTaskExecutingSqlx (id : Int) : Handler Event.work me Failure (Option IntegrationTask) :=
  locked (do
    let db ← database
    match db.integrationTask id with
    | none => query fun _ _ => none
    | some existing =>
        if existing.status ≠ .received then do
          let found ← query fun _ _ => existing
          note (.taskClaimed id found.status)
          return some found
        else do
          statement (.taskMarkedExecuting id executingMessage) rfl
          note (.taskClaimed id .received)
          let db ← database
          return db.integrationTask id)

def updateIntegrationTaskSqlx (id : Int) (status : TaskStatus) (response : TaskResponse) :
    Handler Event.work me Failure (Option IntegrationTask) :=
  locked (do
    let db ← database
    match db.integrationTask id with
    | none => query fun _ _ => none
    | some _ => do
        statement (.taskUpdated id status response) rfl
        let db ← database
        return db.integrationTask id)

def latchIntegrationReceiptFailureAfterAction (action : AinasAction) (err : String) :
    Handler Event.quiet me AppError Unit :=
  match action with
  | .startProcess | .stopProcess =>
      latchAuditFailureAfterDeviceAction s!"integration task {action.name} receipt" err
  | .setTargets =>
      latchControlFault s!"integration task set_targets receipt failed after target intent commit: {err}"

def debugText : Option String → String
  | none => "None"
  | some text => s!"Some({text.quote})"

def ensureIntegrationTaskPayloadMatches (task : IntegrationTask) (action : AinasAction) (request : TaskRequest) :
    Except AppError Unit :=
  if task.action = action.name ∧ task.request = request then .ok ()
  else .error (.conflict s!"integration task external_task_id {debugText task.externalTaskId} already exists for source '{task.source}' with a different request; use a new external_task_id")

-- Everything of the request that `execute_integration_task` settles before it
-- touches the database.
structure PreparedTask where
  action : AinasAction
  payload : AinasTaskRequest
  source : String

def PreparedTask.request (prepared : PreparedTask) : TaskRequest := prepared.payload.toValue

def prepareTask (source : String) (payload : AinasTaskRequest) : Except AppError PreparedTask := do
  let action ← normalizeAinasAction payload.action
  let payload := {payload with action := action.name}
  validateIntegrationActionShape action payload
  return {
    action := action
    payload := {payload with
      externalTaskId := cleanOptionalText payload.externalTaskId 120
      reason := cleanOptionalText payload.reason 240 }
    source := (cleanOptionalText (some source) 40).getD "integration" }

-- The action and its receipt, for the caller that takes the task to be its own.
def runClaimedTask (safety : SafetyConfig) (prepared : PreparedTask) (task : IntegrationTask) (actor : AuditActor) :
    Handler Event.work me AppError IntegrationTask := do
  locked (note (.actionStarted task.id))
  match ← (executeAinasTask safety prepared.action prepared.payload actor).attempt with
  | .ok response => do
      let updated ← catching (updateIntegrationTaskSqlx task.id .executed response) fun err => do
        within (latchIntegrationReceiptFailureAfterAction prepared.action err.message)
        throw (.internal err)
      match updated with
      | some task => return task
      | none => do
          within (latchIntegrationReceiptFailureAfterAction prepared.action "AINAS task not found after execution")
          throw (.notFound "AINAS task not found after execution")
  | .error (err : AppError) => do
      let status : TaskStatus := if err.isServerError then .failed else .rejected
      let _ ← orInternal (updateIntegrationTaskSqlx task.id status (.error err.status err.message))
      throw err

def executeIntegrationTask (safety : SafetyConfig) (source : String) (payload : AinasTaskRequest)
    (actor : AuditActor) : Handler Event.work me AppError IntegrationTask := do
  let prepared ← Task.ofExcept (prepareTask source payload)
  let task ← orInternal (createIntegrationTaskSqlx prepared.source prepared.payload.externalTaskId
    prepared.action prepared.request)
  Task.ofExcept (ensureIntegrationTaskPayloadMatches task prepared.action prepared.request)
  if task.status ≠ .received then return task
  let some task ← orInternal (markIntegrationTaskExecutingSqlx task.id)
    | throw (.notFound "AINAS task not found before execution")
  if task.status ≠ .executing then return task
  runClaimedTask safety prepared task actor

end ReactorOS
