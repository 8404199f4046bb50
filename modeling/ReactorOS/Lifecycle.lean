import ReactorOS.Commit
namespace ReactorOS
open Concurrency Journal
variable {me : TaskId}

def writeTargets (writer : Writer) (command : SafeCommand) : Handler Event.work me Failure Unit :=
  locked (do
    let env ← answer
    record (.commanded writer (some command) env.device.isOk) rfl
    .ofExcept env.device)

def startProcessOnDevice (safety : SafetyConfig) (targets : ControlTargets) (pendingBatchId : Int) :
    Handler Event.work me AppError Unit := do
  locked (do
    let runtime ← runtimeState
    note (.batchSeen pendingBatchId runtime.activeBatchId)
    if runtime.activeBatchId.isSome then
      throw (.conflict "device is busy running an active process batch")
    ensureNoUnclosedDbBatchExcept runtime (some pendingBatchId)
    ensure fun now => ensureTargetUpdateInterlockClear safety now runtime .processStart
    note .interlockPassed)
  let command := safeCommandFromRuntimeTargets targets "process start target write accepted by safety gate"
  catching (writeTargets .processStart command) fun err => do
    within (latchControlWriteFault err)
    throw (.serviceUnavailable s!"device process start command failed: {err.message}")

def stopProcessOnDevice (targets : ControlTargets) : Handler Event.work me AppError Unit :=
  catching (writeTargets .processStop (safeCommandFromRuntimeTargets targets "process stop target write"))
    fun err => do
      within (latchControlWriteFault err)
      throw (.serviceUnavailable s!"device process stop command failed: {err.message}")

def createBatchForProcessSqlx (processId : Option Int) (name : String)
    (targetTemperatureC targetStirrerRpm heatingMinutes stirringMinutes : ℚ) :
    Handler Event.work me Failure Batch :=
  locked (do
    let now ← utcNow
    let db ← database
    let batch : Batch := {
      id := db.nextBatchId
      processId := processId
      name := name
      startedAt := now
      finishedAt := none
      targetTemperatureC := targetTemperatureC
      targetStirrerRpm := targetStirrerRpm
      heatingMinutes := heatingMinutes
      stirringMinutes := stirringMinutes }
    statement (.batchInserted batch) rfl
    return batch)

def markProcessAppliedSqlx : Handler Event.quiet me Failure (Option ProcessDefinition) :=
  locked (query fun env _ => env.appliedProcess)

def processDetailOrBadRequest : Handler Event.quiet me AppError (Option ProcessDetail) :=
  (locked (query fun env _ => env.process)).mapError fun err =>
    let message := err.alternate
    if (message.splitOn "invalid process step in database").length > 1 then .badRequest message
    else .internal err

-- The stop write failed: the field may still be running, so the batch stays on record.
def rollbackFailedActivation (safety : SafetyConfig) (batchId : Int) (activationTargets : ControlTargets) :
    Handler Event.work me AppError (Option String) := do
  let stoppedTargets := processStopTargets safety
  match ← (stopProcessOnDevice stoppedTargets).attempt with
  | .error (err : AppError) =>
      locked (do
        change (.activeBatchSet (some batchId))
        change .autoDisabled
        change (.targetsSet activationTargets)
        change (.engaged .controlFault s!"activation rollback stop command failed after device start; field may still be running: {err.message}"))
      return some err.message
  | .ok () =>
      locked (do
        let runtime ← runtimeState
        if runtime.activeBatchId = some batchId then
          change (.activeBatchSet none)
          change .autoDisabled
        change (.targetsSet stoppedTargets))
      within (ignoring (finishBatchSqlx batchId))
      return none

def tailErrorWithActivationRollback (err : String) (rollbackStopError : Option String) : String :=
  match rollbackStopError with
  | some stopError =>
      s!"{err}; activation rollback stop command also failed, field may still be running: {stopError}"
  | none => err

-- Every failure after the device was started ends the same way.
def failAfterDeviceStart (safety : SafetyConfig) (batchId : Int) (targets : ControlTargets)
    (action cause : String) (err : AppError) : Handler Event.work me AppError α := do
  let rollbackStopError ← rollbackFailedActivation safety batchId targets
  within (latchTailFailureAfterDeviceAction action (tailErrorWithActivationRollback cause rollbackStopError))
  throw err

def auditStartFailedBeforeActivation (batchId : Int) (targets : ControlTargets) (startKind : String)
    (err : AppError) (actor : AuditActor) : Handler Event.quiet me AppError Unit :=
  let reason := s!"{startKind} start failed before activation: {err.message}"
  ignoring (insertControlEventSqlx (some batchId) "process_start_failed"
    (some (safeCommandFromRuntimeTargets targets reason)) reason actor)

-- The device was never started: close the pending record and report.
def abandonStart (batchId : Int) (targets : ControlTargets) (startKind : String) (actor : AuditActor)
    (err : AppError) : Handler Event.quiet me AppError α := do
  auditStartFailedBeforeActivation batchId targets startKind err actor
  ignoring (finishBatchSqlx batchId)
  throw err

def startReason (eventType : String) : String :=
  if eventType = "process_applied" then "process applied from persisted process definition"
  else if eventType = "ainas_process_started" then "process started by AINAS remote task"
  else "process started from persisted process definition"

def startProcessLifecycle (safety : SafetyConfig) (processId : Int) (eventType : String)
    (nameOverride : Option String) (actor : AuditActor) : Handler Event.work me AppError ProcessApplyResponse := do
  let some detail ← within processDetailOrBadRequest
    | throw (.notFound "process not found")
  if detail.steps.isEmpty then
    throw (.badRequest "process must contain at least one step before starting")
  let targets ← Task.ofExcept (targetsFromProcessSteps safety detail.steps)
  let batchName := nameOverride.getD detail.process.name
  let runtime ← locked disableAutoAndAcknowledge
  ensureProcessCanStart safety runtime
  let acknowledgedSafetyLatches := SafetyLatchGenerations.fromRuntime runtime
  let batch ← orInternal (createBatchForProcessSqlx (some processId) batchName targets.temperatureC
    targets.stirrerRpm (secondsToMinutes targets.heatTimeS) (secondsToMinutes targets.holdTimeS))
  let reason := startReason eventType
  catching (startProcessOnDevice safety targets batch.id) fun err =>
    within (abandonStart batch.id targets "process" actor err)
  catching (within (insertControlEventSqlx (some batch.id) eventType
      (some (safeCommandFromRuntimeTargets targets reason)) reason actor)) fun err =>
    failAfterDeviceStart safety batch.id targets "process start audit" err.alternate (.internal err)
  let process ← catching (within markProcessAppliedSqlx) fun err =>
    failAfterDeviceStart safety batch.id targets "process start state commit" err.alternate (.internal err)
  let some process := process
    | failAfterDeviceStart safety batch.id targets "process start state commit"
        "process not found after device start" (.notFound "process not found")
  catching (commitProcessActivationAfterFinalInterlock safety batch.id targets true
      (some acknowledgedSafetyLatches)) fun err =>
    failAfterDeviceStart safety batch.id targets "process start final interlock" err.message err
  return ⟨process,batch,targets,"running"⟩

def stopProcessReason (eventType : String) : String :=
  if eventType = "ai_process_stopped" then "process stopped by AI master control after safety evaluation"
  else if eventType = "ainas_process_stopped" then "process stopped by AINAS remote task"
  else "process stopped by operator"

-- After the stop command: go on only while the batch is still the active one.
def confirmStoppedBatch (batchId : Int) (stoppedTargets : ControlTargets) (what : String) :
    Critical Event.work me AppError Unit := do
  let runtime ← runtimeState
  note (.batchSeen batchId runtime.activeBatchId)
  change .autoDisabled
  change (.targetsSet stoppedTargets)
  if runtime.activeBatchId ≠ some batchId then
    change (.engaged .controlFault s!"{what} active batch changed after stop command; expected {batchId}, found {debugOption runtime.activeBatchId}; production record was not closed")
    throw (.conflict s!"active batch changed during {what}; verify field state before retrying")

def clearStoppedBatch (batchId : Int) (stoppedTargets : Option ControlTargets) :
    Critical Event.work me AppError Unit := do
  let runtime ← runtimeState
  if runtime.activeBatchId = some batchId then change (.activeBatchSet none)
  change .autoDisabled
  if let some targets := stoppedTargets then change (.targetsSet targets)

-- A failure of the tail after the device was stopped.
def failAfterDeviceStop (action cause : String) (err : AppError) : Handler Event.quiet me AppError α := do
  latchTailFailureAfterDeviceAction action cause
  throw err

def ensureExpectedProcess (expectedProcessId : Option Int) (batch : Option Batch) : Except AppError Unit :=
  match expectedProcessId,batch with
  | some _,none => .error (.notFound "active batch not found")
  | some processId,some batch =>
      if batch.processId ≠ some processId then
        .error (.conflict s!"active batch belongs to process {debugOption batch.processId}, not process {processId}")
      else .ok ()
  | none,_ => .ok ()

def closeStoppedRecord (batchId : Int) (batch : Batch) : Handler Event.work me AppError Batch :=
  if batch.finishedAt.isSome then return batch
  else do
    catching (within (finishBatchSqlx batchId)) fun err =>
      within (failAfterDeviceStop "process stop batch finish" err.alternate (.internal err))
    let reloaded ← catching (batchByIdSqlx batchId) fun err =>
      within (failAfterDeviceStop "process stop batch reload" err.alternate (.internal err))
    match reloaded with
    | some batch => return batch
    | none => within (failAfterDeviceStop "process stop batch reload"
        "stopped batch not found after device stop" (.notFound "stopped batch not found"))

-- The tail of a stop, once the device has stopped and the batch was still the active one.
def closeStoppedBatch (eventType : String) (operatorReason : Option String) (actor : AuditActor) (batchId : Int)
    (stoppedTargets : ControlTargets) (batch : Option Batch) : Handler Event.work me AppError ProcessStopResponse :=
  match batch with
  | some batch => do
      let batch ← closeStoppedRecord batchId batch
      let stopReason := cleanLabel operatorReason (stopProcessReason eventType) 240
      catching (within (insertControlEventSqlx (some batchId) eventType
          (some (safeCommandFromRuntimeTargets stoppedTargets stopReason)) stopReason actor)) fun err =>
        within (failAfterDeviceStop "process stop audit" err.alternate (.internal err))
      locked (clearStoppedBatch batchId (some stoppedTargets))
      return {
        stoppedBatchId := batchId
        processId := batch.processId
        batch := some batch
        recovery := none
        activeBatchId := none
        autoEnabled := false
        stoppedTargets := stoppedTargets }
  | none => do
      let recoveryReason := s!"active runtime batch {batchId} record was missing; risk-reducing stop target was still written and runtime active state was cleared"
      catching (within (insertControlEventSqlx none "process_stop_recovery_missing_batch"
          (some (safeCommandFromRuntimeTargets stoppedTargets recoveryReason)) recoveryReason actor)) fun err =>
        within (failAfterDeviceStop "process stop missing batch recovery audit" err.alternate (.internal err))
      locked (clearStoppedBatch batchId (some stoppedTargets))
      return {
        stoppedBatchId := batchId
        processId := none
        batch := none
        recovery := some recoveryReason
        activeBatchId := none
        autoEnabled := false
        stoppedTargets := stoppedTargets }

def stopProcessLifecycle (safety : SafetyConfig) (expectedProcessId : Option Int) (eventType : String)
    (operatorReason : Option String) (actor : AuditActor) : Handler Event.work me AppError ProcessStopResponse := do
  let batchId ← locked (do
    let runtime ← runtimeState
    match runtime.activeBatchId with
    | none => throw (.conflict "no active process batch to stop")
    | some batchId =>
        note (.batchSeen batchId (some batchId))
        return batchId)
  let batch ← orInternal (batchByIdSqlx batchId)
  Task.ofExcept (ensureExpectedProcess expectedProcessId batch)
  let stoppedTargets := processStopTargets safety
  stopProcessOnDevice stoppedTargets
  locked (confirmStoppedBatch batchId stoppedTargets "process stop")
  closeStoppedBatch eventType operatorReason actor batchId stoppedTargets batch

def finishMissingActiveBatchRecovery (safety : SafetyConfig) (batchId : Int) :
    Handler Event.work me AppError Unit := do
  let stoppedTargets := processStopTargets safety
  stopProcessOnDevice stoppedTargets
  locked (do
    change .autoDisabled
    change (.targetsSet stoppedTargets))
  let recoveryReason := s!"active runtime batch {batchId} record was missing during finish; risk-reducing stop target was still written and runtime active state was cleared"
  catching (within (insertControlEventSqlx none "batch_finish_recovery_missing_batch"
      (some (safeCommandFromRuntimeTargets stoppedTargets recoveryReason)) recoveryReason .system)) fun err =>
    within (failAfterDeviceStop "batch finish missing batch recovery audit" err.alternate (.internal err))
  locked (clearStoppedBatch batchId (some stoppedTargets))

end ReactorOS
