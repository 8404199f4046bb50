import ReactorOS.Lifecycle
namespace ReactorOS
open Concurrency Journal
variable {me : TaskId}

def ensureReactorDeviceId (deviceId : String) : Except AppError Unit :=
  if deviceId = "reactor_001" then .ok () else .error (.notFound "device not found")

def readTargets : Critical Event.work me AppError ControlTargets := do
  let runtime ← runtimeState
  return runtime.targets

theorem silent_readTargets : (readTargets : Critical Event.work me AppError ControlTargets).Silent :=
  Section.silent_bind (Section.silent_inspect _) fun _ => Section.silent_pure _

structure StartBatchRequest where
  name : Option String := none
  processId : Option (Option Int) := none
  targetTemperatureC : Option (Option ℚ) := none
  targetStirrerRpm : Option (Option ℚ) := none
  targetShakeSpeedCpm : Option (Option ℚ) := none
  heatingMinutes : Option (Option ℚ) := none
  stirringMinutes : Option (Option ℚ) := none

def StartBatchRequest.hasExplicitControlField (payload : StartBatchRequest) : Bool :=
  payload.targetTemperatureC.isSome || payload.targetStirrerRpm.isSome || payload.targetShakeSpeedCpm.isSome ||
  payload.heatingMinutes.isSome || payload.stirringMinutes.isSome

def startBatchTargets (safety : SafetyConfig) (payload : StartBatchRequest) (targets : ControlTargets) :
    Except AppError (Option Int × ControlTargets) := do
  let targetTemperatureC :=
    (← optionalPresentNumber payload.targetTemperatureC "target_temperature_c").getD targets.temperatureC
  validateTargetTemperature safety targetTemperatureC
  let targetStirrerRpm :=
    (← optionalPresentNumber payload.targetStirrerRpm "target_stirrer_rpm").getD targets.stirrerRpm
  validateStirSpeed safety targetStirrerRpm
  validateTargetPairAllowed safety targetTemperatureC targetStirrerRpm
  let targetShakeSpeedCpm :=
    (← optionalPresentNumber payload.targetShakeSpeedCpm "target_shake_speed_cpm").getD targets.shakeSpeedCpm
  validateRange "target_shake_speed_cpm" targetShakeSpeedCpm 0 60
  let heatingMinutes := (← optionalPresentNumber payload.heatingMinutes "heating_minutes").getD 60
  validateRange "heating_minutes" heatingMinutes 0 safety.optimizer.maxHeatingMinutes
  let stirringMinutes := (← optionalPresentNumber payload.stirringMinutes "stirring_minutes").getD 60
  validateRange "stirring_minutes" stirringMinutes 0 safety.optimizer.maxStirringMinutes
  let processId ← optionalPresentI64 payload.processId "process_id"
  let applied ← validateBatchStartTargets safety {
    temperatureC := targetTemperatureC
    heatTimeS := heatingMinutes*60
    holdTimeS := stirringMinutes*60
    coolTimeS := targets.coolTimeS
    stirrerRpm := targetStirrerRpm
    shakeSpeedCpm := targetShakeSpeedCpm
    targetPressureMpa := targets.targetPressureMpa }
  return (processId,applied)

def startBatch (safety : SafetyConfig) (payload : StartBatchRequest) (actor : AuditActor) :
    Handler Event.work me AppError Batch := do
  if !payload.hasExplicitControlField then
    throw (.badRequest "batch start must include at least one explicit target or duration field")
  let targets ← locked readTargets
  let (processId,appliedTargets) ← Task.ofExcept (startBatchTargets safety payload targets)
  let name := cleanLabel payload.name "batch" 160
  let runtime ← locked disableAutoAndAcknowledge
  locked (ensureNoUnclosedDbBatchForNewProduction runtime)
  timed fun now => ensureTargetUpdateInterlockClear safety now runtime .batchStart
  let acknowledgedSafetyLatches := SafetyLatchGenerations.fromRuntime runtime
  let batch ← orInternal (createBatchForProcessSqlx processId name appliedTargets.temperatureC
    appliedTargets.stirrerRpm (round2 (appliedTargets.heatTimeS/60)) (round2 (appliedTargets.holdTimeS/60)))
  catching (startProcessOnDevice safety appliedTargets batch.id) fun err =>
    within (abandonStart batch.id appliedTargets "batch" actor err)
  let reason := "batch started and runtime targets updated"
  catching (within (insertControlEventSqlx (some batch.id) "batch_started"
      (some (safeCommandFromRuntimeTargets appliedTargets reason)) reason actor)) fun err =>
    failAfterDeviceStart safety batch.id appliedTargets "batch start audit" err.alternate (.internal err)
  catching (commitProcessActivationAfterFinalInterlock safety batch.id appliedTargets false
      (some acknowledgedSafetyLatches)) fun err =>
    failAfterDeviceStart safety batch.id appliedTargets "batch start final interlock" err.message err
  return batch

-- A latch is due only where the device was stopped.
def failBatchFinish (wasActive : Bool) (action cause : String) (err : AppError) :
    Handler Event.quiet me AppError α := do
  if wasActive then latchTailFailureAfterDeviceAction action cause
  throw err

def ensureBatchCanFinish (batchId : Int) (batch : Batch) (activeBatchId : Option Int) : Except AppError Unit :=
  if batch.finishedAt.isSome && activeBatchId != some batchId then .error (.conflict "batch is already finished")
  else match activeBatchId with
    | some active =>
        if active ≠ batchId then
          .error (.conflict s!"active batch is {active}; cannot finish batch {batchId} while another batch is running")
        else .ok ()
    | none => .ok ()

def closeFinishedRecord (batchId : Int) (batch : Batch) (wasActive : Bool) : Handler Event.work me AppError Unit := do
  if batch.finishedAt.isNone then
    catching (within (finishBatchSqlx batchId)) fun err =>
      within (failBatchFinish wasActive "batch finish state commit" err.alternate (.internal err))
  let finished ← orInternal (batchByIdSqlx batchId)
  match finished with
  | none => within (failBatchFinish wasActive "batch finish state commit"
      "batch disappeared after finish update" (.notFound "batch not found after finish update"))
  | some finishedBatch =>
      if finishedBatch.finishedAt.isNone then
        within (failBatchFinish wasActive "batch finish state commit"
          "batch finish update did not mark the batch finished"
          (.conflict "batch finish update did not mark the batch finished"))
      else return ()

-- The tail of a finish, once a batch that was active has been stopped.
def closeFinishedBatch (actor : AuditActor) (batchId : Int) (batch : Batch) (stoppedTargets : Option ControlTargets) :
    Handler Event.work me AppError Unit := do
  closeFinishedRecord batchId batch stoppedTargets.isSome
  let auditCommand := stoppedTargets.map fun targets =>
    safeCommandFromRuntimeTargets targets "active batch finished; device stop targets written"
  catching (within (insertControlEventSqlx (some batchId) "batch_finished" auditCommand
      "batch finished; automatic control disabled" actor)) fun err =>
    within (failBatchFinish stoppedTargets.isSome "batch finish audit" err.alternate (.internal err))
  locked (clearStoppedBatch batchId stoppedTargets)

def finishBatch (safety : SafetyConfig) (batchId : Int) (actor : AuditActor) : Handler Event.work me AppError Unit := do
  let activeBatchId ← locked (do
    let runtime ← runtimeState
    note (.batchSeen batchId runtime.activeBatchId)
    return runtime.activeBatchId)
  match ← orInternal (batchByIdSqlx batchId) with
  | none =>
      if activeBatchId = some batchId then finishMissingActiveBatchRecovery safety batchId
      else throw (.notFound "batch not found")
  | some batch => do
      Task.ofExcept (ensureBatchCanFinish batchId batch activeBatchId)
      if activeBatchId = some batchId then do
        let stoppedTargets := processStopTargets safety
        stopProcessOnDevice stoppedTargets
        locked (confirmStoppedBatch batchId stoppedTargets "batch finish")
        closeFinishedBatch actor batchId batch (some stoppedTargets)
      else do
        locked (change .autoDisabled)
        closeFinishedBatch actor batchId batch none

structure V1ControlRequest where
  commandId : Option String := none
  autoStart : Option (Option Bool) := none
  params : V1ControlParams

structure V1ControlResponse where
  commandId : String
  status : String
  estimatedDuration : Int

def v1ControlAccepted (payload : V1ControlRequest) (targets : ControlTargets) :
    Critical Event.work me AppError V1ControlResponse := do
  let now ← utcNow
  return {
    commandId := payload.commandId.getD s!"cmd_{now / 1000000}"
    status := "accepted"
    estimatedDuration := saturateI64 (roundHalfAway (targets.heatTimeS+targets.holdTimeS+targets.coolTimeS)) }

def v1Control (safety : SafetyConfig) (deviceId : String) (payload : V1ControlRequest) (actor : AuditActor) :
    Handler Event.work me AppError V1ControlResponse := do
  Task.ofExcept (ensureReactorDeviceId deviceId)
  let autoStart := (← Task.ofExcept (optionalPresentBool payload.autoStart "auto_start")).getD false
  let targets ← Task.ofExcept (validateV1ControlParams safety payload.params autoStart)
  if autoStart then
    locked (do
      let runtime ← runtimeState
      if runtime.activeBatchId.isSome then
        throw (.conflict "device is busy running an active batch")
      ensureNoUnclosedDbBatchForNewProduction runtime)
  let runtime ← locked disableAutoAndAcknowledge
  timed fun now => ensureTargetUpdateInterlockClear safety now runtime .desiredTargets
  let acknowledgedSafetyLatches := SafetyLatchGenerations.fromRuntime runtime
  let reason := "v1 control request accepted after document range validation"
  let command := safeCommandFromRuntimeTargets targets reason
  if autoStart then do
    let commandId := payload.commandId.getD "process"
    let batch ← orInternal (createBatchForProcessSqlx none
      s!"{deviceId}:{commandId}" targets.temperatureC targets.stirrerRpm
      (secondsToMinutes targets.heatTimeS) (secondsToMinutes targets.holdTimeS))
    catching (startProcessOnDevice safety targets batch.id) fun err =>
      within (abandonStart batch.id targets "v1 control" actor err)
    catching (within (insertControlEventSqlx (some batch.id) "v1_control_accepted" (some command) reason actor))
      fun err => failAfterDeviceStart safety batch.id targets "v1 auto_start audit" err.alternate (.internal err)
    catching (commitProcessActivationAfterFinalInterlock safety batch.id targets autoStart
        (some acknowledgedSafetyLatches)) fun err =>
      failAfterDeviceStart safety batch.id targets "v1 auto_start final interlock" err.message err
    locked (v1ControlAccepted payload targets)
  else do
    orInternal (within (insertControlEventSqlx none "v1_control_accepted" (some command) reason actor))
    commitTargetsAfterFinalInterlock safety targets .desiredTargets none (some acknowledgedSafetyLatches)
    locked (v1ControlAccepted payload targets)

-- A JSON member of the phase parameters.
inductive NumberField where
  | absent
  | number (value : ℚ)
  | other

def optionalNumberField (value : NumberField) (field : String) : Except AppError (Option ℚ) :=
  match value with
  | .absent => .ok none
  | .number number => .ok (some number)
  | .other => .error (.badRequest s!"{field} must be a number")

structure V1ProcessPhase where
  phase : String
  paramsIsObject : Bool := true
  duration : NumberField := .absent
  targetTemp : NumberField := .absent
  stirSpeed : NumberField := .absent
  shakeSpeed : NumberField := .absent
  targetPressure : NumberField := .absent

structure V1ProcessRequest where
  processId : String
  name : String
  phases : List V1ProcessPhase

-- What the phases seen so far have set.
structure V1ProcessDraft where
  targetTemperature : Option ℚ := none
  stirrerRpm : Option ℚ := none
  shakeSpeedCpm : Option ℚ := none
  targetPressureMpa : Option ℚ := none
  heatTimeS : Option ℚ := none
  holdTimeS : Option ℚ := none
  coolTimeS : Option ℚ := none
  totalSeconds : ℚ := 0
  sawControlParam : Bool := false

def v1PhaseDuration (safety : SafetyConfig) (phaseName : String) (draft : V1ProcessDraft) (duration : ℚ) :
    Except AppError V1ProcessDraft := do
  let draft := {draft with sawControlParam := true,totalSeconds := draft.totalSeconds+duration}
  if phaseName = "heating" then
    validateRange "heating duration" duration 0 (safety.optimizer.maxHeatingMinutes*60)
    return {draft with heatTimeS := some duration}
  else if phaseName = "holding" then
    validateRange "holding duration" duration 0 (safety.optimizer.maxStirringMinutes*60)
    return {draft with holdTimeS := some duration}
  else if phaseName = "cooling" then
    validateRange "cooling duration" duration 0 3600
    return {draft with coolTimeS := some duration}
  else
    validateRange "duration" duration 0 7200
    return draft

def v1Phase (safety : SafetyConfig) (draft : V1ProcessDraft) (phase : V1ProcessPhase) :
    Except AppError V1ProcessDraft := do
  let phaseName := trim phase.phase
  if phaseName.isEmpty then throw (.badRequest "phase must not be blank")
  if !phase.paramsIsObject then throw (.badRequest "phase params must be an object")
  let draft ← match ← optionalNumberField phase.duration "duration" with
    | some duration => v1PhaseDuration safety phaseName draft duration
    | none => pure draft
  if phaseName ≠ "heating" ∧ phaseName ≠ "holding" ∧ phaseName ≠ "cooling" then
    throw (.badRequest s!"unsupported process phase '{phase.phase}'")
  let draft ← match ← optionalNumberField phase.targetTemp "target_temp" with
    | some temp => do
        validateTargetTemperature safety temp
        pure {draft with sawControlParam := true,targetTemperature := some temp}
    | none => pure draft
  let draft ← match ← optionalNumberField phase.stirSpeed "stir_speed" with
    | some speed => do
        validateStirSpeed safety speed
        pure {draft with sawControlParam := true,stirrerRpm := some speed}
    | none => pure draft
  let draft ← match ← optionalNumberField phase.shakeSpeed "shake_speed" with
    | some speed => do
        validateRange "shake_speed" speed 0 60
        pure {draft with sawControlParam := true,shakeSpeedCpm := some speed}
    | none => pure draft
  match ← optionalNumberField phase.targetPressure "target_pressure" with
  | some pressure => do
      validateRange "target_pressure" pressure 0 10
      pure {draft with sawControlParam := true,targetPressureMpa := some pressure}
  | none => pure draft

def v1ProcessTargets (safety : SafetyConfig) (payload : V1ProcessRequest) :
    Except AppError (V1ProcessDraft × ControlTargets) := do
  if payload.phases.isEmpty then throw (.badRequest "phases must not be empty")
  let draft ← payload.phases.foldlM (v1Phase safety) {}
  if !draft.sawControlParam then
    throw (.badRequest "process phases must include at least one recognized control parameter")
  let targets ← validateV1ProcessTargets safety {
    temperatureC := draft.targetTemperature.getD 120
    heatTimeS := draft.heatTimeS.getD 300
    holdTimeS := draft.holdTimeS.getD 600
    coolTimeS := draft.coolTimeS.getD 180
    stirrerRpm := draft.stirrerRpm.getD 800
    shakeSpeedCpm := draft.shakeSpeedCpm.getD 30
    targetPressureMpa := draft.targetPressureMpa.getD (1/2) }
  ensureTargetsAllowed safety targets
  return (draft,targets)

structure V1ProcessResponse where
  processId : String
  deviceId : String
  name : String
  status : String
  phaseCount : Nat
  estimatedDuration : Int
  appliedTargets : ControlTargets

def v1Process (safety : SafetyConfig) (deviceId : String) (payload : V1ProcessRequest) (actor : AuditActor) :
    Handler Event.work me AppError V1ProcessResponse := do
  Task.ofExcept (ensureReactorDeviceId deviceId)
  let (draft,targets) ← Task.ofExcept (v1ProcessTargets safety payload)
  let acknowledgedSafetyLatches ← locked (do
    let runtime ← disableAutoAndAcknowledge
    ensure fun now => ensureTargetUpdateInterlockClear safety now runtime .v1ProcessLoad
    return SafetyLatchGenerations.fromRuntime runtime)
  let reason := "v1 process accepted after document range validation"
  orInternal (within (insertControlEventSqlx none "v1_process_loaded"
    (some (safeCommandFromRuntimeTargets targets reason)) reason actor))
  commitTargetsAfterFinalInterlock safety targets .v1ProcessLoad none (some acknowledgedSafetyLatches)
  return {
    processId := payload.processId
    deviceId := deviceId
    name := payload.name
    status := "accepted"
    phaseCount := payload.phases.length
    estimatedDuration := saturateI64 (roundHalfAway draft.totalSeconds)
    appliedTargets := targets }

end ReactorOS
