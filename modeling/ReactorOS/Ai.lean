import ReactorOS.Component
import ReactorOS.DeviceSummary
import ReactorOS.Wire.Json
namespace ReactorOS
open Concurrency Journal Wire
variable {me : TaskId}

structure AiControlRequest where
  intent : Option String := none
  mode : Option String := none
  dryRun : Option (Option Bool) := none
  allowProcessStart : Option (Option Bool) := none
  allowProcessStop : Option (Option Bool) := none
  allowComponentControl : Option (Option Bool) := none
  allowTargetAdjustment : Option (Option Bool) := none
  preferredProcessId : Option (Option Int) := none

inductive AiActionType where
  | targetAdjustment | processStart | processStop | componentControl | hold
  deriving DecidableEq, Repr

inductive AiActionStatus where
  | planned | executed | skipped | blocked
  deriving DecidableEq, Repr

def AiActionType.text : AiActionType → String
  | .targetAdjustment => "target_adjustment"
  | .processStart => "process_start"
  | .processStop => "process_stop"
  | .componentControl => "component_control"
  | .hold => "hold"

def AiActionStatus.text : AiActionStatus → String
  | .planned => "planned"
  | .executed => "executed"
  | .skipped => "skipped"
  | .blocked => "blocked"

structure AiControlAction where
  actionType : AiActionType
  target : String
  status : AiActionStatus
  message : String
  deriving DecidableEq

-- The assessment that precedes AI control.
structure AiControlSafety where
  freshSampleRequired : Bool
  sensorFresh : Bool
  emergencyStop : Bool
  manualLock : Bool
  deviceOnline : Bool
  activeBatchId : Option Int
  batchRecoveryRequired : Bool
  unfinishedBatchIds : List Int
  unexpectedBatchIds : List Int
  highAlarmCount : Nat
  warningAlarmCount : Nat
  stopProductConcentrationPercent : ℚ
  deriving DecidableEq

structure AiControlResponse where
  dryRun : Bool
  decision : String
  recommendedTargets : Option ControlTargets
  actions : List AiControlAction

structure AiControlAuditAction where
  actionType : String
  target : String
  status : String

structure AiControlAuditReason where
  decision : String
  rationale : String
  actions : List AiControlAuditAction

def AiControlAuditAction.toJson (action : AiControlAuditAction) : String :=
  renderObject [("action_type",.string action.actionType),("target",.string action.target),("status",.string action.status)]

def AiControlAuditReason.toJson (reason : AiControlAuditReason) : String :=
  String.ofList ("\x7b\"decision\":".toList ++ (JsonValue.string reason.decision).render ++
    ",\"rationale\":".toList ++ (JsonValue.string reason.rationale).render ++
    ",\"actions\":[".toList ++ (",".intercalate (reason.actions.map AiControlAuditAction.toJson)).toList ++ "]\x7d".toList)

def aiControlAuditReason (decision rationale : String) (actions : List AiControlAction) : AiControlAuditReason where
  decision := cleanLabel (some decision) "hold" 120
  rationale := cleanLabel (some rationale) "AI master control decision" 480
  actions := actions.map fun action =>
    ⟨cleanLabel (some action.actionType.text) "unknown" 80,cleanLabel (some action.target) "unknown" 160,
      cleanLabel (some action.status.text) "unknown" 40⟩

def AiControlRequest.requestedIntent (payload : AiControlRequest) : String :=
  (payload.intent.or payload.mode).getD "optimize_and_control"

def validateAiRecommendationTargets (safety : SafetyConfig) (targets : ControlTargets) :
    Except AppError ControlTargets := do
  labelled "ai_target_temperature_c" (validateTargetTemperature safety targets.temperatureC)
  labelled "ai_target_stirrer_rpm" (validateStirSpeed safety targets.stirrerRpm)
  validateRange "ai_heat_time_s" targets.heatTimeS 0 (safety.optimizer.maxHeatingMinutes*60)
  validateRange "ai_hold_time_s" targets.holdTimeS 0 (safety.optimizer.maxStirringMinutes*60)
  validateRange "ai_cool_time_s" targets.coolTimeS 0 3600
  validateRange "ai_shake_speed_cpm" targets.shakeSpeedCpm 0 60
  validateRange "target_pressure_mpa" targets.targetPressureMpa 0 10
  return targets.round2

def aiTargetsFromRecommendation (safety : SafetyConfig) (runtime : RuntimeState) (recommendation : Recommendation) :
    Except AppError ControlTargets :=
  validateAiRecommendationTargets safety {runtime.targets with
    temperatureC := recommendation.targetTemperatureC
    heatTimeS := recommendation.heatingMinutes*60
    holdTimeS := recommendation.stirringMinutes*60
    stirrerRpm := recommendation.targetStirrerRpm }

def targetsDiffer (current next : ControlTargets) : Bool :=
  decide (1/100 < |current.temperatureC-next.temperatureC|) ||
  decide (1/100 < |current.heatTimeS-next.heatTimeS|) ||
  decide (1/100 < |current.holdTimeS-next.holdTimeS|) ||
  decide (1/100 < |current.coolTimeS-next.coolTimeS|) ||
  decide (1/100 < |current.stirrerRpm-next.stirrerRpm|) ||
  decide (1/100 < |current.shakeSpeedCpm-next.shakeSpeedCpm|) ||
  decide (1/100 < |current.targetPressureMpa-next.targetPressureMpa|)

-- The device is written before the targets are committed.
def applyAiTargets (safety : SafetyConfig) (targets : ControlTargets) (reason : String) (actor : AuditActor) :
    Handler Event.work me AppError Unit := do
  let expectedCurrent ← locked readTargets
  let acknowledgedSafetyLatches ← locked (do
    let runtime ← disableAutoAndAcknowledge
    ensure fun now => ensureTargetUpdateInterlockClear safety now runtime .desiredTargets
    return SafetyLatchGenerations.fromRuntime runtime)
  Task.ofExcept (ensureTargetsAllowed safety targets)
  let command := safeCommandFromRuntimeTargets targets reason
  orInternal (within (insertControlEventSqlx none "ai_targets_updated" (some command) reason actor))
  catching (writeTargets .aiTargets command) fun err => do
    within (latchControlWriteFault err)
    throw (.serviceUnavailable s!"AI target write to device failed: {err.message}")
  catching (commitTargetsAfterFinalInterlock safety targets .desiredTargets (some expectedCurrent)
      (some acknowledgedSafetyLatches)) fun err => do
    within (latchTailFailureAfterDeviceAction "AI target final interlock" err.message)
    throw err

def disableAutoControl : Handler Event.field me AppError Unit := locked (change .autoDisabled)

def appendUnfinishedBatchRecoveryAlarm (batchStatus : UnfinishedBatchStatus) (runtime : RuntimeState) (alarms : List Alarm) :
    List Alarm :=
  if !batchStatus.recoveryRequired then alarms
  else alarms ++ [⟨"unfinished_batch_recovery",.high,batchStatus.reason runtime⟩]

def liveAlarmsForWithBatchStatus (safety : SafetyConfig) (now : Instant) (runtime : RuntimeState)
    (sample : Option SensorSnapshot) (limits : SensorLimits) (batchStatus : UnfinishedBatchStatus) : List Alarm :=
  appendUnfinishedBatchRecoveryAlarm batchStatus runtime (alarmsFor safety now runtime sample limits)

def liveAlarmsFor (safety : SafetyConfig) (runtime : RuntimeState) (sample : Option SensorSnapshot) (limits : SensorLimits) :
    Critical Event.work me AppError (List Alarm) := do
  let batchStatus ← unfinishedBatchStatus runtime
  let now ← utcNow
  return liveAlarmsForWithBatchStatus safety now runtime sample limits batchStatus

def deviceStatusSummaryWithDb (safety : SafetyConfig) (runtime : RuntimeState) :
    Critical Event.work me AppError DeviceStatusSummary := do
  let batchStatus ← unfinishedBatchStatus runtime
  let now ← utcNow
  return deviceStatusSummaryWithBatchStatus safety now runtime batchStatus

def alarmCount (level : AlarmLevel) (alarms : List Alarm) : Nat := (alarms.filter fun alarm => alarm.level = level).length

-- The runtime state is the one that the request has read before. The database is asked
-- three times, and the clock is read behind the second and the third answer.
def aiControlSafety (safety : SafetyConfig) (limits : SensorLimits) (runtime : RuntimeState) :
    Handler Event.work me AppError AiControlSafety := do
  let batchStatus ← locked (unfinishedBatchStatus runtime)
  let alarms ← locked (liveAlarmsFor safety runtime runtime.latestSample limits)
  let (deviceStatus,sensorFresh) ← locked (do
    let deviceStatus ← deviceStatusSummaryWithDb safety runtime
    let now ← utcNow
    return (deviceStatus,(ensureFreshSample safety now runtime).isOk))
  return {
    freshSampleRequired := true
    sensorFresh := sensorFresh
    emergencyStop := runtime.emergencyStop
    manualLock := runtime.manualLock
    deviceOnline := decide (0 < deviceStatus.onlineCount)
    activeBatchId := runtime.activeBatchId
    batchRecoveryRequired := batchStatus.recoveryRequired
    unfinishedBatchIds := batchStatus.unfinishedBatchIds
    unexpectedBatchIds := batchStatus.unexpectedBatchIds
    highAlarmCount := alarmCount .high alarms
    warningAlarmCount := alarmCount .medium alarms
    stopProductConcentrationPercent := safety.control.aiStopProductConcentrationPercent }

def shouldAiStopProcess (sample : Option SensorSnapshot) (safety : AiControlSafety) : Bool :=
  (match sample with
    | some sample => decide (safety.stopProductConcentrationPercent ≤ sample.productConcentrationPercent)
    | none => false) ||
  (decide (0 < safety.highAlarmCount) && safety.activeBatchId.isSome)

def planShakeComponentAction (capabilities : List DeviceComponentCapability) (runtime : RuntimeState)
    (recommendedTargets : Option ControlTargets) : Option ComponentControlRequest :=
  let motorRunning := match runtime.deviceStatus.bind (·.motor) with
    | some motor => motor == 1
    | none => match runtime.latestSample with
      | some sample => decide (1/100 < sample.shakeSpeedCpm)
      | none => false
  if !capabilities.any fun component => component.componentId == "shake_stepper" && component.controllable then none
  else
    let targetShakeSpeed := (recommendedTargets.getD runtime.targets).shakeSpeedCpm
    if 1/100 < targetShakeSpeed && !motorRunning then
      some ⟨"start",none,some (some "AI master control started shake vessel stepper")⟩
    else if targetShakeSpeed ≤ 1/100 && motorRunning then
      some ⟨"stop",none,some (some "AI master control stopped shake vessel stepper")⟩
    else none

def aiProcessStartBlockReason (assessed : AiControlSafety) (runtime : RuntimeState) (allowProcessStart : Bool) :
    Handler Event.work me AppError (Option String) :=
  if !(allowProcessStart && runtime.activeBatchId.isNone) then return none
  else if assessed.batchRecoveryRequired then
    return some (match assessed.unfinishedBatchIds with
      | batchId :: _ => s!"database still has unfinished batch {batchId}; AI process start blocked until production state is closed"
      | [] => "runtime active batch is not backed by an unfinished database record; AI process start blocked until production state is repaired")
  else if !assessed.deviceOnline then return some "device is offline or unhealthy; AI process start blocked"
  else if 0 < assessed.highAlarmCount then return some "high level alarm is active; AI process start blocked"
  else do
    let unfinished ← locked (orInternalLocked (unfinishedBatchesSqlx 100))
    return unfinished.head?.map fun batch =>
      s!"database still has unfinished batch {batch.id}; AI process start blocked until production state is closed"

def safeCommandFromRecommendation (recommendation : Recommendation) (reason : String) : SafeCommand where
  targetTemperatureC := recommendation.targetTemperatureC
  heatTimeS := recommendation.heatingMinutes*60
  holdTimeS := recommendation.stirringMinutes*60
  coolTimeS := 0
  targetStirrerRpm := recommendation.targetStirrerRpm
  targetShakeSpeedCpm := 0
  targetPressureMpa := 0
  reason := reason

-- A recommendation that the table has no room for is refused like any failed statement.
def insertRecommendationWithAuditSqlx (recommendation : Recommendation) (eventType reason : String) (actor : AuditActor) :
    Handler Event.quiet me Failure Unit :=
  locked (statement (.recommendationInserted recommendation
    ⟨none,eventType,some (safeCommandFromRecommendation recommendation reason),reason,actor⟩) rfl)

def generateRecommendation : Handler Event.work me AppError Recommendation := do
  let sources ← locked (orInternalLocked (query fun env _ => env.sources))
  if sources.outcomes = 0 then
    throw (.serviceUnavailable "product result data unavailable; waiting for finished batch outcomes")
  else match sources.optimized with
    | none => throw (.conflict
        "optimizer bounds are fully covered by forbidden control zones; no safe recommendation exists")
    | some fallback => do
        let env ← locked answer
        match env.sources.provider with
        | none => return fallback
        | some answered => Task.ofExcept (answered.mapError fun err => .serviceUnavailable
            s!"StepFun AI provider unavailable; recommendation was not generated by local rules: {err.message}")

def aiRecommendation (dryRun allowTargetAdjustment : Bool) (actor : AuditActor) :
    Handler Event.work me AppError (Option Recommendation) := do
  match ← locked (orInternalLocked (query fun env _ => env.storedRecommendation)) with
  | some recommendation => return some recommendation
  | none =>
      if allowTargetAdjustment then do
        let recommendation ← generateRecommendation
        if !dryRun then
          orInternal (within (insertRecommendationWithAuditSqlx recommendation "ai_master_recommendation_generated"
            "AI master control generated a recommendation before applying targets" actor))
        return some recommendation
      else return none

-- The plan so far: what has been decided and which actions it consists of.
structure AiPlan where
  decision : String
  actions : List AiControlAction

def AiPlan.push (plan : AiPlan) (actionType : AiActionType) (target : String) (status : AiActionStatus)
    (message : String) : AiPlan :=
  {plan with actions := plan.actions ++ [⟨actionType,target,status,message⟩]}

def aiAdjustTargets (safety : SafetyConfig) (runtime : RuntimeState) (dryRun allowTargetAdjustment : Bool)
    (recommended : Option ControlTargets) (actor : AuditActor) (plan : AiPlan) :
    Handler Event.work me AppError AiPlan :=
  match recommended with
  | some targets =>
      if allowTargetAdjustment && targetsDiffer runtime.targets targets then do
        if !dryRun then applyAiTargets safety targets "AI master control adjusted targets" actor
        return {plan.push .targetAdjustment "/api/v1/reactor/reactor_001/control"
            (if dryRun then .planned else .executed)
            "apply latest AI batch recommendation to safe runtime targets" with
          decision := "adjust_targets" }
      else return plan
  | none => return (if allowTargetAdjustment then
      plan.push .targetAdjustment "/api/recommendations/latest" .skipped
        "no persisted recommendation yet; waiting for finished batch outcomes"
      else plan)

def aiStartProcess (safety : SafetyConfig) (runtime : RuntimeState) (dryRun allowProcessStart : Bool)
    (blocked : Option String) (selected : Option ProcessDefinition) (actor : AuditActor) (plan : AiPlan) :
    Handler Event.work me AppError AiPlan :=
  if runtime.activeBatchId.isNone && allowProcessStart && blocked.isNone then
    match selected with
    | some process => do
        if !dryRun then
          let _ ← startProcessLifecycle safety process.id "ai_process_started" none actor
        return {plan.push .processStart s!"/api/processes/{process.id}/start"
            (if dryRun then .planned else .executed) s!"AI selected runnable process '{process.name}'" with
          decision := if plan.decision = "adjust_targets" then "adjust_targets_and_start_process"
            else "start_process" }
    | none => return (plan.push .processStart "/api/processes/:id/start" .skipped
        "no runnable process definition with at least one step")
  else match blocked with
    | some reason => return (plan.push .processStart "/api/processes/:id/start" .blocked reason)
    | none => return plan

def aiShakeDecision (decision : String) : String :=
  if decision = "hold" then "control_shake_vessel"
  else if (decision.splitOn "shake").length > 1 then decision
  else decision ++ "_and_control_shake"

def AiPlan.stop (plan : AiPlan) (dryRun : Bool) : AiPlan :=
  {plan.push .processStop "/api/processes/current/stop" (if dryRun then .planned else .executed)
    "AI stop condition met from live concentration or alarm state" with decision := "stop_process" }

def AiPlan.shake (plan : AiPlan) (dryRun : Bool) (action : ComponentControlRequest) : AiPlan :=
  {plan.push .componentControl s!"/api/devices/reactor_001/components/shake_stepper/control:{action.action}"
    (if dryRun then .planned else .executed) "AI controls shake vessel stepper through component safety gate" with
      decision := aiShakeDecision plan.decision }

def aiStopOrShake (safety : SafetyConfig) (capabilities : List DeviceComponentCapability)
    (assessed : AiControlSafety) (dryRun allowProcessStop allowComponentControl : Bool)
    (recommended : Option ControlTargets) (actor : AuditActor) (runtimeAfterProcess : RuntimeState)
    (plan : AiPlan) : Handler Event.work me AppError AiPlan :=
  if runtimeAfterProcess.activeBatchId.isNone then return plan
  else if allowProcessStop && shouldAiStopProcess runtimeAfterProcess.latestSample assessed then do
    if !dryRun then
      let _ ← stopProcessLifecycle safety none "ai_process_stopped" none actor
    return plan.stop dryRun
  else if allowComponentControl then do
    let componentRuntime ← locked runtimeState
    match planShakeComponentAction capabilities componentRuntime recommended with
    | none => return plan
    | some action => do
        if !dryRun then
          let _ ← executeComponentControl safety capabilities "reactor_001" "shake_stepper" action
            "ai_component_control" actor
        return plan.shake dryRun action
  else return plan

def aiActionsIncludeExecutedDeviceAction (actions : List AiControlAction) : Bool :=
  actions.any fun action => action.status = .executed && action.actionType ≠ .hold

def aiRationale (requestedIntent : String) (plan : AiPlan) : String :=
  s!"AI master-control intent '{requestedIntent}' evaluated with live pipeline data and safety interlocks" ++
    if plan.actions.isEmpty then "; no control action was necessary" else ""

def aiAuditDecision (recommended : Option ControlTargets) (rationale : String) (plan : AiPlan) (actor : AuditActor) :
    Handler Event.work me AppError Unit := do
  let command := recommended.map fun targets => safeCommandFromRuntimeTargets targets "AI master decision"
  let auditReason := aiControlAuditReason plan.decision rationale plan.actions
  let runtime ← locked runtimeState
  catching (within (insertControlEventSqlx runtime.activeBatchId "ai_master_decision" command auditReason.toJson actor))
    fun err => do
      if aiActionsIncludeExecutedDeviceAction plan.actions then
        within (latchTailFailureAfterDeviceAction "AI master decision audit" err.alternate)
      throw (.internal err)

def aiEnsureAllowed (assessed : AiControlSafety) (dryRun : Bool) : Handler Event.work me AppError Unit :=
  if assessed.emergencyStop then throw (.conflict "emergency stop is active; AI master control blocked")
  else if assessed.manualLock then throw (.conflict "manual lock is active; AI master control blocked")
  else if !assessed.deviceOnline && !dryRun then do
    within disableAutoControl
    throw (.serviceUnavailable "device is offline or unhealthy; AI master control blocked")
  else return ()

-- The state the later steps go by; a dry run pretends that a planned start has happened.
def aiRuntimeAfterProcess (dryRun : Bool) (runtime live : RuntimeState) (plan : AiPlan) : RuntimeState :=
  if dryRun then
    if plan.actions.any fun action => action.actionType = .processStart ∧ action.status = .planned then
      {runtime with activeBatchId := some (-1)}
    else runtime
  else live

def aiFinishPlan (plan : AiPlan) : AiPlan :=
  let plan := if plan.actions.any fun action => action.status = .blocked then {plan with decision := "hold"} else plan
  if plan.actions.isEmpty then
    plan.push .hold "safety_supervisor" .skipped
      "system is already within AI target envelope or no allowed action is available"
  else plan

def aiControl (safety : SafetyConfig) (limits : SensorLimits) (capabilities : List DeviceComponentCapability) (payload : AiControlRequest)
    (actor : AuditActor) : Handler Event.work me AppError AiControlResponse := do
  let dryRun := (← Task.ofExcept (optionalPresentBool payload.dryRun "dry_run")).getD true
  let allowProcessStart :=
    (← Task.ofExcept (optionalPresentBool payload.allowProcessStart "allow_process_start")).getD true
  let allowProcessStop :=
    (← Task.ofExcept (optionalPresentBool payload.allowProcessStop "allow_process_stop")).getD true
  let allowComponentControl :=
    (← Task.ofExcept (optionalPresentBool payload.allowComponentControl "allow_component_control")).getD true
  let allowTargetAdjustment :=
    (← Task.ofExcept (optionalPresentBool payload.allowTargetAdjustment "allow_target_adjustment")).getD true
  let _ ← Task.ofExcept (optionalPresentI64 payload.preferredProcessId "preferred_process_id")
  let runtime ← locked runtimeState
  catching (timed fun now => ensureFreshSample safety now runtime) fun err => do
    if !dryRun then within disableAutoControl
    throw err
  let assessed ← aiControlSafety safety limits runtime
  aiEnsureAllowed assessed dryRun
  let blocked ← aiProcessStartBlockReason assessed runtime allowProcessStart
  let recommendation ← aiRecommendation dryRun allowTargetAdjustment actor
  let recommended ← Task.ofExcept (recommendation.mapM (aiTargetsFromRecommendation safety runtime))
  let plan ← aiAdjustTargets safety runtime dryRun allowTargetAdjustment recommended actor ⟨"hold",[]⟩
  let env ← locked answer
  let selected ← Task.ofExcept env.selectedProcess
  let plan ← aiStartProcess safety runtime dryRun allowProcessStart blocked selected actor plan
  let live ← locked runtimeState
  let plan ← aiStopOrShake safety capabilities assessed dryRun allowProcessStop allowComponentControl recommended
    actor (aiRuntimeAfterProcess dryRun runtime live plan) plan
  let rationale := aiRationale payload.requestedIntent plan
  let plan := aiFinishPlan plan
  if !dryRun then aiAuditDecision recommended rationale plan actor
  return ⟨dryRun,plan.decision,recommended,plan.actions⟩

end ReactorOS
