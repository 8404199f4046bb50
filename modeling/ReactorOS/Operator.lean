import ReactorOS.Batches
namespace ReactorOS
open Concurrency Journal
variable {me : TaskId}

def setAuto (safety : SafetyConfig) (enabled : Bool) (actor : AuditActor) : Handler Event.work me AppError Unit := do
  if enabled then
    let runtime ← locked disableAutoAndAcknowledge
    timed fun now => ensureTargetUpdateInterlockClear safety now runtime .autoEnable
    locked (ensurePersistedBatchStateConsistent runtime .autoEnable)
    let acknowledgedSafetyLatches := SafetyLatchGenerations.fromRuntime runtime
    orInternal (within (insertControlEventSqlx none "auto_enabled" none
      "operator changed automatic control state" actor))
    locked (committing .autoEnable (some acknowledgedSafetyLatches) (do
      let runtime ← runtimeState
      ensure fun now => ensureTargetUpdateInterlockClear safety now runtime .autoEnable
      if acknowledgedSafetyLatches.changedSince runtime then
        change .autoDisabled
        throw (.conflict "automatic control enable safety state changed during audit; operator must re-check field state")
      ensurePersistedBatchStateConsistent runtime .autoEnable
      change .autoEnabled))
  else
    locked (change .autoDisabled)
    orInternal (within (insertControlEventSqlx none "auto_disabled" none
      "operator changed automatic control state" actor))

def engageManualLock (actor : AuditActor) : Handler Event.field me AppError Unit :=
  locked (do
    change (.engaged .manualLock "")
    orInternalLocked (statement (.controlEventInserted ⟨none,"manual_lock_on",none,
      "operator enabled manual lock; automatic control disabled",actor⟩) rfl))

-- The audit row comes first and a refusal adds a second one, so that the trail reads
-- as an attempt that did not take effect.
def releaseManualLock (safety : SafetyConfig) (actor : AuditActor) :
    Handler (Event.resetting .manualLock) me AppError Unit := do
  let runtime ← locked (do
    change .autoDisabled
    let runtime ← runtimeState
    note (.unlockAcknowledged (.fromRuntime runtime))
    return runtime)
  ensureManualUnlockInterlockClear safety runtime
  let acknowledgedSafetyLatches := SafetyLatchGenerations.fromRuntime runtime
  let interlockRuntime ← locked runtimeState
  ensureManualUnlockInterlockClear safety interlockRuntime
  orInternal (within (insertControlEventSqlx none "manual_lock_off" none
    "operator requested manual lock disable; awaiting final generation re-check before clearing" actor))
  let refused ← locked (do
    let runtime ← runtimeState
    if acknowledgedSafetyLatches.changedSince runtime then return true
    note .latchesRechecked
    return false)
  if refused then
    orInternal (within (insertControlEventSqlx none "manual_unlock_refused" none
      "manual lock unlock refused: a safety latch fired during the audit window; the preceding manual_lock_off did NOT take effect and manual lock remains engaged" actor))
    locked (change .autoDisabled)
    throw (.conflict "manual lock unlock blocked: a safety latch fired during the audit window; field state changed, so the unlock was refused. Re-verify field state before retrying")
  locked (change (.cleared .manualLock))

def resetControlFault (safety : SafetyConfig) (actor : AuditActor) :
    Handler (Event.resetting .controlFault) me AppError Unit := do
  let (acknowledgedError,acknowledgedControlFaultGeneration) ← locked (do
    let runtime ← runtimeState
    match runtime.lastControlError with
    | none => throw (.conflict "no latched device control fault to reset")
    | some error =>
        if runtime.controlLoopTerminated then
          throw (.conflict "control loop task has terminated; this fault cannot be cleared via the API. Restart the daemon process and re-verify field state before re-enabling automatic control")
        change .autoDisabled
        .ofExcept (ensureNoActiveBatchForReset runtime "resetting the control fault")
        ensureNoUnfinishedBatchRecoveryForReset runtime "control fault reset"
        ensure fun now => ensureFreshSample safety now runtime
        ensure fun now => ensureProvenHealthyDeviceStatus safety now runtime "control fault reset"
        note (.resetAcknowledged .controlFault runtime.controlFaultGeneration)
        return (error,runtime.controlFaultGeneration))
  orInternal (within (insertControlEventSqlx none "control_fault_reset" none
    "operator acknowledged device write fault after field verification; automatic control remains disabled" actor))
  locked (do
    change .autoDisabled
    let runtime ← runtimeState
    .ofExcept (ensureNoActiveBatchForReset runtime "resetting the control fault")
    ensureNoUnfinishedBatchRecoveryForReset runtime "control fault reset after audit"
    ensure fun now => ensureFreshSample safety now runtime
    ensure fun now => ensureProvenHealthyDeviceStatus safety now runtime "control fault reset after audit"
    if runtime.controlFaultGeneration ≠ acknowledgedControlFaultGeneration ∨
        runtime.lastControlError ≠ some acknowledgedError then
      throw (.conflict "latched control fault changed during reset; maintenance must re-verify field state")
    note (.resetChecked .controlFault (← utcNow))
    change (.cleared .controlFault))

def resetEmergencyStop (safety : SafetyConfig) (actor : AuditActor) :
    Handler (Event.resetting .emergencyStop) me AppError Unit := do
  let runtime ← locked (do
    let runtime ← runtimeState
    if !runtime.emergencyStop then
      throw (.conflict "emergency stop is not active; reset is not required")
    change .autoDisabled
    note (.resetAcknowledged .emergencyStop runtime.emergencyStopGeneration)
    runtimeState)
  locked (do
    .ofExcept (ensureNoActiveBatchForReset runtime "resetting emergency stop")
    ensureNoUnfinishedBatchRecoveryForReset runtime "emergency stop reset"
    ensure fun now => ensureFreshSample safety now runtime
    ensure fun now => ensureProvenHealthyDeviceStatus safety now runtime "emergency stop reset")
  orInternal (within (insertControlEventSqlx none "emergency_stop_reset" none
    "operator reset emergency stop flag" actor))
  locked (do
    let current ← runtimeState
    if !current.emergencyStop then
      change .autoDisabled
      throw (.conflict "emergency stop changed during reset; operator must re-check field state")
    if current.emergencyStopGeneration ≠ runtime.emergencyStopGeneration then
      change .autoDisabled
      throw (.conflict "emergency stop changed during reset; operator must re-check field state")
    .ofExcept (ensureNoActiveBatchForReset current "resetting emergency stop after audit")
    ensureNoUnfinishedBatchRecoveryForReset current "emergency stop reset after audit"
    ensure fun now => ensureFreshSample safety now current
    match ← (ensure fun now =>
        ensureProvenHealthyDeviceStatus safety now current "emergency stop reset after audit").attempt with
    | .error (err : AppError) => do
        change .autoDisabled
        throw err
    | .ok () => do
        note (.resetChecked .emergencyStop (← utcNow))
        change (.cleared .emergencyStop))

structure TargetRequest where
  temperatureC : ℚ
  stirrerRpm : ℚ
  shakeSpeedCpm : Option (Option ℚ) := none

def setTargetsRequested (safety : SafetyConfig) (payload : TargetRequest) (current : ControlTargets) :
    Except AppError ControlTargets := do
  let shakeSpeedCpm := (← optionalPresentNumber payload.shakeSpeedCpm "shake_speed_cpm").getD current.shakeSpeedCpm
  let targets ← validateOperatorTargets safety {current with
    temperatureC := payload.temperatureC
    stirrerRpm := payload.stirrerRpm
    shakeSpeedCpm := shakeSpeedCpm }
  ensureTargetsAllowed safety targets
  return targets

def setTargets (safety : SafetyConfig) (payload : TargetRequest) (actor : AuditActor) :
    Handler Event.work me AppError ControlTargets := do
  let current ← locked readTargets
  let targets ← Task.ofExcept (setTargetsRequested safety payload current)
  let runtime ← locked disableAutoAndAcknowledge
  timed fun now => ensureTargetUpdateInterlockClear safety now runtime .desiredTargets
  let acknowledgedSafetyLatches := SafetyLatchGenerations.fromRuntime runtime
  orInternal (within (insertControlEventSqlx none "operator_targets_updated"
    (some (safeCommandFromRuntimeTargets targets "operator target request after safety validation"))
    "operator changed desired targets after configured safety validation" actor))
  commitTargetsAfterFinalInterlock safety targets .desiredTargets (some current) (some acknowledgedSafetyLatches)
  return targets

-- `tokio::time::timeout(budget, device.write_targets(..))`: the outer result says
-- whether the write came back in time, the inner one what it came back with.
def writeTargetsWithin (writer : Writer) (command : SafeCommand) (budgetMs : Nat) :
    Handler Event.work me AppError (Except Failure (Except Failure Unit)) :=
  locked (do
    let env ← answer
    record (.commanded writer (some command) (env.deviceInTime && env.device.isOk)) rfl
    return if env.deviceInTime then .ok env.device
      else .error ⟨s!"emergency stop target write timed out after {budgetMs} ms",[]⟩)

def emergencyStopDelivered : String :=
  "operator triggered emergency stop; fail-safe targets delivered to downstream device; automatic control disabled"

def emergencyStop (safety : SafetyConfig) (actor : AuditActor) : Handler Event.work me AppError Unit := do
  locked (change (.engaged .emergencyStop ""))
  let stopTargets := processStopTargets safety
  let stopCommand := safeCommandFromRuntimeTargets stopTargets "emergency stop fail-safe targets"
  let stopWriteBudget :=
    if 0 ≤ safety.control.sensorTimeoutMs then safety.control.sensorTimeoutMs.toNat else 1
  -- `if let Err(err) = stop_write` looks at the outer result only.
  match ← writeTargetsWithin .emergencyStop stopCommand stopWriteBudget with
  | .error err => do
      within (latchControlWriteFault err)
      within (ignoring (insertControlEventSqlx none "emergency_stop" (some stopCommand)
        s!"operator triggered emergency stop; fail-safe target write FAILED, downstream may still hold previous targets: {err.message}; activate hardware e-stop"
        actor))
      throw (.serviceUnavailable s!"emergency stop engaged but fail-safe targets could not be delivered to downstream device: {err.message}; activate hardware e-stop immediately")
  | .ok _ =>
      catching (within (insertControlEventSqlx none "emergency_stop" (some stopCommand)
          emergencyStopDelivered actor)) fun err => do
        within (latchControlFault s!"emergency stop audit failed after fail-safe state change: {err.message}")
        throw (.internal err)

end ReactorOS
