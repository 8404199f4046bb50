import ReactorOS.Targets
namespace ReactorOS
open Concurrency Journal
variable {me : TaskId}

-- `runtime.auto_enabled = false` under the write lock, and the snapshot whose latch
-- generations the request acknowledges.
def disableAutoAndAcknowledge : Critical Event.work me AppError RuntimeState := do
  change .autoDisabled
  let runtime ← runtimeState
  note (.latchesAcknowledged (.fromRuntime runtime))
  return runtime

-- The world after a request has turned automatic control off and looked at the latches.
def acknowledged (me : TaskId) (w : World) : World :=
  (w.emit me (.runtime .autoDisabled)).emit me
    (.note (.latchesAcknowledged (.fromRuntime {w.state.runtime with autoEnabled := false})))

theorem run_acknowledge (e : Env) (w : World) :
    (disableAutoAndAcknowledge : Critical Event.work me AppError RuntimeState).run e w =
      (.ok {w.state.runtime with autoEnabled := false},acknowledged me w) := rfl

def ensureSafetyLatchesUnchangedForCommit (acknowledgedSafetyLatches : Option SafetyLatchGenerations)
    (action : String) : Critical Event.work me AppError Unit := do
  let runtime ← runtimeState
  match acknowledgedSafetyLatches with
  | none => return ()
  | some acknowledged =>
      if acknowledged.changedSince runtime then
        change .autoDisabled
        throw (.conflict s!"{action} blocked: a safety latch fired during the audit window; field state changed, so the risk-increasing commit was refused. Re-verify field state before retrying")

-- Marks in the record whether the section went through.
def committing (path : CommitPath) (latches : Option SafetyLatchGenerations)
    (commit : Critical Event.work me AppError Unit) : Critical Event.work me AppError Unit := do
  let outcome ← commit.attempt
  note (.commit path latches outcome.isOk)
  .ofExcept outcome

def commitProcessActivationAfterFinalInterlock (safety : SafetyConfig) (batchId : Int) (targets : ControlTargets)
    (autoEnabled : Bool) (acknowledgedSafetyLatches : Option SafetyLatchGenerations) :
    Handler Event.work me AppError Unit := do
  let unfinished ← locked (do
    let unfinished ← orInternalLocked (unfinishedBatchesSqlx 100)
    note (.unfinishedRead (unfinished.map (·.id)))
    return unfinished)
  locked (committing (.activation batchId) acknowledgedSafetyLatches (do
    let runtime ← runtimeState
    ensure fun now => ensureTargetUpdateInterlockClear safety now runtime .processStart
    ensureSafetyLatchesUnchangedForCommit acknowledgedSafetyLatches "process activation"
    if let some activeBatchId := runtime.activeBatchId then
      throw (.conflict s!"device is busy running active batch {activeBatchId}; process start cannot commit activation")
    let activationRuntime := {runtime with activeBatchId := some batchId}
    .ofExcept (ensurePersistedBatchStatusConsistent
      (unfinishedBatchStatusFromBatches unfinished activationRuntime) activationRuntime .processStart)
    change (.targetsSet targets)
    change (.activeBatchSet (some batchId))
    if autoEnabled then change .autoEnabled else change .autoDisabled))

def ensureExpectedCurrent (expectedCurrent : Option ControlTargets) (action : String) :
    Critical Event.work me AppError Unit := do
  let runtime ← runtimeState
  match expectedCurrent with
  | none => return ()
  | some expected =>
      if runtime.targets ≠ expected then
        change .autoDisabled
        throw (.conflict s!"{action} saw stale runtime targets; retry after re-reading current targets")

def commitTargetsAfterFinalInterlock (safety : SafetyConfig) (targets : ControlTargets)
    (mode : TargetUpdateInterlockMode) (expectedCurrent : Option ControlTargets)
    (acknowledgedSafetyLatches : Option SafetyLatchGenerations) : Handler Event.work me AppError Unit := do
  let unfinished ← locked (orInternalLocked (unfinishedBatchesSqlx 100))
  locked (committing .targets acknowledgedSafetyLatches (do
    let runtime ← runtimeState
    ensure fun now => ensureTargetUpdateInterlockClear safety now runtime mode
    ensureSafetyLatchesUnchangedForCommit acknowledgedSafetyLatches mode.description
    .ofExcept (ensurePersistedBatchStatusConsistent
      (unfinishedBatchStatusFromBatches unfinished runtime) runtime mode)
    ensureExpectedCurrent expectedCurrent mode.description
    change (.targetsSet targets)))

def SafeCommand.targets (command : SafeCommand) : ControlTargets where
  temperatureC := command.targetTemperatureC
  heatTimeS := command.heatTimeS
  holdTimeS := command.holdTimeS
  coolTimeS := command.coolTimeS
  stirrerRpm := command.targetStirrerRpm
  shakeSpeedCpm := command.targetShakeSpeedCpm
  targetPressureMpa := command.targetPressureMpa

def commitComponentTargetsAfterFinalInterlock (safety : SafetyConfig) (targets : SafeCommand)
    (requiresProvenSafeField : Bool) (expectedCurrent : Option ControlTargets)
    (acknowledgedSafetyLatches : Option SafetyLatchGenerations) : Handler Event.work me AppError Unit := do
  if requiresProvenSafeField then
    let unfinished ← locked (orInternalLocked (unfinishedBatchesSqlx 100))
    locked (committing .componentTargets acknowledgedSafetyLatches (do
      let runtime ← runtimeState
      ensure fun now => ensureTargetUpdateInterlockClear safety now runtime .componentControl
      ensureSafetyLatchesUnchangedForCommit acknowledgedSafetyLatches "component control"
      .ofExcept (ensurePersistedBatchStatusConsistent
        (unfinishedBatchStatusFromBatches unfinished runtime) runtime .componentControl)
      ensureExpectedCurrent expectedCurrent "component control"
      change (.targetsSet targets.targets)))
  else locked (change (.targetsSet targets.targets))

end ReactorOS
