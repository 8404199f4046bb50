import ReactorOS.World
namespace ReactorOS
open Concurrency Journal

inductive TargetUpdateInterlockMode where
  | autoEnable | batchStart | desiredTargets | modbusDebugWrite | componentControl | processStart | v1ProcessLoad
  deriving DecidableEq, Repr

def TargetUpdateInterlockMode.description : TargetUpdateInterlockMode → String
  | .autoEnable => "automatic control enable"
  | .batchStart => "batch start"
  | .desiredTargets => "target update"
  | .modbusDebugWrite => "Modbus target write"
  | .componentControl => "component control"
  | .processStart => "process start"
  | .v1ProcessLoad => "v1 process load"

structure UnfinishedBatchStatus where
  unfinishedBatchIds : List Int
  unexpectedBatchIds : List Int
  runtimeActiveBatchMissing : Bool

namespace UnfinishedBatchStatus

def isConsistent (status : UnfinishedBatchStatus) : Bool :=
  status.unexpectedBatchIds.isEmpty && !status.runtimeActiveBatchMissing

def recoveryRequired (status : UnfinishedBatchStatus) : Bool := !status.isConsistent

def reason (status : UnfinishedBatchStatus) (runtime : RuntimeState) : String :=
  s!"database has unfinished batch records {debugList status.unfinishedBatchIds} while runtime active batch is {debugOption runtime.activeBatchId}"

end UnfinishedBatchStatus

def unfinishedBatchStatusFromBatches (unfinished : List Batch) (runtime : RuntimeState) :
    UnfinishedBatchStatus where
  unfinishedBatchIds := unfinished.map (·.id)
  unexpectedBatchIds := (unfinished.filter fun batch => runtime.activeBatchId != some batch.id).map (·.id)
  runtimeActiveBatchMissing := match runtime.activeBatchId with
    | none => false
    | some active => !unfinished.any fun batch => batch.id == active

def ensurePersistedBatchStatusConsistent (status : UnfinishedBatchStatus) (runtime : RuntimeState)
    (mode : TargetUpdateInterlockMode) : Except AppError Unit :=
  if status.recoveryRequired then
    .error (.conflict s!"{mode.description} blocked until unfinished batch recovery is resolved: {status.reason runtime}")
  else .ok ()

def freshSampleForRealtime (safety : SafetyConfig) (now : Instant) (runtime : RuntimeState) :
    Except AppError SensorSnapshot :=
  match runtime.lastSensorError with
  | some error => .error (.serviceUnavailable s!"sensor data unavailable; {error}")
  | none => match runtime.latestSample with
    | none => .error (.serviceUnavailable "sensor data unavailable; waiting for ESP32/data pipeline sample")
    | some sample =>
        let ageMs := timestampAgeMs now sample.capturedAt
        if ageMs < 0 then
          .error (.serviceUnavailable s!"sensor data timestamp is {-ageMs} ms in the future; check controller clock synchronization")
        else if safety.control.sensorTimeoutMs < ageMs then
          .error (.serviceUnavailable s!"sensor data stale; last data pipeline sample is {ageMs} ms old")
        else .ok sample

def ensureFreshSample (safety : SafetyConfig) (now : Instant) (runtime : RuntimeState) : Except AppError Unit :=
  (freshSampleForRealtime safety now runtime).map fun _ => ()

def ensureProvenHealthyDeviceStatus (safety : SafetyConfig) (now : Instant) (runtime : RuntimeState)
    (action : String) : Except AppError Unit :=
  match runtime.deviceStatus with
  | none =>
      if safety.control.requireDeviceStatusForControl then
        .error (.serviceUnavailable s!"device status unavailable; {action} blocked until downstream status is proven healthy")
      else .ok ()
  | some status =>
      match deviceStatusFieldFaultReason now status safety.control.sensorTimeoutMs with
      | some reason => .error (.serviceUnavailable s!"device status is not healthy; {action} blocked: {reason}")
      | none => match downstreamCommandFaultReason status with
        | some reason =>
            .error (.serviceUnavailable s!"downstream command fault is still reported; {action} blocked until maintenance clears the fault: {reason}")
        | none => .ok ()

def ensureTargetUpdateInterlockClear (safety : SafetyConfig) (now : Instant) (runtime : RuntimeState)
    (mode : TargetUpdateInterlockMode) : Except AppError Unit :=
  if runtime.emergencyStop then
    .error (.conflict s!"emergency stop is active; {mode.description} blocked")
  else if runtime.manualLock then
    .error (.conflict s!"manual lock is active; {mode.description} blocked")
  else match runtime.lastControlError with
    | some error =>
        .error (.serviceUnavailable s!"last device control write failed; {mode.description} blocked until maintenance clears the fault: {error}")
    | none => do
        ensureProvenHealthyDeviceStatus safety now runtime mode.description
        ensureFreshSample safety now runtime

def ensureNoActiveBatchForReset (runtime : RuntimeState) (action : String) : Except AppError Unit :=
  match runtime.activeBatchId with
  | some batchId =>
      .error (.conflict s!"active batch {batchId} is still open; retry stop/finish to close production state before {action}")
  | none => .ok ()

-- The interlock passes only where nothing stands against automatic control.
theorem interlock_clear {safety : SafetyConfig} {now : Instant} {runtime : RuntimeState}
    {mode : TargetUpdateInterlockMode}
    (clear : ensureTargetUpdateInterlockClear safety now runtime mode = .ok ()) :
    runtime.emergencyStop = false ∧ runtime.manualLock = false ∧ runtime.lastControlError = none ∧
      runtime.lastSensorError = none := by
  unfold ensureTargetUpdateInterlockClear at clear
  split at clear
  · cases clear
  · rename_i running
    split at clear
    · cases clear
    · rename_i unlocked
      split at clear
      · cases clear
      · rename_i healthy
        refine ⟨by simpa using running,by simpa using unlocked,healthy,?_⟩
        cases sensor : runtime.lastSensorError with
        | none => rfl
        | some error =>
            have stale : ensureFreshSample safety now runtime =
                .error (.serviceUnavailable s!"sensor data unavailable; {error}") := by
              simp [ensureFreshSample,freshSampleForRealtime,sensor,Except.map]
            cases status : ensureProvenHealthyDeviceStatus safety now runtime mode.description with
            | error refused => rw [status] at clear; cases clear
            | ok _ =>
                rw [status,stale] at clear
                cases clear

-- A consistent status with an active batch: that batch is the only unfinished one.
theorem consistent_ids {unfinished : List Batch} {runtime : RuntimeState} {mode : TargetUpdateInterlockMode}
    {batch : Int} (active : runtime.activeBatchId = some batch)
    (consistent : ensurePersistedBatchStatusConsistent (unfinishedBatchStatusFromBatches unfinished runtime)
      runtime mode = .ok ()) :
    batch ∈ unfinished.map (·.id) ∧ ∀ id ∈ unfinished.map (·.id), id = batch := by
  unfold ensurePersistedBatchStatusConsistent at consistent
  split at consistent
  · cases consistent
  · rename_i fine
    simp only [UnfinishedBatchStatus.recoveryRequired,UnfinishedBatchStatus.isConsistent,
      unfinishedBatchStatusFromBatches,active] at fine
    simp at fine
    obtain ⟨expected,⟨found,present,same⟩⟩ := fine
    refine ⟨List.mem_map.mpr ⟨found,present,same⟩,?_⟩
    intro id member
    obtain ⟨other,listed,rfl⟩ := List.mem_map.mp member
    exact (expected other listed).symm

section Code
variable {may : Event → Bool} {me : TaskId} {ε ε' α β : Type}

-- `X.map_err(Into::into)?` for an `anyhow` error.
def orInternal (t : Handler may me Failure α) : Handler may me AppError α := t.mapError .internal

-- `if let Err(err) = X { .. }` where the branch takes over.
def catching (t : Handler may me ε α) (handler : ε → Handler may me ε' α) : Handler may me ε' α := do
  match ← t.attempt with
  | .ok value => return value
  | .error error => handler error

-- `if let Err(err) = X { tracing::warn!(..) }`
def ignoring (t : Handler may me ε Unit) : Handler may me ε' Unit := do
  let _ ← t.attempt
  return ()

-- A check against the clock, outside of any lock.
def timed (check : Instant → Except AppError α) : Handler may me AppError α :=
  locked (do
    let now ← utcNow
    .ofExcept (check now))

def ensure (check : Instant → Except AppError α) : Critical may me AppError α := do
  let now ← utcNow
  .ofExcept (check now)

theorem run_ensure {check : Instant → Except AppError α} (e : Env) (w : World) :
    (ensure check : Critical may me AppError α).run e w = (check e.now,w) := rfl

def orInternalLocked (s : Critical may me Failure α) : Critical may me AppError α := s.mapError .internal

def unfinishedBatchesSqlx (limit : Nat) : Critical may me Failure (List Batch) :=
  query fun _ db => db.unfinishedBatches limit

def batchByIdSqlx (batchId : Int) : Handler may me Failure (Option Batch) :=
  locked (query fun _ db => db.batchById batchId)

def unfinishedBatchStatus (runtime : RuntimeState) : Critical may me AppError UnfinishedBatchStatus := do
  let unfinished ← orInternalLocked (unfinishedBatchesSqlx 100)
  return unfinishedBatchStatusFromBatches unfinished runtime

def ensurePersistedBatchStateConsistent (runtime : RuntimeState) (mode : TargetUpdateInterlockMode) :
    Critical may me AppError Unit := do
  let status ← unfinishedBatchStatus runtime
  .ofExcept (ensurePersistedBatchStatusConsistent status runtime mode)

theorem run_persisted {runtime : RuntimeState} {mode : TargetUpdateInterlockMode} (e : Env) (w : World) :
    (ensurePersistedBatchStateConsistent runtime mode : Critical may me AppError Unit).run e w = match e.db with
      | .done => (ensurePersistedBatchStatusConsistent (unfinishedBatchStatusFromBatches (w.state.db.unfinishedBatches 100)
          runtime) runtime mode,w)
      | .failed error => (.error (.internal error),w)
      | .lost error => (.error (.internal error),w) := by
  cases state : e.db with
  | done =>
      simp [ensurePersistedBatchStateConsistent,unfinishedBatchStatus,orInternalLocked,unfinishedBatchesSqlx,query,state,
        Except.mapError]
  | failed error =>
      simp [ensurePersistedBatchStateConsistent,unfinishedBatchStatus,orInternalLocked,unfinishedBatchesSqlx,query,state,
        Except.mapError]
  | lost error =>
      simp [ensurePersistedBatchStateConsistent,unfinishedBatchStatus,orInternalLocked,unfinishedBatchesSqlx,query,state,
        Except.mapError]

def ensureNoUnfinishedBatchRecoveryForReset (runtime : RuntimeState) (action : String) :
    Critical may me AppError Unit := do
  let status ← unfinishedBatchStatus runtime
  if status.recoveryRequired then
    throw (.conflict s!"{action} blocked until unfinished batch recovery is resolved: {status.reason runtime}")

def ensureNoUnclosedDbBatchExcept (runtime : RuntimeState) (allowedBatchId : Option Int) :
    Critical may me AppError Unit := do
  let unfinished ← orInternalLocked (unfinishedBatchesSqlx 100)
  let expectedRuntime := {runtime with activeBatchId := runtime.activeBatchId.or allowedBatchId}
  let batchStatus := unfinishedBatchStatusFromBatches unfinished expectedRuntime
  if batchStatus.recoveryRequired then
    throw (.conflict s!"unfinished batch recovery must be resolved before starting new production: {batchStatus.reason expectedRuntime}")
  match unfinished.find? fun batch =>
      runtime.activeBatchId != some batch.id && allowedBatchId != some batch.id with
  | some batch =>
      throw (.conflict s!"database still has unfinished batch {batch.id}; close or repair it before starting new production")
  | none => return ()

def ensureNoUnclosedDbBatchForNewProduction (runtime : RuntimeState) : Critical may me AppError Unit :=
  ensureNoUnclosedDbBatchExcept runtime none

def ensureProcessCanStart (safety : SafetyConfig) (runtime : RuntimeState) : Handler may me AppError Unit :=
  locked (do
    if runtime.activeBatchId.isSome then
      throw (.conflict "device is busy running an active process batch")
    ensureNoUnclosedDbBatchForNewProduction runtime
    ensure fun now => ensureTargetUpdateInterlockClear safety now runtime .processStart)

def ensureManualUnlockInterlockClear (safety : SafetyConfig) (runtime : RuntimeState) :
    Handler may me AppError Unit :=
  locked (do
    if runtime.emergencyStop then
      throw (.conflict "emergency stop is active; manual lock unlock blocked")
    if let some error := runtime.lastControlError then
      throw (.serviceUnavailable s!"last device control write failed; manual lock unlock blocked until maintenance clears the fault: {error}")
    ensureNoUnfinishedBatchRecoveryForReset runtime "manual lock unlock"
    ensure fun now => ensureProvenHealthyDeviceStatus safety now runtime "manual lock unlock"
    ensure fun now => ensureFreshSample safety now runtime)

def insertControlEventSqlx (batchId : Option Int) (eventType : String) (command : Option SafeCommand)
    (reason : String) (actor : AuditActor) : Handler Event.quiet me Failure Unit :=
  locked (statement (.controlEventInserted ⟨batchId,eventType,command,reason,actor⟩) rfl)

def finishBatchSqlx (batchId : Int) : Handler Event.quiet me Failure Unit :=
  locked (do
    let now ← utcNow
    statement (.batchFinished batchId now) rfl)

def latchControlFault (reason : String) : Handler Event.quiet me ε Unit :=
  locked (change (.engaged .controlFault reason))

def latchControlWriteFault (error : Failure) : Handler Event.quiet me ε Unit := latchControlFault error.message

def latchTailFailureAfterDeviceAction (action error : String) : Handler Event.quiet me ε Unit :=
  latchControlFault s!"{action} failed after device action: {error}"

def latchAuditFailureAfterDeviceAction (action error : String) : Handler Event.quiet me ε Unit :=
  latchControlFault s!"{action} audit failed after device action: {error}"

end Code
end ReactorOS
