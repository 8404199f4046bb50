import ReactorOS.Ingestion
namespace ReactorOS
open Concurrency Journal
variable {me : TaskId}

structure LoopConfig where
  safety : SafetyConfig
  deviceMode : DeviceMode
  safetyGuard : Bool
  persistSamples : Bool

-- The loop of a simulated device, which keeps no samples.
def LoopConfig.simulation : LoopConfig := ⟨.shipped,.simulation,false,false⟩

structure LastWrittenCommand where
  fingerprint : SafeCommandFingerprint
  writtenAt : Instant

def LastWrittenCommand.matchesRecent (last : LastWrittenCommand) (now : Instant)
    (fingerprint : SafeCommandFingerprint) (safety : SafetyConfig) : Bool :=
  last.fingerprint = fingerprint && decide (now-last.writtenAt ≤ safety.control.sensorTimeoutMs*1000000)

-- The local variables that survive from one tick of the loop to the next.
structure LoopMemory where
  lastWrittenCommand : Option LastWrittenCommand
  retryAfter : Option Instant
  commandSeq : Nat

def LoopMemory.start : LoopMemory := ⟨none,none,0⟩

def decideControlWithOptionalGuard (config : LoopConfig) (env : Env) (state : RuntimeState) (guarded : Bool) :
    ControlDecision :=
  let decided := decideControlWithDeviceStatus config.safety env.now state.latestSample state.targets
    state.autoEnabled state.manualLock state.emergencyStop state.lastControlError state.deviceStatus
  if guarded && config.safetyGuard then env.guard.getD decided else decided

-- The same on the blocking pool, where a panicking task blocks the tick.
def decideOnSnapshot (config : LoopConfig) (env : Env) (state : RuntimeState) : ControlDecision :=
  if env.guardJoined then decideControlWithOptionalGuard config env state true else .blocked .controlFault

def ensureAutomaticControlWriteStillCurrent (config : LoopConfig) (env : Env) (state : RuntimeState)
    (command : SafeCommand) : Option ControlDecision :=
  let decision := decideOnSnapshot config env state
  if decision = .write command then none else some decision

def automaticBatchStateIsConsistent (activeBatchId : Option Int) (unfinished : List Batch) : Except String Unit :=
  let ids := unfinished.map (·.id)
  let unexpected := unfinished.filter fun batch => activeBatchId != some batch.id
  let missing := match activeBatchId with
    | none => false
    | some active => !unfinished.any fun batch => batch.id == active
  if unexpected.isEmpty && !missing then .ok ()
  else .error s!"database has unfinished batch records {debugList ids} while runtime active batch is {debugOption activeBatchId}"

def ControlBlockReason.debug : ControlBlockReason → String
  | .autoDisabled => "AutoDisabled"
  | .manualLock => "ManualLock"
  | .emergencyStop => "EmergencyStop"
  | .controlFault => "ControlFault"
  | .missingDeviceStatus => "MissingDeviceStatus"
  | .deviceStatusFault => "DeviceStatusFault"
  | .downstreamCommandFault => "DownstreamCommandFault"
  | .missingSensorSample => "MissingSensorSample"
  | .sensorStale => "SensorStale"
  | .forbiddenControlZone => "ForbiddenControlZone"

-- `{:?}` of a double shows at least one digit after the point.
def debugFloat (value : ℚ) : String := if value.den = 1 then display value ++ ".0" else display value

def SafeCommand.debug (command : SafeCommand) : String :=
  s!"SafeCommand \x7b target_temperature_c: {debugFloat command.targetTemperatureC}, heat_time_s: {debugFloat command.heatTimeS}, hold_time_s: {debugFloat command.holdTimeS}, cool_time_s: {debugFloat command.coolTimeS}, target_stirrer_rpm: {debugFloat command.targetStirrerRpm}, target_shake_speed_cpm: {debugFloat command.targetShakeSpeedCpm}, target_pressure_mpa: {debugFloat command.targetPressureMpa}, reason: {command.reason.quote} \x7d"

def automaticFinalInterlockFaultReason : ControlDecision → Option String
  | .blocked .autoDisabled | .blocked .manualLock | .blocked .emergencyStop | .blocked .controlFault => none
  | .blocked reason => some s!"automatic control final interlock blocked by Blocked({reason.debug})"
  | .write command =>
      some s!"automatic control final interlock produced a different command fingerprint: {command.debug}"

structure AckOutcome where
  confirmed : Bool
  retry : Bool
  fault : Option (String × String)

def ackStatusToken : AckStatus → String
  | .confirmed => "confirmed"
  | .rejected _ => "rejected"
  | .timeout => "timeout"
  | .unverified => "unverified"

def classifyAckOutcome (status : AckStatus) (requireCommandAck : Bool) (ackTimeoutMs : Nat) : AckOutcome :=
  match status with
  | .confirmed => ⟨true,false,none⟩
  | .rejected detail => ⟨false,false,some (s!"downstream rejected command: {detail}","device_write_rejected")⟩
  | .timeout =>
      ⟨false,true,some (s!"command ack timeout after {ackTimeoutMs} ms; delivery unconfirmed","device_write_unconfirmed")⟩
  | .unverified =>
      if requireCommandAck then
        ⟨false,false,some ("require_command_ack is enabled but the device mode has not implemented a handshake ACK",
          "device_write_unconfirmed")⟩
      else ⟨true,false,none⟩

-- `latch_control_fault`; returns whether the latch changed anything.
def latchControlFaultChanged (reason : String) : Critical Event.field me AppError Bool := do
  let runtime ← runtimeState
  change (.engaged .controlFault reason)
  return runtime.latchChanges reason

def auditDownstreamControlFault (batchId : Option Int) (shouldAudit : Bool) (reason : String) :
    Handler Event.quiet me AppError Unit :=
  auditWhen shouldAudit batchId "downstream_command_fault"
    s!"downstream command fault latched; automatic control disabled: {reason}"

def auditLoopFieldInput (batchId : Option Int) (autoWasDisabled : Bool) (reason : String) :
    Handler Event.quiet me AppError Unit :=
  auditWhen autoWasDisabled batchId "field_input_fault_auto_disabled"
    s!"field input fault disabled automatic control: {reason}"

-- A downstream command fault that the status reports is latched in the same section.
def latchReportedCommandFault (status : Option DeviceStatusSnapshot) :
    Critical Event.field me AppError (Option (Bool × String)) :=
  match status.bind downstreamCommandFaultReason with
  | none => return none
  | some reason => do
      let shouldAudit ← latchControlFaultChanged reason
      return some (shouldAudit,reason)

def auditRejectedReading (batchId : Option Int) (autoWasDisabled : Bool) (reason : String)
    (commandFault : Option (Bool × String)) : Handler Event.quiet me AppError Unit := do
  auditLoopFieldInput batchId autoWasDisabled reason
  match commandFault with
  | some (shouldAudit,commandReason) => auditDownstreamControlFault batchId shouldAudit commandReason
  | none => return ()

def rejectReading (batchId : Option Int) (status : Option DeviceStatusSnapshot) (reason : String) :
    Handler Event.field me AppError Unit := do
  let (autoWasDisabled,commandFault) ← locked (do
    let autoWasDisabled ← rejectUnpersistedSampleWithStatus status reason
    let commandFault ← latchReportedCommandFault status
    return (autoWasDisabled,commandFault))
  within (auditRejectedReading batchId autoWasDisabled reason commandFault)

def acceptSampleAndAuditFaults (safety : SafetyConfig) (sample : SensorSnapshot)
    (status : Option DeviceStatusSnapshot) : Handler Event.field me AppError Unit := do
  let audit ← locked (do
    change (.sampleAccepted sample)
    change (.deviceStatusSet status)
    let runtime ← runtimeState
    let now ← utcNow
    match status with
    | none => return (pure () : Handler Event.quiet me AppError Unit)
    | some status =>
        match deviceStatusFieldFaultReason now status safety.control.sensorTimeoutMs with
        | some reason => do
            change (.fieldFaultRecorded reason)
            return auditLoopFieldInput runtime.activeBatchId runtime.autoEnabled reason
        | none => match downstreamCommandFaultReason status with
          | some reason => do
              let shouldAudit ← latchControlFaultChanged reason
              return auditDownstreamControlFault runtime.activeBatchId shouldAudit reason
          | none => return (pure () : Handler Event.quiet me AppError Unit))
  within audit

-- Pipeline mode: the API writes the samples, the loop only watches their age.
def pipelineReading (safety : SafetyConfig) : Handler Event.field me AppError Unit := do
  let fault ← locked (do
    let runtime ← runtimeState
    let now ← utcNow
    let reason := match runtime.latestSample with
      | none => some "waiting for external data pipeline sample"
      | some sample =>
          let ageMs := timestampAgeMs now sample.capturedAt
          if ageMs < 0 then
            some s!"external data pipeline sample timestamp is {-ageMs} ms in the future; check controller clock synchronization"
          else if safety.control.sensorTimeoutMs < ageMs then
            some s!"external data pipeline sample stale; last sample is {ageMs} ms old, max {safety.control.sensorTimeoutMs} ms"
          else none
    match reason with
    | none => return none
    | some reason => do
        change (.fieldFaultRecorded reason)
        return some (runtime.activeBatchId,runtime.autoEnabled,reason))
  match fault with
  | some (activeBatchId,autoWasDisabled,reason) =>
      within (auditLoopFieldInput activeBatchId autoWasDisabled reason)
  | none => return ()

def deviceReading (config : LoopConfig) : Handler Event.field me AppError Unit := do
  let reading ← locked (do
    let env ← answer
    noteCapture (env.reading.toOption.map (·.1))
    return env.reading)
  match reading with
  | .ok (sample,status) => do
      let seen ← locked runtimeState
      match validateSensorSnapshot sample with
      | .error reason => rejectReading seen.activeBatchId status s!"sensor sample rejected: {reason}"
      | .ok () =>
          if !config.persistSamples then acceptSampleAndAuditFaults config.safety sample status
          else
            match ← (locked (query fun _ _ => ())).attempt with
            | .error (err : Failure) =>
                rejectReading seen.activeBatchId status s!"sensor sample persistence failed: {err.alternate}"
            | .ok () => acceptSampleAndAuditFaults config.safety sample status
  | .error err => do
      let answered ← locked answer
      let status := match answered.deviceStatus with
        | .ok status => status
        | .error _ => none
      let (activeBatchId,autoWasDisabled,commandFault) ← locked (do
        let runtime ← runtimeState
        change .sampleDropped
        change (.deviceStatusSet status)
        change (.fieldFaultRecorded err.message)
        let commandFault ← latchReportedCommandFault status
        return (runtime.activeBatchId,runtime.autoEnabled,commandFault))
      within (auditRejectedReading activeBatchId autoWasDisabled err.message commandFault)

-- What is left of a decision to write after the final interlock.
inductive FinalInterlock where
  | passed (activeBatchId : Option Int)
  | refused

def forget (memory : LoopMemory) : LoopMemory := {memory with lastWrittenCommand := none,retryAfter := none}

-- Phase 2, against the live state under one short read lock.
def liveInterlock (config : LoopConfig) (command : SafeCommand) (snapshotBatchId : Option Int) (recheckPassed : Bool) :
    Critical Event.work me AppError (ControlDecision × Option Int) := do
  let runtime ← runtimeState
  let env ← answer
  let liveDecision := decideControlWithOptionalGuard config env runtime false
  if recheckPassed && liveDecision = .write command && runtime.activeBatchId = snapshotBatchId then
    note .interlockPassed
  return (liveDecision,runtime.activeBatchId)

def failFinalInterlock (decision : ControlDecision) : Handler Event.work me AppError FinalInterlock :=
  match automaticFinalInterlockFaultReason decision with
  | none => return .refused
  | some reason => do
      let (activeBatchId,shouldAudit) ← within (locked (do
        let runtime ← runtimeState
        let shouldAudit ← latchControlFaultChanged reason
        return (runtime.activeBatchId,shouldAudit)))
      within (auditWhen shouldAudit activeBatchId "automatic_final_interlock_blocked"
        s!"automatic control final interlock failed: {reason}")
      return .refused

-- Phase 1 on a snapshot, then phase 2.
def finalInterlock (config : LoopConfig) (command : SafeCommand) : Handler Event.work me AppError FinalInterlock := do
  let snapshot ← locked runtimeState
  match ← (locked (unfinishedBatchesSqlx 100)).attempt with
  | .error (err : Failure) => do
      within (latchControlFault s!"automatic control blocked until unfinished batch state can be verified: {err.message}")
      within (auditControlFaultAutoDisable snapshot.activeBatchId)
      return .refused
  | .ok unfinished =>
      match automaticBatchStateIsConsistent snapshot.activeBatchId unfinished with
      | .error reason => do
          let shouldAudit ← within (locked (latchControlFaultChanged reason))
          within (auditWhen shouldAudit snapshot.activeBatchId "unfinished_batch_recovery_auto_blocked"
            s!"automatic control blocked by unfinished batch recovery: {reason}")
          return .refused
      | .ok () => do
          let env ← locked answer
          let guardRecheck := ensureAutomaticControlWriteStillCurrent config env snapshot command
          let (liveDecision,liveActiveBatchId) ←
            locked (liveInterlock config command snapshot.activeBatchId guardRecheck.isNone)
          if guardRecheck.isNone && liveDecision = .write command then
            if liveActiveBatchId = snapshot.activeBatchId then return .passed liveActiveBatchId
            else return .refused
          else failFinalInterlock (guardRecheck.getD liveDecision)

def writeTargetsAcknowledged (config : LoopConfig) (command : SafeCommand) :
    Handler Event.work me Failure AckStatus :=
  locked (do
    let env ← answer
    let delivered := match env.ack with
      | .ok status => (classifyAckOutcome status config.safety.control.requireCommandAck
          config.safety.control.commandAckTimeoutMs).confirmed
      | .error _ => false
    record (.commanded .controlLoop (some command) delivered) rfl
    .ofExcept env.ack)

def retryDeadline (safety : SafetyConfig) (now : Instant) : Instant :=
  now+safety.control.writeRetryBackoffMs*1000000

-- A confirmed write is remembered once it is audited.
def rememberDelivery (memory : LoopMemory) (command : SafeCommand) (activeBatchId : Option Int)
    (status : AckStatus) (requestId : String) : Handler Event.work me AppError LoopMemory := do
  let auditReason := s!"{command.reason}|ack={ackStatusToken status}|rid={requestId}"
  match ← (within (insertControlEventSqlx activeBatchId "device_write" (some command) auditReason .system)).attempt with
  | .error (err : Failure) => do
      within (latchAuditFailureAfterDeviceAction "automatic control device_write" err.message)
      return forget memory
  | .ok () =>
      locked (do
        let now ← utcNow
        note (.commandRemembered command.fingerprint)
        return {memory with
          lastWrittenCommand := some ⟨command.fingerprint,now⟩
          retryAfter := none })

def latchUnconfirmed (config : LoopConfig) (memory : LoopMemory) (command : SafeCommand) (activeBatchId : Option Int)
    (outcome : AckOutcome) (requestId : String) : Handler Event.work me AppError LoopMemory :=
  match outcome.fault with
  | none => return memory
  | some (faultReason,eventType) => do
      let now ← locked utcNow
      let shouldAudit ← within (locked (latchControlFaultChanged faultReason))
      within (if shouldAudit then
          ignoring (insertControlEventSqlx activeBatchId eventType (some command)
            s!"{faultReason}|rid={requestId}" .system)
        else return ())
      return {memory with
        lastWrittenCommand := none
        retryAfter := if outcome.retry then some (retryDeadline config.safety now) else none }

-- Phase 3: the write, its acknowledgement and what the loop remembers of it.
def deliver (config : LoopConfig) (memory : LoopMemory) (command : SafeCommand) (activeBatchId : Option Int) :
    Handler Event.work me AppError LoopMemory := do
  let sent ← locked utcNow
  let memory := {memory with commandSeq := (memory.commandSeq+1) % (u64Max+1)}
  let requestId := s!"auto-{sent / 1000000}-{memory.commandSeq}"
  match ← (writeTargetsAcknowledged config command).attempt with
  | .ok status =>
      let outcome := classifyAckOutcome status config.safety.control.requireCommandAck
        config.safety.control.commandAckTimeoutMs
      if outcome.confirmed then rememberDelivery memory command activeBatchId status requestId
      else latchUnconfirmed config memory command activeBatchId outcome requestId
  | .error (err : Failure) => do
      let now ← locked utcNow
      within (latchControlFault err.message)
      within (ignoring (insertControlEventSqlx activeBatchId "device_write_failed" (some command)
        s!"device write failed; automatic control disabled: {err.message}" .system))
      return {memory with
        lastWrittenCommand := none
        retryAfter := some (retryDeadline config.safety now) }

def takeReading (config : LoopConfig) : Handler Event.field me AppError Unit :=
  if config.deviceMode = .pipeline then pipelineReading config.safety else deviceReading config

-- One round of the loop, from the reading to the sleep.
def tick (config : LoopConfig) (memory : LoopMemory) : Handler Event.work me AppError LoopMemory := do
  within (takeReading config)
  let (activeBatchId,autoDisabled) ← within (locked (do
    let runtime ← runtimeState
    let autoDisabled ← enforceControlFaultFailClosed
    return (runtime.activeBatchId,autoDisabled)))
  within (if autoDisabled then auditControlFaultAutoDisable activeBatchId else return ())
  let decision ← locked (do
    let runtime ← runtimeState
    let env ← answer
    return decideOnSnapshot config env runtime)
  match decision with
  | .blocked _ => return forget memory
  | .write command => do
      let fingerprint := command.fingerprint
      let skip ← locked (do
        let now ← utcNow
        if memory.retryAfter.any fun deadline => now < deadline then return true
        if memory.lastWrittenCommand.any fun last => last.matchesRecent now fingerprint config.safety then
          note (.commandSkipped fingerprint)
          return true
        return false)
      if skip then return memory
      match ← finalInterlock config command with
      | .refused => return forget memory
      | .passed activeBatchId => deliver config memory command activeBatchId

-- The first `rounds` rounds; the task loops for as long as the daemon runs.
def controlLoop (config : LoopConfig) : Nat → LoopMemory → Handler Event.work me AppError Unit
  | 0,_ => return ()
  | rounds+1,memory => do
      let memory ← tick config memory
      controlLoop config rounds memory

-- Runs once the loop has ended, whether it returned or panicked.
def controlLoopMonitor (panicked : Bool) : Handler Event.field me AppError Unit := do
  locked (do
    change .autoDisabled
    change (.controlLoopTerminated
      "control loop task terminated; automatic control disabled until process restart and field re-verification"))
  within (ignoring (insertControlEventSqlx none "control_loop_terminated" none
    (if panicked then "control loop task panicked; automatic control disabled"
      else "control loop task exited unexpectedly; automatic control disabled") .system))

end ReactorOS
