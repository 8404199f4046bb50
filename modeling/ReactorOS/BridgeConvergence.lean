import ReactorOS.BridgeStop
import ReactorOS.Wire.Fields
namespace ReactorOS

-- The checks of the device configuration on what the bridge reads of it.
def JsonBridgeConfig.validate (config : JsonBridgeConfig) : Except String Unit := do
  ensurePositive "json_bridge.max_state_age_ms" config.maxStateAgeMs
  ensurePositiveF64 "json_bridge.speed_steps_per_cycle" config.speedStepsPerCycle
  ensureNonNegative "json_bridge.speed_deadband_cpm" config.speedDeadbandCpm
  ensureNonNegative "json_bridge.temperature_deadband_c" config.temperatureDeadbandC
  ensureNonZeroF64 "json_bridge.adc.scale" config.adc.scale

theorem validate_band {config : JsonBridgeConfig} (valid : config.validate = .ok ()) : 0 ≤ config.temperatureDeadbandC := by
  obtain ⟨_,_,valid⟩ := Wire.bind_ok valid
  obtain ⟨_,_,valid⟩ := Wire.bind_ok valid
  obtain ⟨_,_,valid⟩ := Wire.bind_ok valid
  obtain ⟨_,band,_⟩ := Wire.bind_ok valid
  exact ensureNonNegative_ok.mp band

-- What `state.json` says about the last control that the bridge has processed.
structure JsonBridgeReply where
  lastCommandRequestId : Option String
  lastCommandOk : Option Bool
  lastCommandError : Option String

structure CommandAck where
  requestId : String
  status : AckStatus
  acceptedTargets : Option ControlTargets

-- The polls of `state.json` before the deadline, in their order: the first that decides
-- about this request is the answer.
def awaitEcho (requestId : String) : List (Except Failure JsonBridgeReply) → AckStatus
  | [] => .timeout
  | .error _ :: rest => awaitEcho requestId rest
  | .ok reply :: rest =>
      if reply.lastCommandRequestId = some requestId then
        match reply.lastCommandOk with
        | some true => .confirmed
        | some false => .rejected (reply.lastCommandError.getD "downstream rejected command without an error detail")
        | none => awaitEcho requestId rest
      else awaitEcho requestId rest

structure AcknowledgedCall extends JsonBridgeCall where
  requestId : String
  replies : List (Except Failure JsonBridgeReply)

def JsonBridgeDevice.writeTargetsAcknowledged (fromTimestampMillis : Int → Option Instant) (config : JsonBridgeConfig)
    (call : AcknowledgedCall) (command : SafeCommand) : JsonBridgeWrite CommandAck :=
  let next := call.state.bind fun state =>
    nextJsonBridgeControl fromTimestampMillis config call.now call.sequence call.cache state command
  match next with
  | .error error => ⟨.error error,none,call.cache⟩
  | .ok none => ⟨.ok ⟨call.requestId,.confirmed,none⟩,none,call.cache⟩
  | .ok (some pending) =>
      writeJsonBridgeControl call.toJsonBridgeCall {pending.control with requestId := call.requestId} pending.cacheUpdate
        ⟨call.requestId,awaitEcho call.requestId call.replies,none⟩

-- How far a machine moves its speed when it is told "up" or "down", in what it reports of it.
abbrev SpeedStep := String → Option ℚ × Option Nat → Option ℚ × Option Nat

-- The state once the bridge has done what a control says, and nothing else has moved.
def JsonBridgeControl.applied (step : SpeedStep) (control : JsonBridgeControl) (state : JsonBridgeState) : JsonBridgeState :=
  match control.command,control.value with
  | "motor",some (.integer value) => {state with motor := some value}
  | "speed",some (.text direction) =>
      let moved := step direction (state.shakeSpeedCpm,state.speedDelayUs)
      {state with shakeSpeedCpm := moved.1,speedDelayUs := moved.2}
  | "relay",some (.integer value) => {state with relay := some value}
  | "stir_speed",some (.number rpm) => {state with stirrerRpm := some rpm}
  | _,_ => state

def JsonBridgeWrite.applied (step : SpeedStep) (write : JsonBridgeWrite α) (state : JsonBridgeState) : JsonBridgeState :=
  match write.commanded with
  | none => state
  | some control => control.applied step state

-- On below the band around the temperature, off above it, and as it is within.
def RelayAgrees (config : JsonBridgeConfig) (state : JsonBridgeState) (targetTemperatureC : ℚ) : Prop :=
  config.relayTemperatureControl = true → ∃ current, state.currentTemperature config = some current ∧
    (current+config.temperatureDeadbandC < targetTemperatureC → state.relayBit = 1) ∧
      (targetTemperatureC < current-config.temperatureDeadbandC → state.relayBit = 0)

-- Every axis is within its tolerance of what is commanded.
structure Converged (config : JsonBridgeConfig) (cache : JsonBridgeCache) (state : JsonBridgeState)
    (command : SafeCommand) : Prop where
  motor : MotorAgrees state command
  speed : |command.targetShakeSpeedCpm-state.currentSpeed config cache| ≤ config.speedDeadbandCpm
  relay : RelayAgrees config state command.targetTemperatureC
  stirrer : StirrerAt command.targetStirrerRpm (state.currentStirrer cache)

variable {fromTimestampMillis : Int → Option Instant} {config : JsonBridgeConfig} {now : Instant} {sequence : Nat}
  {cache : JsonBridgeCache} {state : JsonBridgeState} {command : SafeCommand} {targetTemperatureC : ℚ}

theorem desiredRelay_iff (band : 0 ≤ config.temperatureDeadbandC) (current : ℚ) :
    desiredRelay config state targetTemperatureC current = state.relayBit ↔
      (current+config.temperatureDeadbandC < targetTemperatureC → state.relayBit = 1) ∧
        (targetTemperatureC < current-config.temperatureDeadbandC → state.relayBit = 0) := by
  unfold desiredRelay
  split
  · rename_i cold
    have notHot : ¬targetTemperatureC < current-config.temperatureDeadbandC := by linarith
    simp [cold,notHot,eq_comm]
  · rename_i notCold
    split
    · rename_i hot
      simp [notCold,hot,eq_comm]
    · rename_i notHot
      simp [notCold,notHot]

theorem nextRelay_none (band : 0 ≤ config.temperatureDeadbandC) :
    nextRelay config state targetTemperatureC = .ok none ↔ RelayAgrees config state targetTemperatureC := by
  unfold nextRelay RelayAgrees
  cases config.relayTemperatureControl with
  | false => simp
  | true =>
      cases state.currentTemperature config with
      | none => simp
      | some current =>
          simp only [if_true,Option.some.injEq,true_implies,exists_eq_left',← desiredRelay_iff band]
          by_cases settled : desiredRelay config state targetTemperatureC current = state.relayBit <;> simp [settled]

theorem nextRelay_some {desired : Nat} (due : nextRelay config state targetTemperatureC = .ok (some desired)) :
    ∃ current, state.currentTemperature config = some current ∧
      desired = desiredRelay config state targetTemperatureC current := by
  unfold nextRelay at due
  split at due
  · split at due
    · cases due
    · rename_i current measured
      refine ⟨current,measured,?_⟩
      simp only [Except.ok.injEq] at due
      split at due
      · exact (Option.some.inj due).symm
      · cases due
  · cases due

theorem nextRelay_error {error : Failure} (unknown : nextRelay config state targetTemperatureC = .error error) :
    state.currentTemperature config = none := by
  unfold nextRelay at unknown
  split at unknown
  · split at unknown
    · assumption
    · cases unknown
  · cases unknown

-- The next control is none exactly where there is nothing left to do.
theorem next_none_iff (band : 0 ≤ config.temperatureDeadbandC)
    (valid : validateJsonBridgeState fromTimestampMillis config now state = .ok ()) :
    nextJsonBridgeControl fromTimestampMillis config now sequence cache state command = .ok none ↔
      Converged config cache state command := by
  by_cases agrees : MotorAgrees state command
  · by_cases near : |command.targetShakeSpeedCpm-state.currentSpeed config cache| ≤ config.speedDeadbandCpm
    · rw [next_rest valid agrees (not_lt.mpr near)]
      cases relay : nextRelay config state command.targetTemperatureC with
      | error error =>
          refine iff_of_false nofun fun converged => ?_
          rw [(nextRelay_none band).mpr converged.relay] at relay
          cases relay
      | ok due =>
          cases due with
          | some desired =>
              refine iff_of_false nofun fun converged => ?_
              rw [(nextRelay_none band).mpr converged.relay] at relay
              cases relay
          | none =>
              have hysteresis := (nextRelay_none band).mp relay
              cases away : (state.currentStirrer cache).all fun current => 1/100 < |command.targetStirrerRpm-current| with
              | false => exact iff_of_true rfl ⟨agrees,near,hysteresis,stirrerAt_iff.mpr away⟩
              | true =>
                  refine iff_of_false nofun fun converged => ?_
                  rw [stirrerAt_iff.mp converged.stirrer] at away
                  cases away
    · rw [next_speed valid agrees (not_le.mp near)]
      exact iff_of_false nofun fun converged => near converged.speed
  · have motor : ∃ pending, nextJsonBridgeControl fromTimestampMillis config now sequence cache state command = .ok (some pending) := by
      by_cases stop : command.targetShakeSpeedCpm ≤ 1/100
      · exact ⟨_,next_motor_off valid stop fun off => agrees (iff_of_true stop off)⟩
      · by_cases off : state.motorBit = 0
        · exact ⟨_,next_motor_on valid (not_le.mp stop) off⟩
        · exact absurd (iff_of_false stop off) agrees
    obtain ⟨pending,next⟩ := motor
    rw [next]
    exact iff_of_false nofun fun converged => agrees converged.motor

def JsonBridgeState.reportedSpeed (config : JsonBridgeConfig) (state : JsonBridgeState) : Option ℚ :=
  state.shakeSpeedCpm.or (speedDelayUsToCpm state.speedDelayUs config.speedStepsPerCycle)

theorem currentSpeed_cached {speed : ℚ} (cached : cache.lastCommandedShakeSpeedCpm = some speed) :
    state.currentSpeed config cache = (state.reportedSpeed config).getD speed := by
  unfold JsonBridgeState.currentSpeed JsonBridgeState.reportedSpeed
  rw [cached]
  cases state.shakeSpeedCpm.or (speedDelayUsToCpm state.speedDelayUs config.speedStepsPerCycle) <;> rfl

def JsonBridgeState.stepped (step : SpeedStep) (direction : String) (state : JsonBridgeState) : JsonBridgeState :=
  let moved := step direction (state.shakeSpeedCpm,state.speedDelayUs)
  {state with shakeSpeedCpm := moved.1,speedDelayUs := moved.2}

-- Within the tolerance of the target, going by what is reported, or else by what was commanded last.
def SpeedNear (config : JsonBridgeConfig) (target : ℚ) (reported : Option ℚ) (commanded : ℚ) : Prop :=
  |target-reported.getD commanded| ≤ config.speedDeadbandCpm

-- Nothing but the axis that the first control is about is away, and that control brings it in.
def OneAxisAway (config : JsonBridgeConfig) (step : SpeedStep) (cache : JsonBridgeCache) (state : JsonBridgeState)
    (command : SafeCommand) : Prop :=
  let target := command.targetShakeSpeedCpm
  let delta := target-state.currentSpeed config cache
  let relay := RelayAgrees config state command.targetTemperatureC
  let stirrer := StirrerAt command.targetStirrerRpm (state.currentStirrer cache)
  if target ≤ 1/100 ∧ state.motorBit ≠ 0 then SpeedNear config target (state.reportedSpeed config) 0 ∧ relay ∧ stirrer
  else if 1/100 < target ∧ state.motorBit = 0 then
    SpeedNear config target (state.reportedSpeed config) target ∧ relay ∧ stirrer
  else if config.speedDeadbandCpm < |delta| then
    SpeedNear config target ((state.stepped step (if 0 < delta then "up" else "down")).reportedSpeed config) target ∧
      relay ∧ stirrer
  else relay ∨ state.currentTemperature config = none ∨ stirrer

-- The relay that the bridge is told to have is the one that the temperature asks for.
theorem relay_agrees_after {current : ℚ} (band : 0 ≤ config.temperatureDeadbandC)
    (measured : state.currentTemperature config = some current) :
    RelayAgrees config {state with relay := some (desiredRelay config state targetTemperatureC current)} targetTemperatureC := by
  intro _
  refine ⟨current,measured,?_⟩
  change (_ → desiredRelay config state targetTemperatureC current = 1) ∧
    (_ → desiredRelay config state targetTemperatureC current = 0)
  unfold desiredRelay
  split
  · rename_i cold
    exact ⟨fun _ => rfl,fun hot => by linarith⟩
  · rename_i notCold
    refine ⟨fun cold => absurd cold notCold,fun hot => ?_⟩
    rw [if_pos hot]

-- After a control that was about the motor or the speed.
theorem converged_cached {speed : ℚ} (cached : cache.lastCommandedShakeSpeedCpm = some speed) :
    Converged config cache state command ↔ MotorAgrees state command ∧
      SpeedNear config command.targetShakeSpeedCpm (state.reportedSpeed config) speed ∧
        RelayAgrees config state command.targetTemperatureC ∧
          StirrerAt command.targetStirrerRpm (state.currentStirrer cache) := by
  unfold SpeedNear
  rw [← currentSpeed_cached cached]
  exact ⟨fun ⟨motor,speed,relay,stirrer⟩ => ⟨motor,speed,relay,stirrer⟩,
    fun ⟨motor,speed,relay,stirrer⟩ => ⟨motor,speed,relay,stirrer⟩⟩

variable {step : SpeedStep} {pending : JsonBridgePendingControl}

theorem converged_after_motor (valid : validateJsonBridgeState fromTimestampMillis config now state = .ok ())
    (apart : ¬MotorAgrees state command)
    (next : nextJsonBridgeControl fromTimestampMillis config now sequence cache state command = .ok (some pending)) :
    Converged config (applyJsonBridgeCacheUpdate pending.cacheUpdate cache) (pending.control.applied step state) command ↔
      OneAxisAway config step cache state command := by
  unfold OneAxisAway
  simp only
  by_cases stop : command.targetShakeSpeedCpm ≤ 1/100
  · have motor : state.motorBit ≠ 0 := fun off => apart (iff_of_true stop off)
    rw [next_motor_off valid stop motor] at next
    obtain rfl := Option.some.inj (Except.ok.inj next)
    have off : MotorAgrees {state with motor := some 0} command := iff_of_true stop rfl
    rw [if_pos ⟨stop,motor⟩]
    exact (@converged_cached config ⟨some 0,cache.lastStirrerCommand⟩ {state with motor := some 0} command 0 rfl).trans
      (and_iff_right off)
  · have motor : state.motorBit = 0 := by
      by_contra on
      exact apart (iff_of_false stop on)
    rw [next_motor_on valid (not_le.mp stop) motor] at next
    obtain rfl := Option.some.inj (Except.ok.inj next)
    have on : MotorAgrees {state with motor := some 1} command := iff_of_false stop one_ne_zero
    rw [if_neg fun both => stop both.1,if_pos ⟨not_le.mp stop,motor⟩]
    exact (@converged_cached config ⟨some command.targetShakeSpeedCpm,cache.lastStirrerCommand⟩
      {state with motor := some 1} command _ rfl).trans (and_iff_right on)

theorem converged_after_rest (band : 0 ≤ config.temperatureDeadbandC)
    (valid : validateJsonBridgeState fromTimestampMillis config now state = .ok ()) (agrees : MotorAgrees state command)
    (near : ¬config.speedDeadbandCpm < |command.targetShakeSpeedCpm-state.currentSpeed config cache|)
    (next : nextJsonBridgeControl fromTimestampMillis config now sequence cache state command = .ok (some pending)) :
    Converged config (applyJsonBridgeCacheUpdate pending.cacheUpdate cache) (pending.control.applied step state) command ↔
      RelayAgrees config state command.targetTemperatureC ∨ state.currentTemperature config = none ∨
        StirrerAt command.targetStirrerRpm (state.currentStirrer cache) := by
  rw [next_rest valid agrees near] at next
  cases due : nextRelay config state command.targetTemperatureC with
  | error error =>
      rw [due] at next
      cases next
  | ok desired =>
      rw [due] at next
      cases desired with
      | none =>
          have relay := (nextRelay_none band).mp due
          simp only at next
          split at next
          · obtain rfl := Option.some.inj (Except.ok.inj next)
            exact iff_of_true ⟨agrees,not_lt.mp near,relay,stirrerAt_self _⟩ (.inl relay)
          · cases next
      | some desired =>
          obtain rfl := Option.some.inj (Except.ok.inj next)
          have apart : ¬RelayAgrees config state command.targetTemperatureC := by
            intro relay
            rw [(nextRelay_none band).mpr relay] at due
            cases due
          obtain ⟨current,measured,rfl⟩ := nextRelay_some due
          have stirrer : ∀ tail, (RelayAgrees config state command.targetTemperatureC ∨
              state.currentTemperature config = none ∨ tail) ↔ tail := by simp [apart,measured]
          have relay := @relay_agrees_after config state command.targetTemperatureC current band measured
          rw [stirrer]
          exact ⟨fun converged => converged.stirrer,fun reached => ⟨agrees,not_lt.mp near,relay,reached⟩⟩

theorem converged_after (band : 0 ≤ config.temperatureDeadbandC)
    (valid : validateJsonBridgeState fromTimestampMillis config now state = .ok ())
    (next : nextJsonBridgeControl fromTimestampMillis config now sequence cache state command = .ok (some pending)) :
    Converged config (applyJsonBridgeCacheUpdate pending.cacheUpdate cache) (pending.control.applied step state) command ↔
      OneAxisAway config step cache state command := by
  by_cases agrees : MotorAgrees state command
  · unfold OneAxisAway
    simp only
    rw [if_neg fun both => both.2 (agrees.mp both.1),if_neg fun both => not_le.mpr both.1 (agrees.mpr both.2)]
    by_cases far : config.speedDeadbandCpm < |command.targetShakeSpeedCpm-state.currentSpeed config cache|
    · rw [next_speed valid agrees far] at next
      obtain rfl := Option.some.inj (Except.ok.inj next)
      rw [if_pos far]
      generalize (if 0 < command.targetShakeSpeedCpm-state.currentSpeed config cache then "up" else "down") = direction
      exact (@converged_cached config ⟨some command.targetShakeSpeedCpm,cache.lastStirrerCommand⟩
        (state.stepped step direction) command _ rfl).trans (and_iff_right agrees)
    · rw [if_neg far]
      exact converged_after_rest band valid agrees far next
  · exact converged_after_motor valid agrees next

theorem awaitEcho_verified (requestId : String) (replies : List (Except Failure JsonBridgeReply)) :
    awaitEcho requestId replies ≠ .unverified := by
  induction replies with
  | nil => nofun
  | cons reply rest ih =>
      cases reply with
      | error error => exact ih
      | ok reply =>
          unfold awaitEcho
          split
          · split
            · nofun
            · nofun
            · exact ih
          · exact ih

-- The bridge has the new control, and says of it that it is done.
def AcknowledgedCall.Echoed (call : AcknowledgedCall) : Prop :=
  call.file = .replaced ∧ awaitEcho call.requestId call.replies = .confirmed

-- What a confirmed call is to come to: the test for a next control says exactly whether one is
-- needed, none is needed once the control of the call is applied, and so a repetition that the
-- loop drops has nothing left to deliver.
structure Converges (fromTimestampMillis : Int → Option Instant) (config : JsonBridgeConfig) (step : SpeedStep)
    (call : AcknowledgedCall) (state : JsonBridgeState) (command : SafeCommand) (write : JsonBridgeWrite CommandAck) : Prop where
  exact : nextJsonBridgeControl fromTimestampMillis config call.now call.sequence call.cache state command = .ok none ↔
    Converged config call.cache state command
  confirmed : ∀ ack, write.result = .ok ack → ack.status = .confirmed →
    nextJsonBridgeControl fromTimestampMillis config call.now (call.sequence+1) write.cache (write.applied step state)
      command = .ok none
  dropped : ∀ safety ack writtenAt later repeated, write.result = .ok ack →
    (classifyAckOutcome ack.status safety.control.requireCommandAck safety.control.commandAckTimeoutMs).confirmed = true →
      (⟨command.fingerprint,writtenAt⟩ : LastWrittenCommand).matchesRecent later repeated safety = true →
        Converged config write.cache (write.applied step state) command

-- The state stays valid, for a control says nothing about the link.
theorem applied_valid (control : JsonBridgeControl)
    (valid : validateJsonBridgeState fromTimestampMillis config now state = .ok ()) :
    validateJsonBridgeState fromTimestampMillis config now (control.applied step state) = .ok () := by
  unfold JsonBridgeControl.applied
  split <;> exact valid

theorem write_applied_valid (write : JsonBridgeWrite α)
    (valid : validateJsonBridgeState fromTimestampMillis config now state = .ok ()) :
    validateJsonBridgeState fromTimestampMillis config now (write.applied step state) = .ok () := by
  unfold JsonBridgeWrite.applied
  split
  · exact valid
  · exact applied_valid _ valid

theorem confirmed_of_delivered {status : AckStatus} {required : Bool} {timeout : Nat}
    (delivered : (classifyAckOutcome status required timeout).confirmed = true) (verified : status ≠ .unverified) :
    status = .confirmed := by
  cases status with
  | confirmed => rfl
  | unverified => exact absurd rfl verified
  | rejected detail => cases delivered
  | timeout => cases delivered

section Acknowledged
variable {call : AcknowledgedCall} {ack : CommandAck}

theorem acknowledged_replaced (read : call.state = .ok state) (file : call.file = .replaced)
    (next : nextJsonBridgeControl fromTimestampMillis config call.now call.sequence call.cache state command =
      .ok (some pending)) :
    JsonBridgeDevice.writeTargetsAcknowledged fromTimestampMillis config call command =
      ⟨.ok ⟨call.requestId,awaitEcho call.requestId call.replies,none⟩,
        some {pending.control with requestId := call.requestId},applyJsonBridgeCacheUpdate pending.cacheUpdate call.cache⟩ := by
  unfold JsonBridgeDevice.writeTargetsAcknowledged writeJsonBridgeControl
  simp only [read,Except.bind,next,file]

-- With nothing to send the call is confirmed at once; otherwise the answer of the bridge counts.
theorem acknowledged_cases (read : call.state = .ok state)
    (done : (JsonBridgeDevice.writeTargetsAcknowledged fromTimestampMillis config call command).result = .ok ack) :
    (nextJsonBridgeControl fromTimestampMillis config call.now call.sequence call.cache state command = .ok none ∧
      JsonBridgeDevice.writeTargetsAcknowledged fromTimestampMillis config call command =
        ⟨.ok ⟨call.requestId,.confirmed,none⟩,none,call.cache⟩) ∨
    ∃ pending, nextJsonBridgeControl fromTimestampMillis config call.now call.sequence call.cache state command =
        .ok (some pending) ∧ call.file = .replaced ∧
      JsonBridgeDevice.writeTargetsAcknowledged fromTimestampMillis config call command =
        ⟨.ok ⟨call.requestId,awaitEcho call.requestId call.replies,none⟩,
          some {pending.control with requestId := call.requestId},applyJsonBridgeCacheUpdate pending.cacheUpdate call.cache⟩ := by
  unfold JsonBridgeDevice.writeTargetsAcknowledged at done ⊢
  simp only [read,Except.bind] at done ⊢
  cases next : nextJsonBridgeControl fromTimestampMillis config call.now call.sequence call.cache state command with
  | error error =>
      rw [next] at done
      cases done
  | ok due =>
      rw [next] at done
      cases due with
      | none => exact .inl ⟨rfl,rfl⟩
      | some pending =>
          simp only [writeJsonBridgeControl] at done ⊢
          cases file : call.file with
          | replaced => exact .inr ⟨pending,rfl,rfl,rfl⟩
          | failed error => simp [file] at done
          | unsynced error => simp [file] at done

theorem acknowledged_verified (read : call.state = .ok state)
    (done : (JsonBridgeDevice.writeTargetsAcknowledged fromTimestampMillis config call command).result = .ok ack) :
    ack.status ≠ .unverified := by
  rcases acknowledged_cases read done with ⟨_,same⟩ | ⟨_,_,_,same⟩
  · rw [same] at done
    obtain rfl := Except.ok.inj done
    nofun
  · rw [same] at done
    obtain rfl := Except.ok.inj done
    exact awaitEcho_verified _ _

theorem converged_of_confirmed (band : 0 ≤ config.temperatureDeadbandC) (read : call.state = .ok state)
    (valid : validateJsonBridgeState fromTimestampMillis config call.now state = .ok ())
    (oneAway : call.Echoed → OneAxisAway config step call.cache state command)
    (done : (JsonBridgeDevice.writeTargetsAcknowledged fromTimestampMillis config call command).result = .ok ack)
    (confirmed : ack.status = .confirmed) :
    Converged config (JsonBridgeDevice.writeTargetsAcknowledged fromTimestampMillis config call command).cache
      ((JsonBridgeDevice.writeTargetsAcknowledged fromTimestampMillis config call command).applied step state) command := by
  rcases acknowledged_cases read done with ⟨next,same⟩ | ⟨pending,next,file,same⟩
  · rw [same]
    exact (next_none_iff band valid).mp next
  · rw [same] at done ⊢
    obtain rfl := Except.ok.inj done
    exact (converged_after band valid next).mpr (oneAway ⟨file,confirmed⟩)

-- A call that has nothing to send, or cannot tell what, has no second axis to miss.
theorem oneAxisAway_of_no_control (sequence : Nat) (band : 0 ≤ config.temperatureDeadbandC)
    (valid : validateJsonBridgeState fromTimestampMillis config now state = .ok ())
    (idle : ∀ pending, nextJsonBridgeControl fromTimestampMillis config now sequence cache state command ≠ .ok (some pending)) :
    OneAxisAway config step cache state command := by
  have agrees : MotorAgrees state command := by
    constructor
    · intro stop
      by_contra motor
      exact idle _ (next_motor_off valid stop motor)
    · intro motor
      by_contra shake
      exact idle _ (next_motor_on valid (not_le.mp shake) motor)
  have near : ¬config.speedDeadbandCpm < |command.targetShakeSpeedCpm-state.currentSpeed config cache| :=
    fun far => idle _ (next_speed valid agrees far)
  unfold OneAxisAway
  simp only
  rw [if_neg fun both => both.2 (agrees.mp both.1),if_neg fun both => not_le.mpr both.1 (agrees.mpr both.2),if_neg near]
  have rest := @next_rest fromTimestampMillis config now sequence cache state command valid agrees near
  cases due : nextRelay config state command.targetTemperatureC with
  | error error => exact .inr (.inl (nextRelay_error due))
  | ok desired =>
      cases desired with
      | none => exact .inl ((nextRelay_none band).mp due)
      | some desired =>
          rw [due] at rest
          exact absurd rest (idle _)

end Acknowledged

theorem bridge_converges_iff {call : AcknowledgedCall} (step : SpeedStep) (validated : config.validate = .ok ())
    (read : call.state = .ok state)
    (valid : validateJsonBridgeState fromTimestampMillis config call.now state = .ok ()) :
    Converges fromTimestampMillis config step call state command
        (JsonBridgeDevice.writeTargetsAcknowledged fromTimestampMillis config call command) ↔
      (call.Echoed → OneAxisAway config step call.cache state command) := by
  have band := validate_band validated
  constructor
  · intro converges echoed
    cases next : nextJsonBridgeControl fromTimestampMillis config call.now call.sequence call.cache state command with
    | error error =>
        refine oneAxisAway_of_no_control call.sequence band valid fun pending due => ?_
        rw [next] at due
        cases due
    | ok due =>
        cases due with
        | none =>
            refine oneAxisAway_of_no_control call.sequence band valid fun pending due => ?_
            rw [next] at due
            cases due
        | some pending =>
            have same := acknowledged_replaced read echoed.1 next
            have rest := converges.confirmed _ (congrArg JsonBridgeWrite.result same) echoed.2
            rw [next_none_iff band (write_applied_valid _ valid),same] at rest
            exact (converged_after band valid next).mp rest
  · intro oneAway
    refine ⟨next_none_iff band valid,fun ack done confirmed => ?_,fun safety ack writtenAt later repeated done delivered _ => ?_⟩
    · exact (next_none_iff band (write_applied_valid _ valid)).mpr (converged_of_confirmed band read valid oneAway done confirmed)
    · refine converged_of_confirmed band read valid oneAway done ?_
      exact confirmed_of_delivered delivered (acknowledged_verified read done)

section Stirrer

-- The motor is off, and the stirrer turns as given.
def idleState (stirrerRpm : ℚ) : JsonBridgeState where
  connected := true
  lastSeenMs := 0
  lastFrameOk := true
  motor := some 0
  stirrerRpm := some stirrerRpm
  shakeSpeedCpm := some 30

def echoedCall (state : JsonBridgeState) : AcknowledgedCall where
  now := 0
  sequence := 1
  state := .ok state
  cache := ⟨none,none⟩
  file := .replaced
  requestId := "auto-0-1"
  replies := [.ok ⟨some "auto-0-1",some true,none⟩]

def shakeAndStir : SafeCommand := ⟨60,0,0,0,300,30,0,"automatic control"⟩

def unmovedSpeed : SpeedStep := fun _ reported => reported

def acknowledgedWrite (state : JsonBridgeState) : JsonBridgeWrite CommandAck :=
  JsonBridgeDevice.writeTargetsAcknowledged (fun ms => some (ms*1000000)) .default (echoedCall state) shakeAndStir

theorem bridge_converges_stirring :
    Converges (fun ms => some (ms*1000000)) .default unmovedSpeed (echoedCall (idleState 300)) (idleState 300) shakeAndStir
      (acknowledgedWrite (idleState 300)) := by
  refine (bridge_converges_iff unmovedSpeed (by decide +kernel) rfl rfl).mpr fun _ => ?_
  have speed : SpeedNear .default 30 (some 30) 30 := by norm_num [SpeedNear,JsonBridgeConfig.default]
  have motor : ¬(shakeAndStir.targetShakeSpeedCpm ≤ 1/100 ∧ (idleState 300).motorBit ≠ 0) := by decide +kernel
  have off : 1/100 < shakeAndStir.targetShakeSpeedCpm ∧ (idleState 300).motorBit = 0 := by decide +kernel
  unfold OneAxisAway
  simp only
  rw [if_neg motor,if_pos off]
  exact ⟨speed,nofun,stirrerAt_self 300⟩

-- The motor is switched on and the command is taken for delivered, while the stirrer stands still.
theorem stirrer_left_behind :
    JsonBridgeConfig.default.validate = .ok () ∧
    validateJsonBridgeState (fun ms => some (ms*1000000)) .default (echoedCall (idleState 0)).now (idleState 0) = .ok () ∧
    ¬Converges (fun ms => some (ms*1000000)) .default unmovedSpeed (echoedCall (idleState 0)) (idleState 0) shakeAndStir
      (acknowledgedWrite (idleState 0)) := by
  refine ⟨by decide +kernel,rfl,fun converges => ?_⟩
  have next := @next_motor_on (fun ms => some (ms*1000000)) .default 0 1 ⟨none,none⟩ (idleState 0) shakeAndStir rfl
    (by decide +kernel) rfl
  have same := @acknowledged_replaced _ _ _ _ _ (echoedCall (idleState 0)) rfl rfl next
  have converged := converges.dropped .shipped ⟨"auto-0-1",.confirmed,none⟩ 0 0 shakeAndStir.fingerprint
    (congrArg JsonBridgeWrite.result same) rfl (by decide +kernel)
  have stirring := stirrerAt_iff.mp converged.stirrer
  revert stirring
  decide +kernel

end Stirrer

end ReactorOS
