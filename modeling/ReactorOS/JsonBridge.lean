import ReactorOS.Component
namespace ReactorOS

inductive JsonBridgeAdcSensor where
  | temperatureC | pressureMpa | stirrerRpm | shakeSpeedCpm | flowRateLMin | productConcentrationPercent | ph
  deriving DecidableEq, Repr

structure JsonBridgeAdcConfig where
  sensor : Option JsonBridgeAdcSensor
  scale : ℚ
  offset : ℚ

structure JsonBridgeConfig where
  maxStateAgeMs : Int
  requestIdPrefix : String
  speedStepsPerCycle : ℚ
  speedDeadbandCpm : ℚ
  temperatureDeadbandC : ℚ
  relayTemperatureControl : Bool
  adc : JsonBridgeAdcConfig

def JsonBridgeConfig.default : JsonBridgeConfig where
  maxStateAgeMs := 6000
  requestIdPrefix := "reactor-os"
  speedStepsPerCycle := 200
  speedDeadbandCpm := 1
  temperatureDeadbandC := 1
  relayTemperatureControl := false
  adc := ⟨none,1,0⟩

-- What `state.json` says, as far as a control is decided on it.
structure JsonBridgeState where
  connected : Bool
  lastSeenMs : Int
  lastFrameOk : Bool
  adc : Option Nat := none
  status : Option Nat := none
  relay : Option Nat := none
  motor : Option Nat := none
  speedDelayUs : Option Nat := none
  temperatureC : Option ℚ := none
  stirrerRpm : Option ℚ := none
  shakeSpeedCpm : Option ℚ := none

inductive BridgeValue where
  | integer (value : Nat)
  | number (value : ℚ)
  | text (value : String)
  deriving DecidableEq

-- What is written to `control.json`.
structure JsonBridgeControl where
  requestId : String
  command : String
  value : Option BridgeValue
  name : Option String
  deriving DecidableEq

structure JsonBridgeCache where
  lastCommandedShakeSpeedCpm : Option ℚ
  lastStirrerCommand : Option ℚ

structure JsonBridgePendingCacheUpdate where
  shakeSpeedCpm : Option ℚ := none
  stirrerRpm : Option ℚ := none

structure JsonBridgePendingControl where
  control : JsonBridgeControl
  cacheUpdate : JsonBridgePendingCacheUpdate

def applyJsonBridgeCacheUpdate (update : JsonBridgePendingCacheUpdate) (cache : JsonBridgeCache) : JsonBridgeCache where
  lastCommandedShakeSpeedCpm := update.shakeSpeedCpm.or cache.lastCommandedShakeSpeedCpm
  lastStirrerCommand := update.stirrerRpm.or cache.lastStirrerCommand

-- How the file system answers where `control.json` is to be replaced. It can also fail
-- once the new file is in place, when the directory is synced.
inductive FileAnswer where
  | replaced
  | failed (error : Failure)
  | unsynced (error : Failure)

-- Whether the bridge gets to see the new file.
def FileAnswer.lands : FileAnswer → Bool
  | .failed _ => false
  | _ => true

-- What one call of the device finds outside of itself and in its caches.
structure JsonBridgeCall where
  now : Instant
  sequence : Nat
  state : Except Failure JsonBridgeState
  cache : JsonBridgeCache
  file : FileAnswer

def buildJsonBridgeControl (requestIdPrefix : String) (now : Instant) (sequence : Nat) (command : String)
    (value : Option BridgeValue) (name : Option String) : JsonBridgeControl :=
  ⟨s!"{requestIdPrefix}-{now / 1000000}-{sequence}",command,value,name⟩

def bitOrField (field status : Option Nat) (bit : Nat) : Option Nat :=
  field.or (status.map fun status => (status >>> bit) % 2)

def speedDelayUsToCpm (speedDelayUs : Option Nat) (stepsPerCycle : ℚ) : Option ℚ :=
  speedDelayUs.bind fun delay =>
    if delay = 0 ∨ stepsPerCycle ≤ 0 then none else some (round2 (60000000/(delay*stepsPerCycle)))

namespace JsonBridgeState

def motorBit (state : JsonBridgeState) : Nat := (bitOrField state.motor state.status 1).getD 0

def relayBit (state : JsonBridgeState) : Nat := (bitOrField state.relay state.status 0).getD 0

def currentSpeed (config : JsonBridgeConfig) (cache : JsonBridgeCache) (state : JsonBridgeState) : ℚ :=
  ((state.shakeSpeedCpm.or (speedDelayUsToCpm state.speedDelayUs config.speedStepsPerCycle)).or
    cache.lastCommandedShakeSpeedCpm).getD 0

def currentTemperature (config : JsonBridgeConfig) (state : JsonBridgeState) : Option ℚ :=
  state.temperatureC.or (if config.adc.sensor = some .temperatureC then
    state.adc.map fun adc => adc*config.adc.scale+config.adc.offset else none)

def currentStirrer (cache : JsonBridgeCache) (state : JsonBridgeState) : Option ℚ :=
  state.stirrerRpm.or cache.lastStirrerCommand

end JsonBridgeState

section Device
-- `DateTime::from_timestamp_millis`, which has an instant for the milliseconds in its range.
variable (fromTimestampMillis : Int → Option Instant)

def validateJsonBridgeState (config : JsonBridgeConfig) (now : Instant) (state : JsonBridgeState) :
    Except Failure Unit :=
  if !state.connected then .error ⟨"json bridge reports downstream disconnected",[]⟩
  else if !state.lastFrameOk then .error ⟨"json bridge last upstream frame failed XOR check",[]⟩
  else match fromTimestampMillis state.lastSeenMs with
    | none => .error ⟨"json bridge state last_seen_ms is out of range",[]⟩
    | some lastSeen =>
        let age := timestampAgeMs now lastSeen
        if age < 0 then
          .error ⟨s!"json bridge state timestamp is {-age} ms in the future; check controller clock synchronization",[]⟩
        else if config.maxStateAgeMs < age then
          .error ⟨s!"json bridge state stale; last_seen_ms is {age} ms old, max {config.maxStateAgeMs} ms",[]⟩
        else .ok ()

def desiredRelay (config : JsonBridgeConfig) (state : JsonBridgeState) (targetTemperatureC currentTemperature : ℚ) : Nat :=
  if currentTemperature+config.temperatureDeadbandC < targetTemperatureC then 1
  else if targetTemperatureC < currentTemperature-config.temperatureDeadbandC then 0
  else state.relayBit

-- The relay value that is due, where the temperature is controlled by the relay at all.
def nextRelay (config : JsonBridgeConfig) (state : JsonBridgeState) (targetTemperatureC : ℚ) :
    Except Failure (Option Nat) :=
  if config.relayTemperatureControl then
    match state.currentTemperature config with
    | none => .error ⟨"json bridge relay temperature control requires temperature_c or adc temperature mapping",[]⟩
    | some currentTemperature =>
        let desired := desiredRelay config state targetTemperatureC currentTemperature
        .ok (if desired ≠ state.relayBit then some desired else none)
  else .ok none

-- One control a call: the first of motor, speed, relay and stirrer that is not as commanded.
def nextJsonBridgeControl (config : JsonBridgeConfig) (now : Instant) (sequence : Nat) (cache : JsonBridgeCache)
    (state : JsonBridgeState) (command : SafeCommand) : Except Failure (Option JsonBridgePendingControl) := do
  (validateJsonBridgeState fromTimestampMillis config now state).mapError fun err =>
    ⟨s!"json bridge refuses control because state is not valid: {err.message}",[]⟩
  let control := fun (command : String) (value : BridgeValue) (name : Option String) =>
    buildJsonBridgeControl config.requestIdPrefix now sequence command (some value) name
  let speedDelta := command.targetShakeSpeedCpm-state.currentSpeed config cache
  if command.targetShakeSpeedCpm ≤ 1/100 ∧ state.motorBit ≠ 0 then
    return some ⟨control "motor" (.integer 0) none,{shakeSpeedCpm := some 0}⟩
  else if 1/100 < command.targetShakeSpeedCpm ∧ state.motorBit = 0 then
    return some ⟨control "motor" (.integer 1) none,{shakeSpeedCpm := some command.targetShakeSpeedCpm}⟩
  else if config.speedDeadbandCpm < |speedDelta| then
    return some ⟨control "speed" (.text (if 0 < speedDelta then "up" else "down")) none,
      {shakeSpeedCpm := some command.targetShakeSpeedCpm}⟩
  else match ← nextRelay config state command.targetTemperatureC with
    | some desired => return some ⟨control "relay" (.integer desired) none,{}⟩
    | none =>
        if (state.currentStirrer cache).all fun current => 1/100 < |command.targetStirrerRpm-current| then
          return some ⟨control "stir_speed" (.number command.targetStirrerRpm) (some "stirrer_motor"),
            {stirrerRpm := some command.targetStirrerRpm}⟩
        else return none

-- The motor runs where shaking is commanded, and only there.
def MotorAgrees (state : JsonBridgeState) (command : SafeCommand) : Prop :=
  command.targetShakeSpeedCpm ≤ 1/100 ↔ state.motorBit = 0

-- What is due for a machine in a valid state, one lemma a branch of the cascade.
section Cascade
variable {fromTimestampMillis} {config : JsonBridgeConfig} {now : Instant} {sequence : Nat} {cache : JsonBridgeCache}
  {state : JsonBridgeState} {command : SafeCommand}
  (valid : validateJsonBridgeState fromTimestampMillis config now state = .ok ())
include valid

theorem next_motor_off (stop : command.targetShakeSpeedCpm ≤ 1/100) (motor : state.motorBit ≠ 0) :
    nextJsonBridgeControl fromTimestampMillis config now sequence cache state command =
      .ok (some ⟨buildJsonBridgeControl config.requestIdPrefix now sequence "motor" (some (.integer 0)) none,
        {shakeSpeedCpm := some 0}⟩) := by
  unfold nextJsonBridgeControl
  rw [valid,if_pos ⟨stop,motor⟩]
  rfl

theorem next_motor_on (shake : 1/100 < command.targetShakeSpeedCpm) (motor : state.motorBit = 0) :
    nextJsonBridgeControl fromTimestampMillis config now sequence cache state command =
      .ok (some ⟨buildJsonBridgeControl config.requestIdPrefix now sequence "motor" (some (.integer 1)) none,
        {shakeSpeedCpm := some command.targetShakeSpeedCpm}⟩) := by
  unfold nextJsonBridgeControl
  rw [valid,if_neg (fun both => both.2 motor),if_pos ⟨shake,motor⟩]
  rfl

theorem next_speed (agrees : MotorAgrees state command)
    (far : config.speedDeadbandCpm < |command.targetShakeSpeedCpm-state.currentSpeed config cache|) :
    nextJsonBridgeControl fromTimestampMillis config now sequence cache state command =
      .ok (some ⟨buildJsonBridgeControl config.requestIdPrefix now sequence "speed"
        (some (.text (if 0 < command.targetShakeSpeedCpm-state.currentSpeed config cache then "up" else "down"))) none,
        {shakeSpeedCpm := some command.targetShakeSpeedCpm}⟩) := by
  unfold nextJsonBridgeControl
  rw [valid,if_neg (fun both => both.2 (agrees.mp both.1)),if_neg (fun both => not_le.mpr both.1 (agrees.mpr both.2)),
    if_pos far]
  rfl

theorem next_rest (agrees : MotorAgrees state command)
    (near : ¬config.speedDeadbandCpm < |command.targetShakeSpeedCpm-state.currentSpeed config cache|) :
    nextJsonBridgeControl fromTimestampMillis config now sequence cache state command =
      match nextRelay config state command.targetTemperatureC with
      | .error error => .error error
      | .ok (some desired) => .ok (some ⟨buildJsonBridgeControl config.requestIdPrefix now sequence "relay"
          (some (.integer desired)) none,{}⟩)
      | .ok none =>
          if (state.currentStirrer cache).all fun current => 1/100 < |command.targetStirrerRpm-current| then
            .ok (some ⟨buildJsonBridgeControl config.requestIdPrefix now sequence "stir_speed"
              (some (.number command.targetStirrerRpm)) (some "stirrer_motor"),
              {stirrerRpm := some command.targetStirrerRpm}⟩)
          else .ok none := by
  unfold nextJsonBridgeControl
  rw [valid,if_neg (fun both => both.2 (agrees.mp both.1)),if_neg (fun both => not_le.mpr both.1 (agrees.mpr both.2)),
    if_neg near]
  cases nextRelay config state command.targetTemperatureC with
  | error error => rfl
  | ok due => cases due <;> rfl

end Cascade

-- What a call of the device comes to: its result, what the bridge is commanded, the caches.
structure JsonBridgeWrite (α : Type) where
  result : Except Failure α
  commanded : Option JsonBridgeControl
  cache : JsonBridgeCache

-- `write_json_bridge_control` and the cache update after it.
def writeJsonBridgeControl (call : JsonBridgeCall) (control : JsonBridgeControl)
    (cacheUpdate : JsonBridgePendingCacheUpdate) (value : α) : JsonBridgeWrite α :=
  match call.file with
  | .replaced => ⟨.ok value,some control,applyJsonBridgeCacheUpdate cacheUpdate call.cache⟩
  | .failed error => ⟨.error error,none,call.cache⟩
  | .unsynced error => ⟨.error error,some control,call.cache⟩

def JsonBridgeDevice.writeTargets (config : JsonBridgeConfig) (call : JsonBridgeCall) (command : SafeCommand) :
    JsonBridgeWrite Unit :=
  let next := call.state.bind fun state =>
    nextJsonBridgeControl fromTimestampMillis config call.now call.sequence call.cache state command
  match next with
  | .error error => ⟨.error error,none,call.cache⟩
  | .ok none => ⟨.ok (),none,call.cache⟩
  | .ok (some pending) => writeJsonBridgeControl call pending.control pending.cacheUpdate ()

end Device
end ReactorOS
