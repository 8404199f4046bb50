import ReactorOS.Config
import ReactorOS.Text
namespace ReactorOS

-- Nanoseconds since the epoch.
abbrev Instant := Int

structure SensorSnapshot where
  temperatureC : ℚ
  pressureMpa : ℚ
  stirrerRpm : ℚ
  shakeSpeedCpm : ℚ
  tiltState : Nat
  tiltAngleDeg : ℚ
  flowRateLMin : ℚ
  productConcentrationPercent : ℚ
  ph : ℚ
  capturedAt : Instant
  deriving DecidableEq

structure SensorRange where
  field : String
  min : ℚ
  max : ℚ

def SensorRange.validate (range : SensorRange) (value : ℚ) : Except String Unit :=
  if value < range.min ∨ range.max < value then
    .error s!"{range.field} must be between {display range.min} and {display range.max}"
  else .ok ()

def sensorTemperatureCRange : SensorRange := ⟨"temperature_c",-40,500⟩
def sensorPressureMpaRange : SensorRange := ⟨"pressure_mpa",0,10⟩
def sensorStirrerRpmRange : SensorRange := ⟨"stirrer_rpm",0,2000⟩
def sensorShakeSpeedCpmRange : SensorRange := ⟨"shake_speed_cpm",0,60⟩
def sensorTiltAngleDegRange : SensorRange := ⟨"tilt_angle_deg",-30,30⟩
def sensorFlowRateLMinRange : SensorRange := ⟨"flow_rate_l_min",0,100⟩
def sensorProductConcentrationPercentRange : SensorRange := ⟨"product_concentration_percent",0,100⟩
def sensorPhRange : SensorRange := ⟨"ph",0,14⟩

def validateSensorTiltState (value : Nat) : Except String Unit :=
  if value ≤ 1 then .ok ()
  else .error "tilt_state must be 0 or 1 for the shake vessel binary tilt sensor"

def validateSensorSnapshot (sample : SensorSnapshot) : Except String Unit := do
  sensorTemperatureCRange.validate sample.temperatureC
  sensorPressureMpaRange.validate sample.pressureMpa
  sensorStirrerRpmRange.validate sample.stirrerRpm
  sensorShakeSpeedCpmRange.validate sample.shakeSpeedCpm
  sensorTiltAngleDegRange.validate sample.tiltAngleDeg
  sensorFlowRateLMinRange.validate sample.flowRateLMin
  sensorProductConcentrationPercentRange.validate sample.productConcentrationPercent
  sensorPhRange.validate sample.ph
  validateSensorTiltState sample.tiltState

structure ControlTargets where
  temperatureC : ℚ
  heatTimeS : ℚ
  holdTimeS : ℚ
  coolTimeS : ℚ
  stirrerRpm : ℚ
  shakeSpeedCpm : ℚ
  targetPressureMpa : ℚ
  deriving DecidableEq

structure DeviceStatusSnapshot where
  connected : Bool
  lastSeenAt : Option Instant
  lastFrameOk : Bool
  motor : Option Nat
  lastCommandRequestId : Option String
  lastCommandOk : Option Bool
  lastCommandError : Option String
  deriving DecidableEq

structure RuntimeState where
  latestSample : Option SensorSnapshot
  targets : ControlTargets
  autoEnabled : Bool
  manualLock : Bool
  manualLockGeneration : Generation
  emergencyStop : Bool
  emergencyStopGeneration : Generation
  activeBatchId : Option Int
  lastSensorError : Option String
  lastControlError : Option String
  controlLoopTerminated : Bool
  controlFaultGeneration : Generation
  deviceStatus : Option DeviceStatusSnapshot
  deriving DecidableEq

-- `num_milliseconds` truncates toward zero.
def timestampAgeMs (now timestamp : Instant) : Int := (now-timestamp).tdiv 1000000

def timestampIsFresh (now timestamp : Instant) (timeoutMs : Int) : Bool :=
  decide (0 ≤ timestampAgeMs now timestamp) && decide (timestampAgeMs now timestamp ≤ timeoutMs)

namespace RuntimeState

def fromSafety (safety : SafetyConfig) : RuntimeState where
  latestSample := none
  targets := {
    temperatureC := safety.temperature.defaultTargetC
    heatTimeS := 300
    holdTimeS := 600
    coolTimeS := 180
    stirrerRpm := safety.stirrer.defaultTargetRpm
    shakeSpeedCpm := 30
    targetPressureMpa := 1/2 }
  autoEnabled := false
  manualLock := safety.control.manualLockDefault
  manualLockGeneration := if safety.control.manualLockDefault then 1 else 0
  emergencyStop := false
  emergencyStopGeneration := 0
  activeBatchId := none
  lastSensorError := none
  lastControlError := none
  controlLoopTerminated := false
  controlFaultGeneration := 0
  deviceStatus := none

def disableAutoForFieldFault (state : RuntimeState) (reason : String) : RuntimeState :=
  {state with lastSensorError := some reason,autoEnabled := false}

def latchControlFault (state : RuntimeState) (reason : String) : RuntimeState :=
  {state with
    controlFaultGeneration := state.controlFaultGeneration.saturatingAdd 1
    lastControlError := some reason
    autoEnabled := false}

-- What `latch_control_fault` returns: whether the latch is worth an audit row.
def latchChanges (state : RuntimeState) (reason : String) : Bool :=
  state.autoEnabled || state.lastControlError != some reason

def clearControlFault (state : RuntimeState) : RuntimeState :=
  {state with lastControlError := none,autoEnabled := false}

def engageManualLock (state : RuntimeState) : RuntimeState :=
  {state with
    manualLock := true
    manualLockGeneration := state.manualLockGeneration.saturatingAdd 1
    autoEnabled := false}

def clearManualLock (state : RuntimeState) : RuntimeState :=
  {state with manualLock := false,autoEnabled := false}

def engageEmergencyStop (state : RuntimeState) : RuntimeState :=
  {state with
    emergencyStop := true
    emergencyStopGeneration := state.emergencyStopGeneration.saturatingAdd 1
    autoEnabled := false}

def clearEmergencyStop (state : RuntimeState) : RuntimeState :=
  {state with emergencyStop := false,autoEnabled := false}

end RuntimeState

def deviceStatusFieldFaultReason (now : Instant) (status : DeviceStatusSnapshot) (sensorTimeoutMs : Int) :
    Option String :=
  if !status.connected then some "downstream device status is disconnected"
  else if !status.lastFrameOk then some "downstream device last upstream frame failed validation"
  else match status.lastSeenAt with
    | none => some "downstream device status has no valid last_seen timestamp"
    | some lastSeen =>
        let ageMs := timestampAgeMs now lastSeen
        if ageMs < 0 then some s!"downstream device status timestamp is {-ageMs} ms in the future"
        else if sensorTimeoutMs < ageMs then
          some s!"downstream device status stale; last_seen is {ageMs} ms old, max {sensorTimeoutMs} ms"
        else none

def downstreamCommandFaultReason (status : DeviceStatusSnapshot) : Option String :=
  if status.lastCommandOk ≠ some false then none
  else
    let requestId := status.lastCommandRequestId.getD "unknown request"
    let detail := (status.lastCommandError.filter fun error => !(trim error).isEmpty).getD
      "downstream command reported failure"
    some s!"downstream command {requestId} failed: {detail}"

-- The three safety latches and what the code keeps for each of them.
inductive Latch where
  | manualLock | emergencyStop | controlFault
  deriving DecidableEq, Repr

namespace RuntimeState

def latched (state : RuntimeState) : Latch → Bool
  | .manualLock => state.manualLock
  | .emergencyStop => state.emergencyStop
  | .controlFault => state.lastControlError.isSome

def generation (state : RuntimeState) : Latch → Generation
  | .manualLock => state.manualLockGeneration
  | .emergencyStop => state.emergencyStopGeneration
  | .controlFault => state.controlFaultGeneration

-- Automatic control only runs in a state in which nothing speaks against it.
def AutoSafe (state : RuntimeState) : Prop :=
  state.autoEnabled = true → state.emergencyStop = false ∧ state.manualLock = false ∧
    state.lastControlError = none ∧ state.lastSensorError = none

end RuntimeState
end ReactorOS
