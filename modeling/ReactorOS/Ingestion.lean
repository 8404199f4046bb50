import ReactorOS.Interlock
namespace ReactorOS
open Concurrency Journal
variable {me : TaskId}

inductive AlarmLevel where
  | medium | high
  deriving DecidableEq, Repr

structure Alarm where
  alarmType : String
  level : AlarmLevel
  message : String

structure SensorLimit where
  label : String
  unit : String
  normalMin : Option ℚ
  normalMax : Option ℚ
  hardMin : Option ℚ
  hardMax : Option ℚ

structure SensorLimits where
  temperatureC : Option SensorLimit := none
  pressureMpa : Option SensorLimit := none
  stirrerRpm : Option SensorLimit := none
  shakeSpeedCpm : Option SensorLimit := none
  tiltAngleDeg : Option SensorLimit := none
  flowRateLMin : Option SensorLimit := none
  productConcentrationPercent : Option SensorLimit := none
  ph : Option SensorLimit := none

def below (limit : Option ℚ) (value : ℚ) : Option ℚ := limit.filter fun limit => decide (value < limit)
def above (limit : Option ℚ) (value : ℚ) : Option ℚ := limit.filter fun limit => decide (limit < value)

def SensorLimit.check (limits : SensorLimit) (value : ℚ) : Option (AlarmLevel × String) :=
  let name := if limits.label.isEmpty then "sensor" else limits.label
  let unit := if limits.unit.isEmpty then "" else " " ++ limits.unit
  let alarm := fun (level : AlarmLevel) (limit : ℚ) (direction : String) =>
    (level,s!"{name} {direction}: current {displayFixed 2 value}{unit}, limit {displayFixed 2 limit}{unit}")
  match below limits.hardMin value,above limits.hardMax value,below limits.normalMin value,
      above limits.normalMax value with
  | some limit,_,_,_ => some (alarm .high limit "below hard minimum")
  | none,some limit,_,_ => some (alarm .high limit "above hard maximum")
  | none,none,some limit,_ => some (alarm .medium limit "below normal range")
  | none,none,none,some limit => some (alarm .medium limit "above normal range")
  | none,none,none,none => none

def sensorDataAlarmReason (safety : SafetyConfig) (now : Instant) (runtime : RuntimeState)
    (sample : Option SensorSnapshot) : Option String :=
  match runtime.lastSensorError,sample with
  | some error,_ => some s!"sensor data unavailable; {error}"
  | none,none => some "sensor data unavailable; no persisted pipeline sample is available"
  | none,some sample =>
      let ageMs := timestampAgeMs now sample.capturedAt
      if ageMs < 0 then some s!"sensor data timestamp is {-ageMs} ms in the future; field clock state is not trusted"
      else if safety.control.sensorTimeoutMs < ageMs then
        some s!"sensor data stale; last persisted sample is {ageMs} ms old, max {safety.control.sensorTimeoutMs} ms"
      else none

def deviceStatusAlarmReason (safety : SafetyConfig) (now : Instant) (runtime : RuntimeState) : Option String :=
  match runtime.deviceStatus with
  | none =>
      if safety.control.requireDeviceStatusForControl then
        some "downstream device status unavailable; field state is not proven safe"
      else none
  | some status => deviceStatusFieldFaultReason now status safety.control.sensorTimeoutMs

def sensorAlarm (alarmType : String) (limit : Option SensorLimit) (value : ℚ) : Option Alarm :=
  (limit.bind fun limit => limit.check value).map fun (level,message) => ⟨alarmType,level,message⟩

def alarmsFor (safety : SafetyConfig) (now : Instant) (runtime : RuntimeState) (sample : Option SensorSnapshot)
    (limits : SensorLimits) : List Alarm :=
  [(sensorDataAlarmReason safety now runtime sample).map (⟨"sensor_data_unavailable",.high,·⟩),
   (deviceStatusAlarmReason safety now runtime).map (⟨"device_status_unavailable",.high,·⟩),
   (runtime.deviceStatus.bind downstreamCommandFaultReason).map (⟨"downstream_command_fault",.high,·⟩),
   if runtime.emergencyStop then some ⟨"emergency_stop",.high,"manual emergency stop is active"⟩ else none,
   runtime.lastControlError.map (⟨"communication_error",.medium,·⟩),
   runtime.lastSensorError.map (⟨"sensor_error",.high,·⟩)].filterMap id ++
  match sample with
  | none => []
  | some sample =>
      [sensorAlarm "temperature_limit" limits.temperatureC sample.temperatureC,
       sensorAlarm "pressure_limit" limits.pressureMpa sample.pressureMpa,
       sensorAlarm "stirrer_limit" limits.stirrerRpm sample.stirrerRpm,
       sensorAlarm "shake_speed_limit" limits.shakeSpeedCpm sample.shakeSpeedCpm,
       sensorAlarm "tilt_angle_limit" limits.tiltAngleDeg sample.tiltAngleDeg,
       sensorAlarm "flow_rate_limit" limits.flowRateLMin sample.flowRateLMin,
       sensorAlarm "product_concentration_limit" limits.productConcentrationPercent
         sample.productConcentrationPercent,
       sensorAlarm "ph_limit" limits.ph sample.ph].filterMap id

structure PipelineSampleRequest where
  temperatureC : ℚ
  pressureMpa : ℚ
  stirrerRpm : ℚ
  shakeSpeedCpm : ℚ
  tiltState : Nat
  flowRateLMin : ℚ
  productConcentrationPercent : ℚ
  ph : ℚ

-- `sine` is what the math library returns for |sin| of the phase.
def fitTiltAngleDeg (tiltState : Nat) (shakeSpeedCpm sine : ℚ) : ℚ :=
  if clamp shakeSpeedCpm 0 60 ≤ 1/100 then 0 else round2 ((if tiltState = 0 then -1 else 1)*30*sine)

def round2Sensor (range : SensorRange) (value : ℚ) : Except AppError ℚ := do
  (range.validate value).mapError .badRequest
  return round2 value

def pipelineSampleFromRequest (now : Instant) (sine : ℚ) (payload : PipelineSampleRequest) :
    Except AppError SensorSnapshot := do
  (validateSensorTiltState payload.tiltState).mapError .badRequest
  let shakeSpeedCpm ← round2Sensor sensorShakeSpeedCpmRange payload.shakeSpeedCpm
  let sample : SensorSnapshot := {
    temperatureC := ← round2Sensor sensorTemperatureCRange payload.temperatureC
    pressureMpa := ← round2Sensor sensorPressureMpaRange payload.pressureMpa
    stirrerRpm := ← round2Sensor sensorStirrerRpmRange payload.stirrerRpm
    shakeSpeedCpm := shakeSpeedCpm
    tiltState := payload.tiltState
    tiltAngleDeg := fitTiltAngleDeg payload.tiltState shakeSpeedCpm sine
    flowRateLMin := ← round2Sensor sensorFlowRateLMinRange payload.flowRateLMin
    productConcentrationPercent :=
      ← round2Sensor sensorProductConcentrationPercentRange payload.productConcentrationPercent
    ph := ← round2Sensor sensorPhRange payload.ph
    capturedAt := now }
  (validateSensorSnapshot sample).mapError .badRequest
  return sample

def auditWhen (due : Bool) (batchId : Option Int) (eventType reason : String) :
    Handler Event.quiet me AppError Unit :=
  if due then ignoring (insertControlEventSqlx batchId eventType none reason .system) else return ()

def auditFieldInputAutoDisable (batchId : Option Int) (autoWasDisabled : Bool) (reason : String) :
    Handler Event.quiet me AppError Unit :=
  auditWhen autoWasDisabled batchId "field_input_fault_auto_disabled" reason

def auditControlFaultAutoDisable (batchId : Option Int) : Handler Event.quiet me AppError Unit :=
  auditWhen true batchId "control_fault_auto_disabled"
    "control fault was already latched; automatic control forced disabled"

-- `reject_unpersisted_sample_with_status`; returns whether automatic control was on.
def rejectUnpersistedSampleWithStatus (status : Option DeviceStatusSnapshot) (reason : String) :
    Critical Event.field me AppError Bool := do
  let runtime ← runtimeState
  change (.deviceStatusSet status)
  change .sampleDropped
  change (.fieldFaultRecorded reason)
  return runtime.autoEnabled

-- `enforce_control_fault_fail_closed`
def enforceControlFaultFailClosed : Critical Event.field me AppError Bool := do
  let runtime ← runtimeState
  if runtime.lastControlError.isSome && runtime.autoEnabled then
    change .autoDisabled
    return true
  return false

def rejectPipelineSampleInput (reason : String) : Handler Event.field me AppError Unit := do
  let (activeBatchId,autoWasDisabled) ← locked (do
    let runtime ← runtimeState
    let autoWasDisabled ← rejectUnpersistedSampleWithStatus none reason
    return (runtime.activeBatchId,autoWasDisabled))
  within (auditFieldInputAutoDisable activeBatchId autoWasDisabled reason)

def highAlarms (alarms : List Alarm) : List Alarm := alarms.filter fun alarm => alarm.level = .high

def applyHighSensorAlarmFailClosed (highAlarmCount : Nat) : Critical Event.field me AppError Bool := do
  let runtime ← runtimeState
  if highAlarmCount = 0 then return false
  change .autoDisabled
  return runtime.autoEnabled || runtime.activeBatchId.isSome

-- The record says when a sample was stamped.
def noteCapture (sample : Option SensorSnapshot) : Critical Event.field me AppError Unit :=
  match sample with
  | some sample => note (.sampleCaptured sample)
  | none => return ()

def acceptPipelineSample (safety : SafetyConfig) (limits : SensorLimits) (payload : PipelineSampleRequest) :
    Handler Event.field me AppError SensorSnapshot := do
  let captured ← locked (do
    let env ← answer
    let captured := pipelineSampleFromRequest env.now env.sine payload
    noteCapture captured.toOption
    return captured)
  let sample ← catching (Task.ofExcept captured) fun err => do
    rejectPipelineSampleInput s!"sensor sample rejected: {err.message}"
    throw err
  let seen ← locked runtimeState
  catching (locked (query fun _ _ => ())) fun (err : Failure) => do
    let reason := s!"sensor sample persistence failed: {err.alternate}"
    let autoWasDisabled ← locked (rejectUnpersistedSampleWithStatus none reason)
    within (auditFieldInputAutoDisable seen.activeBatchId autoWasDisabled reason)
    throw (.internal err)
  let updatedRuntime ← locked (do
    change (.sampleAccepted sample)
    runtimeState)
  let alarms ← timed fun now => .ok (alarmsFor safety now updatedRuntime updatedRuntime.latestSample limits)
  let (byAlarm,byControlFault) ← locked (do
    let byAlarm ← applyHighSensorAlarmFailClosed (highAlarms alarms).length
    let byControlFault ← enforceControlFaultFailClosed
    return (byAlarm,byControlFault))
  let names := ", ".intercalate ((highAlarms alarms).map (·.alarmType))
  within (auditWhen byAlarm seen.activeBatchId "high_sensor_alarm_auto_disabled"
    s!"high sensor alarm disabled automatic control: {names}")
  if byControlFault then within (auditControlFaultAutoDisable seen.activeBatchId)
  return sample

end ReactorOS
