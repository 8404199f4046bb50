import ReactorOS.Number
import ReactorOS.Text
namespace ReactorOS

inductive DeviceMode where
  | pipeline | modbus | esp32Serial | jsonBridge | simulation
  deriving DecidableEq, Repr

structure ControlConfig where
  autoEnabledDefault : Bool
  manualLockDefault : Bool
  controlIntervalMs : Nat
  sensorTimeoutMs : Int
  requireDeviceStatusForControl : Bool
  writeRetryBackoffMs : Nat
  safetyGuardTimeoutMs : Nat
  aiStopProductConcentrationPercent : ℚ
  requireCommandAck : Bool
  commandAckTimeoutMs : Nat

structure TemperatureSafety where
  minC : ℚ
  maxC : ℚ
  maxStepC : ℚ
  defaultTargetC : ℚ

structure StirrerSafety where
  minRpm : ℚ
  maxRpm : ℚ
  maxStepRpm : ℚ
  defaultTargetRpm : ℚ

structure OptimizerBounds where
  minTemperatureC : ℚ
  maxTemperatureC : ℚ
  minStirrerRpm : ℚ
  maxStirrerRpm : ℚ
  minHeatingMinutes : ℚ
  maxHeatingMinutes : ℚ
  minStirringMinutes : ℚ
  maxStirringMinutes : ℚ

structure ForbiddenControlZone where
  name : String
  reason : String
  minTemperatureC : ℚ
  maxTemperatureC : ℚ
  minStirrerRpm : ℚ
  maxStirrerRpm : ℚ

def ForbiddenControlZone.contains (zone : ForbiddenControlZone) (temperatureC stirrerRpm : ℚ) : Bool :=
  decide (zone.minTemperatureC ≤ temperatureC) && decide (temperatureC ≤ zone.maxTemperatureC) &&
  decide (zone.minStirrerRpm ≤ stirrerRpm) && decide (stirrerRpm ≤ zone.maxStirrerRpm)

structure SafetyConfig where
  control : ControlConfig
  temperature : TemperatureSafety
  stirrer : StirrerSafety
  optimizer : OptimizerBounds
  forbiddenControlZones : List ForbiddenControlZone

def ensureOrdered (minField : String) (min : ℚ) (maxField : String) (max : ℚ) : Except String Unit :=
  if max < min then .error s!"{minField} must be less than or equal to {maxField}" else .ok ()

theorem ensureOrdered_ok {minField maxField : String} {min max : ℚ} :
    ensureOrdered minField min maxField max = .ok () ↔ min ≤ max := by
  unfold ensureOrdered
  split <;> simp_all

def ensureNonNegative (field : String) (value : ℚ) : Except String Unit :=
  if value < 0 then .error s!"{field} must be greater than or equal to 0" else .ok ()

def ensureRange (field : String) (value min max : ℚ) : Except String Unit :=
  if min ≤ value ∧ value ≤ max then .ok () else .error s!"{field} must be between {display min} and {display max}"

def ensurePositive (field : String) (value : Int) : Except String Unit :=
  if value ≤ 0 then .error s!"{field} must be greater than 0" else .ok ()

def ensurePositiveF64 (field : String) (value : ℚ) : Except String Unit :=
  if value ≤ 0 then .error s!"{field} must be greater than 0" else .ok ()

def ensureNonZeroF64 (field : String) (value : ℚ) : Except String Unit :=
  if value = 0 then .error s!"{field} must not be zero" else .ok ()

def ensureNonEmpty (field value : String) : Except String Unit :=
  if (trim value).isEmpty then .error s!"{field} must not be empty" else .ok ()

theorem ensureNonNegative_ok {field : String} {value : ℚ} : ensureNonNegative field value = .ok () ↔ 0 ≤ value := by
  unfold ensureNonNegative
  split <;> simp_all

def validateOptimizerBounds (bounds : OptimizerBounds) : Except String Unit := do
  ensureOrdered "optimizer.min_temperature_c" bounds.minTemperatureC "optimizer.max_temperature_c" bounds.maxTemperatureC
  ensureOrdered "optimizer.min_stirrer_rpm" bounds.minStirrerRpm "optimizer.max_stirrer_rpm" bounds.maxStirrerRpm
  ensureOrdered "optimizer.min_heating_minutes" bounds.minHeatingMinutes "optimizer.max_heating_minutes" bounds.maxHeatingMinutes
  ensureOrdered "optimizer.min_stirring_minutes" bounds.minStirringMinutes "optimizer.max_stirring_minutes" bounds.maxStirringMinutes
  ensureNonNegative "optimizer.min_heating_minutes" bounds.minHeatingMinutes
  ensureNonNegative "optimizer.min_stirring_minutes" bounds.minStirringMinutes

def validateForbiddenZone (zone : ForbiddenControlZone) : Except String Unit := do
  ensureNonEmpty "forbidden_control_zones.name" zone.name
  ensureOrdered "forbidden_control_zones.min_temperature_c" zone.minTemperatureC
    "forbidden_control_zones.max_temperature_c" zone.maxTemperatureC
  ensureOrdered "forbidden_control_zones.min_stirrer_rpm" zone.minStirrerRpm
    "forbidden_control_zones.max_stirrer_rpm" zone.maxStirrerRpm

def validateSafetyConfig (config : SafetyConfig) : Except String Unit := do
  ensurePositive "control.control_interval_ms" config.control.controlIntervalMs
  ensurePositive "control.sensor_timeout_ms" config.control.sensorTimeoutMs
  ensurePositive "control.write_retry_backoff_ms" config.control.writeRetryBackoffMs
  ensurePositive "control.safety_guard_timeout_ms" config.control.safetyGuardTimeoutMs
  ensureRange "control.ai_stop_product_concentration_percent" config.control.aiStopProductConcentrationPercent 0 100
  ensurePositive "control.command_ack_timeout_ms" config.control.commandAckTimeoutMs
  ensureOrdered "temperature.min_c" config.temperature.minC "temperature.max_c" config.temperature.maxC
  ensureNonNegative "temperature.max_step_c" config.temperature.maxStepC
  ensureRange "temperature.default_target_c" config.temperature.defaultTargetC config.temperature.minC
    config.temperature.maxC
  ensureOrdered "stirrer.min_rpm" config.stirrer.minRpm "stirrer.max_rpm" config.stirrer.maxRpm
  ensureNonNegative "stirrer.max_step_rpm" config.stirrer.maxStepRpm
  ensureRange "stirrer.default_target_rpm" config.stirrer.defaultTargetRpm config.stirrer.minRpm config.stirrer.maxRpm
  validateOptimizerBounds config.optimizer
  config.forbiddenControlZones.forM validateForbiddenZone

-- `config/safety.toml` as it is shipped.
def SafetyConfig.shipped : SafetyConfig where
  control := {
    autoEnabledDefault := false
    manualLockDefault := false
    controlIntervalMs := 2000
    sensorTimeoutMs := 6000
    requireDeviceStatusForControl := true
    writeRetryBackoffMs := 5000
    safetyGuardTimeoutMs := 1000
    aiStopProductConcentrationPercent := 95
    requireCommandAck := false
    commandAckTimeoutMs := 2000 }
  temperature := ⟨20,160,2,60⟩
  stirrer := ⟨0,1200,50,300⟩
  optimizer := ⟨35,140,100,1000,15,240,15,240⟩
  forbiddenControlZones := [⟨"hot-low-stir","High temperature with weak mixing is blocked at the control layer.",
    125,160,0,350⟩]

end ReactorOS
