import ReactorOS.Operator
namespace ReactorOS
open Concurrency Journal
variable {me : TaskId}

structure WriteRegister where
  address : Nat
  scale : ℚ
  offset : ℚ

inductive TargetRegister where
  | targetTemperatureC | targetStirrerRpm | targetShakeSpeedCpm | targetPressureMpa | heatTimeS | holdTimeS | coolTimeS
  deriving DecidableEq, Repr

def TargetRegister.name : TargetRegister → String
  | .targetTemperatureC => "target_temperature_c"
  | .targetStirrerRpm => "target_stirrer_rpm"
  | .targetShakeSpeedCpm => "target_shake_speed_cpm"
  | .targetPressureMpa => "target_pressure_mpa"
  | .heatTimeS => "heat_time_s"
  | .holdTimeS => "hold_time_s"
  | .coolTimeS => "cool_time_s"

def TargetRegister.all : List TargetRegister :=
  [.targetTemperatureC,.targetStirrerRpm,.targetShakeSpeedCpm,.targetPressureMpa,.heatTimeS,.holdTimeS,.coolTimeS]

def parseTargetRegister (register : String) : Except AppError TargetRegister :=
  match TargetRegister.all.find? fun known => known.name == register with
  | some known => .ok known
  | none => .error (.badRequest "register is not writable through the Modbus debug API")

def validateModbusRegisterWriteValue (safety : SafetyConfig) (register : TargetRegister) (value : ℚ) :
    Except AppError Unit :=
  match register with
  | .targetTemperatureC => validateTargetTemperature safety value
  | .targetStirrerRpm => validateStirSpeed safety value
  | .targetShakeSpeedCpm => validateRange "target_shake_speed_cpm" value 0 60
  | .targetPressureMpa => validateRange "target_pressure_mpa" value 0 10
  | .heatTimeS => validateRange "heat_time_s" value 0 3600
  | .holdTimeS => validateRange "hold_time_s" value 0 7200
  | .coolTimeS => validateRange "cool_time_s" value 0 3600

def requestedTargets (register : TargetRegister) (value : ℚ) (current : ControlTargets) : ControlTargets :=
  match register with
  | .targetTemperatureC => {current with temperatureC := value}
  | .targetStirrerRpm => {current with stirrerRpm := value}
  | .targetShakeSpeedCpm => {current with shakeSpeedCpm := value}
  | .targetPressureMpa => {current with targetPressureMpa := value}
  | .heatTimeS => {current with heatTimeS := value}
  | .holdTimeS => {current with holdTimeS := value}
  | .coolTimeS => {current with coolTimeS := value}

def writeRegisterAppliedValue (targets : ControlTargets) : TargetRegister → ℚ
  | .targetTemperatureC => targets.temperatureC
  | .targetStirrerRpm => targets.stirrerRpm
  | .targetShakeSpeedCpm => targets.shakeSpeedCpm
  | .targetPressureMpa => targets.targetPressureMpa
  | .heatTimeS => targets.heatTimeS
  | .holdTimeS => targets.holdTimeS
  | .coolTimeS => targets.coolTimeS

def encodeModbusRaw (value scale offset : ℚ) : Except AppError Nat :=
  if scale = 0 then .error (.badRequest "register scale must not be zero")
  else
    let raw := roundHalfAway ((value-offset)/scale)
    if raw < 0 ∨ 65535 < raw then .error (.badRequest "value cannot be encoded as u16") else .ok raw.toNat

structure ModbusWriteResponse where
  register : String
  address : Nat
  requestedValue : ℚ
  appliedValue : ℚ
  raw : Nat
  scale : ℚ
  offset : ℚ
  targets : ControlTargets

def applyModbusRegisterWrite (safety : SafetyConfig) (registers : TargetRegister → WriteRegister)
    (register : String) (value : ℚ) (reason : Option String) (actor : AuditActor) :
    Handler Event.work me AppError ModbusWriteResponse := do
  let reason := cleanLabel reason "" 240
  if reason.isEmpty then
    throw (.badRequest "modbus write reason is required for an auditable target change")
  let known ← Task.ofExcept (parseTargetRegister register)
  Task.ofExcept (validateModbusRegisterWriteValue safety known value)
  let config := registers known
  let current ← locked readTargets
  let targets ← Task.ofExcept (validateModbusRegisterTargets safety (requestedTargets known value current))
  Task.ofExcept (ensureTargetsAllowed safety targets)
  let appliedValue := writeRegisterAppliedValue targets known
  let raw ← Task.ofExcept (encodeModbusRaw appliedValue config.scale config.offset)
  let runtime ← locked disableAutoAndAcknowledge
  timed fun now => ensureTargetUpdateInterlockClear safety now runtime .modbusDebugWrite
  locked (ensurePersistedBatchStateConsistent runtime .modbusDebugWrite)
  orInternal (within (insertControlEventSqlx none "modbus_register_write"
    (some (safeCommandFromRuntimeTargets targets reason)) reason actor))
  commitTargetsAfterFinalInterlock safety targets .modbusDebugWrite (some current)
    (some (.fromRuntime runtime))
  return ⟨register,config.address,value,round2 appliedValue,raw,config.scale,config.offset,targets⟩

end ReactorOS
