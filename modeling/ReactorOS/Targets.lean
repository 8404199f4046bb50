import ReactorOS.Interlock
namespace ReactorOS

def validateRange (field : String) (value min max : ℚ) : Except AppError Unit :=
  if value < min ∨ max < value then
    .error (.badRequest s!"{field} must be between {display min} and {display max}")
  else .ok ()

def validateTargetTemperature (safety : SafetyConfig) (value : ℚ) : Except AppError Unit := do
  validateRange "target_temp" value 0 500
  if safety.temperature.maxC < value then
    throw (.badRequest s!"target_temp exceeds device maximum temperature {displayFixed 1 safety.temperature.maxC}")

def validateStirSpeed (safety : SafetyConfig) (value : ℚ) : Except AppError Unit := do
  validateRange "stir_speed" value 0 2000
  if safety.stirrer.maxRpm < value then
    throw (.badRequest s!"stir_speed exceeds device maximum RPM {displayFixed 0 safety.stirrer.maxRpm}")

def validateTargetPairAllowed (safety : SafetyConfig) (temperatureC stirrerRpm : ℚ) : Except AppError Unit :=
  match forbiddenControlZone safety temperatureC stirrerRpm with
  | some zone =>
      .error (.forbidden s!"target pair temp={displayFixed 1 temperatureC} degC rpm={displayFixed 1 stirrerRpm} enters forbidden control zone {zone.name}: {zone.reason}")
  | none => .ok ()

def ensureTargetsAllowed (safety : SafetyConfig) (targets : ControlTargets) : Except AppError Unit :=
  validateTargetPairAllowed safety targets.temperatureC targets.stirrerRpm

-- A field that is present but null is refused.
def optionalPresent (value : Option (Option α)) (field : String) : Except AppError (Option α) :=
  match value with
  | some (some present) => .ok (some present)
  | some none => .error (.badRequest s!"{field} must not be null")
  | none => .ok none

def optionalPresentNumber (value : Option (Option ℚ)) (field : String) : Except AppError (Option ℚ) :=
  optionalPresent value field
def optionalPresentBool (value : Option (Option Bool)) (field : String) : Except AppError (Option Bool) :=
  optionalPresent value field
def optionalPresentI64 (value : Option (Option Int)) (field : String) : Except AppError (Option Int) :=
  optionalPresent value field

def ControlTargets.round2 (targets : ControlTargets) : ControlTargets where
  temperatureC := ReactorOS.round2 targets.temperatureC
  heatTimeS := ReactorOS.round2 targets.heatTimeS
  holdTimeS := ReactorOS.round2 targets.holdTimeS
  coolTimeS := ReactorOS.round2 targets.coolTimeS
  stirrerRpm := ReactorOS.round2 targets.stirrerRpm
  shakeSpeedCpm := ReactorOS.round2 targets.shakeSpeedCpm
  targetPressureMpa := ReactorOS.round2 targets.targetPressureMpa

def labelled (label : String) (checked : Except AppError Unit) : Except AppError Unit :=
  checked.mapError (·.withMessagePrefix label)

-- The checks of a full target set, for the entry points that name its two limited
-- fields and its time limits in their own way.
def validateTargetSet (safety : SafetyConfig) (temperatureLabel stirrerLabel shakeField : String)
    (heatMax holdMax : ℚ) (targets : ControlTargets) : Except AppError ControlTargets := do
  labelled temperatureLabel (validateTargetTemperature safety targets.temperatureC)
  labelled stirrerLabel (validateStirSpeed safety targets.stirrerRpm)
  validateRange shakeField targets.shakeSpeedCpm 0 60
  validateRange "target_pressure_mpa" targets.targetPressureMpa 0 10
  validateRange "heat_time_s" targets.heatTimeS 0 heatMax
  validateRange "hold_time_s" targets.holdTimeS 0 holdMax
  validateRange "cool_time_s" targets.coolTimeS 0 3600
  return targets.round2

def validateOperatorTargets (safety : SafetyConfig) : ControlTargets → Except AppError ControlTargets :=
  validateTargetSet safety "temperature_c" "stirrer_rpm" "shake_speed_cpm" 3600 7200

def validateModbusRegisterTargets (safety : SafetyConfig) : ControlTargets → Except AppError ControlTargets :=
  validateTargetSet safety "target_temperature_c" "target_stirrer_rpm" "target_shake_speed_cpm" 3600 7200

def validateIntegrationTargets (safety : SafetyConfig) : ControlTargets → Except AppError ControlTargets :=
  validateTargetSet safety "target_temperature_c" "target_stirrer_rpm" "target_shake_speed_cpm"
    (safety.optimizer.maxHeatingMinutes*60) (safety.optimizer.maxStirringMinutes*60)

def validateV1ProcessTargets (safety : SafetyConfig) (targets : ControlTargets) :
    Except AppError ControlTargets := do
  validateTargetTemperature safety targets.temperatureC
  validateRange "heat_time_s" targets.heatTimeS 0 (safety.optimizer.maxHeatingMinutes*60)
  validateRange "hold_time_s" targets.holdTimeS 0 (safety.optimizer.maxStirringMinutes*60)
  validateRange "cool_time_s" targets.coolTimeS 0 3600
  validateStirSpeed safety targets.stirrerRpm
  validateRange "shake_speed" targets.shakeSpeedCpm 0 60
  validateRange "target_pressure" targets.targetPressureMpa 0 10
  return targets.round2

def validateBatchStartTargets (safety : SafetyConfig) (targets : ControlTargets) :
    Except AppError ControlTargets := do
  validateTargetTemperature safety targets.temperatureC
  validateStirSpeed safety targets.stirrerRpm
  validateTargetPairAllowed safety targets.temperatureC targets.stirrerRpm
  validateRange "target_shake_speed_cpm" targets.shakeSpeedCpm 0 60
  validateRange "heating_minutes" (targets.heatTimeS/60) 0 safety.optimizer.maxHeatingMinutes
  validateRange "stirring_minutes" (targets.holdTimeS/60) 0 safety.optimizer.maxStirringMinutes
  validateRange "cool_time_s" targets.coolTimeS 0 3600
  validateRange "target_pressure_mpa" targets.targetPressureMpa 0 10
  return targets.round2

structure V1ControlParams where
  heatTime : Option (Option ℚ) := none
  holdTime : Option (Option ℚ) := none
  coolTime : Option (Option ℚ) := none
  stirSpeed : Option (Option ℚ) := none
  shakeSpeed : Option (Option ℚ) := none
  targetTemp : Option (Option ℚ) := none
  targetPressure : Option (Option ℚ) := none

def validateV1ControlParams (safety : SafetyConfig) (params : V1ControlParams) (runningState : Bool) :
    Except AppError ControlTargets := do
  let heatTime ← optionalPresentNumber params.heatTime "heat_time"
  let holdTime ← optionalPresentNumber params.holdTime "hold_time"
  let coolTime ← optionalPresentNumber params.coolTime "cool_time"
  let stirSpeed ← optionalPresentNumber params.stirSpeed "stir_speed"
  let shakeSpeed ← optionalPresentNumber params.shakeSpeed "shake_speed"
  let targetTemp ← optionalPresentNumber params.targetTemp "target_temp"
  let targetPressure ← optionalPresentNumber params.targetPressure "target_pressure"
  if heatTime.isNone && holdTime.isNone && coolTime.isNone && stirSpeed.isNone && shakeSpeed.isNone &&
      targetTemp.isNone && targetPressure.isNone then
    throw (.badRequest "control params must include at least one recognized control parameter")
  let targets : ControlTargets := {
    temperatureC := targetTemp.getD 120
    heatTimeS := heatTime.getD 300
    holdTimeS := holdTime.getD 600
    coolTimeS := coolTime.getD 180
    stirrerRpm := stirSpeed.getD 800
    shakeSpeedCpm := shakeSpeed.getD 30
    targetPressureMpa := targetPressure.getD (1/2) }
  validateRange "heat_time" targets.heatTimeS 0 (safety.optimizer.maxHeatingMinutes*60)
  validateRange "hold_time" targets.holdTimeS 0 (safety.optimizer.maxStirringMinutes*60)
  validateRange "cool_time" targets.coolTimeS 0 3600
  validateStirSpeed safety targets.stirrerRpm
  validateRange "shake_speed" targets.shakeSpeedCpm 0 60
  validateTargetTemperature safety targets.temperatureC
  validateTargetPairAllowed safety targets.temperatureC targets.stirrerRpm
  validateRange "target_pressure" targets.targetPressureMpa 0 10
  if runningState && targets.stirrerRpm = 0 && targets.shakeSpeedCpm = 0 then
    throw (.badRequest "stir_speed and shake_speed cannot both be 0 while running")
  return targets.round2

def processStepDurationSeconds (step : ProcessStep) (role : String) (maxMinutes : ℚ) : Except AppError ℚ := do
  validateRange s!"process step {step.id} {role}_duration_minutes" step.durationMinutes 1 maxMinutes
  return step.durationMinutes*60

def validatePersistedProcessStep (safety : SafetyConfig) (step : ProcessStep) : Except AppError Unit := do
  let field := fun (name : String) => s!"process step {step.id} {name}"
  labelled (field "target_temperature_c") (validateTargetTemperature safety step.targetTemperatureC)
  validateRange (field "ramp_rate_c_min") step.rampRateCMin (-20) 20
  validateRange (field "duration_minutes") step.durationMinutes 1
    (max safety.optimizer.maxStirringMinutes safety.optimizer.maxHeatingMinutes)
  labelled (field "target_stirrer_rpm") (validateStirSpeed safety step.targetStirrerRpm)
  validateRange (field "target_shake_speed_cpm") step.targetShakeSpeedCpm 0 60
  validateRange (field "target_pressure_mpa") step.targetPressureMpa 0 10
  labelled (field "target pair") (validateTargetPairAllowed safety step.targetTemperatureC step.targetStirrerRpm)

def targetsFromProcessSteps (safety : SafetyConfig) (steps : List ProcessStep) :
    Except AppError ControlTargets := do
  for step in steps do
    validatePersistedProcessStep safety step
  match steps with
  | [] => throw (.badRequest "process must contain at least one step")
  | first :: rest =>
      let hold := rest.headD first
      let last := rest.getLastD first
      let heatTimeS ← processStepDurationSeconds first "heating" safety.optimizer.maxHeatingMinutes
      let holdTimeS ← processStepDurationSeconds hold "stirring" safety.optimizer.maxStirringMinutes
      let coolTimeS ← if 2 < steps.length then processStepDurationSeconds last "cooling" 60 else pure 180
      let targets : ControlTargets := {
        temperatureC := round2 first.targetTemperatureC
        heatTimeS := round2 heatTimeS
        holdTimeS := round2 holdTimeS
        coolTimeS := round2 coolTimeS
        stirrerRpm := round2 hold.targetStirrerRpm
        shakeSpeedCpm := round2 hold.targetShakeSpeedCpm
        targetPressureMpa := round2 hold.targetPressureMpa }
      ensureTargetsAllowed safety targets
      return targets

def secondsToMinutes (seconds : ℚ) : ℚ := round2 (seconds/60)

def processStopTargets (safety : SafetyConfig) : ControlTargets :=
  let targets := clampOperatorTargets safety {
    temperatureC := safety.temperature.minC
    heatTimeS := 0
    holdTimeS := 0
    coolTimeS := 0
    stirrerRpm := safety.stirrer.minRpm
    shakeSpeedCpm := 0
    targetPressureMpa := 0 }
  {targets with heatTimeS := 0,holdTimeS := 0,coolTimeS := 0,shakeSpeedCpm := 0,targetPressureMpa := 0}

def safeCommandFromRuntimeTargets (targets : ControlTargets) (reason : String) : SafeCommand where
  targetTemperatureC := targets.temperatureC
  heatTimeS := targets.heatTimeS
  holdTimeS := targets.holdTimeS
  coolTimeS := targets.coolTimeS
  targetStirrerRpm := targets.stirrerRpm
  targetShakeSpeedCpm := targets.shakeSpeedCpm
  targetPressureMpa := targets.targetPressureMpa
  reason := reason

end ReactorOS
