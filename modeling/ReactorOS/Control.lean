import ReactorOS.State
namespace ReactorOS

structure SafeCommand where
  targetTemperatureC : ℚ
  heatTimeS : ℚ
  holdTimeS : ℚ
  coolTimeS : ℚ
  targetStirrerRpm : ℚ
  targetShakeSpeedCpm : ℚ
  targetPressureMpa : ℚ
  reason : String
  deriving DecidableEq

inductive ControlBlockReason where
  | autoDisabled | manualLock | emergencyStop | controlFault | missingDeviceStatus | deviceStatusFault
  | downstreamCommandFault | missingSensorSample | sensorStale | forbiddenControlZone
  deriving DecidableEq, Repr

inductive ControlDecision where
  | write (command : SafeCommand)
  | blocked (reason : ControlBlockReason)
  deriving DecidableEq

def clampStep (current desired min max maxStep : ℚ) : ℚ :=
  let bounded := clamp desired min max
  let delta := clamp (bounded-current) (-maxStep) maxStep
  clamp (current+delta) min max

def isForbiddenControlZone (safety : SafetyConfig) (temperatureC stirrerRpm : ℚ) : Bool :=
  safety.forbiddenControlZones.any fun zone => zone.contains temperatureC stirrerRpm

def forbiddenControlZone (safety : SafetyConfig) (temperatureC stirrerRpm : ℚ) : Option ForbiddenControlZone :=
  safety.forbiddenControlZones.find? fun zone => zone.contains temperatureC stirrerRpm

-- The status may only be missing where the configuration does not ask for one.
def deviceStatusBlock (safety : SafetyConfig) (now : Instant) :
    Option DeviceStatusSnapshot → Option ControlBlockReason
  | none => if safety.control.requireDeviceStatusForControl then some .missingDeviceStatus else none
  | some status =>
      if (deviceStatusFieldFaultReason now status safety.control.sensorTimeoutMs).isSome then
        some .deviceStatusFault
      else if (downstreamCommandFaultReason status).isSome then some .downstreamCommandFault
      else none

def decideControlWithDeviceStatus (safety : SafetyConfig) (now : Instant) (sample : Option SensorSnapshot)
    (targets : ControlTargets) (autoEnabled manualLock emergencyStop : Bool) (controlFault : Option String)
    (deviceStatus : Option DeviceStatusSnapshot) : ControlDecision :=
  if emergencyStop then .blocked .emergencyStop
  else if manualLock then .blocked .manualLock
  else if controlFault.isSome then .blocked .controlFault
  else if !autoEnabled then .blocked .autoDisabled
  else match deviceStatusBlock safety now deviceStatus with
    | some reason => .blocked reason
    | none => match sample with
      | none => .blocked .missingSensorSample
      | some sample =>
          if !timestampIsFresh now sample.capturedAt safety.control.sensorTimeoutMs then .blocked .sensorStale
          else
            let temperature := clampStep sample.temperatureC targets.temperatureC safety.temperature.minC
              safety.temperature.maxC safety.temperature.maxStepC
            let stirrer := clampStep sample.stirrerRpm targets.stirrerRpm safety.stirrer.minRpm
              safety.stirrer.maxRpm safety.stirrer.maxStepRpm
            if isForbiddenControlZone safety temperature stirrer then .blocked .forbiddenControlZone
            else .write {
              targetTemperatureC := round2 temperature
              heatTimeS := round2 targets.heatTimeS
              holdTimeS := round2 targets.holdTimeS
              coolTimeS := round2 targets.coolTimeS
              targetStirrerRpm := round2 stirrer
              targetShakeSpeedCpm := round2 targets.shakeSpeedCpm
              targetPressureMpa := round2 targets.targetPressureMpa
              reason := "auto control within configured safety limits" }

def clampOperatorTargets (safety : SafetyConfig) (targets : ControlTargets) : ControlTargets where
  temperatureC := round2 (clamp targets.temperatureC safety.temperature.minC safety.temperature.maxC)
  heatTimeS := round2 (clamp targets.heatTimeS 0 3600)
  holdTimeS := round2 (clamp targets.holdTimeS 0 7200)
  coolTimeS := round2 (clamp targets.coolTimeS 0 3600)
  stirrerRpm := round2 (clamp targets.stirrerRpm safety.stirrer.minRpm safety.stirrer.maxRpm)
  shakeSpeedCpm := round2 (clamp targets.shakeSpeedCpm 0 60)
  targetPressureMpa := round2 (clamp targets.targetPressureMpa 0 10)

-- A decision to write is taken only in a state that allows automatic control.
theorem write_allowed {safety : SafetyConfig} {now : Instant} {sample : Option SensorSnapshot}
    {targets : ControlTargets} {autoEnabled manualLock emergencyStop : Bool} {controlFault : Option String}
    {deviceStatus : Option DeviceStatusSnapshot} {command : SafeCommand}
    (decided : decideControlWithDeviceStatus safety now sample targets autoEnabled manualLock emergencyStop
      controlFault deviceStatus = .write command) :
    emergencyStop = false ∧ manualLock = false ∧ controlFault = none ∧ autoEnabled = true := by
  unfold decideControlWithDeviceStatus at decided
  cases emergencyStop
  · cases manualLock
    · cases controlFault with
      | none =>
          cases autoEnabled
          · simp at decided
          · exact ⟨rfl,rfl,rfl,rfl⟩
      | some error => simp at decided
    · simp at decided
  · simp at decided

end ReactorOS
