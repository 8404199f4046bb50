import ReactorOS.Envelope
import ReactorOS.Wire.Fields
namespace ReactorOS
open Wire

theorem clamp_shift (value moved lower upper : ℚ) :
    moved + clamp (value-moved) lower upper = clamp value (moved+lower) (moved+upper) := by
  unfold clamp
  simp only [sub_lt_iff_lt_add',lt_sub_iff_add_lt']
  split
  · rfl
  · split
    · rfl
    · ring

theorem clamp_clamp {value lower upper low high : ℚ} (inside : lower ≤ upper) (ordered : low ≤ high) :
    clamp (clamp (clamp value lower upper) low high) lower upper =
      clamp value (clamp low lower upper) (clamp high lower upper) := by
  unfold clamp
  grind

-- The point nearest to the target among those that one step from the current value reaches
-- between the limits.
def nearestInReach (current desired lower upper maxStep : ℚ) : ℚ :=
  clamp desired (clamp (current-maxStep) lower upper) (clamp (current+maxStep) lower upper)

theorem clampStep_reach {current desired lower upper maxStep : ℚ} (limits : AxisLimits lower upper maxStep) :
    clampStep current desired lower upper maxStep = nearestInReach current desired lower upper maxStep := by
  obtain ⟨ordered,forward⟩ := limits
  unfold clampStep nearestInReach
  simp only
  rw [clamp_shift,clamp_clamp ordered (by linarith),sub_eq_add_neg]

theorem clampStep_within {current desired lower upper maxStep : ℚ} (limits : AxisLimits lower upper maxStep) :
    lower ≤ clampStep current desired lower upper maxStep ∧ clampStep current desired lower upper maxStep ≤ upper :=
  clamp_between limits.ordered

-- From a value between the limits the step goes toward the target and not beyond it.
structure StepsToward (current bounded maxStep stepped : ℚ) : Prop where
  short : |stepped - current| ≤ maxStep
  between : min current bounded ≤ stepped ∧ stepped ≤ max current bounded

theorem clampStep_toward {current desired lower upper maxStep : ℚ} (limits : AxisLimits lower upper maxStep)
    (above : lower ≤ current) (below : current ≤ upper) :
    StepsToward current (clamp desired lower upper) maxStep (clampStep current desired lower upper maxStep) := by
  have forward := limits.forward
  obtain ⟨low,high⟩ := @clamp_between desired _ _ limits.ordered
  unfold clampStep
  simp only
  generalize clamp desired lower upper = bounded at low high ⊢
  rw [clamp_shift]
  rcases le_total current bounded with up | down
  · have reached : clamp bounded (current + -maxStep) (current+maxStep) = min bounded (current+maxStep) := by
      unfold clamp
      rw [if_neg (by linarith)]
      split
      · rename_i beyond
        exact (min_eq_right beyond.le).symm
      · rename_i within
        exact (min_eq_left (not_lt.mp within)).symm
    have least : current ≤ min bounded (current+maxStep) := le_min up (by linarith)
    have most := min_le_left bounded (current+maxStep)
    rw [reached,clamp_self (above.trans least) (most.trans high)]
    constructor
    · rw [abs_of_nonneg (by linarith)]
      have step := min_le_right bounded (current+maxStep)
      linarith
    · rw [min_eq_left up,max_eq_right up]
      exact ⟨least,most⟩
  · have reached : clamp bounded (current + -maxStep) (current+maxStep) = max bounded (current-maxStep) := by
      unfold clamp
      rw [← sub_eq_add_neg]
      split
      · rename_i beyond
        exact (max_eq_right beyond.le).symm
      · rename_i within
        rw [if_neg (by linarith)]
        exact (max_eq_left (not_lt.mp within)).symm
    have most : max bounded (current-maxStep) ≤ current := max_le down (by linarith)
    have least := le_max_left bounded (current-maxStep)
    rw [reached,clamp_self (low.trans least) (most.trans below)]
    constructor
    · rw [abs_of_nonpos (by linarith)]
      have step := le_max_right bounded (current-maxStep)
      linarith
    · rw [min_eq_right down,max_eq_left down]
      exact ⟨least,most⟩

-- What the written value keeps of that once it is rounded to hundredths.
structure AxisEnvelope (lower upper maxStep current desired written : ℚ) : Prop where
  range : round2 lower ≤ written ∧ written ≤ round2 upper
  short : lower ≤ current → current ≤ upper → |written - current| ≤ maxStep + 5/1000
  between : lower ≤ current → current ≤ upper →
    round2 (min current (clamp desired lower upper)) ≤ written ∧
      written ≤ round2 (max current (clamp desired lower upper))
  nearer : lower ≤ current → current ≤ upper →
    |written - clamp desired lower upper| ≤ |current - clamp desired lower upper| + 5/1000

theorem axisEnvelope_rounded {lower upper maxStep current desired : ℚ} (limits : AxisLimits lower upper maxStep) :
    AxisEnvelope lower upper maxStep current desired (round2 (clampStep current desired lower upper maxStep)) := by
  have near := abs_le.mp (round2_near (clampStep current desired lower upper maxStep))
  obtain ⟨low,high⟩ := @clampStep_within current desired _ _ _ limits
  constructor
  · exact ⟨round2_mono low,round2_mono high⟩
  · intro above below
    have short := abs_le.mp (@clampStep_toward current desired _ _ _ limits above below).short
    rw [abs_le]
    constructor <;> linarith
  · intro above below
    have between := (@clampStep_toward current desired _ _ _ limits above below).between
    exact ⟨round2_mono between.1,round2_mono between.2⟩
  · intro above below
    have between := (@clampStep_toward current desired _ _ _ limits above below).between
    rcases le_total current (clamp desired lower upper) with up | down
    · rw [min_eq_left up,max_eq_right up] at between
      rw [abs_of_nonpos (sub_nonpos.mpr up),abs_le]
      constructor <;> linarith
    · rw [min_eq_right down,max_eq_left down] at between
      rw [abs_of_nonneg (sub_nonneg.mpr down),abs_le]
      constructor <;> linarith

-- Whole milliseconds, neither ahead of the clock nor older than the timeout.
structure Fresh (now timestamp : Instant) (timeoutMs : Int) : Prop where
  past : 0 ≤ timestampAgeMs now timestamp
  recent : timestampAgeMs now timestamp ≤ timeoutMs

structure StatusHealthy (now : Instant) (timeoutMs : Int) (status : DeviceStatusSnapshot) : Prop where
  connected : status.connected = true
  frame : status.lastFrameOk = true
  seen : ∃ lastSeen, status.lastSeenAt = some lastSeen ∧ Fresh now lastSeen timeoutMs
  command : status.lastCommandOk ≠ some false

theorem timestampIsFresh_iff {now timestamp : Instant} {timeoutMs : Int} :
    timestampIsFresh now timestamp timeoutMs = true ↔ Fresh now timestamp timeoutMs := by
  unfold timestampIsFresh
  rw [Bool.and_eq_true,decide_eq_true_iff,decide_eq_true_iff]
  constructor
  · intro fresh
    exact ⟨fresh.1,fresh.2⟩
  · intro fresh
    exact ⟨fresh.past,fresh.recent⟩

theorem fieldFault_none {now : Instant} {status : DeviceStatusSnapshot} {timeoutMs : Int} :
    deviceStatusFieldFaultReason now status timeoutMs = none ↔ status.connected = true ∧ status.lastFrameOk = true ∧
      ∃ lastSeen, status.lastSeenAt = some lastSeen ∧ Fresh now lastSeen timeoutMs := by
  unfold deviceStatusFieldFaultReason
  cases status.connected
  · simp
  · cases status.lastFrameOk
    · simp
    · cases status.lastSeenAt with
      | none => simp
      | some lastSeen =>
          by_cases future : timestampAgeMs now lastSeen < 0
          · have late : ¬Fresh now lastSeen timeoutMs := fun fresh => not_le.mpr future fresh.past
            simp [future,late]
          · by_cases stale : timeoutMs < timestampAgeMs now lastSeen
            · have late : ¬Fresh now lastSeen timeoutMs := fun fresh => not_le.mpr stale fresh.recent
              simp [future,stale,late]
            · have fresh : Fresh now lastSeen timeoutMs := ⟨not_lt.mp future,not_lt.mp stale⟩
              simp [future,stale,fresh]

theorem commandFault_none {status : DeviceStatusSnapshot} :
    downstreamCommandFaultReason status = none ↔ status.lastCommandOk ≠ some false := by
  unfold downstreamCommandFaultReason
  split
  · rename_i fine
    exact ⟨fun _ => fine,fun _ => rfl⟩
  · rename_i failed
    constructor
    · intro reported
      cases reported
    · intro fine
      exact absurd fine failed

section
variable {safety : SafetyConfig} {now : Instant} {sample : Option SensorSnapshot} {targets : ControlTargets}
  {autoEnabled manualLock emergencyStop : Bool} {controlFault : Option String}
  {deviceStatus : Option DeviceStatusSnapshot}

-- The status may only be missing where the configuration does not ask for one.
structure StatusPermits (safety : SafetyConfig) (now : Instant) (deviceStatus : Option DeviceStatusSnapshot) : Prop where
  present : safety.control.requireDeviceStatusForControl = true → deviceStatus.isSome
  healthy : ∀ status ∈ deviceStatus, StatusHealthy now safety.control.sensorTimeoutMs status

theorem deviceStatusBlock_none :
    deviceStatusBlock safety now deviceStatus = none ↔ StatusPermits safety now deviceStatus := by
  cases deviceStatus with
  | none =>
      simp only [deviceStatusBlock]
      constructor
      · intro permitted
        constructor
        · intro required
          simp [required] at permitted
        · intro status listed
          cases listed
      · intro permitted
        cases required : safety.control.requireDeviceStatusForControl
        · rfl
        · cases permitted.present required
  | some status =>
      simp only [deviceStatusBlock]
      constructor
      · intro permitted
        cases field : deviceStatusFieldFaultReason now status safety.control.sensorTimeoutMs with
        | some reason => simp [field] at permitted
        | none =>
            cases command : downstreamCommandFaultReason status with
            | some reason => simp [field,command] at permitted
            | none =>
                obtain ⟨connected,frame,seen⟩ := fieldFault_none.mp field
                constructor
                · intro _
                  rfl
                · intro reported listed
                  cases listed
                  exact ⟨connected,frame,seen,commandFault_none.mp command⟩
      · intro permitted
        obtain ⟨connected,frame,seen,command⟩ := permitted.healthy status rfl
        rw [fieldFault_none.mpr ⟨connected,frame,seen⟩,commandFault_none.mpr command]
        rfl

-- What has to hold before anything is written: no latch, a status that may be trusted and a
-- sample of the time being.
structure ControlPermitted (safety : SafetyConfig) (now : Instant) (sample : Option SensorSnapshot)
    (autoEnabled manualLock emergencyStop : Bool) (controlFault : Option String)
    (deviceStatus : Option DeviceStatusSnapshot) (current : SensorSnapshot) : Prop where
  running : emergencyStop = false
  unlocked : manualLock = false
  faultless : controlFault = none
  auto : autoEnabled = true
  status : StatusPermits safety now deviceStatus
  sampled : sample = some current
  fresh : Fresh now current.capturedAt safety.control.sensorTimeoutMs

def steppedTemperature (safety : SafetyConfig) (current : SensorSnapshot) (targets : ControlTargets) : ℚ :=
  clampStep current.temperatureC targets.temperatureC safety.temperature.minC safety.temperature.maxC
    safety.temperature.maxStepC

def steppedStirrer (safety : SafetyConfig) (current : SensorSnapshot) (targets : ControlTargets) : ℚ :=
  clampStep current.stirrerRpm targets.stirrerRpm safety.stirrer.minRpm safety.stirrer.maxRpm
    safety.stirrer.maxStepRpm

def steppedCommand (safety : SafetyConfig) (current : SensorSnapshot) (targets : ControlTargets) : SafeCommand where
  targetTemperatureC := round2 (steppedTemperature safety current targets)
  heatTimeS := round2 targets.heatTimeS
  holdTimeS := round2 targets.holdTimeS
  coolTimeS := round2 targets.coolTimeS
  targetStirrerRpm := round2 (steppedStirrer safety current targets)
  targetShakeSpeedCpm := round2 targets.shakeSpeedCpm
  targetPressureMpa := round2 targets.targetPressureMpa
  reason := "auto control within configured safety limits"

theorem decideControl_write {command : SafeCommand} :
    decideControlWithDeviceStatus safety now sample targets autoEnabled manualLock emergencyStop controlFault
        deviceStatus = .write command ↔
      ∃ current, ControlPermitted safety now sample autoEnabled manualLock emergencyStop controlFault deviceStatus
          current ∧
        isForbiddenControlZone safety (steppedTemperature safety current targets)
          (steppedStirrer safety current targets) = false ∧
        command = steppedCommand safety current targets := by
  constructor
  · intro decided
    obtain ⟨rfl,rfl,rfl,rfl⟩ := write_allowed decided
    unfold decideControlWithDeviceStatus at decided
    simp only [Bool.false_eq_true,if_false,Option.isSome_none,Bool.not_true] at decided
    split at decided
    · cases decided
    · rename_i status
      split at decided
      · cases decided
      · rename_i current
        split at decided
        · cases decided
        · rename_i fresh
          rw [Bool.not_eq_true,Bool.not_eq_false',timestampIsFresh_iff] at fresh
          split at decided
          · cases decided
          · rename_i clear
            cases decided
            refine ⟨current,⟨rfl,rfl,rfl,rfl,deviceStatusBlock_none.mp status,rfl,fresh⟩,?_,rfl⟩
            exact Bool.not_eq_true _ |>.mp clear
  · intro reached
    rcases reached with ⟨current,⟨rfl,rfl,rfl,rfl,status,rfl,fresh⟩,clear,rfl⟩
    have allowed := deviceStatusBlock_none.mpr status
    unfold steppedTemperature steppedStirrer at clear
    simp only [decideControlWithDeviceStatus,Bool.false_eq_true,if_false,Option.isSome_none,Bool.not_true,allowed,
      timestampIsFresh_iff.mpr fresh,clear]
    rfl

theorem limiter_envelope {command : SafeCommand} (accepted : validateSafetyConfig safety = .ok ())
    (decided : decideControlWithDeviceStatus safety now sample targets autoEnabled manualLock emergencyStop
      controlFault deviceStatus = .write command) :
    ∃ current, ControlPermitted safety now sample autoEnabled manualLock emergencyStop controlFault deviceStatus
        current ∧
      AxisEnvelope safety.temperature.minC safety.temperature.maxC safety.temperature.maxStepC
        current.temperatureC targets.temperatureC command.targetTemperatureC ∧
      AxisEnvelope safety.stirrer.minRpm safety.stirrer.maxRpm safety.stirrer.maxStepRpm
        current.stirrerRpm targets.stirrerRpm command.targetStirrerRpm := by
  obtain ⟨temperature,stirrer⟩ := validateSafetyConfig_limits accepted
  obtain ⟨current,permitted,_,rfl⟩ := decideControl_write.mp decided
  exact ⟨current,permitted,axisEnvelope_rounded temperature,axisEnvelope_rounded stirrer⟩

-- The pair that the step comes to, by the inputs alone.
def nearestTemperature (safety : SafetyConfig) (current : SensorSnapshot) (targets : ControlTargets) : ℚ :=
  nearestInReach current.temperatureC targets.temperatureC safety.temperature.minC safety.temperature.maxC
    safety.temperature.maxStepC

def nearestStirrer (safety : SafetyConfig) (current : SensorSnapshot) (targets : ControlTargets) : ℚ :=
  nearestInReach current.stirrerRpm targets.stirrerRpm safety.stirrer.minRpm safety.stirrer.maxRpm
    safety.stirrer.maxStepRpm

-- A pair outside all zones that the rounding to hundredths takes into one of them.
def RoundsIntoZone (safety : SafetyConfig) (temperatureC stirrerRpm : ℚ) : Prop :=
  isForbiddenControlZone safety temperatureC stirrerRpm = false ∧ ¬RoundsClear safety temperatureC stirrerRpm

theorem writes_clear_iff (accepted : validateSafetyConfig safety = .ok ()) :
    (∀ command, decideControlWithDeviceStatus safety now sample targets autoEnabled manualLock emergencyStop
        controlFault deviceStatus = .write command →
      isForbiddenControlZone safety command.targetTemperatureC command.targetStirrerRpm = false) ↔
    ∀ current, ControlPermitted safety now sample autoEnabled manualLock emergencyStop controlFault deviceStatus
        current →
      ¬RoundsIntoZone safety (nearestTemperature safety current targets) (nearestStirrer safety current targets) := by
  obtain ⟨temperature,stirrer⟩ := validateSafetyConfig_limits accepted
  have warm (current : SensorSnapshot) :
      steppedTemperature safety current targets = nearestTemperature safety current targets :=
    clampStep_reach temperature
  have stirred (current : SensorSnapshot) :
      steppedStirrer safety current targets = nearestStirrer safety current targets := clampStep_reach stirrer
  constructor
  · intro outside current permitted ⟨clear,rounds⟩
    rw [← warm,← stirred] at clear rounds
    have written := outside _ (decideControl_write.mpr ⟨current,permitted,clear,rfl⟩)
    exact rounds (roundsClear_iff.mpr written)
  · intro spared command decided
    obtain ⟨current,permitted,clear,rfl⟩ := decideControl_write.mp decided
    by_contra inside
    apply spared current permitted
    rw [← warm,← stirred]
    refine ⟨clear,?_⟩
    intro rounds
    exact inside (roundsClear_iff.mp rounds)

end

-- A reactor at a point within the shipped limits.
def benchReading (temperatureC stirrerRpm : ℚ) : SensorSnapshot :=
  ⟨temperatureC,1/2,stirrerRpm,30,0,0,1,10,7,0⟩

def benchTargets (temperatureC stirrerRpm : ℚ) : ControlTargets := ⟨temperatureC,300,600,180,stirrerRpm,30,1/2⟩

def benchStatus : DeviceStatusSnapshot := ⟨true,some 0,true,some 1,none,none,none⟩

def benchDecision (reading : SensorSnapshot) (targets : ControlTargets) : ControlDecision :=
  decideControlWithDeviceStatus SafetyConfig.shipped 0 (some reading) targets true false false none (some benchStatus)

theorem shipped_accepted : validateSafetyConfig SafetyConfig.shipped = .ok () := by
  decide +kernel

theorem limiter_envelope_warming :
    ∃ command, benchDecision (benchReading 50 300) (benchTargets 60 300) = .write command ∧
      AxisEnvelope 20 160 2 50 60 command.targetTemperatureC := by
  have decided : benchDecision (benchReading 50 300) (benchTargets 60 300) =
      .write (steppedCommand SafetyConfig.shipped (benchReading 50 300) (benchTargets 60 300)) := by
    decide +kernel
  obtain ⟨current,permitted,temperature,_⟩ := limiter_envelope shipped_accepted decided
  cases permitted.sampled
  exact ⟨_,decided,temperature⟩

theorem writes_clear_iff_warming : validateSafetyConfig SafetyConfig.shipped = .ok () ∧
    ∀ command, benchDecision (benchReading 50 300) (benchTargets 60 300) = .write command →
      isForbiddenControlZone SafetyConfig.shipped command.targetTemperatureC command.targetStirrerRpm = false := by
  refine ⟨shipped_accepted,?_⟩
  apply (writes_clear_iff shipped_accepted).mpr
  intro current permitted ⟨_,rounds⟩
  cases permitted.sampled
  apply rounds
  rw [roundsClear_iff]
  decide +kernel

-- The step to 124.996 °C stays below the zone, the 125 °C that is written does not.
theorem step_written_into_zone :
    validateSafetyConfig SafetyConfig.shipped = .ok () ∧
      ∃ command, benchDecision (benchReading (122996/1000) 300) (benchTargets 150 400) = .write command ∧
        isForbiddenControlZone SafetyConfig.shipped command.targetTemperatureC command.targetStirrerRpm = true := by
  refine ⟨by decide +kernel,
    steppedCommand SafetyConfig.shipped (benchReading (122996/1000) 300) (benchTargets 150 400),?_,?_⟩
  · decide +kernel
  · decide +kernel

end ReactorOS
