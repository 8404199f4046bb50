import ReactorOS.ProcessSteps
namespace ReactorOS
variable {safety : SafetyConfig} {processId : Int}

-- What the start asks of each step on its own.
structure StepAllowed (safety : SafetyConfig) (step : ProcessStep) : Prop where
  temperature : (0 ≤ step.targetTemperatureC ∧ step.targetTemperatureC ≤ 500) ∧ step.targetTemperatureC ≤ safety.temperature.maxC
  rampRate : -20 ≤ step.rampRateCMin ∧ step.rampRateCMin ≤ 20
  duration : 1 ≤ step.durationMinutes ∧
    step.durationMinutes ≤ max safety.optimizer.maxStirringMinutes safety.optimizer.maxHeatingMinutes
  stirrer : (0 ≤ step.targetStirrerRpm ∧ step.targetStirrerRpm ≤ 2000) ∧ step.targetStirrerRpm ≤ safety.stirrer.maxRpm
  shakeSpeed : 0 ≤ step.targetShakeSpeedCpm ∧ step.targetShakeSpeedCpm ≤ 60
  pressure : 0 ≤ step.targetPressureMpa ∧ step.targetPressureMpa ≤ 10
  clear : isForbiddenControlZone safety step.targetTemperatureC step.targetStirrerRpm = false

theorem validatePersistedProcessStep_iff {step : ProcessStep} :
    validatePersistedProcessStep safety step = .ok () ↔ StepAllowed safety step := by
  unfold validatePersistedProcessStep
  simp only [accepted_check,labelled_ok,validateTargetTemperature_ok,validateStirSpeed_ok,validateTargetPairAllowed_ok,
    validateRange_ok]
  constructor
  · intro checked
    obtain ⟨temperature,rampRate,duration,stirrer,shakeSpeed,pressure,clear⟩ := checked
    exact ⟨temperature,rampRate,duration,stirrer,shakeSpeed,pressure,clear⟩
  · intro allowed
    exact ⟨allowed.temperature,allowed.rampRate,allowed.duration,allowed.stirrer,allowed.shakeSpeed,allowed.pressure,
      allowed.clear⟩

theorem each_step_iff {steps : List ProcessStep} :
    forIn steps PUnit.unit (fun step _ => do
      validatePersistedProcessStep safety step
      pure (.yield PUnit.unit)) = (.ok ⟨⟩ : Except AppError PUnit) ↔ ∀ step ∈ steps, StepAllowed safety step := by
  induction steps with
  | nil => exact iff_of_true rfl (List.forall_mem_nil _)
  | cons step rest ih =>
      simp only [List.forIn_cons,bind_assoc,accepted_check,pure_bind,List.forall_mem_cons]
      rw [validatePersistedProcessStep_iff,ih]

-- What the start asks of the steps together: the first heats, the second holds, and the last of more than two cools.
structure RolesFit (safety : SafetyConfig) (first : ProcessStep) (rest : List ProcessStep) : Prop where
  heating : first.durationMinutes ≤ safety.optimizer.maxHeatingMinutes
  stirring : (rest.headD first).durationMinutes ≤ safety.optimizer.maxStirringMinutes
  cooling : 1 < rest.length → (rest.getLastD first).durationMinutes ≤ 60
  mixed : isForbiddenControlZone safety (round2 first.targetTemperatureC) (round2 (rest.headD first).targetStirrerRpm) = false

theorem head_mem (first : ProcessStep) (rest : List ProcessStep) : rest.headD first ∈ first :: rest := by
  cases rest with
  | nil => exact List.mem_cons_self
  | cons second others => exact List.mem_cons_of_mem _ List.mem_cons_self

theorem last_mem (first : ProcessStep) (rest : List ProcessStep) : rest.getLastD first ∈ first :: rest := by
  rw [List.getLastD_eq_getLast?]
  cases found : rest.getLast? with
  | none => exact List.mem_cons_self
  | some last => exact List.mem_cons_of_mem _ (List.mem_of_getLast? found)

theorem targetsFromProcessSteps_iff {first : ProcessStep} {rest : List ProcessStep} :
    (∃ targets, targetsFromProcessSteps safety (first :: rest) = .ok targets) ↔
      (∀ step ∈ first :: rest, StepAllowed safety step) ∧ RolesFit safety first rest := by
  unfold targetsFromProcessSteps
  simp only [accepted_check,each_step_iff,exists_and_left]
  apply and_congr_right
  intro allowed
  have heats := (allowed first List.mem_cons_self).duration.1
  have holds := (allowed _ (head_mem first rest)).duration.1
  have cools := (allowed _ (last_mem first rest)).duration.1
  by_cases long : 2 < (first :: rest).length
  · simp only [if_pos long,accepted_bind,processStepDurationSeconds_ok,accepted_pure]
    constructor
    · intro found
      obtain ⟨_,heat,⟨heating,_⟩,hold,⟨holding,_⟩,cool,⟨cooling,_⟩,⟨⟩,clear,_⟩ := found
      have mixed := ensureTargetsAllowed_ok.mp clear
      exact ⟨heating.2,holding.2,fun _ => cooling.2,mixed⟩
    · intro fits
      have cooling := fits.cooling (Nat.lt_of_succ_lt_succ long)
      exact ⟨_,_,⟨⟨heats,fits.heating⟩,rfl⟩,_,⟨⟨holds,fits.stirring⟩,rfl⟩,_,⟨⟨cools,cooling⟩,rfl⟩,(),ensureTargetsAllowed_ok.mpr fits.mixed,rfl⟩
  · simp only [if_neg long,accepted_bind,processStepDurationSeconds_ok,accepted_pure]
    constructor
    · intro found
      obtain ⟨_,heat,⟨heating,_⟩,hold,⟨holding,_⟩,_,_,⟨⟩,clear,_⟩ := found
      have mixed := ensureTargetsAllowed_ok.mp clear
      exact ⟨heating.2,holding.2,fun more => absurd (Nat.succ_lt_succ more) long,mixed⟩
    · intro fits
      exact ⟨_,_,⟨⟨heats,fits.heating⟩,rfl⟩,_,⟨⟨holds,fits.stirring⟩,rfl⟩,180,rfl,(),ensureTargetsAllowed_ok.mpr fits.mixed,rfl⟩

-- What the rounding of an accepted step could still have spoiled.
structure KeptByRounding (safety : SafetyConfig) (step : NewProcessStep) : Prop where
  temperature : step.targetTemperatureC ≤ safety.temperature.maxC
  stirrer : step.targetStirrerRpm ≤ safety.stirrer.maxRpm
  duration : step.durationMinutes ≤ max safety.optimizer.maxStirringMinutes safety.optimizer.maxHeatingMinutes
  clear : isForbiddenControlZone safety step.targetTemperatureC step.targetStirrerRpm = false

theorem NewProcessStep.validate_ok {step : NewProcessStep} (accepted : step.validate = .ok ()) :
    targetTemperatureCRange.Holds step.targetTemperatureC ∧ processRampRateCMinRange.Holds step.rampRateCMin ∧
    processDurationMinutesRange.Holds step.durationMinutes ∧ targetStirrerRpmRange.Holds step.targetStirrerRpm ∧
    processShakeSpeedCpmRange.Holds step.targetShakeSpeedCpm ∧ processPressureMpaRange.Holds step.targetPressureMpa := by
  obtain ⟨_,temperature,accepted⟩ := Wire.bind_ok accepted
  obtain ⟨_,rampRate,accepted⟩ := Wire.bind_ok accepted
  obtain ⟨_,duration,accepted⟩ := Wire.bind_ok accepted
  obtain ⟨_,stirrer,accepted⟩ := Wire.bind_ok accepted
  obtain ⟨_,shakeSpeed,pressure⟩ := Wire.bind_ok accepted
  exact ⟨SensorRange.validate_ok.mp temperature,SensorRange.validate_ok.mp rampRate,SensorRange.validate_ok.mp duration,
    SensorRange.validate_ok.mp stirrer,SensorRange.validate_ok.mp shakeSpeed,SensorRange.validate_ok.mp pressure⟩

-- The editor has looked at the numbers that were sent, and passes their roundings on.
theorem validateProcessStep_ok {payload : ProcessStepRequest} {step : NewProcessStep}
    (accepted : validateProcessStep safety payload = .ok step) :
    (payload.targetTemperatureC ≤ safety.temperature.maxC ∧ payload.targetStirrerRpm ≤ safety.stirrer.maxRpm ∧
      payload.durationMinutes ≤ max safety.optimizer.maxStirringMinutes safety.optimizer.maxHeatingMinutes ∧
      isForbiddenControlZone safety payload.targetTemperatureC payload.targetStirrerRpm = false) ∧
    step.targetTemperatureC = round2 payload.targetTemperatureC ∧
    step.targetStirrerRpm = round2 payload.targetStirrerRpm ∧ step.durationMinutes = round2 payload.durationMinutes := by
  unfold validateProcessStep at accepted
  simp only [accepted_bind] at accepted
  obtain ⟨⟨⟩,temperature,_,_,⟨⟩,_,⟨⟩,duration,⟨⟩,stirrer,⟨⟩,clear,_,_,⟨⟩,_,_,_,⟨⟩,_,built⟩ := accepted
  rw [accepted_pure] at built
  rw [built]
  exact ⟨⟨(validateTargetTemperature_ok.mp temperature).2,(validateStirSpeed_ok.mp stirrer).2,(validateRange_ok.mp duration).2,
    validateTargetPairAllowed_ok.mp clear⟩,rfl,rfl,rfl⟩

-- A step whose numbers are hundredths is stored as it was sent.
theorem hundredths_kept {payload : ProcessStepRequest} {step : NewProcessStep}
    (accepted : validateProcessStep safety payload = .ok step)
    (temperature : round2 payload.targetTemperatureC = payload.targetTemperatureC)
    (stirrer : round2 payload.targetStirrerRpm = payload.targetStirrerRpm)
    (duration : round2 payload.durationMinutes = payload.durationMinutes) : KeptByRounding safety step := by
  obtain ⟨⟨hot,fast,long,clear⟩,sameTemperature,sameStirrer,sameDuration⟩ := validateProcessStep_ok accepted
  rw [temperature] at sameTemperature
  rw [stirrer] at sameStirrer
  rw [duration] at sameDuration
  rw [← sameTemperature] at hot clear
  rw [← sameStirrer] at fast clear
  rw [← sameDuration] at long
  exact ⟨hot,fast,long,clear⟩

-- The start looks at an accepted step again, and finds nothing new but what the rounding has done.
theorem admitted_allowed_iff {row : ProcessStepRow} (admitted : Admitted safety row.step) :
    StepAllowed safety row.toProcessStep ↔ KeptByRounding safety row.step := by
  obtain ⟨temperature,rampRate,duration,stirrer,shakeSpeed,pressure⟩ := NewProcessStep.validate_ok admitted.2
  constructor
  · intro allowed
    exact ⟨allowed.temperature.2,allowed.stirrer.2,allowed.duration.2,allowed.clear⟩
  · intro kept
    exact ⟨⟨temperature,kept.temperature⟩,rampRate,⟨duration.1,kept.duration⟩,⟨stirrer,kept.stirrer⟩,shakeSpeed,pressure,
      kept.clear⟩

namespace StepTable
variable {table : StepTable} {first : ProcessStepRow} {rest : List ProcessStepRow}

-- A process of accepted steps can be started just when the rounding has spoiled none of them and their roles fit.
theorem accepted_steps_start_iff (stored : table.processSteps processId = .ok (first :: rest))
    (admitted : ∀ row ∈ table.rows, row.processId = processId → Admitted safety row.step) :
    (∃ targets, targetsFromProcessSteps safety ((first :: rest).map ProcessStepRow.toProcessStep) = .ok targets) ↔
      (∀ row ∈ first :: rest, KeptByRounding safety row.step) ∧
        RolesFit safety first.toProcessStep (rest.map ProcessStepRow.toProcessStep) := by
  have read : table.ofProcess processId = first :: rest := Except.ok.inj ((admitted_reads admitted).symm.trans stored)
  rw [List.map_cons,targetsFromProcessSteps_iff,← List.map_cons,List.forall_mem_map]
  apply and_congr_left
  intro _
  apply forall₂_congr
  intro row listed
  obtain ⟨held,same⟩ := mem_ofProcess.mp (read ▸ listed)
  exact admitted_allowed_iff (admitted row held same)

-- A step of an hour and a half.
def warmStep : ProcessStepRequest := {targetTemperatureC := 80, durationMinutes := 90, targetStirrerRpm := 300}
def warmSteps (count : Nat) : StepTable :=
  (StepEdit.created 1 :: List.replicate count (.added 1 warmStep (.ok ()))).foldl (edit .shipped) empty
def warm : NewProcessStep := ⟨"新步骤",80,0,90,300,30,1/2,"自然"⟩
def storedWarm (n : Nat) : ProcessStepRow := ⟨n,1,n,warm⟩

theorem warmSteps_admitted (count : Nat) : ∀ row ∈ (warmSteps count).rows, Admitted SafetyConfig.shipped row.step :=
  edits_admitted _

theorem warm_kept : KeptByRounding SafetyConfig.shipped warm :=
  ⟨by decide +kernel,by decide +kernel,by decide +kernel,by decide +kernel⟩

-- Two of them can be started.
theorem accepted_steps_start_iff_warm : ∃ targets, targetsFromProcessSteps SafetyConfig.shipped
    ([storedWarm 1,storedWarm 2].map ProcessStepRow.toProcessStep) = .ok targets := by
  have stored : (warmSteps 2).processSteps 1 = .ok [storedWarm 1,storedWarm 2] := by decide +kernel
  apply (accepted_steps_start_iff stored (fun row member _ => warmSteps_admitted 2 row member)).mpr
  refine ⟨?_,by decide +kernel,by decide +kernel,by decide,by decide +kernel⟩
  exact List.forall_mem_cons.mpr ⟨warm_kept,List.forall_mem_singleton.mpr warm_kept⟩

-- A step just above the speeds that are forbidden at its temperature.
def hotStep : ProcessStepRequest := {targetTemperatureC := 130, durationMinutes := 30, targetStirrerRpm := 350004/1000}
def hotSteps : StepTable := [.created 1,.added 1 hotStep (.ok ())].foldl (edit .shipped) empty
def storedHot : ProcessStepRow := ⟨1,1,1,⟨"新步骤",130,0,30,350,30,1/2,"自然"⟩⟩

-- The editor has taken it and stored 350 rpm, which the start forbids. The editor has also
-- taken a third of the warm steps, and the start has no more than an hour for the cooling.
theorem accepted_steps_refused : validateSafetyConfig SafetyConfig.shipped = .ok () ∧
    ((∀ row ∈ hotSteps.rows, Admitted SafetyConfig.shipped row.step) ∧ hotSteps.processSteps 1 = .ok [storedHot] ∧
      targetsFromProcessSteps SafetyConfig.shipped ([storedHot].map ProcessStepRow.toProcessStep) =
        .error (.forbidden ("process step 1 target pair: target pair temp=130.0 degC rpm=350.0 enters forbidden " ++
          "control zone hot-low-stir: High temperature with weak mixing is blocked at the control layer."))) ∧
    (∀ row ∈ (warmSteps 3).rows, Admitted SafetyConfig.shipped row.step) ∧
    (warmSteps 3).processSteps 1 = .ok [storedWarm 1,storedWarm 2,storedWarm 3] ∧
    targetsFromProcessSteps SafetyConfig.shipped ([storedWarm 1,storedWarm 2,storedWarm 3].map ProcessStepRow.toProcessStep) =
      .error (.badRequest "process step 3 cooling_duration_minutes must be between 1 and 60") := by
  refine ⟨by decide +kernel,⟨edits_admitted _,by decide +kernel,?_⟩,warmSteps_admitted 3,by decide +kernel,?_⟩
  · decide +kernel
  · decide +kernel

end StepTable
end ReactorOS
