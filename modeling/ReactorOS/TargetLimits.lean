import ReactorOS.Ai
import ReactorOS.Modbus
import ReactorOS.Integration
import ReactorOS.Rounding
import ReactorOS.Wire.Fields
namespace ReactorOS
variable {safety : SafetyConfig} {α β : Type}

theorem accepted_bind {first : Except AppError α} {next : α → Except AppError β} {result : β} :
    first >>= next = .ok result ↔ ∃ value, first = .ok value ∧ next value = .ok result := by
  cases first with
  | error err =>
      constructor
      · intro done
        cases done
      · intro found
        obtain ⟨value,returned,_⟩ := found
        cases returned
  | ok value =>
      constructor
      · intro done
        exact ⟨value,rfl,done⟩
      · intro found
        obtain ⟨other,returned,done⟩ := found
        cases returned
        exact done

theorem accepted_check {first : Except AppError Unit} {next : Unit → Except AppError β} {result : β} :
    first >>= next = .ok result ↔ first = .ok () ∧ next () = .ok result := by
  rw [accepted_bind]
  constructor
  · intro found
    obtain ⟨_,returned,done⟩ := found
    exact ⟨returned,done⟩
  · intro found
    exact ⟨(),found.1,found.2⟩

@[simp] theorem accepted_pure {value result : α} : (pure value : Except AppError α) = .ok result ↔ result = value := by
  constructor
  · intro same
    cases same
    rfl
  · intro same
    rw [same]
    rfl

@[simp] theorem accepted_throw {err : AppError} {result : α} : ¬(throw err : Except AppError α) = .ok result := by
  intro same
  cases same

-- A refusal that stands before the rest.
theorem accepted_unless {refused : Prop} [Decidable refused] {err : AppError} {rest : Except AppError β} {result : β}
    (accepted : (if refused then (throw err : Except AppError α) >>= fun _ => rest else rest) = .ok result) :
    rest = .ok result := by
  by_cases refuses : refused
  · rw [if_pos refuses] at accepted
    cases accepted
  · rw [if_neg refuses] at accepted
    exact accepted

@[simp] theorem validateRange_ok {field : String} {value min max : ℚ} :
    validateRange field value min max = .ok () ↔ min ≤ value ∧ value ≤ max := by
  unfold validateRange
  by_cases outside : value < min ∨ max < value
  · rw [if_pos outside]
    constructor
    · intro same
      cases same
    · intro within
      rcases outside with low | high
      · exact absurd within.1 (not_le.mpr low)
      · exact absurd within.2 (not_le.mpr high)
  · rw [if_neg outside]
    simp only [not_or,not_lt] at outside
    simp [outside]

@[simp] theorem validateTargetTemperature_ok {value : ℚ} :
    validateTargetTemperature safety value = .ok () ↔ (0 ≤ value ∧ value ≤ 500) ∧ value ≤ safety.temperature.maxC := by
  unfold validateTargetTemperature
  rw [accepted_check,validateRange_ok]
  by_cases above : safety.temperature.maxC < value
  · simp [above]
  · rw [if_neg above]
    simp [not_lt.mp above]

@[simp] theorem validateStirSpeed_ok {value : ℚ} :
    validateStirSpeed safety value = .ok () ↔ (0 ≤ value ∧ value ≤ 2000) ∧ value ≤ safety.stirrer.maxRpm := by
  unfold validateStirSpeed
  rw [accepted_check,validateRange_ok]
  by_cases above : safety.stirrer.maxRpm < value
  · simp [above]
  · rw [if_neg above]
    simp [not_lt.mp above]

@[simp] theorem validateTargetPairAllowed_ok {temperatureC stirrerRpm : ℚ} :
    validateTargetPairAllowed safety temperatureC stirrerRpm = .ok () ↔
      isForbiddenControlZone safety temperatureC stirrerRpm = false := by
  unfold validateTargetPairAllowed forbiddenControlZone isForbiddenControlZone
  cases found : safety.forbiddenControlZones.find? fun zone => zone.contains temperatureC stirrerRpm with
  | none => simpa using found
  | some zone =>
      have inside := List.find?_some found
      have member := List.mem_of_find?_eq_some found
      constructor
      · intro same
        cases same
      · intro clear
        rw [List.any_eq_false] at clear
        exact absurd inside (clear zone member)

@[simp] theorem ensureTargetsAllowed_ok {targets : ControlTargets} : ensureTargetsAllowed safety targets = .ok () ↔
    isForbiddenControlZone safety targets.temperatureC targets.stirrerRpm = false := validateTargetPairAllowed_ok

@[simp] theorem labelled_ok {label : String} {checked : Except AppError Unit} :
    labelled label checked = .ok () ↔ checked = .ok () := by
  cases checked with
  | error err => constructor <;> intro same <;> cases same
  | ok _ => exact Iff.rfl

-- A field that is taken is the one that was sent.
theorem optionalPresent_ok {value : Option (Option α)} {field : String} {found : Option α}
    (taken : optionalPresent value field = .ok found) : value.join = found := by
  unfold optionalPresent at taken
  split at taken <;> cases taken <;> rfl

-- What every full target set is held to; the times have limits of their own at each entry.
structure WithinLimits (safety : SafetyConfig) (heatMax holdMax : ℚ) (targets : ControlTargets) : Prop where
  temperature : (0 ≤ targets.temperatureC ∧ targets.temperatureC ≤ 500) ∧ targets.temperatureC ≤ safety.temperature.maxC
  stirrer : (0 ≤ targets.stirrerRpm ∧ targets.stirrerRpm ≤ 2000) ∧ targets.stirrerRpm ≤ safety.stirrer.maxRpm
  shakeSpeed : 0 ≤ targets.shakeSpeedCpm ∧ targets.shakeSpeedCpm ≤ 60
  targetPressure : 0 ≤ targets.targetPressureMpa ∧ targets.targetPressureMpa ≤ 10
  heatTime : 0 ≤ targets.heatTimeS ∧ targets.heatTimeS ≤ heatMax
  holdTime : 0 ≤ targets.holdTimeS ∧ targets.holdTimeS ≤ holdMax
  coolTime : 0 ≤ targets.coolTimeS ∧ targets.coolTimeS ≤ 3600

abbrev WithinOptimizer (safety : SafetyConfig) : ControlTargets → Prop :=
  WithinLimits safety (safety.optimizer.maxHeatingMinutes*60) (safety.optimizer.maxStirringMinutes*60)

theorem validateTargetSet_ok {temperatureLabel stirrerLabel shakeField : String} {heatMax holdMax : ℚ}
    {targets accepted : ControlTargets} :
    validateTargetSet safety temperatureLabel stirrerLabel shakeField heatMax holdMax targets = .ok accepted ↔
      WithinLimits safety heatMax holdMax targets ∧ accepted = targets.round2 := by
  unfold validateTargetSet
  simp only [accepted_check,labelled_ok,validateTargetTemperature_ok,validateStirSpeed_ok,validateRange_ok,accepted_pure]
  constructor
  · intro checked
    obtain ⟨temperature,stirrer,shake,pressure,heat,hold,cool,same⟩ := checked
    exact ⟨⟨temperature,stirrer,shake,pressure,heat,hold,cool⟩,same⟩
  · intro found
    obtain ⟨⟨temperature,stirrer,shake,pressure,heat,hold,cool⟩,same⟩ := found
    exact ⟨temperature,stirrer,shake,pressure,heat,hold,cool,same⟩

theorem validateAiRecommendationTargets_ok {targets accepted : ControlTargets} :
    validateAiRecommendationTargets safety targets = .ok accepted ↔
      WithinOptimizer safety targets ∧ accepted = targets.round2 := by
  unfold validateAiRecommendationTargets
  simp only [accepted_check,labelled_ok,validateTargetTemperature_ok,validateStirSpeed_ok,validateRange_ok,accepted_pure]
  constructor
  · intro checked
    obtain ⟨temperature,stirrer,heat,hold,cool,shake,pressure,same⟩ := checked
    exact ⟨⟨temperature,stirrer,shake,pressure,heat,hold,cool⟩,same⟩
  · intro found
    obtain ⟨⟨temperature,stirrer,shake,pressure,heat,hold,cool⟩,same⟩ := found
    exact ⟨temperature,stirrer,heat,hold,cool,shake,pressure,same⟩

-- The batch start reads the times in minutes, and looks at the zones before the rounding.
theorem validateBatchStartTargets_ok {targets accepted : ControlTargets} :
    validateBatchStartTargets safety targets = .ok accepted ↔ WithinOptimizer safety targets ∧
      isForbiddenControlZone safety targets.temperatureC targets.stirrerRpm = false ∧ accepted = targets.round2 := by
  have minutes : ∀ seconds most : ℚ, (0 ≤ seconds/60 ∧ seconds/60 ≤ most) ↔ (0 ≤ seconds ∧ seconds ≤ most*60) := by
    intro seconds most
    constructor <;> intro bounds <;> obtain ⟨low,high⟩ := bounds <;> constructor <;> linarith
  unfold validateBatchStartTargets
  simp only [accepted_check,validateTargetTemperature_ok,validateStirSpeed_ok,validateTargetPairAllowed_ok,
    validateRange_ok,minutes,accepted_pure]
  constructor
  · intro checked
    obtain ⟨temperature,stirrer,clear,shake,heat,hold,cool,pressure,same⟩ := checked
    exact ⟨⟨temperature,stirrer,shake,pressure,heat,hold,cool⟩,clear,same⟩
  · intro found
    obtain ⟨⟨temperature,stirrer,shake,pressure,heat,hold,cool⟩,clear,same⟩ := found
    exact ⟨temperature,stirrer,clear,shake,heat,hold,cool,pressure,same⟩

-- A batch start takes what the request leaves open from the targets of the moment.
def StartBatchRequest.requested (payload : StartBatchRequest) (targets : ControlTargets) : ControlTargets where
  temperatureC := payload.targetTemperatureC.join.getD targets.temperatureC
  heatTimeS := payload.heatingMinutes.join.getD 60*60
  holdTimeS := payload.stirringMinutes.join.getD 60*60
  coolTimeS := targets.coolTimeS
  stirrerRpm := payload.targetStirrerRpm.join.getD targets.stirrerRpm
  shakeSpeedCpm := payload.targetShakeSpeedCpm.join.getD targets.shakeSpeedCpm
  targetPressureMpa := targets.targetPressureMpa

theorem startBatchTargets_ok {payload : StartBatchRequest} {targets : ControlTargets} {found : Option Int × ControlTargets}
    (accepted : startBatchTargets safety payload targets = .ok found) :
    WithinOptimizer safety (payload.requested targets) ∧
      isForbiddenControlZone safety (payload.requested targets).temperatureC (payload.requested targets).stirrerRpm = false ∧
      found.2 = (payload.requested targets).round2 := by
  unfold startBatchTargets at accepted
  simp only [accepted_bind] at accepted
  obtain ⟨temperature,temperatureSent,_,_,stirrer,stirrerSent,_,_,_,_,shake,shakeSent,_,_,heating,heatingSent,_,_,
    stirring,stirringSent,_,_,processId,_,applied,checked,same⟩ := accepted
  cases same
  have requested : payload.requested targets = {
      temperatureC := temperature.getD targets.temperatureC
      heatTimeS := heating.getD 60*60
      holdTimeS := stirring.getD 60*60
      coolTimeS := targets.coolTimeS
      stirrerRpm := stirrer.getD targets.stirrerRpm
      shakeSpeedCpm := shake.getD targets.shakeSpeedCpm
      targetPressureMpa := targets.targetPressureMpa } := by
    unfold StartBatchRequest.requested
    rw [optionalPresent_ok temperatureSent,optionalPresent_ok stirrerSent,optionalPresent_ok shakeSent,
      optionalPresent_ok heatingSent,optionalPresent_ok stirringSent]
  rw [requested]
  exact validateBatchStartTargets_ok.mp checked

def V1ControlParams.requested (params : V1ControlParams) : ControlTargets where
  temperatureC := params.targetTemp.join.getD 120
  heatTimeS := params.heatTime.join.getD 300
  holdTimeS := params.holdTime.join.getD 600
  coolTimeS := params.coolTime.join.getD 180
  stirrerRpm := params.stirSpeed.join.getD 800
  shakeSpeedCpm := params.shakeSpeed.join.getD 30
  targetPressureMpa := params.targetPressure.join.getD (1/2)

theorem validateV1ControlParams_ok {params : V1ControlParams} {runningState : Bool} {found : ControlTargets}
    (accepted : validateV1ControlParams safety params runningState = .ok found) :
    WithinOptimizer safety params.requested ∧
      isForbiddenControlZone safety params.requested.temperatureC params.requested.stirrerRpm = false ∧
      found = params.requested.round2 := by
  unfold validateV1ControlParams at accepted
  simp only [accepted_bind] at accepted
  obtain ⟨heat,heatSent,hold,holdSent,cool,coolSent,stir,stirSent,shake,shakeSent,temp,tempSent,pressure,pressureSent,
    rest⟩ := accepted
  have requested : params.requested = {
      temperatureC := temp.getD 120
      heatTimeS := heat.getD 300
      holdTimeS := hold.getD 600
      coolTimeS := cool.getD 180
      stirrerRpm := stir.getD 800
      shakeSpeedCpm := shake.getD 30
      targetPressureMpa := pressure.getD (1/2) } := by
    unfold V1ControlParams.requested
    rw [optionalPresent_ok heatSent,optionalPresent_ok holdSent,optionalPresent_ok coolSent,optionalPresent_ok stirSent,
      optionalPresent_ok shakeSent,optionalPresent_ok tempSent,optionalPresent_ok pressureSent]
  rw [requested]
  have checked := accepted_unless rest
  simp only [accepted_check,validateTargetTemperature_ok,validateStirSpeed_ok,validateTargetPairAllowed_ok,
    validateRange_ok] at checked
  obtain ⟨heats,holds,cools,stirs,shakes,temps,clear,presses,last⟩ := checked
  have same := accepted_unless last
  rw [accepted_pure] at same
  exact ⟨⟨temps,stirs,shakes,presses,heats,holds,cools⟩,clear,same⟩

-- A process starts with the temperature of its first step, and stirs as its second does.
def requestedBySteps (first : ProcessStep) (rest : List ProcessStep) : ControlTargets where
  temperatureC := first.targetTemperatureC
  heatTimeS := first.durationMinutes*60
  holdTimeS := (rest.headD first).durationMinutes*60
  coolTimeS := if 2 < (first :: rest).length then (rest.getLastD first).durationMinutes*60 else 180
  stirrerRpm := (rest.headD first).targetStirrerRpm
  shakeSpeedCpm := (rest.headD first).targetShakeSpeedCpm
  targetPressureMpa := (rest.headD first).targetPressureMpa

theorem validatePersistedProcessStep_ok {step : ProcessStep} (accepted : validatePersistedProcessStep safety step = .ok ()) :
    ((0 ≤ step.targetTemperatureC ∧ step.targetTemperatureC ≤ 500) ∧ step.targetTemperatureC ≤ safety.temperature.maxC) ∧
    ((0 ≤ step.targetStirrerRpm ∧ step.targetStirrerRpm ≤ 2000) ∧ step.targetStirrerRpm ≤ safety.stirrer.maxRpm) ∧
    (0 ≤ step.targetShakeSpeedCpm ∧ step.targetShakeSpeedCpm ≤ 60) ∧
    (0 ≤ step.targetPressureMpa ∧ step.targetPressureMpa ≤ 10) := by
  unfold validatePersistedProcessStep at accepted
  simp only [accepted_check,labelled_ok,validateTargetTemperature_ok,validateStirSpeed_ok,validateTargetPairAllowed_ok,
    validateRange_ok] at accepted
  obtain ⟨temperature,_,_,stirrer,shake,pressure,_⟩ := accepted
  exact ⟨temperature,stirrer,shake,pressure⟩

theorem each_step_ok {steps : List ProcessStep}
    (accepted : forIn steps PUnit.unit (fun step _ => do
      validatePersistedProcessStep safety step
      pure (.yield PUnit.unit)) = (.ok ⟨⟩ : Except AppError PUnit)) :
    ∀ step ∈ steps, validatePersistedProcessStep safety step = .ok () := by
  induction steps with
  | nil => simp
  | cons step rest ih =>
      simp only [List.forIn_cons,bind_assoc,accepted_check,pure_bind] at accepted
      exact List.forall_mem_cons.mpr ⟨accepted.1,ih accepted.2⟩

theorem processStepDurationSeconds_ok {step : ProcessStep} {role : String} {maxMinutes found : ℚ} :
    processStepDurationSeconds step role maxMinutes = .ok found ↔
      (1 ≤ step.durationMinutes ∧ step.durationMinutes ≤ maxMinutes) ∧ found = step.durationMinutes*60 := by
  unfold processStepDurationSeconds
  rw [accepted_check,validateRange_ok,accepted_pure]

theorem targetsFromProcessSteps_ok {steps : List ProcessStep} {found : ControlTargets}
    (accepted : targetsFromProcessSteps safety steps = .ok found) : ∃ first rest, steps = first :: rest ∧
      WithinOptimizer safety (requestedBySteps first rest) ∧ found = (requestedBySteps first rest).round2 ∧
      isForbiddenControlZone safety found.temperatureC found.stirrerRpm = false := by
  unfold targetsFromProcessSteps at accepted
  obtain ⟨looped,built⟩ := accepted_check.mp accepted
  have valid := each_step_ok looped
  cases steps with
  | nil => cases built
  | cons first rest =>
      simp only [accepted_bind,processStepDurationSeconds_ok] at built
      obtain ⟨heat,⟨heats,rfl⟩,hold,⟨holds,rfl⟩,built⟩ := built
      have cooled : ∃ cool, (0 ≤ cool ∧ cool ≤ 3600) ∧ (requestedBySteps first rest).coolTimeS = cool ∧
          (do
            ensureTargetsAllowed safety ({requestedBySteps first rest with coolTimeS := cool} : ControlTargets).round2
            pure ({requestedBySteps first rest with coolTimeS := cool} : ControlTargets).round2) = .ok found := by
        by_cases long : 2 < (first :: rest).length
        · rw [if_pos long,accepted_bind] at built
          obtain ⟨cool,lasts,built⟩ := built
          obtain ⟨bounds,rfl⟩ := processStepDurationSeconds_ok.mp lasts
          exact ⟨_,⟨by linarith,by linarith⟩,if_pos long,built⟩
        · rw [if_neg long] at built
          exact ⟨180,⟨by norm_num,by norm_num⟩,if_neg long,built⟩
      obtain ⟨cool,cools,same,built⟩ := cooled
      subst same
      obtain ⟨clear,built⟩ := accepted_check.mp built
      rw [accepted_pure] at built
      subst built
      have held : rest.headD first ∈ first :: rest := by
        cases rest with
        | nil => simp
        | cons second others => simp
      obtain ⟨temperature,_,_,_⟩ := validatePersistedProcessStep_ok (valid first List.mem_cons_self)
      obtain ⟨_,stirrer,shake,pressure⟩ := validatePersistedProcessStep_ok (valid _ held)
      refine ⟨first,rest,rfl,?_,rfl,ensureTargetsAllowed_ok.mp clear⟩
      exact ⟨temperature,stirrer,shake,pressure,⟨by simp only [requestedBySteps]; linarith,by simp only [requestedBySteps]; linarith⟩,
        ⟨by simp only [requestedBySteps]; linarith,by simp only [requestedBySteps]; linarith⟩,cools⟩

def Recommendation.requested (recommendation : Recommendation) (current : ControlTargets) : ControlTargets :=
  {current with
    temperatureC := recommendation.targetTemperatureC
    heatTimeS := recommendation.heatingMinutes*60
    holdTimeS := recommendation.stirringMinutes*60
    stirrerRpm := recommendation.targetStirrerRpm }

theorem aiTargetsFromRecommendation_ok {runtime : RuntimeState} {recommendation : Recommendation} {found : ControlTargets} :
    aiTargetsFromRecommendation safety runtime recommendation = .ok found ↔
      WithinOptimizer safety (recommendation.requested runtime.targets) ∧
        found = (recommendation.requested runtime.targets).round2 := validateAiRecommendationTargets_ok

-- What a component command asks of the whole set: it changes one field at the most.
def ComponentControlCommand.requested (command : ComponentControlCommand) (current : ControlTargets) : ControlTargets :=
  match command.componentId,command.action,command.value with
  | "temperature_controller","set_target_temperature",some (.number value) => {current with temperatureC := value}
  | "stirrer_motor","set_rpm",some (.number value) => {current with stirrerRpm := value}
  | "shake_stepper","set_speed",some (.number value) => {current with shakeSpeedCpm := value}
  | "shake_stepper","start",_ =>
      if current.shakeSpeedCpm ≤ 1/100 then {current with shakeSpeedCpm := 30} else current
  | "shake_stepper","stop",_ => {current with shakeSpeedCpm := 0}
  | _,_,_ => current

structure ComponentLimits (safety : SafetyConfig) (current requested : ControlTargets) : Prop where
  temperature : requested.temperatureC = current.temperatureC ∨
    safety.temperature.minC ≤ requested.temperatureC ∧ requested.temperatureC ≤ safety.temperature.maxC
  stirrer : requested.stirrerRpm = current.stirrerRpm ∨
    safety.stirrer.minRpm ≤ requested.stirrerRpm ∧ requested.stirrerRpm ≤ safety.stirrer.maxRpm
  shakeSpeed : requested.shakeSpeedCpm = current.shakeSpeedCpm ∨ 0 ≤ requested.shakeSpeedCpm ∧ requested.shakeSpeedCpm ≤ 60
  targetPressure : requested.targetPressureMpa = current.targetPressureMpa
  heatTime : requested.heatTimeS = current.heatTimeS
  holdTime : requested.holdTimeS = current.holdTimeS
  coolTime : requested.coolTimeS = current.coolTimeS

theorem componentLimits_refl (current : ControlTargets) : ComponentLimits safety current current :=
  ⟨.inl rfl,.inl rfl,.inl rfl,rfl,rfl,rfl,rfl⟩

theorem componentNumberInRange_ok {command : ComponentControlCommand} {field : String} {min max found : ℚ}
    (accepted : componentNumberInRange command field min max = .ok found) :
    command.value = some (.number found) ∧ min ≤ found ∧ found ≤ max := by
  unfold componentNumberInRange at accepted
  split at accepted
  · cases accepted
  · rename_i number given
    split at accepted
    · cases accepted
    · rename_i within
      cases accepted
      simp only [not_or,not_lt] at within
      exact ⟨given,within⟩
  · cases accepted

theorem targetsForComponent_ok {command : ComponentControlCommand} {current found : ControlTargets}
    (accepted : targetsForComponent command current safety = .ok found) :
    ComponentLimits safety current (command.requested current) ∧ found = (command.requested current).round2 := by
  unfold targetsForComponent at accepted
  unfold ComponentControlCommand.requested
  split at accepted
  · rename_i named acts
    obtain ⟨value,bounded,same⟩ := Wire.bind_ok accepted
    cases same
    obtain ⟨given,bounds⟩ := componentNumberInRange_ok bounded
    rw [named,acts,given]
    exact ⟨⟨.inr bounds,.inl rfl,.inl rfl,rfl,rfl,rfl,rfl⟩,rfl⟩
  · rename_i named acts
    obtain ⟨value,bounded,same⟩ := Wire.bind_ok accepted
    cases same
    obtain ⟨given,bounds⟩ := componentNumberInRange_ok bounded
    rw [named,acts,given]
    exact ⟨⟨.inl rfl,.inr bounds,.inl rfl,rfl,rfl,rfl,rfl⟩,rfl⟩
  · rename_i named acts
    obtain ⟨value,bounded,same⟩ := Wire.bind_ok accepted
    cases same
    obtain ⟨given,bounds⟩ := componentNumberInRange_ok bounded
    rw [named,acts,given]
    exact ⟨⟨.inl rfl,.inl rfl,.inr bounds,rfl,rfl,rfl,rfl⟩,rfl⟩
  · rename_i named acts
    cases accepted
    rw [named,acts]
    refine ⟨?_,rfl⟩
    simp only
    split
    · exact ⟨.inl rfl,.inl rfl,.inr ⟨by norm_num,by norm_num⟩,rfl,rfl,rfl,rfl⟩
    · exact componentLimits_refl current
  · rename_i named acts
    cases accepted
    rw [named,acts]
    exact ⟨⟨.inl rfl,.inl rfl,.inr ⟨by norm_num,by norm_num⟩,rfl,rfl,rfl,rfl⟩,rfl⟩
  · cases accepted

end ReactorOS
