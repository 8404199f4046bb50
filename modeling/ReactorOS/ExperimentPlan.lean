import ReactorOS.Envelope
import ReactorOS.Optimizer
namespace ReactorOS
variable {safety : SafetyConfig} {temperature rpm : ℚ}

-- As far as the plan reads it.
structure LocalAiStatus where
  readyForBaseInference : Bool
  readyForLoraInference : Bool
  readyForTraining : Bool
  readyForPrdLora : Bool
  missing : List String

structure ExperimentPlanStep where
  stepNo : Nat
  name : String
  targetTemperatureC : ℚ
  targetStirrerRpm : ℚ
  targetShakeSpeedCpm : ℚ
  targetPressureMpa : ℚ
  durationMinutes : ℚ
  operatorAction : String
  safetyCheck : String

structure ExperimentPlanResponse where
  planId : String
  title : String
  status : String
  source : String
  recommendation : RecommendationRecord
  objective : String
  sopSummary : String
  steps : List ExperimentPlanStep
  acceptanceCriteria : List String
  safetyNotes : List String
  modelBoundary : List String
  nextActions : List String

def planScore (outcome : BatchOutcome) : ℚ := outcome.yieldPercent*(4/5) + outcome.productRatio*100*(1/5)

-- Of several best ones the last.
def bestOutcome (outcomes : List BatchOutcome) : Option BatchOutcome :=
  outcomes.foldl (fun best outcome => match best with
    | none => some outcome
    | some best => if planScore outcome < planScore best then some best else some outcome) none

def experimentPlanSteps (safety : SafetyConfig) (targets : ControlTargets) : List ExperimentPlanStep :=
  let targetPressureMpa := round2 (max targets.targetPressureMpa 0)
  let shakeSpeedCpm := round2 targets.shakeSpeedCpm
  let heatTemp := round2 targets.temperatureC
  let coolTemp := round2 (max (heatTemp-20) safety.temperature.minC)
  let rpm := round2 targets.stirrerRpm
  [{
    stepNo := 1
    name := "Pre-check and heat-up"
    targetTemperatureC := heatTemp
    targetStirrerRpm := rpm
    targetShakeSpeedCpm := shakeSpeedCpm
    targetPressureMpa := targetPressureMpa
    durationMinutes := round2 (max (targets.heatTimeS/60) 1)
    operatorAction := "Verify vessel charge, sensor freshness, coolant flow, and clear interlocks before starting the ramp."
    safetyCheck := s!"Temperature must remain within {displayFixed 1 safety.temperature.minC}-{displayFixed 1 safety.temperature.maxC} degC and each automatic adjustment must respect max_step_c {displayFixed 1 safety.temperature.maxStepC}." },
  {
    stepNo := 2
    name := "Reaction hold and sampling"
    targetTemperatureC := heatTemp
    targetStirrerRpm := rpm
    targetShakeSpeedCpm := shakeSpeedCpm
    targetPressureMpa := targetPressureMpa
    durationMinutes := round2 (max (targets.holdTimeS/60) 1)
    operatorAction := "Hold the recommended targets, collect sample checkpoints, and record yield/product ratio after completion."
    safetyCheck := s!"Stirrer target must remain <= {displayFixed 1 safety.stirrer.maxRpm} RPM; pressure target is safety-clamped before device write." },
  {
    stepNo := 3
    name := "Cool-down and result capture"
    targetTemperatureC := coolTemp
    targetStirrerRpm := round2 (max (rpm*(1/2)) safety.stirrer.minRpm)
    targetShakeSpeedCpm := 0
    targetPressureMpa := targetPressureMpa
    durationMinutes := round2 (max (targets.coolTimeS/60) 1)
    operatorAction := "Stop active heating, cool under observation, finish the batch, and save product result data for the next recommendation cycle."
    safetyCheck := "Emergency stop, manual lock, stale sensor data, and high alarms must block any automatic execution." }]

def bestNote (outcomes : List BatchOutcome) : String :=
  match bestOutcome outcomes with
  | some outcome => s!" Best recent batch #{outcome.batchId} reached {displayFixed 1 outcome.yieldPercent}% yield and {displayFixed 2 outcome.productRatio} product ratio."
  | none => " No finished product-result batch is available beyond the current recommendation context."

def loraNote (localAi : LocalAiStatus) : String :=
  if localAi.readyForPrdLora then "Local Qwen LoRA/RK evidence boundary is complete."
  else if localAi.readyForLoraInference && localAi.readyForTraining then
    "Local Qwen LoRA inference/training boundary is present, but RK validation is still missing."
  else if localAi.readyForBaseInference then
    "Local base-model inference is configured, but LoRA adapter/training/RK evidence is still missing."
  else
    let missing := if localAi.missing.isEmpty then "daemon training/inference API" else ", ".intercalate localAi.missing
    s!"Local Qwen LoRA is not executable yet; missing assets: {missing}."

-- `stamp` is the time of the answer, down to the second.
def buildExperimentPlan (safety : SafetyConfig) (runtime : RuntimeState) (localAi : LocalAiStatus) (aiProvider : Bool)
    (recent : Except Failure (List BatchOutcome)) (stamp : String) (recommendation : RecommendationRecord) :
    Except AppError ExperimentPlanResponse := do
  let targets ← aiTargetsFromRecommendation safety runtime recommendation.toRecommendation
  let recentOutcomes ← recent.mapError AppError.internal
  return {
    planId := s!"xingshu-plan-{stamp}"
    title := "Safety-gated AI experiment plan draft"
    status := "draft_requires_operator_review"
    source := if aiProvider then "StepFun/local safety fallback" else "local optimizer with safety memory"
    recommendation := recommendation
    objective := "Explore the next safe parameter point while preserving auditability and requiring operator approval before execution."
    sopSummary := s!"Run a three-stage heat/hold/cool experiment at {displayFixed 1 (round2 targets.temperatureC)} degC and {displayFixed 1 (round2 targets.stirrerRpm)} RPM based on {recommendation.basedOnBatchCount} recorded product-result batches.{bestNote recentOutcomes}"
    steps := experimentPlanSteps safety targets
    acceptanceCriteria := [
      "All control targets remain inside configured safety bounds after clamping.",
      "Operator records yield_percent and product_ratio before a new recommendation is considered valid.",
      "No emergency stop, manual lock, stale sensor, or high alarm is active during execution.",
      "Batch report and audit events can be exported after completion."]
    safetyNotes := [
      "This endpoint only drafts an SOP; it does not start a process or write hardware targets.",
      "Execution must use /api/ai/control dry-run first, then an operator-confirmed process start or target write.",
      "All later writes still pass through RBAC, safety clamp, audit logging, and the optional independent safety guard."]
    modelBoundary := [
      loraNote localAi,
      "The draft uses local optimizer evidence unless a configured cloud provider produces a fresh recommendation.",
      "It is not proof of PRD local LoRA self-evolution until Qwen/GGUF/LoRA/training/RK assets are supplied and validated."]
    nextActions := [
      "Review the draft SOP against the actual vessel charge and hardware readiness.",
      "Run AI master-control preview before applying any target.",
      "After the batch, save product result data to close the learning loop."] }

-- What the plan promises of a step: `set_targets` would take its pair.
structure Settable (safety : SafetyConfig) (step : ExperimentPlanStep) : Prop where
  envelope : InEnvelope safety step.targetTemperatureC step.targetStirrerRpm
  temperature : validateTargetTemperature safety step.targetTemperatureC = .ok ()
  stirrer : validateStirSpeed safety step.targetStirrerRpm = .ok ()
  pair : validateTargetPairAllowed safety step.targetTemperatureC step.targetStirrerRpm = .ok ()

-- The cool-down casts a zone's shadow on the points that are 20 °C warmer and twice as fast, and
-- on those that it sends to the minima.
structure ShadowedBy (safety : SafetyConfig) (zone : ForbiddenControlZone) (temperature rpm : ℚ) : Prop where
  warm : zone.minTemperatureC+20 ≤ temperature ∨ RoundsFrom zone.minTemperatureC safety.temperature.minC
  cool : temperature ≤ zone.maxTemperatureC+20 ∧ RoundsTo zone.maxTemperatureC safety.temperature.minC
  fast : RoundsFrom zone.minStirrerRpm (rpm/2) ∨ RoundsFrom zone.minStirrerRpm safety.stirrer.minRpm
  slow : RoundsTo zone.maxStirrerRpm (rpm/2) ∧ RoundsTo zone.maxStirrerRpm safety.stirrer.minRpm

-- Where a minimum is used, its rounding does not fall below it, nor the temperature below zero.
structure MinimaKept (safety : SafetyConfig) (temperature rpm : ℚ) : Prop where
  minC : safety.temperature.minC+20 ≤ temperature ∨ RoundsFrom safety.temperature.minC safety.temperature.minC
  frost : 20 ≤ temperature ∨ RoundsFrom 0 safety.temperature.minC
  minRpm : RoundsFrom safety.stirrer.minRpm (rpm/2) ∨ RoundsFrom safety.stirrer.minRpm safety.stirrer.minRpm

structure Draftable (safety : SafetyConfig) (recommendation : Recommendation) : Prop where
  inside : RoundsInside safety recommendation.targetTemperatureC recommendation.targetStirrerRpm
  clear : RoundsClear safety recommendation.targetTemperatureC recommendation.targetStirrerRpm
  minima : MinimaKept safety (round2 recommendation.targetTemperatureC) (round2 recommendation.targetStirrerRpm)
  unshadowed : ∀ zone ∈ safety.forbiddenControlZones,
    ¬ShadowedBy safety zone (round2 recommendation.targetTemperatureC) (round2 recommendation.targetStirrerRpm)

def SettablePair (safety : SafetyConfig) (temperature rpm : ℚ) : Prop :=
  InEnvelope safety temperature rpm ∧ (0 ≤ temperature ∧ temperature ≤ 500) ∧ (0 ≤ rpm ∧ rpm ≤ 2000)

theorem settable_iff {step : ExperimentPlanStep} :
    Settable safety step ↔ SettablePair safety step.targetTemperatureC step.targetStirrerRpm := by
  constructor
  · intro settable
    exact ⟨settable.envelope,(validateTargetTemperature_ok.mp settable.temperature).1,
      (validateStirSpeed_ok.mp settable.stirrer).1⟩
  · intro found
    obtain ⟨within,temperature,stirrer⟩ := found
    exact ⟨within,validateTargetTemperature_ok.mpr ⟨temperature,within.temperature.2⟩,
      validateStirSpeed_ok.mpr ⟨stirrer,within.stirrer.2⟩,validateTargetPairAllowed_ok.mpr within.zone⟩

theorem round2_cooler (hundredth : round2 temperature = temperature) : round2 (temperature-20) = temperature-20 := by
  have moved := round2_sub_int temperature 20
  rw [hundredth] at moved
  exact_mod_cast moved

theorem le_cooled (hundredth : round2 temperature = temperature) (bound : ℚ) :
    bound ≤ round2 (max (temperature-20) safety.temperature.minC) ↔
      bound+20 ≤ temperature ∨ RoundsFrom bound safety.temperature.minC := by
  rw [round2_max,le_max_iff,round2_cooler hundredth,le_round2,le_sub_iff_add_le]

theorem cooled_le (hundredth : round2 temperature = temperature) (bound : ℚ) :
    round2 (max (temperature-20) safety.temperature.minC) ≤ bound ↔
      temperature ≤ bound+20 ∧ RoundsTo bound safety.temperature.minC := by
  rw [round2_max,max_le_iff,round2_cooler hundredth,round2_le,sub_le_iff_le_add]

theorem le_slowed (bound : ℚ) : bound ≤ round2 (max (rpm*(1/2)) safety.stirrer.minRpm) ↔
    RoundsFrom bound (rpm/2) ∨ RoundsFrom bound safety.stirrer.minRpm := by
  rw [round2_max,le_max_iff,le_round2,le_round2,mul_one_div]

theorem slowed_le (bound : ℚ) : round2 (max (rpm*(1/2)) safety.stirrer.minRpm) ≤ bound ↔
    RoundsTo bound (rpm/2) ∧ RoundsTo bound safety.stirrer.minRpm := by
  rw [round2_max,max_le_iff,round2_le,round2_le,mul_one_div]

theorem shadowedBy_iff (hundredth : round2 temperature = temperature) {zone : ForbiddenControlZone} :
    ShadowedBy safety zone temperature rpm ↔
      zone.contains (round2 (max (temperature-20) safety.temperature.minC))
        (round2 (max (rpm*(1/2)) safety.stirrer.minRpm)) = true := by
  rw [contains_iff,le_cooled hundredth,cooled_le hundredth,le_slowed,slowed_le]
  constructor
  · intro shadowed
    exact ⟨⟨shadowed.warm,shadowed.cool⟩,shadowed.fast,shadowed.slow⟩
  · intro found
    exact ⟨found.1.1,found.1.2,found.2.1,found.2.2⟩

theorem unshadowed_iff (hundredth : round2 temperature = temperature) :
    (∀ zone ∈ safety.forbiddenControlZones, ¬ShadowedBy safety zone temperature rpm) ↔
      isForbiddenControlZone safety (round2 (max (temperature-20) safety.temperature.minC))
        (round2 (max (rpm*(1/2)) safety.stirrer.minRpm)) = false := by
  unfold isForbiddenControlZone
  simp only [shadowedBy_iff hundredth,List.any_eq_false]

-- Where the recommended point is allowed, the cool-down goes no higher than that point, and what
-- is left to ask are the minima and the zones.
theorem cool_down_settable_iff (hundredth : round2 temperature = temperature) (hundredthRpm : round2 rpm = rpm)
    (held : SettablePair safety temperature rpm) :
    SettablePair safety (round2 (max (temperature-20) safety.temperature.minC))
        (round2 (max (rpm*(1/2)) safety.stirrer.minRpm)) ↔
      MinimaKept safety temperature rpm ∧
        ∀ zone ∈ safety.forbiddenControlZones, ¬ShadowedBy safety zone temperature rpm := by
  obtain ⟨envelope,heat,stir⟩ := held
  rw [unshadowed_iff hundredth]
  have noWarmer : round2 (max (temperature-20) safety.temperature.minC) ≤ temperature :=
    round2_le_of_le hundredth (max_le (by linarith) envelope.temperature.1)
  have noFaster : round2 (max (rpm*(1/2)) safety.stirrer.minRpm) ≤ rpm :=
    round2_le_of_le hundredthRpm (max_le (by linarith [stir.1]) envelope.stirrer.1)
  have turning : 0 ≤ round2 (max (rpm*(1/2)) safety.stirrer.minRpm) :=
    le_round2_of_le (by decide +kernel) (le_max_of_le_left (by linarith [stir.1]))
  constructor
  · intro found
    obtain ⟨within,⟨above,_⟩,_⟩ := found
    refine ⟨⟨?_,?_,?_⟩,within.zone⟩
    · exact (le_cooled hundredth _).mp within.temperature.1
    · simpa using (le_cooled hundredth 0).mp above
    · exact (le_slowed _).mp within.stirrer.1
  · intro found
    obtain ⟨kept,clear⟩ := found
    have warm := (le_cooled hundredth _).mpr kept.minC
    have frost := (le_cooled hundredth 0).mpr (by simpa using kept.frost)
    have fast := (le_slowed _).mpr kept.minRpm
    exact ⟨⟨⟨warm,noWarmer.trans envelope.temperature.2⟩,⟨fast,noFaster.trans envelope.stirrer.2⟩,clear⟩,
      ⟨frost,noWarmer.trans heat.2⟩,turning,noFaster.trans stir.2⟩

-- The point that is held has been looked at before it was rounded.
theorem hold_settable_iff (heat : 0 ≤ temperature ∧ temperature ≤ 500) (stir : 0 ≤ rpm ∧ rpm ≤ 2000) :
    SettablePair safety (round2 temperature) (round2 rpm) ↔
      RoundsInside safety temperature rpm ∧ RoundsClear safety temperature rpm := by
  rw [SettablePair,inEnvelope_round2]
  apply and_iff_left
  refine ⟨⟨?_,?_⟩,?_,?_⟩
  · exact le_round2_of_le (by decide +kernel) heat.1
  · exact round2_le_of_le (by decide +kernel) heat.2
  · exact le_round2_of_le (by decide +kernel) stir.1
  · exact round2_le_of_le (by decide +kernel) stir.2

theorem buildExperimentPlan_steps {runtime : RuntimeState} {localAi : LocalAiStatus} {aiProvider : Bool}
    {recent : Except Failure (List BatchOutcome)} {stamp : String} {recommendation : RecommendationRecord}
    {plan : ExperimentPlanResponse}
    (planned : buildExperimentPlan safety runtime localAi aiProvider recent stamp recommendation = .ok plan) :
    ∃ targets, aiTargetsFromRecommendation safety runtime recommendation.toRecommendation = .ok targets ∧
      plan.steps = experimentPlanSteps safety targets := by
  obtain ⟨targets,checked,planned⟩ := Wire.bind_ok planned
  obtain ⟨outcomes,_,planned⟩ := Wire.bind_ok planned
  cases planned
  exact ⟨targets,checked,rfl⟩

theorem plan_settable_iff {runtime : RuntimeState} {localAi : LocalAiStatus} {aiProvider : Bool}
    {recent : Except Failure (List BatchOutcome)} {stamp : String} {recommendation : RecommendationRecord}
    {plan : ExperimentPlanResponse}
    (planned : buildExperimentPlan safety runtime localAi aiProvider recent stamp recommendation = .ok plan) :
    (∀ step ∈ plan.steps, Settable safety step) ↔ Draftable safety recommendation.toRecommendation := by
  obtain ⟨targets,checked,steps⟩ := buildExperimentPlan_steps planned
  obtain ⟨within,rfl⟩ := aiTargetsFromRecommendation_ok.mp checked
  have heat := within.temperature.1
  have stir := within.stirrer.1
  rw [steps]
  simp only [experimentPlanSteps,ControlTargets.round2,Recommendation.requested,round2_round2,List.forall_mem_cons,
    settable_iff]
  have hold_iff := @hold_settable_iff safety _ _ heat stir
  constructor
  · intro settable
    obtain ⟨hold,_,cool,_⟩ := settable
    obtain ⟨inside,clear⟩ := hold_iff.mp hold
    obtain ⟨minima,unshadowed⟩ := (cool_down_settable_iff (round2_round2 _) (round2_round2 _) hold).mp cool
    exact ⟨inside,clear,minima,unshadowed⟩
  · intro draftable
    have hold := hold_iff.mpr ⟨draftable.inside,draftable.clear⟩
    have cool := (cool_down_settable_iff (round2_round2 _) (round2_round2 _) hold).mpr
      ⟨draftable.minima,draftable.unshadowed⟩
    exact ⟨hold,hold,cool,List.forall_mem_nil _⟩

-- The shipped configuration with an optimizer that may go up to 150 °C.
def warmOptimizer : SafetyConfig :=
  {SafetyConfig.shipped with optimizer := {SafetyConfig.shipped.optimizer with maxTemperatureC := 150}}

def draftOf (temperature rpm : ℚ) : RecommendationRecord := ⟨⟨temperature,rpm,60,60⟩,3,80,"best of the last batches"⟩

def planOf (recommendation : RecommendationRecord) : Except AppError ExperimentPlanResponse :=
  buildExperimentPlan warmOptimizer (.fromSafety warmOptimizer) ⟨false,false,false,false,[]⟩ false (.ok []) "20260101000000"
    recommendation

theorem planned_of_any {recommendation : RecommendationRecord} {p : ExperimentPlanResponse → Bool}
    (found : (planOf recommendation).toOption.any p = true) : ∃ plan, planOf recommendation = .ok plan ∧ p plan = true := by
  cases planned : planOf recommendation with
  | error err =>
      rw [planned] at found
      cases found
  | ok plan =>
      rw [planned] at found
      exact ⟨plan,rfl,found⟩

-- Planned at 80 °C, every step can be set.
theorem plan_settable_iff_mild : ∃ plan, planOf (draftOf 80 400) = .ok plan ∧
    ∀ step ∈ plan.steps, Settable warmOptimizer step := by
  obtain ⟨plan,planned,_⟩ := @planned_of_any (draftOf 80 400) (fun _ => true) (by decide +kernel)
  have inside : InEnvelope warmOptimizer (round2 80) (round2 400) :=
    ⟨by decide +kernel,by decide +kernel,by decide +kernel⟩
  obtain ⟨inside,clear⟩ := inEnvelope_round2.mp inside
  refine ⟨plan,planned,(plan_settable_iff planned).mpr ⟨inside,clear,⟨?_,?_,?_⟩,?_⟩⟩
  · exact .inl (by decide +kernel)
  · exact .inl (by decide +kernel)
  · exact .inl (le_round2.mp (by decide +kernel))
  · exact (unshadowed_iff (round2_round2 _)).mpr (by decide +kernel)

-- Held at 150 °C and 400 rpm, and cooled at 130 °C and 200 rpm, which is too hot for so little mixing.
theorem cool_down_in_zone : validateSafetyConfig warmOptimizer = .ok () ∧
    ∃ plan, planOf (draftOf 150 400) = .ok plan ∧ ∃ step ∈ plan.steps, ¬Settable warmOptimizer step := by
  obtain ⟨plan,planned,found⟩ := @planned_of_any (draftOf 150 400)
    (fun plan => plan.steps.any fun step =>
      isForbiddenControlZone warmOptimizer step.targetTemperatureC step.targetStirrerRpm) (by decide +kernel)
  obtain ⟨step,listed,forbidden⟩ := List.any_eq_true.mp found
  refine ⟨by decide +kernel,plan,planned,step,listed,?_⟩
  intro settable
  exact Bool.false_ne_true (settable.envelope.zone.symm.trans forbidden)

end ReactorOS
