import ReactorOS.Ingestion
import ReactorOS.Wire.Fields
import ReactorOS.Chance.Draws
namespace ReactorOS
open Chance

-- The four numbers of a recipe, in the order in which the source goes through them.
inductive Axis where
  | temperatureC | stirrerRpm | heatingMinutes | stirringMinutes
  deriving DecidableEq

structure Axes (α : Type) where
  temperatureC : α
  stirrerRpm : α
  heatingMinutes : α
  stirringMinutes : α
  deriving DecidableEq, Inhabited

namespace Axes
variable {α : Type}

def on (axes : Axes α) : Axis → α
  | .temperatureC => axes.temperatureC
  | .stirrerRpm => axes.stirrerRpm
  | .heatingMinutes => axes.heatingMinutes
  | .stirringMinutes => axes.stirringMinutes

def each (value : Axis → α) : Axes α :=
  ⟨value .temperatureC,value .stirrerRpm,value .heatingMinutes,value .stirringMinutes⟩

@[simp] theorem on_each (value : Axis → α) (axis : Axis) : (each value).on axis = value axis := by
  cases axis <;> rfl

theorem ext {one other : Axes α} (same : ∀ axis, one.on axis = other.on axis) : one = other := by
  cases one
  cases other
  have temperature := same .temperatureC
  have stirrer := same .stirrerRpm
  have heating := same .heatingMinutes
  have stirring := same .stirringMinutes
  simp only [on] at temperature stirrer heating stirring
  rw [temperature,stirrer,heating,stirring]

def draw (value : Axis → Random α) : Random (Axes α) := do
  let temperatureC ← value .temperatureC
  let stirrerRpm ← value .stirrerRpm
  let heatingMinutes ← value .heatingMinutes
  let stirringMinutes ← value .stirringMinutes
  return ⟨temperatureC,stirrerRpm,heatingMinutes,stirringMinutes⟩

theorem draw_always {value : Axis → Random α} {holds : Axis → α → Prop}
    (every : ∀ axis, Always (value axis) (holds axis)) :
    Always (draw value) fun axes => ∀ axis, holds axis (axes.on axis) := by
  refine .bind (every _) fun temperature one => .bind (every _) fun stirrer two => ?_
  refine .bind (every _) fun heating three => .bind (every _) fun stirring four => .pure ?_
  rintro (_ | _ | _ | _) <;> assumption

theorem draw_midway {value : Axis → Random α} {holds : Axis → α → Prop}
    (every : ∀ axis, Midway (value axis) (holds axis)) :
    Midway (draw value) fun axes => ∀ axis, holds axis (axes.on axis) := by
  refine .bind (every _) fun temperature one => .bind (every _) fun stirrer two => ?_
  refine .bind (every _) fun heating three => .bind (every _) fun stirring four => .pure ?_
  rintro (_ | _ | _ | _) <;> assumption

theorem draw_possible {value : Axis → Random α} {holds : Axis → α → Prop}
    (every : ∀ axis, Possible (value axis) (holds axis)) :
    Possible (draw value) fun axes => ∀ axis, holds axis (axes.on axis) := by
  refine .bind (every _) fun temperature one => .bind (every _) fun stirrer two => ?_
  refine .bind (every _) fun heating three => .bind (every _) fun stirring four => .pure ?_
  rintro (_ | _ | _ | _) <;> assumption

end Axes

-- The least and the greatest value of a dimension, where they are given.
structure Span where
  min : Option ℚ := none
  max : Option ℚ := none
  deriving DecidableEq

namespace OptimizerBounds

def low (bounds : OptimizerBounds) : Axes ℚ :=
  ⟨bounds.minTemperatureC,bounds.minStirrerRpm,bounds.minHeatingMinutes,bounds.minStirringMinutes⟩

def high (bounds : OptimizerBounds) : Axes ℚ :=
  ⟨bounds.maxTemperatureC,bounds.maxStirrerRpm,bounds.maxHeatingMinutes,bounds.maxStirringMinutes⟩

def Ordered (bounds : OptimizerBounds) : Prop := ∀ axis, bounds.low.on axis ≤ bounds.high.on axis

def Holds (bounds : OptimizerBounds) (point : Axes ℚ) : Prop :=
  ∀ axis, bounds.low.on axis ≤ point.on axis ∧ point.on axis ≤ bounds.high.on axis

end OptimizerBounds

structure MemoryProfile where
  name : String
  version : String

structure ObjectiveMemory where
  yieldWeight : ℚ
  productRatioWeight : ℚ

abbrev MemoryOptimizerBounds := Axes Span

structure RecommendationMemory where
  enabled : Bool
  useReferenceBatches : Bool
  bounds : MemoryOptimizerBounds

structure ReferenceBatch where
  id : String
  targetTemperatureC : ℚ
  targetStirrerRpm : ℚ
  heatingMinutes : ℚ
  stirringMinutes : ℚ
  yieldPercent : ℚ
  productRatio : ℚ

structure ForbiddenZone where
  name : String
  dimensions : Axes Span

structure AiMemory where
  profile : MemoryProfile := ⟨"default","0"⟩
  objective : ObjectiveMemory := ⟨8/10,2/10⟩
  recommendation : RecommendationMemory := ⟨false,false,⟨{},{},{},{}⟩⟩
  sensorLimits : SensorLimits := {}
  referenceBatches : List ReferenceBatch := []
  forbiddenZones : List ForbiddenZone := []

-- Beside it the difference of one and the next double.
def ObjectiveMemory.weights (objective : ObjectiveMemory) : ℚ × ℚ :=
  let yieldWeight := max objective.yieldWeight 0
  let ratioWeight := max objective.productRatioWeight 0
  if yieldWeight + ratioWeight ≤ 1/2^52 then (8/10,2/10) else (yieldWeight,ratioWeight)

theorem ObjectiveMemory.weights_nonneg (objective : ObjectiveMemory) :
    0 ≤ objective.weights.1 ∧ 0 ≤ objective.weights.2 ∧ 0 < objective.weights.1 + objective.weights.2 := by
  unfold weights
  simp only
  split
  · norm_num
  · rename_i large
    refine ⟨le_max_right _ _,le_max_right _ _,?_⟩
    have tiny : (0:ℚ) < 1/2^52 := by positivity
    exact tiny.trans (not_le.mp large)

def validateOptionalPair (label field : String) (span : Span) : Except String Unit :=
  match span.min,span.max with
  | some min,some max => if max < min then .error s!"{label}.{field} min cannot exceed max" else .ok ()
  | _,_ => .ok ()

def validateSpans (label : String) (spans : Axes Span) : Except String Unit := do
  validateOptionalPair label "temperature_c" spans.temperatureC
  validateOptionalPair label "stirrer_rpm" spans.stirrerRpm
  validateOptionalPair label "heating_minutes" spans.heatingMinutes
  validateOptionalPair label "stirring_minutes" spans.stirringMinutes

def MemoryOptimizerBounds.validate (bounds : MemoryOptimizerBounds) (label : String) : Except String Unit :=
  validateSpans label bounds

def ForbiddenZone.validate (zone : ForbiddenZone) : Except String Unit := validateSpans "forbidden_zones" zone.dimensions

def SensorLimit.validate (limit : SensorLimit) (name : String) : Except String Unit := do
  validateOptionalPair name "normal" ⟨limit.normalMin,limit.normalMax⟩
  validateOptionalPair name "hard" ⟨limit.hardMin,limit.hardMax⟩

def SensorLimits.validate (limits : SensorLimits) : Except String Unit :=
  [("temperature_c",limits.temperatureC),("pressure_mpa",limits.pressureMpa),("stirrer_rpm",limits.stirrerRpm),
   ("shake_speed_cpm",limits.shakeSpeedCpm),("tilt_angle_deg",limits.tiltAngleDeg),
   ("flow_rate_l_min",limits.flowRateLMin),
   ("product_concentration_percent",limits.productConcentrationPercent),("ph",limits.ph)].forM
    fun (name,limit) => limit.elim (.ok ()) (·.validate name)

def validateReference (name : String) (value min max : ℚ) : Except String Unit :=
  if value < min ∨ max < value then .error s!"{name} must be between {display min} and {display max}" else .ok ()

def ReferenceBatch.validate (batch : ReferenceBatch) : Except String Unit := do
  validateReference "reference_batches.yield_percent" batch.yieldPercent 0 100
  validateReference "reference_batches.product_ratio" batch.productRatio 0 1

def AiMemory.validate (memory : AiMemory) : Except String Unit := do
  MemoryOptimizerBounds.validate memory.recommendation.bounds "recommendation.bounds"
  memory.referenceBatches.forM ReferenceBatch.validate
  memory.forbiddenZones.forM ForbiddenZone.validate
  memory.sensorLimits.validate

-- The configured bound, or the one of the memory where that is tighter.
def raised (base : ℚ) (min : Option ℚ) : ℚ := min.elim base (max base)
def lowered (base : ℚ) (max : Option ℚ) : ℚ := max.elim base (min base)

theorem le_raised (base : ℚ) (min : Option ℚ) : base ≤ raised base min := by
  cases min with
  | none => exact le_rfl
  | some value => exact le_max_left _ _

theorem lowered_le (base : ℚ) (max : Option ℚ) : lowered base max ≤ base := by
  cases max with
  | none => exact le_rfl
  | some value => exact min_le_left _ _

def MemoryOptimizerBounds.tighten (bounds : MemoryOptimizerBounds) (base : OptimizerBounds) : OptimizerBounds where
  minTemperatureC := raised base.minTemperatureC bounds.temperatureC.min
  maxTemperatureC := lowered base.maxTemperatureC bounds.temperatureC.max
  minStirrerRpm := raised base.minStirrerRpm bounds.stirrerRpm.min
  maxStirrerRpm := lowered base.maxStirrerRpm bounds.stirrerRpm.max
  minHeatingMinutes := raised base.minHeatingMinutes bounds.heatingMinutes.min
  maxHeatingMinutes := lowered base.maxHeatingMinutes bounds.heatingMinutes.max
  minStirringMinutes := raised base.minStirringMinutes bounds.stirringMinutes.min
  maxStirringMinutes := lowered base.maxStirringMinutes bounds.stirringMinutes.max

theorem tighten_low (spans : MemoryOptimizerBounds) (base : OptimizerBounds) (axis : Axis) :
    (spans.tighten base).low.on axis = raised (base.low.on axis) (spans.on axis).min := by
  cases axis <;> rfl

theorem tighten_high (spans : MemoryOptimizerBounds) (base : OptimizerBounds) (axis : Axis) :
    (spans.tighten base).high.on axis = lowered (base.high.on axis) (spans.on axis).max := by
  cases axis <;> rfl

-- Bounds of the memory that leave nothing of the configured ones are not used.
def AiMemory.effectiveOptimizerBounds (memory : AiMemory) (base : OptimizerBounds) : OptimizerBounds :=
  if !memory.recommendation.enabled then base else
  let bounds := memory.recommendation.bounds.tighten base
  if bounds.maxTemperatureC < bounds.minTemperatureC ∨ bounds.maxStirrerRpm < bounds.minStirrerRpm ∨
      bounds.maxHeatingMinutes < bounds.minHeatingMinutes ∨ bounds.maxStirringMinutes < bounds.minStirringMinutes then
    base
  else bounds

def ensureIntersects (name : String) (min max : ℚ) : Except String Unit :=
  if max < min then
    .error s!"AI memory {name} bounds do not intersect configured safety optimizer bounds"
  else .ok ()

def AiMemory.validateAgainstOptimizerBounds (memory : AiMemory) (base : OptimizerBounds) : Except String Unit := do
  memory.validate
  let bounds := memory.recommendation.bounds.tighten base
  ensureIntersects "temperature" bounds.minTemperatureC bounds.maxTemperatureC
  ensureIntersects "stirrer" bounds.minStirrerRpm bounds.maxStirrerRpm
  ensureIntersects "heating" bounds.minHeatingMinutes bounds.maxHeatingMinutes
  ensureIntersects "stirring" bounds.minStirringMinutes bounds.maxStirringMinutes

theorem effective_inside (memory : AiMemory) (base : OptimizerBounds) (axis : Axis) :
    base.low.on axis ≤ (memory.effectiveOptimizerBounds base).low.on axis ∧
      (memory.effectiveOptimizerBounds base).high.on axis ≤ base.high.on axis := by
  unfold AiMemory.effectiveOptimizerBounds
  split
  · exact ⟨le_rfl,le_rfl⟩
  · simp only
    split
    · exact ⟨le_rfl,le_rfl⟩
    · rw [tighten_low,tighten_high]
      exact ⟨le_raised _ _,lowered_le _ _⟩

theorem effective_ordered (memory : AiMemory) {base : OptimizerBounds} (ordered : base.Ordered) :
    (memory.effectiveOptimizerBounds base).Ordered := by
  unfold AiMemory.effectiveOptimizerBounds
  split
  · exact ordered
  · simp only
    split
    · exact ordered
    · rename_i meet
      simp only [not_or,not_lt] at meet
      obtain ⟨temperature,stirrer,heating,stirring⟩ := meet
      rintro (_ | _ | _ | _) <;> assumption

theorem validateOptimizerBounds_ordered {bounds : OptimizerBounds} (accepted : validateOptimizerBounds bounds = .ok ()) :
    bounds.Ordered := by
  unfold validateOptimizerBounds at accepted
  obtain ⟨_,temperature,accepted⟩ := Wire.bind_ok accepted
  obtain ⟨_,stirrer,accepted⟩ := Wire.bind_ok accepted
  obtain ⟨_,heating,accepted⟩ := Wire.bind_ok accepted
  obtain ⟨_,stirring,_⟩ := Wire.bind_ok accepted
  rintro (_ | _ | _ | _)
  · exact ensureOrdered_ok.mp temperature
  · exact ensureOrdered_ok.mp stirrer
  · exact ensureOrdered_ok.mp heating
  · exact ensureOrdered_ok.mp stirring

-- One more dimension of a zone: whether it has any, and whether the point lies in all of them.
def checkDimension (span : Span) (value : ℚ) (found : Bool × Bool) : Bool × Bool :=
  if span.min.isNone && span.max.isNone then found else
  (true,found.2 && !(span.min.any fun min => decide (value < min)) && !(span.max.any fun max => decide (max < value)))

def ForbiddenZone.contains (zone : ForbiddenZone) (point : Axes ℚ) : Bool :=
  let found := (false,true)
  let found := checkDimension zone.dimensions.temperatureC point.temperatureC found
  let found := checkDimension zone.dimensions.stirrerRpm point.stirrerRpm found
  let found := checkDimension zone.dimensions.heatingMinutes point.heatingMinutes found
  let found := checkDimension zone.dimensions.stirringMinutes point.stirringMinutes found
  found.1 && found.2

end ReactorOS
