import ReactorOS.AuditChain
import ReactorOS.RoundedTargets
namespace ReactorOS
open Chance
variable {point : Axes ℚ} {weights : ℚ × ℚ}

def batchHeatingMinutesRange : SensorRange := ⟨"heating_minutes",0,1440⟩
def batchStirringMinutesRange : SensorRange := ⟨"stirring_minutes",0,1440⟩
def productResultYieldPercentRange : SensorRange := ⟨"yield_percent",0,100⟩
def productResultRatioRange : SensorRange := ⟨"product_ratio",0,1⟩
def recommendationExpectedScoreRange : SensorRange := ⟨"expected_score",0,100⟩

-- The four checks that both records begin with.
def validateRecordTargets (point : Axes ℚ) : Except String Unit := do
  targetTemperatureCRange.validate point.temperatureC
  targetStirrerRpmRange.validate point.stirrerRpm
  batchHeatingMinutesRange.validate point.heatingMinutes
  batchStirringMinutesRange.validate point.stirringMinutes

def validateBatchOutcomeRecord (outcome : BatchOutcome) : Except String BatchOutcome := do
  validateRecordTargets outcome.point
  productResultYieldPercentRange.validate outcome.yieldPercent
  productResultRatioRange.validate outcome.productRatio
  return outcome

def validateRecommendationRecord (record : RecommendationRecord) : Except String RecommendationRecord := do
  if record.basedOnBatchCount < 0 then
    throw s!"based_on_batch_count must be >= 0, got {record.basedOnBatchCount}"
  validateRecordTargets record.point
  recommendationExpectedScoreRange.validate record.expectedScore
  return record

def SensorRange.Holds (range : SensorRange) (value : ℚ) : Prop := range.min ≤ value ∧ value ≤ range.max

theorem SensorRange.validate_ok {range : SensorRange} {value : ℚ} : range.validate value = .ok () ↔ range.Holds value := by
  unfold validate Holds
  split
  · rename_i outside
    constructor
    · intro accepted
      cases accepted
    · intro reached
      rcases reached with ⟨above,below⟩
      rcases outside with low | high
      · exact absurd above (not_le.mpr low)
      · exact absurd below (not_le.mpr high)
  · rename_i inside
    rw [not_or,not_lt,not_lt] at inside
    exact iff_of_true rfl inside

def recordRanges : Axes SensorRange :=
  ⟨targetTemperatureCRange,targetStirrerRpmRange,batchHeatingMinutesRange,batchStirringMinutesRange⟩

-- The table has room for the four numbers.
def Keeps (point : Axes ℚ) : Prop := ∀ axis, (recordRanges.on axis).Holds (point.on axis)

theorem validateRecordTargets_ok : validateRecordTargets point = .ok () ↔ Keeps point := by
  constructor
  · intro accepted
    obtain ⟨_,temperature,accepted⟩ := Wire.bind_ok accepted
    obtain ⟨_,stirrer,accepted⟩ := Wire.bind_ok accepted
    obtain ⟨_,heating,stirring⟩ := Wire.bind_ok accepted
    rintro (_ | _ | _ | _)
    · exact SensorRange.validate_ok.mp temperature
    · exact SensorRange.validate_ok.mp stirrer
    · exact SensorRange.validate_ok.mp heating
    · exact SensorRange.validate_ok.mp stirring
  · intro keeps
    have temperature := SensorRange.validate_ok.mpr (keeps .temperatureC)
    have stirrer := SensorRange.validate_ok.mpr (keeps .stirrerRpm)
    have heating := SensorRange.validate_ok.mpr (keeps .heatingMinutes)
    have stirring := SensorRange.validate_ok.mpr (keeps .stirringMinutes)
    simp only [recordRanges,Axes.on] at temperature stirrer heating stirring
    rw [validateRecordTargets,temperature,stirrer,heating]
    exact stirring

structure Marked (outcome : BatchOutcome) : Prop where
  yield : productResultYieldPercentRange.Holds outcome.yieldPercent
  ratio : productResultRatioRange.Holds outcome.productRatio

structure StoredOutcome (outcome : BatchOutcome) : Prop where
  targets : Keeps outcome.point
  marks : Marked outcome

theorem validateBatchOutcomeRecord_ok {outcome : BatchOutcome} :
    validateBatchOutcomeRecord outcome = .ok outcome ↔ StoredOutcome outcome := by
  constructor
  · intro accepted
    obtain ⟨_,targets,accepted⟩ := Wire.bind_ok accepted
    obtain ⟨_,yield,accepted⟩ := Wire.bind_ok accepted
    obtain ⟨_,ratio,_⟩ := Wire.bind_ok accepted
    exact ⟨validateRecordTargets_ok.mp targets,⟨SensorRange.validate_ok.mp yield,SensorRange.validate_ok.mp ratio⟩⟩
  · intro reached
    rcases reached with ⟨targets,yield,ratio⟩
    rw [validateBatchOutcomeRecord,validateRecordTargets_ok.mpr targets,SensorRange.validate_ok.mpr yield,
      SensorRange.validate_ok.mpr ratio]
    rfl

theorem validateRecommendationRecord_ok {record : RecommendationRecord} (counted : 0 ≤ record.basedOnBatchCount) :
    validateRecommendationRecord record = .ok record ↔
      Keeps record.point ∧ recommendationExpectedScoreRange.Holds record.expectedScore := by
  rw [validateRecommendationRecord,if_neg (not_lt.mpr counted)]
  constructor
  · intro accepted
    obtain ⟨_,targets,accepted⟩ := Wire.bind_ok accepted
    obtain ⟨_,score,_⟩ := Wire.bind_ok accepted
    exact ⟨validateRecordTargets_ok.mp targets,SensorRange.validate_ok.mp score⟩
  · intro reached
    rcases reached with ⟨targets,score⟩
    rw [validateRecordTargets_ok.mpr targets,SensorRange.validate_ok.mpr score]
    rfl

def fullScore (weights : ℚ × ℚ) : ℚ := 100*(weights.1+weights.2)

theorem marked_score (weighing : Weighing weights) {outcome : BatchOutcome} (marked : Marked outcome) :
    0 ≤ scoreWithWeights weights outcome ∧ scoreWithWeights weights outcome ≤ fullScore weights := by
  obtain ⟨⟨noYield,fullYield⟩,noRatio,fullRatio⟩ := marked
  obtain ⟨yields,ratios,_⟩ := weighing
  change (0:ℚ) ≤ outcome.yieldPercent at noYield
  change outcome.yieldPercent ≤ 100 at fullYield
  change (0:ℚ) ≤ outcome.productRatio at noRatio
  change outcome.productRatio ≤ 1 at fullRatio
  have yieldPart : outcome.yieldPercent*weights.1 ≤ 100*weights.1 := mul_le_mul_of_nonneg_right fullYield yields
  have ratioPart : outcome.productRatio*(100*weights.2) ≤ 1*(100*weights.2) :=
    mul_le_mul_of_nonneg_right fullRatio (by positivity)
  unfold scoreWithWeights fullScore
  constructor
  · positivity
  · linarith

-- The file of the memory holds references that are marked as batches are.
theorem reference_marked {memory : AiMemory} {base : OptimizerBounds}
    (valid : memory.validateAgainstOptimizerBounds base = .ok ()) :
    ∀ reference ∈ memoryOutcomes (some memory), Marked reference := by
  obtain ⟨_,checked,_⟩ := Wire.bind_ok valid
  obtain ⟨_,_,checked⟩ := Wire.bind_ok checked
  obtain ⟨_,batches,_⟩ := Wire.bind_ok checked
  intro reference member
  unfold memoryOutcomes at member
  simp only at member
  split at member
  · obtain ⟨batch,listed,rfl⟩ := List.mem_map.mp member
    obtain ⟨_,yield,ratio⟩ := Wire.bind_ok (Wire.forM_ok batches batch listed)
    have within : ∀ {name value min max}, validateReference name value min max = .ok () → min ≤ value ∧ value ≤ max := by
      intro name value min max accepted
      unfold validateReference at accepted
      split at accepted
      · cases accepted
      · rename_i inside
        rwa [not_or,not_lt,not_lt] at inside
    exact ⟨within yield,within ratio⟩
  · cases member

def fullMarks (point : Axes ℚ) : BatchOutcome where
  batchId := 1
  targetTemperatureC := point.temperatureC
  targetStirrerRpm := point.stirrerRpm
  heatingMinutes := point.heatingMinutes
  stirringMinutes := point.stirringMinutes
  yieldPercent := 100
  productRatio := 1

theorem fullMarks_score (point : Axes ℚ) : scoreWithWeights weights (fullMarks point) = fullScore weights := by
  unfold scoreWithWeights fullMarks fullScore
  ring

theorem fullMarks_stored (keeps : Keeps point) : StoredOutcome (fullMarks point) :=
  ⟨keeps,⟨by norm_num [productResultYieldPercentRange,fullMarks],by norm_num [productResultYieldPercentRange,fullMarks]⟩,
    ⟨by norm_num [productResultRatioRange,fullMarks],by norm_num [productResultRatioRange,fullMarks]⟩⟩

end ReactorOS
