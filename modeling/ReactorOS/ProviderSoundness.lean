import ReactorOS.AiProvider
import ReactorOS.RecordRanges
namespace ReactorOS

def ModelRecommendation.point (model : ModelRecommendation) : Option (Axes ℚ) := do
  return ⟨← model.targetTemperatureC,← model.targetStirrerRpm,← model.heatingMinutes,← model.stirringMinutes⟩

variable {serde : Serde} {provider : AiProvider} {reply : Nat → Reply} {bounds : OptimizerBounds} {memory : AiMemory}
  {outcomes : List BatchOutcome} {fallback : RecommendationRecord} {model : ModelRecommendation} {point : Axes ℚ}

theorem finiteInRange_ok {field : String} {value : Option ℚ} {min max found : ℚ} :
    finiteInRange field value min max = .ok found ↔ value = some found ∧ min ≤ found ∧ found ≤ max := by
  unfold finiteInRange
  cases value with
  | none => simp
  | some value =>
      simp only [Option.some.injEq]
      split
      · rename_i inside
        constructor
        · intro done
          cases done
          exact ⟨rfl,inside⟩
        · intro reached
          rcases reached with ⟨rfl,_⟩
          rfl
      · rename_i outside
        constructor
        · intro done
          cases done
        · intro reached
          rcases reached with ⟨rfl,inside⟩
          exact absurd inside outside

theorem isEmpty_toList {text : String} : text.isEmpty = true ↔ text.toList = [] := by
  rw [String.isEmpty_iff,String.toList_eq_nil_iff]

theorem shortened_blank {text : String} : (shortened text).isEmpty = true ↔ text.toList = [] := by
  unfold shortened
  rw [isEmpty_toList]
  split
  · rw [String.toList_ofList,List.take_eq_nil_iff]
    simp
  · rfl

-- A rationale is blank only where neither the model nor the fallback has given one.
theorem sanitizeRationale_blank {value fallback : String} :
    (sanitizeRationale value fallback).isEmpty = true ↔ trim value = "" ∧ fallback = "" := by
  unfold sanitizeRationale
  simp only
  split
  · rename_i blank
    rw [shortened_blank,String.toList_ofList,List.map_eq_nil_iff,String.toList_eq_nil_iff] at blank
    rw [isEmpty_toList,String.toList_ofList,List.take_eq_nil_iff]
    simp [blank]
  · rename_i given
    refine iff_of_false given fun both => given ?_
    rw [shortened_blank,String.toList_ofList,List.map_eq_nil_iff,String.toList_eq_nil_iff]
    exact both.1

-- The record that is made of a point.
def recommendationAt (model : ModelRecommendation) (outcomes : List BatchOutcome) (fallback : RecommendationRecord)
    (point : Axes ℚ) : RecommendationRecord where
  basedOnBatchCount := outcomes.length
  targetTemperatureC := round2 point.temperatureC
  targetStirrerRpm := round2 point.stirrerRpm
  heatingMinutes := round2 point.heatingMinutes
  stirringMinutes := round2 point.stirringMinutes
  expectedScore := round2 (clampFinite model.expectedScore 0 100 fallback.expectedScore)
  rationale :=
    if (sanitizeRationale model.rationale fallback.rationale).isEmpty then "StepFun 根据历史批次、参考记忆和禁区生成推荐。"
    else s!"StepFun: {sanitizeRationale model.rationale fallback.rationale}"

-- A point that is taken: within the effective bounds, and outside the zones once it is rounded.
structure Taken (bounds : OptimizerBounds) (memory : AiMemory) (point : Axes ℚ) : Prop where
  inside : (memory.effectiveOptimizerBounds bounds).Holds point
  clear : isForbidden point.rounded memory.forbiddenZones = false

theorem recommendationAt_point : (recommendationAt model outcomes fallback point).point = point.rounded := rfl

theorem point_given (given : model.point = some point) : model.targetTemperatureC = some point.temperatureC ∧
    model.targetStirrerRpm = some point.stirrerRpm ∧ model.heatingMinutes = some point.heatingMinutes ∧
    model.stirringMinutes = some point.stirringMinutes := by
  obtain ⟨temperature,one,given⟩ := Option.bind_eq_some_iff.mp given
  obtain ⟨stirrer,two,given⟩ := Option.bind_eq_some_iff.mp given
  obtain ⟨heating,three,given⟩ := Option.bind_eq_some_iff.mp given
  obtain ⟨stirring,four,given⟩ := Option.bind_eq_some_iff.mp given
  cases given
  exact ⟨one,two,three,four⟩

theorem validateModelRecommendation_ok {record : RecommendationRecord} :
    validateModelRecommendation model bounds memory outcomes fallback = .ok record ↔
      ∃ point, model.point = some point ∧ Taken bounds memory point ∧
        record = recommendationAt model outcomes fallback point := by
  constructor
  · intro accepted
    obtain ⟨temperatureC,temperature,accepted⟩ := Wire.bind_ok accepted
    obtain ⟨stirrerRpm,stirrer,accepted⟩ := Wire.bind_ok accepted
    obtain ⟨heatingMinutes,heating,accepted⟩ := Wire.bind_ok accepted
    obtain ⟨stirringMinutes,stirring,accepted⟩ := Wire.bind_ok accepted
    simp only at accepted
    obtain ⟨temperatureGiven,temperatureInside⟩ := finiteInRange_ok.mp temperature
    obtain ⟨stirrerGiven,stirrerInside⟩ := finiteInRange_ok.mp stirrer
    obtain ⟨heatingGiven,heatingInside⟩ := finiteInRange_ok.mp heating
    obtain ⟨stirringGiven,stirringInside⟩ := finiteInRange_ok.mp stirring
    refine ⟨⟨temperatureC,stirrerRpm,heatingMinutes,stirringMinutes⟩,?_,⟨?_,?_⟩,?_⟩
    · rw [ModelRecommendation.point,temperatureGiven,stirrerGiven,heatingGiven,stirringGiven]
      rfl
    · rintro (_ | _ | _ | _) <;> assumption
    · split at accepted
      · cases accepted
      · rename_i clear
        exact Bool.eq_false_iff.mpr clear
    · split at accepted
      · cases accepted
      · unfold recommendationAt
        split at accepted
        · rename_i blank
          rw [if_pos blank]
          cases accepted
          rfl
        · rename_i given
          rw [if_neg given]
          cases accepted
          rfl
  · intro reached
    rcases reached with ⟨point,given,⟨inside,clear⟩,rfl⟩
    obtain ⟨temperature,stirrer,heating,stirring⟩ := point_given given
    have first : finiteInRange "target_temperature_c" model.targetTemperatureC
        (memory.effectiveOptimizerBounds bounds).minTemperatureC (memory.effectiveOptimizerBounds bounds).maxTemperatureC =
        .ok point.temperatureC := finiteInRange_ok.mpr ⟨temperature,inside .temperatureC⟩
    have second : finiteInRange "target_stirrer_rpm" model.targetStirrerRpm
        (memory.effectiveOptimizerBounds bounds).minStirrerRpm (memory.effectiveOptimizerBounds bounds).maxStirrerRpm =
        .ok point.stirrerRpm := finiteInRange_ok.mpr ⟨stirrer,inside .stirrerRpm⟩
    have third : finiteInRange "heating_minutes" model.heatingMinutes
        (memory.effectiveOptimizerBounds bounds).minHeatingMinutes (memory.effectiveOptimizerBounds bounds).maxHeatingMinutes =
        .ok point.heatingMinutes := finiteInRange_ok.mpr ⟨heating,inside .heatingMinutes⟩
    have fourth : finiteInRange "stirring_minutes" model.stirringMinutes
        (memory.effectiveOptimizerBounds bounds).minStirringMinutes (memory.effectiveOptimizerBounds bounds).maxStirringMinutes =
        .ok point.stirringMinutes := finiteInRange_ok.mpr ⟨stirring,inside .stirringMinutes⟩
    unfold validateModelRecommendation
    simp only
    rw [Wire.ok_bind first,Wire.ok_bind second,Wire.ok_bind third,Wire.ok_bind fourth]
    unfold recommendationAt
    split
    · rename_i forbidden
      have refused : isForbidden point.rounded memory.forbiddenZones = true := forbidden
      rw [clear] at refused
      cases refused
    · split
      · rfl
      · rfl

-- What the callers of the provider rely on.
structure Trusted (bounds : OptimizerBounds) (memory : AiMemory) (record : RecommendationRecord) : Prop where
  inside : (memory.effectiveOptimizerBounds bounds).Holds record.point
  clear : ∀ zone ∈ memory.forbiddenZones, zone.contains record.point = false
  scored : recommendationExpectedScoreRange.Holds record.expectedScore
  storable : validateRecommendationRecord record = .ok record
  recognised : ∀ provider, providerAllowsRecommendation (some provider) record = true

-- A number that is still between the two bounds once it is rounded to hundredths.
def RoundsBetween (low high value : ℚ) : Prop := RoundsFrom low value ∧ RoundsTo high value

theorem roundsBetween {low high value : ℚ} : RoundsBetween low high value ↔ low ≤ round2 value ∧ round2 value ≤ high :=
  and_congr le_round2.symm round2_le.symm

-- Rounding takes the point neither out of the bounds nor out of the record's ranges, and the model or
-- the fallback has a rationale.
structure Presentable (bounds : OptimizerBounds) (memory : AiMemory) (model : ModelRecommendation)
    (fallback : RecommendationRecord) (point : Axes ℚ) : Prop where
  bounded : ∀ axis, RoundsBetween ((memory.effectiveOptimizerBounds bounds).low.on axis)
    ((memory.effectiveOptimizerBounds bounds).high.on axis) (point.on axis)
  ranged : ∀ axis, RoundsBetween (recordRanges.on axis).min (recordRanges.on axis).max (point.on axis)
  explained : trim model.rationale ≠ "" ∨ fallback.rationale ≠ ""

theorem score_holds (value : Option ℚ) (fallback : ℚ) :
    recommendationExpectedScoreRange.Holds (round2 (clampFinite value 0 100 fallback)) := by
  have zero : round2 0 = 0 := by simpa using round2_hundredth 0
  have hundred : round2 100 = 100 := by decide +kernel
  have above : (0:ℚ) ≤ clampFinite value 0 100 fallback := le_max_left _ _
  have below : clampFinite value 0 100 fallback ≤ 100 := max_le (by norm_num) (min_le_right _ _)
  exact ⟨le_round2_of_le zero above,round2_le_of_le hundred below⟩

theorem rationale_recognised : startsWith "StepFun:" (recommendationAt model outcomes fallback point).rationale = true ↔
    trim model.rationale ≠ "" ∨ fallback.rationale ≠ "" := by
  have blank := @sanitizeRationale_blank model.rationale fallback.rationale
  unfold recommendationAt
  simp only
  split
  · rename_i empty
    obtain ⟨one,other⟩ := blank.mp empty
    simp only [one,other]
    decide
  · rename_i given
    constructor
    · intro _
      by_contra neither
      push Not at neither
      exact given (blank.mpr neither)
    · intro _
      simp [startsWith,toString]

theorem allowed_provided {record : RecommendationRecord} : providerAllowsRecommendation (some provider) record =
    startsWith "StepFun:" record.rationale := Bool.false_or _

theorem trusted_iff (taken : Taken bounds memory point) :
    Trusted bounds memory (recommendationAt model outcomes fallback point) ↔
      Presentable bounds memory model fallback point := by
  have counted : 0 ≤ (recommendationAt model outcomes fallback point).basedOnBatchCount := Int.natCast_nonneg _
  have stored := validateRecommendationRecord_ok counted
  rw [recommendationAt_point] at stored
  have rounded : ∀ axis, point.rounded.on axis = round2 (point.on axis) := fun axis => by rw [Axes.rounded,Axes.on_each]
  constructor
  · intro reached
    rcases reached with ⟨inside,_,_,storable,recognised⟩
    rw [recommendationAt_point] at inside
    have kept := (stored.mp storable).1
    refine ⟨fun axis => roundsBetween.mpr ?_,fun axis => roundsBetween.mpr ?_,?_⟩
    · rw [← rounded]
      exact inside axis
    · rw [← rounded]
      exact kept axis
    · have marked := recognised ⟨none,.messages⟩
      rw [allowed_provided,rationale_recognised] at marked
      exact marked
  · intro reached
    rcases reached with ⟨bounded,ranged,explained⟩
    refine ⟨?_,?_,score_holds _ _,stored.mpr ⟨fun axis => ?_,score_holds _ _⟩,fun provider => ?_⟩
    · rw [recommendationAt_point]
      intro axis
      rw [rounded]
      exact roundsBetween.mp (bounded axis)
    · rw [recommendationAt_point]
      intro zone member
      have clear := List.any_eq_false.mp taken.clear zone member
      exact Bool.eq_false_iff.mpr clear
    · rw [rounded]
      exact roundsBetween.mp (ranged axis)
    · rw [allowed_provided,rationale_recognised]
      exact explained

-- The text that the provider answers with, once it has one.
def AiProvider.finalText (provider : AiProvider) (reply : Nat → Reply) : Except String String :=
  match provider.apiKey with
  | none => .error "StepFun API key is not configured"
  | some _ => attempts .ok reply stepfunMaxAttempts none

theorem attempts_handled {α : Type} (handle : String → Except String α) (left : Nat) (lastError : Option String) :
    attempts handle reply left lastError = attempts .ok reply left lastError >>= handle := by
  induction left generalizing lastError with
  | zero => rfl
  | succ left ih =>
      unfold attempts
      simp only
      cases reply (stepfunMaxAttempts-left) with
      | failed retryable cause =>
          simp only
          split
          · exact ih _
          · rfl
      | answered status text =>
          cases text with
          | none => rfl
          | some text =>
              simp only
              split
              · rfl
              · split
                · exact ih _
                · rfl

theorem recommend_ok {record : RecommendationRecord} :
    provider.recommend serde reply bounds memory outcomes fallback = .ok record ↔
      ∃ text model point, provider.finalText reply = .ok text ∧
        modelRecommendation serde provider.apiType text = .ok model ∧ model.point = some point ∧
        Taken bounds memory point ∧ record = recommendationAt model outcomes fallback point := by
  unfold AiProvider.recommend AiProvider.finalText
  cases provider.apiKey with
  | none => simp
  | some key =>
      simp only
      rw [attempts_handled]
      constructor
      · intro done
        obtain ⟨text,answered,done⟩ := Wire.bind_ok done
        obtain ⟨model,carried,done⟩ := Wire.bind_ok done
        obtain ⟨point,given,taken,same⟩ := validateModelRecommendation_ok.mp done
        exact ⟨text,model,point,answered,carried,given,taken,same⟩
      · intro reached
        rcases reached with ⟨text,model,point,answered,carried,given,taken,same⟩
        rw [Wire.ok_bind answered,Wire.ok_bind carried]
        exact validateModelRecommendation_ok.mpr ⟨point,given,taken,same⟩

-- Every recommendation of the provider can be trusted just where what the model's text carries survives
-- the rounding and is explained.
theorem provider_trusted_iff (serde : Serde) (provider : AiProvider) (reply : Nat → Reply) (bounds : OptimizerBounds)
    (memory : AiMemory) (outcomes : List BatchOutcome) (fallback : RecommendationRecord) :
    (∀ record, provider.recommend serde reply bounds memory outcomes fallback = .ok record → Trusted bounds memory record) ↔
      ∀ text model point, provider.finalText reply = .ok text → modelRecommendation serde provider.apiType text = .ok model →
        model.point = some point → Taken bounds memory point → Presentable bounds memory model fallback point := by
  constructor
  · intro trusted text model point answered carried given taken
    exact (trusted_iff taken).mp (trusted _ (recommend_ok.mpr ⟨text,model,point,answered,carried,given,taken,rfl⟩))
  · intro presentable record done
    obtain ⟨text,model,point,answered,carried,given,taken,rfl⟩ := recommend_ok.mp done
    exact (trusted_iff taken).mpr (presentable text model point answered carried given taken)

-- A memory that raises the least temperature to one between two hundredths.
def tightMemory : AiMemory where
  profile := ⟨"bench","1"⟩
  recommendation := ⟨true,false,⟨{min := some (35014/1000)},{},{},{}⟩⟩

def proposalText : String :=
  "\x7b\"target_temperature_c\":35.014,\"target_stirrer_rpm\":300,\"heating_minutes\":60,\"stirring_minutes\":60," ++
  "\"expected_score\":80,\"rationale\":\"ok\"\x7d"

def responseText : String := "\x7b\"choices\":[\x7b\"message\":\x7b\"content\":\"" ++
  String.ofList (proposalText.toList.flatMap fun ch => if ch == '"' then ['\\','"'] else [ch]) ++ "\"\x7d\x7d]\x7d"

def readProposal : Serde where
  chatCompletion text := if text == responseText then some ⟨[{content := proposalText}]⟩ else none
  messages _ := none
  recommendation text := if text == proposalText then
    some ⟨some (35014/1000),some 300,some 60,some 60,some 80,"ok"⟩ else none

def localFallback : RecommendationRecord where
  targetTemperatureC := 60
  targetStirrerRpm := 300
  heatingMinutes := 60
  stirringMinutes := 60
  basedOnBatchCount := 1
  expectedScore := 80
  rationale := "local"

theorem rounded_below_bound : validateOptimizerBounds SafetyConfig.shipped.optimizer = .ok () ∧
    tightMemory.validateAgainstOptimizerBounds SafetyConfig.shipped.optimizer = .ok () ∧
    (tightMemory.effectiveOptimizerBounds SafetyConfig.shipped.optimizer).minTemperatureC = 35014/1000 ∧
    ∃ record, AiProvider.recommend ⟨some "key",.chatCompletions⟩ readProposal (fun _ => .answered 200 (some responseText))
      SafetyConfig.shipped.optimizer tightMemory [⟨1,60,300,60,60,80,9/10⟩] localFallback = .ok record ∧
      record.targetTemperatureC = 3501/100 ∧ ¬Trusted SafetyConfig.shipped.optimizer tightMemory record := by
  have bound : (tightMemory.effectiveOptimizerBounds SafetyConfig.shipped.optimizer).minTemperatureC = 35014/1000 := by
    decide +kernel
  have evaluated : ((AiProvider.recommend ⟨some "key",.chatCompletions⟩ readProposal
      (fun _ => .answered 200 (some responseText)) SafetyConfig.shipped.optimizer tightMemory [⟨1,60,300,60,60,80,9/10⟩]
      localFallback).toOption.map (·.targetTemperatureC)) = some (3501/100) := by decide +kernel
  refine ⟨by decide +kernel,by decide +kernel,bound,?_⟩
  cases done : AiProvider.recommend ⟨some "key",.chatCompletions⟩ readProposal (fun _ => .answered 200 (some responseText))
      SafetyConfig.shipped.optimizer tightMemory [⟨1,60,300,60,60,80,9/10⟩] localFallback with
  | error err =>
      rw [done] at evaluated
      cases evaluated
  | ok record =>
      rw [done] at evaluated
      have place : record.targetTemperatureC = 3501/100 := Option.some.inj evaluated
      refine ⟨record,rfl,place,fun trusted => ?_⟩
      have above : (tightMemory.effectiveOptimizerBounds SafetyConfig.shipped.optimizer).minTemperatureC ≤
          record.targetTemperatureC := (trusted.inside .temperatureC).1
      rw [bound,place] at above
      exact absurd above (by norm_num)

end ReactorOS
