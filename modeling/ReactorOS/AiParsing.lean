import ReactorOS.AiProvider
import ReactorOS.Wire.Slices
namespace ReactorOS
open Wire

-- How a computation ends that returns no value.
inductive Halt where
  | panicked
  | failed (error : String)
  deriving DecidableEq

def orFail {α : Type} (result : Except String α) : Except Halt α := result.mapError .failed

def unfenced (content : String) : String :=
  trim (trimEndMatches "```" (trimStartMatches "```" (trimStartMatches "```json" (trim content))))

namespace Sliced

-- `value.clamp(min, max)` asserts that the bounds are in order.
def clamp (value min max : ℚ) : Except Halt ℚ :=
  if min ≤ max then .ok (Max.max min (Min.min value max)) else .error .panicked

def jsonBlock (content : List Char) : Except Halt String :=
  match find '\x7b' content,rfind '\x7d' content with
  | none,_ => .error (.failed "StepFun content did not contain JSON object")
  | some _,none => .error (.failed "StepFun content did not contain JSON object end")
  | some start,some stop =>
      match sliceInclusive start stop content with
      | some block => .ok (String.ofList block)
      | none => .error .panicked

def parseJsonBlock (serde : Serde) (content : String) : Except Halt ModelRecommendation := do
  let block ← jsonBlock (unfenced content).toList
  match serde.recommendation block with
  | some model => return model
  | none => throw (.failed "failed to parse JSON object from content")

def clampFinite (value : Option ℚ) (min max fallback : ℚ) : Except Halt ℚ := clamp (value.getD fallback) min max

def validateModelRecommendation (model : ModelRecommendation) (bounds : OptimizerBounds) (memory : AiMemory)
    (outcomes : List BatchOutcome) (fallback : RecommendationRecord) : Except Halt RecommendationRecord := do
  let effective := memory.effectiveOptimizerBounds bounds
  let targetTemperatureC ← orFail (finiteInRange "target_temperature_c" model.targetTemperatureC
    effective.minTemperatureC effective.maxTemperatureC)
  let targetStirrerRpm ← orFail (finiteInRange "target_stirrer_rpm" model.targetStirrerRpm
    effective.minStirrerRpm effective.maxStirrerRpm)
  let heatingMinutes ← orFail (finiteInRange "heating_minutes" model.heatingMinutes
    effective.minHeatingMinutes effective.maxHeatingMinutes)
  let stirringMinutes ← orFail (finiteInRange "stirring_minutes" model.stirringMinutes
    effective.minStirringMinutes effective.maxStirringMinutes)
  let expectedScore ← clampFinite model.expectedScore 0 100 fallback.expectedScore
  let recommendation : RecommendationRecord := {
    basedOnBatchCount := outcomes.length
    targetTemperatureC := round2 targetTemperatureC
    targetStirrerRpm := round2 targetStirrerRpm
    heatingMinutes := round2 heatingMinutes
    stirringMinutes := round2 stirringMinutes
    expectedScore := round2 expectedScore
    rationale := sanitizeRationale model.rationale fallback.rationale }
  if isForbidden recommendation.point memory.forbiddenZones then
    throw (.failed "StepFun recommendation was rejected by forbidden-zone validation; local fallback is disabled when StepFun is configured")
  else if recommendation.rationale.isEmpty then
    return {recommendation with rationale := "StepFun 根据历史批次、参考记忆和禁区生成推荐。"}
  else return {recommendation with rationale := s!"StepFun: {recommendation.rationale}"}

def modelRecommendation (serde : Serde) (apiType : StepFunApiType) (text : String) : Except Halt ModelRecommendation := do
  let content ← orFail (extractResponseContent serde apiType text)
  match serde.recommendation content with
  | some model => return model
  | none => parseJsonBlock serde content

-- What becomes of the body of an answer in `recommend`.
def answered (serde : Serde) (apiType : StepFunApiType) (bounds : OptimizerBounds) (memory : AiMemory)
    (outcomes : List BatchOutcome) (fallback : RecommendationRecord) (text : String) : Except Halt RecommendationRecord := do
  let model ← modelRecommendation serde apiType text
  validateModelRecommendation model bounds memory outcomes fallback

end Sliced

def answerText (message : ChatMessage) : String :=
  if (trim message.content).isEmpty then trim message.reasoning else trim message.content

def blocksText (blocks : List MessageContentBlock) : String :=
  join '\n' (((blocks.filter fun block => block.blockType == "text").map fun block => trim block.text).filter fun text => !text.isEmpty)

-- The text that a body carries for the model's answer.
def Carries (serde : Serde) : StepFunApiType → String → String → Prop
  | .chatCompletions,body,content => ∃ response message, serde.chatCompletion body = some response ∧
      response.choices.head? = some message ∧ answerText message = content ∧ content ≠ ""
  | .messages,body,content => ∃ response, serde.messages body = some response ∧
      blocksText response.content = content ∧ trim content ≠ ""

variable {serde : Serde} {apiType : StepFunApiType} {text content : String}

section Results
variable {α β : Type} {result : Except String α}

@[simp] theorem orFail_ok (value : α) : orFail (.ok value) = .ok value := rfl

@[simp] theorem orFail_error (error : String) : orFail (α := α) (.error error) = .error (.failed error) := rfl

theorem orFail_returns : orFail result ≠ .error .panicked := by
  cases result <;> nofun

theorem bind_orFail {further : α → Except Halt β} {next : α → Except String β}
    (each : ∀ value, result = .ok value → further value = orFail (next value)) :
    (orFail result >>= further) = orFail (result >>= next) := by
  cases result with
  | error error => rfl
  | ok value => exact each value rfl

theorem bind_panics {further : α → Except Halt β} : (orFail result >>= further) = .error .panicked ↔
    ∃ value, result = .ok value ∧ further value = .error .panicked := by
  cases result with
  | error error =>
      constructor
      · nofun
      · rintro ⟨_,given,_⟩
        cases given
  | ok value =>
      constructor
      · exact fun panics => ⟨value,rfl,panics⟩
      · rintro ⟨_,given,panics⟩
        cases given
        exact panics

end Results

-- An answer is taken when there is one, and it is not empty.
theorem answered_ok (found : Option String) : (match found.filter fun content => !content.isEmpty with
    | some content => (return content : Except String String)
    | none => throw "StepFun response did not contain message content or reasoning") = .ok content ↔
    found = some content ∧ content ≠ "" := by
  cases found with
  | none => simp [throw,throwThe,MonadExceptOf.throw]
  | some answer =>
      by_cases blank : answer = ""
      · subst blank
        simp [Option.filter,throw,throwThe,MonadExceptOf.throw]
      · have kept : (some answer).filter (fun content => !content.isEmpty) = some answer := by simp [Option.filter,blank]
        rw [kept]
        constructor
        · intro done
          obtain rfl := Except.ok.inj done
          exact ⟨rfl,blank⟩
        · rintro ⟨same,_⟩
          cases same
          rfl

theorem extractChatCompletionContent_ok : extractChatCompletionContent serde text = .ok content ↔
    Carries serde .chatCompletions text content := by
  unfold extractChatCompletionContent Carries
  cases read : serde.chatCompletion text with
  | none => simp [read,throw,throwThe,MonadExceptOf.throw]
  | some response =>
      refine (answered_ok (response.choices.head?.map answerText)).trans ?_
      constructor
      · rintro ⟨answer,answers⟩
        obtain ⟨message,head,rfl⟩ := Option.map_eq_some_iff.mp answer
        exact ⟨response,message,read,head,rfl,answers⟩
      · rintro ⟨_,_,given,head,rfl,answers⟩
        cases read.symm.trans given
        exact ⟨by rw [head]; rfl,answers⟩

theorem extractMessagesContent_ok : extractMessagesContent serde text = .ok content ↔ Carries serde .messages text content := by
  unfold extractMessagesContent Carries
  cases read : serde.messages text with
  | none => simp [read,throw,throwThe,MonadExceptOf.throw]
  | some response =>
      change (do
        if (trim (blocksText response.content)).isEmpty then throw "StepFun messages response did not contain text content"
        return blocksText response.content : Except String String) = _ ↔ _
      by_cases blank : trim (blocksText response.content) = ""
      · rw [if_pos (String.isEmpty_iff.mpr blank)]
        constructor
        · nofun
        · rintro ⟨_,given,rfl,some'⟩
          cases read.symm.trans given
          exact absurd blank some'
      · rw [if_neg fun empty => blank (String.isEmpty_iff.mp empty)]
        constructor
        · intro done
          cases done
          exact ⟨response,read,rfl,blank⟩
        · rintro ⟨_,given,rfl,_⟩
          cases read.symm.trans given
          rfl

theorem extractResponseContent_ok : extractResponseContent serde apiType text = .ok content ↔ Carries serde apiType text content := by
  cases apiType with
  | chatCompletions => exact extractChatCompletionContent_ok
  | messages => exact extractMessagesContent_ok

theorem findIdx_first {ch : Char} {front back : List Char} (first : ch ∉ front) :
    (front ++ ch :: back).findIdx? (· == ch) = some front.length := by
  rw [List.findIdx?_append,List.findIdx?_eq_none_iff.mpr]
  · simp [List.findIdx?_cons]
  · intro other member
    exact beq_false_of_ne fun same => first (same ▸ member)

theorem findIdx_absent {ch : Char} {content : List Char} : content.findIdx? (· == ch) = none ↔ ch ∉ content := by
  rw [List.findIdx?_eq_none_iff]
  constructor
  · exact fun every member => absurd (every ch member) (by simp)
  · exact fun absent other member => beq_false_of_ne fun same => absent (same ▸ member)

-- Where no slice panics, the block is that of the model without slices.
theorem jsonBlock_sliced {content : List Char} (apart : ¬Crossed '\x7b' '\x7d' content) :
    Sliced.jsonBlock content = orFail (jsonBlock content) := by
  unfold Sliced.jsonBlock jsonBlock
  by_cases opens : '\x7b' ∈ content
  · by_cases closes : '\x7d' ∈ content
    · obtain ⟨front,back,split,first⟩ := mem_first opens
      obtain ⟨front',back',split',last⟩ := mem_last closes
      have start : find '\x7b' content = some (byteLength front) := split ▸ find_at first
      have stop : rfind '\x7d' content = some (byteLength front') := split' ▸ rfind_at last
      have start' : content.findIdx? (· == '\x7b') = some front.length := split ▸ findIdx_first first
      have stop' : content.reverse.findIdx? (· == '\x7d') = some back'.length := by
        rw [split',List.reverse_append,List.reverse_cons,List.append_assoc,List.singleton_append,
          findIdx_first (by simpa using last),List.length_reverse]
      have sliced : sliceInclusive (byteLength front) (byteLength front') content =
          some ((content.drop front.length).take (content.length-back'.length-front.length)) ∧
          front.length+back'.length ≤ content.length := by
        rcases List.append_eq_append_iff.mp (split.symm.trans split') with ⟨between,rfl,_⟩ | ⟨between,rfl,rest⟩
        · rw [split',sliceInclusive_append (by decide)]
          refine ⟨?_,by simp; omega⟩
          have width : (front ++ between ++ '\x7d' :: back').length-back'.length-front.length = (between ++ ['\x7d']).length := by
            simp
            omega
          have whole : front ++ between ++ '\x7d' :: back' = front ++ ((between ++ ['\x7d']) ++ back') := by simp
          rw [width,whole,List.drop_left,List.take_left]
        · cases between with
          | nil => simp at rest
          | cons ch middle =>
              rw [List.cons_append] at rest
              obtain ⟨rfl,rfl⟩ := List.cons.inj rest
              cases middle with
              | nil =>
                  rw [split,sliceInclusive_empty (by decide)]
                  refine ⟨?_,by simp; omega⟩
                  simp
                  omega
              | cons ch middle =>
                  refine absurd ⟨front',ch :: middle,back,by simpa using split,by simp,?_,?_⟩ apart
                  · simp only [List.mem_append,List.mem_cons,not_or] at first ⊢
                    exact ⟨first.1,first.2.2⟩
                  · simp only [List.mem_append,List.mem_cons,not_or] at last ⊢
                    exact ⟨last.1,last.2.2⟩
      rw [start,stop,start',stop']
      simp only [sliced.1,if_neg (Nat.not_lt.mpr sliced.2)]
      rfl
    · have behind : '\x7d' ∉ content.reverse := by simpa using closes
      rw [rfind_none.mpr closes,findIdx_absent.mpr behind]
      cases start : find '\x7b' content with
      | none => exact absurd opens (find_none.mp start)
      | some place =>
          cases start' : content.findIdx? (· == '\x7b') with
          | none => exact absurd opens (findIdx_absent.mp start')
          | some place' => rfl
  · rw [find_none.mpr opens,findIdx_absent.mpr opens]
    rfl

theorem jsonBlock_panics {content : List Char} :
    Sliced.jsonBlock content = .error .panicked ↔ Crossed '\x7b' '\x7d' content := by
  constructor
  · intro panics
    unfold Sliced.jsonBlock at panics
    cases start : find '\x7b' content with
    | none =>
        rw [start] at panics
        cases panics
    | some place =>
        cases stop : rfind '\x7d' content with
        | none =>
            rw [start,stop] at panics
            cases panics
        | some place' =>
            rw [start,stop] at panics
            cases slice : sliceInclusive place place' content with
            | none => exact (slice_panics (by decide) (by decide) start stop).mp slice
            | some block =>
                simp only [slice] at panics
                cases panics
  · intro crossed
    have crossed' := crossed
    obtain ⟨front,middle,back,same,_⟩ := crossed'
    have opens : '\x7b' ∈ content := by simp [same]
    have closes : '\x7d' ∈ content := by simp [same]
    unfold Sliced.jsonBlock
    cases start : find '\x7b' content with
    | none => exact absurd opens (find_none.mp start)
    | some place =>
        cases stop : rfind '\x7d' content with
        | none => exact absurd closes (rfind_none.mp stop)
        | some place' => simp only [(slice_panics (by decide) (by decide) start stop).mpr crossed]

theorem clampFinite_sliced {value : Option ℚ} {min max fallback : ℚ} (ordered : min ≤ max) :
    Sliced.clampFinite value min max fallback = .ok (clampFinite value min max fallback) := if_pos ordered

theorem validate_sliced (model : ModelRecommendation) (bounds : OptimizerBounds) (memory : AiMemory)
    (outcomes : List BatchOutcome) (fallback : RecommendationRecord) :
    Sliced.validateModelRecommendation model bounds memory outcomes fallback =
      orFail (validateModelRecommendation model bounds memory outcomes fallback) := by
  refine bind_orFail fun temperature _ => bind_orFail fun stirrer _ => ?_
  refine bind_orFail fun heating _ => bind_orFail fun stirring _ => ?_
  rw [clampFinite_sliced (by norm_num)]
  simp only [bind,Except.bind]
  split
  · rfl
  · split
    · rfl
    · rfl

theorem parseJsonBlock_sliced (apart : ¬Crossed '\x7b' '\x7d' (unfenced content).toList) :
    Sliced.parseJsonBlock serde content = orFail (parseJsonBlock serde content) := by
  unfold Sliced.parseJsonBlock
  rw [jsonBlock_sliced apart]
  refine bind_orFail fun block _ => ?_
  cases serde.recommendation block <;> rfl

theorem parseJsonBlock_panics : Sliced.parseJsonBlock serde content = .error .panicked ↔
    Crossed '\x7b' '\x7d' (unfenced content).toList := by
  constructor
  · intro panics
    by_contra apart
    rw [parseJsonBlock_sliced apart] at panics
    exact orFail_returns panics
  · intro crossed
    unfold Sliced.parseJsonBlock
    rw [jsonBlock_panics.mpr crossed]
    rfl

section Answered
variable {bounds : OptimizerBounds} {memory : AiMemory} {outcomes : List BatchOutcome} {fallback : RecommendationRecord}

-- In no text that is searched for an object does the last one end before the first one begins.
def Sliceable (serde : Serde) (apiType : StepFunApiType) (text : String) : Prop :=
  ∀ content, Carries serde apiType text content → serde.recommendation content = none →
    ¬Crossed '\x7b' '\x7d' (unfenced content).toList

theorem modelRecommendation_sliced (sliceable : Sliceable serde apiType text) :
    Sliced.modelRecommendation serde apiType text = orFail (modelRecommendation serde apiType text) := by
  unfold Sliced.modelRecommendation modelRecommendation
  refine bind_orFail fun content carried => ?_
  cases rejected : serde.recommendation content with
  | some model => rfl
  | none => exact parseJsonBlock_sliced (sliceable content (extractResponseContent_ok.mp carried) rejected)

theorem answered_sliced (sliceable : Sliceable serde apiType text) :
    Sliced.answered serde apiType bounds memory outcomes fallback text = orFail (do
      let model ← modelRecommendation serde apiType text
      validateModelRecommendation model bounds memory outcomes fallback) := by
  unfold Sliced.answered
  rw [modelRecommendation_sliced sliceable]
  exact bind_orFail fun model _ => validate_sliced model bounds memory outcomes fallback

theorem answered_panics (carried : Carries serde apiType text content) (rejected : serde.recommendation content = none)
    (crossed : Crossed '\x7b' '\x7d' (unfenced content).toList) :
    Sliced.answered serde apiType bounds memory outcomes fallback text = .error .panicked := by
  have parsed : Sliced.modelRecommendation serde apiType text = .error .panicked := by
    unfold Sliced.modelRecommendation
    refine bind_panics.mpr ⟨content,extractResponseContent_ok.mpr carried,?_⟩
    simp only [rejected]
    exact parseJsonBlock_panics.mpr crossed
  unfold Sliced.answered
  rw [parsed]
  rfl

end Answered

theorem answered_returns_iff (serde : Serde) (apiType : StepFunApiType) (bounds : OptimizerBounds) (memory : AiMemory)
    (outcomes : List BatchOutcome) (fallback : RecommendationRecord) (text : String) :
    Sliced.answered serde apiType bounds memory outcomes fallback text ≠ .error .panicked ↔ Sliceable serde apiType text := by
  constructor
  · intro returns content carried rejected crossed
    exact returns (answered_panics carried rejected crossed)
  · intro sliceable
    rw [answered_sliced sliceable]
    exact orFail_returns

-- The answer mentions the end of an object before it begins one.
def crossedBody : String := "\x7b\"choices\":[\x7b\"message\":\x7b\"content\":\"no \x7d, then \x7b\"\x7d\x7d]\x7d"

def readCrossed : Serde where
  chatCompletion text := if text == crossedBody then some ⟨[{content := "no \x7d, then \x7b"}]⟩ else none
  messages _ := none
  recommendation _ := none

theorem answered_panics_crossed : ¬∀ (serde : Serde) (apiType : StepFunApiType) (bounds : OptimizerBounds) (memory : AiMemory)
    (outcomes : List BatchOutcome) (fallback : RecommendationRecord) (text : String),
      Sliced.answered serde apiType bounds memory outcomes fallback text ≠ .error .panicked := by
  intro returns
  refine returns readCrossed .chatCompletions SafetyConfig.shipped.optimizer {profile := ⟨"bench","1"⟩} []
    ⟨⟨60,300,60,60⟩,1,80,"local"⟩ crossedBody ?_
  refine @answered_panics _ _ crossedBody "no \x7d, then \x7b" _ _ _ _ ?_ rfl ?_
  · exact ⟨⟨[{content := "no \x7d, then \x7b"}]⟩,{content := "no \x7d, then \x7b"},by simp [readCrossed],rfl,by decide,by decide⟩
  · refine ⟨"no ".toList,", then ".toList,[],by decide,by decide,by decide,by decide⟩

end ReactorOS
