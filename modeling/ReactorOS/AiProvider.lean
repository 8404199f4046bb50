import ReactorOS.Optimizer
import ReactorOS.Text
namespace ReactorOS
open Wire

inductive StepFunApiType where
  | chatCompletions | messages
  deriving DecidableEq

structure AiProvider where
  apiKey : Option String
  apiType : StepFunApiType

structure ChatMessage where
  content : String := ""
  reasoning : String := ""

structure ChatCompletionResponse where
  choices : List ChatMessage

structure MessageContentBlock where
  blockType : String
  text : String := ""

structure MessagesResponse where
  content : List MessageContentBlock

-- A number that is not finite is `none`.
structure ModelRecommendation where
  targetTemperatureC : Option ℚ
  targetStirrerRpm : Option ℚ
  heatingMinutes : Option ℚ
  stirringMinutes : Option ℚ
  expectedScore : Option ℚ
  rationale : String

-- What serde makes of a text, for each type that is read from one.
structure Serde where
  chatCompletion : String → Option ChatCompletionResponse
  messages : String → Option MessagesResponse
  recommendation : String → Option ModelRecommendation

-- What comes of one request. A body may break off while it is read.
inductive Reply where
  | failed (retryable : Bool) (cause : String)
  | answered (status : Nat) (text : Option String)

def stepfunMaxAttempts : Nat := 3

def isSuccess (status : Nat) : Bool := 200 ≤ status && status < 300

def retryableStatus (status : Nat) : Bool := status == 429 || (500 ≤ status && status < 600)

def extractChatCompletionContent (serde : Serde) (text : String) : Except String String := do
  let some response := serde.chatCompletion text | throw "failed to parse StepFun chat response"
  let content := response.choices.head?.map fun message =>
    if (trim message.content).isEmpty then trim message.reasoning else trim message.content
  match content.filter fun content => !content.isEmpty with
  | some content => return content
  | none => throw "StepFun response did not contain message content or reasoning"

def extractMessagesContent (serde : Serde) (text : String) : Except String String := do
  let some response := serde.messages text | throw "failed to parse StepFun messages response"
  let texts := (response.content.filter fun block => block.blockType == "text").map fun block => trim block.text
  let content := join '\n' (texts.filter fun text => !text.isEmpty)
  if (trim content).isEmpty then throw "StepFun messages response did not contain text content"
  return content

def extractResponseContent (serde : Serde) : StepFunApiType → String → Except String String
  | .chatCompletions => extractChatCompletionContent serde
  | .messages => extractMessagesContent serde

-- Without the mark at its front, as often as it stands there.
def dropMarks (mark : List Char) : Nat → List Char → List Char
  | 0,text => text
  | more+1,text => match mark.isPrefixOf? text with
      | some rest => dropMarks mark more rest
      | none => text

def trimStartMatches (mark text : String) : String := String.ofList (dropMarks mark.toList text.length text.toList)

def trimEndMatches (mark text : String) : String :=
  String.ofList (dropMarks mark.toList.reverse text.length text.toList.reverse).reverse

-- From the first opening brace to the last closing one.
def jsonBlock (content : List Char) : Except String String :=
  match content.findIdx? (· == '\x7b'),content.reverse.findIdx? (· == '\x7d') with
  | none,_ => .error "StepFun content did not contain JSON object"
  | some _,none => .error "StepFun content did not contain JSON object end"
  | some start,some behind =>
      -- A slice that ends before it starts panics.
      if content.length < start + behind then .error "byte range starts after its end"
      else .ok (String.ofList ((content.drop start).take (content.length-behind-start)))

def parseJsonBlock (serde : Serde) (content : String) : Except String ModelRecommendation := do
  let content := trim (trimEndMatches "```" (trimStartMatches "```" (trimStartMatches "```json" (trim content))))
  let block ← jsonBlock content.toList
  match serde.recommendation block with
  | some model => return model
  | none => throw "failed to parse JSON object from content"

def clampFinite (value : Option ℚ) (min max fallback : ℚ) : ℚ := Max.max min (Min.min (value.getD fallback) max)

def finiteInRange (field : String) (value : Option ℚ) (min max : ℚ) : Except String ℚ :=
  match value with
  | none => .error s!"StepFun field {field} must be finite"
  | some value =>
      if min ≤ value ∧ value ≤ max then .ok value
      else .error s!"StepFun field {field}={display value} is outside safety bounds {display min}..{display max}; local fallback is disabled"

-- Long text is cut to characters, though its length is counted in bytes.
def shortened (value : String) : String :=
  if 180 < value.utf8ByteSize then String.ofList (value.toList.take 180) else value

def sanitizeRationale (value fallback : String) : String :=
  let value := shortened (String.ofList ((trim value).toList.map fun ch => if ch == '\r' || ch == '\n' then ' ' else ch))
  if value.isEmpty then String.ofList (fallback.toList.take 120) else value

def validateModelRecommendation (model : ModelRecommendation) (bounds : OptimizerBounds) (memory : AiMemory)
    (outcomes : List BatchOutcome) (fallback : RecommendationRecord) : Except String RecommendationRecord := do
  let effective := memory.effectiveOptimizerBounds bounds
  let targetTemperatureC ← finiteInRange "target_temperature_c" model.targetTemperatureC
    effective.minTemperatureC effective.maxTemperatureC
  let targetStirrerRpm ← finiteInRange "target_stirrer_rpm" model.targetStirrerRpm
    effective.minStirrerRpm effective.maxStirrerRpm
  let heatingMinutes ← finiteInRange "heating_minutes" model.heatingMinutes
    effective.minHeatingMinutes effective.maxHeatingMinutes
  let stirringMinutes ← finiteInRange "stirring_minutes" model.stirringMinutes
    effective.minStirringMinutes effective.maxStirringMinutes
  let recommendation : RecommendationRecord := {
    basedOnBatchCount := outcomes.length
    targetTemperatureC := round2 targetTemperatureC
    targetStirrerRpm := round2 targetStirrerRpm
    heatingMinutes := round2 heatingMinutes
    stirringMinutes := round2 stirringMinutes
    expectedScore := round2 (clampFinite model.expectedScore 0 100 fallback.expectedScore)
    rationale := sanitizeRationale model.rationale fallback.rationale }
  if isForbidden recommendation.point memory.forbiddenZones then
    throw "StepFun recommendation was rejected by forbidden-zone validation; local fallback is disabled when StepFun is configured"
  else if recommendation.rationale.isEmpty then
    return {recommendation with rationale := "StepFun 根据历史批次、参考记忆和禁区生成推荐。"}
  else return {recommendation with rationale := s!"StepFun: {recommendation.rationale}"}

-- The recommendation that a text of the model carries.
def modelRecommendation (serde : Serde) (apiType : StepFunApiType) (text : String) : Except String ModelRecommendation := do
  let content ← extractResponseContent serde apiType text
  match serde.recommendation content with
  | some model => return model
  | none => parseJsonBlock serde content

-- The attempts that are left, with the error of the one before, until `handle` gets a text.
def attempts {α : Type} (handle : String → Except String α) (reply : Nat → Reply) : Nat → Option String → Except String α
  | 0,lastError => .error (lastError.getD "StepFun recommendation request failed after retries")
  | left+1,_ =>
      let attempt := stepfunMaxAttempts - left
      match reply attempt with
      | .failed retryable cause =>
          let message := s!"StepFun recommendation request failed on attempt {attempt}/{stepfunMaxAttempts}: {cause}"
          if retryable && attempt < stepfunMaxAttempts then attempts handle reply left (some message) else .error message
      | .answered _ none => .error "failed to read StepFun response body"
      | .answered status (some text) =>
          if isSuccess status then handle text else
          let message := s!"StepFun returned HTTP {status}: {text}"
          if retryableStatus status && attempt < stepfunMaxAttempts then attempts handle reply left (some message)
          else .error message

def AiProvider.recommend (provider : AiProvider) (serde : Serde) (reply : Nat → Reply) (bounds : OptimizerBounds)
    (memory : AiMemory) (outcomes : List BatchOutcome) (fallback : RecommendationRecord) :
    Except String RecommendationRecord :=
  match provider.apiKey with
  | none => .error "StepFun API key is not configured"
  | some _ => attempts (fun text => do
      let model ← modelRecommendation serde provider.apiType text
      validateModelRecommendation model bounds memory outcomes fallback) reply stepfunMaxAttempts none

def providerAllowsRecommendation (provider : Option AiProvider) (recommendation : RecommendationRecord) : Bool :=
  provider.isNone || startsWith "StepFun:" recommendation.rationale

end ReactorOS
