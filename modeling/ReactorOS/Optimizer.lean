import ReactorOS.Memory
import ReactorOS.Chance.Ranking
import Mathlib.Algebra.BigOperators.Group.List.Basic
import Mathlib.Algebra.Order.Floor.Ring
import Mathlib.Tactic.Positivity
namespace ReactorOS
open Chance

-- What the standard library does beyond arithmetic, as far as the search relies on it.
structure Elementary where
  sqrt : ℚ → ℚ
  exp : ℚ → ℚ
  sqrt_nonneg : ∀ value, 0 ≤ sqrt value
  sqrt_zero : sqrt 0 = 0
  sqrt_pos : ∀ value, 0 < value → 0 < sqrt value

-- A root to sixteen decimals, and the exponential as a power.
def Elementary.approximate : Elementary where
  sqrt := fun value => Nat.sqrt ⌈value*10^32⌉.toNat / 10^16
  exp := fun value => (1 + value/1024)^1024
  sqrt_nonneg := fun _ => by positivity
  sqrt_zero := by norm_num
  sqrt_pos := fun value above => by
    have scaled : 0 < ⌈value*10^32⌉ := Int.ceil_pos.mpr (by positivity)
    have root : 0 < Nat.sqrt ⌈value*10^32⌉.toNat := Nat.sqrt_pos.mpr (by omega)
    positivity

abbrev Candidate := Axes ℚ

structure BatchOutcome where
  batchId : Int
  targetTemperatureC : ℚ
  targetStirrerRpm : ℚ
  heatingMinutes : ℚ
  stirringMinutes : ℚ
  yieldPercent : ℚ
  productRatio : ℚ
  deriving Inhabited

def BatchOutcome.point (outcome : BatchOutcome) : Axes ℚ :=
  ⟨outcome.targetTemperatureC,outcome.targetStirrerRpm,outcome.heatingMinutes,outcome.stirringMinutes⟩

-- The recommendation as the optimizer builds it and the database keeps it.
structure RecommendationRecord extends Recommendation where
  basedOnBatchCount : Int
  expectedScore : ℚ
  rationale : String

def RecommendationRecord.point (record : RecommendationRecord) : Axes ℚ :=
  ⟨record.targetTemperatureC,record.targetStirrerRpm,record.heatingMinutes,record.stirringMinutes⟩

structure SearchOutcome where
  candidate : Candidate
  note : String

-- The bytes of the name, folded with the arithmetic of `i64` that wraps around.
def stableNegativeId (id : String) : Int :=
  let hash := id.toUTF8.data.toList.foldl (fun (hash : Int64) byte => hash*31 + Int64.ofNat byte.toNat) 0;
  -(hash.abs.toInt%1000000 + 1)

def referenceToOutcome (reference : ReferenceBatch) : BatchOutcome where
  batchId := stableNegativeId reference.id
  targetTemperatureC := reference.targetTemperatureC
  targetStirrerRpm := reference.targetStirrerRpm
  heatingMinutes := reference.heatingMinutes
  stirringMinutes := reference.stirringMinutes
  yieldPercent := reference.yieldPercent
  productRatio := reference.productRatio

def scoreWithWeights (weights : ℚ × ℚ) (outcome : BatchOutcome) : ℚ :=
  outcome.yieldPercent*weights.1 + outcome.productRatio*100*weights.2

def mean (items : List BatchOutcome) (f : BatchOutcome → ℚ) : ℚ := (items.map f).sum / items.length

def spread (math : Elementary) (items : List BatchOutcome) (f : BatchOutcome → ℚ) (floor : ℚ) : ℚ :=
  let avg := mean items f
  let variance := (items.map fun item => (f item-avg)*(f item-avg)).sum / items.length
  max (math.sqrt variance) floor

def sampleAround (center spread low high : ℚ) : Random ℚ := do
  let jitter ← uniform (-spread) spread
  return clamp (center+jitter) low high

def isForbidden (candidate : Candidate) (forbiddenZones : List ForbiddenZone) : Bool :=
  forbiddenZones.any (·.contains candidate)

def interpolate (low high ratio : ℚ) : ℚ := low + (high-low)*ratio

def blendValue (first second ratio : ℚ) : ℚ := first*ratio + second*(1-ratio)

def mutateAxis (value low high ratio : ℚ) : Random ℚ := do
  let span := max (high-low) 1
  let jitter ← uniform (-(span*ratio)) (span*ratio)
  return clamp (value+jitter) low high

def trendAxis (current best integralAnchor derivative low high : ℚ) : ℚ :=
  let proportional := best - current
  let integral := integralAnchor - current
  clamp (current + proportional*(18/100) + integral*(6/100) + derivative*(3/100)) low high

section Search
variable (math : Elementary) (outcomes elites : List BatchOutcome) (bounds : OptimizerBounds)
  (forbiddenZones : List ForbiddenZone) (weights : ℚ × ℚ)

def outcomeCandidate (outcome : BatchOutcome) : Candidate :=
  .each fun axis => clamp (outcome.point.on axis) (bounds.low.on axis) (bounds.high.on axis)

def crossoverCandidate (first second : Candidate) : Random Candidate := do
  let blend ← uniform (1/4) (3/4)
  return .each fun axis =>
    clamp (blendValue (first.on axis) (second.on axis) blend) (bounds.low.on axis) (bounds.high.on axis)

def mutationRatio : Axes ℚ := ⟨8/100,8/100,10/100,10/100⟩

def mutateCandidate (candidate : Candidate) (scale : ℚ) : Random Candidate :=
  let scale := clamp scale (2/10) (15/10)
  Axes.draw fun axis =>
    mutateAxis (candidate.on axis) (bounds.low.on axis) (bounds.high.on axis) (mutationRatio.on axis*scale)

def trendCorrectCandidate (candidate : Candidate) : Candidate :=
  let best := outcomes.headD default
  let second := outcomes.getD 1 best
  .each fun axis =>
    trendAxis (candidate.on axis) (best.point.on axis) (mean elites (·.point.on axis))
      (best.point.on axis-second.point.on axis) (bounds.low.on axis) (bounds.high.on axis)

-- How far an outcome lies from a candidate, each dimension measured by its bounds.
def distance (candidate : Candidate) (outcome : BatchOutcome) : ℚ :=
  let part := fun axis =>
    ((candidate.on axis-outcome.point.on axis) / max (bounds.high.on axis-bounds.low.on axis) 1)^2
  math.sqrt (part .temperatureC + part .stirrerRpm + part .heatingMinutes + part .stirringMinutes)

def nearness (candidate : Candidate) (outcome : BatchOutcome) : ℚ :=
  1 / (8/100 + distance math bounds candidate outcome)

def candidateQuality (candidate : Candidate) : ℚ :=
  let weightedScore := (outcomes.map fun outcome =>
    scoreWithWeights weights outcome*nearness math bounds candidate outcome).sum
  let totalWeight := (outcomes.map (nearness math bounds candidate)).sum
  if totalWeight = 0 then 0 else weightedScore/totalWeight

def spreadFloor : Axes ℚ := ⟨4,50,10,10⟩

def sampleCandidate : Random Candidate :=
  Axes.draw fun axis =>
    sampleAround (mean elites (·.point.on axis)) (spread math elites (·.point.on axis) (spreadFloor.on axis))
      (bounds.low.on axis) (bounds.high.on axis)

def sampleAllowed : Nat → Random (Option Candidate)
  | 0 => return none
  | tries+1 => do
      let candidate ← sampleCandidate math elites bounds
      if !isForbidden candidate forbiddenZones then return some candidate else sampleAllowed tries

def sampleAllowedCandidate : Random (Option Candidate) := sampleAllowed math elites bounds forbiddenZones 64

def boundsMidpoint : Candidate := .each fun axis => (bounds.low.on axis+bounds.high.on axis)/2

def anchors : List (Axes ℚ) :=
  [⟨1/4,1/4,1/4,1/4⟩,⟨3/4,1/4,1/4,1/4⟩,⟨1/4,3/4,1/4,1/4⟩,⟨1/4,1/4,3/4,1/4⟩,⟨1/4,1/4,1/4,3/4⟩,
   ⟨3/4,3/4,3/4,3/4⟩]

def anchorCandidate (anchor : Axes ℚ) : Candidate :=
  .each fun axis => interpolate (bounds.low.on axis) (bounds.high.on axis) (anchor.on axis)

def safeMidpoint : Option Candidate :=
  if !isForbidden (boundsMidpoint bounds) forbiddenZones then some (boundsMidpoint bounds) else
  (anchors.map (anchorCandidate bounds)).find? fun candidate => !isForbidden candidate forbiddenZones

def pushIfAllowed (population : List Candidate) (candidate : Candidate) : List Candidate :=
  if !isForbidden candidate forbiddenZones then population ++ [candidate] else population

def seedPopulation : Random (List Candidate) :=
  let population := elites.foldl (fun population elite =>
    pushIfAllowed forbiddenZones population (outcomeCandidate bounds elite)) []
  let population := match safeMidpoint bounds forbiddenZones with
    | some midpoint => pushIfAllowed forbiddenZones population midpoint
    | none => population
  repeated 32 (fun population => do
    match ← sampleAllowedCandidate math elites bounds forbiddenZones with
    | some candidate => return population ++ [candidate]
    | none => return population) population

def breed (parents population : List Candidate) : Random (List Candidate) := do
  let first ← pick parents
  let second ← pick parents
  let child ← crossoverCandidate bounds first second
  let child ← mutateCandidate bounds child 1
  let child := trendCorrectCandidate outcomes elites bounds child
  return pushIfAllowed forbiddenZones population child

def generation (population : List Candidate) : Random (List Candidate) :=
  let parents := (ranked (candidateQuality math outcomes bounds weights) population).take 12
  repeated 12 (breed outcomes elites bounds forbiddenZones parents) parents

structure Annealing where
  current : Candidate
  currentScore : ℚ
  temperature : ℚ

-- A neighbor that is no worse is taken without a draw.
def accepts (delta temperature : ℚ) : Random Bool :=
  if 0 ≤ delta then return true else
  bool (clamp (math.exp (delta / max temperature (1/1000))) 0 1)

def anneal (state : Annealing) : Random Annealing := do
  let neighbor ← mutateCandidate bounds state.current (state.temperature/8)
  let neighbor := trendCorrectCandidate outcomes elites bounds neighbor
  let cooler := {state with temperature := state.temperature*(86/100)}
  if isForbidden neighbor forbiddenZones then return cooler
  let neighborScore := candidateQuality math outcomes bounds weights neighbor
  let delta := neighborScore - state.currentScore
  let accepted ← accepts math delta state.temperature
  if accepted then return {cooler with current := neighbor,currentScore := neighborScore} else return cooler

def searchNote : String :=
  "Local GA/SA/trend-correction optimizer searched with genetic crossover/mutation, simulated annealing acceptance, and elite trend correction."

def hybridSearchCandidate : Random (Option SearchOutcome) := do
  let population ← seedPopulation math elites bounds forbiddenZones
  if population.isEmpty then return none
  let population ← repeated 18 (generation math outcomes elites bounds forbiddenZones weights) population
  let current := (ranked (candidateQuality math outcomes bounds weights) population).headD default
  let start : Annealing := ⟨current,candidateQuality math outcomes bounds weights current,8⟩
  let reached ← repeated 32 (anneal math outcomes elites bounds forbiddenZones weights) start
  return some ⟨reached.current,searchNote⟩

end Search

def rationale (best : BatchOutcome) (eliteCount realOutcomeCount memoryOutcomeCount : Nat) (memory : Option AiMemory)
    (forbiddenNote optimizerNote : String) : String :=
  let memoryNote := match memory.filter (·.recommendation.enabled) with
    | some memory =>
        s!" Memory profile {memory.profile.name} v{memory.profile.version} applied; {memory.forbiddenZones.length} forbidden zones checked."
    | none => ""
  let referenceNote :=
    if 0 < memoryOutcomeCount then s!" Included {memoryOutcomeCount} file reference batches." else ""
  s!"Based on the top {eliteCount} batches from {realOutcomeCount} recorded and {memoryOutcomeCount} file reference outcomes; best batch {best.batchId} reached yield {displayFixed 2 best.yieldPercent}% and product ratio {displayFixed 3 best.productRatio}. {optimizerNote}{memoryNote}{referenceNote}{forbiddenNote}"

def midpointRecommendation (bounds : OptimizerBounds) (midpoint : Candidate) (count : Nat) (memory : Option AiMemory)
    (memoryOutcomeCount : Nat) : RecommendationRecord :=
  let referenceNote :=
    if 0 < memoryOutcomeCount then s!" Loaded {memoryOutcomeCount} file reference batches for context." else ""
  let profileNote := match memory.filter (·.recommendation.enabled) with
    | some memory => s!" Memory profile: {memory.profile.name} v{memory.profile.version}."
    | none => ""
  let zoneNote := if midpoint ≠ boundsMidpoint bounds then
      " The exact bounds center lies inside a forbidden zone; using the nearest safe anchor instead."
    else ""
  { targetTemperatureC := round2 midpoint.temperatureC
    targetStirrerRpm := round2 midpoint.stirrerRpm
    heatingMinutes := round2 midpoint.heatingMinutes
    stirringMinutes := round2 midpoint.stirringMinutes
    basedOnBatchCount := count
    expectedScore := 0
    rationale := s!"Not enough finished batches yet; using the center of configured safe optimizer bounds.{zoneNote}{profileNote}{referenceNote}" }

def effectiveBounds (bounds : OptimizerBounds) (memory : Option AiMemory) : OptimizerBounds :=
  memory.elim bounds fun memory => memory.effectiveOptimizerBounds bounds

def objectiveWeights (memory : Option AiMemory) : ℚ × ℚ := memory.elim (8/10,2/10) fun memory => memory.objective.weights

def memoryOutcomes (memory : Option AiMemory) : List BatchOutcome :=
  match memory with
  | some memory =>
      if memory.recommendation.enabled && memory.recommendation.useReferenceBatches then
        memory.referenceBatches.map referenceToOutcome
      else []
  | none => []

def forbiddenZonesOf (memory : Option AiMemory) : List ForbiddenZone :=
  (memory.filter (·.recommendation.enabled)).elim [] (·.forbiddenZones)

def eliteCountOf (count : Nat) : Nat := max ⌈(count:ℚ)*(25/100)⌉.toNat 1

def elitesOf (sorted : List BatchOutcome) : List BatchOutcome :=
  sorted.take (min (eliteCountOf sorted.length) sorted.length)

def searchOrSample (math : Elementary) (sorted elites : List BatchOutcome) (bounds : OptimizerBounds)
    (forbiddenZones : List ForbiddenZone) (weights : ℚ × ℚ) : Random (Option SearchOutcome) := do
  match ← hybridSearchCandidate math sorted elites bounds forbiddenZones weights with
  | some search => return some search
  | none =>
      let sampled ← sampleAllowedCandidate math elites bounds forbiddenZones
      return sampled.map fun candidate =>
        ⟨candidate,"Local stochastic optimizer used elite-neighborhood fallback sampling."⟩

-- The search first, then samples near the elites, and the point in the middle last.
def searched (math : Elementary) (sorted elites : List BatchOutcome) (bounds : OptimizerBounds)
    (forbiddenZones : List ForbiddenZone) (weights : ℚ × ℚ) : Random (Option (Candidate × String × String)) := do
  match ← searchOrSample math sorted elites bounds forbiddenZones weights with
  | some search => return some (search.candidate,"",search.note)
  | none =>
      return (safeMidpoint bounds forbiddenZones).map fun fallback =>
        (fallback," All sampled candidates matched a forbidden zone; using the nearest safe midpoint.",
          "Local optimizer fell back to nearest safe midpoint.")

def recommendWithMemory (math : Elementary) (bounds : OptimizerBounds) (memory : Option AiMemory)
    (outcomes : List BatchOutcome) : Random (Option RecommendationRecord) := do
  let effective := effectiveBounds bounds memory
  let weights := objectiveWeights memory
  let references := memoryOutcomes memory
  let forbiddenZones := forbiddenZonesOf memory
  let combined := references ++ outcomes
  if combined.length < 3 then
    return (safeMidpoint effective forbiddenZones).map fun midpoint =>
      midpointRecommendation effective midpoint outcomes.length memory references.length
  let sorted := ranked (scoreWithWeights weights) combined
  let elites := elitesOf sorted
  let best := elites.headD default
  match ← searched math sorted elites effective forbiddenZones weights with
  | none => return none
  | some (candidate,forbiddenNote,optimizerNote) =>
      return some {
        targetTemperatureC := round2 candidate.temperatureC
        targetStirrerRpm := round2 candidate.stirrerRpm
        heatingMinutes := round2 candidate.heatingMinutes
        stirringMinutes := round2 candidate.stirringMinutes
        basedOnBatchCount := outcomes.length
        expectedScore := round2 (scoreWithWeights weights best)
        rationale := rationale best (eliteCountOf sorted.length) outcomes.length references.length memory forbiddenNote optimizerNote }

end ReactorOS
