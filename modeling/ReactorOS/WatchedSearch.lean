import ReactorOS.CoveredBounds
import ReactorOS.Chance.Guarded
namespace ReactorOS.Watched
open Chance

def clamp (value low high : ℚ) : Checked ℚ := do
  require (low ≤ high) .order
  return ReactorOS.clamp value low high

def mean (items : List BatchOutcome) (f : BatchOutcome → ℚ) : Checked ℚ := quotient (items.map f).sum items.length

def spread (math : Elementary) (items : List BatchOutcome) (f : BatchOutcome → ℚ) (floor : ℚ) : Checked ℚ := do
  let avg ← mean items f
  let variance ← quotient (items.map fun item => (f item-avg)*(f item-avg)).sum items.length
  require (0 ≤ variance) .root
  return max (math.sqrt variance) floor

def sampleAround (center spread low high : ℚ) : Guarded ℚ := do
  let jitter ← genRange (-spread) spread
  clamp (center+jitter) low high

def mutateAxis (value low high ratio : ℚ) : Guarded ℚ := do
  let span := max (high-low) 1
  let jitter ← genRange (-(span*ratio)) (span*ratio)
  clamp (value+jitter) low high

def trendAxis (current best integralAnchor derivative low high : ℚ) : Checked ℚ :=
  let proportional := best - current
  let integral := integralAnchor - current
  clamp (current + proportional*(18/100) + integral*(6/100) + derivative*(3/100)) low high

-- The four numbers of a candidate, one after the other.
def each (value : Axis → Checked ℚ) : Checked (Axes ℚ) := do
  let temperatureC ← value .temperatureC
  let stirrerRpm ← value .stirrerRpm
  let heatingMinutes ← value .heatingMinutes
  let stirringMinutes ← value .stirringMinutes
  return ⟨temperatureC,stirrerRpm,heatingMinutes,stirringMinutes⟩

def draw (value : Axis → Guarded ℚ) : Guarded (Axes ℚ) := do
  let temperatureC ← value .temperatureC
  let stirrerRpm ← value .stirrerRpm
  let heatingMinutes ← value .heatingMinutes
  let stirringMinutes ← value .stirringMinutes
  return ⟨temperatureC,stirrerRpm,heatingMinutes,stirringMinutes⟩

section Search
variable (math : Elementary) (outcomes elites : List BatchOutcome) (bounds : OptimizerBounds)
  (forbiddenZones : List ForbiddenZone) (weights : ℚ × ℚ)

def outcomeCandidate (outcome : BatchOutcome) : Checked Candidate :=
  each fun axis => clamp (outcome.point.on axis) (bounds.low.on axis) (bounds.high.on axis)

def crossoverCandidate (first second : Candidate) : Guarded Candidate := do
  let blend ← genRange (1/4) (3/4)
  each fun axis => clamp (blendValue (first.on axis) (second.on axis) blend) (bounds.low.on axis) (bounds.high.on axis)

def mutateCandidate (candidate : Candidate) (scale : ℚ) : Guarded Candidate := do
  let scale ← clamp scale (2/10) (15/10)
  draw fun axis =>
    mutateAxis (candidate.on axis) (bounds.low.on axis) (bounds.high.on axis) (mutationRatio.on axis*scale)

def trendCorrectCandidate (candidate : Candidate) : Checked Candidate := do
  let best ← first outcomes
  let second := outcomes.getD 1 best
  let eliteMean ← each fun axis => mean elites (·.point.on axis)
  each fun axis =>
    trendAxis (candidate.on axis) (best.point.on axis) (eliteMean.on axis) (best.point.on axis-second.point.on axis)
      (bounds.low.on axis) (bounds.high.on axis)

def distance (candidate : Candidate) (outcome : BatchOutcome) : Checked ℚ := do
  let part ← each fun axis =>
    quotient (candidate.on axis-outcome.point.on axis) (max (bounds.high.on axis-bounds.low.on axis) 1)
  let square := part.temperatureC^2 + part.stirrerRpm^2 + part.heatingMinutes^2 + part.stirringMinutes^2
  require (0 ≤ square) .root
  return math.sqrt square

def nearness (candidate : Candidate) (outcome : BatchOutcome) : Checked ℚ := do
  let distance ← distance math bounds candidate outcome
  quotient 1 (8/100+distance)

-- `weighted_score` and `total_weight` after one more outcome.
def weigh (candidate : Candidate) (sums : ℚ × ℚ) (outcome : BatchOutcome) : Checked (ℚ × ℚ) := do
  let weight ← nearness math bounds candidate outcome
  return (sums.1 + scoreWithWeights weights outcome*weight,sums.2 + weight)

def candidateQuality (candidate : Candidate) : Checked ℚ := do
  let sums ← outcomes.foldlM (weigh math bounds weights candidate) (0,0)
  if sums.2 = 0 then return 0 else quotient sums.1 sums.2

def sampleCandidate : Guarded Candidate :=
  draw fun axis => do
    let center ← mean elites (·.point.on axis)
    let spread ← spread math elites (·.point.on axis) (spreadFloor.on axis)
    sampleAround center spread (bounds.low.on axis) (bounds.high.on axis)

def sampleAllowed : Nat → Guarded (Option Candidate)
  | 0 => return none
  | tries+1 => do
      let candidate ← sampleCandidate math elites bounds
      if !isForbidden candidate forbiddenZones then return some candidate else sampleAllowed tries

def seedElite (population : List Candidate) (elite : BatchOutcome) : Checked (List Candidate) := do
  return pushIfAllowed forbiddenZones population (← outcomeCandidate bounds elite)

def seedPopulation : Guarded (List Candidate) := do
  let population ← (elites.foldlM (seedElite bounds forbiddenZones) [] : Checked (List Candidate))
  let population := match safeMidpoint bounds forbiddenZones with
    | some midpoint => pushIfAllowed forbiddenZones population midpoint
    | none => population
  loop 32 (fun population => do
    match ← sampleAllowed math elites bounds forbiddenZones 64 with
    | some candidate => return population ++ [candidate]
    | none => return population) population

def breed (parents population : List Candidate) : Guarded (List Candidate) := do
  let first ← choose parents
  let second ← choose parents
  let child ← crossoverCandidate bounds first second
  let child ← mutateCandidate bounds child 1
  let child ← trendCorrectCandidate outcomes elites bounds child
  return pushIfAllowed forbiddenZones population child

def generation (population : List Candidate) : Guarded (List Candidate) := do
  let ordered ← sorted (candidateQuality math outcomes bounds weights) population
  let parents := ordered.take 12
  loop 12 (breed outcomes elites bounds forbiddenZones parents) parents

-- The probability is computed before the comparison, whether it is needed or not.
def accepts (delta temperature : ℚ) : Guarded Bool := do
  let ratio ← quotient delta (max temperature (1/1000))
  let probability ← clamp (math.exp ratio) 0 1
  if 0 ≤ delta then return true else genBool probability

def anneal (state : Annealing) : Guarded Annealing := do
  let neighbor ← mutateCandidate bounds state.current (state.temperature/8)
  let neighbor ← trendCorrectCandidate outcomes elites bounds neighbor
  let cooler := {state with temperature := state.temperature*(86/100)}
  if isForbidden neighbor forbiddenZones then return cooler
  let neighborScore ← candidateQuality math outcomes bounds weights neighbor
  let delta := neighborScore - state.currentScore
  let accepted ← accepts math delta state.temperature
  if accepted then return {cooler with current := neighbor,currentScore := neighborScore} else return cooler

def hybridSearchCandidate : Guarded (Option SearchOutcome) := do
  let population ← seedPopulation math elites bounds forbiddenZones
  if population.isEmpty then return none
  let population ← loop 18 (generation math outcomes elites bounds forbiddenZones weights) population
  let ordered ← sorted (candidateQuality math outcomes bounds weights) population
  let current ← first ordered
  let currentScore ← candidateQuality math outcomes bounds weights current
  let reached ← loop 32 (anneal math outcomes elites bounds forbiddenZones weights) ⟨current,currentScore,8⟩
  return some ⟨reached.current,searchNote⟩

def searchOrSample : Guarded (Option SearchOutcome) := do
  match ← hybridSearchCandidate math outcomes elites bounds forbiddenZones weights with
  | some search => return some search
  | none =>
      let sampled ← sampleAllowed math elites bounds forbiddenZones 64
      return sampled.map fun candidate =>
        ⟨candidate,"Local stochastic optimizer used elite-neighborhood fallback sampling."⟩

def searched : Guarded (Option (Candidate × String × String)) := do
  match ← searchOrSample math outcomes elites bounds forbiddenZones weights with
  | some search => return some (search.candidate,"",search.note)
  | none =>
      return (safeMidpoint bounds forbiddenZones).map fun fallback =>
        (fallback," All sampled candidates matched a forbidden zone; using the nearest safe midpoint.",
          "Local optimizer fell back to nearest safe midpoint.")

end Search

def recommendWithMemory (math : Elementary) (bounds : OptimizerBounds) (memory : Option AiMemory)
    (outcomes : List BatchOutcome) : Guarded (Option RecommendationRecord) := do
  let effective := effectiveBounds bounds memory
  let weights := objectiveWeights memory
  let references := memoryOutcomes memory
  let forbiddenZones := forbiddenZonesOf memory
  let combined := references ++ outcomes
  if combined.length < 3 then
    return (safeMidpoint effective forbiddenZones).map fun midpoint =>
      midpointRecommendation effective midpoint outcomes.length memory references.length
  let sorted := ranked (scoreWithWeights weights) combined
  let elites ← front sorted (min (eliteCountOf sorted.length) sorted.length)
  let best ← first elites
  match ← searched math sorted elites effective forbiddenZones weights with
  | none => return none
  | some (candidate,forbiddenNote,optimizerNote) =>
      return some {
        targetTemperatureC := round2 candidate.temperatureC
        targetStirrerRpm := round2 candidate.stirrerRpm
        heatingMinutes := round2 candidate.heatingMinutes
        stirringMinutes := round2 candidate.stirringMinutes
        basedOnBatchCount := outcomes.length
        expectedScore := round2 (scoreWithWeights weights best)
        rationale := rationale best (eliteCountOf sorted.length) outcomes.length references.length memory forbiddenNote optimizerNote }

section Values
variable {math : Elementary} {outcomes elites items : List BatchOutcome} {bounds : OptimizerBounds}
  {forbiddenZones : List ForbiddenZone} {weights : ℚ × ℚ} {candidate : Candidate} {population : List Candidate}
  {f : BatchOutcome → ℚ} {low high : ℚ}

theorem clamp_ok {value : ℚ} (ordered : low ≤ high) : clamp value low high = .ok (ReactorOS.clamp value low high) := by
  rw [clamp,require_ok ordered]
  rfl

theorem length_pos (nonempty : items ≠ []) : (0:ℚ) < items.length := by
  exact_mod_cast List.length_pos_of_ne_nil nonempty

theorem mean_ok (nonempty : items ≠ []) : mean items f = .ok (ReactorOS.mean items f) := quotient_ok (length_pos nonempty)

theorem variance_nonneg (items : List BatchOutcome) (f : BatchOutcome → ℚ) (avg : ℚ) :
    0 ≤ (items.map fun item => (f item-avg)*(f item-avg)).sum / items.length := by
  have squares : 0 ≤ (items.map fun item => (f item-avg)*(f item-avg)).sum := by
    refine List.sum_nonneg fun square member => ?_
    obtain ⟨item,_,rfl⟩ := List.mem_map.mp member
    exact mul_self_nonneg _
  positivity

theorem spread_ok {floor : ℚ} (nonempty : items ≠ []) :
    spread math items f floor = .ok (ReactorOS.spread math items f floor) := by
  have average : mean items f = .ok (ReactorOS.mean items f) := mean_ok nonempty
  have variance := @quotient_ok (items.map fun item => (f item-ReactorOS.mean items f)*(f item-ReactorOS.mean items f)).sum
    _ (length_pos nonempty)
  have root := @require_ok _ (inferInstance) Breach.root (variance_nonneg items f (ReactorOS.mean items f))
  rw [spread,Wire.ok_bind average,Wire.ok_bind variance,Wire.ok_bind root]
  rfl

theorem each_ok {checked : Axis → Checked ℚ} {value : Axis → ℚ} (every : ∀ axis, checked axis = .ok (value axis)) :
    each checked = .ok (.each value) := by
  rw [each,every .temperatureC,every .stirrerRpm,every .heatingMinutes,every .stirringMinutes]
  rfl

theorem outcomeCandidate_ok (ordered : bounds.Ordered) (outcome : BatchOutcome) :
    outcomeCandidate bounds outcome = .ok (ReactorOS.outcomeCandidate bounds outcome) :=
  each_ok fun axis => clamp_ok (ordered axis)

theorem trendCorrectCandidate_ok (ordered : bounds.Ordered) (nonempty : outcomes ≠ []) (few : elites ≠ []) :
    trendCorrectCandidate outcomes elites bounds candidate =
      .ok (ReactorOS.trendCorrectCandidate outcomes elites bounds candidate) := by
  have best : first outcomes = .ok (outcomes.headD default) := first_ok nonempty
  have means : each (fun axis => mean elites (·.point.on axis)) = .ok (.each fun axis => ReactorOS.mean elites (·.point.on axis)) :=
    each_ok fun axis => mean_ok few
  rw [trendCorrectCandidate,Wire.ok_bind best,Wire.ok_bind means,ReactorOS.trendCorrectCandidate]
  refine each_ok fun axis => ?_
  rw [Axes.on_each]
  exact clamp_ok (ordered axis)

theorem distance_ok (outcome : BatchOutcome) :
    distance math bounds candidate outcome = .ok (ReactorOS.distance math bounds candidate outcome) := by
  have span (axis : Axis) : 0 < max (bounds.high.on axis-bounds.low.on axis) 1 := zero_lt_one.trans_le (le_max_right _ _)
  have part := each_ok fun axis => @quotient_ok (candidate.on axis-outcome.point.on axis) _ (span axis)
  rw [distance,Wire.ok_bind part,Wire.ok_bind (require_ok (by positivity))]
  rfl

theorem distance_nonneg (outcome : BatchOutcome) : 0 ≤ ReactorOS.distance math bounds candidate outcome :=
  math.sqrt_nonneg _

theorem nearness_ok (outcome : BatchOutcome) :
    nearness math bounds candidate outcome = .ok (ReactorOS.nearness math bounds candidate outcome) := by
  have near := @distance_nonneg math bounds candidate outcome
  rw [nearness,Wire.ok_bind (distance_ok outcome)]
  exact quotient_ok (by linarith)

theorem weighed (sums : ℚ × ℚ) :
    outcomes.foldlM (weigh math bounds weights candidate) sums = (.ok
      (sums.1 + (outcomes.map fun outcome => scoreWithWeights weights outcome*ReactorOS.nearness math bounds candidate outcome).sum,
        sums.2 + (outcomes.map (ReactorOS.nearness math bounds candidate)).sum) : Checked (ℚ × ℚ)) := by
  induction outcomes generalizing sums with
  | nil => simp [Pure.pure,Except.pure]
  | cons outcome rest ih =>
      rw [List.foldlM_cons,weigh,nearness_ok]
      refine (ih _).trans ?_
      rw [List.map_cons,List.map_cons,List.sum_cons,List.sum_cons,← add_assoc,← add_assoc]

theorem candidateQuality_ok :
    candidateQuality math outcomes bounds weights candidate =
      .ok (ReactorOS.candidateQuality math outcomes bounds weights candidate) := by
  have total : 0 ≤ (outcomes.map (ReactorOS.nearness math bounds candidate)).sum := by
    refine List.sum_nonneg fun near member => ?_
    obtain ⟨outcome,_,rfl⟩ := List.mem_map.mp member
    exact nearness_pos.le
  rw [candidateQuality,Wire.ok_bind (weighed (0,0)),zero_add,zero_add]
  unfold ReactorOS.candidateQuality
  simp only
  split
  · rfl
  · rename_i weight
    exact quotient_ok (lt_of_le_of_ne total (Ne.symm weight))

theorem seeds_ok (ordered : bounds.Ordered) (population : List Candidate) :
    elites.foldlM (seedElite bounds forbiddenZones) population = (.ok (elites.foldl (fun population elite =>
      pushIfAllowed forbiddenZones population (ReactorOS.outcomeCandidate bounds elite)) population) :
        Checked (List Candidate)) := by
  induction elites generalizing population with
  | nil => rfl
  | cons elite rest ih =>
      rw [List.foldlM_cons,seedElite,outcomeCandidate_ok ordered]
      exact ih _

end Values

section Search
variable {math : Elementary} {outcomes elites : List BatchOutcome} {bounds : OptimizerBounds}
  {forbiddenZones : List ForbiddenZone} {weights : ℚ × ℚ} {candidate : Candidate} {population : List Candidate}

theorem draw_runs {guarded : Axis → Guarded ℚ} {plain : Axis → Random ℚ} (every : ∀ axis, Runs (guarded axis) (plain axis)) :
    Runs (draw guarded) (Axes.draw plain) :=
  .bind (every _) .any fun _ _ => .bind (every _) .any fun _ _ => .bind (every _) .any fun _ _ =>
    .bind (every _) .any fun _ _ => .pure

theorem mutateAxis_runs {value low high ratio : ℚ} (ordered : low ≤ high) (positive : 0 ≤ ratio) :
    Runs (mutateAxis value low high ratio) (ReactorOS.mutateAxis value low high ratio) := by
  have span : 0 ≤ max (high-low) 1*ratio := mul_nonneg (zero_le_one.trans (le_max_right _ _)) positive
  exact .bind (genRange_runs (by linarith)) .any fun jitter _ => .lift (clamp_ok ordered)

theorem mutateCandidate_runs (ordered : bounds.Ordered) (candidate : Candidate) (scale : ℚ) :
    Runs (mutateCandidate bounds candidate scale) (ReactorOS.mutateCandidate bounds candidate scale) := by
  have bounded : (2/10:ℚ) ≤ ReactorOS.clamp scale (2/10) (15/10) := (clamp_between (by norm_num)).1
  have ratio (axis : Axis) : 0 ≤ mutationRatio.on axis := by
    cases axis <;> norm_num [mutationRatio,Axes.on]
  refine .value (clamp_ok (by norm_num)) ?_
  unfold ReactorOS.mutateCandidate
  refine draw_runs fun axis => ?_
  exact mutateAxis_runs (ordered axis) (mul_nonneg (ratio axis) (by linarith))

theorem crossoverCandidate_runs (ordered : bounds.Ordered) (first second : Candidate) :
    Runs (crossoverCandidate bounds first second) (ReactorOS.crossoverCandidate bounds first second) :=
  .bind (genRange_runs (by norm_num)) .any fun _ _ => .lift (each_ok fun axis => clamp_ok (ordered axis))

theorem sampleAround_runs {center spread low high : ℚ} (ordered : low ≤ high) (positive : 0 < spread) :
    Runs (sampleAround center spread low high) (ReactorOS.sampleAround center spread low high) :=
  .bind (genRange_runs (by linarith)) .any fun _ _ => .lift (clamp_ok ordered)

theorem sampleCandidate_runs (ordered : bounds.Ordered) (few : elites ≠ []) :
    Runs (sampleCandidate math elites bounds) (ReactorOS.sampleCandidate math elites bounds) := by
  refine draw_runs fun axis => .value (mean_ok few) (.value (spread_ok few) ?_)
  exact sampleAround_runs (ordered axis) (spread_pos math elites axis)

theorem sampleAllowed_runs (ordered : bounds.Ordered) (few : elites ≠ []) (tries : Nat) :
    Runs (sampleAllowed math elites bounds forbiddenZones tries) (ReactorOS.sampleAllowed math elites bounds forbiddenZones tries) := by
  induction tries with
  | zero => exact .pure
  | succ tries ih =>
      refine .bind (sampleCandidate_runs ordered few) .any fun candidate _ => ?_
      cases clear : !isForbidden candidate forbiddenZones with
      | true => exact .pure
      | false => exact ih

theorem seedPopulation_runs (ordered : bounds.Ordered) (few : elites ≠ []) :
    Runs (seedPopulation math elites bounds forbiddenZones) (ReactorOS.seedPopulation math elites bounds forbiddenZones) := by
  refine .value (seeds_ok ordered []) (.loop (fun population _ => ⟨?_,.any⟩) 32 trivial)
  refine .bind (sampleAllowed_runs ordered few 64) .any fun sampled _ => ?_
  cases sampled with
  | none => exact .pure
  | some candidate => exact .pure

theorem breed_runs (ordered : bounds.Ordered) (nonempty : outcomes ≠ []) (few : elites ≠ []) {parents : List Candidate}
    (alive : parents ≠ []) (population : List Candidate) :
    Runs (breed outcomes elites bounds forbiddenZones parents population)
      (ReactorOS.breed outcomes elites bounds forbiddenZones parents population) := by
  refine .bind (choose_runs alive) .any fun first _ => .bind (choose_runs alive) .any fun second _ => ?_
  refine .bind (crossoverCandidate_runs ordered first second) .any fun child _ => ?_
  refine .bind (mutateCandidate_runs ordered child 1) .any fun child _ => ?_
  exact .value (trendCorrectCandidate_ok ordered nonempty few) .pure

theorem generation_runs (ordered : bounds.Ordered) (nonempty : outcomes ≠ []) (few : elites ≠ [])
    (alive : population ≠ []) :
    Runs (generation math outcomes elites bounds forbiddenZones weights population)
      (ReactorOS.generation math outcomes elites bounds forbiddenZones weights population) := by
  have parents : (ranked (ReactorOS.candidateQuality math outcomes bounds weights) population).take 12 ≠ [] := by
    rw [Ne,List.take_eq_nil_iff]
    rintro (zero | empty)
    · cases zero
    · exact ranked_ne_nil alive empty
  refine .value (sorted_ok fun candidate _ => candidateQuality_ok) ?_
  exact .loop (fun population _ => ⟨breed_runs ordered nonempty few parents population,.any⟩) 12 trivial

theorem accepts_runs (delta temperature : ℚ) :
    Runs (accepts math delta temperature) (ReactorOS.accepts math delta temperature) := by
  have divisor : 0 < max temperature (1/1000) := lt_max_of_lt_right (by norm_num)
  have probability := @clamp_between (math.exp (delta / max temperature (1/1000))) 0 1 zero_le_one
  refine .value (quotient_ok divisor) (.value (clamp_ok zero_le_one) ?_)
  unfold ReactorOS.accepts
  split
  · exact .pure
  · exact genBool_runs probability.1 probability.2

theorem anneal_runs (ordered : bounds.Ordered) (nonempty : outcomes ≠ []) (few : elites ≠ []) (state : Annealing) :
    Runs (anneal math outcomes elites bounds forbiddenZones weights state)
      (ReactorOS.anneal math outcomes elites bounds forbiddenZones weights state) := by
  refine .bind (mutateCandidate_runs ordered _ _) .any fun neighbor _ => ?_
  refine .value (trendCorrectCandidate_ok ordered nonempty few) ?_
  simp only
  split
  · exact .pure
  · refine .value candidateQuality_ok (.bind (accepts_runs _ _) .any fun accepted _ => ?_)
    cases accepted <;> exact .pure

theorem hybridSearchCandidate_runs (ordered : bounds.Ordered) (nonempty : outcomes ≠ []) (few : elites ≠ []) :
    Runs (hybridSearchCandidate math outcomes elites bounds forbiddenZones weights)
      (ReactorOS.hybridSearchCandidate math outcomes elites bounds forbiddenZones weights) := by
  have closed := @feasible_closed math outcomes elites bounds forbiddenZones ordered
  refine .bind (seedPopulation_runs ordered few) (seed_always closed) fun population kept => ?_
  cases empty : population.isEmpty with
  | true => exact .pure
  | false =>
      have alive : Alive (Feasible bounds forbiddenZones) population := ⟨by simpa using empty,kept⟩
      refine .bind (.loop (fun _ alive => ⟨generation_runs ordered nonempty few alive.some,generation_always closed alive⟩) 18 alive)
        (.repeated (fun _ alive => generation_always closed alive) 18 alive) fun population alive => ?_
      refine .value (sorted_ok fun candidate _ => candidateQuality_ok) ?_
      refine .value (first_ok (ranked_ne_nil alive.some)) (.value candidateQuality_ok ?_)
      exact .bind (.loop (fun state _ => ⟨anneal_runs ordered nonempty few state,.any⟩) 32 trivial) .any fun reached _ => .pure

theorem searchOrSample_runs (ordered : bounds.Ordered) (nonempty : outcomes ≠ []) (few : elites ≠ []) :
    Runs (searchOrSample math outcomes elites bounds forbiddenZones weights)
      (ReactorOS.searchOrSample math outcomes elites bounds forbiddenZones weights) := by
  refine .bind (hybridSearchCandidate_runs ordered nonempty few) .any fun found _ => ?_
  cases found with
  | some search => exact .pure
  | none => exact .bind (sampleAllowed_runs ordered few 64) .any fun sampled _ => .pure

theorem searched_runs (ordered : bounds.Ordered) (nonempty : outcomes ≠ []) (few : elites ≠ []) :
    Runs (searched math outcomes elites bounds forbiddenZones weights)
      (ReactorOS.searched math outcomes elites bounds forbiddenZones weights) := by
  refine .bind (searchOrSample_runs ordered nonempty few) .any fun found _ => ?_
  cases found <;> exact .pure

-- At least one of the outcomes is among the best quarter.
end Search

end ReactorOS.Watched

namespace ReactorOS
open Chance
variable {bounds : OptimizerBounds}

theorem effectiveBounds_ordered (memory : Option AiMemory) (ordered : bounds.Ordered) :
    (effectiveBounds bounds memory).Ordered := by
  cases memory with
  | none => exact ordered
  | some memory => exact effective_ordered memory ordered

-- Whatever is drawn, no check of the search fails, and the checks change nothing about what it returns.
theorem recommend_unbroken (math : Elementary) (memory : Option AiMemory) (outcomes : List BatchOutcome)
    (valid : validateOptimizerBounds bounds = .ok ()) (draws : Draws) :
    Watched.recommendWithMemory math bounds memory outcomes draws = .ok (recommendWithMemory math bounds memory outcomes draws) := by
  have ordered := effectiveBounds_ordered memory (validateOptimizerBounds_ordered valid)
  have runs : Runs (Watched.recommendWithMemory math bounds memory outcomes) (recommendWithMemory math bounds memory outcomes) := by
    unfold Watched.recommendWithMemory recommendWithMemory
    simp only
    split
    · exact .pure
    · rename_i many
      have enough : ranked (scoreWithWeights (objectiveWeights memory)) (memoryOutcomes memory ++ outcomes) ≠ [] := by
        refine ranked_ne_nil fun empty => many ?_
        rw [empty]
        decide
      have few := elitesOf_ne_nil enough
      refine .value (front_ok (min_le_right _ _)) (.value (first_ok few) ?_)
      refine .bind (Watched.searched_runs ordered enough few) .any fun found _ => ?_
      cases found <;> exact .pure
  exact runs draws

theorem recommend_unbroken_striped :
    validateOptimizerBounds shippedBounds = .ok () ∧ ∀ draws,
      Watched.recommendWithMemory .approximate shippedBounds (some stripedMemory) [finishedRun,finishedRun,finishedRun] draws =
        .ok (recommendWithMemory .approximate shippedBounds (some stripedMemory) [finishedRun,finishedRun,finishedRun] draws) := by
  have valid : validateOptimizerBounds shippedBounds = .ok () := by decide +kernel
  exact ⟨valid,recommend_unbroken .approximate (some stripedMemory) [finishedRun,finishedRun,finishedRun] valid⟩

end ReactorOS
