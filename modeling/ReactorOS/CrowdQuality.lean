import ReactorOS.SteadySearch
import Mathlib.Algebra.Order.BigOperators.Group.List
import Mathlib.Algebra.Order.Archimedean.Basic
import Mathlib.Data.Rat.Floor
import Mathlib.Tactic.FieldSimp
namespace ReactorOS
open Chance
variable {math : Elementary} {bounds : OptimizerBounds} {forbiddenZones : List ForbiddenZone} {weights : ℚ × ℚ}
  {candidate other : Candidate} {outcome : BatchOutcome} {items : List BatchOutcome} {top : ℚ}

theorem distance_self : distance math bounds outcome.point outcome = 0 := by
  simp [distance,math.sqrt_zero]

theorem distance_pos (apart : candidate ≠ outcome.point) : 0 < distance math bounds candidate outcome := by
  let part := fun axis : Axis =>
    ((candidate.on axis-outcome.point.on axis) / max (bounds.high.on axis-bounds.low.on axis) 1)^2
  have nonneg : ∀ axis, 0 ≤ part axis := fun axis => sq_nonneg _
  obtain ⟨axis,differ⟩ : ∃ axis, candidate.on axis ≠ outcome.point.on axis := by
    by_contra same
    push Not at same
    exact apart (Axes.ext same)
  have moved : 0 < part axis := by
    have span : (0:ℚ) < max (bounds.high.on axis-bounds.low.on axis) 1 := lt_of_lt_of_le one_pos (le_max_right _ _)
    exact sq_pos_of_ne_zero (div_ne_zero (sub_ne_zero.mpr differ) span.ne')
  refine math.sqrt_pos _ ?_
  change 0 < part .temperatureC + part .stirrerRpm + part .heatingMinutes + part .stirringMinutes
  have one := nonneg .temperatureC
  have two := nonneg .stirrerRpm
  have three := nonneg .heatingMinutes
  have four := nonneg .stirringMinutes
  cases axis <;> linarith

theorem nearness_self : nearness math bounds outcome.point outcome = 25/2 := by
  rw [nearness,distance_self]
  norm_num

theorem nearness_lt (apart : candidate ≠ outcome.point) : nearness math bounds candidate outcome < 25/2 := by
  have far := @distance_pos math bounds candidate outcome apart
  rw [nearness,div_lt_iff₀ (by linarith)]
  linarith

theorem quality_perm {others : List BatchOutcome} (same : items.Perm others) :
    candidateQuality math items bounds weights candidate = candidateQuality math others bounds weights candidate := by
  unfold candidateQuality
  simp only
  rw [(same.map _).sum_eq,(same.map _).sum_eq]

def totalNearness (math : Elementary) (bounds : OptimizerBounds) (items : List BatchOutcome) (candidate : Candidate) : ℚ :=
  (items.map (nearness math bounds candidate)).sum

-- By how much the outcomes stay below a score, each as near as it lies.
def shortfall (math : Elementary) (bounds : OptimizerBounds) (weights : ℚ × ℚ) (top : ℚ) (items : List BatchOutcome)
    (candidate : Candidate) : ℚ :=
  (items.map fun outcome => (top-scoreWithWeights weights outcome)*nearness math bounds candidate outcome).sum

theorem totalNearness_nonneg : 0 ≤ totalNearness math bounds items candidate := by
  refine List.sum_nonneg fun value member => ?_
  obtain ⟨outcome,_,rfl⟩ := List.mem_map.mp member
  exact nearness_pos.le

theorem totalNearness_pos (nonempty : items ≠ []) : 0 < totalNearness math bounds items candidate := by
  cases items with
  | nil => exact absurd rfl nonempty
  | cons outcome rest =>
      have others := @totalNearness_nonneg math bounds candidate rest
      have first := @nearness_pos math bounds candidate outcome
      change 0 < nearness math bounds candidate outcome + totalNearness math bounds rest candidate
      linarith

theorem shortfall_nonneg (below : ∀ outcome ∈ items, scoreWithWeights weights outcome ≤ top) :
    0 ≤ shortfall math bounds weights top items candidate := by
  refine List.sum_nonneg fun value member => ?_
  obtain ⟨outcome,listed,rfl⟩ := List.mem_map.mp member
  exact mul_nonneg (sub_nonneg.mpr (below outcome listed)) nearness_pos.le

theorem weighted_shortfall (top : ℚ) (items : List BatchOutcome) : (items.map fun outcome => scoreWithWeights weights outcome*nearness math bounds candidate outcome).sum =
    top*totalNearness math bounds items candidate - shortfall math bounds weights top items candidate := by
  unfold totalNearness shortfall
  induction items with
  | nil => simp
  | cons outcome rest ih =>
      simp only [List.map_cons,List.sum_cons,ih]
      ring

theorem quality_le (nonempty : items ≠ [])
    (less : shortfall math bounds weights top items candidate*totalNearness math bounds items other ≤
      shortfall math bounds weights top items other*totalNearness math bounds items candidate) :
    candidateQuality math items bounds weights other ≤ candidateQuality math items bounds weights candidate := by
  have here := @totalNearness_pos math bounds candidate items nonempty
  have there := @totalNearness_pos math bounds other items nonempty
  unfold candidateQuality
  simp only [weighted_shortfall top]
  change (if totalNearness math bounds items other = 0 then _ else _/totalNearness math bounds items other) ≤
    if totalNearness math bounds items candidate = 0 then _ else _/totalNearness math bounds items candidate
  rw [if_neg there.ne',if_neg here.ne',div_le_div_iff₀ there here]
  linarith

-- Enough of the best batches, and one that failed badly enough, settle which of two points is better.
theorem outweighs {near back missed besides beside : ℚ} (nearer : near < 25/2) (backed : back < 25/2)
    (close : 0 < near) (behind : 0 < back) (shortfall : 0 ≤ missed) (nonneg : 0 ≤ besides) (counted : 0 ≤ beside) (least : Nat) :
    ∃ count ≥ least, ∃ failure : ℚ, 0 ≤ failure ∧
      (missed + failure*back)*(beside + count*near + 25/2) ≤ failure*(25/2)*(besides + count*(25/2) + back) := by
  have gap : 0 < 25/2*(25/2) - back*near := by nlinarith
  obtain ⟨enough,bound⟩ := exists_nat_ge ((1 + back*beside)/(25/2*(25/2) - back*near))
  let count := max enough least
  have large : 1 + back*beside ≤ (count:ℚ)*(25/2*(25/2) - back*near) := by
    rw [← div_le_iff₀ gap]
    exact bound.trans (by exact_mod_cast le_max_left enough least)
  let crowd := beside + count*near + 25/2
  have crowded : 0 ≤ crowd := by positivity
  refine ⟨count,le_max_right _ _,missed*crowd,mul_nonneg shortfall crowded,?_⟩
  change (missed + missed*crowd*back)*crowd ≤ _
  have room : 1 + back*crowd ≤ 25/2*(besides + count*(25/2) + back) := by
    have rest : 0 ≤ 25/2*besides := by positivity
    change 1 + back*(beside + count*near + 25/2) ≤ _
    linarith
  calc (missed + missed*crowd*back)*crowd = missed*crowd*(1 + back*crowd) := by ring
    _ ≤ missed*crowd*(25/2*(besides + count*(25/2) + back)) :=
        mul_le_mul_of_nonneg_left room (mul_nonneg shortfall crowded)
    _ = _ := by ring

-- A batch at a point whose weighted score is the given one.
def outcomeAt (weights : ℚ × ℚ) (point : Axes ℚ) (score : ℚ) : BatchOutcome where
  batchId := 1
  targetTemperatureC := point.temperatureC
  targetStirrerRpm := point.stirrerRpm
  heatingMinutes := point.heatingMinutes
  stirringMinutes := point.stirringMinutes
  yieldPercent := if 0 < weights.1 then score/weights.1 else 0
  productRatio := if 0 < weights.1 then 0 else score/(100*weights.2)

structure Weighing (weights : ℚ × ℚ) : Prop where
  yield : 0 ≤ weights.1
  ratio : 0 ≤ weights.2
  some : 0 < weights.1 + weights.2

theorem score_outcomeAt (weighing : Weighing weights) (point : Axes ℚ) (score : ℚ) :
    scoreWithWeights weights (outcomeAt weights point score) = score := by
  obtain ⟨nonneg,_,weighed⟩ := weighing
  unfold scoreWithWeights outcomeAt
  by_cases yields : 0 < weights.1
  · rw [if_pos yields,if_pos yields]
    field_simp
    ring
  · have unweighed : weights.1 = 0 := le_antisymm (not_lt.mp yields) nonneg
    have ratio : 0 < weights.2 := by linarith
    rw [if_neg yields,if_neg yields]
    field_simp
    ring

theorem objectiveWeights_weighing (memory : Option AiMemory) : Weighing (objectiveWeights memory) := by
  cases memory with
  | none => constructor <;> norm_num [objectiveWeights]
  | some memory =>
      obtain ⟨yield,ratio,weighed⟩ := memory.objective.weights_nonneg
      exact ⟨yield,ratio,weighed⟩

theorem exists_above (score : BatchOutcome → ℚ) (references : List BatchOutcome) :
    ∃ top, ∀ reference ∈ references, score reference < top := by
  induction references with
  | nil => exact ⟨0,by simp⟩
  | cons reference rest ih =>
      obtain ⟨top,above⟩ := ih
      refine ⟨max top (score reference+1),?_⟩
      intro one member
      rcases List.mem_cons.mp member with rfl | member
      · exact lt_of_lt_of_le (lt_add_one _) (le_max_right _ _)
      · exact lt_of_lt_of_le (above one member) (le_max_left _ _)

theorem nearness_outcomeAt (point : Axes ℚ) (score : ℚ) :
    nearness math bounds point (outcomeAt weights point score) = 25/2 := by
  have ran : (outcomeAt weights point score).point = point := rfl
  have self := @nearness_self math bounds (outcomeAt weights point score)
  rwa [ran] at self

theorem totalNearness_crowd (references : List BatchOutcome) (count : Nat) (best failed : BatchOutcome) (candidate : Candidate) :
    totalNearness math bounds (references ++ (List.replicate count best ++ [failed])) candidate =
      totalNearness math bounds references candidate + count*nearness math bounds candidate best +
        nearness math bounds candidate failed := by
  simp only [totalNearness,List.map_append,List.sum_append,List.map_replicate,List.sum_replicate,nsmul_eq_mul,
    List.map_cons,List.map_nil,List.sum_cons,List.sum_nil]
  ring

theorem shortfall_crowd (references : List BatchOutcome) (count : Nat) {best : BatchOutcome} (failed : BatchOutcome)
    (candidate : Candidate) (reached : scoreWithWeights weights best = top) :
    shortfall math bounds weights top (references ++ (List.replicate count best ++ [failed])) candidate =
      shortfall math bounds weights top references candidate +
        (top-scoreWithWeights weights failed)*nearness math bounds candidate failed := by
  simp only [shortfall,List.map_append,List.sum_append,List.map_replicate,List.sum_replicate,nsmul_eq_mul,
    List.map_cons,List.map_nil,List.sum_cons,List.sum_nil,reached]
  ring

-- Many batches at a point and one failure elsewhere make the point the better of the two.
theorem crowd_better (weighing : Weighing weights) {references : List BatchOutcome} {point : Axes ℚ}
    (below : ∀ reference ∈ references, scoreWithWeights weights reference ≤ top) (apart : other ≠ point) (least : Nat) :
    ∃ count ≥ least, ∃ failed, scoreWithWeights weights failed ≤ top ∧
      candidateQuality math (references ++ (List.replicate count (outcomeAt weights point top) ++ [failed])) bounds weights other ≤
        candidateQuality math (references ++ (List.replicate count (outcomeAt weights point top) ++ [failed])) bounds weights
          point := by
  have near := @nearness_lt math bounds other (outcomeAt weights point top) apart
  have back := @nearness_lt math bounds point (outcomeAt weights other top) (Ne.symm apart)
  obtain ⟨count,enough,failure,nonneg,heavier⟩ := outweighs near back nearness_pos nearness_pos
    (@shortfall_nonneg math bounds weights point references top below)
    (@totalNearness_nonneg math bounds point references) (@totalNearness_nonneg math bounds other references) least
  have missed := score_outcomeAt weighing other (top-failure)
  refine ⟨count,enough,outcomeAt weights other (top-failure),by linarith,?_⟩
  refine @quality_le math bounds weights _ _ _ top (by simp) ?_
  rw [totalNearness_crowd,totalNearness_crowd,shortfall_crowd _ _ _ _ (score_outcomeAt weighing point top),
    shortfall_crowd _ _ _ _ (score_outcomeAt weighing point top),missed,sub_sub_cancel,nearness_outcomeAt,nearness_outcomeAt]
  have there := @shortfall_nonneg math bounds weights other references top below
  have crowd := @totalNearness_nonneg math bounds point references
  have same : nearness math bounds point (outcomeAt weights other (top-failure)) =
      nearness math bounds point (outcomeAt weights other top) := rfl
  rw [same]
  have far := @nearness_pos math bounds point (outcomeAt weights other top)
  have total : 0 ≤ totalNearness math bounds references point + count*(25/2) +
      nearness math bounds point (outcomeAt weights other top) := by positivity
  refine heavier.trans (mul_le_mul_of_nonneg_right ?_ total)
  linarith

theorem exists_crowd (math : Elementary) (bounds : OptimizerBounds) (weighing : Weighing weights)
    {references : List BatchOutcome} (below : ∀ reference ∈ references, scoreWithWeights weights reference ≤ top)
    (midpoint : Option Candidate) (point : Axes ℚ) (least : Nat) :
    ∃ count ≥ least, ∃ low : List BatchOutcome, low.length ≤ 1 ∧ (∀ outcome ∈ low, scoreWithWeights weights outcome ≤ top) ∧
      ∀ other ∈ midpoint, candidateQuality math (references ++ (List.replicate count (outcomeAt weights point top) ++ low))
        bounds weights other ≤
        candidateQuality math (references ++ (List.replicate count (outcomeAt weights point top) ++ low)) bounds weights point := by
  cases midpoint with
  | none => exact ⟨least,le_rfl,[],by simp,by simp,by simp⟩
  | some other =>
      by_cases apart : other = point
      · subst apart
        refine ⟨least,le_rfl,[],by simp,by simp,?_⟩
        rintro _ ⟨⟩
        exact le_rfl
      · obtain ⟨count,enough,failed,low,better⟩ := @crowd_better math bounds weights other top weighing _ _ below apart least
        refine ⟨count,enough,[failed],by simp,?_,?_⟩
        · intro outcome member
          rw [List.mem_singleton.mp member]
          exact low
        · rintro _ ⟨⟩
          exact better

end ReactorOS
