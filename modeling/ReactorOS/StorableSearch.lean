import ReactorOS.CoveredBounds
import ReactorOS.EvenSearch
import ReactorOS.RecordRanges
namespace ReactorOS
open Chance
variable {math : Elementary} {bounds : OptimizerBounds} {memory : Option AiMemory} {outcomes : List BatchOutcome}
  {point : Axes ℚ}

-- The best batch is one of them all, and none scores higher.
theorem bestOf_best (many : memoryOutcomes memory ++ outcomes ≠ []) :
    bestOf memory outcomes ∈ memoryOutcomes memory ++ outcomes ∧
      ∀ other ∈ memoryOutcomes memory ++ outcomes, scoreWithWeights (objectiveWeights memory) other ≤
        scoreWithWeights (objectiveWeights memory) (bestOf memory outcomes) := by
  have nonempty := @ranked_ne_nil _ (scoreWithWeights (objectiveWeights memory)) _ many
  have chosen := elitesOf_ne_nil nonempty
  unfold bestOf
  cases sorted : ranked (scoreWithWeights (objectiveWeights memory)) (memoryOutcomes memory ++ outcomes) with
  | nil => exact absurd sorted nonempty
  | cons best rest =>
      rw [sorted] at chosen
      have first : (elitesOf (best :: rest)).headD default = best := by
        unfold elitesOf at chosen ⊢
        cases count : min (eliteCountOf (best :: rest).length) (best :: rest).length with
        | zero => rw [count] at chosen; exact absurd rfl chosen
        | succ more => rfl
      rw [first]
      exact ⟨mem_ranked.mp (sorted ▸ List.mem_cons_self),ranked_head sorted⟩

theorem sum_deviation (centre : ℚ) (f : BatchOutcome → ℚ) (items : List BatchOutcome) :
    |(items.map f).sum - items.length*centre| ≤ (items.map fun item => |f item-centre|).sum := by
  induction items with
  | nil => simp
  | cons item rest ih =>
      have split : ((item :: rest).map f).sum - (item :: rest).length*centre =
          (f item-centre) + ((rest.map f).sum - rest.length*centre) := by
        simp only [List.map_cons,List.sum_cons,List.length_cons]
        push_cast
        ring
      rw [split,List.map_cons,List.sum_cons]
      exact (abs_add_le _ _).trans (by linarith)

def deviation (references : List BatchOutcome) (best : BatchOutcome) (f : BatchOutcome → ℚ) : ℚ :=
  (references.map fun reference => |f reference-f best|).sum

-- Enough batches at one point hold the mean of the elites next to it.
theorem mean_near {references : List BatchOutcome} (score : BatchOutcome → ℚ) (best : BatchOutcome) (f : BatchOutcome → ℚ)
    {count : Nat} (many : deviation references best f ≤ count) :
    |mean (elitesOf (ranked score (references ++ List.replicate (4*count+4) best))) f - f best| ≤ 1 := by
  let sorted := ranked score (references ++ List.replicate (4*count+4) best)
  have elected : count+1 ≤ (elitesOf sorted).length := by
    have length : sorted.length = references.length+(4*count+4) := by
      rw [ranked_length,List.length_append,List.length_replicate]
    have quarter := @le_eliteCountOf (count+1) sorted.length (by omega)
    rw [elitesOf,List.length_take]
    omega
  have positive : (0:ℚ) < (elitesOf sorted).length := by
    exact_mod_cast (by omega : 0 < (elitesOf sorted).length)
  have kept : ((elitesOf sorted).map fun item => |f item-f best|).sum ≤ (sorted.map fun item => |f item-f best|).sum := by
    refine ((List.take_sublist _ _).map _).sum_le_sum ?_
    intro value member
    obtain ⟨item,_,rfl⟩ := List.mem_map.mp member
    exact abs_nonneg _
  have all : (sorted.map fun item => |f item-f best|).sum = deviation references best f := by
    rw [((ranked_perm score _).map _).sum_eq,List.map_append,List.sum_append,List.map_replicate,sub_self,abs_zero,
      List.sum_replicate,nsmul_zero,add_zero]
    rfl
  have enough : (count:ℚ) ≤ (elitesOf sorted).length := by
    exact_mod_cast (by omega : count ≤ (elitesOf sorted).length)
  have scaled : mean (elitesOf sorted) f - f best =
      (((elitesOf sorted).map f).sum - (elitesOf sorted).length*f best) / (elitesOf sorted).length := by
    rw [mean,sub_div,mul_div_cancel_left₀ _ positive.ne']
  change |mean (elitesOf sorted) f - f best| ≤ 1
  rw [scaled,abs_div,abs_of_pos positive,div_le_one positive]
  exact ((sum_deviation (f best) f (elitesOf sorted)).trans (kept.trans (all.le.trans many))).trans enough

-- Batches with full marks, and the references beside them, are answered with the full score.
theorem full_marks_scored (ordered : (effectiveBounds bounds memory).Ordered)
    (marked : ∀ reference ∈ memoryOutcomes memory, Marked reference) (count : Nat) :
    Always (recommendWithMemory math bounds memory (List.replicate (4*count+4) (fullMarks point))) fun found =>
      ∀ record ∈ found, record.expectedScore = round2 (fullScore (objectiveWeights memory)) := by
  intro draws record found
  have length : (memoryOutcomes memory ++ List.replicate (4*count+4) (fullMarks point)).length =
      (memoryOutcomes memory).length+(4*count+4) := by
    rw [List.length_append,List.length_replicate]
  rw [(recommend_always memory ordered draws record found).score,if_neg (by omega)]
  obtain ⟨listed,best⟩ := @bestOf_best memory (List.replicate (4*count+4) (fullMarks point))
    (List.ne_nil_of_length_pos (by omega))
  congr 1
  apply le_antisymm
  · rcases List.mem_append.mp listed with reference | batch
    · exact (marked_score (objectiveWeights_weighing memory) (marked _ reference)).2
    · rw [List.eq_of_mem_replicate batch,fullMarks_score]
  · have full := best (fullMarks point) (List.mem_append_right _ (List.mem_replicate.mpr ⟨by omega,rfl⟩))
    rwa [fullMarks_score] at full

-- A point near which the elites ran can be the first sample, so that the search has an answer.
theorem sample_recommended (many : 3 ≤ (memoryOutcomes memory ++ outcomes).length)
    (reach : SampleReach math (elitesFor memory outcomes) (effectiveBounds bounds memory) point)
    (clear : isForbidden point (forbiddenZonesOf memory) = false) :
    ∃ draws record, (recommendWithMemory math bounds memory outcomes draws).1 = some record := by
  have sampled : Possible (sampleAllowed math (elitesFor memory outcomes) (effectiveBounds bounds memory)
      (forbiddenZonesOf memory) 64) (· ≠ none) := by
    refine .bind (sampleCandidate_possible reach) fun candidate same => ?_
    subst same
    rw [clear]
    exact .pure (by simp)
  obtain ⟨draws,found⟩ := sampled.exists
  have searched := @searched_seeded math (ranked (scoreWithWeights (objectiveWeights memory)) (memoryOutcomes memory ++ outcomes))
    _ _ _ (objectiveWeights memory) draws (seeds_ne_nil (.inr found))
  refine ⟨draws,Option.ne_none_iff_exists'.mp ?_⟩
  unfold recommendWithMemory
  simp only
  rw [if_neg (not_lt.mpr many)]
  refine @bind_then _ _ _ _ _ (· ≠ none) (· ≠ none) searched fun chosen reached => ?_
  cases chosen with
  | none => exact absurd rfl reached
  | some chosen => exact .pure (by simp)

-- Every recommendation for batches that the database holds is one that it takes.
def Storable (math : Elementary) (base : OptimizerBounds) (memory : AiMemory) : Prop :=
  ∀ outcomes, (∀ outcome ∈ outcomes, validateBatchOutcomeRecord outcome = .ok outcome) →
    ∀ draws record, (recommendWithMemory math base (some memory) outcomes draws).1 = some record →
      validateRecommendationRecord record = .ok record

-- A point that the search may choose and that is in range once it is rounded.
structure Fitting (base : OptimizerBounds) (memory : AiMemory) (point : Candidate) : Prop where
  feasible : Feasible (memory.effectiveOptimizerBounds base) (forbiddenZonesOf (some memory)) point
  keeps : Keeps point.rounded

def StoredOutcomes (outcomes : List BatchOutcome) : Prop := ∀ outcome ∈ outcomes, validateBatchOutcomeRecord outcome = .ok outcome

-- The search begins at such points, and no single step from them ends at an allowed point that is out of range.
structure SearchFits (math : Elementary) (base : OptimizerBounds) (memory : AiMemory) : Prop where
  midpoint : ∀ midpoint ∈ safeMidpoint (memory.effectiveOptimizerBounds base) (forbiddenZonesOf (some memory)),
    Keeps midpoint.rounded
  closed : ∀ outcomes, StoredOutcomes outcomes → 3 ≤ (memoryOutcomes (some memory) ++ outcomes).length →
    Closed math (ranked (scoreWithWeights (objectiveWeights (some memory))) (memoryOutcomes (some memory) ++ outcomes))
      (elitesFor (some memory) outcomes) (memory.effectiveOptimizerBounds base) (forbiddenZonesOf (some memory))
      (Fitting base memory)

-- The score of a batch with full marks is in range too.
def ScoresFit (memory : AiMemory) : Prop := round2 (fullScore memory.objective.weights) ≤ 100

-- There is no point to recommend.
def Barren (base : OptimizerBounds) (memory : AiMemory) : Prop := ∀ point, ¬Fitting base memory point

theorem storable_of_fits {base : OptimizerBounds} {memory : AiMemory} (ordered : base.Ordered)
    (valid : memory.validateAgainstOptimizerBounds base = .ok ()) (fits : SearchFits math base memory)
    (scores : ScoresFit memory ∨ Barren base memory) : Storable math base memory := by
  intro outcomes stored draws record found
  have middle : ∀ midpoint ∈ safeMidpoint (effectiveBounds base (some memory)) (forbiddenZonesOf (some memory)),
      Fitting base memory midpoint := fun midpoint chosen =>
    ⟨safeMidpoint_feasible (effective_ordered memory ordered) chosen,fits.midpoint midpoint chosen⟩
  obtain ⟨⟨candidate,fitting,place⟩,count,score⟩ :=
    recommend_within middle (fits.closed outcomes stored) draws record found
  rw [validateRecommendationRecord_ok (by rw [count]; exact Int.natCast_nonneg _),place]
  refine ⟨fitting.keeps,?_⟩
  rcases scores with scores | barren
  · rw [score]
    split
    · exact ⟨le_rfl,by norm_num [recommendationExpectedScoreRange]⟩
    · rename_i many
      have nonempty : memoryOutcomes (some memory) ++ outcomes ≠ [] := List.ne_nil_of_length_pos (by omega)
      have marked : Marked (bestOf (some memory) outcomes) := by
        rcases List.mem_append.mp (bestOf_best nonempty).1 with reference | batch
        · exact reference_marked valid _ reference
        · exact (validateBatchOutcomeRecord_ok.mp (stored _ batch)).marks
      obtain ⟨nonneg,most⟩ := marked_score (objectiveWeights_weighing (some memory)) marked
      have zero : round2 0 = 0 := round2_whole 0
      exact ⟨le_round2_of_le zero nonneg,(round2_mono most).trans scores⟩
  · exact absurd fitting (barren candidate)

theorem record_kept {base : OptimizerBounds} {memory : AiMemory} (ordered : base.Ordered)
    (storable : Storable math base memory) {outcomes : List BatchOutcome} (stored : StoredOutcomes outcomes) {draws : Draws}
    {record : RecommendationRecord} (found : (recommendWithMemory math base (some memory) outcomes draws).1 = some record) :
    Keeps record.point ∧ recommendationExpectedScoreRange.Holds record.expectedScore := by
  have count := (recommend_always (some memory) (effective_ordered memory ordered) draws record found).count
  exact (validateRecommendationRecord_ok (by rw [count]; exact Int.natCast_nonneg _)).mp (storable outcomes stored draws record found)

-- While there are too few batches the point in the middle is recommended.
def MidpointFits (base : OptimizerBounds) (memory : AiMemory) : Prop :=
  (memoryOutcomes (some memory)).length < 3 →
    ∀ midpoint ∈ safeMidpoint (memory.effectiveOptimizerBounds base) (forbiddenZonesOf (some memory)), Keeps midpoint.rounded

theorem midpoint_fits {base : OptimizerBounds} {memory : AiMemory} (ordered : base.Ordered)
    (storable : Storable math base memory) : MidpointFits base memory := by
  intro few midpoint found
  have recommended : (recommendWithMemory math base (some memory) [] middle).1 =
      some (midpointRecommendation (memory.effectiveOptimizerBounds base) midpoint 0 (some memory)
        (memoryOutcomes (some memory)).length) := by
    unfold recommendWithMemory
    simp only [List.append_nil]
    rw [if_pos few]
    have chosen : safeMidpoint (effectiveBounds base (some memory)) (forbiddenZonesOf (some memory)) = some midpoint := found
    rw [chosen]
    rfl
  exact (record_kept ordered storable (by simp [StoredOutcomes]) recommended).1

-- While all batches score the same the annealing takes every allowed step: where it can walk to from the first
-- elite that lies in no zone, is in range.
def WalksFit (base : OptimizerBounds) (memory : AiMemory) : Prop :=
  ∀ outcomes, StoredOutcomes outcomes → 3 ≤ (memoryOutcomes (some memory) ++ outcomes).length →
    ∀ top, (∀ outcome ∈ memoryOutcomes (some memory) ++ outcomes,
        scoreWithWeights (objectiveWeights (some memory)) outcome = top) →
      ∀ path, Walk (memoryOutcomes (some memory) ++ outcomes) (elitesFor (some memory) outcomes)
          (memory.effectiveOptimizerBounds base) (forbiddenZonesOf (some memory)) path →
        ((elitesFor (some memory) outcomes).map (outcomeCandidate (memory.effectiveOptimizerBounds base))).find?
          (!isForbidden · (forbiddenZonesOf (some memory))) = some (path 0) →
        Keeps (path 32).rounded

theorem walks_fit {base : OptimizerBounds} {memory : AiMemory} (ordered : base.Ordered)
    (storable : Storable math base memory) : WalksFit base memory := by
  intro outcomes stored many top even path walk first
  have nonempty : memoryOutcomes (some memory) ++ outcomes ≠ [] := List.ne_nil_of_length_pos (by omega)
  have unmoved : ranked (scoreWithWeights (objectiveWeights (some memory))) (memoryOutcomes (some memory) ++ outcomes) =
      memoryOutcomes (some memory) ++ outcomes :=
    ranked_even fun one listed other also => (even one listed).trans (even other also).symm
  have search := @searched_walks math _ _ _ _ _ _ path walk nonempty even first
  have recommended : Possible (recommendWithMemory math base (some memory) outcomes) fun found =>
      ∃ record, found = some record ∧ record.point = (path 32).rounded := by
    unfold elitesFor at search
    rw [unmoved] at search
    unfold recommendWithMemory
    simp only [unmoved]
    rw [if_neg (not_lt.mpr many)]
    refine .bind search fun found same => ?_
    subst same
    exact .pure ⟨_,rfl,rfl⟩
  obtain ⟨draws,record,found,place⟩ := recommended.exists
  rw [← place]
  exact (record_kept ordered storable stored found).1

-- The point of the ranges that lies next to another.
def clipped (point : Candidate) : Candidate :=
  .each fun axis => clamp (point.on axis) (recordRanges.on axis).min (recordRanges.on axis).max

theorem ranges_whole (axis : Axis) : ∃ max : Int, 0 < max ∧ (recordRanges.on axis).min = 0 ∧ (recordRanges.on axis).max = max := by
  cases axis
  · exact ⟨500,by decide,rfl,rfl⟩
  · exact ⟨2000,by decide,rfl,rfl⟩
  · exact ⟨1440,by decide,rfl,rfl⟩
  · exact ⟨1440,by decide,rfl,rfl⟩

theorem clipped_keeps (point : Candidate) : Keeps (clipped point) := by
  intro axis
  obtain ⟨max,positive,low,high⟩ := ranges_whole axis
  have above : (0:ℚ) < max := by exact_mod_cast positive
  rw [clipped,Axes.on_each]
  exact clamp_between (by rw [low,high]; exact above.le)

-- Rounding moves a number by less than one.
theorem clipped_near (keeps : Keeps point.rounded) (axis : Axis) : |point.on axis - (clipped point).on axis| ≤ 1 := by
  obtain ⟨max,positive,low,high⟩ := ranges_whole axis
  obtain ⟨least,most⟩ := keeps axis
  have above : (0:ℚ) < max := by exact_mod_cast positive
  rw [Axes.rounded,Axes.on_each,low] at least
  rw [Axes.rounded,Axes.on_each,high] at most
  have under : -1 ≤ point.on axis := by
    by_contra far
    have rounds := round2_le_of_le (round2_whole (-1)) (by push_cast; exact (not_le.mp far).le)
    push_cast at rounds
    linarith
  have past : point.on axis ≤ max+1 := by
    by_contra far
    have rounds := le_round2_of_le (round2_whole (max+1)) (by push_cast; exact (not_le.mp far).le)
    push_cast at rounds
    linarith
  rw [clipped,Axes.on_each,low,high,abs_le]
  unfold clamp
  split
  · constructor <;> linarith
  · split
    · constructor <;> linarith
    · simp

theorem scores_fit {base : OptimizerBounds} {memory : AiMemory} (ordered : base.Ordered)
    (valid : memory.validateAgainstOptimizerBounds base = .ok ()) (storable : Storable math base memory)
    (fitting : Fitting base memory point) : ScoresFit memory := by
  have kept : (effectiveBounds base (some memory)).Ordered := effective_ordered memory ordered
  choose enough bound using fun axis =>
    exists_nat_ge (deviation (memoryOutcomes (some memory)) (fullMarks (clipped point)) (·.point.on axis))
  let count := enough .temperatureC + enough .stirrerRpm + enough .heatingMinutes + enough .stirringMinutes
  let outcomes := List.replicate (4*count+4) (fullMarks (clipped point))
  have reach : SampleReach math (elitesFor (some memory) outcomes) (effectiveBounds base (some memory)) point := by
    intro axis
    have included : enough axis ≤ count := by
      cases axis <;> omega
    have near := abs_le.mp (mean_near (scoreWithWeights (objectiveWeights (some memory))) (fullMarks (clipped point))
      (·.point.on axis) ((bound axis).trans (by exact_mod_cast included)))
    have next := abs_le.mp (clipped_near fitting.keeps axis)
    have place : (fullMarks (clipped point)).point.on axis = (clipped point).on axis := rfl
    rw [place] at near
    have floor : 4 ≤ spreadOf math (elitesFor (some memory) outcomes) axis := by
      refine le_trans ?_ (le_max_right _ _)
      cases axis <;> norm_num [spreadFloor,Axes.on]
    obtain ⟨above,below⟩ := fitting.feasible.inside axis
    refine ⟨point.on axis - mean (elitesFor (some memory) outcomes) (·.point.on axis),?_,?_,?_⟩
    · change _ ≤ point.on axis - mean (elitesFor (some memory) outcomes) (·.point.on axis)
      unfold elitesFor at floor ⊢
      linarith
    · unfold elitesFor at floor ⊢
      linarith
    · rw [add_sub_cancel]
      exact (clamp_self above below).symm
  have many : 3 ≤ (memoryOutcomes (some memory) ++ outcomes).length := by
    rw [List.length_append,List.length_replicate]
    omega
  obtain ⟨draws,record,found⟩ := sample_recommended many reach fitting.feasible.clear
  have stored : StoredOutcomes outcomes := by
    intro outcome member
    rw [List.eq_of_mem_replicate member]
    exact validateBatchOutcomeRecord_ok.mpr (fullMarks_stored (clipped_keeps point))
  have held := (record_kept ordered storable stored found).2.2
  rwa [full_marks_scored kept (reference_marked valid) count draws record found] at held

end ReactorOS
