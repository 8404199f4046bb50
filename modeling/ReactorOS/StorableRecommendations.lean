import ReactorOS.StorableSearch
namespace ReactorOS
open Chance
variable {math : Elementary} {point : Axes ℚ}

-- No zone is in the way, and no reference beside the batches.
structure Unobstructed (memory : AiMemory) : Prop where
  zones : forbiddenZonesOf (some memory) = []
  references : memoryOutcomes (some memory) = []

def BoundsFit (base : OptimizerBounds) (memory : AiMemory) : Prop :=
  ∀ axis, (recordRanges.on axis).min ≤ round2 ((memory.effectiveOptimizerBounds base).low.on axis) ∧
    round2 ((memory.effectiveOptimizerBounds base).high.on axis) ≤ (recordRanges.on axis).max

theorem bounds_fitting {base : OptimizerBounds} {memory : AiMemory} (bounds : BoundsFit base memory)
    (feasible : Feasible (memory.effectiveOptimizerBounds base) (forbiddenZonesOf (some memory)) point) :
    Fitting base memory point := by
  refine ⟨feasible,fun axis => ?_⟩
  obtain ⟨above,below⟩ := feasible.inside axis
  rw [Axes.rounded,Axes.on_each]
  exact ⟨(bounds axis).1.trans (round2_mono above),(round2_mono below).trans (bounds axis).2⟩

theorem searchFits_of_bounds {base : OptimizerBounds} {memory : AiMemory} (ordered : base.Ordered)
    (bounds : BoundsFit base memory) : SearchFits math base memory := by
  have kept := effective_ordered memory ordered
  refine ⟨fun midpoint found => (bounds_fitting bounds (safeMidpoint_feasible kept found)).keeps,fun outcomes _ _ => ?_⟩
  have closed := @feasible_closed math
    (ranked (scoreWithWeights (objectiveWeights (some memory))) (memoryOutcomes (some memory) ++ outcomes))
    (elitesFor (some memory) outcomes) _ (forbiddenZonesOf (some memory)) kept
  exact ⟨fun elite listed clear => bounds_fitting bounds (closed.elite elite listed clear),
    fun midpoint found => bounds_fitting bounds (closed.midpoint midpoint found),
    fun point reach clear => bounds_fitting bounds (closed.samples point reach clear),
    fun first second one two blend least most child step clear =>
      bounds_fitting bounds (closed.children first second one.feasible two.feasible blend least most child step clear),
    fun candidate now neighbor step clear => bounds_fitting bounds (closed.neighbors candidate now.feasible neighbor step clear)⟩

section Drift
variable {base : OptimizerBounds} {memory : AiMemory} {axis : Axis} {best second : ℚ}

-- A batch that ran at zero but for one number.
def along (axis : Axis) (value : ℚ) : Candidate := .each fun other => if other = axis then value else 0

theorem along_on (axis : Axis) (value : ℚ) : (along axis value).on axis = value := by
  rw [along,Axes.on_each,if_pos rfl]

-- The best batch, and three that are no worse and lie elsewhere.
def driftBatches (axis : Axis) (best second : ℚ) : List BatchOutcome :=
  fullMarks (along axis best) :: List.replicate 3 (fullMarks (along axis second))

theorem along_keeps {value : ℚ} (holds : (recordRanges.on axis).Holds value) : Keeps (along axis value) := by
  intro other
  rw [along,Axes.on_each]
  split
  · rename_i same
    rw [same]
    exact holds
  · obtain ⟨max,positive,low,high⟩ := ranges_whole other
    have above : (0:ℚ) < max := by exact_mod_cast positive
    exact ⟨low.le,high ▸ above.le⟩

-- The number that differs, one correction later.
theorem drift_step (bounds : OptimizerBounds) (candidate : Candidate) :
    (trendCorrectCandidate (driftBatches axis best second) [fullMarks (along axis best)] bounds candidate).on axis =
      clamp (candidate.on axis*(76/100) + best*(27/100) - second*(3/100)) (bounds.low.on axis) (bounds.high.on axis) := by
  have mean : mean [fullMarks (along axis best)] (·.point.on axis) = best :=
    (mean_replicate 0 (fullMarks (along axis best)) (·.point.on axis)).trans (along_on axis best)
  have first : (fullMarks (along axis best)).point.on axis = best := along_on axis best
  have next : (fullMarks (along axis second)).point.on axis = second := along_on axis second
  rw [trendCorrectCandidate,Axes.on_each,mean]
  unfold trendAxis driftBatches
  simp only [List.headD_cons,List.getD_cons_succ,List.replicate,List.getD_cons_zero,first,next]
  congr 1
  ring

theorem drift_elites : elitesOf (driftBatches axis best second) = [fullMarks (along axis best)] := by
  have count : eliteCountOf 4 = 1 := le_antisymm (eliteCountOf_le le_rfl one_pos) (le_eliteCountOf le_rfl)
  unfold elitesOf driftBatches
  simp [count]

-- The corrections alone carry the search on to the end of its 32 steps.
theorem drift_kept (ordered : base.Ordered) (storable : Storable math base memory) (unobstructed : Unobstructed memory)
    (one : (recordRanges.on axis).Holds best) (two : (recordRanges.on axis).Holds second) :
    Keeps (corrected (driftBatches axis best second) [fullMarks (along axis best)] (memory.effectiveOptimizerBounds base)
      (outcomeCandidate (memory.effectiveOptimizerBounds base) (fullMarks (along axis best))) 32).rounded := by
  have even : ∀ outcome ∈ driftBatches axis best second,
      scoreWithWeights (objectiveWeights (some memory)) outcome = fullScore (objectiveWeights (some memory)) := by
    intro outcome listed
    rcases List.mem_cons.mp listed with rfl | copy
    · exact fullMarks_score _
    · rw [List.eq_of_mem_replicate copy]
      exact fullMarks_score _
  have stored : StoredOutcomes (driftBatches axis best second) := by
    intro outcome listed
    refine validateBatchOutcomeRecord_ok.mpr ?_
    rcases List.mem_cons.mp listed with rfl | copy
    · exact fullMarks_stored (along_keeps one)
    · rw [List.eq_of_mem_replicate copy]
      exact fullMarks_stored (along_keeps two)
  have unmoved : ranked (scoreWithWeights (objectiveWeights (some memory))) (driftBatches axis best second) =
      driftBatches axis best second := ranked_even fun one listed other also => (even one listed).trans (even other also).symm
  have elites : elitesFor (some memory) (driftBatches axis best second) = [fullMarks (along axis best)] := by
    rw [elitesFor,unobstructed.references,List.nil_append,unmoved,drift_elites]
  have kept := effective_ordered memory ordered
  have walks := walks_fit ordered storable (driftBatches axis best second) stored
  rw [unobstructed.references,unobstructed.zones,elites,List.nil_append] at walks
  exact walks (by simp [driftBatches]) _ even _ (corrected_walk kept (each_clamp_holds kept _)) rfl

theorem drift_start (bounds : OptimizerBounds) :
    (outcomeCandidate bounds (fullMarks (along axis best))).on axis = clamp best (bounds.low.on axis) (bounds.high.on axis) := by
  have placed : (fullMarks (along axis best)).point.on axis = best := along_on axis best
  rw [outcomeCandidate,Axes.on_each,placed]

theorem drift_down {bounds : OptimizerBounds} (under : bounds.low.on axis ≤ 0) (far : 1 ≤ second) (steps : Nat) :
    (corrected (driftBatches axis 0 second) [fullMarks (along axis 0)] bounds
      (outcomeCandidate bounds (fullMarks (along axis 0))) steps).on axis ≤ 0 ∧
    (corrected (driftBatches axis 0 second) [fullMarks (along axis 0)] bounds
      (outcomeCandidate bounds (fullMarks (along axis 0))) (steps+1)).on axis ≤ max (bounds.low.on axis) (-3/100) := by
  have next := fun candidate (low : candidate.on axis ≤ 0) => show
      (trendCorrectCandidate (driftBatches axis 0 second) [fullMarks (along axis 0)] bounds candidate).on axis ≤
        max (bounds.low.on axis) (-3/100) by
    rw [drift_step]
    exact clamp_le (le_trans (by linarith) (le_max_right _ _)) (le_max_left _ _)
  have below : ∀ steps, (corrected (driftBatches axis 0 second) [fullMarks (along axis 0)] bounds
      (outcomeCandidate bounds (fullMarks (along axis 0))) steps).on axis ≤ 0 := by
    intro steps
    induction steps with
    | zero => exact (drift_start bounds).le.trans (clamp_le le_rfl under)
    | succ steps ih =>
        rw [corrected_succ]
        exact (next _ ih).trans (max_le under (by norm_num))
  refine ⟨below steps,?_⟩
  rw [corrected_succ]
  exact next _ (below steps)

theorem drift_up {bounds : OptimizerBounds} (far : 1 ≤ best) (past : best ≤ bounds.high.on axis) (steps : Nat) :
    best ≤ (corrected (driftBatches axis best 0) [fullMarks (along axis best)] bounds
      (outcomeCandidate bounds (fullMarks (along axis best))) steps).on axis ∧
    min (bounds.high.on axis) (best+3/100) ≤ (corrected (driftBatches axis best 0) [fullMarks (along axis best)] bounds
      (outcomeCandidate bounds (fullMarks (along axis best))) (steps+1)).on axis := by
  have next := fun candidate (high : best ≤ candidate.on axis) => show min (bounds.high.on axis) (best+3/100) ≤
      (trendCorrectCandidate (driftBatches axis best 0) [fullMarks (along axis best)] bounds candidate).on axis by
    rw [drift_step]
    exact le_clamp ((min_le_right _ _).trans (by linarith)) (min_le_left _ _)
  have above : ∀ steps, best ≤ (corrected (driftBatches axis best 0) [fullMarks (along axis best)] bounds
      (outcomeCandidate bounds (fullMarks (along axis best))) steps).on axis := by
    intro steps
    induction steps with
    | zero => exact (le_clamp le_rfl past).trans (drift_start bounds).ge
    | succ steps ih =>
        rw [corrected_succ]
        exact (le_min past (by linarith)).trans (next _ ih)
  refine ⟨above steps,?_⟩
  rw [corrected_succ]
  exact next _ (above steps)

-- With no zone in the way a bound outside the ranges is reached: the best batch stands at the end of its range, the
-- next one at the other end, and the difference of the two pushes the search on.
theorem bounds_fit (ordered : base.Ordered) (storable : Storable math base memory) (unobstructed : Unobstructed memory) :
    BoundsFit base memory := by
  intro axis
  obtain ⟨most,positive,low,high⟩ := ranges_whole axis
  have far : (1:ℚ) ≤ most := by exact_mod_cast positive
  have hundredth (n : Int) : round2 ((most:ℚ)+n/100) = most+n/100 := by
    have whole := round2_hundredth (most*100+n)
    push_cast at whole
    rwa [add_div,mul_div_cancel_right₀ _ (by norm_num)] at whole
  have zero : round2 0 = 0 := round2_whole 0
  have bottom : (recordRanges.on axis).Holds 0 := ⟨low.le,by rw [high]; linarith⟩
  have top : (recordRanges.on axis).Holds most := ⟨by rw [low]; linarith,high.ge⟩
  rw [low,high]
  constructor
  · by_contra below
    rw [not_le] at below
    have under : (memory.effectiveOptimizerBounds base).low.on axis < 0 := by
      by_contra past
      exact absurd (le_round2_of_le zero (not_lt.mp past)) (not_le.mpr below)
    have kept := (drift_kept ordered storable unobstructed bottom top axis).1
    rw [Axes.rounded,Axes.on_each,low] at kept
    have reached := kept.trans (round2_mono (drift_down under.le far 31).2)
    rcases max_choice ((memory.effectiveOptimizerBounds base).low.on axis) (-3/100) with same | same
    · rw [same] at reached
      exact absurd reached (not_le.mpr below)
    · have three : round2 (-3/100) = -3/100 := by simpa using round2_hundredth (-3)
      rw [same,three] at reached
      norm_num at reached
  · by_contra past
    rw [not_le] at past
    have beyond : (most:ℚ) < (memory.effectiveOptimizerBounds base).high.on axis := by
      by_contra within
      exact absurd (round2_le_of_le (by simpa using hundredth 0) (not_lt.mp within)) (not_le.mpr past)
    have kept := (drift_kept ordered storable unobstructed top bottom axis).2
    rw [Axes.rounded,Axes.on_each,high] at kept
    have reached := (round2_mono (drift_up far beyond.le 31).2).trans kept
    rcases min_choice ((memory.effectiveOptimizerBounds base).high.on axis) (most+3/100) with same | same
    · rw [same] at reached
      exact absurd reached (not_le.mpr past)
    · have three : round2 ((most:ℚ)+3/100) = most+3/100 := by simpa using hundredth 3
      rw [same,three] at reached
      linarith

end Drift

theorem shipped_inside (axis : Axis) : (recordRanges.on axis).min ≤ round2 (SafetyConfig.shipped.optimizer.low.on axis) ∧
    round2 (SafetyConfig.shipped.optimizer.high.on axis) ≤ (recordRanges.on axis).max := by
  obtain ⟨most,_,low,high⟩ := ranges_whole axis
  have bottom : 0 ≤ SafetyConfig.shipped.optimizer.low.on axis := by
    cases axis <;> decide
  have top : SafetyConfig.shipped.optimizer.high.on axis ≤ (recordRanges.on axis).max := by
    cases axis <;> decide
  rw [high] at top ⊢
  rw [low]
  exact ⟨le_round2_of_le (round2_whole 0) bottom,round2_le_of_le (round2_whole most) top⟩

theorem shipped_ordered : SafetyConfig.shipped.optimizer.Ordered := by
  rintro (_ | _ | _ | _) <;> decide

theorem shipped_bounds (memory : AiMemory) : BoundsFit SafetyConfig.shipped.optimizer memory := by
  intro axis
  obtain ⟨low,high⟩ := effective_inside memory SafetyConfig.shipped.optimizer axis
  exact ⟨(shipped_inside axis).1.trans (round2_mono low),(round2_mono high).trans (shipped_inside axis).2⟩

theorem shipped_fits (math : Elementary) (memory : AiMemory) : SearchFits math SafetyConfig.shipped.optimizer memory :=
  searchFits_of_bounds shipped_ordered (shipped_bounds memory)

theorem default_scores (memory : AiMemory) (weights : memory.objective = ⟨8/10,2/10⟩) : ScoresFit memory := by
  have full : fullScore memory.objective.weights = 100 := by
    rw [weights]
    norm_num [fullScore,ObjectiveMemory.weights]
  rw [ScoresFit,full]
  exact (round2_whole 100).le

section LongHeating

-- Heating may take two days, but for a zone that begins where the table ends.
def longHeating : OptimizerBounds := {SafetyConfig.shipped.optimizer with maxHeatingMinutes := 3000}

def dayZone : AiMemory where
  recommendation := ⟨true,false,⟨{},{},{},{}⟩⟩
  forbiddenZones := [⟨"day",⟨{},{},⟨some 1440,some 2900⟩,{}⟩⟩]

theorem day_clear (point : Candidate) : isForbidden point (forbiddenZonesOf (some dayZone)) = false ↔
    point.heatingMinutes < 1440 ∨ 2900 < point.heatingMinutes := by
  have zones : forbiddenZonesOf (some dayZone) = [⟨"day",⟨{},{},⟨some 1440,some 2900⟩,{}⟩⟩] := rfl
  rw [zones]
  simp [isForbidden,ForbiddenZone.contains,checkDimension]
  grind

theorem long_effective : dayZone.effectiveOptimizerBounds longHeating = longHeating := by
  unfold AiMemory.effectiveOptimizerBounds
  rw [if_neg (by decide)]
  simp only
  rw [if_neg (by decide)]
  rfl

theorem approximate_sqrt_le {value : ℚ} {root : Nat} (small : value ≤ root*root) : Elementary.approximate.sqrt value ≤ root := by
  have scaled : ⌈value*10^32⌉ ≤ (((root*10^16)*(root*10^16) : Nat) : Int) := by
    refine Int.ceil_le.mpr ?_
    push_cast
    linarith
  have square : Nat.sqrt ⌈value*10^32⌉.toNat ≤ root*10^16 := by
    rw [← Nat.sqrt_eq (root*10^16)]
    exact Nat.sqrt_le_sqrt (by omega)
  have cast : (Nat.sqrt ⌈value*10^32⌉.toNat : ℚ) ≤ root*10^16 := by exact_mod_cast square
  change (Nat.sqrt ⌈value*10^32⌉.toNat : ℚ) / 10^16 ≤ root
  rw [div_le_iff₀ (by norm_num)]
  exact cast

theorem mean_between {items : List BatchOutcome} {f : BatchOutcome → ℚ} {low high : ℚ} (nonempty : items ≠ [])
    (within : ∀ item ∈ items, low ≤ f item ∧ f item ≤ high) : low ≤ mean items f ∧ mean items f ≤ high := by
  have counted : (0:ℚ) < items.length := by exact_mod_cast List.length_pos_of_ne_nil nonempty
  have above := List.card_nsmul_le_sum (items.map f) low (by
    intro value member
    obtain ⟨item,listed,rfl⟩ := List.mem_map.mp member
    exact (within item listed).1)
  have below := List.sum_le_card_nsmul (items.map f) high (by
    intro value member
    obtain ⟨item,listed,rfl⟩ := List.mem_map.mp member
    exact (within item listed).2)
  rw [List.length_map,nsmul_eq_mul] at above below
  unfold mean
  rw [le_div_iff₀ counted,div_le_iff₀ counted]
  constructor <;> linarith

theorem day_fitting {point : Candidate} (feasible : Feasible longHeating (forbiddenZonesOf (some dayZone)) point)
    (under : point.heatingMinutes ≤ 2900) : Fitting longHeating dayZone point := by
  refine ⟨by rw [long_effective]; exact feasible,fun axis => ?_⟩
  obtain ⟨above,below⟩ := feasible.inside axis
  have short : point.heatingMinutes ≤ 1440 := by
    rcases (day_clear point).mp feasible.clear with short | long
    · exact short.le
    · linarith
  rw [Axes.rounded,Axes.on_each]
  refine ⟨(shipped_inside axis).1.trans (round2_mono ?_),?_⟩
  · cases axis <;> exact above
  · cases axis with
    | heatingMinutes => exact round2_le_of_le (round2_whole 1440) short
    | temperatureC => exact (round2_mono below).trans (shipped_inside .temperatureC).2
    | stirrerRpm => exact (round2_mono below).trans (shipped_inside .stirrerRpm).2
    | stirringMinutes => exact (round2_mono below).trans (shipped_inside .stirringMinutes).2

theorem fitting_short {point : Candidate} (fitting : Fitting longHeating dayZone point) : point.heatingMinutes ≤ 1440 := by
  rcases (day_clear point).mp fitting.feasible.clear with short | long
  · exact short.le
  · have kept := (fitting.keeps .heatingMinutes).2
    rw [Axes.rounded,Axes.on_each] at kept
    have rounds : 2900 ≤ round2 point.heatingMinutes := le_round2_of_le (round2_whole 2900) long.le
    have most : (recordRanges.on .heatingMinutes).max = 1440 := rfl
    rw [most] at kept
    exact absurd (rounds.trans kept) (by norm_num)

-- Heating after a step from a candidate that heats for a day at most.
theorem step_short {outcomes elites : List BatchOutcome} {candidate next : Candidate} (some : outcomes ≠ []) (few : elites ≠ [])
    (ran : ∀ outcome ∈ outcomes, 0 ≤ outcome.heatingMinutes ∧ outcome.heatingMinutes ≤ 1440)
    (listed : ∀ elite ∈ elites, elite ∈ outcomes) (short : candidate.heatingMinutes ≤ 1440)
    (stepped : Stepped outcomes elites longHeating 1 candidate next) : next.heatingMinutes ≤ 2900 := by
  obtain ⟨mutant,reach,rfl⟩ := stepped
  obtain ⟨jitter,_,most,moved⟩ := reach .heatingMinutes
  have stride : strideOf longHeating .heatingMinutes = 597/2 := by
    change max ((3000:ℚ)-15) 1 * (10/100) = 597/2
    norm_num
  rw [stride] at most
  have further : mutant.heatingMinutes ≤ 1440+597/2 := by
    have same : mutant.heatingMinutes = clamp (candidate.heatingMinutes+jitter) 15 3000 := moved
    rw [same]
    exact clamp_le (by linarith) (by norm_num)
  have average := (mean_between few (f := (·.point.on .heatingMinutes)) fun elite member => ran elite (listed elite member))
  cases outcomes with
  | nil => exact absurd rfl some
  | cons best rest =>
      have first := ran best List.mem_cons_self
      have second : 0 ≤ ((best :: rest).getD 1 best).heatingMinutes := by
        cases rest with
        | nil => exact first.1
        | cons second others => exact (ran second (by simp)).1
      change clamp (mutant.heatingMinutes + (best.heatingMinutes-mutant.heatingMinutes)*(18/100) +
        (mean elites (·.point.on .heatingMinutes)-mutant.heatingMinutes)*(6/100) +
        (best.heatingMinutes-((best :: rest).getD 1 best).heatingMinutes)*(3/100)) 15 3000 ≤ 2900
      refine clamp_le ?_ (by norm_num)
      linarith [average.2,first.2]

theorem spread_short {elites : List BatchOutcome} (few : elites ≠ [])
    (ran : ∀ elite ∈ elites, 0 ≤ elite.heatingMinutes ∧ elite.heatingMinutes ≤ 1440) :
    spreadOf .approximate elites .heatingMinutes ≤ 1440 := by
  have average := mean_between few (f := (·.point.on .heatingMinutes)) ran
  refine max_le (@approximate_sqrt_le _ 1440 ?_) (by norm_num [spreadFloor,Axes.on])
  refine (mean_between few fun elite listed => ⟨mul_self_nonneg _,?_⟩).2
  obtain ⟨above,below⟩ := ran elite listed
  have away : |elite.heatingMinutes - mean elites (·.point.on .heatingMinutes)| ≤ 1440 := by
    rw [abs_le]
    constructor <;> linarith [average.1,average.2]
  have square := mul_self_le_mul_self (abs_nonneg _) away
  rwa [abs_mul_abs_self] at square

theorem day_feasible {point : Candidate} (fitting : Fitting longHeating dayZone point) :
    Feasible longHeating (forbiddenZonesOf (some dayZone)) point := by
  have feasible := fitting.feasible
  rwa [long_effective] at feasible

-- The middle of the bounds lies in the zone, and the first of the corners stands for it.
theorem day_midpoint : safeMidpoint longHeating (forbiddenZonesOf (some dayZone)) =
    some (anchorCandidate longHeating ⟨1/4,1/4,1/4,1/4⟩) := by decide +kernel

-- Batches end within a day, samples near them within two, and no step from there crosses the zone.
theorem day_fits : SearchFits .approximate longHeating dayZone := by
  have accepted : longHeating.Ordered := by
    rintro (_ | _ | _ | _) <;> decide
  have middle : ∀ midpoint ∈ safeMidpoint longHeating (forbiddenZonesOf (some dayZone)), Fitting longHeating dayZone midpoint := by
    intro midpoint found
    refine day_fitting (safeMidpoint_feasible accepted found) ?_
    obtain rfl := Option.some.inj (day_midpoint.symm.trans found)
    change (15:ℚ)+(3000-15)*(1/4) ≤ 2900
    norm_num
  constructor
  · intro midpoint found
    rw [long_effective] at found
    exact (middle midpoint found).keeps
  · intro outcomes stored many
    have references : memoryOutcomes (some dayZone) = [] := rfl
    have nonempty : outcomes ≠ [] := by
      rintro rfl
      rw [references] at many
      simp at many
    have ran : ∀ outcome ∈ outcomes, 0 ≤ outcome.heatingMinutes ∧ outcome.heatingMinutes ≤ 1440 :=
      fun outcome listed => (validateBatchOutcomeRecord_ok.mp (stored outcome listed)).targets .heatingMinutes
    rw [references,List.nil_append,long_effective]
    let sorted := ranked (scoreWithWeights (objectiveWeights (some dayZone))) outcomes
    have listed : ∀ elite ∈ elitesFor (some dayZone) outcomes, elite ∈ sorted := fun elite member => List.mem_of_mem_take member
    have ranking : sorted ≠ [] := ranked_ne_nil nonempty
    have few : elitesFor (some dayZone) outcomes ≠ [] := elitesOf_ne_nil ranking
    have ordered : ∀ outcome ∈ sorted, 0 ≤ outcome.heatingMinutes ∧ outcome.heatingMinutes ≤ 1440 :=
      fun outcome member => ran outcome (mem_ranked.mp member)
    have closed := @feasible_closed .approximate sorted (elitesFor (some dayZone) outcomes) longHeating
      (forbiddenZonesOf (some dayZone)) accepted
    refine ⟨?_,middle,?_,?_,?_⟩
    · intro elite member clear
      refine day_fitting (closed.elite elite member clear) ?_
      exact clamp_le ((ordered elite (listed elite member)).2.trans (by norm_num)) (by decide)
    · intro point reach clear
      refine day_fitting (closed.samples point reach clear) ?_
      obtain ⟨jitter,_,most,same⟩ := reach .heatingMinutes
      have average := mean_between few (f := (·.point.on .heatingMinutes)) fun elite member => ordered elite (listed elite member)
      have spread := spread_short few fun elite member => ordered elite (listed elite member)
      change point.heatingMinutes = _ at same
      rw [same]
      exact clamp_le (by linarith [average.2]) (by decide)
    · intro first second one two blend least most child step clear
      refine day_fitting (closed.children first second (day_feasible one) (day_feasible two) blend least most child step clear) ?_
      refine step_short ranking few ordered listed ?_ step
      have ratio : 0 ≤ 1-blend := by linarith
      have mixed : first.heatingMinutes*blend + second.heatingMinutes*(1-blend) ≤ 1440 := by
        have left := mul_le_mul_of_nonneg_right (fitting_short one) (by linarith : 0 ≤ blend)
        have right := mul_le_mul_of_nonneg_right (fitting_short two) ratio
        linarith
      exact clamp_le mixed (by decide)
    · intro candidate now neighbor step clear
      refine day_fitting (closed.neighbors candidate (day_feasible now) neighbor step clear) ?_
      exact step_short ranking few ordered listed (fitting_short now) step

end LongHeating

-- Both weights whole: the score goes up to two hundred.
def wholeWeights : AiMemory where
  objective := ⟨1,1⟩

end ReactorOS
