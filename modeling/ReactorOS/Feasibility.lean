import ReactorOS.Optimizer
namespace ReactorOS
open Chance
variable {math : Elementary} {outcomes elites : List BatchOutcome} {bounds : OptimizerBounds}
  {forbiddenZones : List ForbiddenZone} {weights : ℚ × ℚ} {candidate : Candidate} {population : List Candidate}

structure Feasible (bounds : OptimizerBounds) (forbiddenZones : List ForbiddenZone) (point : Axes ℚ) : Prop where
  inside : bounds.Holds point
  clear : isForbidden point forbiddenZones = false

theorem nearness_pos {outcome : BatchOutcome} : 0 < nearness math bounds candidate outcome := by
  have far : 0 ≤ distance math bounds candidate outcome := math.sqrt_nonneg _
  exact one_div_pos.mpr (by linarith)

theorem elitesOf_ne_nil {sorted : List BatchOutcome} (nonempty : sorted ≠ []) : elitesOf sorted ≠ [] := by
  have occupied := List.length_pos_of_ne_nil nonempty
  have counted : 1 ≤ eliteCountOf sorted.length := le_max_right _ _
  rw [elitesOf,Ne,List.take_eq_nil_iff]
  rintro (zero | empty)
  · omega
  · exact nonempty empty

theorem each_clamp_holds (ordered : bounds.Ordered) (value : Axis → ℚ) :
    bounds.Holds (.each fun axis => clamp (value axis) (bounds.low.on axis) (bounds.high.on axis)) := by
  intro axis
  rw [Axes.on_each]
  exact clamp_between (ordered axis)

theorem trend_holds (ordered : bounds.Ordered) : bounds.Holds (trendCorrectCandidate outcomes elites bounds candidate) :=
  each_clamp_holds ordered _

theorem interpolate_between {low high ratio : ℚ} (ordered : low ≤ high) (least : 0 ≤ ratio) (most : ratio ≤ 1) :
    low ≤ interpolate low high ratio ∧ interpolate low high ratio ≤ high := by
  have width : 0 ≤ high-low := sub_nonneg.mpr ordered
  have part : (high-low)*ratio ≤ (high-low)*1 := mul_le_mul_of_nonneg_left most width
  have nonneg : 0 ≤ (high-low)*ratio := mul_nonneg width least
  unfold interpolate
  constructor <;> linarith

theorem midpoint_holds (ordered : bounds.Ordered) : bounds.Holds (boundsMidpoint bounds) := by
  intro axis
  have le := ordered axis
  rw [boundsMidpoint,Axes.on_each]
  constructor <;> linarith

theorem anchor_holds (ordered : bounds.Ordered) {anchor : Axes ℚ} (listed : anchor ∈ anchors) :
    bounds.Holds (anchorCandidate bounds anchor) := by
  have ratios : ∀ axis, 0 ≤ anchor.on axis ∧ anchor.on axis ≤ 1 := by
    simp only [anchors,List.mem_cons,List.not_mem_nil,or_false] at listed
    rcases listed with rfl | rfl | rfl | rfl | rfl | rfl <;> rintro (_ | _ | _ | _) <;> simp only [Axes.on] <;> norm_num
  intro axis
  rw [anchorCandidate,Axes.on_each]
  exact interpolate_between (ordered axis) (ratios axis).1 (ratios axis).2

theorem safeMidpoint_feasible (ordered : bounds.Ordered) (found : safeMidpoint bounds forbiddenZones = some candidate) :
    Feasible bounds forbiddenZones candidate := by
  unfold safeMidpoint at found
  split at found
  · rename_i clear
    obtain rfl := Option.some.inj found
    exact ⟨midpoint_holds ordered,by simpa using clear⟩
  · have clear := List.find?_some found
    obtain ⟨anchor,listed,rfl⟩ := List.mem_map.mp (List.mem_of_find?_eq_some found)
    exact ⟨anchor_holds ordered listed,by simpa using clear⟩

-- How far a sample may lie from the mean of the elites.
def spreadOf (math : Elementary) (elites : List BatchOutcome) (axis : Axis) : ℚ :=
  spread math elites (·.point.on axis) (spreadFloor.on axis)

theorem spread_pos (math : Elementary) (elites : List BatchOutcome) (axis : Axis) : 0 < spreadOf math elites axis := by
  have floor : 0 < spreadFloor.on axis := by
    cases axis <;> norm_num [spreadFloor,Axes.on]
  exact floor.trans_le (le_max_right _ _)

-- The points that a sample near the elites can be.
def SampleReach (math : Elementary) (elites : List BatchOutcome) (bounds : OptimizerBounds) (point : Candidate) : Prop :=
  ∀ axis, ∃ jitter, -spreadOf math elites axis ≤ jitter ∧ jitter ≤ spreadOf math elites axis ∧
    point.on axis = clamp (mean elites (·.point.on axis) + jitter) (bounds.low.on axis) (bounds.high.on axis)

theorem sampleCandidate_reach : Always (sampleCandidate math elites bounds) (SampleReach math elites bounds) := by
  refine @Axes.draw_always _ _ (fun axis value => ∃ jitter, -spreadOf math elites axis ≤ jitter ∧
    jitter ≤ spreadOf math elites axis ∧
      value = clamp (mean elites (·.point.on axis) + jitter) (bounds.low.on axis) (bounds.high.on axis)) fun axis => ?_
  have forward : 0 < spread math elites (·.point.on axis) (spreadFloor.on axis) := spread_pos math elites axis
  refine .bind (uniform_always (by linarith)) fun jitter within => .pure ?_
  exact ⟨jitter,within.1,within.2,rfl⟩

-- How far a mutation at full scale may move a number.
def strideOf (bounds : OptimizerBounds) (axis : Axis) : ℚ :=
  max (bounds.high.on axis-bounds.low.on axis) 1 * mutationRatio.on axis

theorem strideOf_pos (bounds : OptimizerBounds) (axis : Axis) : 0 < strideOf bounds axis := by
  have ratio : 0 < mutationRatio.on axis := by
    cases axis <;> norm_num [mutationRatio,Axes.on]
  exact mul_pos (lt_of_lt_of_le one_pos (le_max_right _ _)) ratio

-- The points that a mutation leads to.
def MutantReach (bounds : OptimizerBounds) (scale : ℚ) (candidate mutant : Candidate) : Prop :=
  ∀ axis, ∃ jitter, -(strideOf bounds axis*scale) ≤ jitter ∧ jitter ≤ strideOf bounds axis*scale ∧
    mutant.on axis = clamp (candidate.on axis + jitter) (bounds.low.on axis) (bounds.high.on axis)

-- A step of the search: a mutation, and the correction by the trend after it.
def Stepped (outcomes elites : List BatchOutcome) (bounds : OptimizerBounds) (scale : ℚ) (candidate next : Candidate) : Prop :=
  ∃ mutant, MutantReach bounds scale candidate mutant ∧ next = trendCorrectCandidate outcomes elites bounds mutant

theorem Stepped.mono {scale wider : ℚ} {next : Candidate} (stepped : Stepped outcomes elites bounds scale candidate next)
    (le : scale ≤ wider) : Stepped outcomes elites bounds wider candidate next := by
  obtain ⟨mutant,near,same⟩ := stepped
  refine ⟨mutant,fun axis => ?_,same⟩
  obtain ⟨jitter,above,below,moved⟩ := near axis
  have further := mul_le_mul_of_nonneg_left le (strideOf_pos bounds axis).le
  exact ⟨jitter,by linarith,by linarith,moved⟩

theorem mutateCandidate_reach (scale : ℚ) : Always (mutateCandidate bounds candidate scale)
    (MutantReach bounds (clamp scale (2/10) (15/10)) candidate) := by
  refine @Axes.draw_always _ _ (fun axis value => ∃ jitter,
    -(strideOf bounds axis*clamp scale (2/10) (15/10)) ≤ jitter ∧ jitter ≤ strideOf bounds axis*clamp scale (2/10) (15/10) ∧
      value = clamp (candidate.on axis + jitter) (bounds.low.on axis) (bounds.high.on axis)) fun axis => ?_
  have least : (0:ℚ) < clamp scale (2/10) (15/10) :=
    lt_of_lt_of_le (by norm_num) (clamp_between (by norm_num : (2/10:ℚ) ≤ 15/10)).1
  have forward := mul_pos (strideOf_pos bounds axis) least
  unfold mutateAxis
  simp only
  rw [← mul_assoc]
  change Always (uniform (-(strideOf bounds axis*_)) (strideOf bounds axis*_) >>= _) _
  exact .bind (uniform_always (by linarith)) fun jitter within => .pure ⟨jitter,within.1,within.2,rfl⟩

def blended (bounds : OptimizerBounds) (first second : Candidate) (blend : ℚ) : Candidate :=
  .each fun axis => clamp (blendValue (first.on axis) (second.on axis) blend) (bounds.low.on axis) (bounds.high.on axis)

-- The search begins inside a set of points and never leads out of it, other than into a zone.
structure Closed (math : Elementary) (outcomes elites : List BatchOutcome) (bounds : OptimizerBounds)
    (forbiddenZones : List ForbiddenZone) (holds : Candidate → Prop) : Prop where
  elite : ∀ elite ∈ elites, isForbidden (outcomeCandidate bounds elite) forbiddenZones = false →
    holds (outcomeCandidate bounds elite)
  midpoint : ∀ midpoint ∈ safeMidpoint bounds forbiddenZones, holds midpoint
  samples : ∀ point, SampleReach math elites bounds point → isForbidden point forbiddenZones = false → holds point
  children : ∀ first second, holds first → holds second → ∀ blend, 1/4 ≤ blend → blend ≤ 3/4 → ∀ child,
    Stepped outcomes elites bounds 1 (blended bounds first second blend) child →
      isForbidden child forbiddenZones = false → holds child
  neighbors : ∀ candidate, holds candidate → ∀ neighbor, Stepped outcomes elites bounds 1 candidate neighbor →
    isForbidden neighbor forbiddenZones = false → holds neighbor

theorem feasible_closed (ordered : bounds.Ordered) :
    Closed math outcomes elites bounds forbiddenZones (Feasible bounds forbiddenZones) where
  elite := fun _ _ clear => ⟨each_clamp_holds ordered _,clear⟩
  midpoint := fun _ found => safeMidpoint_feasible ordered found
  samples := by
    intro point reach clear
    refine ⟨fun axis => ?_,clear⟩
    obtain ⟨jitter,_,_,same⟩ := reach axis
    rw [same]
    exact clamp_between (ordered axis)
  children := by
    rintro _ _ _ _ _ _ _ _ ⟨mutant,_,rfl⟩ clear
    exact ⟨trend_holds ordered,clear⟩
  neighbors := by
    rintro _ _ _ ⟨mutant,_,rfl⟩ clear
    exact ⟨trend_holds ordered,clear⟩

section Closed
variable {holds : Candidate → Prop}

theorem sampleAllowed_always (samples : ∀ point, SampleReach math elites bounds point →
    isForbidden point forbiddenZones = false → holds point) (tries : Nat) :
    Always (sampleAllowed math elites bounds forbiddenZones tries) fun sampled => ∀ candidate ∈ sampled, holds candidate := by
  induction tries with
  | zero => exact .pure (by simp)
  | succ tries ih =>
      refine .bind sampleCandidate_reach fun candidate reach => .ite ?_ fun _ => ih
      intro clear
      refine .pure ?_
      intro _ reached
      rcases reached with ⟨⟩
      exact samples candidate reach (by simpa using clear)

theorem push_kept (before : ∀ one ∈ population, holds one) (clear : isForbidden candidate forbiddenZones = false → holds candidate) :
    ∀ one ∈ pushIfAllowed forbiddenZones population candidate, holds one := by
  unfold pushIfAllowed
  split
  · rename_i allowed
    intro one member
    rcases List.mem_append.mp member with old | last
    · exact before one old
    · obtain rfl := List.mem_singleton.mp last
      exact clear (by simpa using allowed)
  · exact before

-- Of the elites the population takes those that lie in no zone.
theorem pushes_filter (elites : List BatchOutcome) (population : List Candidate) :
    elites.foldl (fun population elite => pushIfAllowed forbiddenZones population (outcomeCandidate bounds elite)) population =
      population ++ (elites.map (outcomeCandidate bounds)).filter fun candidate => !isForbidden candidate forbiddenZones := by
  induction elites generalizing population with
  | nil => simp
  | cons elite rest ih =>
      rw [List.foldl_cons,ih,pushIfAllowed,List.map_cons,List.filter_cons]
      split <;> simp

variable (closed : Closed math outcomes elites bounds forbiddenZones holds)
include closed

theorem seed_always : Always (seedPopulation math elites bounds forbiddenZones) fun population =>
    ∀ candidate ∈ population, holds candidate := by
  unfold seedPopulation
  simp only
  refine .repeated ?_ 32 ?_
  · intro population before
    refine .bind (sampleAllowed_always closed.samples 64) fun sampled kept => ?_
    cases sampled with
    | none => exact .pure before
    | some candidate =>
        refine .pure fun one member => ?_
        rcases List.mem_append.mp member with old | last
        · exact before one old
        · obtain rfl := List.mem_singleton.mp last
          exact kept _ rfl
  · have elites : ∀ candidate ∈ elites.foldl (fun population elite =>
        pushIfAllowed forbiddenZones population (outcomeCandidate bounds elite)) [], holds candidate := by
      rw [pushes_filter,List.nil_append]
      intro candidate member
      obtain ⟨listed,clear⟩ := List.mem_filter.mp member
      obtain ⟨elite,chosen,rfl⟩ := List.mem_map.mp listed
      exact closed.elite elite chosen (by simpa using clear)
    split
    · rename_i midpoint found
      exact push_kept elites fun _ => closed.midpoint midpoint found
    · exact elites

end Closed

theorem push_ne_nil (nonempty : population ≠ []) : pushIfAllowed forbiddenZones population candidate ≠ [] := by
  unfold pushIfAllowed
  split
  · exact List.append_ne_nil_of_left_ne_nil nonempty _
  · exact nonempty

-- The population of the search: never empty, and inside the set.
structure Alive (holds : Candidate → Prop) (population : List Candidate) : Prop where
  some : population ≠ []
  kept : ∀ candidate ∈ population, holds candidate

section Closed
variable {holds : Candidate → Prop}

theorem ranked_alive (score : Candidate → ℚ) (alive : Alive holds population) : Alive holds (ranked score population) :=
  ⟨ranked_ne_nil alive.some,fun candidate member => alive.kept candidate (mem_ranked.mp member)⟩

variable (closed : Closed math outcomes elites bounds forbiddenZones holds)
include closed

theorem breed_always {parents : List Candidate} (family : Alive holds parents) (alive : Alive holds population) :
    Always (breed outcomes elites bounds forbiddenZones parents population) (Alive holds) := by
  refine .bind (pick_always family.some) fun first one => .bind (pick_always family.some) fun second two => ?_
  have crossed : Always (crossoverCandidate bounds first second) fun child =>
      ∃ blend, 1/4 ≤ blend ∧ blend ≤ 3/4 ∧ child = blended bounds first second blend :=
    .bind (uniform_always (by norm_num)) fun blend within => .pure ⟨blend,within.1,within.2,rfl⟩
  refine .bind crossed fun child blend => .bind (mutateCandidate_reach 1) fun mutant near => .pure ?_
  obtain ⟨blend,least,most,rfl⟩ := blend
  have unit : clamp (1:ℚ) (2/10) (15/10) = 1 := clamp_self (by norm_num) (by norm_num)
  refine ⟨push_ne_nil alive.some,push_kept alive.kept fun clear => ?_⟩
  exact closed.children first second (family.kept first one) (family.kept second two) blend least most _
    ⟨mutant,unit ▸ near,rfl⟩ clear

theorem generation_always (alive : Alive holds population) :
    Always (generation math outcomes elites bounds forbiddenZones weights population) (Alive holds) := by
  have sorted := ranked_alive (candidateQuality math outcomes bounds weights) alive
  have parents : Alive holds ((ranked (candidateQuality math outcomes bounds weights) population).take 12) := by
    refine ⟨?_,fun candidate member => sorted.kept candidate (List.mem_of_mem_take member)⟩
    rw [Ne,List.take_eq_nil_iff]
    rintro (zero | empty)
    · cases zero
    · exact sorted.some empty
  exact .repeated (fun population alive => breed_always closed parents alive) 12 parents

-- The search stays in the set and grows no hotter.
structure Cools (holds : Candidate → Prop) (state : Annealing) : Prop where
  current : holds state.current
  temperature : state.temperature ≤ 8

theorem anneal_always {state : Annealing} (cools : Cools holds state) :
    Always (anneal math outcomes elites bounds forbiddenZones weights state) (Cools holds) := by
  obtain ⟨now,cool⟩ := cools
  have cooler : state.temperature*(86/100) ≤ 8 := by linarith
  have scale : clamp (state.temperature/8) (2/10) (15/10) ≤ 1 := by
    unfold clamp
    split
    · norm_num
    · split
      · linarith
      · linarith
  refine .bind (mutateCandidate_reach (state.temperature/8)) fun mutant near => ?_
  simp only
  refine .ite (fun _ => .pure ⟨now,cooler⟩) fun clear => .bind .any fun accepted _ => .ite (fun _ => .pure ⟨?_,cooler⟩)
    fun _ => .pure ⟨now,cooler⟩
  exact closed.neighbors state.current now _ (Stepped.mono ⟨mutant,near,rfl⟩ scale) (by simpa using clear)

theorem hybrid_always : Always (hybridSearchCandidate math outcomes elites bounds forbiddenZones weights) fun found =>
    ∀ search ∈ found, holds search.candidate := by
  refine .bind (seed_always closed) fun population kept => .ite (fun _ => .pure (by simp)) fun nonempty => ?_
  have alive : Alive holds population := ⟨by simpa using nonempty,kept⟩
  refine .bind (.repeated (fun _ alive => generation_always closed alive) 18 alive) fun population alive => ?_
  have sorted := ranked_alive (candidateQuality math outcomes bounds weights) alive
  have first : holds ((ranked (candidateQuality math outcomes bounds weights) population).headD default) := by
    cases ranking : ranked (candidateQuality math outcomes bounds weights) population with
    | nil => exact absurd ranking sorted.some
    | cons best rest => exact sorted.kept best (by rw [ranking]; exact List.mem_cons_self)
  have annealed : ∀ start : Annealing, Cools holds start →
      Always (repeated 32 (anneal math outcomes elites bounds forbiddenZones weights) start) (Cools holds) :=
    fun start now => .repeated (fun _ now => anneal_always closed now) 32 now
  refine .bind (annealed _ ⟨first,le_rfl⟩) fun reached cools => .pure ?_
  intro _ reached
  rcases reached with ⟨⟩
  exact cools.current

theorem searchOrSample_always : Always (searchOrSample math outcomes elites bounds forbiddenZones weights) fun found =>
    ∀ search ∈ found, holds search.candidate := by
  refine .bind (hybrid_always closed) fun found kept => ?_
  cases found with
  | some search => exact .pure kept
  | none =>
      refine .bind (sampleAllowed_always closed.samples 64) fun sampled kept => .pure ?_
      intro search member
      obtain ⟨candidate,taken,rfl⟩ := Option.mem_map.mp member
      exact kept candidate taken

theorem searched_always : Always (searched math outcomes elites bounds forbiddenZones weights) fun found =>
    ∀ chosen ∈ found, holds chosen.1 := by
  refine .bind (searchOrSample_always closed) fun found kept => ?_
  cases found with
  | some search =>
      refine .pure ?_
      intro _ reached
      rcases reached with ⟨⟩
      exact kept search rfl
  | none =>
      refine .pure ?_
      intro chosen member
      obtain ⟨fallback,taken,rfl⟩ := Option.mem_map.mp member
      exact closed.midpoint fallback taken

end Closed

def Axes.rounded (point : Axes ℚ) : Axes ℚ := .each fun axis => round2 (point.on axis)

def bestOf (memory : Option AiMemory) (outcomes : List BatchOutcome) : BatchOutcome :=
  (elitesOf (ranked (scoreWithWeights (objectiveWeights memory)) (memoryOutcomes memory ++ outcomes))).headD default

-- A recommendation is a point of the search, rounded, with the score of the best batch.
structure Recommended (holds : Candidate → Prop) (memory : Option AiMemory) (outcomes : List BatchOutcome)
    (record : RecommendationRecord) : Prop where
  place : ∃ candidate, holds candidate ∧ record.point = candidate.rounded
  count : record.basedOnBatchCount = outcomes.length
  score : record.expectedScore = if (memoryOutcomes memory ++ outcomes).length < 3 then 0 else
    round2 (scoreWithWeights (objectiveWeights memory) (bestOf memory outcomes))

theorem recommend_within {holds : Candidate → Prop} {memory : Option AiMemory}
    (middle : ∀ midpoint ∈ safeMidpoint (effectiveBounds bounds memory) (forbiddenZonesOf memory), holds midpoint)
    (closed : 3 ≤ (memoryOutcomes memory ++ outcomes).length →
      Closed math (ranked (scoreWithWeights (objectiveWeights memory)) (memoryOutcomes memory ++ outcomes))
        (elitesOf (ranked (scoreWithWeights (objectiveWeights memory)) (memoryOutcomes memory ++ outcomes)))
        (effectiveBounds bounds memory) (forbiddenZonesOf memory) holds) :
    Always (recommendWithMemory math bounds memory outcomes) fun found => ∀ record ∈ found,
      Recommended holds memory outcomes record := by
  unfold recommendWithMemory
  simp only
  refine .ite (fun few => .pure ?_) fun many => .bind (searched_always (closed (not_lt.mp many))) fun found kept => ?_
  · intro record member
    obtain ⟨midpoint,taken,rfl⟩ := Option.mem_map.mp member
    exact ⟨⟨midpoint,middle midpoint taken,rfl⟩,rfl,by rw [if_pos few]; rfl⟩
  · cases found with
    | none => exact .pure (by simp)
    | some chosen =>
        refine .pure ?_
        intro _ reached
        rcases reached with ⟨⟩
        exact ⟨⟨chosen.1,kept chosen rfl,rfl⟩,rfl,by rw [if_neg many]; rfl⟩

-- Every recommendation is made at a feasible point.
theorem recommend_always (memory : Option AiMemory) (ordered : (effectiveBounds bounds memory).Ordered) :
    Always (recommendWithMemory math bounds memory outcomes) fun found => ∀ record ∈ found,
      Recommended (Feasible (effectiveBounds bounds memory) (forbiddenZonesOf memory)) memory outcomes record :=
  recommend_within (fun _ found => safeMidpoint_feasible ordered found) fun _ => feasible_closed ordered

end ReactorOS
