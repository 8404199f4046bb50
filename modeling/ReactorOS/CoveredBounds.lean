import ReactorOS.Feasibility
namespace ReactorOS
open Chance
variable {math : Elementary} {outcomes elites : List BatchOutcome} {bounds : OptimizerBounds}
  {forbiddenZones : List ForbiddenZone} {weights : ℚ × ℚ} {candidate : Candidate} {population : List Candidate}

theorem sampleCandidate_possible {point : Candidate} (reach : SampleReach math elites bounds point) :
    Possible (sampleCandidate math elites bounds) (· = point) := by
  refine (@Axes.draw_possible _ _ (fun axis value => value = point.on axis) ?_).mono fun _ same => Axes.ext same
  intro axis
  obtain ⟨jitter,low,high,same⟩ := reach axis
  refine .bind (uniform_possible low high) fun given drawn => .pure ?_
  rw [drawn,same]

-- The search finds nothing as long as every sample lies in a zone.
theorem sampleAllowed_misses {point : Candidate} (tries : Nat) (reach : SampleReach math elites bounds point)
    (forbidden : isForbidden point forbiddenZones = true) :
    Possible (sampleAllowed math elites bounds forbiddenZones tries) (· = none) := by
  induction tries with
  | zero => exact .pure rfl
  | succ tries ih =>
      refine .bind (sampleCandidate_possible reach) fun candidate same => ?_
      subst same
      rw [forbidden]
      exact ih

-- Everything that the search looks at lies in a zone.
structure Shut (math : Elementary) (elites : List BatchOutcome) (bounds : OptimizerBounds)
    (forbiddenZones : List ForbiddenZone) : Prop where
  probes : safeMidpoint bounds forbiddenZones = none
  runs : ∀ elite ∈ elites, isForbidden (outcomeCandidate bounds elite) forbiddenZones = true
  samples : ∃ point, SampleReach math elites bounds point ∧ isForbidden point forbiddenZones = true

theorem searched_misses (shut : Shut math elites bounds forbiddenZones) :
    Possible (searched math outcomes elites bounds forbiddenZones weights) (· = none) := by
  obtain ⟨probes,forbidden,point,reach,inside⟩ := shut
  have samples := sampleAllowed_misses 64 reach inside
  have seeds : Possible (seedPopulation math elites bounds forbiddenZones) (· = []) := by
    have kept : (elites.map (outcomeCandidate bounds)).filter (fun candidate => !isForbidden candidate forbiddenZones) = [] := by
      rw [List.filter_eq_nil_iff]
      intro candidate listed
      obtain ⟨elite,chosen,rfl⟩ := List.mem_map.mp listed
      simp [forbidden elite chosen]
    unfold seedPopulation
    rw [pushes_filter,kept,probes]
    refine .repeated ?_ 32 rfl
    intro _ same
    rcases same with rfl
    refine .bind samples fun candidate same => ?_
    subst same
    exact .pure rfl
  have hybrid : Possible (hybridSearchCandidate math outcomes elites bounds forbiddenZones weights) (· = none) := by
    refine .bind seeds fun population same => ?_
    subst same
    exact .pure rfl
  have search : Possible (searchOrSample math outcomes elites bounds forbiddenZones weights) (· = none) := by
    refine .bind hybrid fun found same => ?_
    subst same
    refine .bind samples fun sampled same => ?_
    subst same
    exact .pure rfl
  refine .bind search fun found same => ?_
  subst same
  rw [probes]
  exact .pure rfl

-- What makes the search return something, whatever is drawn.
theorem searched_probes (found : safeMidpoint bounds forbiddenZones ≠ none) :
    Always (searched math outcomes elites bounds forbiddenZones weights) (· ≠ none) := by
  refine .bind .any fun search _ => ?_
  cases search with
  | some search => exact .pure (by simp)
  | none => exact .pure (by simpa using found)

theorem sampleAllowed_clear (clear : ∀ point, SampleReach math elites bounds point → isForbidden point forbiddenZones = false)
    (tries : Nat) : Always (sampleAllowed math elites bounds forbiddenZones (tries+1)) (· ≠ none) := by
  refine .bind sampleCandidate_reach fun candidate reach => ?_
  rw [clear candidate reach]
  exact .pure (by simp)

theorem searched_samples (clear : ∀ point, SampleReach math elites bounds point → isForbidden point forbiddenZones = false) :
    Always (searched math outcomes elites bounds forbiddenZones weights) (· ≠ none) := by
  have search : Always (searchOrSample math outcomes elites bounds forbiddenZones weights) (· ≠ none) := by
    refine .bind .any fun found _ => ?_
    cases found with
    | some search => exact .pure (by simp)
    | none => exact .bind (sampleAllowed_clear clear 63) fun sampled reached => .pure (by simpa using reached)
  refine .bind search fun found reached => ?_
  cases found with
  | some search => exact .pure (by simp)
  | none => exact absurd rfl reached

-- An elite that lies in no zone, or the first sample, is a candidate to begin with.
theorem seeds_ne_nil {draws : Draws}
    (seeded : (∃ elite ∈ elites, isForbidden (outcomeCandidate bounds elite) forbiddenZones = false) ∨
      (sampleAllowed math elites bounds forbiddenZones 64 draws).1 ≠ none) :
    (seedPopulation math elites bounds forbiddenZones draws).1 ≠ [] := by
  unfold seedPopulation
  rw [repeated_succ]
  refine @bind_then _ _ _ _ _ (· ≠ []) (· ≠ []) ?_ fun population nonempty => .repeated ?_ 31 nonempty
  · rcases seeded with ⟨elite,listed,clear⟩ | sampled
    · refine @Always.bind _ _ _ _ (fun _ => True) (· ≠ []) .any ?_ draws
      have pushed : elites.foldl (fun population elite =>
          pushIfAllowed forbiddenZones population (outcomeCandidate bounds elite)) [] ≠ [] := by
        rw [pushes_filter,List.nil_append,Ne,List.filter_eq_nil_iff]
        intro forbidden
        exact forbidden _ (List.mem_map.mpr ⟨elite,listed,rfl⟩) (by simp [clear])
      intro sampled _
      cases sampled with
      | some candidate => exact .pure (by simp)
      | none =>
          refine .pure ?_
          split
          · exact push_ne_nil pushed
          · exact pushed
    · refine @bind_then _ _ _ _ _ (· ≠ none) (· ≠ []) sampled fun sampled reached => ?_
      cases sampled with
      | some candidate => exact .pure (by simp)
      | none => exact absurd rfl reached
  · intro population nonempty
    refine .bind .any fun sampled _ => ?_
    cases sampled with
    | none => exact .pure nonempty
    | some candidate => exact .pure (by simp)

-- From there on the search has an answer.
theorem searched_seeded {draws : Draws} (seeds : (seedPopulation math elites bounds forbiddenZones draws).1 ≠ []) :
    (searched math outcomes elites bounds forbiddenZones weights draws).1 ≠ none := by
  have hybrid : (hybridSearchCandidate math outcomes elites bounds forbiddenZones weights draws).1 ≠ none := by
    refine @bind_then _ _ _ _ _ (· ≠ []) (· ≠ none) seeds fun population nonempty => ?_
    have populated : population.isEmpty = false := by simpa using nonempty
    rw [populated]
    exact .bind .any fun _ _ => .bind .any fun _ _ => .pure (by simp)
  have search : (searchOrSample math outcomes elites bounds forbiddenZones weights draws).1 ≠ none := by
    refine @bind_then _ _ _ _ _ (· ≠ none) (· ≠ none) hybrid fun found reached => ?_
    cases found with
    | some search => exact .pure (by simp)
    | none => exact absurd rfl reached
  refine @bind_then _ _ _ _ _ (· ≠ none) (· ≠ none) search fun found reached => ?_
  cases found with
  | some search => exact .pure (by simp)
  | none => exact absurd rfl reached

-- The points that are tried without a draw: the middle of the box and one in each of its corners.
def probes (bounds : OptimizerBounds) : List Candidate := boundsMidpoint bounds :: anchors.map (anchorCandidate bounds)

theorem safeMidpoint_none :
    safeMidpoint bounds forbiddenZones = none ↔ ∀ probe ∈ probes bounds, isForbidden probe forbiddenZones = true := by
  unfold safeMidpoint probes
  rw [List.forall_mem_cons]
  split
  · rename_i clear
    simp [Bool.not_eq_true' _ |>.mp clear]
  · rename_i forbidden
    simp only [Bool.not_eq_true',Bool.not_eq_false] at forbidden
    simp [forbidden]

theorem clear_probe {probe : Candidate} (listed : probe ∈ probes bounds)
    (clear : isForbidden probe forbiddenZones = false) : safeMidpoint bounds forbiddenZones ≠ none := by
  intro missing
  have forbidden := safeMidpoint_none.mp missing probe listed
  rw [clear] at forbidden
  cases forbidden

-- The runs next to which the search looks for candidates.
def elitesFor (memory : Option AiMemory) (outcomes : List BatchOutcome) : List BatchOutcome :=
  elitesOf (ranked (scoreWithWeights (objectiveWeights memory)) (memoryOutcomes memory ++ outcomes))

section Recommendations
variable (math : Elementary) (bounds : OptimizerBounds) (memory : Option AiMemory) (outcomes : List BatchOutcome)

-- No point of the box is left for a recommendation.
def Covered : Prop :=
  ∀ point, (effectiveBounds bounds memory).Holds point → isForbidden point (forbiddenZonesOf memory) = true

-- A probe is clear; or there are runs enough, and one of the best or everything near them is.
def Findable : Prop :=
  (∃ probe ∈ probes (effectiveBounds bounds memory), isForbidden probe (forbiddenZonesOf memory) = false) ∨
    3 ≤ (memoryOutcomes memory ++ outcomes).length ∧
      ((∃ elite ∈ elitesFor memory outcomes,
          isForbidden (outcomeCandidate (effectiveBounds bounds memory) elite) (forbiddenZonesOf memory) = false) ∨
        ∀ point, SampleReach math (elitesFor memory outcomes) (effectiveBounds bounds memory) point →
          isForbidden point (forbiddenZonesOf memory) = false)

end Recommendations

section Recommendations
variable {memory : Option AiMemory}

theorem recommend_finds (found : Findable math bounds memory outcomes) :
    Always (recommendWithMemory math bounds memory outcomes) (· ≠ none) := by
  have search : 3 ≤ (memoryOutcomes memory ++ outcomes).length →
      Always (searched math (ranked (scoreWithWeights (objectiveWeights memory)) (memoryOutcomes memory ++ outcomes))
        (elitesFor memory outcomes) (effectiveBounds bounds memory) (forbiddenZonesOf memory) (objectiveWeights memory))
        (· ≠ none) := by
    intro enough
    rcases found with ⟨probe,listed,clear⟩ | ⟨_,⟨elite,listed,clear⟩ | clear⟩
    · exact searched_probes (clear_probe listed clear)
    · exact fun draws => searched_seeded (seeds_ne_nil (.inl ⟨elite,listed,clear⟩))
    · exact searched_samples clear
  unfold recommendWithMemory
  simp only
  refine .ite (fun few => .pure ?_) fun many => .bind (search (not_lt.mp many)) fun found sampled => ?_
  · rcases found with ⟨probe,listed,clear⟩ | ⟨enough,_⟩
    · rw [Ne,Option.map_eq_none_iff]
      exact clear_probe listed clear
    · exact absurd few (not_lt.mpr enough)
  · cases found with
    | none => exact absurd rfl sampled
    | some chosen => exact .pure (by simp)

theorem recommend_misses (missed : ¬Findable math bounds memory outcomes) :
    Possible (recommendWithMemory math bounds memory outcomes) (· = none) := by
  unfold Findable at missed
  push Not at missed
  obtain ⟨probed,missed⟩ := missed
  have probes : safeMidpoint (effectiveBounds bounds memory) (forbiddenZonesOf memory) = none :=
    safeMidpoint_none.mpr fun probe listed => by simpa using probed probe listed
  unfold recommendWithMemory
  simp only
  refine .ite (fun few => ?_) fun many => ?_
  · rw [probes]
    exact .pure rfl
  · obtain ⟨runs,point,reach,inside⟩ := missed (not_lt.mp many)
    have shut : Shut math (elitesFor memory outcomes) (effectiveBounds bounds memory) (forbiddenZonesOf memory) :=
      ⟨probes,fun elite listed => by simpa using runs elite listed,point,reach,by simpa using inside⟩
    refine .bind (searched_misses shut) fun found same => ?_
    subst same
    exact .pure rfl

theorem recommends_iff :
    (∀ draws, (recommendWithMemory math bounds memory outcomes draws).1 ≠ none) ↔
      Findable math bounds memory outcomes := by
  refine ⟨fun always => ?_,recommend_finds⟩
  by_contra missed
  obtain ⟨draws,missing⟩ := (recommend_misses missed).exists
  exact always draws missing

-- A box with a clear point is reported as fully covered exactly where the probes and the runs miss all of them.
theorem refused_only_covered_iff :
    (∀ draws, (recommendWithMemory math bounds memory outcomes draws).1 = none → Covered bounds memory) ↔
      Covered bounds memory ∨ Findable math bounds memory outcomes := by
  rw [← recommends_iff]
  constructor
  · intro only
    by_cases covered : Covered bounds memory
    · exact .inl covered
    · exact .inr fun draws missing => covered (only draws missing)
  · rintro (covered | finds) draws missing
    · exact covered
    · exact absurd missing (finds draws)

end Recommendations

section Stripes

def shippedBounds : OptimizerBounds := ⟨35,140,100,1000,15,240,15,240⟩

def hotStripe (least most : ℚ) : ForbiddenZone := ⟨"stripe",⟨⟨some least,some most⟩,{},{},{}⟩⟩

-- Three narrow ranges of temperature, which all seven probes lie in.
def stripedMemory : AiMemory where
  recommendation := ⟨true,false,⟨{},{},{},{}⟩⟩
  forbiddenZones := [hotStripe 61 62,hotStripe 87 88,hotStripe 113 114]

def finishedRun : BatchOutcome := ⟨1,95,600,60,60,72,8/10⟩

-- After one run the optimizer finds nothing among the stripes, though a cool recipe lies in none of them.
theorem stripes_refused : validateOptimizerBounds shippedBounds = .ok () ∧
    stripedMemory.validateAgainstOptimizerBounds shippedBounds = .ok () ∧
      (∀ draws, (recommendWithMemory .approximate shippedBounds (some stripedMemory) [finishedRun] draws).1 = none) ∧
        ¬Covered shippedBounds (some stripedMemory) := by
  have probed : safeMidpoint shippedBounds stripedMemory.forbiddenZones = none := by decide +kernel
  refine ⟨by decide +kernel,by decide +kernel,fun draws => ?_,fun covered => ?_⟩
  · exact congrArg (Option.map _) probed
  · have cool := covered ⟨35,100,15,15⟩ (by rintro (_ | _ | _ | _) <;> decide)
    exact absurd cool (by decide)

end Stripes

end ReactorOS
