import ReactorOS.Feasibility
namespace ReactorOS
open Chance
variable {math : Elementary} {outcomes : List BatchOutcome} {bounds : OptimizerBounds}
  {forbiddenZones : List ForbiddenZone} {weights : ℚ × ℚ} {candidate : Candidate} {outcome : BatchOutcome}

theorem outcomeCandidate_inside (inside : bounds.Holds outcome.point) : outcomeCandidate bounds outcome = outcome.point := by
  refine Axes.ext fun axis => ?_
  rw [outcomeCandidate,Axes.on_each,clamp_self (inside axis).1 (inside axis).2]

theorem mean_replicate (count : Nat) (outcome : BatchOutcome) (f : BatchOutcome → ℚ) :
    mean (List.replicate (count+1) outcome) f = f outcome := by
  have nonzero : ((count+1:Nat):ℚ) ≠ 0 := by positivity
  rw [mean,List.map_replicate,List.sum_replicate,List.length_replicate,nsmul_eq_mul,mul_div_cancel_left₀ _ nonzero]

-- The best batches all ran where the search is: nothing pulls it away.
theorem trend_still (inside : bounds.Holds outcome.point) (count : Nat) (rest : List BatchOutcome) :
    trendCorrectCandidate (outcome :: outcome :: rest) (List.replicate (count+1) outcome) bounds outcome.point =
      outcome.point := by
  refine Axes.ext fun axis => ?_
  have still : trendAxis (outcome.point.on axis) (outcome.point.on axis) (outcome.point.on axis)
      (outcome.point.on axis-outcome.point.on axis) (bounds.low.on axis) (bounds.high.on axis) = outcome.point.on axis := by
    unfold trendAxis
    simp only [sub_self,zero_mul,add_zero]
    exact clamp_self (inside axis).1 (inside axis).2
  rw [trendCorrectCandidate,Axes.on_each,mean_replicate]
  exact still

theorem mutate_midway (inside : bounds.Holds candidate) (scale : ℚ) :
    Midway (mutateCandidate bounds candidate scale) (· = candidate) := by
  refine (@Axes.draw_midway _ _ (fun axis value => value = candidate.on axis) ?_).mono fun _ same => Axes.ext same
  intro axis
  refine .bind (uniform_midway _ _) fun jitter centre => .pure ?_
  rw [centre,neg_add_cancel,zero_div,add_zero]
  exact clamp_self (inside axis).1 (inside axis).2

theorem crossover_midway (inside : bounds.Holds candidate) :
    Midway (crossoverCandidate bounds candidate candidate) (· = candidate) := by
  refine .bind (uniform_midway _ _) fun blend _ => .pure (Axes.ext fun axis => ?_)
  have same : blendValue (candidate.on axis) (candidate.on axis) blend = candidate.on axis := by
    unfold blendValue
    ring
  rw [Axes.on_each,same,clamp_self (inside axis).1 (inside axis).2]

theorem sample_midway (inside : bounds.Holds outcome.point) (count : Nat) :
    Midway (sampleCandidate math (List.replicate (count+1) outcome) bounds) (· = outcome.point) := by
  refine (@Axes.draw_midway _ _ (fun axis value => value = outcome.point.on axis) ?_).mono fun _ same => Axes.ext same
  intro axis
  refine .bind (uniform_midway _ _) fun jitter centre => .pure ?_
  rw [centre,neg_add_cancel,zero_div,add_zero,mean_replicate]
  exact clamp_self (inside axis).1 (inside axis).2

theorem sampleAllowed_midway (feasible : Feasible bounds forbiddenZones outcome.point) (count tries : Nat) :
    Midway (sampleAllowed math (List.replicate (count+1) outcome) bounds forbiddenZones (tries+1)) (· = some outcome.point) := by
  refine .bind (sample_midway feasible.inside count) fun candidate same => ?_
  subst same
  rw [feasible.clear]
  exact .pure rfl

theorem push_clear {population : List Candidate} (clear : isForbidden candidate forbiddenZones = false) :
    pushIfAllowed forbiddenZones population candidate = population ++ [candidate] := by
  rw [pushIfAllowed,clear]
  rfl

theorem elites_pushed (feasible : Feasible bounds forbiddenZones outcome.point) (count : Nat) (population : List Candidate) :
    (List.replicate count outcome).foldl (fun population elite =>
      pushIfAllowed forbiddenZones population (outcomeCandidate bounds elite)) population =
      population ++ List.replicate count outcome.point := by
  rw [pushes_filter,List.map_replicate,outcomeCandidate_inside feasible.inside,List.filter_replicate,feasible.clear]
  rfl

-- The first of the population are as many as the parents, and all of them the point.
def Settled (score : Candidate → ℚ) (point : Candidate) (population : List Candidate) : Prop :=
  (ranked score population).take 12 = List.replicate 12 point

theorem settled_front {score : Candidate → ℚ} {count : Nat} (many : 12 ≤ count) (rest : List Candidate)
    (top : ∀ other ∈ rest, score other ≤ score candidate) :
    Settled score candidate (List.replicate count candidate ++ rest) := by
  unfold Settled
  rw [ranked_front count rest top,List.take_append_of_le_length (by simpa using many),List.take_replicate,
    Nat.min_eq_left many]

theorem seed_midway (ordered : bounds.Ordered) (feasible : Feasible bounds forbiddenZones outcome.point) {count : Nat}
    (many : 12 ≤ count+1) (score : Candidate → ℚ)
    (best : ∀ midpoint ∈ safeMidpoint bounds forbiddenZones, score midpoint ≤ score outcome.point) :
    Midway (seedPopulation math (List.replicate (count+1) outcome) bounds forbiddenZones)
      (Settled score outcome.point) := by
  let Below := fun population => ∃ rest, population = List.replicate (count+1) outcome.point ++ rest ∧
    ∀ other ∈ rest, score other ≤ score outcome.point
  have settles : ∀ population, Below population → Settled score outcome.point population := by
    rintro _ ⟨rest,rfl,top⟩
    exact settled_front many rest top
  unfold seedPopulation
  simp only
  refine Midway.mono (@Midway.repeated _ Below _ ?_ 32 _ ?_) settles
  · rintro _ ⟨rest,rfl,top⟩
    refine .bind (sampleAllowed_midway feasible count 63) fun sampled same => ?_
    subst same
    refine .pure ⟨rest ++ [outcome.point],List.append_assoc _ _ _,?_⟩
    intro other member
    rcases List.mem_append.mp member with old | last
    · exact top other old
    · rw [List.mem_singleton.mp last]
  · rw [elites_pushed feasible,List.nil_append]
    split
    · rename_i midpoint found
      refine ⟨[midpoint],push_clear (safeMidpoint_feasible ordered found).clear,?_⟩
      intro other member
      rw [List.mem_singleton.mp member]
      exact best midpoint found
    · exact ⟨[],(List.append_nil _).symm,by simp⟩

theorem breed_midway (feasible : Feasible bounds forbiddenZones outcome.point) (count : Nat) (rest : List BatchOutcome)
    (born : Nat) :
    Midway (breed (outcome :: outcome :: rest) (List.replicate (count+1) outcome) bounds forbiddenZones
      (List.replicate 12 outcome.point) (List.replicate (12+born) outcome.point))
      (· = List.replicate (12+(born+1)) outcome.point) := by
  have parent := (@pick_midway _ _ (List.replicate 12 outcome.point) (by simp)).mono
    fun _ member => List.eq_of_mem_replicate member
  refine .bind parent fun first one => .bind parent fun second two => ?_
  subst one two
  refine .bind (crossover_midway feasible.inside) fun child same => ?_
  subst same
  refine .bind (mutate_midway feasible.inside 1) fun child same => .pure ?_
  rw [same,trend_still feasible.inside,push_clear feasible.clear,← Nat.add_assoc,List.replicate_succ']

theorem generation_midway (feasible : Feasible bounds forbiddenZones outcome.point) (count : Nat) (rest : List BatchOutcome)
    {population : List Candidate}
    (settled : Settled (candidateQuality math (outcome :: outcome :: rest) bounds weights) outcome.point population) :
    Midway (generation math (outcome :: outcome :: rest) (List.replicate (count+1) outcome) bounds forbiddenZones weights
      population) (Settled (candidateQuality math (outcome :: outcome :: rest) bounds weights) outcome.point) := by
  unfold generation
  unfold Settled at settled
  simp only [settled]
  refine Midway.mono (@Midway.repeated _ (fun population => ∃ born, population = List.replicate (12+born) outcome.point) _
    ?_ 12 _ ⟨0,rfl⟩) ?_
  · rintro _ ⟨born,rfl⟩
    exact (breed_midway feasible count rest born).mono fun _ same => ⟨born+1,same⟩
  · rintro _ ⟨born,rfl⟩
    have front := @settled_front outcome.point
      (candidateQuality math (outcome :: outcome :: rest) bounds weights) (12+born) (by omega) [] (by simp)
    rwa [List.append_nil] at front

-- The search has cooled at the point, and knows its quality.
structure Rests (quality : Candidate → ℚ) (point : Candidate) (state : Annealing) : Prop where
  current : state.current = point
  score : state.currentScore = quality point

theorem anneal_midway (feasible : Feasible bounds forbiddenZones outcome.point) (count : Nat) (rest : List BatchOutcome)
    {state : Annealing}
    (rests : Rests (candidateQuality math (outcome :: outcome :: rest) bounds weights) outcome.point state) :
    Midway (anneal math (outcome :: outcome :: rest) (List.replicate (count+1) outcome) bounds forbiddenZones weights state)
      (Rests (candidateQuality math (outcome :: outcome :: rest) bounds weights) outcome.point) := by
  obtain ⟨current,score⟩ := rests
  unfold anneal
  rw [current]
  refine .bind (mutate_midway feasible.inside _) fun neighbor same => ?_
  subst same
  simp only [trend_still feasible.inside,feasible.clear,score,accepts,sub_self,le_refl,if_true]
  exact .pure ⟨rfl,rfl⟩

theorem hybrid_midway (ordered : bounds.Ordered) (feasible : Feasible bounds forbiddenZones outcome.point) {count : Nat}
    (many : 12 ≤ count+1) (rest : List BatchOutcome)
    (best : ∀ midpoint ∈ safeMidpoint bounds forbiddenZones,
      candidateQuality math (outcome :: outcome :: rest) bounds weights midpoint ≤
        candidateQuality math (outcome :: outcome :: rest) bounds weights outcome.point) :
    Midway (hybridSearchCandidate math (outcome :: outcome :: rest) (List.replicate (count+1) outcome) bounds
      forbiddenZones weights) (· = some ⟨outcome.point,searchNote⟩) := by
  generalize qualities : candidateQuality math (outcome :: outcome :: rest) bounds weights = quality at best
  refine .bind (seed_midway ordered feasible many quality best) fun population settled => ?_
  have populated : population.isEmpty = false := by
    cases population with
    | nil => cases settled
    | cons first others => rfl
  rw [populated]
  have generations := fun population settled => qualities ▸
    @generation_midway math bounds forbiddenZones weights outcome feasible count rest population (qualities ▸ settled)
  refine .bind (.repeated generations 18 settled) fun population settled => ?_
  have head : (ranked quality population).headD default = outcome.point := by
    unfold Settled at settled
    cases ranking : ranked quality population with
    | nil => rw [ranking] at settled; cases settled
    | cons first others =>
        rw [ranking] at settled
        exact (List.cons.inj settled).1
  have annealed : ∀ start : Annealing, Rests quality outcome.point start → Midway (repeated 32
      (anneal math (outcome :: outcome :: rest) (List.replicate (count+1) outcome) bounds forbiddenZones weights) start)
      (Rests quality outcome.point) := by
    intro start now
    refine .repeated (fun state rests => ?_) 32 now
    subst qualities
    exact anneal_midway feasible count rest rests
  simp only [qualities,head]
  refine .bind (annealed _ ⟨rfl,rfl⟩) fun reached rests => .pure ?_
  rw [rests.current]

end ReactorOS
