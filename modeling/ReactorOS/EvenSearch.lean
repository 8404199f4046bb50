import ReactorOS.CrowdQuality
namespace ReactorOS
open Chance
variable {math : Elementary} {outcomes elites : List BatchOutcome} {bounds : OptimizerBounds}
  {forbiddenZones : List ForbiddenZone} {weights : ℚ × ℚ} {candidate mutant start : Candidate}
  {population : List Candidate} {top : ℚ}

-- Where all batches score the same no candidate is better than another.
theorem even_quality (nonempty : outcomes ≠ []) (even : ∀ outcome ∈ outcomes, scoreWithWeights weights outcome = top) :
    candidateQuality math outcomes bounds weights candidate = top := by
  have near := @totalNearness_pos math bounds candidate outcomes nonempty
  have missed : shortfall math bounds weights top outcomes candidate = 0 := by
    refine List.sum_eq_zero fun value member => ?_
    obtain ⟨outcome,listed,rfl⟩ := List.mem_map.mp member
    rw [even outcome listed,sub_self,zero_mul]
  unfold candidateQuality
  simp only [weighted_shortfall top,missed,sub_zero]
  change (if totalNearness math bounds outcomes candidate = 0 then _ else _/totalNearness math bounds outcomes candidate) = top
  rw [if_neg near.ne',mul_div_cancel_right₀ _ near.ne']

theorem uniform_open (low high : ℚ) : Possible (uniform low high) fun _ => True :=
  .bind (drawn_possible (middle 0)) fun _ _ => .pure trivial

theorem draw_open {value : Axis → Random ℚ} (every : ∀ axis, Possible (value axis) fun _ => True) :
    Possible (Axes.draw value) fun _ => True := (Axes.draw_possible every).mono fun _ _ => trivial

theorem sampleAllowed_open (tries : Nat) :
    Possible (sampleAllowed math elites bounds forbiddenZones tries) fun _ => True := by
  induction tries with
  | zero => exact .pure trivial
  | succ tries ih =>
      refine .bind (draw_open fun axis => .bind (uniform_open _ _) fun _ _ => .pure trivial) fun candidate _ => ?_
      exact .ite (fun _ => .pure trivial) fun _ => ih

theorem mutateCandidate_open (scale : ℚ) : Possible (mutateCandidate bounds candidate scale) fun _ => True := by
  unfold mutateCandidate
  exact draw_open fun axis => .bind (uniform_open _ _) fun _ _ => .pure trivial

theorem mutateCandidate_possible {scale : ℚ} (reach : MutantReach bounds (clamp scale (2/10) (15/10)) candidate mutant) :
    Possible (mutateCandidate bounds candidate scale) (· = mutant) := by
  unfold mutateCandidate
  refine (@Axes.draw_possible _ _ (fun axis value => value = mutant.on axis) ?_).mono fun _ same => Axes.ext same
  intro axis
  obtain ⟨jitter,above,below,same⟩ := reach axis
  unfold strideOf at above below
  rw [mul_assoc] at above below
  refine .bind (uniform_possible above below) fun given drawn => .pure ?_
  rw [drawn,same]

theorem push_head (head : population.head? = some start) :
    (pushIfAllowed forbiddenZones population candidate).head? = some start := by
  unfold pushIfAllowed
  split
  · rw [List.head?_append,head]
    rfl
  · exact head

theorem breed_head (parents : List Candidate) (head : population.head? = some start) :
    Possible (breed outcomes elites bounds forbiddenZones parents population) (·.head? = some start) := by
  refine .bind (pick_possible _) fun first _ => .bind (pick_possible _) fun second _ => ?_
  refine @Possible.bind _ _ _ _ (fun _ => True) _ (.bind (uniform_open _ _) fun _ _ => .pure trivial) fun child _ => ?_
  exact .bind (mutateCandidate_open 1) fun mutant _ => .pure (push_head head)

theorem generation_head (nonempty : outcomes ≠ []) (even : ∀ outcome ∈ outcomes, scoreWithWeights weights outcome = top)
    (head : population.head? = some start) :
    Possible (generation math outcomes elites bounds forbiddenZones weights population) (·.head? = some start) := by
  unfold generation
  rw [ranked_even fun one _ other _ => (even_quality nonempty even).trans (even_quality nonempty even).symm]
  refine .repeated (fun population head => breed_head _ head) 12 ?_
  rw [List.head?_take,if_neg (by decide),head]

-- The first elite that lies in no zone heads the population.
theorem seed_head (first : (elites.map (outcomeCandidate bounds)).find? (!isForbidden · forbiddenZones) = some start) :
    Possible (seedPopulation math elites bounds forbiddenZones) (·.head? = some start) := by
  have pushed : (elites.foldl (fun population elite =>
      pushIfAllowed forbiddenZones population (outcomeCandidate bounds elite)) []).head? = some start := by
    rw [pushes_filter,List.nil_append,List.head?_filter]
    exact first
  unfold seedPopulation
  refine .repeated ?_ 32 ?_
  · intro population head
    refine .bind (sampleAllowed_open 64) fun sampled _ => ?_
    cases sampled with
    | none => exact .pure head
    | some candidate =>
        refine .pure ?_
        rw [List.head?_append,head]
        rfl
  · split
    · exact push_head pushed
    · exact pushed

-- The scale of the mutations as the annealing cools.
def coolingScale (steps : Nat) : ℚ := clamp (8*(86/100)^steps/8) (2/10) (15/10)

-- A way through the annealing: every step is one of its mutations, and none ends in a zone.
structure Walk (outcomes elites : List BatchOutcome) (bounds : OptimizerBounds) (forbiddenZones : List ForbiddenZone)
    (path : Nat → Candidate) : Prop where
  steps : ∀ k < 32, Stepped outcomes elites bounds (coolingScale k) (path k) (path (k+1))
  clear : ∀ k < 32, isForbidden (path (k+1)) forbiddenZones = false

-- Where the corrections alone lead.
def corrected (outcomes elites : List BatchOutcome) (bounds : OptimizerBounds) (start : Candidate) (steps : Nat) : Candidate :=
  (trendCorrectCandidate outcomes elites bounds)^[steps] start

theorem corrected_succ (steps : Nat) : corrected outcomes elites bounds start (steps+1) =
    trendCorrectCandidate outcomes elites bounds (corrected outcomes elites bounds start steps) :=
  Function.iterate_succ_apply' _ _ _

theorem corrected_holds (ordered : bounds.Ordered) (inside : bounds.Holds start) (steps : Nat) :
    bounds.Holds (corrected outcomes elites bounds start steps) := by
  cases steps with
  | zero => exact inside
  | succ steps =>
      rw [corrected_succ]
      exact trend_holds ordered

-- Without a zone the mutations may leave every candidate as it is.
theorem corrected_walk (ordered : bounds.Ordered) (inside : bounds.Holds start) :
    Walk outcomes elites bounds [] (corrected outcomes elites bounds start) where
  steps := by
    intro k _
    refine ⟨corrected outcomes elites bounds start k,fun axis => ?_,corrected_succ k⟩
    have warm : 0 ≤ coolingScale k := le_trans (by norm_num) (clamp_between (by norm_num : (2/10:ℚ) ≤ 15/10)).1
    have reach := mul_nonneg (strideOf_pos bounds axis).le warm
    have within := @corrected_holds outcomes elites bounds start ordered inside k axis
    exact ⟨0,by linarith,reach,by rw [add_zero,clamp_self within.1 within.2]⟩
  clear := fun _ _ => rfl

section Walk
variable {path : Nat → Candidate} (walk : Walk outcomes elites bounds forbiddenZones path) (nonempty : outcomes ≠ [])
  (even : ∀ outcome ∈ outcomes, scoreWithWeights weights outcome = top)
include walk nonempty even

def walked (path : Nat → Candidate) (top : ℚ) (steps : Nat) : Annealing := ⟨path steps,top,8*(86/100)^steps⟩

theorem anneal_walks {k : Nat} (more : k < 32) :
    Possible (anneal math outcomes elites bounds forbiddenZones weights (walked path top k)) (· = walked path top (k+1)) := by
  obtain ⟨mutant,reach,same⟩ := walk.steps k more
  refine .bind (mutateCandidate_possible reach) fun given drawn => ?_
  subst drawn
  have cooler : 8*(86/100:ℚ)^k*(86/100) = 8*(86/100)^(k+1) := by ring
  simp only [walked,← same,walk.clear k more,even_quality nonempty even,accepts,sub_self,le_refl,if_true,cooler]
  exact .pure rfl

theorem annealed_walks {count k : Nat} (left : k+count = 32) :
    Possible (repeated count (anneal math outcomes elites bounds forbiddenZones weights) (walked path top k))
      (· = walked path top 32) := by
  induction count generalizing k with
  | zero =>
      obtain rfl : k = 32 := by omega
      rw [repeated_zero]
      exact .pure rfl
  | succ count ih =>
      rw [repeated_succ]
      refine .bind (anneal_walks walk nonempty even (by omega)) fun state same => ?_
      subst same
      exact ih (by omega)

theorem hybrid_walks
    (first : (elites.map (outcomeCandidate bounds)).find? (!isForbidden · forbiddenZones) = some (path 0)) :
    Possible (hybridSearchCandidate math outcomes elites bounds forbiddenZones weights) (· = some ⟨path 32,searchNote⟩) := by
  refine .bind (seed_head first) fun population head => ?_
  have populated : population.isEmpty = false := by
    cases population with
    | nil => cases head
    | cons first others => rfl
  rw [populated]
  refine .bind (.repeated (fun population head => generation_head nonempty even head) 18 head) fun population head => ?_
  have start : (ranked (candidateQuality math outcomes bounds weights) population).headD default = path 0 := by
    rw [ranked_even fun one _ other _ => (even_quality nonempty even).trans (even_quality nonempty even).symm,
      List.headD_eq_head?_getD,head]
    rfl
  have started : (⟨path 0,top,8⟩ : Annealing) = walked path top 0 := by
    rw [walked,pow_zero,mul_one]
  simp only [start,even_quality nonempty even,started]
  refine .bind (annealed_walks walk nonempty even rfl) fun reached same => .pure ?_
  rw [same]
  rfl

theorem searched_walks
    (first : (elites.map (outcomeCandidate bounds)).find? (!isForbidden · forbiddenZones) = some (path 0)) :
    Possible (searched math outcomes elites bounds forbiddenZones weights) (· = some (path 32,"",searchNote)) := by
  have kept : Possible (searchOrSample math outcomes elites bounds forbiddenZones weights)
      (· = some ⟨path 32,searchNote⟩) := by
    refine .bind (hybrid_walks walk nonempty even first) fun found same => ?_
    subst same
    exact .pure rfl
  refine .bind kept fun found same => ?_
  subst same
  exact .pure rfl

end Walk

end ReactorOS
