import ReactorOS.CrowdQuality
import ReactorOS.Rounding
namespace ReactorOS
open Chance
variable {math : Elementary} {bounds : OptimizerBounds} {memory : Option AiMemory} {point : Axes ℚ}

theorem le_eliteCountOf {count total : Nat} (many : 4*count ≤ total) : count ≤ eliteCountOf total := by
  have quarter : (count:ℚ) ≤ (total:ℚ)*(25/100) := by
    have cast : (4:ℚ)*count ≤ total := by exact_mod_cast many
    linarith
  have ceiling : (count:Int) ≤ ⌈(total:ℚ)*(25/100)⌉ := by
    exact_mod_cast quarter.trans (Int.le_ceil _)
  unfold eliteCountOf
  omega

theorem eliteCountOf_le {count total : Nat} (few : total ≤ 4*count) (positive : 0 < count) : eliteCountOf total ≤ count := by
  have quarter : (total:ℚ)*(25/100) ≤ count := by
    have cast : (total:ℚ) ≤ 4*count := by exact_mod_cast few
    linarith
  have ceiling : ⌈(total:ℚ)*(25/100)⌉ ≤ (count:Int) := Int.ceil_le.mpr (by exact_mod_cast quarter)
  unfold eliteCountOf
  omega

theorem elitesOf_crowd {count : Nat} {best : BatchOutcome} {tail : List BatchOutcome}
    (many : 48 ≤ (List.replicate count best ++ tail).length) (most : (List.replicate count best ++ tail).length ≤ 4*count) :
    ∃ elites, 12 ≤ elites+1 ∧ elitesOf (List.replicate count best ++ tail) = List.replicate (elites+1) best := by
  have dozen := @le_eliteCountOf 12 _ many
  have crowded := eliteCountOf_le most (by omega)
  obtain ⟨elites,elected⟩ : ∃ elites, eliteCountOf (List.replicate count best ++ tail).length = elites+1 :=
    ⟨eliteCountOf (List.replicate count best ++ tail).length-1,by omega⟩
  have room : elites+1 ≤ (List.replicate count best ++ tail).length := by
    rw [List.length_append,List.length_replicate]
    omega
  refine ⟨elites,by omega,?_⟩
  rw [elitesOf,elected,Nat.min_eq_left room,List.take_append_of_le_length (by rw [List.length_replicate]; omega),
    List.take_replicate,Nat.min_eq_left (by omega)]

theorem searched_midway {forbiddenZones : List ForbiddenZone} {weights : ℚ × ℚ} {sorted elites : List BatchOutcome}
    (search : Midway (hybridSearchCandidate math sorted elites bounds forbiddenZones weights) (· = some ⟨point,searchNote⟩)) :
    Midway (searched math sorted elites bounds forbiddenZones weights) (· = some (point,"",searchNote)) := by
  have kept : Midway (searchOrSample math sorted elites bounds forbiddenZones weights) (· = some ⟨point,searchNote⟩) := by
    refine .bind search fun found same => ?_
    subst same
    exact .pure rfl
  refine .bind kept fun found same => ?_
  subst same
  exact .pure rfl

-- Where the best batches crowd at a feasible point, the middle draws make the recommendation that point.
theorem recommend_midway (ordered : (effectiveBounds bounds memory).Ordered) {outcomes tail : List BatchOutcome}
    {best : BatchOutcome} {count : Nat}
    (feasible : Feasible (effectiveBounds bounds memory) (forbiddenZonesOf memory) best.point)
    (sorted : ranked (scoreWithWeights (objectiveWeights memory)) (memoryOutcomes memory ++ outcomes) =
      List.replicate count best ++ tail)
    (many : 48 ≤ (memoryOutcomes memory ++ outcomes).length) (most : (memoryOutcomes memory ++ outcomes).length ≤ 4*count)
    (better : ∀ midpoint ∈ safeMidpoint (effectiveBounds bounds memory) (forbiddenZonesOf memory),
      candidateQuality math (memoryOutcomes memory ++ outcomes) (effectiveBounds bounds memory) (objectiveWeights memory)
        midpoint ≤
      candidateQuality math (memoryOutcomes memory ++ outcomes) (effectiveBounds bounds memory) (objectiveWeights memory)
        best.point) :
    Midway (recommendWithMemory math bounds memory outcomes) fun found =>
      ∃ record, found = some record ∧ record.point = best.point.rounded := by
  have same := ranked_perm (scoreWithWeights (objectiveWeights memory)) (memoryOutcomes memory ++ outcomes)
  rw [sorted] at same
  obtain ⟨elites,dozen,elected⟩ := @elitesOf_crowd count best tail (by rw [same.length_eq]; exact many)
    (by rw [same.length_eq]; exact most)
  obtain ⟨more,rfl⟩ : ∃ more, count = more+2 := ⟨count-2,by omega⟩
  have reordered := fun candidate => @quality_perm math (effectiveBounds bounds memory) (objectiveWeights memory) candidate _ _ same
  have search := @hybrid_midway math (effectiveBounds bounds memory) (forbiddenZonesOf memory) (objectiveWeights memory)
    best ordered feasible elites dozen (List.replicate more best ++ tail) (by
      intro midpoint found
      have moved := better midpoint found
      rwa [← reordered,← reordered] at moved)
  unfold recommendWithMemory
  simp only [sorted,elected]
  rw [if_neg (by omega)]
  refine .bind (searched_midway search) fun found same => ?_
  subst same
  exact .pure ⟨_,rfl,rfl⟩

-- The search can end at every feasible point, for some batches and some draws.
theorem feasible_recommended (math : Elementary) (ordered : (effectiveBounds bounds memory).Ordered)
    (feasible : Feasible (effectiveBounds bounds memory) (forbiddenZonesOf memory) point) :
    ∃ outcomes draws record, (recommendWithMemory math bounds memory outcomes draws).1 = some record ∧
      record.point = point.rounded := by
  have weighing := objectiveWeights_weighing memory
  obtain ⟨top,below⟩ := exists_above (scoreWithWeights (objectiveWeights memory)) (memoryOutcomes memory)
  obtain ⟨count,enough,low,one,lows,better⟩ := exists_crowd math (effectiveBounds bounds memory) weighing
    (fun reference member => (below reference member).le)
    (safeMidpoint (effectiveBounds bounds memory) (forbiddenZonesOf memory)) point (48 + (memoryOutcomes memory).length)
  have reached := score_outcomeAt weighing point top
  obtain ⟨tail,sorted⟩ := @ranked_behind _ (scoreWithWeights (objectiveWeights memory))
    (outcomeAt (objectiveWeights memory) point top) count (memoryOutcomes memory) low
    (by rw [reached]; exact below) (by rw [reached]; exact lows)
  obtain ⟨⟨record,found,place⟩,_⟩ := @recommend_midway math bounds memory ordered
    (List.replicate count (outcomeAt (objectiveWeights memory) point top) ++ low) tail
    (outcomeAt (objectiveWeights memory) point top) count feasible sorted
    (by simp only [List.length_append,List.length_replicate]; omega)
    (by simp only [List.length_append,List.length_replicate]; omega) better
  exact ⟨_,middle,record,found,place⟩

-- Every recommendation keeps to the effective bounds, which lie inside the configured ones, and clear of
-- the zones that are enabled.
structure Sound (math : Elementary) (base : OptimizerBounds) (memory : AiMemory) : Prop where
  within : ∀ axis, base.low.on axis ≤ (memory.effectiveOptimizerBounds base).low.on axis ∧
    (memory.effectiveOptimizerBounds base).high.on axis ≤ base.high.on axis
  feasible : ∀ outcomes draws record, (recommendWithMemory math base (some memory) outcomes draws).1 = some record →
    Feasible (memory.effectiveOptimizerBounds base) (forbiddenZonesOf (some memory)) record.point

-- Rounding to hundredths takes no feasible point across a bound or into a zone.
def RoundsFeasibly (base : OptimizerBounds) (memory : AiMemory) : Prop :=
  ∀ point, Feasible (memory.effectiveOptimizerBounds base) (forbiddenZonesOf (some memory)) point →
    Feasible (memory.effectiveOptimizerBounds base) (forbiddenZonesOf (some memory)) point.rounded

theorem recommendations_sound_iff (math : Elementary) (base : OptimizerBounds) (memory : AiMemory)
    (accepted : validateOptimizerBounds base = .ok ()) : Sound math base memory ↔ RoundsFeasibly base memory := by
  have ordered : (effectiveBounds base (some memory)).Ordered :=
    effective_ordered memory (validateOptimizerBounds_ordered accepted)
  constructor
  · intro sound point feasible
    obtain ⟨outcomes,draws,record,found,place⟩ := feasible_recommended math ordered feasible
    rw [← place]
    exact sound.feasible outcomes draws record found
  · intro rounds
    refine ⟨effective_inside memory base,?_⟩
    intro outcomes draws record found
    obtain ⟨point,feasible,place⟩ := (recommend_always (some memory) ordered draws record found).place
    rw [place]
    exact rounds point feasible

-- Without a zone it is enough that the bounds are hundredths themselves.
theorem rounds_unzoned {base : OptimizerBounds} {memory : AiMemory} (unzoned : forbiddenZonesOf (some memory) = [])
    (hundredths : ∀ axis, round2 ((memory.effectiveOptimizerBounds base).low.on axis) =
      (memory.effectiveOptimizerBounds base).low.on axis ∧
      round2 ((memory.effectiveOptimizerBounds base).high.on axis) = (memory.effectiveOptimizerBounds base).high.on axis) :
    RoundsFeasibly base memory := by
  intro point feasible
  rw [unzoned]
  refine ⟨fun axis => ?_,rfl⟩
  obtain ⟨above,below⟩ := feasible.inside axis
  rw [Axes.rounded,Axes.on_each]
  exact ⟨le_round2_of_le (hundredths axis).1 above,round2_le_of_le (hundredths axis).2 below⟩

theorem recommendations_sound_default : Sound .approximate SafetyConfig.shipped.optimizer {} := by
  refine (recommendations_sound_iff .approximate SafetyConfig.shipped.optimizer {} (by decide +kernel)).mpr ?_
  refine rounds_unzoned rfl ?_
  rintro (_ | _ | _ | _) <;> decide +kernel

-- A zone that begins half a hundredth above the middle of the bounds.
def fencedMemory : AiMemory where
  profile := ⟨"bench","1"⟩
  recommendation := ⟨true,false,⟨{min := some (35016/1000)},{},{},{}⟩⟩
  forbiddenZones := [⟨"hot",⟨{min := some (8751/100),max := some 100},{},{},{}⟩⟩]

theorem recommended_inside_zone : validateOptimizerBounds SafetyConfig.shipped.optimizer = .ok () ∧
    fencedMemory.validateAgainstOptimizerBounds SafetyConfig.shipped.optimizer = .ok () ∧
    ((recommendWithMemory .approximate SafetyConfig.shipped.optimizer (some fencedMemory)
      [⟨1,60,300,60,60,80,9/10⟩] middle).1.map fun record => (record.point,isForbidden record.point fencedMemory.forbiddenZones)) =
      some (⟨8751/100,550,255/2,255/2⟩,true) ∧
    ¬Sound .approximate SafetyConfig.shipped.optimizer fencedMemory := by
  have evaluated : ((recommendWithMemory .approximate SafetyConfig.shipped.optimizer (some fencedMemory)
      [⟨1,60,300,60,60,80,9/10⟩] middle).1.map fun record => (record.point,isForbidden record.point fencedMemory.forbiddenZones)) =
      some (⟨8751/100,550,255/2,255/2⟩,true) := by decide +kernel
  refine ⟨by decide +kernel,by decide +kernel,evaluated,?_⟩
  intro sound
  obtain ⟨record,found,place⟩ := Option.map_eq_some_iff.mp evaluated
  have clear : isForbidden record.point fencedMemory.forbiddenZones = false := (sound.feasible _ _ record found).clear
  rw [clear] at place
  exact Bool.false_ne_true (congrArg Prod.snd place)

end ReactorOS
