import ReactorOS.Discipline.Daemon
namespace ReactorOS
open Concurrency Journal Protocol
variable {latch : Latch} {init : Plant} {newer older : List (TaskId × Event)} {i : TaskId} {event : Event}

-- The latch that a change engages; each of its engagements counts.
def Change.engages : Change → Option Latch
  | .engaged latch _ => some latch
  | .controlLoopTerminated _ => some .controlFault
  | _ => none

def Event.engages (latch : Latch) : Event → Bool
  | .runtime change => change.engages = some latch
  | _ => false

-- The engagement of any latch.
def Event.engaging (event : Event) : Bool :=
  event.engages .manualLock || event.engages .emergencyStop || event.engages .controlFault

theorem engaging_latch (engaging : event.engaging = true) : ∃ latch, event.engages latch = true := by
  unfold Event.engaging at engaging
  rw [Bool.or_eq_true,Bool.or_eq_true] at engaging
  rcases engaging with (lock | stop) | fault
  · exact ⟨_,lock⟩
  · exact ⟨_,stop⟩
  · exact ⟨_,fault⟩

def Event.clears (latch : Latch) : Event → Bool
  | .runtime change => change = .cleared latch
  | _ => false

theorem generation_apply (change : Change) (state : RuntimeState) (latch : Latch) :
    (change.apply state).generation latch =
      if change.engages = some latch then (state.generation latch).saturatingAdd 1 else state.generation latch := by
  cases change with
  | engaged engaged reason => cases engaged <;> cases latch <;> rfl
  | cleared cleared => cases cleared <;> cases latch <;> rfl
  | _ => cases latch <;> rfl

theorem generation_event (event : Event) (plant : Plant) (latch : Latch) :
    (Effect.apply event plant).runtime.generation latch =
      if event.engages latch then (plant.runtime.generation latch).saturatingAdd 1 else plant.runtime.generation latch := by
  cases event with
  | runtime change => simp [Event.engages,generation_apply]
  | store write => rfl
  | commanded writer command delivered => rfl
  | note note => rfl

theorem generation_le (init : Plant) (newer older : List (TaskId × Event)) (latch : Latch) : ((replay init older).runtime.generation latch).val ≤
    ((replay init (newer ++ older)).runtime.generation latch).val := by
  induction newer with
  | nil => exact Nat.le_refl _
  | cons entry newer ih =>
      obtain ⟨i,event⟩ := entry
      have step := generation_event event (replay init (newer ++ older)) latch
      rw [List.cons_append,replay,step]
      split
      · have raised := Fin.le_def.mp (Generation.le_saturatingAdd ((replay init (newer ++ older)).runtime.generation latch) 1)
        omega
      · exact ih

-- Below the maximum an engagement can be told from the counter.
theorem generation_lt (newer : List (TaskId × Event)) (engaged : event.engages latch = true)
    (room : ((replay init (newer ++ (i,event) :: older)).runtime.generation latch).val < u64Max) :
    ((replay init older).runtime.generation latch).val <
      ((replay init (newer ++ (i,event) :: older)).runtime.generation latch).val := by
  have step := generation_event event (replay init older) latch
  rw [if_pos engaged] at step
  have later : ((replay init ((i,event) :: older)).runtime.generation latch).val ≤ _ := generation_le init newer _ latch
  rw [replay,step] at later
  have raised := Fin.le_def.mp (Generation.le_saturatingAdd ((replay init older).runtime.generation latch) 1)
  have bound : ((replay init older).runtime.generation latch).val < u64Max := by omega
  have strict := Fin.lt_def.mp (Generation.lt_saturatingAdd bound Nat.one_pos)
  omega

-- A counter that stands where it stood: nobody engaged the latch in the meantime.
theorem unengaged (same : (replay init (newer ++ older)).runtime.generation latch =
      (replay init older).runtime.generation latch)
    (room : ((replay init (newer ++ older)).runtime.generation latch).val < u64Max) :
    ∀ entry ∈ newer, entry.2.engages latch = false := by
  intro entry member
  obtain ⟨i,event⟩ := entry
  obtain ⟨after,before,rfl⟩ := List.append_of_mem member
  by_contra engaged
  rw [Bool.not_eq_false] at engaged
  rw [List.append_assoc,List.cons_append] at same room
  have raised := generation_lt _ engaged room
  have earlier : ((replay init older).runtime.generation latch).val ≤ _ := generation_le init before _ latch
  rw [same] at raised
  omega

def SafetyLatchGenerations.generation (latches : SafetyLatchGenerations) : Latch → Generation
  | .manualLock => latches.manualLock
  | .emergencyStop => latches.emergencyStop
  | .controlFault => latches.controlFault

theorem fromRuntime_generation (runtime : RuntimeState) (latch : Latch) :
    (SafetyLatchGenerations.fromRuntime runtime).generation latch = runtime.generation latch := by
  cases latch <;> rfl

theorem unchanged_generation {latches : SafetyLatchGenerations} {runtime : RuntimeState}
    (unchanged : latches.changedSince runtime = false) (latch : Latch) :
    runtime.generation latch = latches.generation latch := by
  simp only [SafetyLatchGenerations.changedSince,Bool.or_eq_false_iff,bne_eq_false_iff_eq] at unchanged
  cases latch with
  | manualLock => exact unchanged.1.1.symm
  | emergencyStop => exact unchanged.1.2.symm
  | controlFault => exact unchanged.2.symm

-- A latch stays on until it is cleared.
theorem latched_apply (change : Change) (state : RuntimeState) (latch : Latch) :
    (change.apply state).latched latch =
      if change.engages = some latch then true else if change = .cleared latch then false else state.latched latch := by
  cases change with
  | engaged engaged reason => cases engaged <;> cases latch <;> rfl
  | cleared cleared => cases cleared <;> cases latch <;> rfl
  | _ => cases latch <;> rfl

theorem latched_event (event : Event) (plant : Plant) (latch : Latch) :
    (Effect.apply event plant).runtime.latched latch =
      if event.engages latch then true else if event.clears latch then false else plant.runtime.latched latch := by
  cases event with
  | runtime change => simp [Event.engages,Event.clears,latched_apply]
  | store write => rfl
  | commanded writer command delivered => rfl
  | note note => rfl

theorem latched_kept (newer : List (TaskId × Event)) (on : (replay init older).runtime.latched latch = true)
    (kept : ∀ entry ∈ newer, entry.2.clears latch = false) :
    (replay init (newer ++ older)).runtime.latched latch = true := by
  induction newer with
  | nil => exact on
  | cons entry newer ih =>
      obtain ⟨i,event⟩ := entry
      have step := latched_event event (replay init (newer ++ older)) latch
      have before := ih fun entry member => kept entry (by simp [member])
      have uncleared : event.clears latch = false := kept (i,event) (by simp)
      rw [List.cons_append,replay,step,uncleared,before]
      simp

-- Below their maximum all three counters still count.
def Site.Counting (site : Site) (jobs : TaskId → Job) (schedule : List (TaskId × Env)) : Prop :=
  ∀ latch, ((site.after jobs schedule).state.runtime.generation latch).val < u64Max

theorem Site.Counting.room {site : Site} {jobs : TaskId → Job} {schedule : List (TaskId × Env)}
    (counting : site.Counting jobs schedule) (split : (site.after jobs schedule).history = newer ++ older)
    (latch : Latch) : ((replay site.startUp older).runtime.generation latch).val < u64Max := by
  have last := counting latch
  rw [after_consistent,split] at last
  have earlier : ((replay site.startUp older).runtime.generation latch).val ≤ _ :=
    generation_le _ newer _ latch
  omega

end ReactorOS
