import ReactorOS.RuntimeInvariant
namespace ReactorOS
open Concurrency Journal Protocol
variable {site : Site} {history : List (TaskId × Event)} {me : TaskId} {latch : Latch}

-- The latch that a request is there to reset.
def Job.resets : Job → Option Latch
  | .resetEmergencyStop _ => some .emergencyStop
  | .resetControlFault _ => some .controlFault
  | _ => none

theorem reset_outcome {job : Job} (resets : job.resets = some latch) : job.Outcome = Cleared latch := by
  cases job with
  | resetEmergencyStop actor => cases resets; rfl
  | resetControlFault actor => cases resets; rfl
  | _ => cases resets

theorem resets_not_lock {job : Job} (resets : job.resets = some latch) : latch ≠ .manualLock := by
  cases job with
  | resetEmergencyStop actor => cases resets; simp
  | resetControlFault actor => cases resets; simp
  | _ => cases resets

-- A task knows which latches it has cleared.
theorem mem_cleared (safety : SafetyConfig) (me : TaskId) (latch : Latch) (history : List (TaskId × Event)) :
    latch ∈ ((rules safety).progress me history).cleared ↔ (me,.runtime (.cleared latch)) ∈ history := by
  have ever := progress_ever (rules safety) (fun p : Progress => latch ∈ p.cleared)
    (fun event : Event => event = .runtime (.cleared latch)) (by simp [rules]) (fun event p => by
      change latch ∈ (Progress.after event p).cleared ↔ _
      rw [Progress.cleared_after]
      split
      · simp [eq_comm]
      · rename_i other
        constructor
        · exact .inr
        · intro either
          rcases either with rfl | before
          · exact absurd rfl (other latch)
          · exact before) me history
  rw [ever]
  simp

-- Where the acknowledgement was made on which a reset relies.
theorem acknowledgement (holds : site.Allowed history) {generation : Generation}
    (resetting : ((rules site.safety).progress me history).resetting = some (latch,generation)) :
    ∃ between older, history = between ++ (me,.note (.resetAcknowledged latch generation)) :: older ∧
      generation = (replay site.startUp older).runtime.generation latch := by
  obtain ⟨since,event,older,rfl,before,now,_⟩ :=
    progress_since _ (fun p : Progress => p.resetting = some (latch,generation)) (by simp [rules]) resetting
  have moved := Progress.resetting_after event ((rules site.safety).progress me older)
  change (Progress.after event _).resetting = _ at now
  rw [now] at moved
  split at moved
  · obtain ⟨rfl,rfl⟩ := Prod.mk.inj (Option.some.inj moved)
    exact ⟨since,older,rfl,holds.event.2.1⟩
  · exact absurd moved.symm before

-- The clearing step as a whole.
theorem clearing_step {env : Env} {w : World} {new : List Event} (other : latch ≠ .manualLock)
    (permitted : Permitted site.safety env.now w.state ((rules site.safety).progress me w.history) new)
    (clears : .runtime (.cleared latch) ∈ new) :
    w.state.runtime.activeBatchId = none ∧ ensureFreshSample site.safety env.now w.state.runtime = .ok () ∧
    ((rules site.safety).progress me w.history).resetting = some (latch,w.state.runtime.generation latch) ∧
    (∃ checked, new = .runtime (.cleared latch) :: checked) ∧
    (w.extend (own me new)).state.runtime.latched latch = false ∧
    (∀ different, different ≠ latch →
      (w.extend (own me new)).state.runtime.latched different = w.state.runtime.latched different) ∧
    (w.extend (own me new)).state.runtime.autoEnabled = false := by
  obtain ⟨idle,fresh,shape⟩ := permitted.resets latch clears other
  have events := permitted.events
  rw [extend_own]
  refine ⟨idle,fresh,?_,?_,?_,?_,?_⟩
  · rcases shape with rfl | rfl
    · cases latch with
      | manualLock => exact absurd rfl other
      | emergencyStop => exact events.2
      | controlFault => exact events.2
    · cases latch with
      | manualLock => exact absurd rfl other
      | emergencyStop => exact events.2
      | controlFault => exact events.2
  · rcases shape with rfl | rfl
    · exact ⟨_,rfl⟩
    · exact ⟨_,rfl⟩
  · rcases shape with rfl | rfl <;> cases latch <;> rfl
  · intro different apart
    rcases shape with rfl | rfl <;> cases latch <;> cases different <;> first | rfl | exact absurd rfl apart
  · rcases shape with rfl | rfl <;> cases latch <;> rfl

theorem reset_clears_acknowledged {jobs : TaskId → Job} {schedule : List (TaskId × Env)} {u : TaskId}
    {result : Except AppError Unit} (resets : (jobs u).resets = some latch) (counting : site.Counting jobs schedule)
    (finished : ((site.daemon jobs).run schedule).tasks u = .done result) :
    (result = .ok () → ∃ before env rest between older generation checked, schedule = before ++ (u,env) :: rest ∧
      (site.after jobs before).history = between ++ (u,.note (.resetAcknowledged latch generation)) :: older ∧
      (∀ entry ∈ between, entry.2.engages latch = false) ∧
      (site.after jobs (before ++ [(u,env)])).history =
        (u,.runtime (.cleared latch)) :: checked ++ (site.after jobs before).history ∧
      (site.after jobs before).state.runtime.activeBatchId = none ∧
      ensureFreshSample site.safety env.now (site.after jobs before).state.runtime = .ok () ∧
      (site.after jobs (before ++ [(u,env)])).state.runtime.latched latch = false ∧
      (∀ other, other ≠ latch → (site.after jobs (before ++ [(u,env)])).state.runtime.latched other =
        (site.after jobs before).state.runtime.latched other) ∧
      (site.after jobs (before ++ [(u,env)])).state.runtime.autoEnabled = false) ∧
    ∀ error, result = .error error → ∀ cleared, (u,.runtime (.cleared cleared)) ∉ (site.after jobs schedule).history := by
  have outcome := Site.after_result finished
  rw [reset_outcome resets] at outcome
  rcases outcome with ⟨rfl,cleared⟩ | ⟨error,rfl,nothing⟩
  · refine ⟨fun _ => ?_,fun error refused => by cases refused⟩
    have member := (mem_cleared site.safety u latch (site.after jobs schedule).history).mp (by rw [cleared]; simp)
    obtain ⟨before,env,rest,new,split,clears,step,permitted⟩ := Site.after_origin member
    obtain ⟨idle,fresh,resetting,⟨checked,shape⟩,off,others,disabled⟩ :=
      clearing_step (resets_not_lock resets) permitted clears
    obtain ⟨between,older,acknowledged,current⟩ := acknowledgement (site.after_allowed jobs before) resetting
    have quiet : ∀ entry ∈ between, entry.2.engages latch = false := by
      obtain ⟨later,longer⟩ := site.after_more jobs before ((u,env) :: rest)
      rw [←split,acknowledged] at longer
      have room := counting.room longer latch
      rw [Site.after_consistent,acknowledged] at current
      exact unengaged current room
    refine ⟨before,env,rest,between,older,_,own u checked,split,acknowledged,quiet,?_,idle,fresh,?_⟩
    · rw [step,extend_history,shape]
      rfl
    · rw [step]
      exact ⟨off,others,disabled⟩
  · refine ⟨fun succeeded => by (cases succeeded),fun _ _ cleared member => ?_⟩
    have known := (mem_cleared site.safety u cleared (site.after jobs schedule).history).mpr member
    rw [nothing] at known
    cases known

def stopAndReset : TaskId → Job
  | 0 => .controlLoop .simulation 1
  | 1 => .emergencyStop .system
  | _ => .resetEmergencyStop .system

theorem reset_clears_acknowledged_stop :
    ∃ before env rest, healthy [0,0,0,0,0,0,0,1,1,1,2,2,2,2] = before ++ (2,env) :: rest ∧
      (Site.shipped.after stopAndReset before).state.runtime.activeBatchId = none ∧
      (Site.shipped.after stopAndReset (before ++ [(2,env)])).state.runtime.emergencyStop = false := by
  have finished : ((Site.shipped.daemon stopAndReset).run (healthy [0,0,0,0,0,0,0,1,1,1,2,2,2,2])).tasks 2 = .done (.ok ()) :=
    Task.of_succeeded (by decide +kernel)
  have counting : Site.shipped.Counting stopAndReset (healthy [0,0,0,0,0,0,0,1,1,1,2,2,2,2]) := by
    intro latch
    cases latch <;> decide +kernel
  obtain ⟨before,env,rest,_,_,_,_,split,_,_,_,idle,_,off,_⟩ := (reset_clears_acknowledged rfl counting finished).1 rfl
  exact ⟨before,env,rest,split,idle,off⟩

end ReactorOS
