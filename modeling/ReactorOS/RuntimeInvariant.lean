import ReactorOS.Latches
namespace ReactorOS
open Concurrency Journal Protocol
variable {site : Site} {history : List (TaskId × Event)} {plant : Plant} {p : Progress} {event : Event}

theorem startUp_auto (site : Site) : site.startUp.runtime.autoEnabled = false := by
  unfold Site.startUp recoverRuntimeFromDb
  dsimp only
  split
  · rfl
  · rfl

theorem startUp_running (site : Site) : site.startUp.runtime.controlLoopTerminated = false := by
  unfold Site.startUp recoverRuntimeFromDb
  dsimp only
  split
  · rfl
  · rfl

-- Automatic control is only ever switched on where nothing speaks against it, and
-- whatever speaks against it switches it off.
theorem autoSafe_event (safe : plant.runtime.AutoSafe) (permitted : allowed plant p event) :
    (Effect.apply event plant).runtime.AutoSafe := by
  cases event with
  | store write => exact safe
  | commanded writer command delivered => exact safe
  | note note => exact safe
  | runtime change =>
      cases change with
      | autoEnabled => exact fun _ => permitted
      | targetsSet targets => exact safe
      | activeBatchSet batch => exact safe
      | sampleDropped => exact safe
      | deviceStatusSet status => exact safe
      | sampleAccepted sample =>
          intro enabled
          obtain ⟨stop,lock,fault,_⟩ := safe enabled
          exact ⟨stop,lock,fault,rfl⟩
      | engaged latch reason => cases latch <;> exact fun enabled => absurd enabled Bool.false_ne_true
      | cleared latch => cases latch <;> exact fun enabled => absurd enabled Bool.false_ne_true
      | _ => exact fun enabled => absurd enabled Bool.false_ne_true

theorem autoSafe_history (history : List (TaskId × Event)) (holds : site.Allowed history) :
    (replay site.startUp history).runtime.AutoSafe := by
  induction history with
  | nil => exact fun enabled => absurd enabled (by rw [replay,startUp_auto]; exact Bool.false_ne_true)
  | cons entry history ih =>
      obtain ⟨before,permitted⟩ := holds
      exact autoSafe_event (ih before) permitted

-- Whoever is about to reset a latch acknowledged it no later than now, and never after
-- the loop had come to its end; so its end is not reset.
structure Supervised (site : Site) (history : List (TaskId × Event)) : Prop where
  acknowledged : ∀ i latch generation, ((rules site.safety).progress i history).resetting = some (latch,generation) →
    generation.val ≤ ((replay site.startUp history).runtime.generation latch).val
  stale : (replay site.startUp history).runtime.controlLoopTerminated = true → ∀ i generation,
    ((rules site.safety).progress i history).resetting = some (.controlFault,generation) →
      generation.val < ((replay site.startUp history).runtime.generation .controlFault).val
  fault : (replay site.startUp history).runtime.controlLoopTerminated = true →
    (replay site.startUp history).runtime.lastControlError.isSome = true

theorem terminated_apply (change : Change) (state : RuntimeState) :
    (change.apply state).controlLoopTerminated = true ↔
      state.controlLoopTerminated = true ∨ ∃ reason, change = .controlLoopTerminated reason := by
  cases change with
  | engaged latch reason => cases latch <;> simp [Change.apply,RuntimeState.engageManualLock,
      RuntimeState.engageEmergencyStop,RuntimeState.latchControlFault]
  | cleared latch => cases latch <;> simp [Change.apply,RuntimeState.clearManualLock,
      RuntimeState.clearEmergencyStop,RuntimeState.clearControlFault]
  | _ => simp [Change.apply,RuntimeState.latchControlFault,RuntimeState.disableAutoForFieldFault]

theorem resetting_event {i j : TaskId} {latch : Latch} {generation : Generation}
    (reset : ((rules site.safety).progress j ((i,event) :: history)).resetting = some (latch,generation)) :
    (i = j ∧ event = .note (.resetAcknowledged latch generation)) ∨
      ((rules site.safety).progress j history).resetting = some (latch,generation) := by
  by_cases mine : i = j
  · subst mine
    rw [progress_own] at reset
    have moved := Progress.resetting_after event ((rules site.safety).progress i history)
    change (Progress.after event _).resetting = _ at reset
    rw [reset] at moved
    split at moved
    · obtain ⟨rfl,rfl⟩ := Prod.mk.inj (Option.some.inj moved)
      exact .inl ⟨rfl,rfl⟩
    · exact .inr moved.symm
  · rw [progress_other _ mine] at reset
    exact .inr reset

theorem terminated_event {i : TaskId} (ended : (replay site.startUp ((i,event) :: history)).runtime.controlLoopTerminated = true) :
    (replay site.startUp history).runtime.controlLoopTerminated = true ∨
      ∃ reason, event = .runtime (.controlLoopTerminated reason) := by
  cases event with
  | runtime change =>
      rcases (terminated_apply change _).mp ended with before | ⟨reason,rfl⟩
      · exact .inl before
      · exact .inr ⟨reason,rfl⟩
  | store write => exact .inl ended
  | commanded writer command delivered => exact .inl ended
  | note note => exact .inl ended

theorem supervised_event {i : TaskId} (supervised : Supervised site history)
    (permitted : allowed (replay site.startUp history) ((rules site.safety).progress i history) event)
    (room : ((replay site.startUp ((i,event) :: history)).runtime.generation .controlFault).val < u64Max) :
    Supervised site ((i,event) :: history) := by
  have grown : ∀ latch, ((replay site.startUp history).runtime.generation latch).val ≤
      ((replay site.startUp ((i,event) :: history)).runtime.generation latch).val :=
    generation_le site.startUp [(i,event)] history
  have upTo : ∀ j latch generation,
      ((rules site.safety).progress j ((i,event) :: history)).resetting = some (latch,generation) →
        generation.val ≤ ((replay site.startUp history).runtime.generation latch).val := by
    intro j latch generation reset
    rcases resetting_event reset with ⟨rfl,rfl⟩ | before
    · obtain ⟨_,current,_⟩ := permitted
      rw [current]
    · exact supervised.acknowledged j latch generation before
  refine ⟨?_,?_,?_⟩
  · intro j latch generation reset
    have acknowledged := upTo j latch generation reset
    have later := grown latch
    omega
  · intro ended j generation reset
    rcases terminated_event ended with before | ⟨reason,rfl⟩
    · rcases resetting_event reset with ⟨rfl,rfl⟩ | waiting
      · obtain ⟨_,_,_,running⟩ := permitted
        rw [running rfl] at before
        exact absurd before Bool.false_ne_true
      · have old := supervised.stale before j generation waiting
        have later := grown .controlFault
        omega
    · have acknowledged := upTo j .controlFault generation reset
      have raised := generation_lt [] rfl room
      rw [List.nil_append] at raised
      omega
  · intro ended
    rcases terminated_event ended with before | ⟨reason,rfl⟩
    · have on : (replay site.startUp history).runtime.latched .controlFault = true := supervised.fault before
      by_cases cleared : event = .runtime (.cleared .controlFault)
      · subst cleared
        have old := supervised.stale before i _ permitted
        omega
      · have kept := latched_kept [(i,event)] on (by
          intro entry member
          rw [List.mem_singleton.mp member]
          cases event with
          | runtime change => simpa [Event.clears] using fun same => cleared (by rw [same])
          | _ => rfl)
        exact kept
    · rfl

theorem supervised_history (history : List (TaskId × Event)) (holds : site.Allowed history)
    (room : ((replay site.startUp history).runtime.generation .controlFault).val < u64Max) :
    Supervised site history := by
  induction history with
  | nil =>
      refine ⟨by simp [progress,rules],?_,?_⟩
      · intro ended
        rw [replay,startUp_running] at ended
        exact absurd ended Bool.false_ne_true
      · intro ended
        rw [replay,startUp_running] at ended
        exact absurd ended Bool.false_ne_true
  | cons entry history ih =>
      obtain ⟨i,event⟩ := entry
      obtain ⟨before,permitted⟩ := holds
      have grown := generation_le site.startUp [(i,event)] history .controlFault
      exact supervised_event (ih before (Nat.lt_of_le_of_lt grown room)) permitted room

theorem runtime_latch_invariant (site : Site) (jobs : TaskId → Job) (schedule : List (TaskId × Env)) :
    (site.after jobs schedule).state.runtime.AutoSafe ∧
    (((site.after jobs schedule).state.runtime.generation .controlFault).val < u64Max →
      ((site.after jobs schedule).state.runtime.controlLoopTerminated = true →
        (site.after jobs schedule).state.runtime.lastControlError.isSome = true) ∧
      ∀ newer i older, (site.after jobs schedule).history = newer ++ (i,.runtime (.cleared .controlFault)) :: older →
        (replay site.startUp older).runtime.controlLoopTerminated = false) ∧
    (∀ latch more, ((site.after jobs schedule).state.runtime.generation latch).val ≤
      ((site.after jobs (schedule ++ more)).state.runtime.generation latch).val) ∧
    ∀ latch newer i event older, (site.after jobs schedule).history = newer ++ (i,event) :: older →
      event.engages latch = true → ((replay site.startUp older).runtime.generation latch).val < u64Max →
        ((replay site.startUp older).runtime.generation latch).val <
          ((replay site.startUp ((i,event) :: older)).runtime.generation latch).val := by
  have holds := site.after_allowed jobs schedule
  refine ⟨?_,?_,?_,?_⟩
  · rw [Site.after_consistent]
    exact autoSafe_history _ holds
  · intro room
    rw [Site.after_consistent] at room ⊢
    refine ⟨(supervised_history _ holds room).fault,?_⟩
    intro newer i older split
    rw [split] at holds room
    have grown := generation_le site.startUp newer ((i,.runtime (.cleared .controlFault)) :: older) .controlFault
    have sooner := generation_le site.startUp [(i,.runtime (.cleared .controlFault))] older .controlFault
    have supervised := supervised_history older holds.older.1 (by rw [List.singleton_append] at sooner; omega)
    by_contra ended
    have old := supervised.stale (Bool.not_eq_false _ ▸ ended) i _ holds.event
    omega
  · intro latch more
    obtain ⟨new,longer⟩ := site.after_more jobs schedule more
    rw [Site.after_consistent,Site.after_consistent,longer]
    exact generation_le _ _ _ _
  · intro latch newer i event older _ engaged room
    have step := generation_event event (replay site.startUp older) latch
    rw [if_pos engaged] at step
    rw [replay,step]
    exact Fin.lt_def.mp (Generation.lt_saturatingAdd room Nat.one_pos)

theorem runtime_latch_invariant_terminated :
    (Site.shipped.after (fun _ => .controlLoopMonitor true) (healthy [0])).state.runtime.lastControlError.isSome = true :=
  ((runtime_latch_invariant _ _ _).2.1 (by decide +kernel)).1 (by decide +kernel)

end ReactorOS
