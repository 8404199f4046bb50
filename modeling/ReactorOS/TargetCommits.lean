import ReactorOS.Backends
import ReactorOS.DeviceEffects
import ReactorOS.TargetLimits
namespace ReactorOS
open Concurrency Journal Task Section
variable {safety : SafetyConfig} {may : Event → Bool} {me : TaskId} {ε α β : Type}
  {P : ControlTargets → ControlTargets → Prop}

def Untargeted (event : Event) : Prop := ∀ targets, event ≠ .runtime (.targetsSet targets)

instance : Narrow Untargeted where
  plain event plain _ targets same := by
    subst same
    cases plain

-- A step that sets the targets otherwise than `P` allows over those that it found.
def Breaks (me : TaskId) (P : ControlTargets → ControlTargets → Prop) (moment : Moment Env World) : Prop :=
  ∃ targets, (me,.runtime (.targetsSet targets)) ∈ moment.recorded ∧ ¬P moment.before.state.runtime.targets targets

instance (me : TaskId) (P : ControlTargets → ControlTargets → Prop) : Shows me (Breaks me P) where
  tame := Untargeted
  narrow := inferInstance
  shown moment breaks := by
    obtain ⟨targets,listed,_⟩ := breaks
    exact ⟨_,listed,fun untargeted => untargeted targets rfl⟩

theorem targets_untargeted {w : World} {new : List (TaskId × Event)} (untargeted : ∀ entry ∈ new, Untargeted entry.2) :
    (w.extend new).state.runtime.targets = w.state.runtime.targets := by
  induction new with
  | nil => rfl
  | cons entry new ih =>
      obtain ⟨i,event⟩ := entry
      have before := ih fun entry member => untargeted entry (List.mem_cons_of_mem _ member)
      have here := untargeted (i,event) List.mem_cons_self
      rw [extend_cons,emit_state,← before]
      cases event with
      | commanded writer command delivered => rfl
      | store write => rfl
      | note note => rfl
      | runtime change =>
          cases change with
          | targetsSet targets => exact absurd rfl (here targets)
          | engaged latch reason => cases latch <;> rfl
          | cleared latch => cases latch <;> rfl
          | _ => rfl

-- A section whose target sets go by the targets that stood when it began.
def Replaces (me : TaskId) (P : ControlTargets → ControlTargets → Prop) (s : Critical may me ε α) : Prop :=
  ∀ e w, ∃ new, (s.run e w).2 = w.extend new ∧
    ∀ targets, (me,.runtime (.targetsSet targets)) ∈ new → P w.state.runtime.targets targets

theorem replaces_after {s : Critical may me ε α} {k : α → Critical may me ε β} (first : s.Keeps (Records Untargeted me))
    (rest : ∀ value, Replaces me P (k value)) : Replaces me P (s >>= k) := by
  intro e w
  obtain ⟨new,own,same⟩ := first e w
  have untargeted : ∀ entry ∈ new, Untargeted entry.2 := fun entry member => (own entry member).2
  rw [run_bind]
  rcases ran : s.run e w with ⟨result,after⟩
  rw [ran] at same
  simp only at same
  subst same
  cases result with
  | error err =>
      refine ⟨new,rfl,?_⟩
      intro targets listed
      exact absurd rfl (untargeted _ listed targets)
  | ok value =>
      obtain ⟨later,moved,allowed⟩ := rest value e (w.extend new)
      refine ⟨later ++ new,?_,?_⟩
      · rw [chain_ok,moved,extend_append]
      · intro targets listed
        rw [targets_untargeted untargeted] at allowed
        rcases List.mem_append.mp listed with now | before
        · exact allowed targets now
        · exact absurd rfl (untargeted _ before targets)

theorem replaces_before {s : Critical may me ε α} {k : α → Critical may me ε β} (first : Replaces me P s)
    (rest : ∀ value, (k value).Keeps (Records Untargeted me)) : Replaces me P (s >>= k) := by
  intro e w
  obtain ⟨new,same,allowed⟩ := first e w
  rw [run_bind]
  rcases ran : s.run e w with ⟨result,after⟩
  rw [ran] at same
  simp only at same
  subst same
  cases result with
  | error err => exact ⟨new,rfl,allowed⟩
  | ok value =>
      obtain ⟨later,own,moved⟩ := rest value e (w.extend new)
      refine ⟨later ++ new,?_,?_⟩
      · rw [chain_ok,moved,extend_append]
      · intro targets listed
        rcases List.mem_append.mp listed with now | before
        · exact absurd rfl ((own _ now).2 targets)
        · exact allowed targets before

theorem clean_replaces {s : Critical may me ε α} (replaces : Replaces me P s) : (locked s).Clean (Breaks me P) := by
  apply clean_each
  apply each_section
  intro e w breaks
  obtain ⟨targets,listed,wrong⟩ := breaks
  obtain ⟨new,same,allowed⟩ := replaces e w
  rw [same,Moment.recorded_extend] at listed
  exact wrong (allowed targets listed)

-- The commit looks at the targets in the section in which it sets them.
theorem replaces_expected {expected targets : ControlTargets} {action : String} (allowed : P expected targets) :
    Replaces me P (do
      ensureExpectedCurrent (some expected) action
      change (.targetsSet targets) : Critical Event.work me AppError Unit) := by
  intro e w
  by_cases stale : w.state.runtime.targets = expected
  · refine ⟨[(me,.runtime (.targetsSet targets))],?_,?_⟩
    · simp [ensureExpectedCurrent,stale]
    · intro given listed
      cases List.mem_singleton.mp listed
      rw [stale]
      exact allowed
  · refine ⟨[(me,.runtime .autoDisabled)],?_,?_⟩
    · simp [ensureExpectedCurrent,stale]
    · intro given listed
      cases List.mem_singleton.mp listed

theorem replaces_committing {path : CommitPath} {latches : Option SafetyLatchGenerations}
    {commit : Critical Event.work me AppError Unit} (replaces : Replaces me P commit) :
    Replaces me P (committing path latches commit) := by
  have attempted : Replaces me P (commit.attempt : Critical Event.work me AppError (Except AppError Unit)) := replaces
  exact replaces_before attempted fun outcome => keeps_bind (keeps_note rfl) fun _ => keeps_silent (silent_ofExcept _)

theorem clean_commitTargets_expected {expected targets : ControlTargets} {mode : TargetUpdateInterlockMode}
    {latches : Option SafetyLatchGenerations} (allowed : P expected targets) :
    (commitTargetsAfterFinalInterlock safety targets mode (some expected) latches : Handler Event.work me AppError Unit).Clean
      (Breaks me P) := by
  refine clean_bind (clean_locked (keeps_silent silent_unfinishedBatches)) fun unfinished => ?_
  refine clean_replaces (replaces_committing ?_)
  refine replaces_after (keeps_silent silent_runtimeState) fun runtime => ?_
  refine replaces_after (keeps_silent silent_ensure) fun _ => replaces_after keeps_ensureSafetyLatchesUnchanged fun _ => ?_
  exact replaces_after (keeps_silent (silent_ofExcept _)) fun _ => replaces_expected allowed

theorem clean_commitComponentTargets_expected {expected : ControlTargets} {targets : SafeCommand}
    {latches : Option SafetyLatchGenerations} (allowed : P expected targets.targets) :
    (commitComponentTargetsAfterFinalInterlock safety targets true (some expected) latches :
      Handler Event.work me AppError Unit).Clean (Breaks me P) := by
  refine clean_bind (clean_locked (keeps_silent silent_unfinishedBatches)) fun unfinished => ?_
  refine clean_replaces (replaces_committing ?_)
  refine replaces_after (keeps_silent silent_runtimeState) fun runtime => ?_
  refine replaces_after (keeps_silent silent_ensure) fun _ => replaces_after keeps_ensureSafetyLatchesUnchanged fun _ => ?_
  exact replaces_after (keeps_silent (silent_ofExcept _)) fun _ => replaces_expected allowed

end ReactorOS
