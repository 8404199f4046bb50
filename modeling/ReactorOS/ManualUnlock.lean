import ReactorOS.LatchReset
namespace ReactorOS
open Concurrency Journal Protocol
variable {site : Site} {history newer older : List (TaskId × Event)} {i u : TaskId} {event : Event}

def unlockAcknowledged (u : TaskId) (history : List (TaskId × Event)) : Bool :=
  history.any fun entry => entry.1 = u && entry.2 matches .note (.unlockAcknowledged _)

-- Where a latch engages after the unlock has made its last check, the unlock has
-- already taken effect.
def UnlockUninterrupted (u : TaskId) : List (TaskId × Event) → Prop :=
  Always fun older _ event => event.engaging = true → (u,.note .latchesRechecked) ∈ older →
    (u,.runtime (.cleared .manualLock)) ∈ older

instance : Decidable (UnlockUninterrupted u history) := Always.decide history

-- Where a latch engages between the snapshot of an unlock and its clear, the unlock is
-- refused: it never clears, it never succeeds, and a lock that is on stays on.
def UnlockKeepsLatches (site : Site) (jobs : TaskId → Job) (schedule : List (TaskId × Env)) (u : TaskId) : Prop :=
  Always (fun older i event => event.engaging = true → unlockAcknowledged u older = true →
    (u,.runtime (.cleared .manualLock)) ∉ older →
      (u,.runtime (.cleared .manualLock)) ∉ (site.after jobs schedule).history ∧
      (((site.daemon jobs).run schedule).tasks u).succeeded = false ∧
      ((replay site.startUp ((i,event) :: older)).runtime.manualLock = true →
        (site.after jobs schedule).state.runtime.manualLock = true)) (site.after jobs schedule).history

instance {jobs : TaskId → Job} {schedule : List (TaskId × Env)} :
    Decidable (UnlockKeepsLatches site jobs schedule u) := Always.decide _

theorem rechecked_mem (safety : SafetyConfig) (u : TaskId) (history : List (TaskId × Event)) :
    ((rules safety).progress u history).rechecked = true ↔ (u,.note .latchesRechecked) ∈ history := by
  have ever := progress_ever (rules safety) (fun p : Progress => p.rechecked = true)
    (fun event : Event => event = .note .latchesRechecked) (by simp [rules]) (fun event p => by
      change (Progress.after event p).rechecked = true ↔ _
      rw [Progress.rechecked_after]
      split
      · simp
      · rename_i other
        exact ⟨.inr,fun either => either.elim (fun same => absurd same other) id⟩) u history
  rw [ever]
  simp

theorem unlocking_mem (safety : SafetyConfig) (u : TaskId) (history : List (TaskId × Event)) :
    ((rules safety).progress u history).unlocking.isSome = true ↔ unlockAcknowledged u history = true := by
  have ever := progress_ever (rules safety) (fun p : Progress => p.unlocking.isSome = true)
    (fun event : Event => (event matches .note (.unlockAcknowledged _)) = true) (by simp [rules]) (fun event p => by
      change (Progress.after event p).unlocking.isSome = true ↔ _
      rw [Progress.unlocking_after]
      split
      · simp
      · simp) u history
  rw [ever]
  simp [unlockAcknowledged]

-- What an unlock holds for the generations was the truth when it looked.
theorem unlocking_bound (history : List (TaskId × Event)) (holds : site.Allowed history)
    {latches : SafetyLatchGenerations} (acknowledged : ((rules site.safety).progress u history).unlocking = some latches)
    (latch : Latch) : (latches.generation latch).val ≤ ((replay site.startUp history).runtime.generation latch).val := by
  induction history with
  | nil => simp [progress,rules] at acknowledged
  | cons entry history ih =>
      obtain ⟨i,event⟩ := entry
      have grown := generation_le site.startUp [(i,event)] history latch
      by_cases mine : i = u
      · subst mine
        have moved := Progress.unlocking_after event ((rules site.safety).progress i history)
        rw [progress_own] at acknowledged
        change (Progress.after event _).unlocking = _ at acknowledged
        rw [acknowledged] at moved
        split at moved
        · obtain ⟨current,_⟩ := holds.2
          rw [Option.some.inj moved,current,fromRuntime_generation]
          exact grown
        · exact (ih holds.1 moved.symm).trans grown
      · rw [progress_other _ mine] at acknowledged
        exact (ih holds.1 acknowledged).trans grown

-- An unlock whose snapshot is out of date stays so: it will not pass its last check.
theorem outdated_kept {latches : SafetyLatchGenerations} {latch : Latch}
    (holds : site.Allowed (newer ++ older))
    (acknowledged : ((rules site.safety).progress u older).unlocking = some latches)
    (waiting : ((rules site.safety).progress u older).rechecked = false)
    (outdated : (latches.generation latch).val < ((replay site.startUp older).runtime.generation latch).val) :
    ((rules site.safety).progress u (newer ++ older)).unlocking = some latches ∧
      ((rules site.safety).progress u (newer ++ older)).rechecked = false := by
  induction newer with
  | nil => exact ⟨acknowledged,waiting⟩
  | cons entry newer ih =>
      obtain ⟨i,event⟩ := entry
      rw [List.cons_append] at holds
      obtain ⟨before,permitted⟩ := holds
      obtain ⟨same,still⟩ := ih before
      by_cases mine : i = u
      · subst mine
        have grown := generation_le site.startUp newer older latch
        have unlocking := Progress.unlocking_after event ((rules site.safety).progress i (newer ++ older))
        have rechecked := Progress.rechecked_after event ((rules site.safety).progress i (newer ++ older))
        rw [List.cons_append,progress_own]
        change (Progress.after event _).unlocking = _ ∧ (Progress.after event _).rechecked = _
        rw [unlocking,rechecked]
        constructor
        · split
          · obtain ⟨_,unset⟩ := permitted
            rw [same] at unset
            cases unset
          · exact same
        · split
          · obtain ⟨seen,known,unchanged⟩ := permitted
            rw [same] at known
            have equal := unchanged_generation unchanged latch
            rw [←Option.some.inj known] at equal
            rw [equal] at grown
            omega
          · exact still
      · rw [List.cons_append,progress_other _ mine]
        exact ⟨same,still⟩

-- Only an unlock that has passed its last check clears the lock.
theorem cleared_rechecked (holds : site.Allowed history)
    (cleared : (u,.runtime (.cleared .manualLock)) ∈ history) :
    ((rules site.safety).progress u history).rechecked = true := by
  obtain ⟨newer,older,rfl⟩ := List.append_of_mem cleared
  have passed : ((rules site.safety).progress u older).rechecked = true := holds.event
  rw [rechecked_mem] at passed ⊢
  simp [passed]

theorem releases_lock {job : Job} (may : job.may (.runtime (.cleared .manualLock)) = true) :
    ∃ actor, job = .releaseManualLock actor := by
  cases job with
  | releaseManualLock actor => exact ⟨actor,rfl⟩
  | _ => cases may

theorem manual_unlock_keeps_latches {jobs : TaskId → Job} {schedule : List (TaskId × Env)} {actor : AuditActor}
    (unlocks : jobs u = .releaseManualLock actor) (alone : ∀ i actor, jobs i = .releaseManualLock actor → i = u)
    (counting : site.Counting jobs schedule) (uninterrupted : UnlockUninterrupted u (site.after jobs schedule).history) :
    UnlockKeepsLatches site jobs schedule u := by
  apply always_of
  intro newer i event older split engaging acknowledged pending
  have holds := site.after_allowed jobs schedule
  rw [split] at holds
  obtain ⟨latch,engaged⟩ := engaging_latch engaging
  -- The last check is still to come, and the snapshot is out of date from here on.
  have waiting : ((rules site.safety).progress u older).rechecked = false := by
    rw [←Bool.not_eq_true,rechecked_mem]
    intro checked
    rw [UnlockUninterrupted,split] at uninterrupted
    exact pending (uninterrupted.event engaging checked)
  have known := (unlocking_mem site.safety u older).mpr acknowledged
  obtain ⟨latches,snapshot⟩ := Option.isSome_iff_exists.mp known
  have bound := unlocking_bound older holds.older.1 snapshot latch
  have room := counting.room split latch
  have raised := generation_lt [] engaged room
  rw [List.nil_append] at raised
  have here : ((rules site.safety).progress u ((i,event) :: older)).unlocking = some latches ∧
      ((rules site.safety).progress u ((i,event) :: older)).rechecked = false := by
    by_cases mine : i = u
    · subst mine
      have unlocking := Progress.unlocking_after event ((rules site.safety).progress i older)
      have rechecked := Progress.rechecked_after event ((rules site.safety).progress i older)
      rw [progress_own]
      change (Progress.after event _).unlocking = _ ∧ (Progress.after event _).rechecked = _
      rw [unlocking,rechecked]
      cases event with
      | runtime change => exact ⟨snapshot,waiting⟩
      | store write => cases engaged
      | commanded writer command delivered => cases engaged
      | note note => cases engaged
    · rw [progress_other _ mine]
      exact ⟨snapshot,waiting⟩
  have final := (outdated_kept holds here.1 here.2 (Nat.lt_of_le_of_lt bound raised)).2
  rw [←split] at final holds
  have unclear : (u,.runtime (.cleared .manualLock)) ∉ (site.after jobs schedule).history := by
    intro cleared
    rw [cleared_rechecked holds cleared] at final
    cases final
  refine ⟨unclear,?_,?_⟩
  · rw [←Bool.not_eq_true]
    intro succeeded
    have outcome := Site.after_result (Task.of_succeeded succeeded)
    rw [unlocks] at outcome
    rcases outcome with ⟨_,cleared⟩ | ⟨error,absurd,_⟩
    · exact unclear ((mem_cleared site.safety u .manualLock _).mp (by rw [cleared]; simp))
    · cases absurd
  · intro locked
    rw [Site.after_consistent,split]
    apply latched_kept newer (show (replay site.startUp _).runtime.latched .manualLock = true from locked)
    intro entry member
    obtain ⟨j,other⟩ := entry
    have recorded : (j,other) ∈ (site.after jobs schedule).history := by rw [split]; simp [member]
    by_contra clears
    have same : other = .runtime (.cleared .manualLock) := by
      cases other with
      | runtime change => simpa [Event.clears] using clears
      | _ => simp [Event.clears] at clears
    subst same
    obtain ⟨by_whom,releases⟩ := releases_lock (Site.after_may recorded)
    have own := alone j by_whom releases
    subst own
    exact unclear recorded

def unlockRace : TaskId → Job
  | 0 => .controlLoop .simulation 1
  | 2 => .releaseManualLock .system
  | _ => .engageManualLock .system

-- The lock engages again just before the last check of the unlock.
theorem manual_unlock_keeps_latches_race :
    UnlockKeepsLatches .shipped unlockRace (healthy [0,0,0,0,0,0,0,1,2,2,2,2,2,3,2,2,2]) 2 := by
  have alone : ∀ i actor, unlockRace i = .releaseManualLock actor → i = 2 := by
    intro i actor releases
    unfold unlockRace at releases
    split at releases
    · cases releases
    · rfl
    · cases releases
  have counting : Site.shipped.Counting unlockRace (healthy [0,0,0,0,0,0,0,1,2,2,2,2,2,3,2,2,2]) := by
    intro latch
    cases latch <;> decide +kernel
  exact manual_unlock_keeps_latches rfl alone counting (by decide +kernel)

-- The lock engages again just after it, and the unlock clears it all the same.
theorem manual_unlock_loses_latch :
    ¬UnlockKeepsLatches .shipped unlockRace (healthy [0,0,0,0,0,0,0,1,2,2,2,2,2,2,3,2]) 2 := by decide +kernel

end ReactorOS
