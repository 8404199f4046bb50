import ReactorOS.Discipline.Parts
import ReactorOS.Operator
namespace ReactorOS
open Concurrency Journal Protocol
variable {safety : SafetyConfig} {me : TaskId} {p : Progress}

-- How a request that clears a latch ends: with the latch cleared by it, or with an
-- error and no latch cleared.
def Cleared (latch : Latch) (r : Except AppError Unit) (q : Progress) : Prop :=
  (r = .ok () ∧ q.cleared = [latch]) ∨ ∃ error, r = .error error ∧ q.cleared = []

theorem cleared_error {latch : Latch} {error : AppError} {q : Progress} (unset : q.cleared = []) :
    Cleared latch (.error error) q := .inr ⟨error,rfl,unset⟩

theorem still_ensureManualUnlockInterlockClear {may : Event → Bool} {runtime : RuntimeState} :
    Still safety p (ensureManualUnlockInterlockClear safety runtime : Handler may me AppError Unit) := by
  have checks : (do
      ensureNoUnfinishedBatchRecoveryForReset runtime "manual lock unlock"
      ensure fun now => ensureProvenHealthyDeviceStatus safety now runtime "manual lock unlock"
      ensure fun now => ensureFreshSample safety now runtime : Critical may me AppError Unit).Silent :=
    Section.silent_bind silent_ensureNoUnfinishedBatchRecoveryForReset fun _ =>
      Section.silent_bind silent_ensure fun _ => silent_ensure
  apply still_silent
  cases runtime.emergencyStop <;> cases runtime.lastControlError
  · exact checks
  · exact Section.silent_bind (Section.silent_throw _) fun _ => checks
  · exact Section.silent_bind (Section.silent_throw _) fun _ => checks
  · exact Section.silent_bind (Section.silent_throw _) fun _ => Section.silent_bind (Section.silent_throw _) fun _ => checks

theorem releaseManualLock_follows {actor : AuditActor} (calm : p.Undisturbed) (fresh : p.unlocking = none)
    (unset : p.cleared = []) :
    (rules safety).follows (releaseManualLock safety actor : Handler (Event.resetting .manualLock) me AppError Unit) p
      (Cleared .manualLock) := by
  have acknowledge : (rules safety).follows (locked (do
      change .autoDisabled
      let runtime ← runtimeState
      note (.unlockAcknowledged (.fromRuntime runtime))
      return runtime) : Handler (Event.resetting .manualLock) me AppError RuntimeState) p fun r q =>
        ∃ runtime, r = .ok runtime ∧ q = {p with unlocking := some (.fromRuntime runtime)} := by
    refine follows_section fun e w => leads_emit (leads_look (leads_emit (leads_pure ?_)))
    exact ⟨.plain ⟨⟨trivial,trivial⟩,rfl,fresh⟩ (by simp [Event.ordinary]) calm,_,rfl,rfl⟩
  refine follows_seq acknowledge ?_ fun _ _ refused => by obtain ⟨_,absurd,_⟩ := refused; cases absurd
  rintro runtime q ⟨_,⟨⟩,rfl⟩
  refine follows_still still_ensureManualUnlockInterlockClear (fun _ => ?_) fun _ => cleared_error unset
  refine follows_still (still_silent silent_runtimeState) (fun interlockRuntime => ?_) fun _ => cleared_error unset
  refine follows_still still_ensureManualUnlockInterlockClear (fun _ => ?_) fun _ => cleared_error unset
  refine follows_still (still_orInternal still_within_quiet) (fun _ => ?_) fun _ => cleared_error unset
  let rechecked := {p with unlocking := some (.fromRuntime runtime),rechecked := true}
  have recheck : (rules safety).follows (locked (do
      let current ← runtimeState
      if (SafetyLatchGenerations.fromRuntime runtime).changedSince current then return true
      note .latchesRechecked
      return false) : Handler (Event.resetting .manualLock) me AppError Bool) {p with unlocking := some (.fromRuntime runtime)}
        fun r q => ∃ refused, r = .ok refused ∧
          q = if refused then {p with unlocking := some (.fromRuntime runtime)} else rechecked := by
    refine follows_section fun e w => leads_look ?_
    split
    · exact leads_pure ⟨permitted_nil,true,rfl,rfl⟩
    · rename_i unchanged
      refine leads_emit (leads_pure ⟨.unintrusive ⟨trivial,_,rfl,?_⟩ (by simp [Event.ordinary]) (by simp [Event.intrusive]),false,rfl,rfl⟩)
      simpa using unchanged
  refine follows_seq recheck ?_ fun _ _ refused => by obtain ⟨_,absurd,_⟩ := refused; cases absurd
  rintro refused q ⟨_,⟨⟩,rfl⟩
  cases refused with
  | true =>
      refine follows_still (still_orInternal still_within_quiet) (fun _ => ?_) fun _ => cleared_error unset
      have disable : Still safety {p with unlocking := some (.fromRuntime runtime)}
          (locked (change .autoDisabled) : Handler (Event.resetting .manualLock) me AppError Unit) :=
        follows_section fun _ _ => leads_emitted ⟨.plain ⟨trivial,trivial⟩ (by simp [Event.ordinary]) calm,rfl⟩
      exact follows_still disable (fun _ => follows_done (cleared_error unset)) fun _ => cleared_error unset
  | false =>
      refine follows_section fun _ _ => leads_emitted ⟨⟨⟨trivial,rfl⟩,?_,by simp,fun _ => .inl calm⟩,.inl ⟨rfl,?_⟩⟩
      · intro latch member other
        simp at member
        exact absurd member other
      · simp [rules,Progress.after,rechecked,unset]

theorem noActiveBatch {runtime : RuntimeState} {action : String}
    (idle : ensureNoActiveBatchForReset runtime action = .ok ()) : runtime.activeBatchId = none := by
  unfold ensureNoActiveBatchForReset at idle
  cases active : runtime.activeBatchId with
  | none => rfl
  | some batch => simp [active] at idle

-- The acknowledgement of a latch that is engaged.
theorem acknowledgeReset {latch : Latch} {now : Instant} {plant : Plant} (fresh : p.resetting = none)
    (engaged : plant.runtime.latched latch = true)
    (running : latch = .controlFault → plant.runtime.controlLoopTerminated = false) (calm : p.Undisturbed) :
    Permitted safety now plant p [.note (.resetAcknowledged latch (plant.runtime.generation latch)),.runtime .autoDisabled] := by
  refine .plain ⟨⟨trivial,trivial⟩,fresh,?_,?_,running⟩ (by simp [Event.ordinary]) calm
  · cases latch <;> rfl
  · cases latch <;> exact engaged

-- The section that clears a latch: what it has checked holds where it clears.
theorem clearLatch {latch : Latch} {plant : Plant} {now : Instant} (other : latch ≠ .manualLock)
    (acknowledged : p.resetting = some (latch,plant.runtime.generation latch))
    (idle : plant.runtime.activeBatchId = none) (recent : ensureFreshSample safety now plant.runtime = .ok ())
    (calm : p.Undisturbed) (disabled : new = [] ∨ new = [Event.runtime .autoDisabled]) :
    Permitted safety now plant p (.runtime (.cleared latch) :: .note (.resetChecked latch now) :: new) := by
  refine ⟨?_,?_,?_,fun _ => .inl ?_⟩
  · rcases disabled with rfl | rfl
    · cases latch <;> first | exact absurd rfl other | exact ⟨⟨trivial,trivial⟩,acknowledged⟩
    · cases latch <;> first | exact absurd rfl other | exact ⟨⟨⟨trivial,trivial⟩,trivial⟩,acknowledged⟩
  · intro cleared member _
    have same : cleared = latch := by rcases disabled with rfl | rfl <;> simpa using member
    subst same
    rcases disabled with rfl | rfl
    · exact ⟨idle,recent,.inl rfl⟩
    · exact ⟨idle,recent,.inr rfl⟩
  · rcases disabled with rfl | rfl <;> simp
  · rcases disabled with rfl | rfl <;> exact calm

theorem resetControlFault_follows {actor : AuditActor} (calm : p.Undisturbed) (fresh : p.resetting = none)
    (unset : p.cleared = []) :
    (rules safety).follows (resetControlFault safety actor : Handler (Event.resetting .controlFault) me AppError Unit) p
      (Cleared .controlFault) := by
  unfold resetControlFault
  refine follows_seq (R := fun r q => q.cleared = [] ∧ ∀ error generation, r = .ok (error,generation) →
    q = {p with resetting := some (.controlFault,generation)}) ?_ ?_ fun _ _ kept => cleared_error kept.1
  · refine follows_section fun e w => leads_look ?_
    simp only [own_nil,extend_nil]
    have disabled : Permitted safety e.now w.state p [.runtime .autoDisabled] :=
      .plain ⟨trivial,trivial⟩ (by simp [Event.ordinary]) calm
    cases engaged : w.state.runtime.lastControlError with
    | none => exact leads_throw ⟨permitted_nil,unset,by simp⟩
    | some error =>
        refine leads_ite (fun _ => leads_throws ⟨permitted_nil,unset,by simp⟩) fun terminated => ?_
        · refine leads_emit (leads_check (Section.silent_ofExcept _) (fun _ _ => ?_) fun _ => ⟨disabled,unset,by simp⟩)
          refine leads_check silent_ensureNoUnfinishedBatchRecoveryForReset (fun _ _ => ?_) fun _ => ⟨disabled,unset,by simp⟩
          refine leads_check silent_ensure (fun _ _ => ?_) fun _ => ⟨disabled,unset,by simp⟩
          refine leads_check silent_ensure (fun _ _ => ?_) fun _ => ⟨disabled,unset,by simp⟩
          refine leads_emit (leads_pure ⟨acknowledgeReset fresh ?_ (fun _ => by simpa using terminated) calm,unset,?_⟩)
          · simp [RuntimeState.latched,engaged]
          · rintro _ _ ⟨⟩
            rfl
  · rintro ⟨error,generation⟩ q ⟨_,same⟩
    cases same error generation rfl
    refine follows_still (still_orInternal still_within_quiet) (fun _ => ?_) fun _ => cleared_error unset
    refine follows_section fun e w => leads_emit (leads_look ?_)
    have disabled : Permitted safety e.now w.state {p with resetting := some (.controlFault,generation)}
        [.runtime .autoDisabled] := .plain ⟨trivial,trivial⟩ (by simp [Event.ordinary]) calm
    refine leads_check (Section.silent_ofExcept _) (fun _ idle => ?_) fun _ => ⟨disabled,cleared_error unset⟩
    refine leads_check silent_ensureNoUnfinishedBatchRecoveryForReset (fun _ _ => ?_) fun _ => ⟨disabled,cleared_error unset⟩
    refine leads_check silent_ensure (fun _ recent => ?_) fun _ => ⟨disabled,cleared_error unset⟩
    refine leads_check silent_ensure (fun _ _ => ?_) fun _ => ⟨disabled,cleared_error unset⟩
    split
    · exact leads_throws ⟨disabled,cleared_error unset⟩
    · rename_i unchanged
      simp only [ne_eq,not_or,not_not] at unchanged
      have same : generation = w.state.runtime.controlFaultGeneration := unchanged.1.symm
      refine leads_look (leads_emit (leads_emitted ⟨clearLatch (by simp) ?_ (noActiveBatch idle) recent calm (.inr rfl),.inl ⟨rfl,?_⟩⟩))
      · rw [same]; rfl
      · simp [rules,Progress.after,Progress.afterNote,unset]

theorem resetEmergencyStop_follows {actor : AuditActor} (calm : p.Undisturbed) (fresh : p.resetting = none)
    (unset : p.cleared = []) :
    (rules safety).follows (resetEmergencyStop safety actor : Handler (Event.resetting .emergencyStop) me AppError Unit) p
      (Cleared .emergencyStop) := by
  unfold resetEmergencyStop
  refine follows_seq (R := fun r q => q.cleared = [] ∧ ∀ runtime, r = .ok runtime →
    q = {p with resetting := some (.emergencyStop,runtime.emergencyStopGeneration)}) ?_ ?_ fun _ _ kept => cleared_error kept.1
  · refine follows_section fun e w => leads_look ?_
    split
    · exact leads_throws ⟨permitted_nil,unset,by simp⟩
    · rename_i engaged
      refine leads_emit (leads_emit (leads_silent silent_runtimeState
        ⟨acknowledgeReset fresh (by simpa [RuntimeState.latched] using engaged) (by simp) calm,unset,?_⟩))
      rintro _ ⟨⟩
      rfl
  · rintro runtime q ⟨_,same⟩
    cases same runtime rfl
    refine follows_still (still_silent ?_) (fun _ => ?_) fun _ => cleared_error unset
    · exact Section.silent_bind (Section.silent_ofExcept _) fun _ =>
        Section.silent_bind silent_ensureNoUnfinishedBatchRecoveryForReset fun _ =>
          Section.silent_bind silent_ensure fun _ => silent_ensure
    refine follows_still (still_orInternal still_within_quiet) (fun _ => ?_) fun _ => cleared_error unset
    refine follows_section fun e w => leads_look ?_
    have disabled : Permitted safety e.now w.state {p with resetting := some (.emergencyStop,runtime.emergencyStopGeneration)}
        [.runtime .autoDisabled] := .plain ⟨trivial,trivial⟩ (by simp [Event.ordinary]) calm
    dsimp only
    split
    · exact leads_emit (leads_throws ⟨disabled,cleared_error unset⟩)
    split
    · exact leads_emit (leads_throws ⟨disabled,cleared_error unset⟩)
    rename_i unchanged
    have same : runtime.emergencyStopGeneration = w.state.runtime.emergencyStopGeneration := (not_not.mp unchanged).symm
    refine leads_check (Section.silent_ofExcept _) (fun _ idle => ?_) fun _ => ⟨permitted_nil,cleared_error unset⟩
    refine leads_check silent_ensureNoUnfinishedBatchRecoveryForReset (fun _ _ => ?_) fun _ => ⟨permitted_nil,cleared_error unset⟩
    refine leads_check silent_ensure (fun _ recent => ?_) fun _ => ⟨permitted_nil,cleared_error unset⟩
    refine leads_check (Section.silent_attempt silent_ensure) (fun healthy _ => ?_) fun _ => ⟨permitted_nil,cleared_error unset⟩
    cases healthy with
    | error refused => exact leads_emit (leads_throw ⟨disabled,cleared_error unset⟩)
    | ok _ =>
        refine leads_look (leads_emit (leads_emitted ⟨clearLatch (by simp) ?_ (noActiveBatch idle) recent calm (.inl rfl),.inl ⟨rfl,?_⟩⟩))
        · rw [same]; rfl
        · simp [rules,Progress.after,Progress.afterNote,unset]

end ReactorOS
