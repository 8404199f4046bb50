import ReactorOS.Discipline.Production
import ReactorOS.Operator
namespace ReactorOS
open Concurrency Journal Protocol
variable {safety : SafetyConfig} {me : TaskId} {α : Type} {p : Progress}

theorem still_failBatchFinish {wasActive : Bool} {action cause : String} {err : AppError} :
    Still safety p (within (failBatchFinish wasActive action cause err) : Handler Event.work me AppError α) :=
  still_within_quiet

theorem still_closeFinishedBatch {actor : AuditActor} {batchId : Int} {batch : Batch} {targets : Option ControlTargets}
    (calm : p.Undisturbed) :
    Still safety p (closeFinishedBatch actor batchId batch targets : Handler Event.work me AppError Unit) := by
  refine still_bind ?_ fun _ => still_bind (still_catching still_within_quiet fun _ => still_failBatchFinish) fun _ =>
    still_clearStoppedBatch calm
  have closed : ∀ finishedBatch : Batch, Still safety p (if finishedBatch.finishedAt.isNone then
      within (failBatchFinish targets.isSome "batch finish state commit"
        "batch finish update did not mark the batch finished"
        (.conflict "batch finish update did not mark the batch finished"))
      else return () : Handler Event.work me AppError Unit) := by
    intro finishedBatch
    split
    · exact still_failBatchFinish
    · exact still_done
  unfold closeFinishedRecord
  split
  · refine still_bind (still_catching still_within_quiet fun _ => still_failBatchFinish) fun _ => ?_
    refine still_bind (still_orInternal (still_silent silent_query)) fun finished => ?_
    cases finished with
    | none => exact still_failBatchFinish
    | some finishedBatch => exact closed finishedBatch
  · refine still_bind (still_orInternal (still_silent silent_query)) fun finished => ?_
    cases finished with
    | none => exact still_failBatchFinish
    | some finishedBatch => exact closed finishedBatch

theorem batchCanFinish_active {batchId : Int} {batch : Batch} {active : Option Int}
    (checked : ensureBatchCanFinish batchId batch active = .ok ()) : active = none ∨ active = some batchId := by
  unfold ensureBatchCanFinish at checked
  split at checked
  · cases checked
  · cases active with
    | none => exact .inl rfl
    | some other =>
        by_cases same : other = batchId
        · exact .inr (congrArg some same)
        · simp [same] at checked

theorem finishBatch_follows {batchId : Int} {actor : AuditActor} :
    (rules safety).follows (finishBatch safety batchId actor : Handler Event.work me AppError Unit) p (Returned p) := by
  have look : (rules safety).follows (locked (do
      let runtime ← runtimeState
      note (.batchSeen batchId runtime.activeBatchId)
      return runtime.activeBatchId) : Handler Event.work me AppError (Option Int)) p fun r q =>
        ∃ active, r = .ok active ∧ q = {p with looked := some (batchId,active)} :=
    follows_section fun e w => leads_look (leads_emit (leads_pure
      ⟨.unintrusive ⟨trivial,rfl⟩ (by simp [Event.ordinary]) (by simp [Event.intrusive]),_,rfl,rfl⟩))
  refine follows_seq look ?_ fun _ _ refused => by obtain ⟨_,absurd,_⟩ := refused; cases absurd
  rintro active q ⟨_,⟨⟩,rfl⟩
  have calm : active = none ∨ active = some batchId → Progress.Undisturbed {p with looked := some (batchId,active)} := by
    rintro seen _ _ ⟨⟩
    exact seen
  refine follows_still (still_orInternal (still_silent silent_query)) (fun batch => ?_) fun _ => returned_error rfl
  cases batch with
  | none =>
      dsimp only
      split
      · rename_i same
        exact follows_mono (finishMissingActiveBatchRecovery_follows (calm (.inr same))) fun _ _ carries =>
          ⟨carries.running,fun _ => carries.calm (calm (.inr same))⟩
      · exact follows_done (returned_error rfl)
  | some batch =>
      refine follows_checked (fun _ checked => ?_) fun _ => returned_error rfl
      have settled := calm (batchCanFinish_active checked)
      split
      · exact follows_mono (stopped_follows settled fun _ settled => still_closeFinishedBatch settled) fun _ _ returned =>
          Returned.since returned rfl
      · exact returned_still (still_bind (still_disableAuto settled) fun _ => still_closeFinishedBatch settled) settled

theorem startBatch_follows {payload : StartBatchRequest} {actor : AuditActor} (calm : p.Undisturbed) :
    (rules safety).follows (startBatch safety payload actor : Handler Event.work me AppError Batch) p (Returned p) := by
  unfold startBatch
  split
  · exact follows_done (returned_error rfl)
  refine follows_still (still_silent silent_readTargets) (fun current => ?_) fun _ => returned_error rfl
  refine follows_checked ?_ fun _ => returned_error rfl
  rintro ⟨processId,targets⟩ _
  refine follows_seq (acknowledge_follows calm) ?_ fun _ _ refused => by obtain ⟨_,absurd,_⟩ := refused; cases absurd
  rintro runtime q ⟨_,⟨⟩,rfl⟩
  refine follows_still (still_silent silent_ensureNoUnclosedDbBatchExcept) (fun _ => ?_) fun _ => returned_error rfl
  refine follows_still still_timed (fun _ => ?_) fun _ => returned_error rfl
  refine follows_seq (carried_createBatch calm) (fun batch q carries => ?_) fun _ _ carries => returned_error carries.running
  refine follows_mono (started_follows carries.acknowledged fun q acting => ?_) fun _ _ returned =>
    returned.since carries.running
  refine carried_bind acting.carried_audit fun _ q audited => ?_
  exact carried_bind (acting.carries audited).carried_activation fun _ _ _ => Still.carried still_done

theorem v1Control_follows {deviceId : String} {payload : V1ControlRequest} {actor : AuditActor} (calm : p.Undisturbed) :
    (rules safety).follows (v1Control safety deviceId payload actor : Handler Event.work me AppError V1ControlResponse)
      p (Returned p) := by
  unfold v1Control
  refine follows_checked (fun _ _ => ?_) fun _ => returned_error rfl
  refine follows_checked (fun autoStart _ => ?_) fun _ => returned_error rfl
  refine follows_checked (fun targets _ => ?_) fun _ => returned_error rfl
  have reply : ∀ q, Still safety q (locked (v1ControlAccepted payload targets) :
      Handler Event.work me AppError V1ControlResponse) := fun q =>
    still_silent (Section.silent_bind silent_utcNow fun _ => Section.silent_pure _)
  cases autoStart.getD false with
  | false =>
      refine follows_seq (acknowledge_follows calm) ?_ fun _ _ refused => by obtain ⟨_,absurd,_⟩ := refused; cases absurd
      rintro runtime q ⟨_,⟨⟩,rfl⟩
      refine follows_still still_timed (fun _ => ?_) fun _ => returned_error rfl
      refine follows_still (still_orInternal still_within_quiet) (fun _ => ?_) fun _ => returned_error rfl
      refine follows_still (still_commitTargets calm rfl) (fun _ => ?_) fun _ => returned_error rfl
      exact follows_mono (reply _) fun _ _ same => same ▸ ⟨rfl,fun _ => calm⟩
  | true =>
      have idle : (do
          let runtime ← runtimeState
          if runtime.activeBatchId.isSome then throw (.conflict "device is busy running an active batch")
          ensureNoUnclosedDbBatchForNewProduction runtime : Critical Event.work me AppError Unit).Silent := by
        refine Section.silent_bind silent_runtimeState fun runtime => ?_
        split
        · exact Section.silent_bind (Section.silent_throw _) fun _ => silent_ensureNoUnclosedDbBatchExcept
        · exact silent_ensureNoUnclosedDbBatchExcept
      refine follows_still (still_silent idle) (fun _ => ?_) fun _ => returned_error rfl
      refine follows_seq (acknowledge_follows calm) ?_ fun _ _ refused => by obtain ⟨_,absurd,_⟩ := refused; cases absurd
      rintro runtime q ⟨_,⟨⟩,rfl⟩
      refine follows_still still_timed (fun _ => ?_) fun _ => returned_error rfl
      refine follows_seq (carried_createBatch calm) (fun batch q carries => ?_) fun _ _ carries => returned_error carries.running
      refine follows_mono (started_follows carries.acknowledged fun q acting => ?_) fun _ _ returned =>
        returned.since carries.running
      refine carried_bind acting.carried_audit fun _ q audited => ?_
      exact carried_bind (acting.carries audited).carried_activation fun _ _ _ => Still.carried (reply _)

-- The acknowledgement together with the interlock, in one section.
theorem acknowledgeChecked_follows {mode : TargetUpdateInterlockMode} (calm : p.Undisturbed) :
    (rules safety).follows (locked (do
      let runtime ← disableAutoAndAcknowledge
      ensure fun now => ensureTargetUpdateInterlockClear safety now runtime mode
      return SafetyLatchGenerations.fromRuntime runtime) : Handler Event.work me AppError SafetyLatchGenerations) p
        fun r q => ∃ latches, q = {p with acknowledged := some latches} ∧ ∀ value, r = .ok value → value = latches := by
  refine follows_section fun e w => leads_bind (leads_emit (leads_look (leads_emit (leads_pure ?_))))
  have permitted : Permitted safety e.now w.state p [.note (.latchesAcknowledged (.fromRuntime w.state.runtime)),
      .runtime .autoDisabled] :=
    .plain ⟨⟨trivial,trivial⟩,rfl⟩ (by simp [Event.ordinary]) calm
  refine leads_check silent_ensure (fun _ _ => ?_) fun _ => ⟨permitted,_,rfl,by simp⟩
  refine leads_pure ⟨permitted,_,rfl,?_⟩
  rintro _ ⟨⟩
  rfl

theorem v1Process_follows {deviceId : String} {payload : V1ProcessRequest} {actor : AuditActor} (calm : p.Undisturbed) :
    (rules safety).follows (v1Process safety deviceId payload actor : Handler Event.work me AppError V1ProcessResponse)
      p (Returned p) := by
  unfold v1Process
  refine follows_checked (fun _ _ => ?_) fun _ => returned_error rfl
  refine follows_checked ?_ fun _ => returned_error rfl
  rintro ⟨draft,targets⟩ _
  refine follows_seq (acknowledgeChecked_follows calm) ?_ fun _ _ refused => by obtain ⟨_,rfl,_⟩ := refused; exact returned_error rfl
  rintro _ q ⟨latches,rfl,known⟩
  cases known _ rfl
  refine follows_still (still_orInternal still_within_quiet) (fun _ => ?_) fun _ => returned_error rfl
  refine follows_still (still_commitTargets calm rfl) (fun _ => ?_) fun _ => returned_error rfl
  exact follows_done (returned_ok rfl calm)

theorem setTargets_follows {payload : TargetRequest} {actor : AuditActor} (calm : p.Undisturbed) :
    (rules safety).follows (setTargets safety payload actor : Handler Event.work me AppError ControlTargets)
      p (Returned p) := by
  refine follows_still (still_silent silent_readTargets) (fun current => ?_) fun _ => returned_error rfl
  refine follows_checked (fun targets _ => ?_) fun _ => returned_error rfl
  refine follows_seq (acknowledge_follows calm) ?_ fun _ _ refused => by obtain ⟨_,absurd,_⟩ := refused; cases absurd
  rintro runtime q ⟨_,⟨⟩,rfl⟩
  refine follows_still still_timed (fun _ => ?_) fun _ => returned_error rfl
  refine follows_still (still_orInternal still_within_quiet) (fun _ => ?_) fun _ => returned_error rfl
  refine follows_still (still_commitTargets calm rfl) (fun _ => ?_) fun _ => returned_error rfl
  exact follows_done (returned_ok rfl calm)

theorem setAuto_follows {enabled : Bool} {actor : AuditActor} (calm : p.Undisturbed) :
    (rules safety).follows (setAuto safety enabled actor : Handler Event.work me AppError Unit) p (Returned p) := by
  unfold setAuto
  split
  · refine follows_seq (acknowledge_follows calm) ?_ fun _ _ refused => by obtain ⟨_,absurd,_⟩ := refused; cases absurd
    rintro runtime q ⟨_,⟨⟩,rfl⟩
    refine follows_still still_timed (fun _ => ?_) fun _ => returned_error rfl
    refine follows_still (still_silent silent_ensurePersistedBatchStateConsistent) (fun _ => ?_) fun _ => returned_error rfl
    refine follows_still (still_orInternal still_within_quiet) (fun _ => ?_) fun _ => returned_error rfl
    refine follows_mono (committing_follows (fun w new =>
      (SafetyLatchGenerations.fromRuntime runtime).changedSince w.state.runtime = false ∧
      (w.state.runtime.emergencyStop = false ∧ w.state.runtime.manualLock = false ∧
        w.state.runtime.lastControlError = none ∧ w.state.runtime.lastSensorError = none) ∧
      new = [.runtime .autoEnabled]) calm rfl ?_ ?_) fun _ _ same => same ▸ ⟨rfl,fun _ => calm⟩
    · intro e w
      refine leads_look (decided_check silent_ensure fun _ clear => ?_)
      split
      · exact leads_emit (leads_throws (.inr rfl))
      · rename_i unchanged
        refine decided_check silent_ensurePersistedBatchStateConsistent fun _ _ => ?_
        exact leads_emitted ⟨by simpa using unchanged,interlock_clear clear,rfl⟩
    · intro e w new made
      obtain ⟨unchanged,clear,rfl⟩ := made
      exact ⟨.plain ⟨⟨trivial,clear⟩,_,rfl,rfl,fun _ => ⟨unchanged,by simp⟩⟩ (by simp [Event.ordinary]) calm,rfl⟩
  · exact returned_still (still_bind (still_disableAuto calm) fun _ => still_orInternal still_within_quiet) calm

theorem emergencyStop_follows {actor : AuditActor} (calm : p.Undisturbed) :
    (rules safety).follows (emergencyStop safety actor : Handler Event.work me AppError Unit) p (Returned p) := by
  have engage : Still safety p (locked (change (.engaged .emergencyStop "")) : Handler Event.work me AppError Unit) :=
    follows_section fun _ _ => leads_emitted ⟨.plain ⟨trivial,trivial⟩ (by simp [Event.ordinary]) calm,rfl⟩
  refine follows_still engage (fun _ => ?_) fun _ => returned_error rfl
  have write : ∀ command budget, Carried safety p (writeTargetsWithin .emergencyStop command budget :
      Handler Event.work me AppError (Except Failure (Except Failure Unit))) := by
    intro command budget
    refine follows_section fun e w => leads_look (leads_emit (leads_pure ?_))
    exact ⟨.plain ⟨trivial,trivial⟩ (by simp [Event.ordinary]) calm,rfl,rfl,rfl⟩
  refine follows_seq (write _ _) (fun outcome q carries => ?_) fun _ _ carries => returned_error carries.running
  have settled := carries.calm calm
  cases outcome with
  | error err =>
      refine follows_mono (returned_still (still_bind still_within_quiet fun _ =>
        still_bind still_within_quiet fun _ => still_done) settled) fun _ _ returned => Returned.since returned carries.running
  | ok _ =>
      refine follows_mono (returned_still (still_catching still_within_quiet fun _ =>
        still_bind still_within_quiet fun _ => still_done) settled) fun _ _ returned => Returned.since returned carries.running

end ReactorOS
