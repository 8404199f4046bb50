import ReactorOS.Discipline.Commits
import ReactorOS.Lifecycle
namespace ReactorOS
open Concurrency Journal Protocol
variable {safety : SafetyConfig} {me : TaskId} {α : Type} {p : Progress}

theorem acknowledge_follows (calm : p.Undisturbed) :
    (rules safety).follows (locked disableAutoAndAcknowledge : Handler Event.work me AppError RuntimeState) p
      fun r q => ∃ runtime, r = .ok runtime ∧ q = {p with acknowledged := some (.fromRuntime runtime)} := by
  refine follows_section fun e w => leads_emit (leads_look (leads_emit (leads_pure ?_)))
  refine ⟨.plain ?_ (by simp [Event.ordinary]) calm,_,rfl,rfl⟩
  simp [Each,allowed,allowedNote,allowedChange]

theorem still_disableAuto (calm : p.Undisturbed) :
    Still safety p (locked (change .autoDisabled) : Handler Event.work me AppError Unit) :=
  follows_section fun _ _ => leads_emitted
    ⟨.plain (by simp [Each,allowed,allowedChange]) (by simp [Event.ordinary]) calm,rfl⟩

theorem carried_writeTargets {writer : Writer} {command : SafeCommand} (calm : p.Undisturbed)
    (armed : writer = .controlLoop ∨ writer = .processStart → p.armed = true) :
    Carried safety p (writeTargets writer command : Handler Event.work me Failure Unit) := by
  refine follows_section fun e w => leads_look (leads_emit (leads_silent (Section.silent_ofExcept _) ?_))
  refine ⟨.plain ?_ (by simp [Event.ordinary]) calm,rfl,rfl,rfl⟩
  cases writer <;> simp_all [Each,allowed]

theorem carried_stopProcessOnDevice {targets : ControlTargets} (calm : p.Undisturbed) :
    Carried safety p (stopProcessOnDevice targets : Handler Event.work me AppError Unit) :=
  carried_catching (carried_writeTargets calm (by simp)) fun _ _ _ =>
    Still.carried (still_bind still_within_quiet fun _ => still_done)

theorem carried_createBatch {processId : Option Int} {name : String} {temperature stirrer heating stirring : ℚ}
    (calm : p.Undisturbed) :
    Carried safety p (orInternal (createBatchForProcessSqlx processId name temperature stirrer heating stirring) :
      Handler Event.work me AppError Batch) := by
  refine Still.carried (still_orInternal (follows_section fun e w => leads_look (leads_look (leads_bind ?_))))
  have permitted : ∀ batch : Batch, batch.id = w.state.db.nextBatchId → batch.finishedAt = none →
      Permitted safety e.now w.state p [.store (.batchInserted batch)] := fun batch key running =>
    .plain ⟨trivial,key,running⟩ (by simp [Event.ordinary]) calm
  exact leads_statement (leads_pure ⟨permitted _ rfl rfl,rfl⟩) (fun _ => ⟨permitted_nil,rfl⟩)
    fun _ => ⟨permitted _ rfl rfl,rfl⟩

-- The look at the active batch that a start takes: from here it acts for its batch.
theorem startLook_follows {pending : Int} :
    (rules safety).follows (locked (do
      let runtime ← runtimeState
      note (.batchSeen pending runtime.activeBatchId)
      if runtime.activeBatchId.isSome then
        throw (.conflict "device is busy running an active process batch")
      ensureNoUnclosedDbBatchExcept runtime (some pending)
      ensure fun now => ensureTargetUpdateInterlockClear safety now runtime .processStart
      note .interlockPassed) : Handler Event.work me AppError Unit) p fun r q =>
        q.running = p.running ∧ q.acknowledged = p.acknowledged ∧
          (r = .ok () → q.looked = some (pending,none) ∧ q.armed = true) := by
  refine follows_section fun e w => leads_look (leads_emit ?_)
  have seen : Permitted safety e.now w.state p [.note (.batchSeen pending w.state.runtime.activeBatchId)] :=
    .unintrusive ⟨trivial,rfl⟩ (by simp [Event.ordinary]) (by simp [Event.intrusive])
  split
  · exact leads_throws ⟨seen,rfl,rfl,by simp⟩
  · rename_i idle
    have active : w.state.runtime.activeBatchId = none := by simpa using idle
    refine leads_check silent_ensureNoUnclosedDbBatchExcept (fun _ _ => ?_) fun _ => ⟨seen,rfl,rfl,by simp⟩
    refine leads_check silent_ensure (fun _ clear => ?_) fun _ => ⟨seen,rfl,rfl,by simp⟩
    refine leads_emitted ⟨.unintrusive ?_ (by simp [Event.ordinary]) (by simp [Event.intrusive]),rfl,rfl,fun _ => ⟨?_,rfl⟩⟩
    · have passed := interlock_clear clear
      exact ⟨⟨trivial,rfl⟩,passed.1⟩
    · exact congrArg (fun active => some (pending,active)) active

theorem startProcessOnDevice_follows {targets : ControlTargets} {pending : Int} :
    (rules safety).follows (startProcessOnDevice safety targets pending : Handler Event.work me AppError Unit) p
      fun r q => q.running = p.running ∧ q.acknowledged = p.acknowledged ∧
        (r = .ok () → q.looked = some (pending,none)) := by
  refine follows_seq startLook_follows ?_ fun _ _ refused => ⟨refused.1,refused.2.1,by simp⟩
  rintro _ q ⟨running,acknowledged,passed⟩
  obtain ⟨looked,armed⟩ := passed rfl
  have calm : q.Undisturbed := by simp [Progress.Undisturbed,looked]
  have written : Carried safety q (writeTargets .processStart
      (safeCommandFromRuntimeTargets targets "process start target write accepted by safety gate") :
        Handler Event.work me Failure Unit) := carried_writeTargets calm fun _ => armed
  refine follows_mono (carried_catching written fun _ _ _ =>
    Still.carried (still_bind still_within_quiet fun _ => still_done)) ?_
  intro r q' carries
  exact ⟨carries.running.trans running,carries.acknowledged.trans acknowledged,fun _ => carries.looked.trans looked⟩

-- With its own batch in the device or none, a rollback may go ahead.
theorem carried_rollbackFailedActivation {batchId : Int} {targets : ControlTargets} {seen : Option Int}
    (calm : p.Undisturbed) (looked : p.looked = some (batchId,seen)) :
    Carried safety p (rollbackFailedActivation safety batchId targets : Handler Event.work me AppError (Option String)) := by
  refine carried_bind (carried_attempt (carried_stopProcessOnDevice calm)) fun outcome q carries => ?_
  have settled := carries.calm calm
  have mine : ∃ seen, q.looked = some (batchId,seen) := ⟨seen,carries.looked.trans looked⟩
  cases outcome with
  | error err =>
      refine Still.carried (still_bind (follows_section fun e w => ?_) fun _ => still_done)
      refine leads_emit (leads_emit (leads_emit (leads_emitted ⟨.plain ?_ (by simp [Event.ordinary]) settled,rfl⟩)))
      exact ⟨⟨⟨⟨trivial,mine⟩,trivial⟩,trivial⟩,trivial⟩
  | ok _ =>
      refine Still.carried (still_bind (follows_section fun e w => leads_look ?_) fun _ =>
        still_bind still_within_quiet fun _ => still_done)
      dsimp only
      split
      · refine leads_emit (leads_emit (leads_emitted ⟨.plain ?_ (by simp [Event.ordinary]) settled,rfl⟩))
        exact ⟨⟨⟨trivial,trivial⟩,trivial⟩,trivial⟩
      · exact leads_emitted ⟨.plain ⟨trivial,trivial⟩ (by simp [Event.ordinary]) settled,rfl⟩

theorem carried_failAfterDeviceStart {batchId : Int} {targets : ControlTargets} {seen : Option Int}
    {action cause : String} {err : AppError} (calm : p.Undisturbed) (looked : p.looked = some (batchId,seen)) :
    Carried safety p (failAfterDeviceStart safety batchId targets action cause err : Handler Event.work me AppError α) :=
  carried_bind (carried_rollbackFailedActivation calm looked) fun _ _ _ =>
    Still.carried (still_bind still_within_quiet fun _ => still_done)

-- A start that has found no batch in the device and acts for its own.
structure Acting (batch : Int) (latches : SafetyLatchGenerations) (p : Progress) : Prop where
  looked : p.looked = some (batch,none)
  acknowledged : p.acknowledged = some latches

namespace Acting
variable {batch : Int} {latches : SafetyLatchGenerations} {q : Progress}

theorem calm (acting : Acting batch latches p) : p.Undisturbed := by
  simp [Progress.Undisturbed,acting.looked]

theorem carries (acting : Acting batch latches p) (carries : p.Carries q) : Acting batch latches q :=
  ⟨carries.looked.trans acting.looked,carries.acknowledged.trans acting.acknowledged⟩

theorem carried_audit {t : Handler Event.quiet me Failure α} {targets : ControlTargets} {action : String}
    {cause : Failure → String} {error : Failure → AppError} (acting : Acting batch latches p) :
    Carried safety p (catching (within t) fun err =>
      failAfterDeviceStart safety batch targets action (cause err) (error err) : Handler Event.work me AppError α) :=
  carried_catching carried_within_quiet fun _ _ carries =>
    carried_failAfterDeviceStart (acting.carries carries).calm (acting.carries carries).looked

theorem carried_activation {targets : ControlTargets} {autoEnabled : Bool} {action : String}
    (acting : Acting batch latches p) :
    Carried safety p (catching (commitProcessActivationAfterFinalInterlock safety batch targets autoEnabled (some latches))
      fun err => failAfterDeviceStart safety batch targets action err.message err : Handler Event.work me AppError Unit) := by
  refine carried_catching ?_ fun _ _ carries =>
    carried_failAfterDeviceStart (acting.carries carries).calm (acting.carries carries).looked
  refine follows_mono (commitProcessActivation_follows acting.calm acting.acknowledged acting.looked) ?_
  rintro _ _ ⟨_,rfl⟩
  exact ⟨rfl,rfl,rfl⟩

end Acting

theorem abandonStart_follows {batchId : Int} {targets : ControlTargets} {kind : String} {actor : AuditActor}
    {err : AppError} :
    (rules safety).follows (abandonStart batchId targets kind actor err : Handler Event.quiet me AppError α) p
      fun r q => q = p ∧ ∃ error, r = .error error :=
  follows_still still_quiet (fun _ => follows_still still_quiet (fun _ => follows_done ⟨rfl,_,rfl⟩)
    fun _ => ⟨rfl,_,rfl⟩) fun _ => ⟨rfl,_,rfl⟩

-- The middle of every start: once the device has taken the command, what follows acts
-- for the batch and may rely on the latches that were acknowledged.
theorem started_follows {targets : ControlTargets} {pending : Int} {kind : String} {actor : AuditActor}
    {latches : SafetyLatchGenerations} {k : Unit → Handler Event.work me AppError α}
    (acknowledged : p.acknowledged = some latches)
    (rest : ∀ q, Acting pending latches q → Carried safety q (k ())) :
    (rules safety).follows (catching (startProcessOnDevice safety targets pending)
      (fun err => within (abandonStart pending targets kind actor err)) >>= k) p (Returned p) := by
  have begun : (rules safety).follows (catching (startProcessOnDevice safety targets pending)
      (fun err => within (abandonStart pending targets kind actor err)) : Handler Event.work me AppError Unit) p
        fun r q => q.running = p.running ∧ (r = .ok () → Acting pending latches q) := by
    refine follows_catching startProcessOnDevice_follows ?_ ?_
    · rintro value q ⟨running,kept,looked⟩
      exact ⟨running,fun ok => ⟨looked ok,kept.trans acknowledged⟩⟩
    · rintro err q ⟨running,_,_⟩
      refine follows_mono (follows_relax Within.wider abandonStart_follows) ?_
      rintro r _ ⟨rfl,error,rfl⟩
      exact ⟨running,by simp⟩
  refine follows_seq begun ?_ fun error q refused => returned_error refused.1
  rintro _ q ⟨running,kept⟩
  refine follows_mono (rest q (kept rfl)) fun _ _ carries => ?_
  exact ⟨carries.running.trans running,fun _ => ((kept rfl).carries carries).calm⟩

theorem startProcessLifecycle_follows {processId : Int} {eventType : String} {name : Option String}
    {actor : AuditActor} (calm : p.Undisturbed) :
    (rules safety).follows (startProcessLifecycle safety processId eventType name actor :
      Handler Event.work me AppError ProcessApplyResponse) p (Returned p) := by
  unfold startProcessLifecycle
  refine follows_still still_within_quiet (fun detail => ?_) fun _ => returned_error rfl
  cases detail with
  | none => exact follows_done (returned_error rfl)
  | some detail =>
      dsimp only
      split
      · exact follows_done (returned_error rfl)
      refine follows_still still_ofExcept (fun targets => ?_) fun _ => returned_error rfl
      refine follows_seq (acknowledge_follows calm) ?_ fun _ _ refused => by obtain ⟨_,absurd,_⟩ := refused; cases absurd
      rintro _ q ⟨runtime,⟨⟩,rfl⟩
      refine follows_still still_ensureProcessCanStart (fun _ => ?_) fun _ => returned_error rfl
      refine follows_seq (carried_createBatch calm) (fun batch q carries => ?_) fun _ _ carries => returned_error carries.running
      refine follows_mono (started_follows carries.acknowledged fun q acting => ?_) fun _ _ returned =>
        returned.since carries.running
      refine carried_bind acting.carried_audit fun _ q audited => ?_
      refine carried_bind (acting.carries audited).carried_audit fun process q applied => ?_
      have acting := (acting.carries audited).carries applied
      cases process with
      | none => exact carried_failAfterDeviceStart acting.calm acting.looked
      | some process => exact carried_bind acting.carried_activation fun _ _ _ => Still.carried still_done

-- The look after a stop command: what it finds decides whether the request goes on.
theorem confirmStoppedBatch_follows {batchId : Int} {targets : ControlTargets} {what : String} :
    (rules safety).follows (locked (confirmStoppedBatch batchId targets what) : Handler Event.work me AppError Unit) p
      fun r q => q.running = p.running ∧ (r = .ok () → q.looked = some (batchId,some batchId)) := by
  refine follows_section fun e w => leads_look (leads_emit (leads_emit (leads_emit ?_)))
  split
  · refine leads_emit (leads_throw ⟨.ordinary ?_ (by simp [Event.ordinary]) fun _ => .inr ⟨_,List.mem_cons_self⟩,rfl,by simp⟩)
    exact ⟨⟨⟨⟨trivial,rfl⟩,trivial⟩,trivial⟩,trivial⟩
  · rename_i same
    have active : w.state.runtime.activeBatchId = some batchId := not_not.mp same
    refine leads_pure ⟨.plain ⟨⟨⟨trivial,rfl⟩,trivial⟩,trivial⟩ (by simp [Event.ordinary]) ?_,rfl,fun _ => ?_⟩
    · intro batch seen looked
      cases looked
      exact .inr active
    · exact congrArg (fun active => some (batchId,active)) active

theorem still_clearStoppedBatch {batchId : Int} {targets : Option ControlTargets} (calm : p.Undisturbed) :
    Still safety p (locked (clearStoppedBatch batchId targets) : Handler Event.work me AppError Unit) := by
  refine follows_section fun e w => leads_look ?_
  dsimp only
  split
  · cases targets with
    | none => exact leads_emit (leads_emit (leads_pure ⟨.plain ⟨⟨trivial,trivial⟩,trivial⟩ (by simp [Event.ordinary]) calm,rfl⟩))
    | some targets => exact leads_emit (leads_emit (leads_emitted
        ⟨.plain ⟨⟨⟨trivial,trivial⟩,trivial⟩,trivial⟩ (by simp [Event.ordinary]) calm,rfl⟩))
  · cases targets with
    | none => exact leads_emit (leads_pure ⟨.plain ⟨trivial,trivial⟩ (by simp [Event.ordinary]) calm,rfl⟩)
    | some targets => exact leads_emit (leads_emitted
        ⟨.plain ⟨⟨trivial,trivial⟩,trivial⟩ (by simp [Event.ordinary]) calm,rfl⟩)

theorem still_failAfterDeviceStop {action cause : String} {err : AppError} :
    Still safety p (within (failAfterDeviceStop action cause err) : Handler Event.work me AppError α) :=
  still_within_quiet

-- The stop command and the look that follows it.
theorem stopped_follows {batchId : Int} {targets : ControlTargets} {what : String}
    {k : Handler Event.work me AppError α} (calm : p.Undisturbed)
    (rest : ∀ q, q.Undisturbed → Still safety q k) :
    (rules safety).follows (do
      stopProcessOnDevice targets
      locked (confirmStoppedBatch batchId targets what)
      k) p (Returned p) := by
  refine follows_seq (carried_stopProcessOnDevice calm) (fun _ q carries => ?_) fun _ _ carries => returned_error carries.running
  refine follows_seq confirmStoppedBatch_follows ?_ fun _ _ refused =>
    returned_error (refused.1.trans carries.running)
  rintro _ q' ⟨running,looked⟩
  have settled : q'.Undisturbed := by simp [Progress.Undisturbed,looked rfl]
  exact follows_mono (returned_still (rest q' settled) settled) fun _ _ returned =>
    returned.since (running.trans carries.running)

theorem still_closeStoppedRecord {batchId : Int} {batch : Batch} :
    Still safety p (closeStoppedRecord batchId batch : Handler Event.work me AppError Batch) := by
  unfold closeStoppedRecord
  split
  · exact still_done
  refine still_bind (still_catching still_within_quiet fun _ => still_failAfterDeviceStop) fun _ => ?_
  refine still_bind (still_catching (still_silent silent_query) fun _ => still_failAfterDeviceStop) fun reloaded => ?_
  cases reloaded with
  | none => exact still_failAfterDeviceStop
  | some batch => exact still_done

theorem still_closeStoppedBatch {eventType : String} {reason : Option String} {actor : AuditActor} {batchId : Int}
    {targets : ControlTargets} {batch : Option Batch} (calm : p.Undisturbed) :
    Still safety p (closeStoppedBatch eventType reason actor batchId targets batch :
      Handler Event.work me AppError ProcessStopResponse) := by
  cases batch with
  | none =>
      refine still_bind (still_catching still_within_quiet fun _ => still_failAfterDeviceStop) fun _ => ?_
      exact still_bind (still_clearStoppedBatch calm) fun _ => still_done
  | some batch =>
      refine still_bind still_closeStoppedRecord fun _ => ?_
      refine still_bind (still_catching still_within_quiet fun _ => still_failAfterDeviceStop) fun _ => ?_
      exact still_bind (still_clearStoppedBatch calm) fun _ => still_done

theorem stopLook_follows :
    (rules safety).follows (locked (do
      let runtime ← runtimeState
      match runtime.activeBatchId with
      | none => throw (.conflict "no active process batch to stop")
      | some batchId =>
          note (.batchSeen batchId (some batchId))
          return batchId) : Handler Event.work me AppError Int) p fun r q => q.running = p.running ∧
            ∀ batchId, r = .ok batchId → q.looked = some (batchId,some batchId) := by
  refine follows_section fun e w => leads_look ?_
  simp only [own_nil,extend_nil]
  cases active : w.state.runtime.activeBatchId with
  | none => exact leads_throw ⟨permitted_nil,rfl,by simp⟩
  | some batchId =>
      refine leads_emit (leads_pure ⟨.unintrusive ⟨trivial,active.symm⟩ (by simp [Event.ordinary])
        (by simp [Event.intrusive]),rfl,?_⟩)
      rintro _ ⟨⟩
      rfl

theorem stopProcessLifecycle_follows {expectedProcessId : Option Int} {eventType : String} {reason : Option String}
    {actor : AuditActor} :
    (rules safety).follows (stopProcessLifecycle safety expectedProcessId eventType reason actor :
      Handler Event.work me AppError ProcessStopResponse) p (Returned p) := by
  refine follows_seq stopLook_follows ?_ fun _ _ refused => returned_error refused.1
  rintro batchId q ⟨running,looked⟩
  have calm : q.Undisturbed := by simp [Progress.Undisturbed,looked batchId rfl]
  refine follows_still (still_orInternal (still_silent silent_query)) (fun batch => ?_) fun _ => returned_error running
  refine follows_still still_ofExcept (fun _ => ?_) fun _ => returned_error running
  exact follows_mono (stopped_follows calm fun _ settled => still_closeStoppedBatch settled) fun _ _ returned =>
    Returned.since returned running

theorem finishMissingActiveBatchRecovery_follows {batchId : Int} (calm : p.Undisturbed) :
    Carried safety p (finishMissingActiveBatchRecovery safety batchId : Handler Event.work me AppError Unit) := by
  refine carried_bind (carried_stopProcessOnDevice calm) fun _ q carries => ?_
  have settled := carries.calm calm
  refine Still.carried (still_bind (follows_section fun e w => ?_) fun _ => ?_)
  · exact leads_emit (leads_emitted ⟨.plain ⟨⟨trivial,trivial⟩,trivial⟩ (by simp [Event.ordinary]) settled,rfl⟩)
  · refine still_bind (still_catching still_within_quiet fun _ => still_failAfterDeviceStop) fun _ => ?_
    exact still_clearStoppedBatch settled

end ReactorOS
