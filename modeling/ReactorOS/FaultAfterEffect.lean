import ReactorOS.DeviceEffects
namespace ReactorOS
open Concurrency Journal Task Section

-- A step in which a device write of the task has come back with success.
def delivers (me : TaskId) (moment : Moment Env World) : Prop :=
  ∃ writer command, (me,.commanded writer command true) ∈ moment.recorded

instance (me : TaskId) : Shows me (delivers me) where
  tame event := uncommanded event = true
  narrow := uncommanded_narrow
  shown moment delivered := by
    obtain ⟨writer,command,listed⟩ := delivered
    exact ⟨_,listed,Bool.false_ne_true⟩

-- What an error after such a step has to leave behind.
def Faulted (w : World) : Prop := w.state.runtime.lastControlError.isSome = true ∧ w.state.runtime.autoEnabled = false

variable {safety : SafetyConfig} {may may' : Event → Bool} {me : TaskId} {ε ε' α β : Type}

theorem undone_catching {t : Handler may me ε α} {handler : ε → Handler may me ε' α} (first : t.Undone (delivers me))
    (rest : ∀ error, (handler error).Clean (delivers me)) : (catching t handler).Undone (delivers me) := by
  unfold Undone
  rw [behaves_catching]
  apply behaves_mono _ first
  intro before result undone
  cases result with
  | ok value =>
      intro error failed
      cases failed
  | error error =>
      apply behaves_mono _ (rest error)
      intro later ended never _ _ effected
      exact (effected_append.mp effected).elim (undone error rfl) never

-- Errors that are answered with a latch.
theorem marks_catching {t : Handler may me ε α} {handler : ε → Handler may me ε' α}
    (rest : ∀ error, (handler error).Marks Faulted) : (catching t handler).Marks Faulted := by
  unfold Marks
  rw [behaves_catching]
  apply behaves_mono _ (behaves_true t)
  intro before result _
  cases result with
  | ok value =>
      intro error failed
      cases failed
  | error error =>
      apply behaves_mono _ (rest error)
      intro later ended marks err failed
      exact ends_later (marks err failed)

theorem marks_within [Within may may'] {t : Handler may me ε α} (marks : t.Marks Faulted) :
    (within t : Handler may' me ε α).Marks Faulted := marks_relax _ marks

theorem marks_latch (reason : String) (err : ε) :
    (latchControlFault reason >>= fun _ => throw err : Handler Event.quiet me ε α).Marks Faulted :=
  marks_throw (fun _ _ => ⟨⟨(),rfl⟩,rfl,rfl⟩) err

theorem marks_latched [Within Event.quiet may] (reason : String) (err : ε) :
    (within (latchControlFault reason) >>= fun _ => throw err : Handler may me ε α).Marks Faulted := by
  unfold within latchControlFault locked
  rw [relax_section]
  exact marks_throw (fun _ _ => ⟨⟨(),rfl⟩,rfl,rfl⟩) err

-- The device write itself: where it fails nothing was delivered.
theorem undone_writeTargets {writer : Writer} {command : SafeCommand} :
    (writeTargets writer command : Handler Event.work me Failure Unit).Undone (delivers me) := by
  unfold writeTargets
  intro e w error failed effected
  obtain ⟨moment,member,given,sent,listed⟩ := effected
  rw [List.mem_singleton.mp member] at listed
  simp only [run_bind,run_answer,chain_ok,run_record,run_ofExcept] at listed failed
  rw [failed,Moment.recorded_emit,List.mem_singleton] at listed
  cases listed

theorem undone_writeComponent : (writeComponent : Handler Event.work me Failure (Option ComponentControlOutcome)).Undone
    (delivers me) := by
  unfold writeComponent
  intro e w error failed effected
  obtain ⟨moment,member,given,sent,listed⟩ := effected
  rw [List.mem_singleton.mp member] at listed
  simp only [run_bind,run_answer,chain_ok,run_record,run_ofExcept] at listed failed
  rw [failed,Moment.recorded_emit,List.mem_singleton] at listed
  cases listed

theorem undone_stopProcessOnDevice {targets : ControlTargets} :
    (stopProcessOnDevice targets : Handler Event.work me AppError Unit).Undone (delivers me) :=
  undone_catching undone_writeTargets fun _ => clean_bind (clean_within clean_quiet) fun _ => clean_done _

theorem undone_startProcessOnDevice {targets : ControlTargets} {pendingBatchId : Int} :
    (startProcessOnDevice safety targets pendingBatchId : Handler Event.work me AppError Unit).Undone (delivers me) := by
  unfold startProcessOnDevice
  exact undone_clean (clean_locked keeps_startInterlock) fun _ => undone_catching undone_writeTargets fun _ =>
    clean_bind (clean_within clean_quiet) fun _ => clean_done _

-- What never fails marks in its own way.
theorem marks_changes {s : Critical may me ε α} (returns : ∀ e w, ∃ value, (s.run e w).1 = .ok value) :
    (locked s).Marks Faulted := by
  apply marks_section
  intro e w error failed
  obtain ⟨value,returned⟩ := returns e w
  rw [returned] at failed
  cases failed

theorem marks_ignoring {t : Handler may me ε Unit} : (ignoring t : Handler may me ε' Unit).Marks Faulted :=
  marks_bind (marks_attempt t) fun _ => marks_ok ()

theorem marks_rollback {batchId : Int} {targets : ControlTargets} :
    (rollbackFailedActivation safety batchId targets : Handler Event.work me AppError (Option String)).Marks Faulted := by
  unfold rollbackFailedActivation
  refine marks_bind (marks_attempt _) fun stopped => ?_
  cases stopped with
  | error err => exact marks_bind (marks_changes fun _ _ => ⟨(),rfl⟩) fun _ => marks_ok _
  | ok _ =>
      refine marks_bind (marks_changes fun e w => ?_) fun _ =>
        marks_bind (marks_within marks_ignoring) fun _ => marks_ok _
      by_cases active : w.state.runtime.activeBatchId = some batchId
      · exact ⟨(),by simp [active]⟩
      · exact ⟨(),by simp [active]⟩

theorem marks_failAfterDeviceStart {batchId : Int} {targets : ControlTargets} {action cause : String} {err : AppError} :
    (failAfterDeviceStart safety batchId targets action cause err : Handler Event.work me AppError α).Marks Faulted := by
  unfold failAfterDeviceStart
  exact marks_bind marks_rollback fun rollbackStopError => marks_latched _ err

theorem startProcessLifecycle_sound (processId : Int) (eventType : String) (nameOverride : Option String) (actor : AuditActor) :
    (startProcessLifecycle safety processId eventType nameOverride actor :
      Handler Event.work me AppError ProcessApplyResponse).Sound (delivers me) Faulted := by
  unfold startProcessLifecycle
  refine sound_clean (clean_within clean_quiet) fun detail => ?_
  cases detail with
  | none => exact sound_of_undone (undone_of_clean (clean_done _))
  | some detail =>
      simp only
      split
      · exact sound_of_undone (undone_of_clean (clean_done _))
      · refine sound_clean clean_ofExcept fun targets => ?_
        refine sound_clean (clean_locked keeps_acknowledge) fun runtime => ?_
        refine sound_clean clean_ensureProcessCanStart fun _ => ?_
        refine sound_clean clean_createBatch fun batch => ?_
        -- the point of no return
        refine sound_return (undone_catching undone_startProcessOnDevice fun err => clean_abandonStart) fun _ => ?_
        refine marks_bind (marks_catching fun err => marks_failAfterDeviceStart) fun _ => ?_
        refine marks_bind (marks_catching fun err => marks_failAfterDeviceStart) fun process => ?_
        cases process with
        | none => exact marks_failAfterDeviceStart
        | some process => exact marks_bind (marks_catching fun err => marks_failAfterDeviceStart) fun _ => marks_ok _

theorem sound_failed {result : Except ε α} : (.done result : Handler may me ε α).Sound (delivers me) Faulted :=
  sound_of_undone (undone_of_clean (clean_done _))

theorem startBatch_sound (payload : StartBatchRequest) (actor : AuditActor) :
    (startBatch safety payload actor : Handler Event.work me AppError Batch).Sound (delivers me) Faulted := by
  unfold startBatch
  split
  · exact sound_failed
  · refine sound_clean (clean_locked (keeps_silent (silent_bind silent_runtimeState fun _ => silent_pure _))) fun targets => ?_
    refine sound_clean clean_ofExcept fun applied => ?_
    refine sound_clean (clean_locked keeps_acknowledge) fun runtime => ?_
    refine sound_clean (clean_locked (keeps_silent silent_ensureNoUnclosedDbBatchExcept)) fun _ => ?_
    refine sound_clean clean_timed fun _ => ?_
    refine sound_clean clean_createBatch fun batch => ?_
    refine sound_return (undone_catching undone_startProcessOnDevice fun err => clean_abandonStart) fun _ => ?_
    refine marks_bind (marks_catching fun err => marks_failAfterDeviceStart) fun _ => ?_
    exact marks_bind (marks_catching fun err => marks_failAfterDeviceStart) fun _ => marks_ok _

theorem v1Control_sound (deviceId : String) (payload : V1ControlRequest) (actor : AuditActor) :
    (v1Control safety deviceId payload actor : Handler Event.work me AppError V1ControlResponse).Sound (delivers me)
      Faulted := by
  unfold v1Control
  refine sound_clean clean_ofExcept fun _ => sound_clean clean_ofExcept fun autoStart => sound_clean clean_ofExcept fun targets => ?_
  cases autoStart.getD false with
  | false =>
      simp only [Bool.false_eq_true,if_false]
      refine sound_clean (clean_locked keeps_acknowledge) fun runtime => sound_clean clean_timed fun _ => ?_
      refine sound_clean (clean_orInternal (clean_within clean_quiet)) fun _ => sound_clean (clean_commitTargets rfl) fun _ => ?_
      exact sound_of_undone (undone_of_clean (clean_locked (keeps_silent silent_v1ControlAccepted)))
  | true =>
      simp only [if_true]
      refine sound_clean (clean_locked (keeps_silent ?_)) fun _ => ?_
      · refine silent_bind silent_runtimeState fun runtime => ?_
        cases runtime.activeBatchId.isSome
        · exact silent_ensureNoUnclosedDbBatchExcept
        · exact silent_bind (silent_throw _) fun _ => silent_ensureNoUnclosedDbBatchExcept
      · refine sound_clean (clean_locked keeps_acknowledge) fun runtime => sound_clean clean_timed fun _ => ?_
        refine sound_clean clean_createBatch fun batch => ?_
        refine sound_return (undone_catching undone_startProcessOnDevice fun err => clean_abandonStart) fun _ => ?_
        refine marks_bind (marks_catching fun err => marks_failAfterDeviceStart) fun _ => ?_
        refine marks_bind (marks_catching fun err => marks_failAfterDeviceStart) fun _ => ?_
        exact marks_changes fun _ _ => ⟨_,rfl⟩

theorem marks_failAfterDeviceStop {action cause : String} {err : AppError} :
    (within (failAfterDeviceStop action cause err) : Handler Event.work me AppError α).Marks Faulted :=
  marks_within (marks_latch _ err)

-- The section after the stop command latches where it refuses to go on.
theorem marks_confirmStoppedBatch {batchId : Int} {targets : ControlTargets} {what : String} :
    (locked (confirmStoppedBatch batchId targets what) : Handler Event.work me AppError Unit).Marks Faulted := by
  apply marks_section
  intro e w error failed
  unfold confirmStoppedBatch at failed ⊢
  by_cases still : w.state.runtime.activeBatchId = some batchId
  · simp [still] at failed
  · simp [still,Faulted,Change.apply,RuntimeState.latchControlFault]

theorem marks_clearStoppedBatch {batchId : Int} {targets : Option ControlTargets} :
    (locked (clearStoppedBatch batchId targets) : Handler Event.work me AppError Unit).Marks Faulted := by
  apply marks_changes
  intro e w
  unfold clearStoppedBatch
  by_cases active : w.state.runtime.activeBatchId = some batchId
  · cases targets <;> exact ⟨(),by simp [active]⟩
  · cases targets <;> exact ⟨(),by simp [active]⟩

theorem marks_closeStoppedRecord {batchId : Int} {batch : Batch} :
    (closeStoppedRecord batchId batch : Handler Event.work me AppError Batch).Marks Faulted := by
  unfold closeStoppedRecord
  split
  · exact marks_ok _
  · refine marks_bind (marks_catching fun err => marks_failAfterDeviceStop) fun _ => ?_
    refine marks_bind (marks_catching fun err => marks_failAfterDeviceStop) fun reloaded => ?_
    cases reloaded with
    | none => exact marks_failAfterDeviceStop
    | some batch => exact marks_ok _

theorem marks_closeStoppedBatch {eventType : String} {operatorReason : Option String} {actor : AuditActor}
    {batchId : Int} {targets : ControlTargets} {batch : Option Batch} :
    (closeStoppedBatch eventType operatorReason actor batchId targets batch :
      Handler Event.work me AppError ProcessStopResponse).Marks Faulted := by
  unfold closeStoppedBatch
  cases batch with
  | none =>
      exact marks_bind (marks_catching fun err => marks_failAfterDeviceStop) fun _ =>
        marks_bind marks_clearStoppedBatch fun _ => marks_ok _
  | some batch =>
      refine marks_bind marks_closeStoppedRecord fun closed => ?_
      exact marks_bind (marks_catching fun err => marks_failAfterDeviceStop) fun _ =>
        marks_bind marks_clearStoppedBatch fun _ => marks_ok _

theorem stopProcessLifecycle_sound (expectedProcessId : Option Int) (eventType : String) (operatorReason : Option String)
    (actor : AuditActor) : (stopProcessLifecycle safety expectedProcessId eventType operatorReason actor :
      Handler Event.work me AppError ProcessStopResponse).Sound (delivers me) Faulted := by
  unfold stopProcessLifecycle
  refine sound_clean (clean_locked (keeps_bind (keeps_silent silent_runtimeState) fun runtime => ?_)) fun batchId => ?_
  · cases runtime.activeBatchId with
    | none => exact keeps_silent (silent_throw _)
    | some batchId => exact keeps_bind (keeps_note rfl) fun _ => keeps_silent (silent_pure _)
  refine sound_clean (clean_orInternal (clean_locked (keeps_silent silent_query))) fun batch => ?_
  refine sound_clean clean_ofExcept fun _ => sound_return undone_stopProcessOnDevice fun _ => ?_
  exact marks_bind marks_confirmStoppedBatch fun _ => marks_closeStoppedBatch

-- A component write is followed by its audit and its commit.
theorem deliverComponent_sound {requiresProvenSafeField : Bool} {runtime : RuntimeState} {auditReason eventType : String}
    {actor : AuditActor} : (deliverComponent safety requiresProvenSafeField runtime auditReason eventType actor :
      Handler Event.work me AppError (Option ComponentControlOutcome)).Sound (delivers me) Faulted := by
  unfold deliverComponent
  refine sound_return (undone_catching undone_writeComponent fun err =>
    clean_bind (clean_within clean_quiet) fun _ => clean_done _) fun outcome => ?_
  refine marks_bind (marks_catching fun err => marks_latched _ _) fun _ => marks_bind ?_ fun _ => marks_ok _
  unfold commitComponentOutcome
  cases outcome.bind (·.targets) with
  | none => exact marks_ok _
  | some targets => exact marks_catching fun err => marks_latched _ _

theorem executeComponentControl_sound (capabilities : List DeviceComponentCapability) (deviceId componentId : String)
    (payload : ComponentControlRequest) (eventType : String) (actor : AuditActor) :
    (executeComponentControl safety capabilities deviceId componentId payload eventType actor :
      Handler Event.work me AppError ComponentControlResponse).Sound (delivers me) Faulted := by
  unfold executeComponentControl
  refine sound_clean clean_ofExcept fun _ => sound_clean (clean_locked (keeps_silent silent_runtimeState)) fun seen => ?_
  refine sound_clean clean_ofExcept fun found => sound_clean clean_ofExcept fun _ => sound_clean clean_ofExcept fun reason => ?_
  simp only
  split
  · exact sound_clean clean_proveComponentField fun runtime => sound_marks deliverComponent_sound fun _ => marks_ok _
  · exact sound_clean (clean_done _) fun runtime => sound_marks deliverComponent_sound fun _ => marks_ok _

theorem marks_failBatchFinish {action cause : String} {err : AppError} :
    (within (failBatchFinish true action cause err) : Handler Event.work me AppError α).Marks Faulted :=
  marks_within (marks_latch _ err)

-- The record of a finished batch is read back after the stop, with the update before that where it
-- was found `unfinished`. Here the update has gone through and the read-back fails.
def ReadBackFails (unfinished : Bool) (tail : Moments) : Prop :=
  ∃ updates readBack, tail = updates ++ [readBack] ∧ updates.length = unfinished.toNat ∧
    (∀ update ∈ updates, update.answer.db = .done) ∧ readBack.answer.db ≠ .done

-- The last step was taken from a state that says already what an error is to leave behind.
def AlreadyFaulted (moments : Moments) : Prop := ∃ last ∈ moments.getLast?, Faulted last.before

def MarksButReadBack (unfinished : Bool) (tail : Moments) : Prop :=
  EndsMarked Faulted tail ↔ (ReadBackFails unfinished tail → AlreadyFaulted tail)

theorem marksBut_longer {unfinished : Bool} {tail : Moments} (marked : EndsMarked Faulted tail)
    (longer : unfinished.toNat+1 < tail.length) : MarksButReadBack unfinished tail := by
  constructor
  · intro _ fails
    obtain ⟨updates,readBack,rfl,count,_⟩ := fails
    simp [count] at longer
  · exact fun _ => marked

theorem ends_nonempty {moments : Moments} (ends : EndsMarked Faulted moments) : 0 < moments.length := by
  obtain ⟨last,found,_⟩ := ends
  cases moments with
  | nil => cases found
  | cons moment rest => simp

-- The update of the record, where one is due.
theorem finishUpdate_behaves (batchId : Int) (unfinished : Bool) (reason : Failure → String) :
    (if unfinished then catching (within (finishBatchSqlx batchId)) fun err =>
        within (failBatchFinish true "batch finish state commit" (reason err) (.internal err))
      else pure () : Handler Event.work me AppError Unit).behaves fun updates result => match result with
        | .ok _ => updates.length = unfinished.toNat ∧ ∀ update ∈ updates, update.answer.db = .done
        | .error _ => MarksButReadBack unfinished updates := by
  cases unfinished with
  | false => exact ⟨rfl,fun update member => by cases member⟩
  | true =>
      rw [if_pos rfl,behaves_catching,behaves_within]
      unfold finishBatchSqlx statement
      rw [behaves_locked]
      intro e w
      have failed : ∀ (error : Failure) (after : World), e.db ≠ .done →
          (within (failBatchFinish true "batch finish state commit" (reason error) (.internal error)) :
            Handler Event.work me AppError Unit).behaves fun later result => match result with
              | .ok _ => (⟨e,w,after⟩ :: later).length = true.toNat ∧ ∀ update ∈ ⟨e,w,after⟩ :: later, update.answer.db = .done
              | .error _ => MarksButReadBack true (⟨e,w,after⟩ :: later) := by
        intro error after refused
        have never : (within (failBatchFinish true "batch finish state commit" (reason error) (.internal error)) :
            Handler Event.work me AppError Unit).behaves Fails := behaves_within.mpr (fails_after fun _ => fails_throw _)
        apply behaves_mono _ (behaves_and never marks_failBatchFinish)
        intro later result ended
        obtain ⟨fails,marks⟩ := ended
        cases result with
        | ok value => exact absurd rfl (fails value)
        | error err =>
            constructor
            · intro _ readBackFails
              obtain ⟨updates,readBack,shape,count,answered,_⟩ := readBackFails
              cases updates with
              | nil => cases count
              | cons update updates =>
                  obtain ⟨rfl,_⟩ := List.cons.inj shape
                  exact absurd (answered _ List.mem_cons_self) refused
            · intro _
              exact @ends_later _ _ _ [⟨e,w,after⟩] later (marks err rfl)
      cases answered : e.db with
      | done =>
          simp only [run_bind,run_utcNow,chain_ok,run_answer,answered,run_record]
          exact ⟨rfl,fun update member => by rw [List.mem_singleton.mp member]; exact answered⟩
      | failed error =>
          simp only [run_bind,run_utcNow,chain_ok,run_answer,answered,run_fail]
          exact failed error w (by rw [answered]; simp)
      | lost error =>
          simp only [run_bind,run_utcNow,chain_ok,run_answer,answered,run_record,run_fail]
          exact failed error _ (by rw [answered]; simp)

-- After a good read-back every error is answered.
theorem marks_checkFinished {finished : Option Batch} : (match finished with
    | none => within (failBatchFinish true "batch finish state commit"
        "batch disappeared after finish update" (.notFound "batch not found after finish update"))
    | some finishedBatch =>
        if finishedBatch.finishedAt.isNone then
          within (failBatchFinish true "batch finish state commit"
            "batch finish update did not mark the batch finished"
            (.conflict "batch finish update did not mark the batch finished"))
        else return () : Handler Event.work me AppError Unit).Marks Faulted := by
  cases finished with
  | none => exact marks_failBatchFinish
  | some finishedBatch =>
      simp only
      split
      · exact marks_failBatchFinish
      · exact marks_ok _

theorem closeFinishedRecord_marks (batchId : Int) (batch : Batch) :
    (closeFinishedRecord batchId batch true : Handler Event.work me AppError Unit).behaves fun tail result =>
      match result with
      | .ok _ => batch.finishedAt.isNone.toNat < tail.length
      | .error _ => MarksButReadBack batch.finishedAt.isNone tail := by
  have parts : (closeFinishedRecord batchId batch true : Handler Event.work me AppError Unit) =
      (if batch.finishedAt.isNone then catching (within (finishBatchSqlx batchId)) fun err =>
          within (failBatchFinish true "batch finish state commit" err.alternate (.internal err))
        else pure ()) >>= fun _ => do
          match ← orInternal (batchByIdSqlx batchId) with
          | none => within (failBatchFinish true "batch finish state commit"
              "batch disappeared after finish update" (.notFound "batch not found after finish update"))
          | some finishedBatch =>
              if finishedBatch.finishedAt.isNone then
                within (failBatchFinish true "batch finish state commit"
                  "batch finish update did not mark the batch finished"
                  (.conflict "batch finish update did not mark the batch finished"))
              else return () := by
    unfold closeFinishedRecord
    cases batch.finishedAt.isNone <;> rfl
  rw [parts]
  apply behaves_seq (finishUpdate_behaves batchId batch.finishedAt.isNone Failure.alternate)
  · intro updates _ updated
    obtain ⟨count,answered⟩ := updated
    rw [behaves_bind,behaves_orInternal]
    unfold batchByIdSqlx query
    rw [behaves_locked]
    intro e w
    have unanswered : e.db ≠ .done → MarksButReadBack batch.finishedAt.isNone (updates ++ [(⟨e,w,w⟩ : Moment Env World)]) := by
      intro refused
      have fails : ReadBackFails batch.finishedAt.isNone (updates ++ [⟨e,w,w⟩]) := ⟨updates,⟨e,w,w⟩,rfl,count,answered,refused⟩
      have last : (updates ++ [(⟨e,w,w⟩ : Moment Env World)]).getLast? = some ⟨e,w,w⟩ := by simp
      constructor
      · intro ends _
        obtain ⟨moment,found,faulted⟩ := ends
        rw [last] at found
        cases found
        exact ⟨⟨e,w,w⟩,last,faulted⟩
      · intro already
        obtain ⟨moment,found,faulted⟩ := already fails
        rw [last] at found
        cases found
        exact ⟨⟨e,w,w⟩,last,faulted⟩
    cases read : e.db with
    | done =>
        simp only [run_inspect,read]
        apply behaves_mono _ marks_checkFinished
        intro later result marks
        cases result with
        | ok _ => simp [count]
        | error err =>
            have ends := marks err rfl
            have more := ends_nonempty ends
            apply marksBut_longer (ends_later (ends_later ends))
            simp only [List.length_append,count,List.length_singleton]
            omega
    | failed error =>
        simp only [run_inspect,read]
        exact unanswered (by rw [read]; simp)
    | lost error =>
        simp only [run_inspect,read]
        exact unanswered (by rw [read]; simp)
  · intro moments err ended
    exact ended

theorem closeFinishedBatch_marks (actor : AuditActor) (batchId : Int) (batch : Batch) (targets : ControlTargets) :
    (closeFinishedBatch actor batchId batch (some targets) : Handler Event.work me AppError Unit).behaves
      fun tail result => ∀ err, result = .error err → MarksButReadBack batch.finishedAt.isNone tail := by
  unfold closeFinishedBatch
  apply behaves_seq (closeFinishedRecord_marks batchId batch)
  · intro closed _ longer
    have rest : (catching (within (insertControlEventSqlx (some batchId) "batch_finished"
          (some (safeCommandFromRuntimeTargets targets "active batch finished; device stop targets written"))
          "batch finished; automatic control disabled" actor)) (fun err =>
        within (failBatchFinish true "batch finish audit" err.alternate (.internal err))) >>= fun _ =>
      locked (clearStoppedBatch batchId (some targets)) : Handler Event.work me AppError Unit).Marks Faulted :=
      marks_bind (marks_catching fun err => marks_failBatchFinish) fun _ => marks_clearStoppedBatch
    apply behaves_mono _ rest
    intro later result marks err failed
    have ends := marks err failed
    have more := ends_nonempty ends
    apply marksBut_longer (ends_later ends)
    simp only at longer
    simp only [List.length_append]
    omega
  · intro moments err ended _ _
    exact ended

theorem stopProcessOnDevice_step {targets : ControlTargets} :
    (stopProcessOnDevice targets : Handler Event.work me AppError Unit).behaves fun moments result =>
      result = .ok () → ∃ stop, moments = [stop] := by
  unfold stopProcessOnDevice writeTargets
  rw [behaves_catching,behaves_locked]
  intro e w
  simp only [run_bind,run_answer,chain_ok,run_record,run_ofExcept]
  cases e.device with
  | ok _ => exact fun _ => ⟨_,rfl⟩
  | error err =>
      apply behaves_mono _ (fails_after fun _ => fails_throw _)
      intro moments result fails returned
      exact absurd returned (fails ())

theorem finishMissing_sound {batchId : Int} :
    (finishMissingActiveBatchRecovery safety batchId : Handler Event.work me AppError Unit).Sound (delivers me) Faulted := by
  unfold finishMissingActiveBatchRecovery
  refine sound_return undone_stopProcessOnDevice fun _ => marks_bind (marks_changes fun _ _ => ⟨(),rfl⟩) fun _ => ?_
  exact marks_bind (marks_catching fun err => marks_failAfterDeviceStop) fun _ => marks_clearStoppedBatch

-- What a part says of its last step is so of the whole.
theorem ends_append {first later : Moments} (steps : 0 < later.length) :
    EndsMarked Faulted (first ++ later) ↔ EndsMarked Faulted later := by
  have last : (first ++ later).getLast? = later.getLast? := by
    rw [List.getLast?_append]
    cases found : later.getLast? with
    | none => simp [List.getLast?_eq_none_iff.mp found] at steps
    | some moment => rfl
  unfold EndsMarked
  rw [last]

theorem already_append {first later : Moments} (steps : 0 < later.length) :
    AlreadyFaulted (first ++ later) ↔ AlreadyFaulted later := by
  have last : (first ++ later).getLast? = later.getLast? := by
    rw [List.getLast?_append]
    cases found : later.getLast? with
    | none => simp [List.getLast?_eq_none_iff.mp found] at steps
    | some moment => rfl
  unfold AlreadyFaulted
  rw [last]

theorem readBack_nonempty {unfinished : Bool} {tail : Moments} (fails : ReadBackFails unfinished tail) : 0 < tail.length := by
  obtain ⟨updates,readBack,rfl,_⟩ := fails
  simp

theorem marksBut_nonempty {unfinished : Bool} {tail : Moments} (marks : MarksButReadBack unfinished tail) : 0 < tail.length := by
  by_cases fails : ReadBackFails unfinished tail
  · exact readBack_nonempty fails
  · exact ends_nonempty (marks.mpr fun failed => absurd failed fails)

-- The stop command and the section that confirms it come before the tail.
def StoppedReadBackFails (unfinished : Bool) (moments : Moments) : Prop :=
  ∃ stop confirm tail, moments = stop :: confirm :: tail ∧ ReadBackFails unfinished tail

theorem finishStopped_marks (batchId : Int) (batch : Batch) (targets : ControlTargets) (actor : AuditActor) :
    (do stopProcessOnDevice targets
        locked (confirmStoppedBatch batchId targets "batch finish")
        closeFinishedBatch actor batchId batch (some targets) : Handler Event.work me AppError Unit).behaves
      fun moments result => ∀ err, result = .error err → Effected (delivers me) moments →
        0 < moments.length ∧
          (EndsMarked Faulted moments ↔ (StoppedReadBackFails batch.finishedAt.isNone moments → AlreadyFaulted moments)) := by
  apply behaves_seq (behaves_and undone_stopProcessOnDevice stopProcessOnDevice_step)
  · intro before value stepped
    obtain ⟨stop,rfl⟩ := stepped.2 rfl
    apply behaves_seq (behaves_and marks_confirmStoppedBatch (Q := fun moments _ => ∃ confirm, moments = [confirm])
      (behaves_locked.mpr fun e w => ⟨_,rfl⟩))
    · intro confirmed _ single
      obtain ⟨confirm,rfl⟩ := single.2
      apply behaves_mono _ (closeFinishedBatch_marks actor batchId batch targets)
      intro tail result marks err failed _
      have closed := marks err failed
      have steps := marksBut_nonempty closed
      refine ⟨by simp,?_⟩
      have shape : ([stop] ++ ([confirm] ++ tail) : Moments) = [stop,confirm] ++ tail := rfl
      rw [shape,ends_append steps,already_append steps]
      constructor
      · intro ends fails
        obtain ⟨_,_,rest,same,readBack⟩ := fails
        cases same
        exact closed.mp ends readBack
      · intro already
        exact closed.mpr fun readBack => already ⟨stop,confirm,tail,rfl,readBack⟩
    · intro confirmed err single other failed _
      obtain ⟨confirm,rfl⟩ := single.2
      have ends := single.1 err rfl
      refine ⟨by simp,fun _ fails => ?_,fun _ => ends_later ends⟩
      obtain ⟨_,_,tail,same,readBack⟩ := fails
      cases same
      have more := readBack_nonempty readBack
      simp at more
  · intro before err stopped other failed effected
    exact absurd effected (stopped.1 err rfl)

-- The same over a whole finish: it has looked and read the record before.
def FinishReadBackFails (batchId : Int) (moments : Moments) : Prop :=
  ∃ look read later batch, moments = look :: read :: later ∧
    read.before.state.db.batchById batchId = some batch ∧ StoppedReadBackFails batch.finishedAt.isNone later

theorem finishBatch_marks (batchId : Int) (actor : AuditActor) :
    (finishBatch safety batchId actor : Handler Event.work me AppError Unit).behaves fun moments result =>
      ∀ err, result = .error err → Effected (delivers me) moments →
        (EndsMarked Faulted moments ↔ (FinishReadBackFails batchId moments → AlreadyFaulted moments)) := by
  unfold finishBatch
  have silent : (locked (do
      let runtime ← runtimeState
      note (.batchSeen batchId runtime.activeBatchId)
      return runtime.activeBatchId) : Handler Event.work me AppError (Option Int)).Clean (delivers me) :=
    clean_locked (keeps_bind (keeps_silent silent_runtimeState) fun _ => keeps_bind (keeps_note rfl) fun _ =>
      keeps_silent (silent_pure _))
  apply behaves_seq (behaves_and silent (Q := fun moments _ => ∃ look, moments = [look]) (behaves_locked.mpr fun e w => ⟨_,rfl⟩))
  · intro looked activeBatchId seen
    obtain ⟨look,rfl⟩ := seen.2
    rw [behaves_bind,behaves_orInternal]
    unfold batchByIdSqlx query
    rw [behaves_locked]
    intro e w
    have early : ¬Effected (delivers me) ([look] ++ [⟨e,w,w⟩]) := by
      intro effected
      rcases effected_append.mp effected with first | second
      · exact seen.1 first
      · obtain ⟨moment,member,writer,command,listed⟩ := second
        rw [List.mem_singleton.mp member,Moment.recorded_silent] at listed
        cases listed
    cases read : e.db with
    | failed error =>
        simp only [run_inspect,read]
        exact fun _ _ effected => absurd effected early
    | lost error =>
        simp only [run_inspect,read]
        exact fun _ _ effected => absurd effected early
    | done =>
        simp only [run_inspect,read]
        cases found : w.state.db.batchById batchId with
        | none =>
            simp only [Except.mapError]
            have missing : ∀ later : Moments, ¬FinishReadBackFails batchId ([look] ++ ([⟨e,w,w⟩] ++ later)) := by
              intro later fails
              obtain ⟨_,_,_,batch,same,known,_⟩ := fails
              cases same
              rw [found] at known
              cases known
            split
            · apply behaves_mono _ finishMissing_sound
              intro later result sound err failed effected
              have ends := sound err failed ((effected_append.mp (by rw [List.append_assoc]; exact effected)).resolve_left early)
              exact ⟨fun _ fails => absurd fails (missing later),fun _ => ends_later (ends_later ends)⟩
            · exact fun _ _ effected => absurd effected early
        | some batch =>
            simp only [Except.mapError]
            apply behaves_ofExcept
            · exact fun _ _ _ _ effected => absurd effected early
            · intro _ _
              split
              · apply behaves_mono _ (finishStopped_marks batchId batch (processStopTargets safety) actor)
                intro later result marks err failed effected
                have delivered := (effected_append.mp (by rw [List.append_assoc]; exact effected)).resolve_left early
                obtain ⟨steps,closed⟩ := marks err failed delivered
                have shape : ([look] ++ ([⟨e,w,w⟩] ++ later) : Moments) = [look,⟨e,w,w⟩] ++ later := rfl
                rw [shape,ends_append steps,already_append steps]
                constructor
                · intro ends fails
                  obtain ⟨_,_,tail,known,same,recorded,stopped⟩ := fails
                  cases same
                  rw [found] at recorded
                  cases recorded
                  exact closed.mp ends stopped
                · intro already
                  exact closed.mpr fun stopped => already ⟨look,⟨e,w,w⟩,later,batch,rfl,found,stopped⟩
              · have untouched : (do
                    locked (change .autoDisabled)
                    closeFinishedBatch actor batchId batch none : Handler Event.work me AppError Unit).Clean (delivers me) :=
                  clean_bind (clean_locked (keeps_change rfl)) fun _ => clean_closeFinishedBatch
                apply behaves_mono _ untouched
                intro later result never err _ effected
                have delivered := (effected_append.mp (by rw [List.append_assoc]; exact effected)).resolve_left early
                exact absurd delivered never
  · intro looked err seen other _ effected
    exact absurd effected seen.1

-- After a step that has reached the device an error leaves the fault. The five return none without it;
-- a finish does so where the record cannot be read back.
theorem error_after_effect_faults (safety : SafetyConfig) (me : TaskId) :
    (∀ processId eventType nameOverride actor,
      (startProcessLifecycle safety processId eventType nameOverride actor :
        Handler Event.work me AppError ProcessApplyResponse).Sound (delivers me) Faulted) ∧
    (∀ payload actor,
      (startBatch safety payload actor : Handler Event.work me AppError Batch).Sound (delivers me) Faulted) ∧
    (∀ deviceId payload actor,
      (v1Control safety deviceId payload actor : Handler Event.work me AppError V1ControlResponse).Sound (delivers me) Faulted) ∧
    (∀ expectedProcessId eventType operatorReason actor,
      (stopProcessLifecycle safety expectedProcessId eventType operatorReason actor :
        Handler Event.work me AppError ProcessStopResponse).Sound (delivers me) Faulted) ∧
    (∀ capabilities deviceId componentId payload eventType actor,
      (executeComponentControl safety capabilities deviceId componentId payload eventType actor :
        Handler Event.work me AppError ComponentControlResponse).Sound (delivers me) Faulted) ∧
    ∀ batchId actor, (finishBatch safety batchId actor : Handler Event.work me AppError Unit).behaves
      fun moments result => ∀ err, result = .error err → Effected (delivers me) moments →
        (EndsMarked Faulted moments ↔ (FinishReadBackFails batchId moments → AlreadyFaulted moments)) :=
  ⟨startProcessLifecycle_sound,startBatch_sound,v1Control_sound,stopProcessLifecycle_sound,executeComponentControl_sound,
    finishBatch_marks⟩

def startThenFinish : TaskId → Job
  | 0 => .controlLoop .simulation 1
  | 1 => .startBatch {name := some "hydrogenation",targetTemperatureC := some (some 60)} .system
  | _ => .finishBatch 1 .system

-- The sixth step reads back the record that has just been closed.
def readBackLost : Nat → Env
  | 5 => {Env.healthy with db := .failed ⟨"database is locked",[]⟩}
  | _ => .healthy

def runningBatch : World :=
  ((Site.shipped.daemon startThenFinish).run (healthy [0,0,0,0,0,0,0,1,1,1,1,1,1,1,1,1,1])).world

-- The stop command is out and the record closed, and the error comes with no fault.
theorem finish_hides_stop :
    ((finishBatch .shipped 1 .system : Handler Event.work 2 AppError Unit).drive readBackLost runningBatch).1 =
      .error (.internal ⟨"database is locked",[]⟩) ∧
    (2,.commanded .processStop
        (some (safeCommandFromRuntimeTargets (processStopTargets .shipped) "process stop target write")) true) ∈
      ((finishBatch .shipped 1 .system : Handler Event.work 2 AppError Unit).drive readBackLost runningBatch).2.history ∧
    ((finishBatch .shipped 1 .system : Handler Event.work 2 AppError Unit).drive readBackLost
      runningBatch).2.state.runtime.lastControlError = none :=
  ⟨by decide +kernel,by decide +kernel,by decide +kernel⟩



end ReactorOS
