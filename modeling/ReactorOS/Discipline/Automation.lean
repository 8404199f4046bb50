import ReactorOS.Discipline.Requests
import ReactorOS.Ai
import ReactorOS.Integration
import ReactorOS.Modbus
namespace ReactorOS
open Concurrency Journal Protocol
variable {safety : SafetyConfig} {me : TaskId} {α : Type} {p : Progress}

theorem carried_writeComponent (calm : p.Undisturbed) :
    Carried safety p (writeComponent : Handler Event.work me Failure (Option ComponentControlOutcome)) := by
  refine follows_section fun e w => leads_look (leads_emit (leads_silent (Section.silent_ofExcept _) ?_))
  exact ⟨.plain ⟨trivial,trivial⟩ (by simp [Event.ordinary]) calm,rfl,rfl,rfl⟩

theorem proveComponentField_follows {command : ComponentControlCommand} (calm : p.Undisturbed) :
    (rules safety).follows (proveComponentField safety command : Handler Event.work me AppError RuntimeState) p
      fun r q => ∃ latches, q = {p with acknowledged := some latches} ∧ ∀ runtime, r = .ok runtime →
        latches = .fromRuntime runtime := by
  refine follows_seq (acknowledge_follows calm) ?_ fun _ _ refused => by obtain ⟨_,absurd,_⟩ := refused; cases absurd
  rintro runtime q ⟨_,⟨⟩,rfl⟩
  refine follows_still still_timed (fun _ => ?_) fun _ => ⟨_,rfl,by simp⟩
  refine follows_still (still_silent silent_ensurePersistedBatchStateConsistent) (fun _ => ?_) fun _ => ⟨_,rfl,by simp⟩
  refine follows_still still_timed (fun _ => ?_) fun _ => ⟨_,rfl,by simp⟩
  refine follows_checked (fun _ _ => ?_) fun _ => ⟨_,rfl,by simp⟩
  refine follows_checked (fun _ _ => ?_) fun _ => ⟨_,rfl,by simp⟩
  refine follows_done ⟨_,rfl,?_⟩
  rintro _ ⟨⟩
  rfl

theorem carried_deliverComponent {requiresProvenSafeField : Bool} {runtime : RuntimeState}
    {auditReason eventType : String} {actor : AuditActor} (calm : p.Undisturbed)
    (acknowledged : requiresProvenSafeField = true → p.acknowledged = some (.fromRuntime runtime)) :
    Carried safety p (deliverComponent safety requiresProvenSafeField runtime auditReason eventType actor :
      Handler Event.work me AppError (Option ComponentControlOutcome)) := by
  refine carried_bind (carried_catching (carried_writeComponent calm) fun _ _ _ =>
    Still.carried (still_bind still_within_quiet fun _ => still_done)) fun outcome q carries => Still.carried ?_
  refine still_bind (still_catching still_within_quiet fun _ =>
    still_bind still_within_quiet fun _ => still_done) fun _ => still_bind ?_ fun _ => still_done
  have known : requiresProvenSafeField = true → q.acknowledged = some (.fromRuntime runtime) := fun proven =>
    carries.acknowledged.trans (acknowledged proven)
  cases outcome.bind (·.targets) with
  | none => exact still_done
  | some targets =>
      exact still_catching (still_commitComponentTargets (carries.calm calm) known) fun _ =>
        still_bind still_within_quiet fun _ => still_done

theorem executeComponentControl_follows {capabilities : List DeviceComponentCapability} {deviceId componentId : String}
    {payload : ComponentControlRequest} {eventType : String} {actor : AuditActor} (calm : p.Undisturbed) :
    (rules safety).follows (executeComponentControl safety capabilities deviceId componentId payload eventType actor :
      Handler Event.work me AppError ComponentControlResponse) p (Returned p) := by
  unfold executeComponentControl
  refine follows_checked (fun _ _ => ?_) fun _ => returned_error rfl
  refine follows_still (still_silent silent_runtimeState) (fun seen => ?_) fun _ => returned_error rfl
  refine follows_checked ?_ fun _ => returned_error rfl
  rintro ⟨component,action⟩ _
  refine follows_checked (fun _ _ => ?_) fun _ => returned_error rfl
  refine follows_checked (fun operatorReason _ => ?_) fun _ => returned_error rfl
  have deliver : ∀ (runtime : RuntimeState) (q : Progress), q.Undisturbed → q.running = p.running →
      (componentControlRequiresProvenSafeField payload.action = true → q.acknowledged = some (.fromRuntime runtime)) →
      (rules safety).follows (do
        let outcome ← deliverComponent safety (componentControlRequiresProvenSafeField payload.action) runtime
          (cleanLabel operatorReason s!"operator component control {componentId}:{payload.action}" 240) eventType actor
        return ⟨deviceId,component,outcome⟩ : Handler Event.work me AppError ComponentControlResponse) q (Returned p) := by
    intro runtime q settled running acknowledged
    exact follows_mono (carried_bind (carried_deliverComponent settled acknowledged) fun _ _ _ => Still.carried still_done)
      fun _ _ carries => ⟨carries.running.trans running,fun _ => carries.calm settled⟩
  dsimp only
  split
  · refine follows_seq (proveComponentField_follows calm) ?_ fun _ _ refused => by obtain ⟨_,rfl,_⟩ := refused; exact returned_error rfl
    rintro runtime q ⟨latches,rfl,known⟩
    exact deliver runtime _ calm rfl fun _ => congrArg some (known runtime rfl)
  · rename_i unproven
    exact deliver seen p calm rfl fun proven => absurd proven unproven

theorem applyModbusRegisterWrite_follows {registers : TargetRegister → WriteRegister} {register : String} {value : ℚ}
    {reason : Option String} {actor : AuditActor} (calm : p.Undisturbed) :
    (rules safety).follows (applyModbusRegisterWrite safety registers register value reason actor :
      Handler Event.work me AppError ModbusWriteResponse) p (Returned p) := by
  unfold applyModbusRegisterWrite
  dsimp only
  split
  · exact follows_done (returned_error rfl)
  refine follows_checked (fun known _ => ?_) fun _ => returned_error rfl
  refine follows_checked (fun _ _ => ?_) fun _ => returned_error rfl
  refine follows_still (still_silent silent_readTargets) (fun current => ?_) fun _ => returned_error rfl
  refine follows_checked (fun targets _ => ?_) fun _ => returned_error rfl
  refine follows_checked (fun _ _ => ?_) fun _ => returned_error rfl
  refine follows_checked (fun raw _ => ?_) fun _ => returned_error rfl
  refine follows_seq (acknowledge_follows calm) ?_ fun _ _ refused => by obtain ⟨_,absurd,_⟩ := refused; cases absurd
  rintro runtime q ⟨_,⟨⟩,rfl⟩
  refine follows_still still_timed (fun _ => ?_) fun _ => returned_error rfl
  refine follows_still (still_silent silent_ensurePersistedBatchStateConsistent) (fun _ => ?_) fun _ => returned_error rfl
  refine follows_still (still_orInternal still_within_quiet) (fun _ => ?_) fun _ => returned_error rfl
  refine follows_still (still_commitTargets calm rfl) (fun _ => ?_) fun _ => returned_error rfl
  exact follows_done (returned_ok rfl calm)

theorem applyAinasTargets_follows {payload : AinasTaskRequest} {actor : AuditActor} (calm : p.Undisturbed) :
    (rules safety).follows (applyAinasTargets safety payload actor : Handler Event.work me AppError ControlTargets)
      p (Returned p) := by
  unfold applyAinasTargets
  split
  · exact follows_done (returned_error rfl)
  refine follows_still (still_silent silent_readTargets) (fun current => ?_) fun _ => returned_error rfl
  refine follows_checked (fun targets _ => ?_) fun _ => returned_error rfl
  refine follows_seq (acknowledge_follows calm) ?_ fun _ _ refused => by obtain ⟨_,absurd,_⟩ := refused; cases absurd
  rintro runtime q ⟨_,⟨⟩,rfl⟩
  refine follows_still still_timed (fun _ => ?_) fun _ => returned_error rfl
  refine follows_still (still_orInternal still_within_quiet) (fun _ => ?_) fun _ => returned_error rfl
  refine follows_still (still_commitTargets calm rfl) (fun _ => ?_) fun _ => returned_error rfl
  exact follows_done (returned_ok rfl calm)

theorem executeAinasTask_follows {action : AinasAction} {payload : AinasTaskRequest} {actor : AuditActor}
    (calm : p.Undisturbed) :
    (rules safety).follows (executeAinasTask safety action payload actor : Handler Event.work me AppError TaskResponse)
      p (Returned p) := by
  cases action with
  | setTargets =>
      exact follows_seq (applyAinasTargets_follows calm) (fun _ _ returned => follows_done
        (returned_ok returned.1 (returned.2 ⟨_,rfl⟩))) fun _ _ returned => returned_error returned.1
  | startProcess =>
      refine follows_checked (fun processId _ => ?_) fun _ => returned_error rfl
      exact follows_seq (startProcessLifecycle_follows calm) (fun _ _ returned => follows_done
        (returned_ok returned.1 (returned.2 ⟨_,rfl⟩))) fun _ _ returned => returned_error returned.1
  | stopProcess =>
      refine follows_checked (fun processId _ => ?_) fun _ => returned_error rfl
      exact follows_seq stopProcessLifecycle_follows (fun _ _ returned => follows_done
        (returned_ok returned.1 (returned.2 ⟨_,rfl⟩))) fun _ _ returned => returned_error returned.1

theorem still_createIntegrationTask {source : String} {external : Option String} {action : AinasAction}
    {request : TaskRequest} (calm : p.Undisturbed) :
    Still safety p (createIntegrationTaskSqlx source external action request : Handler Event.work me Failure IntegrationTask) := by
  refine follows_section fun e w => leads_look (leads_look ?_)
  simp only [own_nil,extend_nil]
  cases known : external.bind fun id => w.state.db.integrationTaskByExternalId source id with
  | some task => 
      cases e.db with
      | done => exact leads_pure ⟨permitted_nil,rfl⟩
      | failed error => exact leads_throw ⟨permitted_nil,rfl⟩
      | lost error => exact leads_throw ⟨permitted_nil,rfl⟩
  | none =>
      have inserted : ∀ task : IntegrationTask, task.id = w.state.db.nextTaskId → task.status = .received →
          task.source = source → task.externalTaskId = external →
          Permitted safety e.now w.state p [.store (.taskInserted task)] := by
        intro task key status same named
        refine .plain ⟨trivial,key,status,?_⟩ (by simp [Event.ordinary]) calm
        intro id given
        rw [named] at given
        rw [given] at known
        rw [same]
        exact known
      refine leads_bind (leads_statement ?_ ?_ ?_)
      · exact leads_pure ⟨inserted _ rfl rfl rfl rfl,rfl⟩
      · exact fun error => ⟨permitted_nil,rfl⟩
      · exact fun error => ⟨inserted _ rfl rfl rfl rfl,rfl⟩

theorem integrationTask_id {db : Db} {id : Int} {task : IntegrationTask} (found : db.integrationTask id = some task) :
    task.id = id := by simpa using List.find?_some found

-- A call that finds the row executing may be the one that made it so, or not.
theorem markIntegrationTask_follows {id : Int} (calm : p.Undisturbed) :
    (rules safety).follows (markIntegrationTaskExecutingSqlx id : Handler Event.work me Failure (Option IntegrationTask)) p
      fun r q => q.Undisturbed ∧ ∀ task, r = .ok (some task) → task.status = .executing →
        ∃ found, q.claimed = some (task.id,found) ∧ (found = .received ∨ found = .executing) := by
  refine follows_section fun e w => leads_look ?_
  simp only [own_nil,extend_nil]
  cases known : w.state.db.integrationTask id with
  | none =>
      refine leads_silent silent_query ⟨permitted_nil,calm,?_⟩
      cases answered : e.db <;> simp [query,answered]
  | some existing =>
      dsimp only
      refine leads_ite (fun moved => ?_) fun received => ?_
      · refine leads_check silent_query (fun found read => ?_) fun _ => ⟨permitted_nil,calm,by simp⟩
        have same : found = existing := by
          cases answered : e.db <;> simp_all [query]
        subst same
        refine leads_emit (leads_pure ⟨.plain ⟨trivial,?_⟩ (by simp [Event.ordinary]) calm,calm,?_⟩)
        · change allowedNote w.state p (.taskClaimed id found.status)
          simp only [allowedNote,if_neg moved]
          exact ⟨found,known,rfl⟩
        · rintro _ ⟨⟩ executing
          exact ⟨found.status,by rw [integrationTask_id known]; rfl,.inr executing⟩
      · have status : existing.status = .received := not_not.mp received
        have marked : Permitted safety e.now w.state p [.store (.taskMarkedExecuting id executingMessage)] :=
          .plain ⟨trivial,existing,known,status⟩ (by simp [Event.ordinary]) calm
        refine leads_bind (leads_statement ?_ ?_ ?_)
        · refine leads_emit (leads_look (leads_pure ⟨.plain ?_ (by simp [Event.ordinary]) calm,calm,?_⟩))
          · exact ⟨⟨trivial,existing,known,status⟩,by simp [allowed,allowedNote,Progress.after]⟩
          · intro task ok _
            have found : Db.integrationTask _ id = some task := Except.ok.inj ok
            exact ⟨.received,by rw [integrationTask_id found]; rfl,.inl rfl⟩
        · exact fun _ => ⟨permitted_nil,calm,by simp⟩
        · exact fun _ => ⟨marked,calm,by simp⟩

theorem updateIntegrationTask_follows {id : Int} {status : TaskStatus} {response : TaskResponse}
    (terminal : status.terminal = true) (running : p.running = some id) :
    (rules safety).follows (updateIntegrationTaskSqlx id status response :
      Handler Event.work me Failure (Option IntegrationTask)) p fun _ _ => True := by
  refine follows_section fun e w => leads_look ?_
  simp only [own_nil,extend_nil]
  have updated : Permitted safety e.now w.state p [.store (.taskUpdated id status response)] :=
    .unintrusive ⟨trivial,terminal,running⟩ (by simp [Event.ordinary]) (by simp [Event.intrusive])
  cases known : w.state.db.integrationTask id with
  | none => exact leads_silent silent_query ⟨permitted_nil,trivial⟩
  | some _ =>
      refine leads_bind (leads_statement ?_ ?_ ?_)
      · exact leads_look (leads_pure ⟨updated,trivial⟩)
      · exact fun _ => ⟨permitted_nil,trivial⟩
      · exact fun _ => ⟨updated,trivial⟩

theorem runClaimedTask_follows {prepared : PreparedTask} {task : IntegrationTask} {actor : AuditActor} {found : TaskStatus}
    (calm : p.Undisturbed) (claimed : p.claimed = some (task.id,found))
    (mine : found = .received ∨ found = .executing) :
    (rules safety).follows (runClaimedTask safety prepared task actor : Handler Event.work me AppError IntegrationTask) p
      fun _ _ => True := by
  have started : (rules safety).follows (locked (note (.actionStarted task.id)) : Handler Event.work me AppError Unit) p
      fun _ q => q = {p with running := some task.id,claimed := none} :=
    follows_section fun e w => leads_emitted ⟨.plain ⟨trivial,found,claimed,mine⟩ (by simp [Event.ordinary]) calm,rfl⟩
  refine follows_seq started ?_ fun _ _ _ => trivial
  rintro _ q rfl
  refine follows_seq (R := fun r q => ∀ outcome, r = .ok outcome → q.running = some task.id)
    (follows_attempt (follows_mono (executeAinasTask_follows calm) fun r q returned _ _ => returned.1)) ?_ fun _ _ _ => trivial
  intro outcome q running
  have mine : q.running = some task.id := running outcome rfl
  cases outcome with
  | ok response =>
      refine follows_seq (R := fun _ _ => True) ?_ ?_ fun _ _ _ => trivial
      · refine follows_catching (updateIntegrationTask_follows rfl mine) (fun _ _ _ => trivial) fun _ q _ => ?_
        exact follows_mono (still_bind still_within_quiet fun _ => still_done) fun _ _ _ => trivial
      · intro updated q _
        cases updated with
        | some task => exact follows_done trivial
        | none => exact follows_mono (still_bind still_within_quiet fun _ => still_done) fun _ _ _ => trivial
  | error err =>
      refine follows_seq (R := fun _ _ => True) (follows_mapError ?_) (fun _ _ _ => follows_done trivial) fun _ _ _ => trivial
      refine follows_mono (updateIntegrationTask_follows ?_ mine) fun _ _ _ => trivial
      cases err.isServerError <;> rfl

theorem executeIntegrationTask_follows {source : String} {payload : AinasTaskRequest} {actor : AuditActor}
    (calm : p.Undisturbed) :
    (rules safety).follows (executeIntegrationTask safety source payload actor :
      Handler Event.work me AppError IntegrationTask) p fun _ _ => True := by
  unfold executeIntegrationTask
  refine follows_checked (fun prepared _ => ?_) fun _ => trivial
  refine follows_still (still_orInternal (still_createIntegrationTask calm)) (fun task => ?_) fun _ => trivial
  refine follows_checked (fun _ _ => ?_) fun _ => trivial
  split
  · exact follows_done trivial
  refine follows_seq (R := fun r q => q.Undisturbed ∧ ∀ task, r = .ok (some task) → task.status = .executing →
    ∃ found, q.claimed = some (task.id,found) ∧ (found = .received ∨ found = .executing))
    (follows_mapError (follows_mono (markIntegrationTask_follows calm) ?_)) ?_ fun _ _ _ => trivial
  · rintro r q ⟨settled,claims⟩
    refine ⟨settled,fun task ok executing => claims task ?_ executing⟩
    cases r with
    | ok value => cases ok; rfl
    | error error => cases ok
  · rintro marked q ⟨settled,claims⟩
    cases marked with
    | none => exact follows_done trivial
    | some task =>
        dsimp only
        split
        · exact follows_done trivial
        · rename_i executing
          obtain ⟨found,claimed,mine⟩ := claims task rfl (not_not.mp executing)
          exact runClaimedTask_follows settled claimed mine

theorem applyAiTargets_follows {targets : ControlTargets} {reason : String} {actor : AuditActor} (calm : p.Undisturbed) :
    (rules safety).follows (applyAiTargets safety targets reason actor : Handler Event.work me AppError Unit)
      p (Returned p) := by
  refine follows_still (still_silent silent_readTargets) (fun current => ?_) fun _ => returned_error rfl
  refine follows_seq (acknowledgeChecked_follows calm) ?_ fun _ _ refused => by obtain ⟨_,rfl,_⟩ := refused; exact returned_error rfl
  rintro _ q ⟨latches,rfl,known⟩
  cases known _ rfl
  refine follows_checked (fun _ _ => ?_) fun _ => returned_error rfl
  refine follows_still (still_orInternal still_within_quiet) (fun _ => ?_) fun _ => returned_error rfl
  refine follows_seq (carried_catching (carried_writeTargets calm (by simp)) fun _ _ _ =>
    Still.carried (still_bind still_within_quiet fun _ => still_done)) ?_ fun _ _ carries => returned_error carries.running
  intro _ q carries
  refine follows_mono (returned_still (still_catching (still_commitTargets (carries.calm calm) carries.acknowledged)
    fun _ => still_bind still_within_quiet fun _ => still_done) (carries.calm calm)) fun _ _ returned =>
      Returned.since returned carries.running

-- One request after another: a request that succeeded leaves the task fit for the next.
theorem returned_bind {t : Handler Event.work me AppError α} {k : α → Handler Event.work me AppError β}
    (first : (rules safety).follows t p (Returned p))
    (rest : ∀ value q, q.Undisturbed → (rules safety).follows (k value) q (Returned q)) :
    (rules safety).follows (t >>= k) p (Returned p) :=
  follows_seq first (fun value q returned => follows_mono (rest value q (returned.2 ⟨_,rfl⟩)) fun _ _ more =>
    Returned.since more returned.1) fun _ _ returned => returned_error returned.1

theorem returned_done {value : α} (calm : p.Undisturbed) :
    (rules safety).follows (.done (.ok value) : Handler Event.work me AppError α) p (Returned p) :=
  follows_done (returned_ok rfl calm)

theorem aiAdjustTargets_follows {runtime : RuntimeState} {dryRun allow : Bool} {recommended : Option ControlTargets}
    {actor : AuditActor} {plan : AiPlan} (calm : p.Undisturbed) :
    (rules safety).follows (aiAdjustTargets safety runtime dryRun allow recommended actor plan :
      Handler Event.work me AppError AiPlan) p (Returned p) := by
  cases recommended with
  | none => exact returned_done calm
  | some targets =>
      unfold aiAdjustTargets
      dsimp only
      split
      · cases dryRun
        · exact returned_bind (applyAiTargets_follows calm) fun _ _ settled => returned_done settled
        · exact returned_done calm
      · exact returned_done calm

theorem aiStartProcess_follows {runtime : RuntimeState} {dryRun allow : Bool} {blocked : Option String}
    {selected : Option ProcessDefinition} {actor : AuditActor} {plan : AiPlan} (calm : p.Undisturbed) :
    (rules safety).follows (aiStartProcess safety runtime dryRun allow blocked selected actor plan :
      Handler Event.work me AppError AiPlan) p (Returned p) := by
  unfold aiStartProcess
  split
  · cases selected with
    | none => exact returned_done calm
    | some process =>
        cases dryRun
        · exact returned_bind (startProcessLifecycle_follows calm) fun _ _ settled => returned_done settled
        · exact returned_done calm
  · split
    · exact returned_done calm
    · exact returned_done calm

theorem aiStopOrShake_follows {capabilities : List DeviceComponentCapability} {assessed : AiControlSafety}
    {dryRun allowStop allowComponent : Bool} {recommended : Option ControlTargets} {actor : AuditActor}
    {runtime : RuntimeState} {plan : AiPlan} (calm : p.Undisturbed) :
    (rules safety).follows (aiStopOrShake safety capabilities assessed dryRun allowStop allowComponent recommended
      actor runtime plan : Handler Event.work me AppError AiPlan) p (Returned p) := by
  unfold aiStopOrShake
  split
  · exact returned_done calm
  split
  · cases dryRun
    · exact returned_bind stopProcessLifecycle_follows fun _ _ settled => returned_done settled
    · exact returned_done calm
  split
  · refine returned_bind (returned_still (still_silent silent_runtimeState) calm) fun component q settled => ?_
    cases planShakeComponentAction capabilities component recommended with
    | none => exact returned_done settled
    | some action =>
        cases dryRun
        · exact returned_bind (executeComponentControl_follows settled) fun _ _ settled => returned_done settled
        · exact returned_done settled
  · exact returned_done calm

theorem still_aiProcessStartBlockReason {assessed : AiControlSafety} {runtime : RuntimeState} {allow : Bool} :
    Still safety p (aiProcessStartBlockReason assessed runtime allow : Handler Event.work me AppError (Option String)) := by
  unfold aiProcessStartBlockReason
  split
  · exact still_done
  split
  · exact still_done
  split
  · exact still_done
  split
  · exact still_done
  · exact still_bind (still_silent silent_unfinishedBatches) fun _ => still_done

theorem still_generateRecommendation :
    Still safety p (generateRecommendation : Handler Event.work me AppError Recommendation) := by
  refine still_bind (still_silent (Section.silent_mapError silent_query _)) fun sources => ?_
  split
  · exact still_done
  split
  · exact still_done
  · refine still_bind (still_silent silent_answer) fun env => ?_
    split
    · exact still_done
    · exact still_ofExcept

theorem still_aiRecommendation {dryRun allow : Bool} {actor : AuditActor} :
    Still safety p (aiRecommendation dryRun allow actor : Handler Event.work me AppError (Option Recommendation)) := by
  refine still_bind (still_silent (Section.silent_mapError silent_query _)) fun stored => ?_
  cases stored with
  | some recommendation => exact still_done
  | none =>
      dsimp only
      split
      · refine still_bind still_generateRecommendation fun recommendation => ?_
        cases dryRun with
        | false => exact still_bind (still_orInternal still_within_quiet) fun _ => still_done
        | true => exact still_done
      · exact still_done

theorem still_aiAuditDecision {recommended : Option ControlTargets} {rationale : String} {plan : AiPlan} {actor : AuditActor} :
    Still safety p (aiAuditDecision recommended rationale plan actor : Handler Event.work me AppError Unit) := by
  refine still_bind (still_silent silent_runtimeState) fun runtime => still_catching still_within_quiet fun err => ?_
  dsimp only
  split
  · exact still_bind still_within_quiet fun _ => still_done
  · exact still_done

theorem still_aiEnsureAllowed {assessed : AiControlSafety} {dryRun : Bool} (calm : p.Undisturbed) :
    Still safety p (aiEnsureAllowed assessed dryRun : Handler Event.work me AppError Unit) := by
  unfold aiEnsureAllowed
  split
  · exact still_done
  split
  · exact still_done
  split
  · exact still_bind (still_within (still_field calm)) fun _ => still_done
  · exact still_done

theorem still_aiControlSafety {limits : SensorLimits} {runtime : RuntimeState} :
    Still safety p (aiControlSafety safety limits runtime : Handler Event.work me AppError AiControlSafety) := by
  refine still_bind (still_silent silent_unfinishedBatchStatus) fun batchStatus => ?_
  refine still_bind (still_silent silent_liveAlarmsFor) fun alarms => ?_
  refine still_bind (still_silent ?_) fun status => still_done
  exact Section.silent_bind silent_deviceStatusSummaryWithDb fun _ => Section.silent_bind silent_utcNow fun _ =>
    Section.silent_pure _

theorem aiControl_follows {limits : SensorLimits} {capabilities : List DeviceComponentCapability} {payload : AiControlRequest}
    {actor : AuditActor} (calm : p.Undisturbed) :
    (rules safety).follows (aiControl safety limits capabilities payload actor : Handler Event.work me AppError AiControlResponse)
      p (Returned p) := by
  unfold aiControl
  refine follows_checked (fun dryRun _ => ?_) fun _ => returned_error rfl
  refine follows_checked (fun allowStart _ => ?_) fun _ => returned_error rfl
  refine follows_checked (fun allowStop _ => ?_) fun _ => returned_error rfl
  refine follows_checked (fun allowComponent _ => ?_) fun _ => returned_error rfl
  refine follows_checked (fun allowTargets _ => ?_) fun _ => returned_error rfl
  refine follows_checked (fun _ _ => ?_) fun _ => returned_error rfl
  refine follows_still (still_silent silent_runtimeState) (fun runtime => ?_) fun _ => returned_error rfl
  have disable : Still safety p (within disableAutoControl : Handler Event.work me AppError Unit) :=
    still_within (still_field calm)
  refine follows_still (still_catching still_timed fun err => ?_) (fun _ => ?_) fun _ => returned_error rfl
  · dsimp only
    split
    · exact still_bind disable fun _ => still_done
    · exact still_done
  refine follows_still still_aiControlSafety (fun assessed => ?_) fun _ => returned_error rfl
  refine follows_still (still_aiEnsureAllowed calm) (fun _ => ?_) fun _ => returned_error rfl
  refine follows_still still_aiProcessStartBlockReason (fun blocked => ?_) fun _ => returned_error rfl
  refine follows_still still_aiRecommendation (fun recommendation => ?_) fun _ => returned_error rfl
  refine follows_checked (fun recommended _ => ?_) fun _ => returned_error rfl
  refine returned_bind (aiAdjustTargets_follows calm) fun plan q settled => ?_
  refine follows_still (still_silent silent_answer) (fun env => ?_) fun _ => returned_error rfl
  refine follows_checked (fun selected _ => ?_) fun _ => returned_error rfl
  refine returned_bind (aiStartProcess_follows settled) fun plan q settled => ?_
  refine follows_still (still_silent silent_runtimeState) (fun live => ?_) fun _ => returned_error rfl
  refine returned_bind (aiStopOrShake_follows settled) fun plan q settled => ?_
  dsimp only
  split
  · exact returned_still (still_bind still_aiAuditDecision fun _ => still_done) settled
  · exact returned_done settled

end ReactorOS
