import ReactorOS.AiAlarms
import ReactorOS.Behaviours
import ReactorOS.EmergencyStop
namespace ReactorOS
open Concurrency Journal Task
variable {safety : SafetyConfig} {limits : SensorLimits} {capabilities : List DeviceComponentCapability} {actor : AuditActor} {me : TaskId}
  {α β ε : Type}

-- What a request has looked at on its way.
structure AiReads where
  dryRun : Bool
  flags : AiFlags
  runtime : RuntimeState
  assessed : AiControlSafety
  unfinished : List Batch
  recommendation : Option Recommendation
  live : RuntimeState
  component : Option RuntimeState

structure AiSeen where
  reads : AiReads
  response : AiControlResponse

-- The unfinished batches, where nothing before them stands against a start.
def aiUnfinished (assessed : AiControlSafety) (runtime : RuntimeState) (allowProcessStart : Bool) :
    Handler Event.work me AppError (List Batch) :=
  if !(allowProcessStart && runtime.activeBatchId.isNone) then return []
  else if assessed.batchRecoveryRequired then return []
  else if !assessed.deviceOnline then return []
  else if 0 < assessed.highAlarmCount then return []
  else locked (orInternalLocked (unfinishedBatchesSqlx 100))

def startBlockReason (assessed : AiControlSafety) (runtime : RuntimeState) (allowProcessStart : Bool) (unfinished : List Batch) :
    Option String :=
  if !(allowProcessStart && runtime.activeBatchId.isNone) then none
  else if assessed.batchRecoveryRequired then
    some (match assessed.unfinishedBatchIds with
      | batchId :: _ => s!"database still has unfinished batch {batchId}; AI process start blocked until production state is closed"
      | [] => "runtime active batch is not backed by an unfinished database record; AI process start blocked until production state is repaired")
  else if !assessed.deviceOnline then some "device is offline or unhealthy; AI process start blocked"
  else if 0 < assessed.highAlarmCount then some "high level alarm is active; AI process start blocked"
  else unfinished.head?.map fun batch =>
    s!"database still has unfinished batch {batch.id}; AI process start blocked until production state is closed"

-- The runtime state that the shaker goes by, where it is reached.
def aiComponentRuntime (assessed : AiControlSafety) (flags : AiFlags) (runtimeAfterProcess : RuntimeState) :
    Handler Event.work me AppError (Option RuntimeState) :=
  if runtimeAfterProcess.activeBatchId.isNone then return none
  else if flags.allowProcessStop && shouldAiStopProcess runtimeAfterProcess.latestSample assessed then return none
  else if flags.allowComponentControl then do
    let componentRuntime ← locked runtimeState
    return some componentRuntime
  else return none

def aiStopOrShakeAt (safety : SafetyConfig) (capabilities : List DeviceComponentCapability) (assessed : AiControlSafety)
    (dryRun : Bool) (flags : AiFlags) (recommended : Option ControlTargets) (actor : AuditActor)
    (runtimeAfterProcess : RuntimeState) (component : Option RuntimeState) (plan : AiPlan) : Handler Event.work me AppError AiPlan :=
  if runtimeAfterProcess.activeBatchId.isNone then return plan
  else if flags.allowProcessStop && shouldAiStopProcess runtimeAfterProcess.latestSample assessed then do
    if !dryRun then
      let _ ← stopProcessLifecycle safety none "ai_process_stopped" none actor
    return plan.stop dryRun
  else match component.bind fun runtime => planShakeComponentAction capabilities runtime recommended with
    | none => return plan
    | some action => do
        if !dryRun then
          let _ ← executeComponentControl safety capabilities "reactor_001" "shake_stepper" action
            "ai_component_control" actor
        return plan.shake dryRun action

-- The handler, with what it has looked at beside its response.
def aiControlSeen (safety : SafetyConfig) (limits : SensorLimits) (capabilities : List DeviceComponentCapability) (payload : AiControlRequest)
    (actor : AuditActor) : Handler Event.work me AppError AiSeen := do
  let dryRun := (← Task.ofExcept (optionalPresentBool payload.dryRun "dry_run")).getD true
  let flags ← Task.ofExcept payload.flags
  let runtime ← locked runtimeState
  catching (timed fun now => ensureFreshSample safety now runtime) fun err => do
    if !dryRun then within disableAutoControl
    throw err
  let assessed ← aiControlSafety safety limits runtime
  aiEnsureAllowed assessed dryRun
  let unfinished ← aiUnfinished assessed runtime flags.allowProcessStart
  let blocked := startBlockReason assessed runtime flags.allowProcessStart unfinished
  let recommendation ← aiRecommendation dryRun flags.allowTargetAdjustment actor
  let recommended ← Task.ofExcept (recommendation.mapM (aiTargetsFromRecommendation safety runtime))
  let plan ← aiAdjustTargets safety runtime dryRun flags.allowTargetAdjustment recommended actor ⟨"hold",[]⟩
  let env ← locked answer
  let selected ← Task.ofExcept env.selectedProcess
  let plan ← aiStartProcess safety runtime dryRun flags.allowProcessStart blocked selected actor plan
  let live ← locked runtimeState
  let runtimeAfterProcess := aiRuntimeAfterProcess dryRun runtime live plan
  let component ← aiComponentRuntime assessed flags runtimeAfterProcess
  let plan ← aiStopOrShakeAt safety capabilities assessed dryRun flags recommended actor runtimeAfterProcess component plan
  let rationale := aiRationale flags.requestedIntent plan
  let plan := aiFinishPlan plan
  if !dryRun then aiAuditDecision recommended rationale plan actor
  return ⟨⟨dryRun,flags,runtime,assessed,unfinished,recommendation,live,component⟩,
    ⟨dryRun,plan.decision,recommended,plan.actions⟩⟩

theorem blockReason_unfinished (assessed : AiControlSafety) (runtime : RuntimeState) (allow : Bool) :
    (aiProcessStartBlockReason assessed runtime allow : Handler Event.work me AppError (Option String)) =
      aiUnfinished assessed runtime allow >>= fun unfinished => pure (startBlockReason assessed runtime allow unfinished) := by
  unfold aiProcessStartBlockReason aiUnfinished startBlockReason
  split_ifs <;> rfl

theorem stopOrShake_component (assessed : AiControlSafety) (dryRun : Bool) (flags : AiFlags)
    (recommended : Option ControlTargets) (runtimeAfterProcess : RuntimeState) (plan : AiPlan) :
    (aiStopOrShake safety capabilities assessed dryRun flags.allowProcessStop flags.allowComponentControl recommended actor
      runtimeAfterProcess plan : Handler Event.work me AppError AiPlan) =
      aiComponentRuntime assessed flags runtimeAfterProcess >>= fun component =>
        aiStopOrShakeAt safety capabilities assessed dryRun flags recommended actor runtimeAfterProcess component plan := by
  unfold aiStopOrShake aiComponentRuntime aiStopOrShakeAt
  split_ifs <;> rfl

-- Without what it has looked at it is the handler.
theorem aiControl_seen (payload : AiControlRequest) :
    (aiControl safety limits capabilities payload actor : Handler Event.work me AppError AiControlResponse) =
      aiControlSeen safety limits capabilities payload actor >>= fun seen => pure seen.response := by
  have last : ∀ (carried : Bool) (audit : Handler Event.work me AppError Unit) (seen : AiSeen),
      (if carried = true then audit >>= fun _ => done (.ok seen) else done (.ok seen)) >>=
          (fun seen => done (.ok seen.response)) =
        if carried = true then audit >>= fun _ => done (.ok seen.response) else done (.ok seen.response) := by
    intro carried audit seen
    cases carried with
    | true => simp only [if_true,Task.bind_assoc,Task.bind_ok]
    | false => rfl
  rw [aiControl_flags]
  unfold aiControlSeen aiCarryOut aiAssess aiCarryOn aiActs
  simp only [blockReason_unfinished,stopOrShake_component,Task.bind_assoc,pure_done,Task.bind_ok,last]

-- Something has been done, or in a dry run planned.
def acted (dryRun : Bool) (actions : List AiControlAction) : Bool :=
  actions.any fun action => action.status = if dryRun then .planned else .executed

def anyBlocked (actions : List AiControlAction) : Bool := actions.any fun action => action.status = .blocked

def AiControlResponse.acts (response : AiControlResponse) : Bool := acted response.dryRun response.actions

-- The last that a request has done is to record this decision.
def Audited (me : TaskId) (moments : Moments) (decision : String) : Prop :=
  ∃ earlier last event reason, moments = earlier ++ [last] ∧ (me,.store (.controlEventInserted event)) ∈ last.recorded ∧
    event.eventType = "ai_master_decision" ∧ event.reason = AiControlAuditReason.toJson reason ∧ reason.decision = decision

structure Truthful (me : TaskId) (moments : Moments) (response : AiControlResponse) : Prop where
  reported : response.decision = "hold" ↔ response.acts = false
  audited : response.dryRun = false → ∃ decision, Audited me moments decision ∧ (decision = "hold" ↔ response.acts = false)

namespace AiReads
variable (safety : SafetyConfig) (capabilities : List DeviceComponentCapability) (reads : AiReads)

def recommended : Option ControlTargets :=
  match reads.recommendation.mapM (aiTargetsFromRecommendation safety reads.runtime) with
  | .ok targets => targets
  | .error _ => none

-- A process start was due to be considered, and something stood against it.
def startBlocked : Bool :=
  reads.flags.allowProcessStart && reads.runtime.activeBatchId.isNone &&
    (reads.assessed.batchRecoveryRequired || !reads.assessed.deviceOnline || decide (0 < reads.assessed.highAlarmCount) ||
      !reads.unfinished.isEmpty)

def adjusts : Bool :=
  reads.flags.allowTargetAdjustment && (reads.recommended safety).any (targetsDiffer reads.runtime.targets)

def stops : Bool := reads.flags.allowProcessStop && shouldAiStopProcess reads.live.latestSample reads.assessed

def shakes : Bool :=
  reads.component.any fun component => (planShakeComponentAction capabilities component (reads.recommended safety)).isSome

-- A start is blocked, but the targets are adjusted all the same, or a batch that somebody else has
-- started in the meantime is stopped or shaken.
def Overruled : Prop :=
  reads.startBlocked = true ∧ (reads.adjusts safety = true ∨ reads.dryRun = false ∧ reads.live.activeBatchId.isSome = true ∧
    (reads.stops = true ∨ reads.shakes safety capabilities = true))

end AiReads

-- What holds of a result, if there is one.
def Gives (Q : Moments → α → Prop) (moments : Moments) (result : Except ε α) : Prop := ∀ value, result = .ok value → Q moments value

theorem gives_done {Q : Moments → α → Prop} {value : α} (holds : Q [] value) :
    (done (.ok value) : Handler Event.work me AppError α).behaves (Gives Q) := by
  intro other same
  cases same
  exact holds

theorem gives_seq {t : Handler Event.work me AppError α} {k : α → Handler Event.work me AppError β} {F : α → Prop}
    {Q : Moments → β → Prop} (later : ∀ front moments value, Q moments value → Q (front ++ moments) value)
    (first : t.behaves (Gives fun _ => F)) (rest : ∀ value, F value → (k value).behaves (Gives Q)) :
    (t >>= k).behaves (Gives Q) := by
  refine behaves_seq first ?_ ?_
  · intro moments value held
    refine behaves_mono ?_ (rest value (held value rfl))
    intro behind result given last same
    exact later moments behind last (given last same)
  · intro moments err _ value same
    cases same

theorem gives_anything (t : Handler Event.work me AppError α) : t.behaves (Gives fun _ _ => True) :=
  behaves_mono (fun _ _ _ _ _ => trivial) (behaves_true t)

theorem gives_plain {t : Handler Event.work me AppError α} {k : α → Handler Event.work me AppError β}
    {Q : Moments → β → Prop} (later : ∀ front moments value, Q moments value → Q (front ++ moments) value)
    (rest : ∀ value, (k value).behaves (Gives Q)) : (t >>= k).behaves (Gives Q) :=
  gives_seq later (gives_anything t) fun value _ => rest value

theorem gives_ofExcept {found : Except AppError α} {k : α → Handler Event.work me AppError β} {Q : Moments → β → Prop}
    (rest : ∀ value, found = .ok value → (k value).behaves (Gives Q)) : (Task.ofExcept found >>= k).behaves (Gives Q) :=
  behaves_ofExcept (fun _ _ _ same => by cases same) rest

-- What a dry run leaves out does not change what comes of it.
theorem gives_carried {carried : Bool} {t : Handler Event.work me AppError β} {Q : α → Prop} {value : α} (holds : Q value) :
    (if carried = true then t >>= fun _ => pure value else pure value : Handler Event.work me AppError α).behaves
      (Gives fun _ => Q) := by
  cases carried with
  | true => exact gives_plain (fun _ _ _ held => held) fun _ => gives_done holds
  | false => exact gives_done holds

section Plans
variable {dryRun : Bool} {plan : AiPlan}

-- The decision is not to act just as long as nothing has been done.
def Honest (dryRun : Bool) (plan : AiPlan) : Prop := plan.decision = "hold" ↔ acted dryRun plan.actions = false

-- The decisions before the last part, and all of them.
def openDecisions : List String := ["hold","adjust_targets","start_process","adjust_targets_and_start_process"]

def actingDecisions : List String :=
  openDecisions.tail ++ ["stop_process","control_shake_vessel"] ++ openDecisions.tail.map (· ++ "_and_control_shake")

theorem acted_push (actionType : AiActionType) (target message : String) (status : AiActionStatus) :
    acted dryRun (plan.push actionType target status message).actions =
      (acted dryRun plan.actions || decide (status = if dryRun then .planned else .executed)) := by
  unfold acted AiPlan.push
  rw [List.any_append,List.any_cons,List.any_nil,Bool.or_false]

theorem anyBlocked_push (actionType : AiActionType) (target message : String) (status : AiActionStatus) :
    anyBlocked (plan.push actionType target status message).actions =
      (anyBlocked plan.actions || decide (status = .blocked)) := by
  unfold anyBlocked AiPlan.push
  rw [List.any_append,List.any_cons,List.any_nil,Bool.or_false]

theorem label_plain {text : String} {chars : List Char} (reads : text.toList = chars)
    (plain : (normalizeChars 120 chars [] false).reverse = chars) (filled : text ≠ "") :
    cleanLabel (some text) "hold" 120 = text := by
  have normal : normalizeOperatorText text 120 = text := by
    rw [normalizeOperatorText,reads,plain,← reads,String.ofList_toList]
  have visible : text.isEmpty = false := by simpa using filled
  simp only [cleanLabel,Option.bind_some,normal,visible]
  rfl

theorem label_kept : ∀ decision ∈ "hold" :: actingDecisions, cleanLabel (some decision) "hold" 120 = decision := by
  intro decision known
  simp only [actingDecisions,openDecisions,List.tail_cons,List.map_cons,List.map_nil,List.cons_append,List.nil_append,
    List.mem_cons,List.not_mem_nil,or_false,String.reduceAppend] at known
  rcases known with rfl | rfl | rfl | rfl | rfl | rfl | rfl | rfl | rfl
  all_goals exact label_plain (toList_literal rfl) (by decide) (by decide)

theorem shakeDecision_acting {decision : String} (known : decision ∈ openDecisions) :
    aiShakeDecision decision ∈ actingDecisions := by
  unfold aiShakeDecision actingDecisions
  split_ifs with hold named
  · decide
  all_goals have acting : decision ∈ openDecisions.tail := (List.mem_cons.mp known).resolve_left hold
  · exact List.mem_append_left _ (List.mem_append_left _ acting)
  · exact List.mem_append_right _ (List.mem_map.mpr ⟨decision,acting,rfl⟩)

theorem acting_decides {decision : String} (acting : decision ∈ actingDecisions) : decision ≠ "hold" := by
  rintro rfl
  revert acting
  decide +kernel

-- A part that is done decides to act.
theorem honest_acted {decision : String} {actions : List AiControlAction} (acting : decision ∈ actingDecisions)
    (done : acted dryRun actions = true) : Honest dryRun ⟨decision,actions⟩ := by
  refine iff_of_false (acting_decides acting) ?_
  rw [done]
  exact Bool.noConfusion

theorem status_done : decide ((if dryRun then AiActionStatus.planned else .executed) = if dryRun then .planned else .executed) =
    true := decide_eq_true rfl

theorem done_unblocked : decide ((if dryRun then AiActionStatus.planned else .executed) = .blocked) = false := by
  cases dryRun <;> rfl

theorem skipped_undone : decide (AiActionStatus.skipped = if dryRun then .planned else .executed) = false := by
  cases dryRun <;> rfl

theorem blocked_undone : decide (AiActionStatus.blocked = if dryRun then .planned else .executed) = false := by
  cases dryRun <;> rfl

end Plans

section Parts
variable {dryRun : Bool} {flags : AiFlags} {runtime : RuntimeState} {recommended : Option ControlTargets} {plan : AiPlan}
  {assessed : AiControlSafety}

-- The plan once the targets have been dealt with.
structure Adjusted (dryRun adjusts : Bool) (plan : AiPlan) : Prop where
  honest : Honest dryRun plan
  decision : plan.decision ∈ openDecisions
  acts : acted dryRun plan.actions = adjusts
  unblocked : anyBlocked plan.actions = false
  unstarted : ∀ action ∈ plan.actions, action.actionType ≠ .processStart

theorem adjustTargets_gives {allow : Bool} :
    (aiAdjustTargets safety runtime dryRun allow recommended actor ⟨"hold",[]⟩ : Handler Event.work me AppError AiPlan).behaves
      (Gives fun _ => Adjusted dryRun (allow && recommended.any (targetsDiffer runtime.targets))) := by
  have idle : Adjusted dryRun false ⟨"hold",[]⟩ := ⟨iff_of_true rfl rfl,by decide,rfl,rfl,fun _ none' => absurd none' List.not_mem_nil⟩
  unfold aiAdjustTargets
  cases recommended with
  | none =>
      rw [Option.any_none,Bool.and_false]
      refine gives_done ?_
      cases allow with
      | false => exact idle
      | true =>
          refine ⟨?_,idle.decision,?_,?_,?_⟩
          · refine iff_of_true rfl ?_
            rw [if_pos rfl,acted_push,skipped_undone]
            rfl
          · rw [if_pos rfl,acted_push,skipped_undone]
            rfl
          · rfl
          · simp [AiPlan.push]
  | some targets =>
      rw [Option.any_some]
      cases adjusts : allow && targetsDiffer runtime.targets targets with
      | false =>
          simp only [adjusts]
          exact gives_done idle
      | true =>
          simp only [adjusts,if_true]
          refine gives_carried ?_
          have done : acted dryRun (AiPlan.push ⟨"hold",[]⟩ .targetAdjustment "/api/v1/reactor/reactor_001/control"
              (if dryRun then .planned else .executed)
              "apply latest AI batch recommendation to safe runtime targets").actions = true := by
            rw [acted_push,status_done,Bool.or_true]
          have known : "adjust_targets" ∈ openDecisions := by decide
          refine ⟨honest_acted (by decide +kernel) done,known,done,?_,?_⟩
          · cases dryRun <;> rfl
          · simp [AiPlan.push]

theorem honest_push {actionType : AiActionType} {target message : String} {status : AiActionStatus} (honest : Honest dryRun plan)
    (undone : decide (status = if dryRun then .planned else .executed) = false) :
    Honest dryRun (plan.push actionType target status message) := by
  unfold Honest
  rw [acted_push,undone,Bool.or_false]
  exact honest

-- The plan once a start has been considered.
structure Considered (dryRun adjusts against : Bool) (plan : AiPlan) : Prop where
  honest : Honest dryRun plan
  decision : plan.decision ∈ openDecisions
  blocked : anyBlocked plan.actions = against
  held : against = true → acted dryRun plan.actions = adjusts ∧
    (plan.actions.any fun action => action.actionType = .processStart ∧ action.status = .planned) = false

theorem startProcess_gives {adjusts allow : Bool} {blocked : Option String} {selected : Option ProcessDefinition}
    (adjusted : Adjusted dryRun adjusts plan) :
    (aiStartProcess safety runtime dryRun allow blocked selected actor plan : Handler Event.work me AppError AiPlan).behaves
      (Gives fun _ => Considered dryRun adjusts blocked.isSome) := by
  unfold aiStartProcess
  split
  · rename_i free
    have unblocked : blocked.isSome = false := by
      rw [← Option.not_isNone,(Bool.and_eq_true_iff.mp free).2]
      rfl
    rw [unblocked]
    cases selected with
    | none =>
        refine gives_done ⟨honest_push adjusted.honest skipped_undone,adjusted.decision,?_,nofun⟩
        rw [anyBlocked_push,adjusted.unblocked]
        rfl
    | some process =>
        refine gives_carried ?_
        have done : acted dryRun (plan.push .processStart s!"/api/processes/{process.id}/start"
            (if dryRun then .planned else .executed) s!"AI selected runnable process '{process.name}'").actions = true := by
          rw [acted_push,status_done,Bool.or_true]
        have started : "start_process" ∈ openDecisions ∧ "adjust_targets_and_start_process" ∈ openDecisions ∧
            "start_process" ∈ actingDecisions ∧ "adjust_targets_and_start_process" ∈ actingDecisions := by decide +kernel
        obtain ⟨alone,both,aloneActs,bothAct⟩ := started
        refine ⟨honest_acted ?_ done,?_,?_,nofun⟩
        · split_ifs
          · exact bothAct
          · exact aloneActs
        · simp only
          split_ifs
          · exact both
          · exact alone
        · exact (anyBlocked_push _ _ _ _).trans (by rw [adjusted.unblocked,done_unblocked]; rfl)
  · cases blocked with
    | some reason =>
        refine gives_done ⟨honest_push adjusted.honest blocked_undone,adjusted.decision,?_,fun _ => ⟨?_,?_⟩⟩
        · rw [anyBlocked_push,adjusted.unblocked]
          rfl
        · rw [acted_push,blocked_undone,Bool.or_false,adjusted.acts]
        · rw [AiPlan.push,List.any_append,Bool.or_eq_false_iff]
          refine ⟨List.any_eq_false.mpr fun action member => ?_,rfl⟩
          simp [adjusted.unstarted action member]
    | none => exact gives_done ⟨adjusted.honest,adjusted.decision,adjusted.unblocked,nofun⟩

-- The plan with its last part.
structure Completed (dryRun against acts : Bool) (plan : AiPlan) : Prop where
  honest : Honest dryRun plan
  decision : plan.decision ∈ "hold" :: actingDecisions
  blocked : anyBlocked plan.actions = against
  acts : acted dryRun plan.actions = acts

theorem open_known {decision : String} (known : decision ∈ openDecisions) : decision ∈ "hold" :: actingDecisions := by
  have all : ∀ decision ∈ openDecisions, decision ∈ "hold" :: actingDecisions := by decide +kernel
  exact all decision known

theorem stopOrShakeAt_gives {component : Option RuntimeState} {adjusts against : Bool} (considered : Considered dryRun adjusts against plan) :
    (aiStopOrShakeAt safety capabilities assessed dryRun flags recommended actor runtime component plan :
      Handler Event.work me AppError AiPlan).behaves (Gives fun _ => Completed dryRun against (acted dryRun plan.actions ||
        (!runtime.activeBatchId.isNone && (flags.allowProcessStop && shouldAiStopProcess runtime.latestSample assessed ||
          component.any fun component => (planShakeComponentAction capabilities component recommended).isSome)))) := by
  have idle : Completed dryRun against (acted dryRun plan.actions) plan :=
    ⟨considered.honest,open_known considered.decision,considered.blocked,rfl⟩
  have still : ∀ (actionType : AiActionType) (target message : String),
      anyBlocked (plan.push actionType target (if dryRun then .planned else .executed) message).actions = against := by
    intro actionType target message
    rw [anyBlocked_push,done_unblocked,considered.blocked,Bool.or_false]
  unfold aiStopOrShakeAt
  split
  · rename_i inactive
    rw [inactive,Bool.not_true,Bool.false_and,Bool.or_false]
    exact gives_done idle
  rename_i active
  rw [Bool.eq_false_iff.mpr active,Bool.not_false,Bool.true_and]
  split
  · rename_i stops
    rw [stops,Bool.true_or,Bool.or_true]
    refine gives_carried ?_
    have done : acted dryRun (plan.stop dryRun).actions = true := by
      exact (acted_push _ _ _ _).trans (by rw [status_done,Bool.or_true])
    have known : "stop_process" ∈ actingDecisions := by decide +kernel
    exact ⟨honest_acted known done,List.mem_cons_of_mem _ known,still _ _ _,done⟩
  rename_i unstopped
  rw [Bool.eq_false_iff.mpr unstopped,Bool.false_or]
  have found : (component.any fun component => (planShakeComponentAction capabilities component recommended).isSome) =
      (component.bind fun runtime => planShakeComponentAction capabilities runtime recommended).isSome := by
    cases component <;> rfl
  rw [found]
  cases component.bind fun runtime => planShakeComponentAction capabilities runtime recommended with
  | none =>
      rw [Option.isSome_none,Bool.or_false]
      exact gives_done idle
  | some action =>
      rw [Option.isSome_some,Bool.or_true]
      refine gives_carried ?_
      have done : acted dryRun (plan.shake dryRun action).actions = true := by
        exact (acted_push _ _ _ _).trans (by rw [status_done,Bool.or_true])
      have known := shakeDecision_acting considered.decision
      exact ⟨honest_acted known done,List.mem_cons_of_mem _ known,still _ _ _,done⟩

structure Finished (dryRun against acts : Bool) (plan : AiPlan) : Prop where
  decision : plan.decision = "hold" ↔ against = true ∨ acts = false
  known : plan.decision ∈ "hold" :: actingDecisions
  acts : acted dryRun plan.actions = acts

theorem finish_tells {against acts : Bool} (completed : Completed dryRun against acts plan) :
    Finished dryRun against acts (aiFinishPlan plan) := by
  obtain ⟨honest,known,blocked,done⟩ := completed
  have overruled : Finished dryRun against acts
      (if plan.actions.any (fun action => action.status = .blocked) then {plan with decision := "hold"} else plan) := by
    change anyBlocked plan.actions = against at blocked
    unfold anyBlocked at blocked
    rw [blocked]
    unfold Honest at honest
    rw [done] at honest
    cases against with
    | true => exact ⟨iff_of_true rfl (.inl rfl),List.mem_cons_self,done⟩
    | false => exact ⟨honest.trans (by simp),known,done⟩
  unfold aiFinishPlan
  simp only
  generalize (if plan.actions.any (fun action => action.status = .blocked) then {plan with decision := "hold"} else plan) =
    finished at overruled
  split
  · exact ⟨overruled.decision,overruled.known,by rw [acted_push,skipped_undone,Bool.or_false,overruled.acts]⟩
  · exact overruled

theorem audited_later {decision : String} (front moments : Moments) (audited : Audited me moments decision) :
    Audited me (front ++ moments) decision := by
  obtain ⟨earlier,last,event,reason,same,recorded,type,text,carried⟩ := audited
  exact ⟨front ++ earlier,last,event,reason,by rw [same,List.append_assoc],recorded,type,text,carried⟩

theorem insert_records {batchId : Option Int} {eventType reason : String} {command : Option SafeCommand} :
    (insertControlEventSqlx batchId eventType command reason actor : Handler Event.quiet me Failure Unit).behaves
      fun moments result => result = .ok () → ∃ last, moments = [last] ∧
        (me,.store (.controlEventInserted ⟨batchId,eventType,command,reason,actor⟩)) ∈ last.recorded := by
  unfold insertControlEventSqlx
  rw [behaves_locked]
  intro e w
  rw [run_statement]
  cases e.db with
  | done => exact fun _ => ⟨_,rfl,by simp⟩
  | failed error => exact nofun
  | lost error => exact nofun

-- Where the audit goes through, its row carries the decision.
theorem auditDecision_gives {rationale : String} (known : plan.decision ∈ "hold" :: actingDecisions) :
    (aiAuditDecision recommended rationale plan actor : Handler Event.work me AppError Unit).behaves
      (Gives fun moments _ => Audited me moments plan.decision) := by
  unfold aiAuditDecision
  refine gives_plain (fun front moments _ held => audited_later front moments held) fun live => ?_
  refine behaves_catching.mpr (behaves_within.mpr (behaves_mono ?_ insert_records))
  intro moments result inserted
  cases result with
  | ok value =>
      obtain ⟨last,same,recorded⟩ := inserted rfl
      intro _ _
      refine ⟨[],last,_,aiControlAuditReason plan.decision rationale plan.actions,same,recorded,?_,?_,?_⟩
      · rfl
      · rfl
      · dsimp only [aiControlAuditReason]
        exact label_kept plan.decision known
  | error err =>
      have fails : (if aiActionsIncludeExecutedDeviceAction plan.actions then do
          within (latchTailFailureAfterDeviceAction "AI master decision audit" err.alternate)
          throw (.internal err)
        else throw (.internal err) : Handler Event.work me AppError Unit).behaves Fails := by
        split
        · exact fails_after fun _ => fails_throw _
        · exact fails_throw _
      refine behaves_mono ?_ fails
      intro later result never value returned
      exact absurd returned (never value)

end Parts

theorem startBlockReason_some (assessed : AiControlSafety) (runtime : RuntimeState) (allow : Bool) (unfinished : List Batch) :
    (startBlockReason assessed runtime allow unfinished).isSome = (allow && runtime.activeBatchId.isNone &&
      (assessed.batchRecoveryRequired || !assessed.deviceOnline || decide (0 < assessed.highAlarmCount) || !unfinished.isEmpty)) := by
  unfold startBlockReason
  split_ifs with idle recovery offline alarm
  · rw [Bool.not_eq_true'] at idle
    rw [idle]
    rfl
  all_goals rw [Bool.not_eq_true',Bool.not_eq_false] at idle
  all_goals rw [idle]
  · simp [recovery]
  · simp [offline]
  · simp [alarm]
  · simp only [recovery,offline,alarm]
    cases unfinished <;> rfl

-- What a response shows, by what the request has looked at.
structure Shown (safety : SafetyConfig) (capabilities : List DeviceComponentCapability) (reads : AiReads)
    (response : AiControlResponse) : Prop where
  dryRun : response.dryRun = reads.dryRun
  decision : response.decision = "hold" ↔ reads.startBlocked = true ∨ response.acts = false
  acts : reads.startBlocked = true → (response.acts = true ↔ reads.adjusts safety = true ∨
    reads.dryRun = false ∧ reads.live.activeBatchId.isSome = true ∧ (reads.stops = true ∨ reads.shakes safety capabilities = true))

theorem shown_finished {dryRun : Bool} {flags : AiFlags} {runtime live : RuntimeState} {assessed : AiControlSafety}
    {unfinished : List Batch} {recommendation : Option Recommendation} {recommended : Option ControlTargets}
    {component : Option RuntimeState} {plan finished : AiPlan}
    (found : recommendation.mapM (aiTargetsFromRecommendation safety runtime) = .ok recommended)
    (considered : Considered dryRun (flags.allowTargetAdjustment && recommended.any (targetsDiffer runtime.targets))
      (startBlockReason assessed runtime flags.allowProcessStart unfinished).isSome plan)
    (ended : Finished dryRun (startBlockReason assessed runtime flags.allowProcessStart unfinished).isSome
      (acted dryRun plan.actions || (!(aiRuntimeAfterProcess dryRun runtime live plan).activeBatchId.isNone &&
        (flags.allowProcessStop && shouldAiStopProcess (aiRuntimeAfterProcess dryRun runtime live plan).latestSample assessed ||
          component.any fun component => (planShakeComponentAction capabilities component recommended).isSome))) finished) :
    Shown safety capabilities ⟨dryRun,flags,runtime,assessed,unfinished,recommendation,live,component⟩
      ⟨dryRun,finished.decision,recommended,finished.actions⟩ := by
  have same : AiReads.recommended safety ⟨dryRun,flags,runtime,assessed,unfinished,recommendation,live,component⟩ = recommended := by
    unfold AiReads.recommended
    rw [found]
  rw [startBlockReason_some] at considered ended
  refine ⟨rfl,?_,?_⟩
  · unfold AiControlResponse.acts
    rw [ended.acts]
    exact ended.decision
  · intro blocked
    obtain ⟨adjusts,unstarted⟩ := considered.held blocked
    have inactive : runtime.activeBatchId.isNone = true := by
      unfold AiReads.startBlocked at blocked
      simp only [Bool.and_eq_true] at blocked
      exact blocked.1.2
    unfold AiControlResponse.acts AiReads.adjusts AiReads.shakes AiReads.stops
    rw [same,ended.acts,adjusts]
    unfold aiRuntimeAfterProcess
    rw [unstarted]
    cases dryRun with
    | true => simp [inactive]
    | false => simp [← Option.not_isSome]

theorem aiControlSeen_gives (payload : AiControlRequest) :
    (aiControlSeen safety limits capabilities payload actor : Handler Event.work me AppError AiSeen).behaves
      (Gives fun moments seen => Shown safety capabilities seen.reads seen.response ∧
        (seen.response.dryRun = false → Audited me moments seen.response.decision)) := by
  have later : ∀ (front moments : Moments) (seen : AiSeen), (Shown safety capabilities seen.reads seen.response ∧
      (seen.response.dryRun = false → Audited me moments seen.response.decision)) →
      Shown safety capabilities seen.reads seen.response ∧
        (seen.response.dryRun = false → Audited me (front ++ moments) seen.response.decision) :=
    fun front moments seen held => ⟨held.1,fun carried => audited_later front moments (held.2 carried)⟩
  unfold aiControlSeen
  refine gives_ofExcept fun dryRun _ => gives_ofExcept fun flags _ => ?_
  refine gives_plain later fun runtime => gives_plain later fun _ => ?_
  refine gives_plain later fun assessed => gives_plain later fun _ => gives_plain later fun unfinished => ?_
  refine gives_plain later fun recommendation => gives_ofExcept fun recommended found => ?_
  refine gives_seq later adjustTargets_gives fun plan adjusted => ?_
  refine gives_plain later fun env => gives_ofExcept fun selected _ => ?_
  refine gives_seq later (startProcess_gives adjusted) fun plan considered => ?_
  refine gives_plain later fun live => gives_plain later fun component => ?_
  refine gives_seq later (stopOrShakeAt_gives considered) fun last completed => ?_
  have finished := finish_tells completed
  have shown : Shown safety capabilities
      ⟨dryRun.getD true,flags,runtime,assessed,unfinished,recommendation,live,component⟩
      ⟨dryRun.getD true,(aiFinishPlan last).decision,recommended,(aiFinishPlan last).actions⟩ :=
    shown_finished found considered finished
  cases mode : dryRun.getD true with
  | true =>
      rw [mode] at shown
      exact gives_done ⟨shown,nofun⟩
  | false =>
      rw [mode] at shown
      refine behaves_seq (auditDecision_gives finished.known) ?_ ?_
      · intro moments _ audited
        refine gives_done ⟨shown,fun _ => ?_⟩
        rw [List.append_nil]
        exact audited () rfl
      · intro moments err _ seen same
        cases same

-- The record is truthful unless a start is overruled.
theorem decision_truthful_iff (safety : SafetyConfig) (limits : SensorLimits) (capabilities : List DeviceComponentCapability)
    (payload : AiControlRequest) (actor : AuditActor) (me : TaskId) :
    (aiControl safety limits capabilities payload actor : Handler Event.work me AppError AiControlResponse) =
        aiControlSeen safety limits capabilities payload actor >>= (fun seen => pure seen.response) ∧
    (aiControlSeen safety limits capabilities payload actor : Handler Event.work me AppError AiSeen).behaves
      fun moments result => ∀ seen, result = .ok seen →
        (Truthful me moments seen.response ↔ ¬seen.reads.Overruled safety capabilities) := by
  refine ⟨aiControl_seen payload,behaves_mono ?_ (aiControlSeen_gives payload)⟩
  intro moments result given seen returned
  obtain ⟨shown,audited⟩ := given seen returned
  have reported : (seen.response.decision = "hold" ↔ seen.response.acts = false) ↔ ¬seen.reads.Overruled safety capabilities := by
    rw [shown.decision,AiReads.Overruled,not_and]
    constructor
    · intro tells blocked acting
      exact Bool.false_ne_true ((tells.mp (.inl blocked)).symm.trans ((shown.acts blocked).mpr acting))
    · intro holds
      refine ⟨?_,.inr⟩
      rintro (blocked | idle)
      · exact Bool.eq_false_iff.mpr fun acting => holds blocked ((shown.acts blocked).mp acting)
      · exact idle
  constructor
  · intro truthful
    exact reported.mp truthful.reported
  · intro ruled
    have told := reported.mpr ruled
    exact ⟨told,fun carried => ⟨_,audited carried,told⟩⟩

-- An alarm stands against a start, and the targets are set: the record says that nothing has been done.
theorem adjusted_targets_reported_as_hold : ∃ response, ((aiControl .shipped pressureLimits [] {dryRun := some (some false) } .system :
    Handler Event.work 0 AppError AiControlResponse).drive (fun _ => alarmedFacts.env 0) ⟨alarmedPlant,[]⟩).1 = .ok response ∧
      response.decision = "hold" ∧ response.acts = true ∧ ¬(response.decision = "hold" ↔ response.acts = false) := by
  have ran : ((aiControl .shipped pressureLimits [] {dryRun := some (some false) } .system :
      Handler Event.work 0 AppError AiControlResponse).drive (fun _ => alarmedFacts.env 0) ⟨alarmedPlant,[]⟩).1.toOption.map
        (fun response => (response.decision,response.acts)) = some ("hold",true) := by
    decide +kernel
  obtain ⟨response,returned,shown⟩ := Option.map_eq_some_iff.mp ran
  obtain ⟨decision,acts⟩ := Prod.mk.inj shown
  refine ⟨response,?_,decision,acts,fun truthful => ?_⟩
  · revert returned
    cases ((aiControl .shipped pressureLimits [] {dryRun := some (some false) } .system :
      Handler Event.work 0 AppError AiControlResponse).drive (fun _ => alarmedFacts.env 0) ⟨alarmedPlant,[]⟩).1 with
    | error err => exact nofun
    | ok value => exact fun same => congrArg Except.ok (Option.some.inj same)
  · rw [acts] at truthful
    exact Bool.noConfusion (truthful.mp decision)

end ReactorOS
