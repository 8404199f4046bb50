import ReactorOS.Ai
import ReactorOS.Concurrency.Alone
import ReactorOS.DeviceEffects
namespace ReactorOS
open Concurrency Journal Task Section
variable {safety : SafetyConfig} {limits : SensorLimits} {capabilities : List DeviceComponentCapability} {actor : AuditActor} {may may' : Event → Bool}
  {me : TaskId} {ε ε' α β γ : Type} {allows : Env → Prop} {w : World}

-- Rules for the forms that handlers are written in, where nobody comes in between.
theorem alone_locked {s : Critical may me ε α} {P : Except ε α → World → Prop} :
    (locked s : Handler may me ε α).alone allows w P ↔ ∀ e, allows e → P (s.run e w).1 (s.run e w).2 := Iff.rfl

theorem alone_within [Within may may'] {t : Handler may me ε α} {P : Except ε α → World → Prop} :
    (within t : Handler may' me ε α).alone allows w P ↔ t.alone allows w P := alone_relax _ t P

theorem alone_orInternal {t : Handler may me Failure α} {P : Except AppError α → World → Prop} :
    (orInternal t : Handler may me AppError α).alone allows w P ↔ t.alone allows w fun result => P (result.mapError .internal) :=
  alone_mapError _ t P

theorem alone_catching {t : Handler may me ε α} {handler : ε → Handler may me ε' α} {P : Except ε' α → World → Prop} :
    (catching t handler : Handler may me ε' α).alone allows w P ↔ t.alone allows w fun result after => match result with
      | .ok value => P (.ok value) after
      | .error error => (handler error).alone allows after P := by
  unfold catching
  rw [alone_bind,alone_attempt]
  constructor
  · intro holds
    apply alone_mono _ holds
    intro result after reached
    cases result with
    | ok value => exact reached
    | error error => exact reached
  · intro holds
    apply alone_mono _ holds
    intro result after reached
    cases result with
    | ok value => exact reached
    | error error => exact reached

theorem alone_ofExcept {found : Except ε α} {k : α → Handler may me ε β} {P : Except ε β → World → Prop}
    (error : ∀ err, found = .error err → P (.error err) w) (ok : ∀ value, found = .ok value → (k value).alone allows w P) :
    (Task.ofExcept found >>= k).alone allows w P := by
  cases found with
  | ok value => exact ok value rfl
  | error err => exact error err rfl

theorem alone_timed {check : Instant → Except AppError α} {P : Except AppError α → World → Prop} :
    (timed check : Handler may me AppError α).alone allows w P ↔ ∀ e, allows e → P (check e.now) w := Iff.rfl

theorem alone_writeTargets {writer : Writer} {command : SafeCommand} {P : Except Failure Unit → World → Prop} :
    (writeTargets writer command : Handler Event.work me Failure Unit).alone allows w P ↔
      ∀ e, allows e → P e.device (w.emit me (.commanded writer (some command) e.device.isOk)) := Iff.rfl

-- A look at the state and at the answer, and what follows it.
theorem alone_look {s : Critical may me ε α} {k : α → Handler may me ε β} {P : Except ε β → World → Prop} (silent : s.Silent)
    (error : ∀ e err, allows e → (s.run e w).1 = .error err → P (.error err) w)
    (ok : ∀ e value, allows e → (s.run e w).1 = .ok value → (k value).alone allows w P) :
    (locked s >>= k).alone allows w P := by
  rw [alone_bind,alone_locked]
  intro e allowed
  rw [silent e w]
  cases found : (s.run e w).1 with
  | ok value => exact ok e value allowed found
  | error err => exact error e err allowed found

theorem silent_asked {look : Env → Db → α} : (orInternalLocked (query look) : Critical may me AppError α).Silent :=
  silent_mapError silent_query AppError.internal

theorem query_found {look : Env → Db → α} {e : Env} {value : α}
    (found : ((orInternalLocked (query look) : Critical may me AppError α).run e w).1 = .ok value) :
    value = look e w.state.db := by
  cases state : e.db with
  | done => simpa [orInternalLocked,query,state,Except.mapError] using found.symm
  | failed error => simp [orInternalLocked,query,state,Except.mapError] at found
  | lost error => simp [orInternalLocked,query,state,Except.mapError] at found

-- Events of a task that are not tame.
def Acts (me : TaskId) (tame : Event → Prop) (moment : Moment Env World) : Prop :=
  ∃ event, (me,event) ∈ moment.recorded ∧ ¬tame event

instance (tame : Event → Prop) [narrow : Narrow tame] : Shows me (Acts me tame) := ⟨tame,narrow,fun _ acts => acts⟩

-- What an interrupted run never does an uninterrupted one does not do either.
theorem alone_clean {tame : Event → Prop} {t : Handler may me ε α} (clean : t.Clean (Acts me tame)) :
    t.alone allows w fun _ after => Records tame me () w after := by
  apply alone_each (R := fun before after => Records tame me () before after) (Guarantee.refl ()) (fun _ _ _ => Guarantee.trans)
  apply behaves_mono _ (behaves_and clean (each_kept t))
  intro moments result holds moment member
  obtain ⟨never,kept⟩ := holds
  obtain ⟨new,own,same⟩ := kept moment member
  refine ⟨new,?_,same⟩
  intro entry listed
  refine ⟨(own entry listed).1,?_⟩
  by_contra wild
  have recorded : (me,entry.2) ∈ moment.recorded := by
    have split : moment.recorded = new := by
      unfold Moment.recorded
      rw [same,extend_history]
      simp
    rw [split,← (own entry listed).1]
    exact listed
  exact never ⟨moment,member,entry.2,recorded,wild⟩

structure AiFlags where
  allowProcessStart : Bool
  allowProcessStop : Bool
  allowComponentControl : Bool
  allowTargetAdjustment : Bool
  requestedIntent : String

-- What a request may do, unless one of its fields is given as null.
def AiControlRequest.flags (payload : AiControlRequest) : Except AppError AiFlags := do
  let allowProcessStart ← optionalPresentBool payload.allowProcessStart "allow_process_start"
  let allowProcessStop ← optionalPresentBool payload.allowProcessStop "allow_process_stop"
  let allowComponentControl ← optionalPresentBool payload.allowComponentControl "allow_component_control"
  let allowTargetAdjustment ← optionalPresentBool payload.allowTargetAdjustment "allow_target_adjustment"
  let _ ← optionalPresentI64 payload.preferredProcessId "preferred_process_id"
  return ⟨allowProcessStart.getD true,allowProcessStop.getD true,allowComponentControl.getD true,
    allowTargetAdjustment.getD true,payload.requestedIntent⟩

-- What `generate_recommendation` makes of its sources.
def RecommendationSources.generated (sources : RecommendationSources) : Except AppError Recommendation :=
  if sources.outcomes = 0 then
    .error (.serviceUnavailable "product result data unavailable; waiting for finished batch outcomes")
  else match sources.optimized with
    | none => .error (.conflict
        "optimizer bounds are fully covered by forbidden control zones; no safe recommendation exists")
    | some fallback => match sources.provider with
        | none => .ok fallback
        | some answered => answered.mapError fun err => .serviceUnavailable
            s!"StepFun AI provider unavailable; recommendation was not generated by local rules: {err.message}"

-- What a request finds besides the runtime state and the batch records: the assessment
-- and the tables of recommendations and processes.
structure AiFacts where
  assessed : AiControlSafety
  stored : Option Recommendation
  sources : RecommendationSources
  selected : Except AppError (Option ProcessDefinition)
  process : Option ProcessDetail

structure AiFacts.Answers (facts : AiFacts) (env : Env) : Prop where
  stored : env.storedRecommendation = facts.stored
  sources : env.sources = facts.sources
  selected : env.selectedProcess = facts.selected
  process : env.process = facts.process

def AiFacts.recommended (facts : AiFacts) (safety : SafetyConfig) (runtime : RuntimeState) (allowTargetAdjustment : Bool) :
    Except AppError (Option ControlTargets) :=
  match facts.stored with
  | some recommendation => (aiTargetsFromRecommendation safety runtime recommendation).map some
  | none =>
      if allowTargetAdjustment then do
        let recommendation ← facts.sources.generated
        (aiTargetsFromRecommendation safety runtime recommendation).map some
      else .ok none

-- The part of a request that acts, once it knows what stands against a start and what is recommended.
def aiActs (safety : SafetyConfig) (capabilities : List DeviceComponentCapability) (actor : AuditActor) (dryRun : Bool)
    (flags : AiFlags) (runtime : RuntimeState) (assessed : AiControlSafety) (blocked : Option String)
    (recommended : Option ControlTargets) : Handler Event.work me AppError AiControlResponse := do
  let plan ← aiAdjustTargets safety runtime dryRun flags.allowTargetAdjustment recommended actor ⟨"hold",[]⟩
  let env ← locked answer
  let selected ← Task.ofExcept env.selectedProcess
  let plan ← aiStartProcess safety runtime dryRun flags.allowProcessStart blocked selected actor plan
  let live ← locked runtimeState
  let plan ← aiStopOrShake safety capabilities assessed dryRun flags.allowProcessStop flags.allowComponentControl recommended
    actor (aiRuntimeAfterProcess dryRun runtime live plan) plan
  let rationale := aiRationale flags.requestedIntent plan
  let plan := aiFinishPlan plan
  if !dryRun then aiAuditDecision recommended rationale plan actor
  return ⟨dryRun,plan.decision,recommended,plan.actions⟩

-- The part that reads the state and assesses it.
def aiAssess (safety : SafetyConfig) (limits : SensorLimits) (dryRun : Bool) :
    Handler Event.work me AppError (RuntimeState × AiControlSafety) := do
  let runtime ← locked runtimeState
  catching (timed fun now => ensureFreshSample safety now runtime) fun err => do
    if !dryRun then within disableAutoControl
    throw err
  let assessed ← aiControlSafety safety limits runtime
  return (runtime,assessed)

-- The part that goes by the assessment.
def aiCarryOn (safety : SafetyConfig) (capabilities : List DeviceComponentCapability) (actor : AuditActor) (dryRun : Bool)
    (flags : AiFlags) (runtime : RuntimeState) (assessed : AiControlSafety) :
    Handler Event.work me AppError AiControlResponse := do
  aiEnsureAllowed assessed dryRun
  let blocked ← aiProcessStartBlockReason assessed runtime flags.allowProcessStart
  let recommendation ← aiRecommendation dryRun flags.allowTargetAdjustment actor
  let recommended ← Task.ofExcept (recommendation.mapM (aiTargetsFromRecommendation safety runtime))
  aiActs safety capabilities actor dryRun flags runtime assessed blocked recommended

def aiCarryOut (safety : SafetyConfig) (limits : SensorLimits) (capabilities : List DeviceComponentCapability)
    (actor : AuditActor) (dryRun : Bool) (flags : AiFlags) : Handler Event.work me AppError AiControlResponse := do
  let (runtime,assessed) ← aiAssess safety limits dryRun
  aiCarryOn safety capabilities actor dryRun flags runtime assessed

theorem ofExcept_bind (found : Except ε α) (next : α → Except ε β) (k : β → Handler may me ε γ) :
    (Task.ofExcept (found >>= next) >>= k) = Task.ofExcept found >>= fun value => Task.ofExcept (next value) >>= k := by
  cases found <;> rfl

theorem aiControl_flags (payload : AiControlRequest) :
    (aiControl safety limits capabilities payload actor : Handler Event.work me AppError AiControlResponse) =
      Task.ofExcept (optionalPresentBool payload.dryRun "dry_run") >>= fun dryRun =>
        Task.ofExcept payload.flags >>= fun flags => aiCarryOut safety limits capabilities actor (dryRun.getD true) flags := by
  unfold AiControlRequest.flags aiCarryOut aiAssess
  simp only [ofExcept_bind,Task.bind_assoc,pure_done,Task.bind_ok]
  rfl

-- What is assessed of a state, by the clock where the alarms are counted and by the clock
-- where the device is looked at.
def assessmentAt (safety : SafetyConfig) (limits : SensorLimits) (plant : Plant) (alarmed seen : Instant) : AiControlSafety :=
  let runtime := plant.runtime
  let batchStatus := unfinishedBatchStatusFromBatches (plant.db.unfinishedBatches 100) runtime
  let alarms := liveAlarmsForWithBatchStatus safety alarmed runtime runtime.latestSample limits batchStatus
  { freshSampleRequired := true
    sensorFresh := (ensureFreshSample safety seen runtime).isOk
    emergencyStop := runtime.emergencyStop
    manualLock := runtime.manualLock
    deviceOnline := decide (0 < (deviceStatusSummaryWithBatchStatus safety seen runtime batchStatus).onlineCount)
    activeBatchId := runtime.activeBatchId
    batchRecoveryRequired := batchStatus.recoveryRequired
    unfinishedBatchIds := batchStatus.unfinishedBatchIds
    unexpectedBatchIds := batchStatus.unexpectedBatchIds
    highAlarmCount := alarmCount .high alarms
    warningAlarmCount := alarmCount .medium alarms
    stopProductConcentrationPercent := safety.control.aiStopProductConcentrationPercent }

theorem run_unfinishedBatchStatus {runtime : RuntimeState} (e : Env) (w : World) :
    (unfinishedBatchStatus runtime : Critical may me AppError UnfinishedBatchStatus).run e w = match e.db with
      | .done => (.ok (unfinishedBatchStatusFromBatches (w.state.db.unfinishedBatches 100) runtime),w)
      | .failed error => (.error (.internal error),w)
      | .lost error => (.error (.internal error),w) := by
  cases state : e.db <;> simp [unfinishedBatchStatus,orInternalLocked,unfinishedBatchesSqlx,query,state,Except.mapError]

theorem status_found {runtime : RuntimeState} {e : Env} {status : UnfinishedBatchStatus}
    (found : ((unfinishedBatchStatus runtime : Critical may me AppError UnfinishedBatchStatus).run e w).1 = .ok status) :
    status = unfinishedBatchStatusFromBatches (w.state.db.unfinishedBatches 100) runtime := by
  rw [run_unfinishedBatchStatus] at found
  cases state : e.db with
  | done =>
      rw [state] at found
      exact (Except.ok.inj found).symm
  | failed error =>
      rw [state] at found
      cases found
  | lost error =>
      rw [state] at found
      cases found

-- Behind an answer of the database the clock is read, and nothing has changed.
theorem status_then {runtime : RuntimeState} {e : Env} {look : UnfinishedBatchStatus → Instant → β} {value : β}
    (found : ((do
      let status ← unfinishedBatchStatus runtime
      let now ← utcNow
      return look status now : Critical may me AppError β).run e w).1 = .ok value) :
    value = look (unfinishedBatchStatusFromBatches (w.state.db.unfinishedBatches 100) runtime) e.now := by
  rw [Section.run_bind,run_unfinishedBatchStatus] at found
  cases state : e.db with
  | done =>
      rw [state] at found
      exact (Except.ok.inj found).symm
  | failed error =>
      rw [state] at found
      cases found
  | lost error =>
      rw [state] at found
      cases found

theorem assessment_alone {w : World} : (aiControlSafety safety limits w.state.runtime :
    Handler Event.work me AppError AiControlSafety).alone allows w (Ends (fun found after => after = w ∧
      ∃ e e', allows e ∧ allows e' ∧ found = assessmentAt safety limits w.state e.now e'.now) (· = w)) := by
  unfold aiControlSafety
  refine alone_look silent_unfinishedBatchStatus (fun _ _ _ _ => rfl) fun _ status _ found => ?_
  obtain rfl := status_found found
  refine alone_look silent_liveAlarmsFor (fun _ _ _ _ => rfl) fun e alarms allowed counted => ?_
  obtain rfl := status_then counted
  refine alone_look ?_ (fun _ _ _ _ => rfl) fun e' looked allowed' seen => ?_
  · exact silent_bind silent_deviceStatusSummaryWithDb fun _ => silent_bind silent_utcNow fun _ => silent_pure _
  · refine ⟨rfl,e,e',allowed,allowed',?_⟩
    rw [Section.run_bind,deviceStatusSummaryWithDb,Section.run_bind,run_unfinishedBatchStatus] at seen
    cases state : e'.db with
    | done =>
        rw [state] at seen
        cases seen
        rfl
    | failed error =>
        rw [state] at seen
        cases seen
    | lost error =>
        rw [state] at seen
        cases seen

-- What stands against a start as long as the database answers.
def AiFacts.blocked (facts : AiFacts) (plant : Plant) (allowProcessStart : Bool) : Option String :=
  match ((aiProcessStartBlockReason facts.assessed plant.runtime allowProcessStart :
      Handler Event.work 0 AppError (Option String)).drive (fun _ => {}) ⟨plant,[]⟩).1 with
  | .ok blocked => blocked
  | .error _ => none

theorem blockReason_alone {facts : AiFacts} {allow : Bool} :
    (aiProcessStartBlockReason facts.assessed w.state.runtime allow : Handler Event.work me AppError (Option String)).alone
      allows w (Ends (fun found after => after = w ∧ found = facts.blocked w.state allow) (· = w)) := by
  unfold AiFacts.blocked aiProcessStartBlockReason
  split
  · exact ⟨rfl,rfl⟩
  split
  · exact ⟨rfl,rfl⟩
  split
  · exact ⟨rfl,rfl⟩
  split
  · exact ⟨rfl,rfl⟩
  · refine alone_look silent_unfinishedBatches (fun e err _ _ => rfl) ?_
    intro e unfinished _ found
    have read : unfinished = w.state.db.unfinishedBatches 100 := query_found found
    subst read
    exact ⟨rfl,rfl⟩

instance : Narrow fun event => event.bearing = false := ⟨fun _ plain _ => plain⟩

-- Nothing that commands the device or sets the targets.
def Calm (me : TaskId) (before after : World) : Prop := Records (fun event : Event => event.bearing = false) me () before after

theorem calm_refl (w : World) : Calm me w w := Guarantee.refl () w

theorem calm_trans {mid after : World} (first : Calm me w mid) (rest : Calm me mid after) : Calm me w after :=
  @Guarantee.trans Unit World (Records (fun event : Event => event.bearing = false) me) _ () _ _ _ first rest

theorem generate_alone {facts : AiFacts} (answers : ∀ e, allows e → facts.Answers e) :
    (generateRecommendation : Handler Event.work me AppError Recommendation).alone allows w
      (Ends (fun found after => after = w ∧ facts.sources.generated = .ok found) (· = w)) := by
  unfold generateRecommendation RecommendationSources.generated
  refine alone_look silent_asked (fun e err _ _ => rfl) fun e sources allowed found => ?_
  have read : sources = facts.sources := (query_found found).trans (answers e allowed).sources
  subst read
  split
  · exact rfl
  cases facts.sources.optimized with
  | none => exact rfl
  | some fallback =>
      refine alone_look silent_answer (fun e err _ _ => rfl) fun e env allowed answered => ?_
      cases answered
      rw [(answers _ allowed).sources]
      cases facts.sources.provider with
      | none => exact ⟨rfl,rfl⟩
      | some answered =>
          cases answered with
          | error err => exact rfl
          | ok recommendation => exact ⟨rfl,rfl⟩

-- A request may file a recommendation of its own; a dry run does not.
def Filed (me : TaskId) (dryRun : Bool) (before after : World) : Prop :=
  after = before ∨ dryRun = false ∧ ∃ recommendation event,
    after = before.emit me (.store (.recommendationInserted recommendation event))

theorem filed_runtime {mid : World} {dryRun : Bool} (filed : Filed me dryRun w mid) : mid.state.runtime = w.state.runtime := by
  obtain rfl | ⟨_,recommendation,event,rfl⟩ := filed
  · rfl
  · rfl

theorem filed_batches {mid : World} {dryRun : Bool} (filed : Filed me dryRun w mid) :
    mid.state.db.batches = w.state.db.batches := by
  obtain rfl | ⟨_,recommendation,event,rfl⟩ := filed
  · rfl
  · rfl

theorem filed_calm {mid : World} {dryRun : Bool} (filed : Filed me dryRun w mid) : Calm me w mid := by
  obtain rfl | ⟨_,recommendation,event,rfl⟩ := filed
  · exact calm_refl mid
  · exact ⟨[(me,.store (.recommendationInserted recommendation event))],by simp [Event.bearing],rfl⟩

theorem file_alone {recommendation : Recommendation} {eventType reason : String} :
    (orInternal (within (insertRecommendationWithAuditSqlx recommendation eventType reason actor)) :
      Handler Event.work me AppError Unit).alone allows w fun _ after => Filed me false w after := by
  refine alone_orInternal.mpr (alone_within.mpr (alone_locked.mpr fun e _ => ?_))
  generalize (⟨none,eventType,some (safeCommandFromRecommendation recommendation reason),reason,actor⟩ : ControlEvent) = event
  cases answered : e.db with
  | done => exact .inr ⟨rfl,recommendation,event,by simp [statement,answered]⟩
  | failed error => exact .inl (by simp [statement,answered])
  | lost error => exact .inr ⟨rfl,recommendation,event,by simp [statement,answered]⟩

theorem recommendation_alone {facts : AiFacts} {dryRun allow : Bool} (answers : ∀ e, allows e → facts.Answers e) :
    (aiRecommendation dryRun allow actor : Handler Event.work me AppError (Option Recommendation)).alone allows w (Ends
      (fun found after => Filed me dryRun w after ∧ found.mapM (aiTargetsFromRecommendation safety w.state.runtime) =
        facts.recommended safety w.state.runtime allow) (Filed me dryRun w)) := by
  have still : Filed me dryRun w w := .inl rfl
  unfold aiRecommendation
  refine alone_look silent_asked (fun e err _ _ => still) fun e stored allowed found => ?_
  have read : stored = facts.stored := (query_found found).trans (answers e allowed).stored
  cases stored with
  | some recommendation =>
      refine ⟨still,?_⟩
      rw [AiFacts.recommended,← read]
      simp only [Option.mapM_some]
      cases aiTargetsFromRecommendation safety w.state.runtime recommendation <;> rfl
  | none =>
      cases allow with
      | false =>
          refine ⟨still,?_⟩
          rw [AiFacts.recommended,← read]
          rfl
      | true =>
          refine alone_seq (generate_alone answers) ?_ fun err after same => .inl same
          intro recommendation after generated
          obtain ⟨rfl,given⟩ := generated
          have computed : (some recommendation).mapM (aiTargetsFromRecommendation safety after.state.runtime) =
              facts.recommended safety after.state.runtime true := by
            rw [AiFacts.recommended,← read,given]
            simp only [Option.mapM_some,if_true]
            change _ = (aiTargetsFromRecommendation safety after.state.runtime recommendation).map some
            cases aiTargetsFromRecommendation safety after.state.runtime recommendation <;> rfl
          cases dryRun with
          | true => exact ⟨still,computed⟩
          | false => exact alone_seq file_alone (fun _ _ filed => ⟨filed,computed⟩) fun _ _ filed => filed

theorem alone_calm {t : Handler may me ε α} (clean : t.Clean (Acts me fun event => event.bearing = false)) :
    t.alone allows w fun _ after => Calm me w after := alone_clean clean

theorem calm_disabled (w : World) : Calm me w (w.emit me (.runtime .autoDisabled)) :=
  ⟨[(me,.runtime .autoDisabled)],by simp [Event.bearing],rfl⟩

theorem freshSample_alone {dryRun : Bool} :
    (catching (timed fun now => ensureFreshSample safety now w.state.runtime) fun err => do
      if !dryRun then within disableAutoControl
      throw err : Handler Event.work me AppError Unit).alone allows w (Ends
        (fun _ after => after = w ∧ ∃ now, ensureFreshSample safety now w.state.runtime = .ok ()) (Calm me w)) := by
  refine alone_catching.mpr (alone_timed.mpr fun e allowed => ?_)
  cases checked : ensureFreshSample safety e.now w.state.runtime with
  | ok _ => exact ⟨rfl,e.now,checked⟩
  | error err =>
      cases dryRun with
      | false => exact fun e allowed => calm_disabled w
      | true => exact calm_refl w

theorem ensureAllowed_alone {assessed : AiControlSafety} {dryRun : Bool} :
    (aiEnsureAllowed assessed dryRun : Handler Event.work me AppError Unit).alone allows w (Ends
      (fun _ after => after = w ∧ assessed.emergencyStop = false ∧ assessed.manualLock = false ∧
        (assessed.deviceOnline = true ∨ dryRun = true)) (Calm me w)) := by
  unfold aiEnsureAllowed
  split
  · exact calm_refl w
  rename_i running
  split
  · exact calm_refl w
  rename_i unlocked
  split
  · exact fun e allowed => calm_disabled w
  · rename_i online
    refine ⟨rfl,by simpa using running,by simpa using unlocked,?_⟩
    cases reached : assessed.deviceOnline <;> cases dryRun <;> simp_all

-- What is known of a request that has come to act.
structure Opened (facts : AiFacts) (safety : SafetyConfig) (runtime : RuntimeState) (dryRun : Bool) (flags : AiFlags)
    (recommended : Option ControlTargets) : Prop where
  fresh : ∃ now, ensureFreshSample safety now runtime = .ok ()
  running : facts.assessed.emergencyStop = false
  unlocked : facts.assessed.manualLock = false
  online : facts.assessed.deviceOnline = true ∨ dryRun = true
  recommended : facts.recommended safety runtime flags.allowTargetAdjustment = .ok recommended

-- What a request has seen before it looks further, unless it is refused.
def Assesses (safety : SafetyConfig) (limits : SensorLimits) (allows : Env → Prop) (me : TaskId) (w : World) :
    Except AppError (RuntimeState × AiControlSafety) → World → Prop :=
  Ends (fun found after => after = w ∧ found.1 = w.state.runtime ∧
    (∃ now, ensureFreshSample safety now w.state.runtime = .ok ()) ∧
      ∃ e e', allows e ∧ allows e' ∧ found.2 = assessmentAt safety limits w.state e.now e'.now) (Calm me w)

theorem assess_alone {dryRun : Bool} : (aiAssess safety limits dryRun :
    Handler Event.work me AppError (RuntimeState × AiControlSafety)).alone allows w (Assesses safety limits allows me w) := by
  unfold aiAssess
  refine alone_look silent_runtimeState (fun _ _ _ _ => calm_refl w) fun e runtime _ looked => ?_
  cases looked
  refine alone_seq freshSample_alone ?_ fun _ _ calm => calm
  intro _ after opened
  obtain ⟨rfl,fresh⟩ := opened
  refine alone_seq assessment_alone ?_ fun _ _ same => by rw [show _ = after from same]; exact calm_refl after
  intro assessed same found
  obtain ⟨rfl,times⟩ := found
  exact ⟨rfl,rfl,fresh,times⟩

-- The answers of a run in which a request finds `facts`.
structure AiFacts.Found (facts : AiFacts) (safety : SafetyConfig) (limits : SensorLimits) (dryRun : Bool) (me : TaskId) (w : World)
    (answers : Nat → Env) : Prop where
  answered : ∀ n, facts.Answers (answers n)
  assessed : ∀ found, ((aiAssess safety limits dryRun :
    Handler Event.work me AppError (RuntimeState × AiControlSafety)).drive answers w).1 = .ok found → found.2 = facts.assessed

-- A request that is refused before it acts has at most filed a recommendation or turned automatic control off.
theorem carryOn_alone {facts : AiFacts} {dryRun : Bool} {flags : AiFlags}
    {P : Except AppError AiControlResponse → World → Prop} (answers : ∀ e, allows e → facts.Answers e)
    (fresh : ∃ now, ensureFreshSample safety now w.state.runtime = .ok ())
    (refused : ∀ err after, Calm me w after → P (.error err) after)
    (ready : ∀ recommended mid, Opened facts safety w.state.runtime dryRun flags recommended → Filed me dryRun w mid →
      (aiActs safety capabilities actor dryRun flags w.state.runtime facts.assessed
        (facts.blocked w.state flags.allowProcessStart) recommended :
          Handler Event.work me AppError AiControlResponse).alone allows mid P) :
    (aiCarryOn safety capabilities actor dryRun flags w.state.runtime facts.assessed :
      Handler Event.work me AppError AiControlResponse).alone allows w P := by
  have still : ∀ err, P (.error err) w := fun err => refused err w (calm_refl w)
  unfold aiCarryOn
  refine alone_seq ensureAllowed_alone ?_ fun err after => refused err after
  intro _ after opened
  obtain ⟨rfl,running,unlocked,online⟩ := opened
  refine alone_seq blockReason_alone ?_ fun err after same => by rw [show after = _ from same]; exact still err
  intro blocked after read
  obtain ⟨rfl,rfl⟩ := read
  refine alone_seq (@recommendation_alone safety actor me allows after _ _ _ answers) ?_ fun err mid filed =>
    refused err mid (filed_calm filed)
  intro recommendation mid read
  obtain ⟨filed,computed⟩ := read
  rw [computed]
  exact alone_ofExcept (fun err _ => refused err mid (filed_calm filed)) fun recommended found =>
    ready recommended mid ⟨fresh,running,unlocked,online,found⟩ filed

theorem drive_opening {facts : AiFacts} {dryRun : Bool} {flags : AiFlags} {answers : Nat → Env}
    {P : Except AppError AiControlResponse → World → Prop} (found : facts.Found safety limits dryRun me w answers)
    (refused : ∀ err after, Calm me w after → P (.error err) after)
    (ready : ∀ recommended mid, (∃ alarmed seen, facts.assessed = assessmentAt safety limits w.state alarmed seen) →
      Opened facts safety w.state.runtime dryRun flags recommended → Filed me dryRun w mid →
      (aiActs safety capabilities actor dryRun flags w.state.runtime facts.assessed
        (facts.blocked w.state flags.allowProcessStart) recommended :
          Handler Event.work me AppError AiControlResponse).alone facts.Answers mid P) :
    P ((aiCarryOut safety limits capabilities actor dryRun flags : Handler Event.work me AppError AiControlResponse).drive
        answers w).1
      ((aiCarryOut safety limits capabilities actor dryRun flags : Handler Event.work me AppError AiControlResponse).drive
        answers w).2 := by
  let opening : Handler Event.work me AppError (RuntimeState × AiControlSafety) := aiAssess safety limits dryRun
  have opened : Assesses safety limits (fun _ => True) me w (opening.drive answers w).1 (opening.drive answers w).2 :=
    alone_drive assess_alone fun _ => trivial
  refine drive_seq (F := fun result after => Assesses safety limits (fun _ => True) me w result after ∧
    ∀ value, result = .ok value → value.2 = facts.assessed) ⟨opened,found.assessed⟩ ?_ fun err after ended => refused err after ended.1
  intro value after later shifted ended
  obtain ⟨⟨rfl,same,fresh,e,e',_,_,seen⟩,assessed⟩ := ended
  obtain ⟨runtime,assessment⟩ := value
  obtain rfl : runtime = after.state.runtime := same
  obtain rfl : assessment = facts.assessed := assessed _ rfl
  refine alone_drive (carryOn_alone (fun _ answers => answers) fresh refused fun recommended mid => ready recommended mid ⟨_,_,seen⟩) ?_
  intro n
  obtain ⟨m,early⟩ := shifted n
  rw [early]
  exact found.answered m

theorem planned_cases {runtime : RuntimeState} {recommended : Option ControlTargets} {action : ComponentControlRequest}
    (planned : planShakeComponentAction capabilities runtime recommended = some action) :
    action = ⟨"start",none,some (some "AI master control started shake vessel stepper")⟩ ∨
      action = ⟨"stop",none,some (some "AI master control stopped shake vessel stepper")⟩ := by
  unfold planShakeComponentAction at planned
  extract_lets motorRunning targetShakeSpeed at planned
  clear_value motorRunning targetShakeSpeed
  split at planned
  · cases planned
  split at planned
  · cases planned
    exact .inl rfl
  split at planned
  · cases planned
    exact .inr rfl
  · cases planned

end ReactorOS
