import ReactorOS.AiRequests
import ReactorOS.Jobs
namespace ReactorOS
open Concurrency Journal Task Section
variable {safety : SafetyConfig} {limits : SensorLimits} {capabilities : List DeviceComponentCapability} {actor : AuditActor} {me : TaskId}
  {α β : Type} {allows : Env → Prop} {w mid after : World}

def lifecycleStop (safety : SafetyConfig) : SafeCommand :=
  safeCommandFromRuntimeTargets (processStopTargets safety) "process stop target write"

-- What the fail-safe stop of `stop_process_lifecycle` does to the device and to the targets.
def StopEvent (safety : SafetyConfig) : Event → Prop
  | .commanded writer command _ => writer = .processStop ∧ command = some (lifecycleStop safety)
  | .runtime (.targetsSet targets) => targets = processStopTargets safety
  | _ => True

theorem stopEvent_plain {event : Event} (plain : event.bearing = false) : StopEvent safety event := by
  rcases event with change | write | _ | _
  · cases change <;> trivial
  · trivial
  · cases plain
  · trivial

instance : Narrow (StopEvent safety) where
  plain _ plain _ := stopEvent_plain plain

-- No device write but that stop, and no other targets than before but by it.
def OnlyStops (safety : SafetyConfig) (me : TaskId) (before after : World) : Prop :=
  ∃ new, after = before.extend new ∧ (∀ entry ∈ new, entry.1 = me ∧ StopEvent safety entry.2) ∧
    (after.state.runtime.targets = before.state.runtime.targets ∨
      ∃ delivered, (me,.commanded .processStop (some (lifecycleStop safety)) delivered) ∈ new)

theorem targets_kept {change : Change} {runtime : RuntimeState} (plain : (Event.runtime change).bearing = false) :
    (change.apply runtime).targets = runtime.targets := by
  rcases change with latch | _ | latch | _ | _ | _ | _ | _ | _ | _ | _ <;> first | rfl | cases latch <;> rfl | cases plain

theorem calm_targets (calm : Calm me w after) : after.state.runtime.targets = w.state.runtime.targets := by
  obtain ⟨new,own,rfl⟩ := calm
  induction new with
  | nil => rfl
  | cons entry new ih =>
      have older := ih fun entry member => own entry (List.mem_cons_of_mem _ member)
      have plain := (own entry List.mem_cons_self).2
      obtain ⟨i,event⟩ := entry
      rw [extend_cons,emit_state,← older]
      rcases event with change | write | _ | _
      · exact targets_kept plain
      · rfl
      · cases plain
      · rfl

theorem onlyStops_calm (calm : Calm me w after) : OnlyStops safety me w after := by
  have same := calm_targets calm
  obtain ⟨new,own,rfl⟩ := calm
  exact ⟨new,rfl,fun entry member => ⟨(own entry member).1,stopEvent_plain (own entry member).2⟩,.inl same⟩

-- From the stop on, whatever follows is part of it.
theorem onlyStops_after (first : Calm me w mid) {delivered : Bool} (rest : Records (StopEvent safety) me ()
    (mid.emit me (.commanded .processStop (some (lifecycleStop safety)) delivered)) after) : OnlyStops safety me w after := by
  obtain ⟨new,own,rfl⟩ := first
  obtain ⟨later,stops,rfl⟩ := rest
  refine ⟨later ++ (me,.commanded .processStop (some (lifecycleStop safety)) delivered) :: new,?_,?_,.inr ⟨delivered,by simp⟩⟩
  · rw [extend_append]
    rfl
  · intro entry member
    rcases List.mem_append.mp member with late | early
    · exact stops entry late
    · rcases List.mem_cons.mp early with rfl | before
      · exact ⟨rfl,rfl,rfl⟩
      · exact ⟨(own entry before).1,stopEvent_plain (own entry before).2⟩

abbrev Stops (safety : SafetyConfig) (me : TaskId) : Moment Env World → Prop := Acts me (StopEvent safety)

theorem stops_tame : StopTame me (Stops safety me) safety := ⟨fun _ => ⟨rfl,rfl⟩,rfl⟩

theorem stop_onlyStops {expectedProcessId : Option Int} {eventType : String} {operatorReason : Option String} :
    (stopProcessLifecycle safety expectedProcessId eventType operatorReason actor :
      Handler Event.work me AppError ProcessStopResponse).alone allows w fun _ after => OnlyStops safety me w after := by
  unfold stopProcessLifecycle
  refine alone_seq (F := fun _ after => Calm me w after) (alone_calm (clean_locked ?_)) ?_ fun err after => onlyStops_calm
  · refine keeps_bind (keeps_silent silent_runtimeState) fun runtime => ?_
    cases runtime.activeBatchId with
    | none => exact keeps_silent (silent_throw _)
    | some batchId => exact keeps_bind (keeps_note rfl) fun _ => keeps_silent (silent_pure _)
  intro batchId mid seen
  refine alone_seq (F := fun _ after => Calm me w after) ?_ ?_ fun err after => onlyStops_calm
  · refine alone_mono (fun _ after looked => calm_trans seen looked) (alone_calm (clean_orInternal ?_))
    exact clean_locked (keeps_silent silent_query)
  intro batch mid calm
  refine alone_ofExcept (fun err _ => onlyStops_calm calm) fun _ _ => ?_
  have tail : ∀ {α : Type} {delivered : Bool} {t : Handler Event.work me AppError α}, t.Clean (Stops safety me) →
      t.alone allows (mid.emit me (.commanded .processStop (some (lifecycleStop safety)) delivered)) fun _ after =>
        OnlyStops safety me w after :=
    fun clean => alone_mono (fun _ after stops => onlyStops_after calm stops) (alone_clean clean)
  unfold stopProcessOnDevice
  rw [alone_bind,alone_catching,alone_writeTargets]
  intro e allowed
  cases e.device with
  | ok _ => exact tail (clean_bind (clean_confirmStoppedBatch stops_tame) fun _ => clean_closeStoppedBatch stops_tame)
  | error err =>
      simp only
      rw [alone_bind]
      refine alone_mono ?_ (tail (clean_within clean_quiet))
      intro result after stops
      cases result with
      | ok _ => exact stops
      | error _ => exact stops

-- What the AI's target write is checked against before the device is commanded.
def Adjustable (safety : SafetyConfig) (now : Instant) (runtime : RuntimeState) (targets : ControlTargets) : Prop :=
  ensureTargetUpdateInterlockClear safety now runtime .desiredTargets = .ok () ∧ ensureTargetsAllowed safety targets = .ok ()

theorem calm_acknowledged : Calm me w (acknowledged me w) := by
  refine ⟨[(me,.note (.latchesAcknowledged (.fromRuntime {w.state.runtime with autoEnabled := false}))),
    (me,.runtime .autoDisabled)],?_,rfl⟩
  simp [Event.bearing]

theorem interlock_disabled {now : Instant} {runtime : RuntimeState} {mode : TargetUpdateInterlockMode} :
    ensureTargetUpdateInterlockClear safety now {runtime with autoEnabled := false} mode =
      ensureTargetUpdateInterlockClear safety now runtime mode := rfl

theorem apply_calm {targets : ControlTargets} {reason : String}
    (never : ∀ now, ¬Adjustable safety now w.state.runtime targets) :
    (applyAiTargets safety targets reason actor : Handler Event.work me AppError Unit).alone allows w
      (Ends (fun _ _ => False) (Calm me w)) := by
  unfold applyAiTargets
  refine alone_look silent_readTargets (fun e err _ _ => calm_refl w) fun e current _ _ => ?_
  rw [alone_bind,alone_locked]
  intro e allowed
  rw [Section.run_bind,run_acknowledge,chain_ok,Section.run_bind,run_ensure,interlock_disabled]
  cases clear : ensureTargetUpdateInterlockClear safety e.now w.state.runtime .desiredTargets with
  | error err => exact calm_acknowledged
  | ok _ =>
      rw [chain_ok]
      refine alone_ofExcept (fun err _ => calm_acknowledged) fun _ accepted => ?_
      exact absurd ⟨clear,accepted⟩ (never e.now)

-- What a component action that may move the field is checked against before the device is commanded.
structure FieldProven (safety : SafetyConfig) (now : Instant) (plant : Plant) (command : ComponentControlCommand) : Prop where
  clear : ensureTargetUpdateInterlockClear safety now plant.runtime .componentControl = .ok ()
  consistent : ensurePersistedBatchStatusConsistent (unfinishedBatchStatusFromBatches (plant.db.unfinishedBatches 100)
    plant.runtime) plant.runtime .componentControl = .ok ()
  allowed : ∃ pair, targetsForComponent command plant.runtime.targets safety = .ok pair ∧
    validateTargetPairAllowed safety pair.temperatureC pair.stirrerRpm = .ok ()

theorem persisted_consistent {runtime : RuntimeState} {mode : TargetUpdateInterlockMode} {e : Env}
    (passed : ((ensurePersistedBatchStateConsistent runtime mode : Critical Event.work me AppError Unit).run e w).1 = .ok ()) :
    ensurePersistedBatchStatusConsistent (unfinishedBatchStatusFromBatches (w.state.db.unfinishedBatches 100) runtime)
      runtime mode = .ok () := by
  rw [run_persisted] at passed
  cases state : e.db with
  | done =>
      rw [state] at passed
      exact passed
  | failed error =>
      rw [state] at passed
      cases passed
  | lost error =>
      rw [state] at passed
      cases passed

theorem prove_calm {command : ComponentControlCommand} (never : ∀ now, ¬FieldProven safety now w.state command) :
    (proveComponentField safety command : Handler Event.work me AppError RuntimeState).alone allows w
      (Ends (fun _ _ => False) (Calm me w)) := by
  unfold proveComponentField
  rw [alone_bind,alone_locked]
  intro e allowed
  rw [run_acknowledge]
  simp only
  rw [alone_bind,alone_timed]
  intro now allowed
  rw [interlock_disabled]
  cases clear : ensureTargetUpdateInterlockClear safety now.now w.state.runtime .componentControl with
  | error err => exact calm_acknowledged
  | ok _ =>
      refine alone_look silent_ensurePersistedBatchStateConsistent (fun _ _ _ _ => calm_acknowledged) fun e _ _ passed => ?_
      have consistent := persisted_consistent passed
      rw [alone_bind,alone_timed]
      intro later allowed
      split
      · refine alone_ofExcept (fun _ _ => calm_acknowledged) fun pair computed => ?_
        refine alone_ofExcept (fun _ _ => calm_acknowledged) fun _ accepted => ?_
        refine absurd ⟨clear,consistent,pair,?_,accepted⟩ (never now.now)
        cases found : targetsForComponent command w.state.runtime.targets safety with
        | ok targets => simpa [found,Except.mapError] using computed
        | error err => simp [found,Except.mapError] at computed
      · exact calm_acknowledged

-- The checks of the component control that the AI's start or stop of the shaker goes through.
structure ShakeReached (safety : SafetyConfig) (capabilities : List DeviceComponentCapability) (now : Instant) (plant : Plant)
    (action : ComponentControlRequest) : Prop where
  listed : ∃ found, componentAction capabilities "shake_stepper" action = .ok found ∧
    validateComponentControlPayload found.2 action = .ok ()
  proven : componentControlRequiresProvenSafeField action.action = true →
    FieldProven safety now plant ⟨"shake_stepper",action.action,none⟩

structure ShakeAction (action : ComponentControlRequest) : Prop where
  plain : action.value = none
  reason : ∃ reason, action.reason = some (some reason)

theorem planned_shake {runtime : RuntimeState} {recommended : Option ControlTargets} {action : ComponentControlRequest}
    (planned : planShakeComponentAction capabilities runtime recommended = some action) : ShakeAction action := by
  cases planned_cases planned with
  | inl start => rw [start]; exact ⟨rfl,_,rfl⟩
  | inr stop => rw [stop]; exact ⟨rfl,_,rfl⟩

theorem shake_calm {action : ComponentControlRequest} {eventType : String} (shake : ShakeAction action)
    (never : ∀ now, ¬ShakeReached safety capabilities now w.state action) :
    (executeComponentControl safety capabilities "reactor_001" "shake_stepper" action eventType actor :
      Handler Event.work me AppError ComponentControlResponse).alone allows w (Ends (fun _ _ => False) (Calm me w)) := by
  obtain ⟨plain,reason,given⟩ := shake
  unfold executeComponentControl
  refine alone_ofExcept (fun _ _ => calm_refl w) fun _ _ => ?_
  refine alone_look silent_runtimeState (fun _ _ _ _ => calm_refl w) fun e runtime _ looked => ?_
  cases looked
  refine alone_ofExcept (fun _ _ => calm_refl w) fun found listed => ?_
  refine alone_ofExcept (fun _ _ => calm_refl w) fun _ valid => ?_
  refine alone_ofExcept (fun _ _ => calm_refl w) fun operatorReason _ => ?_
  simp only
  have value : componentControlCommandValue found.2 action = none := by simp [componentControlCommandValue,plain]
  rw [value]
  cases requires : componentControlRequiresProvenSafeField action.action with
  | false => exact absurd ⟨⟨found,listed,valid⟩,fun needed => by rw [requires] at needed; cases needed⟩ (never 0)
  | true =>
      simp only [if_true]
      refine alone_seq (prove_calm fun now proven => never now ⟨⟨found,listed,valid⟩,fun _ => proven⟩) ?_ fun _ _ calm => calm
      intro _ _ impossible
      cases impossible

theorem onlyStops_from (first : Calm me w mid) (rest : OnlyStops safety me mid after) : OnlyStops safety me w after := by
  have same := calm_targets first
  obtain ⟨older,own,rfl⟩ := first
  obtain ⟨new,rfl,stops,targets⟩ := rest
  refine ⟨new ++ older,(extend_append _ _ _).symm,?_,?_⟩
  · intro entry member
    rcases List.mem_append.mp member with late | early
    · exact stops entry late
    · exact ⟨(own entry early).1,stopEvent_plain (own entry early).2⟩
  · rcases targets with kept | stopped
    · exact .inl (kept.trans same)
    · obtain ⟨delivered,written⟩ := stopped
      exact .inr ⟨delivered,List.mem_append_left _ written⟩

theorem onlyStops_then (first : OnlyStops safety me w mid) (rest : Calm me mid after) : OnlyStops safety me w after := by
  have same := calm_targets rest
  obtain ⟨new,own,rfl⟩ := rest
  obtain ⟨older,rfl,stops,targets⟩ := first
  refine ⟨new ++ older,(extend_append _ _ _).symm,?_,?_⟩
  · intro entry member
    rcases List.mem_append.mp member with late | early
    · exact ⟨(own entry late).1,stopEvent_plain (own entry late).2⟩
    · exact stops entry early
  · rcases targets with kept | stopped
    · exact .inl (same.trans kept)
    · obtain ⟨delivered,written⟩ := stopped
      exact .inr ⟨delivered,List.mem_append_right _ written⟩

-- The recommendation is applied, and that gets as far as the device.
def Adjusts (safety : SafetyConfig) (flags : AiFlags) (now : Instant) (runtime : RuntimeState)
    (recommended : Option ControlTargets) : Prop :=
  ∃ targets, recommended = some targets ∧ (flags.allowTargetAdjustment && targetsDiffer runtime.targets targets) = true ∧
    Adjustable safety now runtime targets

def Unadjusted (flags : AiFlags) (runtime : RuntimeState) (recommended : Option ControlTargets) : Prop :=
  ∀ targets, recommended = some targets → (flags.allowTargetAdjustment && targetsDiffer runtime.targets targets) = false

-- The shaker of a running batch is started or stopped, and that gets as far as the device.
structure Shakes (safety : SafetyConfig) (capabilities : List DeviceComponentCapability) (flags : AiFlags) (facts : AiFacts)
    (now : Instant) (plant : Plant) (recommended : Option ControlTargets) : Prop where
  unadjusted : Unadjusted flags plant.runtime recommended
  selected : ∃ selected, facts.selected = .ok selected
  active : plant.runtime.activeBatchId.isSome = true
  unstopped : (flags.allowProcessStop && shouldAiStopProcess plant.runtime.latestSample facts.assessed) = false
  allowed : flags.allowComponentControl = true
  planned : ∃ action, planShakeComponentAction capabilities plant.runtime recommended = some action ∧
    ShakeReached safety capabilities now plant action

-- A request that gets past its checks with a recommendation to apply or the shaker to control.
structure AiActuates (safety : SafetyConfig) (limits : SensorLimits) (capabilities : List DeviceComponentCapability)
    (flags : AiFlags) (facts : AiFacts) (plant : Plant) (now : Instant) (recommended : Option ControlTargets) : Prop where
  assessed : ∃ alarmed seen, facts.assessed = assessmentAt safety limits plant alarmed seen
  fresh : ensureFreshSample safety now plant.runtime = .ok ()
  running : facts.assessed.emergencyStop = false
  unlocked : facts.assessed.manualLock = false
  online : facts.assessed.deviceOnline = true
  found : facts.recommended safety plant.runtime flags.allowTargetAdjustment = .ok recommended
  acts : Adjusts safety flags now plant.runtime recommended ∨ Shakes safety capabilities flags facts now plant recommended

-- Audit rows and recommendations on file make no difference to it.
theorem AiActuates.congr {flags : AiFlags} {facts : AiFacts} {plant other : Plant} {now : Instant}
    {recommended : Option ControlTargets} (runtime : other.runtime = plant.runtime) (batches : other.db.batches = plant.db.batches)
    (actuates : AiActuates safety limits capabilities flags facts plant now recommended) :
    AiActuates safety limits capabilities flags facts other now recommended := by
  have rows : other.db.unfinishedBatches 100 = plant.db.unfinishedBatches 100 := by
    unfold Db.unfinishedBatches
    rw [batches]
  obtain ⟨⟨alarmed,seen,assessed⟩,fresh,running,unlocked,online,found,acts⟩ := actuates
  have same : assessmentAt safety limits other alarmed seen = assessmentAt safety limits plant alarmed seen := by
    unfold assessmentAt
    rw [rows,runtime]
  rw [← same] at assessed
  rw [← runtime] at fresh found acts
  refine ⟨⟨alarmed,seen,assessed⟩,fresh,running,unlocked,online,found,acts.imp_right fun shakes => ?_⟩
  obtain ⟨unadjusted,selected,active,unstopped,allowed,action,planned,listed,proven⟩ := shakes
  rw [← runtime] at unadjusted active unstopped planned
  refine ⟨unadjusted,selected,active,unstopped,allowed,action,planned,listed,fun needed => ?_⟩
  obtain ⟨clear,consistent,targets⟩ := proven needed
  rw [← runtime] at clear consistent targets
  rw [← rows] at consistent
  exact ⟨clear,consistent,targets⟩

section Held
variable {flags : AiFlags} {facts : AiFacts} {recommended : Option ControlTargets} {plan : AiPlan}

theorem adjust_held (never : ∀ now, ¬Adjusts safety flags now w.state.runtime recommended) :
    (aiAdjustTargets safety w.state.runtime false flags.allowTargetAdjustment recommended actor plan :
      Handler Event.work me AppError AiPlan).alone allows w
        (Ends (fun _ after => after = w ∧ Unadjusted flags w.state.runtime recommended) (Calm me w)) := by
  unfold aiAdjustTargets
  cases recommended with
  | none => exact ⟨rfl,fun targets absurd => by cases absurd⟩
  | some targets =>
      simp only
      split
      · rename_i differ
        refine alone_seq (apply_calm fun now adjustable => never now ⟨targets,rfl,differ,adjustable⟩) ?_ fun _ _ calm => calm
        intro _ _ impossible
        cases impossible
      · rename_i same
        refine ⟨rfl,fun other given => ?_⟩
        cases given
        simpa using same

theorem start_held {runtime : RuntimeState} {blocked : Option String} {selected : Option ProcessDefinition}
    (held : runtime.activeBatchId.isNone = true → flags.allowProcessStart = true → blocked.isSome = true) :
    ∃ planned, (aiStartProcess safety runtime false flags.allowProcessStart blocked selected actor plan :
      Handler Event.work me AppError AiPlan) = .done (.ok planned) := by
  unfold aiStartProcess
  split
  · rename_i free
    simp only [Bool.and_eq_true] at free
    have stands := held free.1.1 free.1.2
    cases blocked with
    | none => cases stands
    | some reason => simp at free
  · cases blocked with
    | none => exact ⟨_,rfl⟩
    | some reason => exact ⟨_,rfl⟩

theorem clean_auditDecision {rationale : String} : (aiAuditDecision recommended rationale plan actor : Handler Event.work me AppError Unit).Clean
    (Acts me fun event => event.bearing = false) := by
  unfold aiAuditDecision
  refine clean_bind (clean_locked (keeps_silent silent_runtimeState)) fun runtime => ?_
  refine clean_catching (clean_within clean_quiet) fun err => ?_
  split
  · exact clean_bind (clean_within clean_quiet) fun _ => clean_done _
  · exact clean_done _

theorem stopOrShake_held (unadjusted : Unadjusted flags w.state.runtime recommended)
    (selected : ∃ selected, facts.selected = .ok selected)
    (never : ∀ now, ¬Shakes safety capabilities flags facts now w.state recommended) :
    (aiStopOrShake safety capabilities facts.assessed false flags.allowProcessStop flags.allowComponentControl recommended
      actor w.state.runtime plan : Handler Event.work me AppError AiPlan).alone allows w
        fun _ after => OnlyStops safety me w after := by
  unfold aiStopOrShake
  split
  · exact onlyStops_calm (calm_refl w)
  rename_i active
  split
  · refine alone_seq stop_onlyStops ?_ fun _ _ stops => stops
    intro _ after stops
    exact stops
  rename_i unstopped
  split
  · rename_i allowed
    refine alone_look silent_runtimeState (fun _ _ _ _ => onlyStops_calm (calm_refl w)) fun e runtime _ looked => ?_
    cases looked
    cases planned : planShakeComponentAction capabilities w.state.runtime recommended with
    | none => exact onlyStops_calm (calm_refl w)
    | some action =>
        refine alone_seq (shake_calm (planned_shake planned) fun now reached => never now ?_) ?_ fun _ _ calm => onlyStops_calm calm
        · exact ⟨unadjusted,selected,by cases state : w.state.runtime.activeBatchId <;> simp_all,by simpa using unstopped,allowed,
            action,planned,reached⟩
        · intro _ _ impossible
          cases impossible
  · exact onlyStops_calm (calm_refl w)

theorem blocked_high (high : 0 < facts.assessed.highAlarmCount) {plant : Plant}
    (free : plant.runtime.activeBatchId.isNone = true) (allowed : flags.allowProcessStart = true) :
    (facts.blocked plant flags.allowProcessStart).isSome = true := by
  unfold AiFacts.blocked aiProcessStartBlockReason
  rw [allowed,free]
  simp only [Bool.and_self,Bool.not_true,Bool.false_eq_true,if_false,high,if_true]
  cases facts.assessed.batchRecoveryRequired with
  | true => rfl
  | false => cases facts.assessed.deviceOnline <;> rfl

theorem interlock_fresh {now : Instant} {runtime : RuntimeState} {mode : TargetUpdateInterlockMode}
    (clear : ensureTargetUpdateInterlockClear safety now runtime mode = .ok ()) : ensureFreshSample safety now runtime = .ok () := by
  unfold ensureTargetUpdateInterlockClear at clear
  split at clear
  · cases clear
  split at clear
  · cases clear
  split at clear
  · cases clear
  · cases proven : ensureProvenHealthyDeviceStatus safety now runtime mode.description with
    | error err => rw [proven] at clear; cases clear
    | ok _ => rw [proven] at clear; exact clear

-- What stands against every actuation stands also where the times of its checks differ.
theorem held_of_unreached (assessed : ∃ alarmed seen, facts.assessed = assessmentAt safety limits w.state alarmed seen)
    (opened : Opened facts safety w.state.runtime false flags recommended)
    (never : ∀ now, ¬AiActuates safety limits capabilities flags facts w.state now recommended) :
    (∀ now, ¬Adjusts safety flags now w.state.runtime recommended) ∧
      ∀ now, ¬Shakes safety capabilities flags facts now w.state recommended := by
  have online : facts.assessed.deviceOnline = true := opened.online.resolve_right (by decide)
  constructor
  · intro now adjusts
    obtain ⟨targets,given,differ,clear,allowed⟩ := adjusts
    exact never now ⟨assessed,interlock_fresh clear,opened.running,opened.unlocked,online,opened.recommended,
      .inl ⟨targets,given,differ,clear,allowed⟩⟩
  · intro now shakes
    obtain ⟨action,planned,reached⟩ := shakes.planned
    cases requires : componentControlRequiresProvenSafeField action.action with
    | true =>
        exact never now ⟨assessed,interlock_fresh (reached.proven requires).clear,opened.running,opened.unlocked,
          online,opened.recommended,.inr shakes⟩
    | false =>
        obtain ⟨early,fresh⟩ := opened.fresh
        refine never early ⟨assessed,fresh,opened.running,opened.unlocked,online,opened.recommended,.inr {shakes with
          planned := ⟨action,planned,reached.listed,fun needed => ?_⟩ }⟩
        rw [requires] at needed
        cases needed

theorem carryOut_held {answers : Nat → Env} (found : facts.Found safety limits false me w answers)
    (high : 0 < facts.assessed.highAlarmCount)
    (never : ∀ now recommended, ¬AiActuates safety limits capabilities flags facts w.state now recommended) :
    OnlyStops safety me w ((aiCarryOut safety limits capabilities actor false flags :
      Handler Event.work me AppError AiControlResponse).drive answers w).2 := by
  refine drive_opening (P := fun _ after => OnlyStops safety me w after) found (fun _ _ calm => onlyStops_calm calm)
    fun recommended mid assessed opened filed => ?_
  rw [← filed_runtime filed] at opened ⊢
  have unreached : ∀ now, ¬AiActuates safety limits capabilities flags facts mid.state now recommended := fun now actuates =>
    never now recommended (actuates.congr (filed_runtime filed).symm (filed_batches filed).symm)
  have assessed : ∃ alarmed seen, facts.assessed = assessmentAt safety limits mid.state alarmed seen := by
    obtain ⟨alarmed,seen,same⟩ := assessed
    refine ⟨alarmed,seen,same.trans ?_⟩
    unfold assessmentAt Db.unfinishedBatches
    rw [filed_runtime filed,filed_batches filed]
  obtain ⟨unadjustable,unshakeable⟩ := held_of_unreached assessed opened unreached
  refine alone_mono (fun _ after stops => onlyStops_from (filed_calm filed) stops) ?_
  have still : OnlyStops safety me mid mid := onlyStops_calm (calm_refl mid)
  unfold aiActs
  refine alone_seq (adjust_held unadjustable) ?_ fun _ _ calm => onlyStops_calm calm
  intro plan after held
  obtain ⟨rfl,unadjusted⟩ := held
  refine alone_look silent_answer (fun _ _ _ _ => still) fun e env allowed answered => ?_
  cases answered
  refine alone_ofExcept (fun _ _ => still) fun selected chosen => ?_
  obtain ⟨planned,started⟩ := @start_held safety actor me flags plan after.state.runtime _ selected
    fun free allowed => @blocked_high flags facts high w.state (by rw [← filed_runtime filed]; exact free) allowed
  rw [started]
  refine alone_look silent_runtimeState (fun _ _ _ _ => still) fun e live _ looked => ?_
  cases looked
  have selectable : ∃ selected, facts.selected = .ok selected := ⟨selected,by rw [← (allowed : facts.Answers _).selected]; exact chosen⟩
  refine alone_seq (stopOrShake_held unadjusted selectable unshakeable) ?_ fun _ _ stops => stops
  intro plan mid stops
  refine alone_seq (F := fun _ after => Calm me mid after) (alone_calm clean_auditDecision) ?_ fun _ _ calm => onlyStops_then stops calm
  intro _ _ calm
  exact onlyStops_then stops calm

end Held

section Reached
variable {flags : AiFlags} {facts : AiFacts} {recommended : Option ControlTargets} {plan : AiPlan} {now : Instant} {e : Env}

-- A device write other than a stop.
def Wrote (me : TaskId) (before after : World) : Prop :=
  ∃ new, after = before.extend new ∧ ∃ writer command delivered,
    writer ≠ .processStop ∧ (me,.commanded writer command delivered) ∈ new

theorem wrote_not_onlyStops (wrote : Wrote me w after) : ¬OnlyStops safety me w after := by
  intro stops
  obtain ⟨new,rfl,writer,command,delivered,other,member⟩ := wrote
  obtain ⟨listed,same,own,_⟩ := stops
  have equal : listed = new := by
    have histories := congrArg Journal.history same
    rw [extend_history,extend_history] at histories
    exact (List.append_cancel_right histories).symm
  subst equal
  exact other (own _ member).2.1

theorem wrote_later (first : Wrote me w mid) (rest : ∃ new, after = mid.extend new) : Wrote me w after := by
  obtain ⟨new,rfl⟩ := rest
  obtain ⟨older,rfl,writer,command,delivered,other,member⟩ := first
  exact ⟨new ++ older,(extend_append _ _ _).symm,writer,command,delivered,other,List.mem_append_right _ member⟩

theorem wrote_from (first : Calm me w mid) (rest : Wrote me mid after) : Wrote me w after := by
  obtain ⟨older,_,rfl⟩ := first
  obtain ⟨new,rfl,writer,command,delivered,other,member⟩ := rest
  exact ⟨new ++ older,(extend_append _ _ _).symm,writer,command,delivered,other,List.mem_append_left _ member⟩

theorem alone_extends {may : Event → Bool} {ε : Type} (t : Handler may me ε α) :
    t.alone allows w fun _ after => ∃ new, after = w.extend new := by
  refine alone_each (R := fun before after : World => ∃ new, after = before.extend new) (fun a => ⟨[],rfl⟩) ?_ ?_
  · intro a b c first rest
    obtain ⟨older,rfl⟩ := first
    obtain ⟨new,rfl⟩ := rest
    exact ⟨new ++ older,(extend_append _ _ _).symm⟩
  · apply behaves_mono _ (each_kept t)
    intro moments result kept moment member
    obtain ⟨new,_,same⟩ := kept moment member
    exact ⟨new,same⟩

-- What is written stays written.
theorem alone_wrote {ε : Type} {t : Handler Event.work me ε α} {k : α → Handler Event.work me ε β}
    (wrote : t.alone allows w fun _ after => Wrote me w after) : (t >>= k).alone allows w fun _ after => Wrote me w after := by
  refine alone_seq wrote ?_ fun _ _ wrote => wrote
  intro value mid wrote
  exact alone_mono (fun _ _ extended => wrote_later wrote extended) (alone_extends _)

theorem alone_exact {may : Event → Bool} {ε : Type} {s : Critical may me ε α} {k : α → Handler may me ε β}
    {P : Except ε β → World → Prop} {value : α} (ran : s.run e w = (.ok value,after))
    (rest : (k value).alone (· = e) after P) : (locked s >>= k).alone (· = e) w P := by
  rw [alone_bind,alone_locked]
  intro answered same
  subst same
  rw [ran]
  exact rest

theorem alone_insert {batchId : Option Int} {eventType reason : String} {command : Option SafeCommand}
    {k : Unit → Handler Event.work me AppError β} {P : Except AppError β → World → Prop} (done : e.db = .done)
    (rest : ∀ after, Calm me w after → (k ()).alone (· = e) after P) :
    (orInternal (within (insertControlEventSqlx batchId eventType command reason actor)) >>= k).alone (· = e) w P := by
  unfold insertControlEventSqlx
  rw [alone_bind,alone_orInternal,alone_within,alone_locked]
  intro answered same
  subst same
  have ran : (statement (.controlEventInserted ⟨batchId,eventType,command,reason,actor⟩) rfl :
      Critical Event.quiet me Failure Unit).run answered w =
        (.ok (),w.emit me (.store (.controlEventInserted ⟨batchId,eventType,command,reason,actor⟩))) := by
    simp [statement,done]
  rw [ran]
  exact rest _ ⟨[(me,.store (.controlEventInserted ⟨batchId,eventType,command,reason,actor⟩))],by simp [Event.bearing],rfl⟩

theorem apply_wrote {targets : ControlTargets} {reason : String} (done : e.db = .done) (taken : e.device = .ok ())
    (adjustable : Adjustable safety e.now w.state.runtime targets) :
    (applyAiTargets safety targets reason actor : Handler Event.work me AppError Unit).alone (· = e) w
      fun _ after => Wrote me w after := by
  obtain ⟨clear,allowed⟩ := adjustable
  unfold applyAiTargets
  refine alone_exact rfl ?_
  rw [alone_bind,alone_locked]
  intro answered same
  subst same
  rw [Section.run_bind,run_acknowledge,chain_ok,Section.run_bind,run_ensure,interlock_disabled,clear,allowed,chain_ok,
    Section.run_pure]
  refine alone_ofExcept (fun _ refused => by cases refused) fun _ _ => alone_insert done fun mid inserted => ?_
  refine alone_mono (fun _ after wrote => wrote_from (calm_trans calm_acknowledged inserted) wrote) (alone_wrote ?_)
  refine alone_catching.mpr (alone_writeTargets.mpr fun answer same => ?_)
  subst same
  rw [taken]
  exact ⟨[(me,.commanded .aiTargets (some (safeCommandFromRuntimeTargets targets reason)) true)],rfl,.aiTargets,_,_,
    by decide,List.mem_singleton.mpr rfl⟩

theorem field_healthy {now : Instant} {runtime : RuntimeState} {mode : TargetUpdateInterlockMode}
    (clear : ensureTargetUpdateInterlockClear safety now runtime mode = .ok ()) :
    (runtime.deviceStatus.bind fun status => deviceStatusFieldFaultReason now status safety.control.sensorTimeoutMs) = none := by
  unfold ensureTargetUpdateInterlockClear at clear
  split at clear
  · cases clear
  split at clear
  · cases clear
  split at clear
  · cases clear
  cases reported : runtime.deviceStatus with
  | none => rfl
  | some status =>
      cases fault : deviceStatusFieldFaultReason now status safety.control.sensorTimeoutMs with
      | none => exact fault
      | some reason =>
          simp only [ensureProvenHealthyDeviceStatus,reported,fault] at clear
          cases clear

theorem prove_exact {command : ComponentControlCommand} (done : e.db = .done) (proven : FieldProven safety e.now w.state command) :
    (proveComponentField safety command : Handler Event.work me AppError RuntimeState).alone (· = e) w
      fun result after => Calm me w after ∧ result.isOk = true := by
  obtain ⟨clear,consistent,pair,computed,accepted⟩ := proven
  unfold proveComponentField
  refine alone_exact (run_acknowledge e _) ?_
  rw [alone_bind,alone_timed]
  intro answered same
  subst same
  rw [interlock_disabled,clear]
  have checked : (ensurePersistedBatchStateConsistent {w.state.runtime with autoEnabled := false} .componentControl :
      Critical Event.work me AppError Unit).run answered (acknowledged me w) = (.ok (),acknowledged me w) := by
    rw [run_persisted,done]
    exact congrArg (fun passed => (passed,acknowledged me w)) consistent
  refine alone_exact checked ?_
  rw [alone_bind,alone_timed]
  intro later same
  subst same
  have healthy : ({w.state.runtime with autoEnabled := false}.deviceStatus.bind fun status =>
    deviceStatusFieldFaultReason later.now status safety.control.sensorTimeoutMs) = none := field_healthy clear
  rw [healthy]
  simp only
  refine alone_ofExcept (fun _ refused => ?_) fun found returned => ?_
  · simp [computed,Except.mapError] at refused
  simp only [computed,Except.mapError,Except.ok.injEq] at returned
  subst returned
  rw [accepted]
  exact ⟨calm_acknowledged,rfl⟩

theorem alone_writeComponent {P : Except Failure (Option ComponentControlOutcome) → World → Prop}
    (rest : ∀ answered command delivered, allows answered →
      P answered.component (w.emit me (.commanded .component command delivered))) :
    (writeComponent : Handler Event.work me Failure (Option ComponentControlOutcome)).alone allows w P :=
  fun answered allowed => rest answered _ _ allowed

theorem deliver_wrote {requires : Bool} {runtime : RuntimeState} {auditReason eventType : String} :
    (deliverComponent safety requires runtime auditReason eventType actor :
      Handler Event.work me AppError (Option ComponentControlOutcome)).alone (· = e) w fun _ after => Wrote me w after := by
  unfold deliverComponent
  refine alone_wrote (alone_catching.mpr (alone_writeComponent fun answered command delivered _ => ?_))
  have written : Wrote me w (w.emit me (.commanded .component command delivered)) :=
    ⟨[(me,.commanded .component command delivered)],rfl,.component,_,_,by decide,List.mem_singleton.mpr rfl⟩
  cases answered.component with
  | ok outcome => exact written
  | error err => exact alone_mono (fun _ _ extended => wrote_later written extended) (alone_extends _)

theorem shake_wrote {action : ComponentControlRequest} {eventType : String} (shake : ShakeAction action) (done : e.db = .done)
    (reached : ShakeReached safety capabilities e.now w.state action) :
    (executeComponentControl safety capabilities "reactor_001" "shake_stepper" action eventType actor :
      Handler Event.work me AppError ComponentControlResponse).alone (· = e) w fun _ after => Wrote me w after := by
  obtain ⟨plain,reason,given⟩ := shake
  obtain ⟨⟨⟨component,listedAction⟩,listed,valid⟩,proven⟩ := reached
  simp only at valid
  have value : componentControlCommandValue listedAction action = none := by simp [componentControlCommandValue,plain]
  have explained : componentControlReason action (componentControlRequiresProvenSafeField action.action) = .ok (some reason) := by
    simp [componentControlReason,given]
  unfold executeComponentControl
  refine alone_ofExcept (fun err refused => ?_) fun _ _ => alone_exact rfl ?_
  · simp [ensureReactorDeviceId] at refused
  rw [listed]
  refine alone_ofExcept (fun _ refused => by cases refused) fun pair same => ?_
  cases same
  simp only
  rw [valid,explained]
  refine alone_ofExcept (fun _ refused => by cases refused) fun _ _ => ?_
  refine alone_ofExcept (fun _ refused => by cases refused) fun _ _ => ?_
  simp only [value]
  cases requires : componentControlRequiresProvenSafeField action.action with
  | false =>
      simp only [Bool.false_eq_true,if_false,pure_done,Task.bind_ok]
      exact alone_wrote deliver_wrote
  | true =>
      simp only [if_true]
      refine alone_seq (prove_exact done (proven requires)) ?_ fun _ _ refused => by cases refused.2
      intro runtime mid checked
      exact alone_mono (fun _ _ wrote => wrote_from checked.1 wrote) (alone_wrote deliver_wrote)

-- What the facts of a request are answered by while nothing is wrong.
def AiFacts.env (facts : AiFacts) (now : Instant) : Env where
  now := now
  process := facts.process
  storedRecommendation := facts.stored
  sources := facts.sources
  selectedProcess := facts.selected

theorem env_answers : facts.Answers (facts.env now) := ⟨rfl,rfl,rfl,rfl⟩

theorem blockReason_exact {allow : Bool} :
    (aiProcessStartBlockReason facts.assessed w.state.runtime allow : Handler Event.work me AppError (Option String)).alone
      (· = facts.env now) w fun result after => result = .ok (facts.blocked w.state allow) ∧ after = w := by
  unfold AiFacts.blocked aiProcessStartBlockReason
  split
  · exact ⟨rfl,rfl⟩
  split
  · exact ⟨rfl,rfl⟩
  split
  · exact ⟨rfl,rfl⟩
  split
  · exact ⟨rfl,rfl⟩
  · exact alone_exact rfl ⟨rfl,rfl⟩

theorem file_exact {recommendation : Recommendation} {eventType reason : String} :
    (orInternal (within (insertRecommendationWithAuditSqlx recommendation eventType reason actor)) :
      Handler Event.work me AppError Unit).alone (· = facts.env now) w
        fun result after => result = .ok () ∧ Filed me false w after := by
  refine alone_orInternal.mpr (alone_within.mpr (alone_locked.mpr ?_))
  rintro _ rfl
  exact ⟨rfl,.inr ⟨rfl,recommendation,_,rfl⟩⟩

theorem generate_exact {recommendation : Recommendation} (given : facts.sources.generated = .ok recommendation) :
    (generateRecommendation : Handler Event.work me AppError Recommendation).alone (· = facts.env now) w
      fun result after => result = .ok recommendation ∧ after = w := by
  have read : (orInternalLocked (query fun env _ => env.sources) : Critical Event.work me AppError RecommendationSources).run
    (facts.env now) w = (.ok facts.sources,w) := rfl
  have answered : (answer : Critical Event.work me AppError Env).run (facts.env now) w = (.ok (facts.env now),w) := rfl
  unfold RecommendationSources.generated at given
  unfold generateRecommendation
  refine alone_exact read ?_
  split at given
  · cases given
  rename_i some
  rw [if_neg some]
  cases optimized : facts.sources.optimized with
  | none => rw [optimized] at given; cases given
  | some fallback =>
      rw [optimized] at given
      refine alone_exact answered ?_
      rw [show (facts.env now).sources = facts.sources from rfl]
      cases provider : facts.sources.provider with
      | none =>
          rw [provider] at given
          exact ⟨given,rfl⟩
      | some answered =>
          rw [provider] at given
          simp only at given ⊢
          rw [given]
          exact ⟨rfl,rfl⟩

theorem recommendation_exact {allow : Bool}
    (found : facts.recommended safety w.state.runtime allow = .ok recommended) :
    (aiRecommendation false allow actor : Handler Event.work me AppError (Option Recommendation)).alone (· = facts.env now) w
      fun result after => (∃ recommendation, result = .ok recommendation ∧
        recommendation.mapM (aiTargetsFromRecommendation safety w.state.runtime) = .ok recommended) ∧
        Filed me false w after := by
  have still : Filed me false w w := .inl rfl
  unfold AiFacts.recommended at found
  unfold aiRecommendation
  have read : (orInternalLocked (query fun env _ => env.storedRecommendation) :
    Critical Event.work me AppError (Option Recommendation)).run (facts.env now) w = (.ok facts.stored,w) := rfl
  refine alone_exact read ?_
  cases stored : facts.stored with
  | some recommendation =>
      rw [stored] at found
      refine ⟨⟨_,rfl,?_⟩,still⟩
      rw [← found]
      simp only [Option.mapM_some]
      cases aiTargetsFromRecommendation safety w.state.runtime recommendation <;> rfl
  | none =>
      rw [stored] at found
      cases allow with
      | false => exact ⟨⟨_,rfl,found⟩,still⟩
      | true =>
          cases given : facts.sources.generated with
          | error err => rw [given] at found; cases found
          | ok recommendation =>
              rw [given] at found
              refine alone_seq (generate_exact given) ?_ fun _ _ refused => by cases refused.1
              intro generated after returned
              obtain ⟨same,rfl⟩ := returned
              cases same
              have computed : (some recommendation).mapM (aiTargetsFromRecommendation safety after.state.runtime) =
                  .ok recommended := by
                rw [← found]
                simp only [Option.mapM_some,if_true]
                change _ = (aiTargetsFromRecommendation safety after.state.runtime recommendation).map some
                cases aiTargetsFromRecommendation safety after.state.runtime recommendation <;> rfl
              refine alone_seq file_exact ?_ fun _ _ refused => by cases refused.1
              intro _ mid filed
              exact ⟨⟨_,rfl,computed⟩,filed.2⟩

-- The looks of the assessment, where the database answers.
theorem run_liveAlarms (done : e.db = .done) :
    (liveAlarmsFor safety w.state.runtime w.state.runtime.latestSample limits :
      Critical Event.work me AppError (List Alarm)).run e w = (.ok (liveAlarmsForWithBatchStatus safety e.now w.state.runtime
        w.state.runtime.latestSample limits (unfinishedBatchStatusFromBatches (w.state.db.unfinishedBatches 100)
          w.state.runtime)),w) := by
  rw [liveAlarmsFor,Section.run_bind,run_unfinishedBatchStatus,done]
  rfl

theorem run_deviceStatus (done : e.db = .done) :
    (deviceStatusSummaryWithDb safety w.state.runtime : Critical Event.work me AppError DeviceStatusSummary).run e w =
      (.ok (deviceStatusSummaryWithBatchStatus safety e.now w.state.runtime
        (unfinishedBatchStatusFromBatches (w.state.db.unfinishedBatches 100) w.state.runtime)),w) := by
  rw [deviceStatusSummaryWithDb,Section.run_bind,run_unfinishedBatchStatus,done]
  rfl

theorem assess_drive (answers : Nat → Env) (done : ∀ n, (answers n).db = .done)
    (fresh : ensureFreshSample safety (answers 1).now w.state.runtime = .ok ()) :
    (aiAssess safety limits false : Handler Event.work me AppError (RuntimeState × AiControlSafety)).drive answers w =
      (.ok (w.state.runtime,assessmentAt safety limits w.state (answers 3).now (answers 4).now),w) := by
  have looked : (runtimeState : Critical Event.work me AppError RuntimeState).run (answers 0) w = (.ok w.state.runtime,w) := rfl
  have checked : ((do
      let now ← utcNow
      .ofExcept (ensureFreshSample safety now w.state.runtime) : Critical Event.work me AppError Unit)).attempt.run
        (answers 1) w = ((.ok (.ok ()) : Except AppError (Except AppError Unit)),w) := by
    change (Except.ok (ensureFreshSample safety (answers 1).now w.state.runtime),w) = _
    rw [fresh]
  unfold aiAssess aiControlSafety locked
  rw [drive_section_bind,looked]
  simp only [catching,timed,locked,attempt_section,Task.bind_assoc,drive_section_bind,checked,pure_done,Task.bind_ok,
    run_unfinishedBatchStatus,done,run_liveAlarms,Section.run_bind,run_deviceStatus]
  rfl

theorem goes_on {P : Except AppError AiControlResponse → World → Prop}
    (running : facts.assessed.emergencyStop = false) (unlocked : facts.assessed.manualLock = false)
    (online : facts.assessed.deviceOnline = true)
    (found : facts.recommended safety w.state.runtime flags.allowTargetAdjustment = .ok recommended)
    (rest : ∀ mid, Filed me false w mid → (aiActs safety capabilities actor false flags w.state.runtime facts.assessed
      (facts.blocked w.state flags.allowProcessStart) recommended :
        Handler Event.work me AppError AiControlResponse).alone (· = facts.env now) mid P) :
    (aiCarryOn safety capabilities actor false flags w.state.runtime facts.assessed :
      Handler Event.work me AppError AiControlResponse).alone (· = facts.env now) w P := by
  unfold aiCarryOn
  have allowed : (aiEnsureAllowed facts.assessed false : Handler Event.work me AppError Unit) = .done (.ok ()) := by
    simp [aiEnsureAllowed,running,unlocked,online]
  rw [allowed,Task.bind_ok]
  refine alone_seq blockReason_exact ?_ fun _ _ refused => by cases refused.1
  intro blocked after read
  obtain ⟨same,rfl⟩ := read
  cases same
  refine alone_seq (recommendation_exact found) ?_ fun _ _ refused => by obtain ⟨⟨_,absurd,_⟩,_⟩ := refused; cases absurd
  intro recommendation mid read
  obtain ⟨⟨_,same,computed⟩,filed⟩ := read
  cases same
  rw [computed]
  exact rest mid filed

theorem adjust_skipped (unadjusted : Unadjusted flags w.state.runtime recommended) : ∃ planned,
    (aiAdjustTargets safety w.state.runtime false flags.allowTargetAdjustment recommended actor plan :
      Handler Event.work me AppError AiPlan) = .done (.ok planned) := by
  unfold aiAdjustTargets
  cases recommended with
  | none => exact ⟨_,rfl⟩
  | some targets =>
      simp only [unadjusted targets rfl,Bool.false_eq_true,if_false]
      exact ⟨_,rfl⟩

theorem acts_wrote (actuates : AiActuates safety limits capabilities flags facts w.state now recommended) {blocked : Option String} :
    (aiActs safety capabilities actor false flags w.state.runtime facts.assessed blocked recommended :
      Handler Event.work me AppError AiControlResponse).alone (· = facts.env now) w fun _ after => Wrote me w after := by
  unfold aiActs
  cases actuates.acts with
  | inl adjusts =>
      obtain ⟨targets,rfl,differ,adjustable⟩ := adjusts
      refine alone_wrote ?_
      simp only [aiAdjustTargets,differ,if_true,Bool.not_false]
      exact alone_wrote (apply_wrote rfl rfl adjustable)
  | inr shakes =>
      obtain ⟨planned,skipped⟩ := @adjust_skipped safety actor me w flags recommended ⟨"hold",[]⟩ shakes.unadjusted
      obtain ⟨selected,chosen⟩ := shakes.selected
      obtain ⟨action,found,reached⟩ := shakes.planned
      have answered : (answer : Critical Event.work me AppError Env).run (facts.env now) w = (.ok (facts.env now),w) := rfl
      have offered : (facts.env now).selectedProcess = .ok selected := chosen
      have busy : w.state.runtime.activeBatchId.isNone = false := by
        rw [← Option.not_isSome,shakes.active]
        rfl
      obtain ⟨started,untouched⟩ := @start_held safety actor me flags planned w.state.runtime blocked selected
        fun free => by rw [busy] at free; cases free
      have looked : (runtimeState : Critical Event.work me AppError RuntimeState).run (facts.env now) w =
        (.ok w.state.runtime,w) := rfl
      rw [skipped,Task.bind_ok]
      refine alone_exact answered ?_
      rw [offered]
      refine alone_ofExcept (fun _ refused => by cases refused) fun other same => ?_
      cases same
      rw [untouched,Task.bind_ok]
      refine alone_exact looked (alone_wrote ?_)
      simp only [aiStopOrShake,aiRuntimeAfterProcess,Bool.false_eq_true,if_false,busy,shakes.unstopped,shakes.allowed,if_true]
      refine alone_exact looked ?_
      simp only [found,Bool.not_false,if_true]
      exact alone_wrote (shake_wrote (planned_shake found) rfl reached)

theorem acts_wrote_filed {blocked : Option String} (filed : Filed me false w mid)
    (actuates : AiActuates safety limits capabilities flags facts w.state now recommended) :
    (aiActs safety capabilities actor false flags w.state.runtime facts.assessed blocked recommended :
      Handler Event.work me AppError AiControlResponse).alone (· = facts.env now) mid fun _ after => Wrote me w after := by
  have later := actuates.congr (filed_runtime filed) (filed_batches filed)
  rw [← filed_runtime filed]
  exact alone_mono (fun _ after wrote => wrote_from (filed_calm filed) wrote) (acts_wrote later)

-- A run in which a request that gets past its checks writes to the device.
theorem actuates_wrote (actuates : AiActuates safety limits capabilities flags facts w.state now recommended) :
    ∃ answers, facts.Found safety limits false me w answers ∧
      Wrote me w ((aiCarryOut safety limits capabilities actor false flags :
        Handler Event.work me AppError AiControlResponse).drive answers w).2 := by
  obtain ⟨alarmed,seen,assessed⟩ := actuates.assessed
  -- The clock shows these times where the assessment reads it.
  let early : Nat → Env := fun n => facts.env (if n = 3 then alarmed else if n = 4 then seen else now)
  have ran := @assess_drive safety limits me w early (fun _ => rfl) actuates.fresh
  rw [show assessmentAt safety limits w.state (early 3).now (early 4).now = facts.assessed from assessed.symm] at ran
  obtain ⟨answers,listed,first,whole⟩ := drive_then (aiAssess safety limits false) (fun found =>
    (aiCarryOn safety capabilities actor false flags found.1 found.2 : Handler Event.work me AppError AiControlResponse))
    early (fun _ => facts.env now) ran
  refine ⟨answers,⟨fun n => ?_,fun found same => ?_⟩,?_⟩
  · obtain ⟨m,same⟩ | ⟨m,same⟩ := listed n
    · rw [same]
      exact env_answers
    · rw [same]
      exact env_answers
  · rw [first] at same
    cases same
    rfl
  · change Wrote me w ((aiAssess safety limits false >>= fun found =>
      (aiCarryOn safety capabilities actor false flags found.1 found.2 :
        Handler Event.work me AppError AiControlResponse)).drive answers w).2
    rw [whole]
    exact alone_drive (goes_on actuates.running actuates.unlocked actuates.online actuates.found fun mid filed =>
      acts_wrote_filed filed actuates) fun _ => rfl

end Reached

section Claim
variable (safety limits capabilities actor me w) (payload : AiControlRequest) (facts : AiFacts)

-- A request with `dry_run = false` that finds `facts`, whatever the device, the database and the clock answer.
def HeldByAlarms : Prop :=
  ∀ answers : Nat → Env, facts.Found safety limits false me w answers → OnlyStops safety me w
    ((aiControl safety limits capabilities payload actor : Handler Event.work me AppError AiControlResponse).drive answers w).2

theorem high_alarms_hold_iff (real : payload.dryRun = some (some false)) (high : 0 < facts.assessed.highAlarmCount) :
    HeldByAlarms safety limits capabilities actor me w payload facts ↔ ∀ flags, payload.flags = .ok flags →
      ∀ now recommended, ¬AiActuates safety limits capabilities flags facts w.state now recommended := by
  have asked : optionalPresentBool payload.dryRun "dry_run" = .ok (some false) := by rw [real]; rfl
  constructor
  · intro held flags given now recommended actuates
    obtain ⟨answers,found,wrote⟩ := @actuates_wrote safety limits capabilities actor me w _ _ _ _ actuates
    have reached := held answers found
    rw [aiControl_flags,asked,given] at reached
    exact wrote_not_onlyStops wrote reached
  · intro never answers found
    rw [aiControl_flags,asked]
    cases given : payload.flags with
    | error err => exact onlyStops_calm (calm_refl w)
    | ok flags => exact carryOut_held found high fun now recommended => never flags given now recommended

end Claim

-- A healthy field whose pressure is beyond its hard limit, and a stored recommendation of 65 °C.
def alarmedPlant : Plant := {Site.shipped.startUp with
  runtime := {Site.shipped.startUp.runtime with
    latestSample := Env.healthy.reading.toOption.map fun reading => {reading.1 with pressureMpa := 8}
    deviceStatus := Env.healthy.reading.toOption.bind (·.2) } }

-- The limit of the shipped memory for the pressure.
def pressureLimits : SensorLimits := {pressureMpa := some ⟨"reactor pressure","MPa",some 0,some (8/10),some 0,some 1⟩ }

def alarmedFacts : AiFacts where
  assessed := assessmentAt .shipped pressureLimits alarmedPlant 0 0
  stored := some ⟨65,300,30,30⟩
  sources := {}
  selected := .ok none
  process := none

theorem alarmed_high : alarmedFacts.assessed.highAlarmCount = 1 := by decide +kernel

def warmer : ControlTargets := ⟨65,1800,1800,180,300,30,1/2⟩

-- With every flag but the target adjustment refused, and nothing running, the alarm holds the request.
theorem high_alarms_hold_unadjusted : HeldByAlarms .shipped pressureLimits [] .system 0 ⟨alarmedPlant,[]⟩
    {dryRun := some (some false),allowTargetAdjustment := some (some false) } alarmedFacts := by
  have high : 0 < alarmedFacts.assessed.highAlarmCount := by rw [alarmed_high]; decide
  refine (high_alarms_hold_iff .shipped pressureLimits [] .system 0 ⟨alarmedPlant,[]⟩ _ alarmedFacts rfl high).mpr ?_
  intro flags given now recommended actuates
  cases given
  cases actuates.acts with
  | inl adjusts =>
      obtain ⟨_,_,differ,_⟩ := adjusts
      cases differ
  | inr shakes => cases shakes.active

-- The sample is one that both ways in accept.
theorem adjusts_under_alarm : alarmedPlant.runtime.latestSample.map (fun sample =>
      (sample.pressureMpa,validateSensorSnapshot sample)) = some (8,.ok ()) ∧
    alarmedFacts.assessed.highAlarmCount = 1 ∧
    ¬HeldByAlarms .shipped pressureLimits [] .system 0 ⟨alarmedPlant,[]⟩ {dryRun := some (some false) } alarmedFacts := by
  refine ⟨by decide +kernel,alarmed_high,fun held => ?_⟩
  have actuates : AiActuates .shipped pressureLimits [] ⟨true,true,true,true,"optimize_and_control"⟩ alarmedFacts alarmedPlant 0
      (some warmer) :=
    ⟨⟨0,0,rfl⟩,by decide +kernel,by decide +kernel,by decide +kernel,by decide +kernel,by decide +kernel,
      .inl ⟨warmer,rfl,by decide +kernel,by decide +kernel,by decide +kernel⟩⟩
  obtain ⟨answers,found,wrote⟩ := @actuates_wrote .shipped pressureLimits [] .system 0 ⟨alarmedPlant,[]⟩ _ _ _ _ actuates
  have reached := held answers found
  rw [aiControl_flags] at reached
  exact wrote_not_onlyStops wrote reached

end ReactorOS
