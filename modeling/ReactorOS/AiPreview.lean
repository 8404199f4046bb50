import ReactorOS.AiRequests
import ReactorOS.Jobs
namespace ReactorOS
open Concurrency Journal Task Section
variable {safety : SafetyConfig} {limits : SensorLimits} {capabilities : List DeviceComponentCapability} {actor : AuditActor} {me : TaskId}
  {ε ε' α β : Type} {allows : Env → Prop} {w mid after : World}

-- What leaves the sample, the device status, the targets and the active batch alone.
def Event.unseen : Event → Bool
  | .runtime (.engaged _ _) => true
  | .runtime .autoDisabled => true
  | .runtime .autoEnabled => true
  | .runtime _ => false
  | _ => true

structure SameView (before after : RuntimeState) : Prop where
  sample : after.latestSample = before.latestSample
  status : after.deviceStatus = before.deviceStatus
  targets : after.targets = before.targets
  batch : after.activeBatchId = before.activeBatchId

theorem sameView_refl (runtime : RuntimeState) : SameView runtime runtime := ⟨rfl,rfl,rfl,rfl⟩

theorem SameView.trans {a b c : RuntimeState} (first : SameView a b) (rest : SameView b c) : SameView a c :=
  ⟨rest.sample.trans first.sample,rest.status.trans first.status,rest.targets.trans first.targets,
    rest.batch.trans first.batch⟩

theorem sameView_change {change : Change} {runtime : RuntimeState} (unseen : (Event.runtime change).unseen = true) :
    SameView runtime (change.apply runtime) := by
  cases change with
  | engaged latch reason => cases latch <;> exact ⟨rfl,rfl,rfl,rfl⟩
  | autoDisabled => exact ⟨rfl,rfl,rfl,rfl⟩
  | autoEnabled => exact ⟨rfl,rfl,rfl,rfl⟩
  | _ => cases unseen

abbrev Unseen (me : TaskId) (before after : World) : Prop := Records (fun event : Event => event.unseen = true) me () before after

theorem unseen_sameView (unseen : Unseen me w after) : SameView w.state.runtime after.state.runtime := by
  obtain ⟨new,own,rfl⟩ := unseen
  induction new with
  | nil => exact sameView_refl _
  | cons entry new ih =>
      have older := ih fun entry member => own entry (List.mem_cons_of_mem _ member)
      have plain := (own entry List.mem_cons_self).2
      obtain ⟨i,event⟩ := entry
      cases event with
      | runtime change => exact older.trans (sameView_change plain)
      | store write => exact older
      | commanded writer command delivered => exact older
      | note note => exact older

-- A part that, where it goes through, has been seen to do nothing.
def Unnoticed (me : TaskId) (allows : Env → Prop) (w : World) (t : Handler Event.work me ε α) : Prop :=
  t.alone allows w (Ends (fun _ after => SameView w.state.runtime after.state.runtime) fun _ => True)

theorem unnoticed_locked {s : Critical Event.work me ε α} (keeps : s.Keeps (Records (fun event => event.unseen = true) me)) :
    Unnoticed me allows w (locked s) := by
  refine alone_locked.mpr fun e allowed => ?_
  have seen := unseen_sameView (keeps e w)
  cases (s.run e w).1 with
  | ok value => exact seen
  | error err => trivial

theorem unnoticed_quiet (t : Handler Event.quiet me ε α) : Unnoticed me allows w (within t) := by
  have each : t.each fun moment => SameView moment.before.state.runtime moment.after.state.runtime := by
    apply behaves_mono _ (each_kept t)
    intro moments result kept moment member
    obtain ⟨new,own,same⟩ := kept moment member
    refine @unseen_sameView me _ _ ⟨new,fun entry listed => ⟨(own entry listed).1,?_⟩,same⟩
    have quiet := (own entry listed).2
    obtain ⟨i,event⟩ := entry
    cases event with
    | runtime change => cases change <;> first | rfl | cases quiet
    | store write => rfl
    | commanded writer command delivered => cases quiet
    | note note => rfl
  have whole : t.alone allows w fun _ after => SameView w.state.runtime after.state.runtime := by
    refine alone_each (R := fun before after : World => SameView before.state.runtime after.state.runtime) ?_ ?_ each
    · intro a
      exact sameView_refl _
    · intro a b c first rest
      exact first.trans rest
  refine alone_within.mpr (alone_mono ?_ whole)
  intro result after same
  cases result with
  | ok value => exact same
  | error err => trivial

-- A failure that is reported on does not go through.
theorem ends_catching {t : Handler Event.work me ε α} {handler : ε → Handler Event.work me ε' α} {Q : α → World → Prop}
    (first : t.alone allows w (Ends Q fun _ => True)) (fails : ∀ err, (handler err).behaves Fails) :
    (catching t handler).alone allows w (Ends Q fun _ => True) := by
  refine alone_catching.mpr (alone_mono ?_ first)
  intro result mid reached
  cases result with
  | ok value => exact reached
  | error err =>
      have never : (handler err).behaves fun _ result => ∀ value, result ≠ .ok value := fails err
      refine alone_mono ?_ (alone_of_behaves never)
      intro result after failed
      cases result with
      | ok value => exact absurd rfl (failed value)
      | error err => trivial

theorem unnoticed_catching {t : Handler Event.work me ε α} {handler : ε → Handler Event.work me ε' α} (first : Unnoticed me allows w t)
    (fails : ∀ err, (handler err).behaves Fails) : Unnoticed me allows w (catching t handler) := ends_catching first fails

theorem unnoticed_then {t : Handler Event.work me ε α} {k : α → Handler Event.work me ε β} {Q : β → World → Prop}
    (first : Unnoticed me allows w t) (rest : ∀ value after, SameView w.state.runtime after.state.runtime →
      (k value).alone allows after (Ends Q fun _ => True)) : (t >>= k).alone allows w (Ends Q fun _ => True) :=
  alone_seq first rest fun _ _ _ => trivial

theorem unnoticed_bind {t : Handler Event.work me ε α} {k : α → Handler Event.work me ε β}
    (first : Unnoticed me allows w t) (rest : ∀ value after, Unnoticed me allows after (k value)) : Unnoticed me allows w (t >>= k) := by
  refine unnoticed_then first fun value mid same => alone_mono ?_ (rest value mid)
  intro result after later
  cases result with
  | ok value => exact same.trans later
  | error err => trivial

theorem unnoticed_accepted {found : Except ε α} {k : α → Handler Event.work me ε β} {Q : β → World → Prop}
    (rest : ∀ value, found = .ok value → (k value).alone allows w (Ends Q fun _ => True)) :
    (Task.ofExcept found >>= k).alone allows w (Ends Q fun _ => True) :=
  alone_ofExcept (fun _ _ => trivial) rest

theorem keeps_unseen {event : Event} {mine : Event.work event = true} (unseen : event.unseen = true) :
    (record event mine : Critical Event.work me ε Unit).Keeps (Records (fun event => event.unseen = true) me) :=
  keeps_record unseen

theorem keeps_unseenNote {note : Note} {mine : Event.work (.note note) = true} :
    (ReactorOS.note note mine : Critical Event.work me ε Unit).Keeps (Records (fun event => event.unseen = true) me) :=
  keeps_unseen rfl

theorem keeps_unseenAcknowledge : (disableAutoAndAcknowledge : Critical Event.work me AppError RuntimeState).Keeps
    (Records (fun event => event.unseen = true) me) :=
  keeps_bind (keeps_unseen rfl) fun _ => keeps_bind (keeps_silent silent_runtimeState) fun _ =>
    keeps_bind (keeps_unseen rfl) fun _ => keeps_silent (silent_pure _)

theorem keeps_unseenLatches {latches : Option SafetyLatchGenerations} {action : String} :
    (ensureSafetyLatchesUnchangedForCommit latches action : Critical Event.work me AppError Unit).Keeps
      (Records (fun event => event.unseen = true) me) := by
  refine keeps_bind (keeps_silent silent_runtimeState) fun runtime => ?_
  cases latches with
  | none => exact keeps_silent (silent_pure _)
  | some acknowledged =>
      simp only
      split
      · exact keeps_bind (keeps_unseen rfl) fun _ => keeps_silent (silent_throw _)
      · exact keeps_silent (silent_pure _)

theorem unnoticed_writeTargets {writer : Writer} {command : SafeCommand} :
    Unnoticed me allows w (writeTargets writer command : Handler Event.work me Failure Unit) :=
  unnoticed_locked (keeps_bind (keeps_silent silent_answer) fun _ => keeps_bind (keeps_record rfl) fun _ =>
    keeps_silent (silent_ofExcept _))

theorem unnoticed_insert {batchId : Option Int} {eventType reason : String} {command : Option SafeCommand} :
    Unnoticed me allows w (orInternal (within (insertControlEventSqlx batchId eventType command reason actor)) :
      Handler Event.work me AppError Unit) := by
  refine alone_orInternal.mpr (alone_mono ?_ (unnoticed_quiet (insertControlEventSqlx batchId eventType command reason actor)))
  intro result after same
  cases result with
  | ok value => exact same
  | error err => trivial

theorem unnoticed_createBatch {processId : Option Int} {name : String} {temperature stirrer heating stirring : ℚ} :
    Unnoticed me allows w (orInternal (createBatchForProcessSqlx processId name temperature stirrer heating stirring) :
      Handler Event.work me AppError Batch) := by
  have created : Unnoticed me allows w (createBatchForProcessSqlx processId name temperature stirrer heating stirring :
      Handler Event.work me Failure Batch) := by
    refine unnoticed_locked (keeps_bind (keeps_silent silent_utcNow) fun _ => keeps_bind (keeps_silent (silent_inspect _)) fun db => ?_)
    refine keeps_bind ?_ fun _ => keeps_silent (silent_pure _)
    unfold statement
    refine keeps_bind (keeps_silent silent_answer) fun env => ?_
    cases env.db with
    | done => exact keeps_unseen rfl
    | failed error => exact keeps_silent (silent_throw _)
    | lost error => exact keeps_bind (keeps_unseen rfl) fun _ => keeps_silent (silent_throw _)
  refine alone_orInternal.mpr (alone_mono ?_ created)
  intro result after same
  cases result with
  | ok value => exact same
  | error err => trivial

theorem unnoticed_silent {s : Critical Event.work me ε α} (silent : s.Silent) : Unnoticed me allows w (locked s) :=
  unnoticed_locked (keeps_silent silent)

-- What a request to the device leaves alone, whatever it has set.
structure SameReading (before after : RuntimeState) : Prop where
  sample : after.latestSample = before.latestSample
  status : after.deviceStatus = before.deviceStatus

section Commits
variable {targets : ControlTargets} {latches : Option SafetyLatchGenerations}

-- A commit that, where it goes through, leaves what it stands for.
def Leaves (R : RuntimeState → RuntimeState → Prop) (s : Critical Event.work me AppError Unit) : Prop :=
  ∀ e w, (s.run e w).1 = .ok () → R w.state.runtime (s.run e w).2.state.runtime

theorem leaves_after {R : RuntimeState → RuntimeState → Prop} (closed : ∀ a b c, SameView a b → R b c → R a c)
    {s : Critical Event.work me AppError α} {k : α → Critical Event.work me AppError Unit}
    (first : s.Keeps (Records (fun event => event.unseen = true) me)) (rest : ∀ value, Leaves R (k value)) :
    Leaves R (s >>= k) := by
  intro e w done
  have same := unseen_sameView (first e w)
  rw [run_bind] at done ⊢
  rcases ran : s.run e w with ⟨result,after⟩
  rw [ran] at same done
  cases result with
  | error err => cases done
  | ok value => exact closed _ _ _ same (rest value e after done)

theorem leaves_committing {R : RuntimeState → RuntimeState → Prop} {path : CommitPath}
    {commit : Critical Event.work me AppError Unit} (leaves : Leaves R commit) : Leaves R (committing path latches commit) := by
  intro e w done
  simp only [committing,run_bind,run_attempt,chain_ok,run_note,run_ofExcept] at done ⊢
  exact leaves e w done

-- The batch that is active stays so, with other targets.
def Retargets (before after : RuntimeState) : Prop := SameReading before after ∧ after.activeBatchId = before.activeBatchId

def Activates (targets : ControlTargets) (before after : RuntimeState) : Prop :=
  SameReading before after ∧ after.targets = targets ∧ after.activeBatchId.isSome = true

theorem retargets_closed (a b c : RuntimeState) (same : SameView a b) (rest : Retargets b c) : Retargets a c :=
  ⟨⟨rest.1.sample.trans same.sample,rest.1.status.trans same.status⟩,rest.2.trans same.batch⟩

theorem activates_closed (a b c : RuntimeState) (same : SameView a b) (rest : Activates targets b c) : Activates targets a c :=
  ⟨⟨rest.1.sample.trans same.sample,rest.1.status.trans same.status⟩,rest.2⟩

theorem alone_leaves {R : RuntimeState → RuntimeState → Prop} (closed : ∀ a b c, SameView a b → R b c → R a c)
    (same : SameView w.state.runtime mid.state.runtime) {s : Critical Event.work me AppError Unit} (leaves : Leaves R s) :
    (locked s).alone allows mid (Ends (fun _ after => R w.state.runtime after.state.runtime) fun _ => True) := by
  refine alone_locked.mpr fun e allowed => ?_
  cases ran : (s.run e mid).1 with
  | ok value => exact closed _ _ _ same (leaves e mid ran)
  | error err => trivial

theorem commitTargets_retargets {mode : TargetUpdateInterlockMode} {expected : Option ControlTargets} :
    (commitTargetsAfterFinalInterlock safety targets mode expected latches : Handler Event.work me AppError Unit).alone allows w
      (Ends (fun _ after => Retargets w.state.runtime after.state.runtime) fun _ => True) := by
  refine unnoticed_then (unnoticed_silent silent_unfinishedBatches) fun unfinished mid same => ?_
  have sets : Leaves Retargets (do
      ensureExpectedCurrent expected mode.description
      change (.targetsSet targets) : Critical Event.work me AppError Unit) := by
    intro e w done
    cases expected with
    | none => exact ⟨⟨rfl,rfl⟩,rfl⟩
    | some current =>
        by_cases stale : w.state.runtime.targets = current
        · simp only [ensureExpectedCurrent,run_bind,run_runtimeState,chain_ok,stale,ne_eq,not_true_eq_false,if_false,run_pure,
            run_change]
          exact ⟨⟨rfl,rfl⟩,rfl⟩
        · simp [ensureExpectedCurrent,stale] at done
  refine alone_leaves retargets_closed same (leaves_committing ?_)
  refine leaves_after retargets_closed (keeps_silent silent_runtimeState) fun runtime => ?_
  refine leaves_after retargets_closed (keeps_silent silent_ensure) fun _ => ?_
  refine leaves_after retargets_closed keeps_unseenLatches fun _ => ?_
  exact leaves_after retargets_closed (keeps_silent (silent_ofExcept _)) fun _ => sets

theorem commitActivation_activates {batchId : Int} {autoEnabled : Bool} :
    (commitProcessActivationAfterFinalInterlock safety batchId targets autoEnabled latches :
      Handler Event.work me AppError Unit).alone allows w
        (Ends (fun _ after => Activates targets w.state.runtime after.state.runtime) fun _ => True) := by
  have read : Unnoticed me allows w (locked (do
      let unfinished ← orInternalLocked (unfinishedBatchesSqlx 100)
      note (.unfinishedRead (unfinished.map (·.id)))
      return unfinished) : Handler Event.work me AppError (List Batch)) :=
    unnoticed_locked (keeps_bind (keeps_silent silent_unfinishedBatches) fun _ => keeps_bind keeps_unseenNote fun _ =>
      keeps_silent (silent_pure _))
  have sets : Leaves (Activates targets) (do
      change (.targetsSet targets)
      change (.activeBatchSet (some batchId))
      if autoEnabled then change .autoEnabled else change .autoDisabled : Critical Event.work me AppError Unit) := by
    intro e w _
    cases autoEnabled <;> exact ⟨⟨rfl,rfl⟩,rfl,rfl⟩
  refine unnoticed_then read fun unfinished mid same => ?_
  refine alone_leaves activates_closed same (leaves_committing ?_)
  refine leaves_after activates_closed (keeps_silent silent_runtimeState) fun runtime => ?_
  refine leaves_after activates_closed (keeps_silent silent_ensure) fun _ => ?_
  refine leaves_after activates_closed keeps_unseenLatches fun _ => ?_
  have checked : Leaves (Activates targets) (do
      .ofExcept (ensurePersistedBatchStatusConsistent
        (unfinishedBatchStatusFromBatches unfinished {runtime with activeBatchId := some batchId})
        {runtime with activeBatchId := some batchId} .processStart)
      change (.targetsSet targets)
      change (.activeBatchSet (some batchId))
      if autoEnabled then change .autoEnabled else change .autoDisabled : Critical Event.work me AppError Unit) :=
    leaves_after activates_closed (keeps_silent (silent_ofExcept _)) fun _ => sets
  cases runtime.activeBatchId with
  | none => exact checked
  | some active => exact leaves_after activates_closed (keeps_silent (silent_throw _)) fun _ => checked

theorem ends_from {R : RuntimeState → RuntimeState → Prop} (closed : ∀ a b c, SameView a b → R b c → R a c)
    (same : SameView w.state.runtime mid.state.runtime) {t : Handler Event.work me ε α}
    (rest : t.alone allows mid (Ends (fun _ after => R mid.state.runtime after.state.runtime) fun _ => True)) :
    t.alone allows mid (Ends (fun _ after => R w.state.runtime after.state.runtime) fun _ => True) := by
  refine alone_mono ?_ rest
  intro result after reached
  cases result with
  | ok value => exact closed _ _ _ same reached
  | error err => trivial

theorem apply_retargets {reason : String} :
    (applyAiTargets safety targets reason actor : Handler Event.work me AppError Unit).alone allows w
      (Ends (fun _ after => Retargets w.state.runtime after.state.runtime) fun _ => True) := by
  unfold applyAiTargets
  refine unnoticed_then (unnoticed_silent silent_readTargets) fun current a one => ends_from retargets_closed one ?_
  have looked : Unnoticed me allows a (locked (do
      let runtime ← disableAutoAndAcknowledge
      ensure fun now => ensureTargetUpdateInterlockClear safety now runtime .desiredTargets
      return SafetyLatchGenerations.fromRuntime runtime) : Handler Event.work me AppError SafetyLatchGenerations) :=
    unnoticed_locked (keeps_bind keeps_unseenAcknowledge fun _ => keeps_bind (keeps_silent silent_ensure) fun _ =>
      keeps_silent (silent_pure _))
  refine unnoticed_then looked fun acknowledged b two => ends_from retargets_closed two ?_
  refine unnoticed_accepted fun _ _ => unnoticed_then unnoticed_insert fun _ c three => ends_from retargets_closed three ?_
  refine unnoticed_then (unnoticed_catching unnoticed_writeTargets fun err => fails_after fun _ => fails_throw _) fun _ d four => ?_
  refine ends_from retargets_closed four ?_
  exact ends_catching commitTargets_retargets fun err => fails_after fun _ => fails_throw _

end Commits

theorem unnoticed_ensureProcessCanStart {runtime : RuntimeState} :
    Unnoticed me allows w (ensureProcessCanStart safety runtime : Handler Event.work me AppError Unit) := by
  refine unnoticed_silent ?_
  cases runtime.activeBatchId.isSome
  · exact silent_bind silent_ensureNoUnclosedDbBatchExcept fun _ => silent_ensure
  · exact silent_bind (silent_throw _) fun _ => silent_bind silent_ensureNoUnclosedDbBatchExcept fun _ => silent_ensure

theorem unnoticed_startOnDevice {targets : ControlTargets} {batchId : Int} :
    Unnoticed me allows w (startProcessOnDevice safety targets batchId : Handler Event.work me AppError Unit) := by
  have checked : ∀ runtime : RuntimeState, (do
      ensureNoUnclosedDbBatchExcept runtime (some batchId)
      ensure fun now => ensureTargetUpdateInterlockClear safety now runtime .processStart
      note .interlockPassed : Critical Event.work me AppError Unit).Keeps (Records (fun event => event.unseen = true) me) :=
    fun runtime => keeps_bind (keeps_silent silent_ensureNoUnclosedDbBatchExcept) fun _ =>
      keeps_bind (keeps_silent silent_ensure) fun _ => keeps_unseenNote
  refine unnoticed_bind (unnoticed_locked (keeps_bind (keeps_silent silent_runtimeState) fun runtime => keeps_bind keeps_unseenNote fun _ => ?_)) ?_
  · cases runtime.activeBatchId.isSome
    · exact checked runtime
    · exact keeps_bind (keeps_silent (silent_throw _)) fun _ => checked runtime
  · intro _ mid
    exact unnoticed_catching unnoticed_writeTargets fun err => fails_after fun _ => fails_throw _

-- What a start leaves of a process whose steps it has read.
def Started (facts : AiFacts) (safety : SafetyConfig) (before after : RuntimeState) : Prop :=
  ∃ detail targets, facts.process = some detail ∧ targetsFromProcessSteps safety detail.steps = .ok targets ∧
    Activates targets before after

theorem fails_failAfterDeviceStart {batchId : Int} {targets : ControlTargets} {action cause : String} {err : AppError} :
    (failAfterDeviceStart safety batchId targets action cause err : Handler Event.work me AppError α).behaves Fails :=
  fails_after fun _ => fails_after fun _ => fails_throw _

theorem start_starts {facts : AiFacts} {processId : Int} {eventType : String} {nameOverride : Option String}
    (answers : ∀ e, allows e → facts.Answers e) :
    (startProcessLifecycle safety processId eventType nameOverride actor :
      Handler Event.work me AppError ProcessApplyResponse).alone allows w
        (Ends (fun _ after => Started facts safety w.state.runtime after.state.runtime) fun _ => True) := by
  unfold startProcessLifecycle
  have read : (within processDetailOrBadRequest : Handler Event.work me AppError (Option ProcessDetail)).alone allows w
      (Ends (fun found after => after = w ∧ found = facts.process) fun _ => True) := by
    refine alone_within.mpr ((alone_mapError _ _ _).mpr (alone_locked.mpr fun e allowed => ?_))
    have given := (answers e allowed).process
    cases state : e.db with
    | done => simp [query,state,Ends,Except.mapError,given]
    | failed error => simp [query,state,Ends,Except.mapError]
    | lost error => simp [query,state,Ends,Except.mapError]
  refine alone_seq read ?_ fun _ _ _ => trivial
  intro found mid same
  obtain ⟨rfl,stored⟩ := same
  cases found with
  | none => exact trivial
  | some detail =>
      simp only
      split
      · exact trivial
      refine unnoticed_accepted fun targets accepted => ?_
      refine alone_mono (P := Ends (fun _ after => Activates targets mid.state.runtime after.state.runtime) fun _ => True) ?_ ?_
      · intro result after reached
        cases result with
        | ok value => exact ⟨detail,targets,stored.symm,accepted,reached⟩
        | error err => trivial
      refine unnoticed_then (unnoticed_locked keeps_unseenAcknowledge) fun runtime a one => ends_from activates_closed one ?_
      refine unnoticed_then unnoticed_ensureProcessCanStart fun _ b two => ends_from activates_closed two ?_
      refine unnoticed_then unnoticed_createBatch fun batch c three => ends_from activates_closed three ?_
      have abandoned : ∀ err, (within (abandonStart batch.id targets "process" actor err) :
          Handler Event.work me AppError Unit).behaves Fails :=
        fun err => behaves_within.mpr (fails_after fun _ => fails_after fun _ => fails_throw _)
      refine unnoticed_then (unnoticed_catching unnoticed_startOnDevice abandoned) fun _ d four => ends_from activates_closed four ?_
      refine unnoticed_then (unnoticed_catching (unnoticed_quiet _) fun err => fails_failAfterDeviceStart) fun _ f five => ?_
      refine ends_from activates_closed five (unnoticed_then (unnoticed_catching (unnoticed_quiet _) fun err => fails_failAfterDeviceStart) ?_)
      intro process g six
      refine ends_from activates_closed six ?_
      cases process with
      | none =>
          have never : (failAfterDeviceStart safety batch.id targets "process start state commit"
            "process not found after device start" (.notFound "process not found") :
              Handler Event.work me AppError ProcessApplyResponse).behaves fun _ result => ∀ value, result ≠ .ok value :=
            fails_failAfterDeviceStart
          refine alone_mono ?_ (alone_of_behaves never)
          intro result after failed
          cases result with
          | ok value => exact absurd rfl (failed value)
          | error err => trivial
      | some process =>
          refine alone_seq (ends_catching commitActivation_activates fun err => fails_failAfterDeviceStart) ?_ fun _ _ _ => trivial
          intro _ after reached
          exact reached

def AiControlAction.carriedOut (action : AiControlAction) : AiControlAction :=
  if action.status = .planned then {action with status := .executed} else action

-- The plan of a dry run as it reads once it has been carried out.
def AiPlan.carriedOut (plan : AiPlan) : AiPlan := {plan with actions := plan.actions.map (·.carriedOut)}

section Plans
variable {plan : AiPlan} {actionType : AiActionType} {target message decision : String}

theorem carriedOut_push {status : AiActionStatus} : (plan.push actionType target status message).carriedOut =
    plan.carriedOut.push actionType target (if status = .planned then .executed else status) message := by
  unfold AiPlan.push AiPlan.carriedOut
  rw [List.map_append]
  cases status <;> rfl

theorem carriedOut_decided : (⟨decision,(plan.push actionType target .planned message).actions⟩ : AiPlan).carriedOut =
    ⟨decision,(plan.carriedOut.push actionType target .executed message).actions⟩ := by
  simp [AiPlan.carriedOut,AiPlan.push,AiControlAction.carriedOut]

theorem carriedOut_stop : (plan.stop true).carriedOut = plan.carriedOut.stop false := carriedOut_decided

theorem carriedOut_shake {action : ComponentControlRequest} :
    (plan.shake true action).carriedOut = plan.carriedOut.shake false action := carriedOut_decided

theorem carriedOut_blocked : (plan.carriedOut.actions.any fun action => action.status = .blocked) =
    plan.actions.any fun action => action.status = .blocked := by
  unfold AiPlan.carriedOut
  rw [List.any_map]
  congr 1
  funext action
  unfold AiControlAction.carriedOut
  cases status : action.status <;> simp [status]

theorem carriedOut_finish : aiFinishPlan plan.carriedOut = (aiFinishPlan plan).carriedOut := by
  unfold aiFinishPlan
  rw [carriedOut_blocked]
  cases blocked : plan.actions.any fun action => action.status = .blocked with
  | true =>
      cases empty : plan.actions with
      | nil => simp [AiPlan.carriedOut,AiPlan.push,empty,AiControlAction.carriedOut]
      | cons first rest => simp [AiPlan.carriedOut,empty]
  | false =>
      cases empty : plan.actions with
      | nil => simp [AiPlan.carriedOut,AiPlan.push,empty,AiControlAction.carriedOut]
      | cons first rest => simp [AiPlan.carriedOut,empty]

end Plans

section Parts
variable {flags : AiFlags} {facts : AiFacts} {recommended : Option ControlTargets} {plan : AiPlan}
  {assessed : AiControlSafety} {runtime : RuntimeState}

def Unstarted (plan : AiPlan) : Prop :=
  (plan.actions.any fun action => action.actionType = .processStart ∧ action.status = .planned) = false

-- The adjustment is planned as it is made, and made it touches nothing that the rest goes by.
theorem adjust_previewed {allow : Bool} (unstarted : Unstarted plan) : ∃ planned, Unstarted planned ∧
    (aiAdjustTargets safety runtime true allow recommended actor plan : Handler Event.work me AppError AiPlan) =
      .done (.ok planned) ∧
    ∀ w, (aiAdjustTargets safety runtime false allow recommended actor plan.carriedOut :
      Handler Event.work me AppError AiPlan).alone allows w (Ends (fun plan after => plan = planned.carriedOut ∧
        Retargets w.state.runtime after.state.runtime ∧
          (recommended = none → after.state.runtime.targets = w.state.runtime.targets)) fun _ => True) := by
  unfold aiAdjustTargets
  have still : ∀ w : World, Retargets w.state.runtime w.state.runtime := fun w => ⟨⟨rfl,rfl⟩,rfl⟩
  cases recommended with
  | none =>
      cases allow with
      | false => exact ⟨plan,unstarted,rfl,fun w => ⟨rfl,still w,fun _ => rfl⟩⟩
      | true =>
          refine ⟨_,?_,rfl,fun w => ⟨?_,still w,fun _ => rfl⟩⟩
          · simpa [Unstarted,AiPlan.push] using unstarted
          · simp only [if_true]
            rw [carriedOut_push]
            rfl
  | some targets =>
      simp only
      split
      · refine ⟨_,?_,rfl,fun w => ?_⟩
        · simpa [Unstarted,AiPlan.push] using unstarted
        · refine alone_seq apply_retargets ?_ fun _ _ _ => trivial
          intro _ after retargets
          exact ⟨carriedOut_decided.symm,retargets,fun absurd => by cases absurd⟩
      · exact ⟨plan,unstarted,rfl,fun w => ⟨rfl,still w,fun _ => rfl⟩⟩

-- A request that starts a process.
def StartsOne (runtime : RuntimeState) (allow : Bool) (blocked : Option String) (selected : Option ProcessDefinition) : Prop :=
  runtime.activeBatchId.isNone = true ∧ allow = true ∧ blocked.isNone = true ∧ selected.isSome = true

theorem start_previewed {allow : Bool} {blocked : Option String} {selected : Option ProcessDefinition}
    (answers : ∀ e, allows e → facts.Answers e) (unstarted : Unstarted plan) : ∃ planned,
    (Unstarted planned ↔ ¬StartsOne runtime allow blocked selected) ∧
    (aiStartProcess safety runtime true allow blocked selected actor plan : Handler Event.work me AppError AiPlan) =
      .done (.ok planned) ∧
    ∀ w, (aiStartProcess safety runtime false allow blocked selected actor plan.carriedOut :
      Handler Event.work me AppError AiPlan).alone allows w (Ends (fun plan after => plan = planned.carriedOut ∧
        (StartsOne runtime allow blocked selected → Started facts safety w.state.runtime after.state.runtime) ∧
          (¬StartsOne runtime allow blocked selected → after = w)) fun _ => True) := by
  unfold aiStartProcess
  split
  · rename_i free
    simp only [Bool.and_eq_true] at free
    cases selected with
    | none =>
        have idle : ¬StartsOne runtime allow blocked none := fun starts => by cases starts.2.2.2
        refine ⟨_,⟨fun _ => idle,fun _ => ?_⟩,rfl,fun w => ⟨?_,fun starts => absurd starts idle,fun _ => rfl⟩⟩
        · simpa [Unstarted,AiPlan.push] using unstarted
        · simp [AiPlan.carriedOut,AiPlan.push,AiControlAction.carriedOut]
    | some process =>
        have starts : StartsOne runtime allow blocked (some process) := ⟨free.1.1,free.1.2,free.2,rfl⟩
        refine ⟨_,⟨fun never => ?_,fun never => absurd starts never⟩,rfl,fun w => ?_⟩
        · simp [Unstarted,AiPlan.push] at never
        · refine alone_seq (start_starts answers) ?_ fun _ _ _ => trivial
          intro _ after started
          refine ⟨?_,fun _ => started,fun never => absurd starts never⟩
          exact carriedOut_decided.symm
  · rename_i held
    have idle : ¬StartsOne runtime allow blocked selected := by
      intro starts
      exact held (by rw [starts.1,starts.2.1,starts.2.2.1]; rfl)
    cases blocked with
    | none => exact ⟨plan,⟨fun _ => idle,fun _ => unstarted⟩,rfl,fun w => ⟨rfl,fun starts => absurd starts idle,fun _ => rfl⟩⟩
    | some reason =>
        refine ⟨_,⟨fun _ => idle,fun _ => ?_⟩,rfl,fun w => ⟨?_,fun starts => absurd starts idle,fun _ => rfl⟩⟩
        · simpa [Unstarted,AiPlan.push] using unstarted
        · simp [AiPlan.carriedOut,AiPlan.push,AiControlAction.carriedOut]

-- The plan after its last part, by what that part goes by.
def aiLastPlan (capabilities : List DeviceComponentCapability) (assessed : AiControlSafety) (flags : AiFlags) (dryRun : Bool)
    (recommended : Option ControlTargets) (runtimeAfterProcess componentRuntime : RuntimeState) (plan : AiPlan) : AiPlan :=
  if runtimeAfterProcess.activeBatchId.isNone then plan
  else if flags.allowProcessStop && shouldAiStopProcess runtimeAfterProcess.latestSample assessed then plan.stop dryRun
  else if flags.allowComponentControl then
    match planShakeComponentAction capabilities componentRuntime recommended with
    | none => plan
    | some action => plan.shake dryRun action
  else plan

theorem stopOrShake_ends {dryRun : Bool} : (aiStopOrShake safety capabilities assessed dryRun flags.allowProcessStop
    flags.allowComponentControl recommended actor runtime plan : Handler Event.work me AppError AiPlan).alone allows w
      (Ends (fun last _ => last = aiLastPlan capabilities assessed flags dryRun recommended runtime w.state.runtime plan)
        fun _ => True) := by
  have anything : ∀ {α : Type} (t : Handler Event.work me AppError α) (w : World), t.alone allows w fun _ _ => True :=
    fun t w => alone_of_behaves (behaves_true t)
  unfold aiStopOrShake aiLastPlan
  split
  · rfl
  split
  · cases dryRun with
    | true => rfl
    | false =>
        refine alone_seq (anything _ w) ?_ fun _ _ _ => trivial
        intro _ _ _
        rfl
  split
  · refine alone_look silent_runtimeState (fun _ _ _ _ => trivial) fun e component _ looked => ?_
    cases looked
    cases planShakeComponentAction capabilities w.state.runtime recommended with
    | none => rfl
    | some action =>
        cases dryRun with
        | true => rfl
        | false =>
            refine alone_seq (anything _ w) ?_ fun _ _ _ => trivial
            intro _ _ _
            rfl
  · rfl

theorem finish_actions : ∃ hold : AiControlAction, hold.actionType = .hold ∧ ∀ plan : AiPlan,
    (aiFinishPlan plan).actions = if plan.actions.isEmpty then [hold] else plan.actions := by
  refine ⟨(aiFinishPlan ⟨"",[]⟩).actions.headD ⟨.hold,"",.skipped,""⟩,rfl,fun plan => ?_⟩
  obtain ⟨decision,actions⟩ := plan
  cases actions with
  | nil => rfl
  | cons first rest =>
      unfold aiFinishPlan
      cases (first :: rest).any fun action => action.status = .blocked <;> simp

theorem shake_actions {action : ComponentControlRequest} {dryRun : Bool} : ∃ last : AiControlAction,
    (plan.shake dryRun action).actions = plan.actions ++ [last] ∧ last.actionType = .componentControl ∧
      last.target = s!"/api/devices/reactor_001/components/shake_stepper/control:{action.action}" := ⟨_,rfl,rfl,rfl⟩

theorem carriedOut_fields {action : AiControlAction} :
    action.carriedOut.actionType = action.actionType ∧ action.carriedOut.target = action.target := by
  unfold AiControlAction.carriedOut
  split
  · exact ⟨rfl,rfl⟩
  · exact ⟨rfl,rfl⟩

-- A finished plan with the shaker in it is no finished plan without it.
theorem shake_unlike {plain shaken : AiPlan} {one other : List AiControlAction} {last : AiControlAction}
    (same : one.length = other.length) (left : plain.actions = one) (right : shaken.actions = other ++ [last])
    (control : last.actionType = .componentControl) :
    ((aiFinishPlan plain).actions.map (·.actionType)) ≠ (aiFinishPlan shaken).actions.map (·.actionType) := by
  obtain ⟨hold,held,finished⟩ := finish_actions
  rw [finished,finished,left,right]
  intro equal
  cases one with
  | nil =>
      obtain rfl := List.length_eq_zero_iff.mp same.symm
      simp [held,control] at equal
  | cons first rest =>
      have lengths := congrArg List.length equal
      simp at lengths same
      omega

theorem planned_same {runtime live : RuntimeState} {one other : ComponentControlRequest}
    (left : planShakeComponentAction capabilities runtime recommended = some one)
    (right : planShakeComponentAction capabilities live recommended = some other) (same : one.action = other.action) :
    one = other := by
  cases planned_cases left with
  | inl start =>
      cases planned_cases right with
      | inl again => rw [start,again]
      | inr stop => rw [start,stop] at same; exact absurd same (by decide)
  | inr stop =>
      cases planned_cases right with
      | inl start => rw [stop,start] at same; exact absurd same (by decide)
      | inr again => rw [stop,again]

-- The last part gets to the shaker.
structure ReachesShaker (assessed : AiControlSafety) (flags : AiFlags) (runtimeAfterProcess : RuntimeState) : Prop where
  active : runtimeAfterProcess.activeBatchId.isNone = false
  unstopped : (flags.allowProcessStop && shouldAiStopProcess runtimeAfterProcess.latestSample assessed) = false
  allowed : flags.allowComponentControl = true

-- What the real run reports is what the dry run has planned.
structure Fulfils (planned carried : AiControlResponse) : Prop where
  decision : carried.decision = planned.decision
  actions : carried.actions = planned.actions.map (·.carriedOut)

theorem lastPlan_reached {dryRun : Bool} {component : RuntimeState} (reached : ReachesShaker assessed flags runtime) :
    aiLastPlan capabilities assessed flags dryRun recommended runtime component plan =
      match planShakeComponentAction capabilities component recommended with
      | none => plan
      | some action => plan.shake dryRun action := by
  unfold aiLastPlan
  rw [reached.active,reached.unstopped,reached.allowed]
  rfl

theorem lastPlan_carriedOut {component live other : RuntimeState} (batch : live.activeBatchId.isNone = runtime.activeBatchId.isNone)
    (sample : live.latestSample = runtime.latestSample) (foreseen : ReachesShaker assessed flags runtime →
      planShakeComponentAction capabilities other recommended = planShakeComponentAction capabilities component recommended) :
    aiLastPlan capabilities assessed flags false recommended live other plan.carriedOut =
      (aiLastPlan capabilities assessed flags true recommended runtime component plan).carriedOut := by
  unfold aiLastPlan
  rw [batch,sample]
  split
  · rfl
  rename_i active
  split
  · exact carriedOut_stop.symm
  rename_i unstopped
  split
  · rename_i allowed
    rw [foreseen ⟨Bool.eq_false_iff.mpr active,Bool.eq_false_iff.mpr unstopped,allowed⟩]
    cases planShakeComponentAction capabilities component recommended with
    | none => rfl
    | some action => exact carriedOut_shake.symm
  · rfl

theorem shaker_told {one other : String} (same : s!"/api/devices/reactor_001/components/shake_stepper/control:{one}" =
    s!"/api/devices/reactor_001/components/shake_stepper/control:{other}") : one = other := by
  have lists := congrArg String.toList same
  simp only [toString,String.toList_append] at lists
  exact String.toList_inj.mp (List.append_cancel_left lists)

-- Where the shaker is reached the reports agree only if the same is due of it.
theorem shake_foreseen {component other : RuntimeState} (agree : (aiFinishPlan (aiLastPlan capabilities assessed flags false recommended
    runtime other plan.carriedOut)).actions = (aiFinishPlan (aiLastPlan capabilities assessed flags true recommended runtime
      component plan)).actions.map (·.carriedOut)) (reached : ReachesShaker assessed flags runtime) :
    planShakeComponentAction capabilities other recommended = planShakeComponentAction capabilities component recommended := by
  rw [lastPlan_reached reached,lastPlan_reached reached] at agree
  have types := congrArg (List.map (·.actionType)) agree
  have plain : ∀ actions : List AiControlAction, (actions.map (·.carriedOut)).map (·.actionType) = actions.map (·.actionType) := by
    intro actions
    rw [List.map_map]
    exact List.map_congr_left fun action _ => carriedOut_fields.1
  rw [plain] at types
  have length : plan.carriedOut.actions.length = plan.actions.length := List.length_map _
  cases left : planShakeComponentAction capabilities other recommended with
  | none =>
      cases right : planShakeComponentAction capabilities component recommended with
      | none => rfl
      | some action =>
          obtain ⟨last,listed,control,_⟩ := @shake_actions plan action true
          rw [left,right] at types
          exact absurd types (shake_unlike length rfl listed control)
  | some action =>
      obtain ⟨last,listed,control,told⟩ := @shake_actions plan.carriedOut action false
      cases right : planShakeComponentAction capabilities component recommended with
      | none =>
          rw [left,right] at types
          exact absurd types.symm (shake_unlike length.symm rfl listed control)
      | some planned =>
          obtain ⟨foretold,written,_,said⟩ := @shake_actions plan planned true
          obtain ⟨hold,_,finished⟩ := finish_actions
          rw [left,right] at agree
          simp only at agree
          have filled : ∀ (front : List AiControlAction) (final : AiControlAction), (front ++ [final]).isEmpty = false := by
            intro front final
            cases front <;> rfl
          rw [finished,finished,listed,written,filled,filled,if_neg Bool.false_ne_true,if_neg Bool.false_ne_true,
            List.map_append] at agree
          have same : last = foretold.carriedOut := by simpa using List.append_cancel_left agree
          refine congrArg some (planned_same left right (shaker_told ?_))
          rw [← told,← said,same,carriedOut_fields.2]

theorem plan_congr {live : RuntimeState} (same : SameReading runtime live)
    (targets : recommended.getD live.targets = recommended.getD runtime.targets) :
    planShakeComponentAction capabilities live recommended = planShakeComponentAction capabilities runtime recommended := by
  unfold planShakeComponentAction
  rw [same.sample,same.status,targets]

-- A start in the request leaves the shaker to be treated as the preview says.
def ShakerForeseen (safety : SafetyConfig) (capabilities : List DeviceComponentCapability) (flags : AiFlags) (facts : AiFacts)
    (plant : Plant) : Prop :=
  ∀ recommended selected, facts.recommended safety plant.runtime flags.allowTargetAdjustment = .ok recommended →
    facts.selected = .ok selected →
      StartsOne plant.runtime flags.allowProcessStart (facts.blocked plant flags.allowProcessStart) selected →
        (flags.allowProcessStop && shouldAiStopProcess plant.runtime.latestSample facts.assessed) = false →
          flags.allowComponentControl = true →
            ∀ detail targets, facts.process = some detail → targetsFromProcessSteps safety detail.steps = .ok targets →
              planShakeComponentAction capabilities {plant.runtime with targets := targets} recommended =
                planShakeComponentAction capabilities plant.runtime recommended

-- The runtime state that the last part of a real run finds.
structure LiveAfter (safety : SafetyConfig) (facts : AiFacts) (starts : Prop) (recommended : Option ControlTargets)
    (before live : RuntimeState) : Prop where
  reading : SameReading before live
  idle : ¬starts → live.activeBatchId = before.activeBatchId ∧ (recommended = none → live.targets = before.targets)
  started : starts → live.activeBatchId.isSome = true ∧ ∃ detail, facts.process = some detail ∧
    targetsFromProcessSteps safety detail.steps = .ok live.targets

def AiPlan.response (plan : AiPlan) (dryRun : Bool) (recommended : Option ControlTargets) : AiControlResponse :=
  ⟨dryRun,(aiFinishPlan plan).decision,recommended,(aiFinishPlan plan).actions⟩

theorem selected_chosen {selected : Option ProcessDefinition} (answers : ∀ e, allows e → facts.Answers e)
    (chosen : facts.selected = .ok selected) {k : Option ProcessDefinition → Handler Event.work me AppError β}
    {Q : β → World → Prop} (rest : (k selected).alone allows w (Ends Q fun _ => True)) :
    (do
      let env ← locked answer
      let selected ← Task.ofExcept env.selectedProcess
      k selected : Handler Event.work me AppError β).alone allows w (Ends Q fun _ => True) := by
  refine alone_look silent_answer (fun _ _ _ _ => trivial) fun e env allowed answered => ?_
  cases answered
  refine unnoticed_accepted fun found given => ?_
  rw [(answers _ allowed).selected,chosen] at given
  cases given
  exact rest

-- What the acting part of a dry run and that of a real run return over the same runtime state.
theorem acts_return {blocked : Option String} {selected : Option ProcessDefinition} (answers : ∀ e, allows e → facts.Answers e)
    (chosen : facts.selected = .ok selected) : ∃ plan : AiPlan,
    (Unstarted plan ↔ ¬StartsOne runtime flags.allowProcessStart blocked selected) ∧
    (∀ w : World, w.state.runtime = runtime →
      (aiActs safety capabilities actor true flags runtime facts.assessed blocked recommended :
        Handler Event.work me AppError AiControlResponse).alone allows w (Ends (fun planned _ => planned =
          (aiLastPlan capabilities facts.assessed flags true recommended (aiRuntimeAfterProcess true runtime runtime plan)
            runtime plan).response true recommended) fun _ => True)) ∧
    ∀ w : World, w.state.runtime = runtime →
      (aiActs safety capabilities actor false flags runtime facts.assessed blocked recommended :
        Handler Event.work me AppError AiControlResponse).alone allows w (Ends (fun carried _ => ∃ live,
          LiveAfter safety facts (StartsOne runtime flags.allowProcessStart blocked selected) recommended runtime live ∧
          carried = (aiLastPlan capabilities facts.assessed flags false recommended live live plan.carriedOut).response false
            recommended) fun _ => True) := by
  have empty : Unstarted ⟨"hold",[]⟩ := rfl
  obtain ⟨adjusted,unstarted,dryAdjust,realAdjust⟩ := @adjust_previewed safety actor me allows recommended ⟨"hold",[]⟩
    runtime flags.allowTargetAdjustment empty
  obtain ⟨plan,starts,dryStart,realStart⟩ := @start_previewed safety actor me allows facts adjusted runtime
    flags.allowProcessStart blocked selected answers unstarted
  refine ⟨plan,starts,?_,?_⟩
  · rintro w rfl
    unfold aiActs
    rw [dryAdjust,Task.bind_ok]
    refine selected_chosen answers chosen ?_
    rw [dryStart,Task.bind_ok]
    refine alone_look silent_runtimeState (fun _ _ _ _ => trivial) fun e live _ looked => ?_
    cases looked
    refine alone_seq stopOrShake_ends ?_ fun _ _ _ => trivial
    intro last after same
    cases same
    rfl
  · rintro w rfl
    unfold aiActs
    refine alone_seq (realAdjust w) ?_ fun _ _ _ => trivial
    intro adjustedPlan mid adjusting
    obtain ⟨rfl,retargets,kept⟩ := adjusting
    refine selected_chosen answers chosen ?_
    refine alone_seq (realStart mid) ?_ fun _ _ _ => trivial
    intro startedPlan mid' starting
    obtain ⟨rfl,started,idle⟩ := starting
    have reached : LiveAfter safety facts (StartsOne w.state.runtime flags.allowProcessStart blocked selected) recommended
        w.state.runtime mid'.state.runtime := by
      by_cases starts : StartsOne w.state.runtime flags.allowProcessStart blocked selected
      · obtain ⟨detail,targets,stored,accepted,reading,same,active⟩ := started starts
        refine ⟨⟨reading.sample.trans retargets.1.sample,reading.status.trans retargets.1.status⟩,fun never => absurd starts never,
          fun _ => ⟨active,detail,stored,?_⟩⟩
        rw [same]
        exact accepted
      · rw [idle starts]
        exact ⟨retargets.1,fun _ => ⟨retargets.2,kept⟩,fun yes => absurd yes starts⟩
    refine alone_look silent_runtimeState (fun _ _ _ _ => trivial) fun e live _ looked => ?_
    cases looked
    refine alone_seq stopOrShake_ends ?_ fun _ _ _ => trivial
    intro last after same
    cases same
    refine alone_seq (alone_of_behaves (behaves_true _)) ?_ fun _ _ _ => trivial
    intro _ _ _
    exact ⟨_,reached,rfl⟩

theorem dryAfter_fields {starts : Prop} {live : RuntimeState} (unstarted : Unstarted plan ↔ ¬starts)
    (after : LiveAfter safety facts starts recommended runtime live) :
    live.activeBatchId.isNone = (aiRuntimeAfterProcess true runtime runtime plan).activeBatchId.isNone ∧
      live.latestSample = (aiRuntimeAfterProcess true runtime runtime plan).latestSample := by
  unfold aiRuntimeAfterProcess
  simp only [if_true]
  by_cases yes : starts
  · have planned : (plan.actions.any fun action => action.actionType = .processStart ∧ action.status = .planned) = true := by
      rw [← Bool.not_eq_false]
      exact fun never => unstarted.mp never yes
    rw [if_pos planned]
    refine ⟨?_,after.reading.sample⟩
    rw [← Option.not_isSome,(after.started yes).1]
    rfl
  · have unplanned : (plan.actions.any fun action => action.actionType = .processStart ∧ action.status = .planned) = false :=
      unstarted.mpr yes
    rw [unplanned,if_neg Bool.false_ne_true]
    exact ⟨by rw [(after.idle yes).1],after.reading.sample⟩

theorem fulfils_iff {starts : Prop} {live : RuntimeState} (unstarted : Unstarted plan ↔ ¬starts)
    (after : LiveAfter safety facts starts recommended runtime live) :
    Fulfils ((aiLastPlan capabilities assessed flags true recommended (aiRuntimeAfterProcess true runtime runtime plan) runtime
        plan).response true recommended)
      ((aiLastPlan capabilities assessed flags false recommended live live plan.carriedOut).response false recommended) ↔
    (starts → (flags.allowProcessStop && shouldAiStopProcess runtime.latestSample assessed) = false →
      flags.allowComponentControl = true →
        planShakeComponentAction capabilities live recommended = planShakeComponentAction capabilities runtime recommended) := by
  obtain ⟨batch,sample⟩ := dryAfter_fields unstarted after
  have unstopped : (aiRuntimeAfterProcess true runtime runtime plan).latestSample = runtime.latestSample :=
    sample.symm.trans after.reading.sample
  constructor
  · intro fulfils yes stopped allowed
    have active : (aiRuntimeAfterProcess true runtime runtime plan).activeBatchId.isNone = false := by
      rw [← batch,← Option.not_isSome,(after.started yes).1]
      rfl
    have agree := fulfils.actions
    have equal : aiLastPlan capabilities assessed flags false recommended live live plan.carriedOut =
        aiLastPlan capabilities assessed flags false recommended (aiRuntimeAfterProcess true runtime runtime plan) live
          plan.carriedOut := by
      unfold aiLastPlan
      rw [batch,sample]
    rw [equal] at agree
    exact shake_foreseen agree ⟨active,by rw [unstopped]; exact stopped,allowed⟩
  · intro foreseen
    have same : aiLastPlan capabilities assessed flags false recommended live live plan.carriedOut =
        (aiLastPlan capabilities assessed flags true recommended (aiRuntimeAfterProcess true runtime runtime plan) runtime
          plan).carriedOut := by
      refine lastPlan_carriedOut batch sample fun reached => ?_
      by_cases yes : starts
      · exact foreseen yes (by rw [← unstopped]; exact reached.unstopped) reached.allowed
      · refine plan_congr after.reading ?_
        cases recommended with
        | none => exact (after.idle yes).2 rfl
        | some targets => rfl
    rw [same]
    unfold AiPlan.response
    rw [carriedOut_finish]
    exact ⟨rfl,rfl⟩

theorem acts_unselected {blocked : Option String} {dryRun : Bool} {err : AppError} (answers : ∀ e, allows e → facts.Answers e)
    (refused : facts.selected = .error err) :
    (aiActs safety capabilities actor dryRun flags runtime assessed blocked recommended :
      Handler Event.work me AppError AiControlResponse).alone allows w (Ends (fun _ _ => False) fun _ => True) := by
  unfold aiActs
  refine alone_seq (alone_of_behaves (behaves_true _)) ?_ fun _ _ _ => trivial
  intro _ mid _
  refine alone_look silent_answer (fun _ _ _ _ => trivial) fun e env allowed answered => ?_
  cases answered
  refine unnoticed_accepted fun found given => ?_
  rw [(answers _ allowed).selected,refused] at given
  cases given

end Parts

section Claim
variable (safety limits capabilities actor me w) (payload : AiControlRequest) (facts : AiFacts)

def respond (dryRun : Option (Option Bool)) (answers : Nat → Env) : Except AppError AiControlResponse :=
  ((aiControl safety limits capabilities {payload with dryRun := dryRun} actor :
    Handler Event.work me AppError AiControlResponse).drive answers w).1

variable {safety limits capabilities actor me w payload facts}

theorem carryOut_returns {flags : AiFlags} {dryRun : Bool} {recommended : Option ControlTargets} {Q : AiControlResponse → World → Prop}
    {answers : Nat → Env} (answered : facts.Found safety limits dryRun me w answers)
    (found : facts.recommended safety w.state.runtime flags.allowTargetAdjustment = .ok recommended)
    (acts : ∀ mid : World, mid.state.runtime = w.state.runtime →
      (aiActs safety capabilities actor dryRun flags w.state.runtime facts.assessed
        (facts.blocked w.state flags.allowProcessStart) recommended :
          Handler Event.work me AppError AiControlResponse).alone facts.Answers mid (Ends Q fun _ => True)) :
    Ends Q (fun _ => True) ((aiCarryOut safety limits capabilities actor dryRun flags :
        Handler Event.work me AppError AiControlResponse).drive answers w).1
      ((aiCarryOut safety limits capabilities actor dryRun flags :
        Handler Event.work me AppError AiControlResponse).drive answers w).2 := by
  refine drive_opening answered (fun _ _ _ => trivial) fun other mid _ opened filed => ?_
  have same := opened.recommended
  rw [found] at same
  cases same
  exact acts mid (filed_runtime filed)

theorem respond_returns {flags : AiFlags} {dryRun : Option (Option Bool)} {real : Option Bool} {answers : Nat → Env}
    {response : AiControlResponse} {Q : AiControlResponse → World → Prop} (asked : payload.flags = .ok flags)
    (given : optionalPresentBool dryRun "dry_run" = .ok real)
    (returns : Ends Q (fun _ => True) ((aiCarryOut safety limits capabilities actor (real.getD true) flags :
        Handler Event.work me AppError AiControlResponse).drive answers w).1
      ((aiCarryOut safety limits capabilities actor (real.getD true) flags :
        Handler Event.work me AppError AiControlResponse).drive answers w).2)
    (responded : respond safety limits capabilities actor me w payload dryRun answers = .ok response) :
    ∃ after, Q response after := by
  have same : {payload with dryRun := dryRun}.flags = .ok flags := asked
  unfold respond at responded
  rw [aiControl_flags,given,same] at responded
  change ((aiCarryOut safety limits capabilities actor (real.getD true) flags :
    Handler Event.work me AppError AiControlResponse).drive answers w).1 = .ok response at responded
  rw [responded] at returns
  exact ⟨_,returns⟩

variable (safety limits capabilities actor me w payload facts)

-- `dry_run` left out or true, and the same request with `dry_run` false.
theorem preview_fulfilled_iff (given : Option (Option Bool)) (dry : given = none ∨ given = some (some true))
    (previews carries : Nat → Env) (previewed : facts.Found safety limits true me w previews)
    (answered : facts.Found safety limits false me w carries)
    (planned carried : AiControlResponse) (plans : respond safety limits capabilities actor me w payload given previews = .ok planned)
    (reports : respond safety limits capabilities actor me w payload (some (some false)) carries = .ok carried) :
    Fulfils planned carried ↔ ∀ flags, payload.flags = .ok flags → ShakerForeseen safety capabilities flags facts w.state := by
  have read : ∃ real, optionalPresentBool given "dry_run" = .ok real ∧ real.getD true = true := by
    cases dry with
    | inl absent => rw [absent]; exact ⟨_,rfl,rfl⟩
    | inr present => rw [present]; exact ⟨_,rfl,rfl⟩
  obtain ⟨real,given,dryRun⟩ := read
  cases asked : payload.flags with
  | error err =>
      have refused : {payload with dryRun := some (some false)}.flags = .error err := asked
      unfold respond at reports
      rw [aiControl_flags,refused] at reports
      cases reports
  | ok flags =>
  cases found : facts.recommended safety w.state.runtime flags.allowTargetAdjustment with
  | error err =>
      rw [← dryRun] at previewed
      have never : Ends (fun _ _ => False) (fun _ => True) ((aiCarryOut safety limits capabilities actor (real.getD true) flags :
            Handler Event.work me AppError AiControlResponse).drive previews w).1
          ((aiCarryOut safety limits capabilities actor (real.getD true) flags :
            Handler Event.work me AppError AiControlResponse).drive previews w).2 := by
        refine drive_opening previewed (fun _ _ _ => trivial) fun other mid _ opened _ => ?_
        have same := opened.recommended
        rw [found] at same
        cases same
      exact (respond_returns asked given never plans).elim fun _ absurd => absurd.elim
  | ok recommended =>
  cases chosen : facts.selected with
  | error err =>
      rw [← dryRun] at previewed
      have never := carryOut_returns previewed found
        fun mid _ => (@acts_unselected safety capabilities actor me facts.Answers mid flags facts recommended facts.assessed w.state.runtime
          (facts.blocked w.state flags.allowProcessStart) (real.getD true) err (fun _ answers => answers) chosen)
      exact (respond_returns asked given never plans).elim fun _ absurd => absurd.elim
  | ok selected =>
      obtain ⟨plan,starts,dryActs,realActs⟩ := @acts_return safety capabilities actor me facts.Answers flags facts recommended
        w.state.runtime (facts.blocked w.state flags.allowProcessStart) selected (fun _ answers => answers) chosen
      have dryReturns := carryOut_returns previewed found dryActs
      rw [← dryRun] at dryReturns
      obtain ⟨_,rfl⟩ := respond_returns asked given dryReturns plans
      obtain ⟨_,live,after,rfl⟩ := respond_returns asked rfl (carryOut_returns answered found realActs) reports
      rw [dryRun,fulfils_iff starts after]
      constructor
      · intro foreseen other same recommended' selected' found' chosen' yes unstopped allowed detail targets stored accepted
        cases same
        rw [found] at found'
        rw [chosen] at chosen'
        cases found'
        cases chosen'
        obtain ⟨_,detail',stored',accepted'⟩ := after.started yes
        rw [stored] at stored'
        cases stored'
        rw [accepted] at accepted'
        cases accepted'
        rw [← foreseen yes unstopped allowed]
        exact plan_congr ⟨after.reading.sample.symm,after.reading.status.symm⟩ rfl
      · intro foreseen yes unstopped allowed
        obtain ⟨_,detail,stored,accepted⟩ := after.started yes
        rw [← foreseen flags rfl recommended selected found chosen yes unstopped allowed detail _ stored accepted]
        exact plan_congr ⟨after.reading.sample,after.reading.status⟩ rfl

def PreviewFaithful (given : Option (Option Bool)) : Prop :=
  ∀ previews carries : Nat → Env, facts.Found safety limits true me w previews → facts.Found safety limits false me w carries →
    ∀ planned, respond safety limits capabilities actor me w payload given previews = .ok planned →
      ∀ carried, respond safety limits capabilities actor me w payload (some (some false)) carries = .ok carried →
        Fulfils planned carried

end Claim

-- A healthy field at rest whose shaker turns, and a process of one step with a shake speed.
def restPlant : Plant := {Site.shipped.startUp with
  runtime := {Site.shipped.startUp.runtime with
    latestSample := Env.healthy.reading.toOption.map (·.1)
    deviceStatus := Env.healthy.reading.toOption.bind (·.2) } }

def restProcess : ProcessDefinition := ⟨7,"rest","","applied",1,1,0,0,none⟩

def restFacts (shakeSpeedCpm : ℚ) : AiFacts where
  assessed := assessmentAt .shipped {} restPlant 0 0
  stored := none
  sources := {}
  selected := .ok (some restProcess)
  process := some ⟨restProcess,[⟨1,60,1,30,300,shakeSpeedCpm,1/2⟩]⟩

def restAnswers (shakeSpeedCpm : ℚ) (_ : Nat) : Env where
  process := (restFacts shakeSpeedCpm).process
  appliedProcess := some restProcess
  sources := (restFacts shakeSpeedCpm).sources
  selectedProcess := (restFacts shakeSpeedCpm).selected

theorem rest_found (shakeSpeedCpm : ℚ) (dryRun : Bool) :
    (restFacts shakeSpeedCpm).Found .shipped {} dryRun 0 ⟨restPlant,[]⟩ (restAnswers shakeSpeedCpm) := by
  refine ⟨fun _ => ⟨rfl,rfl,rfl,rfl⟩,fun found returned => ?_⟩
  -- The clock stands still.
  let opening : Handler Event.work 0 AppError (RuntimeState × AiControlSafety) := aiAssess .shipped {} dryRun
  have seen : Ends (fun found _ => found.2 = (restFacts shakeSpeedCpm).assessed) (fun _ => True)
      (opening.drive (restAnswers shakeSpeedCpm) ⟨restPlant,[]⟩).1 (opening.drive (restAnswers shakeSpeedCpm) ⟨restPlant,[]⟩).2 := by
    refine alone_drive (alone_mono ?_ (@assess_alone .shipped {} 0 (fun e => e.now = 0) ⟨restPlant,[]⟩ dryRun)) fun _ => rfl
    intro result after ended
    cases result with
    | error err => trivial
    | ok found =>
        obtain ⟨_,_,_,e,e',first,second,same⟩ := ended
        rw [first,second] at same
        exact same
  rw [returned] at seen
  exact seen

def shaker : List DeviceComponentCapability :=
  [⟨"shake_stepper",true,[⟨"start","none",none,none⟩,⟨"stop","none",none,none⟩]⟩]

def startOnly : AiControlRequest := {allowTargetAdjustment := some (some false) }

theorem answered_actions {found : Except AppError AiControlResponse} {count : Nat}
    (counted : found.toOption.map (·.actions.length) = some count) :
    ∃ response, found = .ok response ∧ response.actions.length = count := by
  cases found with
  | error err => cases counted
  | ok response => exact ⟨response,rfl,Option.some.inj counted⟩

-- A step that keeps the shaker turning is carried out as it was previewed.
theorem preview_fulfilled_iff_turning : ∃ planned carried,
    respond .shipped {} shaker .system 0 ⟨restPlant,[]⟩ startOnly none (restAnswers 30) = .ok planned ∧
    respond .shipped {} shaker .system 0 ⟨restPlant,[]⟩ startOnly (some (some false)) (restAnswers 30) = .ok carried ∧
    (Fulfils planned carried ↔ ∀ flags, startOnly.flags = .ok flags →
      ShakerForeseen .shipped shaker flags (restFacts 30) restPlant) := by
  obtain ⟨planned,plans,_⟩ := @answered_actions
    (respond .shipped {} shaker .system 0 ⟨restPlant,[]⟩ startOnly none (restAnswers 30)) 1 (by decide +kernel)
  obtain ⟨carried,reports,_⟩ := @answered_actions
    (respond .shipped {} shaker .system 0 ⟨restPlant,[]⟩ startOnly (some (some false)) (restAnswers 30)) 1 (by decide +kernel)
  exact ⟨planned,carried,plans,reports,preview_fulfilled_iff .shipped {} shaker .system 0 ⟨restPlant,[]⟩ startOnly (restFacts 30) none (.inl rfl)
    (restAnswers 30) (restAnswers 30) (rest_found 30 true) (rest_found 30 false) planned carried plans reports⟩

-- A step at rest: the real run stops the shaker as well, which the preview did not say.
theorem preview_misses_shaker : ¬PreviewFaithful .shipped {} shaker .system 0 ⟨restPlant,[]⟩ startOnly (restFacts 0) none := by
  intro faithful
  obtain ⟨planned,plans,one⟩ := @answered_actions
    (respond .shipped {} shaker .system 0 ⟨restPlant,[]⟩ startOnly none (restAnswers 0)) 1 (by decide +kernel)
  obtain ⟨carried,reports,two⟩ := @answered_actions
    (respond .shipped {} shaker .system 0 ⟨restPlant,[]⟩ startOnly (some (some false)) (restAnswers 0)) 2 (by decide +kernel)
  have fulfils := faithful (restAnswers 0) (restAnswers 0) (rest_found 0 true) (rest_found 0 false) planned plans carried reports
  have lengths := congrArg List.length fulfils.actions
  rw [List.length_map,one,two] at lengths
  cases lengths

end ReactorOS
