import ReactorOS.Behaviours
import ReactorOS.Component
import ReactorOS.Concurrency.Compensation
import ReactorOS.Discipline.Parts
import ReactorOS.Jobs
namespace ReactorOS
open Concurrency Journal Task Section
variable {safety : SafetyConfig} {may may' : Event → Bool} {me : TaskId} {ε ε' α β : Type}
  {effect : Moment Env World → Prop}

theorem clean_within [Within may may'] {t : Handler may me ε α} (clean : t.Clean effect) :
    (within t : Handler may' me ε α).Clean effect := clean_relax _ clean

theorem clean_orInternal {t : Handler may me Failure α} (clean : t.Clean effect) :
    (orInternal t).Clean effect := behaves_orInternal.mpr clean

theorem clean_ofExcept {result : Except ε α} : (Task.ofExcept result : Handler may me ε α).Clean effect :=
  clean_done result

-- What follows a check knows that it has passed.
theorem clean_accepted {found : Except ε α} {k : α → Handler may me ε β}
    (rest : ∀ value, found = .ok value → (k value).Clean effect) : (Task.ofExcept found >>= k).Clean effect := by
  cases found with
  | ok value => exact rest value rfl
  | error err => exact clean_done (.error err)

theorem clean_catching {t : Handler may me ε α} {handler : ε → Handler may me ε' α} (first : t.Clean effect)
    (rest : ∀ error, (handler error).Clean effect) : (catching t handler).Clean effect := by
  unfold catching
  refine clean_bind (clean_attempt first) fun result => ?_
  cases result with
  | ok value => exact clean_done _
  | error error => exact rest error

-- What commands the device or sets the targets.
def Event.bearing : Event → Bool
  | .commanded _ _ _ => true
  | .runtime (.targetsSet _) => true
  | _ => false

-- What says that the action of an integration task begins.
def Event.starting : Event → Bool
  | .note (.actionStarted _) => true
  | _ => false

-- Everything else is tame.
class Narrow (tame : Event → Prop) : Prop where
  plain : ∀ event, event.bearing = false → event.starting = false → tame event

def uncommanded : Event → Bool
  | .commanded _ _ _ => false
  | _ => true

instance uncommanded_narrow : Narrow fun event => uncommanded event = true where
  plain event plain _ := by
    cases event with
    | commanded writer command delivered => cases plain
    | runtime change => rfl
    | store write => rfl
    | note note => rfl

-- An effect of a step that shows in an event of the task which is not `tame`.
class Shows (me : TaskId) (effect : Moment Env World → Prop) where
  tame : Event → Prop
  narrow : Narrow tame
  shown : ∀ moment, effect moment → ∃ event, (me,event) ∈ moment.recorded ∧ ¬tame event

instance [Shows me effect] : Narrow (Shows.tame me effect) := Shows.narrow

variable {tame : Event → Prop}

theorem keeps_record {event : Event} {mine : may event = true} (harmless : tame event) :
    (record event mine : Critical may me ε Unit).Keeps (Records tame me) := by
  intro e w
  exact ⟨[(me,event)],by simp [harmless],rfl⟩

theorem keeps_targets {targets : ControlTargets} {mine : may (.runtime (.targetsSet targets)) = true}
    (sets : tame (.runtime (.targetsSet targets))) :
    (ReactorOS.change (.targetsSet targets) mine : Critical may me ε Unit).Keeps (Records tame me) := keeps_record sets

variable [Narrow tame]

theorem keeps_change {change : Change} {mine : may (.runtime change) = true}
    (plain : (Event.runtime change).bearing = false) :
    (ReactorOS.change change mine : Critical may me ε Unit).Keeps (Records tame me) := keeps_record (Narrow.plain _ plain rfl)

theorem keeps_note {note : Note} {mine : may (.note note) = true} (idle : (Event.note note).starting = false) :
    (ReactorOS.note note mine : Critical may me ε Unit).Keeps (Records tame me) := keeps_record (Narrow.plain _ rfl idle)

theorem keeps_statement {write : Write} {mine : may (.store write) = true} :
    (statement write mine : Critical may me Failure Unit).Keeps (Records tame me) := by
  unfold statement
  refine keeps_bind (keeps_silent silent_answer) fun env => ?_
  cases env.db with
  | done => exact keeps_record (Narrow.plain _ rfl rfl)
  | failed error => exact keeps_silent (silent_throw _)
  | lost error => exact keeps_bind (keeps_record (Narrow.plain _ rfl rfl)) fun _ => keeps_silent (silent_throw _)

variable [Shows me effect]

-- The parts of the handlers that have no effect.
theorem clean_locked {s : Critical may me ε α} (keeps : s.Keeps (Records (Shows.tame me effect) me)) :
    (locked s).Clean effect := by
  apply clean_each
  apply each_section
  intro e w effective
  obtain ⟨new,own,same⟩ := keeps e w
  obtain ⟨event,listed,wild⟩ := @Shows.shown me effect _ _ effective
  rw [same,Moment.recorded_extend] at listed
  exact wild (own _ listed).2

theorem clean_harmless {t : Handler may me ε α}
    (harmless : ∀ event, may event = true → event.bearing = false ∧ event.starting = false) : t.Clean effect := by
  apply clean_each
  apply behaves_mono _ (Moment.behaves_may t)
  intro moments result may moment member effective
  obtain ⟨event,listed,wild⟩ := @Shows.shown me effect _ _ effective
  obtain ⟨plain,idle⟩ := harmless _ (may moment member _ listed).2
  exact wild (Narrow.plain _ plain idle)

theorem clean_quiet {t : Handler Event.quiet me ε α} : t.Clean effect := by
  apply clean_harmless
  intro event quiet
  rcases event with change | _ | _ | _
  · cases change <;> first | exact ⟨rfl,rfl⟩ | cases quiet
  · exact ⟨rfl,rfl⟩
  · cases quiet
  · cases quiet

theorem clean_field {t : Handler Event.field me ε α} : t.Clean effect := by
  apply clean_harmless
  intro event field
  rcases event with change | _ | _ | note
  · cases change <;> first | exact ⟨rfl,rfl⟩ | cases field
  · exact ⟨rfl,rfl⟩
  · cases field
  · cases note <;> first | exact ⟨rfl,rfl⟩ | cases field

theorem clean_abandonStart {batchId : Int} {targets : ControlTargets} {startKind : String} {actor : AuditActor}
    {err : AppError} : (within (abandonStart batchId targets startKind actor err) : Handler Event.work me AppError α).Clean
      effect := clean_within clean_quiet

theorem keeps_acknowledge : (disableAutoAndAcknowledge : Critical Event.work me AppError RuntimeState).Keeps
    (Records tame me) :=
  keeps_bind (keeps_change rfl) fun _ => keeps_bind (keeps_silent silent_runtimeState) fun _ =>
    keeps_bind (keeps_note rfl) fun _ => keeps_silent (silent_pure _)

-- The section of a start that checks the interlock for the last time.
theorem keeps_startInterlock {pendingBatchId : Int} : (do
    let runtime ← runtimeState
    note (.batchSeen pendingBatchId runtime.activeBatchId)
    if runtime.activeBatchId.isSome then
      throw (.conflict "device is busy running an active process batch")
    ensureNoUnclosedDbBatchExcept runtime (some pendingBatchId)
    ensure fun now => ensureTargetUpdateInterlockClear safety now runtime .processStart
    note .interlockPassed : Critical Event.work me AppError Unit).Keeps (Records tame me) := by
  refine keeps_bind (keeps_silent silent_runtimeState) fun runtime => keeps_bind (keeps_note rfl) fun _ => ?_
  have checked : (do
      ensureNoUnclosedDbBatchExcept runtime (some pendingBatchId)
      ensure fun now => ensureTargetUpdateInterlockClear safety now runtime .processStart
      note .interlockPassed : Critical Event.work me AppError Unit).Keeps (Records tame me) :=
    keeps_bind (keeps_silent silent_ensureNoUnclosedDbBatchExcept) fun _ =>
      keeps_bind (keeps_silent silent_ensure) fun _ => keeps_note rfl
  cases runtime.activeBatchId.isSome
  · exact checked
  · exact keeps_bind (keeps_silent (silent_throw _)) fun _ => checked

theorem clean_createBatch {processId : Option Int} {name : String} {temperature stirrer heating stirring : ℚ} :
    (orInternal (createBatchForProcessSqlx processId name temperature stirrer heating stirring) :
      Handler Event.work me AppError Batch).Clean effect := by
  refine clean_orInternal (clean_locked ?_)
  exact keeps_bind (keeps_silent silent_utcNow) fun _ => keeps_bind (keeps_silent (silent_inspect _)) fun _ =>
    keeps_bind keeps_statement fun _ => keeps_silent (silent_pure _)

theorem clean_ensureProcessCanStart {runtime : RuntimeState} :
    (ensureProcessCanStart safety runtime : Handler Event.work me AppError Unit).Clean effect := by
  refine clean_locked (keeps_silent ?_)
  cases runtime.activeBatchId.isSome
  · exact silent_bind silent_ensureNoUnclosedDbBatchExcept fun _ => silent_ensure
  · exact silent_bind (silent_throw _) fun _ => silent_bind silent_ensureNoUnclosedDbBatchExcept fun _ => silent_ensure

theorem clean_timed {check : Instant → Except AppError α} :
    (timed check : Handler may me AppError α).Clean effect := clean_locked (keeps_silent silent_ensure)

theorem keeps_committing {path : CommitPath} {latches : Option SafetyLatchGenerations}
    {commit : Critical Event.work me AppError Unit} (keeps : commit.Keeps (Records tame me)) :
    (committing path latches commit).Keeps (Records tame me) := by
  have attempted : (commit.attempt : Critical Event.work me AppError (Except AppError Unit)).Keeps (Records tame me) := keeps
  exact keeps_bind attempted fun outcome => keeps_bind (keeps_note rfl) fun _ => keeps_silent (silent_ofExcept _)

theorem keeps_ensureSafetyLatchesUnchanged {latches : Option SafetyLatchGenerations} {action : String} :
    (ensureSafetyLatchesUnchangedForCommit latches action : Critical Event.work me AppError Unit).Keeps
      (Records tame me) := by
  refine keeps_bind (keeps_silent silent_runtimeState) fun runtime => ?_
  cases latches with
  | none => exact keeps_silent (silent_pure _)
  | some acknowledged =>
      simp only
      split
      · exact keeps_bind (keeps_change rfl) fun _ => keeps_silent (silent_throw _)
      · exact keeps_silent (silent_pure _)

theorem keeps_ensureExpectedCurrent {expected : Option ControlTargets} {action : String} :
    (ensureExpectedCurrent expected action : Critical Event.work me AppError Unit).Keeps (Records tame me) := by
  refine keeps_bind (keeps_silent silent_runtimeState) fun runtime => ?_
  cases expected with
  | none => exact keeps_silent (silent_pure _)
  | some expected =>
      simp only
      split
      · exact keeps_bind (keeps_change rfl) fun _ => keeps_silent (silent_throw _)
      · exact keeps_silent (silent_pure _)

theorem clean_commitTargets {targets : ControlTargets} {mode : TargetUpdateInterlockMode}
    {expected : Option ControlTargets} {latches : Option SafetyLatchGenerations}
    (sets : Shows.tame me effect (.runtime (.targetsSet targets))) :
    (commitTargetsAfterFinalInterlock safety targets mode expected latches : Handler Event.work me AppError Unit).Clean
      effect := by
  refine clean_bind (clean_locked (keeps_silent silent_unfinishedBatches)) fun unfinished => ?_
  refine clean_locked (keeps_committing ?_)
  refine keeps_bind (keeps_silent silent_runtimeState) fun runtime => ?_
  refine keeps_bind (keeps_silent silent_ensure) fun _ => keeps_bind keeps_ensureSafetyLatchesUnchanged fun _ => ?_
  exact keeps_bind (keeps_silent (silent_ofExcept _)) fun _ => keeps_bind keeps_ensureExpectedCurrent fun _ => keeps_targets sets

theorem clean_commitComponentTargets {targets : SafeCommand} {requiresProvenSafeField : Bool}
    {expected : Option ControlTargets} {latches : Option SafetyLatchGenerations}
    (sets : Shows.tame me effect (.runtime (.targetsSet targets.targets))) :
    (commitComponentTargetsAfterFinalInterlock safety targets requiresProvenSafeField expected latches :
      Handler Event.work me AppError Unit).Clean effect := by
  cases requiresProvenSafeField with
  | false => exact clean_locked (keeps_targets sets)
  | true =>
      refine clean_bind (clean_locked (keeps_silent silent_unfinishedBatches)) fun unfinished => ?_
      refine clean_locked (keeps_committing ?_)
      refine keeps_bind (keeps_silent silent_runtimeState) fun runtime => ?_
      refine keeps_bind (keeps_silent silent_ensure) fun _ => keeps_bind keeps_ensureSafetyLatchesUnchanged fun _ => ?_
      exact keeps_bind (keeps_silent (silent_ofExcept _)) fun _ => keeps_bind keeps_ensureExpectedCurrent fun _ => keeps_targets sets

theorem clean_commitActivation {batchId : Int} {targets : ControlTargets} {autoEnabled : Bool}
    {latches : Option SafetyLatchGenerations} (sets : Shows.tame me effect (.runtime (.targetsSet targets))) :
    (commitProcessActivationAfterFinalInterlock safety batchId targets autoEnabled latches :
      Handler Event.work me AppError Unit).Clean effect := by
  refine clean_bind (clean_locked ?_) fun unfinished => clean_locked (keeps_committing ?_)
  · exact keeps_bind (keeps_silent silent_unfinishedBatches) fun _ => keeps_bind (keeps_note rfl) fun _ => keeps_silent (silent_pure _)
  refine keeps_bind (keeps_silent silent_runtimeState) fun runtime => ?_
  refine keeps_bind (keeps_silent silent_ensure) fun _ => keeps_bind keeps_ensureSafetyLatchesUnchanged fun _ => ?_
  have activated : (do
      .ofExcept (ensurePersistedBatchStatusConsistent
        (unfinishedBatchStatusFromBatches unfinished {runtime with activeBatchId := some batchId})
        {runtime with activeBatchId := some batchId} .processStart)
      change (.targetsSet targets)
      change (.activeBatchSet (some batchId))
      if autoEnabled then change .autoEnabled else change .autoDisabled :
        Critical Event.work me AppError Unit).Keeps (Records (Shows.tame me effect) me) := by
    refine keeps_bind (keeps_silent (silent_ofExcept _)) fun _ => keeps_bind (keeps_targets sets) fun _ => ?_
    refine keeps_bind (keeps_change rfl) fun _ => ?_
    cases autoEnabled
    · exact keeps_change rfl
    · exact keeps_change rfl
  cases runtime.activeBatchId with
  | some active => exact keeps_bind (keeps_silent (silent_throw _)) fun _ => activated
  | none => exact activated

theorem silent_v1ControlAccepted {payload : V1ControlRequest} {targets : ControlTargets} :
    (v1ControlAccepted payload targets : Critical Event.work me AppError V1ControlResponse).Silent :=
  silent_bind silent_utcNow fun _ => silent_pure _

theorem clean_proveComponentField {command : ComponentControlCommand} :
    (proveComponentField safety command : Handler Event.work me AppError RuntimeState).Clean effect := by
  unfold proveComponentField
  refine clean_bind (clean_locked keeps_acknowledge) fun runtime => clean_bind clean_timed fun _ => ?_
  refine clean_bind (clean_locked (keeps_silent silent_ensurePersistedBatchStateConsistent)) fun _ => ?_
  exact clean_bind clean_timed fun _ => clean_bind clean_ofExcept fun pair => clean_bind clean_ofExcept fun _ => clean_done _

theorem keeps_clearStoppedBatch {batchId : Int} {targets : Option ControlTargets}
    (sets : ∀ stopped ∈ targets, tame (.runtime (.targetsSet stopped))) :
    (clearStoppedBatch batchId targets : Critical Event.work me AppError Unit).Keeps (Records tame me) := by
  unfold clearStoppedBatch
  refine keeps_bind (keeps_silent silent_runtimeState) fun runtime => ?_
  by_cases active : runtime.activeBatchId = some batchId
  · simp only [active,if_true]
    refine keeps_bind (keeps_change rfl) fun _ => keeps_bind (keeps_change rfl) fun _ => ?_
    cases targets with
    | none => exact keeps_silent (silent_pure _)
    | some targets => exact keeps_targets (sets targets rfl)
  · simp only [active,if_false]
    refine keeps_bind (keeps_change rfl) fun _ => ?_
    cases targets with
    | none => exact keeps_silent (silent_pure _)
    | some targets => exact keeps_targets (sets targets rfl)

theorem clean_closeFinishedBatch {actor : AuditActor} {batchId : Int} {batch : Batch} :
    (closeFinishedBatch actor batchId batch none : Handler Event.work me AppError Unit).Clean effect := by
  have quiet : ∀ {α : Type} (t : Handler Event.quiet me AppError α), (within t : Handler Event.work me AppError α).Clean effect :=
    fun t => clean_within clean_quiet
  have closed : ∀ finishedBatch : Batch, (if finishedBatch.finishedAt.isNone then
      within (failBatchFinish false "batch finish state commit"
        "batch finish update did not mark the batch finished"
        (.conflict "batch finish update did not mark the batch finished"))
      else return () : Handler Event.work me AppError Unit).Clean effect := by
    intro finishedBatch
    split
    · exact quiet _
    · exact clean_done _
  have found : (orInternal (batchByIdSqlx batchId) : Handler Event.work me AppError (Option Batch)).Clean effect :=
    clean_orInternal (clean_locked (keeps_silent silent_query))
  have record : (closeFinishedRecord batchId batch false : Handler Event.work me AppError Unit).Clean effect := by
    unfold closeFinishedRecord
    cases batch.finishedAt.isNone
    · refine clean_bind found fun finished => ?_
      cases finished with
      | none => exact quiet _
      | some finishedBatch => exact closed finishedBatch
    · refine clean_bind (clean_catching (clean_within clean_quiet) fun err => quiet _) fun _ => clean_bind found fun finished => ?_
      cases finished with
      | none => exact quiet _
      | some finishedBatch => exact closed finishedBatch
  unfold closeFinishedBatch
  refine clean_bind record fun _ => clean_bind (clean_catching (clean_within clean_quiet) fun err => quiet _) fun _ => ?_
  exact clean_locked (keeps_clearStoppedBatch fun stopped given => by cases given)

theorem clean_writeTargets {writer : Writer} {command : SafeCommand}
    (writes : ∀ delivered, Shows.tame me effect (.commanded writer (some command) delivered)) :
    (writeTargets writer command : Handler Event.work me Failure Unit).Clean effect := by
  refine clean_locked (keeps_bind (keeps_silent silent_answer) fun env => ?_)
  exact keeps_bind (keeps_record (writes _)) fun _ => keeps_silent (silent_ofExcept _)

theorem clean_startProcessOnDevice {targets : ControlTargets} {batchId : Int}
    (starts : ∀ delivered, Shows.tame me effect (.commanded .processStart
      (some (safeCommandFromRuntimeTargets targets "process start target write accepted by safety gate")) delivered)) :
    (startProcessOnDevice safety targets batchId : Handler Event.work me AppError Unit).Clean effect := by
  refine clean_bind (clean_locked keeps_startInterlock) fun _ => clean_catching (clean_writeTargets starts) fun _ => ?_
  exact clean_bind (clean_within clean_quiet) fun _ => clean_done _

theorem clean_stopProcessOnDevice {targets : ControlTargets}
    (stops : ∀ delivered, Shows.tame me effect (.commanded .processStop
      (some (safeCommandFromRuntimeTargets targets "process stop target write")) delivered)) :
    (stopProcessOnDevice targets : Handler Event.work me AppError Unit).Clean effect :=
  clean_catching (clean_writeTargets stops) fun _ => clean_bind (clean_within clean_quiet) fun _ => clean_done _

-- A stop, and the targets that it leaves in the runtime.
structure StopTame (me : TaskId) (effect : Moment Env World → Prop) [Shows me effect] (safety : SafetyConfig) : Prop where
  stops : ∀ delivered, Shows.tame me effect (.commanded .processStop
    (some (safeCommandFromRuntimeTargets (processStopTargets safety) "process stop target write")) delivered)
  sets : Shows.tame me effect (.runtime (.targetsSet (processStopTargets safety)))

-- A start with `targets`, and the stop that takes it back where it fails.
structure StartTame (me : TaskId) (effect : Moment Env World → Prop) [Shows me effect] (safety : SafetyConfig)
    (targets : ControlTargets) : Prop where
  starts : ∀ delivered, Shows.tame me effect (.commanded .processStart
    (some (safeCommandFromRuntimeTargets targets "process start target write accepted by safety gate")) delivered)
  sets : Shows.tame me effect (.runtime (.targetsSet targets))
  stop : StopTame me effect safety

theorem clean_confirmStoppedBatch (tame : StopTame me effect safety) {batchId : Int} {what : String} :
    (locked (confirmStoppedBatch batchId (processStopTargets safety) what) : Handler Event.work me AppError Unit).Clean
      effect := by
  refine clean_locked (keeps_bind (keeps_silent silent_runtimeState) fun runtime => keeps_bind (keeps_note rfl) fun _ => ?_)
  refine keeps_bind (keeps_change rfl) fun _ => keeps_bind (keeps_targets tame.sets) fun _ => ?_
  split
  · exact keeps_bind (keeps_change rfl) fun _ => keeps_silent (silent_throw _)
  · exact keeps_silent (silent_pure _)

theorem clean_closeStoppedRecord {batchId : Int} {batch : Batch} :
    (closeStoppedRecord batchId batch : Handler Event.work me AppError Batch).Clean effect := by
  have quiet : ∀ {α : Type} (t : Handler Event.quiet me AppError α),
      (within t : Handler Event.work me AppError α).Clean effect := fun t => clean_within clean_quiet
  unfold closeStoppedRecord
  split
  · exact clean_done _
  · refine clean_bind (clean_catching (clean_within clean_quiet) fun err => quiet _) fun _ => ?_
    refine clean_bind (clean_catching (clean_locked (keeps_silent silent_query)) fun err => quiet _) fun reloaded => ?_
    cases reloaded with
    | none => exact quiet _
    | some batch => exact clean_done _

theorem clean_closeStoppedBatch (tame : StopTame me effect safety) {eventType : String} {operatorReason : Option String}
    {actor : AuditActor} {batchId : Int} {batch : Option Batch} :
    (closeStoppedBatch eventType operatorReason actor batchId (processStopTargets safety) batch :
      Handler Event.work me AppError ProcessStopResponse).Clean effect := by
  have quiet : ∀ {α : Type} (t : Handler Event.quiet me AppError α),
      (within t : Handler Event.work me AppError α).Clean effect := fun t => clean_within clean_quiet
  have cleared : (locked (clearStoppedBatch batchId (some (processStopTargets safety))) :
      Handler Event.work me AppError Unit).Clean effect :=
    clean_locked (keeps_clearStoppedBatch fun stopped given => by cases given; exact tame.sets)
  unfold closeStoppedBatch
  cases batch with
  | none =>
      refine clean_bind (clean_catching (clean_within clean_quiet) fun err => quiet _) fun _ => ?_
      exact clean_bind cleared fun _ => clean_done _
  | some batch =>
      refine clean_bind clean_closeStoppedRecord fun batch => ?_
      refine clean_bind (clean_catching (clean_within clean_quiet) fun err => quiet _) fun _ => ?_
      exact clean_bind cleared fun _ => clean_done _

section Start
variable {targets : ControlTargets} {batchId : Int}

theorem clean_rollback (tame : StartTame me effect safety targets) : (rollbackFailedActivation safety batchId targets :
    Handler Event.work me AppError (Option String)).Clean effect := by
  unfold rollbackFailedActivation
  refine clean_bind (clean_attempt (clean_stopProcessOnDevice tame.stop.stops)) fun stopped => ?_
  cases stopped with
  | error err =>
      refine clean_bind (clean_locked ?_) fun _ => clean_done _
      exact keeps_bind (keeps_change rfl) fun _ => keeps_bind (keeps_change rfl) fun _ =>
        keeps_bind (keeps_targets tame.sets) fun _ => keeps_change rfl
  | ok _ =>
      refine clean_bind (clean_locked ?_) fun _ => clean_bind (clean_within clean_quiet) fun _ => clean_done _
      refine keeps_bind (keeps_silent silent_runtimeState) fun runtime => ?_
      by_cases active : runtime.activeBatchId = some batchId
      · simp only [active,if_true]
        exact keeps_bind (keeps_change rfl) fun _ => keeps_bind (keeps_change rfl) fun _ => keeps_targets tame.stop.sets
      · simp only [active,if_false]
        exact keeps_targets tame.stop.sets

theorem clean_failAfterDeviceStart (tame : StartTame me effect safety targets) {action cause : String} {err : AppError} :
    (failAfterDeviceStart safety batchId targets action cause err : Handler Event.work me AppError α).Clean effect :=
  clean_bind (clean_rollback tame) fun _ => clean_bind (clean_within clean_quiet) fun _ => clean_done _

end Start

theorem clean_v1Control (deviceId : String) (payload : V1ControlRequest) (actor : AuditActor)
    (starts : ∀ runningState targets, validateV1ControlParams safety payload.params runningState = .ok targets →
      StartTame me effect safety targets) :
    (v1Control safety deviceId payload actor : Handler Event.work me AppError V1ControlResponse).Clean effect := by
  unfold v1Control
  refine clean_bind clean_ofExcept fun _ => clean_bind clean_ofExcept fun autoStart => clean_accepted fun targets accepted => ?_
  have tame := starts _ _ accepted
  cases autoStart.getD false with
  | false =>
      simp only [Bool.false_eq_true,if_false]
      refine clean_bind (clean_locked keeps_acknowledge) fun runtime => clean_bind clean_timed fun _ => ?_
      refine clean_bind (clean_orInternal (clean_within clean_quiet)) fun _ => clean_bind (clean_commitTargets tame.sets) fun _ => ?_
      exact clean_locked (keeps_silent silent_v1ControlAccepted)
  | true =>
      simp only [if_true]
      refine clean_bind (clean_locked (keeps_silent ?_)) fun _ => ?_
      · refine silent_bind silent_runtimeState fun runtime => ?_
        cases runtime.activeBatchId.isSome
        · exact silent_ensureNoUnclosedDbBatchExcept
        · exact silent_bind (silent_throw _) fun _ => silent_ensureNoUnclosedDbBatchExcept
      · refine clean_bind (clean_locked keeps_acknowledge) fun runtime => clean_bind clean_timed fun _ => ?_
        refine clean_bind clean_createBatch fun batch => ?_
        refine clean_bind (clean_catching (clean_startProcessOnDevice tame.starts) fun err => clean_abandonStart) fun _ => ?_
        refine clean_bind (clean_catching (clean_within clean_quiet) fun err => clean_failAfterDeviceStart tame) fun _ => ?_
        refine clean_bind (clean_catching (clean_commitActivation tame.sets) fun err => clean_failAfterDeviceStart tame) fun _ => ?_
        exact clean_locked (keeps_silent silent_v1ControlAccepted)

theorem clean_applyAiTargets (targets : ControlTargets) (reason : String) (actor : AuditActor)
    (writes : ensureTargetsAllowed safety targets = .ok () → ∀ delivered, Shows.tame me effect
      (.commanded .aiTargets (some (safeCommandFromRuntimeTargets targets reason)) delivered))
    (sets : Shows.tame me effect (.runtime (.targetsSet targets))) :
    (applyAiTargets safety targets reason actor : Handler Event.work me AppError Unit).Clean effect := by
  unfold applyAiTargets
  refine clean_bind (clean_locked (keeps_silent silent_readTargets)) fun current => clean_bind (clean_locked ?_) fun latches => ?_
  · exact keeps_bind keeps_acknowledge fun _ => keeps_bind (keeps_silent silent_ensure) fun _ => keeps_silent (silent_pure _)
  refine clean_accepted fun _ allowed => clean_bind (clean_orInternal (clean_within clean_quiet)) fun _ => ?_
  refine clean_bind (clean_catching (clean_writeTargets (writes allowed)) fun err => ?_) fun _ => ?_
  · exact clean_bind (clean_within clean_quiet) fun _ => clean_done _
  · exact clean_catching (clean_commitTargets sets) fun err => clean_bind (clean_within clean_quiet) fun _ => clean_done _

-- A handler that looks first, where what counts as an effect goes by what it has seen.
theorem clean_look {seen : Moment Env World → Moment Env World → Prop} [∀ look, Shows me (seen look)]
    {s : Critical may me ε α} {k : α → Handler may me ε β} (silent : s.Silent)
    (rest : ∀ e w value, (s.run e w).1 = .ok value → (k value).Clean (seen ⟨e,w,w⟩)) :
    (locked s >>= k).behaves fun moments _ => ∀ look ∈ moments.head?, ¬Effected (seen look) moments := by
  rw [behaves_bind,behaves_locked]
  intro e w
  have unmoved := silent e w
  have looked : ¬Effected (seen ⟨e,w,w⟩) [(⟨e,w,w⟩ : Moment Env World)] := by
    intro effected
    obtain ⟨moment,member,effective⟩ := effected
    obtain ⟨event,listed,_⟩ := @Shows.shown me (seen ⟨e,w,w⟩) _ _ effective
    rw [List.mem_singleton.mp member,Moment.recorded_silent] at listed
    cases listed
  rw [unmoved]
  cases found : (s.run e w).1 with
  | error err =>
      intro look first
      cases first
      exact looked
  | ok value =>
      apply behaves_mono _ (rest e w value found)
      intro later result never look first effected
      cases first
      exact (effected_append.mp effected).elim looked never

theorem startBatch_seen {seen : Moment Env World → Moment Env World → Prop} [∀ look, Shows me (seen look)]
    (payload : StartBatchRequest) (actor : AuditActor)
    (starts : ∀ look found, startBatchTargets safety payload look.before.state.runtime.targets = .ok found →
      StartTame me (seen look) safety found.2) :
    (startBatch safety payload actor : Handler Event.work me AppError Batch).behaves fun moments _ =>
      ∀ look ∈ moments.head?, ¬Effected (seen look) moments := by
  unfold startBatch
  split
  · intro look first
    cases first
  · refine clean_look silent_readTargets fun e w targets read => ?_
    cases read
    refine clean_accepted fun found accepted => ?_
    have tame := starts ⟨e,w,w⟩ found accepted
    refine clean_bind (clean_locked keeps_acknowledge) fun runtime => ?_
    refine clean_bind (clean_locked (keeps_silent silent_ensureNoUnclosedDbBatchExcept)) fun _ => ?_
    refine clean_bind clean_timed fun _ => clean_bind clean_createBatch fun batch => ?_
    refine clean_bind (clean_catching (clean_startProcessOnDevice tame.starts) fun err => clean_abandonStart) fun _ => ?_
    refine clean_bind (clean_catching (clean_within clean_quiet) fun err => clean_failAfterDeviceStart tame) fun _ => ?_
    exact clean_bind (clean_catching (clean_commitActivation tame.sets) fun err => clean_failAfterDeviceStart tame) fun _ => clean_done _

theorem startProcessLifecycle_seen {seen : Moment Env World → Moment Env World → Prop} [∀ look, Shows me (seen look)]
    (processId : Int) (eventType : String) (nameOverride : Option String) (actor : AuditActor)
    (starts : ∀ look detail targets, look.answer.process = some detail →
      targetsFromProcessSteps safety detail.steps = .ok targets → StartTame me (seen look) safety targets) :
    (startProcessLifecycle safety processId eventType nameOverride actor :
      Handler Event.work me AppError ProcessApplyResponse).behaves fun moments _ =>
        ∀ look ∈ moments.head?, ¬Effected (seen look) moments := by
  unfold startProcessLifecycle
  unfold processDetailOrBadRequest within locked
  rw [mapError_section,relax_section]
  refine clean_look ?_ fun e w found answered => ?_
  · intro e w
    simp only [run_relax,run_mapError]
    exact silent_query e w
  cases found with
  | none => exact clean_done _
  | some detail =>
      have stored : e.process = some detail := by
        cases state : e.db with
        | done => simpa [query,state,Except.mapError] using answered
        | failed error => simp [query,state,Except.mapError] at answered
        | lost error => simp [query,state,Except.mapError] at answered
      simp only
      split
      · exact clean_done _
      · refine clean_accepted fun targets accepted => ?_
        have tame := starts ⟨e,w,w⟩ detail targets stored accepted
        refine clean_bind (clean_locked keeps_acknowledge) fun runtime => ?_
        refine clean_bind clean_ensureProcessCanStart fun _ => clean_bind clean_createBatch fun batch => ?_
        refine clean_bind (clean_catching (clean_startProcessOnDevice tame.starts) fun err => clean_abandonStart) fun _ => ?_
        refine clean_bind (clean_catching (clean_within clean_quiet) fun err => clean_failAfterDeviceStart tame) fun _ => ?_
        refine clean_bind (clean_catching (clean_within clean_quiet) fun err => clean_failAfterDeviceStart tame) fun process => ?_
        cases process with
        | none => exact clean_failAfterDeviceStart tame
        | some process =>
            exact clean_bind (clean_catching (clean_commitActivation tame.sets) fun err => clean_failAfterDeviceStart tame)
              fun _ => clean_done _

end ReactorOS
