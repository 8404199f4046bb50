import ReactorOS.DevicePairs
import ReactorOS.TargetCommits
namespace ReactorOS
open Concurrency Journal Task Section
variable {safety : SafetyConfig} {me : TaskId}

-- Over the fields that a request does not set itself a commit leaves what it found, in hundredths.
def Inherits (sets : TargetRegister → Prop) (found committed : ControlTargets) : Prop :=
  ∀ field, ¬sets field → writeRegisterAppliedValue committed field = round2 (writeRegisterAppliedValue found field)

@[simp] theorem appliedValue_round2 (targets : ControlTargets) (field : TargetRegister) :
    writeRegisterAppliedValue targets.round2 field = round2 (writeRegisterAppliedValue targets field) := by
  cases field <;> rfl

theorem inherits_round2 {sets : TargetRegister → Prop} {found requested : ControlTargets}
    (kept : ∀ field, ¬sets field → writeRegisterAppliedValue requested field = writeRegisterAppliedValue found field) :
    Inherits sets found requested.round2 := by
  intro field inherited
  rw [appliedValue_round2,kept field inherited]

-- Every step of a request that sets the targets does so over the ones that stand there.
def KeepsOthers (me : TaskId) (sets : TargetRegister → Prop) (moments : Moments) : Prop :=
  ∀ moment ∈ moments, ∀ targets, (me,.runtime (.targetsSet targets)) ∈ moment.recorded →
    Inherits sets moment.before.state.runtime.targets targets

theorem keepsOthers_clean {ε α : Type} {may : Event → Bool} {t : Handler may me ε α} {sets : TargetRegister → Prop}
    (clean : t.Clean (Breaks me (Inherits sets))) : t.behaves fun moments _ => KeepsOthers me sets moments := by
  apply behaves_mono _ clean
  intro moments result never moment member targets listed
  by_contra wrong
  exact never ⟨moment,member,targets,listed,wrong⟩

def TargetRequest.sets (payload : TargetRequest) : TargetRegister → Prop
  | .targetTemperatureC | .targetStirrerRpm => True
  | .targetShakeSpeedCpm => payload.shakeSpeedCpm.isSome
  | _ => False

def TargetRequest.requested (payload : TargetRequest) (current : ControlTargets) : ControlTargets :=
  {current with
    temperatureC := payload.temperatureC
    stirrerRpm := payload.stirrerRpm
    shakeSpeedCpm := payload.shakeSpeedCpm.join.getD current.shakeSpeedCpm }

theorem setTargetsRequested_ok {payload : TargetRequest} {current found : ControlTargets}
    (accepted : setTargetsRequested safety payload current = .ok found) :
    WithinLimits safety 3600 7200 (payload.requested current) ∧ found = (payload.requested current).round2 ∧
      isForbiddenControlZone safety found.temperatureC found.stirrerRpm = false := by
  unfold setTargetsRequested at accepted
  simp only [accepted_bind] at accepted
  obtain ⟨shake,sent,targets,checked,_,allowed,same⟩ := accepted
  cases same
  have requested : payload.requested current = {current with
      temperatureC := payload.temperatureC
      stirrerRpm := payload.stirrerRpm
      shakeSpeedCpm := shake.getD current.shakeSpeedCpm } := by
    unfold TargetRequest.requested
    rw [optionalPresent_ok sent]
  rw [requested]
  obtain ⟨within,same⟩ := validateTargetSet_ok.mp checked
  exact ⟨within,same,ensureTargetsAllowed_ok.mp allowed⟩

theorem setTargets_keepsOthers (payload : TargetRequest) (actor : AuditActor) :
    (setTargets safety payload actor : Handler Event.work me AppError ControlTargets).behaves fun moments _ =>
      KeepsOthers me payload.sets moments := by
  apply keepsOthers_clean
  unfold setTargets
  refine clean_bind (clean_locked (keeps_silent silent_readTargets)) fun current => clean_accepted fun targets accepted => ?_
  have inherits : Inherits payload.sets current targets := by
    obtain ⟨_,same,_⟩ := setTargetsRequested_ok accepted
    rw [same]
    apply inherits_round2
    intro field inherited
    cases field with
    | targetTemperatureC => exact absurd trivial inherited
    | targetStirrerRpm => exact absurd trivial inherited
    | targetShakeSpeedCpm =>
        cases sent : payload.shakeSpeedCpm with
        | none => simp [TargetRequest.requested,writeRegisterAppliedValue,sent]
        | some value => exact absurd (by simp [TargetRequest.sets,sent]) inherited
    | _ => rfl
  refine clean_bind (clean_locked keeps_acknowledge) fun runtime => clean_bind clean_timed fun _ => ?_
  refine clean_bind (clean_orInternal (clean_within clean_quiet)) fun _ => ?_
  exact clean_bind (clean_commitTargets_expected inherits) fun _ => clean_done _

def AinasTaskRequest.sent (payload : AinasTaskRequest) : TargetRegister → Option (Option ℚ)
  | .targetTemperatureC => payload.targetTemperatureC
  | .targetStirrerRpm => payload.targetStirrerRpm
  | .targetShakeSpeedCpm => payload.targetShakeSpeedCpm
  | .targetPressureMpa => payload.targetPressureMpa
  | .heatTimeS => payload.heatTimeS
  | .holdTimeS => payload.holdTimeS
  | .coolTimeS => payload.coolTimeS

def AinasTaskRequest.sets (payload : AinasTaskRequest) (field : TargetRegister) : Prop := (payload.sent field).isSome

def AinasTaskRequest.requested (payload : AinasTaskRequest) (current : ControlTargets) : ControlTargets where
  temperatureC := payload.targetTemperatureC.join.getD current.temperatureC
  heatTimeS := payload.heatTimeS.join.getD current.heatTimeS
  holdTimeS := payload.holdTimeS.join.getD current.holdTimeS
  coolTimeS := payload.coolTimeS.join.getD current.coolTimeS
  stirrerRpm := payload.targetStirrerRpm.join.getD current.stirrerRpm
  shakeSpeedCpm := payload.targetShakeSpeedCpm.join.getD current.shakeSpeedCpm
  targetPressureMpa := payload.targetPressureMpa.join.getD current.targetPressureMpa

theorem ainasTargets_ok {payload : AinasTaskRequest} {current found : ControlTargets}
    (accepted : ainasTargets safety payload current = .ok found) :
    WithinOptimizer safety (payload.requested current) ∧ found = (payload.requested current).round2 ∧
      isForbiddenControlZone safety found.temperatureC found.stirrerRpm = false := by
  unfold ainasTargets at accepted
  simp only [accepted_bind] at accepted
  obtain ⟨_,_,temperature,temperatureSent,heat,heatSent,hold,holdSent,cool,coolSent,stirrer,stirrerSent,shake,shakeSent,
    pressure,pressureSent,targets,checked,_,allowed,same⟩ := accepted
  cases same
  have requested : payload.requested current = {
      temperatureC := temperature.getD current.temperatureC
      heatTimeS := heat.getD current.heatTimeS
      holdTimeS := hold.getD current.holdTimeS
      coolTimeS := cool.getD current.coolTimeS
      stirrerRpm := stirrer.getD current.stirrerRpm
      shakeSpeedCpm := shake.getD current.shakeSpeedCpm
      targetPressureMpa := pressure.getD current.targetPressureMpa } := by
    unfold AinasTaskRequest.requested
    rw [optionalPresent_ok temperatureSent,optionalPresent_ok heatSent,optionalPresent_ok holdSent,optionalPresent_ok coolSent,
      optionalPresent_ok stirrerSent,optionalPresent_ok shakeSent,optionalPresent_ok pressureSent]
  rw [requested]
  obtain ⟨within,same⟩ := validateTargetSet_ok.mp checked
  exact ⟨within,same,ensureTargetsAllowed_ok.mp allowed⟩

theorem applyAinasTargets_keepsOthers (payload : AinasTaskRequest) (actor : AuditActor) :
    (applyAinasTargets safety payload actor : Handler Event.work me AppError ControlTargets).behaves fun moments _ =>
      KeepsOthers me payload.sets moments := by
  apply keepsOthers_clean
  have rest : (do
      let current ← locked readTargets
      let targets ← Task.ofExcept (ainasTargets safety payload current)
      let runtime ← locked disableAutoAndAcknowledge
      timed fun now => ensureTargetUpdateInterlockClear safety now runtime .desiredTargets
      let acknowledgedSafetyLatches := SafetyLatchGenerations.fromRuntime runtime
      let reason := cleanLabel payload.reason "AINAS task changed desired targets" 240
      orInternal (within (insertControlEventSqlx none "ainas_targets_updated"
        (some (safeCommandFromRuntimeTargets targets reason)) reason actor))
      commitTargetsAfterFinalInterlock safety targets .desiredTargets (some current) (some acknowledgedSafetyLatches)
      return targets : Handler Event.work me AppError ControlTargets).Clean (Breaks me (Inherits payload.sets)) := by
    refine clean_bind (clean_locked (keeps_silent silent_readTargets)) fun current => clean_accepted fun targets accepted => ?_
    have inherits : Inherits payload.sets current targets := by
      obtain ⟨_,same,_⟩ := ainasTargets_ok accepted
      rw [same]
      apply inherits_round2
      intro field inherited
      have absent : payload.sent field = none := by
        cases sent : payload.sent field with
        | none => rfl
        | some value => exact absurd (by simp [AinasTaskRequest.sets,sent]) inherited
      cases field <;> simp only [AinasTaskRequest.sent] at absent <;>
        simp [AinasTaskRequest.requested,writeRegisterAppliedValue,absent]
    refine clean_bind (clean_locked keeps_acknowledge) fun runtime => clean_bind clean_timed fun _ => ?_
    refine clean_bind (clean_orInternal (clean_within clean_quiet)) fun _ => ?_
    exact clean_bind (clean_commitTargets_expected inherits) fun _ => clean_done _
  unfold applyAinasTargets
  split
  · exact clean_bind (clean_done _) fun _ => rest
  · exact rest

theorem parseTargetRegister_ok {register : String} {known : TargetRegister}
    (parsed : parseTargetRegister register = .ok known) : known.name = register := by
  unfold parseTargetRegister at parsed
  cases found : TargetRegister.all.find? fun known => known.name == register with
  | none =>
      rw [found] at parsed
      cases parsed
  | some other =>
      rw [found] at parsed
      cases parsed
      simpa using List.find?_some found

theorem requestedTargets_other {known field : TargetRegister} {value : ℚ} {current : ControlTargets}
    (other : field ≠ known) : writeRegisterAppliedValue (requestedTargets known value current) field =
      writeRegisterAppliedValue current field := by
  cases known <;> cases field <;> first | rfl | exact absurd rfl other

theorem applyModbusRegisterWrite_keepsOthers (registers : TargetRegister → WriteRegister) (register : String) (value : ℚ)
    (reason : Option String) (actor : AuditActor) :
    (applyModbusRegisterWrite safety registers register value reason actor :
      Handler Event.work me AppError ModbusWriteResponse).behaves fun moments _ =>
        KeepsOthers me (fun field => field.name = register) moments := by
  apply keepsOthers_clean
  unfold applyModbusRegisterWrite
  simp only
  have rest : (do
      let known ← Task.ofExcept (parseTargetRegister register)
      Task.ofExcept (validateModbusRegisterWriteValue safety known value)
      let config := registers known
      let current ← locked readTargets
      let targets ← Task.ofExcept (validateModbusRegisterTargets safety (requestedTargets known value current))
      Task.ofExcept (ensureTargetsAllowed safety targets)
      let appliedValue := writeRegisterAppliedValue targets known
      let raw ← Task.ofExcept (encodeModbusRaw appliedValue config.scale config.offset)
      let runtime ← locked disableAutoAndAcknowledge
      timed fun now => ensureTargetUpdateInterlockClear safety now runtime .modbusDebugWrite
      locked (ensurePersistedBatchStateConsistent runtime .modbusDebugWrite)
      orInternal (within (insertControlEventSqlx none "modbus_register_write"
        (some (safeCommandFromRuntimeTargets targets (cleanLabel reason "" 240))) (cleanLabel reason "" 240) actor))
      commitTargetsAfterFinalInterlock safety targets .modbusDebugWrite (some current) (some (.fromRuntime runtime))
      return ⟨register,config.address,value,round2 appliedValue,raw,config.scale,config.offset,targets⟩ :
        Handler Event.work me AppError ModbusWriteResponse).Clean
          (Breaks me (Inherits fun field => field.name = register)) := by
    refine clean_accepted fun known parsed => clean_bind clean_ofExcept fun _ => ?_
    refine clean_bind (clean_locked (keeps_silent silent_readTargets)) fun current => clean_accepted fun targets accepted => ?_
    have inherits : Inherits (fun field => field.name = register) current targets := by
      obtain ⟨_,same⟩ := validateTargetSet_ok.mp accepted
      rw [same]
      apply inherits_round2
      intro field inherited
      apply requestedTargets_other
      rintro rfl
      exact inherited (parseTargetRegister_ok parsed)
    refine clean_bind clean_ofExcept fun _ => clean_bind clean_ofExcept fun raw => ?_
    refine clean_bind (clean_locked keeps_acknowledge) fun runtime => clean_bind clean_timed fun _ => ?_
    refine clean_bind (clean_locked (keeps_silent silent_ensurePersistedBatchStateConsistent)) fun _ => ?_
    refine clean_bind (clean_orInternal (clean_within clean_quiet)) fun _ => ?_
    exact clean_bind (clean_commitTargets_expected inherits) fun _ => clean_done _
  split
  · exact clean_bind (clean_done _) fun _ => rest
  · exact rest

section Components
variable (fromTimestampMillis : Int → Option Instant)

def TargetRegister.componentId : TargetRegister → Option String
  | .targetTemperatureC => some "temperature_controller"
  | .targetStirrerRpm => some "stirrer_motor"
  | .targetShakeSpeedCpm => some "shake_stepper"
  | _ => none

def SetsComponent (componentId : String) (field : TargetRegister) : Prop := field.componentId = some componentId

theorem componentRequested_other {command : ComponentControlCommand} {current : ControlTargets} {field : TargetRegister}
    (other : ¬SetsComponent command.componentId field) :
    writeRegisterAppliedValue (command.requested current) field = writeRegisterAppliedValue current field := by
  unfold SetsComponent at other
  unfold ComponentControlCommand.requested
  split
  · rename_i named _ _
    cases field <;> first | rfl | exact absurd (by rw [named]; rfl) other
  · rename_i named _ _
    cases field <;> first | rfl | exact absurd (by rw [named]; rfl) other
  · rename_i named _ _
    cases field <;> first | rfl | exact absurd (by rw [named]; rfl) other
  · rename_i named _
    split
    · cases field <;> first | rfl | exact absurd (by rw [named]; rfl) other
    · rfl
  · rename_i named _
    cases field <;> first | rfl | exact absurd (by rw [named]; rfl) other
  · rfl

theorem componentAnswer_inherits {device : Device} {call : DeviceCall} {command : ComponentControlCommand}
    {targets : ControlTargets} {outcome : ComponentControlOutcome} {safe : SafeCommand}
    (answered : .ok (some outcome) = (device.writeComponent fromTimestampMillis call command targets safety).result)
    (bound : outcome.targets = some safe) : Inherits (SetsComponent command.componentId) targets safe.targets := by
  obtain ⟨next,translated,rfl⟩ := writeComponent_sets fromTimestampMillis (.inr ⟨outcome,answered.symm,bound⟩)
  obtain ⟨_,same⟩ := targetsForComponent_ok translated
  subst same
  exact inherits_round2 fun field inherited => componentRequested_other inherited

-- The device answers a component command from the targets that go to it with the command: those of
-- the acknowledged state.
def AnswersComponent (device : Device) (calls : Env → DeviceCall) (safety : SafetyConfig) (componentId : String)
    (payload : ComponentControlRequest) (me : TaskId) (moments : Moments) : Prop :=
  ∀ look, moments[1]? = some look → ∀ component action,
    componentAction device.controlCapabilities componentId payload = .ok (component,action) →
  ∀ write ∈ moments, ∀ sent delivered, (me,.commanded .component sent delivered) ∈ write.recorded →
    write.answer.component = (device.writeComponent fromTimestampMillis (calls write.answer)
      ⟨componentId,payload.action,componentControlCommandValue action payload⟩ look.before.state.runtime.targets safety).result

-- What a delivery commits is what the device has answered with.
theorem deliverComponent_keepsOthers {sets : TargetRegister → Prop} {runtime : RuntimeState} {auditReason eventType : String}
    {actor : AuditActor} : (deliverComponent safety true runtime auditReason eventType actor :
      Handler Event.work me AppError (Option ComponentControlOutcome)).behaves fun moments _ =>
        (∀ write ∈ moments, ∀ sent delivered, (me,.commanded .component sent delivered) ∈ write.recorded →
          ∀ outcome safe, write.answer.component = .ok (some outcome) → outcome.targets = some safe →
            Inherits sets runtime.targets safe.targets) → KeepsOthers me sets moments := by
  unfold deliverComponent
  rw [behaves_bind,behaves_catching]
  unfold writeComponent
  rw [behaves_locked]
  intro e w
  simp only [run_bind,run_answer,chain_ok,run_record,run_ofExcept]
  have wrote : ∀ writer command delivered, ¬Effected (Breaks me (Inherits sets))
      [(⟨e,w,w.emit me (.commanded writer command delivered)⟩ : Moment Env World)] := by
    intro writer command delivered effected
    obtain ⟨moment,member,targets,listed,_⟩ := effected
    rw [List.mem_singleton.mp member,Moment.recorded_emit,List.mem_singleton] at listed
    cases listed
  have kept : ∀ moments : Moments, ¬Effected (Breaks me (Inherits sets)) moments → KeepsOthers me sets moments := by
    intro moments never moment member targets listed
    by_contra wrong
    exact never ⟨moment,member,targets,listed,wrong⟩
  have later : ∀ {α : Type} {t : Handler Event.work me AppError α} (writer : Writer) (command : Option SafeCommand)
      (delivered : Bool), t.Clean (Breaks me (Inherits sets)) → t.behaves fun rest _ =>
        KeepsOthers me sets (⟨e,w,w.emit me (.commanded writer command delivered)⟩ :: rest) := by
    intro α t writer command delivered clean
    apply behaves_mono _ clean
    intro rest result never
    apply kept
    intro effected
    have either : Effected (Breaks me (Inherits sets)) ([⟨e,w,w.emit me (.commanded writer command delivered)⟩] ++ rest) := effected
    exact (effected_append.mp either).elim (wrote writer command delivered) never
  cases answered : e.component with
  | error err =>
      simp only
      have failed : (do
          within (latchControlWriteFault err)
          throw (.internal err) : Handler Event.work me AppError (Option ComponentControlOutcome)).behaves Fails :=
        fails_after fun _ => fails_throw _
      have clean : (do
          within (latchControlWriteFault err)
          throw (.internal err) : Handler Event.work me AppError (Option ComponentControlOutcome)).Clean
            (Breaks me (Inherits sets)) := clean_bind (clean_within clean_quiet) fun _ => clean_done _
      refine behaves_mono ?_ (behaves_and failed (later .component none false clean))
      intro rest result ended
      cases result with
      | error err => exact fun _ => ended.2
      | ok value => exact absurd rfl (ended.1 value)
  | ok outcome =>
      simp only
      have committed : (∀ safe, outcome.bind (·.targets) = some safe → Inherits sets runtime.targets safe.targets) →
          (commitComponentOutcome safety true runtime (outcome.bind (·.targets)) : Handler Event.work me AppError Unit).Clean
            (Breaks me (Inherits sets)) := by
        intro inherits
        unfold commitComponentOutcome
        cases bound : outcome.bind (·.targets) with
        | none => exact clean_done _
        | some safe =>
            refine clean_catching (clean_commitComponentTargets_expected (inherits safe bound)) fun err => ?_
            exact clean_bind (clean_within clean_quiet) fun _ => clean_done _
      by_cases inherits : ∀ safe, outcome.bind (·.targets) = some safe → Inherits sets runtime.targets safe.targets
      · refine behaves_mono ?_ (later .component (outcome.bind (·.targets)) true
          (clean_bind (clean_catching (clean_within clean_quiet) fun err => clean_bind (clean_within clean_quiet) fun _ => clean_done _)
            fun _ => clean_bind (committed inherits) fun _ => clean_done _))
        intro rest result holds _
        cases outcome <;> exact holds
      · apply behaves_mono _ (behaves_true _)
        intro rest result _ given
        refine absurd ?_ inherits
        intro safe bound
        obtain ⟨found,rfl,targets⟩ := Option.bind_eq_some_iff.mp bound
        exact given _ List.mem_cons_self _ _ (by rw [Moment.recorded_emit]; exact List.mem_singleton.mpr rfl) _ safe answered targets

theorem keepsOthers_append {sets : TargetRegister → Prop} {first later : Moments} (early : KeepsOthers me sets first)
    (late : KeepsOthers me sets later) : KeepsOthers me sets (first ++ later) := by
  intro moment member
  rcases List.mem_append.mp member with one | two
  · exact early moment one
  · exact late moment two

theorem executeComponentControl_keepsOthers (device : Device) (calls : Env → DeviceCall) (deviceId componentId : String)
    (payload : ComponentControlRequest) (eventType : String) (actor : AuditActor)
    (proven : componentControlRequiresProvenSafeField payload.action = true) :
    (executeComponentControl safety device.controlCapabilities deviceId componentId payload eventType actor :
      Handler Event.work me AppError ComponentControlResponse).behaves fun moments _ =>
        AnswersComponent fromTimestampMillis device calls safety componentId payload me moments →
          KeepsOthers me (SetsComponent componentId) moments := by
  have none_at_all : KeepsOthers me (SetsComponent componentId) [] := by
    intro moment member
    cases member
  unfold executeComponentControl
  apply behaves_ofExcept
  · exact fun _ _ _ => none_at_all
  intro _ _
  rw [behaves_bind,behaves_locked]
  intro e w
  simp only [run_runtimeState]
  have looked : KeepsOthers me (SetsComponent componentId) [(⟨e,w,w⟩ : Moment Env World)] := by
    intro moment member targets listed
    rw [List.mem_singleton.mp member,Moment.recorded_silent] at listed
    cases listed
  apply behaves_ofExcept
  · exact fun _ _ _ => looked
  intro offered found
  obtain ⟨component,action⟩ := offered
  apply behaves_ofExcept
  · exact fun _ _ _ => looked
  intro _ _
  apply behaves_ofExcept
  · exact fun _ _ _ => looked
  intro operatorReason _
  simp only [proven,if_true]
  have unset : (proveComponentField safety ⟨componentId,payload.action,componentControlCommandValue action payload⟩ :
      Handler Event.work me AppError RuntimeState).Clean (Breaks me (Inherits (SetsComponent componentId))) :=
    clean_proveComponentField
  have early : ∀ proof : Moments, ¬Effected (Breaks me (Inherits (SetsComponent componentId))) proof →
      KeepsOthers me (SetsComponent componentId) ([⟨e,w,w⟩] ++ proof) := by
    intro proof never
    apply keepsOthers_append looked
    intro moment member targets listed
    by_contra wrong
    exact never ⟨moment,member,targets,listed,wrong⟩
  apply behaves_seq (behaves_and unset proveComponentField_proves)
  · intro proof runtime checked
    obtain ⟨never,proves⟩ := checked
    obtain ⟨look,first,same,_⟩ := proves runtime rfl
    have second : ∀ later : Moments, ([⟨e,w,w⟩] ++ proof ++ later)[1]? = some look := by
      intro later
      cases proof with
      | nil => cases first
      | cons moment rest =>
          cases first
          rfl
    rw [behaves_bind]
    apply behaves_mono _ (@deliverComponent_keepsOthers safety me (SetsComponent componentId) _ _ _ _)
    intro later result kept
    have whole : AnswersComponent fromTimestampMillis device calls safety componentId payload me ([⟨e,w,w⟩] ++ proof ++ later) →
        KeepsOthers me (SetsComponent componentId) ([⟨e,w,w⟩] ++ proof ++ later) := by
      intro answers
      apply keepsOthers_append (early proof never)
      apply kept
      intro write member sent delivered listed outcome safe answered bound
      have told := answers look (second later) component action found write (List.mem_append_right _ member) sent delivered listed
      rw [answered,← same] at told
      exact componentAnswer_inherits fromTimestampMillis told bound
    cases result with
    | ok outcome => simpa using whole
    | error err => simpa using whole
  · intro proof err checked _
    exact early proof checked.1

end Components

-- Whatever the others do in between, a commit leaves every field that its request does not set as it
-- finds it, in hundredths.
theorem commits_keep_others (fromTimestampMillis : Int → Option Instant) (safety : SafetyConfig) (me : TaskId) :
    (∀ payload actor, (setTargets safety payload actor : Handler Event.work me AppError ControlTargets).behaves
      fun moments _ => KeepsOthers me payload.sets moments) ∧
    (∀ payload actor, (applyAinasTargets safety payload actor : Handler Event.work me AppError ControlTargets).behaves
      fun moments _ => KeepsOthers me payload.sets moments) ∧
    (∀ registers register value reason actor, (applyModbusRegisterWrite safety registers register value reason actor :
      Handler Event.work me AppError ModbusWriteResponse).behaves fun moments _ =>
        KeepsOthers me (fun field => field.name = register) moments) ∧
    ∀ device calls deviceId componentId payload eventType actor,
      componentControlRequiresProvenSafeField payload.action = true →
      (executeComponentControl safety device.controlCapabilities deviceId componentId payload eventType actor :
        Handler Event.work me AppError ComponentControlResponse).behaves fun moments _ =>
          AnswersComponent fromTimestampMillis device calls safety componentId payload me moments →
            KeepsOthers me (SetsComponent componentId) moments :=
  ⟨setTargets_keepsOthers,applyAinasTargets_keepsOthers,applyModbusRegisterWrite_keepsOthers,
    executeComponentControl_keepsOthers fromTimestampMillis⟩

-- A request for a slower shaking, and the answer of the device to it.
def shakeSlower : ComponentControlRequest :=
  {action := "set_speed",value := some (.number 25),reason := some (some "less foam")}

def shakeSlowerCall : DeviceCall := ⟨.ok (),0,0,.error ⟨"",[]⟩,⟨none,none⟩,.replaced⟩

def shakeSlowerAnswer : Env := {Env.healthy with
  component := (Device.esp32Serial.writeComponent (fun ms => some (ms*1000000)) shakeSlowerCall
    ⟨"shake_stepper","set_speed",some (.number 25)⟩ (RuntimeState.fromSafety .shipped).targets .shipped).result }

def shakesSlower : TaskId → Job
  | 0 => .controlLoop .simulation 1
  | _ => .componentControl Device.esp32Serial.controlCapabilities "reactor_001" "shake_stepper" shakeSlower .system

def shakenSlower : List (TaskId × Env) := healthy [0,0,0,0,0,0,0] ++ List.replicate 9 (1,shakeSlowerAnswer)

theorem commits_keep_others_shaking :
    ((Site.shipped.daemon shakesSlower).run shakenSlower).world.state.runtime.targets.shakeSpeedCpm = 25 ∧
    KeepsOthers 1 (SetsComponent "shake_stepper") ((Site.shipped.daemon shakesSlower).moments 1 shakenSlower) := by
  refine ⟨by decide +kernel,?_⟩
  have proven : componentControlRequiresProvenSafeField shakeSlower.action = true := by decide
  have keeps := (commits_keep_others (fun ms => some (ms*1000000)) .shipped 1).2.2.2 .esp32Serial (fun _ => shakeSlowerCall)
    "reactor_001" "shake_stepper" shakeSlower "component_control" .system proven
  have task : ((Site.shipped.daemon shakesSlower).tasks 1).behaves fun moments _ =>
      AnswersComponent (fun ms => some (ms*1000000)) .esp32Serial (fun _ => shakeSlowerCall) .shipped "shake_stepper" shakeSlower 1
        moments → KeepsOthers 1 (SetsComponent "shake_stepper") moments := by
    refine (behaves_bind _ _ _).mpr (behaves_mono ?_ keeps)
    intro moments result kept
    cases result with
    | ok response =>
        change AnswersComponent _ _ _ _ _ _ _ (moments ++ []) → KeepsOthers _ _ (moments ++ [])
        rw [List.append_nil]
        exact kept
    | error err => exact kept
  have ended : (match ((Site.shipped.daemon shakesSlower).run shakenSlower).tasks 1 with
      | .done _ => true
      | .step _ _ _ => false) = true := by decide +kernel
  cases finished : ((Site.shipped.daemon shakesSlower).run shakenSlower).tasks 1 with
  | step update kept next =>
      rw [finished] at ended
      cases ended
  | done result =>
      refine System.run_behaves _ task shakenSlower finished ?_
      intro look second component action found write member sent delivered listed
      have targets : ((Site.shipped.daemon shakesSlower).moments 1 shakenSlower)[1]?.map (·.before.state.runtime.targets) =
        some (RuntimeState.fromSafety .shipped).targets := by decide +kernel
      rw [second] at targets
      have answered : write.answer = shakeSlowerAnswer := by
        rcases List.mem_append.mp (System.moments_answers _ _ _ write member) with early | late
        · simp [healthy] at early
        · exact (Prod.mk.inj (List.eq_of_mem_replicate late)).2
      have same : look.before.state.runtime.targets = (RuntimeState.fromSafety .shipped).targets := Option.some.inj targets
      rw [same,answered]
      rfl

-- A default temperature that is finer than a hundredth of a degree.
def Site.fineDefault : Site :=
  {Site.shipped with safety := {SafetyConfig.shipped with temperature := ⟨20,160,2,60125/1000⟩}}

def shakeFaster : TaskId → Job
  | 0 => .controlLoop .simulation 1
  | _ => .modbusRegisterWrite (fun _ => ⟨12,1,0⟩) "target_shake_speed_cpm" 40 (some "shake faster") .system

-- The write of another register moves it: the temperature was 60.125 and is 60.13 afterwards.
theorem shake_write_moves_temperature :
    let before := (Site.fineDefault.daemon shakeFaster).run (healthy [0,0,0,0,0,0,0,1,1,1,1,1,1])
    before.world.state.runtime.targets.temperatureC = 60125/1000 ∧
      (before.run (healthy [1])).world.state.runtime.targets =
        {before.world.state.runtime.targets with temperatureC := 6013/100,shakeSpeedCpm := 40} := by
  decide +kernel

end ReactorOS
