import ReactorOS.Backends
import ReactorOS.Behaviours
import ReactorOS.Jobs
namespace ReactorOS
open Concurrency Journal Task Section

-- The actions that pass by the latches are those that are to take energy out.
def Exempt (payload : ComponentControlRequest) : Prop :=
  componentControlRequiresProvenSafeField payload.action = false

theorem exempt_iff {payload : ComponentControlRequest} : Exempt payload ↔ payload.action = "stop" ∨ payload.action = "off" := by
  unfold Exempt componentControlRequiresProvenSafeField
  rw [Bool.and_eq_false_iff,bne_eq_false_iff_eq,bne_eq_false_iff_eq]

-- What the device got last, as the record has it.
def lastWritten (history : List (TaskId × Event)) : Option SafeCommand :=
  history.findSome? fun entry => match entry.2 with
    | .commanded _ (some command) true => some command
    | _ => none

structure SafeCommand.AtMost (last command : SafeCommand) : Prop where
  temperature : command.targetTemperatureC ≤ last.targetTemperatureC
  stirrer : command.targetStirrerRpm ≤ last.targetStirrerRpm
  shake : command.targetShakeSpeedCpm ≤ last.targetShakeSpeedCpm
  pressure : command.targetPressureMpa ≤ last.targetPressureMpa

-- A write that raises no axis. A single control drives one axis, to nought at the least.
structure ComponentWrite.Lowers (write : ComponentWrite) (history : List (TaskId × Event)) : Prop where
  command : ∀ command ∈ write.command, ∀ last ∈ lastWritten history, last.AtMost command
  control : ∀ control ∈ write.control, control.value = some (.integer 0)

-- Two target sets that differ in the axis of one component at most.
structure ControlTargets.SameBut (componentId : String) (before after : ControlTargets) : Prop where
  temperatureC : componentId ≠ "temperature_controller" → after.temperatureC = before.temperatureC
  heatTimeS : after.heatTimeS = before.heatTimeS
  holdTimeS : after.holdTimeS = before.holdTimeS
  coolTimeS : after.coolTimeS = before.coolTimeS
  stirrerRpm : componentId ≠ "stirrer_motor" → after.stirrerRpm = before.stirrerRpm
  shakeSpeedCpm : componentId ≠ "shake_stepper" → after.shakeSpeedCpm = before.shakeSpeedCpm
  targetPressureMpa : after.targetPressureMpa = before.targetPressureMpa

theorem listed_component {capabilities : List DeviceComponentCapability} {componentId : String}
    {payload : ComponentControlRequest} {component : DeviceComponentCapability} {action : ComponentActionCapability}
    (found : componentAction capabilities componentId payload = .ok (component,action)) :
    component ∈ capabilities ∧ component.componentId = componentId ∧ action ∈ component.actions ∧
      action.action = payload.action := by
  unfold componentAction at found
  cases first : capabilities.find? fun component => component.componentId == componentId with
  | none => rw [first] at found; cases found
  | some listed =>
      rw [first] at found
      simp only at found
      split at found
      · cases found
      · cases second : listed.actions.find? fun action => action.action == payload.action with
        | none => rw [second] at found; cases found
        | some offered =>
            rw [second] at found
            cases found
            exact ⟨List.mem_of_find?_eq_some first,by simpa using List.find?_some first,
              List.mem_of_find?_eq_some second,by simpa using List.find?_some second⟩

-- A component that takes a set point has no such action, the shaker and the relay have one each.
theorem setPoint_not_exempt {component : DeviceComponentCapability} {action : ComponentActionCapability}
    (setPoint : component = setTargetTemperature ∨ component = setRpm) (offered : action ∈ component.actions)
    (exempt : action.action = "stop" ∨ action.action = "off") : False := by
  rcases setPoint with rfl | rfl
  · rw [List.mem_singleton.mp offered] at exempt
    simp [numericAction] at exempt
  · rw [List.mem_singleton.mp offered] at exempt
    simp [numericAction] at exempt

theorem exempt_listed {device : Device} {componentId : String} {payload : ComponentControlRequest}
    {component : DeviceComponentCapability} {action : ComponentActionCapability} (exempt : Exempt payload)
    (found : componentAction device.controlCapabilities componentId payload = .ok (component,action)) :
    (device = .esp32Serial ∧ componentId = "shake_stepper" ∧ payload.action = "stop") ∨
    ∃ config, device = .jsonBridge config ∧ ((componentId = "shake_stepper" ∧ payload.action = "stop") ∨
      (componentId = "heater_relay" ∧ payload.action = "off")) := by
  obtain ⟨listed,rfl,offered,named⟩ := listed_component found
  rw [exempt_iff,←named] at exempt
  rw [←named]
  cases device with
  | pipeline => cases listed
  | modbus =>
      simp only [Device.controlCapabilities,List.mem_cons,List.not_mem_nil,or_false] at listed
      exact (setPoint_not_exempt listed offered exempt).elim
  | esp32Serial =>
      simp only [Device.controlCapabilities,List.mem_cons,List.not_mem_nil,or_false] at listed
      rcases listed with setPoint | setPoint | rfl
      · exact (setPoint_not_exempt (.inl setPoint) offered exempt).elim
      · exact (setPoint_not_exempt (.inr setPoint) offered exempt).elim
      · simp only [componentCapability,List.mem_cons,List.not_mem_nil,or_false] at offered
        rcases offered with rfl | rfl | rfl <;> simp [enumAction,numericAction] at exempt
        exact .inl ⟨rfl,rfl,rfl⟩
  | jsonBridge config =>
      refine .inr ⟨config,rfl,?_⟩
      simp only [Device.controlCapabilities,List.mem_append,List.mem_cons,List.not_mem_nil,or_false] at listed
      rcases listed with (rfl | rfl | setPoint) | setPoint
      · simp only [componentCapability,List.mem_cons,List.not_mem_nil,or_false] at offered
        rcases offered with rfl | rfl | rfl | rfl | rfl <;> simp [enumAction,numericAction] at exempt
        exact .inl ⟨rfl,rfl⟩
      · simp only [componentCapability,List.mem_cons,List.not_mem_nil,or_false] at offered
        rcases offered with rfl | rfl <;> simp [enumAction] at exempt
        exact .inr ⟨rfl,rfl⟩
      · exact (setPoint_not_exempt (.inr setPoint) offered exempt).elim
      · split at setPoint
        · exact (setPoint_not_exempt (.inl (List.mem_singleton.mp setPoint)) offered exempt).elim
        · cases setPoint
  | simulation => cases listed

def shakeStopped (targets : ControlTargets) : ControlTargets := {targets with shakeSpeedCpm := 0}.round2

variable {fromTimestampMillis : Int → Option Instant}

theorem single_nought (call : JsonBridgeCall) (control : JsonBridgeControl) (nought : control.value = some (.integer 0))
    (response : ComponentControlOutcome) (untargeted : response.targets = none) :
    (∀ sent ∈ (writeJsonBridgeControl call control {} response).commanded, sent.value = some (.integer 0)) ∧
    ∀ outcome, (writeJsonBridgeControl call control {} response).result.map some = .ok outcome →
      outcome.bind (·.targets) = none := by
  unfold writeJsonBridgeControl
  cases call.file with
  | replaced =>
      refine ⟨fun sent given => ?_,fun outcome written => ?_⟩
      · cases given
        exact nought
      · cases written
        exact untargeted
  | failed error =>
      refine ⟨fun sent given => ?_,fun outcome written => ?_⟩
      · cases given
      · cases written
  | unsynced error =>
      refine ⟨fun sent given => ?_,fun outcome written => ?_⟩
      · cases given
        exact nought
      · cases written

-- What an exempt action sends: the whole target set on the ESP32 line, a single nought over
-- the bridge.
theorem exempt_write {device : Device} {command : ComponentControlCommand} (call : DeviceCall)
    (targets : ControlTargets) (safety : SafetyConfig)
    (stops : (device = .esp32Serial ∧ command.componentId = "shake_stepper" ∧ command.action = "stop") ∨
      ∃ config, device = .jsonBridge config ∧ ((command.componentId = "shake_stepper" ∧ command.action = "stop") ∨
        (command.componentId = "heater_relay" ∧ command.action = "off"))) :
    (device = .esp32Serial ∧ command.componentId = "shake_stepper" ∧ ∃ safe : SafeCommand,
      safe.targets = shakeStopped targets ∧
      (device.writeComponent fromTimestampMillis call command targets safety).command = some safe ∧
      (device.writeComponent fromTimestampMillis call command targets safety).control = none ∧
      ∀ outcome, (device.writeComponent fromTimestampMillis call command targets safety).result = .ok outcome →
        outcome.bind (·.targets) = some safe) ∨
    (device ≠ .esp32Serial ∧ (device.writeComponent fromTimestampMillis call command targets safety).command = none ∧
      (∀ control ∈ (device.writeComponent fromTimestampMillis call command targets safety).control,
        control.value = some (.integer 0)) ∧
      ∀ outcome, (device.writeComponent fromTimestampMillis call command targets safety).result = .ok outcome →
        outcome.bind (·.targets) = none) := by
  rcases command with ⟨componentId,action,value⟩
  rcases stops with ⟨rfl,rfl,rfl⟩ | ⟨config,rfl,⟨rfl,rfl⟩ | ⟨rfl,rfl⟩⟩
  · refine .inl ⟨rfl,rfl,safeCommandFromTargets (shakeStopped targets) "manual component control",rfl,rfl,rfl,?_⟩
    intro outcome written
    change call.line.map _ = _ at written
    cases line : call.line with
    | error error => rw [line] at written; cases written
    | ok _ => rw [line] at written; cases written; rfl
  · exact .inr ⟨by simp,rfl,single_nought call.bridge _ rfl _ rfl⟩
  · exact .inr ⟨by simp,rfl,single_nought call.bridge _ rfl _ rfl⟩

-- What target sets a step may put into the runtime.
def SetsOnly (me : TaskId) (allowed : ControlTargets → Prop) (moment : Moment Env World) : Prop :=
  ∀ targets, (me,.runtime (.targetsSet targets)) ∈ moment.recorded → allowed targets

variable {me : TaskId} {allowed : ControlTargets → Prop}

theorem quiet_sets {ε α : Type} (t : Handler Event.quiet me ε α) : t.each (SetsOnly me allowed) := by
  apply behaves_mono _ (Moment.behaves_may t)
  intro moments result quiet moment member targets listed
  cases (quiet moment member _ listed).2

-- The part of an exempt action that follows the write.
theorem exempt_tail (safety : SafetyConfig) (runtime : RuntimeState) (outcome : Option ComponentControlOutcome)
    (auditCommand : SafeCommand) (eventType auditReason : String) (actor : AuditActor) : (do
      catching (within (insertControlEventSqlx runtime.activeBatchId eventType (some auditCommand) auditReason actor))
        fun err => do
          within (latchControlFault s!"component control audit failed after device action: {err.message}")
          throw (.internal err)
      commitComponentOutcome safety false runtime (outcome.bind (·.targets))
      return outcome : Handler Event.work me AppError (Option ComponentControlOutcome)).each
        (SetsOnly me fun targets => ∃ safe, outcome.bind (·.targets) = some safe ∧ targets = safe.targets) := by
  have audit : (catching (within (insertControlEventSqlx runtime.activeBatchId eventType (some auditCommand) auditReason actor))
      fun err => do
        within (latchControlFault s!"component control audit failed after device action: {err.message}")
        throw (.internal err) : Handler Event.work me AppError Unit).each
        (SetsOnly me fun targets => ∃ safe, outcome.bind (·.targets) = some safe ∧ targets = safe.targets) := by
    apply each_catching (each_within (quiet_sets _))
    intro err
    exact each_bind (each_within (quiet_sets _)) fun _ => each_done _ _
  apply each_bind audit
  intro _
  apply each_bind
  · unfold commitComponentOutcome
    cases written : outcome.bind (·.targets) with
    | none => exact each_done _ _
    | some safe =>
        apply each_catching
        · unfold commitComponentTargetsAfterFinalInterlock
          rw [if_neg (by simp)]
          apply each_section
          intro e w targets listed
          rw [run_change,Moment.recorded_emit] at listed
          cases List.mem_singleton.mp listed
          exact ⟨safe,rfl,rfl⟩
        · intro err
          exact each_bind (each_within (quiet_sets _)) fun _ => each_done _ _
  · intro _
    exact each_done _ _

-- An exempt action looks at the runtime and writes to the device at once, whatever the latches
-- say. Its write raises no axis, and what it commits moves no axis but the component's, under
-- these conditions and only then.
structure Deenergises (device : Device) (sent : ComponentWrite) (componentId : String) (me : TaskId)
    (look write : Moment Env World) (rest : Moments) : Prop where
  write : sent.Lowers write.before.history ↔ (device = .esp32Serial → ∀ last ∈ lastWritten write.before.history,
    round2 look.before.state.runtime.targets.temperatureC ≤ last.targetTemperatureC ∧
    round2 look.before.state.runtime.targets.stirrerRpm ≤ last.targetStirrerRpm ∧
    0 ≤ last.targetShakeSpeedCpm ∧
    round2 look.before.state.runtime.targets.targetPressureMpa ≤ last.targetPressureMpa)
  commit : ∀ commit ∈ rest, ∀ after, (me,.runtime (.targetsSet after)) ∈ commit.recorded →
    (commit.before.state.runtime.targets.SameBut componentId after ↔
      commit.before.state.runtime.targets.SameBut "shake_stepper" look.before.state.runtime.targets.round2)

def ExemptAction (fromTimestampMillis : Int → Option Instant) (device : Device) (calls : Env → DeviceCall)
    (safety : SafetyConfig) (componentId : String) (payload : ComponentControlRequest) (me : TaskId)
    (moments : Moments) : Prop :=
  ∀ look write rest, moments = look :: write :: rest →
    ∃ command : ComponentControlCommand, command.componentId = componentId ∧ command.action = payload.action ∧
      let sent := device.writeComponent fromTimestampMillis (calls write.answer) command
        look.before.state.runtime.targets safety
      write.answer.component = sent.result → Deenergises device sent componentId me look write rest

theorem sameBut_shake {before targets : ControlTargets} : before.SameBut "shake_stepper" (shakeStopped targets) ↔
    before.SameBut "shake_stepper" targets.round2 := by
  constructor
  · intro same
    exact ⟨same.temperatureC,same.heatTimeS,same.holdTimeS,same.coolTimeS,same.stirrerRpm,fun other => absurd rfl other,
      same.targetPressureMpa⟩
  · intro same
    exact ⟨same.temperatureC,same.heatTimeS,same.holdTimeS,same.coolTimeS,same.stirrerRpm,fun other => absurd rfl other,
      same.targetPressureMpa⟩

theorem exempt_deenergises {device : Device} {command : ComponentControlCommand} {call : DeviceCall}
    {safety : SafetyConfig} {look write : Moment Env World} {rest : Moments} {outcome : Except Failure (Option ComponentControlOutcome)}
    (stops : (device = .esp32Serial ∧ command.componentId = "shake_stepper" ∧ command.action = "stop") ∨
      ∃ config, device = .jsonBridge config ∧ ((command.componentId = "shake_stepper" ∧ command.action = "stop") ∨
        (command.componentId = "heater_relay" ∧ command.action = "off")))
    (answered : outcome = (device.writeComponent fromTimestampMillis call command look.before.state.runtime.targets safety).result)
    (tail : ∀ moment ∈ rest, SetsOnly me (fun targets => ∃ found safe, outcome = .ok found ∧
      found.bind (·.targets) = some safe ∧ targets = safe.targets) moment) :
    Deenergises device (device.writeComponent fromTimestampMillis call command look.before.state.runtime.targets safety)
      command.componentId me look write rest := by
  rcases exempt_write call look.before.state.runtime.targets safety stops with
    ⟨rfl,named,safe,targets,sent,single,targeted⟩ | ⟨other,none_sent,nought,untargeted⟩
  · constructor
    · have temperature : safe.targetTemperatureC = round2 look.before.state.runtime.targets.temperatureC :=
        congrArg ControlTargets.temperatureC targets
      have stirrer : safe.targetStirrerRpm = round2 look.before.state.runtime.targets.stirrerRpm :=
        congrArg ControlTargets.stirrerRpm targets
      have shake : safe.targetShakeSpeedCpm = 0 :=
        (congrArg ControlTargets.shakeSpeedCpm targets).trans (show round2 0 = 0 by decide +kernel)
      have pressure : safe.targetPressureMpa = round2 look.before.state.runtime.targets.targetPressureMpa :=
        congrArg ControlTargets.targetPressureMpa targets
      rw [←temperature,←stirrer,←shake,←pressure]
      constructor
      · intro lowers _ last got
        have atMost := lowers.command safe sent last got
        exact ⟨atMost.temperature,atMost.stirrer,atMost.shake,atMost.pressure⟩
      · intro higher
        constructor
        · intro given written last got
          rw [sent] at written
          cases written
          obtain ⟨one,two,three,four⟩ := higher rfl last got
          exact ⟨one,two,three,four⟩
        · intro control given
          rw [single] at given
          cases given
    · intro commit member after listed
      obtain ⟨found,given,written,bound,rfl⟩ := tail commit member after listed
      rw [answered] at written
      have same := targeted found written
      rw [bound] at same
      cases same
      rw [named,targets]
      exact sameBut_shake
  · constructor
    · constructor
      · intro _ line
        exact absurd line other
      · intro _
        constructor
        · intro given written
          rw [none_sent] at written
          cases written
        · exact nought
    · intro commit member after listed
      obtain ⟨found,given,written,bound,_⟩ := tail commit member after listed
      rw [answered] at written
      rw [untargeted found written] at bound
      cases bound

theorem deliverComponent_exempt {device : Device} {calls : Env → DeviceCall} {safety : SafetyConfig}
    {command : ComponentControlCommand} (look : Moment Env World)
    (stops : (device = .esp32Serial ∧ command.componentId = "shake_stepper" ∧ command.action = "stop") ∨
      ∃ config, device = .jsonBridge config ∧ ((command.componentId = "shake_stepper" ∧ command.action = "stop") ∨
        (command.componentId = "heater_relay" ∧ command.action = "off")))
    (auditReason eventType : String) (actor : AuditActor) :
    (deliverComponent safety false look.before.state.runtime auditReason eventType actor :
      Handler Event.work me AppError (Option ComponentControlOutcome)).behaves fun later _ => ∀ write rest,
        later = write :: rest →
        let sent := device.writeComponent fromTimestampMillis (calls write.answer) command
          look.before.state.runtime.targets safety
        write.answer.component = sent.result → Deenergises device sent command.componentId me look write rest := by
  unfold deliverComponent
  rw [behaves_bind,behaves_catching]
  unfold writeComponent
  rw [behaves_locked]
  intro e w
  simp only [run_bind,run_answer,chain_ok,run_record,run_ofExcept]
  cases answered : e.component with
  | error err =>
      have fails : (do
          within (latchControlWriteFault err)
          throw (.internal err) : Handler Event.work me AppError (Option ComponentControlOutcome)).behaves fun moments result =>
            (∀ moment ∈ moments, SetsOnly me (fun _ => False) moment) ∧ Fails moments result :=
        behaves_and (each_bind (each_within (quiet_sets _)) fun _ => each_done _ _) (fails_after fun _ => fails_throw _)
      apply behaves_mono _ fails
      intro later result ended
      obtain ⟨sets,failed⟩ := ended
      cases result with
      | ok value => exact absurd rfl (failed value)
      | error error =>
          intro write rest shape
          obtain ⟨rfl,rfl⟩ := List.cons.inj shape
          intro tie
          exact exempt_deenergises stops (answered.symm.trans tie) fun moment member targets listed =>
            (sets moment member targets listed).elim
  | ok outcome =>
      apply behaves_mono _ (exempt_tail safety look.before.state.runtime outcome _ eventType auditReason actor)
      intro later result sets write rest shape
      obtain ⟨rfl,rfl⟩ := List.cons.inj shape
      intro tie
      apply exempt_deenergises stops (answered.symm.trans tie)
      intro moment member targets listed
      obtain ⟨safe,bound,same⟩ := sets moment member targets listed
      exact ⟨outcome,safe,rfl,bound,same⟩

theorem exempt_action_iff {device : Device} {calls : Env → DeviceCall} {safety : SafetyConfig}
    {componentId : String} {payload : ComponentControlRequest} (exempt : Exempt payload) (deviceId eventType : String)
    (actor : AuditActor) :
    (executeComponentControl safety device.controlCapabilities deviceId componentId payload eventType actor :
      Handler Event.work me AppError ComponentControlResponse).behaves fun moments _ =>
        ExemptAction fromTimestampMillis device calls safety componentId payload me moments := by
  have none_yet : ∀ moments : Moments, moments.length < 2 →
      ExemptAction fromTimestampMillis device calls safety componentId payload me moments := by
    intro moments short look write rest shape
    rw [shape] at short
    simp only [List.length_cons] at short
    omega
  unfold executeComponentControl
  apply behaves_ofExcept
  · intro err _
    exact none_yet _ (by simp)
  intro _ _
  rw [behaves_bind,behaves_locked]
  intro e w
  simp only [run_runtimeState]
  apply behaves_ofExcept
  · intro err _
    exact none_yet _ (by simp)
  intro offered found
  obtain ⟨component,action⟩ := offered
  apply behaves_ofExcept
  · intro err _
    exact none_yet _ (by simp)
  intro _ _
  apply behaves_ofExcept
  · intro err _
    exact none_yet _ (by simp)
  intro operatorReason _
  have passes : componentControlRequiresProvenSafeField payload.action = false := exempt
  simp only [passes]
  rw [if_neg (by simp),Task.pure_done,Task.bind_ok,behaves_bind]
  have delivered := @deliverComponent_exempt fromTimestampMillis me device calls safety
    ⟨componentId,payload.action,componentControlCommandValue action payload⟩ ⟨e,w,w⟩ (exempt_listed exempt found)
    (cleanLabel operatorReason s!"operator component control {componentId}:{payload.action}" 240) eventType actor
  apply behaves_mono _ delivered
  intro later result holds
  have done : ExemptAction fromTimestampMillis device calls safety componentId payload me ([⟨e,w,w⟩] ++ later) := by
    intro look write rest shape
    obtain ⟨rfl,following⟩ := List.cons.inj shape
    exact ⟨⟨componentId,payload.action,componentControlCommandValue action payload⟩,rfl,rfl,holds write rest following⟩
  cases result with
  | error err => exact done
  | ok outcome =>
      simp only [Task.pure_done,behaves_done,List.append_nil]
      exact done

def shakeStop : ComponentControlRequest := {action := "stop"}

theorem exempt_action_iff_stop :
    (executeComponentControl .shipped Device.esp32Serial.controlCapabilities "reactor_001" "shake_stepper" shakeStop
      "component_control" .system : Handler Event.work 2 AppError ComponentControlResponse).behaves fun moments _ =>
        ExemptAction (fun ms => some (ms*1000000)) .esp32Serial (fun _ => ⟨.ok (),0,0,.error ⟨"",[]⟩,⟨none,none⟩,.replaced⟩)
          .shipped "shake_stepper" shakeStop 2 moments :=
  exempt_action_iff (exempt_iff.mpr (.inl rfl)) _ _ _

def stopThenShakeStop : TaskId → Job
  | 1 => .emergencyStop .system
  | _ => .componentControl Device.esp32Serial.controlCapabilities "reactor_001" "shake_stepper" shakeStop .system

def shakeStopWrite : ComponentWrite :=
  Device.esp32Serial.writeComponent (fun ms => some (ms*1000000)) ⟨.ok (),0,0,.error ⟨"",[]⟩,⟨none,none⟩,.replaced⟩
    ⟨"shake_stepper","stop",none⟩ (RuntimeState.fromSafety .shipped).targets .shipped

-- The emergency stop has brought the field down, and to stop the shaking writes the temperature
-- and the stirrer speed of before.
theorem shake_stop_reheats :
    ((Site.shipped.daemon stopThenShakeStop).run (healthy [1,1,1,2])).world.state.runtime.emergencyStop = true ∧
    ((Site.shipped.daemon stopThenShakeStop).run (healthy [1,1,1,2] ++
      [(2,{Env.healthy with component := shakeStopWrite.result})])).world.history.head? =
      some (2,.commanded .component shakeStopWrite.command true) ∧
    ¬shakeStopWrite.Lowers ((Site.shipped.daemon stopThenShakeStop).run (healthy [1,1,1,2])).world.history := by
  refine ⟨by decide +kernel,by decide +kernel,?_⟩
  intro lowers
  have got : lastWritten ((Site.shipped.daemon stopThenShakeStop).run (healthy [1,1,1,2])).world.history =
      some (safeCommandFromRuntimeTargets (processStopTargets .shipped) "emergency stop fail-safe targets") := by
    decide +kernel
  have cooler := (lowers.command _ rfl _ got).temperature
  revert cooler
  decide +kernel

end ReactorOS
