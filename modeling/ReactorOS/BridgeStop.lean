import ReactorOS.Behaviours
import ReactorOS.JsonBridge
import ReactorOS.Jobs
namespace ReactorOS
open Concurrency Journal Task Section

-- The axes of a machine behind the bridge.
structure BridgeAxes where
  motor : Nat
  relay : Nat
  stirrerRpm : Option ℚ

def JsonBridgeState.axes (cache : JsonBridgeCache) (state : JsonBridgeState) : BridgeAxes :=
  ⟨state.motorBit,state.relayBit,state.currentStirrer cache⟩

def JsonBridgeControl.moves (control : JsonBridgeControl) (axes : BridgeAxes) : BridgeAxes :=
  match control.command,control.value with
  | "motor",some (.integer value) => {axes with motor := value}
  | "relay",some (.integer value) => {axes with relay := value}
  | "stir_speed",some (.number rpm) => {axes with stirrerRpm := some rpm}
  | _,_ => axes

-- Within the tolerance in which the bridge takes a stirrer speed for reached.
def StirrerAt (target : ℚ) (stirrerRpm : Option ℚ) : Prop := ∃ rpm, stirrerRpm = some rpm ∧ |target-rpm| ≤ 1/100

structure BridgeAxes.Stopped (targetStirrerRpm : ℚ) (axes : BridgeAxes) : Prop where
  motor : axes.motor = 0
  relay : axes.relay = 0
  stirrer : StirrerAt targetStirrerRpm axes.stirrerRpm

-- The axes once the bridge has done what a call has commanded.
def JsonBridgeWrite.axes (write : JsonBridgeWrite α) (before : BridgeAxes) : BridgeAxes :=
  match write.commanded with
  | none => before
  | some control => control.moves before

-- At most one axis is away from where a stop is to have it, the shaking is at rest where it
-- is not the motor, and the relay is neither left on nor switched on.
def StopsInOneCall (config : JsonBridgeConfig) (call : JsonBridgeCall) (state : JsonBridgeState)
    (command : SafeCommand) : Prop :=
  let stirrerAt := StirrerAt command.targetStirrerRpm (state.currentStirrer call.cache)
  if !call.file.lands then state.motorBit = 0 ∧ state.relayBit = 0 ∧ stirrerAt
  else if state.motorBit ≠ 0 ∨ config.speedDeadbandCpm < |command.targetShakeSpeedCpm-state.currentSpeed config call.cache| then
    state.relayBit = 0 ∧ stirrerAt
  else if config.relayTemperatureControl then
    match state.currentTemperature config with
    | none => state.relayBit = 0 ∧ stirrerAt
    | some current =>
        if desiredRelay config state command.targetTemperatureC current = state.relayBit then state.relayBit = 0
        else desiredRelay config state command.targetTemperatureC current = 0 ∧ stirrerAt
  else state.relayBit = 0

variable {fromTimestampMillis : Int → Option Instant} {config : JsonBridgeConfig}

theorem stirrerAt_iff {target : ℚ} {stirrerRpm : Option ℚ} : StirrerAt target stirrerRpm ↔
    (stirrerRpm.all fun current => 1/100 < |target-current|) = false := by
  cases stirrerRpm with
  | none => simp [StirrerAt]
  | some rpm => simp [StirrerAt]

theorem stirrerAt_self (target : ℚ) : StirrerAt target (some target) := ⟨target,rfl,by simp⟩

@[simp] theorem write_axes (call : JsonBridgeCall) (control : JsonBridgeControl)
    (update : JsonBridgePendingCacheUpdate) (value : α) (before : BridgeAxes) :
    (writeJsonBridgeControl call control update value).axes before =
      if call.file.lands then control.moves before else before := by
  unfold writeJsonBridgeControl FileAnswer.lands
  cases call.file <;> rfl

theorem stopped_iff {target : ℚ} {axes : BridgeAxes} :
    axes.Stopped target ↔ axes.motor = 0 ∧ axes.relay = 0 ∧ StirrerAt target axes.stirrerRpm :=
  ⟨fun stopped => ⟨stopped.motor,stopped.relay,stopped.stirrer⟩,fun ⟨motor,relay,stirrer⟩ => ⟨motor,relay,stirrer⟩⟩

theorem writeTargets_next {call : JsonBridgeCall} {state : JsonBridgeState} (read : call.state = .ok state)
    (command : SafeCommand) (before : BridgeAxes) :
    (JsonBridgeDevice.writeTargets fromTimestampMillis config call command).axes before =
      match nextJsonBridgeControl fromTimestampMillis config call.now call.sequence call.cache state command with
      | .ok (some pending) => if call.file.lands then pending.control.moves before else before
      | _ => before := by
  unfold JsonBridgeDevice.writeTargets
  simp only [read,Except.bind]
  cases nextJsonBridgeControl fromTimestampMillis config call.now call.sequence call.cache state command with
  | error error => rfl
  | ok pending =>
      cases pending with
      | none => rfl
      | some pending => exact write_axes call pending.control pending.cacheUpdate () before

-- Where only the stirrer is left to command.
theorem stirrer_axes {call : JsonBridgeCall} {state : JsonBridgeState} (target : ℚ) (motor : state.motorBit = 0) :
    (match (if (state.currentStirrer call.cache).all fun current => 1/100 < |target-current| then
        .ok (some ⟨buildJsonBridgeControl config.requestIdPrefix call.now call.sequence "stir_speed"
          (some (.number target)) (some "stirrer_motor"),{stirrerRpm := some target}⟩)
        else .ok none : Except Failure (Option JsonBridgePendingControl)) with
      | .ok (some pending) => if call.file.lands then pending.control.moves (state.axes call.cache) else state.axes call.cache
      | _ => state.axes call.cache).Stopped target ↔
    if !call.file.lands then state.relayBit = 0 ∧ StirrerAt target (state.currentStirrer call.cache)
    else state.relayBit = 0 := by
  rw [stopped_iff]
  cases away : (state.currentStirrer call.cache).all fun current => 1/100 < |target-current|
  · have reached := stirrerAt_iff.mpr away
    simp [motor,reached,JsonBridgeState.axes]
  · have apart : ¬StirrerAt target (state.currentStirrer call.cache) := by
      rw [stirrerAt_iff,away]
      simp
    cases call.file.lands
    · simp [motor,apart,JsonBridgeState.axes]
    · simp [motor,stirrerAt_self,JsonBridgeState.axes,buildJsonBridgeControl,JsonBridgeControl.moves]

theorem writeTargets_axes {call : JsonBridgeCall} {state : JsonBridgeState} {command : SafeCommand}
    (stop : command.targetShakeSpeedCpm ≤ 1/100) (read : call.state = .ok state)
    (valid : validateJsonBridgeState fromTimestampMillis config call.now state = .ok ()) :
    ((JsonBridgeDevice.writeTargets fromTimestampMillis config call command).axes (state.axes call.cache)).Stopped
      command.targetStirrerRpm ↔ StopsInOneCall config call state command := by
  unfold StopsInOneCall
  rw [writeTargets_next read]
  by_cases motor : state.motorBit = 0
  · by_cases far : config.speedDeadbandCpm < |command.targetShakeSpeedCpm-state.currentSpeed config call.cache|
    · rw [next_speed valid (iff_of_true stop motor) far,stopped_iff]
      cases call.file.lands
      · simp [motor,JsonBridgeState.axes]
      · simp [motor,far,JsonBridgeState.axes,buildJsonBridgeControl,JsonBridgeControl.moves]
    · rw [next_rest valid (iff_of_true stop motor) far]
      unfold nextRelay
      cases controlled : config.relayTemperatureControl with
      | false =>
          rw [if_neg (by simp),stirrer_axes command.targetStirrerRpm motor]
          simp [motor,far]
      | true =>
          cases measured : state.currentTemperature config with
          | none => simp [motor,far,stopped_iff,JsonBridgeState.axes]
          | some current =>
              by_cases settled : desiredRelay config state command.targetTemperatureC current = state.relayBit
              · simp only [if_pos,settled,ne_eq,not_true,if_false]
                rw [stirrer_axes command.targetStirrerRpm motor]
                simp [motor,far]
              · simp only [if_pos,settled,ne_eq,not_false_iff]
                rw [stopped_iff]
                cases call.file.lands
                · simp [motor,JsonBridgeState.axes]
                · simp [motor,far,JsonBridgeState.axes,buildJsonBridgeControl,JsonBridgeControl.moves]
  · rw [next_motor_off valid stop motor,stopped_iff]
    cases call.file.lands
    · simp [motor,JsonBridgeState.axes]
    · simp [motor,JsonBridgeState.axes,buildJsonBridgeControl,JsonBridgeControl.moves]

-- The commands that a task has given to the device, each with what its step was answered.
def commandsGiven (moments : Moments) : List (Env × SafeCommand) :=
  moments.flatMap fun moment => moment.recorded.filterMap fun entry => match entry.2 with
    | .commanded _ (some command) _ => some (moment.answer,command)
    | _ => none

@[simp] theorem commandsGiven_nil : commandsGiven [] = [] := rfl

@[simp] theorem commandsGiven_append (first later : Moments) :
    commandsGiven (first ++ later) = commandsGiven first ++ commandsGiven later := List.flatMap_append

@[simp] theorem commandsGiven_silent (e : Env) (w : World) : commandsGiven [⟨e,w,w⟩] = [] := by
  simp [commandsGiven]

@[simp] theorem commandsGiven_emit (e : Env) (w : World) (me : TaskId) (event : Event) :
    commandsGiven [⟨e,w,w.emit me event⟩] = match event with
      | .commanded _ (some command) _ => [(e,command)]
      | _ => [] := by
  unfold commandsGiven
  rw [List.flatMap_singleton,Moment.recorded_emit]
  rcases event with _ | _ | ⟨_,_ | _,_⟩ | _ <;> rfl

theorem quiet_commands {me : TaskId} {ε α : Type} (t : Handler Event.quiet me ε α) :
    t.behaves fun moments _ => commandsGiven moments = [] := by
  apply behaves_mono _ (Moment.behaves_may t)
  intro moments result quiet
  unfold commandsGiven
  rw [List.flatMap_eq_nil_iff]
  intro moment member
  rw [List.filterMap_eq_nil_iff]
  intro entry listed
  have allowed := (quiet moment member entry listed).2
  rcases entry with ⟨_,_ | _ | ⟨_,_ | _,_⟩ | _⟩
  · rfl
  · rfl
  · rfl
  · cases allowed
  · rfl

-- A fail-safe stop that returns has given the device one command, the stop targets, and
-- over the bridge that command stops the machine under the condition and only then.
def StopsOverBridge (fromTimestampMillis : Int → Option Instant) (config : JsonBridgeConfig)
    (call : Env → JsonBridgeCall) (safety : SafetyConfig) (moments : Moments) (result : Except AppError Unit) : Prop :=
  result = .ok () → ∃ env command, commandsGiven moments = [(env,command)] ∧
    command.targets = processStopTargets safety ∧
    ∀ state, (call env).state = .ok state →
      validateJsonBridgeState fromTimestampMillis config (call env).now state = .ok () →
      (((JsonBridgeDevice.writeTargets fromTimestampMillis config (call env) command).axes
          (state.axes (call env).cache)).Stopped (processStopTargets safety).stirrerRpm ↔
        StopsInOneCall config (call env) state command)

variable {me : TaskId} {call : Env → JsonBridgeCall} {safety : SafetyConfig}

theorem stopsOverBridge_of {moments : Moments} {result : Except AppError Unit} {env : Env} {reason : String}
    (given : result = .ok () → commandsGiven moments = [(env,safeCommandFromRuntimeTargets (processStopTargets safety) reason)]) :
    StopsOverBridge fromTimestampMillis config call safety moments result := by
  intro returned
  refine ⟨env,_,given returned,rfl,?_⟩
  intro state read valid
  have still : (safeCommandFromRuntimeTargets (processStopTargets safety) reason).targetShakeSpeedCpm ≤ 1/100 := by
    change (0 : ℚ) ≤ 1/100
    norm_num
  exact writeTargets_axes still read valid

theorem stopProcessOnDevice_bridge :
    (stopProcessOnDevice (processStopTargets safety) : Handler Event.work me AppError Unit).behaves
      (StopsOverBridge fromTimestampMillis config call safety) := by
  unfold stopProcessOnDevice writeTargets
  rw [behaves_catching,behaves_locked]
  intro e w
  cases answered : e.device with
  | ok _ =>
      simp only [run_bind,run_answer,chain_ok,run_record,answered,run_ofExcept]
      apply stopsOverBridge_of
      intro _
      rw [commandsGiven_emit]
  | error err =>
      simp only [run_bind,run_answer,chain_ok,run_record,answered,run_ofExcept]
      apply behaves_mono _ (fails_after fun _ => fails_throw _)
      intro moments result fails returned
      exact absurd returned (fails ())

theorem emergencyStop_bridge (actor : AuditActor) :
    (emergencyStop safety actor : Handler Event.work me AppError Unit).behaves
      (StopsOverBridge fromTimestampMillis config call safety) := by
  unfold emergencyStop writeTargetsWithin
  rw [behaves_bind,behaves_locked]
  intro e w
  simp only [run_change]
  rw [behaves_bind,behaves_locked]
  intro env world
  simp only [run_bind,run_answer,chain_ok,run_record,run_pure]
  cases inTime : env.deviceInTime with
  | false =>
      apply behaves_mono _ (fails_after fun _ => fails_after fun _ => fails_throw _)
      intro moments result fails returned
      exact absurd returned (fails ())
  | true =>
      simp only [if_pos]
      rw [behaves_catching]
      apply behaves_mono _ (behaves_within.mpr (quiet_commands _))
      intro audited result silent
      cases result with
      | ok value =>
          apply @stopsOverBridge_of _ _ _ _ _ _ env "emergency stop fail-safe targets"
          intro _
          simp only [commandsGiven_append,commandsGiven_emit,silent]
          rfl
      | error err =>
          apply behaves_mono _ (fails_after fun _ => fails_throw _)
          intro moments result fails returned
          exact absurd returned (fails ())

theorem bridge_stop_complete_iff (fromTimestampMillis : Int → Option Instant) (config : JsonBridgeConfig)
    (call : Env → JsonBridgeCall) (safety : SafetyConfig) (actor : AuditActor) :
    (stopProcessOnDevice (processStopTargets safety) : Handler Event.work me AppError Unit).behaves
      (StopsOverBridge fromTimestampMillis config call safety) ∧
    (emergencyStop safety actor : Handler Event.work me AppError Unit).behaves
      (StopsOverBridge fromTimestampMillis config call safety) :=
  ⟨stopProcessOnDevice_bridge,emergencyStop_bridge actor⟩

def busyState : JsonBridgeState where
  connected := true
  lastSeenMs := 0
  lastFrameOk := true
  relay := some 1
  motor := some 1
  stirrerRpm := some 300

def busyCall : JsonBridgeCall := ⟨0,1,.ok busyState,⟨none,none⟩,.replaced⟩

def stopWrite : JsonBridgeWrite Unit :=
  JsonBridgeDevice.writeTargets (fun ms => some (ms*1000000)) .default busyCall
    (safeCommandFromRuntimeTargets (processStopTargets .shipped) "process stop target write")

-- The motor is switched off, and the heater stays on under a stop that has returned.
theorem stop_leaves_heater_on :
    ((stopProcessOnDevice (processStopTargets .shipped) : Handler Event.work 0 AppError Unit).drive
      (fun _ => {Env.healthy with device := stopWrite.result}) ⟨Site.shipped.startUp,[]⟩).1 = .ok () ∧
    stopWrite.commanded.map (·.command) = some "motor" ∧
    ¬(stopWrite.axes (busyState.axes busyCall.cache)).Stopped (processStopTargets .shipped).stirrerRpm := by
  refine ⟨by decide +kernel,by decide +kernel,?_⟩
  intro stopped
  have off := stopped.relay
  revert off
  decide +kernel

end ReactorOS
