import ReactorOS.Operator
namespace ReactorOS
open Concurrency Journal
variable {me : TaskId}

inductive ComponentValue where
  | null
  | number (value : ℚ)
  | other

structure ComponentActionCapability where
  action : String
  valueType : String
  min : Option ℚ
  max : Option ℚ

-- What the configured device says it can be asked to do.
structure DeviceComponentCapability where
  componentId : String
  controllable : Bool
  actions : List ComponentActionCapability

structure ComponentControlRequest where
  action : String
  value : Option ComponentValue := none
  reason : Option (Option String) := none

structure ComponentControlCommand where
  componentId : String
  action : String
  value : Option ComponentValue

def componentControlRequiresProvenSafeField (action : String) : Bool := action != "stop" && action != "off"

def componentControlReason (payload : ComponentControlRequest) (requiresProvenSafeField : Bool) :
    Except AppError (Option String) :=
  match payload.reason with
  | some (some reason) => .ok (some reason)
  | some none => if requiresProvenSafeField then .error (.badRequest "reason must not be null") else .ok none
  | none => .ok none

def componentControlCommandValue (action : ComponentActionCapability) (payload : ComponentControlRequest) :
    Option ComponentValue :=
  match payload.value with
  | some .null => if action.valueType = "none" then none else payload.value
  | value => value

def validateComponentControlPayload (action : ComponentActionCapability) (payload : ComponentControlRequest) :
    Except AppError Unit := do
  if action.valueType = "none" then
    if (componentControlCommandValue action payload).isSome then
      throw (.badRequest s!"component action {action.action} does not accept a value")
  else if action.valueType = "number" then
    match payload.value with
    | none => throw (.badRequest s!"component action {action.action} requires value")
    | some (.number number) => do
        if let some min := action.min then
          if number < min then
            throw (.badRequest s!"component action {action.action} value must be >= {display min}")
        if let some max := action.max then
          if max < number then
            throw (.badRequest s!"component action {action.action} value must be <= {display max}")
    | some _ => throw (.badRequest s!"component action {action.action} value must be a number")
  else throw (.badRequest s!"component action {action.action} has unsupported value type {action.valueType}")

def componentNumberInRange (command : ComponentControlCommand) (field : String) (min max : ℚ) :
    Except Failure ℚ :=
  match command.value with
  | none => .error ⟨s!"component control action {command.action} requires {field}",[]⟩
  | some (.number number) =>
      if number < min ∨ max < number then
        .error ⟨s!"component control {field} must be between {display min} and {display max}",[]⟩
      else .ok number
  | some _ => .error ⟨s!"component control {field} must be a number",[]⟩

def targetsForComponent (command : ComponentControlCommand) (current : ControlTargets) (safety : SafetyConfig) :
    Except Failure ControlTargets := do
  let next ← match command.componentId,command.action with
    | "temperature_controller","set_target_temperature" => do
        let value ← componentNumberInRange command "value" safety.temperature.minC safety.temperature.maxC
        pure {current with temperatureC := value}
    | "stirrer_motor","set_rpm" => do
        let value ← componentNumberInRange command "value" safety.stirrer.minRpm safety.stirrer.maxRpm
        pure {current with stirrerRpm := value}
    | "shake_stepper","set_speed" => do
        let value ← componentNumberInRange command "value" 0 60
        pure {current with shakeSpeedCpm := value}
    | "shake_stepper","start" =>
        pure (if current.shakeSpeedCpm ≤ 1/100 then {current with shakeSpeedCpm := 30} else current)
    | "shake_stepper","stop" => pure {current with shakeSpeedCpm := 0}
    | componentId,action => throw ⟨s!"unsupported component control {componentId}:{action}",[]⟩
  return next.round2

-- The device takes a component command in its own way; what target set it wrote, if
-- any, comes back with the outcome.
def writeComponent : Handler Event.work me Failure (Option ComponentControlOutcome) :=
  locked (do
    let env ← answer
    record (.commanded .component (match env.component with
      | .ok (some outcome) => outcome.targets
      | _ => none) env.component.isOk) rfl
    .ofExcept env.component)

structure ComponentControlResponse where
  deviceId : String
  component : DeviceComponentCapability
  outcome : Option ComponentControlOutcome

-- An action that may move the field: the latches are acknowledged and the field
-- proven safe before the device is touched.
def proveComponentField (safety : SafetyConfig) (command : ComponentControlCommand) :
    Handler Event.work me AppError RuntimeState := do
  let runtime ← locked disableAutoAndAcknowledge
  timed fun now => ensureTargetUpdateInterlockClear safety now runtime .componentControl
  locked (ensurePersistedBatchStateConsistent runtime .componentControl)
  timed fun now => match runtime.deviceStatus.bind fun status =>
      deviceStatusFieldFaultReason now status safety.control.sensorTimeoutMs with
    | some reason => .error (.serviceUnavailable s!"device status is not healthy; component control blocked: {reason}")
    | none => .ok ()
  let pair ← Task.ofExcept ((targetsForComponent command runtime.targets safety).mapError .internal)
  Task.ofExcept (validateTargetPairAllowed safety pair.temperatureC pair.stirrerRpm)
  return runtime

def commitComponentOutcome (safety : SafetyConfig) (requiresProvenSafeField : Bool) (runtime : RuntimeState)
    (written : Option SafeCommand) : Handler Event.work me AppError Unit :=
  match written with
  | none => return ()
  | some targets =>
      catching (commitComponentTargetsAfterFinalInterlock safety targets requiresProvenSafeField
          (if requiresProvenSafeField then some runtime.targets else none)
          (if requiresProvenSafeField then some (.fromRuntime runtime) else none)) fun err => do
        within (latchTailFailureAfterDeviceAction "component control final interlock" err.message)
        throw err

def deliverComponent (safety : SafetyConfig) (requiresProvenSafeField : Bool) (runtime : RuntimeState)
    (auditReason eventType : String) (actor : AuditActor) :
    Handler Event.work me AppError (Option ComponentControlOutcome) := do
  let outcome ← catching writeComponent fun err => do
    within (latchControlWriteFault err)
    throw (.internal err)
  let written := outcome.bind (·.targets)
  let auditCommand := written.getD (safeCommandFromRuntimeTargets runtime.targets auditReason)
  catching (within (insertControlEventSqlx runtime.activeBatchId eventType (some auditCommand) auditReason actor))
    fun err => do
      within (latchControlFault s!"component control audit failed after device action: {err.message}")
      throw (.internal err)
  commitComponentOutcome safety requiresProvenSafeField runtime written
  return outcome

def componentAction (capabilities : List DeviceComponentCapability) (componentId : String)
    (payload : ComponentControlRequest) : Except AppError (DeviceComponentCapability × ComponentActionCapability) :=
  match capabilities.find? fun component => component.componentId == componentId with
  | none => .error (.notFound "component not found")
  | some component =>
      if !component.controllable then .error (.badRequest "component is not controllable")
      else match component.actions.find? fun action => action.action == payload.action with
        | none => .error (.badRequest "component action is not supported")
        | some action => .ok (component,action)

def executeComponentControl (safety : SafetyConfig) (capabilities : List DeviceComponentCapability)
    (deviceId componentId : String) (payload : ComponentControlRequest) (eventType : String) (actor : AuditActor) :
    Handler Event.work me AppError ComponentControlResponse := do
  Task.ofExcept (ensureReactorDeviceId deviceId)
  let seen ← locked runtimeState
  let (component,action) ← Task.ofExcept (componentAction capabilities componentId payload)
  let requiresProvenSafeField := componentControlRequiresProvenSafeField payload.action
  Task.ofExcept (validateComponentControlPayload action payload)
  let operatorReason ← Task.ofExcept (componentControlReason payload requiresProvenSafeField)
  let command : ComponentControlCommand := ⟨componentId,payload.action,componentControlCommandValue action payload⟩
  let auditReason := cleanLabel operatorReason s!"operator component control {componentId}:{payload.action}" 240
  let runtime ← if requiresProvenSafeField then proveComponentField safety command else pure seen
  let outcome ← deliverComponent safety requiresProvenSafeField runtime auditReason eventType actor
  return ⟨deviceId,component,outcome⟩

end ReactorOS
