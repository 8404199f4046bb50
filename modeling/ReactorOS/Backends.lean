import ReactorOS.JsonBridge
namespace ReactorOS

def componentCapability (componentId : String) (actions : List ComponentActionCapability) : DeviceComponentCapability :=
  ⟨componentId,!actions.isEmpty,actions⟩

def enumAction (action : String) : ComponentActionCapability := ⟨action,"none",none,none⟩

def numericAction (action : String) (min max : ℚ) : ComponentActionCapability := ⟨action,"number",some min,some max⟩

-- The device of an installation: what `build_device` makes of the device mode.
inductive Device where
  | pipeline | modbus | esp32Serial | jsonBridge (config : JsonBridgeConfig) | simulation

def setTargetTemperature : DeviceComponentCapability :=
  componentCapability "temperature_controller" [numericAction "set_target_temperature" 0 500]

def setRpm : DeviceComponentCapability := componentCapability "stirrer_motor" [numericAction "set_rpm" 0 2000]

def Device.controlCapabilities : Device → List DeviceComponentCapability
  | .pipeline => []
  | .modbus => [setTargetTemperature,setRpm]
  | .esp32Serial => [setTargetTemperature,setRpm,
      componentCapability "shake_stepper" [enumAction "start",enumAction "stop",numericAction "set_speed" 0 60]]
  | .jsonBridge config =>
      [componentCapability "shake_stepper" [enumAction "start",enumAction "stop",enumAction "speed_up",
        enumAction "speed_down",numericAction "set_speed" 0 60],
       componentCapability "heater_relay" [enumAction "on",enumAction "off"],
       setRpm] ++ (if config.relayTemperatureControl then [setTargetTemperature] else [])
  | .simulation => []

-- What one call of a device finds: how a serial line or a bus takes the command, and the bridge.
structure DeviceCall where
  line : Except Failure Unit
  bridge : JsonBridgeCall

-- What a component write comes to: its result and what it sends, be it a whole target set
-- or a single control.
structure ComponentWrite where
  result : Except Failure (Option ComponentControlOutcome)
  command : Option SafeCommand
  control : Option JsonBridgeControl

def safeCommandFromTargets (targets : ControlTargets) (reason : String) : SafeCommand :=
  safeCommandFromRuntimeTargets targets reason

-- Modbus and ESP32: the component's change is written as part of the whole target set.
def writeWholeTargets (line : Except Failure Unit) (message : String) (command : ComponentControlCommand)
    (targets : ControlTargets) (safety : SafetyConfig) : ComponentWrite :=
  match targetsForComponent command targets safety with
  | .error error => ⟨.error error,none,none⟩
  | .ok nextTargets =>
      let safe := safeCommandFromTargets nextTargets "manual component control"
      ⟨line.map fun _ => some ⟨command.componentId,command.action,some safe,message⟩,some safe,none⟩

section Bridge
variable (fromTimestampMillis : Int → Option Instant)

def jsonBridgeDirectComponentControl (config : JsonBridgeConfig) (call : JsonBridgeCall)
    (request : ComponentControlCommand) : Option JsonBridgeControl :=
  let control := fun (command : String) (value : BridgeValue) =>
    some (buildJsonBridgeControl config.requestIdPrefix call.now call.sequence command (some value) (some request.componentId))
  match request.componentId,request.action with
  | "shake_stepper","start" => control "motor" (.integer 1)
  | "shake_stepper","stop" => control "motor" (.integer 0)
  | "shake_stepper","speed_up" => control "speed" (.text "up")
  | "shake_stepper","speed_down" => control "speed" (.text "down")
  | "heater_relay","on" => control "relay" (.integer 1)
  | "heater_relay","off" => control "relay" (.integer 0)
  | _,_ => none

def jsonBridgeDirectControlIsRiskReducing (request : ComponentControlCommand) : Bool :=
  match request.componentId,request.action with
  | "shake_stepper","stop" => true
  | "heater_relay","off" => true
  | _,_ => false

structure JsonBridgePendingComponentOutcome where
  response : ComponentControlOutcome
  command : Option JsonBridgeControl
  cacheUpdate : JsonBridgePendingCacheUpdate

def jsonBridgeComponentControlOutcomeWithoutState (config : JsonBridgeConfig) (call : JsonBridgeCall)
    (request : ComponentControlCommand) : Except Failure JsonBridgePendingComponentOutcome :=
  match jsonBridgeDirectComponentControl config call request with
  | none => .error ⟨s!"component control {request.componentId}:{request.action} requires valid json bridge state",[]⟩
  | some control => .ok ⟨⟨request.componentId,request.action,none,
      "risk-reducing component command written to json bridge control.json"⟩,some control,{}⟩

def jsonBridgeStirrerComponentOutcome (config : JsonBridgeConfig) (call : JsonBridgeCall) (state : JsonBridgeState)
    (request : ComponentControlCommand) (targets : ControlTargets) (safety : SafetyConfig) :
    Except Failure JsonBridgePendingComponentOutcome := do
  let nextTargets ← targetsForComponent request targets safety
  let safe := safeCommandFromTargets nextTargets "manual component control"
  let rpm := safe.targetStirrerRpm
  if (state.currentStirrer call.cache).any fun current => |rpm-current| ≤ 1/100 then
    return ⟨⟨request.componentId,request.action,some safe,"stirrer target already matches json bridge state"⟩,none,{}⟩
  else return ⟨⟨request.componentId,request.action,some safe,"stirrer RPM written to json bridge control.json"⟩,
    some (buildJsonBridgeControl config.requestIdPrefix call.now call.sequence "stir_speed" (some (.number rpm))
      (some "stirrer_motor")),{stirrerRpm := some rpm}⟩

def jsonBridgeTargetComponentOutcome (config : JsonBridgeConfig) (call : JsonBridgeCall) (state : JsonBridgeState)
    (request : ComponentControlCommand) (targets : ControlTargets) (safety : SafetyConfig) :
    Except Failure JsonBridgePendingComponentOutcome := do
  let nextTargets ← targetsForComponent request targets safety
  let safe := safeCommandFromTargets nextTargets "manual component control"
  match ← nextJsonBridgeControl fromTimestampMillis config call.now call.sequence call.cache state safe with
  | none => return ⟨⟨request.componentId,request.action,some safe,
      "component target already inside json bridge deadband"⟩,none,{}⟩
  | some pending => return ⟨⟨request.componentId,request.action,some safe,
      "component target translated to json bridge command"⟩,some pending.control,pending.cacheUpdate⟩

def jsonBridgeComponentControlOutcome (config : JsonBridgeConfig) (call : JsonBridgeCall) (state : JsonBridgeState)
    (request : ComponentControlCommand) (targets : ControlTargets) (safety : SafetyConfig) :
    Except Failure JsonBridgePendingComponentOutcome :=
  match jsonBridgeDirectComponentControl config call request with
  | some control => .ok ⟨⟨request.componentId,request.action,none,
      "component command written to json bridge control.json"⟩,some control,{}⟩
  | none => match request.componentId,request.action with
    | "stirrer_motor","set_rpm" => jsonBridgeStirrerComponentOutcome config call state request targets safety
    | "shake_stepper","set_speed" =>
        jsonBridgeTargetComponentOutcome fromTimestampMillis config call state request targets safety
    | "temperature_controller","set_target_temperature" =>
        jsonBridgeTargetComponentOutcome fromTimestampMillis config call state request targets safety
    | componentId,action => .error ⟨s!"unsupported component control {componentId}:{action} for json bridge",[]⟩

def JsonBridgeDevice.writeComponent (config : JsonBridgeConfig) (call : JsonBridgeCall)
    (request : ComponentControlCommand) (targets : ControlTargets) (safety : SafetyConfig) :
    JsonBridgeWrite ComponentControlOutcome :=
  let outcome := if jsonBridgeDirectControlIsRiskReducing request then
      jsonBridgeComponentControlOutcomeWithoutState config call request
    else do
      let state ← call.state
      validateJsonBridgeState fromTimestampMillis config call.now state
      jsonBridgeComponentControlOutcome fromTimestampMillis config call state request targets safety
  match outcome with
  | .error error => ⟨.error error,none,call.cache⟩
  | .ok outcome => match outcome.command with
    | none => ⟨.ok outcome.response,none,call.cache⟩
    | some control => writeJsonBridgeControl call control outcome.cacheUpdate outcome.response

def Device.writeComponent (device : Device) (call : DeviceCall) (command : ComponentControlCommand)
    (targets : ControlTargets) (safety : SafetyConfig) : ComponentWrite :=
  match device with
  | .pipeline => ⟨.error ⟨"component control is not supported by this device mode",[]⟩,none,none⟩
  | .modbus => writeWholeTargets call.line "component target written through Modbus RTU" command targets safety
  | .esp32Serial =>
      writeWholeTargets call.line "component target written through ESP32 serial" command targets safety
  | .jsonBridge config =>
      let write := JsonBridgeDevice.writeComponent fromTimestampMillis config call.bridge command targets safety
      ⟨write.result.map some,none,write.commanded⟩
  | .simulation => ⟨.error ⟨"virtual sensor device does not support component control",[]⟩,none,none⟩

end Bridge
end ReactorOS
