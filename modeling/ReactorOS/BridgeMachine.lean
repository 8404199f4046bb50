import ReactorOS.Backends
import ReactorOS.BridgeConvergence
import ReactorOS.Concurrency.Mailbox
namespace ReactorOS
open Wire Concurrency

-- What the bridge works on: the outputs it switches, and the targets that its machine approaches.
structure BridgeMachine where
  motor : Nat := 1
  relay : Nat := 0
  targetShakeSpeedCpm : ℚ := 30
  stirrerRpm : ℚ := 300

structure CommandResult where
  ok : Bool
  error : Option String
  deriving DecidableEq

-- Whether JavaScript takes a JSON value for true.
def truthy : Option BridgeValue → Bool
  | none => false
  | some (.integer value) => value ≠ 0
  | some (.number value) => value ≠ 0
  | some (.text value) => value ≠ ""

section Reader
-- What `Number` makes of a text, where that is finite.
variable (numberOf : String → Option ℚ)

-- Without a value there is `undefined`, which is no number.
def finiteNumber : Option BridgeValue → Option ℚ
  | none => none
  | some (.integer value) => some value
  | some (.number value) => some value
  | some (.text value) => numberOf value

def speedMoved (delta : ℚ) (device : BridgeMachine) : BridgeMachine :=
  let target := clamp (device.targetShakeSpeedCpm+delta) 0 60
  {device with targetShakeSpeedCpm := target,motor := if 0 < target then 1 else 0}

def applyControl (control : JsonBridgeControl) (device : BridgeMachine) : Except String BridgeMachine :=
  if control.command = "motor" then
    let device := {device with motor := if truthy control.value then 1 else 0}
    .ok (if device.motor = 1 ∧ device.targetShakeSpeedCpm ≤ 1/100 then {device with targetShakeSpeedCpm := 30} else device)
  else if control.command = "speed" ∧ control.value = some (.text "up") then .ok (speedMoved 5 device)
  else if control.command = "speed" ∧ control.value = some (.text "down") then .ok (speedMoved (-5) device)
  else if control.command = "relay" then .ok {device with relay := if truthy control.value then 1 else 0}
  else if control.command = "stir_speed" then
    match finiteNumber numberOf control.value with
    | none => .error "stir_speed command value must be a finite number"
    | some rpm => .ok {device with stirrerRpm := clamp rpm 0 2000}
  else .error s!"unsupported command {control.command}"

-- `applyControl` and what is noted of it, an error by `applyControlError`.
def carryOut (control : JsonBridgeControl) (device : BridgeMachine) : CommandResult × BridgeMachine :=
  match applyControl numberOf control device with
  | .ok device => (⟨true,none⟩,device)
  | .error message => (⟨false,some message⟩,device)

-- `control.json` and `state.json`, with the bridge between them.
abbrev BridgeBox := Mailbox JsonBridgeControl String BridgeMachine CommandResult

-- A control without an id, or with the one that was processed last, is passed over.
def consumeJsonBridgeControl (box : BridgeBox) : BridgeBox :=
  match box.slot with
  | none => box
  | some control =>
      if control.requestId = "" ∨ box.last = some control.requestId then box
      else box.serving JsonBridgeControl.requestId (carryOut numberOf) control

theorem consume_look {box : BridgeBox} (named : ∀ control, box.slot = some control → control.requestId ≠ "") :
    consumeJsonBridgeControl numberOf box = box.look JsonBridgeControl.requestId (carryOut numberOf) := by
  unfold consumeJsonBridgeControl Mailbox.look
  cases slot : box.slot with
  | none => rfl
  | some control => simp only [named control slot,false_or]

end Reader

-- What a poll reads of `state.json`.
def stateReply (board : Option (String × CommandResult)) : JsonBridgeReply where
  lastCommandRequestId := board.map Prod.fst
  lastCommandOk := board.map (·.2.ok)
  lastCommandError := board.bind (·.2.error)

-- One poll decides, or leaves it to the ones after it.
theorem awaitEcho_cons (requestId : String) (reply : Except Failure JsonBridgeReply)
    (rest : List (Except Failure JsonBridgeReply)) : awaitEcho requestId (reply :: rest) =
      if awaitEcho requestId [reply] = .timeout then awaitEcho requestId rest else awaitEcho requestId [reply] := by
  cases reply with
  | error err => rfl
  | ok reply =>
      by_cases own : reply.lastCommandRequestId = some requestId
      · rcases ok : reply.lastCommandOk with _ | _ | _ <;> simp [awaitEcho,own,ok]
      · simp [awaitEcho,own]

theorem echo_of {requestId : String} {board : Option (String × CommandResult)}
    (decided : awaitEcho requestId [.ok (stateReply board)] ≠ .timeout) : ∃ result, board = some (requestId,result) ∧
      (awaitEcho requestId [.ok (stateReply board)] = .confirmed ↔ result.ok = true) := by
  cases board with
  | none => exact absurd rfl decided
  | some shown =>
      obtain ⟨id,ok,error⟩ := shown
      by_cases own : id = requestId
      · subst own
        refine ⟨_,rfl,?_⟩
        cases ok <;> simp [awaitEcho,stateReply]
      · exact absurd (by simp [awaitEcho,stateReply,own]) decided

-- The controls that a call of the device can write.
section Built
variable (fromTimestampMillis : Int → Option Instant) (config : JsonBridgeConfig)

inductive Built (call : JsonBridgeCall) : JsonBridgeControl → Prop where
  | targets {command : SafeCommand} {control : JsonBridgeControl} :
      (JsonBridgeDevice.writeTargets fromTimestampMillis config call command).commanded = some control → Built call control
  | component {request : ComponentControlCommand} {targets : ControlTargets} {safety : SafetyConfig}
      {control : JsonBridgeControl} :
      (JsonBridgeDevice.writeComponent fromTimestampMillis config call request targets safety).commanded = some control →
      Built call control

-- The commands there are, each with a value of its own kind.
inductive Understood : String → Option BridgeValue → Prop where
  | motor (value : Nat) : Understood "motor" (some (.integer value))
  | up : Understood "speed" (some (.text "up"))
  | down : Understood "speed" (some (.text "down"))
  | relay (value : Nat) : Understood "relay" (some (.integer value))
  | stirSpeed (rpm : ℚ) : Understood "stir_speed" (some (.number rpm))

-- The ids of the device's own requests and of the control loop's are of this shape.
def requestIdAt (stem : String) (millis : Int) (number : Nat) : String := s!"{stem}-{millis}-{number}"

-- A control is understood, and has the id that its call gives it.
structure WellBuilt (call : JsonBridgeCall) (control : JsonBridgeControl) : Prop where
  understood : Understood control.command control.value
  requestId : control.requestId = requestIdAt config.requestIdPrefix (call.now / 1000000) call.sequence

variable {fromTimestampMillis config} {call : JsonBridgeCall} {control : JsonBridgeControl}

theorem wellBuilt {command : String} {value : BridgeValue} (name : Option String) (understood : Understood command (some value)) :
    WellBuilt config call (buildJsonBridgeControl config.requestIdPrefix call.now call.sequence command (some value) name) :=
  ⟨understood,rfl⟩

theorem next_wellBuilt {state : JsonBridgeState} {command : SafeCommand} {pending : JsonBridgePendingControl}
    (next : nextJsonBridgeControl fromTimestampMillis config call.now call.sequence call.cache state command =
      .ok (some pending)) : WellBuilt config call pending.control := by
  have valid : validateJsonBridgeState fromTimestampMillis config call.now state = .ok () := by
    obtain ⟨_,checked,_⟩ := bind_ok next
    cases valid : validateJsonBridgeState fromTimestampMillis config call.now state with
    | ok => rfl
    | error err => simp [valid,Except.mapError] at checked
  by_cases stop : command.targetShakeSpeedCpm ≤ 1/100 ∧ state.motorBit ≠ 0
  · rw [next_motor_off valid stop.1 stop.2] at next
    cases next
    exact wellBuilt _ (.motor 0)
  by_cases start : 1/100 < command.targetShakeSpeedCpm ∧ state.motorBit = 0
  · rw [next_motor_on valid start.1 start.2] at next
    cases next
    exact wellBuilt _ (.motor 1)
  have agrees : MotorAgrees state command := by
    constructor
    · intro stopped
      by_contra runs
      exact stop ⟨stopped,runs⟩
    · intro still
      by_contra shakes
      exact start ⟨not_le.mp shakes,still⟩
  by_cases far : config.speedDeadbandCpm < |command.targetShakeSpeedCpm-state.currentSpeed config call.cache|
  · rw [next_speed valid agrees far] at next
    cases next
    refine wellBuilt _ ?_
    split
    · exact .up
    · exact .down
  · rw [next_rest valid agrees far] at next
    split at next
    case h_1 => cases next
    case h_2 desired _ =>
      cases next
      exact wellBuilt _ (.relay desired)
    case h_3 =>
      split at next
      · cases next
        exact wellBuilt _ (.stirSpeed _)
      · cases next

theorem direct_wellBuilt {request : ComponentControlCommand}
    (direct : jsonBridgeDirectComponentControl config call request = some control) : WellBuilt config call control := by
  unfold jsonBridgeDirectComponentControl at direct
  split at direct
  case h_1 => cases direct; exact wellBuilt _ (.motor 1)
  case h_2 => cases direct; exact wellBuilt _ (.motor 0)
  case h_3 => cases direct; exact wellBuilt _ .up
  case h_4 => cases direct; exact wellBuilt _ .down
  case h_5 => cases direct; exact wellBuilt _ (.relay 1)
  case h_6 => cases direct; exact wellBuilt _ (.relay 0)
  case h_7 => cases direct

theorem stirrer_wellBuilt {state : JsonBridgeState} {request : ComponentControlCommand} {targets : ControlTargets}
    {safety : SafetyConfig} {outcome : JsonBridgePendingComponentOutcome}
    (decided : jsonBridgeStirrerComponentOutcome config call state request targets safety = .ok outcome)
    (commanded : outcome.command = some control) : WellBuilt config call control := by
  obtain ⟨_,_,decided⟩ := bind_ok decided
  dsimp only at decided
  split at decided
  · cases decided
    cases commanded
  · cases decided
    cases commanded
    exact wellBuilt _ (.stirSpeed _)

theorem target_wellBuilt {state : JsonBridgeState} {request : ComponentControlCommand} {targets : ControlTargets}
    {safety : SafetyConfig} {outcome : JsonBridgePendingComponentOutcome}
    (decided : jsonBridgeTargetComponentOutcome fromTimestampMillis config call state request targets safety = .ok outcome)
    (commanded : outcome.command = some control) : WellBuilt config call control := by
  obtain ⟨_,_,decided⟩ := bind_ok decided
  obtain ⟨next,found,decided⟩ := bind_ok decided
  cases next with
  | none =>
      cases decided
      cases commanded
  | some pending =>
      cases decided
      cases commanded
      exact next_wellBuilt found

theorem outcome_wellBuilt {state : JsonBridgeState} {request : ComponentControlCommand} {targets : ControlTargets}
    {safety : SafetyConfig} {outcome : JsonBridgePendingComponentOutcome}
    (decided : jsonBridgeComponentControlOutcome fromTimestampMillis config call state request targets safety = .ok outcome)
    (commanded : outcome.command = some control) : WellBuilt config call control := by
  unfold jsonBridgeComponentControlOutcome at decided
  split at decided
  case h_1 direct =>
    cases decided
    cases commanded
    exact direct_wellBuilt direct
  case h_2 =>
    split at decided
    case h_1 => exact stirrer_wellBuilt decided commanded
    case h_2 => exact target_wellBuilt decided commanded
    case h_3 => exact target_wellBuilt decided commanded
    case h_4 => cases decided

theorem stateless_wellBuilt {request : ComponentControlCommand} {outcome : JsonBridgePendingComponentOutcome}
    (decided : jsonBridgeComponentControlOutcomeWithoutState config call request = .ok outcome)
    (commanded : outcome.command = some control) : WellBuilt config call control := by
  unfold jsonBridgeComponentControlOutcomeWithoutState at decided
  split at decided
  · cases decided
  · rename_i direct
    cases decided
    cases commanded
    exact direct_wellBuilt direct

theorem written_commanded {α : Type} {call : JsonBridgeCall} {control written : JsonBridgeControl}
    {update : JsonBridgePendingCacheUpdate} {value : α}
    (commanded : (writeJsonBridgeControl call control update value).commanded = some written) : control = written := by
  unfold writeJsonBridgeControl at commanded
  split at commanded <;> cases commanded <;> rfl

theorem component_wellBuilt {request : ComponentControlCommand} {targets : ControlTargets} {safety : SafetyConfig}
    (commanded : (JsonBridgeDevice.writeComponent fromTimestampMillis config call request targets safety).commanded =
      some control) : WellBuilt config call control := by
  unfold JsonBridgeDevice.writeComponent at commanded
  dsimp only at commanded
  split at commanded
  · cases commanded
  · rename_i outcome decided
    split at commanded
    · cases commanded
    · rename_i written command
      cases written_commanded commanded
      split at decided
      · exact stateless_wellBuilt decided command
      · obtain ⟨state,_,decided⟩ := bind_ok decided
        obtain ⟨_,_,decided⟩ := bind_ok decided
        exact outcome_wellBuilt decided command

theorem targets_wellBuilt {command : SafeCommand}
    (commanded : (JsonBridgeDevice.writeTargets fromTimestampMillis config call command).commanded = some control) :
    WellBuilt config call control := by
  unfold JsonBridgeDevice.writeTargets at commanded
  dsimp only at commanded
  split at commanded
  case h_1 => cases commanded
  case h_2 => cases commanded
  case h_3 pending next =>
    cases written_commanded commanded
    obtain ⟨state,_,next⟩ := bind_ok next
    exact next_wellBuilt next

-- The write that is waited for differs by its id.
theorem acknowledged_understood {call : AcknowledgedCall} {command : SafeCommand}
    (commanded : (JsonBridgeDevice.writeTargetsAcknowledged fromTimestampMillis config call command).commanded =
      some control) : Understood control.command control.value ∧ control.requestId = call.requestId := by
  unfold JsonBridgeDevice.writeTargetsAcknowledged at commanded
  dsimp only at commanded
  split at commanded
  case h_1 => cases commanded
  case h_2 => cases commanded
  case h_3 pending next =>
    cases written_commanded commanded
    obtain ⟨state,_,next⟩ := bind_ok next
    exact ⟨(next_wellBuilt next).understood,rfl⟩

theorem Built.wellBuilt (built : Built fromTimestampMillis config call control) : WellBuilt config call control := by
  cases built with
  | targets commanded => exact targets_wellBuilt commanded
  | component commanded => exact component_wellBuilt commanded

end Built

theorem understood_carried (numberOf : String → Option ℚ) {control : JsonBridgeControl}
    (understood : Understood control.command control.value) (device : BridgeMachine) :
    (carryOut numberOf control device).1 = ⟨true,none⟩ := by
  obtain ⟨id,command,value,name⟩ := control
  cases understood with
  | _ => simp [carryOut,applyControl,finiteNumber]

end ReactorOS
