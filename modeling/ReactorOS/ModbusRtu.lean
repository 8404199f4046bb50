import ReactorOS.BridgeConvergence
import ReactorOS.ModbusTcp
import ReactorOS.Rounding
namespace ReactorOS.ModbusRtu
open Wire

-- How a request on the line can fail: the line itself, or an exception of the slave.
inductive LineError where
  | failed (err : String)
  | exception (code : String)
  deriving DecidableEq

def LineError.outcome : LineError → String
  | .failed err => s!"failed: {err}"
  | .exception code => s!"exception: {code}"

-- The slave and the line to it, of which nothing is known but that they answer.
structure Slave (S : Type) where
  readHoldingRegisters : Nat → S → Except LineError (List Nat) × S
  writeSingleRegister : Nat → Nat → S → Except LineError Unit × S

-- A slave that keeps what it is written, over a line that does not fail.
def memory : Slave (Nat → Nat) where
  readHoldingRegisters address held := (.ok [held address],held)
  writeSingleRegister address value held := (.ok (),fun other => if other = address then value else held other)

-- A call of the device, which leaves the slave as it has made it.
def Call (S α : Type) : Type := S → Except Failure α × S

instance {S : Type} : Monad (Call S) where
  pure value := fun s => (.ok value,s)
  bind call next := fun s => match call s with
    | (.ok value,t) => next value t
    | (.error err,t) => (.error err,t)

section Calls
variable {S α β : Type} {s t : S}

theorem call_ok {call : Call S α} {next : α → Call S β} {result : β} :
    (call >>= next) s = (.ok result,t) ↔ ∃ value u, call s = (.ok value,u) ∧ next value u = (.ok result,t) := by
  change (match call s with | (.ok value,t) => next value t | (.error err,t) => (.error err,t)) = _ ↔ _
  cases reached : call s with
  | mk answer u =>
      cases answer with
      | error err => simp
      | ok value => simp

theorem call_done {call : Call S α} {next : α → Call S β} {value : α} (done : call s = (.ok value,t)) :
    (call >>= next) s = next value t := by
  change (match call s with | (.ok value,t) => next value t | (.error err,t) => (.error err,t)) = _
  rw [done]

def settled (result : Except Failure α) : Call S α := fun s => (result,s)

end Calls

section Device
variable {S : Type} (slave : Slave S) (registers : RegistersConfig)

def readHoldingRegister (address : Nat) : Call S Nat := fun s =>
  match slave.readHoldingRegisters address s with
  | (.error err,t) => (.error ⟨s!"modbus RTU read register {address} {err.outcome}",[]⟩,t)
  | (.ok [],t) => (.error ⟨s!"modbus RTU read register {address} returned no data",[]⟩,t)
  | (.ok (word :: _),t) => (.ok word,t)

def writeSingleRegister (address value : Nat) : Call S Unit := fun s =>
  match slave.writeSingleRegister address value s with
  | (.error err,t) => (.error ⟨s!"modbus RTU write register {address} {err.outcome}",[]⟩,t)
  | (.ok (),t) => (.ok (),t)

def encodeWriteRegister (value : ℚ) (register : WriteRegister) : Except Failure Nat :=
  if register.scale = 0 then .error ⟨s!"register {register.address} has zero scale",[]⟩
  else
    let raw := roundHalfAway ((value-register.offset)/register.scale)
    if 0 ≤ raw ∧ raw ≤ 65535 then .ok raw.toNat
    else .error ⟨s!"value {display value} cannot be encoded for register {register.address}",[]⟩

def decodeWriteRegister (raw : Nat) (register : WriteRegister) : ℚ := round2 (raw*register.scale + register.offset)

def decodeReadRegister (raw : Nat) (register : ReadRegister) : Except Failure ℚ :=
  let value := raw*register.scale + register.offset
  if register.minValid ≤ value ∧ value ≤ register.maxValid then .ok (round2 value)
  else .error ⟨s!"register {register.address} value {display value} outside valid range {display register.minValid}..{display register.maxValid}",[]⟩

def temperatureTarget : WriteRegister := registers.write .targetTemperatureC

def stirrerTarget : WriteRegister := registers.write .targetStirrerRpm

def readSample (now : Instant) : Call S SensorSnapshot := do
  let temperatureRaw ← readHoldingRegister slave (registers.read .temperatureC).address
  let stirrerRaw ← readHoldingRegister slave (registers.read .stirrerRpm).address
  let temperatureC ← settled (decodeReadRegister temperatureRaw (registers.read .temperatureC))
  let stirrerRpm ← settled (decodeReadRegister stirrerRaw (registers.read .stirrerRpm))
  return ⟨temperatureC,0,stirrerRpm,0,0,0,0,0,7,now⟩

-- Each word is made out just before it is written.
def writeTargets (command : SafeCommand) : Call S Unit := do
  let temperatureRaw ← settled (encodeWriteRegister command.targetTemperatureC (temperatureTarget registers))
  writeSingleRegister slave (temperatureTarget registers).address temperatureRaw
  let stirrerRaw ← settled (encodeWriteRegister command.targetStirrerRpm (stirrerTarget registers))
  writeSingleRegister slave (stirrerTarget registers).address stirrerRaw

def readBackMismatch (heldTemperature heldStirrer : ℚ) (command : SafeCommand) : String :=
  s!"modbus read-back mismatch: target_temperature_c held {display heldTemperature} sent {display command.targetTemperatureC}, target_stirrer_rpm held {display heldStirrer} sent {display command.targetStirrerRpm}"

-- Both words are made out before either is written.
def writeTargetsAcknowledged (command : SafeCommand) (requestId : String) : Call S CommandAck := do
  let expectedTemperatureRaw ← settled (encodeWriteRegister command.targetTemperatureC (temperatureTarget registers))
  let expectedStirrerRaw ← settled (encodeWriteRegister command.targetStirrerRpm (stirrerTarget registers))
  writeSingleRegister slave (temperatureTarget registers).address expectedTemperatureRaw
  writeSingleRegister slave (stirrerTarget registers).address expectedStirrerRaw
  let heldTemperatureRaw ← readHoldingRegister slave (temperatureTarget registers).address
  let heldStirrerRaw ← readHoldingRegister slave (stirrerTarget registers).address
  let heldTemperature := decodeWriteRegister heldTemperatureRaw (temperatureTarget registers)
  let heldStirrer := decodeWriteRegister heldStirrerRaw (stirrerTarget registers)
  if heldTemperatureRaw ≠ expectedTemperatureRaw ∨ heldStirrerRaw ≠ expectedStirrerRaw then
    return ⟨requestId,.rejected (readBackMismatch heldTemperature heldStirrer command),none⟩
  else return ⟨requestId,.confirmed,some {
    temperatureC := heldTemperature
    heatTimeS := command.heatTimeS
    holdTimeS := command.holdTimeS
    coolTimeS := command.coolTimeS
    stirrerRpm := heldStirrer
    shakeSpeedCpm := command.targetShakeSpeedCpm
    targetPressureMpa := command.targetPressureMpa }⟩

end Device

theorem encodeWriteRegister_ok {value : ℚ} {register : WriteRegister} {raw : Nat} :
    encodeWriteRegister value register = .ok raw ↔
      register.scale ≠ 0 ∧ roundHalfAway ((value-register.offset)/register.scale) = raw ∧ raw ≤ 65535 := by
  unfold encodeWriteRegister
  by_cases zero : register.scale = 0
  · simp [zero]
  · rw [if_neg zero]
    dsimp only
    split
    · rename_i inside
      constructor
      · intro same
        cases same
        exact ⟨zero,by omega,by omega⟩
      · intro ⟨_,same,_⟩
        rw [same]
        rfl
    · rename_i outside
      constructor
      · intro same
        cases same
      · intro ⟨_,same,fits⟩
        exact absurd ⟨by omega,by omega⟩ outside

-- What a written word stands for is half a step and half a hundredth away at most.
theorem decode_near {value : ℚ} {register : WriteRegister} {raw : Nat} (encoded : encodeWriteRegister value register = .ok raw) :
    |decodeWriteRegister raw register - value| ≤ |register.scale|/2 + 1/200 := by
  obtain ⟨scaled,rounds,_⟩ := encodeWriteRegister_ok.mp encoded
  have near := roundHalfAway_near ((value-register.offset)/register.scale)
  rw [rounds] at near
  have step : |(raw:ℚ)*register.scale + register.offset - value| ≤ |register.scale|/2 := by
    have shape : (raw:ℚ)*register.scale + register.offset - value =
        ((raw:ℚ) - (value-register.offset)/register.scale)*register.scale := by
      field_simp
      ring
    rw [shape,abs_mul]
    have size := abs_nonneg register.scale
    have cast : ((raw:Int):ℚ) = (raw:ℚ) := Int.cast_natCast raw
    rw [cast] at near
    nlinarith only [near,size]
  have hundredth := round2_near ((raw:ℚ)*register.scale + register.offset)
  calc |decodeWriteRegister raw register - value|
      = |(round2 ((raw:ℚ)*register.scale + register.offset) - ((raw:ℚ)*register.scale + register.offset)) +
          ((raw:ℚ)*register.scale + register.offset - value)| := by
        rw [decodeWriteRegister]
        congr 1
        ring
    _ ≤ 1/200 + |register.scale|/2 := (abs_add_le _ _).trans (add_le_add hundredth step)
    _ = |register.scale|/2 + 1/200 := add_comm _ _

section Exchange
variable {S : Type} {slave : Slave S} {registers : RegistersConfig} {command : SafeCommand} {requestId : String} {s t : S}

theorem settled_ok {α : Type} {result : Except Failure α} {value : α} :
    settled result s = (.ok value,t) ↔ result = .ok value ∧ s = t := by
  simp [settled]

theorem readHoldingRegister_ok {address word : Nat} : readHoldingRegister slave address s = (.ok word,t) ↔
    ∃ rest, slave.readHoldingRegisters address s = (.ok (word :: rest),t) := by
  unfold readHoldingRegister
  cases reached : slave.readHoldingRegisters address s with
  | mk answer u =>
      rcases answer with err | _ | ⟨first,rest⟩
      · simp
      · simp
      · simp

theorem writeSingleRegister_ok {address value : Nat} {done : Unit} : writeSingleRegister slave address value s = (.ok done,t) ↔
    slave.writeSingleRegister address value s = (.ok (),t) := by
  unfold writeSingleRegister
  cases reached : slave.writeSingleRegister address value s with
  | mk answer u => cases answer <;> simp

-- What goes over the line in a write that comes to an ACK.
structure Exchange (slave : Slave S) (registers : RegistersConfig) (command : SafeCommand) (s t : S)
    (sent held : Nat × Nat) : Prop where
  temperature : encodeWriteRegister command.targetTemperatureC (temperatureTarget registers) = .ok sent.1
  stirrer : encodeWriteRegister command.targetStirrerRpm (stirrerTarget registers) = .ok sent.2
  line : ∃ s₁ s₂ s₃ more rest,
    slave.writeSingleRegister (temperatureTarget registers).address sent.1 s = (.ok (),s₁) ∧
    slave.writeSingleRegister (stirrerTarget registers).address sent.2 s₁ = (.ok (),s₂) ∧
    slave.readHoldingRegisters (temperatureTarget registers).address s₂ = (.ok (held.1 :: more),s₃) ∧
    slave.readHoldingRegisters (stirrerTarget registers).address s₃ = (.ok (held.2 :: rest),t)

def answer (registers : RegistersConfig) (command : SafeCommand) (requestId : String) (sent held : Nat × Nat) : CommandAck :=
  let temperature := decodeWriteRegister held.1 (temperatureTarget registers)
  let stirrer := decodeWriteRegister held.2 (stirrerTarget registers)
  if held.1 ≠ sent.1 ∨ held.2 ≠ sent.2 then ⟨requestId,.rejected (readBackMismatch temperature stirrer command),none⟩
  else ⟨requestId,.confirmed,some ⟨temperature,command.heatTimeS,command.holdTimeS,command.coolTimeS,stirrer,
    command.targetShakeSpeedCpm,command.targetPressureMpa⟩⟩

theorem acknowledged_exchange {ack : CommandAck} :
    writeTargetsAcknowledged slave registers command requestId s = (.ok ack,t) ↔
      ∃ sent held, Exchange slave registers command s t sent held ∧ ack = answer registers command requestId sent held := by
  unfold writeTargetsAcknowledged
  simp only [call_ok,settled_ok,readHoldingRegister_ok,writeSingleRegister_ok]
  constructor
  · intro ⟨sentTemperature,_,⟨temperature,rfl⟩,sentStirrer,_,⟨stirrer,rfl⟩,_,s₁,first,_,s₂,second,
      heldTemperature,s₃,⟨more,third⟩,heldStirrer,s₄,⟨rest,fourth⟩,ended⟩
    refine ⟨(sentTemperature,sentStirrer),(heldTemperature,heldStirrer),?_⟩
    unfold answer
    split at ended
    · rename_i differs
      cases ended
      exact ⟨⟨temperature,stirrer,s₁,s₂,s₃,more,rest,first,second,third,fourth⟩,(if_pos differs).symm⟩
    · rename_i agrees
      cases ended
      exact ⟨⟨temperature,stirrer,s₁,s₂,s₃,more,rest,first,second,third,fourth⟩,(if_neg agrees).symm⟩
  · intro ⟨sent,held,exchange,same⟩
    obtain ⟨s₁,s₂,s₃,more,rest,first,second,third,fourth⟩ := exchange.line
    refine ⟨sent.1,s,⟨exchange.temperature,rfl⟩,sent.2,s,⟨exchange.stirrer,rfl⟩,(),s₁,first,(),s₂,second,
      held.1,s₃,⟨more,third⟩,held.2,t,⟨rest,fourth⟩,?_⟩
    subst same
    unfold answer
    split <;> rfl

theorem answer_confirmed {sent held : Nat × Nat} : (answer registers command requestId sent held).status = .confirmed ↔
    held = sent := by
  unfold answer
  dsimp only
  split
  · rename_i differs
    constructor
    · intro confirmed
      cases confirmed
    · rintro rfl
      simp at differs
  · rename_i agrees
    push Not at agrees
    exact ⟨fun _ => Prod.ext agrees.1 agrees.2,fun _ => rfl⟩

-- An ACK is a confirmation exactly where the slave reads back both words as they were sent,
-- and then it says what they stand for.
theorem modbus_confirmed_iff {ack : CommandAck}
    (acked : writeTargetsAcknowledged slave registers command requestId s = (.ok ack,t)) :
    (ack.status = .confirmed ↔ ∃ words, Exchange slave registers command s t words words) ∧
      ack.requestId = requestId ∧
      (ack.status = .confirmed → ∃ accepted, ack.acceptedTargets = some accepted ∧
        |accepted.temperatureC - command.targetTemperatureC| ≤ |(temperatureTarget registers).scale|/2 + 1/200 ∧
        |accepted.stirrerRpm - command.targetStirrerRpm| ≤ |(stirrerTarget registers).scale|/2 + 1/200 ∧
        accepted.heatTimeS = command.heatTimeS ∧ accepted.holdTimeS = command.holdTimeS ∧
        accepted.coolTimeS = command.coolTimeS ∧ accepted.shakeSpeedCpm = command.targetShakeSpeedCpm ∧
        accepted.targetPressureMpa = command.targetPressureMpa) := by
  obtain ⟨sent,held,exchange,rfl⟩ := acknowledged_exchange.mp acked
  refine ⟨⟨?_,?_⟩,?_,?_⟩
  · intro confirmed
    cases answer_confirmed.mp confirmed
    exact ⟨_,exchange⟩
  · intro ⟨words,other⟩
    have again : writeTargetsAcknowledged slave registers command requestId s =
        (.ok (answer registers command requestId words words),t) := acknowledged_exchange.mpr ⟨words,words,other,rfl⟩
    have same := Except.ok.inj (congrArg Prod.fst (acked.symm.trans again))
    rw [same]
    exact answer_confirmed.mpr rfl
  · unfold answer
    dsimp only
    split <;> rfl
  · intro confirmed
    cases answer_confirmed.mp confirmed
    have same : answer registers command requestId sent sent = ⟨requestId,.confirmed,some
        ⟨decodeWriteRegister sent.1 (temperatureTarget registers),command.heatTimeS,command.holdTimeS,command.coolTimeS,
          decodeWriteRegister sent.2 (stirrerTarget registers),command.targetShakeSpeedCpm,command.targetPressureMpa⟩⟩ := by
      unfold answer
      rw [if_neg (by simp)]
    rw [same]
    exact ⟨_,rfl,decode_near exchange.temperature,decode_near exchange.stirrer,rfl,rfl,rfl,rfl,rfl⟩

end Exchange

section Memory
variable (registers : RegistersConfig) (command : SafeCommand) (requestId : String) (held : Nat → Nat)

def put (register : WriteRegister) (raw : Nat) (held : Nat → Nat) : Nat → Nat :=
  fun other => if other = register.address then raw else held other

variable {registers command} {temperatureRaw stirrerRaw : Nat} {err : Failure}

-- With both words there, the two kinds of write leave the same slave.
theorem memory_written
    (temperature : encodeWriteRegister command.targetTemperatureC (temperatureTarget registers) = .ok temperatureRaw)
    (stirrer : encodeWriteRegister command.targetStirrerRpm (stirrerTarget registers) = .ok stirrerRaw) :
    writeTargets memory registers command held =
        (.ok (),put (stirrerTarget registers) stirrerRaw (put (temperatureTarget registers) temperatureRaw held)) ∧
      ∃ ack, writeTargetsAcknowledged memory registers command requestId held =
          (.ok ack,put (stirrerTarget registers) stirrerRaw (put (temperatureTarget registers) temperatureRaw held)) ∧
        (ack.status = .confirmed ↔
          ((temperatureTarget registers).address = (stirrerTarget registers).address → temperatureRaw = stirrerRaw)) := by
  constructor
  · unfold writeTargets
    rw [temperature,stirrer]
    rfl
  · have exchange : Exchange memory registers command held
        (put (stirrerTarget registers) stirrerRaw (put (temperatureTarget registers) temperatureRaw held))
        (temperatureRaw,stirrerRaw)
        (put (stirrerTarget registers) stirrerRaw (put (temperatureTarget registers) temperatureRaw held)
          (temperatureTarget registers).address,stirrerRaw) :=
      ⟨temperature,stirrer,_,_,_,[],[],rfl,rfl,rfl,congrArg (fun word => (Except.ok [word],_)) (if_pos rfl)⟩
    refine ⟨_,acknowledged_exchange.mpr ⟨_,_,exchange,rfl⟩,?_⟩
    rw [answer_confirmed,Prod.mk.injEq]
    unfold put
    by_cases same : (temperatureTarget registers).address = (stirrerTarget registers).address
    · simp [same,eq_comm]
    · simp [same]

-- A stirrer speed that does not fit: the plain write has set the temperature by then.
theorem memory_stirrer_refused
    (temperature : encodeWriteRegister command.targetTemperatureC (temperatureTarget registers) = .ok temperatureRaw)
    (stirrer : encodeWriteRegister command.targetStirrerRpm (stirrerTarget registers) = .error err) :
    writeTargets memory registers command held = (.error err,put (temperatureTarget registers) temperatureRaw held) ∧
      writeTargetsAcknowledged memory registers command requestId held = (.error err,held) := by
  unfold writeTargets writeTargetsAcknowledged
  rw [temperature,stirrer]
  exact ⟨rfl,rfl⟩

theorem memory_temperature_refused
    (temperature : encodeWriteRegister command.targetTemperatureC (temperatureTarget registers) = .error err) :
    writeTargets memory registers command held = (.error err,held) ∧
      writeTargetsAcknowledged memory registers command requestId held = (.error err,held) := by
  unfold writeTargets writeTargetsAcknowledged
  rw [temperature]
  exact ⟨rfl,rfl⟩

variable (registers command)

-- Over a line that works, an acknowledged write is all or nothing, and confirmed unless the
-- second word has gone over the first; a plain one fails after half of it.
theorem modbus_write_atomic :
    (∃ ack, (writeTargetsAcknowledged memory registers command requestId held).1 = .ok ack ∧
        (writeTargetsAcknowledged memory registers command requestId held).2 = (writeTargets memory registers command held).2 ∧
        (writeTargets memory registers command held).1 = .ok () ∧
        (ack.status = .confirmed ↔ ((temperatureTarget registers).address = (stirrerTarget registers).address →
          encodeWriteRegister command.targetTemperatureC (temperatureTarget registers) =
            encodeWriteRegister command.targetStirrerRpm (stirrerTarget registers)))) ∨
      ∃ err, writeTargetsAcknowledged memory registers command requestId held = (.error err,held) ∧
        (writeTargets memory registers command held).1 = .error err ∧
        ((writeTargets memory registers command held).2 = held ∨ ∃ raw,
          encodeWriteRegister command.targetTemperatureC (temperatureTarget registers) = .ok raw ∧
            (writeTargets memory registers command held).2 = put (temperatureTarget registers) raw held) := by
  cases temperature : encodeWriteRegister command.targetTemperatureC (temperatureTarget registers) with
  | error err =>
      obtain ⟨plain,acknowledged⟩ := memory_temperature_refused requestId held temperature
      rw [plain]
      exact .inr ⟨err,acknowledged,rfl,.inl rfl⟩
  | ok temperatureRaw =>
      cases stirrer : encodeWriteRegister command.targetStirrerRpm (stirrerTarget registers) with
      | error err =>
          obtain ⟨plain,acknowledged⟩ := memory_stirrer_refused requestId held temperature stirrer
          rw [plain]
          exact .inr ⟨err,acknowledged,rfl,.inr ⟨temperatureRaw,rfl,rfl⟩⟩
      | ok stirrerRaw =>
          obtain ⟨plain,ack,acknowledged,confirmed⟩ := memory_written requestId held temperature stirrer
          rw [plain,acknowledged]
          refine .inl ⟨ack,rfl,rfl,rfl,confirmed.trans ?_⟩
          simp

end Memory

def hotterCommand : SafeCommand := ⟨60,0,0,0,300,30,0,"automatic control"⟩

def benchAck : CommandAck := ⟨"auto-0-1",.confirmed,some ⟨60,0,0,0,300,30,0⟩⟩

theorem modbus_confirmed_bench :
    (benchAck.status = .confirmed ↔ ∃ words, Exchange memory .shipped hotterCommand (fun _ => 0)
        (put (stirrerTarget .shipped) 300 (put (temperatureTarget .shipped) 600 fun _ => 0)) words words) ∧
      benchAck.requestId = "auto-0-1" ∧
      (benchAck.status = .confirmed → ∃ accepted, benchAck.acceptedTargets = some accepted ∧
        |accepted.temperatureC - hotterCommand.targetTemperatureC| ≤ |(temperatureTarget .shipped).scale|/2 + 1/200 ∧
        |accepted.stirrerRpm - hotterCommand.targetStirrerRpm| ≤ |(stirrerTarget .shipped).scale|/2 + 1/200 ∧
        accepted.heatTimeS = hotterCommand.heatTimeS ∧ accepted.holdTimeS = hotterCommand.holdTimeS ∧
        accepted.coolTimeS = hotterCommand.coolTimeS ∧ accepted.shakeSpeedCpm = hotterCommand.targetShakeSpeedCpm ∧
        accepted.targetPressureMpa = hotterCommand.targetPressureMpa) := by
  have temperature : encodeWriteRegister hotterCommand.targetTemperatureC (temperatureTarget .shipped) = .ok 600 := by
    decide +kernel
  have stirrer : encodeWriteRegister hotterCommand.targetStirrerRpm (stirrerTarget .shipped) = .ok 300 := by decide +kernel
  have exchange : Exchange memory .shipped hotterCommand (fun _ => 0)
      (put (stirrerTarget .shipped) 300 (put (temperatureTarget .shipped) 600 fun _ => 0)) (600,300) (600,300) :=
    ⟨temperature,stirrer,_,_,_,[],[],rfl,rfl,rfl,rfl⟩
  have same : benchAck = answer .shipped hotterCommand "auto-0-1" (600,300) (600,300) := by
    unfold answer
    rw [if_neg (by simp)]
    have one : decodeWriteRegister 600 (temperatureTarget .shipped) = 60 := by decide +kernel
    have two : decodeWriteRegister 300 (stirrerTarget .shipped) = 300 := by decide +kernel
    simp only [one,two]
    rfl
  exact modbus_confirmed_iff (acknowledged_exchange.mpr ⟨_,_,exchange,same⟩)

end ReactorOS.ModbusRtu
