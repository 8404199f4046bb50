import ReactorOS.Ingestion
import ReactorOS.Modbus
import ReactorOS.Wire.Framing
namespace ReactorOS
open Concurrency Journal Wire
variable {me : TaskId}

structure ReadRegister where
  address : Nat
  scale : ℚ
  offset : ℚ
  minValid : ℚ
  maxValid : ℚ

inductive SampleRegister where
  | temperatureC | stirrerRpm | pressureMpa | shakeSpeedCpm | tiltAngleDeg | flowRateLMin
  | productConcentrationPercent | ph
  deriving DecidableEq, Repr

def SampleRegister.all : List SampleRegister :=
  [.temperatureC,.stirrerRpm,.pressureMpa,.shakeSpeedCpm,.tiltAngleDeg,.flowRateLMin,.productConcentrationPercent,.ph]

def SampleRegister.name : SampleRegister → String
  | .temperatureC => "temperature_c"
  | .stirrerRpm => "stirrer_rpm"
  | .pressureMpa => "pressure_mpa"
  | .shakeSpeedCpm => "shake_speed_cpm"
  | .tiltAngleDeg => "tilt_angle_deg"
  | .flowRateLMin => "flow_rate_l_min"
  | .productConcentrationPercent => "product_concentration_percent"
  | .ph => "ph"

def SampleRegister.value (sample : SensorSnapshot) : SampleRegister → ℚ
  | .temperatureC => sample.temperatureC
  | .stirrerRpm => sample.stirrerRpm
  | .pressureMpa => sample.pressureMpa
  | .shakeSpeedCpm => sample.shakeSpeedCpm
  | .tiltAngleDeg => sample.tiltAngleDeg
  | .flowRateLMin => sample.flowRateLMin
  | .productConcentrationPercent => sample.productConcentrationPercent
  | .ph => sample.ph

-- Addresses are of type `u16`.
structure RegistersConfig where
  read : SampleRegister → ReadRegister
  write : TargetRegister → WriteRegister
  readFits : ∀ register, (read register).address < 65536
  writeFits : ∀ register, (write register).address < 65536

def ensureNonZero (field : String) (value : ℚ) : Except String Unit :=
  if value = 0 then .error s!"{field} must not be zero" else .ok ()

def validateReadRegister (name : String) (register : ReadRegister) : Except String Unit := do
  ensureNonZero s!"{name}.scale" register.scale
  ensureOrdered s!"{name}.min_valid" register.minValid s!"{name}.max_valid" register.maxValid

def validateWriteRegister (name : String) (register : WriteRegister) : Except String Unit :=
  ensureNonZero s!"{name}.scale" register.scale

-- The part of `validate_device_config` that looks at the registers.
def validateRegistersConfig (registers : RegistersConfig) : Except String Unit := do
  SampleRegister.all.forM fun register =>
    validateReadRegister s!"modbus.registers.{register.name}" (registers.read register)
  TargetRegister.all.forM fun register =>
    validateWriteRegister s!"modbus.registers.{register.name}" (registers.write register)

-- `config/device.toml` as it is shipped.
def RegistersConfig.shipped : RegistersConfig where
  read
    | .temperatureC => ⟨0,1/10,0,0,250⟩
    | .stirrerRpm => ⟨1,1,0,0,2000⟩
    | .pressureMpa => ⟨2,1/100,0,0,10⟩
    | .shakeSpeedCpm => ⟨3,1,0,0,60⟩
    | .tiltAngleDeg => ⟨4,1/100,-45,-45,45⟩
    | .flowRateLMin => ⟨5,1/100,0,0,20⟩
    | .productConcentrationPercent => ⟨6,1/10,0,0,100⟩
    | .ph => ⟨7,1/100,0,0,14⟩
  write
    | .targetTemperatureC => ⟨10,1/10,0⟩
    | .targetStirrerRpm => ⟨11,1,0⟩
    | .targetShakeSpeedCpm => ⟨12,1,0⟩
    | .targetPressureMpa => ⟨13,1/100,0⟩
    | .heatTimeS => ⟨14,1,0⟩
    | .holdTimeS => ⟨15,1,0⟩
    | .coolTimeS => ⟨16,1,0⟩
  readFits register := by cases register <;> decide
  writeFits register := by cases register <;> decide

structure ModbusException where
  function : UInt8
  code : UInt8
  deriving DecidableEq

def exceptionResponse (function code : UInt8) : List UInt8 := [function ||| 0x80,code]

def encodeRaw (value scale offset : ℚ) : Except ModbusException Nat :=
  if scale = 0 then .error ⟨0x03,0x04⟩
  else
    let raw := roundHalfAway ((value-offset)/scale)
    if raw < 0 ∨ 65535 < raw then .error ⟨0x03,0x04⟩ else .ok raw.toNat

-- A map by address, newest entry first.
abbrev Points (α : Type) := List (Nat × α)

def insertRaw (values : Points Nat) (address : Nat) (value scale offset : ℚ) : Except ModbusException (Points Nat) :=
  (encodeRaw value scale offset).map fun raw => (address,raw) :: values

def holdingRegisterValues (registers : RegistersConfig) (runtime : RuntimeState) :
    Except ModbusException (Points Nat) :=
  match runtime.latestSample with
  | none => .error ⟨0x03,0x04⟩
  | some sample => do
      let values ← SampleRegister.all.foldlM (fun values register =>
        let config := registers.read register
        insertRaw values config.address (register.value sample) config.scale config.offset) []
      TargetRegister.all.foldlM (fun values register =>
        let config := registers.write register
        insertRaw values config.address (writeRegisterAppliedValue runtime.targets register) config.scale config.offset)
        values

-- The points from `start` on, each found or the exception for an illegal address.
def readPoints {α : Type} (function : UInt8) (values : Points α) (start quantity : Nat) :
    Except ModbusException (List α) :=
  if 0x10000 < start+quantity then .error ⟨function,0x02⟩
  else (List.range' start quantity).mapM fun address =>
    match values.lookup address with
    | none => .error ⟨function,0x02⟩
    | some value => .ok value

def readHoldingRegisters (registers : RegistersConfig) (runtime : RuntimeState) (function : UInt8) :
    List UInt8 → Except ModbusException (List UInt8)
  | [startHigh,startLow,quantityHigh,quantityLow] => do
      let start := fromBigEndian startHigh startLow
      let quantity := fromBigEndian quantityHigh quantityLow
      if quantity = 0 ∨ 125 < quantity then throw ⟨function,0x03⟩
      let values ← holdingRegisterValues registers runtime
      let raws ← readPoints function values start quantity
      return 0x03 :: UInt8.ofNat (quantity*2) :: raws.flatMap bigEndian
  | _ => .error ⟨function,0x03⟩

-- The first point is the lowest bit.
def packByte (bits : List Bool) : UInt8 := bits.foldr (fun bit byte => byte*2 + bit.toNat.toUInt8) 0

def packBits (byteCount : Nat) (bits : List Bool) : List UInt8 :=
  (List.range byteCount).map fun index => packByte ((bits.drop (8*index)).take 8)

def readBoolPoints (values : Points Bool) (function : UInt8) : List UInt8 → Except ModbusException (List UInt8)
  | [startHigh,startLow,quantityHigh,quantityLow] => do
      let start := fromBigEndian startHigh startLow
      let quantity := fromBigEndian quantityHigh quantityLow
      if quantity = 0 ∨ 2000 < quantity then throw ⟨function,0x03⟩
      let byteCount := (quantity+7)/8
      let bits ← readPoints function values start quantity
      return function :: UInt8.ofNat byteCount :: packBits byteCount bits
  | _ => .error ⟨function,0x03⟩

def UnfinishedBatchStatus.hasUnfinishedBatch (status : UnfinishedBatchStatus) (runtime : RuntimeState) : Bool :=
  runtime.activeBatchId.isSome || !status.unfinishedBatchIds.isEmpty

def coilValues (runtime : RuntimeState) (hasUnfinishedBatch : Bool) : Points Bool :=
  [(0,runtime.autoEnabled),(1,runtime.manualLock),(2,runtime.emergencyStop),(3,hasUnfinishedBatch)]

def discreteInputValues (safety : SafetyConfig) (limits : SensorLimits) (now : Instant) (runtime : RuntimeState)
    (hasUnfinishedBatch batchRecoveryRequired : Bool) : Points Bool :=
  let timeoutMs := safety.control.sensorTimeoutMs
  let sensorFresh := match runtime.latestSample with
    | some sample => timestampIsFresh now sample.capturedAt timeoutMs
    | none => false
  let deviceConnected := match runtime.deviceStatus with
    | some device => device.connected && device.lastFrameOk && (downstreamCommandFaultReason device).isNone &&
        (match device.lastSeenAt with
        | some lastSeen => timestampIsFresh now lastSeen timeoutMs
        | none => false)
    | none => !safety.control.requireDeviceStatusForControl && sensorFresh
  [(0,deviceConnected && !batchRecoveryRequired),(1,sensorFresh),
    (2,batchRecoveryRequired || !(alarmsFor safety now runtime runtime.latestSample limits).isEmpty),
    (3,match runtime.latestSample with | some sample => sample.tiltState != 0 | none => false),
    (4,hasUnfinishedBatch)]

def writeRegisterByAddress (registers : RegistersConfig) (address : Nat) : Option TargetRegister :=
  TargetRegister.all.find? fun register => (registers.write register).address = address

def writeSingleRegister (safety : SafetyConfig) (registers : RegistersConfig) (function : UInt8) :
    List UInt8 → Handler Event.work me ModbusException (List UInt8)
  | [addressHigh,addressLow,rawHigh,rawLow] =>
      match writeRegisterByAddress registers (fromBigEndian addressHigh addressLow) with
      | none => throw ⟨function,0x02⟩
      | some register => do
          let config := registers.write register
          let value := fromBigEndian rawHigh rawLow * config.scale + config.offset
          let _ ← (applyModbusRegisterWrite safety registers.write register.name value
            (some s!"modbus tcp write register {register.name}") ⟨"modbus-tcp","system"⟩).mapError fun err =>
              if err.isServerError then (⟨function,0x04⟩ : ModbusException) else ⟨function,0x03⟩
          return [function,addressHigh,addressLow,rawHigh,rawLow]
  | _ => throw ⟨function,0x03⟩

-- The batch status is asked of the database behind the lock, then the bits are read.
def readBatchBits (function : UInt8) (data : List UInt8)
    (values : Instant → RuntimeState → UnfinishedBatchStatus → Points Bool) :
    Handler Event.work me ModbusException (List UInt8) := do
  let runtime ← locked runtimeState
  let (now,status) ← (locked (do
    let status ← unfinishedBatchStatus runtime
    return (← utcNow,status))).mapError fun _ : AppError => (⟨function,0x04⟩ : ModbusException)
  Task.ofExcept (readBoolPoints (values now runtime status) function data)

def handleFunction (safety : SafetyConfig) (limits : SensorLimits) (registers : RegistersConfig) (function : UInt8)
    (data : List UInt8) : Handler Event.work me ModbusException (List UInt8) :=
  if function = 0x01 then
    readBatchBits function data fun _ runtime status => coilValues runtime (status.hasUnfinishedBatch runtime)
  else if function = 0x02 then
    readBatchBits function data fun now runtime status =>
      discreteInputValues safety limits now runtime (status.hasUnfinishedBatch runtime) status.recoveryRequired
  else if function = 0x03 then do
    let runtime ← locked runtimeState
    Task.ofExcept (readHoldingRegisters registers runtime function data)
  else if function = 0x06 then writeSingleRegister safety registers function data
  else throw ⟨function,0x01⟩

def handleModbusTcpPdu (safety : SafetyConfig) (limits : SensorLimits) (registers : RegistersConfig) :
    List UInt8 → Handler Event.work me AppError (List UInt8)
  | [] => return exceptionResponse 0 0x03
  | function :: data => do
      match ← (handleFunction safety limits registers function data).attempt with
      | .ok response => return response
      | .error err => return exceptionResponse err.function err.code

-- A frame as `write_mbap_response` writes it.
def mbapFrame (transactionId : Nat) (unitId : UInt8) (pdu : List UInt8) : List UInt8 :=
  bigEndian transactionId ++ bigEndian 0 ++ bigEndian (pdu.length+1) ++ unitId :: pdu

-- What the connection writes for the chunks it reads, one frame after the other. A stream
-- that ends or stalls inside a frame drops the connection.
def handleModbusTcpStream (safety : SafetyConfig) (limits : SensorLimits) (registers : RegistersConfig)
    (maxPduBytes : Nat) (expectedUnitId : UInt8) (chunks : List (List UInt8)) :
    Handler Event.work me AppError (List (List UInt8)) :=
  match _header : readExact 7 chunks with
  | some ([transactionHigh,transactionLow,protocolHigh,protocolLow,lengthHigh,lengthLow,unitId],chunks) =>
      let transactionId := fromBigEndian transactionHigh transactionLow
      let protocolId := fromBigEndian protocolHigh protocolLow
      let length := fromBigEndian lengthHigh lengthLow
      if protocolId ≠ 0 ∨ length = 0 ∨ maxPduBytes < length-1 then
        return [mbapFrame transactionId unitId (exceptionResponse 0 0x03)]
      else match _body : readExact (length-1) chunks with
        | none => return []
        | some (pdu,chunks) => do
            let response ←
              if unitId ≠ expectedUnitId then pure (exceptionResponse (pdu.head?.getD 0) 0x0B)
              else handleModbusTcpPdu safety limits registers pdu
            let later ← handleModbusTcpStream safety limits registers maxPduBytes expectedUnitId chunks
            return mbapFrame transactionId unitId response :: later
  | _ => return []
termination_by chunks.flatten.length
decreasing_by
  have front := (readExact_some _header).2
  have back := (readExact_some _body).2
  rw [front,back]
  simp only [List.length_append,List.length_cons]
  omega

end ReactorOS
