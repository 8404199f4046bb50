import ReactorOS.Ingestion
import ReactorOS.Wire.Decimal
import ReactorOS.Wire.Fields
namespace ReactorOS
open Wire

def checksumHex (bytes : List UInt8) : String :=
  let checksum := bytes.foldl (fun acc byte => acc ^^^ byte) 0
  String.ofList [(Nat.digitChar (checksum.toNat/16)).toUpper,(Nat.digitChar (checksum.toNat%16)).toUpper]

def asBytes (text : String) : List UInt8 := text.toList.flatMap String.utf8EncodeChar

def eqIgnoreAsciiCase (one other : String) : Bool :=
  one.toList.map Char.toLower = other.toList.map Char.toLower

-- What the loop over the parts of a line has collected.
structure FrameScan where
  fields : Fields
  checksumField : Option String
  checksumIndex : Option Nat

def FrameScan.start : FrameScan := ⟨[],none,none⟩

def FrameScan.insert (scan : FrameScan) (index : Nat) (key value : String) : FrameScan :=
  if key = "chk" then {scan with checksumField := some value,checksumIndex := some index}
  else {scan with fields := (key,value) :: scan.fields}

-- `kind` is "esp32" for a sample frame and "esp32 ack" for an ACK frame.
def scanParts (kind : String) : Nat → List String → FrameScan → Except String FrameScan
  | _,[],scan => .ok scan
  | index,part :: parts,scan =>
      match splitOnce '=' part with
      | none => .error s!"invalid {kind} frame field {part}"
      | some (key,value) => scanParts kind (index+1) parts (scan.insert index key value)

def verifyChecksum (kind : String) (parts : List String) (scan : FrameScan) : Except String Unit :=
  match scan.checksumField,scan.checksumIndex with
  | none,_ => .error s!"{kind} frame missing checksum"
  | some _,none => .error s!"{kind} frame missing checksum position"
  | some chk,some index =>
      let body := join '|' (parts.take index)
      let expected := checksumHex (asBytes body)
      if eqIgnoreAsciiCase chk expected then .ok ()
      else .error s!"{kind} checksum mismatch expected {expected} got {chk}"

-- The first half of both parsers.
def scanFrame (kind line expectedPrefix : String) (checksumEnabled : Bool) : Except String Fields := do
  let parts := split '|' (trim line)
  if parts.head? ≠ some expectedPrefix then throw s!"unexpected {kind} frame prefix"
  let scan ← scanParts kind 1 (parts.drop 1) .start
  if checksumEnabled then verifyChecksum kind parts scan
  return scan.fields

theorem scanFrame_ok {kind line expectedPrefix : String} {checksumEnabled : Bool} {fields : Fields} :
    scanFrame kind line expectedPrefix checksumEnabled = .ok fields ↔
      (split '|' (trim line)).head? = some expectedPrefix ∧ ∃ scan,
        scanParts kind 1 (split '|' (trim line)).tail .start = .ok scan ∧
        (checksumEnabled = true → verifyChecksum kind (split '|' (trim line)) scan = .ok ()) ∧ fields = scan.fields := by
  unfold scanFrame
  rw [←List.drop_one]
  by_cases expected : (split '|' (trim line)).head? = some expectedPrefix
  · simp only [expected,ne_eq,not_true_eq_false,if_false]
    constructor
    · intro scanned
      obtain ⟨scan,found,rest⟩ := bind_ok scanned
      refine ⟨trivial,scan,found,?_⟩
      cases checksumEnabled with
      | false => cases rest; exact ⟨by simp,rfl⟩
      | true =>
          obtain ⟨_,verified,rest⟩ := bind_ok rest
          cases rest
          exact ⟨fun _ => verified,rfl⟩
    · intro ⟨_,scan,found,verified,same⟩
      subst same
      rw [found]
      cases checksumEnabled with
      | false => rfl
      | true =>
          change (verifyChecksum kind _ scan >>= fun _ => pure scan.fields) = _
          rw [verified rfl]
          rfl
  · simp only [ne_eq,expected,not_false_eq_true,if_true]
    constructor
    · intro scanned
      cases scanned
    · intro ⟨absurd,_⟩
      cases absurd

def requiredField (fields : Fields) (key : String) : Except String String :=
  match fields.lookup key with
  | some value => .ok value
  | none => .error s!"esp32 frame missing field {key}"

def parseF64Value (key value : String) : Except String ℚ :=
  match parseF64 value with
  | .error err => .error s!"invalid esp32 field {key}: {err.message}"
  | .ok none => .error s!"invalid esp32 field {key}: non-finite value"
  | .ok (some parsed) => .ok parsed

def parseTiltStateValue (key value : String) : Except String Nat :=
  if trim value = "0" then .ok 0
  else if trim value = "1" then .ok 1
  else .error s!"invalid esp32 field {key}: tilt state must be 0 or 1, got {trim value}"

-- The first of the keys that is there.
def firstField (fields : Fields) (keys : List String) : Option (String × String) :=
  keys.findSome? fun key => (fields.lookup key).map fun value => (key,value)

def parseF64Any (fields : Fields) (keys : List String) (canonicalKey : String) : Except String ℚ :=
  match firstField fields keys with
  | some (key,value) => parseF64Value key value
  | none => .error s!"esp32 frame missing field {canonicalKey}"

def parseTiltStateAny (fields : Fields) (keys : List String) (canonicalKey : String) : Except String Nat :=
  match firstField fields keys with
  | some (key,value) => parseTiltStateValue key value
  | none => .error s!"esp32 frame missing field {canonicalKey}"

def parseOptionalF64Any (fields : Fields) (keys : List String) : Except String (Option ℚ) :=
  match firstField fields keys with
  | some (key,value) => (parseF64Value key value).map some
  | none => .ok none

-- `sine` is |sin| of the phase at the moment `now`, a function of the shake speed.
def parseEsp32Frame (now : Instant) (sine : ℚ → ℚ) (line expectedPrefix : String) (checksumEnabled : Bool) :
    Except String SensorSnapshot := do
  let fields ← scanFrame "esp32" line expectedPrefix checksumEnabled
  let version ← requiredField fields "v"
  if version ≠ "1" then throw s!"unsupported esp32 frame version {version}"
  let shakeSpeedCpm ← parseF64Any fields ["shake_speed","shake"] "shake_speed"
  let tiltState ← parseTiltStateAny fields ["tilt_state","tilt"] "tilt_state"
  return {
    temperatureC := ← parseF64Any fields ["temp","temperature"] "temp"
    pressureMpa := ← parseF64Any fields ["pressure"] "pressure"
    stirrerRpm := ← parseF64Any fields ["stir_speed","rpm"] "stir_speed"
    shakeSpeedCpm := shakeSpeedCpm
    tiltState := tiltState
    tiltAngleDeg := fitTiltAngleDeg tiltState shakeSpeedCpm (sine shakeSpeedCpm)
    flowRateLMin := ← parseF64Any fields ["flow_rate","flow"] "flow_rate"
    productConcentrationPercent :=
      (← parseOptionalF64Any fields ["product_concentration","conc","concentration"]).getD 0
    ph := (← parseOptionalF64Any fields ["ph"]).getD 7
    capturedAt := now }

-- What the parser has read off the fields of an accepted sample frame.
structure SampleReads (now : Instant) (sine : ℚ → ℚ) (fields : Fields) (sample : SensorSnapshot) : Prop where
  version : requiredField fields "v" = .ok "1"
  shake : parseF64Any fields ["shake_speed","shake"] "shake_speed" = .ok sample.shakeSpeedCpm
  tilt : parseTiltStateAny fields ["tilt_state","tilt"] "tilt_state" = .ok sample.tiltState
  temperature : parseF64Any fields ["temp","temperature"] "temp" = .ok sample.temperatureC
  pressure : parseF64Any fields ["pressure"] "pressure" = .ok sample.pressureMpa
  stirrer : parseF64Any fields ["stir_speed","rpm"] "stir_speed" = .ok sample.stirrerRpm
  flow : parseF64Any fields ["flow_rate","flow"] "flow_rate" = .ok sample.flowRateLMin
  concentration : (parseOptionalF64Any fields ["product_concentration","conc","concentration"]).map (·.getD 0) =
    .ok sample.productConcentrationPercent
  ph : (parseOptionalF64Any fields ["ph"]).map (·.getD 7) = .ok sample.ph
  angle : sample.tiltAngleDeg = fitTiltAngleDeg sample.tiltState sample.shakeSpeedCpm (sine sample.shakeSpeedCpm)
  captured : sample.capturedAt = now

theorem parseEsp32Frame_ok {now : Instant} {sine : ℚ → ℚ} {line expectedPrefix : String} {checksumEnabled : Bool}
    {sample : SensorSnapshot} : parseEsp32Frame now sine line expectedPrefix checksumEnabled = .ok sample ↔
      ∃ fields, scanFrame "esp32" line expectedPrefix checksumEnabled = .ok fields ∧ SampleReads now sine fields sample := by
  unfold parseEsp32Frame
  constructor
  · intro parsed
    obtain ⟨fields,scanned,parsed⟩ := bind_ok parsed
    obtain ⟨version,versioned,parsed⟩ := bind_ok parsed
    refine ⟨fields,scanned,?_⟩
    by_cases first : version = "1"
    · subst first
      obtain ⟨shake,shakeRead,parsed⟩ := bind_ok parsed
      obtain ⟨tilt,tiltRead,parsed⟩ := bind_ok parsed
      obtain ⟨temperature,temperatureRead,parsed⟩ := bind_ok parsed
      obtain ⟨pressure,pressureRead,parsed⟩ := bind_ok parsed
      obtain ⟨stirrer,stirrerRead,parsed⟩ := bind_ok parsed
      obtain ⟨flow,flowRead,parsed⟩ := bind_ok parsed
      obtain ⟨concentration,concentrationRead,parsed⟩ := bind_ok parsed
      obtain ⟨ph,phRead,parsed⟩ := bind_ok parsed
      cases parsed
      exact ⟨versioned,shakeRead,tiltRead,temperatureRead,pressureRead,stirrerRead,flowRead,
        by rw [concentrationRead]; rfl,by rw [phRead]; rfl,rfl,rfl⟩
    · simp only [ne_eq,first,not_false_eq_true,if_true] at parsed
      cases parsed
  · intro ⟨fields,scanned,reads⟩
    obtain ⟨concentration,concentrationRead,same⟩ := map_ok reads.concentration
    obtain ⟨ph,phRead,neutral⟩ := map_ok reads.ph
    obtain ⟨angle,captured⟩ := And.intro reads.angle reads.captured
    cases sample
    simp only at same neutral angle captured
    subst same neutral angle captured
    rw [scanned]
    change (requiredField fields "v" >>= _) = _
    rw [reads.version]
    change (parseF64Any fields ["shake_speed","shake"] "shake_speed" >>= _) = _
    rw [reads.shake]
    change (parseTiltStateAny fields ["tilt_state","tilt"] "tilt_state" >>= _) = _
    rw [reads.tilt]
    change (parseF64Any fields ["temp","temperature"] "temp" >>= _) = _
    rw [reads.temperature]
    change (parseF64Any fields ["pressure"] "pressure" >>= _) = _
    rw [reads.pressure]
    change (parseF64Any fields ["stir_speed","rpm"] "stir_speed" >>= _) = _
    rw [reads.stirrer]
    change (parseF64Any fields ["flow_rate","flow"] "flow_rate" >>= _) = _
    rw [reads.flow]
    change (parseOptionalF64Any fields ["product_concentration","conc","concentration"] >>= _) = _
    rw [concentrationRead]
    change (parseOptionalF64Any fields ["ph"] >>= _) = _
    rw [phRead]
    rfl

structure Esp32Ack where
  requestId : String
  ok : Bool
  error : Option String
  deriving DecidableEq

def parseAckFlag (flag : String) : Except String Bool :=
  if flag = "1" ∨ flag = "true" then .ok true
  else if flag = "0" ∨ flag = "false" then .ok false
  else .error s!"invalid esp32 ack ok field {flag}"

def parseEsp32AckFrame (line expectedPrefix : String) (checksumEnabled : Bool) : Except String Esp32Ack := do
  let fields ← scanFrame "esp32 ack" line expectedPrefix checksumEnabled
  if (← requiredField fields "v") ≠ "1" then throw "unsupported esp32 ack frame version"
  if (← requiredField fields "type") ≠ "ack" then throw "esp32 frame is not an ack"
  let requestId ← requiredField fields "rid"
  let ok ← parseAckFlag (← requiredField fields "ok")
  return ⟨requestId,ok,fields.lookup "err"⟩

structure AckReads (fields : Fields) (ack : Esp32Ack) : Prop where
  version : requiredField fields "v" = .ok "1"
  type : requiredField fields "type" = .ok "ack"
  requestId : requiredField fields "rid" = .ok ack.requestId
  ok : (requiredField fields "ok").bind parseAckFlag = .ok ack.ok
  error : fields.lookup "err" = ack.error

theorem parseEsp32AckFrame_ok {line expectedPrefix : String} {checksumEnabled : Bool} {ack : Esp32Ack} :
    parseEsp32AckFrame line expectedPrefix checksumEnabled = .ok ack ↔
      ∃ fields, scanFrame "esp32 ack" line expectedPrefix checksumEnabled = .ok fields ∧ AckReads fields ack := by
  unfold parseEsp32AckFrame
  constructor
  · intro parsed
    obtain ⟨fields,scanned,parsed⟩ := bind_ok parsed
    obtain ⟨version,versioned,parsed⟩ := bind_ok parsed
    by_cases first : version = "1"
    · subst first
      obtain ⟨type,typed,parsed⟩ := bind_ok parsed
      by_cases acknowledges : type = "ack"
      · subst acknowledges
        obtain ⟨requestId,identified,parsed⟩ := bind_ok parsed
        obtain ⟨flag,flagged,parsed⟩ := bind_ok parsed
        obtain ⟨ok,decided,parsed⟩ := bind_ok parsed
        cases parsed
        exact ⟨fields,scanned,versioned,typed,identified,by rw [flagged]; exact decided,rfl⟩
      · simp only [ne_eq,acknowledges,not_false_eq_true,if_true] at parsed
        cases parsed
    · simp only [ne_eq,first,not_false_eq_true,if_true] at parsed
      cases parsed
  · intro ⟨fields,scanned,reads⟩
    obtain ⟨flag,flagged,decided⟩ := bind_ok reads.ok
    have error := reads.error
    cases ack
    simp only at error
    subst error
    rw [scanned]
    change (requiredField fields "v" >>= _) = _
    rw [reads.version]
    change (requiredField fields "type" >>= _) = _
    rw [reads.type]
    change (requiredField fields "rid" >>= _) = _
    rw [reads.requestId]
    change (requiredField fields "ok" >>= _) = _
    rw [flagged]
    change (parseAckFlag flag >>= _) = _
    rw [decided]
    rfl

def withChecksum (body : String) (checksumEnabled : Bool) : String :=
  if checksumEnabled then s!"{body}|chk={checksumHex (asBytes body)}\n" else s!"{body}\n"

def timestampMillis (moment : Instant) : Int := moment / 1000000

def sampleBody (label : String) (sample : SensorSnapshot) : String :=
  s!"{label}|v=1|seq=0|ms={max 0 (timestampMillis sample.capturedAt)}|temp={displayFixed 2 sample.temperatureC}|pressure={displayFixed 2 sample.pressureMpa}|stir_speed={displayFixed 2 sample.stirrerRpm}|shake_speed={displayFixed 2 sample.shakeSpeedCpm}|tilt_state={sample.tiltState}|flow_rate={displayFixed 2 sample.flowRateLMin}|product_concentration={displayFixed 2 sample.productConcentrationPercent}|ph={displayFixed 2 sample.ph}"

def buildEsp32SampleFrame (label : String) (sample : SensorSnapshot) (checksumEnabled : Bool) : String :=
  withChecksum (sampleBody label sample) checksumEnabled

def ackBody (label requestId : String) (ok : Bool) (error : Option String) : String :=
  let okField := if ok then "1" else "0"
  let body := s!"{label}|v=1|type=ack|rid={requestId}|ok={okField}"
  match error with
  | some err => body ++ s!"|err={err}"
  | none => body

def buildEsp32AckFrame (label requestId : String) (ok : Bool) (error : Option String) (checksumEnabled : Bool) : String :=
  withChecksum (ackBody label requestId ok error) checksumEnabled

def commandTargets (command : SafeCommand) : String :=
  s!"heat_time={displayFixed 2 command.heatTimeS}|hold_time={displayFixed 2 command.holdTimeS}|cool_time={displayFixed 2 command.coolTimeS}|target_temp={displayFixed 2 command.targetTemperatureC}|stir_speed={displayFixed 2 command.targetStirrerRpm}|shake_speed={displayFixed 2 command.targetShakeSpeedCpm}|target_pressure={displayFixed 2 command.targetPressureMpa}"

def buildEsp32Command (label : String) (command : SafeCommand) (checksumEnabled : Bool) : String :=
  withChecksum s!"{label}|v=1|{commandTargets command}" checksumEnabled

def buildEsp32CommandWithRid (label : String) (command : SafeCommand) (requestId : String) (checksumEnabled : Bool) : String :=
  withChecksum s!"{label}|v=1|rid={requestId}|{commandTargets command}" checksumEnabled

end ReactorOS
