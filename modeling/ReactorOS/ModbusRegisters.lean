import ReactorOS.ModbusReads
import ReactorOS.ModbusWriteBack
namespace ReactorOS
open Wire
variable {registers : RegistersConfig} {runtime : RuntimeState}

structure ModbusRegisterValue where
  address : Nat
  access : String
  value : ℚ
  scale : ℚ
  offset : ℚ
  source : String

def Register.name : Register → String
  | .sample register => register.name
  | .target register => register.name

-- A sample register needs a sample, a target register only the targets.
def registerValue (registers : RegistersConfig) (runtime : RuntimeState) (register : String) :
    Except AppError ModbusRegisterValue :=
  match Register.all.find? fun known => known.name == register with
  | some (.sample known) =>
      match runtime.latestSample with
      | none => .error (.serviceUnavailable "sensor data unavailable")
      | some sample => .ok {
          address := (registers.read known).address
          access := "read"
          value := known.value sample
          scale := (registers.read known).scale
          offset := (registers.read known).offset
          source := "latest_sample" }
  | some (.target known) => .ok {
      address := (registers.write known).address
      access := "write"
      value := writeRegisterAppliedValue runtime.targets known
      scale := (registers.write known).scale
      offset := (registers.write known).offset
      source := "runtime_targets" }
  | none => .error (.notFound "modbus register not found")

structure RegisterPayload where
  deviceId : String
  register : String
  address : Nat
  access : String
  value : ℚ
  raw : Nat
  scale : ℚ
  offset : ℚ
  source : String

def readRegisterPayload (registers : RegistersConfig) (runtime : RuntimeState) (register : String) :
    Except AppError RegisterPayload := do
  let value ← registerValue registers runtime register
  let raw ← encodeModbusRaw value.value value.scale value.offset
  return ⟨"reactor_001",register,value.address,value.access,round2 value.value,raw,value.scale,value.offset,value.source⟩

-- What the two views have of a register at the moment, if anything.
def Register.current (runtime : RuntimeState) : Register → Option ℚ
  | .sample register => runtime.latestSample.map register.value
  | .target register => some (writeRegisterAppliedValue runtime.targets register)

-- The word of a register whose value is there and fits.
def Word (registers : RegistersConfig) (runtime : RuntimeState) (register : Register) (raw : Nat) : Prop :=
  ∃ value, register.current runtime = some value ∧
    roundHalfAway ((value - registers.offset register)/registers.scale register) = raw ∧ raw < 65536

theorem word_unique {register : Register} {raw other : Nat} (one : Word registers runtime register raw)
    (two : Word registers runtime register other) : raw = other := by
  obtain ⟨value,there,rounds,_⟩ := one
  obtain ⟨_,same,again,_⟩ := two
  cases there.symm.trans same
  exact_mod_cast rounds.symm.trans again

theorem encodeModbusRaw_ok {value scale offset : ℚ} {raw : Nat} :
    encodeModbusRaw value scale offset = .ok raw ↔ encodeRaw value scale offset = .ok raw := by
  unfold encodeModbusRaw encodeRaw
  by_cases zero : scale = 0
  · simp [zero]
  · rw [if_neg zero,if_neg zero]
    simp only
    split <;> simp

theorem scale_accepted (accepted : validateRegistersConfig registers = .ok ()) (register : Register) :
    registers.scale register ≠ 0 := by
  cases register with
  | target register => exact accepted_scale accepted register
  | sample register =>
      obtain ⟨_,samples,_⟩ := Wire.bind_ok accepted
      have checked := Wire.forM_ok samples register (by cases register <;> decide)
      intro zero
      have unscaled : (registers.read register).scale = 0 := zero
      obtain ⟨_,scaled,_⟩ := Wire.bind_ok checked
      simp [ensureNonZero,unscaled] at scaled

theorem registerNamed (register : Register) :
    Register.all.find? (fun known => known.name == register.name) = some register := by
  cases register with
  | sample register => cases register <;> rfl
  | target register => cases register <;> rfl

theorem encodeModbusRaw_word {register : Register} {value : ℚ} {raw : Nat}
    (accepted : validateRegistersConfig registers = .ok ()) (there : register.current runtime = some value) :
    encodeModbusRaw value (registers.scale register) (registers.offset register) = .ok raw ↔
      Word registers runtime register raw := by
  rw [encodeModbusRaw_ok,encodeRaw_ok]
  constructor
  · intro ⟨_,rounds,fits⟩
    exact ⟨value,there,rounds,fits⟩
  · intro ⟨_,same,rounds,fits⟩
    cases there.symm.trans same
    exact ⟨scale_accepted accepted register,rounds,fits⟩

theorem encoded_word {register : Register} {sample : SensorSnapshot} {raw : Nat}
    (accepted : validateRegistersConfig registers = .ok ()) (sampled : runtime.latestSample = some sample) :
    encoded registers sample runtime.targets register = .ok raw ↔ Word registers runtime register raw := by
  have there : register.current runtime = some (register.value sample runtime.targets) := by
    cases register with
    | sample register => simp [Register.current,sampled,Register.value]
    | target register => rfl
  rw [encoded,← encodeModbusRaw_ok,encodeModbusRaw_word accepted there]

theorem registerValue_ok {register : Register} {found : ModbusRegisterValue}
    (read : registerValue registers runtime register.name = .ok found) :
    register.current runtime = some found.value ∧ found.scale = registers.scale register ∧
      found.offset = registers.offset register := by
  unfold registerValue at read
  rw [registerNamed] at read
  cases register with
  | target register =>
      cases read
      exact ⟨rfl,rfl,rfl⟩
  | sample register =>
      cases sampled : runtime.latestSample with
      | none =>
          rw [sampled] at read
          cases read
      | some sample =>
          rw [sampled] at read
          cases read
          refine ⟨?_,rfl,rfl⟩
          rw [Register.current,sampled]
          rfl

theorem registerValue_there {register : Register} {value : ℚ} (there : register.current runtime = some value) :
    ∃ found, registerValue registers runtime register.name = .ok found := by
  unfold registerValue
  rw [registerNamed]
  cases register with
  | target register => exact ⟨_,rfl⟩
  | sample register =>
      cases sampled : runtime.latestSample with
      | none => simp [Register.current,sampled] at there
      | some sample => exact ⟨_,rfl⟩

-- The word of the one view.
theorem readRegisterPayload_word (accepted : validateRegistersConfig registers = .ok ()) {register : Register} {raw : Nat} :
    (∃ payload, readRegisterPayload registers runtime register.name = .ok payload ∧ payload.raw = raw) ↔
      Word registers runtime register raw := by
  constructor
  · intro reached
    rcases reached with ⟨payload,read,rfl⟩
    obtain ⟨found,valued,read⟩ := Wire.bind_ok read
    obtain ⟨raw,encodes,read⟩ := Wire.bind_ok read
    cases read
    obtain ⟨there,scale,offset⟩ := registerValue_ok valued
    rw [scale,offset] at encodes
    exact (encodeModbusRaw_word accepted there).mp encodes
  · intro word
    have ⟨value,there,_⟩ := word
    obtain ⟨found,valued⟩ := @registerValue_there registers runtime register value there
    obtain ⟨same,scale,offset⟩ := registerValue_ok valued
    have encodes := (encodeModbusRaw_word accepted same).mpr word
    rw [← scale,← offset] at encodes
    refine ⟨⟨"reactor_001",register.name,found.address,found.access,round2 found.value,raw,found.scale,found.offset,
      found.source⟩,?_,rfl⟩
    unfold readRegisterPayload
    rw [valued,Wire.ok_bind rfl,encodes]
    rfl

theorem mapReadable_word (accepted : validateRegistersConfig registers = .ok ()) :
    MapReadable registers runtime ↔ ∀ register, ∃ raw, Word registers runtime register raw := by
  constructor
  · intro ⟨sample,sampled,encodes⟩ register
    obtain ⟨raw,encoded⟩ := encodes register
    exact ⟨raw,(encoded_word accepted sampled).mp encoded⟩
  · intro words
    obtain ⟨_,value,there,_⟩ := words (.sample .temperatureC)
    obtain ⟨sample,sampled,_⟩ := Option.map_eq_some_iff.mp there
    refine ⟨sample,sampled,fun register => ?_⟩
    obtain ⟨raw,word⟩ := words register
    exact ⟨raw,(encoded_word accepted sampled).mpr word⟩

theorem toOption_some {ε α : Type} {result : Except ε α} {value : α} : result.toOption = some value ↔ result = .ok value := by
  cases result <;> simp [Except.toOption]

-- One register asked for over the wire.
def tcpRead (registers : RegistersConfig) (runtime : RuntimeState) (register : Register) :
    Except ModbusException (List UInt8) :=
  readHoldingRegisters registers runtime 0x03 (bigEndian (registers.address register) ++ bigEndian 1)

theorem address_fits (registers : RegistersConfig) (register : Register) : registers.address register < 65536 := by
  cases register with
  | sample register => exact registers.readFits register
  | target register => exact registers.writeFits register

theorem resolveRead_some (registers : RegistersConfig) (register : Register) :
    ∃ other, registers.resolveRead (registers.address register) = some other := by
  cases found : registers.resolveRead (registers.address register) with
  | some other => exact ⟨other,rfl⟩
  | none =>
      have absurd := List.find?_eq_none.mp found register (List.mem_reverse.mpr register.mem_all)
      simp at absurd

-- The word of the other view: that of the last register at the address, once the whole map is there.
theorem tcpRead_word (accepted : validateRegistersConfig registers = .ok ()) {register other : Register}
    {response : List UInt8} (resolved : registers.resolveRead (registers.address register) = some other) :
    tcpRead registers runtime register = .ok response ↔
      (∀ register, ∃ raw, Word registers runtime register raw) ∧
        ∃ raw, Word registers runtime other raw ∧ response = 0x03 :: 0x02 :: bigEndian raw := by
  unfold tcpRead
  rw [readHoldingRegisters_one (address_fits registers register),← mapReadable_word accepted,← mapReadable_iff]
  constructor
  · intro ⟨values,raw,filled,found,answered⟩
    obtain ⟨sample,sampled,_⟩ := mapReadable_iff.mp ⟨values,filled⟩
    rw [holdingRegisterValues_lookup sampled filled,resolved,Option.bind_some,toOption_some] at found
    exact ⟨⟨values,filled⟩,raw,(encoded_word accepted sampled).mp found,answered⟩
  · intro ⟨⟨values,filled⟩,raw,word,answered⟩
    obtain ⟨sample,sampled,_⟩ := mapReadable_iff.mp ⟨values,filled⟩
    refine ⟨values,raw,filled,?_,answered⟩
    rw [holdingRegisterValues_lookup sampled filled,resolved,Option.bind_some,toOption_some]
    exact (encoded_word accepted sampled).mpr word

-- Both views show the same word, or neither shows one.
def ViewsAgree (registers : RegistersConfig) (runtime : RuntimeState) (register : Register) : Prop :=
  (∃ payload, readRegisterPayload registers runtime register.name = .ok payload ∧
    tcpRead registers runtime register = .ok (0x03 :: 0x02 :: bigEndian payload.raw)) ∨
  (∃ err, readRegisterPayload registers runtime register.name = .error err) ∧
    ∃ err, tcpRead registers runtime register = .error err

-- Where the register has a word, so has every other, and the last register at its address
-- has the same one.
def ViewsMatch (registers : RegistersConfig) (runtime : RuntimeState) (register : Register) : Prop :=
  ∀ raw, Word registers runtime register raw →
    (∀ other, ∃ word, Word registers runtime other word) ∧
      ∀ other, registers.resolveRead (registers.address register) = some other → Word registers runtime other raw

theorem register_views_agree_iff (accepted : validateRegistersConfig registers = .ok ()) (register : Register) :
    ViewsAgree registers runtime register ↔ ViewsMatch registers runtime register := by
  obtain ⟨other,resolved⟩ := resolveRead_some registers register
  constructor
  · intro agree raw word
    obtain ⟨payload,read,rfl⟩ := (readRegisterPayload_word accepted).mpr word
    obtain ⟨shown,first,second⟩ | ⟨⟨_,absurd⟩,_⟩ := agree
    · cases read.symm.trans first
      obtain ⟨all,answered,has,same⟩ := (tcpRead_word accepted resolved).mp second
      have words : bigEndian payload.raw = bigEndian answered := by simpa using same
      have ⟨_,_,_,fits⟩ := word
      have ⟨_,_,_,answeredFits⟩ := has
      refine ⟨all,fun another again => ?_⟩
      cases resolved.symm.trans again
      rw [bigEndian_inj fits answeredFits words]
      exact has
    · rw [read] at absurd
      cases absurd
  · intro matches_
    cases read : readRegisterPayload registers runtime register.name with
    | ok payload =>
        obtain ⟨all,same⟩ := matches_ payload.raw ((readRegisterPayload_word accepted).mp ⟨payload,read,rfl⟩)
        exact .inl ⟨payload,read,(tcpRead_word accepted resolved).mpr ⟨all,payload.raw,same other resolved,rfl⟩⟩
    | error err =>
        refine .inr ⟨⟨err,read⟩,?_⟩
        cases answered : tcpRead registers runtime register with
        | error refused => exact ⟨refused,rfl⟩
        | ok response =>
            obtain ⟨all,_⟩ := (tcpRead_word accepted resolved).mp answered
            obtain ⟨raw,word⟩ := all register
            obtain ⟨payload,shown,_⟩ := (readRegisterPayload_word accepted).mpr word
            rw [read] at shown
            cases shown

-- A reactor over the shipped registers, at a temperature that its sensor allows.
def readingRuntime (temperatureC : ℚ) : RuntimeState :=
  {RuntimeState.fromSafety .shipped with latestSample := some ⟨temperatureC,1/2,300,30,0,0,1,10,7,0⟩}

theorem shippedRegisters_accepted : validateRegistersConfig .shipped = .ok () := by
  decide +kernel

theorem register_views_agree_shipped : ViewsAgree .shipped (readingRuntime 50) (.sample .ph) := by
  apply (register_views_agree_iff shippedRegisters_accepted (.sample .ph)).mpr
  intro raw word
  have ph : Word .shipped (readingRuntime 50) (.sample .ph) 700 := ⟨7,rfl,by decide +kernel,by decide⟩
  cases word_unique ph word
  refine ⟨fun other => ?_,fun other resolved => ?_⟩
  · rcases other with sampled | target
    · cases sampled
      · exact ⟨500,50,rfl,by decide +kernel,by decide⟩
      · exact ⟨300,300,rfl,by decide +kernel,by decide⟩
      · exact ⟨50,1/2,rfl,by decide +kernel,by decide⟩
      · exact ⟨30,30,rfl,by decide +kernel,by decide⟩
      · exact ⟨4500,0,rfl,by decide +kernel,by decide⟩
      · exact ⟨100,1,rfl,by decide +kernel,by decide⟩
      · exact ⟨100,10,rfl,by decide +kernel,by decide⟩
      · exact ⟨700,ph⟩
    · cases target
      · exact ⟨600,60,rfl,by decide +kernel,by decide⟩
      · exact ⟨300,300,rfl,by decide +kernel,by decide⟩
      · exact ⟨30,30,rfl,by decide +kernel,by decide⟩
      · exact ⟨50,1/2,rfl,by decide +kernel,by decide⟩
      · exact ⟨300,300,rfl,by decide +kernel,by decide⟩
      · exact ⟨600,600,rfl,by decide +kernel,by decide⟩
      · exact ⟨180,180,rfl,by decide +kernel,by decide⟩
  · have here : RegistersConfig.shipped.resolveRead (RegistersConfig.shipped.address (.sample .ph)) = some (.sample .ph) := by
      decide
    cases here.symm.trans resolved
    exact ph

-- Below zero the temperature has no word, and no other register can be read over the wire.
theorem cold_reactor_unreadable :
    validateRegistersConfig .shipped = .ok () ∧ validateSensorSnapshot ⟨-5,1/2,300,30,0,0,1,10,7,0⟩ = .ok () ∧
      ¬ViewsAgree .shipped (readingRuntime (-5)) (.sample .ph) := by
  refine ⟨shippedRegisters_accepted,by decide +kernel,?_⟩
  have word : Word .shipped (readingRuntime (-5)) (.sample .ph) 700 := ⟨7,rfl,by decide +kernel,by decide⟩
  obtain ⟨payload,shown,_⟩ := (readRegisterPayload_word shippedRegisters_accepted).mpr word
  have refused : (tcpRead .shipped (readingRuntime (-5)) (.sample .ph)).toOption = none := by decide +kernel
  rintro (⟨_,_,answered⟩ | ⟨⟨_,absurd⟩,_⟩)
  · rw [answered] at refused
    cases refused
  · rw [shown] at absurd
    cases absurd

end ReactorOS
