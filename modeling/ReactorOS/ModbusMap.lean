import ReactorOS.ModbusTcp
import ReactorOS.Wire.Fields
namespace ReactorOS
open Wire

inductive Register where
  | sample (register : SampleRegister)
  | target (register : TargetRegister)
  deriving DecidableEq

-- In the order in which they are put on the map.
def Register.all : List Register := SampleRegister.all.map .sample ++ TargetRegister.all.map .target

namespace RegistersConfig
variable (registers : RegistersConfig)

def address : Register → Nat
  | .sample register => (registers.read register).address
  | .target register => (registers.write register).address

def scale : Register → ℚ
  | .sample register => (registers.read register).scale
  | .target register => (registers.write register).scale

def offset : Register → ℚ
  | .sample register => (registers.read register).offset
  | .target register => (registers.write register).offset

-- The register whose value a read at an address gets: the last that was put there.
def resolveRead (address : Nat) : Option Register := Register.all.reverse.find? fun register => registers.address register = address

end RegistersConfig

def Register.value (sample : SensorSnapshot) (targets : ControlTargets) : Register → ℚ
  | .sample register => register.value sample
  | .target register => writeRegisterAppliedValue targets register

def encoded (registers : RegistersConfig) (sample : SensorSnapshot) (targets : ControlTargets) (register : Register) :
    Except ModbusException Nat :=
  encodeRaw (register.value sample targets) (registers.scale register) (registers.offset register)

theorem Register.mem_all (register : Register) : register ∈ Register.all := by
  cases register with
  | sample register => cases register <;> decide
  | target register => cases register <;> decide

theorem foldlM_map {α β γ ε : Type} (f : γ → β → Except ε γ) (g : α → β) (points : List α) (first : γ) :
    (points.map g).foldlM f first = points.foldlM (fun found point => f found (g point)) first := by
  induction points generalizing first with
  | nil => rfl
  | cons point points ih =>
      rw [List.map_cons,List.foldlM_cons,List.foldlM_cons]
      exact congrArg (f first (g point) >>= ·) (funext fun found => ih found)

theorem holdingRegisterValues_all {registers : RegistersConfig} {runtime : RuntimeState} {sample : SensorSnapshot}
    (sampled : runtime.latestSample = some sample) : holdingRegisterValues registers runtime =
      Register.all.foldlM (fun values register => insertRaw values (registers.address register)
        (register.value sample runtime.targets) (registers.scale register) (registers.offset register)) [] := by
  unfold holdingRegisterValues Register.all
  rw [sampled,List.foldlM_append]
  simp only [foldlM_map]
  rfl

-- A map that is filled one register after the other holds at an address what the last
-- register put there says.
theorem filled_lookup {registers : RegistersConfig} {sample : SensorSnapshot} {targets : ControlTargets}
    {order : List Register} {values : Points Nat}
    (filled : order.foldlM (fun values register => insertRaw values (registers.address register)
      (register.value sample targets) (registers.scale register) (registers.offset register)) [] = .ok values)
    (address : Nat) : values.lookup address =
      (order.reverse.find? fun register => registers.address register = address).bind fun register =>
        (encoded registers sample targets register).toOption := by
  induction order using List.reverseRecOn generalizing values with
  | nil => cases filled; rfl
  | append_singleton order register ih =>
      rw [List.foldlM_append] at filled
      obtain ⟨before,earlier,filled⟩ := bind_ok filled
      obtain ⟨after,inserted,filled⟩ := bind_ok filled
      cases filled
      obtain ⟨raw,encodes,rfl⟩ := map_ok inserted
      rw [List.reverse_append,List.reverse_singleton,List.singleton_append,List.find?_cons]
      by_cases here : registers.address register = address
      · have put : encoded registers sample targets register = .ok raw := encodes
        simp [here,put,Except.toOption]
      · have other : (address == registers.address register) = false := by simpa using Ne.symm here
        rw [List.lookup_cons,other]
        simpa [here] using ih earlier

-- What a read finds at an address is the value of the register that it resolves to.
theorem holdingRegisterValues_lookup {registers : RegistersConfig} {runtime : RuntimeState} {sample : SensorSnapshot}
    {values : Points Nat} (sampled : runtime.latestSample = some sample)
    (filled : holdingRegisterValues registers runtime = .ok values) (address : Nat) :
    values.lookup address = (registers.resolveRead address).bind fun register =>
      (encoded registers sample runtime.targets register).toOption := by
  rw [holdingRegisterValues_all sampled] at filled
  exact filled_lookup filled address

theorem find_only {α : Type} {p : α → Bool} {points : List α} {point : α} (listed : point ∈ points)
    (holds : p point = true) (only : ∀ other, p other = true → other = point) : points.find? p = some point := by
  cases found : points.find? p with
  | none =>
      have absurd := List.find?_eq_none.mp found point listed
      rw [holds] at absurd
      exact (absurd rfl).elim
  | some other => rw [only other (List.find?_some found)]

theorem resolveRead_iff (registers : RegistersConfig) :
    (∀ register, registers.resolveRead (registers.address register) = some register) ↔
      ∀ one other, registers.address one = registers.address other → one = other := by
  constructor
  · intro resolves one other same
    have first := resolves one
    rw [same,resolves other] at first
    exact (Option.some.inj first).symm
  · intro distinct register
    exact find_only (List.mem_reverse.mpr register.mem_all) (by simp) fun other same =>
      distinct other register (by simpa using same)

theorem writeRegisterByAddress_address {registers : RegistersConfig} {address : Nat} {target : TargetRegister}
    (found : writeRegisterByAddress registers address = some target) : (registers.write target).address = address := by
  simpa using List.find?_some found

-- Every address belongs to one register, for reads and for writes.
structure Unambiguous (registers : RegistersConfig) : Prop where
  read : ∀ register, registers.resolveRead (registers.address register) = some register
  write : ∀ target, writeRegisterByAddress registers (registers.address (.target target)) = some target
  unwritable : ∀ register target, writeRegisterByAddress registers (registers.address register) = some target →
    register = .target target
  registersApart : ∀ one other, registers.address one = registers.address other → one = other
  coilsApart : ∀ runtime unfinished, ((coilValues runtime unfinished).map Prod.fst).Nodup
  inputsApart : ∀ safety limits now runtime unfinished recovery,
    ((discreteInputValues safety limits now runtime unfinished recovery).map Prod.fst).Nodup

theorem unambiguous_iff (registers : RegistersConfig) : Unambiguous registers ↔
    ∀ one other, registers.address one = registers.address other → one = other := by
  constructor
  · intro unambiguous
    exact (resolveRead_iff registers).mp unambiguous.read
  · intro distinct
    refine ⟨(resolveRead_iff registers).mpr distinct,?_,?_,distinct,?_,?_⟩
    · intro target
      refine find_only (by cases target <;> decide) (by simp [RegistersConfig.address]) fun other same => ?_
      exact Register.target.inj (distinct (.target other) (.target target) (of_decide_eq_true same))
    · intro register target found
      exact distinct register (.target target) (writeRegisterByAddress_address found).symm
    · intro runtime unfinished
      simp [coilValues]
    · intro safety limits now runtime unfinished recovery
      simp [discreteInputValues]

theorem address_map_unambiguous_iff (registers : RegistersConfig)
    (_accepted : validateRegistersConfig registers = .ok ()) :
    (∀ runtime sample values, runtime.latestSample = some sample → holdingRegisterValues registers runtime = .ok values →
      ∀ address, values.lookup address = (registers.resolveRead address).bind fun register =>
        (encoded registers sample runtime.targets register).toOption) ∧
    (Unambiguous registers ↔ ∀ one other, registers.address one = registers.address other → one = other) :=
  ⟨fun _ _ _ sampled filled => holdingRegisterValues_lookup sampled filled,unambiguous_iff registers⟩

theorem address_map_unambiguous_shipped : validateRegistersConfig .shipped = .ok () ∧ Unambiguous .shipped := by
  refine ⟨by decide +kernel,(address_map_unambiguous_iff .shipped (by decide +kernel)).2.mpr ?_⟩
  intro one other
  rcases one with one | one <;> rcases other with other | other <;> cases one <;> cases other <;>
    simp [RegistersConfig.address,RegistersConfig.shipped]

-- The shipped registers with the heating time at the address of the target temperature.
def RegistersConfig.clashing : RegistersConfig where
  read := shipped.read
  write register := if register = .heatTimeS then ⟨10,1,0⟩ else shipped.write register
  readFits := shipped.readFits
  writeFits register := by cases register <;> decide

theorem heat_time_written_as_temperature :
    ¬∀ registers, validateRegistersConfig registers = .ok () → Unambiguous registers := by
  intro holds
  have unambiguous := holds .clashing (by decide +kernel)
  have found : writeRegisterByAddress .clashing 10 = some .targetTemperatureC := by decide
  have wanted : writeRegisterByAddress .clashing 10 = some .heatTimeS := unambiguous.write .heatTimeS
  rw [found] at wanted
  cases wanted

end ReactorOS
