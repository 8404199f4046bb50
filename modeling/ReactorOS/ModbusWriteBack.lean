import ReactorOS.LostUpdates
import ReactorOS.ModbusMap
import Mathlib.Tactic.FieldSimp
import Mathlib.Tactic.Ring
namespace ReactorOS
open Concurrency Journal Task Section Wire
variable {me : TaskId} {safety : SafetyConfig}

-- A read of the map succeeds where there is a sample and every value has a word.
def MapReadable (registers : RegistersConfig) (runtime : RuntimeState) : Prop :=
  ∃ sample, runtime.latestSample = some sample ∧
    ∀ register, ∃ raw, encoded registers sample runtime.targets register = .ok raw

theorem filled_ok_iff {registers : RegistersConfig} {sample : SensorSnapshot} {targets : ControlTargets}
    {order : List Register} {before : Points Nat} :
    (∃ values, order.foldlM (fun values register => insertRaw values (registers.address register)
      (register.value sample targets) (registers.scale register) (registers.offset register)) before = .ok values) ↔
    ∀ register ∈ order, ∃ raw, encoded registers sample targets register = .ok raw := by
  induction order generalizing before with
  | nil => exact ⟨fun _ => nofun,fun _ => ⟨before,rfl⟩⟩
  | cons register order ih =>
      rw [List.forall_mem_cons]
      constructor
      · intro ⟨values,filled⟩
        obtain ⟨after,inserted,filled⟩ := Wire.bind_ok filled
        obtain ⟨raw,encodes,_⟩ := map_ok inserted
        exact ⟨⟨raw,encodes⟩,ih.mp ⟨values,filled⟩⟩
      · intro ⟨⟨raw,encodes⟩,rest⟩
        obtain ⟨values,filled⟩ := (@ih ((registers.address register,raw) :: before)).mpr rest
        refine ⟨values,?_⟩
        rw [List.foldlM_cons,insertRaw]
        change ((encoded registers sample targets register).map _ >>= _) = _
        rw [encodes]
        exact filled

theorem mapReadable_iff {registers : RegistersConfig} {runtime : RuntimeState} :
    (∃ values, holdingRegisterValues registers runtime = .ok values) ↔ MapReadable registers runtime := by
  cases sampled : runtime.latestSample with
  | none => simp [holdingRegisterValues,MapReadable,sampled]
  | some sample =>
      rw [holdingRegisterValues_all sampled,filled_ok_iff]
      simp [MapReadable,sampled,Register.mem_all]

theorem readPoints_one {α : Type} (function : UInt8) (values : Points α) {address : Nat} (word : address < 65536) :
    readPoints function values address 1 = match values.lookup address with
      | none => .error ⟨function,0x02⟩
      | some value => .ok [value] := by
  have inside : ¬0x10000 < address+1 := by omega
  rw [readPoints,if_neg inside,List.range'_succ,List.range'_zero,List.mapM_cons,List.mapM_nil]
  cases values.lookup address <;> rfl

theorem readHoldingRegisters_one {registers : RegistersConfig} {runtime : RuntimeState} {address : Nat}
    (word : address < 65536) {response : List UInt8} :
    readHoldingRegisters registers runtime 0x03 (bigEndian address ++ bigEndian 1) = .ok response ↔
      ∃ values raw, holdingRegisterValues registers runtime = .ok values ∧ values.lookup address = some raw ∧
        response = 0x03 :: 0x02 :: bigEndian raw := by
  have start := fromBigEndian_bigEndian word
  have asked : readHoldingRegisters registers runtime 0x03 (bigEndian address ++ bigEndian 1) = (do
      let values ← holdingRegisterValues registers runtime
      let raws ← readPoints 0x03 values address 1
      return 0x03 :: 0x02 :: raws.flatMap bigEndian) := by
    have quantity : fromBigEndian (UInt8.ofNat (1/256)) (UInt8.ofNat 1) = 1 := by decide
    have asked : ¬(1 = 0 ∨ 125 < 1) := by decide
    simp only [bigEndian,List.cons_append,List.nil_append,readHoldingRegisters,start,quantity,if_neg asked]
    rfl
  rw [asked]
  constructor
  · intro read
    obtain ⟨values,filled,read⟩ := Wire.bind_ok read
    obtain ⟨raws,points,read⟩ := Wire.bind_ok read
    cases read
    rw [readPoints_one _ _ word] at points
    cases found : values.lookup address with
    | none => rw [found] at points; cases points
    | some raw =>
        rw [found] at points
        cases points
        exact ⟨values,raw,filled,found,by simp⟩
  · intro ⟨values,raw,filled,found,answered⟩
    rw [answered,filled]
    change (readPoints 0x03 values address 1 >>= _) = _
    rw [readPoints_one _ _ word,found]
    simp only [Wire.ok_bind rfl,List.flatMap_cons,List.flatMap_nil,List.append_nil]
    rfl

-- A section that goes through only over the targets it expects, and leaves others.
def Sets (expected targets : ControlTargets) (s : Critical Event.work me AppError Unit) : Prop :=
  ∀ e w, (s.run e w).1 = .ok () → w.state.runtime.targets = expected ∧ (s.run e w).2.state.runtime.targets = targets

theorem sets_after {α : Type} {expected targets : ControlTargets} {s : Critical Event.work me AppError α}
    {k : α → Critical Event.work me AppError Unit} (first : s.Keeps (Records Untargeted me))
    (rest : ∀ value, Sets expected targets (k value)) : Sets expected targets (s >>= k) := by
  intro e w done
  obtain ⟨new,own,same⟩ := first e w
  rw [run_bind] at done ⊢
  rcases ran : s.run e w with ⟨result,after⟩
  rw [ran] at same done
  simp only at same
  subst same
  cases result with
  | error err => cases done
  | ok value =>
      have kept := targets_untargeted (w := w) fun entry member => (own entry member).2
      obtain ⟨found,left⟩ := rest value e (w.extend new) done
      exact ⟨kept.symm.trans found,left⟩

theorem sets_committing {path : CommitPath} {latches : Option SafetyLatchGenerations} {expected targets : ControlTargets}
    {commit : Critical Event.work me AppError Unit} (sets : Sets expected targets commit) :
    Sets expected targets (committing path latches commit) := by
  intro e w done
  simp only [committing,run_bind,run_attempt,chain_ok,run_note,run_ofExcept] at done ⊢
  exact sets e w done

theorem sets_expected {expected targets : ControlTargets} {action : String} : Sets expected targets (do
    ensureExpectedCurrent (some expected) action
    change (.targetsSet targets) : Critical Event.work me AppError Unit) := by
  intro e w done
  by_cases stale : w.state.runtime.targets = expected
  · exact ⟨stale,by simp [ensureExpectedCurrent,stale,Change.apply]⟩
  · simp [ensureExpectedCurrent,stale] at done

-- What ends with a step that sets the targets, from those that were expected.
def EndsSetting (expected targets : ControlTargets) (moments : Moments) : Prop :=
  ∃ front last, moments = front ++ [last] ∧ last.before.state.runtime.targets = expected ∧
    last.after.state.runtime.targets = targets

theorem endsSetting_after {expected targets : ControlTargets} (earlier later : Moments)
    (ends : EndsSetting expected targets later) : EndsSetting expected targets (earlier ++ later) := by
  obtain ⟨front,last,whole,before,after⟩ := ends
  exact ⟨earlier ++ front,last,by rw [whole,List.append_assoc],before,after⟩

section Returning
variable {ε α β : Type} {Q : Moments → Prop}

-- What holds of the steps of a request that succeeds, by those at its end.
def Returning (Q : Moments → Prop) (moments : Moments) (result : Except ε α) : Prop :=
  (∃ value, result = .ok value) → Q moments

theorem returning_after {t : Handler Event.work me ε α} {k : α → Handler Event.work me ε β}
    (closed : ∀ earlier later, Q later → Q (earlier ++ later)) (rest : ∀ value, (k value).behaves (Returning Q)) :
    (t >>= k).behaves (Returning Q) := by
  apply behaves_seq (behaves_true t)
  · intro moments value _
    apply behaves_mono _ (rest value)
    intro later result holds returned
    exact closed moments later (holds returned)
  · intro moments err _ ⟨_,absurd⟩
    cases absurd

theorem returning_accepted {found : Except ε α} {k : α → Handler Event.work me ε β}
    (rest : ∀ value, found = .ok value → (k value).behaves (Returning Q)) :
    (Task.ofExcept found >>= k).behaves (Returning Q) := by
  apply behaves_ofExcept _ rest
  intro err _ ⟨_,absurd⟩
  cases absurd

theorem returning_pure {t : Handler Event.work me ε α} {f : α → β} (ends : t.behaves (Returning Q)) :
    (do let value ← t; return f value : Handler Event.work me ε β).behaves (Returning Q) := by
  rw [behaves_bind]
  apply behaves_mono _ ends
  intro moments result holds
  cases result with
  | error err => rintro ⟨_,absurd⟩; cases absurd
  | ok value =>
      intro _
      rw [List.append_nil]
      exact holds ⟨value,rfl⟩

theorem returning_answer {t : Handler Event.work me ε α} {f : ε → ModbusException} {answer : β}
    (ends : t.behaves (Returning Q)) :
    (do let _ ← t.mapError f; return answer : Handler Event.work me ModbusException β).behaves fun moments result =>
      ∀ value, result = .ok value → value = answer ∧ Q moments := by
  rw [behaves_bind,behaves_mapError]
  apply behaves_mono _ ends
  intro moments result holds
  cases result with
  | error err =>
      intro value absurd
      cases absurd
  | ok value =>
      intro echo same
      cases same
      rw [List.append_nil]
      exact ⟨rfl,holds ⟨value,rfl⟩⟩

end Returning

theorem commitTargets_sets (expected targets : ControlTargets) (mode : TargetUpdateInterlockMode)
    (latches : Option SafetyLatchGenerations) :
    (commitTargetsAfterFinalInterlock safety targets mode (some expected) latches : Handler Event.work me AppError Unit).behaves
      (Returning (EndsSetting expected targets)) := by
  unfold commitTargetsAfterFinalInterlock
  apply returning_after endsSetting_after
  intro unfinished
  have sets : Sets expected targets (committing .targets latches (do
        let runtime ← runtimeState
        ensure fun now => ensureTargetUpdateInterlockClear safety now runtime mode
        ensureSafetyLatchesUnchangedForCommit latches mode.description
        .ofExcept (ensurePersistedBatchStatusConsistent
          (unfinishedBatchStatusFromBatches unfinished runtime) runtime mode)
        ensureExpectedCurrent (some expected) mode.description
        change (.targetsSet targets)) : Critical Event.work me AppError Unit) := by
      apply sets_committing
      refine sets_after (keeps_silent silent_runtimeState) fun runtime => ?_
      refine sets_after (keeps_silent silent_ensure) fun _ => sets_after keeps_ensureSafetyLatchesUnchanged fun _ => ?_
      exact sets_after (keeps_silent (silent_ofExcept _)) fun _ => sets_expected
  intro e w ⟨_,passed⟩
  obtain ⟨before,after⟩ := sets e w passed
  exact ⟨[],_,rfl,before,after⟩

-- Sets the register to the value over the targets that it finds, in hundredths.
def Writes (register : TargetRegister) (value : ℚ) (moments : Moments) : Prop :=
  ∃ current, EndsSetting current (requestedTargets register value current).round2 moments

theorem writes_after {register : TargetRegister} {value : ℚ} (earlier later : Moments)
    (writes : Writes register value later) : Writes register value (earlier ++ later) := by
  obtain ⟨current,ends⟩ := writes
  exact ⟨current,endsSetting_after earlier later ends⟩

theorem parseTargetRegister_name (register : TargetRegister) : parseTargetRegister register.name = .ok register := by
  cases register <;> rfl

theorem applyModbusRegisterWrite_writes (registers : TargetRegister → WriteRegister) (register : TargetRegister)
    (value : ℚ) (reason : Option String) (actor : AuditActor) :
    (applyModbusRegisterWrite safety registers register.name value reason actor :
      Handler Event.work me AppError ModbusWriteResponse).behaves (Returning (Writes register value)) := by
  unfold applyModbusRegisterWrite
  rw [parseTargetRegister_name]
  simp only
  have closed := @writes_after register value
  have rest : (do
      let known ← Task.ofExcept (.ok register)
      Task.ofExcept (validateModbusRegisterWriteValue safety known value)
      let config := registers known
      let current ← locked readTargets
      let targets ← Task.ofExcept (validateModbusRegisterTargets safety (requestedTargets known value current))
      Task.ofExcept (ensureTargetsAllowed safety targets)
      let appliedValue := writeRegisterAppliedValue targets known
      let raw ← Task.ofExcept (encodeModbusRaw appliedValue config.scale config.offset)
      let runtime ← locked disableAutoAndAcknowledge
      timed fun now => ensureTargetUpdateInterlockClear safety now runtime .modbusDebugWrite
      locked (ensurePersistedBatchStateConsistent runtime .modbusDebugWrite)
      orInternal (within (insertControlEventSqlx none "modbus_register_write"
        (some (safeCommandFromRuntimeTargets targets (cleanLabel reason "" 240))) (cleanLabel reason "" 240) actor))
      commitTargetsAfterFinalInterlock safety targets .modbusDebugWrite (some current) (some (.fromRuntime runtime))
      return ⟨register.name,config.address,value,round2 appliedValue,raw,config.scale,config.offset,targets⟩ :
        Handler Event.work me AppError ModbusWriteResponse).behaves (Returning (Writes register value)) := by
    refine returning_accepted fun known same => ?_
    cases same
    refine returning_after closed fun _ => returning_after closed fun current => returning_accepted fun targets accepted => ?_
    refine returning_after closed fun _ => returning_after closed fun raw => returning_after closed fun runtime => ?_
    refine returning_after closed fun _ => returning_after closed fun _ => returning_after closed fun _ => ?_
    apply returning_pure
    apply behaves_mono _ (commitTargets_sets current targets _ _)
    intro moments result ends returned
    rw [(validateTargetSet_ok.mp accepted).2] at ends
    exact ⟨current,ends returned⟩
  split
  · exact returning_after closed fun _ => rest
  · exact rest

theorem accepted_scale {registers : RegistersConfig} (accepted : validateRegistersConfig registers = .ok ())
    (register : TargetRegister) : (registers.write register).scale ≠ 0 := by
  obtain ⟨_,_,targets⟩ := Wire.bind_ok accepted
  have checked := Wire.forM_ok targets register (by cases register <;> decide)
  intro zero
  simp [validateWriteRegister,ensureNonZero,zero] at checked

theorem encodeRaw_ok {value scale offset : ℚ} {raw : Nat} : encodeRaw value scale offset = .ok raw ↔
    scale ≠ 0 ∧ roundHalfAway ((value-offset)/scale) = raw ∧ raw < 65536 := by
  unfold encodeRaw
  by_cases zero : scale = 0
  · simp [zero]
  · rw [if_neg zero]
    simp only
    split
    · rename_i outside
      constructor
      · intro absurd
        cases absurd
      · intro ⟨_,same,word⟩
        rw [same] at outside
        omega
    · rename_i inside
      constructor
      · intro same
        cases same
        exact ⟨zero,by omega,by omega⟩
      · intro ⟨_,same,_⟩
        rw [same]
        rfl

-- The hundredths that a written word is stored in come back to the same word.
def Kept (config : WriteRegister) (raw : Nat) : Prop :=
  let value := raw*config.scale + config.offset
  let moved := (round2 value - value)/config.scale
  (if raw = 0 then -1/2 < moved else -1/2 ≤ moved) ∧ moved < 1/2

theorem kept_iff {config : WriteRegister} {raw : Nat} (scaled : config.scale ≠ 0) (word : raw < 65536) :
    encodeRaw (round2 (raw*config.scale + config.offset)) config.scale config.offset = .ok raw ↔ Kept config raw := by
  have shifted : (round2 (raw*config.scale + config.offset) - config.offset)/config.scale =
      raw + (round2 (raw*config.scale + config.offset) - (raw*config.scale + config.offset))/config.scale := by
    generalize round2 (raw*config.scale + config.offset) = stored
    field_simp
    ring
  rw [encodeRaw_ok,shifted,roundHalfAway_add]
  exact ⟨fun found => found.2.1,fun kept => ⟨scaled,kept,word⟩⟩

theorem find_mapped {α β : Type} {p : β → Bool} {f : α → β} {points : List α} {point : α} (listed : point ∈ points)
    (holds : p (f point) = true) : ∃ found, (points.map f).find? p = some (f found) := by
  cases hit : (points.map f).find? p with
  | none =>
      have absurd := List.find?_eq_none.mp hit (f point) (List.mem_map_of_mem listed)
      rw [holds] at absurd
      exact (absurd rfl).elim
  | some other =>
      obtain ⟨found,_,rfl⟩ := List.mem_map.mp (List.mem_of_find?_eq_some hit)
      exact ⟨found,rfl⟩

-- A target at the address is read instead of any sample there.
theorem resolveRead_target {registers : RegistersConfig} {address : Nat} {written : TargetRegister}
    (found : writeRegisterByAddress registers address = some written) :
    ∃ read, registers.resolveRead address = some (.target read) := by
  have here := writeRegisterByAddress_address found
  have listed : written ∈ TargetRegister.all.reverse := by cases written <;> decide
  obtain ⟨read,hit⟩ := find_mapped (f := Register.target) (p := fun register => registers.address register = address)
    listed (decide_eq_true here)
  refine ⟨read,?_⟩
  rw [RegistersConfig.resolveRead,Register.all,List.reverse_append,List.find?_append,← List.map_reverse,hit]
  rfl

theorem appliedValue_requested (written read : TargetRegister) (value : ℚ) (before : ControlTargets) :
    writeRegisterAppliedValue (requestedTargets written value before).round2 read =
      if read = written then round2 value else round2 (writeRegisterAppliedValue before read) := by
  cases written <;> cases read <;> rfl

theorem writeSingleRegister_writes (registers : RegistersConfig) {address raw : Nat} (place : address < 65536)
    (word : raw < 65536) : (writeSingleRegister safety registers 0x06 (bigEndian address ++ bigEndian raw) :
      Handler Event.work me ModbusException (List UInt8)).behaves fun moments result => ∀ echo, result = .ok echo →
        echo = 0x06 :: (bigEndian address ++ bigEndian raw) ∧ ∃ written, writeRegisterByAddress registers address = some written ∧
          Writes written (raw*(registers.write written).scale + (registers.write written).offset) moments := by
  simp only [bigEndian,List.cons_append,List.nil_append,writeSingleRegister,fromBigEndian_bigEndian place,
    fromBigEndian_bigEndian word]
  cases found : writeRegisterByAddress registers address with
  | none =>
      intro echo absurd
      cases absurd
  | some written =>
      have writes := @applyModbusRegisterWrite_writes me safety registers.write written
      simp only
      generalize applyModbusRegisterWrite safety registers.write written.name = applied at *
      apply behaves_mono _ (returning_answer (writes _ _ _))
      intro moments result holds echo same
      obtain ⟨echoed,writes⟩ := holds echo same
      exact ⟨echoed,written,rfl,writes⟩

-- What a read of the address gets is the written word: of the written register in hundredths,
-- or of the other target that the address stands for.
def ReadsBack (registers : RegistersConfig) (address raw : Nat) (before : ControlTargets) : Prop :=
  ∀ written read, writeRegisterByAddress registers address = some written →
    registers.resolveRead address = some (.target read) →
      if read = written then Kept (registers.write read) raw
      else encodeRaw (round2 (writeRegisterAppliedValue before read)) (registers.write read).scale
        (registers.write read).offset = .ok raw

theorem readsBack_iff {registers : RegistersConfig} (accepted : validateRegistersConfig registers = .ok ())
    {address raw : Nat} (word : raw < 65536) {written read : TargetRegister}
    (found : writeRegisterByAddress registers address = some written)
    (resolved : registers.resolveRead address = some (.target read)) (sample : SensorSnapshot) (before : ControlTargets) :
    encoded registers sample (requestedTargets written (raw*(registers.write written).scale +
      (registers.write written).offset) before).round2 (.target read) = .ok raw ↔ ReadsBack registers address raw before := by
  have only : ReadsBack registers address raw before ↔ if read = written then Kept (registers.write read) raw
      else encodeRaw (round2 (writeRegisterAppliedValue before read)) (registers.write read).scale
        (registers.write read).offset = .ok raw := by
    constructor
    · intro back
      exact back written read found resolved
    · intro back other another same again
      cases found.symm.trans same
      cases resolved.symm.trans again
      exact back
  rw [only]
  change encodeRaw (writeRegisterAppliedValue _ read) (registers.write read).scale (registers.write read).offset = _ ↔ _
  rw [appliedValue_requested]
  by_cases same : read = written
  · subst same
    rw [if_pos rfl,if_pos rfl]
    exact kept_iff (accepted_scale accepted read) word
  · rw [if_neg same,if_neg same]

theorem bigEndian_inj {one other : Nat} (fits : one < 65536) (also : other < 65536)
    (same : bigEndian one = bigEndian other) : one = other := by
  obtain ⟨high,rest⟩ := List.cons.inj same
  obtain ⟨low,_⟩ := List.cons.inj rest
  rw [← fromBigEndian_bigEndian fits,high,low,fromBigEndian_bigEndian also]

-- A read of the address, over the targets that a write there has left.
theorem read_after_write {registers : RegistersConfig} (accepted : validateRegistersConfig registers = .ok ())
    {address raw : Nat} (place : address < 65536) (word : raw < 65536) {written : TargetRegister}
    (found : writeRegisterByAddress registers address = some written) {before : ControlTargets} {runtime : RuntimeState}
    (left : runtime.targets = (requestedTargets written (raw*(registers.write written).scale +
      (registers.write written).offset) before).round2) :
    readHoldingRegisters registers runtime 0x03 (bigEndian address ++ bigEndian 1) = .ok (0x03 :: 0x02 :: bigEndian raw) ↔
      MapReadable registers runtime ∧ ReadsBack registers address raw before := by
  obtain ⟨read,resolved⟩ := resolveRead_target found
  rw [readHoldingRegisters_one place,← mapReadable_iff]
  constructor
  · intro ⟨values,got,filled,looked,answered⟩
    obtain ⟨sample,sampled,_⟩ := mapReadable_iff.mp ⟨values,filled⟩
    rw [holdingRegisterValues_lookup sampled filled,resolved] at looked
    change (encoded registers sample runtime.targets (.target read)).toOption = some got at looked
    cases encodes : encoded registers sample runtime.targets (.target read) with
    | error err =>
        rw [encodes] at looked
        cases looked
    | ok stored =>
        rw [encodes] at looked
        cases looked
        have fits := (encodeRaw_ok.mp encodes).2.2
        have same : got = raw := by
          refine bigEndian_inj fits word ?_
          simpa using answered.symm
        subst same
        rw [left] at encodes
        exact ⟨⟨values,filled⟩,(readsBack_iff accepted word found resolved sample before).mp encodes⟩
  · intro ⟨⟨values,filled⟩,back⟩
    obtain ⟨sample,sampled,_⟩ := mapReadable_iff.mp ⟨values,filled⟩
    have encodes := (readsBack_iff accepted word found resolved sample before).mpr back
    refine ⟨values,raw,filled,?_,rfl⟩
    rw [holdingRegisterValues_lookup sampled filled,resolved,left]
    change (encoded registers sample _ (.target read)).toOption = some raw
    rw [encodes]
    rfl

theorem fc03_after_fc06_iff (registers : RegistersConfig) (accepted : validateRegistersConfig registers = .ok ())
    (register : TargetRegister) {raw : Nat} (word : raw < 65536) :
    (writeSingleRegister safety registers 0x06 (bigEndian (registers.write register).address ++ bigEndian raw) :
      Handler Event.work me ModbusException (List UInt8)).behaves fun moments result => ∀ echo, result = .ok echo →
        echo = 0x06 :: (bigEndian (registers.write register).address ++ bigEndian raw) ∧
        ∃ front last, moments = front ++ [last] ∧ ∀ runtime, runtime.targets = last.after.state.runtime.targets →
          (readHoldingRegisters registers runtime 0x03 (bigEndian (registers.write register).address ++ bigEndian 1) =
            .ok (0x03 :: 0x02 :: bigEndian raw) ↔ MapReadable registers runtime ∧
              ReadsBack registers (registers.write register).address raw last.before.state.runtime.targets) := by
  have place := registers.writeFits register
  have writes := @writeSingleRegister_writes me safety registers _ _ place word
  generalize writeSingleRegister safety registers 0x06 _ = request at writes
  apply behaves_mono _ writes
  intro moments result holds echo returned
  obtain ⟨echoed,written,found,current,front,last,whole,before,after⟩ := holds echo returned
  refine ⟨echoed,front,last,whole,fun runtime left => ?_⟩
  rw [before]
  exact read_after_write accepted place word found (left.trans after)

theorem fc03_after_fc06_shipped : validateRegistersConfig .shipped = .ok () ∧ 600 < 65536 ∧
    (writeSingleRegister .shipped .shipped 0x06 (bigEndian 10 ++ bigEndian 600) :
      Handler Event.work 1 ModbusException (List UInt8)).behaves fun moments result => ∀ echo, result = .ok echo →
        echo = 0x06 :: (bigEndian 10 ++ bigEndian 600) ∧
        ∃ front last, moments = front ++ [last] ∧ ∀ runtime, runtime.targets = last.after.state.runtime.targets →
          (readHoldingRegisters .shipped runtime 0x03 (bigEndian 10 ++ bigEndian 1) = .ok (0x03 :: 0x02 :: bigEndian 600) ↔
            MapReadable .shipped runtime ∧ ReadsBack .shipped 10 600 last.before.state.runtime.targets) :=
  ⟨by decide +kernel,by omega,fc03_after_fc06_iff .shipped (by decide +kernel) .targetTemperatureC (by omega)⟩

-- The shipped registers with the target temperature in thousandths of a degree.
def RegistersConfig.finer : RegistersConfig where
  read := shipped.read
  write register := if register = .targetTemperatureC then ⟨10,1/1000,0⟩ else shipped.write register
  readFits := shipped.readFits
  writeFits register := by cases register <;> decide

-- The daemon once its control loop has taken a sample.
def Site.sampled : World :=
  ((Site.shipped.daemon fun _ => .controlLoop .simulation 1).run (healthy [0,0,0,0,0,0,0])).world

-- 60.004 °C is written and echoed, 60 °C is what is read back.
theorem thousandths_read_back_as_hundredths :
    let request : Handler Event.work 1 ModbusException (List UInt8) :=
      writeSingleRegister .shipped .finer 0x06 (bigEndian 10 ++ bigEndian 60004)
    let written := request.drive (fun _ => .healthy) Site.sampled
    validateRegistersConfig .finer = .ok () ∧ written.1 = .ok (0x06 :: (bigEndian 10 ++ bigEndian 60004)) ∧
      readHoldingRegisters .finer written.2.state.runtime 0x03 (bigEndian 10 ++ bigEndian 1) =
        .ok (0x03 :: 0x02 :: bigEndian 60000) ∧ bigEndian 60000 ≠ bigEndian 60004 := by
  decide +kernel

end ReactorOS
