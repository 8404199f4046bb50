import ReactorOS.ModbusStream
import ReactorOS.Wire.Bits
namespace ReactorOS
open Concurrency Journal Task Wire
variable {me : TaskId}

-- What goes into the answer in the place of a result, as `unwrap_or_else` has it.
def answerOf : Except ModbusException (List UInt8) → List UInt8
  | .ok response => response
  | .error err => exceptionResponse err.function err.code

-- A request of five bytes for points that are all there.
structure ReadRequest {α : Type} (limit : Nat) (values : Points α) (pdu : List UInt8) (start quantity : Nat) : Prop where
  bytes : ∃ function startHigh startLow quantityHigh quantityLow,
    pdu = [function,startHigh,startLow,quantityHigh,quantityLow] ∧
      start = fromBigEndian startHigh startLow ∧ quantity = fromBigEndian quantityHigh quantityLow
  counted : 1 ≤ quantity ∧ quantity ≤ limit
  inside : start+quantity ≤ 65536
  mapped : ∀ index < quantity, ∃ value, values.lookup (start+index) = some value

-- One bit a point, and nothing in the bits that are left of the last byte.
structure BitAnswer (values : Points Bool) (start quantity : Nat) (function : UInt8) (response : List UInt8) : Prop where
  framed : ∃ byteCount payload, response = function :: byteCount :: payload ∧
    byteCount.toNat = (quantity+7)/8 ∧ payload.length = (quantity+7)/8 ∧
    (∀ index < quantity, values.lookup (start+index) = some (bit payload index)) ∧
    ∀ index, quantity ≤ index → bit payload index = false

-- One word a point, the high byte first.
structure WordAnswer (values : Points Nat) (start quantity : Nat) (function : UInt8) (response : List UInt8) : Prop where
  framed : ∃ byteCount, ∃ raws : List Nat, response = function :: byteCount :: raws.flatMap bigEndian ∧
    byteCount.toNat = 2*quantity ∧ raws.length = quantity ∧
    ∀ index < quantity, values.lookup (start+index) = raws[index]?

-- The answer is the exact one where the request may be answered, else an exception of two bytes.
def Exact (function : UInt8) (asked : Nat → Nat → Prop) (answers : Nat → Nat → List UInt8 → Prop)
    (result : Except ModbusException (List UInt8)) : Prop :=
  (∃ start quantity response, asked start quantity ∧ result = .ok response ∧ answers start quantity response) ∨
    (¬∃ start quantity, asked start quantity) ∧ ∃ code, result = .error ⟨function,code⟩

theorem exact_error {function : UInt8} {asked : Nat → Nat → Prop} {answers : Nat → Nat → List UInt8 → Prop}
    {err : ModbusException} (unasked : ¬∃ start quantity, asked start quantity) (named : err.function = function) :
    Exact function asked answers (.error err) := by
  cases named
  exact .inr ⟨unasked,err.code,rfl⟩

section
variable {α : Type} {function : UInt8} {values : Points α} {start quantity : Nat}

-- A point as the loop looks it up.
def pointAt (function : UInt8) (values : Points α) (address : Nat) : Except ModbusException α :=
  match values.lookup address with
  | none => .error ⟨function,0x02⟩
  | some value => .ok value

theorem point_ok {address : Nat} {value : α} :
    pointAt function values address = .ok value ↔ values.lookup address = some value := by
  unfold pointAt
  cases values.lookup address <;> simp

theorem point_error {address : Nat} {err : ModbusException} (failed : pointAt function values address = .error err) :
    err.function = function := by
  unfold pointAt at failed
  split at failed
  · cases failed
    rfl
  · cases failed

theorem readPoints_inside (inside : start+quantity ≤ 65536) :
    readPoints function values start quantity = (List.range' start quantity).mapM (pointAt function values) := by
  unfold readPoints
  rw [if_neg (not_lt.mpr inside)]
  rfl

theorem readPoints_outside (outside : ¬start+quantity ≤ 65536) :
    readPoints function values start quantity = .error ⟨function,0x02⟩ := by
  unfold readPoints
  rw [if_pos (not_le.mp outside)]

theorem readPoints_ok {found : List α} : readPoints function values start quantity = .ok found ↔
    start+quantity ≤ 65536 ∧ found.length = quantity ∧
      ∀ index < quantity, values.lookup (start+index) = found[index]? := by
  by_cases inside : start+quantity ≤ 65536
  · rw [readPoints_inside inside,mapM_ok,List.forall₂_iff_get]
    simp only [List.get_eq_getElem,List.getElem_range',Nat.one_mul,List.length_range',point_ok]
    constructor
    · intro ⟨length,each⟩
      refine ⟨inside,length.symm,fun index below => ?_⟩
      rw [each index below (length ▸ below),List.getElem?_eq_getElem (length ▸ below)]
    · intro ⟨_,length,each⟩
      refine ⟨length.symm,fun index below there => ?_⟩
      rw [each index below,List.getElem?_eq_getElem there]
  · rw [readPoints_outside inside]
    constructor
    · intro absurd
      cases absurd
    · intro ⟨fits,_⟩
      exact absurd fits inside

theorem readPoints_mapped (inside : start+quantity ≤ 65536)
    (mapped : ∀ index < quantity, ∃ value, values.lookup (start+index) = some value) :
    ∃ found, readPoints function values start quantity = .ok found := by
  rw [readPoints_inside inside]
  apply mapM_all
  intro address listed
  obtain ⟨index,below,rfl⟩ := List.mem_range'.mp listed
  obtain ⟨value,found⟩ := mapped index below
  rw [Nat.one_mul]
  exact ⟨value,point_ok.mpr found⟩

theorem readPoints_error {err : ModbusException} (failed : readPoints function values start quantity = .error err) :
    err.function = function := by
  by_cases inside : start+quantity ≤ 65536
  · rw [readPoints_inside inside] at failed
    obtain ⟨address,_,refused⟩ := mapM_error failed
    exact point_error refused
  · rw [readPoints_outside inside] at failed
    cases failed
    rfl

end

-- The bits of a byte that is packed from at most eight of them.
theorem packByte_bits {bits : List Bool} (few : bits.length ≤ 8) :
    (packByte bits).toNat < 2^bits.length ∧ ∀ index, (packByte bits).toNat.testBit index = bits.getD index false := by
  induction bits with
  | nil =>
      refine ⟨by decide,fun index => ?_⟩
      exact Nat.zero_testBit index
  | cons first bits ih =>
      have fewer : bits.length+1 ≤ 8 := few
      obtain ⟨small,each⟩ := ih (by omega)
      have one : first.toNat ≤ 1 := Bool.toNat_le first
      have room : 2^(bits.length+1) ≤ 2^8 := Nat.pow_le_pow_right (by omega) fewer
      have doubled : (packByte (first :: bits)).toNat = 2*(packByte bits).toNat + first.toNat := by
        have step : packByte (first :: bits) = packByte bits*2 + UInt8.ofNat first.toNat := rfl
        rw [step,UInt8.toNat_add,UInt8.toNat_mul,UInt8.toNat_ofNat',UInt8.toNat_ofNat]
        have two : 2 % 2^8 = 2 := rfl
        rw [Nat.pow_succ] at room
        rw [two]
        omega
      rw [doubled]
      constructor
      · rw [List.length_cons,Nat.pow_succ]
        omega
      · intro index
        cases index with
        | zero => cases first <;> simp [Nat.testBit_zero]
        | succ index =>
            rw [Nat.testBit_succ,List.getD_cons_succ,← each index]
            congr 1
            omega

theorem packBits_bit {byteCount : Nat} {bits : List Bool} (room : bits.length ≤ 8*byteCount) (index : Nat) :
    bit (packBits byteCount bits) index = bits.getD index false := by
  by_cases inside : index/8 < byteCount
  · have few : ((bits.drop (8*(index/8))).take 8).length ≤ 8 := by simp
    unfold bit packBits
    rw [List.getD_eq_getElem _ _ (by simpa using inside),List.getElem_map,List.getElem_range,(packByte_bits few).2]
    have lower : index%8 < 8 := Nat.mod_lt _ (by omega)
    have whole : 8*(index/8) + index%8 = index := Nat.div_add_mod index 8
    rw [List.getD_eq_getElem?_getD,List.getElem?_take_of_lt lower,List.getElem?_drop,whole,List.getD_eq_getElem?_getD]
  · rw [bit_beyond (by simp [packBits]; omega),List.getD_eq_default _ _ (by omega)]

theorem encodeRaw_function {value scale offset : ℚ} {err : ModbusException}
    (failed : encodeRaw value scale offset = .error err) : err.function = 0x03 := by
  unfold encodeRaw at failed
  split at failed
  · cases failed
    rfl
  · simp only at failed
    split at failed
    · cases failed
      rfl
    · cases failed

theorem foldlM_error {ε α β : Type} {f : β → α → Except ε β} {rows : List α} {first : β} {err : ε}
    (failed : rows.foldlM f first = .error err) : ∃ before row, f before row = .error err := by
  induction rows generalizing first with
  | nil => cases failed
  | cons row rows ih =>
      rw [List.foldlM_cons] at failed
      cases here : f first row with
      | error refused =>
          rw [here] at failed
          cases failed
          exact ⟨first,row,here⟩
      | ok next =>
          rw [here] at failed
          exact ih failed

theorem insertRaw_function {values : Points Nat} {address : Nat} {value scale offset : ℚ} {err : ModbusException}
    (failed : insertRaw values address value scale offset = .error err) : err.function = 0x03 := by
  unfold insertRaw at failed
  cases encoded : encodeRaw value scale offset with
  | ok raw =>
      rw [encoded] at failed
      cases failed
  | error refused =>
      rw [encoded] at failed
      cases failed
      exact encodeRaw_function encoded

theorem holdingRegisterValues_function {registers : RegistersConfig} {runtime : RuntimeState} {err : ModbusException}
    (failed : holdingRegisterValues registers runtime = .error err) : err.function = 0x03 := by
  unfold holdingRegisterValues at failed
  split at failed
  · cases failed
    rfl
  · rename_i sample _
    cases sampled : SampleRegister.all.foldlM (fun values register =>
        insertRaw values (registers.read register).address (register.value sample) (registers.read register).scale
          (registers.read register).offset) [] with
    | error refused =>
        rw [sampled] at failed
        cases failed
        obtain ⟨_,_,refuses⟩ := foldlM_error sampled
        exact insertRaw_function refuses
    | ok values =>
        rw [sampled] at failed
        obtain ⟨_,_,refuses⟩ := foldlM_error failed
        exact insertRaw_function refuses

-- A request that is not of five bytes asks for nothing.
theorem request_length {α : Type} {limit : Nat} {values : Points α} {function : UInt8} {data : List UInt8}
    (other : ∀ startHigh startLow quantityHigh quantityLow, data ≠ [startHigh,startLow,quantityHigh,quantityLow]) :
    ¬∃ start quantity, ReadRequest limit values (function :: data) start quantity := by
  intro reached
  rcases reached with ⟨start,quantity,asked⟩
  obtain ⟨_,startHigh,startLow,quantityHigh,quantityLow,same,_⟩ := asked.bytes
  cases same
  exact other _ _ _ _ rfl

-- What five bytes ask for.
theorem request_iff {α : Type} {limit : Nat} {values : Points α} {function startHigh startLow quantityHigh quantityLow : UInt8} :
    (∃ start quantity, ReadRequest limit values [function,startHigh,startLow,quantityHigh,quantityLow] start quantity) ↔
      ReadRequest limit values [function,startHigh,startLow,quantityHigh,quantityLow] (fromBigEndian startHigh startLow)
        (fromBigEndian quantityHigh quantityLow) := by
  constructor
  · intro reached
    rcases reached with ⟨start,quantity,asked⟩
    obtain ⟨_,_,_,_,_,same,rfl,rfl⟩ := asked.bytes
    cases same
    exact asked
  · intro asked
    exact ⟨_,_,asked⟩

theorem byteCount_toNat {count : Nat} (small : count < 256) : (UInt8.ofNat count).toNat = count := by
  rw [UInt8.toNat_ofNat',Nat.mod_eq_of_lt small]

theorem readBoolPoints_exact (values : Points Bool) (function : UInt8) (data : List UInt8) :
    Exact function (ReadRequest 2000 values (function :: data)) (fun start quantity => BitAnswer values start quantity function)
      (readBoolPoints values function data) := by
  unfold readBoolPoints
  split
  · rename_i startHigh startLow quantityHigh quantityLow
    by_cases refused : fromBigEndian quantityHigh quantityLow = 0 ∨ 2000 < fromBigEndian quantityHigh quantityLow
    · simp only [refused,if_true]
      refine exact_error ?_ rfl
      rw [request_iff]
      intro asked
      have counted := asked.counted
      omega
    · simp only [refused,if_false]
      cases read : readPoints function values (fromBigEndian startHigh startLow)
          (fromBigEndian quantityHigh quantityLow) with
      | error err =>
          refine exact_error ?_ (readPoints_error read)
          rw [request_iff]
          intro asked
          obtain ⟨found,mapped⟩ := @readPoints_mapped _ function _ _ _ asked.inside asked.mapped
          rw [read] at mapped
          cases mapped
      | ok bits =>
          obtain ⟨inside,length,each⟩ := readPoints_ok.mp read
          have packed (index : Nat) := @packBits_bit ((fromBigEndian quantityHigh quantityLow+7)/8) bits (by omega) index
          refine .inl ⟨_,_,_,⟨⟨function,_,_,_,_,rfl,rfl,rfl⟩,by omega,inside,?_⟩,rfl,_,_,rfl,?_,?_,?_,?_⟩
          · intro index below
            rw [each index below,List.getElem?_eq_getElem (by omega)]
            exact ⟨_,rfl⟩
          · exact byteCount_toNat (by omega)
          · simp [packBits]
          · intro index below
            rw [each index below,packed,List.getElem?_eq_getElem (by omega),List.getD_eq_getElem _ _ (by omega)]
          · intro index beyond
            rw [packed,List.getD_eq_default _ _ (by omega)]
  · rename_i other
    refine exact_error (request_length ?_) rfl
    intro startHigh startLow quantityHigh quantityLow same
    exact other _ _ _ _ same

theorem readHoldingRegisters_exact (registers : RegistersConfig) (runtime : RuntimeState) (data : List UInt8) :
    Exact 0x03 (fun start quantity => ∃ values, holdingRegisterValues registers runtime = .ok values ∧
        ReadRequest 125 values (0x03 :: data) start quantity)
      (fun start quantity response => ∃ values, holdingRegisterValues registers runtime = .ok values ∧
        WordAnswer values start quantity 0x03 response)
      (readHoldingRegisters registers runtime 0x03 data) := by
  unfold readHoldingRegisters
  split
  · rename_i startHigh startLow quantityHigh quantityLow
    by_cases refused : fromBigEndian quantityHigh quantityLow = 0 ∨ 125 < fromBigEndian quantityHigh quantityLow
    · simp only [refused,if_true]
      refine exact_error ?_ rfl
      intro reached
      rcases reached with ⟨start,quantity,values,_,asked⟩
      have counted := (request_iff.mp ⟨start,quantity,asked⟩).counted
      omega
    · simp only [refused,if_false]
      cases filled : holdingRegisterValues registers runtime with
      | error err =>
          refine exact_error ?_ (holdingRegisterValues_function filled)
          intro reached
          rcases reached with ⟨start,quantity,values,absurd,_⟩
          cases absurd
      | ok values =>
          cases read : readPoints 0x03 values (fromBigEndian startHigh startLow)
              (fromBigEndian quantityHigh quantityLow) with
          | error err =>
              rw [Wire.ok_bind rfl,read]
              refine exact_error ?_ (readPoints_error read)
              intro reached
              rcases reached with ⟨start,quantity,_,same,asked⟩
              cases same
              have asked := request_iff.mp ⟨start,quantity,asked⟩
              obtain ⟨found,mapped⟩ := @readPoints_mapped _ 0x03 _ _ _ asked.inside asked.mapped
              rw [read] at mapped
              cases mapped
          | ok raws =>
              obtain ⟨inside,length,each⟩ := readPoints_ok.mp read
              refine .inl ⟨_,_,_,⟨values,rfl,⟨0x03,_,_,_,_,rfl,rfl,rfl⟩,by omega,inside,?_⟩,
                by rw [Wire.ok_bind rfl,read]; rfl,values,rfl,_,raws,rfl,?_,length,each⟩
              · intro index below
                rw [each index below,List.getElem?_eq_getElem (by omega)]
                exact ⟨_,rfl⟩
              · rw [byteCount_toNat (by omega),Nat.mul_comm]
  · rename_i other
    refine exact_error ?_ rfl
    intro reached
    rcases reached with ⟨start,quantity,values,_,asked⟩
    refine request_length ?_ ⟨start,quantity,asked⟩
    intro startHigh startLow quantityHigh quantityLow same
    exact other _ _ _ _ same

-- Sums, products and shifts in the widths that the source gives them, nothing where one does
-- not fit.
def checkedAdd (bits one other : Nat) : Option Nat := if one+other < 2^bits then some (one+other) else none

def checkedMul (bits one other : Nat) : Option Nat := if one*other < 2^bits then some (one*other) else none

def checkedShift (amount : Nat) : Option UInt8 := if amount < 8 then some (mask amount) else none

theorem checkedAdd_fits {bits one other : Nat} (fits : one+other < 2^bits) :
    checkedAdd bits one other = some (one+other) := if_pos fits

-- The two loops as the source runs them.
def setPoints (values : Points Bool) (function : UInt8) (start : Nat) :
    List Nat → List UInt8 → Option (Except ModbusException (List UInt8))
  | [],bytes => some (.ok bytes)
  | index :: rest,bytes => do
      let address ← checkedAdd 32 start index
      match values.lookup (address % 65536) with
      | none => return .error ⟨function,0x02⟩
      | some false => setPoints values function start rest bytes
      | some true =>
          let byte ← bytes[index/8]?
          let one ← checkedShift (index%8)
          setPoints values function start rest (bytes.set (index/8) (byte ||| one))

def readBoolPointsChecked (values : Points Bool) (function : UInt8) :
    List UInt8 → Option (Except ModbusException (List UInt8))
  | [startHigh,startLow,quantityHigh,quantityLow] =>
      let start := fromBigEndian startHigh startLow
      let quantity := fromBigEndian quantityHigh quantityLow
      if quantity = 0 ∨ 2000 < quantity then some (.error ⟨function,0x03⟩) else do
        let padded ← checkedAdd 64 quantity 7
        let byteCount := padded/8
        let past ← checkedAdd 32 start quantity
        if 0x10000 < past then return .error ⟨function,0x02⟩
        let filled ← setPoints values function start (List.range' 0 quantity) (List.replicate byteCount 0)
        return filled.map fun bytes => function :: UInt8.ofNat byteCount :: bytes
  | _ => some (.error ⟨function,0x03⟩)

def pushWords (values : Points Nat) (function : UInt8) : List Nat → List UInt8 → Except ModbusException (List UInt8)
  | [],response => .ok response
  | address :: rest,response =>
      match values.lookup (address % 65536) with
      | none => .error ⟨function,0x02⟩
      | some raw => pushWords values function rest (response ++ bigEndian raw)

def readHoldingRegistersChecked (registers : RegistersConfig) (runtime : RuntimeState) (function : UInt8) :
    List UInt8 → Option (Except ModbusException (List UInt8))
  | [startHigh,startLow,quantityHigh,quantityLow] =>
      let start := fromBigEndian startHigh startLow
      let quantity := fromBigEndian quantityHigh quantityLow
      if quantity = 0 ∨ 125 < quantity then some (.error ⟨function,0x03⟩) else
        match holdingRegisterValues registers runtime with
        | .error err => some (.error err)
        | .ok values => do
            let doubled ← checkedMul 16 quantity 2
            let past ← checkedAdd 32 start quantity
            if 0x10000 < past then return .error ⟨function,0x02⟩
            return pushWords values function (List.range' start (past-start)) [0x03,UInt8.ofNat doubled]
  | _ => some (.error ⟨function,0x03⟩)

-- The bits that the loop has put in from one point on.
def setBits : Nat → List Bool → List UInt8 → List UInt8
  | _,[],bytes => bytes
  | index,value :: bits,bytes =>
      setBits (index+1) bits (if value then bytes.set (index/8) (bytes.getD (index/8) 0 ||| mask (index%8)) else bytes)

theorem setBits_length (index : Nat) (bits : List Bool) (bytes : List UInt8) :
    (setBits index bits bytes).length = bytes.length := by
  induction bits generalizing index bytes with
  | nil => rfl
  | cons value bits ih =>
      rw [setBits,ih]
      split
      · rw [List.length_set]
      · rfl

theorem setBits_bit {index : Nat} {bits : List Bool} {bytes : List UInt8} (room : index+bits.length ≤ 8*bytes.length)
    (other : Nat) : bit (setBits index bits bytes) other =
      (decide (index ≤ other) && bits.getD (other-index) false || bit bytes other) := by
  induction bits generalizing index bytes with
  | nil => simp [setBits]
  | cons value bits ih =>
      have inside : index/8 < bytes.length := by
        rw [List.length_cons] at room
        omega
      have later : index+1+bits.length ≤ 8*bytes.length := by
        rw [List.length_cons] at room
        omega
      have put : bit (if value then bytes.set (index/8) (bytes.getD (index/8) 0 ||| mask (index%8)) else bytes) other =
          (decide (other = index) && value || bit bytes other) := by
        cases value
        · simp
        · rw [if_pos rfl,List.getD_eq_getElem _ _ inside,bit_set inside,Bool.and_true]
      have kept : (if value then bytes.set (index/8) (bytes.getD (index/8) 0 ||| mask (index%8)) else bytes).length =
          bytes.length := by
        split
        · rw [List.length_set]
        · rfl
      rw [setBits,ih (by rw [kept]; exact later),put,← Bool.or_assoc]
      congr 1
      rcases lt_trichotomy other index with before | here | behind
      · simp [show ¬index+1 ≤ other by omega,show ¬index ≤ other by omega,before.ne]
      · subst here
        simp
      · obtain ⟨more,rfl⟩ := Nat.exists_eq_add_of_lt behind
        simp [show index+more+1-index = more+1 by omega,show index+more+1-(index+1) = more by omega,
          show index ≤ index+more+1 by omega,show index+more+1 ≠ index by omega]

theorem setPoints_read {values : Points Bool} {function : UInt8} {start count first : Nat} {bytes : List UInt8}
    (inside : start+first+count ≤ 65536) (room : first+count ≤ 8*bytes.length) :
    setPoints values function start (List.range' first count) bytes =
      some (((List.range' (start+first) count).mapM (pointAt function values)).map fun bits =>
        setBits first bits bytes) := by
  induction count generalizing first bytes with
  | zero => rfl
  | succ count ih =>
      have word : (start+first) % 65536 = start+first := Nat.mod_eq_of_lt (by omega)
      have sum : checkedAdd 32 start first = some (start+first) := checkedAdd_fits (by omega)
      have there : first/8 < bytes.length := by omega
      have shifted : checkedShift (first%8) = some (mask (first%8)) := if_pos (Nat.mod_lt _ (by omega))
      rw [List.range'_succ,List.range'_succ,List.mapM_cons,setPoints,sum,Option.bind_eq_bind,Option.bind_some,word]
      cases found : values.lookup (start+first) with
      | none =>
          have missing : pointAt function values (start+first) = .error ⟨function,0x02⟩ := by
            unfold pointAt
            rw [found]
          rw [missing]
          rfl
      | some value =>
          rw [point_ok.mpr found,ok_bind rfl]
          cases value
          · have rest := @ih (first+1) bytes (by omega) (by omega)
            simp only
            rw [rest,Nat.add_assoc]
            cases (List.range' (start+(first+1)) count).mapM (pointAt function values) <;> rfl
          · have rest := @ih (first+1) (bytes.set (first/8) (bytes[first/8] ||| mask (first%8))) (by omega)
              (by rw [List.length_set]; omega)
            simp only [List.getElem?_eq_getElem there,shifted,Option.bind_eq_bind,Option.bind_some]
            rw [rest,Nat.add_assoc]
            cases (List.range' (start+(first+1)) count).mapM (pointAt function values) with
            | error err => rfl
            | ok bits =>
                have byte : bytes.getD (first/8) 0 = bytes[first/8] := List.getD_eq_getElem _ _ there
                change some (Except.ok _) = some (Except.ok (setBits first (true :: bits) bytes))
                rw [setBits,if_pos rfl,byte]

theorem readBoolPoints_checked (values : Points Bool) (function : UInt8) (data : List UInt8) :
    readBoolPointsChecked values function data = some (readBoolPoints values function data) := by
  unfold readBoolPointsChecked readBoolPoints
  split
  · rename_i startHigh startLow quantityHigh quantityLow
    have word := fromBigEndian_lt startHigh startLow
    have count := fromBigEndian_lt quantityHigh quantityLow
    simp only
    generalize fromBigEndian startHigh startLow = start at word
    generalize fromBigEndian quantityHigh quantityLow = quantity at count
    by_cases refused : quantity = 0 ∨ 2000 < quantity
    · simp only [refused,if_true]
      rfl
    · have padded : checkedAdd 64 quantity 7 = some (quantity+7) := checkedAdd_fits (by omega)
      have past : checkedAdd 32 start quantity = some (start+quantity) := checkedAdd_fits (by omega)
      simp only [refused,if_false,padded,past,Option.bind_eq_bind,Option.bind_some]
      by_cases inside : start+quantity ≤ 65536
      · have filled := @setPoints_read values function start quantity 0 (List.replicate ((quantity+7)/8) 0)
          (by omega) (by rw [List.length_replicate]; omega)
        rw [if_neg (not_lt.mpr inside),filled,Option.bind_some,Nat.add_zero,readPoints_inside inside]
        cases read : (List.range' start quantity).mapM (pointAt function values) with
        | error err => rfl
        | ok bits =>
            have length : bits.length = quantity := by
              rw [← (mapM_ok.mp read).length_eq,List.length_range']
            have packed : setBits 0 bits (List.replicate ((quantity+7)/8) 0) = packBits ((quantity+7)/8) bits := by
              apply bytes_ext
              · rw [setBits_length,List.length_replicate]
                simp [packBits]
              · intro index
                rw [setBits_bit (by rw [List.length_replicate]; omega),packBits_bit (by omega),bit_zeros]
                simp
            rw [ok_bind rfl,← packed]
            rfl
      · rw [if_pos (not_le.mp inside),readPoints_outside inside]
        rfl
  · rename_i other
    rcases data with _ | ⟨_,_ | ⟨_,_ | ⟨_,_ | ⟨_,_ | ⟨_,_⟩⟩⟩⟩⟩
    · rfl
    · rfl
    · rfl
    · rfl
    · exact absurd rfl (other _ _ _ _)
    · rfl

theorem pushWords_read {values : Points Nat} {function : UInt8} {start count : Nat} (inside : start+count ≤ 65536)
    (response : List UInt8) : pushWords values function (List.range' start count) response =
      ((List.range' start count).mapM (pointAt function values)).map fun raws => response ++ raws.flatMap bigEndian := by
  induction count generalizing start response with
  | zero =>
      change Except.ok response = Except.ok (response ++ [])
      rw [List.append_nil]
  | succ count ih =>
      have word : start % 65536 = start := Nat.mod_eq_of_lt (by omega)
      rw [List.range'_succ,List.mapM_cons,pushWords,word]
      cases found : values.lookup start with
      | none =>
          have missing : pointAt function values start = .error ⟨function,0x02⟩ := by
            unfold pointAt
            rw [found]
          rw [missing]
          rfl
      | some raw =>
          rw [point_ok.mpr found,ok_bind rfl]
          simp only
          rw [ih (by omega)]
          cases (List.range' (start+1) count).mapM (pointAt function values) with
          | error err => rfl
          | ok raws =>
              change Except.ok (response ++ bigEndian raw ++ raws.flatMap bigEndian) = _
              rw [List.append_assoc]
              rfl

theorem readHoldingRegisters_checked (registers : RegistersConfig) (runtime : RuntimeState) (function : UInt8)
    (data : List UInt8) : readHoldingRegistersChecked registers runtime function data =
      some (readHoldingRegisters registers runtime function data) := by
  unfold readHoldingRegistersChecked readHoldingRegisters
  split
  · rename_i startHigh startLow quantityHigh quantityLow
    have word := fromBigEndian_lt startHigh startLow
    simp only
    generalize fromBigEndian startHigh startLow = start at word
    generalize fromBigEndian quantityHigh quantityLow = quantity
    by_cases refused : quantity = 0 ∨ 125 < quantity
    · simp only [refused,if_true]
      rfl
    · simp only [refused,if_false]
      cases holdingRegisterValues registers runtime with
      | error err => rfl
      | ok values =>
          have doubled : checkedMul 16 quantity 2 = some (quantity*2) := if_pos (by omega)
          have past : checkedAdd 32 start quantity = some (start+quantity) := checkedAdd_fits (by omega)
          simp only [doubled,past,Option.bind_eq_bind,Option.bind_some]
          by_cases inside : start+quantity ≤ 65536
          · rw [if_neg (not_lt.mpr inside),Nat.add_sub_cancel_left,pushWords_read inside,ok_bind rfl,
              readPoints_inside inside]
            cases (List.range' start quantity).mapM (pointAt function values) <;> rfl
          · rw [if_pos (not_le.mp inside),ok_bind rfl,readPoints_outside inside]
            rfl
  · rename_i other
    match data,other with
    | [],_ => rfl
    | [_],_ => rfl
    | [_,_],_ => rfl
    | [_,_,_],_ => rfl
    | [_,_,_,_],other => exact absurd rfl (other _ _ _ _)
    | _ :: _ :: _ :: _ :: _ :: _,_ => rfl

-- What the handler answers to a PDU: the reads over what it has found behind the lock.
def PduAnswer (safety : SafetyConfig) (limits : SensorLimits) (registers : RegistersConfig) (response : List UInt8) :
    List UInt8 → Prop
  | [] => response = exceptionResponse 0 0x03
  | function :: data =>
      if function = 0x01 then response = exceptionResponse function 0x04 ∨ ∃ runtime unfinished,
        response = answerOf (readBoolPoints (coilValues runtime unfinished) function data)
      else if function = 0x02 then response = exceptionResponse function 0x04 ∨ ∃ now runtime unfinished recovery,
        response = answerOf (readBoolPoints (discreteInputValues safety limits now runtime unfinished recovery) function data)
      else if function = 0x03 then ∃ runtime, response = answerOf (readHoldingRegisters registers runtime function data)
      else function = 0x06 ∨ response = exceptionResponse function 0x01

theorem readBatchBits_answer (function : UInt8) (data : List UInt8)
    (values : Instant → RuntimeState → UnfinishedBatchStatus → Points Bool) :
    (readBatchBits function data values : Handler Event.work me ModbusException (List UInt8)).behaves fun _ result =>
      answerOf result = exceptionResponse function 0x04 ∨ ∃ now runtime status,
        result = readBoolPoints (values now runtime status) function data := by
  unfold readBatchBits
  rw [behaves_bind,behaves_locked]
  intro e w
  simp only [run_runtimeState]
  rw [behaves_bind,behaves_mapError]
  apply behaves_mono _ (behaves_true _)
  intro _ asked _
  cases asked with
  | ok found => exact .inr ⟨found.1,_,found.2,rfl⟩
  | error err => exact .inl rfl

theorem handleFunction_answer (safety : SafetyConfig) (limits : SensorLimits) (registers : RegistersConfig)
    (function : UInt8) (data : List UInt8) :
    (handleFunction safety limits registers function data : Handler Event.work me ModbusException _).behaves
      fun _ result => PduAnswer safety limits registers (answerOf result) (function :: data) := by
  unfold handleFunction
  by_cases coils : function = 0x01
  · subst coils
    rw [if_pos rfl]
    apply behaves_mono _ (readBatchBits_answer _ _ _)
    intro _ result answered
    simp only [PduAnswer,if_true]
    obtain unread | ⟨_,runtime,status,rfl⟩ := answered
    · exact .inl unread
    · exact .inr ⟨runtime,_,rfl⟩
  · rw [if_neg coils]
    by_cases inputs : function = 0x02
    · rw [if_pos inputs]
      apply behaves_mono _ (readBatchBits_answer _ _ _)
      intro _ result answered
      simp only [PduAnswer,if_neg coils,if_pos inputs]
      obtain unread | ⟨now,runtime,status,rfl⟩ := answered
      · exact .inl unread
      · exact .inr ⟨now,runtime,_,_,rfl⟩
    · rw [if_neg inputs]
      by_cases holding : function = 0x03
      · rw [if_pos holding,behaves_bind,behaves_locked]
        intro e w
        simp only [run_runtimeState,PduAnswer,if_neg coils,if_neg inputs,if_pos holding]
        exact ⟨w.state.runtime,rfl⟩
      · rw [if_neg holding]
        by_cases write : function = 0x06
        · apply behaves_mono _ (behaves_true _)
          intro _ result _
          simp only [PduAnswer,if_neg coils,if_neg inputs,if_neg holding]
          exact .inl write
        · rw [if_neg write,throw_done,behaves_done]
          simp only [PduAnswer,if_neg coils,if_neg inputs,if_neg holding]
          exact .inr rfl

theorem handleModbusTcpPdu_answer (safety : SafetyConfig) (limits : SensorLimits) (registers : RegistersConfig)
    (pdu : List UInt8) : (handleModbusTcpPdu safety limits registers pdu : Handler Event.work me AppError _).behaves
      fun _ result => ∃ response, result = .ok response ∧ PduAnswer safety limits registers response pdu := by
  cases pdu with
  | nil => exact ⟨_,rfl,rfl⟩
  | cons function data =>
      unfold handleModbusTcpPdu
      rw [behaves_bind,behaves_attempt]
      apply behaves_mono _ (handleFunction_answer safety limits registers function data)
      intro _ result answered
      cases result with
      | ok response => exact ⟨response,rfl,answered⟩
      | error err => exact ⟨_,rfl,answered⟩

-- The reads of bits and of words, the arithmetic that they need and what else may be asked.
structure ReadsExact (safety : SafetyConfig) (limits : SensorLimits) (registers : RegistersConfig) : Prop where
  points : ∀ values function data, Exact function (ReadRequest 2000 values (function :: data))
    (fun start quantity => BitAnswer values start quantity function) (readBoolPoints values function data)
  words : ∀ runtime data, Exact 0x03 (fun start quantity => ∃ values, holdingRegisterValues registers runtime = .ok values ∧
      ReadRequest 125 values (0x03 :: data) start quantity)
    (fun start quantity response => ∃ values, holdingRegisterValues registers runtime = .ok values ∧
      WordAnswer values start quantity 0x03 response) (readHoldingRegisters registers runtime 0x03 data)
  pointsFit : ∀ values function data, readBoolPointsChecked values function data =
    some (readBoolPoints values function data)
  wordsFit : ∀ runtime function data, readHoldingRegistersChecked registers runtime function data =
    some (readHoldingRegisters registers runtime function data)
  pdus : ∀ (me : TaskId) pdu, (handleModbusTcpPdu safety limits registers pdu : Handler Event.work me AppError _).behaves
    fun _ result => ∃ response, result = .ok response ∧ PduAnswer safety limits registers response pdu

theorem modbus_reads_exact (safety : SafetyConfig) (limits : SensorLimits) (registers : RegistersConfig) :
    ReadsExact safety limits registers where
  points := readBoolPoints_exact
  words := readHoldingRegisters_exact registers
  pointsFit := readBoolPoints_checked
  wordsFit := readHoldingRegisters_checked registers
  pdus _ pdu := handleModbusTcpPdu_answer safety limits registers pdu

end ReactorOS
