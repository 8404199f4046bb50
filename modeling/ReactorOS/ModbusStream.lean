import ReactorOS.Behaviours
import ReactorOS.ModbusTcp
import ReactorOS.Wire.Fields
namespace ReactorOS
open Concurrency Journal Task Wire
variable {me : TaskId}

-- Seven bytes: transaction, protocol and length as words, then the unit.
structure MbapHeader where
  transactionId : Nat
  protocolId : Nat
  length : Nat
  unitId : UInt8
  deriving DecidableEq

def mbapHeader : List UInt8 → Option (MbapHeader × List UInt8)
  | transactionHigh :: transactionLow :: protocolHigh :: protocolLow :: lengthHigh :: lengthLow :: unitId :: rest =>
      some (⟨fromBigEndian transactionHigh transactionLow,fromBigEndian protocolHigh protocolLow,
        fromBigEndian lengthHigh lengthLow,unitId⟩,rest)
  | _ => none

def MbapHeader.malformed (maxPduBytes : Nat) (header : MbapHeader) : Prop :=
  header.protocolId ≠ 0 ∨ header.length = 0 ∨ maxPduBytes < header.length-1

-- A frame whose length field counts the unit and the PDU.
structure MbapFrame where
  transactionId : Nat
  unitId : UInt8
  pdu : List UInt8
  numbered : transactionId < 65536
  counted : pdu.length+1 < 65536

def MbapFrame.bytes (frame : MbapFrame) : List UInt8 := mbapFrame frame.transactionId frame.unitId frame.pdu

def MbapFrame.header (frame : MbapFrame) : MbapHeader := ⟨frame.transactionId,0,frame.pdu.length+1,frame.unitId⟩

theorem MbapFrame.header_bytes (frame : MbapFrame) (rest : List UInt8) :
    mbapHeader (frame.bytes ++ rest) = some (frame.header,frame.pdu ++ rest) := by
  have transaction := fromBigEndian_bigEndian frame.numbered
  have length := fromBigEndian_bigEndian frame.counted
  simp only [MbapFrame.bytes,mbapFrame,bigEndian,List.cons_append,List.nil_append,mbapHeader,transaction,length]
  rfl

theorem MbapFrame.bytes_length (frame : MbapFrame) : frame.bytes.length = 6 + frame.header.length := by
  simp only [MbapFrame.bytes,mbapFrame,bigEndian,MbapFrame.header,List.length_append,List.length_cons,List.length_nil]

-- What the PDU of an answer may be: at most 252 bytes, whatever the request.
def maxAnswerBytes : Nat := 252

theorem readPoints_length {α : Type} {function : UInt8} {values : Points α} {start quantity : Nat} {found : List α}
    (read : readPoints function values start quantity = .ok found) : found.length = quantity := by
  unfold readPoints at read
  split at read
  · cases read
  · rw [← (mapM_ok.mp read).length_eq,List.length_range']

theorem readHoldingRegisters_length {registers : RegistersConfig} {runtime : RuntimeState} {function : UInt8}
    {data response : List UInt8} (read : readHoldingRegisters registers runtime function data = .ok response) :
    response.length ≤ maxAnswerBytes := by
  unfold readHoldingRegisters at read
  split at read
  · rename_i startHigh startLow quantityHigh quantityLow
    by_cases refused : fromBigEndian quantityHigh quantityLow = 0 ∨ 125 < fromBigEndian quantityHigh quantityLow
    · simp only [refused,if_true] at read
      cases read
    · simp only [refused,if_false] at read
      obtain ⟨values,_,read⟩ := Wire.bind_ok read
      obtain ⟨raws,points,read⟩ := Wire.bind_ok read
      cases read
      have counts := readPoints_length points
      have words : (raws.flatMap bigEndian).length = 2*raws.length := by
        simp [List.length_flatMap,bigEndian,List.sum_replicate,Nat.mul_comm]
      simp only [List.length_cons,words,maxAnswerBytes]
      omega
  · cases read

theorem readBoolPoints_length {values : Points Bool} {function : UInt8} {data response : List UInt8}
    (read : readBoolPoints values function data = .ok response) : response.length ≤ maxAnswerBytes := by
  unfold readBoolPoints at read
  split at read
  · rename_i startHigh startLow quantityHigh quantityLow
    by_cases refused : fromBigEndian quantityHigh quantityLow = 0 ∨ 2000 < fromBigEndian quantityHigh quantityLow
    · simp only [refused,if_true] at read
      cases read
    · simp only [refused,if_false] at read
      obtain ⟨bits,_,read⟩ := Wire.bind_ok read
      cases read
      simp only [List.length_cons,packBits,List.length_map,List.length_range,maxAnswerBytes]
      omega
  · cases read

def ShortAnswer (result : Except ModbusException (List UInt8)) : Prop :=
  ∀ response, result = .ok response → response.length ≤ maxAnswerBytes

theorem short_error (err : ModbusException) : ShortAnswer (.error err) := by
  intro response absurd
  cases absurd

theorem short_throw (err : ModbusException) : (throw err : Handler Event.work me ModbusException (List UInt8)).behaves
    fun _ result => ShortAnswer result := by
  rw [throw_done,behaves_done]
  exact short_error err

-- The last step of a request decides whether its answer is short.
theorem short_after {α : Type} {t : Handler Event.work me ModbusException α}
    {k : α → Handler Event.work me ModbusException (List UInt8)}
    (rest : ∀ value, (k value).behaves fun _ result => ShortAnswer result) :
    (t >>= k).behaves fun _ result => ShortAnswer result :=
  behaves_seq (behaves_true t) (fun _ value _ => rest value) fun _ err _ => short_error err

theorem readBatchBits_short (function : UInt8) (data : List UInt8)
    (values : Instant → RuntimeState → UnfinishedBatchStatus → Points Bool) :
    (readBatchBits function data values : Handler Event.work me ModbusException (List UInt8)).behaves
      fun _ result => ShortAnswer result := by
  unfold readBatchBits
  refine short_after fun runtime => short_after fun (now,status) => ?_
  intro response read
  exact readBoolPoints_length read

theorem writeSingleRegister_short (safety : SafetyConfig) (registers : RegistersConfig) (function : UInt8)
    (data : List UInt8) : (writeSingleRegister safety registers function data : Handler Event.work me _ _).behaves
      fun _ result => ShortAnswer result := by
  unfold writeSingleRegister
  split
  · split
    · exact short_throw _
    · simp only []
      generalize (applyModbusRegisterWrite _ _ _ _ _ _ : Handler Event.work me AppError ModbusWriteResponse) = write
      refine short_after fun _ => ?_
      intro response echoed
      cases echoed
      simp [maxAnswerBytes]
  · exact short_throw _

theorem handleFunction_short (safety : SafetyConfig) (limits : SensorLimits) (registers : RegistersConfig)
    (function : UInt8) (data : List UInt8) :
    (handleFunction safety limits registers function data : Handler Event.work me _ _).behaves
      fun _ result => ShortAnswer result := by
  unfold handleFunction
  split
  · exact readBatchBits_short _ _ _
  · split
    · exact readBatchBits_short _ _ _
    · split
      · refine short_after fun runtime => ?_
        intro response read
        exact readHoldingRegisters_length read
      · split
        · exact writeSingleRegister_short _ _ _ _
        · exact short_throw _

theorem handleModbusTcpPdu_short (safety : SafetyConfig) (limits : SensorLimits) (registers : RegistersConfig)
    (pdu : List UInt8) : (handleModbusTcpPdu safety limits registers pdu : Handler Event.work me _ _).behaves
      fun _ result => ∃ response, result = .ok response ∧ response.length ≤ maxAnswerBytes := by
  cases pdu with
  | nil => exact ⟨_,rfl,by decide⟩
  | cons function data =>
      unfold handleModbusTcpPdu
      rw [behaves_bind,behaves_attempt]
      apply behaves_mono _ (handleFunction_short safety limits registers function data)
      intro _ result short
      cases result with
      | ok response => exact ⟨response,rfl,short response rfl⟩
      | error err => exact ⟨_,rfl,by simp [exceptionResponse,maxAnswerBytes]⟩

structure Answers (expectedUnitId : UInt8) (request response : MbapFrame) : Prop where
  header : mbapHeader response.bytes = some ({request.header with length := response.pdu.length+1},response.pdu)
  foreign : request.unitId ≠ expectedUnitId → response.pdu = exceptionResponse (request.pdu.head?.getD 0) 0x0B

-- What the connection still writes when no complete frame is left: one exception if there
-- is a malformed header, nothing if the stream ends.
def Ending (maxPduBytes : Nat) (rest : List UInt8) (final : List (List UInt8)) : Prop :=
  match mbapHeader rest with
  | none => final = []
  | some (header,body) =>
      header.malformed maxPduBytes ∧ final = [mbapFrame header.transactionId header.unitId (exceptionResponse 0 0x03)] ∨
      ¬header.malformed maxPduBytes ∧ body.length < header.length-1 ∧ final = []

def Accepted (maxPduBytes : Nat) (request : MbapFrame) : Prop :=
  ¬request.header.malformed maxPduBytes ∧ request.bytes.length = 6 + request.header.length

-- The bytes received are complete frames, each answered in its turn, and a rest.
def Served (maxPduBytes : Nat) (expectedUnitId : UInt8) (received : List UInt8)
    (result : Except AppError (List (List UInt8))) : Prop :=
  ∃ requests responses rest final, received = requests.flatMap MbapFrame.bytes ++ rest ∧
    (∀ request ∈ requests, Accepted maxPduBytes request) ∧ List.Forall₂ (Answers expectedUnitId) requests responses ∧
    Ending maxPduBytes rest final ∧ result = .ok (responses.map MbapFrame.bytes ++ final)

theorem served_end {maxPduBytes : Nat} {expectedUnitId : UInt8} {rest : List UInt8} {final : List (List UInt8)}
    (ending : Ending maxPduBytes rest final) : Served maxPduBytes expectedUnitId rest (.ok final) :=
  ⟨[],[],rest,final,rfl,nofun,.nil,ending,rfl⟩

theorem served_next {maxPduBytes : Nat} {expectedUnitId : UInt8} {request response : MbapFrame} {received : List UInt8}
    {later : Handler Event.work me AppError (List (List UInt8))} (accepted : Accepted maxPduBytes request)
    (answers : Answers expectedUnitId request response)
    (served : later.behaves fun _ => Served maxPduBytes expectedUnitId received) :
    (do let later ← later; return response.bytes :: later : Handler Event.work me AppError _).behaves
      fun _ => Served maxPduBytes expectedUnitId (request.bytes ++ received) := by
  rw [behaves_bind]
  apply behaves_mono _ served
  intro _ result ⟨requests,responses,rest,final,whole,valid,answered,ending,returned⟩
  subst returned
  refine ⟨request :: requests,response :: responses,rest,final,?_,?_,.cons answers answered,ending,rfl⟩
  · rw [whole,List.flatMap_cons,List.append_assoc]
  · simpa [accepted] using valid

-- A header that is well formed and the bytes it announces are a frame.
theorem frame_read {maxPduBytes : Nat} {transactionHigh transactionLow protocolHigh protocolLow lengthHigh lengthLow : UInt8}
    {unitId : UInt8} {pdu : List UInt8} (formed : ¬(fromBigEndian protocolHigh protocolLow ≠ 0 ∨
      fromBigEndian lengthHigh lengthLow = 0 ∨ maxPduBytes < fromBigEndian lengthHigh lengthLow - 1))
    (counts : pdu.length = fromBigEndian lengthHigh lengthLow - 1) : ∃ request : MbapFrame,
      request.transactionId = fromBigEndian transactionHigh transactionLow ∧ request.unitId = unitId ∧
      request.pdu = pdu ∧ Accepted maxPduBytes request ∧
      request.bytes = [transactionHigh,transactionLow,protocolHigh,protocolLow,lengthHigh,lengthLow,unitId] ++ pdu := by
  have bound := fromBigEndian_lt lengthHigh lengthLow
  have protocol : fromBigEndian protocolHigh protocolLow = 0 := by
    by_contra other
    exact formed (.inl other)
  have length : pdu.length+1 = fromBigEndian lengthHigh lengthLow := by omega
  let request : MbapFrame := ⟨fromBigEndian transactionHigh transactionLow,unitId,pdu,fromBigEndian_lt _ _,by omega⟩
  refine ⟨request,rfl,rfl,rfl,⟨?_,request.bytes_length⟩,?_⟩
  · rintro (other | empty | long)
    · exact other rfl
    · exact Nat.succ_ne_zero _ empty
    · change maxPduBytes < pdu.length+1-1 at long
      omega
  · have words := bigEndian_from protocolHigh protocolLow
    rw [protocol] at words
    simp only [request,MbapFrame.bytes,mbapFrame,length,bigEndian_from,words]
    rfl

-- The frame of an answer that is short.
theorem answer_frame {expectedUnitId : UInt8} (request : MbapFrame) {pdu : List UInt8}
    (short : pdu.length ≤ maxAnswerBytes) (foreign : request.unitId ≠ expectedUnitId →
      pdu = exceptionResponse (request.pdu.head?.getD 0) 0x0B) : ∃ response : MbapFrame,
      response.bytes = mbapFrame request.transactionId request.unitId pdu ∧ Answers expectedUnitId request response := by
  have counted : pdu.length+1 < 65536 := by
    unfold maxAnswerBytes at short
    omega
  let response : MbapFrame := ⟨request.transactionId,request.unitId,pdu,request.numbered,counted⟩
  refine ⟨response,rfl,?_,foreign⟩
  have read := response.header_bytes []
  rw [List.append_nil,List.append_nil] at read
  exact read

theorem served_answer {maxPduBytes : Nat} {expectedUnitId : UInt8}
    {transactionHigh transactionLow protocolHigh protocolLow lengthHigh lengthLow unitId : UInt8}
    {pdu response received : List UInt8} {later : Handler Event.work me AppError (List (List UInt8))}
    (formed : ¬(fromBigEndian protocolHigh protocolLow ≠ 0 ∨ fromBigEndian lengthHigh lengthLow = 0 ∨
      maxPduBytes < fromBigEndian lengthHigh lengthLow - 1))
    (counts : pdu.length = fromBigEndian lengthHigh lengthLow - 1) (short : response.length ≤ maxAnswerBytes)
    (foreign : unitId ≠ expectedUnitId → response = exceptionResponse (pdu.head?.getD 0) 0x0B)
    (served : later.behaves fun _ => Served maxPduBytes expectedUnitId received) :
    (do let later ← later; return mbapFrame (fromBigEndian transactionHigh transactionLow) unitId response :: later :
      Handler Event.work me AppError _).behaves fun _ => Served maxPduBytes expectedUnitId
        ([transactionHigh,transactionLow,protocolHigh,protocolLow,lengthHigh,lengthLow,unitId] ++ (pdu ++ received)) := by
  obtain ⟨request,transaction,unit,same,accepted,bytes⟩ :=
    @frame_read maxPduBytes transactionHigh transactionLow _ _ _ _ unitId pdu formed counts
  obtain ⟨answered,answeredBytes,answers⟩ := @answer_frame expectedUnitId request response short
    (by rw [unit,same]; exact foreign)
  have next := served_next accepted answers served
  rw [answeredBytes,transaction,unit,bytes,List.append_assoc] at next
  exact next

theorem stream_answered (safety : SafetyConfig) (limits : SensorLimits) (registers : RegistersConfig)
    (maxPduBytes : Nat) (expectedUnitId : UInt8) (chunks : List (List UInt8)) :
    (handleModbusTcpStream safety limits registers maxPduBytes expectedUnitId chunks :
      Handler Event.work me AppError _).behaves fun _ => Served maxPduBytes expectedUnitId chunks.flatten := by
  fun_induction handleModbusTcpStream safety limits registers maxPduBytes expectedUnitId chunks with
  | case1 chunks _ _ _ _ _ _ _ rest header transactionId protocolId length malformed =>
      apply served_end
      rw [(readExact_some header).2]
      exact .inl ⟨malformed,rfl⟩
  | case2 chunks _ _ _ _ _ _ _ rest header protocolId length formed body =>
      apply served_end
      rw [(readExact_some header).2]
      exact .inr ⟨formed,readExact_none body,rfl⟩
  | case3 chunks _ _ _ _ _ _ _ rest header transactionId protocolId length formed pdu left body jump foreign ih =>
      obtain ⟨counts,whole⟩ := readExact_some body
      rw [(readExact_some header).2,whole]
      exact served_answer formed counts (by simp [exceptionResponse,maxAnswerBytes]) (fun _ => rfl) ih
  | case4 chunks _ _ _ _ _ _ _ rest header transactionId protocolId length formed pdu left body jump own ih =>
      obtain ⟨counts,whole⟩ := readExact_some body
      rw [(readExact_some header).2,whole,behaves_bind]
      apply behaves_mono _ (handleModbusTcpPdu_short safety limits registers pdu)
      rintro _ _ ⟨response,rfl,short⟩
      exact served_answer formed counts short (fun foreign => absurd foreign own) ih
  | case5 chunks other =>
      cases header : readExact 7 chunks with
      | none =>
          have short := readExact_none header
          apply served_end
          have incomplete : mbapHeader chunks.flatten = none := by
            generalize chunks.flatten = bytes at short
            unfold mbapHeader
            split
            · simp only [List.length_cons] at short
              omega
            · rfl
          simp only [Ending,incomplete]
      | some found =>
          exfalso
          obtain ⟨bytes,rest⟩ := found
          have counts := (readExact_some header).1
          match bytes,counts with
          | [_,_,_,_,_,_,_],_ => exact other _ _ _ _ _ _ _ _ header

end ReactorOS
