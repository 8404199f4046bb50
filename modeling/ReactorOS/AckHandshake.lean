import ReactorOS.Serial
import ReactorOS.FrameRoundTrip
namespace ReactorOS
open Wire

-- The ACK of the request that a line is, if it is one.
def ownAck (config : Esp32Config) (requestId : String) (line : List UInt8) : Option Esp32Ack :=
  (decodeUtf8 line).bind fun text =>
    (parseEsp32AckFrame text config.framePrefix config.checksum).toOption.filter (·.requestId = requestId)

def firstAck (config : Esp32Config) (requestId : String) (lines : List (List UInt8)) : Option Esp32Ack :=
  lines.findSome? (ownAck config requestId)

theorem firstAck_cons (config : Esp32Config) (requestId : String) (line : List UInt8) (lines : List (List UInt8)) :
    firstAck config requestId (line :: lines) =
      (ownAck config requestId line).or (firstAck config requestId lines) := by
  rw [firstAck,List.findSome?_cons]
  cases ownAck config requestId line <;> rfl

theorem ownAck_text {config : Esp32Config} {requestId text : String} {line : List UInt8}
    (decoded : decodeUtf8 line = some text) : ownAck config requestId line =
      (parseEsp32AckFrame text config.framePrefix config.checksum).toOption.filter (·.requestId = requestId) := by
  rw [ownAck,decoded,Option.bind_some]

theorem ownAck_empty (config : Esp32Config) (requestId : String) : ownAck config requestId [] = none := by
  have empty : decodeUtf8 [] = some "" := decodeUtf8_some.mpr rfl
  rw [ownAck_text empty]
  cases parsed : parseEsp32AckFrame "" config.framePrefix config.checksum with
  | error err => rfl
  | ok ack =>
      obtain ⟨fields,scanned,reads⟩ := parseEsp32AckFrame_ok.mp parsed
      obtain ⟨_,scan,found,_,rfl⟩ := scanFrame_ok.mp scanned
      cases found
      cases reads.version

-- A round goes on to the next unless it has read the ACK of the request.
theorem awaitAck_failed {config : Esp32Config} {reader rest : BufReader} {err : ReadError} (requestId : String)
    (rounds : Nat) (failed : collectLine config.maxLineBytes [] reader = (.error err,rest)) :
    awaitAck config requestId (rounds+1) reader = awaitAck config requestId rounds rest := by
  rw [awaitAck,readBoundedLine,failed]

theorem awaitAck_read {config : Esp32Config} {reader rest : BufReader} {line : List UInt8} (requestId : String)
    (rounds : Nat) (read : collectLine config.maxLineBytes [] reader = (.ok line,rest)) :
    awaitAck config requestId (rounds+1) reader =
      ((ownAck config requestId line).map ackStatus).getD (awaitAck config requestId rounds rest) := by
  rw [awaitAck,readBoundedLine,read]
  cases decoded : decodeUtf8 line with
  | none => simp [ownAck,decoded]
  | some text =>
      cases line with
      | nil => simp only [decoded,ownAck_empty,List.length_nil,Option.map_none,Option.getD_none]
      | cons byte line =>
          rw [ownAck_text decoded]
          cases parsed : parseEsp32AckFrame text config.framePrefix config.checksum with
          | error err =>
              simp only [decoded,parsed,Except.toOption,Option.filter_none,Option.map_none,Option.getD_none,List.length_cons]
          | ok ack =>
              by_cases own : ack.requestId = requestId
              · simp [decoded,parsed,Except.toOption,own,Option.filter_some]
              · simp [decoded,parsed,Except.toOption,own,Option.filter_some]

theorem awaitAck_lines (config : Esp32Config) (requestId : String) (rounds : Nat) (reader : BufReader) :
    awaitAck config requestId rounds reader =
      ((firstAck config requestId (linesRead config.maxLineBytes []
        (received config.maxLineBytes rounds reader.events))).map ackStatus).getD .timeout := by
  rw [received_lines]
  induction rounds generalizing reader with
  | zero => rfl
  | succ rounds ih =>
      have shown := collectLine_events config.maxLineBytes [] reader
      rw [readLines,shown]
      cases read : collectLine config.maxLineBytes [] reader with
      | mk line rest =>
          cases line with
          | error err =>
              rw [awaitAck_failed requestId rounds read]
              exact ih rest
          | ok line =>
              rw [awaitAck_read requestId rounds read,ih rest,List.flatMap_cons]
              change _ = ((firstAck config requestId (line :: _)).map _).getD _
              rw [firstAck_cons]
              cases ownAck config requestId line <;> rfl

-- Whether the first ACK of the request among the lines says ok.
def ackAnswer (config : Esp32Config) (requestId : String) (lines : List (List UInt8)) : Option Bool :=
  (firstAck config requestId lines).map (·.ok)

structure Follows (status : AckStatus) (answer : Option Bool) : Prop where
  confirmed : status = .confirmed ↔ answer = some true
  rejected : (∃ detail, status = .rejected detail) ↔ answer = some false
  timeout : status = .timeout ↔ answer = none

theorem ack_follows (ack : Option Esp32Ack) : Follows ((ack.map ackStatus).getD .timeout) (ack.map (·.ok)) := by
  cases ack with
  | none => exact ⟨by simp,by simp,by simp⟩
  | some ack => cases shape : ack.ok <;> exact ⟨by simp [ackStatus,shape],by simp [ackStatus,shape],by simp [ackStatus,shape]⟩

theorem Follows.unique {status : AckStatus} {one other : Option Bool} (first : Follows status one) :
    Follows status other ↔ one = other := by
  constructor
  · intro second
    rcases one with _ | _ | _
    · exact (second.timeout.mp (first.timeout.mpr rfl)).symm
    · exact (second.rejected.mp (first.rejected.mpr rfl)).symm
    · exact (second.confirmed.mp (first.confirmed.mpr rfl)).symm
  · intro same
    exact same ▸ first

-- Two answers to each line: the first ones there are agree.
def FirstAgree : List (Option Bool × Option Bool) → Prop
  | [] => True
  | (none,none) :: rest => FirstAgree rest
  | (some one,some other) :: _ => one = other
  | (some one,none) :: rest => (rest.map Prod.snd).findSome? id = some one
  | (none,some other) :: rest => (rest.map Prod.fst).findSome? id = some other

theorem firstAgree_iff (answers : List (Option Bool × Option Bool)) :
    FirstAgree answers ↔ (answers.map Prod.fst).findSome? id = (answers.map Prod.snd).findSome? id := by
  induction answers with
  | nil => simp [FirstAgree]
  | cons pair answers ih =>
      rcases pair with ⟨_ | one,_ | other⟩
      · exact ih
      · exact eq_comm.trans (by simp [eq_comm])
      · simp [FirstAgree,eq_comm]
      · simp [FirstAgree]

-- What a line says as it stands, and what the reads leave of it.
def answersTo (config : Esp32Config) (requestId : String) (line : List PortEvent) : Option Bool × Option Bool :=
  (ackAnswer config requestId (boundedLines config.maxLineBytes [] (bytesIn line)),
    ackAnswer config requestId (linesRead config.maxLineBytes [] line))

theorem ackAnswer_flatMap {α : Type} (config : Esp32Config) (requestId : String) (read : α → List (List UInt8))
    (groups : List α) : ackAnswer config requestId (groups.flatMap read) =
      (groups.map fun group => ackAnswer config requestId (read group)).findSome? id := by
  unfold ackAnswer firstAck
  induction groups with
  | nil => rfl
  | cons group groups ih =>
      rw [List.flatMap_cons,List.findSome?_append,List.map_cons,List.findSome?_cons]
      cases (read group).findSome? (ownAck config requestId) with
      | none => exact ih
      | some ack => rfl

theorem ackAnswer_single (config : Esp32Config) (requestId : String) (line : List UInt8) :
    ackAnswer config requestId [line] = (ownAck config requestId line).map (·.ok) := by
  rw [ackAnswer,firstAck_cons]
  cases ownAck config requestId line <;> rfl

theorem awaitAck_follows (config : Esp32Config) (requestId : String) (rounds : Nat) (reader : BufReader)
    (other : Option Bool) : Follows (awaitAck config requestId rounds reader) other ↔
      ackAnswer config requestId (linesRead config.maxLineBytes []
        (received config.maxLineBytes rounds reader.events)) = other := by
  rw [awaitAck_lines]
  exact (ack_follows _).unique

theorem ack_follows_stream_iff (config : Esp32Config) (requestId : String) (rounds : Nat) (port : List PortRead) :
    let stream := received config.maxLineBytes rounds (BufReader.events ⟨[],port⟩)
    Follows (awaitAck config requestId rounds ⟨[],port⟩)
      (ackAnswer config requestId (boundedLines config.maxLineBytes [] (bytesIn stream))) ↔
    FirstAgree ((byLine stream).map (answersTo config requestId)) := by
  intro stream
  have said := @ackAnswer_flatMap (List PortEvent) config requestId
  rw [awaitAck_follows,firstAgree_iff,List.map_map,List.map_map,linesRead_byLine,boundedLines_byLine,said,said]
  exact eq_comm

theorem linesRead_unbroken (maxBytes : Nat) (buf : List UInt8) {events : List PortEvent}
    (unbroken : ∀ event ∈ events, ∃ byte, event = .byte byte) :
    linesRead maxBytes buf events = boundedLines maxBytes buf (bytesIn events) := by
  induction events generalizing buf with
  | nil => rfl
  | cons event events ih =>
      obtain ⟨byte,rfl⟩ := unbroken event (by simp)
      have later := fun buf => ih buf fun event inside => unbroken event (List.mem_cons_of_mem _ inside)
      rw [linesRead,bytesIn,boundedLines,later,later]

-- However the reads cut it: a stream that never pauses is answered as it stands.
theorem ack_follows_unbroken (config : Esp32Config) (requestId : String) (rounds : Nat) {port : List PortRead}
    (unbroken : ∀ read ∈ port, ∃ byte bytes, read = .data (byte :: bytes)) :
    Follows (awaitAck config requestId rounds ⟨[],port⟩) (ackAnswer config requestId
      (boundedLines config.maxLineBytes [] (bytesIn (received config.maxLineBytes rounds (BufReader.events ⟨[],port⟩))))) := by
  have bytes : ∀ event ∈ BufReader.events ⟨[],port⟩, ∃ byte, event = .byte byte := by
    intro event inside
    obtain ⟨read,member,inside⟩ := List.mem_flatMap.mp inside
    obtain ⟨byte,bytes,rfl⟩ := unbroken read member
    obtain ⟨byte,_,same⟩ := List.mem_map.mp inside
    exact ⟨byte,same.symm⟩
  rw [awaitAck_follows,linesRead_unbroken]
  exact fun event inside => bytes event (List.mem_of_mem_take inside)

-- The sender's ACK, and a timeout of the port right before the newline that ends it.
def benchAck : String := "RX|v=1|type=ack|rid=7|ok=1|chk=41"

def benchPort : List PortRead := [.data (asBytes benchAck),.timedOut,.data [newline]]

theorem ownAck_ok {config : Esp32Config} {requestId text : String} :
    (ownAck config requestId (asBytes text)).map (·.ok) =
      ((parseEsp32AckFrame text config.framePrefix config.checksum).toOption.filter (·.requestId = requestId)).map (·.ok) := by
  rw [ownAck_text (decodeUtf8_some.mpr rfl)]

theorem pause_loses_ack : ¬∀ (config : Esp32Config) (requestId : String) (rounds : Nat) (port : List PortRead),
    (∀ read ∈ port, read ≠ .data []) → Follows (awaitAck config requestId rounds ⟨[],port⟩)
      (ackAnswer config requestId (boundedLines config.maxLineBytes []
        (bytesIn (received config.maxLineBytes rounds (BufReader.events ⟨[],port⟩))))) := by
  intro holds
  have follows := holds .shipped "7" 3 benchPort (by decide)
  have stream : bytesIn (received 256 3 (BufReader.events ⟨[],benchPort⟩)) = asBytes (benchAck ++ "\n") := by decide +kernel
  have line : boundedLines 256 [] (asBytes (benchAck ++ "\n")) = [asBytes (benchAck ++ "\n")] := by decide +kernel
  have rest : linesRead 256 [] (received 256 3 (BufReader.events ⟨[],benchPort⟩)) = [asBytes "\n"] := by decide +kernel
  have said : (ownAck .shipped "7" (asBytes (benchAck ++ "\n"))).map (·.ok) = some true := by
    rw [ownAck_ok]
    decide +kernel
  have nothing : (ownAck .shipped "7" (asBytes "\n")).map (·.ok) = none := by
    rw [ownAck_ok]
    decide +kernel
  rw [awaitAck_follows] at follows
  change ackAnswer _ _ (linesRead 256 [] (received 256 3 _)) =
    ackAnswer _ _ (boundedLines 256 [] (bytesIn (received 256 3 _))) at follows
  rw [rest,stream,line,ackAnswer_single,ackAnswer_single,nothing,said] at follows
  cases follows

end ReactorOS
