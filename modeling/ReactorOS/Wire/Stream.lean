import Mathlib.Algebra.Ring.Nat
import Mathlib.Data.String.Defs
namespace Wire

def newline : UInt8 := 10

-- What one read of a port hands over: bytes, none of them at the end of the input,
-- or no answer within the timeout of the port.
inductive PortRead where
  | data (bytes : List UInt8)
  | timedOut
  deriving DecidableEq

-- A reader that fetches what the port has when its own buffer is used up. `port` is
-- what the reads to come hand over; a port that has nothing left times out.
structure BufReader where
  buffer : List UInt8
  port : List PortRead

inductive ReadError where
  | timedOut | invalidData
  deriving DecidableEq

def BufReader.readByte : BufReader → Except ReadError (Option UInt8) × BufReader
  | ⟨byte :: buffer,port⟩ => (.ok (some byte),⟨buffer,port⟩)
  | ⟨[],.data (byte :: buffer) :: port⟩ => (.ok (some byte),⟨buffer,port⟩)
  | ⟨[],.data [] :: port⟩ => (.ok none,⟨[],port⟩)
  | ⟨[],.timedOut :: port⟩ => (.error .timedOut,⟨[],port⟩)
  | ⟨[],[]⟩ => (.error .timedOut,⟨[],[]⟩)

def PortRead.size : PortRead → Nat
  | .data bytes => bytes.length + 1
  | .timedOut => 1

def BufReader.size (reader : BufReader) : Nat := reader.buffer.length + (reader.port.map PortRead.size).sum

theorem readByte_size {reader rest : BufReader} {byte : UInt8} (read : reader.readByte = (.ok (some byte),rest)) :
    rest.size < reader.size := by
  obtain ⟨buffer,port⟩ := reader
  cases buffer with
  | cons first buffer =>
      cases read
      simp only [BufReader.size,List.length_cons]
      omega
  | nil =>
      rcases port with _ | ⟨_ | _,port⟩
      · cases read
      · rename_i bytes
        cases bytes with
        | nil => cases read
        | cons first bytes =>
            cases read
            simp only [BufReader.size,PortRead.size,List.map_cons,List.sum_cons,List.length_cons,List.length_nil]
            omega
      · cases read

-- Byte by byte up to a newline, the end of the input or the bound; `buf` is what the line has so far.
def collectLine (maxBytes : Nat) (buf : List UInt8) (reader : BufReader) : Except ReadError (List UInt8) × BufReader :=
  match _read : reader.readByte with
  | (.error err,rest) => (.error err,rest)
  | (.ok none,rest) => (.ok buf,rest)
  | (.ok (some byte),rest) =>
      if byte = newline ∨ maxBytes < (buf ++ [byte]).length then (.ok (buf ++ [byte]),rest)
      else collectLine maxBytes (buf ++ [byte]) rest
termination_by reader.size
decreasing_by exact readByte_size _read

theorem collectLine_fetch (maxBytes : Nat) (buf : List UInt8) (byte : UInt8) (bytes : List UInt8) (port : List PortRead) :
    collectLine maxBytes buf ⟨[],.data (byte :: bytes) :: port⟩ = collectLine maxBytes buf ⟨byte :: bytes,port⟩ := by
  rw [collectLine,collectLine]
  rfl

theorem collectLine_silent (maxBytes : Nat) (buf : List UInt8) :
    collectLine maxBytes buf ⟨[],[]⟩ = (.error .timedOut,⟨[],[]⟩) := by
  rw [collectLine]
  rfl

theorem collectLine_timedOut (maxBytes : Nat) (buf : List UInt8) (port : List PortRead) :
    collectLine maxBytes buf ⟨[],.timedOut :: port⟩ = (.error .timedOut,⟨[],port⟩) := by
  rw [collectLine]
  rfl

theorem collectLine_ended (maxBytes : Nat) (buf : List UInt8) (port : List PortRead) :
    collectLine maxBytes buf ⟨[],.data [] :: port⟩ = (.ok buf,⟨[],port⟩) := by
  rw [collectLine]
  rfl

theorem collectLine_newline (maxBytes : Nat) (buf rest : List UInt8) (port : List PortRead) :
    collectLine maxBytes buf ⟨newline :: rest,port⟩ = (.ok (buf ++ [newline]),⟨rest,port⟩) := by
  rw [collectLine]
  simp [BufReader.readByte]

theorem collectLine_plain {maxBytes : Nat} {buf bytes : List UInt8} (absent : newline ∉ bytes)
    (room : (buf ++ bytes).length ≤ maxBytes) (rest : List UInt8) (port : List PortRead) :
    collectLine maxBytes buf ⟨bytes ++ rest,port⟩ = collectLine maxBytes (buf ++ bytes) ⟨rest,port⟩ := by
  induction bytes generalizing buf with
  | nil => simp
  | cons byte bytes ih =>
      have other : byte ≠ newline := fun same => absent (same ▸ List.mem_cons_self)
      have short : (buf ++ [byte]).length ≤ maxBytes := by
        simp only [List.length_append,List.length_cons,List.length_nil] at room ⊢
        omega
      rw [List.append_cons] at room
      have further := ih (fun inside => absent (List.mem_cons_of_mem _ inside)) room
      have goes : ¬(byte = newline ∨ maxBytes < (buf ++ [byte]).length) := fun ends =>
        ends.elim other (Nat.not_lt.mpr short)
      rw [collectLine,List.append_cons buf byte bytes,←further]
      simp only [BufReader.readByte,List.cons_append]
      rw [if_neg goes]

-- The bytes that the port hands over, and those the reader has not passed on.
def PortRead.bytes : PortRead → List UInt8
  | .data bytes => bytes
  | .timedOut => []

def incoming (port : List PortRead) : List UInt8 := port.flatMap PortRead.bytes

def BufReader.waiting (reader : BufReader) : List UInt8 := reader.buffer ++ incoming reader.port

theorem readByte_waiting (reader : BufReader) :
    reader.waiting = (match reader.readByte.1 with | .ok (some byte) => [byte] | _ => []) ++ reader.readByte.2.waiting := by
  fun_cases BufReader.readByte reader <;> rfl

-- A line read passes on what it has taken, and loses it where it fails.
theorem collectLine_waiting (maxBytes : Nat) (buf : List UInt8) (reader : BufReader) : ∃ taken,
    buf ++ reader.waiting = taken ++ (collectLine maxBytes buf reader).2.waiting ∧
    ∀ line, (collectLine maxBytes buf reader).1 = .ok line → line = taken := by
  fun_induction collectLine maxBytes buf reader with
  | case1 buf reader err rest read =>
      have stays := readByte_waiting reader
      rw [read] at stays
      exact ⟨buf,congrArg (buf ++ ·) stays,fun line failed => nomatch failed⟩
  | case2 buf reader rest read =>
      have stays := readByte_waiting reader
      rw [read] at stays
      exact ⟨buf,congrArg (buf ++ ·) stays,fun line ok => (Except.ok.inj ok).symm⟩
  | case3 buf reader byte rest read ends =>
      have passed := readByte_waiting reader
      rw [read] at passed
      exact ⟨buf ++ [byte],by rw [passed,List.append_assoc],fun line ok => (Except.ok.inj ok).symm⟩
  | case4 buf reader byte rest read goes ih =>
      have passed := readByte_waiting reader
      rw [read] at passed
      rw [passed,←List.append_assoc]
      exact ih

-- What a reader meets, one after the other, however it was handed over.
inductive PortEvent where
  | byte (byte : UInt8)
  | ended
  | timedOut
  deriving DecidableEq

def PortRead.events : PortRead → List PortEvent
  | .data [] => [.ended]
  | .data (byte :: bytes) => (byte :: bytes).map .byte
  | .timedOut => [.timedOut]

def BufReader.events (reader : BufReader) : List PortEvent :=
  reader.buffer.map .byte ++ reader.port.flatMap PortRead.events

def takeLine (maxBytes : Nat) : List UInt8 → List PortEvent → Except ReadError (List UInt8) × List PortEvent
  | _,[] => (.error .timedOut,[])
  | _,.timedOut :: events => (.error .timedOut,events)
  | buf,.ended :: events => (.ok buf,events)
  | buf,.byte byte :: events =>
      if byte = newline ∨ maxBytes < (buf ++ [byte]).length then (.ok (buf ++ [byte]),events)
      else takeLine maxBytes (buf ++ [byte]) events

theorem readByte_byte {reader rest : BufReader} {byte : UInt8} (read : reader.readByte = (.ok (some byte),rest)) :
    reader.events = .byte byte :: rest.events := by
  revert read
  fun_cases BufReader.readByte reader <;> intro read <;> cases read <;> rfl

theorem readByte_ended {reader rest : BufReader} (read : reader.readByte = (.ok none,rest)) :
    reader.events = .ended :: rest.events := by
  revert read
  fun_cases BufReader.readByte reader <;> intro read <;> cases read
  rfl

theorem readByte_failed {reader rest : BufReader} {err : ReadError} (read : reader.readByte = (.error err,rest)) :
    err = .timedOut ∧ (reader.events = .timedOut :: rest.events ∨ reader.events = [] ∧ rest.events = []) := by
  revert read
  fun_cases BufReader.readByte reader <;> intro read <;> cases read
  · exact ⟨rfl,.inl rfl⟩
  · exact ⟨rfl,.inr ⟨rfl,rfl⟩⟩

-- How the bytes were handed over does not show in the line.
theorem collectLine_events (maxBytes : Nat) (buf : List UInt8) (reader : BufReader) :
    takeLine maxBytes buf reader.events =
      ((collectLine maxBytes buf reader).1,(collectLine maxBytes buf reader).2.events) := by
  fun_induction collectLine maxBytes buf reader with
  | case1 buf reader err rest read =>
      obtain ⟨timedOut,events | ⟨events,quiet⟩⟩ := readByte_failed read
      · rw [events,timedOut]; rfl
      · rw [events,timedOut,quiet]; rfl
  | case2 buf reader rest read => rw [readByte_ended read]; rfl
  | case3 buf reader byte rest read ends => rw [readByte_byte read,takeLine,if_pos ends]
  | case4 buf reader byte rest read goes ih => rw [readByte_byte read,takeLine,if_neg goes,ih]

-- The lines in a run of events: what stands before a timeout is given up.
def linesRead (maxBytes : Nat) : List UInt8 → List PortEvent → List (List UInt8)
  | _,[] => []
  | _,.timedOut :: events => linesRead maxBytes [] events
  | buf,.ended :: events => buf :: linesRead maxBytes [] events
  | buf,.byte byte :: events =>
      if byte = newline ∨ maxBytes < (buf ++ [byte]).length then (buf ++ [byte]) :: linesRead maxBytes [] events
      else linesRead maxBytes (buf ++ [byte]) events

-- One line read takes the events of one line, or all there are if none is complete.
theorem takeLine_taken (maxBytes : Nat) (buf : List UInt8) (events : List PortEvent) : ∃ taken,
    events = taken ++ (takeLine maxBytes buf events).2 ∧ ∀ later,
      ((takeLine maxBytes buf events).2 = [] → later = []) →
      linesRead maxBytes buf (taken ++ later) =
        (takeLine maxBytes buf events).1.toOption.toList ++ linesRead maxBytes [] later := by
  induction events generalizing buf with
  | nil => exact ⟨[],rfl,fun later unread => by rw [unread rfl]; rfl⟩
  | cons event events ih =>
      cases event with
      | timedOut => exact ⟨[.timedOut],rfl,fun later _ => rfl⟩
      | ended => exact ⟨[.ended],rfl,fun later _ => rfl⟩
      | byte byte =>
          by_cases ends : byte = newline ∨ maxBytes < (buf ++ [byte]).length
          · refine ⟨[.byte byte],?_,fun later _ => ?_⟩
            · rw [takeLine,if_pos ends]; rfl
            · rw [takeLine,if_pos ends,List.singleton_append,linesRead,if_pos ends]; rfl
          · obtain ⟨taken,whole,lines⟩ := ih (buf ++ [byte])
            refine ⟨.byte byte :: taken,?_,fun later unread => ?_⟩
            · rw [takeLine,if_neg ends,List.cons_append,←whole]
            · rw [takeLine,if_neg ends] at unread ⊢
              rw [List.cons_append,linesRead,if_neg ends,lines later unread]

-- Line after line of the same events.
def readLines (maxBytes : Nat) : Nat → List PortEvent → List (Except ReadError (List UInt8)) × List PortEvent
  | 0,events => ([],events)
  | rounds+1,events =>
      let (line,events) := takeLine maxBytes [] events
      let (lines,events) := readLines maxBytes rounds events
      (line :: lines,events)

-- The events that so many line reads have taken.
def received (maxBytes rounds : Nat) (events : List PortEvent) : List PortEvent :=
  events.take (events.length - (readLines maxBytes rounds events).2.length)

theorem readLines_taken (maxBytes rounds : Nat) (events : List PortEvent) : ∃ taken,
    events = taken ++ (readLines maxBytes rounds events).2 ∧
    linesRead maxBytes [] taken = (readLines maxBytes rounds events).1.flatMap (·.toOption.toList) := by
  induction rounds generalizing events with
  | zero => exact ⟨[],rfl,rfl⟩
  | succ rounds ih =>
      obtain ⟨first,whole,lines⟩ := takeLine_taken maxBytes [] events
      obtain ⟨taken,rest,read⟩ := ih (takeLine maxBytes [] events).2
      refine ⟨first ++ taken,?_,?_⟩
      · rw [List.append_assoc]
        exact whole.trans (congrArg (first ++ ·) rest)
      · rw [lines taken fun unread => ?_,read]
        · rfl
        · rw [unread] at rest
          exact (List.append_eq_nil_iff.mp rest.symm).1

theorem received_lines (maxBytes rounds : Nat) (events : List PortEvent) :
    linesRead maxBytes [] (received maxBytes rounds events) =
      (readLines maxBytes rounds events).1.flatMap (·.toOption.toList) := by
  obtain ⟨taken,whole,lines⟩ := readLines_taken maxBytes rounds events
  have same : received maxBytes rounds events = taken := by
    have cut := congrArg (List.take taken.length) whole
    rw [List.take_left' rfl] at cut
    have counts := congrArg List.length whole
    rw [List.length_append] at counts
    rw [received,show events.length - (readLines maxBytes rounds events).2.length = taken.length by omega]
    exact cut
  rw [same,lines]

def bytesIn : List PortEvent → List UInt8
  | [] => []
  | .byte byte :: events => byte :: bytesIn events
  | .ended :: events | .timedOut :: events => bytesIn events

-- The lines of a text that is read in one piece.
def boundedLines (maxBytes : Nat) : List UInt8 → List UInt8 → List (List UInt8)
  | _,[] => []
  | buf,byte :: bytes =>
      if byte = newline ∨ maxBytes < (buf ++ [byte]).length then (buf ++ [byte]) :: boundedLines maxBytes [] bytes
      else boundedLines maxBytes (buf ++ [byte]) bytes

-- The events cut behind each newline.
def byLine : List PortEvent → List (List PortEvent)
  | [] => []
  | event :: events =>
      if event = .byte newline then [event] :: byLine events
      else match byLine events with
        | [] => [[event]]
        | line :: lines => (event :: line) :: lines

theorem byLine_inside {event : PortEvent} (inside : event ≠ .byte newline) (events : List PortEvent) :
    (byLine (event :: events)).headD [] = event :: (byLine events).headD [] ∧
    (byLine (event :: events)).tail = (byLine events).tail := by
  rw [byLine,if_neg inside]
  cases byLine events <;> exact ⟨rfl,rfl⟩

-- A scan of the events that begins afresh behind each newline finds in them what it finds line by line.
theorem scan_byLine {scan : List UInt8 → List PortEvent → List (List UInt8)} (nothing : ∀ buf, scan buf [] = [])
    (step : ∀ buf event, ∃ found next, (event = .byte newline → next = []) ∧
      ∀ events, scan buf (event :: events) = found ++ scan next events)
    (buf : List UInt8) (events : List PortEvent) :
    scan buf events = scan buf ((byLine events).headD []) ++ (byLine events).tail.flatMap (scan []) := by
  induction events generalizing buf with
  | nil => simp [byLine,nothing]
  | cons event events ih =>
      obtain ⟨found,next,fresh,found_first⟩ := step buf event
      by_cases cut : event = .byte newline
      · have rest : scan [] events = (byLine events).flatMap (scan []) := by
          rw [ih []]
          cases byLine events with
          | nil => simp [nothing]
          | cons line lines => rfl
        rw [byLine,if_pos cut,List.headD_cons,List.tail_cons,found_first,found_first,fresh cut,rest,nothing,List.append_nil]
      · rw [(byLine_inside cut events).1,(byLine_inside cut events).2,found_first,found_first,ih next,List.append_assoc]

theorem scan_lines {scan : List UInt8 → List PortEvent → List (List UInt8)} (nothing : ∀ buf, scan buf [] = [])
    (step : ∀ buf event, ∃ found next, (event = .byte newline → next = []) ∧
      ∀ events, scan buf (event :: events) = found ++ scan next events) (events : List PortEvent) :
    scan [] events = (byLine events).flatMap (scan []) := by
  rw [scan_byLine nothing step]
  cases byLine events with
  | nil => simp [nothing]
  | cons line lines => rfl

theorem linesRead_byLine (maxBytes : Nat) (events : List PortEvent) :
    linesRead maxBytes [] events = (byLine events).flatMap (linesRead maxBytes []) := by
  refine scan_lines (fun buf => rfl) (fun buf event => ?_) events
  cases event with
  | timedOut => exact ⟨[],[],fun _ => rfl,fun events => rfl⟩
  | ended => exact ⟨[buf],[],fun _ => rfl,fun events => rfl⟩
  | byte byte =>
      by_cases ends : byte = newline ∨ maxBytes < (buf ++ [byte]).length
      · exact ⟨[buf ++ [byte]],[],fun _ => rfl,fun events => by rw [linesRead,if_pos ends]; rfl⟩
      · refine ⟨[],buf ++ [byte],fun last => ?_,fun events => by rw [linesRead,if_neg ends]; rfl⟩
        cases last
        exact absurd (.inl rfl) ends

theorem boundedLines_byLine (maxBytes : Nat) (events : List PortEvent) :
    boundedLines maxBytes [] (bytesIn events) =
      (byLine events).flatMap (fun line => boundedLines maxBytes [] (bytesIn line)) := by
  refine @scan_lines (fun buf events => boundedLines maxBytes buf (bytesIn events)) (fun buf => rfl)
    (fun buf event => ?_) events
  cases event with
  | timedOut => exact ⟨[],buf,nofun,fun events => rfl⟩
  | ended => exact ⟨[],buf,nofun,fun events => rfl⟩
  | byte byte =>
      by_cases ends : byte = newline ∨ maxBytes < (buf ++ [byte]).length
      · exact ⟨[buf ++ [byte]],[],fun _ => rfl,fun events => by simp only [bytesIn,boundedLines,if_pos ends]; rfl⟩
      · refine ⟨[],buf ++ [byte],fun last => ?_,fun events => by simp only [bytesIn,boundedLines,if_neg ends]; rfl⟩
        cases last
        exact absurd (.inl rfl) ends

end Wire
