import ReactorOS.Esp32
import ReactorOS.Wire.Stream
namespace ReactorOS
open Wire

structure Esp32Config where
  framePrefix : String
  checksum : Bool
  maxLineBytes : Nat

-- `config/device.toml` as it is shipped.
def Esp32Config.shipped : Esp32Config := ⟨"RX",true,256⟩

def decodeUtf8 (bytes : List UInt8) : Option String := String.fromUTF8? bytes.toByteArray

theorem asBytes_toByteArray (text : String) : (asBytes text).toByteArray = text.toByteArray := by
  rw [←String.utf8Encode_toList]
  rfl

theorem decodeUtf8_some {bytes : List UInt8} {text : String} : decodeUtf8 bytes = some text ↔ asBytes text = bytes := by
  unfold decodeUtf8 String.fromUTF8?
  rw [←List.toByteArray_inj,asBytes_toByteArray]
  constructor
  · intro decoded
    split at decoded
    · cases decoded
      rfl
    · cases decoded
  · intro same
    rw [dif_pos (same ▸ text.isValidUTF8)]
    exact congrArg some (String.toByteArray_inj.mp same.symm)

def readBoundedLine (maxBytes : Nat) (reader : BufReader) : Except ReadError (Nat × String) × BufReader :=
  match collectLine maxBytes [] reader with
  | (.error err,rest) => (.error err,rest)
  | (.ok buf,rest) =>
      match decodeUtf8 buf with
      | some line => (.ok (buf.length,line),rest)
      | none => (.error .invalidData,rest)

inductive SampleError where
  | io (err : ReadError)
  | refused (message : String)
  deriving DecidableEq

-- The line of one `read_sample` call. The reader is made for the call, and what it has
-- fetched beyond the line is dropped with it.
def sampleLine (config : Esp32Config) (port : List PortRead) : Except SampleError String × List PortRead :=
  match readBoundedLine config.maxLineBytes ⟨[],port⟩ with
  | (.error err,reader) => (.error (.io err),reader.port)
  | (.ok (bytes,line),reader) =>
      if bytes = 0 then (.error (.refused "esp32 serial returned no data"),reader.port)
      else if config.maxLineBytes < bytes then
        (.error (.refused s!"esp32 frame too long: {bytes} bytes exceeds {config.maxLineBytes}"),reader.port)
      else (.ok line,reader.port)

def readSample (config : Esp32Config) (now : Instant) (sine : ℚ → ℚ) (port : List PortRead) :
    Except SampleError SensorSnapshot × List PortRead :=
  match sampleLine config port with
  | (.error err,port) => (.error err,port)
  | (.ok line,port) => ((parseEsp32Frame now sine line config.framePrefix config.checksum).mapError .refused,port)

def ackStatus (ack : Esp32Ack) : AckStatus :=
  if ack.ok then .confirmed else .rejected (ack.error.getD "downstream rejected command")

-- The loop behind the written command; the deadline is still ahead `rounds` times.
def awaitAck (config : Esp32Config) (requestId : String) : Nat → BufReader → AckStatus
  | 0,_ => .timeout
  | rounds+1,reader =>
      match readBoundedLine config.maxLineBytes reader with
      | (.error _,reader) | (.ok (0,_),reader) => awaitAck config requestId rounds reader
      | (.ok (_,line),reader) =>
          match parseEsp32AckFrame line config.framePrefix config.checksum with
          | .ok ack => if ack.requestId = requestId then ackStatus ack else awaitAck config requestId rounds reader
          | .error _ => awaitAck config requestId rounds reader

end ReactorOS
