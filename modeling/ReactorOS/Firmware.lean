import ReactorOS.Esp32
import ReactorOS.Text
import ReactorOS.Wire.Search
namespace ReactorOS.Firmware
open Wire

-- The sketch of the ESP32. Its texts are bytes; they are characters here, since all that it
-- searches for is ASCII. Floats and their texts are exact.
structure Board where
  seqNo : Nat := 0
  targetTempC : ℚ := 175
  targetRpm : ℚ := 450
  targetShakeCpm : ℚ := 30
  targetPressureMpa : ℚ := 1/2
  heatTimeS : ℚ := 300
  holdTimeS : ℚ := 600
  coolTimeS : ℚ := 180
  lastCommandMs : Nat := 0
  deriving DecidableEq

-- What `applyTargets` is called with.
structure Outputs where
  tempC : ℚ
  rpm : ℚ
  shakeCpm : ℚ
  pressureMpa : ℚ
  deriving DecidableEq

def xorChecksum (body : String) : UInt8 := (asBytes body).foldl (fun chk byte => chk ^^^ byte) 0

def digits : List Char := "0123456789ABCDEF".toList

def checksumHex (value : UInt8) : String :=
  String.ofList [digits.getD (value.toNat/16) '0',digits.getD (value.toNat%16) '0']

-- What the sketch hands to `sendFrame`. A float that is not finite is left out.
structure Readings where
  tempC : ℚ
  pressureMpa : ℚ
  rpm : ℚ
  shakeCpm : ℚ
  tiltState : Nat
  flowLMin : ℚ
  concentration : ℚ
  ph : ℚ

def frameText (seqNo millis : Nat) (readings : Readings) : String :=
  s!"RX|v=1|seq={seqNo}|ms={millis}|temp={displayFixed 2 readings.tempC}|pressure={displayFixed 2 readings.pressureMpa}|stir_speed={displayFixed 2 readings.rpm}|shake_speed={displayFixed 2 readings.shakeCpm}|tilt_state={readings.tiltState}|flow_rate={displayFixed 2 readings.flowLMin}|product_concentration={displayFixed 2 readings.concentration}|ph={displayFixed 2 readings.ph}"

-- The line that is printed, and the board after it.
def sendFrame (millis : Nat) (readings : Readings) (board : Board) : String × Board :=
  let body := frameText board.seqNo millis readings
  (s!"{body}|chk={checksumHex (xorChecksum body)}\r\n",{board with seqNo := (board.seqNo+1)%2^32})

def readTiltState (millis : Nat) : Nat := if millis/1000%2 = 0 then 1 else 0

def isSpace (ch : Char) : Bool := ch.val == 0x20 || (0x09 ≤ ch.val && ch.val ≤ 0x0D)

def trimSpace (text : List Char) : List Char := ((text.dropWhile isSpace).reverse.dropWhile isSpace).reverse

def exponentPrefix : List Char → Int
  | mark :: rest =>
      if mark = 'e' || mark = 'E' then
        let (negative,rest) := stripSign rest
        (if negative then -1 else 1) * Nat.ofDigitChars 10 (rest.takeWhile Char.isDigit) 0
      else 0
  | [] => 0

-- The number that a text begins with, 0 where it begins with none.
def toFloat (text : List Char) : ℚ :=
  let (negative,text) := stripSign (text.dropWhile isSpace)
  let whole := text.takeWhile Char.isDigit
  let (fraction,rest) := parseFraction (text.dropWhile Char.isDigit)
  (if negative then -1 else 1) *
    ((Nat.ofDigitChars 10 (whole ++ fraction) 0 : ℚ) / 10^fraction.length * 10^exponentPrefix rest)

def parseTarget (line : List Char) (key : String) : Option ℚ :=
  let needle := key.toList ++ ['=']
  match indexOf needle line with
  | none => none
  | some start =>
      let start := start + needle.length
      let stop := ((indexOf ['|'] (line.drop start)).map (· + start)).getD line.length
      some (toFloat (substring line start stop))

def constrain (value low high : ℚ) : ℚ := if value < low then low else if high < value then high else value

-- The last half of `handleCommand`, once the checksum is the one expected.
def Board.receive (board : Board) (millis : Nat) (line : List Char) : Board where
  seqNo := board.seqNo
  heatTimeS := (parseTarget line "heat_time").getD board.heatTimeS
  holdTimeS := (parseTarget line "hold_time").getD board.holdTimeS
  coolTimeS := (parseTarget line "cool_time").getD board.coolTimeS
  targetTempC := (parseTarget line "target_temp").elim board.targetTempC (constrain · 0 500)
  targetRpm := ((parseTarget line "stir_speed").or (parseTarget line "target_rpm")).elim board.targetRpm (constrain · 0 2000)
  targetShakeCpm := ((parseTarget line "shake_speed").or (parseTarget line "target_shake")).elim board.targetShakeCpm (constrain · 0 60)
  targetPressureMpa := (parseTarget line "target_pressure").elim board.targetPressureMpa (constrain · 0 10)
  lastCommandMs := millis

def Board.outputs (board : Board) : Outputs := ⟨board.targetTempC,board.targetRpm,board.targetShakeCpm,board.targetPressureMpa⟩

def chkMark : List Char := "|chk=".toList

-- A line that is not accepted changes nothing and applies nothing.
def handleCommand (millis : Nat) (line : String) (board : Board) : Board × Option Outputs :=
  if !startsWith "TX|" line then (board,none) else
  match lastIndexOf chkMark line.toList with
  | none => (board,none)
  | some chkStart =>
      let expected := checksumHex (xorChecksum (String.ofList (substring line.toList 0 chkStart)))
      let actual := String.ofList (trimSpace (line.toList.drop (chkStart + 5)))
      if !eqIgnoreAsciiCase actual expected then (board,none) else
      let board := board.receive millis line.toList
      (board,some board.outputs)

end ReactorOS.Firmware
