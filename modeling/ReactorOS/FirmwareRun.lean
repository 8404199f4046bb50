import ReactorOS.AckHandshake
import ReactorOS.ChecksumCoverage
import ReactorOS.ControlLoop
import ReactorOS.FirmwareAgreement
import ReactorOS.Concurrency.Ticker
import ReactorOS.Wire.Json
import ReactorOS.Wire.Utf8
namespace ReactorOS.Firmware
open Wire Concurrency

-- What the sketch reads of its machine, by the clock and the board.
structure Sensors where
  readTemperatureC : Nat → ℚ
  readPressureMpa : Nat → ℚ
  readRpm : Board → ℚ
  readShakeCpm : Board → ℚ
  readTiltState : Nat → Nat
  readFlowLMin : Board → ℚ
  readConcentrationPercent : Nat → ℚ
  readPh : Nat → ℚ

-- What stands in the sketch for the sensors that are to be wired.
def Sensors.sketch (sine : ℚ → ℚ) : Sensors where
  readTemperatureC millis := 175 + sine (millis/15000)*2
  readPressureMpa millis := 21/100 + sine (millis/19000)*(1/100)
  readRpm board := board.targetRpm
  readShakeCpm board := board.targetShakeCpm
  readTiltState := Firmware.readTiltState
  readFlowLMin board := 5/2 + board.targetRpm/1000 + board.targetShakeCpm/100
  readConcentrationPercent millis := 312/5 + sine (millis/24000)*(4/5)
  readPh millis := 359/50 + sine (millis/31000)*(1/20)

-- One turn of `loop`: the lines that have come in, and the time at each look at the clock.
structure Pass where
  lines : List (Nat × String)
  temperature : Nat
  looked : Nat
  kept : Nat
  pressure : Nat
  tilt : Nat
  concentration : Nat
  ph : Nat
  printed : Nat

-- The sketch as it runs; `outputs` is what `applyTargets` was given last.
structure Sketch where
  board : Board := {}
  lastSampleMs : Nat := 0
  outputs : Option Outputs := none
  deriving DecidableEq

def millis (clock : Nat) : Nat := clock % 2^32

def setup (clock : Nat) : Sketch := {board := {lastCommandMs := millis clock}}

def Sketch.take (s : Sketch) (line : Nat × String) : Sketch :=
  let (board,applied) := handleCommand (millis line.1) line.2 s.board
  {s with board := board,outputs := applied.or s.outputs}

-- The branch behind a silent host has no code in it.
def enforceLocalSafety (tempC : ℚ) (s : Sketch) : Sketch :=
  if 250 < tempC then {s with outputs := some ⟨0,0,0,0⟩} else s

section Loop
variable (sensors : Sensors)

def Pass.tempC (pass : Pass) : ℚ := sensors.readTemperatureC (millis pass.temperature)

def Pass.readings (pass : Pass) (board : Board) : Readings where
  tempC := pass.tempC sensors
  pressureMpa := sensors.readPressureMpa (millis pass.pressure)
  rpm := sensors.readRpm board
  shakeCpm := sensors.readShakeCpm board
  tiltState := sensors.readTiltState (millis pass.tilt)
  flowLMin := sensors.readFlowLMin board
  concentration := sensors.readConcentrationPercent (millis pass.concentration)
  ph := sensors.readPh (millis pass.ph)

-- The pass up to its frame.
def Sketch.heard (s : Sketch) (pass : Pass) : Sketch :=
  enforceLocalSafety (pass.tempC sensors) (pass.lines.foldl Sketch.take s)

def Sketch.isDue (s : Sketch) (pass : Pass) : Bool :=
  decide (1000 ≤ Ticker.elapsed (2^32) (millis pass.looked) s.lastSampleMs)

def loop (s : Sketch) (pass : Pass) : Sketch :=
  let s := s.heard sensors pass
  if s.isDue pass then
    {s with board := (sendFrame (millis pass.printed) (pass.readings sensors s.board) s.board).2,lastSampleMs := millis pass.kept}
  else s

-- The frames that are printed on the way, each with its pass.
def frames : List Pass → Sketch → List (Pass × String)
  | [],_ => []
  | pass :: passes,s =>
      let t := s.heard sensors pass
      (if t.isDue pass then [(pass,(sendFrame (millis pass.printed) (pass.readings sensors t.board) t.board).1)] else []) ++
        frames passes (loop sensors s pass)

end Loop

-- A command is accepted by its line alone.
def accepted (line : String) : Bool :=
  startsWith "TX|" line &&
    match lastIndexOf chkMark line.toList with
    | none => false
    | some chkStart => eqIgnoreAsciiCase (String.ofList (trimSpace (line.toList.drop (chkStart+5))))
        (checksumHex (xorChecksum (String.ofList (substring line.toList 0 chkStart))))

theorem handleCommand_eq (millis : Nat) (line : String) (board : Board) : handleCommand millis line board =
    if accepted line then (board.receive millis line.toList,some (board.receive millis line.toList).outputs)
    else (board,none) := by
  unfold handleCommand accepted
  cases startsWith "TX|" line with
  | false => rfl
  | true =>
      cases lastIndexOf chkMark line.toList with
      | none => rfl
      | some chkStart =>
          simp only [Bool.not_true,Bool.false_eq_true,if_false,Bool.true_and]
          cases eqIgnoreAsciiCase _ _ <;> rfl

section Kept
variable {sensors : Sensors} {s : Sketch} {pass : Pass}

-- Only the frame counts a number, only the frame keeps a time.
theorem take_seqNo (s : Sketch) (line : Nat × String) : (s.take line).board.seqNo = s.board.seqNo ∧
    (s.take line).lastSampleMs = s.lastSampleMs := by
  unfold Sketch.take
  rw [handleCommand_eq]
  by_cases taken : accepted line.2 = true
  · rw [if_pos taken]
    exact ⟨rfl,rfl⟩
  · rw [if_neg taken]
    exact ⟨rfl,rfl⟩

theorem takes_seqNo (lines : List (Nat × String)) (s : Sketch) : (lines.foldl Sketch.take s).board.seqNo = s.board.seqNo ∧
    (lines.foldl Sketch.take s).lastSampleMs = s.lastSampleMs := by
  induction lines generalizing s with
  | nil => exact ⟨rfl,rfl⟩
  | cons line lines ih =>
      obtain ⟨seqNo,last⟩ := ih (s.take line)
      exact ⟨seqNo.trans (take_seqNo s line).1,last.trans (take_seqNo s line).2⟩

theorem enforceLocalSafety_board (tempC : ℚ) (s : Sketch) : (enforceLocalSafety tempC s).board = s.board ∧
    (enforceLocalSafety tempC s).lastSampleMs = s.lastSampleMs := by
  unfold enforceLocalSafety
  split <;> exact ⟨rfl,rfl⟩

theorem heard_seqNo (s : Sketch) (pass : Pass) : (s.heard sensors pass).board.seqNo = s.board.seqNo ∧
    (s.heard sensors pass).lastSampleMs = s.lastSampleMs := by
  obtain ⟨board,last⟩ := enforceLocalSafety_board (pass.tempC sensors) (pass.lines.foldl Sketch.take s)
  obtain ⟨seqNo,kept⟩ := takes_seqNo pass.lines s
  exact ⟨(congrArg Board.seqNo board).trans seqNo,last.trans kept⟩

theorem heard_due (s : Sketch) (pass : Pass) : (s.heard sensors pass).isDue pass = s.isDue pass := by
  rw [Sketch.isDue,(heard_seqNo s pass).2]
  rfl

-- What one turn does to the counter and the time kept.
theorem loop_kept (sensors : Sensors) (s : Sketch) (pass : Pass) :
    (loop sensors s pass).board.seqNo = (if s.isDue pass then (s.board.seqNo+1) % 2^32 else s.board.seqNo) ∧
      (loop sensors s pass).lastSampleMs = if s.isDue pass then millis pass.kept else s.lastSampleMs := by
  obtain ⟨seqNo,last⟩ := @heard_seqNo sensors s pass
  unfold loop
  simp only [heard_due]
  by_cases due : s.isDue pass = true
  · rw [if_pos due,if_pos due,if_pos due]
    exact ⟨congrArg (fun number => (number+1) % 2^32) seqNo,rfl⟩
  · rw [if_neg due,if_neg due,if_neg due]
    exact ⟨seqNo,last⟩

theorem loop_outputs (sensors : Sensors) (s : Sketch) (pass : Pass) :
    (loop sensors s pass).outputs = (s.heard sensors pass).outputs := by
  unfold loop
  dsimp only
  split <;> rfl

-- The frames come when the sketch's own clock says so.
theorem frames_due (sensors : Sensors) (passes : List Pass) (s : Sketch) : (frames sensors passes s).map Prod.fst =
    Ticker.dueWrapped Pass.looked Pass.kept (2^32) 1000 s.lastSampleMs passes := by
  induction passes generalizing s with
  | nil => rfl
  | cons pass passes ih =>
      have last := (loop_kept sensors s pass).2
      rw [frames,List.map_append,ih,Ticker.dueWrapped,last,heard_due]
      have clock : s.isDue pass = true ↔ 1000 ≤ Ticker.elapsed (2^32) (pass.looked % 2^32) s.lastSampleMs := decide_eq_true_iff
      by_cases due : s.isDue pass = true
      · rw [if_pos due,if_pos due,if_pos (clock.mp due)]
        rfl
      · rw [if_neg due,if_neg due,if_neg fun late => due (clock.mpr late)]
        rfl

-- And they are numbered in their order.
theorem frames_numbered (sensors : Sensors) {passes : List Pass} {s : Sketch} {i : Nat} {frame : Pass × String}
    (small : s.board.seqNo < 2^32) (printed : (frames sensors passes s)[i]? = some frame) :
    ∃ readings, ∃ board : Board, board.seqNo = (s.board.seqNo+i) % 2^32 ∧
      frame.2 = (sendFrame (millis frame.1.printed) readings board).1 := by
  induction passes generalizing s i with
  | nil => cases printed
  | cons pass passes ih =>
      obtain ⟨seqNo,_⟩ := loop_kept sensors s pass
      rw [frames,heard_due] at printed
      by_cases due : s.isDue pass = true
      · rw [if_pos due] at printed seqNo
        cases i with
        | zero =>
            cases printed
            refine ⟨_,_,?_,rfl⟩
            rw [(heard_seqNo s pass).1,Nat.add_zero,Nat.mod_eq_of_lt small]
        | succ i =>
            obtain ⟨readings,board,numbered,line⟩ := ih (seqNo ▸ Nat.mod_lt _ (by decide)) printed
            refine ⟨readings,board,?_,line⟩
            rw [numbered,seqNo,Nat.mod_add_mod]
            congr 1
            omega
      · rw [if_neg due] at printed seqNo
        rw [←seqNo]
        exact ih (seqNo ▸ small) printed

end Kept

theorem sketch_frames (sensors : Sensors) (clock : Nat) {passes : List Pass}
    (order : Ticker.InOrder Pass.looked Pass.kept 0 passes) :
    ((frames sensors passes (setup clock)).map Prod.fst).IsChain (fun p q => p.kept + 1000 ≤ q.looked) ∧
      (∀ gap, 1000 + gap ≤ 2^32 → Ticker.Close Pass.looked gap 0 passes →
        (frames sensors passes (setup clock)).map Prod.fst = Ticker.due Pass.looked Pass.kept 1000 0 passes) ∧
      ∀ i frame, (frames sensors passes (setup clock))[i]? = some frame → ∃ readings,
        scanFrame "esp32" frame.2 "RX" true = .ok (frameEntries (i % 2^32) (millis frame.1.printed) readings).reverse := by
  have due := frames_due sensors passes (setup clock)
  refine ⟨?_,?_,?_⟩
  · rw [due]
    exact (Ticker.dueWrapped_spaced (by decide) order).1
  · intro gap fits near
    rw [due]
    exact Ticker.dueWrapped_due (by decide) (by omega) order (by decide) near
  · intro i frame printed
    have unsent : (setup clock).board.seqNo = 0 := rfl
    obtain ⟨readings,board,numbered,line⟩ := frames_numbered sensors (unsent ▸ by decide) printed
    have count : (setup clock).board.seqNo + i = i := Nat.zero_add i
    rw [count] at numbered
    refine ⟨readings,?_⟩
    rw [line,←numbered]
    exact sendFrame_scanned _ board readings

def benchPass (clock : Nat) : Pass := ⟨[],clock,clock,clock,clock,clock,clock,clock,clock⟩

theorem sketch_frames_bench :
    ((frames (.sketch fun _ => 0) [benchPass 900,benchPass 1500,benchPass 2600] (setup 5)).map Prod.fst).IsChain
        (fun p q => p.kept + 1000 ≤ q.looked) ∧
      (∀ gap, 1000 + gap ≤ 2^32 → Ticker.Close Pass.looked gap 0 [benchPass 900,benchPass 1500,benchPass 2600] →
        (frames (.sketch fun _ => 0) [benchPass 900,benchPass 1500,benchPass 2600] (setup 5)).map Prod.fst =
          Ticker.due Pass.looked Pass.kept 1000 0 [benchPass 900,benchPass 1500,benchPass 2600]) ∧
      ∀ i frame, (frames (.sketch fun _ => 0) [benchPass 900,benchPass 1500,benchPass 2600] (setup 5))[i]? = some frame →
        ∃ readings, scanFrame "esp32" frame.2 "RX" true =
          .ok (frameEntries (i % 2^32) (millis frame.1.printed) readings).reverse :=
  sketch_frames _ 5 ⟨by decide,by decide,by decide,by decide,by decide,by decide,trivial⟩

section Outputs
variable {sensors : Sensors} {s : Sketch} {pass : Pass}

structure Outputs.Bounded (outputs : Outputs) : Prop where
  tempC : 0 ≤ outputs.tempC ∧ outputs.tempC ≤ 500
  rpm : 0 ≤ outputs.rpm ∧ outputs.rpm ≤ 2000
  shakeCpm : 0 ≤ outputs.shakeCpm ∧ outputs.shakeCpm ≤ 60
  pressureMpa : 0 ≤ outputs.pressureMpa ∧ outputs.pressureMpa ≤ 10

-- The targets are within the limits, and so is what was applied.
structure Sketch.Bounded (s : Sketch) : Prop where
  targets : s.board.outputs.Bounded
  outputs : ∀ outputs ∈ s.outputs, outputs.Bounded

theorem constrain_between {value low high : ℚ} (order : low ≤ high) : low ≤ constrain value low high ∧ constrain value low high ≤ high := by
  unfold constrain
  by_cases below : value < low
  · rw [if_pos below]
    exact ⟨le_rfl,order⟩
  · rw [if_neg below]
    by_cases above : high < value
    · rw [if_pos above]
      exact ⟨order,le_rfl⟩
    · rw [if_neg above]
      exact ⟨not_lt.mp below,not_lt.mp above⟩

theorem target_between {read : Option ℚ} {target high : ℚ} (positive : 0 ≤ high) (within : 0 ≤ target ∧ target ≤ high) :
    0 ≤ read.elim target (constrain · 0 high) ∧ read.elim target (constrain · 0 high) ≤ high := by
  cases read with
  | none => exact within
  | some value => exact constrain_between positive

theorem receive_bounded {board : Board} (bounded : board.outputs.Bounded) (millis : Nat) (line : List Char) :
    (board.receive millis line).outputs.Bounded where
  tempC := target_between (by decide +kernel) bounded.tempC
  rpm := target_between (by decide +kernel) bounded.rpm
  shakeCpm := target_between (by decide +kernel) bounded.shakeCpm
  pressureMpa := target_between (by decide +kernel) bounded.pressureMpa

theorem Sketch.Bounded.take (bounded : s.Bounded) (line : Nat × String) : (s.take line).Bounded := by
  unfold Sketch.take
  rw [handleCommand_eq]
  by_cases taken : accepted line.2 = true
  · rw [if_pos taken]
    have received := receive_bounded bounded.targets (millis line.1) line.2.toList
    exact ⟨received,fun outputs same => Option.some.inj same ▸ received⟩
  · rw [if_neg taken]
    exact bounded

theorem Sketch.Bounded.takes (bounded : s.Bounded) (lines : List (Nat × String)) : (lines.foldl Sketch.take s).Bounded := by
  induction lines generalizing s with
  | nil => exact bounded
  | cons line lines ih => exact ih (bounded.take line)

theorem Sketch.Bounded.loop (bounded : s.Bounded) (sensors : Sensors) (pass : Pass) : (loop sensors s pass).Bounded := by
  have taken := bounded.takes pass.lines
  have heard : (s.heard sensors pass).Bounded := by
    unfold Sketch.heard enforceLocalSafety
    split
    · exact ⟨taken.targets,fun outputs same => Option.some.inj same ▸ ⟨by norm_num,by norm_num,by norm_num,by norm_num⟩⟩
    · exact taken
  unfold Firmware.loop
  dsimp only
  split
  · exact ⟨heard.targets,heard.outputs⟩
  · exact heard

theorem setup_bounded (clock : Nat) : (setup clock).Bounded where
  targets := ⟨by norm_num [setup,Board.outputs],by norm_num [setup,Board.outputs],by norm_num [setup,Board.outputs],
    by norm_num [setup,Board.outputs]⟩
  outputs _ none := nomatch none

def Pass.hot (sensors : Sensors) (pass : Pass) : Bool := decide (250 < pass.tempC sensors)

def Pass.commanded (pass : Pass) : Bool := pass.lines.any fun line => accepted line.2

theorem take_refused {line : Nat × String} (refused : accepted line.2 = false) : s.take line = s := by
  unfold Sketch.take
  rw [handleCommand_eq,refused]
  rfl

theorem take_accepted {line : Nat × String} (taken : accepted line.2 = true) :
    (s.take line).outputs = some (s.take line).board.outputs := by
  unfold Sketch.take
  rw [handleCommand_eq,taken]
  rfl

-- The last command accepted is the one that is applied.
theorem takes_outputs (lines : List (Nat × String)) (s : Sketch) : (lines.foldl Sketch.take s).outputs =
    if lines.any (fun line => accepted line.2) then some (lines.foldl Sketch.take s).board.outputs else s.outputs := by
  induction lines using List.reverseRecOn with
  | nil => rfl
  | append_singleton lines line ih =>
      rw [List.foldl_append,List.any_append]
      change (Sketch.take _ line).outputs = _
      cases taken : accepted line.2 with
      | true =>
          rw [take_accepted taken]
          simp [taken]
      | false =>
          rw [List.foldl_cons,List.foldl_nil,take_refused taken,ih]
          simp only [List.any_cons,List.any_nil,taken,Bool.or_false]

theorem takes_refused {lines : List (Nat × String)} (silent : (lines.any fun line => accepted line.2) = false) (s : Sketch) :
    lines.foldl Sketch.take s = s := by
  induction lines generalizing s with
  | nil => rfl
  | cons line lines ih =>
      rw [List.any_cons,Bool.or_eq_false_iff] at silent
      rw [List.foldl_cons,take_refused silent.1]
      exact ih silent.2 s

-- What is applied at the end of one turn.
theorem heard_outputs (sensors : Sensors) (s : Sketch) (pass : Pass) : (loop sensors s pass).outputs =
    if pass.hot sensors then some ⟨0,0,0,0⟩ else
      if pass.commanded then some (loop sensors s pass).board.outputs else s.outputs := by
  have board : (loop sensors s pass).board.outputs = (pass.lines.foldl Sketch.take s).board.outputs := by
    have heard : (s.heard sensors pass).board = (pass.lines.foldl Sketch.take s).board := (enforceLocalSafety_board _ _).1
    rw [←heard]
    unfold loop
    dsimp only
    split <;> rfl
  rw [loop_outputs,board]
  unfold Sketch.heard enforceLocalSafety Pass.hot Pass.commanded
  by_cases hot : 250 < pass.tempC sensors
  · rw [if_pos hot,if_pos (decide_eq_true hot)]
  · rw [if_neg hot,if_neg (by simpa using hot)]
    exact takes_outputs pass.lines s

theorem silent_board (silent : pass.commanded = false) (sensors : Sensors) (s : Sketch) :
    (loop sensors s pass).board.outputs = s.board.outputs := by
  have heard : (s.heard sensors pass).board = s.board := by
    unfold Sketch.heard
    rw [(enforceLocalSafety_board _ _).1,takes_refused silent]
  have same : (loop sensors s pass).board.outputs = (s.heard sensors pass).board.outputs := by
    unfold loop
    dsimp only
    split <;> rfl
  rw [same,heard]

-- Without a command only a hot machine changes what is applied, however long it is.
theorem silent_outputs (sensors : Sensors) {later : List Pass} (silent : ∀ pass ∈ later, pass.commanded = false) (s : Sketch) :
    (later.foldl (loop sensors) s).outputs = (if later.any (Pass.hot sensors) then some ⟨0,0,0,0⟩ else s.outputs) ∧
      (later.foldl (loop sensors) s).board.outputs = s.board.outputs := by
  induction later generalizing s with
  | nil => exact ⟨rfl,rfl⟩
  | cons pass later ih =>
      have still := silent pass List.mem_cons_self
      obtain ⟨outputs,board⟩ := ih (fun pass listed => silent pass (List.mem_cons_of_mem _ listed)) (loop sensors s pass)
      refine ⟨?_,board.trans (silent_board still sensors s)⟩
      rw [List.foldl_cons,outputs,heard_outputs,still,List.any_cons]
      cases pass.hot sensors <;> cases later.any (Pass.hot sensors) <;> rfl

theorem run_bounded (sensors : Sensors) (passes : List Pass) (bounded : s.Bounded) :
    (passes.foldl (loop sensors) s).Bounded := by
  induction passes generalizing s with
  | nil => exact bounded
  | cons pass passes ih => exact ih (bounded.loop sensors pass)

-- What the sketch applies, from the last turn on in which it accepted a command.
theorem sketch_outputs (sensors : Sensors) (clock : Nat) (before later : List Pass) (pass : Pass)
    (silent : ∀ pass ∈ later, pass.commanded = false) :
    let s := (before ++ pass :: later).foldl (loop sensors) (setup clock)
    s.Bounded ∧ s.outputs =
      if (pass :: later).any (Pass.hot sensors) then some ⟨0,0,0,0⟩
      else if pass.commanded then some s.board.outputs else (before.foldl (loop sensors) (setup clock)).outputs := by
  refine ⟨run_bounded sensors _ (setup_bounded clock),?_⟩
  rw [List.foldl_append,List.foldl_cons]
  generalize before.foldl (loop sensors) (setup clock) = s
  obtain ⟨outputs,board⟩ := silent_outputs sensors silent (loop sensors s pass)
  rw [outputs,board,heard_outputs,List.any_cons]
  cases pass.hot sensors <;> cases later.any (Pass.hot sensors) <;> rfl

-- A machine that gets hot five seconds after it was switched on.
def hotSensors : Sensors := {Sensors.sketch fun _ => 0 with readTemperatureC := fun millis => if 5000 ≤ millis then 260 else 20}

theorem sketch_outputs_hot :
    let s := ([] ++ benchPass 1500 :: [benchPass 6000,benchPass 90000]).foldl (loop hotSensors) (setup 0)
    s.Bounded ∧ s.outputs =
      if (benchPass 1500 :: [benchPass 6000,benchPass 90000]).any (Pass.hot hotSensors) then some ⟨0,0,0,0⟩
      else if (benchPass 1500).commanded then some s.board.outputs
      else (([] : List Pass).foldl (loop hotSensors) (setup 0)).outputs :=
  sketch_outputs hotSensors 0 [] [benchPass 6000,benchPass 90000] (benchPass 1500) (by decide)

end Outputs
section Silence
variable {text : String}

-- No frame of the sketch has the letter in it, and every ACK frame does.
theorem unspoken_bytes (absent : 'y' ∉ text.toList) : (121 : UInt8) ∉ asBytes text := fun spoken =>
  absent (mem_of_byte (by decide) spoken)

theorem spoken_bytes (listed : 'y' ∈ text.toList) : (121 : UInt8) ∈ asBytes text :=
  List.mem_flatMap.mpr ⟨'y',listed,by decide⟩

theorem displayFixed_unspoken (value : ℚ) : 'y' ∉ (displayFixed 2 value).toList := by
  intro listed
  rcases displayFixed_chars value 'y' listed with digit | minus | point
  · cases digit
  · cases minus
  · cases point

theorem natural_unspoken (number : Nat) : 'y' ∉ (toString number).toList := by
  intro listed
  cases repr_digits number 'y' listed

theorem checksum_unspoken (value : UInt8) : 'y' ∉ (checksumHex value).toList := by
  have digit : ∀ n < 16, digits.getD n '0' ≠ 'y' := by decide
  have high : value.toNat/16 < 16 := Nat.div_lt_of_lt_mul value.toNat_lt
  have low : value.toNat%16 < 16 := Nat.mod_lt _ (by decide)
  rw [checksumHex,String.toList_ofList]
  intro listed
  rcases List.mem_cons.mp listed with first | rest
  · exact digit _ high first.symm
  · exact digit _ low (List.mem_singleton.mp rest).symm

theorem sendFrame_unspoken (millis : Nat) (readings : Readings) (board : Board) :
    'y' ∉ (sendFrame millis readings board).1.toList := by
  unfold sendFrame frameText
  simp only [toString_text,String.toList_append,List.mem_append,not_or,displayFixed_unspoken,natural_unspoken,checksum_unspoken,
    not_false_eq_true,and_true]
  decide

theorem mem_of_trim {ch : Char} (listed : ch ∈ (trim text).toList) : ch ∈ text.toList := by
  unfold trim at listed
  rw [String.toList_ofList,List.mem_reverse] at listed
  exact List.dropWhile_subset _ (List.mem_reverse.mp (List.dropWhile_subset _ listed))

theorem mem_of_piece {ch separator : Char} {pieces : List (List Char)} {piece : List Char} (listed : piece ∈ pieces)
    (inside : ch ∈ piece) : ch ∈ [separator].intercalate pieces := by
  induction pieces with
  | nil => cases listed
  | cons first pieces ih =>
      cases pieces with
      | nil => simpa [List.mem_singleton.mp listed] using inside
      | cons second pieces =>
          rw [List.intercalate_cons_cons]
          rcases List.mem_cons.mp listed with rfl | later
          · exact List.mem_append_left _ (List.mem_append_left _ inside)
          · exact List.mem_append_right _ (ih later)

theorem mem_of_part {ch separator : Char} {part : String} (listed : part ∈ split separator text) (inside : ch ∈ part.toList) :
    ch ∈ text.toList := by
  rw [←join_split separator text,join,String.toList_ofList]
  exact mem_of_piece (List.mem_map_of_mem listed) inside

theorem mem_of_key {ch separator : Char} {key value : String} (cut : splitOnce separator text = some (key,value))
    (inside : ch ∈ key.toList) : ch ∈ text.toList := by
  unfold splitOnce at cut
  rw [List.span_eq_takeWhile_dropWhile] at cut
  split at cut
  · cases cut
  · rename_i before mark behind spanned
    cases cut
    rw [String.toList_ofList] at inside
    have front : text.toList.takeWhile (· ≠ separator) = before := congrArg Prod.fst spanned
    rw [←front] at inside
    exact List.takeWhile_subset _ inside

theorem field_part {parts : List String} {field : String × String} (listed : field ∈ fieldsOf parts) :
    ∃ part ∈ parts, splitOnce '=' part = some field := by
  induction parts with
  | nil => cases listed
  | cons part parts ih =>
      rcases List.mem_append.mp listed with later | here
      · obtain ⟨other,there,cut⟩ := ih later
        exact ⟨other,List.mem_cons_of_mem _ there,cut⟩
      · unfold fieldOf at here
        split at here
        · rename_i found cut
          split at here
          · cases here
          · cases List.mem_singleton.mp here
            exact ⟨part,List.mem_cons_self,cut⟩
        · cases here

-- An ACK frame has a field of its type, whatever else is in the line.
theorem spoken_of_ack {config : Esp32Config} {requestId : String} {line : List UInt8} {ack : Esp32Ack}
    (own : ownAck config requestId line = some ack) : (121 : UInt8) ∈ line := by
  obtain ⟨text,decoded,parsed⟩ := Option.bind_eq_some_iff.mp own
  rw [←decodeUtf8_some.mp decoded]
  cases frame : parseEsp32AckFrame text config.framePrefix config.checksum with
  | error err =>
      rw [frame] at parsed
      cases parsed
  | ok found =>
      obtain ⟨fields,scanned,reads⟩ := parseEsp32AckFrame_ok.mp frame
      obtain ⟨_,scan,walked,_,rfl⟩ := scanFrame_ok.mp scanned
      have collected := (scanParts_fields _ _ _ _ _ walked).1
      have type := reads.type
      unfold requiredField at type
      split at type
      · rename_i value found
        obtain ⟨before,after,shape,_⟩ := List.lookup_eq_some_iff.mp found
        have start : FrameScan.start.fields = [] := rfl
        rw [collected,start,List.append_nil] at shape
        have listed : ("type",value) ∈ fieldsOf (split '|' (trim text)).tail := by
          rw [shape]
          exact List.mem_append_right _ List.mem_cons_self
        obtain ⟨part,there,cut⟩ := field_part listed
        have inside : 'y' ∈ part.toList := mem_of_key cut (by decide)
        exact spoken_bytes (mem_of_trim (mem_of_part (List.mem_of_mem_tail there) inside))
      · cases type

theorem frames_unspoken (sensors : Sensors) (passes : List Pass) (s : Sketch) :
    ∀ frame ∈ frames sensors passes s, 'y' ∉ frame.2.toList := by
  induction passes generalizing s with
  | nil => exact nofun
  | cons pass passes ih =>
      intro frame listed
      rcases List.mem_append.mp listed with here | later
      · split at here
        · cases List.mem_singleton.mp here
          exact sendFrame_unspoken _ _ _
        · cases here
      · exact ih _ frame later

theorem awaitAck_unspoken (config : Esp32Config) (requestId : String) (rounds : Nat) {reader : BufReader}
    (absent : (121 : UInt8) ∉ reader.waiting) : awaitAck config requestId rounds reader = .timeout := by
  induction rounds generalizing reader with
  | zero => rfl
  | succ rounds ih =>
      obtain ⟨taken,waiting,line⟩ := collectLine_waiting config.maxLineBytes [] reader
      rw [List.nil_append] at waiting
      rw [waiting,List.mem_append,not_or] at absent
      cases read : collectLine config.maxLineBytes [] reader with
      | mk result rest =>
          rw [read] at line absent
          have further := ih absent.2
          cases result with
          | error err => rw [awaitAck_failed requestId rounds read,further]
          | ok bytes =>
              have same : bytes = taken := line bytes rfl
              rw [awaitAck_read requestId rounds read,further]
              cases own : ownAck config requestId bytes with
              | none => rfl
              | some ack => exact absurd (same ▸ spoken_of_ack own) absent.1

-- Whatever of the frames reaches the host, and however it is cut up, no command is ever
-- acknowledged by it: the control loop latches a fault at each of its writes.
theorem sketch_never_acknowledges (sensors : Sensors) (passes : List Pass) (s : Sketch) (config : Esp32Config)
    (requestId : String) (rounds : Nat) {reader : BufReader}
    (heard : reader.waiting.Sublist ((frames sensors passes s).flatMap fun frame => asBytes frame.2)) :
    awaitAck config requestId rounds reader = .timeout ∧ ∀ requireCommandAck ackTimeoutMs,
      (classifyAckOutcome (awaitAck config requestId rounds reader) requireCommandAck ackTimeoutMs).confirmed = false ∧
        (classifyAckOutcome (awaitAck config requestId rounds reader) requireCommandAck ackTimeoutMs).fault.isSome := by
  have absent : (121 : UInt8) ∉ reader.waiting := by
    intro spoken
    obtain ⟨frame,listed,inside⟩ := List.mem_flatMap.mp (heard.subset spoken)
    exact unspoken_bytes (frames_unspoken sensors passes s frame listed) inside
  have late := awaitAck_unspoken config requestId rounds absent
  rw [late]
  exact ⟨rfl,fun _ _ => ⟨rfl,rfl⟩⟩

theorem sketch_never_acknowledges_bench :
    let bytes := (frames (.sketch fun _ => 0) [benchPass 1500] (setup 0)).flatMap fun frame => asBytes frame.2
    awaitAck .shipped "auto-0-1" 3 ⟨bytes.take 20,[.timedOut]⟩ = .timeout ∧ ∀ requireCommandAck ackTimeoutMs,
      (classifyAckOutcome (awaitAck .shipped "auto-0-1" 3 ⟨bytes.take 20,[.timedOut]⟩) requireCommandAck ackTimeoutMs).confirmed = false ∧
        (classifyAckOutcome (awaitAck .shipped "auto-0-1" 3 ⟨bytes.take 20,[.timedOut]⟩) requireCommandAck ackTimeoutMs).fault.isSome :=
  sketch_never_acknowledges (.sketch fun _ => 0) [benchPass 1500] (setup 0) .shipped "auto-0-1" 3
    (by rw [BufReader.waiting]; exact (List.append_nil _).symm ▸ List.take_sublist 20 _)

end Silence
end ReactorOS.Firmware
