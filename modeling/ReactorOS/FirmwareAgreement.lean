import ReactorOS.Firmware
import ReactorOS.FrameRoundTrip
namespace ReactorOS.Firmware
open Wire
variable {value : ℚ} {key : String} {entries before after : Fields}

theorem digits_hex (digit : Nat) (small : digit < 16) : digits.getD digit '0' = (Nat.digitChar digit).toUpper := by
  have all : ∀ digit : Fin 16, digits.getD digit '0' = (Nat.digitChar digit).toUpper := by decide
  exact all ⟨digit,small⟩

-- The two sides compute the same checksum.
theorem checksumHex_same (body : String) : checksumHex (xorChecksum body) = ReactorOS.checksumHex (asBytes body) := by
  have bound := (xorChecksum body).toNat_lt
  unfold checksumHex ReactorOS.checksumHex
  rw [digits_hex _ (by omega),digits_hex _ (by omega)]
  rfl

theorem isSpace_digit {ch : Char} (digit : ch.isDigit = true) : isSpace ch = false := by
  unfold Char.isDigit at digit
  unfold isSpace
  simp only [Bool.and_eq_true,decide_eq_true_eq,ge_iff_le,UInt32.le_iff_toNat_le] at digit
  simp [UInt32.le_iff_toNat_le,←UInt32.toNat_inj] at digit ⊢
  omega

-- What the host prints the sketch reads, up to the hundredths that are printed.
theorem toFloat_displayFixed (value : ℚ) : toFloat (displayFixed 2 value).toList = roundFixed 2 value := by
  have nonneg : 0 ≤ roundHalfEven (|value| * 10^2) := roundHalfEven_nonneg (by positivity)
  have cast : (((roundHalfEven (|value| * 10^2)).toNat : Nat) : ℚ) = (roundHalfEven (|value| * 10^2) : ℚ) := by
    exact_mod_cast Int.toNat_of_nonneg nonneg
  generalize scaled : (roundHalfEven (|value| * 10^2)).toNat = units at cast
  have shown := displayFixed_toList (show 2 ≠ 0 by decide) value
  rw [scaled] at shown
  have fits : units % 10^2 < 10^2 := Nat.mod_lt _ (by norm_num)
  have whole := isDigit_toDigits (units/10^2)
  have fraction := isDigit_paddedDigits 2 (units%10^2)
  have read : toFloat ((if value < 0 then ['-'] else []) ++ (Nat.toDigits 10 (units/10^2) ++
      '.' :: paddedDigits 2 (units%10^2))) = (if value < 0 then -1 else 1) * ((units:ℚ)/10^2) := by
    have front : (Nat.toDigits 10 (units/10^2) ++ '.' :: paddedDigits 2 (units%10^2)).takeWhile Char.isDigit =
        Nat.toDigits 10 (units/10^2) := by
      rw [List.takeWhile_append_of_pos whole,List.takeWhile_cons]
      simp
    have behind : (Nat.toDigits 10 (units/10^2) ++ '.' :: paddedDigits 2 (units%10^2)).dropWhile Char.isDigit =
        '.' :: paddedDigits 2 (units%10^2) := by
      rw [List.dropWhile_append_of_pos whole,List.dropWhile_cons]
      simp
    have decimals : (paddedDigits 2 (units%10^2)).takeWhile Char.isDigit = paddedDigits 2 (units%10^2) :=
      List.takeWhile_eq_self_iff.mpr fraction
    have nothing : (paddedDigits 2 (units%10^2)).dropWhile Char.isDigit = [] := List.dropWhile_eq_nil_iff.mpr fraction
    have stripped : stripSign (((if value < 0 then ['-'] else []) ++ (Nat.toDigits 10 (units/10^2) ++
        '.' :: paddedDigits 2 (units%10^2))).dropWhile isSpace) =
        (decide (value < 0),Nat.toDigits 10 (units/10^2) ++ '.' :: paddedDigits 2 (units%10^2)) := by
      by_cases negative : value < 0
      · rw [if_pos negative,decide_eq_true negative]
        rfl
      · rw [if_neg negative,decide_eq_false negative,List.nil_append]
        cases leading : Nat.toDigits 10 (units/10^2) with
        | nil => exact absurd leading Nat.toDigits_ne_nil
        | cons ch rest =>
            have digit : ch.isDigit = true := whole ch (by rw [leading]; exact List.mem_cons_self)
            rw [List.cons_append,List.dropWhile_cons,isSpace_digit digit]
            exact stripSign_digit digit _
    unfold toFloat
    simp only [stripped,front,behind,parseFraction,decimals,nothing,exponentPrefix]
    rw [ofDigitChars_decimal (show 2 ≠ 0 by decide),paddedDigits_length (show 2 ≠ 0 by decide) fits]
    simp
  rw [shown,read,cast,roundFixed]

-- A field is found by its key where the line begins with it, and behind a part without the needle.
theorem parseTarget_here {field rest : List Char} (whole : '|' ∉ field) :
    parseTarget (key.toList ++ '=' :: field ++ '|' :: rest) key = some (toFloat field) := by
  have starts : key.toList ++ ['='] <+: key.toList ++ '=' :: field ++ '|' :: rest := ⟨field ++ '|' :: rest,by simp⟩
  have behind : (key.toList ++ '=' :: field ++ '|' :: rest).drop (0+(key.toList ++ ['=']).length) = field ++ '|' :: rest := by
    have cut : key.toList ++ '=' :: field ++ '|' :: rest = (key.toList ++ ['=']) ++ (field ++ '|' :: rest) := by simp
    rw [cut,Nat.zero_add,List.drop_left]
  unfold parseTarget
  simp only [indexOf_front starts,behind,indexOf_mark whole,Option.map_some,Option.getD_some,substring]
  rw [List.drop_take,behind]
  simp

theorem parseTarget_skip {front rest : List Char} (plain : '|' ∉ key.toList) (absent : ¬key.toList ++ ['='] <:+: front) :
    parseTarget (front ++ '|' :: rest) key = parseTarget rest key := by
  have whole : '|' ∉ key.toList ++ ['='] := by simp [plain]
  have cut : ∀ place, (front ++ '|' :: rest).drop (place + (front.length+1)) = rest.drop place := by
    intro place
    have apart : front ++ '|' :: rest = (front ++ ['|']) ++ rest := by simp
    rw [apart,Nat.add_comm place,List.drop_append]
    simp
  unfold parseTarget
  simp only [indexOf_split whole (by simp),indexOf_none.mpr absent,Option.none_or]
  cases found : indexOf (key.toList ++ ['=']) rest with
  | none => rfl
  | some start =>
      simp only [Option.map_some,substring]
      rw [Nat.add_right_comm,cut]
      generalize start + (key.toList ++ ['=']).length = place
      rw [List.drop_take,List.drop_take,cut]
      congr 3
      cases indexOf ['|'] (rest.drop place) with
      | some stop => simp
      | none =>
          simp only [Option.map_none,Option.getD_none,List.length_append,List.length_cons]
          omega

-- Only a key that ends in the needle can hide it.
theorem found_at_end {needle field rest : List Char} (one : '=' ∉ field) (two : '=' ∉ rest)
    (inside : needle ++ ['='] <:+: field ++ '=' :: rest) : needle <:+ field := by
  obtain ⟨front,back,same⟩ := inside
  have shape : (front ++ needle) ++ '=' :: back = field ++ '=' :: rest := by simpa using same
  rcases List.append_eq_append_iff.mp shape with ⟨more,longer,tail⟩ | ⟨more,longer,tail⟩
  · cases more with
    | nil => exact ⟨front,by rw [longer,List.append_nil]⟩
    | cons ch more =>
        obtain ⟨rfl,_⟩ := List.cons.inj tail
        exact absurd (by rw [longer]; simp) one
  · cases more with
    | nil => exact ⟨front,by rw [longer,List.append_nil]⟩
    | cons ch more =>
        obtain ⟨rfl,kept⟩ := List.cons.inj tail
        have inside : '=' ∈ rest := by rw [kept]; exact List.mem_append_right _ List.mem_cons_self
        exact absurd inside two

-- The entries that a frame may carry so that the sketch, too, reads them one by one.
structure Separate (entries : Fields) : Prop where
  keys : ∀ key ∈ entries.map Prod.fst, '=' ∉ key.toList ∧ '|' ∉ key.toList
  values : ∀ value ∈ entries.map Prod.snd, '=' ∉ value.toList ∧ '|' ∉ value.toList

theorem intercalate_cons {part : List Char} {parts : List (List Char)} (nonempty : parts ≠ []) :
    List.intercalate ['|'] (part :: parts) = part ++ '|' :: List.intercalate ['|'] parts := by
  cases parts with
  | nil => exact absurd rfl nonempty
  | cons next parts => simp [List.intercalate_cons_cons]

theorem intercalate_append (part : List Char) (parts : List (List Char)) {more : List (List Char)} (nonempty : more ≠ []) :
    List.intercalate ['|'] (part :: parts ++ more) = List.intercalate ['|'] (part :: parts) ++ '|' :: List.intercalate ['|'] more := by
  induction parts generalizing part with
  | nil => rw [List.singleton_append,intercalate_cons nonempty,List.intercalate_singleton]
  | cons next parts ih =>
      rw [List.cons_append,intercalate_cons (by simp),ih,@intercalate_cons part (next :: parts) (by simp),List.append_assoc,
        List.cons_append]

theorem intercalate_last (parts : List (List Char)) (last tail : List Char) :
    List.intercalate ['|'] (parts ++ [last]) ++ tail = List.intercalate ['|'] (parts ++ [last ++ tail]) := by
  cases parts with
  | nil => simp [List.intercalate_singleton]
  | cons part parts =>
      rw [intercalate_append part parts (by simp),intercalate_append part parts (by simp),List.append_assoc]
      simp [List.intercalate_singleton]

theorem parseTarget_entries {value : String} {last : List Char} (known : Separate (before ++ (key,value) :: after))
    (fresh : ∀ earlier ∈ before.map Prod.fst, ¬key.toList <:+ earlier.toList) :
    parseTarget (List.intercalate ['|'] ((before ++ (key,value) :: after).map (fun entry => (render entry).toList) ++ [last]))
      key = some (toFloat value.toList) := by
  induction before with
  | nil =>
      have field := (known.values value (by simp)).2
      rw [List.nil_append,List.map_cons,List.cons_append,intercalate_cons (by simp)]
      have shown : (render (key,value)).toList = key.toList ++ '=' :: value.toList := by simp [render]
      rw [shown]
      exact parseTarget_here field
  | cons entry before ih =>
      have plain := (known.keys key (by simp)).2
      have first := known.keys entry.1 (by simp)
      have held := known.values entry.2 (by simp)
      have shown : (render entry).toList = entry.1.toList ++ '=' :: entry.2.toList := by simp [render]
      rw [List.cons_append,List.map_cons,List.cons_append,intercalate_cons (by simp),parseTarget_skip plain]
      · apply ih
        · exact ⟨fun key member => known.keys key (List.mem_cons_of_mem _ member),
            fun value member => known.values value (List.mem_cons_of_mem _ member)⟩
        · exact fun earlier member => fresh earlier (List.mem_cons_of_mem _ member)
      · rw [shown]
        intro inside
        exact fresh entry.1 (by simp) (found_at_end first.1 held.1 inside)

def targetEntries (command : SafeCommand) : Fields := [
  ("heat_time",displayFixed 2 command.heatTimeS),
  ("hold_time",displayFixed 2 command.holdTimeS),
  ("cool_time",displayFixed 2 command.coolTimeS),
  ("target_temp",displayFixed 2 command.targetTemperatureC),
  ("stir_speed",displayFixed 2 command.targetStirrerRpm),
  ("shake_speed",displayFixed 2 command.targetShakeSpeedCpm),
  ("target_pressure",displayFixed 2 command.targetPressureMpa)]

def headEntries (requestId : Option String) : Fields := ("v","1") :: (requestId.map fun rid => ("rid",rid)).toList

-- The line for a command, with its request id where it has one.
def commandLine (requestId : Option String) (command : SafeCommand) : String :=
  match requestId with
  | none => buildEsp32Command "TX" command true
  | some rid => buildEsp32CommandWithRid "TX" command rid true

theorem commandTargets_entries (command : SafeCommand) :
    (commandTargets command).toList = List.intercalate ['|'] ((targetEntries command).map fun entry => (render entry).toList) := by
  unfold commandTargets targetEntries
  simp only [toString_text]
  generalize displayFixed 2 command.heatTimeS = heat,displayFixed 2 command.holdTimeS = hold,
    displayFixed 2 command.coolTimeS = cool,displayFixed 2 command.targetTemperatureC = temperature,
    displayFixed 2 command.targetStirrerRpm = stirrer,displayFixed 2 command.targetShakeSpeedCpm = shake,
    displayFixed 2 command.targetPressureMpa = pressure
  simp [render,List.intercalate_cons_cons]

theorem frameBody_targets (label : String) (front : Fields) (command : SafeCommand) :
    (frameBody label (front ++ targetEntries command)).toList =
      (join '|' (label :: front.map render)).toList ++ '|' :: (commandTargets command).toList := by
  have nonempty : (targetEntries command).map (fun entry => (render entry).toList) ≠ [] := by simp [targetEntries]
  rw [commandTargets_entries]
  generalize targetEntries command = targets at nonempty ⊢
  unfold frameBody join
  simp only [String.toList_ofList,List.map_cons,List.map_append,List.map_map]
  exact intercalate_append label.toList _ nonempty

theorem commandLine_entries (requestId : Option String) (command : SafeCommand) :
    commandLine requestId command = withChecksum (frameBody "TX" (headEntries requestId ++ targetEntries command)) true := by
  have body := frameBody_targets "TX" (headEntries requestId) command
  cases requestId with
  | none =>
      refine congrArg (withChecksum · true) (String.toList_inj.mp ?_)
      rw [body]
      generalize commandTargets command = targets
      simp [headEntries,render,join,toString_text,List.intercalate_cons_cons]
  | some rid =>
      refine congrArg (withChecksum · true) (String.toList_inj.mp ?_)
      rw [body]
      generalize commandTargets command = targets
      simp [headEntries,render,join,toString_text,List.intercalate_cons_cons]

theorem separate_append {entries more : Fields} (one : Separate entries) (two : Separate more) : Separate (entries ++ more) where
  keys := by
    intro key member
    rw [List.map_append] at member
    exact (List.mem_append.mp member).elim (one.keys key) (two.keys key)
  values := by
    intro value member
    rw [List.map_append] at member
    exact (List.mem_append.mp member).elim (one.values value) (two.values value)

theorem displayFixed_separate (value : ℚ) : '=' ∉ (displayFixed 2 value).toList ∧ '|' ∉ (displayFixed 2 value).toList := by
  refine ⟨?_,displayFixed_plain value⟩
  intro equal
  rcases displayFixed_chars value '=' equal with digit | minus | point
  · cases digit
  · cases minus
  · cases point

theorem targetEntries_separate (command : SafeCommand) : Separate (targetEntries command) where
  keys := by
    change ∀ key ∈ ["heat_time","hold_time","cool_time","target_temp","stir_speed","shake_speed","target_pressure"],
      '=' ∉ key.toList ∧ '|' ∉ key.toList
    decide
  values := by
    simp only [targetEntries,List.map_cons,List.map_nil,List.forall_mem_cons]
    exact ⟨displayFixed_separate _,displayFixed_separate _,displayFixed_separate _,displayFixed_separate _,
      displayFixed_separate _,displayFixed_separate _,displayFixed_separate _,by simp⟩

theorem headEntries_separate {requestId : Option String} (plain : ∀ rid ∈ requestId, '=' ∉ rid.toList ∧ '|' ∉ rid.toList) :
    Separate (headEntries requestId) where
  keys := by
    cases requestId with
    | none =>
        change ∀ key ∈ ["v"],'=' ∉ key.toList ∧ '|' ∉ key.toList
        decide
    | some rid =>
        change ∀ key ∈ ["v","rid"],'=' ∉ key.toList ∧ '|' ∉ key.toList
        decide
  values := by
    cases requestId with
    | none =>
        change ∀ value ∈ ["1"],'=' ∉ value.toList ∧ '|' ∉ value.toList
        decide
    | some rid =>
        change ∀ value ∈ ["1",rid],'=' ∉ value.toList ∧ '|' ∉ value.toList
        simp only [List.forall_mem_cons]
        exact ⟨by decide,plain rid rfl,by simp⟩

theorem line_shape (label : String) (entries : Fields) : (withChecksum (frameBody label entries) true).toList =
    label.toList ++ '|' :: List.intercalate ['|'] (entries.map (fun entry => (render entry).toList) ++
      [(render ("chk",ReactorOS.checksumHex (asBytes (frameBody label entries)))).toList ++ ['\n']]) := by
  rw [withChecksum_join,←intercalate_last]
  simp only [frameTail,if_true,join,String.toList_append,String.toList_ofList,List.map_append,List.map_cons,List.map_map,
    List.map_nil,List.cons_append]
  rw [intercalate_cons (by simp),List.append_assoc,List.cons_append]
  rfl

-- The sketch reads each target of a command line, whatever the request id.
theorem parseTarget_command {requestId : Option String} {command : SafeCommand}
    (plain : ∀ rid ∈ requestId, '=' ∉ rid.toList ∧ '|' ∉ rid.toList)
    (cut : targetEntries command = before ++ (key,displayFixed 2 value) :: after)
    (fresh : ∀ earlier ∈ "v" :: "rid" :: before.map Prod.fst, ¬key.toList <:+ earlier.toList) :
    parseTarget (commandLine requestId command).toList key = some (roundFixed 2 value) := by
  have known := separate_append (headEntries_separate plain) (targetEntries_separate command)
  have cut_all : headEntries requestId ++ targetEntries command =
      (headEntries requestId ++ before) ++ (key,displayFixed 2 value) :: after := by rw [cut,List.append_assoc]
  have keys := known.keys key (by rw [cut_all]; simp)
  have label : ¬key.toList ++ ['='] <:+: "TX".toList := by
    intro inside
    have equal : '=' ∈ "TX".toList := inside.subset (by simp)
    exact absurd equal (by decide)
  rw [commandLine_entries,line_shape,parseTarget_skip keys.2 label,cut_all]
  rw [cut_all] at known
  rw [parseTarget_entries known,toFloat_displayFixed]
  intro earlier member
  apply fresh
  rw [List.map_append] at member
  rcases List.mem_append.mp member with head | target
  · cases requestId with
    | none =>
        obtain rfl := List.mem_singleton.mp head
        exact List.mem_cons_self
    | some rid =>
        have either : earlier = "v" ∨ earlier = "rid" := by simpa [headEntries] using head
        rcases either with rfl | rfl
        · exact List.mem_cons_self
        · exact List.mem_cons_of_mem _ List.mem_cons_self
  · exact List.mem_cons_of_mem _ (List.mem_cons_of_mem _ target)

theorem trimSpace_hex (bytes : List UInt8) :
    trimSpace ((ReactorOS.checksumHex bytes).toList ++ ['\n']) = (ReactorOS.checksumHex bytes).toList := by
  have bound := (bytes.foldl (fun acc byte => acc ^^^ byte) 0).toNat_lt
  have all : ∀ digit : Fin 16, isSpace (Nat.digitChar digit).toUpper = false := by decide
  have visible : ∀ digit : Nat, digit < 16 → isSpace (Nat.digitChar digit).toUpper = false := fun digit small => all ⟨digit,small⟩
  have newline : isSpace '\n' = true := by decide
  unfold ReactorOS.checksumHex
  simp only [String.toList_ofList]
  generalize (bytes.foldl (fun acc byte => acc ^^^ byte) 0).toNat = checksum at bound ⊢
  simp [trimSpace,visible _ (show checksum/16 < 16 by omega),visible _ (show checksum%16 < 16 by omega),newline]

-- A line that the host closes with its checksum is accepted.
theorem handleCommand_accepts {millis : Nat} {board : Board} {body : String} (starts : startsWith "TX|" (withChecksum body true) = true) :
    handleCommand millis (withChecksum body true) board =
      (board.receive millis (withChecksum body true).toList,
        some (board.receive millis (withChecksum body true).toList).outputs) := by
  have text : (withChecksum body true).toList =
      body.toList ++ '|' :: ("chk=".toList ++ ((ReactorOS.checksumHex (asBytes body)).toList ++ ['\n'])) := by
    simp [withChecksum,toString_text]
  have absent : '|' ∉ "chk=".toList ++ ((ReactorOS.checksumHex (asBytes body)).toList ++ ['\n']) := by
    simp [(checksumHex_plain (asBytes body)).1]
  have found : lastIndexOf chkMark (withChecksum body true).toList = some body.toList.length := by
    rw [text]
    exact lastIndexOf_last absent
  have before : String.ofList (substring (withChecksum body true).toList 0 body.toList.length) = body := by
    rw [substring,text,List.take_left,List.drop_zero,String.ofList_toList]
  have behind : (withChecksum body true).toList.drop (body.toList.length + 5) =
      (ReactorOS.checksumHex (asBytes body)).toList ++ ['\n'] := by
    rw [text,List.drop_append]
    simp
  unfold handleCommand
  rw [starts,found]
  simp only [Bool.not_true,Bool.false_eq_true,if_false,before,behind,trimSpace_hex,String.ofList_toList,checksumHex_same,
    eqIgnoreAsciiCase_self]

theorem commandLine_starts (requestId : Option String) (command : SafeCommand) :
    startsWith "TX|" (commandLine requestId command) = true := by
  rw [commandLine_entries,startsWith,line_shape]
  rfl

-- The limits of the sketch.
structure InLimits (command : SafeCommand) : Prop where
  temperature : 0 ≤ command.targetTemperatureC ∧ command.targetTemperatureC ≤ 500
  stirrer : 0 ≤ command.targetStirrerRpm ∧ command.targetStirrerRpm ≤ 2000
  shake : 0 ≤ command.targetShakeSpeedCpm ∧ command.targetShakeSpeedCpm ≤ 60
  pressure : 0 ≤ command.targetPressureMpa ∧ command.targetPressureMpa ≤ 10

theorem constrain_roundFixed {limit : Nat} (within : 0 ≤ value ∧ value ≤ limit) :
    constrain (roundFixed 2 value) 0 limit = roundFixed 2 value := by
  obtain ⟨nonneg,below⟩ := within
  have scaled : |value| * 10^2 ≤ ((limit*100 : Int):ℚ) := by
    rw [abs_of_nonneg nonneg]
    push_cast
    linarith
  have least := roundHalfEven_nonneg (show (0:ℚ) ≤ |value| * 10^2 by positivity)
  have most := roundHalfEven_le scaled
  have low : (0:ℚ) ≤ roundHalfEven (|value| * 10^2) := by exact_mod_cast least
  have high : (roundHalfEven (|value| * 10^2) : ℚ) ≤ limit*100 := by exact_mod_cast most
  have shown : roundFixed 2 value = roundHalfEven (|value| * 10^2) / 10^2 := by
    rw [roundFixed,if_neg (not_lt.mpr nonneg),one_mul]
  unfold constrain
  rw [shown,if_neg (not_lt.mpr (by positivity)),if_neg (not_lt.mpr ?_)]
  rw [div_le_iff₀ (by norm_num)]
  linarith

-- The board as a command leaves it.
def Board.commanded (board : Board) (millis : Nat) (command : SafeCommand) : Board where
  seqNo := board.seqNo
  targetTempC := roundFixed 2 command.targetTemperatureC
  targetRpm := roundFixed 2 command.targetStirrerRpm
  targetShakeCpm := roundFixed 2 command.targetShakeSpeedCpm
  targetPressureMpa := roundFixed 2 command.targetPressureMpa
  heatTimeS := roundFixed 2 command.heatTimeS
  holdTimeS := roundFixed 2 command.holdTimeS
  coolTimeS := roundFixed 2 command.coolTimeS
  lastCommandMs := millis

theorem receive_command {millis : Nat} {board : Board} {requestId : Option String} {command : SafeCommand}
    (plain : ∀ rid ∈ requestId, '=' ∉ rid.toList ∧ '|' ∉ rid.toList) (limits : InLimits command) :
    board.receive millis (commandLine requestId command).toList = board.commanded millis command := by
  have heat := @parseTarget_command command.heatTimeS "heat_time" [] ((targetEntries command).drop 1) requestId command plain rfl
    (by simp only [List.map_nil]; decide)
  have hold := @parseTarget_command command.holdTimeS "hold_time" ((targetEntries command).take 1)
    ((targetEntries command).drop 2) requestId command plain rfl (by change ∀ earlier ∈ ["v","rid","heat_time"],_; decide)
  have cool := @parseTarget_command command.coolTimeS "cool_time" ((targetEntries command).take 2)
    ((targetEntries command).drop 3) requestId command plain rfl
    (by change ∀ earlier ∈ ["v","rid","heat_time","hold_time"],_; decide)
  have temperature := @parseTarget_command command.targetTemperatureC "target_temp" ((targetEntries command).take 3)
    ((targetEntries command).drop 4) requestId command plain rfl
    (by change ∀ earlier ∈ ["v","rid","heat_time","hold_time","cool_time"],_; decide)
  have stirrer := @parseTarget_command command.targetStirrerRpm "stir_speed" ((targetEntries command).take 4)
    ((targetEntries command).drop 5) requestId command plain rfl
    (by change ∀ earlier ∈ ["v","rid","heat_time","hold_time","cool_time","target_temp"],_; decide)
  have shake := @parseTarget_command command.targetShakeSpeedCpm "shake_speed" ((targetEntries command).take 5)
    ((targetEntries command).drop 6) requestId command plain rfl
    (by change ∀ earlier ∈ ["v","rid","heat_time","hold_time","cool_time","target_temp","stir_speed"],_; decide)
  have pressure := @parseTarget_command command.targetPressureMpa "target_pressure" ((targetEntries command).take 6)
    [] requestId command plain rfl
    (by change ∀ earlier ∈ ["v","rid","heat_time","hold_time","cool_time","target_temp","stir_speed","shake_speed"],_; decide)
  have temperatureKept := @constrain_roundFixed command.targetTemperatureC 500 limits.temperature
  have stirrerKept := @constrain_roundFixed command.targetStirrerRpm 2000 limits.stirrer
  have shakeKept := @constrain_roundFixed command.targetShakeSpeedCpm 60 limits.shake
  have pressureKept := @constrain_roundFixed command.targetPressureMpa 10 limits.pressure
  rw [Nat.cast_ofNat] at temperatureKept stirrerKept shakeKept pressureKept
  unfold Board.receive
  rw [heat,hold,cool,temperature,stirrer,shake,pressure]
  simp only [Option.some_or,Option.elim_some,Option.getD_some,temperatureKept,stirrerKept,shakeKept,pressureKept]
  rfl

-- Blanks at the end of a line do not matter to the host.
theorem trim_blank {text tail : String} (blank : ∀ ch ∈ tail.toList, isWhitespace ch = true) : trim (text ++ tail) = trim text := by
  have reversed : ∀ front : List Char, (front ++ tail.toList).reverse.dropWhile isWhitespace = front.reverse.dropWhile isWhitespace := by
    intro front
    rw [List.reverse_append,List.dropWhile_append_of_pos fun ch member => blank ch (List.mem_reverse.mp member)]
  unfold trim
  rw [String.toList_append]
  rw [List.dropWhile_append]
  split
  · rename_i all
    rw [List.isEmpty_iff.mp all,List.dropWhile_eq_nil_iff.mpr blank]
  · rw [reversed]

def frameEntries (seqNo millis : Nat) (readings : Readings) : Fields := [
  ("v","1"),
  ("seq",toString seqNo),
  ("ms",toString millis),
  ("temp",displayFixed 2 readings.tempC),
  ("pressure",displayFixed 2 readings.pressureMpa),
  ("stir_speed",displayFixed 2 readings.rpm),
  ("shake_speed",displayFixed 2 readings.shakeCpm),
  ("tilt_state",toString readings.tiltState),
  ("flow_rate",displayFixed 2 readings.flowLMin),
  ("product_concentration",displayFixed 2 readings.concentration),
  ("ph",displayFixed 2 readings.ph)]

theorem frameText_entries (seqNo millis : Nat) (readings : Readings) :
    frameText seqNo millis readings = frameBody "RX" (frameEntries seqNo millis readings) := by
  unfold frameText
  apply String.toList_inj.mp
  simp only [frameBody,frameEntries,join,toString_text]
  generalize displayFixed 2 readings.tempC = temp,displayFixed 2 readings.pressureMpa = pressure,
    displayFixed 2 readings.rpm = stirrer,displayFixed 2 readings.shakeCpm = shake,
    displayFixed 2 readings.flowLMin = flow,displayFixed 2 readings.concentration = concentration,
    displayFixed 2 readings.ph = ph,toString seqNo = seq,toString millis = ms,toString readings.tiltState = tilt
  simp [render,List.intercalate_cons_cons]

theorem frameEntries_known (seqNo millis : Nat) (readings : Readings) : FrameEntries (frameEntries seqNo millis readings) where
  keys := by
    change ∀ key ∈ ["v","seq","ms","temp","pressure","stir_speed","shake_speed","tilt_state","flow_rate",
      "product_concentration","ph"],'=' ∉ key.toList ∧ '|' ∉ key.toList ∧ key ≠ "chk"
    decide
  values := by
    simp only [frameEntries,List.map_cons,List.map_nil,List.forall_mem_cons]
    exact ⟨by decide,natural_plain _,natural_plain _,displayFixed_plain _,displayFixed_plain _,displayFixed_plain _,
      displayFixed_plain _,natural_plain _,displayFixed_plain _,displayFixed_plain _,displayFixed_plain _,by simp⟩

-- The largest finite float.
def f32Max : ℚ := (2^24-1)*2^104

structure FiniteReadings (readings : Readings) : Prop where
  temperature : |readings.tempC| ≤ f32Max
  pressure : |readings.pressureMpa| ≤ f32Max
  stirrer : |readings.rpm| ≤ f32Max
  shake : |readings.shakeCpm| ≤ f32Max
  flow : |readings.flowLMin| ≤ f32Max
  concentration : |readings.concentration| ≤ f32Max
  ph : |readings.ph| ≤ f32Max

-- What the host makes of the readings that it receives at `now`.
def received (now : Instant) (sine : ℚ → ℚ) (readings : Readings) : SensorSnapshot where
  temperatureC := roundFixed 2 readings.tempC
  pressureMpa := roundFixed 2 readings.pressureMpa
  stirrerRpm := roundFixed 2 readings.rpm
  shakeSpeedCpm := roundFixed 2 readings.shakeCpm
  tiltState := readings.tiltState
  tiltAngleDeg := fitTiltAngleDeg readings.tiltState (roundFixed 2 readings.shakeCpm) (sine (roundFixed 2 readings.shakeCpm))
  flowRateLMin := roundFixed 2 readings.flowLMin
  productConcentrationPercent := roundFixed 2 readings.concentration
  ph := roundFixed 2 readings.ph
  capturedAt := now

theorem f32Max_le : f32Max ≤ f64Max := by
  have small : f32Max ≤ 2^128 := by norm_num [f32Max]
  have one : (2:ℚ)^128 ≤ 2^1023 := pow_le_pow_right₀ (by norm_num) (by norm_num)
  have other : (2:ℚ)^971 ≤ 2^1023 := pow_le_pow_right₀ (by norm_num) (by norm_num)
  have twice : (2:ℚ)^1024 = 2*2^1023 := pow_succ' 2 1023
  rw [f64Max,twice]
  generalize (2:ℚ)^1023 = half at one other ⊢
  generalize (2:ℚ)^971 = spacing at other ⊢
  exact small.trans (one.trans (by linarith))

theorem reads_sent (now : Instant) (sine : ℚ → ℚ) (seqNo millis : Nat) {readings : Readings} (finite : FiniteReadings readings)
    (binary : readings.tiltState ≤ 1) :
    SampleReads now sine (frameEntries seqNo millis readings).reverse (received now sine readings) where
  version := rfl
  shake := parseF64Value_displayFixed _ (finite.shake.trans f32Max_le)
  tilt := parseTiltStateValue_toString _ binary
  temperature := parseF64Value_displayFixed _ (finite.temperature.trans f32Max_le)
  pressure := parseF64Value_displayFixed _ (finite.pressure.trans f32Max_le)
  stirrer := parseF64Value_displayFixed _ (finite.stirrer.trans f32Max_le)
  flow := parseF64Value_displayFixed _ (finite.flow.trans f32Max_le)
  concentration := congrArg (fun read => (read.map some).map (·.getD 0))
    (parseF64Value_displayFixed "product_concentration" (finite.concentration.trans f32Max_le))
  ph := congrArg (fun read => (read.map some).map (·.getD 7)) (parseF64Value_displayFixed "ph" (finite.ph.trans f32Max_le))
  angle := rfl
  captured := rfl

theorem sendFrame_scanned (millis : Nat) (board : Board) (readings : Readings) :
    scanFrame "esp32" (sendFrame millis readings board).1 "RX" true = .ok (frameEntries board.seqNo millis readings).reverse := by
  have plain : PlainText "RX" := ⟨by decide,by decide +kernel⟩
  have scanned := @scanFrame_built "esp32" "RX" (frameEntries board.seqNo millis readings) true plain.label
    (frameEntries_known board.seqNo millis readings) (by
      have entries : frameEntries board.seqNo millis readings =
          (frameEntries board.seqNo millis readings).take 10 ++ [("ph",displayFixed 2 readings.ph)] := rfl
      rw [entries]
      exact frameBody_back "RX" "ph" _ (displayFixed_back readings.ph))
  have same : trim (sendFrame millis readings board).1 =
      trim (withChecksum (frameBody "RX" (frameEntries board.seqNo millis readings)) true) := by
    unfold sendFrame withChecksum
    simp only [checksumHex_same,frameText_entries,if_true,toString_text]
    have crlf : "\r\n".toList.all isWhitespace = true := by decide
    have lf : "\n".toList.all isWhitespace = true := by decide
    rw [trim_blank (List.all_eq_true.mp crlf),trim_blank (List.all_eq_true.mp lf)]
  unfold scanFrame at scanned ⊢
  rw [same]
  exact scanned

theorem sendFrame_parsed (now : Instant) (sine : ℚ → ℚ) (millis : Nat) (board : Board) {readings : Readings}
    (finite : FiniteReadings readings) (binary : readings.tiltState ≤ 1) :
    parseEsp32Frame now sine (sendFrame millis readings board).1 "RX" true = .ok (received now sine readings) :=
  parseEsp32Frame_ok.mpr ⟨_,sendFrame_scanned millis board readings,reads_sent now sine board.seqNo millis finite binary⟩

-- Both directions of the wire: what the host commands the sketch takes over, what the sketch prints the
-- host takes over, each to two decimals.
theorem wire_formats_agree :
    (∀ millis board requestId command, (∀ rid ∈ requestId, '=' ∉ rid.toList ∧ '|' ∉ rid.toList) → InLimits command →
      handleCommand millis (commandLine requestId command) board =
        (board.commanded millis command,some (board.commanded millis command).outputs)) ∧
    ∀ now sine millis board readings, FiniteReadings readings → readings.tiltState ≤ 1 →
      parseEsp32Frame now sine (sendFrame millis readings board).1 "RX" true = .ok (received now sine readings) := by
  constructor
  · intro millis board requestId command plain limits
    have received := @receive_command millis board requestId command plain limits
    have starts := commandLine_starts requestId command
    rw [commandLine_entries] at received starts ⊢
    rw [handleCommand_accepts starts,received]
  · intro now sine millis board readings finite binary
    exact sendFrame_parsed now sine millis board finite binary

theorem readTiltState_binary (millis : Nat) : readTiltState millis ≤ 1 := by
  unfold readTiltState
  split <;> decide

def benchReadings (tiltState : Nat) : Readings where
  tempC := 175
  pressureMpa := 191/2000
  rpm := 450
  shakeCpm := 30
  tiltState := tiltState
  flowLMin := 5/2
  concentration := 624/10
  ph := 718/100

theorem benchReadings_finite (tiltState : Nat) : FiniteReadings (benchReadings tiltState) := by
  have zero : FiniteReadings (benchReadings 0) := by constructor <;> decide +kernel
  exact ⟨zero.temperature,zero.pressure,zero.stirrer,zero.shake,zero.flow,zero.concentration,zero.ph⟩

def benchCommand : SafeCommand := ⟨1855/10,240,600,120,400,25,1/3,"bench"⟩

theorem wire_formats_agree_bench :
    (handleCommand 5 (commandLine (some "req-1") benchCommand) {}).1.targetPressureMpa = 33/100 ∧
    parseEsp32Frame 0 (fun _ => 0) (sendFrame 7 (benchReadings 1) {}).1 "RX" true =
      .ok (received 0 (fun _ => 0) (benchReadings 1)) := by
  have agree := wire_formats_agree
  constructor
  · rw [agree.1 5 {} (some "req-1") benchCommand (by
      intro rid given
      obtain rfl := Option.some.inj given
      exact ⟨by decide,by decide⟩) (by constructor <;> constructor <;> norm_num [benchCommand])]
    decide +kernel
  · exact agree.2 0 (fun _ => 0) 7 {} (benchReadings 1) (benchReadings_finite 1) (by decide)

-- A third tilt state, which the argument of `sendFrame` has room for, is refused.
theorem third_tilt_state_refused : ¬∀ readings : Readings, FiniteReadings readings → ∃ sample,
    parseEsp32Frame 0 (fun _ => 0) (sendFrame 7 readings {}).1 "RX" true = .ok sample := by
  intro accepted
  obtain ⟨sample,parsed⟩ := accepted (benchReadings 2) (benchReadings_finite 2)
  obtain ⟨fields,scanned,reads⟩ := parseEsp32Frame_ok.mp parsed
  rw [sendFrame_scanned] at scanned
  cases scanned
  have refused : parseTiltStateValue "tilt_state" "2" = .ok sample.tiltState := reads.tilt
  have other : (parseTiltStateValue "tilt_state" "2").isOk = false := by decide +kernel
  rw [refused] at other
  cases other

end ReactorOS.Firmware
