import ReactorOS.Esp32
namespace ReactorOS
open Wire

-- A text without the separator and without whitespace at its edges.
structure PlainText (text : String) : Prop where
  whole : '|' ∉ text.toList
  trimmed : trim text = text

def render (entry : String × String) : String := entry.1 ++ String.singleton '=' ++ entry.2

-- The body of a frame: its prefix and its fields.
def frameBody (label : String) (entries : Fields) : String := join '|' (label :: entries.map render)

structure FrameEntries (entries : Fields) : Prop where
  keys : ∀ key ∈ entries.map Prod.fst, '=' ∉ key.toList ∧ '|' ∉ key.toList ∧ key ≠ "chk"
  values : ∀ value ∈ entries.map Prod.snd, '|' ∉ value.toList

theorem FrameEntries.plain {entries : Fields} (known : FrameEntries entries) :
    ∀ entry ∈ entries, '|' ∉ (render entry).toList := by
  intro entry member
  have key := (known.keys _ (List.mem_map_of_mem member)).2.1
  have value := known.values _ (List.mem_map_of_mem member)
  simp [render,key,value]

theorem dropWhile_visible {blank : Char → Bool} {text : List Char} (front : ∀ ch ∈ text.head?, blank ch = false) :
    text.dropWhile blank = text := by
  cases text with
  | nil => rfl
  | cons ch text => rw [List.dropWhile_cons,front ch rfl]; rfl

theorem visible_dropWhile {text : List Char} (stays : text.dropWhile isWhitespace = text) :
    ∀ ch ∈ text.head?, isWhitespace ch = false := by
  intro ch first
  cases text with
  | nil => cases first
  | cons head text =>
      obtain rfl : head = ch := Option.some.inj first
      by_contra blank
      rw [Bool.not_eq_false] at blank
      rw [List.dropWhile_cons,blank,if_pos rfl] at stays
      have short := congrArg List.length stays
      have less := (List.dropWhile_sublist isWhitespace (l := text)).length_le
      simp at short
      omega

-- Nothing is cut off a text but the line break behind it.
theorem trim_line {text : String} (front : ∀ ch ∈ text.toList.head?, isWhitespace ch = false)
    (back : ∀ ch ∈ text.toList.getLast?, isWhitespace ch = false) : trim (text ++ "\n") = text := by
  have newline : isWhitespace '\n' = true := by decide
  have reversed : ∀ ch ∈ text.toList.reverse.head?, isWhitespace ch = false := by
    rw [List.head?_reverse]
    exact back
  have stays : (text.toList ++ ['\n']).dropWhile isWhitespace = text.toList ++ ['\n'] ∨ text.toList = [] := by
    cases shape : text.toList with
    | nil => exact .inr rfl
    | cons ch rest =>
        apply Or.inl
        apply dropWhile_visible
        intro first found
        rw [shape] at front
        exact front first found
  unfold trim
  rw [String.toList_append]
  change String.ofList ((((text.toList ++ ['\n']).dropWhile isWhitespace).reverse.dropWhile isWhitespace).reverse) = text
  rcases stays with same | empty
  · rw [same,List.reverse_append,List.reverse_singleton,List.singleton_append,List.dropWhile_cons,newline,if_pos rfl,
      dropWhile_visible reversed,List.reverse_reverse,String.ofList_toList]
  · rw [empty]
    apply String.toList_inj.mp
    rw [empty]
    decide

theorem trim_edges {text : String} (trimmed : trim text = text) :
    (∀ ch ∈ text.toList.head?, isWhitespace ch = false) ∧ ∀ ch ∈ text.toList.getLast?, isWhitespace ch = false := by
  have same := congrArg String.toList trimmed
  unfold trim at same
  rw [String.toList_ofList] at same
  have front := List.dropWhile_suffix isWhitespace (l := text.toList)
  have back := List.dropWhile_suffix isWhitespace (l := (text.toList.dropWhile isWhitespace).reverse)
  have length := congrArg List.length same
  have shorter := front.length_le
  have shortest := back.length_le
  simp only [List.length_reverse] at length shortest
  have stays := front.eq_of_length (by omega)
  rw [stays] at back shortest length
  have returns := back.eq_of_length (by simpa using length)
  refine ⟨visible_dropWhile stays,?_⟩
  rw [←List.head?_reverse]
  exact visible_dropWhile returns

theorem scanParts_entries (kind : String) (index : Nat) {entries : Fields} (known : FrameEntries entries)
    (scan : FrameScan) (rest : List String) : scanParts kind index (entries.map render ++ rest) scan =
      scanParts kind (index+entries.length) rest {scan with fields := entries.reverse ++ scan.fields} := by
  induction entries generalizing index scan with
  | nil => rfl
  | cons entry entries ih =>
      obtain ⟨key,value⟩ := entry
      obtain ⟨unequal,_,other⟩ := known.keys key (by simp)
      have further : FrameEntries entries := ⟨fun key member => known.keys key (List.mem_cons_of_mem _ member),
        fun value member => known.values value (List.mem_cons_of_mem _ member)⟩
      have field : splitOnce '=' (render (key,value)) = some (key,value) := splitOnce_append unequal value
      rw [List.map_cons,List.cons_append,scanParts,field]
      simp only [FrameScan.insert,if_neg other]
      rw [ih _ further]
      simp [Nat.add_assoc,Nat.add_comm 1]

theorem checksumHex_digits (bytes : List UInt8) : ∃ high low : Fin 16,
    (checksumHex bytes).toList = [(Nat.digitChar high).toUpper,(Nat.digitChar low).toUpper] := by
  have bound := (bytes.foldl (fun acc byte => acc ^^^ byte) 0).toNat_lt
  refine ⟨⟨(bytes.foldl (fun acc byte => acc ^^^ byte) 0).toNat/16,by omega⟩,
    ⟨(bytes.foldl (fun acc byte => acc ^^^ byte) 0).toNat%16,by omega⟩,?_⟩
  rw [checksumHex,String.toList_ofList]

theorem checksumHex_plain (bytes : List UInt8) : '|' ∉ (checksumHex bytes).toList ∧
    ∀ ch ∈ (checksumHex bytes).toList.getLast?, isWhitespace ch = false := by
  have digit : ∀ digit : Fin 16, (Nat.digitChar digit).toUpper ≠ '|' ∧
    isWhitespace (Nat.digitChar digit).toUpper = false := by decide
  obtain ⟨high,low,text⟩ := checksumHex_digits bytes
  rw [text]
  refine ⟨by simp [(digit high).1.symm,(digit low).1.symm],?_⟩
  intro ch last
  obtain rfl := Option.some.inj last
  exact (digit low).2

theorem eqIgnoreAsciiCase_self (text : String) : eqIgnoreAsciiCase text text = true := by simp [eqIgnoreAsciiCase]

-- The text of a frame, the line break aside, is cut into the parts it was joined of.
def frameTail (body : String) (checksumEnabled : Bool) : List String :=
  if checksumEnabled then [render ("chk",checksumHex (asBytes body))] else []

theorem toString_text (text : String) : toString text = text := rfl

theorem withChecksum_join (label : String) (entries : Fields) (checksumEnabled : Bool) :
    withChecksum (frameBody label entries) checksumEnabled =
      join '|' (label :: entries.map render ++ frameTail (frameBody label entries) checksumEnabled) ++ "\n" := by
  cases checksumEnabled with
  | false =>
      simp only [withChecksum,frameTail,frameBody,List.append_nil,Bool.false_eq_true,if_false]
      rfl
  | true =>
      simp only [withChecksum,frameTail,if_true]
      rw [join_snoc '|' (by simp)]
      apply String.toList_inj.mp
      simp [render,frameBody,toString_text]

-- What a line can begin with: no separator in it, and no whitespace in front.
structure Label (text : String) : Prop where
  whole : '|' ∉ text.toList
  front : ∀ ch ∈ text.toList.head?, isWhitespace ch = false

theorem PlainText.label {text : String} (plain : PlainText text) : Label text :=
  ⟨plain.whole,(trim_edges plain.trimmed).1⟩

theorem join_front {label : String} (known : Label label) (parts : List String) :
    ∀ ch ∈ (join '|' (label :: parts)).toList.head?, isWhitespace ch = false := by
  intro ch first
  have edges := known.front
  unfold join at first
  rw [String.toList_ofList,List.map_cons] at first
  cases shape : label.toList with
  | nil =>
      rw [shape] at first
      cases parts with
      | nil => cases first
      | cons part parts =>
          rw [List.map_cons,List.intercalate_cons_cons] at first
          obtain rfl := Option.some.inj first
          decide
  | cons head rest =>
      rw [shape] at edges
      have same : head = ch := by
        rw [shape] at first
        cases parts with
        | nil =>
            rw [List.map_nil,List.intercalate_singleton] at first
            exact Option.some.inj first
        | cons part parts =>
            rw [List.map_cons,List.intercalate_cons_cons] at first
            exact Option.some.inj first
      exact edges ch (by rw [same]; rfl)

theorem frame_parts {label : String} {entries : Fields} (checksumEnabled : Bool) (plain : Label label)
    (known : FrameEntries entries)
    (back : ∀ ch ∈ (frameBody label entries).toList.getLast?, isWhitespace ch = false) :
    split '|' (trim (withChecksum (frameBody label entries) checksumEnabled)) =
      label :: entries.map render ++ frameTail (frameBody label entries) checksumEnabled := by
  have checksum := checksumHex_plain (asBytes (frameBody label entries))
  have ending : ∀ ch ∈ (join '|' (label :: entries.map render ++
      frameTail (frameBody label entries) checksumEnabled)).toList.getLast?, isWhitespace ch = false := by
    cases checksumEnabled with
    | false =>
        simp only [frameTail,Bool.false_eq_true,if_false,List.append_nil]
        exact back
    | true =>
        simp only [frameTail,if_true]
        rw [join_snoc '|' (by simp)]
        intro ch last
        apply checksum.2 ch
        simpa [render,checksumHex] using last
  have absent : ∀ part ∈ label :: entries.map render ++ frameTail (frameBody label entries) checksumEnabled,
      '|' ∉ part.toList := by
    intro part member
    rcases List.mem_append.mp member with body | tail
    · rcases List.mem_cons.mp body with rfl | inside
      · exact plain.whole
      · obtain ⟨entry,there,rfl⟩ := List.mem_map.mp inside
        exact known.plain entry there
    · cases checksumEnabled with
      | false => cases tail
      | true =>
          obtain rfl := List.mem_singleton.mp tail
          simpa [render] using checksum.1
  have line : trim (join '|' (label :: entries.map render ++ frameTail (frameBody label entries) checksumEnabled) ++ "\n") =
      join '|' (label :: entries.map render ++ frameTail (frameBody label entries) checksumEnabled) :=
    trim_line (join_front plain _) ending
  rw [withChecksum_join,line,split_join absent (by simp)]

theorem scanFrame_built (kind : String) {label : String} {entries : Fields} (checksumEnabled : Bool)
    (plain : Label label) (known : FrameEntries entries)
    (back : ∀ ch ∈ (frameBody label entries).toList.getLast?, isWhitespace ch = false) :
    scanFrame kind (withChecksum (frameBody label entries) checksumEnabled) label checksumEnabled =
      .ok entries.reverse := by
  apply scanFrame_ok.mpr
  rw [frame_parts checksumEnabled plain known back]
  refine ⟨rfl,?_⟩
  rw [List.cons_append,List.tail_cons,scanParts_entries kind 1 known]
  cases checksumEnabled with
  | false => exact ⟨_,rfl,by simp,by simp [FrameScan.start]⟩
  | true =>
      have field : splitOnce '=' (render ("chk",checksumHex (asBytes (frameBody label entries)))) =
          some ("chk",checksumHex (asBytes (frameBody label entries))) := splitOnce_append (show '=' ∉ "chk".toList by decide) _
      simp only [frameTail,if_true,scanParts,field]
      refine ⟨_,rfl,fun _ => ?_,by simp [FrameScan.insert,FrameScan.start]⟩
      have body : (label :: (entries.map render ++
          [render ("chk",checksumHex (asBytes (frameBody label entries)))])).take (1+entries.length) =
          label :: entries.map render := by
        rw [←List.cons_append]
        apply List.take_left'
        simp [Nat.add_comm]
      simp only [FrameScan.insert,if_true,verifyChecksum,body]
      rw [show join '|' (label :: entries.map render) = frameBody label entries from rfl,
        eqIgnoreAsciiCase_self,if_pos rfl]

def sampleEntries (sample : SensorSnapshot) : Fields := [
  ("v","1"),
  ("seq","0"),
  ("ms",toString (max 0 (timestampMillis sample.capturedAt))),
  ("temp",displayFixed 2 sample.temperatureC),
  ("pressure",displayFixed 2 sample.pressureMpa),
  ("stir_speed",displayFixed 2 sample.stirrerRpm),
  ("shake_speed",displayFixed 2 sample.shakeSpeedCpm),
  ("tilt_state",toString sample.tiltState),
  ("flow_rate",displayFixed 2 sample.flowRateLMin),
  ("product_concentration",displayFixed 2 sample.productConcentrationPercent),
  ("ph",displayFixed 2 sample.ph)]

theorem sampleBody_entries (label : String) (sample : SensorSnapshot) :
    sampleBody label sample = frameBody label (sampleEntries sample) := by
  unfold sampleBody
  apply String.toList_inj.mp
  simp only [frameBody,sampleEntries,join,toString_text]
  generalize displayFixed 2 sample.temperatureC = temp,displayFixed 2 sample.pressureMpa = pressure,
    displayFixed 2 sample.stirrerRpm = stirrer,displayFixed 2 sample.shakeSpeedCpm = shake,
    displayFixed 2 sample.flowRateLMin = flow,displayFixed 2 sample.productConcentrationPercent = concentration,
    displayFixed 2 sample.ph = ph,toString (max 0 (timestampMillis sample.capturedAt)) = ms,
    toString sample.tiltState = tilt
  simp [render,List.intercalate_cons_cons]

def ackEntries (ack : Esp32Ack) : Fields :=
  [("v","1"),("type","ack"),("rid",ack.requestId),("ok",if ack.ok then "1" else "0")] ++
    (ack.error.map fun err => ("err",err)).toList

theorem ackBody_entries (label : String) (ack : Esp32Ack) :
    ackBody label ack.requestId ack.ok ack.error = frameBody label (ackEntries ack) := by
  apply String.toList_inj.mp
  cases error : ack.error <;>
    simp [ackBody,frameBody,ackEntries,join,render,toString_text,List.intercalate_cons_cons,error]

theorem frameBody_back (label key : String) (front : Fields) {value : String}
    (back : ∀ ch ∈ value.toList.getLast?, isWhitespace ch = false) :
    ∀ ch ∈ (frameBody label (front ++ [(key,value)])).toList.getLast?, isWhitespace ch = false := by
  intro ch ending
  unfold frameBody at ending
  rw [List.map_append,←List.cons_append,List.map_singleton,join_snoc '|' (by simp)] at ending
  have tail : (join '|' (label :: front.map render) ++ String.singleton '|' ++ render (key,value)).toList =
      ((join '|' (label :: front.map render)).toList ++ '|' :: key.toList ++ ['=']) ++ value.toList := by simp [render]
  rw [tail,List.getLast?_append,List.getLast?_append,List.getLast?_singleton,Option.some_or] at ending
  cases shape : value.toList.getLast? with
  | some last =>
      rw [shape] at ending back
      obtain rfl : last = ch := Option.some.inj ending
      exact back last rfl
  | none =>
      rw [shape] at ending
      obtain rfl : '=' = ch := Option.some.inj ending
      decide

theorem displayFixed_chars (value : ℚ) : ∀ ch ∈ (displayFixed 2 value).toList, ch.isDigit = true ∨ ch = '-' ∨ ch = '.' := by
  intro ch member
  rw [displayFixed_toList (by decide)] at member
  rcases List.mem_append.mp member with sign | rest
  · split at sign
    · exact .inr (.inl (List.mem_singleton.mp sign))
    · cases sign
  · rcases List.mem_append.mp rest with whole | fraction
    · exact .inl (isDigit_toDigits _ ch whole)
    · rcases List.mem_cons.mp fraction with point | digits
      · exact .inr (.inr point)
      · exact .inl (isDigit_paddedDigits _ _ ch digits)

theorem displayFixed_plain (value : ℚ) : '|' ∉ (displayFixed 2 value).toList := by
  intro bar
  rcases displayFixed_chars value '|' bar with digit | minus | point
  · cases digit
  · cases minus
  · cases point

theorem digit_visible {ch : Char} (digit : ch.isDigit = true) : isWhitespace ch = false := by
  unfold Char.isDigit at digit
  unfold isWhitespace
  simp only [Bool.and_eq_true,decide_eq_true_eq,ge_iff_le,UInt32.le_iff_toNat_le] at digit
  simp [UInt32.le_iff_toNat_le,←UInt32.toNat_inj] at digit ⊢
  omega

theorem displayFixed_back (value : ℚ) : ∀ ch ∈ (displayFixed 2 value).toList.getLast?, isWhitespace ch = false := by
  intro ch ending
  have member : ch ∈ (displayFixed 2 value).toList := List.mem_of_getLast? ending
  rcases displayFixed_chars value ch member with digit | rfl | rfl
  · exact digit_visible digit
  · decide
  · decide

theorem natural_plain (number : Nat) : '|' ∉ (toString number).toList := by
  intro bar
  rw [Nat.toString_eq_ofList_toDigits,String.toList_ofList] at bar
  cases isDigit_toDigits number '|' bar

theorem integer_plain (number : Int) : '|' ∉ (toString number).toList := by
  cases number with
  | ofNat number => exact natural_plain number
  | negSucc number =>
      have rest := natural_plain (number+1)
      intro bar
      change '|' ∈ ("-" ++ toString (number+1)).toList at bar
      rw [String.toList_append] at bar
      rcases List.mem_append.mp bar with sign | digits
      · revert sign
        decide
      · exact rest digits

theorem sampleEntries_known (sample : SensorSnapshot) : FrameEntries (sampleEntries sample) where
  keys := by
    change ∀ key ∈ ["v","seq","ms","temp","pressure","stir_speed","shake_speed","tilt_state","flow_rate",
      "product_concentration","ph"],'=' ∉ key.toList ∧ '|' ∉ key.toList ∧ key ≠ "chk"
    decide
  values := by
    simp only [sampleEntries,List.map_cons,List.map_nil,List.forall_mem_cons]
    exact ⟨by decide,by decide,integer_plain _,displayFixed_plain _,displayFixed_plain _,displayFixed_plain _,
      displayFixed_plain _,natural_plain _,displayFixed_plain _,displayFixed_plain _,displayFixed_plain _,by simp⟩

theorem ackEntries_known {ack : Esp32Ack} (requestId : PlainText ack.requestId)
    (error : ∀ err ∈ ack.error, PlainText err) : FrameEntries (ackEntries ack) where
  keys := by
    unfold ackEntries
    cases ack.error with
    | none =>
        change ∀ key ∈ ["v","type","rid","ok"],'=' ∉ key.toList ∧ '|' ∉ key.toList ∧ key ≠ "chk"
        decide
    | some err =>
        change ∀ key ∈ ["v","type","rid","ok","err"],'=' ∉ key.toList ∧ '|' ∉ key.toList ∧ key ≠ "chk"
        decide
  values := by
    have flag : '|' ∉ (if ack.ok then "1" else "0").toList := by split <;> decide
    unfold ackEntries
    cases shape : ack.error with
    | none =>
        change ∀ value ∈ ["1","ack",ack.requestId,if ack.ok then "1" else "0"],'|' ∉ value.toList
        simp only [List.forall_mem_cons]
        exact ⟨by decide,by decide,requestId.whole,flag,by simp⟩
    | some err =>
        change ∀ value ∈ ["1","ack",ack.requestId,if ack.ok then "1" else "0",err],'|' ∉ value.toList
        simp only [List.forall_mem_cons]
        exact ⟨by decide,by decide,requestId.whole,flag,(error err shape).whole,by simp⟩

structure FiniteSample (sample : SensorSnapshot) : Prop where
  temperature : |sample.temperatureC| ≤ f64Max
  pressure : |sample.pressureMpa| ≤ f64Max
  stirrer : |sample.stirrerRpm| ≤ f64Max
  shake : |sample.shakeSpeedCpm| ≤ f64Max
  flow : |sample.flowRateLMin| ≤ f64Max
  concentration : |sample.productConcentrationPercent| ≤ f64Max
  ph : |sample.ph| ≤ f64Max

-- What arrives of a sample that is received at `now`.
def transmitted (now : Instant) (sine : ℚ → ℚ) (sample : SensorSnapshot) : SensorSnapshot where
  temperatureC := roundFixed 2 sample.temperatureC
  pressureMpa := roundFixed 2 sample.pressureMpa
  stirrerRpm := roundFixed 2 sample.stirrerRpm
  shakeSpeedCpm := roundFixed 2 sample.shakeSpeedCpm
  tiltState := sample.tiltState
  tiltAngleDeg := fitTiltAngleDeg sample.tiltState (roundFixed 2 sample.shakeSpeedCpm)
    (sine (roundFixed 2 sample.shakeSpeedCpm))
  flowRateLMin := roundFixed 2 sample.flowRateLMin
  productConcentrationPercent := roundFixed 2 sample.productConcentrationPercent
  ph := roundFixed 2 sample.ph
  capturedAt := now

theorem parseF64Value_displayFixed (key : String) {value : ℚ} (finite : |value| ≤ f64Max) :
    parseF64Value key (displayFixed 2 value) = .ok (roundFixed 2 value) := by
  unfold parseF64Value
  rw [parse_displayFixed (by decide) finite]

theorem parseTiltStateValue_toString (key : String) {state : Nat} (binary : state ≤ 1) :
    parseTiltStateValue key (toString state) = .ok state := by
  rcases Nat.le_one_iff_eq_zero_or_eq_one.mp binary with rfl | rfl
  · rw [show toString 0 = "0" from rfl,parseTiltStateValue,if_pos (by decide)]
  · rw [show toString 1 = "1" from rfl,parseTiltStateValue,if_neg (by decide),if_pos (by decide)]

theorem sampleReads_built (now : Instant) (sine : ℚ → ℚ) {sample : SensorSnapshot} (finite : FiniteSample sample)
    (binary : sample.tiltState ≤ 1) :
    SampleReads now sine (sampleEntries sample).reverse (transmitted now sine sample) where
  version := rfl
  shake := parseF64Value_displayFixed _ finite.shake
  tilt := parseTiltStateValue_toString _ binary
  temperature := parseF64Value_displayFixed _ finite.temperature
  pressure := parseF64Value_displayFixed _ finite.pressure
  stirrer := parseF64Value_displayFixed _ finite.stirrer
  flow := parseF64Value_displayFixed _ finite.flow
  concentration := congrArg (fun read => (read.map some).map (·.getD 0))
    (parseF64Value_displayFixed "product_concentration" finite.concentration)
  ph := congrArg (fun read => (read.map some).map (·.getD 7)) (parseF64Value_displayFixed "ph" finite.ph)
  angle := rfl
  captured := rfl

theorem ackReads_built (ack : Esp32Ack) : AckReads (ackEntries ack).reverse ack where
  version := by cases shape : ack.error <;> simp [ackEntries,shape,requiredField,List.lookup_cons]
  type := by cases shape : ack.error <;> simp [ackEntries,shape,requiredField,List.lookup_cons]
  requestId := by cases shape : ack.error <;> simp [ackEntries,shape,requiredField,List.lookup_cons]
  ok := by
    cases shape : ack.error <;> cases flag : ack.ok <;>
      simp [ackEntries,shape,flag,requiredField,List.lookup_cons,parseAckFlag,Except.bind]
  error := by cases shape : ack.error <;> simp [ackEntries,shape,List.lookup_cons]

theorem sampleBody_back (label : String) (sample : SensorSnapshot) :
    ∀ ch ∈ (sampleBody label sample).toList.getLast?, isWhitespace ch = false := by
  rw [sampleBody_entries]
  have entries : sampleEntries sample = (sampleEntries sample).take 10 ++ [("ph",displayFixed 2 sample.ph)] := rfl
  rw [entries]
  exact frameBody_back label "ph" _ (displayFixed_back sample.ph)

theorem scanFrame_sample {label : String} (checksum : Bool) (plain : Label label) (sample : SensorSnapshot) :
    scanFrame "esp32" (buildEsp32SampleFrame label sample checksum) label checksum = .ok (sampleEntries sample).reverse := by
  have back := sampleBody_back label sample
  unfold buildEsp32SampleFrame
  rw [sampleBody_entries] at back ⊢
  exact scanFrame_built "esp32" checksum plain (sampleEntries_known sample) back

theorem sample_round_trip (now : Instant) (sine : ℚ → ℚ) {label : String} {sample : SensorSnapshot} (checksum : Bool)
    (plain : PlainText label) (finite : FiniteSample sample) (binary : sample.tiltState ≤ 1) :
    parseEsp32Frame now sine (buildEsp32SampleFrame label sample checksum) label checksum =
      .ok (transmitted now sine sample) := by
  apply parseEsp32Frame_ok.mpr
  exact ⟨_,scanFrame_sample checksum plain.label sample,sampleReads_built now sine finite binary⟩

theorem ack_round_trip {label : String} {ack : Esp32Ack} (checksum : Bool) (plain : PlainText label)
    (requestId : PlainText ack.requestId) (error : ∀ err ∈ ack.error, PlainText err) :
    parseEsp32AckFrame (buildEsp32AckFrame label ack.requestId ack.ok ack.error checksum) label checksum = .ok ack := by
  apply parseEsp32AckFrame_ok.mpr
  refine ⟨_,?_,ackReads_built ack⟩
  unfold buildEsp32AckFrame
  rw [ackBody_entries]
  apply scanFrame_built "esp32 ack" checksum plain.label (ackEntries_known requestId error)
  cases shape : ack.error with
  | none =>
      have flag : ∀ ch ∈ (if ack.ok then "1" else "0").toList.getLast?, isWhitespace ch = false := by
        intro ch last
        cases ok : ack.ok with
        | false =>
            rw [ok] at last
            obtain rfl := Option.some.inj last
            decide
        | true =>
            rw [ok] at last
            obtain rfl := Option.some.inj last
            decide
      have entries : ackEntries ack = [("v","1"),("type","ack"),("rid",ack.requestId)] ++
          [("ok",if ack.ok then "1" else "0")] := by simp [ackEntries,shape]
      rw [entries]
      exact frameBody_back label "ok" _ flag
  | some err =>
      have entries : ackEntries ack = [("v","1"),("type","ack"),("rid",ack.requestId),
          ("ok",if ack.ok then "1" else "0")] ++ [("err",err)] := by simp [ackEntries,shape]
      rw [entries]
      exact frameBody_back label "err" _ (trim_edges (error err shape).trimmed).2

theorem frames_round_trip (now : Instant) (sine : ℚ → ℚ) (checksum : Bool) (label : String) (sample : SensorSnapshot)
    (ack : Esp32Ack) (plain : PlainText label) (finite : FiniteSample sample) (binary : sample.tiltState ≤ 1)
    (requestId : PlainText ack.requestId) (error : ∀ err ∈ ack.error, PlainText err) :
    parseEsp32Frame now sine (buildEsp32SampleFrame label sample checksum) label checksum =
      .ok (transmitted now sine sample) ∧
    (∀ value, |roundFixed 2 value - value| ≤ 1/(2*10^2) ∧ ∃ hundredths : Int, roundFixed 2 value = hundredths/10^2) ∧
    parseEsp32AckFrame (buildEsp32AckFrame label ack.requestId ack.ok ack.error checksum) label checksum = .ok ack :=
  ⟨sample_round_trip now sine checksum plain finite binary,
    fun value => ⟨roundFixed_near 2 value,roundFixed_whole 2 value⟩,ack_round_trip checksum plain requestId error⟩

def benchSample (tiltState : Nat) : SensorSnapshot where
  temperatureC := 257/4
  pressureMpa := 191/2000
  stirrerRpm := 320
  shakeSpeedCpm := 30
  tiltState := tiltState
  tiltAngleDeg := 25/2
  flowRateLMin := 5/2
  productConcentrationPercent := 75/4
  ph := 721/100
  capturedAt := 0

theorem benchSample_finite (tiltState : Nat) : FiniteSample (benchSample tiltState) := by
  have zero : FiniteSample (benchSample 0) := by constructor <;> decide +kernel
  exact ⟨zero.temperature,zero.pressure,zero.stirrer,zero.shake,zero.flow,zero.concentration,zero.ph⟩

-- 0.0955 MPa lies between two hundredths.
theorem frames_round_trip_bench :
    (parseEsp32Frame 0 (fun _ => 0) (buildEsp32SampleFrame "RX" (benchSample 1) true) "RX" true).map (·.pressureMpa) =
      .ok (1/10) ∧
    parseEsp32AckFrame (buildEsp32AckFrame "RX" "req-1" false (some "motor=stalled") true) "RX" true =
      .ok ⟨"req-1",false,some "motor=stalled"⟩ := by
  have trips := frames_round_trip 0 (fun _ => 0) true "RX" (benchSample 1) ⟨"req-1",false,some "motor=stalled"⟩ ⟨by decide +kernel,by decide +kernel⟩ (benchSample_finite 1) (by decide)
    ⟨by decide +kernel,by decide +kernel⟩ (by
      intro err there
      obtain rfl := Option.some.inj there
      exact ⟨by decide +kernel,by decide +kernel⟩)
  refine ⟨?_,trips.2.2⟩
  rw [trips.1]
  decide +kernel

-- A tilt state other than the two that the bits of the sensor allow is not accepted.
theorem third_tilt_state_lost : ¬∀ sample : SensorSnapshot, FiniteSample sample →
    ∃ parsed, parseEsp32Frame 0 (fun _ => 0) (buildEsp32SampleFrame "RX" sample false) "RX" false = .ok parsed ∧
      parsed.tiltState = sample.tiltState := by
  intro arrives
  obtain ⟨parsed,accepted,_⟩ := arrives (benchSample 2) (benchSample_finite 2)
  obtain ⟨fields,scanned,reads⟩ := parseEsp32Frame_ok.mp accepted
  rw [scanFrame_sample false (PlainText.label ⟨by decide +kernel,by decide +kernel⟩)] at scanned
  cases scanned
  have refused : (parseTiltStateAny (sampleEntries (benchSample 2)).reverse ["tilt_state","tilt"] "tilt_state").isOk = false := by
    decide +kernel
  rw [reads.tilt] at refused
  cases refused

end ReactorOS
