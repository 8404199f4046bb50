import ReactorOS.Esp32
namespace ReactorOS
open Wire

def frameParts (line : String) : List String := split '|' (trim line)

def isChecksum (part : String) : Bool := (splitOnce '=' part).any fun field => field.1 = "chk"

def fieldOf (part : String) : Fields :=
  match splitOnce '=' part with
  | some field => if field.1 = "chk" then [] else [field]
  | none => []

def fieldsOf : List String → Fields
  | [] => []
  | part :: parts => fieldsOf parts ++ fieldOf part

-- The parts before and behind the last checksum field.
def cutAtChecksum : List String → Option (List String × List String)
  | [] => none
  | part :: parts => match cutAtChecksum parts with
      | some (before,behind) => some (part :: before,behind)
      | none => if isChecksum part then some ([],parts) else none

-- The part of a line that the checksum is over, and the fields it is not over.
def beforeChecksum (line : String) : Option String :=
  (cutAtChecksum (frameParts line).tail).map fun cut => join '|' ((frameParts line).head?.toList ++ cut.1)

def afterChecksum (line : String) : Fields :=
  match cutAtChecksum (frameParts line).tail with
  | some cut => fieldsOf cut.2
  | none => []

def frameFields (line : String) : Fields := fieldsOf (frameParts line).tail

theorem insert_fields (scan : FrameScan) (index : Nat) {part key value : String}
    (field : splitOnce '=' part = some (key,value)) :
    (scan.insert index key value).fields = fieldOf part ++ scan.fields ∧
      (scan.insert index key value).checksumIndex = if isChecksum part then some index else scan.checksumIndex := by
  unfold FrameScan.insert fieldOf isChecksum
  rw [field]
  by_cases checksum : key = "chk"
  · simp [checksum]
  · simp [checksum]

-- What the loop has collected at its end, in terms of where it cuts the line.
theorem scanParts_fields (kind : String) (index : Nat) (parts : List String) (scan result : FrameScan)
    (scanned : scanParts kind index parts scan = .ok result) :
    result.fields = fieldsOf parts ++ scan.fields ∧
      result.checksumIndex = match cutAtChecksum parts with
        | some cut => some (index+cut.1.length)
        | none => scan.checksumIndex := by
  induction parts generalizing index scan with
  | nil => cases scanned; exact ⟨rfl,rfl⟩
  | cons part parts ih =>
      unfold scanParts at scanned
      cases field : splitOnce '=' part with
      | none => rw [field] at scanned; cases scanned
      | some entry =>
          obtain ⟨key,value⟩ := entry
          rw [field] at scanned
          obtain ⟨fields,position⟩ := ih (index+1) _ scanned
          obtain ⟨inserted,marked⟩ := insert_fields scan index field
          refine ⟨?_,?_⟩
          · rw [fields,inserted,fieldsOf,List.append_assoc]
          · rw [position,marked,cutAtChecksum]
            cases cutAtChecksum parts with
            | some cut => simp; omega
            | none => cases isChecksum part <;> simp

theorem fieldsOf_cut {parts before behind : List String} (cut : cutAtChecksum parts = some (before,behind)) :
    fieldsOf parts = fieldsOf behind ++ fieldsOf before ∧ ∃ checksum, parts = before ++ checksum :: behind := by
  induction parts generalizing before with
  | nil => cases cut
  | cons part parts ih =>
      unfold cutAtChecksum at cut
      cases further : cutAtChecksum parts with
      | some later =>
          obtain ⟨before',behind'⟩ := later
          rw [further] at cut
          cases cut
          obtain ⟨fields,checksum,split⟩ := ih further
          refine ⟨?_,checksum,by rw [split]; rfl⟩
          rw [fieldsOf,fields,fieldsOf,List.append_assoc]
      | none =>
          rw [further] at cut
          cases mark : isChecksum part with
          | false => simp [mark] at cut
          | true =>
              simp only [mark,if_true,Option.some.injEq,Prod.mk.injEq] at cut
              obtain ⟨rfl,rfl⟩ := cut
              refine ⟨?_,part,rfl⟩
              have checksum : fieldOf part = [] := by
                unfold isChecksum at mark
                unfold fieldOf
                cases field : splitOnce '=' part with
                | none => rfl
                | some entry => rw [field] at mark; simp_all
              rw [show fieldsOf (part :: parts) = fieldsOf parts ++ fieldOf part from rfl,checksum]
              rfl

-- What is before the checksum can be cut again as it was.
theorem split_before {label : String} {parts before behind : List String}
    (absent : ∀ part ∈ label :: parts, '|' ∉ part.toList) (cut : cutAtChecksum parts = some (before,behind)) :
    split '|' (join '|' (label :: before)) = label :: before := by
  obtain ⟨_,checksum,rfl⟩ := fieldsOf_cut cut
  apply split_join _ (by simp)
  intro part member
  apply absent
  rcases List.mem_cons.mp member with rfl | inside
  · simp
  · simp [inside]

theorem frameParts_cons (line : String) : ∃ label parts, frameParts line = label :: parts ∧
    ∀ part ∈ label :: parts, '|' ∉ part.toList := by
  have absent := split_absent '|' (trim line)
  have parted := split_ne_nil '|' (trim line)
  unfold frameParts
  cases whole : split '|' (trim line) with
  | nil => exact absurd whole parted
  | cons label parts => exact ⟨label,parts,rfl,by rw [←whole]; exact absent⟩

-- A line with a checksum: its fields are those behind the checksum laid over those before.
theorem frameFields_split {line body : String} (before : beforeChecksum line = some body) :
    frameFields line = afterChecksum line ++ fieldsOf (split '|' body).tail := by
  obtain ⟨label,parts,whole,absent⟩ := frameParts_cons line
  simp only [beforeChecksum,whole,List.tail_cons,List.head?_cons,Option.toList_some,List.singleton_append,
    Option.map_eq_some_iff,Prod.exists] at before
  obtain ⟨front,behind,cut,rfl⟩ := before
  simp only [frameFields,afterChecksum,whole,List.tail_cons,cut,split_before absent cut]
  exact (fieldsOf_cut cut).1

theorem scanFrame_fields {kind line expectedPrefix : String} {fields : Fields}
    (scanned : scanFrame kind line expectedPrefix true = .ok fields) :
    fields = frameFields line ∧ ∃ body, beforeChecksum line = some body := by
  obtain ⟨_,scan,found,verified,rfl⟩ := scanFrame_ok.mp scanned
  have checked := verified rfl
  obtain ⟨collected,position⟩ := scanParts_fields kind 1 _ _ scan found
  refine ⟨?_,?_⟩
  · rw [collected]
    simp only [FrameScan.start,List.append_nil,frameFields,frameParts]
  · cases cut : cutAtChecksum (split '|' (trim line)).tail with
    | some cut' => exact ⟨join '|' ((frameParts line).head?.toList ++ cut'.1),by simp only [beforeChecksum,frameParts,cut,Option.map_some]⟩
    | none =>
        rw [cut] at position
        simp only [FrameScan.start] at position
        unfold verifyChecksum at checked
        rw [position] at checked
        cases field : scan.checksumField <;> rw [field] at checked <;> cases checked

theorem firstField_congr {one other : Fields} {names : List String}
    (same : ∀ name ∈ names, one.lookup name = other.lookup name) : firstField one names = firstField other names := by
  induction names with
  | nil => rfl
  | cons name names ih =>
      have further := ih fun later member => same later (by simp [member])
      unfold firstField at further ⊢
      rw [List.findSome?_cons,List.findSome?_cons,same name (by simp),further]

-- The numbers of a sample frame, each with the names it goes by.
inductive Measurement where
  | temperature | pressure | stirrer | shake | tilt | flow | concentration | ph
  deriving DecidableEq

namespace Measurement

def names : Measurement → List String
  | temperature => ["temp","temperature"]
  | pressure => ["pressure"]
  | stirrer => ["stir_speed","rpm"]
  | shake => ["shake_speed","shake"]
  | tilt => ["tilt_state","tilt"]
  | flow => ["flow_rate","flow"]
  | concentration => ["product_concentration","conc","concentration"]
  | ph => ["ph"]

-- What the parser reads for it in a map of fields.
def read (fields : Fields) (m : Measurement) : Option ℚ :=
  match m with
  | temperature => (parseF64Any fields m.names "temp").toOption
  | pressure => (parseF64Any fields m.names "pressure").toOption
  | stirrer => (parseF64Any fields m.names "stir_speed").toOption
  | shake => (parseF64Any fields m.names "shake_speed").toOption
  | tilt => (parseTiltStateAny fields m.names "tilt_state").toOption.map Nat.cast
  | flow => (parseF64Any fields m.names "flow_rate").toOption
  | concentration => (parseOptionalF64Any fields m.names).toOption.map (·.getD 0)
  | ph => (parseOptionalF64Any fields m.names).toOption.map (·.getD 7)

def ofSample (sample : SensorSnapshot) : Measurement → ℚ
  | temperature => sample.temperatureC
  | pressure => sample.pressureMpa
  | stirrer => sample.stirrerRpm
  | shake => sample.shakeSpeedCpm
  | tilt => sample.tiltState
  | flow => sample.flowRateLMin
  | concentration => sample.productConcentrationPercent
  | ph => sample.ph

theorem read_congr {one other : Fields} {m : Measurement}
    (same : ∀ name ∈ m.names, one.lookup name = other.lookup name) : m.read one = m.read other := by
  have first := firstField_congr same
  cases m <;> simp only [read,parseF64Any,parseTiltStateAny,parseOptionalF64Any,first]

end Measurement

theorem toOption_ok {ε α : Type} {result : Except ε α} {value : α} (ok : result = .ok value) :
    result.toOption = some value := by rw [ok]; rfl

theorem SampleReads.measured {now : Instant} {sine : ℚ → ℚ} {fields : Fields} {sample : SensorSnapshot}
    (reads : SampleReads now sine fields sample) (m : Measurement) : m.read fields = some (m.ofSample sample) := by
  cases m with
  | temperature => exact toOption_ok reads.temperature
  | pressure => exact toOption_ok reads.pressure
  | stirrer => exact toOption_ok reads.stirrer
  | shake => exact toOption_ok reads.shake
  | tilt => exact congrArg (Option.map Nat.cast) (toOption_ok reads.tilt)
  | flow => exact toOption_ok reads.flow
  | concentration =>
      obtain ⟨value,read,same⟩ := map_ok reads.concentration
      exact (congrArg (Option.map (·.getD 0)) (toOption_ok read)).trans (congrArg some same)
  | ph =>
      obtain ⟨value,read,same⟩ := map_ok reads.ph
      exact (congrArg (Option.map (·.getD 7)) (toOption_ok read)).trans (congrArg some same)

-- A sample is what was measured, at that moment.
theorem SampleReads.determined {now : Instant} {sine : ℚ → ℚ} {one other : Fields} {first second : SensorSnapshot}
    (reads : SampleReads now sine one first) (reads' : SampleReads now sine other second)
    (same : ∀ m : Measurement, m.ofSample first = m.ofSample second) : first = second := by
  obtain ⟨angle,captured⟩ := And.intro reads.angle reads.captured
  obtain ⟨angle',captured'⟩ := And.intro reads'.angle reads'.captured
  have tilt : first.tiltState = second.tiltState := Nat.cast_injective (same .tilt)
  have shake : first.shakeSpeedCpm = second.shakeSpeedCpm := same .shake
  rw [tilt,shake,←angle'] at angle
  cases first
  cases second
  simp only [SensorSnapshot.mk.injEq]
  exact ⟨same .temperature,same .pressure,same .stirrer,shake,tilt,angle,same .flow,same .concentration,same .ph,
    captured.trans captured'.symm⟩

inductive AckField where
  | requestId | ok | error
  deriving DecidableEq

namespace AckField

def name : AckField → String
  | requestId => "rid"
  | ok => "ok"
  | error => "err"

def read (fields : Fields) (field : AckField) : Option String :=
  match field with
  | requestId => fields.lookup field.name
  | ok => (fields.lookup field.name).map fun flag => if flag = "1" ∨ flag = "true" then "1" else "0"
  | error => fields.lookup field.name

theorem read_congr {one other : Fields} {field : AckField}
    (same : ∀ name ∈ [field.name], one.lookup name = other.lookup name) : field.read one = field.read other := by
  have there := same field.name (by simp)
  cases field with
  | ok => exact congrArg (Option.map _) there
  | _ => exact there

end AckField

theorem requiredField_lookup {fields : Fields} {key value : String} (read : requiredField fields key = .ok value) :
    fields.lookup key = some value := by
  unfold requiredField at read
  cases there : fields.lookup key with
  | none => rw [there] at read; cases read
  | some found => rw [there] at read; cases read; rfl

def AckField.ofAck (ack : Esp32Ack) : AckField → Option String
  | .requestId => some ack.requestId
  | .ok => some (if ack.ok then "1" else "0")
  | .error => ack.error

theorem parseAckFlag_ok {flag : String} {ok : Bool} (parsed : parseAckFlag flag = .ok ok) :
    (if flag = "1" ∨ flag = "true" then "1" else "0") = if ok then "1" else "0" := by
  unfold parseAckFlag at parsed
  split at parsed
  · rename_i up
    cases parsed
    rw [if_pos up,if_pos rfl]
  · rename_i up
    split at parsed
    · cases parsed
      rw [if_neg up,if_neg Bool.false_ne_true]
    · cases parsed

theorem AckReads.acknowledged {fields : Fields} {ack : Esp32Ack} (reads : AckReads fields ack) (field : AckField) :
    field.read fields = field.ofAck ack := by
  cases field with
  | requestId => exact requiredField_lookup reads.requestId
  | ok =>
      obtain ⟨flag,flagged,decided⟩ := bind_ok reads.ok
      unfold AckField.read AckField.name
      rw [requiredField_lookup flagged]
      exact congrArg some (parseAckFlag_ok decided)
  | error => exact reads.error

theorem ack_determined {first second : Esp32Ack}
    (same : ∀ field : AckField, field.ofAck first = field.ofAck second) : first = second := by
  have requestId := Option.some.inj (same .requestId)
  have ok := Option.some.inj (same .ok)
  have error : first.error = second.error := same .error
  cases first
  cases second
  simp only [Esp32Ack.mk.injEq]
  refine ⟨requestId,?_,error⟩
  rename_i one _ _ other _
  cases one <;> cases other <;> simp_all

-- Both lines are accepted, and the checksum is over the same bytes.
def SameChecksummed (parse : String → Except String α) (line other : String) : Prop :=
  (parse line).isOk = true ∧ (parse other).isOk = true ∧ beforeChecksum line = beforeChecksum other

def ChecksumCovers (parse : String → Except String α) (line other : String) : Prop :=
  SameChecksummed parse line other → parse line = parse other

-- Where a field behind the checksum of either line has a name that the parser reads, both
-- lines give it the same value.
def UncoveredAgree (names : Q → List String) (read : Fields → Q → V) (line other : String) : Prop :=
  ∀ q, (∃ name ∈ names q, ((afterChecksum line).lookup name).isSome ∨ ((afterChecksum other).lookup name).isSome) →
    read (frameFields line) q = read (frameFields other) q

theorem lookup_uncovered {line other name : String} (same : beforeChecksum line = beforeChecksum other)
    {body : String} (before : beforeChecksum line = some body) (one : (afterChecksum line).lookup name = none)
    (two : (afterChecksum other).lookup name = none) :
    (frameFields line).lookup name = (frameFields other).lookup name := by
  rw [frameFields_split before,frameFields_split (same ▸ before),List.lookup_append,List.lookup_append,one,two]

theorem read_agree {names : Q → List String} {read : Fields → Q → V} {line other body : String}
    (congr : ∀ one other q, (∀ name ∈ names q, one.lookup name = other.lookup name) → read one q = read other q)
    (same : beforeChecksum line = beforeChecksum other) (before : beforeChecksum line = some body)
    (agree : UncoveredAgree names read line other) (q : Q) : read (frameFields line) q = read (frameFields other) q := by
  by_cases touched : ∃ name ∈ names q,
      ((afterChecksum line).lookup name).isSome ∨ ((afterChecksum other).lookup name).isSome
  · exact agree q touched
  · apply congr
    intro name member
    apply lookup_uncovered same before
    · by_contra there
      exact touched ⟨name,member,.inl (Option.isSome_iff_ne_none.mpr there)⟩
    · by_contra there
      exact touched ⟨name,member,.inr (Option.isSome_iff_ne_none.mpr there)⟩

theorem isOk_ok {ε α : Type} {result : Except ε α} (ok : result.isOk = true) : ∃ value, result = .ok value := by
  cases result with
  | error err => cases ok
  | ok value => exact ⟨value,rfl⟩

theorem sample_covers_iff (now : Instant) (sine : ℚ → ℚ) (expectedPrefix line other : String) :
    ChecksumCovers (parseEsp32Frame now sine · expectedPrefix true) line other ↔
      (SameChecksummed (parseEsp32Frame now sine · expectedPrefix true) line other →
        UncoveredAgree Measurement.names Measurement.read line other) := by
  constructor
  · intro covers same q _
    obtain ⟨one,parsed⟩ := isOk_ok same.1
    have parsed' := (covers same).symm.trans parsed
    obtain ⟨fields,scanned,reads⟩ := parseEsp32Frame_ok.mp parsed
    obtain ⟨fields',scanned',reads'⟩ := parseEsp32Frame_ok.mp parsed'
    rw [(scanFrame_fields scanned).1] at reads
    rw [(scanFrame_fields scanned').1] at reads'
    exact (reads.measured q).trans (reads'.measured q).symm
  · intro agree same
    obtain ⟨one,parsed⟩ := isOk_ok same.1
    obtain ⟨two,parsed'⟩ := isOk_ok same.2.1
    obtain ⟨fields,scanned,reads⟩ := parseEsp32Frame_ok.mp parsed
    obtain ⟨fields',scanned',reads'⟩ := parseEsp32Frame_ok.mp parsed'
    obtain ⟨collected,body,before⟩ := scanFrame_fields scanned
    rw [collected] at reads
    rw [(scanFrame_fields scanned').1] at reads'
    have determined : one = two := reads.determined reads' fun m => by
      have read := read_agree (fun _ _ m => Measurement.read_congr) same.2.2 before (agree same) m
      rw [reads.measured,reads'.measured] at read
      exact Option.some.inj read
    rw [parsed,parsed',determined]

theorem ack_covers_iff (expectedPrefix line other : String) :
    ChecksumCovers (parseEsp32AckFrame · expectedPrefix true) line other ↔
      (SameChecksummed (parseEsp32AckFrame · expectedPrefix true) line other →
        UncoveredAgree (fun field : AckField => [field.name]) AckField.read line other) := by
  constructor
  · intro covers same q _
    obtain ⟨one,parsed⟩ := isOk_ok same.1
    have parsed' := (covers same).symm.trans parsed
    obtain ⟨fields,scanned,reads⟩ := parseEsp32AckFrame_ok.mp parsed
    obtain ⟨fields',scanned',reads'⟩ := parseEsp32AckFrame_ok.mp parsed'
    rw [(scanFrame_fields scanned).1] at reads
    rw [(scanFrame_fields scanned').1] at reads'
    exact (reads.acknowledged q).trans (reads'.acknowledged q).symm
  · intro agree same
    obtain ⟨one,parsed⟩ := isOk_ok same.1
    obtain ⟨two,parsed'⟩ := isOk_ok same.2.1
    obtain ⟨fields,scanned,reads⟩ := parseEsp32AckFrame_ok.mp parsed
    obtain ⟨fields',scanned',reads'⟩ := parseEsp32AckFrame_ok.mp parsed'
    obtain ⟨collected,body,before⟩ := scanFrame_fields scanned
    rw [collected] at reads
    rw [(scanFrame_fields scanned').1] at reads'
    have determined : one = two := ack_determined fun field => by
      have read := read_agree (fun _ _ _ => AckField.read_congr) same.2.2 before (agree same) field
      rw [reads.acknowledged,reads'.acknowledged] at read
      exact read
    rw [parsed,parsed',determined]

theorem checksum_covers_iff (now : Instant) (sine : ℚ → ℚ) (expectedPrefix line other : String) :
    (ChecksumCovers (parseEsp32Frame now sine · expectedPrefix true) line other ↔
      (SameChecksummed (parseEsp32Frame now sine · expectedPrefix true) line other →
        UncoveredAgree Measurement.names Measurement.read line other)) ∧
    (ChecksumCovers (parseEsp32AckFrame · expectedPrefix true) line other ↔
      (SameChecksummed (parseEsp32AckFrame · expectedPrefix true) line other →
        UncoveredAgree (fun field : AckField => [field.name]) AckField.read line other)) :=
  ⟨sample_covers_iff now sine expectedPrefix line other,ack_covers_iff expectedPrefix line other⟩

def coveredSample : String := "RX|v=1|temp=60|pressure=0|rpm=0|shake=0|tilt=0|flow=0|chk=3F"

def coveredAck : String := "RX|v=1|type=ack|rid=7|ok=0|chk=40"

theorem isOk_of_read {parsed : Except String α} {read : α → β} {value : β} (reads : parsed.toOption.map read = some value) :
    parsed.isOk = true := by
  cases parsed with
  | ok _ => rfl
  | error _ => cases reads

theorem sample_tail_unread :
    SameChecksummed (parseEsp32Frame 0 (fun _ => 0) · "RX" true) coveredSample (coveredSample ++ "|temp=20") ∧
      parseEsp32Frame 0 (fun _ => 0) coveredSample "RX" true ≠
        parseEsp32Frame 0 (fun _ => 0) (coveredSample ++ "|temp=20") "RX" true := by
  have covered : split '|' (trim coveredSample) =
      ["RX","v=1","temp=60","pressure=0","rpm=0","shake=0","tilt=0","flow=0","chk=3F"] := by
    unfold coveredSample
    rw [split,trim,String.toList_ofList,toList_literal rfl]
    decide +kernel
  have extended : split '|' (trim (coveredSample ++ "|temp=20")) =
      ["RX","v=1","temp=60","pressure=0","rpm=0","shake=0","tilt=0","flow=0","chk=3F","temp=20"] := by
    unfold coveredSample
    rw [split,trim,String.toList_ofList,String.toList_append,@toList_literal "|temp=20" _ rfl,toList_literal rfl]
    decide +kernel
  have sixty : (parseEsp32Frame 0 (fun _ => 0) coveredSample "RX" true).toOption.map (·.temperatureC) = some 60 := by
    unfold parseEsp32Frame scanFrame
    rw [covered]
    decide +kernel
  have twenty : (parseEsp32Frame 0 (fun _ => 0) (coveredSample ++ "|temp=20") "RX" true).toOption.map (·.temperatureC) =
      some 20 := by
    unfold parseEsp32Frame scanFrame
    rw [extended]
    decide +kernel
  refine ⟨⟨isOk_of_read sixty,isOk_of_read twenty,?_⟩,fun same => ?_⟩
  · unfold beforeChecksum frameParts
    rw [covered,extended]
    decide +kernel
  · rw [same,twenty] at sixty
    cases sixty

theorem ack_tail_unread :
    SameChecksummed (parseEsp32AckFrame · "RX" true) coveredAck (coveredAck ++ "|ok=1") ∧
      parseEsp32AckFrame coveredAck "RX" true ≠ parseEsp32AckFrame (coveredAck ++ "|ok=1") "RX" true := by
  have covered : split '|' (trim coveredAck) = ["RX","v=1","type=ack","rid=7","ok=0","chk=40"] := by
    unfold coveredAck
    rw [split,trim,String.toList_ofList,toList_literal rfl]
    decide +kernel
  have extended : split '|' (trim (coveredAck ++ "|ok=1")) = ["RX","v=1","type=ack","rid=7","ok=0","chk=40","ok=1"] := by
    unfold coveredAck
    rw [split,trim,String.toList_ofList,String.toList_append,@toList_literal "|ok=1" _ rfl,toList_literal rfl]
    decide +kernel
  have refused : (parseEsp32AckFrame coveredAck "RX" true).toOption.map (·.ok) = some false := by
    unfold parseEsp32AckFrame scanFrame
    rw [covered]
    decide +kernel
  have accepted : (parseEsp32AckFrame (coveredAck ++ "|ok=1") "RX" true).toOption.map (·.ok) = some true := by
    unfold parseEsp32AckFrame scanFrame
    rw [extended]
    decide +kernel
  refine ⟨⟨isOk_of_read refused,isOk_of_read accepted,?_⟩,fun same => ?_⟩
  · unfold beforeChecksum frameParts
    rw [covered,extended]
    decide +kernel
  · rw [same,accepted] at refused
    cases refused

-- A line that goes on behind its checksum reports another temperature, or success.
theorem checksum_misses_tail :
    ¬ChecksumCovers (parseEsp32Frame 0 (fun _ => 0) · "RX" true) coveredSample (coveredSample ++ "|temp=20") ∧
    ¬ChecksumCovers (parseEsp32AckFrame · "RX" true) coveredAck (coveredAck ++ "|ok=1") := by
  constructor
  · intro covers
    exact sample_tail_unread.2 (covers sample_tail_unread.1)
  · intro covers
    exact ack_tail_unread.2 (covers ack_tail_unread.1)

end ReactorOS
