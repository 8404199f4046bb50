import ReactorOS.FrameRoundTrip
import ReactorOS.Wire.Utf8
namespace ReactorOS
open Wire

-- The exclusive or of all bytes, of which a checksum is the two hexadecimal digits.
def checksumOf (bytes : List UInt8) : UInt8 := bytes.foldl (fun acc byte => acc ^^^ byte) 0

theorem checksum_fold (start : UInt8) (bytes : List UInt8) :
    bytes.foldl (fun acc byte => acc ^^^ byte) start = start ^^^ checksumOf bytes := by
  unfold checksumOf
  induction bytes generalizing start with
  | nil => simp
  | cons byte bytes ih => rw [List.foldl_cons,List.foldl_cons,ih,ih (0 ^^^ byte),UInt8.zero_xor,UInt8.xor_assoc]

theorem checksumOf_append (front back : List UInt8) : checksumOf (front ++ back) = checksumOf front ^^^ checksumOf back := by
  rw [checksumOf,List.foldl_append,checksum_fold]
  rfl

theorem checksumOf_cons (byte : UInt8) (bytes : List UInt8) : checksumOf (byte :: bytes) = byte ^^^ checksumOf bytes := by
  rw [checksumOf,List.foldl_cons,checksum_fold,UInt8.zero_xor]

-- One byte that is another changes the checksum.
theorem checksumOf_substituted {front back : List UInt8} {old new : UInt8}
    (same : checksumOf (front ++ new :: back) = checksumOf (front ++ old :: back)) : new = old := by
  rw [checksumOf_append,checksumOf_append,checksumOf_cons,checksumOf_cons] at same
  have tails := (UInt8.xor_right_inj _).mp same
  exact (UInt8.xor_left_inj _).mp tails

theorem hexDigit_inj (one other : Fin 16)
    (same : (Nat.digitChar one).toUpper.toLower = (Nat.digitChar other).toUpper.toLower) : one = other := by
  revert one other
  decide

-- Texts of checksums that are the same but for the case of their letters are of one checksum.
theorem checksumHex_inj {one other : List UInt8} (same : eqIgnoreAsciiCase (checksumHex one) (checksumHex other) = true) :
    checksumOf one = checksumOf other := by
  have first := (checksumOf one).toNat_lt
  have second := (checksumOf other).toNat_lt
  unfold eqIgnoreAsciiCase checksumHex at same
  change decide (List.map Char.toLower (String.ofList [(Nat.digitChar ((checksumOf one).toNat/16)).toUpper,
    (Nat.digitChar ((checksumOf one).toNat%16)).toUpper]).toList = List.map Char.toLower
      (String.ofList [(Nat.digitChar ((checksumOf other).toNat/16)).toUpper,
        (Nat.digitChar ((checksumOf other).toNat%16)).toUpper]).toList) = true at same
  rw [decide_eq_true_eq,String.toList_ofList,String.toList_ofList] at same
  simp only [List.map_cons,List.map_nil,List.cons.injEq,and_true] at same
  have high := hexDigit_inj ⟨(checksumOf one).toNat/16,by omega⟩ ⟨(checksumOf other).toNat/16,by omega⟩ same.1
  have low := hexDigit_inj ⟨(checksumOf one).toNat%16,by omega⟩ ⟨(checksumOf other).toNat%16,by omega⟩ same.2
  simp only [Fin.mk.injEq] at high low
  exact UInt8.toNat_inj.mp (by omega)

-- Only whitespace is cut off a text, and what is left begins with something else.
theorem trim_infix (text : String) : ∃ blank behind, text.toList = blank ++ (trim text).toList ++ behind ∧
    (∀ ch ∈ blank, isWhitespace ch = true) ∧ ∀ ch ∈ (trim text).toList.head?, isWhitespace ch = false := by
  have whole := (List.takeWhile_append_dropWhile (p := isWhitespace) (l := text.toList)).symm
  have reversed := (List.takeWhile_append_dropWhile (p := isWhitespace) (l := (text.toList.dropWhile isWhitespace).reverse)).symm
  have rest := congrArg List.reverse reversed
  rw [List.reverse_reverse,List.reverse_append] at rest
  have kept : (trim text).toList = ((text.toList.dropWhile isWhitespace).reverse.dropWhile isWhitespace).reverse := by
    rw [trim,String.toList_ofList]
  rw [← kept] at rest
  refine ⟨text.toList.takeWhile isWhitespace,((text.toList.dropWhile isWhitespace).reverse.takeWhile isWhitespace).reverse,
    ?_,fun ch member => List.mem_takeWhile_imp member,fun ch first => ?_⟩
  · rw [List.append_assoc,← rest]
    exact whole
  · have front : (text.toList.dropWhile isWhitespace).head? = some ch := by
      rw [rest,List.head?_append,first]
      rfl
    have visible := List.head?_dropWhile_not isWhitespace text.toList
    rw [front] at visible
    simpa using visible

-- What an accepted line begins with, but for the whitespace in front of it.
theorem scanFrame_label {kind line label : String} {fields : Fields} (scanned : scanFrame kind line label true = .ok fields) :
    Label label ∧ ∃ blank behind, line.toList = blank ++ (label.toList ++ '|' :: behind) ∧ ∀ ch ∈ blank, isWhitespace ch = true := by
  obtain ⟨head,scan,found,verified,_⟩ := scanFrame_ok.mp scanned
  obtain ⟨blank,behind,whole,white,visible⟩ := trim_infix line
  have joined := join_split '|' (trim line)
  have absent := split_absent '|' (trim line)
  cases parts : split '|' (trim line) with
  | nil => rw [parts] at head; cases head
  | cons first rest =>
      rw [parts] at head found verified joined absent
      obtain rfl := Option.some.inj head
      cases rest with
      | nil =>
          cases found
          cases verified rfl
      | cons part rest =>
          have text : (trim line).toList = first.toList ++ '|' :: (join '|' (part :: rest)).toList := by
            rw [← joined]
            simp [join,List.intercalate_cons_cons]
          refine ⟨⟨absent first List.mem_cons_self,fun ch front => ?_⟩,blank,(join '|' (part :: rest)).toList ++ behind,?_,white⟩
          · refine visible ch ?_
            rw [text,List.head?_append,front]
            rfl
          · rw [whole,text]
            simp only [List.append_assoc,List.cons_append]

theorem before_separator {separator : UInt8} {one other rest more : List UInt8} (first : separator ∉ one)
    (second : separator ∉ other) (same : one ++ separator :: rest = other ++ separator :: more) : one = other ∧ rest = more := by
  induction one generalizing other with
  | nil =>
      cases other with
      | nil => exact ⟨rfl,(List.cons.inj same).2⟩
      | cons byte other =>
          obtain ⟨rfl,_⟩ := List.cons.inj same
          exact absurd List.mem_cons_self second
  | cons byte one ih =>
      cases other with
      | nil =>
          obtain ⟨rfl,_⟩ := List.cons.inj same
          exact absurd List.mem_cons_self first
      | cons next other =>
          obtain ⟨rfl,tails⟩ := List.cons.inj same
          obtain ⟨rfl,rests⟩ := ih (fun member => first (List.mem_cons_of_mem _ member))
            (fun member => second (List.mem_cons_of_mem _ member)) tails
          exact ⟨rfl,rests⟩

-- No visible ASCII character shares a byte with whitespace.
theorem visible_byte {blank : List Char} (white : ∀ ch ∈ blank, isWhitespace ch = true) {ch : Char} (ascii : Ascii ch)
    (visible : isWhitespace ch = false) : UInt8.ofNat ch.toNat ∉ encode blank := by
  intro member
  have listed := white ch (mem_of_byte ascii member)
  rw [visible] at listed
  cases listed

-- A byte cannot be taken for another so that a line gains whitespace in front of its label.
theorem no_blank_gained {label blank behind rest : List Char} {front back : List UInt8} {old new : UInt8}
    (whole : '|' ∉ label) (visible : ∀ ch ∈ label.head?, isWhitespace ch = false)
    (white : ∀ ch ∈ blank, isWhitespace ch = true)
    (sent : encode (label ++ '|' :: 'v' :: rest) = front ++ old :: back)
    (arrived : encode (blank ++ (label ++ '|' :: behind)) = front ++ new :: back) : blank = [] := by
  have bar : UInt8.ofNat '|'.toNat ∉ encode blank := visible_byte white (by decide) (by decide)
  have letter : UInt8.ofNat 'v'.toNat ∉ encode blank := visible_byte white (by decide) (by decide)
  have labelBar : UInt8.ofNat '|'.toNat ∉ encode label := fun member => whole (mem_of_byte (by decide) member)
  have ahead : ∀ more, front = encode blank ++ more → blank = [] := by
    rintro more rfl
    rw [List.append_assoc] at sent
    obtain ⟨tail,same,_⟩ := encode_front sent
    cases blank with
    | nil => rfl
    | cons ch blank =>
        have space := white ch List.mem_cons_self
        cases label with
        | nil =>
            obtain ⟨rfl,_⟩ := List.cons.inj same
            cases space
        | cons first label =>
            obtain ⟨rfl,_⟩ := List.cons.inj same
            rw [visible first rfl] at space
            cases space
  rw [encode_append] at arrived
  rcases List.append_eq_append_iff.mp arrived with ⟨more,within,_⟩ | ⟨more,within,ending⟩
  · exact ahead more within
  · cases more with
    | nil => exact ahead [] (by simpa using within.symm)
    | cons byte mid =>
        obtain ⟨rfl,rfl⟩ := List.cons.inj ending
        rw [within,List.mem_append,List.mem_cons,not_or,not_or] at bar letter
        obtain ⟨barFront,_,barMid⟩ := bar
        obtain ⟨letterFront,_,letterMid⟩ := letter
        change encode (label ++ '|' :: 'v' :: rest) = front ++ old :: (mid ++ encode (label ++ '|' :: behind)) at sent
        rw [encode_append,encode_append] at sent
        change encode label ++ UInt8.ofNat '|'.toNat :: UInt8.ofNat 'v'.toNat :: encode rest =
          front ++ old :: (mid ++ (encode label ++ UInt8.ofNat '|'.toNat :: encode behind)) at sent
        by_cases replaced : old = UInt8.ofNat '|'.toNat
        · subst replaced
          obtain ⟨same,rests⟩ := before_separator labelBar barFront sent
          have first : (mid ++ (encode label ++ UInt8.ofNat '|'.toNat :: encode behind)).head? = some (UInt8.ofNat 'v'.toNat) := by
            rw [← rests]
            rfl
          rw [List.head?_append,List.head?_append] at first
          cases mid with
          | cons byte mid =>
              obtain rfl := Option.some.inj first
              exact absurd List.mem_cons_self letterMid
          | nil =>
              rw [same] at first
              cases front with
              | nil =>
                  have distinct : UInt8.ofNat '|'.toNat ≠ UInt8.ofNat 'v'.toNat := by decide
                  exact absurd (Option.some.inj first) distinct
              | cons byte front =>
                  obtain rfl := Option.some.inj first
                  exact absurd List.mem_cons_self letterFront
        · have apart : UInt8.ofNat '|'.toNat ∉ front ++ old :: (mid ++ encode label) := by
            simp only [List.mem_append,List.mem_cons,not_or]
            exact ⟨barFront,Ne.symm replaced,barMid,labelBar⟩
          rw [← List.append_assoc mid,← List.cons_append,← List.append_assoc front] at sent
          have lengths := congrArg List.length (before_separator labelBar apart sent).1
          simp only [List.length_append,List.length_cons] at lengths
          omega

theorem scanParts_last {kind part value : String} (field : splitOnce '=' part = some ("chk",value)) (parts : List String)
    (index : Nat) (scan : FrameScan) {result : FrameScan} (scanned : scanParts kind index (parts ++ [part]) scan = .ok result) :
    result.checksumField = some value ∧ result.checksumIndex = some (index+parts.length) := by
  induction parts generalizing index scan with
  | nil =>
      rw [List.nil_append,scanParts,field] at scanned
      cases scanned
      exact ⟨rfl,rfl⟩
  | cons first parts ih =>
      rw [List.cons_append,scanParts] at scanned
      split at scanned
      · cases scanned
      · obtain ⟨value,position⟩ := ih (index+1) _ scanned
        refine ⟨value,position.trans ?_⟩
        rw [List.length_cons]
        congr 1
        omega

-- Every part that the loop has got past has a sign of equality in it.
theorem scanParts_marked {kind : String} {parts : List String} {index : Nat} {scan result : FrameScan}
    (scanned : scanParts kind index parts scan = .ok result) : ∀ part ∈ parts, '=' ∈ part.toList := by
  induction parts generalizing index scan with
  | nil => exact nofun
  | cons first parts ih =>
      rw [scanParts] at scanned
      split at scanned
      · cases scanned
      · rename_i key value field
        refine List.forall_mem_cons.mpr ⟨?_,ih scanned⟩
        exact splitOnce_mem field

def checksumPart (body : String) : String := render ("chk",checksumHex (asBytes body))

theorem checksumPart_field (body : String) : splitOnce '=' (checksumPart body) = some ("chk",checksumHex (asBytes body)) :=
  splitOnce_append (show '=' ∉ "chk".toList by decide) _

theorem withChecksum_text (body : String) :
    withChecksum body true = body ++ String.singleton '|' ++ checksumPart body ++ "\n" := by
  apply String.toList_inj.mp
  simp [withChecksum,checksumPart,render,toString_text]

theorem checksumPart_whole (body : String) : '|' ∉ (checksumPart body).toList := by
  simpa [checksumPart,render] using (checksumHex_plain (asBytes body)).1

theorem checksumPart_back (body : String) (front : List Char) :
    ∀ ch ∈ (front ++ (checksumPart body).toList).getLast?, isWhitespace ch = false := by
  intro ch last
  apply (checksumHex_plain (asBytes body)).2 ch
  rw [List.getLast?_append] at last
  simpa [checksumPart,render,checksumHex] using last

-- A line that is accepted under the checksum of another body has a body of that checksum.
theorem checksum_accepted {kind line label received body : String} {fields : Fields}
    (text : line = received ++ String.singleton '|' ++ checksumPart body ++ "\n")
    (visible : ∀ ch ∈ line.toList.head?, isWhitespace ch = false)
    (scanned : scanFrame kind line label true = .ok fields) : checksumOf (asBytes received) = checksumOf (asBytes body) := by
  obtain ⟨head,scan,found,verified,_⟩ := scanFrame_ok.mp scanned
  have front : ∀ ch ∈ (received ++ String.singleton '|' ++ checksumPart body).toList.head?, isWhitespace ch = false := by
    intro ch first
    refine visible ch ?_
    rw [text,String.toList_append,List.head?_append,first]
    rfl
  have back : ∀ ch ∈ (received ++ String.singleton '|' ++ checksumPart body).toList.getLast?, isWhitespace ch = false := by
    rw [String.toList_append]
    exact checksumPart_back body _
  have parts : split '|' (trim line) = split '|' received ++ [checksumPart body] := by
    rw [text,trim_line front back,split_append,split_whole (checksumPart_whole body)]
  rw [parts] at found verified
  have verified := verified rfl
  cases pieces : split '|' received with
  | nil => exact absurd pieces (split_ne_nil _ _)
  | cons first rest =>
      rw [pieces] at found verified
      obtain ⟨field,position⟩ := scanParts_last (checksumPart_field body) rest 1 .start found
      have joined := join_split '|' received
      rw [pieces] at joined
      have taken : (first :: rest ++ [checksumPart body]).take (1+rest.length) = first :: rest := by
        apply List.take_left'
        simp [Nat.add_comm]
      unfold verifyChecksum at verified
      rw [field,position] at verified
      simp only [taken,joined] at verified
      split at verified
      · rename_i equal
        exact (checksumHex_inj equal).symm
      · cases verified

theorem frameBody_parts {label : String} {entries : Fields} (plain : Label label) (known : FrameEntries entries) :
    split '|' (frameBody label entries) = label :: entries.map render := by
  refine split_join ?_ (by simp)
  intro part member
  rcases List.mem_cons.mp member with rfl | inside
  · exact plain.whole
  · obtain ⟨entry,there,rfl⟩ := List.mem_map.mp inside
    exact known.plain entry there

-- A line in which no field is a checksum is not accepted.
theorem unchecked_refused {kind line label : String} {entries fields : Fields} (plain : Label label) (known : FrameEntries entries)
    (text : trim line = frameBody label entries) : scanFrame kind line label true ≠ .ok fields := by
  intro scanned
  obtain ⟨_,scan,found,verified,_⟩ := scanFrame_ok.mp scanned
  rw [text,frameBody_parts plain known,List.tail_cons,← List.append_nil (entries.map render),scanParts_entries kind 1 known] at found
  cases found
  cases verified rfl

-- Of a checksum field, whatever has become of it, a line is accepted only with the fields before it.
theorem checksum_field_accepted {kind line label tail : String} {entries fields : Fields} (plain : Label label)
    (known : FrameEntries entries) (text : trim line = frameBody label entries ++ String.singleton '|' ++ tail)
    (few : '|' ∈ tail.toList → tail.toList.count '=' ≤ 1) (scanned : scanFrame kind line label true = .ok fields) :
    fields = entries.reverse := by
  obtain ⟨_,scan,found,verified,rfl⟩ := scanFrame_ok.mp scanned
  have parts : split '|' (trim line) = label :: entries.map render ++ split '|' tail := by
    rw [text,split_append,frameBody_parts plain known]
  rw [parts,List.cons_append,List.tail_cons,scanParts_entries kind 1 known] at found
  rw [parts] at verified
  have whole : '|' ∉ tail.toList := by
    intro bar
    have marked := count_parts '|' (scanParts_marked found)
    rw [join_split] at marked
    have several := split_several bar
    have one := few bar
    omega
  rw [split_whole whole] at found verified
  rw [scanParts] at found
  split at found
  · cases found
  · rename_i key value field
    cases found
    by_cases checksum : key = "chk"
    · simp [FrameScan.insert,checksum,FrameScan.start]
    · have verified := verified rfl
      simp only [FrameScan.insert,if_neg checksum,FrameScan.start] at verified
      cases verified

-- Behind a separator, trimming takes from what follows it and from nothing else.
theorem trim_behind {line text : String} {rest : List Char} (whole : line.toList = text.toList ++ '|' :: rest)
    (visible : ∀ ch ∈ line.toList.head?, isWhitespace ch = false) :
    ∃ kept dropped, rest = kept ++ dropped ∧ trim line = text ++ String.singleton '|' ++ String.ofList kept := by
  have bar : isWhitespace '|' = false := by decide
  have cut : (rest.reverse ++ '|' :: text.toList.reverse).dropWhile isWhitespace =
      rest.reverse.dropWhile isWhitespace ++ '|' :: text.toList.reverse := by
    rw [List.dropWhile_append]
    split
    · rename_i empty
      rw [List.isEmpty_iff.mp empty,List.nil_append]
      exact dropWhile_visible fun ch first => by cases first; exact bar
    · rfl
  refine ⟨(rest.reverse.dropWhile isWhitespace).reverse,(rest.reverse.takeWhile isWhitespace).reverse,?_,?_⟩
  · rw [← List.reverse_append,List.takeWhile_append_dropWhile,List.reverse_reverse]
  · apply String.toList_inj.mp
    rw [trim,String.toList_ofList,dropWhile_visible visible,whole,List.reverse_append,List.reverse_cons,List.append_assoc,
      List.singleton_append,cut]
    simp

theorem checksumPart_digits (body : String) : ∃ high low : Fin 16,
    (checksumPart body).toList = ['c','h','k','=',(Nat.digitChar high).toUpper,(Nat.digitChar low).toUpper] := by
  obtain ⟨high,low,text⟩ := checksumHex_digits (asBytes body)
  refine ⟨high,low,?_⟩
  have key : "chk".toList = ['c','h','k'] := rfl
  simp only [checksumPart,render,String.toList_append,String.toList_singleton,key,text]
  rfl

theorem checksumPart_equalities (body : String) : (checksumPart body).toList.count '=' = 1 := by
  have digit : ∀ digit : Fin 16, (Nat.digitChar digit).toUpper ≠ '=' := by decide
  obtain ⟨high,low,text⟩ := checksumPart_digits body
  rw [text]
  simp [digit high,digit low]

theorem checksumTail_ascii (body : String) : ∀ ch ∈ '|' :: ((checksumPart body).toList ++ ['\n']), Ascii ch := by
  have digit : ∀ digit : Fin 16, Ascii (Nat.digitChar digit).toUpper := by decide
  obtain ⟨high,low,text⟩ := checksumPart_digits body
  rw [text]
  simp only [List.cons_append,List.nil_append,List.forall_mem_cons]
  exact ⟨by decide,by decide,by decide,by decide,by decide,digit high,digit low,by decide,nofun⟩

theorem frameBody_longer (label key value more : String) (front : Fields) :
    frameBody label (front ++ [(key,value ++ more)]) = frameBody label (front ++ [(key,value)]) ++ more := by
  unfold frameBody
  rw [List.map_append,List.map_append,← List.cons_append,← List.cons_append,List.map_singleton,List.map_singleton,
    join_snoc '|' (by simp),join_snoc '|' (by simp)]
  simp only [render,String.append_assoc]

section Sample
variable {label : String} {sample : SensorSnapshot} {corrupted : String} {front back : List UInt8} {old new : UInt8}
  {fields : Fields}

theorem sampleFrame_text (label : String) (sample : SensorSnapshot) : buildEsp32SampleFrame label sample true =
    sampleBody label sample ++ String.singleton '|' ++ checksumPart (sampleBody label sample) ++ "\n" :=
  withChecksum_text _

theorem sampleBody_front (label : String) (sample : SensorSnapshot) :
    ∃ rest, (sampleBody label sample).toList = label.toList ++ '|' :: 'v' :: rest := by
  rw [sampleBody_entries]
  refine ⟨'=' :: '1' :: '|' :: (join '|' ((sampleEntries sample).tail.map render)).toList,?_⟩
  unfold frameBody sampleEntries
  simp [join,render,List.intercalate_cons_cons]

-- The line of an accepted frame begins with the label, with nothing in front of it.
theorem corrupted_front (sent : asBytes (buildEsp32SampleFrame label sample true) = front ++ old :: back)
    (arrived : asBytes corrupted = front ++ new :: back)
    (scanned : scanFrame "esp32" corrupted label true = .ok fields) :
    Label label ∧ ∀ ch ∈ corrupted.toList.head?, isWhitespace ch = false := by
  obtain ⟨plain,blank,behind,whole,white⟩ := scanFrame_label scanned
  obtain ⟨rest,body⟩ := sampleBody_front label sample
  have text : (buildEsp32SampleFrame label sample true).toList =
      label.toList ++ '|' :: 'v' :: (rest ++ '|' :: (checksumPart (sampleBody label sample)).toList ++ ['\n']) := by
    rw [sampleFrame_text,String.toList_append,String.toList_append,String.toList_append,body]
    simp
  change encode (buildEsp32SampleFrame label sample true).toList = front ++ old :: back at sent
  change encode corrupted.toList = front ++ new :: back at arrived
  rw [text] at sent
  rw [whole] at arrived
  have gapless := no_blank_gained plain.whole plain.front white sent arrived
  refine ⟨plain,fun ch first => ?_⟩
  subst gapless
  rw [whole,List.nil_append] at first
  cases shape : label.toList with
  | nil =>
      rw [shape] at first
      obtain rfl := Option.some.inj first
      decide
  | cons head tail =>
      rw [shape] at first
      refine plain.front ch ?_
      rw [shape]
      exact first

-- The bytes of the body are under the checksum: none of them can be another.
theorem body_byte_kept {body' : List Char} {mid : List UInt8} (visible : ∀ ch ∈ corrupted.toList.head?, isWhitespace ch = false)
    (whole : corrupted.toList = body' ++ '|' :: ((checksumPart (sampleBody label sample)).toList ++ ['\n']))
    (sent : asBytes (sampleBody label sample) = front ++ old :: mid) (arrived : encode body' = front ++ new :: mid)
    (scanned : scanFrame "esp32" corrupted label true = .ok fields) : new = old := by
  have text : corrupted = String.ofList body' ++ String.singleton '|' ++ checksumPart (sampleBody label sample) ++ "\n" := by
    apply String.toList_inj.mp
    rw [whole]
    simp
  have same := checksum_accepted text visible scanned
  change checksumOf (encode (String.ofList body').toList) = _ at same
  rw [String.toList_ofList,arrived,sent] at same
  exact checksumOf_substituted same

-- Where the separator in front of the checksum is lost, no field is left that could be one.
theorem separator_lost {other : Char} (plain : Label label)
    (visible : ∀ ch ∈ corrupted.toList.head?, isWhitespace ch = false) (lost : other ≠ '|')
    (whole : corrupted.toList = (sampleBody label sample).toList ++
      other :: ((checksumPart (sampleBody label sample)).toList ++ ['\n'])) :
    scanFrame "esp32" corrupted label true ≠ .ok fields := by
  let more := String.singleton other ++ checksumPart (sampleBody label sample)
  have known := sampleEntries_known sample
  have longer : FrameEntries ((sampleEntries sample).take 10 ++ [("ph",displayFixed 2 sample.ph ++ more)]) := by
    refine ⟨known.keys,fun value member => ?_⟩
    rw [List.map_append,List.mem_append] at member
    rcases member with inside | last
    · exact known.values value (by
        rw [show sampleEntries sample = (sampleEntries sample).take 10 ++ [("ph",displayFixed 2 sample.ph)] from rfl,
          List.map_append]
        exact List.mem_append_left _ inside)
    · obtain rfl := List.mem_singleton.mp last
      have digits := displayFixed_plain sample.ph
      have part := checksumPart_whole (sampleBody label sample)
      simp only [more,String.toList_append,String.toList_singleton,List.mem_append,List.mem_singleton,not_or]
      exact ⟨digits,Ne.symm lost,part⟩
  have text : frameBody label ((sampleEntries sample).take 10 ++ [("ph",displayFixed 2 sample.ph ++ more)]) =
      sampleBody label sample ++ more := by
    rw [frameBody_longer,sampleBody_entries]
    rfl
  refine unchecked_refused plain longer ?_
  have line : corrupted = sampleBody label sample ++ more ++ "\n" := by
    apply String.toList_inj.mp
    rw [whole]
    simp [more]
  have front : ∀ ch ∈ (sampleBody label sample ++ more).toList.head?, isWhitespace ch = false := by
    intro ch first
    refine visible ch ?_
    rw [line,String.toList_append,List.head?_append,first]
    rfl
  have back : ∀ ch ∈ (sampleBody label sample ++ more).toList.getLast?, isWhitespace ch = false := by
    have end' := checksumPart_back (sampleBody label sample) ((sampleBody label sample).toList ++ [other])
    simpa [more] using end'
  rw [text,line,trim_line front back]

-- In the checksum field itself, what is accepted is a checksum field still.
theorem checksum_byte {other ch : Char} {ahead behind : List Char} (plain : Label label)
    (visible : ∀ ch ∈ corrupted.toList.head?, isWhitespace ch = false)
    (field : (checksumPart (sampleBody label sample)).toList ++ ['\n'] = ahead ++ ch :: behind)
    (whole : corrupted.toList = (sampleBody label sample).toList ++ '|' :: (ahead ++ other :: behind))
    (scanned : scanFrame "esp32" corrupted label true = .ok fields) : fields = (sampleEntries sample).reverse := by
  obtain ⟨kept,dropped,rest,trimmed⟩ := trim_behind whole visible
  rw [sampleBody_entries] at trimmed
  refine checksum_field_accepted plain (sampleEntries_known sample) trimmed (fun bar => ?_) scanned
  rw [String.toList_ofList] at bar ⊢
  have single := checksumPart_equalities (sampleBody label sample)
  have counted : (ahead ++ ch :: behind).count '=' = 1 := by
    rw [← field,List.count_append,single]
    decide
  have absent : '|' ∉ ahead ++ ch :: behind := by
    rw [← field]
    have part := checksumPart_whole (sampleBody label sample)
    simp [part]
  have listed : '|' ∈ ahead ++ other :: behind := by
    rw [rest]
    exact List.mem_append_left _ bar
  simp only [List.mem_append,List.mem_cons,not_or] at absent listed
  have same : other = '|' := by
    rcases listed with first | here | last
    · exact absurd first absent.1
    · exact here.symm
    · exact absurd last absent.2.2
  have fewer : kept.count '=' ≤ (ahead ++ other :: behind).count '=' := by
    rw [rest,List.count_append]
    exact Nat.le_add_right _ _
  subst same
  rw [List.count_append,List.count_cons] at fewer counted
  simp only [Char.reduceBEq,Bool.false_eq_true,if_false,add_zero] at fewer
  omega

-- A separator that is kept leaves the frame as it was.
theorem separator_byte {other : Char} (plain : Label label)
    (visible : ∀ ch ∈ corrupted.toList.head?, isWhitespace ch = false)
    (whole : corrupted.toList = (sampleBody label sample).toList ++
      other :: ((checksumPart (sampleBody label sample)).toList ++ ['\n']))
    (scanned : scanFrame "esp32" corrupted label true = .ok fields) : fields = (sampleEntries sample).reverse := by
  by_cases kept : other = '|'
  · have same : corrupted = buildEsp32SampleFrame label sample true := by
      apply String.toList_inj.mp
      rw [whole,kept,sampleFrame_text]
      simp
    rw [same,scanFrame_sample true plain sample] at scanned
    exact (Except.ok.inj scanned).symm
  · exact absurd scanned (separator_lost plain visible kept whole)

theorem corrupted_entries (sent : asBytes (buildEsp32SampleFrame label sample true) = front ++ old :: back)
    (arrived : asBytes corrupted = front ++ new :: back) (differs : new ≠ old)
    (scanned : scanFrame "esp32" corrupted label true = .ok fields) :
    Label label ∧ fields = (sampleEntries sample).reverse := by
  obtain ⟨plain,visible⟩ := corrupted_front sent arrived scanned
  refine ⟨plain,?_⟩
  have text : (buildEsp32SampleFrame label sample true).toList = (sampleBody label sample).toList ++
      '|' :: ((checksumPart (sampleBody label sample)).toList ++ ['\n']) := by
    rw [sampleFrame_text]
    simp
  have ascii := checksumTail_ascii (sampleBody label sample)
  change encode (buildEsp32SampleFrame label sample true).toList = front ++ old :: back at sent
  rw [text] at sent
  rcases substituted_cases ascii sent arrived with ⟨body',mid,whole,encoded,body⟩ | ⟨ahead,ch,other,behind,tail,whole⟩
  · exact absurd (body_byte_kept visible whole body encoded scanned) differs
  · cases ahead with
    | nil =>
        have field := (List.cons.inj tail).2
        rw [List.append_nil,← field] at whole
        exact separator_byte plain visible whole scanned
    | cons first ahead =>
        obtain ⟨bar,field⟩ := List.cons.inj tail
        rw [List.append_assoc,← bar] at whole
        exact checksum_byte plain visible field whole scanned

end Sample

theorem error_or_ok {ε α : Type} (result : Except ε α) : (∃ err, result = .error err) ∨ ∃ value, result = .ok value := by
  cases result with
  | error err => exact .inl ⟨err,rfl⟩
  | ok value => exact .inr ⟨value,rfl⟩

-- Frames with the same fields behind their checksums are the same snapshot.
theorem parse_fields_kept (now : Instant) (sine : ℚ → ℚ) {line other expectedPrefix : String}
    (kept : ∀ fields, scanFrame "esp32" other expectedPrefix true = .ok fields →
      scanFrame "esp32" line expectedPrefix true = .ok fields) :
    (∃ err, parseEsp32Frame now sine other expectedPrefix true = .error err) ∨
      parseEsp32Frame now sine other expectedPrefix true = parseEsp32Frame now sine line expectedPrefix true := by
  rcases error_or_ok (parseEsp32Frame now sine other expectedPrefix true) with refused | ⟨snapshot,accepted⟩
  · exact .inl refused
  · obtain ⟨fields,scanned,reads⟩ := parseEsp32Frame_ok.mp accepted
    exact .inr (accepted.trans (parseEsp32Frame_ok.mpr ⟨fields,kept fields scanned,reads⟩).symm)

theorem single_byte_detected (now : Instant) (sine : ℚ → ℚ) (label : String) (sample : SensorSnapshot)
    {corrupted : String} {front back : List UInt8} {old new : UInt8}
    (sent : asBytes (buildEsp32SampleFrame label sample true) = front ++ old :: back)
    (arrived : asBytes corrupted = front ++ new :: back) (differs : new ≠ old) :
    (∃ err, parseEsp32Frame now sine corrupted label true = .error err) ∨
      parseEsp32Frame now sine corrupted label true =
        parseEsp32Frame now sine (buildEsp32SampleFrame label sample true) label true :=
  parse_fields_kept now sine fun _ scanned => by
    obtain ⟨plain,entries⟩ := corrupted_entries sent arrived differs scanned
    rw [entries]
    exact scanFrame_sample true plain sample

theorem asBytes_append (text more : String) : asBytes (text ++ more) = asBytes text ++ asBytes more := by
  unfold asBytes
  rw [String.toList_append,List.flatMap_append]

-- A checksum digit in lower case: the byte changes and the snapshot does not.
theorem single_byte_detected_lower :
    let sent := "RX|v=1|seq=0|ms=0|temp=64.25|pressure=0.10|stir_speed=320.00|shake_speed=30.00|tilt_state=1|flow_rate=2.50" ++
      "|product_concentration=18.75|ph=7.21|chk=3"
    asBytes (buildEsp32SampleFrame "RX" (benchSample 1) true) = asBytes sent ++ 0x41 :: asBytes "\n" ∧
    ((∃ err, parseEsp32Frame 0 (fun _ => 0) (sent ++ "a\n") "RX" true = .error err) ∨
      parseEsp32Frame 0 (fun _ => 0) (sent ++ "a\n") "RX" true =
        parseEsp32Frame 0 (fun _ => 0) (buildEsp32SampleFrame "RX" (benchSample 1) true) "RX" true) := by
  intro sent
  have body : sampleBody "RX" (benchSample 1) = "RX|v=1|seq=0|ms=0|temp=64.25|pressure=0.10|stir_speed=320.00" ++
      "|shake_speed=30.00|tilt_state=1|flow_rate=2.50|product_concentration=18.75|ph=7.21" := by decide +kernel
  have text : buildEsp32SampleFrame "RX" (benchSample 1) true = sent ++ "A\n" := by
    rw [buildEsp32SampleFrame,body,withChecksum,asBytes,String.toList_append,
      @toList_literal "|shake_speed=30.00|tilt_state=1|flow_rate=2.50|product_concentration=18.75|ph=7.21" _ rfl,toList_literal rfl]
    decide +kernel
  have built : asBytes (buildEsp32SampleFrame "RX" (benchSample 1) true) = asBytes sent ++ 0x41 :: asBytes "\n" := by
    rw [text,asBytes_append]
    rfl
  exact ⟨built,single_byte_detected 0 (fun _ => 0) "RX" (benchSample 1) built (asBytes_append sent "a\n") (by decide)⟩

end ReactorOS
