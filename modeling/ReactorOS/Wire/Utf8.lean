import Mathlib.Data.List.Induction
namespace Wire

-- The bytes of a text.
def encode (text : List Char) : List UInt8 := text.flatMap String.utf8EncodeChar

variable {text front : List Char} {bytes rest : List UInt8} {ch other : Char} {byte : UInt8}

@[simp] theorem encode_nil : encode [] = [] := rfl

@[simp] theorem encode_cons (ch : Char) (text : List Char) : encode (ch :: text) = String.utf8EncodeChar ch ++ encode text := rfl

@[simp] theorem encode_append (front text : List Char) : encode (front ++ text) = encode front ++ encode text :=
  List.flatMap_append

-- No character begins with the bytes of another.
theorem char_front (same : String.utf8EncodeChar ch ++ bytes = String.utf8EncodeChar other ++ rest) :
    ch = other ∧ bytes = rest := by
  have array := congrArg List.toByteArray same
  rw [List.toByteArray_append,List.toByteArray_append] at array
  have decoded := congrArg (ByteArray.utf8DecodeChar? · 0) array
  simp only [ByteArray.utf8DecodeChar?_utf8EncodeChar_append,Option.some.injEq] at decoded
  subst decoded
  exact ⟨rfl,List.append_cancel_left same⟩

-- Bytes that begin with those of a text are those of a text that begins with it.
theorem encode_front (same : encode text = encode front ++ rest) : ∃ behind, text = front ++ behind ∧ encode behind = rest := by
  induction front generalizing text with
  | nil => exact ⟨text,rfl,same⟩
  | cons ch front ih =>
      rw [encode_cons,List.append_assoc] at same
      cases text with
      | nil => exact absurd (List.append_eq_nil_iff.mp same.symm).1 String.utf8EncodeChar_ne_nil
      | cons head text =>
          obtain ⟨rfl,further⟩ := char_front same
          obtain ⟨behind,rfl,encoded⟩ := ih further
          exact ⟨behind,rfl,encoded⟩

theorem encode_injective (same : encode text = encode front) : text = front := by
  obtain ⟨behind,rfl,encoded⟩ := @encode_front text front [] (by simpa using same)
  cases behind with
  | nil => simp
  | cons ch behind => exact absurd (List.append_eq_nil_iff.mp encoded).1 String.utf8EncodeChar_ne_nil

def Ascii (ch : Char) : Prop := ch.toNat < 128

instance : DecidablePred Ascii := fun ch => inferInstanceAs (Decidable (ch.toNat < 128))

theorem ascii_all {text : List Char} (all : (text.all fun ch => decide (Ascii ch)) = true) : ∀ ch ∈ text, Ascii ch :=
  fun ch member => of_decide_eq_true (List.all_eq_true.mp all ch member)

theorem encode_ascii (ascii : Ascii ch) : String.utf8EncodeChar ch = [UInt8.ofNat ch.toNat] := by
  unfold Ascii at ascii
  unfold String.utf8EncodeChar
  have small : ch.val.toNat ≤ 127 := Nat.le_of_lt_succ ascii
  simp only [if_pos small]
  rfl

theorem high_byte {value base : Nat} (least : 128 ≤ base) (most : value+base < 256) :
    ¬(UInt8.ofNat (value+base)).toNat < 128 := by
  rw [UInt8.toNat_ofNat',Nat.mod_eq_of_lt most]
  omega

-- The bytes of a longer character all have their highest bit.
theorem ascii_of_byte (member : byte ∈ String.utf8EncodeChar ch) (low : byte.toNat < 128) :
    Ascii ch ∧ byte = UInt8.ofNat ch.toNat := by
  by_cases ascii : Ascii ch
  · rw [encode_ascii ascii] at member
    exact ⟨ascii,List.mem_singleton.mp member⟩
  · have large : ¬ch.val.toNat ≤ 127 := fun small => ascii (Nat.lt_succ_of_le small)
    unfold String.utf8EncodeChar at member
    simp only [if_neg large] at member
    split at member
    · simp only [List.mem_cons,List.not_mem_nil,or_false] at member
      rcases member with rfl | rfl
      · exact absurd low (high_byte (by omega) (by omega))
      · exact absurd low (high_byte (by omega) (by omega))
    · split at member
      · simp only [List.mem_cons,List.not_mem_nil,or_false] at member
        rcases member with rfl | rfl | rfl
        · exact absurd low (high_byte (by omega) (by omega))
        · exact absurd low (high_byte (by omega) (by omega))
        · exact absurd low (high_byte (by omega) (by omega))
      · simp only [List.mem_cons,List.not_mem_nil,or_false] at member
        rcases member with rfl | rfl | rfl | rfl
        · exact absurd low (high_byte (by omega) (by omega))
        · exact absurd low (high_byte (by omega) (by omega))
        · exact absurd low (high_byte (by omega) (by omega))
        · exact absurd low (high_byte (by omega) (by omega))

theorem ascii_injective (first : Ascii ch) (second : Ascii other) (same : UInt8.ofNat ch.toNat = UInt8.ofNat other.toNat) :
    ch = other := by
  unfold Ascii at first second
  have values := congrArg UInt8.toNat same
  rw [UInt8.toNat_ofNat',UInt8.toNat_ofNat',Nat.mod_eq_of_lt (by omega),Nat.mod_eq_of_lt (by omega)] at values
  exact Char.toNat_inj.mp values

theorem ascii_toNat (ascii : Ascii ch) : (UInt8.ofNat ch.toNat).toNat = ch.toNat := by
  unfold Ascii at ascii
  rw [UInt8.toNat_ofNat',Nat.mod_eq_of_lt (by omega)]

-- The byte of an ASCII character stands in a text where that character does.
theorem mem_of_byte (ascii : Ascii ch) (member : UInt8.ofNat ch.toNat ∈ encode text) : ch ∈ text := by
  obtain ⟨other,listed,inside⟩ := List.mem_flatMap.mp member
  have low : (UInt8.ofNat ch.toNat).toNat < 128 := by
    rw [ascii_toNat ascii]
    exact ascii
  obtain ⟨also,same⟩ := ascii_of_byte inside low
  obtain rfl := ascii_injective ascii also same
  exact listed

theorem encode_ascii_text (ascii : ∀ ch ∈ text, Ascii ch) : encode text = text.map fun ch => UInt8.ofNat ch.toNat := by
  induction text with
  | nil => rfl
  | cons ch text ih =>
      obtain ⟨first,others⟩ := List.forall_mem_cons.mp ascii
      rw [encode_cons,encode_ascii first,ih others]
      rfl

theorem encode_back_char (ascii : Ascii ch) (same : encode text = bytes ++ [UInt8.ofNat ch.toNat]) :
    ∃ before, text = before ++ [ch] ∧ encode before = bytes := by
  rcases List.eq_nil_or_concat text with rfl | ⟨before,last,rfl⟩
  · cases bytes <;> cases same
  · rw [List.concat_eq_append,encode_append,encode_cons,encode_nil,List.append_nil] at same
    have ending := congrArg List.getLast? same
    rw [List.getLast?_append,List.getLast?_append,List.getLast?_singleton,Option.some_or] at ending
    have inside : UInt8.ofNat ch.toNat ∈ String.utf8EncodeChar last := by
      cases tail : (String.utf8EncodeChar last).getLast? with
      | none => exact absurd (List.getLast?_eq_none_iff.mp tail) String.utf8EncodeChar_ne_nil
      | some byte =>
          rw [tail,Option.some_or] at ending
          obtain rfl := Option.some.inj ending
          exact List.mem_of_getLast? tail
    have low : (UInt8.ofNat ch.toNat).toNat < 128 := by
      rw [ascii_toNat ascii]
      exact ascii
    obtain ⟨also,byte⟩ := ascii_of_byte inside low
    obtain rfl := ascii_injective ascii also byte
    rw [encode_ascii also] at same
    exact ⟨before,List.concat_eq_append,List.append_cancel_right same⟩

-- Bytes that end with those of an ASCII text are those of a text that ends with it.
theorem encode_back {tail : List Char} (ascii : ∀ ch ∈ tail, Ascii ch) (same : encode text = bytes ++ encode tail) :
    ∃ before, text = before ++ tail ∧ encode before = bytes := by
  induction tail using List.reverseRecOn generalizing text with
  | nil => exact ⟨text,by simp,by simpa using same⟩
  | append_singleton tail ch ih =>
      have last : Ascii ch := ascii ch (by simp)
      rw [encode_append,encode_cons,encode_nil,List.append_nil,encode_ascii last,← List.append_assoc] at same
      obtain ⟨before,rfl,encoded⟩ := encode_back_char last same
      obtain ⟨front,rfl,further⟩ := ih (fun one member => ascii one (by simp [member])) encoded
      exact ⟨front,by simp,further⟩

-- A text whose bytes are those of an ASCII text but for one, is that text but for one character.
theorem encode_substituted {front back : List Char} (behind : ∀ ch ∈ back, Ascii ch)
    (same : encode text = encode front ++ byte :: encode back) : ∃ ch, text = front ++ ch :: back := by
  obtain ⟨rest,rfl,encoded⟩ := encode_front same
  obtain ⟨before,rfl,one⟩ := @encode_back rest [byte] back behind encoded
  cases before with
  | nil => cases one
  | cons ch before =>
      rw [encode_cons] at one
      have length := congrArg List.length one
      have wide : 0 < (String.utf8EncodeChar ch).length := List.length_pos_iff.mpr String.utf8EncodeChar_ne_nil
      rw [List.length_append,List.length_singleton] at length
      have empty : encode before = [] := List.eq_nil_of_length_eq_zero (by omega)
      obtain rfl : before = [] := encode_injective empty
      exact ⟨ch,by simp⟩

-- Where one byte of a text with an ASCII end is another: in front of that end, or in it.
theorem substituted_cases {received body tail : List Char} {back : List UInt8} {old new : UInt8} {before : List UInt8}
    (ascii : ∀ ch ∈ tail, Ascii ch) (sent : encode (body ++ tail) = before ++ old :: back)
    (arrived : encode received = before ++ new :: back) :
    (∃ body' mid, received = body' ++ tail ∧ encode body' = before ++ new :: mid ∧ encode body = before ++ old :: mid) ∨
      ∃ front ch other behind, tail = front ++ ch :: behind ∧ received = body ++ front ++ other :: behind := by
  have inTail : ∀ more, before = encode body ++ more → encode tail = more ++ old :: back →
      ∃ front ch other behind, tail = front ++ ch :: behind ∧ received = body ++ front ++ other :: behind := by
    rintro more rfl ending
    rw [encode_ascii_text ascii] at ending
    obtain ⟨front,rest,rfl,rfl,further⟩ := List.map_eq_append_iff.mp ending
    obtain ⟨ch,behind,rfl,rfl,rfl⟩ := List.map_eq_cons_iff.mp further
    have first : ∀ one ∈ front, Ascii one := fun one member => ascii one (by simp [member])
    have last : ∀ one ∈ behind, Ascii one := fun one member => ascii one (by simp [member])
    rw [← encode_ascii_text first,← encode_ascii_text last,← encode_append] at arrived
    obtain ⟨other,same⟩ := encode_substituted last arrived
    exact ⟨front,ch,other,behind,rfl,same⟩
  rw [encode_append] at sent
  rcases List.append_eq_append_iff.mp sent with ⟨more,front,ending⟩ | ⟨more,front,ending⟩
  · exact .inr (inTail more front ending)
  · cases more with
    | nil => exact .inr (inTail [] (by simpa using front.symm) (by simpa using ending.symm))
    | cons byte mid =>
        obtain ⟨rfl,rfl⟩ := List.cons.inj ending
        change encode received = before ++ (new :: mid ++ encode tail) at arrived
        rw [← List.append_assoc] at arrived
        obtain ⟨body',same,encoded⟩ := encode_back ascii arrived
        exact .inl ⟨body',mid,same,encoded,front⟩

section Lossy

-- The second byte that a character with such a first one may have.
def secondByte (first second : UInt8) : Bool :=
  if first = 0xE0 then 0xA0 ≤ second && second ≤ 0xBF
  else if first = 0xED then 0x80 ≤ second && second ≤ 0x9F
  else if first = 0xF0 then 0x90 ≤ second && second ≤ 0xBF
  else if first = 0xF4 then 0x80 ≤ second && second ≤ 0x8F
  else 0x80 ≤ second && second ≤ 0xBF

-- How many bytes that begin no character one replacement stands for.
def malformed : List UInt8 → Nat
  | first :: second :: rest =>
      if 0xE0 ≤ first && first ≤ 0xEF && secondByte first second then 2
      else if 0xF0 ≤ first && first ≤ 0xF4 && secondByte first second then
        match rest with
        | third :: _ => if 0x80 ≤ third && third ≤ 0xBF then 3 else 2
        | [] => 2
      else 1
  | _ => 1

def decodeLossy : Nat → List UInt8 → List Char
  | 0,_ => []
  | _,[] => []
  | fuel+1,bytes =>
      match bytes.toByteArray.utf8DecodeChar? 0 with
      | some ch => ch :: decodeLossy fuel (bytes.drop ch.utf8Size)
      | none => '\uFFFD' :: decodeLossy fuel (bytes.drop (malformed bytes))

-- `to_string_lossy`, which takes at least one byte for a character.
def lossy (bytes : List UInt8) : List Char := decodeLossy bytes.length bytes

-- `to_str`
def toStr (bytes : List UInt8) : Option (List Char) :=
  if encode (lossy bytes) = bytes then some (lossy bytes) else none

theorem decodeLossy_encode {fuel : Nat} (enough : (encode text).length ≤ fuel) : decodeLossy fuel (encode text) = text := by
  induction text generalizing fuel with
  | nil => cases fuel <;> rfl
  | cons ch text ih =>
      have wide : 0 < (String.utf8EncodeChar ch).length := List.length_pos_iff.mpr String.utf8EncodeChar_ne_nil
      rw [encode_cons,List.length_append] at enough
      have decoded : (encode (ch :: text)).toByteArray.utf8DecodeChar? 0 = some ch := by
        rw [encode_cons,List.toByteArray_append]
        exact ByteArray.utf8DecodeChar?_utf8EncodeChar_append
      have width : (encode (ch :: text)).drop ch.utf8Size = encode text := by
        rw [encode_cons,← String.length_utf8EncodeChar,List.drop_left]
      cases fuel with
      | zero => omega
      | succ fuel =>
          have unfolded : decodeLossy (fuel+1) (encode (ch :: text)) =
              ch :: decodeLossy fuel ((encode (ch :: text)).drop ch.utf8Size) := by
            cases bytes : encode (ch :: text) with
            | nil => exact absurd (List.append_eq_nil_iff.mp bytes).1 String.utf8EncodeChar_ne_nil
            | cons byte rest =>
                rw [bytes] at decoded
                rw [decodeLossy,decoded]
                exact nofun
          rw [unfolded,width,ih (by omega)]

@[simp] theorem lossy_encode (text : List Char) : lossy (encode text) = text := decodeLossy_encode (Nat.le_refl _)

@[simp] theorem toStr_encode (text : List Char) : toStr (encode text) = some text := by
  rw [toStr,lossy_encode,if_pos rfl]

theorem toStr_some : toStr bytes = some text ↔ bytes = encode text := by
  constructor
  · intro valid
    unfold toStr at valid
    split at valid
    · rename_i same
      cases valid
      exact same.symm
    · cases valid
  · rintro rfl
    exact toStr_encode text

end Lossy

end Wire
