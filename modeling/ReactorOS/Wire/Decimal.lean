import ReactorOS.Number
import Mathlib.Data.List.TakeWhile
import Mathlib.Tactic.NormNum
import Mathlib.Tactic.Linarith
import Mathlib.Tactic.Positivity
import Mathlib.Tactic.FieldSimp
import Mathlib.Tactic.Ring
namespace Wire
open ReactorOS

-- `f64::from_str`, up to the rounding to a double: a finite value, or `none` for an
-- infinity and for what is not a number.
inductive FloatError where
  | empty | invalid
  deriving DecidableEq

def FloatError.message : FloatError → String
  | .empty => "cannot parse float from empty string"
  | .invalid => "invalid float literal"

def stripSign : List Char → Bool × List Char
  | '-' :: rest => (true,rest)
  | '+' :: rest => (false,rest)
  | text => (false,text)

def parseExponent (text : List Char) : Option Int :=
  let (negative,digits) := stripSign text
  if digits.isEmpty || !digits.all Char.isDigit then none
  else some (if negative then -(Nat.ofDigitChars 10 digits 0) else Nat.ofDigitChars 10 digits 0)

def parseFraction : List Char → List Char × List Char
  | '.' :: rest => (rest.takeWhile Char.isDigit,rest.dropWhile Char.isDigit)
  | rest => ([],rest)

def parseMagnitude (text : List Char) : Option ℚ :=
  let whole := text.takeWhile Char.isDigit
  let (fraction,rest) := parseFraction (text.dropWhile Char.isDigit)
  let mantissa : ℚ := (Nat.ofDigitChars 10 (whole ++ fraction) 0 : ℚ) / 10^fraction.length
  if whole.isEmpty && fraction.isEmpty then none
  else match rest with
    | [] => some mantissa
    | mark :: exponent =>
        if mark = 'e' || mark = 'E' then (parseExponent exponent).map fun power => mantissa * (10 : ℚ)^power else none

-- The largest double, and where rounding goes on to infinity.
def f64Max : ℚ := 2^1024 - 2^971
def f64Overflow : ℚ := 2^1024 - 2^970

def isSpecial (text : List Char) : Bool :=
  let lower := text.map Char.toLower
  lower = "inf".toList || lower = "infinity".toList || lower = "nan".toList

def parseF64 (text : String) : Except FloatError (Option ℚ) :=
  if text.isEmpty then .error .empty
  else
    let (negative,rest) := stripSign text.toList
    match parseMagnitude rest with
    | some magnitude =>
        if magnitude < f64Overflow then .ok (some (if negative then -magnitude else magnitude)) else .ok none
    | none => if isSpecial rest then .ok none else .error .invalid

-- The number that `{:.n}` shows.
def roundFixed (digits : Nat) (value : ℚ) : ℚ :=
  (if value < 0 then -1 else 1) * (roundHalfEven (|value| * 10^digits) / 10^digits)

theorem roundHalfEven_near (value : ℚ) : |(roundHalfEven value : ℚ)-value| ≤ 1/2 := by
  have low := Int.floor_le value
  have high := Int.lt_floor_add_one value
  simp only [roundHalfEven]
  split
  · rw [abs_le]; constructor <;> linarith
  · split
    · push_cast; rw [abs_le]; constructor <;> linarith
    · split
      · rw [abs_le]; constructor <;> linarith
      · push_cast; rw [abs_le]; constructor <;> linarith

theorem roundHalfEven_nonneg {value : ℚ} (nonneg : 0 ≤ value) : 0 ≤ roundHalfEven value := by
  have low : 0 ≤ ⌊value⌋ := Int.floor_nonneg.mpr nonneg
  simp only [roundHalfEven]
  split
  · exact low
  · split
    · omega
    · split <;> omega

theorem roundHalfEven_le {value : ℚ} {bound : Int} (below : value ≤ bound) : roundHalfEven value ≤ bound := by
  have near := roundHalfEven_near value
  rw [abs_le] at near
  have under : (roundHalfEven value : ℚ) < (bound+1 : Int) := by push_cast; linarith
  have strict := Int.cast_lt.mp under
  omega

theorem roundFixed_near (digits : Nat) (value : ℚ) : |roundFixed digits value - value| ≤ 1/(2*10^digits) := by
  have power : (0 : ℚ) < 10^digits := by positivity
  have near := roundHalfEven_near (|value| * 10^digits)
  have scaled : abs ((roundHalfEven (|value| * 10^digits) : ℚ)/10^digits - |value|) ≤ 1/(2*10^digits) := by
    have shift : (roundHalfEven (|value| * 10^digits) : ℚ)/10^digits - |value| =
        (roundHalfEven (|value| * 10^digits) - |value| * 10^digits)/10^digits := by field_simp
    rw [shift,abs_div,abs_of_pos power,div_le_div_iff₀ power (by positivity)]
    nlinarith
  unfold roundFixed
  split
  · rename_i negative
    rw [abs_of_neg negative] at scaled ⊢
    rw [←abs_neg]
    convert scaled using 2
    ring
  · rename_i nonneg
    rw [abs_of_nonneg (not_lt.mp nonneg)] at scaled ⊢
    convert scaled using 2
    ring

theorem roundFixed_whole (digits : Nat) (value : ℚ) : ∃ units : Int, roundFixed digits value = units/10^digits := by
  by_cases negative : value < 0
  · refine ⟨-roundHalfEven (|value| * 10^digits),?_⟩
    rw [roundFixed,if_pos negative]
    push_cast
    ring
  · refine ⟨roundHalfEven (|value| * 10^digits),?_⟩
    rw [roundFixed,if_neg negative,one_mul]

-- The digits behind the point, padded to their number.
def paddedDigits (digits rest : Nat) : List Char :=
  List.replicate (digits-(Nat.toDigits 10 rest).length) '0' ++ Nat.toDigits 10 rest

theorem paddedDigits_length {digits rest : Nat} (nonzero : digits ≠ 0) (fits : rest < 10^digits) :
    (paddedDigits digits rest).length = digits := by
  have short := (Nat.length_toDigits_le_iff (by decide : 1 < 10) (Nat.pos_of_ne_zero nonzero)).mpr fits
  unfold paddedDigits
  rw [List.length_append,List.length_replicate]
  omega

theorem isDigit_toDigits (number : Nat) : ∀ ch ∈ Nat.toDigits 10 number, ch.isDigit = true := by
  intro ch member
  exact Nat.isDigit_of_mem_toDigits (by decide) (by decide) member

theorem isDigit_paddedDigits (digits rest : Nat) : ∀ ch ∈ paddedDigits digits rest, ch.isDigit = true := by
  intro ch member
  rcases List.mem_append.mp member with padding | digit
  · rw [List.eq_of_mem_replicate padding]; rfl
  · exact isDigit_toDigits rest ch digit

theorem ofDigitChars_paddedDigits (digits rest initial : Nat) :
    Nat.ofDigitChars 10 (paddedDigits digits rest) initial = 10^(paddedDigits digits rest).length * initial + rest := by
  rw [Nat.ofDigitChars_eq_ofDigitChars_zero]
  congr 1
  unfold paddedDigits
  rw [Nat.ofDigitChars_append,Nat.ofDigitChars_replicate_zero,Nat.mul_zero,Nat.ofDigitChars_ten_toDigits]

theorem displayFixed_toList {digits : Nat} (nonzero : digits ≠ 0) (value : ℚ) : (displayFixed digits value).toList =
    (if value < 0 then ['-'] else []) ++ (Nat.toDigits 10 ((roundHalfEven (|value| * 10^digits)).toNat / 10^digits) ++
      '.' :: paddedDigits digits ((roundHalfEven (|value| * 10^digits)).toNat % 10^digits)) := by
  simp only [displayFixed,paddedDigits,if_neg nonzero]
  split <;> simp [Nat.repr_eq_ofList_toDigits]

theorem parseMagnitude_decimal {whole fraction : List Char} (one : ∀ ch ∈ whole, ch.isDigit = true)
    (two : ∀ ch ∈ fraction, ch.isDigit = true) (nonempty : whole ≠ []) : parseMagnitude (whole ++ '.' :: fraction) =
      some ((Nat.ofDigitChars 10 (whole ++ fraction) 0 : ℚ) / 10^fraction.length) := by
  have front : (whole ++ '.' :: fraction).takeWhile Char.isDigit = whole := by
    rw [List.takeWhile_append_of_pos one,List.takeWhile_cons]; simp
  have behind : (whole ++ '.' :: fraction).dropWhile Char.isDigit = '.' :: fraction := by
    rw [List.dropWhile_append_of_pos one,List.dropWhile_cons]; simp
  have decimals : fraction.takeWhile Char.isDigit = fraction := List.takeWhile_eq_self_iff.mpr two
  have nothing : fraction.dropWhile Char.isDigit = [] := List.dropWhile_eq_nil_iff.mpr two
  simp [parseMagnitude,front,behind,parseFraction,decimals,nothing,nonempty]

theorem stripSign_digit {ch : Char} (digit : ch.isDigit = true) (rest : List Char) :
    stripSign (ch :: rest) = (false,ch :: rest) := by
  unfold stripSign
  split
  · rename_i same
    obtain ⟨rfl,_⟩ := List.cons.inj same
    cases digit
  · rename_i same
    obtain ⟨rfl,_⟩ := List.cons.inj same
    cases digit
  · rfl

theorem ofDigitChars_decimal {digits : Nat} (nonzero : digits ≠ 0) (scaled : Nat) :
    Nat.ofDigitChars 10 (Nat.toDigits 10 (scaled/10^digits) ++ paddedDigits digits (scaled % 10^digits)) 0 = scaled := by
  have fits : scaled % 10^digits < 10^digits := Nat.mod_lt _ (by positivity)
  rw [Nat.ofDigitChars_append,ofDigitChars_paddedDigits,Nat.ofDigitChars_ten_toDigits,paddedDigits_length nonzero fits]
  exact Nat.div_add_mod scaled (10^digits)

theorem parseF64_decimal {digits : Nat} (nonzero : digits ≠ 0) {text : String} (negative : Bool) {scaled : Nat}
    (shown : text.toList = (if negative then ['-'] else []) ++
      (Nat.toDigits 10 (scaled/10^digits) ++ '.' :: paddedDigits digits (scaled % 10^digits)))
    (finite : (scaled : ℚ)/10^digits < f64Overflow) :
    parseF64 text = .ok (some ((if negative then -1 else 1) * ((scaled : ℚ)/10^digits))) := by
  have fits : scaled % 10^digits < 10^digits := Nat.mod_lt _ (by positivity)
  have magnitude : parseMagnitude (Nat.toDigits 10 (scaled/10^digits) ++ '.' :: paddedDigits digits (scaled % 10^digits)) =
      some ((scaled : ℚ)/10^digits) := by
    rw [parseMagnitude_decimal (isDigit_toDigits _) (isDigit_paddedDigits _ _) Nat.toDigits_ne_nil,
      ofDigitChars_decimal nonzero,paddedDigits_length nonzero fits]
  have nonempty : text.isEmpty = false := by
    rw [←Bool.not_eq_true,String.isEmpty_iff]
    intro empty
    rw [empty] at shown
    cases negative <;> simp at shown
  have stripped : stripSign text.toList =
      (negative,Nat.toDigits 10 (scaled/10^digits) ++ '.' :: paddedDigits digits (scaled % 10^digits)) := by
    rw [shown]
    cases negative with
    | true => rfl
    | false =>
        cases front : Nat.toDigits 10 (scaled/10^digits) with
        | nil => exact absurd front Nat.toDigits_ne_nil
        | cons ch rest =>
            have digit : ch.isDigit = true := isDigit_toDigits (scaled/10^digits) ch (by rw [front]; simp)
            exact stripSign_digit digit _
  unfold parseF64
  rw [nonempty,stripped]
  simp only [magnitude,if_pos finite]
  cases negative <;> simp

theorem f64Max_lt : f64Max < f64Overflow := by
  have powers : (2 : ℚ)^970 < 2^971 := pow_lt_pow_right₀ (by norm_num) (by norm_num)
  exact sub_lt_sub_left powers _

-- The largest double is a whole number.
theorem roundHalfEven_finite (digits : Nat) {value : ℚ} (finite : |value| ≤ f64Max) :
    (roundHalfEven (|value| * 10^digits) : ℚ)/10^digits ≤ f64Max := by
  have power : (0 : ℚ) < 10^digits := by positivity
  have whole : f64Max * 10^digits = ((2^1024-2^971 : Int)*10^digits : Int) := by
    simp only [f64Max,Int.cast_mul,Int.cast_sub,Int.cast_pow,Int.cast_ofNat]
  rw [div_le_iff₀ power,whole]
  have below : |value| * 10^digits ≤ ((2^1024-2^971 : Int)*10^digits : Int) := by
    rw [←whole]
    exact mul_le_mul_of_nonneg_right finite power.le
  exact Int.cast_le.mpr (roundHalfEven_le below)

theorem parse_displayFixed {digits : Nat} (nonzero : digits ≠ 0) {value : ℚ} (finite : |value| ≤ f64Max) :
    parseF64 (displayFixed digits value) = .ok (some (roundFixed digits value)) := by
  have nonneg : 0 ≤ roundHalfEven (|value| * 10^digits) := roundHalfEven_nonneg (by positivity)
  have scaled : (((roundHalfEven (|value| * 10^digits)).toNat : Nat) : ℚ) = (roundHalfEven (|value| * 10^digits) : ℚ) := by
    exact_mod_cast Int.toNat_of_nonneg nonneg
  have small := lt_of_le_of_lt (roundHalfEven_finite digits finite) f64Max_lt
  rw [←scaled] at small
  have shown := displayFixed_toList nonzero value
  rw [parseF64_decimal nonzero (decide (value < 0)) (by simpa using shown) small,scaled]
  simp [roundFixed]

end Wire
