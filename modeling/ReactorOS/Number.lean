import Mathlib.Data.Rat.Floor
namespace ReactorOS

-- Measurements and targets are finite doubles; the model reads them as exact rationals.
def roundHalfAway (value : ℚ) : Int :=
  if 0 ≤ value then ⌊value+1/2⌋ else -⌊-value+1/2⌋

-- The source multiplies doubles: one that is written as x.xx5 may round the other way there.
def round2 (value : ℚ) : ℚ := roundHalfAway (value*100) / 100

def clamp (value lower upper : ℚ) : ℚ :=
  if value < lower then lower else if upper < value then upper else value

theorem clamp_between {value lower upper : ℚ} (ordered : lower ≤ upper) :
    lower ≤ clamp value lower upper ∧ clamp value lower upper ≤ upper := by
  unfold clamp
  split
  · exact ⟨le_rfl,ordered⟩
  · split
    · exact ⟨ordered,le_rfl⟩
    · rename_i above below
      exact ⟨not_lt.mp above,not_lt.mp below⟩

theorem clamp_self {value lower upper : ℚ} (above : lower ≤ value) (below : value ≤ upper) :
    clamp value lower upper = value := by
  unfold clamp
  rw [if_neg (not_lt.mpr above),if_neg (not_lt.mpr below)]

theorem le_clamp {value low high bound : ℚ} (le : bound ≤ value) (most : bound ≤ high) : bound ≤ clamp value low high := by
  unfold clamp
  split
  · linarith
  · split
    · exact most
    · exact le

theorem clamp_le {value low high bound : ℚ} (le : value ≤ bound) (least : low ≤ bound) : clamp value low high ≤ bound := by
  unfold clamp
  split
  · exact least
  · split
    · linarith
    · exact le

-- `as i64` saturates.
def saturateI64 (value : Int) : Int := max (-9223372036854775808) (min value 9223372036854775807)

def scaled (value : ℚ) : Int := saturateI64 (roundHalfAway (value*100))

def u64Max : Nat := 18446744073709551615

-- A `u64` counter that stays at its maximum once it is there.
abbrev Generation := Fin (u64Max+1)

def Generation.saturatingAdd (value : Generation) (count : Nat) : Generation :=
  ⟨min (value.val+count) u64Max,by omega⟩

theorem Generation.le_saturatingAdd (value : Generation) (count : Nat) : value ≤ value.saturatingAdd count := by
  have bound := value.isLt
  simp only [Fin.le_def,saturatingAdd]
  omega

theorem Generation.lt_saturatingAdd {value : Generation} {count : Nat} (room : value.val < u64Max)
    (positive : 0 < count) : value < value.saturatingAdd count := by
  simp only [Fin.lt_def,saturatingAdd]
  omega

-- Decimal display of a double, at most seventeen digits after the point.
def decimals (den : Nat) : Nat → Nat → List Char
  | 0,_ => []
  | _,0 => []
  | fuel+1,rest => Nat.digitChar (rest*10/den) :: decimals den fuel (rest*10%den)

def display (value : ℚ) : String :=
  let whole := value.num.natAbs / value.den
  let fraction := decimals value.den 17 (value.num.natAbs % value.den)
  (if value < 0 then "-" else "") ++ toString whole ++
    (if fraction.isEmpty then "" else "." ++ String.ofList fraction)

-- `{:.n}` rounds to even at a tie.
def roundHalfEven (value : ℚ) : Int :=
  let low := ⌊value⌋
  if value-low < 1/2 then low
  else if 1/2 < value-low then low+1
  else if low % 2 = 0 then low else low+1

def displayFixed (digits : Nat) (value : ℚ) : String :=
  let scaled := roundHalfEven (|value| * 10^digits)
  let whole := scaled.toNat / 10^digits
  let rest := toString (scaled.toNat % 10^digits)
  (if value < 0 then "-" else "") ++ toString whole ++
    (if digits = 0 then "" else "." ++ String.ofList (List.replicate (digits-rest.length) '0') ++ rest)

-- The `{:?}` of an optional number and of a list of numbers.
def debugOption : Option Int → String
  | none => "None"
  | some value => s!"Some({value})"

def debugList (values : List Int) : String := "[" ++ ", ".intercalate (values.map toString) ++ "]"

end ReactorOS
