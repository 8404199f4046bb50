import Mathlib.Algebra.Order.Field.Rat
import Mathlib.Tactic.NormNum

-- A finite double is read as a rational. There is a second zero, and a division of doubles
-- always comes to something.
inductive Double where
  | number (value : ℚ)
  | minusZero
  deriving DecidableEq

namespace Double

def value : Double → ℚ
  | number value => value
  | minusZero => 0

def negative : Double → Bool
  | number value => value < 0
  | minusZero => true

-- A number whose sign is given on its own, as it counts for a zero alone.
def signed (minus : Bool) (value : ℚ) : Double := if minus = true ∧ value = 0 then minusZero else number value

@[simp] theorem value_signed (minus : Bool) (value : ℚ) : (signed minus value).value = value := by
  unfold signed
  split
  · rename_i zero
    exact zero.2.symm
  · rfl

theorem number_value {double : Double} (plain : double ≠ minusZero) : number double.value = double := by
  cases double with
  | number value => rfl
  | minusZero => exact absurd rfl plain

-- From here on a number rounds to an infinity.
@[irreducible] def limit : ℚ := 2^1024-2^970

theorem limit_pos : 0 < limit := by
  unfold limit
  exact sub_pos.mpr (pow_lt_pow_right₀ (by norm_num) (by norm_num))

-- What a division comes to: by a zero, an infinity or NaN.
inductive Quotient where
  | finite (value : ℚ)
  | infinite (negative : Bool)
  | nan

def div (dividend divisor : Double) : Quotient :=
  if divisor.value ≠ 0 then .finite (dividend.value/divisor.value)
  else if dividend.value = 0 then .nan
  else .infinite (dividend.negative != divisor.negative)

-- `clamp` takes an infinity to the end on its side and leaves NaN as it is.
def Quotient.clamp (quotient : Quotient) (low high : ℚ) : Option ℚ :=
  match quotient with
  | finite value => some (if value < low then low else if high < value then high else value)
  | infinite negative => some (if negative then low else high)
  | nan => none

theorem div_finite {dividend divisor : Double} (nonzero : divisor.value ≠ 0) :
    dividend.div divisor = .finite (dividend.value/divisor.value) := if_pos nonzero

end Double
