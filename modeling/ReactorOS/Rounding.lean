import ReactorOS.Number
import Mathlib.Tactic.Linarith
import Mathlib.Tactic.Positivity
namespace ReactorOS

-- Half away from zero is the same on both sides of it.
theorem roundHalfAway_neg (value : ℚ) : roundHalfAway (-value) = -roundHalfAway value := by
  unfold roundHalfAway
  rcases lt_trichotomy value 0 with below | zero | above
  · rw [if_pos (by linarith),if_neg (by linarith)]
    simp
  · subst zero
    norm_num
  · rw [if_neg (by linarith),if_pos (by linarith)]
    simp

-- A tie goes up where it is above zero.
theorem roundHalfAway_le (value : ℚ) (n : Int) :
    roundHalfAway value ≤ n ↔ if n < 0 then value ≤ n+1/2 else value < n+1/2 := by
  unfold roundHalfAway
  by_cases sign : 0 ≤ value
  · rw [if_pos sign]
    by_cases negative : n < 0
    · have small : (n:ℚ) ≤ -1 := by exact_mod_cast (by omega : n ≤ -1)
      have floor : (0:Int) ≤ ⌊value+1/2⌋ := Int.floor_nonneg.mpr (by linarith)
      rw [if_pos negative]
      constructor
      · intro bound
        omega
      · intro bound
        linarith
    · rw [if_neg negative,← Int.lt_add_one_iff,Int.floor_lt]
      push_cast
      constructor <;> intro bound <;> linarith
  · have low : value < 0 := not_le.mp sign
    rw [if_neg sign]
    by_cases negative : n < 0
    · rw [if_pos negative,neg_le,Int.le_floor]
      push_cast
      constructor <;> intro bound <;> linarith
    · have large : (0:ℚ) ≤ n := by exact_mod_cast not_lt.mp negative
      have floor : (0:Int) ≤ ⌊-value+1/2⌋ := Int.floor_nonneg.mpr (by linarith)
      rw [if_neg negative]
      constructor
      · intro _
        linarith
      · intro _
        omega

theorem le_roundHalfAway (value : ℚ) (n : Int) :
    n ≤ roundHalfAway value ↔ if 0 < n then (n:ℚ)-1/2 ≤ value else (n:ℚ)-1/2 < value := by
  have mirrored := roundHalfAway_le (-value) (-n)
  rw [roundHalfAway_neg,neg_le_neg_iff] at mirrored
  rw [mirrored]
  by_cases positive : 0 < n
  · rw [if_pos (by omega),if_pos positive]
    push_cast
    constructor <;> intro bound <;> linarith
  · rw [if_neg (by omega),if_neg positive]
    push_cast
    constructor <;> intro bound <;> linarith

theorem roundHalfAway_mono {low high : ℚ} (ordered : low ≤ high) : roundHalfAway low ≤ roundHalfAway high := by
  rw [roundHalfAway_le]
  have reached := (roundHalfAway_le high (roundHalfAway high)).mp le_rfl
  split
  · rename_i negative
    rw [if_pos negative] at reached
    exact ordered.trans reached
  · rename_i positive
    rw [if_neg positive] at reached
    exact ordered.trans_lt reached

theorem roundHalfAway_int (n : Int) : roundHalfAway n = n := by
  apply le_antisymm
  · rw [roundHalfAway_le]
    split <;> linarith
  · rw [le_roundHalfAway]
    split <;> linarith

-- How far a natural number may be moved before it rounds to another one.
theorem roundHalfAway_add (n : Nat) (moved : ℚ) :
    roundHalfAway (n + moved) = n ↔ (if n = 0 then -1/2 < moved else -1/2 ≤ moved) ∧ moved < 1/2 := by
  have high := roundHalfAway_le (n + moved) n
  have low := le_roundHalfAway (n + moved) n
  rw [if_neg (by omega),Int.cast_natCast] at high
  rw [Int.cast_natCast] at low
  rw [le_antisymm_iff,high,low]
  by_cases zero : n = 0
  · rw [if_neg (by omega),if_pos zero]
    constructor <;> intro ⟨one,other⟩ <;> constructor <;> linarith
  · rw [if_pos (by omega),if_neg zero]
    constructor <;> intro ⟨one,other⟩ <;> constructor <;> linarith

theorem round2_mono {low high : ℚ} (ordered : low ≤ high) : round2 low ≤ round2 high := by
  unfold round2
  have counted : (roundHalfAway (low*100) : ℚ) ≤ roundHalfAway (high*100) := by
    exact_mod_cast roundHalfAway_mono (by linarith)
  linarith

theorem round2_hundredth (n : Int) : round2 (n/100) = n/100 := by
  unfold round2
  rw [div_mul_cancel₀ _ (by norm_num),roundHalfAway_int]

theorem round2_whole (n : Int) : round2 n = n := by
  have hundredths : ((n*100 : Int):ℚ)/100 = n := by
    push_cast
    exact mul_div_cancel_right₀ _ (by norm_num)
  rw [← hundredths,round2_hundredth]

@[simp] theorem round2_round2 (value : ℚ) : round2 (round2 value) = round2 value := round2_hundredth _

theorem roundHalfAway_near (value : ℚ) : |(roundHalfAway value : ℚ) - value| ≤ 1/2 := by
  have high := (roundHalfAway_le value (roundHalfAway value)).mp le_rfl
  have low := (le_roundHalfAway value (roundHalfAway value)).mp le_rfl
  rw [abs_le]
  constructor
  · split at high <;> linarith
  · split at low <;> linarith

theorem round2_near (value : ℚ) : |round2 value - value| ≤ 1/200 := by
  have near := abs_le.mp (roundHalfAway_near (value*100))
  unfold round2
  rw [abs_le]
  constructor <;> linarith

-- What comes to no less than a bound once it is rounded to hundredths, and to no more.
def RoundsFrom (bound value : ℚ) : Prop :=
  let least := ⌈bound*100⌉
  if 0 < least then (least:ℚ)-1/2 ≤ value*100 else (least:ℚ)-1/2 < value*100

def RoundsTo (bound value : ℚ) : Prop :=
  let most := ⌊bound*100⌋
  if most < 0 then value*100 ≤ most+1/2 else value*100 < most+1/2

theorem le_round2 {bound value : ℚ} : bound ≤ round2 value ↔ RoundsFrom bound value := by
  unfold RoundsFrom round2
  rw [← le_roundHalfAway,Int.ceil_le,le_div_iff₀ (by norm_num)]

theorem round2_le {bound value : ℚ} : round2 value ≤ bound ↔ RoundsTo bound value := by
  unfold RoundsTo round2
  rw [← roundHalfAway_le,Int.le_floor,div_le_iff₀ (by norm_num)]

theorem round2_max (one other : ℚ) : round2 (max one other) = max (round2 one) (round2 other) := by
  rcases le_total one other with below | above
  · rw [max_eq_right below,max_eq_right (round2_mono below)]
  · rw [max_eq_left above,max_eq_left (round2_mono above)]

theorem round2_sub_int (value : ℚ) (n : Int) : round2 (round2 value - n) = round2 value - n := by
  have moved : round2 value - n = (roundHalfAway (value*100) - n*100 : Int)/100 := by
    unfold round2
    push_cast
    ring
  rw [moved,round2_hundredth]

-- A bound on hundredths is kept.
theorem round2_le_of_le {value bound : ℚ} (hundredth : round2 bound = bound) (le : value ≤ bound) : round2 value ≤ bound := by
  rw [← hundredth]
  exact round2_mono le

theorem le_round2_of_le {value bound : ℚ} (hundredth : round2 bound = bound) (le : bound ≤ value) : bound ≤ round2 value := by
  rw [← hundredth]
  exact round2_mono le

end ReactorOS
