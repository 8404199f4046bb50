import Mathlib.Data.Nat.Bitwise
namespace Wire

-- The bits of a row of bytes, the lowest bit of each byte first.
def bit (bytes : List UInt8) (index : Nat) : Bool := (bytes.getD (index/8) 0).toNat.testBit (index%8)

-- A byte with one bit.
def mask (index : Nat) : UInt8 := 1 <<< UInt8.ofNat index

theorem mask_testBit {index : Nat} (inside : index < 8) (other : Nat) :
    (mask index).toNat.testBit other = decide (index = other) := by
  have power : (mask index).toNat = 2^index := by
    revert index
    decide
  rw [power,Nat.testBit_two_pow]

theorem bit_beyond {bytes : List UInt8} {index : Nat} (beyond : 8*bytes.length ≤ index) : bit bytes index = false := by
  unfold bit
  rw [List.getD_eq_default _ _ (by omega)]
  exact Nat.zero_testBit _

@[simp] theorem bit_zeros (count index : Nat) : bit (List.replicate count 0) index = false := by
  unfold bit
  by_cases inside : index/8 < count
  · rw [List.getD_replicate _ inside]
    exact Nat.zero_testBit _
  · rw [List.getD_eq_default _ _ (by simpa using inside)]
    exact Nat.zero_testBit _

theorem byte_ext {one other : UInt8} (same : ∀ index < 8, one.toNat.testBit index = other.toNat.testBit index) :
    one = other := by
  apply UInt8.toNat_inj.mp
  apply Nat.eq_of_testBit_eq
  intro index
  by_cases inside : index < 8
  · exact same index inside
  · have wide : 2^8 ≤ 2^index := Nat.pow_le_pow_right (by omega) (by omega)
    have first := one.toNat_lt
    have second := other.toNat_lt
    rw [Nat.testBit_lt_two_pow (by omega),Nat.testBit_lt_two_pow (by omega)]

-- Rows of the same length with the same bits.
theorem bytes_ext {one other : List UInt8} (length : one.length = other.length)
    (same : ∀ index, bit one index = bit other index) : one = other := by
  apply List.ext_getElem length
  intro position first second
  apply byte_ext
  intro index inside
  have here := same (8*position+index)
  have whole : (8*position+index)/8 = position := by omega
  have rest : (8*position+index)%8 = index := by omega
  unfold bit at here
  rw [whole,rest,List.getD_eq_getElem _ _ first,List.getD_eq_getElem _ _ second] at here
  exact here

-- One bit is put in, all others stay.
theorem bit_set {bytes : List UInt8} {index : Nat} (inside : index/8 < bytes.length) (other : Nat) :
    bit (bytes.set (index/8) (bytes[index/8] ||| mask (index%8))) other = (decide (other = index) || bit bytes other) := by
  unfold bit
  by_cases here : other/8 = index/8
  · have lower : other%8 < 8 := Nat.mod_lt _ (by omega)
    rw [here,List.getD_eq_getElem _ _ (by simpa using inside),List.getElem_set_self,UInt8.toNat_or,Nat.testBit_or,
      mask_testBit (Nat.mod_lt _ (by omega)),List.getD_eq_getElem _ _ inside,Bool.or_comm]
    congr 1
    rw [decide_eq_decide]
    omega
  · have apart : other ≠ index := by
      rintro rfl
      exact here rfl
    rw [List.getD_eq_getElem?_getD,List.getD_eq_getElem?_getD,List.getElem?_set_ne (Ne.symm here)]
    simp [apart]

end Wire
