import Mathlib.Algebra.Ring.Nat
import Mathlib.Data.List.Lex
namespace Wire

-- Texts compare byte by byte, and a text that goes on comes after.
theorem append_lt_append {one other rest tail : List UInt8} (same : one.length = other.length) :
    one ++ rest < other ++ tail ↔ one < other ∨ one = other ∧ rest < tail := by
  induction one generalizing other with
  | nil =>
      obtain rfl := List.length_eq_zero_iff.mp same.symm
      simp
  | cons byte one ih =>
      cases other with
      | nil => cases same
      | cons first other =>
          have longer := ih (Nat.succ.inj same)
          simp only [List.cons_append,List.cons_lt_cons_iff,longer,List.cons.injEq]
          tauto

theorem cons_lt_cons_same {byte : UInt8} {rest tail : List UInt8} : byte :: rest < byte :: tail ↔ rest < tail := by
  simp

def ascii (text : String) : List UInt8 := text.toList.map fun ch => UInt8.ofNat ch.toNat

def digit (number : Nat) : UInt8 := UInt8.ofNat (48 + number%10)

def decimal : Nat → Nat → List UInt8
  | 0,_ => []
  | width+1,number => decimal width (number/10) ++ [digit number]

@[simp] theorem decimal_length (width number : Nat) : (decimal width number).length = width := by
  induction width generalizing number with
  | zero => rfl
  | succ width ih => rw [decimal,List.length_append,ih]; rfl

theorem digit_toNat (number : Nat) : (digit number).toNat = 48 + number%10 := by
  rw [digit,UInt8.toNat_ofNat']
  omega

theorem digit_lt {one other : Nat} : digit one < digit other ↔ one%10 < other%10 := by
  rw [UInt8.lt_iff_toNat_lt,digit_toNat,digit_toNat]
  omega

theorem digit_inj {one other : Nat} : digit one = digit other ↔ one%10 = other%10 := by
  rw [← UInt8.toNat_inj,digit_toNat,digit_toNat]
  omega

theorem decimal_inj {width one other : Nat} (fits : one < 10^width) (also : other < 10^width) :
    decimal width one = decimal width other ↔ one = other := by
  constructor
  · intro same
    induction width generalizing one other with
    | zero => omega
    | succ width ih =>
        rw [Nat.pow_succ] at fits also
        obtain ⟨front,last⟩ := List.append_inj same (by simp)
        have high := ih (by omega) (by omega) front
        have low := digit_inj.mp (List.cons.inj last).1
        omega
  · rintro rfl
    rfl

theorem decimal_lt {width one other : Nat} (fits : one < 10^width) (also : other < 10^width) :
    decimal width one < decimal width other ↔ one < other := by
  induction width generalizing one other with
  | zero => simp [decimal]; omega
  | succ width ih =>
      rw [Nat.pow_succ] at fits also
      rw [decimal,decimal,append_lt_append (by simp),ih (by omega) (by omega),decimal_inj (by omega) (by omega),
        List.cons_lt_cons_iff,digit_lt]
      simp only [List.not_lt_nil,and_false,or_false]
      omega

-- A field of fixed width decides, or what comes after it.
theorem field_lt {width one other : Nat} {rest tail : List UInt8} (fits : one < 10^width) (also : other < 10^width) :
    decimal width one ++ rest < decimal width other ++ tail ↔ one < other ∨ one = other ∧ rest < tail := by
  rw [append_lt_append (by simp),decimal_lt fits also,decimal_inj fits also]

theorem decimal_add (front back number : Nat) :
    decimal (front+back) number = decimal front (number/10^back) ++ decimal back number := by
  induction back generalizing number with
  | zero => simp [decimal]
  | succ back ih =>
      rw [← Nat.add_assoc,decimal,decimal,ih,List.append_assoc,Nat.div_div_eq_div_mul,Nat.pow_succ,Nat.mul_comm 10]

theorem decimal_mod (width number : Nat) : decimal width (number%10^width) = decimal width number := by
  induction width generalizing number with
  | zero => rfl
  | succ width ih =>
      have high : number%10^(width+1)/10 = number/10%10^width := by
        rw [Nat.pow_succ,Nat.mul_comm,Nat.mod_mul_right_div_self]
      have low : number%10^(width+1)%10 = number%10 := Nat.mod_mod_of_dvd _ (Nat.dvd_mul_left _ _)
      rw [decimal,decimal,high,ih,digit,digit,low]

theorem decimal_six (number : Nat) : decimal 6 number = decimal 3 (number/1000) ++ decimal 3 number := decimal_add 3 3 number

theorem decimal_nine (number : Nat) : decimal 9 number = decimal 3 (number/1000000) ++ decimal 6 number :=
  decimal_add 3 6 number

-- Groups of three digits up to the last that is not zero, and what ends the text.
def groups (ending : List UInt8) : List Nat → List UInt8
  | [] => ending
  | group :: rest =>
      if (group :: rest).all (· == 0) then ending else decimal 3 group ++ groups ending rest

theorem decimal_after {byte : UInt8} (early : byte < 48) {width : Nat} (wide : 0 < width) (number : Nat)
    (ending rest : List UInt8) : byte :: ending < decimal width number ++ rest := by
  induction width generalizing number rest with
  | zero => omega
  | succ width ih =>
      rw [decimal,List.append_assoc]
      by_cases last : width = 0
      · subst last
        have first : byte < digit number := by
          have bound := UInt8.lt_iff_toNat_lt.mp early
          rw [UInt8.lt_iff_toNat_lt,digit_toNat]
          exact Nat.lt_of_lt_of_le bound (Nat.le_add_right _ _)
        exact List.cons_lt_cons_iff.mpr (.inl first)
      · exact ih (by omega) _ _

theorem zeros_not_lt {zeros others : List Nat} (same : others.length = zeros.length)
    (zero : zeros.all (· == 0) = true) : ¬others < zeros := by
  induction zeros generalizing others with
  | nil =>
      obtain rfl := List.length_eq_zero_iff.mp same
      simp
  | cons first zeros ih =>
      cases others with
      | nil => simp at same
      | cons other others =>
          simp only [List.all_cons,Bool.and_eq_true,beq_iff_eq] at zero
          rw [List.cons_lt_cons_iff,zero.1]
          rintro (less | ⟨_,less⟩)
          · omega
          · exact ih (Nat.succ.inj same) zero.2 less

theorem zeros_lt {zeros others : List Nat} (same : zeros.length = others.length)
    (zero : zeros.all (· == 0) = true) (nonzero : others.all (· == 0) = false) : zeros < others := by
  induction zeros generalizing others with
  | nil =>
      obtain rfl := List.length_eq_zero_iff.mp same.symm
      cases nonzero
  | cons first zeros ih =>
      cases others with
      | nil => cases same
      | cons other others =>
          simp only [List.all_cons,Bool.and_eq_true,beq_iff_eq] at zero
          rw [List.cons_lt_cons_iff,zero.1]
          by_cases empty : other = 0
          · subst empty
            exact .inr ⟨rfl,ih (Nat.succ.inj same) zero.2 (by simpa using nonzero)⟩
          · exact .inl (by omega)

-- Zeros that are left out do not change the order, as the text ends with a byte before any digit.
theorem groups_lt {byte : UInt8} (early : byte < 48) (ending : List UInt8) {one other : List Nat}
    (same : one.length = other.length) (fits : ∀ group ∈ one, group < 1000) (also : ∀ group ∈ other, group < 1000) :
    groups (byte :: ending) one < groups (byte :: ending) other ↔ one < other := by
  induction one generalizing other with
  | nil =>
      obtain rfl := List.length_eq_zero_iff.mp same.symm
      simp [groups]
  | cons group one ih =>
      cases other with
      | nil => cases same
      | cons first other =>
          obtain ⟨groupFits,restFits⟩ := List.forall_mem_cons.mp fits
          obtain ⟨firstFits,otherFits⟩ := List.forall_mem_cons.mp also
          by_cases zero : (group :: one).all (· == 0) = true
          · by_cases blank : (first :: other).all (· == 0) = true
            · rw [groups,groups,if_pos zero,if_pos blank]
              exact ⟨fun less => (List.lt_irrefl _ less).elim,fun less => (zeros_not_lt same blank less).elim⟩
            · rw [groups,groups,if_pos zero,if_neg blank]
              exact ⟨fun _ => zeros_lt same zero (by simpa using blank),fun _ => decimal_after early (by omega) _ _ _⟩
          · by_cases blank : (first :: other).all (· == 0) = true
            · rw [groups,groups,if_neg zero,if_pos blank]
              constructor
              · intro less
                exact (List.lt_asymm less (decimal_after early (by omega) _ _ _)).elim
              · intro less
                exact (zeros_not_lt same blank less).elim
            · rw [groups,groups,if_neg zero,if_neg blank,field_lt groupFits firstFits,List.cons_lt_cons_iff,
                ih (Nat.succ.inj same) restFits otherFits]

end Wire
