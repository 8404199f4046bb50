import Mathlib.Data.List.Chain
import Mathlib.Data.Nat.Basic
namespace Concurrency.Ticker

-- Work that a loop does again once a period has passed since it last did. A pass looks at
-- the clock once to decide, and again to keep the time at which it has done the work.
section
variable {P : Type} (looked kept : P → Nat)

def due (period : Nat) : Nat → List P → List P
  | _,[] => []
  | last,p :: passes => if last + period ≤ looked p then p :: due period (kept p) passes else due period last passes

-- The same by a counter that starts over at the modulus, with an unsigned difference.
def elapsed (modulus now last : Nat) : Nat := (now + (modulus-last)) % modulus

def dueWrapped (modulus period : Nat) : Nat → List P → List P
  | _,[] => []
  | last,p :: passes =>
      if period ≤ elapsed modulus (looked p % modulus) last then
        p :: dueWrapped modulus period (kept p % modulus) passes
      else dueWrapped modulus period last passes

-- The clock does not go back from one look at it to the next.
def InOrder : Nat → List P → Prop
  | _,[] => True
  | now,p :: passes => now ≤ looked p ∧ looked p ≤ kept p ∧ InOrder (kept p) passes

-- Nor does it go on by more than the gap from one decision to the next.
def Close (gap : Nat) : Nat → List P → Prop
  | _,[] => True
  | now,p :: passes => looked p < now + gap ∧ Close gap (looked p) passes

theorem elapsed_mod {modulus now last : Nat} (positive : 0 < modulus) (order : last ≤ now) :
    elapsed modulus (now % modulus) (last % modulus) = (now-last) % modulus := by
  obtain ⟨span,rfl⟩ := Nat.exists_eq_add_of_le order
  have short : last % modulus ≤ modulus := (Nat.mod_lt last positive).le
  have parts := Nat.div_add_mod last modulus
  have whole : last + span + (modulus - last % modulus) = span + modulus * (last/modulus + 1) := by
    rw [Nat.mul_add,Nat.mul_one]
    omega
  calc elapsed modulus ((last+span) % modulus) (last % modulus)
      = (last+span+(modulus - last % modulus)) % modulus := by
        rw [elapsed,Nat.mod_add_mod]
    _ = (span + modulus * (last/modulus + 1)) % modulus := by rw [whole]
    _ = span % modulus := Nat.add_mul_mod_self_left _ _ _
    _ = (last+span-last) % modulus := by rw [Nat.add_sub_cancel_left]

variable {looked kept} {modulus period now last gap : Nat} {passes : List P}

theorem InOrder.mono (order : InOrder looked kept now passes) (earlier : last ≤ now) : InOrder looked kept last passes := by
  cases passes with
  | nil => trivial
  | cons p passes => exact ⟨earlier.trans order.1,order.2⟩

-- A wrapped clock may be late with the work, but it is never early.
theorem dueWrapped_spaced (positive : 0 < modulus) (order : InOrder looked kept last passes) :
    ((dueWrapped looked kept modulus period (last % modulus) passes)).IsChain (fun p q => kept p + period ≤ looked q) ∧
      ∀ p ∈ (dueWrapped looked kept modulus period (last % modulus) passes).head?, last + period ≤ looked p := by
  induction passes generalizing last with
  | nil => exact ⟨List.isChain_nil,fun _ listed => nomatch listed⟩
  | cons p passes ih =>
      obtain ⟨since,keeps,order⟩ := order
      rw [dueWrapped,elapsed_mod positive since]
      by_cases now : period ≤ (looked p - last) % modulus
      · rw [if_pos now]
        obtain ⟨chain,first⟩ := ih order
        refine ⟨List.isChain_cons.mpr ⟨first,chain⟩,?_⟩
        intro q same
        cases same
        have reached : (looked p - last) % modulus ≤ looked p - last := Nat.mod_le _ _
        omega
      · rw [if_neg now]
        exact ih (order.mono (since.trans keeps))

-- With passes close together the two clocks agree.
theorem dueWrapped_due (positive : 0 < period) (fits : period + gap ≤ modulus) (order : InOrder looked kept last passes)
    (recent : now < last + period) (near : Close looked gap now passes) :
    dueWrapped looked kept modulus period (last % modulus) passes = due looked kept period last passes := by
  induction passes generalizing last now with
  | nil => rfl
  | cons p passes ih =>
      obtain ⟨since,keeps,order⟩ := order
      obtain ⟨soon,near⟩ := near
      have span : looked p - last < modulus := by omega
      rw [dueWrapped,elapsed_mod (by omega) since,Nat.mod_eq_of_lt span,due]
      by_cases done : last + period ≤ looked p
      · rw [if_pos done,if_pos (by omega),ih order (by omega) near]
      · rw [if_neg done,if_neg (by omega)]
        exact ih (order.mono (since.trans keeps)) (by omega) near

end
end Concurrency.Ticker
