import Mathlib.Algebra.Order.Field.Rat
import Mathlib.Algebra.Order.Floor.Defs
import Mathlib.Data.Rat.Floor
import Mathlib.Tactic.Linarith
namespace Chance

-- What a generator hands out, before it is scaled to a range.
structure Draw where
  value : ℚ
  nonneg : 0 ≤ value
  le_one : value ≤ 1

abbrev Draws := Nat → Draw

-- A computation that takes its draws from the front of the sequence.
abbrev Random (α : Type) := StateM Draws α

variable {α β : Type} {draws : Draws}

def drawn : Random Draw := fun draws => (draws 0,fun n => draws (n+1))

-- `gen_range(low..=high)`
def uniform (low high : ℚ) : Random ℚ := do
  let draw ← drawn
  return low + (high-low)*draw.value

-- `gen_range(0..count)`
def index (count : Nat) : Random Nat := do
  let draw ← drawn
  return min (draw.value*count).floor.toNat (count-1)

-- `gen_bool(probability)`
def bool (probability : ℚ) : Random Bool := do
  let draw ← drawn
  return decide (draw.value < probability) || decide (1 ≤ probability)

def pick [Inhabited α] (items : List α) : Random α := do
  let place ← index items.length
  return items.getD place default

def repeated : Nat → (α → Random α) → α → Random α
  | 0,_,state => pure state
  | count+1,step,state => do
      let next ← step state
      repeated count step next

theorem repeated_zero (step : α → Random α) (state : α) : repeated 0 step state = pure state := rfl

theorem repeated_succ (count : Nat) (step : α → Random α) (state : α) :
    repeated (count+1) step state = step state >>= repeated count step := rfl

-- A proof goes by these two, not by running the loop.
attribute [irreducible] repeated

-- What holds of the result whatever is drawn.
def Always (run : Random α) (holds : α → Prop) : Prop := ∀ draws, holds (run draws).1

section Always
variable {run : Random α} {step : α → Random β} {holds also : α → Prop} {after : β → Prop}

theorem Always.pure {value : α} (now : holds value) : Always (pure value) holds := fun _ => now

theorem Always.any : Always run fun _ => True := fun _ => trivial

theorem Always.mono (always : Always run holds) (weaker : ∀ value, holds value → also value) : Always run also :=
  fun draws => weaker _ (always draws)

theorem Always.bind (first : Always run holds) (next : ∀ value, holds value → Always (step value) after) :
    Always (run >>= step) after := fun draws => next _ (first draws) _

-- What holds for some draws and is kept from there on.
theorem bind_then (now : holds (run draws).1) (next : ∀ value, holds value → Always (step value) after) :
    after ((run >>= step) draws).1 := next _ now _

theorem Always.ite {condition : Prop} [Decidable condition] {other : Random α}
    (yes : condition → Always run holds) (no : ¬condition → Always other holds) :
    Always (if condition then run else other) holds := by
  split
  · exact yes ‹_›
  · exact no ‹_›

theorem Always.repeated {step : α → Random α} (keeps : ∀ value, holds value → Always (step value) holds) (count : Nat) :
    ∀ {value}, holds value → Always (repeated count step value) holds := by
  induction count with
  | zero =>
      intro value now
      rw [repeated_zero]
      exact .pure now
  | succ count ih =>
      intro value now
      rw [repeated_succ]
      exact .bind (keeps value now) fun next kept => ih kept

theorem uniform_always {low high : ℚ} (ordered : low ≤ high) :
    Always (uniform low high) fun value => low ≤ value ∧ value ≤ high := by
  intro draws
  have width : 0 ≤ high-low := sub_nonneg.mpr ordered
  have least : 0 ≤ (high-low)*(draws 0).value := mul_nonneg width (draws 0).nonneg
  have most : (high-low)*(draws 0).value ≤ (high-low)*1 := mul_le_mul_of_nonneg_left (draws 0).le_one width
  change low ≤ low + (high-low)*(draws 0).value ∧ low + (high-low)*(draws 0).value ≤ high
  constructor <;> linarith

theorem index_always (count : Nat) (positive : 0 < count) : Always (index count) (· < count) := by
  intro draws
  change min _ (count-1) < count
  omega

theorem pick_always [Inhabited α] {items : List α} (nonempty : items ≠ []) : Always (pick items) (· ∈ items) := by
  refine .bind (index_always _ (List.length_pos_of_ne_nil nonempty)) fun place inside => .pure ?_
  rw [List.getD_eq_getElem?_getD,List.getElem?_eq_getElem inside]
  exact List.getElem_mem inside

end Always

-- The sequence whose every draw is the middle one, which leaves itself behind.
def middle : Draws := fun _ => ⟨1/2,by norm_num,by norm_num⟩

-- What a run can give, whatever there is to be drawn after it.
def Possible (run : Random α) (holds : α → Prop) : Prop := ∃ value, holds value ∧ ∀ rest, ∃ draws, run draws = (value,rest)

section Possible
variable {run : Random α} {step : α → Random β} {holds also : α → Prop} {after : β → Prop}

theorem Possible.pure {value : α} (now : holds value) : Possible (pure value) holds := ⟨value,now,fun rest => ⟨rest,rfl⟩⟩

theorem Possible.exists (possible : Possible run holds) : ∃ draws, holds (run draws).1 := by
  obtain ⟨value,given,reached⟩ := possible
  obtain ⟨draws,same⟩ := reached middle
  exact ⟨draws,by rwa [same]⟩

theorem Possible.mono (possible : Possible run holds) (weaker : ∀ value, holds value → also value) : Possible run also := by
  obtain ⟨value,given,reached⟩ := possible
  exact ⟨value,weaker value given,reached⟩

-- The draws of the first run are put in front of the others.
theorem Possible.bind (first : Possible run holds) (next : ∀ value, holds value → Possible (step value) after) :
    Possible (run >>= step) after := by
  obtain ⟨value,given,reached⟩ := first
  obtain ⟨last,ends,continued⟩ := next value given
  refine ⟨last,ends,fun rest => ?_⟩
  obtain ⟨later,same⟩ := continued rest
  obtain ⟨draws,before⟩ := reached later
  refine ⟨draws,?_⟩
  change step (run draws).1 (run draws).2 = _
  rw [before]
  exact same

theorem Possible.ite {condition : Prop} [Decidable condition] {other : Random α}
    (yes : condition → Possible run holds) (no : ¬condition → Possible other holds) :
    Possible (if condition then run else other) holds := by
  split
  · exact yes ‹_›
  · exact no ‹_›

theorem Possible.repeated {step : α → Random α} (keeps : ∀ value, holds value → Possible (step value) holds) (count : Nat) :
    ∀ {value}, holds value → Possible (repeated count step value) holds := by
  induction count with
  | zero =>
      intro value now
      rw [repeated_zero]
      exact .pure now
  | succ count ih =>
      intro value now
      rw [repeated_succ]
      exact .bind (keeps value now) fun next kept => ih kept

theorem drawn_possible (draw : Draw) : Possible drawn (· = draw) := by
  refine ⟨draw,rfl,fun rest => ⟨fun n => n.casesOn draw rest,rfl⟩⟩

theorem uniform_possible {low high value : ℚ} (above : low ≤ value) (below : value ≤ high) :
    Possible (uniform low high) (· = value) := by
  let draw : Draw :=
    ⟨(value-low)/(high-low),div_nonneg (by linarith) (by linarith),div_le_one_of_le₀ (by linarith) (by linarith)⟩
  refine .bind (drawn_possible draw) fun given same => .pure ?_
  subst same
  change low + (high-low)*((value-low)/(high-low)) = value
  by_cases wide : high-low = 0
  · rw [wide,zero_mul]
    linarith
  · rw [mul_div_cancel₀ _ wide]
    ring

theorem index_possible (count : Nat) : Possible (index count) fun _ => True :=
  .bind (drawn_possible (middle 0)) fun _ _ => .pure trivial

theorem pick_possible [Inhabited α] (items : List α) : Possible (pick items) fun _ => True :=
  .bind (index_possible _) fun _ _ => .pure trivial

end Possible

-- What a run gives for a sequence that it leaves behind as it found it.
def Recurs (draws : Draws) (run : Random α) (holds : α → Prop) : Prop := holds (run draws).1 ∧ (run draws).2 = draws

section Recurs
variable {run : Random α} {step : α → Random β} {holds also : α → Prop} {after : β → Prop}

theorem Recurs.pure {value : α} (now : holds value) : Recurs draws (pure value) holds := ⟨now,rfl⟩

theorem Recurs.mono (recurs : Recurs draws run holds) (weaker : ∀ value, holds value → also value) :
    Recurs draws run also := ⟨weaker _ recurs.1,recurs.2⟩

theorem Recurs.bind (first : Recurs draws run holds) (next : ∀ value, holds value → Recurs draws (step value) after) :
    Recurs draws (run >>= step) after := by
  obtain ⟨now,rest⟩ := first
  have following := next _ now
  unfold Recurs at following ⊢
  change after (step (run draws).1 (run draws).2).1 ∧ (step (run draws).1 (run draws).2).2 = draws
  rw [rest]
  exact following

theorem Recurs.repeated {step : α → Random α} (keeps : ∀ value, holds value → Recurs draws (step value) holds)
    (count : Nat) : ∀ {value}, holds value → Recurs draws (repeated count step value) holds := by
  induction count with
  | zero =>
      intro value now
      rw [repeated_zero]
      exact .pure now
  | succ count ih =>
      intro value now
      rw [repeated_succ]
      exact .bind (keeps value now) fun next kept => ih kept

end Recurs

def Midway (run : Random α) (holds : α → Prop) : Prop := holds (run middle).1 ∧ (run middle).2 = middle

section Midway
variable {run : Random α} {step : α → Random β} {holds also : α → Prop} {after : β → Prop}

theorem Midway.pure {value : α} (now : holds value) : Midway (pure value) holds := ⟨now,rfl⟩

theorem Midway.mono (midway : Midway run holds) (weaker : ∀ value, holds value → also value) : Midway run also :=
  Recurs.mono midway weaker

theorem Midway.bind (first : Midway run holds) (next : ∀ value, holds value → Midway (step value) after) :
    Midway (run >>= step) after := Recurs.bind first next

theorem Midway.repeated {step : α → Random α} (keeps : ∀ value, holds value → Midway (step value) holds) (count : Nat) :
    ∀ {value}, holds value → Midway (repeated count step value) holds := Recurs.repeated keeps count

theorem uniform_midway (low high : ℚ) : Midway (uniform low high) (· = (low+high)/2) := by
  refine ⟨?_,rfl⟩
  change low + (high-low)*(1/2) = (low+high)/2
  ring

theorem pick_midway [Inhabited α] {items : List α} (nonempty : items ≠ []) : Midway (pick items) (· ∈ items) :=
  ⟨pick_always nonempty middle,rfl⟩

end Midway

end Chance
