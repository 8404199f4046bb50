import ReactorOS.Chance.Ranking
import ReactorOS.Chance.Draws
import ReactorOS.Double
namespace Chance

-- What a computation may ask for that stops it.
inductive Breach where
  | index | slice | emptyRange | rangeOverflow | probability | order | divisor | root | overflow
  deriving DecidableEq

abbrev Checked (α : Type) := Except Breach α

-- A random computation that ends at the first breach.
abbrev Guarded (α : Type) := StateT Draws (Except Breach) α

variable {α β : Type}

def require (holds : Prop) [Decidable holds] (breach : Breach) : Checked Unit := if holds then .ok () else .error breach

def quotient (dividend divisor : ℚ) : Checked ℚ := do
  require (0 < divisor) .divisor
  return dividend/divisor

-- `+` of two numbers of 64 bits.
def sum (one other : Nat) : Checked Nat := do
  require (one+other < 2^64) .overflow
  return one+other

-- `items[0]`
def first : List α → Checked α
  | [] => .error .index
  | item :: _ => .ok item

-- `&items[..count]`
def front (items : List α) (count : Nat) : Checked (List α) := do
  require (count ≤ items.length) .slice
  return items.take count

-- `sort_by`, the score of an item checked each time it is compared.
def sorted (score : α → Checked ℚ) (items : List α) : Checked (List α) := do
  let scored ← items.mapM fun item => return (item,← score item)
  return (ranked (·.2) scored).map (·.1)

def toss (run : Random α) : Guarded α := fun draws => .ok (run draws)

def genRange (low high : ℚ) : Guarded ℚ := do
  require (low ≤ high) .emptyRange
  toss (uniform low high)

-- `gen_range(low..high)`; that the end itself is not drawn is left open.
def genRangeTo (low high : ℚ) : Guarded ℚ := do
  require (low < high) .emptyRange
  require (high-low < Double.limit) .rangeOverflow
  toss (uniform low high)

def genBool (probability : ℚ) : Guarded Bool := do
  require (0 ≤ probability ∧ probability ≤ 1) .probability
  toss (bool probability)

-- `&items[rng.gen_range(0..items.len())]`
def choose [Inhabited α] (items : List α) : Guarded α := do
  require (0 < items.length) .emptyRange
  let place ← toss (index items.length)
  require (place < items.length) .index
  return items.getD place default

def loop : Nat → (α → Guarded α) → α → Guarded α
  | 0,_,state => pure state
  | count+1,step,state => do
      let next ← step state
      loop count step next

section Checked
variable {score : α → ℚ} {checked : α → Checked ℚ} {items : List α}

theorem require_ok {holds : Prop} [Decidable holds] {breach : Breach} (now : holds) : require holds breach = .ok () :=
  if_pos now

theorem quotient_ok {dividend divisor : ℚ} (above : 0 < divisor) : quotient dividend divisor = .ok (dividend/divisor) := by
  rw [quotient,require_ok above]
  rfl

theorem sum_ok {one other : Nat} (fits : one+other < 2^64) : sum one other = .ok (one+other) := by
  rw [sum,require_ok fits]
  rfl

theorem sum_overflow {one other : Nat} (past : ¬one+other < 2^64) : sum one other = .error .overflow := by
  rw [sum,require,if_neg past]
  rfl

theorem first_ok [Inhabited α] (nonempty : items ≠ []) : first items = .ok (items.headD default) := by
  cases items with
  | nil => exact absurd rfl nonempty
  | cons item rest => rfl

theorem front_ok {count : Nat} (inside : count ≤ items.length) : front items count = .ok (items.take count) := by
  rw [front,require_ok inside]
  rfl

theorem scored_ok (scores : ∀ item ∈ items, checked item = .ok (score item)) :
    items.mapM (fun item => do return (item,← checked item)) = (.ok (items.map fun item => (item,score item)) :
      Checked (List (α × ℚ))) := by
  induction items with
  | nil => rfl
  | cons item rest ih =>
      rw [List.mapM_cons,scores item List.mem_cons_self,ih fun other member => scores other (List.mem_cons_of_mem _ member)]
      rfl

theorem sorted_ok (scores : ∀ item ∈ items, checked item = .ok (score item)) :
    sorted checked items = .ok (ranked score items) := by
  have same : (ranked score items).map (fun item => (item,score item)) =
      ranked (·.2) (items.map fun item => (item,score item)) :=
    List.map_insertionSort _ _ _ _ fun _ _ _ _ => Iff.rfl
  have keyed : (ranked (·.2) (items.map fun item => (item,score item))).map (·.1) = ranked score items := by
    rw [← same,List.map_map]
    exact List.map_id _
  rw [sorted,scored_ok scores]
  exact congrArg Except.ok keyed

end Checked

-- The guarded computation draws and returns what the plain one does: nothing stops it.
def Runs (guarded : Guarded α) (plain : Random α) : Prop := ∀ draws, guarded draws = .ok (plain draws)

section Runs
variable {guarded : Guarded α} {plain run : Random α} {step : α → Guarded β} {next : α → Random β} {holds : α → Prop}

theorem Runs.pure {value : α} : Runs (pure value) (pure value) := fun _ => rfl

theorem Runs.toss : Runs (toss run) run := fun _ => rfl

theorem Runs.bind (runs : Runs guarded plain) (always : Always plain holds)
    (following : ∀ value, holds value → Runs (step value) (next value)) : Runs (guarded >>= step) (plain >>= next) := by
  intro draws
  change (guarded draws >>= fun reached => step reached.1 reached.2) = _
  rw [runs draws]
  exact following _ (always draws) _

theorem Runs.map {image : α → β} (runs : Runs guarded plain) : Runs (image <$> guarded) (image <$> plain) := by
  intro draws
  change (guarded draws >>= fun reached => Pure.pure (image reached.1,reached.2)) = _
  rw [runs draws]
  rfl

theorem Runs.value {checked : Checked α} {value : α} {plain : Random β} (known : checked = .ok value)
    (following : Runs (step value) plain) : Runs (liftM checked >>= step) plain := by
  subst known
  exact following

theorem breach_stops {checked : Checked α} {breach : Breach} (stopped : checked = .error breach) (step : α → Guarded β)
    (draws : Draws) : (liftM checked >>= step) draws = .error breach := by
  subst stopped
  rfl

theorem Runs.lift {checked : Checked α} {value : α} (known : checked = .ok value) :
    Runs (liftM checked) (Pure.pure value) := by
  subst known
  exact fun _ => rfl

theorem Runs.loop {step : α → Guarded α} {next : α → Random α}
    (keeps : ∀ value, holds value → Runs (step value) (next value) ∧ Always (next value) holds) (count : Nat) :
    ∀ {value}, holds value → Runs (loop count step value) (repeated count next value) := by
  induction count with
  | zero =>
      intro value now
      rw [repeated_zero]
      exact .pure
  | succ count ih =>
      intro value now
      rw [repeated_succ]
      obtain ⟨runs,kept⟩ := keeps value now
      exact .bind runs kept fun reached still => ih still

theorem genRange_runs {low high : ℚ} (ordered : low ≤ high) : Runs (genRange low high) (uniform low high) :=
  .value (require_ok ordered) .toss

theorem genRangeTo_runs {low high : ℚ} (ordered : low < high) (bounded : high-low < Double.limit) :
    Runs (genRangeTo low high) (uniform low high) := .value (require_ok ordered) (.value (require_ok bounded) .toss)

theorem genRangeTo_stops {low high : ℚ} (ordered : low < high) (past : ¬high-low < Double.limit) (draws : Draws) :
    genRangeTo low high draws = .error .rangeOverflow := by
  unfold genRangeTo
  rw [require_ok ordered]
  change (liftM (require (high-low < Double.limit) Breach.rangeOverflow) >>= fun _ => toss (uniform low high)) draws = _
  exact breach_stops (if_neg past) _ _

theorem genBool_runs {probability : ℚ} (least : 0 ≤ probability) (most : probability ≤ 1) :
    Runs (genBool probability) (bool probability) := .value (require_ok ⟨least,most⟩) .toss

theorem choose_runs [Inhabited α] {items : List α} (nonempty : items ≠ []) : Runs (choose items) (pick items) := by
  have occupied := List.length_pos_of_ne_nil nonempty
  refine .value (require_ok occupied) (.bind .toss (index_always _ occupied) fun place inside => ?_)
  exact .value (require_ok inside) .pure

-- A stop at its first step stops the whole.
theorem Runs.stops {breach : Breach} {draws : Draws} (stopped : guarded draws = .error breach) :
    (guarded >>= step) draws = .error breach := by
  change (guarded draws >>= fun reached => step reached.1 reached.2) = _
  rw [stopped]
  rfl

theorem Runs.reaches (runs : Runs guarded plain) (step : α → Guarded β) (draws : Draws) :
    (guarded >>= step) draws = step (plain draws).1 (plain draws).2 := by
  change (guarded draws >>= fun reached => step reached.1 reached.2) = _
  rw [runs draws]
  rfl

end Runs

-- A guarded computation that keeps what it has divided by: no zero there ends it.
abbrev Traced (α : Type) := StateT (List ℚ) Guarded α

def divide (dividend divisor : Double) : Traced Double.Quotient := do
  modify (· ++ [divisor.value])
  return dividend.div divisor

def remainder (dividend divisor : Nat) : Traced Nat := do
  modify (· ++ [(divisor : ℚ)])
  return dividend % divisor

-- The traced computation does what the plain one does, and these are its divisors.
def Traces (traced : Traced α) (divisors : List ℚ) (plain : Random α) : Prop :=
  ∀ seen draws, traced seen draws = .ok (((plain draws).1,seen ++ divisors),(plain draws).2)

section Traced
variable {guarded : Guarded α} {plain : Random α} {seen : List ℚ} {draws : Draws}

theorem Traces.lift (runs : Runs guarded plain) : Traces (liftM guarded) [] plain := by
  intro seen draws
  rw [List.append_nil]
  change (guarded draws >>= fun reached => Pure.pure ((reached.1,seen),reached.2)) = _
  rw [runs draws]
  rfl

theorem lift_stops {breach : Breach} (stopped : guarded draws = .error breach) :
    (liftM guarded : Traced α) seen draws = .error breach := by
  change (guarded draws >>= fun reached => Pure.pure ((reached.1,seen),reached.2)) = _
  rw [stopped]
  rfl

end Traced

end Chance
