import Mathlib.Data.List.Basic
namespace Storage
variable {Row Key : Type} [DecidableEq Key]

-- An UPDATE whose condition on a row may look at the table that is being updated.
structure Update (Row : Type) where
  selects : List Row → Row → Bool
  set : Row → Row

-- The rows are chosen before the first of them is changed, or each as it is visited.
inductive UpdatePlan (Key : Type) where
  | collected
  | inPlace (order : List Key)

variable (key : Row → Key) (update : Update Row) (rows : List Row)

def UpdatePlan.Visits : UpdatePlan Key → Prop
  | .collected => True
  | .inPlace order => order.Nodup ∧ ∀ row ∈ rows, key row ∈ order

namespace Update

def collect : List Row × Nat :=
  (rows.map fun row => if update.selects rows row then update.set row else row,rows.countP (update.selects rows))

def visit (state : List Row × Nat) (place : Key) : List Row × Nat :=
  (state.1.map fun row => if key row = place ∧ update.selects state.1 row then update.set row else row,
    state.2+state.1.countP fun row => key row = place ∧ update.selects state.1 row)

-- The rows and the number of rows changed.
def run : UpdatePlan Key → List Row × Nat
  | .collected => update.collect rows
  | .inPlace order => order.foldl (update.visit key) (rows,0)

-- The rows once those that are in `seen` have been visited.
def after (seen : Row → Bool) : List Row :=
  rows.map fun row => if seen row ∧ update.selects rows row then update.set row else row

-- No change that the update makes has a say in whether another row is selected.
def Stable : Prop :=
  ∀ seen : Row → Bool, ∀ row ∈ rows, seen row = false →
    update.selects (update.after rows seen) row = update.selects rows row

variable {key update rows}

theorem visit_keys (keeps : ∀ row, key (update.set row) = key row) (state : List Row × Nat) (place : Key) :
    (update.visit key state place).1.map key = state.1.map key := by
  rw [visit,List.map_map]
  apply List.map_congr_left
  intro row _
  simp only [Function.comp_apply]
  split
  · exact keeps row
  · rfl

theorem run_keys (keeps : ∀ row, key (update.set row) = key row) (plan : UpdatePlan Key) :
    (update.run key rows plan).1.map key = rows.map key := by
  cases plan with
  | collected =>
      rw [run,collect,List.map_map]
      apply List.map_congr_left
      intro row _
      simp only [Function.comp_apply]
      split
      · exact keeps row
      · rfl
  | inPlace order =>
      have fold : ∀ state : List Row × Nat, (order.foldl (update.visit key) state).1.map key = state.1.map key := by
        induction order with
        | nil => exact fun state => rfl
        | cons place order ih =>
            intro state
            rw [List.foldl_cons,ih,visit_keys keeps]
      exact fold _

theorem countP_apart {one other both : Row → Bool}
    (apart : ∀ row ∈ rows, (both row).toNat = (one row).toNat+(other row).toNat) :
    rows.countP both = rows.countP one+rows.countP other := by
  induction rows with
  | nil => rfl
  | cons row rows ih =>
      have here := apart row List.mem_cons_self
      have rest := ih fun later member => apart later (List.mem_cons_of_mem row member)
      have one_more : ∀ test : Row → Bool, (row :: rows).countP test = rows.countP test+(test row).toNat := by
        intro test
        cases holds : test row <;> simp [holds]
      rw [one_more both,one_more one,one_more other]
      omega

-- One more row is visited, and its condition is still what it was at the start.
theorem visit_after (keeps : ∀ row, key (update.set row) = key row) (stable : update.Stable rows) {seen : List Key} {place : Key}
    (fresh : place ∉ seen) :
    update.visit key (update.after rows (key · ∈ seen),rows.countP fun row => key row ∈ seen ∧ update.selects rows row) place =
      (update.after rows (key · ∈ seen ++ [place]),
        rows.countP fun row => key row ∈ seen ++ [place] ∧ update.selects rows row) := by
  have still : ∀ row ∈ rows, key row = place →
      update.selects (update.after rows (key · ∈ seen)) row = update.selects rows row := by
    intro row member here
    exact stable _ row member (by simpa [here] using fresh)
  have same : ∀ row ∈ rows, key row ∈ seen → key row ≠ place := fun row _ before here => fresh (here ▸ before)
  refine Prod.ext ?_ ?_
  · change List.map _ (List.map _ rows) = List.map _ rows
    rw [List.map_map]
    apply List.map_congr_left
    intro row member
    by_cases before : key row ∈ seen
    · by_cases chosen : update.selects rows row <;> simp [before,chosen,keeps,same row member before]
    · by_cases here : key row = place
      · simp [here,fresh,still row member here]
      · simp [before,here]
  · change _+List.countP _ (List.map _ rows) = _
    rw [List.countP_map]
    refine (countP_apart ?_).symm
    intro row member
    by_cases before : key row ∈ seen
    · by_cases chosen : update.selects rows row <;> simp [before,chosen,keeps,same row member before]
    · by_cases here : key row = place
      · simp [here,fresh,still row member here]
      · simp [before,here]

-- The induction is on the rows still to visit.
theorem inPlace_after (keeps : ∀ row, key (update.set row) = key row) (stable : update.Stable rows) (seen order : List Key)
    (once : (seen ++ order).Nodup) :
    order.foldl (update.visit key) (update.after rows (key · ∈ seen),
        rows.countP fun row => key row ∈ seen ∧ update.selects rows row) =
      (update.after rows (key · ∈ seen ++ order),rows.countP fun row => key row ∈ seen ++ order ∧ update.selects rows row) := by
  induction order generalizing seen with
  | nil => simp
  | cons place order ih =>
      have fresh : place ∉ seen := by
        intro before
        rw [List.nodup_append] at once
        exact once.2.2 place before place List.mem_cons_self rfl
      have shift : seen ++ place :: order = seen ++ [place] ++ order := by simp
      rw [List.foldl_cons,visit_after keeps stable fresh,ih (seen ++ [place]) (shift ▸ once),shift]

theorem run_stable (keeps : ∀ row, key (update.set row) = key row) (stable : update.Stable rows) {plan : UpdatePlan Key}
    (visits : plan.Visits key rows) : update.run key rows plan = update.collect rows := by
  cases plan with
  | collected => rfl
  | inPlace order =>
      obtain ⟨once,every⟩ := visits
      have done := inPlace_after keeps stable [] order once
      have start : update.after rows (key · ∈ ([] : List Key)) = rows := by simp [after]
      rw [start] at done
      simp only [List.not_mem_nil,false_and,decide_false,List.countP_false,List.nil_append,Function.const_apply] at done
      change order.foldl (update.visit key) (rows,0) = update.collect rows
      refine Eq.trans done ?_
      rw [collect,after]
      refine Prod.ext ?_ ?_
      · apply List.map_congr_left
        intro row member
        simp [every row member]
      · apply List.countP_congr
        intro row member
        simp [every row member]

end Update
end Storage
