import ReactorOS.Concurrency.System
namespace Concurrency

namespace Task
variable {E W V ε ε' α β : Type} {G H : E → W → W → Prop} {view : W → V} {allows : E → Prop} {v : V}

-- What a task comes to among others that leave alone what it sees of the world in
-- `view`, whatever its environment answers among what `allows` lets through.
def amid (view : W → V) (allows : E → Prop) : Task G ε α → V → (Except ε α → V → Prop) → Prop
  | .done result,v,P => P result v
  | .step update _ next,v,P => ∀ w, view w = v → ∀ e, allows e → (next e w).amid view allows (view (update e w)) P

theorem amid_mono {t : Task G ε α} {P Q : Except ε α → V → Prop} (implies : ∀ result after, P result after → Q result after)
    (holds : t.amid view allows v P) : t.amid view allows v Q := by
  induction t generalizing v with
  | done result => exact implies _ _ holds
  | step update kept next ih =>
      intro w seen e allowed
      exact ih e w (holds w seen e allowed)

theorem amid_bind (t : Task G ε α) (k : α → Task G ε β) (P : Except ε β → V → Prop) :
    (t >>= k).amid view allows v P ↔ t.amid view allows v fun result after => match result with
      | .ok value => (k value).amid view allows after P
      | .error error => P (.error error) after := by
  induction t generalizing v with
  | done result => cases result <;> exact Iff.rfl
  | step update kept next ih =>
      constructor
      · intro holds w seen e allowed
        exact (ih e w).mp (holds w seen e allowed)
      · intro holds w seen e allowed
        exact (ih e w).mpr (holds w seen e allowed)

theorem amid_attempt (t : Task G ε α) (P : Except ε' (Except ε α) → V → Prop) :
    (t.attempt).amid view allows v P ↔ t.amid view allows v fun result after => P (.ok result) after := by
  induction t generalizing v with
  | done result => exact Iff.rfl
  | step update kept next ih =>
      constructor
      · intro holds w seen e allowed
        exact (ih e w).mp (holds w seen e allowed)
      · intro holds w seen e allowed
        exact (ih e w).mpr (holds w seen e allowed)

theorem amid_mapError (f : ε → ε') (t : Task G ε α) (P : Except ε' α → V → Prop) :
    (t.mapError f).amid view allows v P ↔ t.amid view allows v fun result after => P (result.mapError f) after := by
  induction t generalizing v with
  | done result => cases result <;> exact Iff.rfl
  | step update kept next ih =>
      constructor
      · intro holds w seen e allowed
        exact (ih e w).mp (holds w seen e allowed)
      · intro holds w seen e allowed
        exact (ih e w).mpr (holds w seen e allowed)

theorem amid_relax (wider : ∀ e a b, G e a b → H e a b) (t : Task G ε α) (P : Except ε α → V → Prop) :
    (t.relax wider).amid view allows v P ↔ t.amid view allows v P := by
  induction t generalizing v with
  | done result => exact Iff.rfl
  | step update kept next ih =>
      constructor
      · intro holds w seen e allowed
        exact (ih e w).mp (holds w seen e allowed)
      · intro holds w seen e allowed
        exact (ih e w).mpr (holds w seen e allowed)

-- The end of a task that goes through.
def GoesThrough (Q : α → V → Prop) (result : Except ε α) (after : V) : Prop := ∃ value, result = .ok value ∧ Q value after

-- A task that goes through, and what it brings about.
def returns (view : W → V) (allows : E → Prop) (t : Task G ε α) (v : V) (Q : α → V → Prop) : Prop :=
  t.amid view allows v (GoesThrough Q)

theorem returns_mono {t : Task G ε α} {Q R : α → V → Prop} (implies : ∀ value after, Q value after → R value after)
    (holds : t.returns view allows v Q) : t.returns view allows v R := by
  refine amid_mono ?_ holds
  intro result after reached
  rcases reached with ⟨value,returned,reached⟩
  exact ⟨value,returned,implies value after reached⟩

theorem returns_pure {value : α} {Q : α → V → Prop} (holds : Q value v) :
    (pure value : Task G ε α).returns view allows v Q := ⟨value,rfl,holds⟩

theorem returns_bind {t : Task G ε α} {k : α → Task G ε β} {Q : α → V → Prop} {R : β → V → Prop}
    (first : t.returns view allows v Q) (rest : ∀ value after, Q value after → (k value).returns view allows after R) :
    (t >>= k).returns view allows v R := by
  unfold returns
  rw [amid_bind]
  refine amid_mono ?_ first
  intro result after reached
  rcases reached with ⟨value,rfl,reached⟩
  exact rest value after reached

-- A part that leaves the view as it was.
theorem returns_still {t : Task G ε α} {k : α → Task G ε β} {R : β → V → Prop}
    (first : t.returns view allows v fun _ after => after = v) (rest : ∀ value, (k value).returns view allows v R) :
    (t >>= k).returns view allows v R :=
  returns_bind first fun value after same => by
    rw [same]
    exact rest value

theorem returns_mapError {f : ε → ε'} {t : Task G ε α} {Q : α → V → Prop} (holds : t.returns view allows v Q) :
    (t.mapError f).returns view allows v Q := by
  refine (amid_mapError f t _).mpr (amid_mono ?_ holds)
  intro result after reached
  rcases reached with ⟨value,rfl,reached⟩
  exact ⟨value,rfl,reached⟩

theorem returns_relax (wider : ∀ e a b, G e a b → H e a b) {t : Task G ε α} {Q : α → V → Prop} :
    (t.relax wider).returns view allows v Q ↔ t.returns view allows v Q := amid_relax wider t _

end Task

namespace System
variable {I E W V ε α : Type} {G : I → E → W → W → Prop} [DecidableEq I]

-- A run in which the view changes under task `i` alone, and `i` gets answers that are allowed.
def Company (i : I) (view : W → V) (allows : E → Prop) : System G ε α → List (I × E) → Prop
  | _,[] => True
  | s,(j,e) :: rest => (if j = i then allows e else view (s.advance j e).world = view s.world) ∧
      Company i view allows (s.advance j e) rest

variable {i : I} {view : W → V} {allows : E → Prop} {P : Except ε α → V → Prop}

-- What a task comes to amid others it comes to in every such run.
theorem run_amid {s : System G ε α} (start : (s.tasks i).amid view allows (view s.world) P) {schedule : List (I × E)}
    (company : Company i view allows s schedule) :
    ((s.run schedule).tasks i).amid view allows (view (s.run schedule).world) P := by
  induction schedule generalizing s with
  | nil => exact start
  | cons entry rest ih =>
      obtain ⟨j,e⟩ := entry
      obtain ⟨kept,company⟩ := company
      refine ih ?_ company
      by_cases own : j = i
      · subst own
        rw [if_pos rfl] at kept
        rcases advance_cases s j e with ⟨result,finished,same⟩ | ⟨update,within,next,current,same⟩
        · rw [same]
          exact start
        · rw [current] at start
          rw [same]
          simpa using start s.world rfl e kept
      · rw [if_neg own] at kept
        rw [advance_other (Ne.symm own) e,kept]
        exact start

theorem result_amid {s : System G ε α} (start : (s.tasks i).amid view allows (view s.world) P) {schedule : List (I × E)}
    (company : Company i view allows s schedule) {result : Except ε α} (finished : (s.run schedule).tasks i = .done result) :
    P result (view (s.run schedule).world) := by
  have ended := run_amid start company
  rw [finished] at ended
  exact ended

-- Where nobody else takes a step, nobody changes the view.
theorem company_alone {s : System G ε α} {schedule : List (I × E)} (alone : ∀ entry ∈ schedule, entry.1 = i ∧ allows entry.2) :
    Company i view allows s schedule := by
  induction schedule generalizing s with
  | nil => trivial
  | cons entry rest ih =>
      obtain ⟨own,allowed⟩ := alone entry List.mem_cons_self
      refine ⟨?_,ih fun other member => alone other (List.mem_cons_of_mem _ member)⟩
      rw [if_pos own]
      exact allowed

end System
end Concurrency
