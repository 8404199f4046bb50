import Mathlib.Logic.Function.Basic
import ReactorOS.Concurrency.Task
namespace Concurrency

-- Task `i` keeps guarantee `G i`. A schedule names at each entry the task that
-- moves and what its environment answers, so every interleaving is a schedule.
structure System {I E W : Type} (G : I → E → W → W → Prop) (ε α : Type) where
  world : W
  tasks : (i : I) → Task (G i) ε α

namespace System
variable {I E W ε α : Type} {G : I → E → W → W → Prop} [DecidableEq I]

-- A finished task has no step left: an entry that names it changes nothing.
def advance (s : System G ε α) (i : I) (e : E) : System G ε α :=
  match s.tasks i with
  | .done _ => s
  | .step update _ next => ⟨update e s.world,Function.update s.tasks i (next e s.world)⟩

def run (s : System G ε α) : List (I × E) → System G ε α
  | [] => s
  | (i,e) :: rest => (s.advance i e).run rest

@[simp] theorem run_nil (s : System G ε α) : s.run [] = s := rfl

theorem run_append (s : System G ε α) (first second : List (I × E)) :
    s.run (first ++ second) = (s.run first).run second := by
  induction first generalizing s with
  | nil => rfl
  | cons entry rest ih => exact ih (s.advance entry.1 entry.2)

theorem run_snoc (s : System G ε α) (schedule : List (I × E)) (i : I) (e : E) :
    s.run (schedule ++ [(i,e)]) = (s.run schedule).advance i e := run_append s schedule [(i,e)]

-- What one scheduled step can do: nothing, or an update within its own guarantee
-- while every other task stays where it was.
theorem advance_cases (s : System G ε α) (i : I) (e : E) :
    (∃ result, s.tasks i = .done result ∧ s.advance i e = s) ∨
    ∃ update kept next, s.tasks i = .step update kept next ∧
      s.advance i e = ⟨update e s.world,Function.update s.tasks i (next e s.world)⟩ := by
  cases current : s.tasks i with
  | done result => exact .inl ⟨result,rfl,by simp [advance,current]⟩
  | step update kept next => exact .inr ⟨update,kept,next,rfl,by simp [advance,current]⟩

theorem advance_other {s : System G ε α} {i j : I} (different : j ≠ i) (e : E) :
    (s.advance i e).tasks j = s.tasks j := by
  rcases advance_cases s i e with ⟨_,_,same⟩ | ⟨_,_,_,_,same⟩
  · rw [same]
  · rw [same]; exact Function.update_of_ne different _ _

theorem run_elsewhere {s : System G ε α} {i : I} {schedule : List (I × E)} (elsewhere : ∀ entry ∈ schedule, entry.1 ≠ i) :
    (s.run schedule).tasks i = s.tasks i := by
  induction schedule generalizing s with
  | nil => rfl
  | cons entry rest ih =>
      obtain ⟨j,e⟩ := entry
      refine (ih fun other member => elsewhere other (List.mem_cons_of_mem _ member)).trans ?_
      exact advance_other (Ne.symm (elsewhere (j,e) List.mem_cons_self)) e

theorem advance_kept (s : System G ε α) (i : I) (e : E) :
    (s.advance i e).world = s.world ∨ G i e s.world (s.advance i e).world := by
  rcases advance_cases s i e with ⟨_,_,same⟩ | ⟨update,kept,_,_,same⟩
  · exact .inl (by rw [same])
  · exact .inr (by rw [same]; exact kept e s.world)

-- Any relation that contains every guarantee and composes relates the two ends of a run.
theorem run_related {R : W → W → Prop} (refl : ∀ w, R w w) (trans : ∀ {a b c}, R a b → R b c → R a c)
    (covers : ∀ i e a b, G i e a b → R a b) (s : System G ε α) (schedule : List (I × E)) :
    R s.world (s.run schedule).world := by
  induction schedule generalizing s with
  | nil => exact refl _
  | cons entry rest ih =>
      have one : R s.world (s.advance entry.1 entry.2).world := by
        rcases advance_kept s entry.1 entry.2 with same | moved
        · rw [same]; exact refl _
        · exact covers _ _ _ _ moved
      exact trans one (ih _)

-- An invariant kept by every step within the guarantees holds after every run.
theorem run_invariant {J : W → Prop} (step : ∀ i e a b, J a → G i e a b → J b)
    (s : System G ε α) (start : J s.world) (schedule : List (I × E)) :
    J (s.run schedule).world := by
  induction schedule generalizing s with
  | nil => exact start
  | cons entry rest ih =>
      apply ih
      rcases advance_kept s entry.1 entry.2 with same | moved
      · rw [same]; exact start
      · exact step _ _ _ _ start moved

end System
end Concurrency
