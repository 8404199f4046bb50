import ReactorOS.Concurrency.System
namespace Concurrency
namespace Task
variable {E W ε ε' α β : Type} {G H : E → W → W → Prop}

-- Weakest precondition under interference: before each step the other tasks may move
-- the world along `R`; each step of the task itself satisfies `S`; the result and
-- the world in which it is reached satisfy `Q`.
def wp (R : W → W → Prop) (S : E → W → W → Prop) :
    Task G ε α → (Except ε α → W → Prop) → W → Prop
  | .done result,Q,w => Q result w
  | .step update _ next,Q,w => ∀ w', R w w' → ∀ e,
      S e w' (update e w') ∧ (next e w').wp R S Q (update e w')

section Rules
variable {R : W → W → Prop} {S : E → W → W → Prop}

@[simp] theorem wp_done (result : Except ε α) (Q : Except ε α → W → Prop) (w : W) :
    (done result : Task G ε α).wp R S Q w ↔ Q result w := Iff.rfl

theorem wp_step (update : E → W → W) (kept : ∀ e w, G e w (update e w)) (next : E → W → Task G ε α)
    (Q : Except ε α → W → Prop) (w : W) :
    (step update kept next).wp R S Q w ↔ ∀ w', R w w' → ∀ e,
      S e w' (update e w') ∧ (next e w').wp R S Q (update e w') := Iff.rfl

theorem wp_section (s : Section G ε α) (Q : Except ε α → W → Prop) (w : W) :
    (ofSection s).wp R S Q w ↔ ∀ w', R w w' → ∀ e,
      S e w' (s.run e w').2 ∧ Q (s.run e w').1 (s.run e w').2 := Iff.rfl

theorem wp_mono {t : Task G ε α} {Q Q' : Except ε α → W → Prop} (implies : ∀ r w, Q r w → Q' r w)
    (holds : t.wp R S Q w) : t.wp R S Q' w := by
  induction t generalizing w with
  | done result => exact implies _ _ holds
  | step update kept next ih =>
      intro w' moved e
      exact ⟨(holds w' moved e).1,ih e w' (holds w' moved e).2⟩

theorem wp_bind (t : Task G ε α) (k : α → Task G ε β) (Q : Except ε β → W → Prop) (w : W) :
    (t >>= k).wp R S Q w ↔ t.wp R S (fun r after => match r with
      | .ok value => (k value).wp R S Q after
      | .error error => Q (.error error) after) w := by
  induction t generalizing w with
  | done result => cases result <;> exact Iff.rfl
  | step update kept next ih =>
      constructor
      · intro holds w' moved e
        exact ⟨(holds w' moved e).1,(ih e w' _).mp (holds w' moved e).2⟩
      · intro holds w' moved e
        exact ⟨(holds w' moved e).1,(ih e w' _).mpr (holds w' moved e).2⟩

-- One part after another, by what is known of the first.
theorem wp_seq {t : Task G ε α} {k : α → Task G ε β} {F : Except ε α → W → Prop} {Q : Except ε β → W → Prop} {w : W}
    (first : t.wp R S F w) (ok : ∀ value after, F (.ok value) after → (k value).wp R S Q after)
    (error : ∀ err after, F (.error err) after → Q (.error err) after) : (t >>= k).wp R S Q w := by
  rw [wp_bind]
  apply wp_mono _ first
  intro r after reached
  cases r with
  | ok value => exact ok value after reached
  | error err => exact error err after reached

theorem wp_attempt (t : Task G ε α) (Q : Except ε' (Except ε α) → W → Prop) (w : W) :
    (t.attempt).wp R S Q w ↔ t.wp R S (fun r after => Q (.ok r) after) w := by
  induction t generalizing w with
  | done result => exact Iff.rfl
  | step update kept next ih =>
      constructor
      · intro holds w' moved e
        exact ⟨(holds w' moved e).1,(ih e w' _).mp (holds w' moved e).2⟩
      · intro holds w' moved e
        exact ⟨(holds w' moved e).1,(ih e w' _).mpr (holds w' moved e).2⟩

theorem wp_mapError (f : ε → ε') (t : Task G ε α) (Q : Except ε' α → W → Prop) (w : W) :
    (t.mapError f).wp R S Q w ↔ t.wp R S (fun r after => Q (r.mapError f) after) w := by
  induction t generalizing w with
  | done result => cases result <;> exact Iff.rfl
  | step update kept next ih =>
      constructor
      · intro holds w' moved e
        exact ⟨(holds w' moved e).1,(ih e w' _).mp (holds w' moved e).2⟩
      · intro holds w' moved e
        exact ⟨(holds w' moved e).1,(ih e w' _).mpr (holds w' moved e).2⟩

theorem wp_relax (wider : ∀ e a b, G e a b → H e a b) (t : Task G ε α)
    (Q : Except ε α → W → Prop) (w : W) :
    (t.relax wider).wp R S Q w ↔ t.wp R S Q w := by
  induction t generalizing w with
  | done result => exact Iff.rfl
  | step update kept next ih =>
      constructor
      · intro holds w' moved e
        exact ⟨(holds w' moved e).1,(ih e w' _).mp (holds w' moved e).2⟩
      · intro holds w' moved e
        exact ⟨(holds w' moved e).1,(ih e w' _).mpr (holds w' moved e).2⟩

-- A task about which nothing but its guarantee is known: an assertion that survives
-- interference and every step within the guarantee holds throughout.
theorem wp_guaranteed {A : W → Prop} (stable : ∀ a b, A a → R a b → A b)
    (own : ∀ e a b, A a → G e a b → S e a b ∧ A b) (t : Task G ε α) (start : A w) :
    t.wp R S (fun _ after => A after) w := by
  induction t generalizing w with
  | done result => exact start
  | step update kept next ih =>
      intro w' moved e
      have step := own e w' _ (stable _ _ start moved) (kept e w')
      exact ⟨step.1,ih e w' step.2⟩

end Rules
end Task

namespace System
variable {I E W ε α : Type} {G : I → E → W → W → Prop} [DecidableEq I]
  {R : W → W → Prop} {S : E → W → W → Prop} {Q : Except ε α → W → Prop}

-- Soundness of the rules above: task `i` keeps its precondition along every schedule
-- as long as the guarantees of the others lie inside what it relies on.
theorem run_wp {i : I} (refl : ∀ w, R w w) (trans : ∀ {a b c}, R a b → R b c → R a c)
    (others : ∀ j e a b, j ≠ i → G j e a b → R a b) (s : System G ε α)
    (start : ∃ w, R w s.world ∧ (s.tasks i).wp R S Q w) (schedule : List (I × E)) :
    ∃ w, R w (s.run schedule).world ∧ ((s.run schedule).tasks i).wp R S Q w := by
  induction schedule generalizing s with
  | nil => exact start
  | cons entry rest ih =>
      rcases entry with ⟨j,e⟩
      apply ih
      obtain ⟨w,relied,holds⟩ := start
      by_cases own : j = i
      · subst own
        rcases advance_cases s j e with ⟨_,_,same⟩ | ⟨update,kept,next,current,same⟩
        · rw [same]; exact ⟨w,relied,holds⟩
        · rw [current] at holds
          rw [same]
          refine ⟨update e s.world,refl _,?_⟩
          simpa using (holds s.world relied e).2
      · rw [advance_other (Ne.symm own) e]
        refine ⟨w,?_,holds⟩
        rcases advance_kept s j e with same | moved
        · rw [same]; exact relied
        · exact trans relied (others j e _ _ own moved)

-- Every step that task `i` takes in a run satisfies `S`.
theorem step_wp {i : I} (refl : ∀ w, R w w) (trans : ∀ {a b c}, R a b → R b c → R a c)
    (others : ∀ j e a b, j ≠ i → G j e a b → R a b) (s : System G ε α)
    (start : ∃ w, R w s.world ∧ (s.tasks i).wp R S Q w) (schedule : List (I × E)) (e : E)
    (moves : ∀ result, (s.run schedule).tasks i ≠ .done result) :
    S e (s.run schedule).world ((s.run schedule).advance i e).world := by
  obtain ⟨w,relied,holds⟩ := run_wp refl trans others s start schedule
  rcases advance_cases (s.run schedule) i e with ⟨result,finished,_⟩ | ⟨update,kept,next,current,same⟩
  · exact absurd finished (moves result)
  · rw [current] at holds
    rw [same]
    exact (holds _ relied e).1

-- Where task `i` has finished, its postcondition held when it did.
theorem result_wp {i : I} (refl : ∀ w, R w w) (trans : ∀ {a b c}, R a b → R b c → R a c)
    (others : ∀ j e a b, j ≠ i → G j e a b → R a b) (s : System G ε α)
    (start : ∃ w, R w s.world ∧ (s.tasks i).wp R S Q w) (schedule : List (I × E))
    {result : Except ε α} (finished : (s.run schedule).tasks i = .done result) :
    ∃ w, R w (s.run schedule).world ∧ Q result w := by
  obtain ⟨w,relied,holds⟩ := run_wp refl trans others s start schedule
  rw [finished] at holds
  exact ⟨w,relied,holds⟩

end System
end Concurrency
