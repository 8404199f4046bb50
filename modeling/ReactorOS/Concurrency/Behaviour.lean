import ReactorOS.Concurrency.Journal
namespace Concurrency

-- A step that a task has taken: what its environment answered and the worlds around it.
structure Moment (E W : Type) where
  answer : E
  before : W
  after : W

namespace Task
variable {E W ε ε' α β : Type} {G H : E → W → W → Prop}

-- What holds of the steps of a task and of its result in whatever worlds the others
-- have it take them.
def behaves : Task G ε α → (List (Moment E W) → Except ε α → Prop) → Prop
  | .done result,P => P [] result
  | .step update _ next,P => ∀ e w, (next e w).behaves fun later result => P (⟨e,w,update e w⟩ :: later) result

@[simp] theorem behaves_done (result : Except ε α) (P : List (Moment E W) → Except ε α → Prop) :
    (done result : Task G ε α).behaves P ↔ P [] result := Iff.rfl

theorem behaves_section (s : Section G ε α) (P : List (Moment E W) → Except ε α → Prop) :
    (ofSection s).behaves P ↔ ∀ e w, P [⟨e,w,(s.run e w).2⟩] (s.run e w).1 := Iff.rfl

theorem behaves_mono {t : Task G ε α} {P Q : List (Moment E W) → Except ε α → Prop}
    (implies : ∀ moments result, P moments result → Q moments result) (holds : t.behaves P) : t.behaves Q := by
  induction t generalizing P Q with
  | done result => exact implies _ _ holds
  | step update kept next ih =>
      intro e w
      exact ih e w (fun later result => implies _ result) (holds e w)

theorem behaves_true (t : Task G ε α) : t.behaves fun _ _ => True := by
  induction t with
  | done result => trivial
  | step update kept next ih =>
      intro e w
      exact ih e w

theorem behaves_and {t : Task G ε α} {P Q : List (Moment E W) → Except ε α → Prop} (one : t.behaves P)
    (two : t.behaves Q) : t.behaves fun moments result => P moments result ∧ Q moments result := by
  induction t generalizing P Q with
  | done result => exact ⟨one,two⟩
  | step update kept next ih =>
      intro e w
      exact ih e w (one e w) (two e w)

theorem behaves_bind (t : Task G ε α) (k : α → Task G ε β) (P : List (Moment E W) → Except ε β → Prop) :
    (t >>= k).behaves P ↔ t.behaves fun first result => match result with
      | .ok value => (k value).behaves fun later => P (first ++ later)
      | .error error => P first (.error error) := by
  induction t generalizing P with
  | done result => cases result <;> exact Iff.rfl
  | step update kept next ih =>
      constructor
      · intro holds e w
        exact (ih e w _).mp (holds e w)
      · intro holds e w
        exact (ih e w _).mpr (holds e w)

theorem behaves_attempt (t : Task G ε α) (P : List (Moment E W) → Except ε' (Except ε α) → Prop) :
    (t.attempt).behaves P ↔ t.behaves fun moments result => P moments (.ok result) := by
  induction t generalizing P with
  | done result => exact Iff.rfl
  | step update kept next ih =>
      constructor
      · intro holds e w
        exact (ih e w _).mp (holds e w)
      · intro holds e w
        exact (ih e w _).mpr (holds e w)

theorem behaves_mapError (f : ε → ε') (t : Task G ε α) (P : List (Moment E W) → Except ε' α → Prop) :
    (t.mapError f).behaves P ↔ t.behaves fun moments result => P moments (result.mapError f) := by
  induction t generalizing P with
  | done result => cases result <;> exact Iff.rfl
  | step update kept next ih =>
      constructor
      · intro holds e w
        exact (ih e w _).mp (holds e w)
      · intro holds e w
        exact (ih e w _).mpr (holds e w)

theorem behaves_relax (wider : ∀ e a b, G e a b → H e a b) (t : Task G ε α)
    (P : List (Moment E W) → Except ε α → Prop) : (t.relax wider).behaves P ↔ t.behaves P := by
  induction t generalizing P with
  | done result => exact Iff.rfl
  | step update kept next ih =>
      constructor
      · intro holds e w
        exact (ih e w _).mp (holds e w)
      · intro holds e w
        exact (ih e w _).mpr (holds e w)

theorem behaves_ends (e : E) (w : W) {t : Task G ε α} {P : List (Moment E W) → Except ε α → Prop} (holds : t.behaves P) :
    ∃ moments result, P moments result := by
  induction t generalizing P with
  | done result => exact ⟨_,_,holds⟩
  | step update kept next ih =>
      obtain ⟨later,result,reached⟩ := ih e w (holds e w)
      exact ⟨_,result,reached⟩

-- What holds of every step of a task.
def each (R : Moment E W → Prop) (t : Task G ε α) : Prop := t.behaves fun moments _ => ∀ moment ∈ moments, R moment

theorem each_done (R : Moment E W → Prop) (result : Except ε α) : (done result : Task G ε α).each R := by
  intro moment member
  cases member

theorem each_section {R : Moment E W → Prop} {s : Section G ε α} (holds : ∀ e w, R ⟨e,w,(s.run e w).2⟩) :
    (ofSection s).each R := by
  intro e w moment member
  rw [List.mem_singleton.mp member]
  exact holds e w

theorem each_bind {R : Moment E W → Prop} {t : Task G ε α} {k : α → Task G ε β} (first : t.each R)
    (rest : ∀ value, (k value).each R) : (t >>= k).each R := by
  unfold each
  rw [behaves_bind]
  apply behaves_mono _ first
  intro before result holds
  cases result with
  | error error => exact holds
  | ok value =>
      apply behaves_mono _ (rest value)
      intro later ended after moment member
      rcases List.mem_append.mp member with early | late
      · exact holds moment early
      · exact after moment late

-- What every step of a task keeps to it keeps to under any interference.
theorem wp_each {R : W → W → Prop} {S : E → W → W → Prop} {t : Task G ε α}
    (holds : t.each fun moment => S moment.answer moment.before moment.after) (w : W) : t.wp R S (fun _ _ => True) w := by
  induction t generalizing w with
  | done result => trivial
  | step update kept next ih =>
      intro w' _ e
      obtain ⟨later,result,every⟩ := behaves_ends e w' (holds e w')
      refine ⟨every _ List.mem_cons_self,ih e w' ?_ _⟩
      apply behaves_mono _ (holds e w')
      intro later result every moment member
      exact every moment (List.mem_cons_of_mem _ member)

theorem each_attempt {R : Moment E W → Prop} {t : Task G ε α} (holds : t.each R) :
    (t.attempt : Task G ε' (Except ε α)).each R := (behaves_attempt t _).mpr holds

end Task

namespace System
variable {I E W ε α : Type} {G : I → E → W → W → Prop} [DecidableEq I]

-- The steps that task `i` takes in a run.
def moments (s : System G ε α) (i : I) : List (I × E) → List (Moment E W)
  | [] => []
  | (j,e) :: rest =>
      match s.tasks i with
      | .done _ => (s.advance j e).moments i rest
      | .step _ _ _ =>
          if j = i then ⟨e,s.world,(s.advance j e).world⟩ :: (s.advance j e).moments i rest
          else (s.advance j e).moments i rest

-- What a task behaves like is how it has behaved where it has finished.
theorem run_behaves {i : I} {result : Except ε α} {P : List (Moment E W) → Except ε α → Prop} (s : System G ε α)
    (holds : (s.tasks i).behaves P) (schedule : List (I × E)) (finished : (s.run schedule).tasks i = .done result) :
    P (s.moments i schedule) result := by
  induction schedule generalizing s P with
  | nil =>
      rw [run_nil] at finished
      rw [finished] at holds
      exact holds
  | cons entry rest ih =>
      obtain ⟨j,e⟩ := entry
      change ((s.advance j e).run rest).tasks i = .done result at finished
      cases current : s.tasks i with
      | done ended =>
          rw [current] at holds
          have still : (s.advance j e).tasks i = .done ended := by
            by_cases own : j = i
            · subst own
              simp [advance,current]
            · rw [advance_other (Ne.symm own),current]
          simp only [moments,current]
          exact ih _ (by rw [still]; exact holds) finished
      | step update kept next =>
          simp only [moments,current]
          by_cases own : j = i
          · subst own
            rw [if_pos rfl]
            have moved : s.advance j e = ⟨update e s.world,Function.update s.tasks j (next e s.world)⟩ := by
              simp [advance,current]
            rw [current] at holds
            have later := holds e s.world
            have world : (s.advance j e).world = update e s.world := by rw [moved]
            rw [world]
            have rest_holds : ((s.advance j e).tasks j).behaves fun later ended =>
                P (⟨e,s.world,update e s.world⟩ :: later) ended := by
              rw [moved]
              simpa using later
            exact ih _ rest_holds finished
          · rw [if_neg own]
            have still : ((s.advance j e).tasks i).behaves P := by
              rw [advance_other (Ne.symm own)]
              exact holds
            exact ih _ still finished

theorem moments_answers (s : System G ε α) (i : I) (schedule : List (I × E)) :
    ∀ moment ∈ s.moments i schedule, (i,moment.answer) ∈ schedule := by
  induction schedule generalizing s with
  | nil => exact fun _ member => by cases member
  | cons entry rest ih =>
      obtain ⟨j,e⟩ := entry
      intro moment member
      unfold moments at member
      split at member
      · exact List.mem_cons_of_mem _ (ih _ moment member)
      · split at member
        · rename_i own
          rcases List.mem_cons.mp member with rfl | later
          · exact own ▸ List.mem_cons_self
          · exact List.mem_cons_of_mem _ (ih _ moment later)
        · exact List.mem_cons_of_mem _ (ih _ moment member)

-- The steps of a task that has not finished are the first ones of what it behaves like.
theorem moments_extend {i : I} {P : List (Moment E W) → Except ε α → Prop} (e : E) (s : System G ε α)
    (holds : (s.tasks i).behaves P) (schedule : List (I × E)) :
    ∃ later result, P (s.moments i schedule ++ later) result := by
  induction schedule generalizing s P with
  | nil => exact Task.behaves_ends e s.world holds
  | cons entry rest ih =>
      obtain ⟨j,answered⟩ := entry
      by_cases own : j = i
      · subst own
        cases current : s.tasks j with
        | done ended =>
            have still : s.advance j answered = s := by simp [advance,current]
            simp only [moments,current,still]
            exact ih s holds
        | step update kept next =>
            have moved : s.advance j answered = ⟨update answered s.world,Function.update s.tasks j (next answered s.world)⟩ := by
              simp [advance,current]
            rw [current] at holds
            simp only [moments,current,if_true,moved]
            have later := holds answered s.world
            exact ih (P := fun later ended => P (⟨answered,s.world,update answered s.world⟩ :: later) ended) _
              (by simpa using later)
      · have still : ((s.advance j answered).tasks i).behaves P := by
          rw [advance_other (Ne.symm own)]
          exact holds
        cases current : s.tasks i with
        | done ended =>
            simp only [moments,current]
            exact ih _ still
        | step update kept next =>
            simp only [moments,current,if_neg own]
            exact ih _ still

end System

namespace Moment
variable {I E V S : Type} [Effect V S]

-- What a step in a journaled world has recorded, newest first.
def recorded (moment : Moment E (Journal I V S)) : List (I × V) :=
  moment.after.history.take (moment.after.history.length-moment.before.history.length)

theorem recorded_extend (answer : E) (before : Journal I V S) (new : List (I × V)) :
    recorded ⟨answer,before,before.extend new⟩ = new := by
  simp [recorded,Journal.extend_history]

@[simp] theorem recorded_emit (answer : E) (before : Journal I V S) (me : I) (event : V) :
    recorded ⟨answer,before,before.emit me event⟩ = [(me,event)] := recorded_extend answer before [(me,event)]

@[simp] theorem recorded_silent (answer : E) (world : Journal I V S) : recorded ⟨answer,world,world⟩ = [] :=
  recorded_extend answer world []

-- Code keeps to its name and to what it may cause at every step.
theorem behaves_may {may : V → Bool} {me : I} {ε α : Type} (t : Journal.Async E S may me ε α) :
    t.behaves fun moments _ => ∀ moment ∈ moments, ∀ entry ∈ moment.recorded, entry.1 = me ∧ may entry.2 = true := by
  induction t with
  | done result => intro moment member; cases member
  | step update kept next ih =>
      intro e w
      apply Task.behaves_mono _ (ih e w)
      intro later result rest moment member
      rcases List.mem_cons.mp member with rfl | after
      · obtain ⟨new,own,same⟩ := kept e w
        rw [same,recorded_extend]
        exact own
      · exact rest moment after

end Moment
end Concurrency
