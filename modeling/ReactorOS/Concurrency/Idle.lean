import ReactorOS.Concurrency.Behaviour
namespace Concurrency

namespace Task
variable {E W ε ε' α β : Type} {G H : E → W → W → Prop}

-- A task that looks and computes but changes nothing, whatever it is answered.
def Idle (t : Task G ε α) : Prop := t.each fun moment => moment.after = moment.before

theorem idle_done (result : Except ε α) : (done result : Task G ε α).Idle := each_done _ result

theorem idle_section {s : Section G ε α} (silent : s.Silent) : (ofSection s).Idle := each_section silent

theorem idle_bind {t : Task G ε α} {k : α → Task G ε β} (first : t.Idle) (rest : ∀ value, (k value).Idle) : (t >>= k).Idle :=
  each_bind first rest

theorem idle_attempt {t : Task G ε α} (idle : t.Idle) : (t.attempt : Task G ε' (Except ε α)).Idle := each_attempt idle

theorem idle_relax {t : Task G ε α} (wider : ∀ e a b, G e a b → H e a b) (idle : t.Idle) : (t.relax wider).Idle :=
  (behaves_relax wider t _).mpr idle

theorem each_head {R : Moment E W → Prop} {update : E → W → W} {kept : ∀ e w, G e w (update e w)}
    {next : E → W → Task G ε α} (holds : (step update kept next).each R) (e : E) (w : W) : R ⟨e,w,update e w⟩ := by
  obtain ⟨later,_,every⟩ := behaves_ends e w (holds e w)
  exact every _ List.mem_cons_self

theorem each_tail {R : Moment E W → Prop} {update : E → W → W} {kept : ∀ e w, G e w (update e w)}
    {next : E → W → Task G ε α} (holds : (step update kept next).each R) (e : E) (w : W) : (next e w).each R :=
  behaves_mono (fun _ _ every moment member => every moment (List.mem_cons_of_mem _ member)) (holds e w)

end Task

namespace System
variable {I E W ε α : Type} {G : I → E → W → W → Prop} [DecidableEq I] {s : System G ε α} {i : I}

-- What holds of every step of a task holds of those it takes in a run, finished or not.
theorem moments_each {R : Moment E W → Prop} (every : (s.tasks i).each R) (schedule : List (I × E)) :
    ∀ moment ∈ s.moments i schedule, R moment := by
  induction schedule generalizing s with
  | nil =>
      intro moment member
      cases member
  | cons entry rest ih =>
      obtain ⟨j,e⟩ := entry
      intro moment member
      by_cases own : j = i
      · subst own
        cases current : s.tasks j with
        | done ended =>
            have still : s.advance j e = s := by simp [advance,current]
            simp only [moments,current,still] at member
            exact ih every moment member
        | step update kept next =>
            have moved : s.advance j e = ⟨update e s.world,Function.update s.tasks j (next e s.world)⟩ := by
              simp [advance,current]
            rw [current] at every
            simp only [moments,current,if_true,moved] at member
            rcases List.mem_cons.mp member with rfl | later
            · exact Task.each_head every e s.world
            · refine ih ?_ moment later
              simpa using Task.each_tail every e s.world
      · have other : ((s.advance j e).tasks i).each R := by
          rw [advance_other (Ne.symm own)]
          exact every
        cases current : s.tasks i with
        | done ended =>
            simp only [moments,current] at member
            exact ih other moment member
        | step update kept next =>
            simp only [moments,current,if_neg own] at member
            exact ih other moment member

-- One step of an idle task is seen by nobody.
theorem advance_idle (idle : (s.tasks i).Idle) (e : E) :
    (s.advance i e).world = s.world ∧ ((s.advance i e).tasks i).Idle := by
  rcases advance_cases s i e with ⟨result,current,same⟩ | ⟨update,kept,next,current,moved⟩
  · rw [same]
    exact ⟨rfl,idle⟩
  · rw [current] at idle
    rw [moved]
    have still : (next e s.world).Idle := Task.each_tail idle e s.world
    exact ⟨Task.each_head idle e s.world,by simpa using still⟩

-- Two runs that differ in the steps of an idle task alone.
structure Beside (i : I) (s other : System G ε α) : Prop where
  world : s.world = other.world
  tasks : ∀ j, j ≠ i → s.tasks j = other.tasks j

theorem beside_advance {other : System G ε α} {j : I} (beside : Beside i s other) (elsewhere : j ≠ i) (e : E) :
    Beside i (s.advance j e) (other.advance j e) := by
  obtain ⟨world,tasks⟩ := s
  obtain ⟨world',tasks'⟩ := other
  obtain ⟨same,agree⟩ := beside
  simp only at same agree
  subst same
  have mine := agree j elsewhere
  cases current : tasks j with
  | done result =>
      rw [mine] at current
      simp only [advance,mine,current]
      exact ⟨rfl,agree⟩
  | step update kept next =>
      rw [mine] at current
      simp only [advance,mine,current]
      refine ⟨rfl,fun other elsewhere' => ?_⟩
      by_cases own : other = j
      · subst own
        simp
      · simp only [Function.update_of_ne own]
        exact agree other elsewhere'

-- Without the steps of an idle task everything else goes as it went.
theorem run_without (idle : (s.tasks i).Idle) (schedule : List (I × E)) :
    Beside i (s.run schedule) (s.run (schedule.filter fun entry => entry.1 ≠ i)) := by
  have general : ∀ other : System G ε α, Beside i s other →
      Beside i (s.run schedule) (other.run (schedule.filter fun entry => entry.1 ≠ i)) := by
    induction schedule generalizing s with
    | nil => exact fun other beside => beside
    | cons entry rest ih =>
        obtain ⟨j,e⟩ := entry
        intro other beside
        by_cases own : j = i
        · subst own
          obtain ⟨same,still⟩ := advance_idle idle e
          have dropped : ((j,e) :: rest).filter (fun entry => entry.1 ≠ j) = rest.filter fun entry => entry.1 ≠ j := by simp
          rw [dropped]
          refine ih still other ⟨same.trans beside.world,fun k elsewhere => ?_⟩
          rw [advance_other elsewhere]
          exact beside.tasks k elsewhere
        · have held : ((j,e) :: rest).filter (fun entry => entry.1 ≠ i) = (j,e) :: rest.filter fun entry => entry.1 ≠ i := by
            simp [own]
          rw [held]
          refine ih ?_ (other.advance j e) (beside_advance beside own e)
          rw [advance_other (Ne.symm own)]
          exact idle
  exact general s ⟨rfl,fun _ _ => rfl⟩

end System

namespace Journal
variable {I E V S ε α : Type} [DecidableEq I] [Effect V S] {may : I → V → Bool} {i : I}

-- The record bears the name of an idle task nowhere.
theorem idle_unnamed {s : System (fun j => (Emits (may j) j : E → Journal I V S → _ → Prop)) ε α} (idle : (s.tasks i).Idle)
    (unnamed : ∀ entry ∈ s.world.history, entry.1 ≠ i) (schedule : List (I × E)) :
    ∀ entry ∈ (s.run schedule).world.history, entry.1 ≠ i := by
  induction schedule generalizing s with
  | nil => exact unnamed
  | cons entry rest ih =>
      obtain ⟨j,e⟩ := entry
      by_cases own : j = i
      · subst own
        obtain ⟨same,still⟩ := System.advance_idle idle e
        exact ih still (by rw [same]; exact unnamed)
      · refine ih (by rw [System.advance_other (Ne.symm own)]; exact idle) ?_
        rcases System.advance_kept s j e with same | ⟨new,mine,after⟩
        · rw [same]
          exact unnamed
        · rw [after,extend_history]
          intro entry member
          rcases List.mem_append.mp member with late | early
          · rw [(mine entry late).1]
            exact own
          · exact unnamed entry early

end Journal
end Concurrency
