import ReactorOS.Concurrency.Behaviour
namespace Concurrency

namespace Task
variable {E W ε ε' α β : Type} {G H : E → W → W → Prop} {allows : E → Prop} {w : W}

-- What holds at the end of a task that nobody interrupts, whatever its environment
-- answers among what `allows` lets through.
def alone (allows : E → Prop) : Task G ε α → W → (Except ε α → W → Prop) → Prop
  | .done result,w,P => P result w
  | .step update _ next,w,P => ∀ e, allows e → (next e w).alone allows (update e w) P

theorem alone_drive {t : Task G ε α} {P : Except ε α → W → Prop} (holds : t.alone allows w P) {answers : Nat → E}
    (allowed : ∀ n, allows (answers n)) : P (t.drive answers w).1 (t.drive answers w).2 := by
  induction t generalizing w answers with
  | done result => exact holds
  | step update kept next ih => exact ih _ _ (holds _ (allowed 0)) fun n => allowed (n+1)

@[simp] theorem alone_done (result : Except ε α) (P : Except ε α → W → Prop) :
    (done result : Task G ε α).alone allows w P ↔ P result w := Iff.rfl

theorem alone_mono {t : Task G ε α} {P Q : Except ε α → W → Prop} (implies : ∀ result after, P result after → Q result after)
    (holds : t.alone allows w P) : t.alone allows w Q := by
  induction t generalizing w with
  | done result => exact implies _ _ holds
  | step update kept next ih =>
      intro e allowed
      exact ih e w (holds e allowed)

theorem alone_bind (t : Task G ε α) (k : α → Task G ε β) (P : Except ε β → W → Prop) :
    (t >>= k).alone allows w P ↔ t.alone allows w fun result after => match result with
      | .ok value => (k value).alone allows after P
      | .error error => P (.error error) after := by
  induction t generalizing w with
  | done result => cases result <;> exact Iff.rfl
  | step update kept next ih =>
      constructor
      · intro holds e allowed
        exact (ih e w).mp (holds e allowed)
      · intro holds e allowed
        exact (ih e w).mpr (holds e allowed)

theorem alone_attempt (t : Task G ε α) (P : Except ε' (Except ε α) → W → Prop) :
    (t.attempt).alone allows w P ↔ t.alone allows w fun result after => P (.ok result) after := by
  induction t generalizing w with
  | done result => exact Iff.rfl
  | step update kept next ih =>
      constructor
      · intro holds e allowed
        exact (ih e w).mp (holds e allowed)
      · intro holds e allowed
        exact (ih e w).mpr (holds e allowed)

theorem alone_mapError (f : ε → ε') (t : Task G ε α) (P : Except ε' α → W → Prop) :
    (t.mapError f).alone allows w P ↔ t.alone allows w fun result after => P (result.mapError f) after := by
  induction t generalizing w with
  | done result => cases result <;> exact Iff.rfl
  | step update kept next ih =>
      constructor
      · intro holds e allowed
        exact (ih e w).mp (holds e allowed)
      · intro holds e allowed
        exact (ih e w).mpr (holds e allowed)

theorem alone_relax (wider : ∀ e a b, G e a b → H e a b) (t : Task G ε α) (P : Except ε α → W → Prop) :
    (t.relax wider).alone allows w P ↔ t.alone allows w P := by
  induction t generalizing w with
  | done result => exact Iff.rfl
  | step update kept next ih =>
      constructor
      · intro holds e allowed
        exact (ih e w).mp (holds e allowed)
      · intro holds e allowed
        exact (ih e w).mpr (holds e allowed)

-- One part after another, by what is known of the first.
theorem alone_seq {t : Task G ε α} {k : α → Task G ε β} {F : Except ε α → W → Prop} {P : Except ε β → W → Prop}
    (first : t.alone allows w F) (ok : ∀ value after, F (.ok value) after → (k value).alone allows after P)
    (error : ∀ err after, F (.error err) after → P (.error err) after) : (t >>= k).alone allows w P := by
  rw [alone_bind]
  apply alone_mono _ first
  intro result after reached
  cases result with
  | ok value => exact ok value after reached
  | error err => exact error err after reached

-- The second part goes on with the answers that the first has not used up.
theorem drive_seq {t : Task G ε α} {k : α → Task G ε β} {answers : Nat → E} {F : Except ε α → W → Prop}
    {P : Except ε β → W → Prop} (first : F (t.drive answers w).1 (t.drive answers w).2)
    (ok : ∀ value after later, (∀ n, ∃ m, later n = answers m) → F (.ok value) after →
      P ((k value).drive later after).1 ((k value).drive later after).2)
    (error : ∀ err after, F (.error err) after → P (.error err) after) :
    P ((t >>= k).drive answers w).1 ((t >>= k).drive answers w).2 := by
  induction t generalizing w answers with
  | done result =>
      cases result with
      | ok value => exact ok value w answers (fun n => ⟨n,rfl⟩) first
      | error err => exact error err w first
  | step update kept next ih =>
      refine ih (answers 0) w first fun value after later shifted => ok value after later fun n => ?_
      obtain ⟨m,same⟩ := shifted n
      exact ⟨m+1,same⟩

-- Answers that take a task to its end can be followed by any others.
theorem drive_then (t : Task G ε α) (k : α → Task G ε β) (early later : Nat → E) {value : α} {mid : W}
    (ran : t.drive early w = (.ok value,mid)) : ∃ answers : Nat → E,
      (∀ n, (∃ m, answers n = early m) ∨ ∃ m, answers n = later m) ∧ t.drive answers w = (.ok value,mid) ∧
        (t >>= k).drive answers w = (k value).drive later mid := by
  induction t generalizing w early with
  | done result =>
      cases ran
      exact ⟨later,fun n => .inr ⟨n,rfl⟩,rfl,rfl⟩
  | step update kept next ih =>
      obtain ⟨answers,listed,first,whole⟩ := ih _ _ (fun n => early (n+1)) ran
      refine ⟨@Nat.rec (fun _ => E) (early 0) fun n _ => answers n,fun n => ?_,first,whole⟩
      cases n with
      | zero => exact .inl ⟨0,rfl⟩
      | succ n =>
          obtain ⟨m,same⟩ | after := listed n
          · exact .inl ⟨m+1,same⟩
          · exact .inr after

-- A postcondition by how the task ends.
def Ends (ok : α → W → Prop) (error : W → Prop) : Except ε α → W → Prop
  | .ok value,after => ok value after
  | .error _,after => error after

-- What a task returns in any company it returns alone.
theorem alone_of_behaves {t : Task G ε α} {Q : Except ε α → Prop} (holds : t.behaves fun _ result => Q result) :
    t.alone allows w fun result _ => Q result := by
  induction t generalizing w with
  | done result => exact holds
  | step update kept next ih =>
      intro e allowed
      exact ih e w (behaves_mono (fun _ _ kept => kept) (holds e w))

-- Every step of a task keeps the guarantee of the task.
theorem each_kept (t : Task G ε α) : t.each fun moment => G moment.answer moment.before moment.after := by
  induction t with
  | done result => exact each_done _ result
  | step update kept next ih =>
      intro e w
      apply behaves_mono _ (ih e w)
      intro later result rest moment member
      rcases List.mem_cons.mp member with rfl | after
      · exact kept e w
      · exact rest moment after

-- What every step keeps to the whole task keeps to.
theorem alone_each {R : W → W → Prop} (refl : ∀ a, R a a) (trans : ∀ a b c, R a b → R b c → R a c) {t : Task G ε α}
    (each : t.each fun moment => R moment.before moment.after) : t.alone allows w fun _ after => R w after := by
  induction t generalizing w with
  | done result => exact refl w
  | step update kept next ih =>
      intro e allowed
      obtain ⟨later,result,every⟩ := behaves_ends e w (each e w)
      have step := every _ List.mem_cons_self
      have rest := ih e w (w := update e w) (behaves_mono
        (fun later result every moment member => every moment (List.mem_cons_of_mem _ member)) (each e w))
      exact alone_mono (fun _ after reached => trans _ _ _ step reached) rest

end Task
end Concurrency
