import ReactorOS.Concurrency.Alone
namespace Concurrency

namespace Task
variable {E W ε ε' α β : Type} {G : E → W → W → Prop} {allows : E → Prop} {I J : W → Prop} {w : W}

-- What a crash after the first `n` steps leaves of the world. A task that has ended
-- takes no further step.
def cut : Task G ε α → (Nat → E) → Nat → W → W
  | .done _,_,_,w => w
  | .step _ _ _,_,0,w => w
  | .step update _ next,answers,n+1,w =>
      (next (answers 0) w).cut (fun n => answers (n+1)) n (update (answers 0) w)

-- `I` holds wherever the task is cut, and `P` where it ends.
def guarded (allows : E → Prop) (I : W → Prop) : Task G ε α → W → (Except ε α → W → Prop) → Prop
  | .done result,w,P => I w ∧ P result w
  | .step update _ next,w,P => I w ∧ ∀ e, allows e → (next e w).guarded allows I (update e w) P

-- The environment can answer so that the task ends in `P`.
def can (allows : E → Prop) : Task G ε α → W → (Except ε α → W → Prop) → Prop
  | .done result,w,P => P result w
  | .step update _ next,w,P => ∃ e, allows e ∧ (next e w).can allows (update e w) P

-- A task that may end before any of its steps, with a result of its own, as the answer says.
def breaking (stops : E → Option (Except ε α)) (idle : ∀ e w, G e w w) : Task G ε α → Task G ε α
  | .done result => .done result
  | .step update kept next => .step (fun _ w => w) idle fun e _ => match stops e with
      | some result => .done result
      | none => .step update kept fun e w => (next e w).breaking stops idle

@[simp] theorem guarded_done (result : Except ε α) (P : Except ε α → W → Prop) :
    (done result : Task G ε α).guarded allows I w P ↔ I w ∧ P result w := Iff.rfl

@[simp] theorem can_done (result : Except ε α) (P : Except ε α → W → Prop) :
    (done result : Task G ε α).can allows w P ↔ P result w := Iff.rfl

theorem guarded_section (s : Section G ε α) (P : Except ε α → W → Prop) : (ofSection s).guarded allows I w P ↔
    I w ∧ ∀ e, allows e → I (s.run e w).2 ∧ P (s.run e w).1 (s.run e w).2 := Iff.rfl

theorem guarded_here {t : Task G ε α} {P : Except ε α → W → Prop} (holds : t.guarded allows I w P) : I w := by
  cases t with
  | done result => exact holds.1
  | step update kept next => exact holds.1

theorem guarded_cut {t : Task G ε α} {P : Except ε α → W → Prop} (holds : t.guarded allows I w P) {answers : Nat → E}
    (allowed : ∀ n, allows (answers n)) (n : Nat) : I (t.cut answers n w) := by
  induction t generalizing w answers n with
  | done result => exact holds.1
  | step update kept next ih =>
      cases n with
      | zero => exact holds.1
      | succ n => exact ih _ _ (holds.2 _ (allowed 0)) (fun n => allowed (n+1)) n

-- A crash at any point under any answers: the two ways to say it.
theorem cut_iff_guarded (t : Task G ε α) {e : E} (possible : allows e) :
    (∀ answers : Nat → E, (∀ n, allows (answers n)) → ∀ n, I (t.cut answers n w)) ↔
      t.guarded allows I w fun _ _ => True := by
  constructor
  · intro everywhere
    induction t generalizing w with
    | done result => exact ⟨everywhere (fun _ => e) (fun _ => possible) 0,trivial⟩
    | step update kept next ih =>
        have here := everywhere (fun _ => e) (fun _ => possible) 0
        have later : ∀ e, allows e → (next e w).guarded allows I (update e w) fun _ _ => True := by
          intro e allowed
          apply ih
          intro answers others n
          have there := everywhere (fun n => n.casesOn e answers) (by intro n; cases n with
            | zero => exact allowed
            | succ n => exact others n) (n+1)
          exact there
        exact ⟨here,later⟩
  · intro holds answers allowed n
    exact guarded_cut holds allowed n

theorem always_cut_iff (t : Task G ε α) (e : E) :
    (∀ answers n, I (t.cut answers n w)) ↔ t.guarded (fun _ => True) I w fun _ _ => True := by
  rw [←cut_iff_guarded t (e := e) trivial]
  exact ⟨fun everywhere answers _ n => everywhere answers n,fun everywhere answers n => everywhere answers (fun _ => trivial) n⟩

theorem guarded_mono {t : Task G ε α} {P Q : Except ε α → W → Prop} (weaker : ∀ after, I after → J after)
    (implies : ∀ result after, I after → P result after → Q result after) (holds : t.guarded allows I w P) :
    t.guarded allows J w Q := by
  induction t generalizing w with
  | done result => exact ⟨weaker _ holds.1,implies _ _ holds.1 holds.2⟩
  | step update kept next ih => exact ⟨weaker _ holds.1,fun e allowed => ih e w (holds.2 e allowed)⟩

-- Wherever it breaks off, it has not gone further than the whole task goes.
theorem guarded_breaking {stops : E → Option (Except ε α)} {idle : ∀ e w, G e w w} {t : Task G ε α}
    {P : Except ε α → W → Prop} (holds : t.guarded allows I w P) :
    (t.breaking stops idle).guarded allows I w fun _ _ => True := by
  induction t generalizing w with
  | done result => exact ⟨holds.1,trivial⟩
  | step update kept next ih =>
      rw [breaking]
      refine ⟨holds.1,fun e _ => ?_⟩
      dsimp only
      cases stops e with
      | some result => exact ⟨holds.1,trivial⟩
      | none => exact ⟨holds.1,fun e allowed => ih e w (holds.2 e allowed)⟩

theorem can_mono {t : Task G ε α} {P Q : Except ε α → W → Prop} (implies : ∀ result after, P result after → Q result after)
    (holds : t.can allows w P) : t.can allows w Q := by
  induction t generalizing w with
  | done result => exact implies _ _ holds
  | step update kept next ih =>
      obtain ⟨e,allowed,rest⟩ := holds
      exact ⟨e,allowed,ih e w rest⟩

theorem guarded_bind (t : Task G ε α) (k : α → Task G ε β) (P : Except ε β → W → Prop) :
    (t >>= k).guarded allows I w P ↔ t.guarded allows I w fun result after => match result with
      | .ok value => (k value).guarded allows I after P
      | .error error => P (.error error) after := by
  induction t generalizing w with
  | done result =>
      cases result with
      | ok value => exact ⟨fun holds => ⟨guarded_here holds,holds⟩,And.right⟩
      | error error => exact Iff.rfl
  | step update kept next ih =>
      constructor
      · intro holds
        exact ⟨holds.1,fun e allowed => (ih e w).mp (holds.2 e allowed)⟩
      · intro holds
        exact ⟨holds.1,fun e allowed => (ih e w).mpr (holds.2 e allowed)⟩

theorem can_bind (t : Task G ε α) (k : α → Task G ε β) (P : Except ε β → W → Prop) :
    (t >>= k).can allows w P ↔ t.can allows w fun result after => match result with
      | .ok value => (k value).can allows after P
      | .error error => P (.error error) after := by
  induction t generalizing w with
  | done result => cases result <;> exact Iff.rfl
  | step update kept next ih =>
      constructor
      · intro holds
        obtain ⟨e,allowed,rest⟩ := holds
        exact ⟨e,allowed,(ih e w).mp rest⟩
      · intro holds
        obtain ⟨e,allowed,rest⟩ := holds
        exact ⟨e,allowed,(ih e w).mpr rest⟩

theorem guarded_attempt (t : Task G ε α) (P : Except ε' (Except ε α) → W → Prop) :
    (t.attempt).guarded allows I w P ↔ t.guarded allows I w fun result after => P (.ok result) after := by
  induction t generalizing w with
  | done result => exact Iff.rfl
  | step update kept next ih =>
      constructor
      · intro holds
        exact ⟨holds.1,fun e allowed => (ih e w).mp (holds.2 e allowed)⟩
      · intro holds
        exact ⟨holds.1,fun e allowed => (ih e w).mpr (holds.2 e allowed)⟩

theorem can_attempt (t : Task G ε α) (P : Except ε' (Except ε α) → W → Prop) :
    (t.attempt).can allows w P ↔ t.can allows w fun result after => P (.ok result) after := by
  induction t generalizing w with
  | done result => exact Iff.rfl
  | step update kept next ih =>
      constructor
      · intro holds
        obtain ⟨e,allowed,rest⟩ := holds
        exact ⟨e,allowed,(ih e w).mp rest⟩
      · intro holds
        obtain ⟨e,allowed,rest⟩ := holds
        exact ⟨e,allowed,(ih e w).mpr rest⟩

theorem guarded_mapError (f : ε → ε') (t : Task G ε α) (P : Except ε' α → W → Prop) :
    (t.mapError f).guarded allows I w P ↔ t.guarded allows I w fun result after => P (result.mapError f) after := by
  induction t generalizing w with
  | done result => cases result <;> exact Iff.rfl
  | step update kept next ih =>
      constructor
      · intro holds
        exact ⟨holds.1,fun e allowed => (ih e w).mp (holds.2 e allowed)⟩
      · intro holds
        exact ⟨holds.1,fun e allowed => (ih e w).mpr (holds.2 e allowed)⟩

theorem can_mapError (f : ε → ε') (t : Task G ε α) (P : Except ε' α → W → Prop) :
    (t.mapError f).can allows w P ↔ t.can allows w fun result after => P (result.mapError f) after := by
  induction t generalizing w with
  | done result => cases result <;> exact Iff.rfl
  | step update kept next ih =>
      constructor
      · intro holds
        obtain ⟨e,allowed,rest⟩ := holds
        exact ⟨e,allowed,(ih e w).mp rest⟩
      · intro holds
        obtain ⟨e,allowed,rest⟩ := holds
        exact ⟨e,allowed,(ih e w).mpr rest⟩

-- One part after another, by what is known of the first.
theorem guarded_seq {t : Task G ε α} {k : α → Task G ε β} {F : Except ε α → W → Prop} {P : Except ε β → W → Prop}
    (first : t.guarded allows I w F) (ok : ∀ value after, I after → F (.ok value) after → (k value).guarded allows I after P)
    (error : ∀ err after, I after → F (.error err) after → P (.error err) after) : (t >>= k).guarded allows I w P := by
  rw [guarded_bind]
  apply guarded_mono (fun _ kept => kept) _ first
  intro result after here reached
  cases result with
  | ok value => exact ok value after here reached
  | error err => exact error err after here reached

theorem guarded_any (t : Task G ε α) : t.guarded allows (fun _ => True) w fun _ _ => True := by
  induction t generalizing w with
  | done result => exact ⟨trivial,trivial⟩
  | step update kept next ih => exact ⟨trivial,fun e _ => ih e _⟩

-- A part of which nothing need be known.
theorem guarded_skip {t : Task G ε α} {k : α → Task G ε β} {P : Except ε β → W → Prop}
    (ok : ∀ value after, (k value).guarded allows (fun _ => True) after P) (error : ∀ err after, P (.error err) after) :
    (t >>= k).guarded allows (fun _ => True) w P :=
  guarded_seq (guarded_any t) (fun value after _ _ => ok value after) fun err after _ _ => error err after

theorem can_seq {t : Task G ε α} {k : α → Task G ε β} {F : α → W → Prop} {P : Except ε β → W → Prop}
    (first : t.can allows w (Ends F fun _ => False)) (rest : ∀ value after, F value after → (k value).can allows after P) :
    (t >>= k).can allows w P := by
  rw [can_bind]
  apply can_mono _ first
  intro result after reached
  cases result with
  | ok value => exact rest value after reached
  | error err => exact reached.elim

-- What holds of every end holds of an end that can be reached.
theorem guarded_can {t : Task G ε α} {P Q : Except ε α → W → Prop} (holds : t.guarded allows I w P)
    (reachable : t.can allows w Q) : ∃ result after, I after ∧ P result after ∧ Q result after := by
  induction t generalizing w with
  | done result => exact ⟨result,w,holds.1,holds.2,reachable⟩
  | step update kept next ih =>
      obtain ⟨e,allowed,rest⟩ := reachable
      exact ih e w (holds.2 e allowed) rest

theorem can_guarded {t : Task G ε α} {P Q : Except ε α → W → Prop} (holds : t.guarded allows I w P)
    (reachable : t.can allows w Q) : t.can allows w fun result after => I after ∧ P result after ∧ Q result after := by
  induction t generalizing w with
  | done result => exact ⟨holds.1,holds.2,reachable⟩
  | step update kept next ih =>
      obtain ⟨e,allowed,rest⟩ := reachable
      exact ⟨e,allowed,ih e w (holds.2 e allowed) rest⟩

-- Where the first part can come to, the rest is guarded from there.
theorem guarded_after {t : Task G ε α} {k : α → Task G ε β} {F : α → W → Prop} {P : Except ε β → W → Prop}
    (holds : (t >>= k).guarded allows I w P) (first : t.can allows w (Ends F fun _ => False)) :
    ∃ value after, F value after ∧ (k value).guarded allows I after P := by
  rw [guarded_bind] at holds
  obtain ⟨result,after,here,later,reached⟩ := guarded_can holds first
  cases result with
  | ok value => exact ⟨value,after,reached,later⟩
  | error err => exact reached.elim

theorem guarded_and {t : Task G ε α} {P Q : Except ε α → W → Prop} (one : t.guarded allows I w P)
    (two : t.guarded allows J w Q) :
    t.guarded allows (fun after => I after ∧ J after) w fun result after => P result after ∧ Q result after := by
  induction t generalizing w with
  | done result => exact ⟨⟨one.1,two.1⟩,one.2,two.2⟩
  | step update kept next ih => exact ⟨⟨one.1,two.1⟩,fun e allowed => ih e w (one.2 e allowed) (two.2 e allowed)⟩

-- What every step keeps to holds at every cut.
theorem guarded_each {R : W → W → Prop} (refl : ∀ a, R a a) (trans : ∀ a b c, R a b → R b c → R a c) {t : Task G ε α}
    (each : t.each fun moment => R moment.before moment.after) : t.guarded allows (R w) w fun _ _ => True := by
  induction t generalizing w with
  | done result => exact ⟨refl w,trivial⟩
  | step update kept next ih =>
      constructor
      · exact refl w
      · intro e allowed
        obtain ⟨later,result,every⟩ := behaves_ends e w (each e w)
        have step := every _ List.mem_cons_self
        have rest := ih e w (w := update e w) (behaves_mono
          (fun later result every moment member => every moment (List.mem_cons_of_mem _ member)) (each e w))
        exact guarded_mono (fun _ reached => trans _ _ _ step reached) (fun _ _ _ _ => trivial) rest

-- What a run that is not cut comes to.
theorem guarded_drive {t : Task G ε α} {P : Except ε α → W → Prop} (holds : t.guarded allows I w P) {answers : Nat → E}
    (allowed : ∀ n, allows (answers n)) : P (t.drive answers w).1 (t.drive answers w).2 := by
  induction t generalizing w answers with
  | done result => exact holds.2
  | step update kept next ih => exact ih _ _ (holds.2 _ (allowed 0)) fun n => allowed (n+1)

end Task
end Concurrency
