import ReactorOS.Concurrency.Section
namespace Concurrency

-- A cooperative task: between two atomic steps every other task may run. The
-- recursion is well founded, so a task that loops is modelled by its first n rounds.
inductive Task {E W : Type} (G : E → W → W → Prop) (ε α : Type) : Type where
  | done (result : Except ε α)
  | step (update : E → W → W) (kept : ∀ e w, G e w (update e w)) (next : E → W → Task G ε α)

namespace Task
variable {E W ε ε' α β : Type} {G H : E → W → W → Prop}

def bind : Task G ε α → (α → Task G ε β) → Task G ε β
  | .done (.ok value),k => k value
  | .done (.error error),_ => .done (.error error)
  | .step update kept next,k => .step update kept fun e w => (next e w).bind k

-- `match f().await { Ok(..) => .., Err(..) => .. }`: the outcome becomes a value.
def attempt : Task G ε α → Task G ε' (Except ε α)
  | .done result => .done (.ok result)
  | .step update kept next => .step update kept fun e w => (next e w).attempt

def mapError (f : ε → ε') : Task G ε α → Task G ε' α
  | .done (.ok value) => .done (.ok value)
  | .done (.error error) => .done (.error (f error))
  | .step update kept next => .step update kept fun e w => (next e w).mapError f

def relax (wider : ∀ e a b, G e a b → H e a b) : Task G ε α → Task H ε α
  | .done result => .done result
  | .step update kept next =>
      .step update (fun e w => wider e _ _ (kept e w)) fun e w => (next e w).relax wider

def ofSection (s : Section G ε α) : Task G ε α :=
  .step (fun e w => (s.run e w).2) s.kept fun e w => .done (s.run e w).1

instance : Monad (Task G ε) where
  pure value := .done (.ok value)
  bind := bind

instance : MonadExceptOf ε (Task G ε) where
  throw error := .done (.error error)
  tryCatch t handler := t.attempt >>= fun
    | .ok value => .done (.ok value)
    | .error error => handler error

def ofExcept (result : Except ε α) : Task G ε α := .done result

-- The task alone: no other task runs in between, and the environment answers the
-- n-th step by `answers n`.
def drive : Task G ε α → (Nat → E) → W → Except ε α × W
  | .done result,_,w => (result,w)
  | .step update _ next,answers,w =>
      (next (answers 0) w).drive (fun n => answers (n+1)) (update (answers 0) w)

-- Decides of a task of known steps whether it has come to its end, and how.
def succeeded : Task G ε Unit → Bool
  | .done (.ok ()) => true
  | _ => false

theorem of_succeeded {t : Task G ε Unit} (ended : t.succeeded = true) : t = .done (.ok ()) := by
  cases t with
  | done result =>
      cases result with
      | ok value => rfl
      | error error => cases ended
  | step update kept next => cases ended

@[simp] theorem drive_done (result : Except ε α) (answers : Nat → E) (w : W) :
    (done result : Task G ε α).drive answers w = (result,w) := rfl

@[simp] theorem pure_done (value : α) : (pure value : Task G ε α) = .done (.ok value) := rfl

@[simp] theorem throw_done (error : ε) : (throw error : Task G ε α) = .done (.error error) := rfl

@[simp] theorem bind_ok (value : α) (k : α → Task G ε β) : (done (.ok value) >>= k) = k value := rfl

@[simp] theorem bind_error (error : ε) (k : α → Task G ε β) :
    (done (.error error) >>= k) = done (.error error) := rfl

@[simp] theorem bind_step (update : E → W → W) (kept : ∀ e w, G e w (update e w))
    (next : E → W → Task G ε α) (k : α → Task G ε β) :
    (step update kept next >>= k) = step update kept fun e w => next e w >>= k := rfl

section Drive
variable (answers : Nat → E) (w : W)

@[simp] theorem drive_section (s : Section G ε α) : (ofSection s).drive answers w = s.run (answers 0) w := rfl

theorem drive_section_bind (s : Section G ε α) (k : α → Task G ε β) : (ofSection s >>= k).drive answers w =
    match s.run (answers 0) w with
    | (.ok value,after) => (k value).drive (fun n => answers (n+1)) after
    | (.error error,after) => (.error error,after) := by
  unfold ofSection
  rw [bind_step,drive]
  rcases s.run (answers 0) w with ⟨result,after⟩
  cases result with
  | ok value => rfl
  | error error => rfl

@[simp] theorem attempt_section (s : Section G ε α) :
    ((ofSection s).attempt : Task G ε' (Except ε α)) = ofSection s.attempt := rfl

@[simp] theorem mapError_section (f : ε → ε') (s : Section G ε α) :
    ((ofSection s).mapError f : Task G ε' α) = ofSection (s.mapError f) := by
  unfold ofSection
  rw [mapError]
  congr 1
  funext e w
  simp only [Section.run_mapError]
  cases (s.run e w).1 <;> rfl

@[simp] theorem relax_section (wider : ∀ e a b, G e a b → H e a b) (s : Section G ε α) :
    (ofSection s).relax wider = ofSection (s.relax wider) := rfl

theorem relax_bind (wider : ∀ e a b, G e a b → H e a b) (t : Task G ε α) (k : α → Task G ε β) :
    (t >>= k).relax wider = t.relax wider >>= fun value => (k value).relax wider := by
  induction t with
  | done result => cases result <;> rfl
  | step update kept next ih =>
      rw [bind_step]
      simp only [relax,bind_step]
      congr 1
      funext e w
      exact ih e w

theorem bind_assoc (t : Task G ε α) (k : α → Task G ε β) {γ : Type} (l : β → Task G ε γ) :
    ((t >>= k) >>= l) = t >>= fun value => k value >>= l := by
  induction t with
  | done result => cases result <;> rfl
  | step update kept next ih =>
      simp only [bind_step]
      congr 1
      funext e w
      exact ih e w

@[simp] theorem relax_done (wider : ∀ e a b, G e a b → H e a b) (result : Except ε α) :
    (done result : Task G ε α).relax wider = .done result := rfl

end Drive

end Task
end Concurrency
