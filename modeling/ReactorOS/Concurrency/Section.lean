import Mathlib.Order.Defs.PartialOrder
namespace Concurrency

variable {E W ε ε' α β : Type}

-- What one atomic step may do to the shared world under the answer `e` of its
-- environment. A step is often a sequence of smaller updates, hence the laws.
class Guarantee (G : E → W → W → Prop) : Prop where
  refl : ∀ e w, G e w w
  trans : ∀ {e a b c}, G e a b → G e b c → G e a c

-- A critical section: everything between taking a lock and releasing it. The
-- updates made before an error stay made, as they do under a real lock, and no
-- section can be written that leaves its guarantee.
structure Section (G : E → W → W → Prop) (ε α : Type) where
  run : E → W → Except ε α × W
  kept : ∀ e w, G e w (run e w).2

namespace Section
variable {G H : E → W → W → Prop}

def chain (first : Except ε α × W) (next : α → W → Except ε β × W) : Except ε β × W :=
  match first with
  | (.ok value,w) => next value w
  | (.error error,w) => (.error error,w)

@[simp] theorem chain_ok (value : α) (w : W) (next : α → W → Except ε β × W) :
    chain (.ok value,w) next = next value w := rfl

@[simp] theorem chain_error (error : ε) (w : W) (next : α → W → Except ε β × W) :
    chain (.error error,w) next = (.error error,w) := rfl

theorem chain_kept [Guarantee G] {first : Except ε α × W} {next : α → W → Except ε β × W}
    (one : G e w first.2) (rest : ∀ value after, G e after (next value after).2) :
    G e w (chain first next).2 := by
  rcases first with ⟨result,after⟩
  cases result with
  | ok value => exact Guarantee.trans one (rest value after)
  | error error => exact one

instance [Guarantee G] : Monad (Section G ε) where
  pure value := ⟨fun _ w => (.ok value,w),Guarantee.refl⟩
  bind s next := ⟨fun e w => chain (s.run e w) (fun value after => (next value).run e after),
    fun e w => chain_kept (s.kept e w) (fun value after => (next value).kept e after)⟩

def fail [Guarantee G] (error : ε) : Section G ε α :=
  ⟨fun _ w => (.error error,w),Guarantee.refl⟩

def recover [Guarantee G] (s : Section G ε α) (handler : ε → Section G ε α) : Section G ε α where
  run e w := match s.run e w with
    | (.ok value,after) => (.ok value,after)
    | (.error error,after) => (handler error).run e after
  kept e w := by
    have one := s.kept e w
    rcases equal : s.run e w with ⟨result,after⟩
    rw [equal] at one
    cases result with
    | ok value => exact one
    | error error => exact Guarantee.trans one ((handler error).kept e after)

instance [Guarantee G] : MonadExcept ε (Section G ε) where
  throw := fail
  tryCatch := recover

def attempt (s : Section G ε α) : Section G ε' (Except ε α) :=
  ⟨fun e w => (.ok (s.run e w).1,(s.run e w).2),s.kept⟩

def mapError (f : ε → ε') (s : Section G ε α) : Section G ε' α :=
  ⟨fun e w => ((s.run e w).1.mapError f,(s.run e w).2),s.kept⟩

-- A look at the world and at the answer that changes nothing.
def inspect [Guarantee G] (look : E → W → Except ε α) : Section G ε α :=
  ⟨fun e w => (look e w,w),Guarantee.refl⟩

def ofExcept [Guarantee G] (result : Except ε α) : Section G ε α := inspect fun _ _ => result

def update (change : E → W → W) (kept : ∀ e w, G e w (change e w)) : Section G ε Unit :=
  ⟨fun e w => (.ok (),change e w),kept⟩

-- A section that may do less may stand where more is allowed.
def relax (wider : ∀ e a b, G e a b → H e a b) (s : Section G ε α) : Section H ε α :=
  ⟨s.run,fun e w => wider e _ _ (s.kept e w)⟩

variable [Guarantee G]

@[simp] theorem run_pure (value : α) (e : E) (w : W) :
    (pure value : Section G ε α).run e w = (.ok value,w) := rfl

@[simp] theorem run_bind (s : Section G ε α) (next : α → Section G ε β) (e : E) (w : W) :
    (s >>= next).run e w = chain (s.run e w) (fun value after => (next value).run e after) := rfl

@[simp] theorem run_fail (error : ε) (e : E) (w : W) :
    (throw error : Section G ε α).run e w = (.error error,w) := rfl

@[simp] theorem run_inspect (look : E → W → Except ε α) (e : E) (w : W) :
    (inspect look : Section G ε α).run e w = (look e w,w) := rfl

@[simp] theorem run_ofExcept (result : Except ε α) (e : E) (w : W) :
    (ofExcept result : Section G ε α).run e w = (result,w) := rfl

omit [Guarantee G] in
@[simp] theorem run_update (change : E → W → W) (kept : ∀ e w, G e w (change e w)) (e : E) (w : W) :
    (update change kept : Section G ε Unit).run e w = (.ok (),change e w) := rfl

omit [Guarantee G] in
@[simp] theorem run_attempt (s : Section G ε α) (e : E) (w : W) :
    (s.attempt : Section G ε' (Except ε α)).run e w = (.ok (s.run e w).1,(s.run e w).2) := rfl

omit [Guarantee G] in
@[simp] theorem run_mapError (f : ε → ε') (s : Section G ε α) (e : E) (w : W) :
    (s.mapError f).run e w = ((s.run e w).1.mapError f,(s.run e w).2) := rfl

omit [Guarantee G] in
@[simp] theorem run_relax (wider : ∀ e a b, G e a b → H e a b) (s : Section G ε α) (e : E) (w : W) :
    (relax wider s).run e w = s.run e w := rfl

-- A section that only looks.
def Silent (s : Section G ε α) : Prop := ∀ e w, (s.run e w).2 = w

theorem silent_pure (value : α) : (pure value : Section G ε α).Silent := fun _ _ => rfl

theorem silent_throw (error : ε) : (throw error : Section G ε α).Silent := fun _ _ => rfl

theorem silent_inspect (look : E → W → Except ε α) : (inspect look : Section G ε α).Silent := fun _ _ => rfl

theorem silent_ofExcept (result : Except ε α) : (ofExcept result : Section G ε α).Silent := fun _ _ => rfl

theorem silent_bind {s : Section G ε α} {next : α → Section G ε β} (first : s.Silent)
    (rest : ∀ value, (next value).Silent) : (s >>= next).Silent := by
  intro e w
  have same := first e w
  rcases equal : s.run e w with ⟨result,after⟩
  rw [equal] at same
  simp only at same
  subst same
  cases result with
  | ok value => simpa [equal] using rest value e after
  | error error => simp [equal]

omit [Guarantee G] in
theorem silent_mapError {s : Section G ε α} (silent : s.Silent) (f : ε → ε') : (s.mapError f).Silent := silent

omit [Guarantee G] in
theorem silent_attempt {s : Section G ε α} (silent : s.Silent) :
    (s.attempt : Section G ε' (Except ε α)).Silent := silent

-- A section that keeps to a guarantee of its own, be it narrower than that of its task.
def Keeps (K : E → W → W → Prop) (s : Section G ε α) : Prop := ∀ e w, K e w (s.run e w).2

variable {K : E → W → W → Prop} [Guarantee K]

omit [Guarantee G] in
theorem keeps_silent {s : Section G ε α} (silent : s.Silent) : s.Keeps K := by
  intro e w
  rw [silent e w]
  exact Guarantee.refl e w

theorem keeps_bind {s : Section G ε α} {next : α → Section G ε β} (first : s.Keeps K)
    (rest : ∀ value, (next value).Keeps K) : (s >>= next).Keeps K :=
  fun e w => chain_kept (first e w) fun value after => rest value e after

end Section
end Concurrency
