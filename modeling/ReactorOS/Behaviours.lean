import ReactorOS.Concurrency.Behaviour
import ReactorOS.Interlock
namespace ReactorOS
open Concurrency Journal Task
variable {may may' : Event → Bool} {me : TaskId} {ε ε' α β : Type}

abbrev Moments : Type := List (Moment Env World)

-- Rules for the forms that handlers are written in.
theorem behaves_locked {s : Critical may me ε α} {P : Moments → Except ε α → Prop} :
    (locked s : Handler may me ε α).behaves P ↔ ∀ e w, P [⟨e,w,(s.run e w).2⟩] (s.run e w).1 := Iff.rfl

theorem behaves_within [Within may may'] {t : Handler may me ε α} {P : Moments → Except ε α → Prop} :
    (within t : Handler may' me ε α).behaves P ↔ t.behaves P := behaves_relax _ t P

theorem behaves_orInternal {t : Handler may me Failure α} {P : Moments → Except AppError α → Prop} :
    (orInternal t : Handler may me AppError α).behaves P ↔ t.behaves fun moments result => P moments (result.mapError .internal) :=
  behaves_mapError _ t P

theorem behaves_catching {t : Handler may me ε α} {handler : ε → Handler may me ε' α} {P : Moments → Except ε' α → Prop} :
    (catching t handler : Handler may me ε' α).behaves P ↔ t.behaves fun first result => match result with
      | .ok value => P first (.ok value)
      | .error error => (handler error).behaves fun later => P (first ++ later) := by
  unfold catching
  rw [behaves_bind,behaves_attempt]
  constructor
  · intro holds
    apply behaves_mono _ holds
    intro first result reached
    cases result with
    | ok value => simpa using reached
    | error error => exact reached
  · intro holds
    apply behaves_mono _ holds
    intro first result reached
    cases result with
    | ok value => simpa using reached
    | error error => exact reached

theorem behaves_ignoring {t : Handler may me ε Unit} {P : Moments → Except ε' Unit → Prop} :
    (ignoring t : Handler may me ε' Unit).behaves P ↔ t.behaves fun moments _ => P moments (.ok ()) := by
  unfold ignoring
  rw [behaves_bind,behaves_attempt]
  simp

-- One part after another, by what is known of the first.
theorem behaves_seq {t : Handler may me ε α} {k : α → Handler may me ε β} {F : Moments → Except ε α → Prop}
    {P : Moments → Except ε β → Prop} (first : t.behaves F)
    (ok : ∀ moments value, F moments (.ok value) → (k value).behaves fun later => P (moments ++ later))
    (error : ∀ moments err, F moments (.error err) → P moments (.error err)) : (t >>= k).behaves P := by
  rw [behaves_bind]
  apply behaves_mono _ first
  intro moments result reached
  cases result with
  | ok value => exact ok moments value reached
  | error err => exact error moments err reached

theorem behaves_ofExcept {found : Except ε α} {k : α → Handler may me ε β} {P : Moments → Except ε β → Prop}
    (error : ∀ err, found = .error err → P [] (.error err)) (ok : ∀ value, found = .ok value → (k value).behaves P) :
    (Task.ofExcept found >>= k).behaves P := by
  cases found with
  | ok value => exact ok value rfl
  | error err => exact error err rfl

theorem each_within {R : Moment Env World → Prop} [Within may may'] {t : Handler may me ε α} (holds : t.each R) :
    (within t : Handler may' me ε α).each R := behaves_within.mpr holds

theorem each_catching {R : Moment Env World → Prop} {t : Handler may me ε α} {handler : ε → Handler may me ε' α}
    (first : t.each R) (rest : ∀ error, (handler error).each R) : (catching t handler : Handler may me ε' α).each R := by
  unfold catching
  apply each_bind (each_attempt first)
  intro result
  cases result with
  | ok value => exact each_done R _
  | error error => exact rest error

-- What ends in a throw does not return.
def Fails (_ : Moments) (result : Except ε α) : Prop := ∀ value, result ≠ .ok value

theorem fails_throw (err : ε) : (throw err : Handler may me ε α).behaves Fails := by
  intro value returned
  cases returned

theorem fails_after {t : Handler may me ε α} {k : α → Handler may me ε β} (rest : ∀ value, (k value).behaves Fails) :
    (t >>= k).behaves Fails := by
  apply behaves_seq (behaves_true t)
  · intro moments value _
    exact rest value
  · intro moments error _ other returned
    cases returned

end ReactorOS
