import ReactorOS.Concurrency.Rely
namespace Concurrency

-- What an event does to the state it is recorded over.
class Effect (V S : Type) where
  apply : V → S → S

-- A shared state with the record of all that was done to it and by whom, newest
-- first. Nothing else changes the state, so the record determines it.
structure Journal (I V S : Type) where
  state : S
  history : List (I × V)

variable {I E V S P ε α β : Type}

namespace Journal
variable [Effect V S]

def emit (me : I) (event : V) (w : Journal I V S) : Journal I V S :=
  ⟨Effect.apply event w.state,(me,event) :: w.history⟩

def extend (w : Journal I V S) : List (I × V) → Journal I V S
  | [] => w
  | (i,event) :: older => (w.extend older).emit i event

def replay (init : S) : List (I × V) → S
  | [] => init
  | (_,event) :: older => Effect.apply event (replay init older)

@[simp] theorem emit_state (me : I) (event : V) (w : Journal I V S) :
    (w.emit me event).state = Effect.apply event w.state := rfl

@[simp] theorem emit_history (me : I) (event : V) (w : Journal I V S) :
    (w.emit me event).history = (me,event) :: w.history := rfl

@[simp] theorem extend_nil (w : Journal I V S) : w.extend [] = w := rfl

@[simp] theorem extend_cons (w : Journal I V S) (i : I) (event : V) (older : List (I × V)) :
    w.extend ((i,event) :: older) = (w.extend older).emit i event := rfl

theorem extend_append (w : Journal I V S) (newer older : List (I × V)) :
    w.extend (newer ++ older) = (w.extend older).extend newer := by
  induction newer with
  | nil => rfl
  | cons entry newer ih =>
      rcases entry with ⟨i,event⟩
      simp only [List.cons_append,extend_cons,ih]

theorem extend_history (w : Journal I V S) (new : List (I × V)) :
    (w.extend new).history = new ++ w.history := by
  induction new with
  | nil => rfl
  | cons entry new ih => rcases entry with ⟨i,event⟩; simp [ih]

-- What holds at every event of a record, given who caused it and what came before.
def Always (holds : List (I × V) → I → V → Prop) : List (I × V) → Prop
  | [] => True
  | (i,event) :: older => Always holds older ∧ holds older i event

instance Always.decide {holds : List (I × V) → I → V → Prop} [∀ older i event, Decidable (holds older i event)] :
    (history : List (I × V)) → Decidable (Always holds history)
  | [] => .isTrue trivial
  | (i,event) :: older =>
      have : Decidable (Always holds older) := Always.decide older
      inferInstanceAs (Decidable (Always holds older ∧ holds older i event))

theorem Always.event {holds : List (I × V) → I → V → Prop} {newer older : List (I × V)} {i : I} {event : V}
    (always : Always holds (newer ++ (i,event) :: older)) : holds older i event := by
  induction newer with
  | nil => exact always.2
  | cons entry newer ih => exact ih always.1

theorem Always.older {holds : List (I × V) → I → V → Prop} {newer older : List (I × V)} {i : I} {event : V}
    (always : Always holds (newer ++ (i,event) :: older)) : Always holds older := by
  induction newer with
  | nil => exact always.1
  | cons entry newer ih => exact ih always.1

theorem always_of {holds : List (I × V) → I → V → Prop} {history : List (I × V)}
    (every : ∀ newer i event older, history = newer ++ (i,event) :: older → holds older i event) :
    Always holds history := by
  induction history with
  | nil => trivial
  | cons entry history ih =>
      obtain ⟨i,event⟩ := entry
      refine ⟨ih ?_,every [] i event history rfl⟩
      intro newer j earlier older split
      exact every ((i,event) :: newer) j earlier older (by rw [split]; rfl)

def Consistent (init : S) (w : Journal I V S) : Prop := w.state = replay init w.history

theorem consistent_extend {init : S} {w : Journal I V S} (consistent : w.Consistent init)
    (new : List (I × V)) : (w.extend new).Consistent init := by
  induction new with
  | nil => exact consistent
  | cons entry new ih =>
      rcases entry with ⟨i,event⟩
      simp only [Consistent,extend_cons,emit_state,emit_history,replay] at ih ⊢
      rw [ih]

-- What one step records under the name of `me`, all of it of one kind.
def Records (kind : V → Prop) (me : I) (_ : E) (w after : Journal I V S) : Prop :=
  ∃ new : List (I × V), (∀ entry ∈ new, entry.1 = me ∧ kind entry.2) ∧ after = w.extend new

instance (kind : V → Prop) (me : I) : Guarantee (Records kind me : E → Journal I V S → _ → Prop) where
  refl _ w := ⟨[],by simp,rfl⟩
  trans := by
    rintro _ a _ _ ⟨first,one,rfl⟩ ⟨second,two,rfl⟩
    refine ⟨second ++ first,?_,(extend_append a second first).symm⟩
    intro entry member
    rcases List.mem_append.mp member with old | old
    · exact two entry old
    · exact one entry old

-- The guarantee of a task in a journaled world: whatever it does it records under
-- its own name, and only events that it may cause.
def Emits (may : V → Bool) (me : I) (_ : E) (w after : Journal I V S) : Prop :=
  ∃ new : List (I × V), (∀ entry ∈ new, entry.1 = me ∧ may entry.2 = true) ∧ after = w.extend new

instance (may : V → Bool) (me : I) : Guarantee (Emits may me : E → Journal I V S → _ → Prop) :=
  inferInstanceAs (Guarantee (Records (fun event => may event = true) me))

-- Code that runs in a journaled world: in one atomic step, and with steps of others
-- in between.
abbrev Locked (E S : Type) [Effect V S] (may : V → Bool) (me : I) (ε α : Type) : Type :=
  Section (Emits may me : E → Journal I V S → Journal I V S → Prop) ε α
abbrev Async (E S : Type) [Effect V S] (may : V → Bool) (me : I) (ε α : Type) : Type :=
  Task (Emits may me : E → Journal I V S → Journal I V S → Prop) ε α

-- Steps of everyone but `me`.
def Others (me : I) (w after : Journal I V S) : Prop :=
  ∃ new : List (I × V), (∀ entry ∈ new, entry.1 ≠ me) ∧ after = w.extend new

theorem Others.refl (me : I) (w : Journal I V S) : Others me w w := ⟨[],by simp,rfl⟩

theorem Others.trans {me : I} {a b c : Journal I V S} : Others me a b → Others me b c → Others me a c := by
  rintro ⟨first,one,rfl⟩ ⟨second,two,rfl⟩
  refine ⟨second ++ first,?_,(extend_append a second first).symm⟩
  intro entry member
  rcases List.mem_append.mp member with old | old
  · exact two entry old
  · exact one entry old

theorem emits_others {may : V → Bool} {me other : I} (different : other ≠ me) {e : E}
    {w after : Journal I V S} : Emits may other e w after → Others me w after := by
  rintro ⟨new,own,rfl⟩
  exact ⟨new,fun entry member => (own entry member).1 ▸ different,rfl⟩

theorem emits_wider {may may' : V → Bool} (wider : ∀ event, may event = true → may' event = true)
    {me : I} (e : E) (w after : Journal I V S) : Emits may me e w after → Emits may' me e w after := by
  rintro ⟨new,own,rfl⟩
  exact ⟨new,fun entry member => ⟨(own entry member).1,wider _ (own entry member).2⟩,rfl⟩

end Journal
end Concurrency
