import ReactorOS.Concurrency.Behaviour
namespace Concurrency

-- Tasks that have an effect which cannot be taken back. Once it is made, an error has to
-- leave the world in a state that says so.
namespace Task
variable {E W ε ε' α β : Type} {G H : E → W → W → Prop} {effect : Moment E W → Prop} {marked : W → Prop}

def Effected (effect : Moment E W → Prop) (moments : List (Moment E W)) : Prop := ∃ moment ∈ moments, effect moment

def EndsMarked (marked : W → Prop) (moments : List (Moment E W)) : Prop :=
  ∃ last ∈ moments.getLast?, marked last.after

theorem ends_later {first later : List (Moment E W)} (ends : EndsMarked marked later) : EndsMarked marked (first ++ later) := by
  obtain ⟨last,found,holds⟩ := ends
  refine ⟨last,?_,holds⟩
  rw [List.getLast?_append,Option.mem_def.mp found]
  rfl

theorem effected_append {first later : List (Moment E W)} :
    Effected effect (first ++ later) ↔ Effected effect first ∨ Effected effect later := by
  constructor
  · intro effected
    obtain ⟨moment,member,holds⟩ := effected
    rcases List.mem_append.mp member with early | late
    · exact .inl ⟨moment,early,holds⟩
    · exact .inr ⟨moment,late,holds⟩
  · intro effected
    obtain ⟨moment,early,holds⟩ | ⟨moment,late,holds⟩ := effected
    · exact ⟨moment,List.mem_append_left _ early,holds⟩
    · exact ⟨moment,List.mem_append_right _ late,holds⟩

-- Never has the effect.
def Clean (effect : Moment E W → Prop) (t : Task G ε α) : Prop := t.behaves fun moments _ => ¬Effected effect moments

-- Where it fails it has not had the effect.
def Undone (effect : Moment E W → Prop) (t : Task G ε α) : Prop :=
  t.behaves fun moments result => ∀ error, result = .error error → ¬Effected effect moments

-- Where it fails it leaves the mark.
def Marks (marked : W → Prop) (t : Task G ε α) : Prop :=
  t.behaves fun moments result => ∀ error, result = .error error → EndsMarked marked moments

-- Where it fails after the effect it leaves the mark.
def Sound (effect : Moment E W → Prop) (marked : W → Prop) (t : Task G ε α) : Prop :=
  t.behaves fun moments result => ∀ error, result = .error error → Effected effect moments → EndsMarked marked moments

theorem clean_done (result : Except ε α) : (done result : Task G ε α).Clean effect := by
  intro effected
  obtain ⟨moment,member,_⟩ := effected
  cases member

theorem clean_each {t : Task G ε α} (never : t.each fun moment => ¬effect moment) : t.Clean effect := by
  apply behaves_mono _ never
  intro moments result each effected
  obtain ⟨moment,member,holds⟩ := effected
  exact each moment member holds

theorem undone_of_clean {t : Task G ε α} (clean : t.Clean effect) : t.Undone effect := by
  apply behaves_mono _ clean
  intro moments result never error _
  exact never

theorem sound_of_undone {t : Task G ε α} (undone : t.Undone effect) : t.Sound effect marked := by
  apply behaves_mono _ undone
  intro moments result never error failed effected
  exact absurd effected (never error failed)

theorem marks_ok (value : α) : (done (.ok value) : Task G ε α).Marks marked := by
  intro error failed
  cases failed

-- Up to the point of no return nothing has to be done, after it everything does.
theorem sound_clean {t : Task G ε α} {k : α → Task G ε β} (first : t.Clean effect)
    (rest : ∀ value, (k value).Sound effect marked) : (t >>= k).Sound effect marked := by
  unfold Sound
  rw [behaves_bind]
  apply behaves_mono _ first
  intro before result never
  cases result with
  | error error =>
      intro _ _ effected
      exact absurd effected never
  | ok value =>
      apply behaves_mono _ (rest value)
      intro later ended sound error failed effected
      rcases effected_append.mp effected with early | late
      · exact absurd early never
      · exact ends_later (sound error failed late)

theorem sound_marks {t : Task G ε α} {k : α → Task G ε β} (first : t.Sound effect marked)
    (rest : ∀ value, (k value).Marks marked) : (t >>= k).Sound effect marked := by
  unfold Sound
  rw [behaves_bind]
  apply behaves_mono _ first
  intro before result sound
  cases result with
  | error error =>
      intro other failed effected
      cases failed
      exact sound error rfl effected
  | ok value =>
      apply behaves_mono _ (rest value)
      intro later ended ends error failed _
      exact ends_later (ends error failed)

theorem sound_return {t : Task G ε α} {k : α → Task G ε β} (first : t.Undone effect)
    (rest : ∀ value, (k value).Marks marked) : (t >>= k).Sound effect marked :=
  sound_marks (sound_of_undone first) rest

theorem undone_clean {t : Task G ε α} {k : α → Task G ε β} (first : t.Clean effect)
    (rest : ∀ value, (k value).Undone effect) : (t >>= k).Undone effect := by
  unfold Undone
  rw [behaves_bind]
  apply behaves_mono _ first
  intro before result never
  cases result with
  | error error => exact fun _ _ => never
  | ok value =>
      apply behaves_mono _ (rest value)
      intro later ended undone error failed effected
      exact (effected_append.mp effected).elim never (undone error failed)

theorem marks_attempt (t : Task G ε α) : (t.attempt : Task G ε' (Except ε α)).Marks marked := by
  unfold Marks
  rw [behaves_attempt]
  apply behaves_mono _ (behaves_true t)
  intro moments result _ error failed
  cases failed

theorem marks_bind {t : Task G ε α} {k : α → Task G ε β} (first : t.Marks marked)
    (rest : ∀ value, (k value).Marks marked) : (t >>= k).Marks marked := by
  unfold Marks
  rw [behaves_bind]
  apply behaves_mono _ first
  intro before result ends
  cases result with
  | error error =>
      intro other failed
      cases failed
      exact ends error rfl
  | ok value =>
      apply behaves_mono _ (rest value)
      intro later ended after error failed
      exact ends_later (after error failed)

-- A mark and then the error.
theorem marks_throw {s : Section G ε α} (mark : ∀ e w, (∃ value, (s.run e w).1 = .ok value) ∧ marked (s.run e w).2)
    (error : ε) : (ofSection s >>= fun _ => throw error : Task G ε β).Marks marked := by
  unfold Marks
  rw [behaves_bind,behaves_section]
  intro e w
  obtain ⟨⟨value,returned⟩,holds⟩ := mark e w
  rw [returned]
  intro _ _
  exact ⟨_,rfl,holds⟩

theorem marks_section {s : Section G ε α} (mark : ∀ e w error, (s.run e w).1 = .error error → marked (s.run e w).2) :
    (ofSection s).Marks marked := by
  intro e w error failed
  exact ⟨_,rfl,mark e w error failed⟩

theorem clean_relax (wider : ∀ e a b, G e a b → H e a b) {t : Task G ε α} (clean : t.Clean effect) :
    (t.relax wider).Clean effect := (behaves_relax wider t _).mpr clean

theorem marks_relax (wider : ∀ e a b, G e a b → H e a b) {t : Task G ε α} (marks : t.Marks marked) :
    (t.relax wider).Marks marked := (behaves_relax wider t _).mpr marks

theorem clean_bind {t : Task G ε α} {k : α → Task G ε β} (first : t.Clean effect)
    (rest : ∀ value, (k value).Clean effect) : (t >>= k).Clean effect := by
  unfold Clean
  rw [behaves_bind]
  apply behaves_mono _ first
  intro before result never
  cases result with
  | error error => exact never
  | ok value =>
      apply behaves_mono _ (rest value)
      intro later ended after effected
      exact (effected_append.mp effected).elim never after

theorem clean_attempt {t : Task G ε α} (clean : t.Clean effect) :
    (t.attempt : Task G ε' (Except ε α)).Clean effect := (behaves_attempt t _).mpr clean

end Task
end Concurrency
