import Mathlib.Data.List.Induction
import ReactorOS.Concurrency.Journal
namespace Concurrency

-- The order in which a task may do things. `after` is what its own events so far have
-- brought it to; `permits` what it may record in one atomic step that begins in a
-- given state with given answers of the environment, newest event first.
structure Protocol (E V S P : Type) where
  start : P
  after : V → P → P
  permits : E → S → P → List V → Prop

namespace Protocol
open Journal
variable {I E V S P ε ε' α β : Type}

def own (me : I) (new : List V) : List (I × V) := new.map fun event => (me,event)

@[simp] theorem own_nil (me : I) : own me ([] : List V) = [] := rfl

@[simp] theorem own_cons (me : I) (event : V) (new : List V) : own me (event :: new) = (me,event) :: own me new := rfl

section Steps
variable [Effect V S]

theorem replay_own (me : I) (init : S) (new : List V) (older : List (I × V)) :
    replay init (own me new ++ older) = new.foldr Effect.apply (replay init older) := by
  induction new with
  | nil => rfl
  | cons event new ih => simp only [own_cons,List.cons_append,replay,List.foldr_cons,ih]

theorem extend_own (w : Journal I V S) (me : I) (new : List V) :
    (w.extend (own me new)).state = new.foldr Effect.apply w.state := by
  induction new with
  | nil => rfl
  | cons event new ih => simp only [own_cons,extend_cons,emit_state,List.foldr_cons,ih]

-- Section rules. How a section ends that has recorded `before` so far: its result and
-- all it will have recorded.
def leads {may : V → Bool} {me : I} (s : Locked E S may me ε α) (e : E) (w : Journal I V S) (before : List V)
    (ends : Except ε α → List V → Prop) : Prop :=
  ∃ result new, s.run e (w.extend (own me before)) = (result,w.extend (own me new)) ∧ ends result new

section Leads
variable {may : V → Bool} {me : I} {e : E} {w : Journal I V S} {before : List V}

theorem leads_pure {value : α} {ends : Except ε α → List V → Prop} (holds : ends (.ok value) before) :
    leads (pure value : Locked E S may me ε α) e w before ends := ⟨_,before,rfl,holds⟩

theorem leads_throw {error : ε} {ends : Except ε α → List V → Prop} (holds : ends (.error error) before) :
    leads (throw error : Locked E S may me ε α) e w before ends := ⟨_,before,rfl,holds⟩

-- A look may end the section.
theorem leads_silent {s : Locked E S may me ε α} {ends : Except ε α → List V → Prop} (silent : s.Silent)
    (holds : ends (s.run e (w.extend (own me before))).1 before) : leads s e w before ends :=
  ⟨_,before,Prod.ext rfl (silent e _),holds⟩

theorem leads_look {look : E → Journal I V S → α} {k : α → Locked E S may me ε β}
    {ends : Except ε β → List V → Prop} (rest : leads (k (look e (w.extend (own me before)))) e w before ends) :
    leads ((Section.inspect fun e w => .ok (look e w)) >>= k) e w before ends := rest

theorem leads_check {s : Locked E S may me ε α} {k : α → Locked E S may me ε β} {ends : Except ε β → List V → Prop}
    (silent : s.Silent)
    (ok : ∀ value, (s.run e (w.extend (own me before))).1 = .ok value → leads (k value) e w before ends)
    (error : ∀ error, ends (.error error) before) : leads (s >>= k) e w before ends := by
  have same := silent e (w.extend (own me before))
  rcases equal : s.run e (w.extend (own me before)) with ⟨result,after⟩
  rw [equal] at same ok
  simp only at same ok
  subst same
  cases result with
  | error refused => exact ⟨.error refused,before,by simp [equal],error refused⟩
  | ok value =>
      obtain ⟨result,new,ran,reached⟩ := ok value rfl
      exact ⟨result,new,by simpa [equal] using ran,reached⟩

theorem leads_bind {s : Locked E S may me ε α} {k : α → Locked E S may me ε β} {ends : Except ε β → List V → Prop}
    (first : leads s e w before fun r new => match r with
      | .ok value => leads (k value) e w new ends
      | .error error => ends (.error error) new) : leads (s >>= k) e w before ends := by
  obtain ⟨result,new,ran,reached⟩ := first
  cases result with
  | error refused => exact ⟨.error refused,new,by simp [ran],reached⟩
  | ok value =>
      obtain ⟨result,more,last,done⟩ := reached
      exact ⟨result,more,by simpa [ran] using last,done⟩

theorem leads_ite {c : Prop} [Decidable c] {s t : Locked E S may me ε α} {ends : Except ε α → List V → Prop}
    (yes : c → leads s e w before ends) (no : ¬c → leads t e w before ends) :
    leads (if c then s else t) e w before ends := by
  by_cases holds : c
  · rw [if_pos holds]; exact yes holds
  · rw [if_neg holds]; exact no holds

theorem leads_throws {error : ε} {k : α → Locked E S may me ε β} {ends : Except ε β → List V → Prop}
    (holds : ends (.error error) before) : leads ((throw error : Locked E S may me ε α) >>= k) e w before ends :=
  ⟨_,before,rfl,holds⟩

theorem leads_emit {event : V} {kept : ∀ (e : E) (w : Journal I V S), Emits may me e w (w.emit me event)}
    {k : Unit → Locked E S may me ε β} {ends : Except ε β → List V → Prop}
    (rest : leads (k ()) e w (event :: before) ends) :
    leads ((.update (fun _ w => w.emit me event) kept : Locked E S may me ε Unit) >>= k) e w before ends := rest

theorem leads_emitted {event : V} {kept : ∀ (e : E) (w : Journal I V S), Emits may me e w (w.emit me event)}
    {ends : Except ε Unit → List V → Prop} (holds : ends (.ok ()) (event :: before)) :
    leads (.update (fun _ w => w.emit me event) kept : Locked E S may me ε Unit) e w before ends :=
  ⟨_,event :: before,rfl,holds⟩

end Leads

end Steps

variable [DecidableEq I] (rules : Protocol E V S P)

def progress (me : I) : List (I × V) → P
  | [] => rules.start
  | (i,event) :: older =>
      if i = me then rules.after event (progress me older) else progress me older

@[simp] theorem progress_own (me : I) (event : V) (older : List (I × V)) :
    rules.progress me ((me,event) :: older) = rules.after event (rules.progress me older) := by
  simp [progress]

theorem progress_other {me other : I} (different : other ≠ me) (event : V) (older : List (I × V)) :
    rules.progress me ((other,event) :: older) = rules.progress me older := by
  simp [progress,different]

theorem progress_step (me : I) (new : List V) (older : List (I × V)) :
    rules.progress me (own me new ++ older) = new.foldr rules.after (rules.progress me older) := by
  induction new with
  | nil => rfl
  | cons event new ih =>
      simp only [own,List.map_cons,List.cons_append,progress_own,List.foldr_cons] at ih ⊢
      rw [ih]

-- A condition that holds from the first marked event of a task on.
theorem progress_ever (reached : P → Prop) (marked : V → Prop) (fresh : ¬reached rules.start)
    (one : ∀ event p, reached (rules.after event p) ↔ marked event ∨ reached p) (me : I) (history : List (I × V)) :
    reached (rules.progress me history) ↔ ∃ event, (me,event) ∈ history ∧ marked event := by
  induction history with
  | nil => simpa [progress] using fresh
  | cons entry history ih =>
      obtain ⟨i,event⟩ := entry
      by_cases mine : i = me
      · subst mine
        rw [progress_own,one,ih]
        constructor
        · intro either
          rcases either with now | ⟨before,member,mark⟩
          · exact ⟨event,by simp,now⟩
          · exact ⟨before,by simp [member],mark⟩
        · intro found
          obtain ⟨other,member,mark⟩ := found
          rcases List.mem_cons.mp member with same | before
          · obtain ⟨_,rfl⟩ := Prod.mk.inj same
            exact .inl mark
          · exact .inr ⟨other,before,mark⟩
      · rw [progress_other rules mine,ih]
        constructor
        · intro found
          obtain ⟨before,member,mark⟩ := found
          exact ⟨before,by simp [member],mark⟩
        · intro found
          obtain ⟨other,member,mark⟩ := found
          rcases List.mem_cons.mp member with same | before
          · obtain ⟨rfl,_⟩ := Prod.mk.inj same
            exact absurd rfl mine
          · exact ⟨other,before,mark⟩

-- A condition that a task has come to satisfy: the event that brought it about, since
-- when it has held.
theorem progress_since (reached : P → Prop) {me : I} {history : List (I × V)} (fresh : ¬reached rules.start)
    (now : reached (rules.progress me history)) : ∃ since event older, history = since ++ (me,event) :: older ∧
      ¬reached (rules.progress me older) ∧ reached (rules.after event (rules.progress me older)) ∧
      ∀ newer older', since = newer ++ older' → reached (rules.progress me (older' ++ (me,event) :: older)) := by
  induction history with
  | nil => exact absurd now fresh
  | cons entry history ih =>
      rcases entry with ⟨i,event⟩
      by_cases before : reached (rules.progress me history)
      · obtain ⟨since,start,older,rfl,outside,begun,held⟩ := ih before
        refine ⟨(i,event) :: since,start,older,rfl,outside,begun,?_⟩
        intro newer older' split
        rcases List.cons_eq_append_iff.mp split with ⟨rfl,rfl⟩ | ⟨newer',rfl,rfl⟩
        · exact now
        · exact held newer' older' rfl
      · have mine : i = me := by
          by_contra other
          exact before (by rw [progress_other rules other] at now; exact now)
        subst mine
        rw [progress_own] at now
        refine ⟨[],event,history,rfl,before,now,?_⟩
        intro newer older' split
        obtain ⟨rfl,rfl⟩ := List.append_eq_nil_iff.mp split.symm
        rw [List.nil_append,progress_own]
        exact now

variable [Effect V S]

theorem progress_others {me : I} {w after : Journal I V S} (moved : Others me w after) :
    rules.progress me after.history = rules.progress me w.history := by
  obtain ⟨new,others,rfl⟩ := moved
  induction new with
  | nil => rfl
  | cons entry new ih =>
      rcases entry with ⟨i,event⟩
      rw [extend_cons,emit_history,progress_other rules (others (i,event) (by simp))]
      exact ih fun entry member => others entry (by simp [member])

-- One atomic step of `me` within the rules.
def Lawful (me : I) (e : E) (w after : Journal I V S) : Prop :=
  ∃ new, after = w.extend (own me new) ∧ rules.permits e w.state (rules.progress me w.history) new

-- What may be recorded event by event: over a step, and over a whole history.
def Each (after : V → P → P) (allowed : S → P → V → Prop) (s : S) (p : P) : List V → Prop
  | [] => True
  | event :: earlier => Each after allowed s p earlier ∧
      allowed (earlier.foldr Effect.apply s) (earlier.foldr after p) event

def Throughout (allowed : S → P → V → Prop) (init : S) : List (I × V) → Prop
  | [] => True
  | (i,event) :: older => Throughout allowed init older ∧ allowed (replay init older) (rules.progress i older) event

theorem throughout_step {allowed : S → P → V → Prop} {init : S} {me : I} {older : List (I × V)} {new : List V}
    (before : rules.Throughout allowed init older)
    (step : Each rules.after allowed (replay init older) (rules.progress me older) new) :
    rules.Throughout allowed init (own me new ++ older) := by
  induction new with
  | nil => exact before
  | cons event new ih =>
      have stands : allowed (replay init (own me new ++ older)) (rules.progress me (own me new ++ older)) event := by
        rw [progress_step,replay_own]
        exact step.2
      exact ⟨ih step.1,stands⟩

variable {rules}

theorem Throughout.older {allowed : S → P → V → Prop} {init : S} {newer older : List (I × V)}
    (holds : rules.Throughout allowed init (newer ++ older)) : rules.Throughout allowed init older := by
  induction newer with
  | nil => exact holds
  | cons entry newer ih => exact ih holds.1

-- The event at a place in the history was allowed there.
theorem Throughout.event {allowed : S → P → V → Prop} {init : S} {newer older : List (I × V)} {i : I} {event : V}
    (holds : rules.Throughout allowed init (newer ++ (i,event) :: older)) :
    allowed (replay init older) (rules.progress i older) event := holds.older.2

-- Task rules. From progress `p` the task keeps to the rules whatever the others do,
-- and ends with a result and a progress that satisfy `Q`.
def follows (rules : Protocol E V S P) {may : V → Bool} {me : I} (t : Async E S may me ε α)
    (p : P) (Q : Except ε α → P → Prop) : Prop :=
  ∀ w : Journal I V S, rules.progress me w.history = p →
    t.wp (Others me) (rules.Lawful me) (fun r after => Q r (rules.progress me after.history)) w

section Follows
variable {may may' : V → Bool} {me : I} {p : P}

theorem follows_done {result : Except ε α} {Q : Except ε α → P → Prop} (holds : Q result p) :
    rules.follows (.done result : Async E S may me ε α) p Q := by
  intro w same
  subst same
  exact holds

theorem follows_section {s : Locked E S may me ε α} {Q : Except ε α → P → Prop}
    (step : ∀ e (w : Journal I V S), leads s e w [] fun r new =>
      rules.permits e w.state p new ∧ Q r (new.foldr rules.after p)) :
    rules.follows (Task.ofSection s : Async E S may me ε α) p Q := by
  intro w same
  rw [Task.wp_section]
  intro w' moved e
  have here : rules.progress me w'.history = p := (progress_others rules moved).trans same
  obtain ⟨result,new,ran,permitted,ends⟩ := step e w'
  rw [own_nil,extend_nil] at ran
  rw [ran,extend_history,progress_step,here]
  exact ⟨⟨new,rfl,here ▸ permitted⟩,ends⟩

theorem follows_mono {t : Async E S may me ε α} {Q Q' : Except ε α → P → Prop}
    (holds : rules.follows t p Q) (implies : ∀ r q, Q r q → Q' r q) : rules.follows t p Q' :=
  fun w same => Task.wp_mono (fun _ _ => implies _ _) (holds w same)

theorem follows_bind {t : Async E S may me ε α} {k : α → Async E S may me ε β} {Q : Except ε β → P → Prop}
    (holds : rules.follows t p fun r q => match r with
      | .ok value => rules.follows (k value) q Q
      | .error error => Q (.error error) q) : rules.follows (t >>= k) p Q := by
  intro w same
  rw [Task.wp_bind]
  refine Task.wp_mono ?_ (holds w same)
  intro r after reached
  cases r with
  | ok value => exact reached after rfl
  | error error => exact reached

-- The same with the two outcomes of the first part apart.
theorem follows_seq {t : Async E S may me ε α} {k : α → Async E S may me ε β} {R : Except ε α → P → Prop}
    {Q : Except ε β → P → Prop} (first : rules.follows t p R)
    (ok : ∀ value q, R (.ok value) q → rules.follows (k value) q Q)
    (error : ∀ error q, R (.error error) q → Q (.error error) q) : rules.follows (t >>= k) p Q := by
  apply follows_bind
  apply follows_mono first
  intro r q reached
  cases r with
  | ok value => exact ok value q reached
  | error e => exact error e q reached

-- A part that leaves the progress where it was.
theorem follows_still {t : Async E S may me ε α} {k : α → Async E S may me ε β} {Q : Except ε β → P → Prop}
    (first : rules.follows t p fun _ q => q = p) (ok : ∀ value, rules.follows (k value) p Q)
    (error : ∀ error, Q (.error error) p) : rules.follows (t >>= k) p Q := by
  apply follows_seq first
  · intro value q same
    exact same ▸ ok value
  · intro e q same
    exact same ▸ error e

theorem follows_checked {result : Except ε α} {k : α → Async E S may me ε β} {Q : Except ε β → P → Prop}
    (ok : ∀ value, result = .ok value → rules.follows (k value) p Q) (error : ∀ error, Q (.error error) p) :
    rules.follows (Task.ofExcept result >>= k : Async E S may me ε β) p Q := by
  cases result with
  | error refused => exact follows_done (error refused)
  | ok value => exact ok value rfl

theorem follows_attempt {t : Async E S may me ε α} {Q : Except ε' (Except ε α) → P → Prop}
    (holds : rules.follows t p fun r q => Q (.ok r) q) :
    rules.follows (t.attempt : Async E S may me ε' (Except ε α)) p Q :=
  fun w same => (Task.wp_attempt t _ w).mpr (holds w same)

theorem follows_mapError {t : Async E S may me ε α} {f : ε → ε'} {Q : Except ε' α → P → Prop}
    (holds : rules.follows t p fun r q => Q (r.mapError f) q) :
    rules.follows (t.mapError f : Async E S may me ε' α) p Q :=
  fun w same => (Task.wp_mapError f t _ w).mpr (holds w same)

theorem follows_relax (wider : ∀ event, may event = true → may' event = true)
    {t : Async E S may me ε α} {Q : Except ε α → P → Prop} (holds : rules.follows t p Q) :
    rules.follows (t.relax (emits_wider wider) : Async E S may' me ε α) p Q :=
  fun w same => (Task.wp_relax _ t _ w).mpr (holds w same)

theorem follows_silent {s : Locked E S may me ε α} (silent : s.Silent) (idle : ∀ e state, rules.permits e state p []) :
    rules.follows (Task.ofSection s : Async E S may me ε α) p fun _ q => q = p :=
  follows_section fun e w => leads_silent silent ⟨idle e w.state,rfl⟩

-- Events that the rules permit at `p` in any number and that lead nowhere: of a task
-- that may cause only such events nothing else need be known.
def Steady (rules : Protocol E V S P) (may : V → Bool) (p : P) : Prop :=
  ∀ new : List V, (∀ event ∈ new, may event = true) →
    new.foldr rules.after p = p ∧ ∀ e s, rules.permits e s p new

theorem Steady.lawful (steady : rules.Steady may p) {e : E} {w after : Journal I V S}
    (same : rules.progress me w.history = p) (moved : Emits may me e w after) :
    rules.Lawful me e w after ∧ rules.progress me after.history = p := by
  obtain ⟨new,mine,rfl⟩ := moved
  have named : new = own me (new.map Prod.snd) := by
    rw [own,List.map_map]
    conv_lhs => rw [←List.map_id new]
    exact List.map_congr_left fun entry member => Prod.ext (mine entry member).1 rfl
  obtain ⟨stays,permitted⟩ := steady (new.map Prod.snd) (by
    simp only [List.mem_map]
    rintro event ⟨entry,member,rfl⟩
    exact (mine entry member).2)
  refine ⟨⟨new.map Prod.snd,by rw [←named],same ▸ permitted _ _⟩,?_⟩
  rw [extend_history,named,progress_step,same,stays]

theorem follows_steady {t : Async E S may me ε α} (steady : rules.Steady may p) :
    rules.follows t p fun _ q => q = p := by
  intro w same
  refine Task.wp_guaranteed (A := fun w : Journal I V S => rules.progress me w.history = p) ?_ ?_ t same
  · intro a b before moved
    exact (progress_others rules moved).trans before
  · intro e a b before moved
    exact steady.lawful before moved

end Follows

section Run
variable {may : I → V → Bool} {Q : I → Except ε α → P → Prop}
  {s : System (fun i => (Emits (may i) i : E → Journal I V S → Journal I V S → Prop)) ε α} {init : S}

-- A system whose tasks all keep to the rules takes permitted steps only.
theorem run_lawful (fresh : s.world = ⟨init,[]⟩) (all : ∀ i, rules.follows (s.tasks i) rules.start (Q i))
    (schedule : List (I × E)) (i : I) (e : E) : (s.run schedule).advance i e = s.run schedule ∨
      rules.Lawful i e (s.run schedule).world ((s.run schedule).advance i e).world := by
  by_cases finished : ∃ result, (s.run schedule).tasks i = .done result
  · obtain ⟨result,finished⟩ := finished
    exact .inl (by simp [System.advance,finished])
  · have begin : ∃ w, Others i w s.world ∧ (s.tasks i).wp (Others i) (rules.Lawful i)
        (fun r after => Q i r (rules.progress i after.history)) w :=
      ⟨s.world,.refl _ _,all i s.world (by rw [fresh]; rfl)⟩
    exact .inr (System.step_wp (Others.refl i) Others.trans (fun _ _ _ _ different moved => emits_others different moved) s begin schedule e
      fun result done => finished ⟨result,done⟩)

-- A finished task ended as its rule says.
theorem run_result (fresh : s.world = ⟨init,[]⟩) (all : ∀ i, rules.follows (s.tasks i) rules.start (Q i))
    {schedule : List (I × E)} {i : I} {result : Except ε α} (finished : (s.run schedule).tasks i = .done result) :
    Q i result (rules.progress i (s.run schedule).world.history) := by
  have begin : ∃ w, Others i w s.world ∧ (s.tasks i).wp (Others i) (rules.Lawful i)
      (fun r after => Q i r (rules.progress i after.history)) w :=
    ⟨s.world,.refl _ _,all i s.world (by rw [fresh]; rfl)⟩
  obtain ⟨w,moved,ended⟩ :=
    System.result_wp (Others.refl i) Others.trans (fun _ _ _ _ different moved => emits_others different moved) s begin schedule finished
  rw [progress_others rules moved]
  exact ended

-- The state after a run is the record of the run played back.
theorem run_consistent (fresh : s.world = ⟨init,[]⟩) (schedule : List (I × E)) :
    (s.run schedule).world.Consistent init := by
  refine System.run_invariant (J := fun w => w.Consistent init) ?_ s (by rw [fresh]; rfl) schedule
  rintro i e a b consistent ⟨new,_,rfl⟩
  exact consistent_extend consistent new

-- Nobody has recorded anything beyond what it may cause.
theorem run_may (fresh : s.world = ⟨init,[]⟩) (schedule : List (I × E)) :
    ∀ entry ∈ (s.run schedule).world.history, may entry.1 entry.2 = true := by
  refine System.run_invariant (J := fun w => ∀ entry ∈ w.history, may entry.1 entry.2 = true) ?_ s
    (by rw [fresh]; simp) schedule
  intro i e a b before moved entry member
  obtain ⟨new,mine,rfl⟩ := moved
  rw [extend_history] at member
  rcases List.mem_append.mp member with recent | old
  · obtain ⟨rfl,permitted⟩ := mine entry recent
    exact permitted
  · exact before entry old

theorem run_throughout {allowed : S → P → V → Prop} (fresh : s.world = ⟨init,[]⟩)
    (all : ∀ i, rules.follows (s.tasks i) rules.start (Q i))
    (events : ∀ e state p new, rules.permits e state p new → Each rules.after allowed state p new)
    (schedule : List (I × E)) : rules.Throughout allowed init (s.run schedule).world.history := by
  induction schedule using List.reverseRecOn with
  | nil => rw [System.run_nil,fresh]; trivial
  | append_singleton schedule entry ih =>
      rcases entry with ⟨i,e⟩
      rw [System.run_snoc]
      rcases run_lawful fresh all schedule i e with still | ⟨new,moved,permitted⟩
      · rw [still]; exact ih
      · rw [moved,extend_history]
        refine throughout_step rules ih ?_
        rw [←run_consistent fresh schedule]
        exact events _ _ _ _ permitted

-- Every event of the record comes from one step of the run.
theorem run_origin (fresh : s.world = ⟨init,[]⟩) (all : ∀ i, rules.follows (s.tasks i) rules.start (Q i))
    {schedule : List (I × E)} {i : I} {event : V} (member : (i,event) ∈ (s.run schedule).world.history) :
    ∃ before e rest new, schedule = before ++ (i,e) :: rest ∧ event ∈ new ∧
      (s.run (before ++ [(i,e)])).world = (s.run before).world.extend (own i new) ∧
      rules.permits e (s.run before).world.state (rules.progress i (s.run before).world.history) new := by
  induction schedule using List.reverseRecOn with
  | nil => simp [fresh] at member
  | append_singleton schedule entry ih =>
      rcases entry with ⟨j,e⟩
      have place : (i,event) ∈ (s.run schedule).world.history ∨ ∃ new, j = i ∧ event ∈ new ∧
          ((s.run schedule).advance j e).world = (s.run schedule).world.extend (own j new) ∧
          rules.permits e (s.run schedule).world.state (rules.progress j (s.run schedule).world.history) new := by
        rw [System.run_snoc] at member
        rcases run_lawful fresh all schedule j e with still | ⟨new,moved,permitted⟩
        · exact .inl (by rw [still] at member; exact member)
        · rw [moved,extend_history] at member
          rcases List.mem_append.mp member with mine | old
          · obtain ⟨event',inNew,same⟩ := List.mem_map.mp mine
            obtain ⟨rfl,rfl⟩ := Prod.mk.injEq .. ▸ same
            exact .inr ⟨new,rfl,inNew,moved,permitted⟩
          · exact .inl old
      rcases place with old | ⟨new,rfl,inNew,moved,permitted⟩
      · obtain ⟨before,e',rest,new,rfl,found⟩ := ih old
        exact ⟨before,e',rest ++ [(j,e)],new,by simp,found⟩
      · exact ⟨schedule,e,[],new,rfl,inNew,by rw [System.run_snoc,moved],permitted⟩

end Run

end Protocol
end Concurrency
