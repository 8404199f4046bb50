import Mathlib.Order.Lattice
import ReactorOS.Concurrency.Idle
import ReactorOS.Concurrency.Protocol
namespace Concurrency

-- Things that a task takes in at one event and lets out again at a later one.
structure Passage (V X : Type) where
  enters : V → Option X
  leaves : V → Option X

namespace Passage
open Journal Protocol
variable {I E V S X T : Type} (p : Passage V X)

-- What a task carries: the last it has taken in, until it lets it out.
def carries (event : V) (carried : Option X) : Option X :=
  match p.enters event with
  | some x => some x
  | none => match p.leaves event with
    | some _ => none
    | none => carried

def honest (_ : S) (carried : Option X) (event : V) : Prop := ∀ x, p.leaves event = some x → carried = some x

-- Nobody lets out what it does not carry.
def rules [Effect V S] : Protocol E V S (Option X) where
  start := none
  after := p.carries
  permits _ s carried new := Each p.carries p.honest s carried new

-- An event that has nothing to do with it.
def Foreign (event : V) : Prop := p.enters event = none ∧ p.leaves event = none

theorem carries_foreign {event : V} (foreign : p.Foreign event) (carried : Option X) : p.carries event carried = carried := by
  unfold carries
  rw [foreign.1,foreign.2]

-- The `n`-th event of a record, counted from the oldest one on.
def occurs (history : List (I × V)) (n : Nat) : Option (I × V) := history.reverse[n]?

omit p in
theorem occurs_split {history : List (I × V)} {n : Nat} {entry : I × V} (found : occurs history n = some entry) :
    ∃ newer older, history = newer ++ entry :: older ∧ older.length = n := by
  obtain ⟨bound,here⟩ := List.getElem?_eq_some_iff.mp found
  refine ⟨(history.reverse.drop (n+1)).reverse,(history.reverse.take n).reverse,?_,?_⟩
  · have split : history.reverse.take n ++ entry :: history.reverse.drop (n+1) = history.reverse := by
      rw [← here,List.getElem_cons_drop bound,List.take_append_drop]
    calc history = history.reverse.reverse := (List.reverse_reverse history).symm
      _ = (history.reverse.take n ++ entry :: history.reverse.drop (n+1)).reverse := by rw [split]
      _ = _ := by simp
  · rw [List.length_reverse,List.length_take]
    exact Nat.min_eq_left (Nat.le_of_lt bound)

omit p in
theorem occurs_here (newer older : List (I × V)) (entry : I × V) :
    occurs (newer ++ entry :: older) older.length = some entry := by
  simp [occurs]

omit p in
theorem occurs_mem {older : List (I × V)} {entry : I × V} (member : entry ∈ older) (newer : List (I × V)) :
    ∃ n, n < older.length ∧ occurs (newer ++ older) n = some entry := by
  obtain ⟨late,early,rfl⟩ := List.append_of_mem member
  refine ⟨early.length,by simp; omega,?_⟩
  rw [← List.append_assoc]
  exact occurs_here _ _ _

omit p in
theorem occurs_between {newer mid older : List (I × V)} {first entry : I × V} {n : Nat}
    (after : older.length < n) (before : n < (mid ++ first :: older).length)
    (found : occurs (newer ++ (mid ++ first :: older)) n = some entry) : entry ∈ mid := by
  unfold occurs at found
  simp only [List.length_append,List.length_cons] at before
  rw [List.reverse_append,List.getElem?_append_left (by simp; omega),List.reverse_append,List.reverse_cons,List.append_assoc,
    List.getElem?_append_right (by simp; omega),List.getElem?_append_right (by simp; omega)] at found
  exact List.mem_reverse.mp (List.mem_of_getElem? found)

-- `i` takes `x` in at the `a`-th event and lets it out at the `b`-th.
structure Passed (history : List (I × V)) (i : I) (x : X) (a b : Nat) : Prop where
  order : a < b
  entered : ∃ event, occurs history a = some (i,event) ∧ p.enters event = some x
  left : ∃ event, occurs history b = some (i,event) ∧ p.leaves event = some x
  between : ∀ n, a < n → n < b → ∀ event, occurs history n = some (i,event) → p.Foreign event

section Order
variable [LinearOrder T] (stamp : X → T)

-- What is let out bears no older stamp than anything that has been let out before.
def Forward (history : List (I × V)) : Prop :=
  ∀ newer i event older x, history = newer ++ (i,event) :: older → p.leaves event = some x →
    ∀ entry ∈ older, ∀ y, p.leaves entry.2 = some y → stamp y ≤ stamp x

-- What is taken in first is let out first.
def InTurn (history : List (I × V)) : Prop :=
  ∀ i x a b j y c d, p.Passed history i x a b → p.Passed history j y c d → a < c → b < d

-- Of any two things taken in, how the stamp of the first one is to the other.
def Stamps (before : T → T → Prop) (history : List (I × V)) : Prop :=
  ∀ i event x a j later y c, occurs history a = some (i,event) → p.enters event = some x →
    occurs history c = some (j,later) → p.enters later = some y → a < c → before (stamp x) (stamp y)

variable {p stamp} {history : List (I × V)}

theorem forward_at (forward : p.Forward stamp history) {i j : I} {event earlier : V} {x y : X} {b d : Nat} (order : d < b)
    (late : occurs history b = some (i,event)) (out : p.leaves event = some x)
    (early : occurs history d = some (j,earlier)) (out' : p.leaves earlier = some y) : stamp y ≤ stamp x := by
  obtain ⟨newer,older,rfl,length⟩ := occurs_split late
  refine forward newer i event older x rfl out (j,earlier) ?_ y out'
  subst length
  unfold occurs at early
  rw [List.reverse_append,List.reverse_cons,List.append_assoc,List.getElem?_append_left (by simpa using order)] at early
  exact List.mem_reverse.mp (List.mem_of_getElem? early)

-- A thing is let out where it was taken in once, not twice.
theorem passed_once {i j : I} {x y : X} {a b c : Nat} (one : p.Passed history i x a b) (other : p.Passed history j y c b) :
    a = c := by
  obtain ⟨event,here,_⟩ := one.left
  obtain ⟨event',here',_⟩ := other.left
  rw [here] at here'
  cases here'
  obtain ⟨first,there,takes⟩ := one.entered
  obtain ⟨second,there',takes'⟩ := other.entered
  rcases Nat.lt_trichotomy a c with before | same | after
  · have foreign := one.between c before other.order second there'
    rw [foreign.1] at takes'
    cases takes'
  · exact same
  · have foreign := other.between a after one.order first there
    rw [foreign.1] at takes
    cases takes

-- Where nothing comes from nowhere, in turn and with stamps in order nothing goes back.
theorem forward_of_turn (accounted : ∀ i event x b, occurs history b = some (i,event) → p.leaves event = some x →
      ∃ a, p.Passed history i x a b) (ordered : p.Stamps stamp (· ≤ ·) history) (turn : p.InTurn history) :
    p.Forward stamp history := by
  intro newer i event older x split out entry member y out'
  obtain ⟨d,order,there⟩ := occurs_mem member (newer ++ [(i,event)])
  rw [List.append_assoc,List.singleton_append,← split] at there
  have here : occurs history older.length = some (i,event) := by
    rw [split]
    exact occurs_here _ _ _
  obtain ⟨a,late⟩ := accounted i event x older.length here out
  obtain ⟨c,early⟩ := accounted entry.1 entry.2 y d there out'
  obtain ⟨one,first,takes⟩ := late.entered
  obtain ⟨other,second,takes'⟩ := early.entered
  rcases Nat.lt_trichotomy c a with before | same | after
  · exact ordered _ _ _ _ _ _ _ _ second takes' first takes before
  · subst same
    rw [first] at second
    cases second
    rw [takes] at takes'
    cases takes'
    exact le_rfl
  · exact absurd (turn _ _ _ _ _ _ _ _ late early after) (Nat.not_lt.mpr order.le)

-- With stamps that differ nothing stays forward out of turn.
theorem turn_of_forward (increasing : p.Stamps stamp (· < ·) history) (forward : p.Forward stamp history) :
    p.InTurn history := by
  intro i x a b j y c d one other before
  by_contra passed
  obtain ⟨first,there,takes⟩ := one.entered
  obtain ⟨second,there',takes'⟩ := other.entered
  have newer := increasing _ _ _ _ _ _ _ _ there takes there' takes' before
  rcases Nat.lt_or_eq_of_le (Nat.not_lt.mp passed) with early | same
  · obtain ⟨event,here,out⟩ := one.left
    obtain ⟨event',here',out'⟩ := other.left
    exact absurd newer (not_lt.mpr (forward_at forward early here out here' out'))
  · subst same
    exact absurd (passed_once one other) before.ne

end Order

section Record
variable [DecidableEq I] [Effect V S] {p} {history older : List (I × V)} {i : I} {x : X}

-- What a task carries it has taken in, and nothing has happened to it since.
theorem carried_since (carried : (p.rules : Protocol E V S (Option X)).progress i history = some x) :
    ∃ mid event older, history = mid ++ (i,event) :: older ∧ p.enters event = some x ∧
      ∀ entry ∈ mid, entry.1 = i → p.Foreign entry.2 := by
  induction history with
  | nil => cases carried
  | cons entry history ih =>
      obtain ⟨j,event⟩ := entry
      by_cases own : j = i
      · subst own
        rw [progress_own] at carried
        change p.carries event _ = some x at carried
        unfold carries at carried
        cases enters : p.enters event with
        | some y =>
            rw [enters] at carried
            cases carried
            exact ⟨[],event,history,rfl,enters,by simp⟩
        | none =>
            rw [enters] at carried
            cases leaves : p.leaves event with
            | some y =>
                rw [leaves] at carried
                cases carried
            | none =>
                rw [leaves] at carried
                obtain ⟨mid,first,older,rfl,takes,foreign⟩ := ih carried
                refine ⟨(j,event) :: mid,first,older,rfl,takes,fun entry member mine => ?_⟩
                rcases List.mem_cons.mp member with rfl | later
                · exact ⟨enters,leaves⟩
                · exact foreign entry later mine
      · rw [progress_other _ own] at carried
        obtain ⟨mid,first,older,rfl,takes,foreign⟩ := ih carried
        refine ⟨(j,event) :: mid,first,older,rfl,takes,fun entry member mine => ?_⟩
        rcases List.mem_cons.mp member with rfl | later
        · exact absurd mine own
        · exact foreign entry later mine

theorem passed_of_honest {init : S} (permitted : (p.rules : Protocol E V S (Option X)).Throughout p.honest init history)
    {event : V} {b : Nat} (found : occurs history b = some (i,event)) (out : p.leaves event = some x) :
    ∃ a, p.Passed history i x a b := by
  obtain ⟨newer,older,rfl,rfl⟩ := occurs_split found
  have carried := permitted.event x out
  obtain ⟨mid,first,early,rfl,takes,foreign⟩ := carried_since carried
  refine ⟨early.length,by simp; omega,⟨first,?_,takes⟩,⟨event,found,out⟩,?_⟩
  · rw [show newer ++ (i,event) :: (mid ++ (i,first) :: early) = (newer ++ (i,event) :: mid) ++ (i,first) :: early by simp]
    exact occurs_here _ _ _
  · intro n after before other there
    rw [← List.singleton_append,← List.append_assoc] at there
    exact foreign (i,other) (occurs_between after before there) rfl

-- An honest record goes forward in turn.
theorem honest_forward [LinearOrder T] {stamp : X → T} {init : S}
    (permitted : (p.rules : Protocol E V S (Option X)).Throughout p.honest init history)
    (ordered : p.Stamps stamp (· ≤ ·) history) (turn : p.InTurn history) : p.Forward stamp history :=
  forward_of_turn (fun _ _ _ _ found out => passed_of_honest permitted found out) ordered turn

end Record

section Tasks
variable [DecidableEq I] [Effect V S] {ε ε' α β : Type} {p} {may may' : V → Bool} {me : I} {carried : Option X}

theorem each_foreign (s : S) (carried : Option X) (before : List V) {more : List V} (foreign : ∀ event ∈ more, p.Foreign event)
    (held : Each p.carries p.honest s carried before) : Each p.carries p.honest s carried (more ++ before) := by
  induction more with
  | nil => exact held
  | cons event more ih =>
      refine ⟨ih fun other member => foreign other (List.mem_cons_of_mem _ member),fun x out => ?_⟩
      rw [(foreign event List.mem_cons_self).2] at out
      cases out

theorem foldr_foreign (carried : Option X) (before : List V) {more : List V} (foreign : ∀ event ∈ more, p.Foreign event) :
    (more ++ before).foldr p.carries carried = before.foldr p.carries carried := by
  induction more with
  | nil => rfl
  | cons event more ih =>
      rw [List.cons_append,List.foldr_cons,ih fun other member => foreign other (List.mem_cons_of_mem _ member)]
      exact p.carries_foreign (foreign event List.mem_cons_self) _

omit [DecidableEq I] in
theorem own_records {kind : V → Prop} {e : E} {w after : Journal I V S} (moved : Records kind me e w after) :
    ∃ new, (∀ event ∈ new, kind event) ∧ after = w.extend (own me new) := by
  obtain ⟨new,mine,rfl⟩ := moved
  have named : new = own me (new.map Prod.snd) := by
    rw [own,List.map_map]
    conv_lhs => rw [← List.map_id new]
    exact List.map_congr_left fun entry member => Prod.ext (mine entry member).1 rfl
  refine ⟨new.map Prod.snd,?_,by rw [← named]⟩
  simp only [List.mem_map]
  rintro event ⟨entry,member,rfl⟩
  exact (mine entry member).2

-- Code that neither takes in nor lets out.
def Untouched (p : Passage V X) (t : Async E S may me ε α) : Prop :=
  t.each fun moment => Records p.Foreign me moment.answer moment.before moment.after

omit [DecidableEq I] in
theorem untouched_locked {c : Locked E S may me ε α} (keeps : c.Keeps (Records p.Foreign me)) :
    p.Untouched (Task.ofSection c : Async E S may me ε α) := Task.each_section keeps

omit [DecidableEq I] in
theorem untouched_may {t : Async E S may me ε α} (foreign : ∀ event, may event = true → p.Foreign event) : p.Untouched t := by
  induction t with
  | done result => exact Task.each_done _ result
  | step update kept next ih =>
      intro e w
      apply Task.behaves_mono _ (ih e w)
      intro later result every moment member
      rcases List.mem_cons.mp member with rfl | rest
      · obtain ⟨new,mine,same⟩ := kept e w
        exact ⟨new,fun entry listed => ⟨(mine entry listed).1,foreign _ (mine entry listed).2⟩,same⟩
      · exact every moment rest

theorem untouched_follows {t : Async E S may me ε α} (untouched : p.Untouched t) :
    (p.rules : Protocol E V S (Option X)).follows t carried fun _ q => q = carried := by
  intro w same
  induction t generalizing w with
  | done result => exact same
  | step update kept next ih =>
      intro w' moved e
      obtain ⟨new,foreign,after⟩ := own_records (Task.each_head untouched e w')
      have here : (p.rules : Protocol E V S (Option X)).progress me w'.history = carried :=
        (progress_others _ moved).trans same
      have stays := foldr_foreign carried [] foreign
      have permitted := each_foreign w'.state carried [] foreign trivial
      rw [List.append_nil] at stays permitted
      have left : (p.rules : Protocol E V S (Option X)).progress me (update e w').history = carried := by
        rw [show update e w' = w'.extend (own me new) from after,extend_history,progress_step,here]
        exact stays
      refine ⟨⟨new,after,?_⟩,ih e w' (Task.each_tail untouched e w') _ left⟩
      rw [here]
      exact permitted

-- A part that has nothing to do with it, and what comes after.
theorem follows_untouched {t : Async E S may me ε α} {k : α → Async E S may me ε β} {Q : Except ε β → Option X → Prop}
    (first : p.Untouched t) (ok : ∀ value, (p.rules : Protocol E V S (Option X)).follows (k value) carried Q)
    (error : ∀ error, Q (.error error) carried) : (p.rules : Protocol E V S (Option X)).follows (t >>= k) carried Q :=
  follows_still (untouched_follows first) ok error

omit [DecidableEq I] in
theorem leads_keeps {kind : V → Prop} {c : Locked E S may me ε α} {e : E} {w : Journal I V S} {before : List V}
    {ends : Except ε α → List V → Prop} (keeps : c.Keeps (Records kind me))
    (holds : ∀ result more, (∀ event ∈ more, kind event) → ends result (more ++ before)) : leads c e w before ends := by
  obtain ⟨more,every,after⟩ := own_records (keeps e (w.extend (own me before)))
  refine ⟨_,more ++ before,Prod.ext rfl ?_,holds _ more every⟩
  rw [after,own,own,own,List.map_append,extend_append]

end Tasks
end Passage
end Concurrency
