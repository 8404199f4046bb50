import Mathlib.Data.List.Nodup
import Mathlib.Data.List.Infix
namespace Concurrency

-- A place for one message between writers and a reader. A message stays there until the
-- next one is written over it. The reader remembers the key of what it served last and
-- passes that message over; what came of it is shown on a board that the writers look at.
-- The lists are kept newest first and decide nothing: `served` is what the reader has
-- served since it started, `earlier` what it did before.
structure Mailbox (M K D R : Type) where
  slot : Option M
  last : Option K
  device : D
  report : Option (K × R)
  board : Option (K × R)
  posted : List M
  served : List (M × R)
  earlier : List (M × R)

namespace Mailbox
variable {M K D R : Type}

def initial (device : D) : Mailbox M K D R := ⟨none,none,device,none,none,[],[],[]⟩

def log (s : Mailbox M K D R) : List (M × R) := s.served ++ s.earlier

def post (m : M) (s : Mailbox M K D R) : Mailbox M K D R := {s with slot := some m,posted := m :: s.posted}

def serving (key : M → K) (serve : M → D → R × D) (m : M) (s : Mailbox M K D R) : Mailbox M K D R :=
  {s with
    last := some (key m)
    device := (serve m s.device).2
    report := some (key m,(serve m s.device).1)
    served := (m,(serve m s.device).1) :: s.served}

def look [DecidableEq K] (key : M → K) (serve : M → D → R × D) (s : Mailbox M K D R) : Mailbox M K D R :=
  match s.slot with
  | none => s
  | some m => if s.last = some (key m) then s else s.serving key serve m

def publish (s : Mailbox M K D R) : Mailbox M K D R := {s with board := s.report}

-- The reader starts anew: what it remembered is lost, the files stay.
def restart (device : D) (s : Mailbox M K D R) : Mailbox M K D R :=
  {s with last := none,device := device,report := none,served := [],earlier := s.served ++ s.earlier}

def drift (device : D) (s : Mailbox M K D R) : Mailbox M K D R := {s with device := device}

section Sound
variable (key : M → K) {serve : M → D → R × D}

-- What holds whatever the writers and the reader have done so far.
structure Sound (s : Mailbox M K D R) : Prop where
  slot : s.slot = s.posted.head?
  last : s.last = s.report.map Prod.fst
  apart : (s.posted.map key).Nodup
  -- A message that is still to be served is newer than every one that has been.
  waiting : ∀ m, s.slot = some m → s.last ≠ some (key m) → (s.served.map Prod.fst).Sublist s.posted.tail
  order : (s.served.map Prod.fst).Sublist s.posted
  posted : ∀ m r, (m,r) ∈ s.log → m ∈ s.posted
  report : ∀ k r, s.report = some (k,r) → ∃ m, key m = k ∧ (m,r) ∈ s.log
  board : ∀ k r, s.board = some (k,r) → ∃ m, key m = k ∧ (m,r) ∈ s.log

variable {key} {s : Mailbox M K D R}

theorem initial_sound (device : D) : Sound key (initial device : Mailbox M K D R) where
  slot := rfl
  last := rfl
  apart := List.nodup_nil
  waiting _ _ _ := List.Sublist.refl []
  order := List.Sublist.refl []
  posted _ _ listed := by cases listed
  report _ _ shown := by cases shown
  board _ _ shown := by cases shown

theorem Sound.post {m : M} (sound : Sound key s) (fresh : key m ∉ s.posted.map key) : Sound key (s.post m) where
  slot := rfl
  last := sound.last
  apart := List.nodup_cons.mpr ⟨fresh,sound.apart⟩
  waiting _ _ _ := sound.order
  order := sound.order.cons m
  posted n r listed := List.mem_cons_of_mem m (sound.posted n r listed)
  report := sound.report
  board := sound.board

theorem Sound.head {m : M} (sound : Sound key s) (slot : s.slot = some m) : s.posted = m :: s.posted.tail := by
  have head : s.posted.head? = some m := sound.slot.symm.trans slot
  exact (List.cons_head?_tail head).symm

theorem Sound.in_place {m : M} (sound : Sound key s) (slot : s.slot = some m) : m ∈ s.posted := by
  rw [sound.head slot]
  exact List.mem_cons_self

-- The board speaks of one message only: the one of its key.
theorem Sound.owner {m n : M} (sound : Sound key s) (one : m ∈ s.posted) (other : n ∈ s.posted) (same : key m = key n) :
    m = n := List.inj_on_of_nodup_map sound.apart one other same

theorem Sound.board_of {m : M} {r : R} (sound : Sound key s) (posted : m ∈ s.posted) (shown : s.board = some (key m,r)) :
    (m,r) ∈ s.log := by
  obtain ⟨n,same,listed⟩ := sound.board _ r shown
  cases sound.owner (sound.posted n r listed) posted same
  exact listed

theorem Sound.serving {m : M} (sound : Sound key s) (slot : s.slot = some m) (new : s.last ≠ some (key m)) :
    Sound key (s.serving key serve m) := by
  have front := sound.head slot
  have ordered : (m :: s.served.map Prod.fst).Sublist s.posted := by
    rw [front]
    exact (sound.waiting m slot new).cons_cons m
  have logged : ∀ entry, entry ∈ s.log → entry ∈ (s.serving key serve m).log := fun entry => List.mem_cons_of_mem _
  constructor
  case slot => exact sound.slot
  case last => rfl
  case apart => exact sound.apart
  case waiting =>
    intro n held unserved
    cases slot.symm.trans held
    exact absurd rfl unserved
  case order => exact ordered
  case posted =>
    intro n r listed
    rcases List.mem_cons.mp listed with now | before
    · cases now
      exact sound.in_place slot
    · exact sound.posted n r before
  case report =>
    intro k r shown
    cases shown
    exact ⟨m,rfl,List.mem_cons_self⟩
  case board =>
    intro k r shown
    obtain ⟨n,same,listed⟩ := sound.board k r shown
    exact ⟨n,same,logged _ listed⟩

theorem Sound.publish (sound : Sound key s) : Sound key s.publish := {sound with board := sound.report}

theorem Sound.restart (sound : Sound key s) (device : D) : Sound key (s.restart device) where
  slot := sound.slot
  last := rfl
  apart := sound.apart
  waiting _ _ _ := List.nil_sublist _
  order := List.nil_sublist _
  posted := sound.posted
  report _ _ shown := by cases shown
  board := sound.board

end Sound

section Steps
variable [DecidableEq K] (key : M → K) (serve : M → D → R × D) (starts : D → Prop) (drifts : D → D → Prop)

inductive Step : Mailbox M K D R → Mailbox M K D R → Prop where
  | post {s : Mailbox M K D R} {m : M} : key m ∉ s.posted.map key → Step s (s.post m)
  | look (s : Mailbox M K D R) : Step s (s.look key serve)
  | publish (s : Mailbox M K D R) : Step s s.publish
  | restart {device : D} (s : Mailbox M K D R) : starts device → Step s (s.restart device)
  | drift {device : D} {s : Mailbox M K D R} : drifts s.device device → Step s (s.drift device)

variable {key serve starts drifts} {s t : Mailbox M K D R}

theorem look_idle (idle : ∀ m, s.slot = some m → s.last = some (key m)) : s.look key serve = s := by
  unfold look
  cases slot : s.slot with
  | none => rfl
  | some m => exact if_pos (idle m slot)

theorem look_serving {m : M} (slot : s.slot = some m) (new : s.last ≠ some (key m)) :
    s.look key serve = s.serving key serve m := by
  simp only [look,slot,if_neg new]

-- What one look of the reader comes to.
theorem look_cases (key : M → K) (serve : M → D → R × D) (s : Mailbox M K D R) : s.look key serve = s ∨
    ∃ m, s.slot = some m ∧ s.last ≠ some (key m) ∧ s.look key serve = s.serving key serve m := by
  by_cases idle : ∀ m, s.slot = some m → s.last = some (key m)
  · exact .inl (look_idle idle)
  · push Not at idle
    obtain ⟨m,slot,new⟩ := idle
    exact .inr ⟨m,slot,new,look_serving slot new⟩

@[simp] theorem look_posted (key : M → K) (serve : M → D → R × D) (s : Mailbox M K D R) :
    (s.look key serve).posted = s.posted := by
  obtain idle | ⟨m,_,_,served⟩ := look_cases key serve s
  · rw [idle]
  · rw [served]
    rfl

@[simp] theorem look_slot (key : M → K) (serve : M → D → R × D) (s : Mailbox M K D R) :
    (s.look key serve).slot = s.slot := by
  obtain idle | ⟨m,_,_,served⟩ := look_cases key serve s
  · rw [idle]
  · rw [served]
    rfl

theorem Sound.look (sound : Sound key s) : Sound key (s.look key serve) := by
  obtain idle | ⟨m,slot,new,served⟩ := look_cases key serve s
  · rw [idle]
    exact sound
  · rw [served]
    exact sound.serving slot new

theorem Sound.step (sound : Sound key s) (step : Step key serve starts drifts s t) : Sound key t := by
  cases step with
  | post fresh => exact sound.post fresh
  | look => exact sound.look
  | publish => exact sound.publish
  | restart start => exact sound.restart _
  | drift moved => exact {sound with}

-- No step takes from what was served, and what it adds was in the place.
theorem Step.log (step : Step key serve starts drifts s t) {m : M} {r : R} (listed : (m,r) ∈ t.log) :
    (m,r) ∈ s.log ∨ s.slot = some m := by
  cases step with
  | look =>
      obtain idle | ⟨n,slot,_,served⟩ := look_cases key serve s
      · rw [idle] at listed
        exact .inl listed
      · rw [served] at listed
        rcases List.mem_cons.mp listed with now | before
        · cases now
          exact .inr slot
        · exact .inl before
  | _ => exact .inl listed

theorem Step.keeps (step : Step key serve starts drifts s t) {m : M} {r : R} (listed : (m,r) ∈ s.log) : (m,r) ∈ t.log := by
  cases step with
  | look =>
      obtain idle | ⟨n,_,_,served⟩ := look_cases key serve s
      · rw [idle]
        exact listed
      · rw [served]
        exact List.mem_cons_of_mem _ listed
  | _ => exact listed

theorem Step.posted (step : Step key serve starts drifts s t) {m : M} (posted : m ∈ s.posted) : m ∈ t.posted := by
  cases step with
  | post fresh => exact List.mem_cons_of_mem _ posted
  | look => simpa using posted
  | _ => exact posted

-- What has been written over stays out of the place.
theorem Step.gone (step : Step key serve starts drifts s t) {m : M} (posted : m ∈ s.posted) (gone : s.slot ≠ some m) :
    t.slot ≠ some m := by
  cases step with
  | post fresh =>
      intro back
      cases back
      exact fresh (List.mem_map_of_mem posted)
  | look => simpa using gone
  | _ => exact gone

-- What is in the place has been served once the reader has looked, and the board says so.
theorem Sound.answered {m : M} (sound : Sound key s) (slot : s.slot = some m) :
    ∃ r, (m,r) ∈ (s.look key serve).log ∧ (s.look key serve).publish.board = some (key m,r) := by
  have after : Sound key (s.look key serve) := sound.look
  by_cases new : s.last = some (key m)
  · have idle : s.look key serve = s := by simp only [Mailbox.look,slot,if_pos new]
    rw [idle]
    obtain ⟨⟨k,r⟩,report,same⟩ := Option.map_eq_some_iff.mp (sound.last.symm.trans new)
    cases same
    obtain ⟨n,same,listed⟩ := sound.report _ r report
    cases sound.owner (sound.posted n r listed) (sound.in_place slot) same
    exact ⟨r,listed,report⟩
  · rw [look_serving slot new]
    exact ⟨_,List.mem_cons_self,rfl⟩

end Steps
end Mailbox
end Concurrency
