import ReactorOS.TaskRows
namespace ReactorOS
open Concurrency Journal Protocol

-- The task has made the row its own and not yet begun its action.
def Progress.Claims (p : Progress) (id : Int) : Prop := p.marked = some id ∨ p.claimed = some (id,.received)

def Progress.Holds (p : Progress) (id : Int) : Prop := p.Claims id ∨ p.running = some id

-- A call that comes to claim its row and finds that another has claimed it already.
def Event.contested : Event → Bool
  | .note (.taskClaimed _ .executing) => true
  | _ => false

-- How often an action of the row has been begun.
def begun (id : Int) (history : List (TaskId × Event)) : Nat :=
  history.countP fun entry => entry.2 = .note (.actionStarted id)

-- What a task may have to do with a row of which so many actions have been begun.
structure Entitled (id : Int) (plant : Plant) (count : Nat) (p : Progress) : Prop where
  uncontested : p.claimed ≠ some (id,.executing)
  held : p.Holds id → ∃ row, plant.db.integrationTask id = some row ∧ row.status = .executing
  apart : p.marked = some id → p.claimed ≠ some (id,.received)
  waiting : p.Claims id → count = 0
  running : p.running = some id → count ≠ 0

-- A row has one holder at most, and no action of it has been begun before.
structure Owned (id : Int) (plant : Plant) (progress : TaskId → Progress) (count : Nat) : Prop where
  entitled : ∀ i, Entitled id plant count (progress i)
  sole : ∀ i j, (progress i).Holds id → (progress j).Holds id → i = j
  moved : count ≠ 0 → ∃ row, plant.db.integrationTask id = some row ∧ row.status ≠ .received
  once : count ≤ 1

-- With respect to the row a task has come to have less.
structure Progress.Fewer (id : Int) (after before : Progress) : Prop where
  marked : after.marked = some id → before.marked = some id
  claimed : after.claimed = some (id,.received) → before.claimed = some (id,.received)
  contested : after.claimed = some (id,.executing) → before.claimed = some (id,.executing)
  running : after.running = some id → before.running = some id

variable {id other : Int} {plant after : Plant} {progress : TaskId → Progress} {count : Nat} {p q : Progress}
  {event : Event} {me : TaskId} {row : IntegrationTask} {status : TaskStatus} {response : TaskResponse} {message : String}

theorem Progress.Fewer.refl : p.Fewer id p := ⟨fun same => same,fun same => same,fun same => same,fun same => same⟩

theorem Progress.Fewer.claims (fewer : q.Fewer id p) (claims : q.Claims id) : p.Claims id := by
  rcases claims with marked | claimed
  · exact .inl (fewer.marked marked)
  · exact .inr (fewer.claimed claimed)

theorem Progress.Fewer.holds (fewer : q.Fewer id p) (holds : q.Holds id) : p.Holds id := by
  rcases holds with claims | running
  · exact .inl (fewer.claims claims)
  · exact .inr (fewer.running running)

theorem Entitled.fewer (entitled : Entitled id plant count p) (fewer : q.Fewer id p)
    (same : after.db.integrationTask id = plant.db.integrationTask id) : Entitled id after count q where
  uncontested claimed := entitled.uncontested (fewer.contested claimed)
  held holds := by
    rw [same]
    exact entitled.held (fewer.holds holds)
  apart marked claimed := entitled.apart (fewer.marked marked) (fewer.claimed claimed)
  waiting claims := entitled.waiting (fewer.claims claims)
  running runs := entitled.running (fewer.running runs)

theorem Entitled.free (free : ¬p.Holds id) (uncontested : p.claimed ≠ some (id,.executing)) :
    Entitled id plant count p where
  uncontested := uncontested
  held holds := absurd holds free
  apart marked := absurd (.inl (.inl marked)) free
  waiting claims := absurd (.inl claims) free
  running runs := absurd (.inr runs) free

theorem owned_start : Owned id plant (fun _ => {}) 0 where
  entitled i := .free (by rintro ((marked | claimed) | running) <;> contradiction) nofun
  sole i j holds := by rcases holds with (marked | claimed) | running <;> contradiction
  moved started := absurd rfl started
  once := Nat.zero_le 1

-- Nobody has anything to do with a row that is not there or waits to be claimed.
theorem Owned.idle (owned : Owned id plant progress count)
    (free : ∀ row, plant.db.integrationTask id = some row → row.status = .received) :
    (∀ i, ¬(progress i).Holds id) ∧ count = 0 := by
  constructor
  · intro i holds
    obtain ⟨row,found,executing⟩ := (owned.entitled i).held holds
    rw [free row found] at executing
    cases executing
  · by_contra started
    obtain ⟨row,found,moved⟩ := owned.moved started
    exact moved (free row found)

-- A step after which its task has at most what it had.
theorem Owned.fewer (owned : Owned id plant progress count) (fewer : q.Fewer id (progress me))
    (same : after.db.integrationTask id = plant.db.integrationTask id) :
    Owned id after (Function.update progress me q) count := by
  have each : ∀ i, (Function.update progress me q i).Fewer id (progress i) := by
    intro i
    by_cases mine : i = me
    · subst mine
      rw [Function.update_self]
      exact fewer
    · rw [Function.update_of_ne mine]
      exact .refl
  constructor
  case entitled => exact fun i => (owned.entitled i).fewer (each i) same
  case sole => exact fun i j one two => owned.sole i j ((each i).holds one) ((each j).holds two)
  case moved =>
    rw [same]
    exact owned.moved
  case once => exact owned.once

-- A step of the only task that can hold the row after it.
theorem Owned.step {more : Nat} (owned : Owned id plant progress count) (others : ∀ i, i ≠ me → ¬(progress i).Holds id)
    (mine : Entitled id after more q)
    (moved : more ≠ 0 → ∃ row, after.db.integrationTask id = some row ∧ row.status ≠ .received) (once : more ≤ 1) :
    Owned id after (Function.update progress me q) more := by
  have only : ∀ i, (Function.update progress me q i).Holds id → i = me := by
    intro i holds
    by_contra other
    rw [Function.update_of_ne other] at holds
    exact others i other holds
  constructor
  case entitled =>
    intro i
    by_cases same : i = me
    · subst same
      rw [Function.update_self]
      exact mine
    · rw [Function.update_of_ne same]
      exact .free (others i same) (owned.entitled i).uncontested
  case sole => exact fun i j one two => (only i one).trans (only j two).symm
  case moved => exact moved
  case once => exact once

theorem Owned.others (owned : Owned id plant progress count) (holds : (progress me).Holds id) :
    ∀ i, i ≠ me → ¬(progress i).Holds id := fun i other held => other (owned.sole i me held holds)

theorem owned_marked (owned : Owned id plant progress count) (found : plant.db.integrationTask id = some row)
    (received : row.status = .received) :
    Owned id (Effect.apply (Event.store (.taskMarkedExecuting id message)) plant)
      (Function.update progress me {progress me with marked := some id}) count := by
  obtain ⟨free,unbegun⟩ := owned.idle fun other same => by
    cases found.symm.trans same
    exact received
  refine owned.step (fun i _ => free i) ?_ (fun started => absurd unbegun started) owned.once
  constructor
  case uncontested => exact (owned.entitled me).uncontested
  case held =>
    intro _
    rw [apply_store,Write.apply,integrationTask_updated,found]
    exact ⟨_,rfl,by simp⟩
  case apart => exact fun _ claimed => free me (.inl (.inr claimed))
  case waiting => exact fun _ => unbegun
  case running => exact fun runs => absurd (.inr runs) (free me)

theorem owned_claimed (owned : Owned id plant progress count) (marked : (progress me).marked = some id) :
    Owned id plant (Function.update progress me {progress me with claimed := some (id,.received),marked := none}) count := by
  refine owned.step (owned.others (.inl (.inl marked))) ?_ owned.moved owned.once
  constructor
  case uncontested => simp
  case held => exact fun _ => (owned.entitled me).held (.inl (.inl marked))
  case apart => exact nofun
  case waiting => exact fun _ => (owned.entitled me).waiting (.inl marked)
  case running => exact (owned.entitled me).running

-- The action begins in the hands of the holder.
theorem owned_started (owned : Owned id plant progress count) (claimed : (progress me).claimed = some (id,.received)) :
    Owned id plant (Function.update progress me {progress me with running := some id,claimed := none}) (count+1) := by
  have unbegun : count = 0 := (owned.entitled me).waiting (.inr claimed)
  obtain ⟨row,found,executing⟩ := (owned.entitled me).held (.inl (.inr claimed))
  refine owned.step (owned.others (.inl (.inr claimed))) ?_ (fun _ => ⟨row,found,by rw [executing]; exact nofun⟩) (by omega)
  constructor
  case uncontested => exact nofun
  case held => exact fun _ => ⟨row,found,executing⟩
  case apart => exact fun _ => nofun
  case waiting =>
    intro claims
    rcases claims with marked | gone
    · exact absurd claimed ((owned.entitled me).apart marked)
    · cases gone
  case running => exact fun _ => Nat.succ_ne_zero count

-- The receipt leaves the row to nobody.
theorem owned_updated (owned : Owned id plant progress count) (runs : (progress me).running = some id)
    (terminal : status.terminal = true) : Owned id (Effect.apply (Event.store (.taskUpdated id status response)) plant)
      (Function.update progress me {progress me with running := none}) count := by
  obtain ⟨row,found,_⟩ := (owned.entitled me).held (.inr runs)
  refine owned.step (owned.others (.inr runs)) (.free ?_ (owned.entitled me).uncontested) ?_ owned.once
  · intro holds
    rcases holds with claims | gone
    · exact (owned.entitled me).running runs ((owned.entitled me).waiting claims)
    · cases gone
  · intro _
    rw [apply_store,Write.apply,integrationTask_updated,found]
    refine ⟨_,rfl,?_⟩
    intro received
    simp only [if_true] at received
    rw [received] at terminal
    cases terminal

theorem owned_inserted (owned : Owned id plant progress count) :
    Owned id (Effect.apply (Event.store (.taskInserted row)) plant) progress count := by
  cases known : plant.db.integrationTask id with
  | some task =>
      have same : (plant.db.insertIntegrationTask row).integrationTask id = plant.db.integrationTask id := by
        rw [integrationTask_kept known,known]
      have kept : Owned id (Effect.apply (Event.store (.taskInserted row)) plant) (Function.update progress 0 (progress 0))
          count := owned.fewer .refl same
      rwa [Function.update_eq_self] at kept
  | none =>
      obtain ⟨free,unbegun⟩ := owned.idle fun other same => by
        rw [known] at same
        cases same
      subst unbegun
      exact ⟨fun i => .free (free i) (owned.entitled i).uncontested,fun i _ one _ => absurd one (free i),
        fun started => absurd rfl started,Nat.zero_le 1⟩

theorem begun_cons (entry : TaskId × Event) (history : List (TaskId × Event)) :
    begun id (entry :: history) = begun id history + if entry.2 = .note (.actionStarted id) then 1 else 0 := by
  unfold begun
  rw [List.countP_cons]
  simp

theorem progress_entry (safety : SafetyConfig) (me : TaskId) (event : Event) (older : List (TaskId × Event)) :
    (fun i => (rules safety).progress i ((me,event) :: older)) = Function.update (fun i => (rules safety).progress i older) me
      (Progress.after event ((rules safety).progress me older)) := by
  funext i
  by_cases mine : i = me
  · subst mine
    rw [Function.update_self,progress_own]
    rfl
  · rw [Function.update_of_ne mine,progress_other _ (Ne.symm mine)]

-- One event, as the rules allow it, that finds no claimed row to claim.
theorem owned_after (owned : Owned id plant progress count) (permitted : allowed plant (progress me) event)
    (clear : event.contested = false) : Owned id (Effect.apply event plant)
      (Function.update progress me (Progress.after event (progress me)))
      (count + if event = .note (.actionStarted id) then 1 else 0) := by
  cases event with
  | runtime change =>
      have same : Progress.after (.runtime change) (progress me) = progress me ∨ ∃ latch,
          Progress.after (.runtime change) (progress me) = {progress me with cleared := latch :: (progress me).cleared} := by
        cases change with
        | cleared latch => exact .inr ⟨latch,rfl⟩
        | _ => exact .inl rfl
      refine owned.fewer ?_ rfl
      rcases same with same | ⟨latch,same⟩
      · rw [same]
        exact .refl
      · rw [same]
        exact ⟨fun same => same,fun same => same,fun same => same,fun same => same⟩
  | commanded writer command delivered => exact owned.fewer ⟨fun same => same,fun same => same,fun same => same,fun same => same⟩ rfl
  | store write =>
      cases write with
      | batchInserted batch => exact owned.fewer .refl rfl
      | batchFinished batch now => exact owned.fewer .refl rfl
      | controlEventInserted event => exact owned.fewer .refl rfl
      | recommendationInserted recommendation event => exact owned.fewer .refl rfl
      | taskInserted task =>
          have kept : Owned id (Effect.apply (Event.store (.taskInserted task)) plant) progress count := owned_inserted owned
          change Owned id _ (Function.update progress me (progress me)) _
          rwa [Function.update_eq_self]
      | taskMarkedExecuting other message =>
          obtain ⟨row,found,received⟩ := permitted
          by_cases same : other = id
          · subst same
            exact owned_marked owned found received
          · exact owned.fewer ⟨fun mark => absurd (Option.some.inj mark) same,fun same => same,fun same => same,fun same => same⟩
              (integrationTask_elsewhere (Ne.symm same))
      | taskUpdated other status response =>
          obtain ⟨terminal,runs⟩ := permitted
          by_cases same : other = id
          · subst same
            exact owned_updated owned runs terminal
          · exact owned.fewer ⟨fun same => same,fun same => same,fun same => same,fun runs => (by cases runs)⟩ (integrationTask_elsewhere (Ne.symm same))
  | note note =>
      cases note with
      | taskClaimed other found =>
          simp only [reduceCtorEq,Event.note.injEq,if_false,Nat.add_zero]
          by_cases claims : found = .received ∧ other = id
          · obtain ⟨rfl,rfl⟩ := claims
            exact owned_claimed owned (by simpa [allowed,allowedNote] using permitted)
          · refine owned.fewer ⟨fun mark => (by cases mark),fun same => ?_,fun same => ?_,fun same => same⟩ rfl
            · cases same
              exact absurd ⟨rfl,rfl⟩ claims
            · cases same
              cases clear
      | actionStarted other =>
          obtain ⟨found,claimed,mine⟩ := permitted
          by_cases same : other = id
          · subst same
            rcases mine with rfl | rfl
            · rw [if_pos rfl]
              exact owned_started owned claimed
            · exact absurd claimed (owned.entitled me).uncontested
          · simp only [Event.note.injEq,Note.actionStarted.injEq,same,if_false,Nat.add_zero]
            exact owned.fewer ⟨fun same => same,fun mine => (by cases mine),fun mine => (by cases mine),fun runs => absurd (Option.some.inj runs) same⟩ rfl
      | _ => exact owned.fewer ⟨fun same => same,fun same => same,fun same => same,fun same => same⟩ rfl

section Run
variable {safety : SafetyConfig} {init : Plant} {history newer older : List (TaskId × Event)}

theorem owned_replay (permitted : (rules safety).Throughout allowed init history)
    (clear : ∀ entry ∈ history, entry.2.contested = false) :
    Owned id (replay init history) (fun i => (rules safety).progress i history) (begun id history) := by
  induction history with
  | nil => exact owned_start
  | cons entry older ih =>
      obtain ⟨me,event⟩ := entry
      have before := ih permitted.1 fun entry member => clear entry (List.mem_cons_of_mem _ member)
      rw [progress_entry,begun_cons]
      exact owned_after before permitted.2 (clear (me,event) List.mem_cons_self)

-- A receipt stays as it is.
theorem terminal_after (owned : Owned id plant progress count) (permitted : allowed plant (progress me) event)
    (found : plant.db.integrationTask id = some row) (terminal : row.status.terminal = true) :
    (Effect.apply event plant).db.integrationTask id = some row := by
  cases event with
  | store write =>
      cases write with
      | taskInserted task => exact integrationTask_kept found
      | taskMarkedExecuting other message =>
          obtain ⟨task,waiting,received⟩ := permitted
          by_cases same : other = id
          · subst same
            cases found.symm.trans waiting
            rw [received] at terminal
            cases terminal
          · exact (integrationTask_elsewhere (Ne.symm same)).trans found
      | taskUpdated other status response =>
          by_cases same : other = id
          · subst same
            obtain ⟨task,holding,executing⟩ := (owned.entitled me).held (.inr permitted.2)
            cases found.symm.trans holding
            rw [executing] at terminal
            cases terminal
          · exact (integrationTask_elsewhere (Ne.symm same)).trans found
      | _ => exact found
  | _ => exact found

theorem terminal_replay (permitted : (rules safety).Throughout allowed init (newer ++ older))
    (clear : ∀ entry ∈ newer ++ older, entry.2.contested = false)
    (found : (replay init older).db.integrationTask id = some row) (terminal : row.status.terminal = true) :
    (replay init (newer ++ older)).db.integrationTask id = some row := by
  induction newer with
  | nil => exact found
  | cons entry newer ih =>
      have clear' : ∀ entry ∈ newer ++ older, entry.2.contested = false :=
        fun entry member => clear entry (List.mem_cons_of_mem _ member)
      exact terminal_after (owned_replay permitted.1 clear') permitted.2 (ih permitted.1 clear') terminal

end Run

end ReactorOS
