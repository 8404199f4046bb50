import ReactorOS.TaskStore
namespace ReactorOS.TaskStore
open Wire Storage
variable {Value Time : Type}

-- What the store is for: tasks under numbers that grow, and at most one for each
-- identifier that a source has given.
structure Register (Value Time : Type) where
  tasks : List (StoredTask Value Time)
  sequence : Int
  ordered : tasks.Pairwise fun one other => one.id < other.id
  used : ∀ task ∈ tasks, task.id ≤ sequence
  single : ∀ one ∈ tasks, ∀ other ∈ tasks, one.source = other.source → one.externalTaskId = other.externalTaskId →
    one.externalTaskId ≠ none → one.id = other.id

def StoredTask.settle (status : String) (response : Value) (now : Time) (task : StoredTask Value Time) :
    StoredTask Value Time := {task with status := status,response := response,updatedAt := now}

-- Two notes of one task, the second not before the first.
structure StoredTask.Continues (before after : StoredTask Value Time) : Prop where
  id : after.id = before.id
  externalTaskId : after.externalTaskId = before.externalTaskId
  source : after.source = before.source
  action : after.action = before.action
  request : after.request = before.request
  createdAt : after.createdAt = before.createdAt
  fresh : after.status = "received" → before.status = "received"
  terminal : before.status ∈ integrationTaskTerminalStatuses → after.status ∈ integrationTaskTerminalStatuses

-- The status of an update is checked before anything is written.
def Request.Admitted : Request Value → Prop
  | .update _ status _ => status ∈ integrationTaskTerminalStatuses
  | _ => True

namespace Register
variable (register : Register Value Time)

def empty : Register Value Time := ⟨[],0,.nil,(fun _ member => by cases member),fun _ member => by cases member⟩

def byId (id : Int) : Option (StoredTask Value Time) := register.tasks.find? fun task => task.id = id

def byKey (source : String) : Option String → Option (StoredTask Value Time)
  | none => none
  | some externalTaskId =>
      register.tasks.find? fun task => task.source = source && task.externalTaskId = some externalTaskId

def file (source : String) (externalTaskId : Option String) (action : String) (request blank : Value) (now : Time)
    (unknown : register.byKey source externalTaskId = none) : Register Value Time where
  tasks := register.tasks ++ [⟨register.sequence+1,externalTaskId,source,action,"received",request,blank,now,now⟩]
  sequence := register.sequence+1
  ordered := by
    refine List.pairwise_append.mpr ⟨register.ordered,List.pairwise_singleton _ _,?_⟩
    intro one member other single
    rw [List.mem_singleton.mp single]
    exact Int.lt_add_one_of_le (register.used one member)
  used := by
    intro task member
    cases List.mem_append.mp member with
    | inl before => exact (register.used task before).trans (Int.le_add_one (Int.le_refl _))
    | inr single => rw [List.mem_singleton.mp single]
  single := by
    have apart : ∀ task ∈ register.tasks, task.source = source → task.externalTaskId = externalTaskId →
        externalTaskId ≠ none → False := by
      intro task member origin given named
      cases externalTaskId with
      | none => exact named rfl
      | some identifier =>
          have missed := List.find?_eq_none.mp unknown task member
          simp [origin,given] at missed
    intro one first other second origin given named
    cases List.mem_append.mp first with
    | inl one_before =>
        cases List.mem_append.mp second with
        | inl other_before => exact register.single one one_before other other_before origin given named
        | inr last =>
            obtain rfl := List.mem_singleton.mp last
            change one.externalTaskId = externalTaskId at given
            rw [given] at named
            exact (apart one one_before origin given named).elim
    | inr first =>
        obtain rfl := List.mem_singleton.mp first
        cases List.mem_append.mp second with
        | inl other_before => exact (apart other other_before origin.symm given.symm named).elim
        | inr last => rw [List.mem_singleton.mp last]

def change (selects : StoredTask Value Time → Bool) (status : String) (response : Value) (now : Time)
    (task : StoredTask Value Time) : StoredTask Value Time :=
  if selects task then task.settle status response now else task

theorem change_key (selects : StoredTask Value Time → Bool) (status : String) (response : Value) (now : Time)
    (task : StoredTask Value Time) : (change selects status response now task).id = task.id ∧
      (change selects status response now task).source = task.source ∧
      (change selects status response now task).externalTaskId = task.externalTaskId := by
  unfold change
  split
  · exact ⟨rfl,rfl,rfl⟩
  · exact ⟨rfl,rfl,rfl⟩

def settle (selects : StoredTask Value Time → Bool) (status : String) (response : Value) (now : Time) :
    Register Value Time where
  tasks := register.tasks.map (change selects status response now)
  sequence := register.sequence
  ordered := by
    refine List.pairwise_map.mpr ?_
    simpa only [change_key] using register.ordered
  used := by
    intro task member
    obtain ⟨before,present,rfl⟩ := List.mem_map.mp member
    rw [(change_key selects status response now before).1]
    exact register.used before present
  single := by
    intro one first other second
    obtain ⟨one,one_present,rfl⟩ := List.mem_map.mp first
    obtain ⟨other,other_present,rfl⟩ := List.mem_map.mp second
    simp only [change_key]
    exact register.single one one_present other other_present

def create (source : String) (externalTaskId : Option String) (action : String) (request blank : Value) (now : Time) :
    Register Value Time × List (StoredTask Value Time) :=
  match known : register.byKey source externalTaskId with
  | some task => (register,[task])
  | none =>
      (register.file source externalTaskId action request blank now known,
        [⟨register.sequence+1,externalTaskId,source,action,"received",request,blank,now,now⟩])

-- What a call does that is carried out; `blank` and `started` are the answers that a
-- task has before its own.
def perform (blank started : Value) (now : Time) : Request Value → Register Value Time × List (StoredTask Value Time)
  | .create source externalTaskId action request => register.create source externalTaskId action request blank now
  | .update id status response =>
      match register.byId id with
      | none => (register,[])
      | some task => (register.settle (fun task => task.id = id) status response now,[task.settle status response now])
  | .markExecuting id =>
      match register.byId id with
      | none => (register,[])
      | some task =>
          if task.status = "received" then
            (register.settle (fun task => task.id = id && task.status = "received") "executing" started now,
              [task.settle "executing" started now])
          else (register,[task])
  | .get id => (register,(register.byId id).toList)
  | .list source limit =>
      (register,limited limit (register.tasks.reverse.filter fun task => source.all (task.source = ·)))

section Lookups
variable {register}

theorem same_of_id {one other : StoredTask Value Time} (here : one ∈ register.tasks) (there : other ∈ register.tasks)
    (same : one.id = other.id) : one = other := by
  have ids : (register.tasks.map StoredTask.id).Nodup := by
    rw [List.Nodup,List.pairwise_map]
    exact register.ordered.imp ne_of_lt
  exact List.inj_on_of_nodup_map ids here there same

theorem byId_mem {id : Int} {task : StoredTask Value Time} (found : register.byId id = some task) :
    task ∈ register.tasks ∧ task.id = id :=
  ⟨List.mem_of_find?_eq_some found,by simpa using List.find?_some found⟩

theorem byId_of_mem {task : StoredTask Value Time} (member : task ∈ register.tasks) : register.byId task.id = some task := by
  cases found : register.byId task.id with
  | none =>
      have missed := List.find?_eq_none.mp found task member
      simp at missed
  | some other =>
      obtain ⟨present,same⟩ := byId_mem found
      rw [same_of_id present member same]

theorem file_byId {source action : String} {externalTaskId : Option String} {request blank : Value} {now : Time}
    (unknown : register.byKey source externalTaskId = none) :
    (register.file source externalTaskId action request blank now unknown).byId (register.sequence+1) =
      some ⟨register.sequence+1,externalTaskId,source,action,"received",request,blank,now,now⟩ := by
  have last : ⟨register.sequence+1,externalTaskId,source,action,"received",request,blank,now,now⟩ ∈
      (register.file source externalTaskId action request blank now unknown).tasks :=
    List.mem_append_right _ (List.mem_singleton.mpr rfl)
  exact byId_of_mem last

theorem byKey_mem {source : String} {externalTaskId : Option String} {task : StoredTask Value Time}
    (found : register.byKey source externalTaskId = some task) :
    task ∈ register.tasks ∧ task.source = source ∧ task.externalTaskId = externalTaskId := by
  cases externalTaskId with
  | none => cases found
  | some identifier =>
      have matched := List.find?_some found
      simp only [Bool.and_eq_true,decide_eq_true_eq] at matched
      exact ⟨List.mem_of_find?_eq_some found,matched⟩

variable {selects : StoredTask Value Time → Bool} {status : String} {response : Value} {now : Time}

theorem settle_byId {id : Int} {task : StoredTask Value Time} (found : register.byId id = some task)
    (selected : selects task = true) :
    (register.settle selects status response now).byId id = some (task.settle status response now) := by
  obtain ⟨member,named⟩ := byId_mem found
  have changed : change selects status response now task = task.settle status response now := by
    unfold change
    rw [if_pos selected]
  have present : task.settle status response now ∈ (register.settle selects status response now).tasks :=
    List.mem_map.mpr ⟨task,member,changed⟩
  have read := byId_of_mem present
  change (register.settle selects status response now).byId task.id = _ at read
  rwa [named] at read

end Lookups

section Continuity
variable {register} {blank started : Value} {now : Time} {request : Request Value}

theorem continues_refl (task : StoredTask Value Time) : task.Continues task :=
  ⟨rfl,rfl,rfl,rfl,rfl,rfl,id,id⟩

theorem continues_trans {one two three : StoredTask Value Time} (first : one.Continues two) (second : two.Continues three) :
    one.Continues three where
  id := second.id.trans first.id
  externalTaskId := second.externalTaskId.trans first.externalTaskId
  source := second.source.trans first.source
  action := second.action.trans first.action
  request := second.request.trans first.request
  createdAt := second.createdAt.trans first.createdAt
  fresh same := first.fresh (second.fresh same)
  terminal ended := second.terminal (first.terminal ended)

-- A new status is never `received`, and from an end only another end.
theorem settle_continues {selects : StoredTask Value Time → Bool} {status : String} {response : Value}
    (task : StoredTask Value Time) (moves : status ≠ "received")
    (ends : selects task = true → task.status ∈ integrationTaskTerminalStatuses → status ∈ integrationTaskTerminalStatuses) :
    task.Continues (change selects status response now task) := by
  unfold change
  split
  · rename_i selected
    exact ⟨rfl,rfl,rfl,rfl,rfl,rfl,(fun same => (moves same).elim),ends selected⟩
  · exact continues_refl task

theorem perform_continues (admitted : request.Admitted) {task : StoredTask Value Time} (member : task ∈ register.tasks) :
    ∃ after ∈ (register.perform blank started now request).1.tasks, task.Continues after := by
  have same : ∃ after ∈ register.tasks, task.Continues after := ⟨task,member,continues_refl task⟩
  cases request with
  | create source externalTaskId action request =>
      unfold perform create
      dsimp only
      split
      · exact same
      · exact ⟨task,List.mem_append_left _ member,continues_refl task⟩
  | update id status response =>
      unfold perform
      dsimp only
      split
      · exact same
      · refine ⟨_,List.mem_map_of_mem member,settle_continues task ?_ fun _ _ => admitted⟩
        rintro rfl
        change "received" ∈ integrationTaskTerminalStatuses at admitted
        exact absurd admitted (by decide)
  | markExecuting id =>
      unfold perform
      dsimp only
      split
      · exact same
      · split
        · refine ⟨_,List.mem_map_of_mem member,settle_continues task (by decide) ?_⟩
          intro selected ended
          simp only [Bool.and_eq_true,decide_eq_true_eq] at selected
          rw [selected.2] at ended
          exact absurd ended (by decide)
        · exact same
  | get id => exact same
  | list source limit => exact same

theorem limited_mem {α : Type} {limit : Nat} {rows : List α} {row : α} (member : row ∈ limited limit rows) : row ∈ rows := by
  unfold limited at member
  split at member
  · exact List.mem_of_mem_take member
  · exact member

-- What is answered with stands in the register.
theorem perform_answers {task : StoredTask Value Time} (answered : task ∈ (register.perform blank started now request).2) :
    task ∈ (register.perform blank started now request).1.tasks := by
  cases request with
  | create source externalTaskId action request =>
      unfold perform create at answered ⊢
      dsimp only at answered ⊢
      split at answered
      · rename_i known
        rw [List.mem_singleton.mp answered]
        exact (byKey_mem known).1
      · exact List.mem_append_right _ answered
  | update id status response =>
      unfold perform at answered ⊢
      dsimp only at answered ⊢
      split at answered
      · cases answered
      · rename_i found
        rw [List.mem_singleton.mp answered]
        have named := (byId_mem found).2
        exact (byId_mem (settle_byId found (by simpa using named))).1
  | markExecuting id =>
      unfold perform at answered ⊢
      dsimp only at answered ⊢
      split at answered
      · cases answered
      · rename_i task' found
        by_cases received : task'.status = "received"
        · rw [if_pos received] at answered ⊢
          rw [List.mem_singleton.mp answered]
          have named := (byId_mem found).2
          exact (byId_mem (settle_byId found (by simp [named,received]))).1
        · rw [if_neg received] at answered ⊢
          rw [List.mem_singleton.mp answered]
          exact (byId_mem found).1
  | get id =>
      have found := Option.mem_toList.mp answered
      exact (byId_mem found).1
  | list source limit =>
      have listed := limited_mem answered
      exact List.mem_reverse.mp (List.mem_of_mem_filter listed)

end Continuity
end Register
end ReactorOS.TaskStore
