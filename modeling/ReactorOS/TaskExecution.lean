import ReactorOS.DeviceEffects
import ReactorOS.TaskClaims
namespace ReactorOS
open Concurrency Journal Protocol Task Section
variable {safety : SafetyConfig} {may : Event → Bool} {me : TaskId} {ε α : Type} {source external : String} {id : Int}
  {payload : AinasTaskRequest} {actor : AuditActor} {w : World}

-- A step in which the action of a task begins.
def Begins (me : TaskId) (moment : Moment Env World) : Prop :=
  ∃ id, (me,.note (.actionStarted id)) ∈ moment.recorded

instance (me : TaskId) : Shows me (Begins me) where
  tame event := event.starting = false
  narrow := ⟨fun _ _ idle => idle⟩
  shown moment begins := by
    obtain ⟨id,listed⟩ := begins
    exact ⟨_,listed,nofun⟩

theorem begins_stop : StopTame me (Begins me) safety := ⟨fun _ => rfl,rfl⟩

theorem begins_start {targets : ControlTargets} : StartTame me (Begins me) safety targets := ⟨fun _ => rfl,rfl,begins_stop⟩

theorem applyAinasTargets_idle :
    (applyAinasTargets safety payload actor : Handler Event.work me AppError ControlTargets).Clean (Begins me) := by
  unfold applyAinasTargets
  have tail : (do
      let current ← locked readTargets
      let targets ← Task.ofExcept (ainasTargets safety payload current)
      let runtime ← locked disableAutoAndAcknowledge
      timed fun now => ensureTargetUpdateInterlockClear safety now runtime .desiredTargets
      let acknowledgedSafetyLatches := SafetyLatchGenerations.fromRuntime runtime
      let reason := cleanLabel payload.reason "AINAS task changed desired targets" 240
      orInternal (within (insertControlEventSqlx none "ainas_targets_updated"
        (some (safeCommandFromRuntimeTargets targets reason)) reason actor))
      commitTargetsAfterFinalInterlock safety targets .desiredTargets (some current) (some acknowledgedSafetyLatches)
      return targets : Handler Event.work me AppError ControlTargets).Clean (Begins me) := by
    refine clean_bind (clean_locked (keeps_silent silent_readTargets)) fun current => clean_bind clean_ofExcept fun targets => ?_
    refine clean_bind (clean_locked keeps_acknowledge) fun runtime => clean_bind clean_timed fun _ => ?_
    refine clean_bind (clean_orInternal (clean_within clean_quiet)) fun _ => ?_
    exact clean_bind (clean_commitTargets rfl) fun _ => clean_done _
  split
  · exact clean_bind (clean_done _) fun _ => tail
  · exact tail

theorem startProcessLifecycle_idle (processId : Int) (eventType : String) (nameOverride : Option String) :
    (startProcessLifecycle safety processId eventType nameOverride actor :
      Handler Event.work me AppError ProcessApplyResponse).Clean (Begins me) := by
  have looked : (startProcessLifecycle safety processId eventType nameOverride actor :
      Handler Event.work me AppError ProcessApplyResponse).behaves fun moments _ =>
        ∀ look ∈ moments.head?, ¬Effected (Begins me) moments :=
    startProcessLifecycle_seen processId eventType nameOverride actor fun _ _ _ _ _ => begins_start
  apply behaves_mono _ looked
  intro moments result never begins
  cases moments with
  | nil =>
      obtain ⟨moment,member,_⟩ := begins
      cases member
  | cons look later => exact never look rfl begins

theorem stopProcessLifecycle_idle (expectedProcessId : Option Int) (eventType : String) (operatorReason : Option String) :
    (stopProcessLifecycle safety expectedProcessId eventType operatorReason actor :
      Handler Event.work me AppError ProcessStopResponse).Clean (Begins me) := by
  unfold stopProcessLifecycle
  refine clean_bind (clean_locked (keeps_bind (keeps_silent silent_runtimeState) fun runtime => ?_)) fun batchId => ?_
  · cases runtime.activeBatchId with
    | none => exact keeps_silent (silent_throw _)
    | some batchId => exact keeps_bind (keeps_note rfl) fun _ => keeps_silent (silent_pure _)
  refine clean_bind (clean_orInternal (clean_locked (keeps_silent silent_query))) fun batch => ?_
  refine clean_bind clean_ofExcept fun _ => clean_bind (clean_stopProcessOnDevice fun _ => rfl) fun _ => ?_
  exact clean_bind (clean_confirmStoppedBatch begins_stop) fun _ => clean_closeStoppedBatch begins_stop

theorem executeAinasTask_idle {action : AinasAction} :
    (executeAinasTask safety action payload actor : Handler Event.work me AppError TaskResponse).Clean (Begins me) := by
  cases action with
  | setTargets => exact clean_bind applyAinasTargets_idle fun _ => clean_done _
  | startProcess =>
      refine clean_bind clean_ofExcept fun processId => ?_
      exact clean_bind (startProcessLifecycle_idle _ _ _) fun _ => clean_done _
  | stopProcess =>
      refine clean_bind clean_ofExcept fun processId => ?_
      exact clean_bind (stopProcessLifecycle_idle _ _ _) fun _ => clean_done _

-- Where an action begins in a step, it is that of the row of this source and external id.
def Files (source external : String) (me : TaskId) (e : Env) (w after : World) : Prop :=
  ∀ id, (me,Event.note (.actionStarted id)) ∈ Moment.recorded ⟨e,w,after⟩ →
    after.state.db.taskFor source external = some id

theorem files_idle {t : Handler may me ε α} (idle : t.Clean (Begins me)) :
    t.wp (Others me) (Files source external me) (fun _ _ => True) w := by
  apply wp_each
  apply behaves_mono _ idle
  intro moments result never moment member id listed
  exact absurd ⟨moment,member,id,listed⟩ never

-- A section in which no action begins.
theorem files_section {s : Critical may me ε α} {Q : Except ε α → World → Prop}
    (keeps : s.Keeps (Records (fun event => event.starting = false) me))
    (ends : ∀ e w', Others me w w' → Q (s.run e w').1 (s.run e w').2) :
    (locked s).wp (Others me) (Files source external me) Q w := by
  unfold locked
  rw [wp_section]
  intro w' moved e
  refine ⟨?_,ends e w' moved⟩
  intro id listed
  obtain ⟨new,own,same⟩ := keeps e w'
  rw [same,Moment.recorded_extend] at listed
  exact absurd (own _ listed).2 nofun

instance : Narrow fun event => event.starting = false := ⟨fun _ _ idle => idle⟩

theorem create_files {action : AinasAction} {request : TaskRequest} :
    (createIntegrationTaskSqlx source (some external) action request : Handler Event.work me Failure IntegrationTask).wp
      (Others me) (Files source external me)
      (fun result after => ∀ task, result = .ok task → after.state.db.taskFor source external = some task.id) w := by
  apply files_section
  · refine keeps_bind (keeps_silent (silent_inspect _)) fun db => keeps_bind (keeps_silent silent_answer) fun env => ?_
    split
    · cases env.db <;> exact keeps_silent (by first | exact silent_pure _ | exact silent_throw _)
    · exact keeps_bind keeps_statement fun _ => keeps_silent (silent_pure _)
  · intro e w' _ task returned
    simp only [run_bind,run_database,run_answer,chain_ok,Option.bind_some] at returned ⊢
    cases known : w'.state.db.integrationTaskByExternalId source external with
    | some row =>
        simp only [known] at returned ⊢
        cases answered : e.db with
        | done =>
            simp only [answered] at returned ⊢
            cases returned
            exact congrArg (Option.map (·.id)) known
        | failed error => simp [answered] at returned
        | lost error => simp [answered] at returned
    | none =>
        simp only [known] at returned ⊢
        cases answered : e.db with
        | done =>
            simp only [statement,run_bind,run_answer,chain_ok,answered,run_record,run_pure] at returned ⊢
            cases returned
            exact taskFor_new known rfl rfl
        | failed error => simp [statement,answered] at returned
        | lost error => simp [statement,answered] at returned

-- The row that comes back is the one that was asked for.
theorem mark_files (filed : w.state.db.taskFor source external = some id) :
    (markIntegrationTaskExecutingSqlx id : Handler Event.work me Failure (Option IntegrationTask)).wp
      (Others me) (Files source external me)
      (fun result after => ∀ task, result = .ok (some task) → after.state.db.taskFor source external = some task.id) w := by
  have kept : ∀ {look : Env → Db → IntegrationTask}, (do
      let found ← query look
      note (.taskClaimed id found.status)
      return some found : Critical Event.work me Failure (Option IntegrationTask)).Keeps
        (Records (fun event => event.starting = false) me) :=
    keeps_bind (keeps_silent silent_query) fun _ => keeps_bind (keeps_note rfl) fun _ => keeps_silent (silent_pure _)
  apply files_section
  · refine keeps_bind (keeps_silent (silent_inspect _)) fun db => ?_
    split
    · exact keeps_silent silent_query
    · split
      · exact kept
      · refine keeps_bind keeps_statement fun _ => keeps_bind (keeps_note rfl) fun _ => ?_
        exact keeps_bind (keeps_silent (silent_inspect _)) fun _ => keeps_silent (silent_pure _)
  · intro e w' moved task returned
    have here := taskFor_others filed moved
    simp only [run_bind,run_database,chain_ok] at returned ⊢
    cases known : w'.state.db.integrationTask id with
    | none =>
        simp only [known] at returned
        cases answered : e.db <;> simp [query,answered] at returned
    | some row =>
        simp only [known] at returned ⊢
        by_cases received : row.status ≠ .received
        · simp only [if_pos received] at returned ⊢
          cases answered : e.db with
          | done =>
              simp only [query,run_bind,run_inspect,answered,chain_ok,run_note,run_pure] at returned ⊢
              cases returned
              rw [integrationTask_id known]
              exact here
          | failed error => simp [query,answered] at returned
          | lost error => simp [query,answered] at returned
        · simp only [if_neg received] at returned ⊢
          cases answered : e.db with
          | done =>
              simp only [statement,run_bind,run_answer,chain_ok,answered,run_record,run_note,run_database,run_pure] at returned ⊢
              rw [integrationTask_id (Except.ok.inj returned)]
              exact taskFor_after (taskFor_after here)
          | failed error => simp [statement,answered] at returned
          | lost error => simp [statement,answered] at returned

theorem update_idle {status : TaskStatus} {response : TaskResponse} :
    (updateIntegrationTaskSqlx id status response : Handler Event.work me Failure (Option IntegrationTask)).Clean
      (Begins me) := by
  refine clean_locked (keeps_bind (keeps_silent (silent_inspect _)) fun db => ?_)
  split
  · exact keeps_silent silent_query
  · exact keeps_bind keeps_statement fun _ => keeps_bind (keeps_silent (silent_inspect _)) fun _ => keeps_silent (silent_pure _)

theorem receipt_idle {prepared : PreparedTask} {task : IntegrationTask} (outcome : Except AppError TaskResponse) :
    ((match outcome with
      | .ok response => do
          let updated ← catching (updateIntegrationTaskSqlx task.id .executed response) fun err => do
            within (latchIntegrationReceiptFailureAfterAction prepared.action err.message)
            throw (.internal err)
          match updated with
          | some task => return task
          | none => do
              within (latchIntegrationReceiptFailureAfterAction prepared.action "AINAS task not found after execution")
              throw (.notFound "AINAS task not found after execution")
      | .error (err : AppError) => do
          let status : TaskStatus := if err.isServerError then .failed else .rejected
          let _ ← orInternal (updateIntegrationTaskSqlx task.id status (.error err.status err.message))
          throw err) : Handler Event.work me AppError IntegrationTask).Clean (Begins me) := by
  cases outcome with
  | ok response =>
      refine clean_bind (clean_catching update_idle fun err => ?_) fun updated => ?_
      · exact clean_bind (clean_within clean_quiet) fun _ => clean_done _
      · cases updated with
        | some task => exact clean_done _
        | none => exact clean_bind (clean_within clean_quiet) fun _ => clean_done _
  | error err => exact clean_bind (clean_orInternal update_idle) fun _ => clean_done _

theorem runClaimedTask_files {prepared : PreparedTask} {task : IntegrationTask}
    (filed : w.state.db.taskFor source external = some task.id) :
    (runClaimedTask safety prepared task actor : Handler Event.work me AppError IntegrationTask).wp
      (Others me) (Files source external me) (fun _ _ => True) w := by
  unfold runClaimedTask
  refine wp_seq (F := fun _ _ => True) ?_ (fun _ after _ => ?_) fun _ _ _ => trivial
  · unfold locked
    rw [wp_section]
    intro w' moved e
    refine ⟨?_,trivial⟩
    intro id listed
    rw [run_note,Moment.recorded_emit,List.mem_singleton] at listed
    cases listed
    exact taskFor_after (taskFor_others filed moved)
  · exact files_idle (clean_bind (clean_attempt executeAinasTask_idle) receipt_idle)

-- The source and the external id under which a request is filed.
def taskKey (source : String) (payload : AinasTaskRequest) : Option (String × String) :=
  match prepareTask source payload with
  | .ok prepared => prepared.payload.externalTaskId.map (prepared.source,·)
  | .error _ => none

-- From a row that is filed, on to its claim and its action.
theorem claim_files {prepared : PreparedTask} {task : IntegrationTask}
    (filed : w.state.db.taskFor source external = some task.id) : (do
      let some task ← orInternal (markIntegrationTaskExecutingSqlx task.id)
        | throw (.notFound "AINAS task not found before execution")
      if task.status ≠ .executing then return task
      runClaimedTask safety prepared task actor : Handler Event.work me AppError IntegrationTask).wp
        (Others me) (Files source external me) (fun _ _ => True) w := by
  refine wp_seq (F := fun result after => ∀ task, result = .ok (some task) →
    after.state.db.taskFor source external = some task.id) ?_ (fun marked after claimed => ?_) fun _ _ _ => trivial
  · refine (wp_mapError _ _ _ w).mpr (wp_mono ?_ (mark_files filed))
    intro result after claimed row returned
    cases result with
    | ok value =>
        cases returned
        exact claimed _ rfl
    | error err => cases returned
  · cases marked with
    | none => exact trivial
    | some row =>
        dsimp only
        split
        · exact trivial
        · exact runClaimedTask_files (claimed row rfl)

theorem executeIntegrationTask_files {given : String} (key : taskKey given payload = some (source,external)) :
    (executeIntegrationTask safety given payload actor : Handler Event.work me AppError IntegrationTask).wp
      (Others me) (Files source external me) (fun _ _ => True) w := by
  unfold executeIntegrationTask
  cases accepted : prepareTask given payload with
  | error err => exact trivial
  | ok prepared =>
      simp only [taskKey,accepted] at key
      obtain ⟨_,named,same⟩ := Option.map_eq_some_iff.mp key
      cases same
      change Task.wp _ _ (orInternal (createIntegrationTaskSqlx prepared.source prepared.payload.externalTaskId prepared.action
        prepared.request) >>= _) _ _
      rw [named]
      refine wp_seq (F := fun result after => ∀ task, result = .ok task →
        after.state.db.taskFor prepared.source external = some task.id) ?_ (fun task after filed => ?_) fun _ _ _ => trivial
      · refine (wp_mapError _ _ _ w).mpr (wp_mono ?_ create_files)
        intro result after filed task returned
        cases result with
        | ok value =>
            cases returned
            exact filed _ rfl
        | error err => cases returned
      · have here := filed task rfl
        cases ensureIntegrationTaskPayloadMatches task prepared.action prepared.request with
        | error err => exact trivial
        | ok _ =>
            change Task.wp _ _ (if task.status ≠ .received then pure task else _) _ _
            split
            · exact trivial
            · exact claim_files here

theorem mqttTask_files (key : taskKey "mqtt" payload = some (source,external)) :
    (mqttTask safety payload : Handler Event.work me AppError Unit).wp (Others me) (Files source external me)
      (fun _ _ => True) w := by
  unfold mqttTask
  refine wp_seq (F := fun _ _ => True) ((wp_attempt _ _ w).mpr (wp_mono (fun _ _ _ => trivial)
    (executeIntegrationTask_files key))) (fun outcome after _ => files_idle ?_) fun _ _ _ => trivial
  refine clean_bind (clean_locked (keeps_silent silent_answer)) fun env => ?_
  cases env.published with
  | ok _ => exact clean_done _
  | error err => exact clean_within clean_quiet

-- The calls that a client can repeat: those that name a task.
def Job.taskKey : Job → Option (String × String)
  | .integrationTask source payload _ => ReactorOS.taskKey source payload
  | .mqttTask payload => ReactorOS.taskKey "mqtt" payload
  | _ => none

theorem job_files (job : Job) (key : job.taskKey = some (source,external)) :
    (job.task safety me).wp (Others me) (Files source external me) (fun _ _ => True) w := by
  cases job with
  | integrationTask given payload actor =>
      exact wp_seq (F := fun _ _ => True) (executeIntegrationTask_files key) (fun _ _ _ => trivial) fun _ _ _ => trivial
  | mqttTask payload => exact mqttTask_files key
  | _ => cases key

namespace Site
variable {site : Site} {jobs : TaskId → Job} {schedule : List (TaskId × Env)}

theorem step_files {i : TaskId} {e : Env} (key : (jobs i).taskKey = some (source,external)) :
    site.after jobs (schedule ++ [(i,e)]) = site.after jobs schedule ∨
      Files source external i e (site.after jobs schedule) (site.after jobs (schedule ++ [(i,e)])) := by
  unfold after
  rw [System.run_snoc]
  by_cases finished : ∃ result, ((site.daemon jobs).run schedule).tasks i = .done result
  · obtain ⟨result,finished⟩ := finished
    exact .inl (by simp [System.advance,finished])
  · have begin : ∃ w, Others i w (site.daemon jobs).world ∧ ((site.daemon jobs).tasks i).wp (Others i)
        (Files source external i) (fun _ _ => True) w := ⟨_,.refl _ _,job_files (jobs i) key⟩
    exact .inr (System.step_wp (Others.refl i) Others.trans (fun _ _ _ _ different moved => emits_others different moved)
      (site.daemon jobs) begin schedule e fun result done => finished ⟨result,done⟩)

-- Every action of a call is that of the row under its source and external id.
theorem after_files {i : TaskId} (key : (jobs i).taskKey = some (source,external))
    (member : (i,.note (.actionStarted id)) ∈ (site.after jobs schedule).history) :
    (site.after jobs schedule).state.db.taskFor source external = some id := by
  induction schedule using List.reverseRecOn with
  | nil => cases member
  | append_singleton schedule entry ih =>
      obtain ⟨j,e⟩ := entry
      rcases site.after_step jobs schedule j e with still | ⟨new,moved,_⟩
      · rw [still] at member ⊢
        exact ih member
      · have split := member
        rw [moved,extend_history] at split
        rcases List.mem_append.mp split with recent | old
        · obtain ⟨event,listed,same⟩ := List.mem_map.mp recent
          cases same
          rcases step_files (e := e) key with still | files
          · rw [still] at member ⊢
            exact ih member
          · apply files
            rw [moved,Moment.recorded_extend]
            exact recent
        · rw [moved]
          exact taskFor_extend (ih old)

end Site

-- The actions begun by the calls of one source and external id.
def actionsFor (jobs : TaskId → Job) (source external : String) (history : List (TaskId × Event)) : Nat :=
  history.countP fun entry => (jobs entry.1).taskKey = some (source,external) ∧ entry.2.starting = true

-- Every action at most once, and every receipt for good.
structure Site.ExecutesOnce (site : Site) (jobs : TaskId → Job) (schedule : List (TaskId × Env)) : Prop where
  once : ∀ source external, actionsFor jobs source external (site.after jobs schedule).history ≤ 1
  kept : ∀ before later row, schedule = before ++ later →
    (site.after jobs before).state.db.integrationTask row.id = some row → row.status.terminal = true →
    (site.after jobs schedule).state.db.integrationTask row.id = some row

def Site.Uncontested (site : Site) (jobs : TaskId → Job) (schedule : List (TaskId × Env)) : Prop :=
  ∀ entry ∈ (site.after jobs schedule).history, entry.2.contested = false

theorem actions_begun {jobs : TaskId → Job} {history : List (TaskId × Event)}
    (one : ∀ i other, (jobs i).taskKey = some (source,external) → (i,.note (.actionStarted other)) ∈ history → other = id) :
    actionsFor jobs source external history ≤ begun id history := by
  unfold actionsFor begun
  apply List.countP_mono_left
  intro entry member starts
  obtain ⟨i,event⟩ := entry
  simp only [decide_eq_true_eq] at starts ⊢
  obtain ⟨key,starting⟩ := starts
  cases event with
  | note note =>
      cases note with
      | actionStarted other => rw [one i other key member]
      | _ => cases starting
  | _ => cases starting

theorem integration_tasks_execute_once (site : Site) (jobs : TaskId → Job) (schedule : List (TaskId × Env))
    (uncontested : site.Uncontested jobs schedule) : site.ExecutesOnce jobs schedule where
  once source external := by
    have counted : actionsFor jobs source external (site.after jobs schedule).history ≤
        begun (((site.after jobs schedule).state.db.taskFor source external).getD 0) (site.after jobs schedule).history := by
      apply actions_begun
      intro i other key member
      rw [Site.after_files key member,Option.getD_some]
    exact counted.trans (owned_replay (site.after_allowed jobs schedule) uncontested).once
  kept before later row split found terminal := by
    subst split
    obtain ⟨new,longer⟩ := site.after_more jobs before later
    rw [site.after_consistent] at found ⊢
    have permitted := site.after_allowed jobs (before ++ later)
    unfold Site.Uncontested at uncontested
    rw [longer] at permitted uncontested ⊢
    exact terminal_replay permitted uncontested found terminal

-- The control loop has taken a sample, and a client sends one request twice.
def repeatedCalls : TaskId → Job
  | 0 => .controlLoop .simulation 1
  | _ => .integrationTask "ainas"
      {externalTaskId := some "task-1",action := "set_targets",targetTemperatureC := some (some 60)} .system

theorem integration_tasks_execute_once_retry :
    actionsFor repeatedCalls "ainas" "task-1"
        (Site.shipped.after repeatedCalls (healthy [0,0,0,0,0,0,0,1,1,1,1,1,1,1,1,1,1,2,2])).history = 1 ∧
      Site.shipped.ExecutesOnce repeatedCalls (healthy [0,0,0,0,0,0,0,1,1,1,1,1,1,1,1,1,1,2,2]) := by
  refine ⟨by decide +kernel,integration_tasks_execute_once .shipped repeatedCalls _ ?_⟩
  unfold Site.Uncontested
  decide +kernel

-- The second call finds the row claimed by the first and goes on as if it were its own.
theorem overlapping_calls_both_execute :
    ¬∀ (site : Site) (jobs : TaskId → Job) (schedule : List (TaskId × Env)), site.ExecutesOnce jobs schedule := by
  intro claim
  have once := (claim .shipped repeatedCalls (healthy [1,2,1,2,1,2])).once "ainas" "task-1"
  exact absurd once (by decide +kernel)

end ReactorOS
