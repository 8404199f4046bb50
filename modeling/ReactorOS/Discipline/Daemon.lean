import ReactorOS.Discipline.Automation
import ReactorOS.Discipline.Loop
import ReactorOS.Discipline.Resets
import ReactorOS.Jobs
namespace ReactorOS
open Concurrency Journal Protocol
variable {safety : SafetyConfig} {me : TaskId} {p : Progress}

theorem start_calm : (rules safety).start.Undisturbed := by simp [rules,Progress.Undisturbed]

theorem follows_discard {may : Event → Bool} {α : Type} {t : Handler may me AppError α}
    {Q : Except AppError α → Progress → Prop} (holds : (rules safety).follows t p Q) :
    (rules safety).follows (discard t) p fun _ _ => True :=
  follows_seq holds (fun _ _ _ => follows_done trivial) fun _ _ _ => trivial

theorem mqttTask_follows {payload : AinasTaskRequest} (calm : p.Undisturbed) :
    (rules safety).follows (mqttTask safety payload : Handler Event.work me AppError Unit) p fun _ _ => True := by
  refine follows_seq (R := fun _ _ => True) (follows_attempt (executeIntegrationTask_follows calm)) ?_ fun _ _ _ => trivial
  intro outcome q _
  refine follows_still (still_silent silent_answer) (fun env => ?_) fun _ => trivial
  cases env.published with
  | ok _ => exact follows_done trivial
  | error err => exact follows_mono still_within_quiet fun _ _ _ => trivial

-- What is known of a job that has come to its end.
def Job.Outcome : Job → Except AppError Unit → Progress → Prop
  | .releaseManualLock _ => Cleared .manualLock
  | .resetEmergencyStop _ => Cleared .emergencyStop
  | .resetControlFault _ => Cleared .controlFault
  | _ => fun _ _ => True

theorem job_follows (job : Job) :
    (rules safety).follows (job.task safety me) (rules safety).start job.Outcome := by
  have calm : (rules safety).start.Undisturbed := start_calm
  have field : ∀ t : Handler Event.field me AppError Unit,
      (rules safety).follows t (rules safety).start fun _ _ => True :=
    fun t => follows_mono (still_field calm) fun _ _ _ => trivial
  cases job with
  | controlLoop config rounds => exact controlLoop_follows calm (by simp [Remembers,LoopMemory.start])
  | controlLoopMonitor panicked => exact field _
  | setAuto enabled actor => exact follows_mono (setAuto_follows calm) fun _ _ _ => trivial
  | engageManualLock actor => exact field _
  | releaseManualLock actor => exact releaseManualLock_follows calm rfl rfl
  | emergencyStop actor => exact follows_mono (emergencyStop_follows calm) fun _ _ _ => trivial
  | resetEmergencyStop actor => exact resetEmergencyStop_follows calm rfl rfl
  | resetControlFault actor => exact resetControlFault_follows calm rfl rfl
  | setTargets payload actor => exact follows_discard (setTargets_follows calm)
  | startBatch payload actor => exact follows_discard (startBatch_follows calm)
  | finishBatch batchId actor => exact follows_mono finishBatch_follows fun _ _ _ => trivial
  | applyProcess processId actor => exact follows_discard (startProcessLifecycle_follows calm)
  | startProcess processId name actor => exact follows_discard (startProcessLifecycle_follows calm)
  | stopProcess processId reason actor => exact follows_discard stopProcessLifecycle_follows
  | v1Control deviceId payload actor => exact follows_discard (v1Control_follows calm)
  | v1Process deviceId payload actor => exact follows_discard (v1Process_follows calm)
  | componentControl capabilities deviceId componentId payload actor =>
      exact follows_discard (executeComponentControl_follows calm)
  | aiControl limits capabilities payload actor => exact follows_discard (aiControl_follows calm)
  | integrationTask source payload actor => exact follows_discard (executeIntegrationTask_follows calm)
  | mqttTask payload => exact mqttTask_follows calm
  | modbusRegisterWrite registers register value reason actor =>
      exact follows_discard (applyModbusRegisterWrite_follows calm)
  | acceptPipelineSample limits payload => exact field _
  | rejectPipelineSampleInput reason => exact field _

namespace Site
variable {site : Site} {jobs : TaskId → Job} {schedule : List (TaskId × Env)}

-- The world after a run, with its record.
def after (site : Site) (jobs : TaskId → Job) (schedule : List (TaskId × Env)) : World :=
  ((site.daemon jobs).run schedule).world

abbrev Allowed (site : Site) (history : List (TaskId × Event)) : Prop :=
  (rules site.safety).Throughout allowed site.startUp history

theorem after_consistent (site : Site) (jobs : TaskId → Job) (schedule : List (TaskId × Env)) : (site.after jobs schedule).state = replay site.startUp (site.after jobs schedule).history :=
  run_consistent rfl schedule

theorem after_allowed (site : Site) (jobs : TaskId → Job) (schedule : List (TaskId × Env)) : site.Allowed (site.after jobs schedule).history :=
  run_throughout rfl (fun i => job_follows (jobs i)) (fun _ _ _ _ => Permitted.events) schedule

theorem after_may {i : TaskId} {event : Event} (member : (i,event) ∈ (site.after jobs schedule).history) :
    (jobs i).may event = true :=
  run_may (s := site.daemon jobs) rfl schedule _ member

theorem after_result {i : TaskId} {result : Except AppError Unit}
    (finished : ((site.daemon jobs).run schedule).tasks i = .done result) :
    (jobs i).Outcome result ((rules site.safety).progress i (site.after jobs schedule).history) :=
  run_result (s := site.daemon jobs) rfl (fun i => job_follows (jobs i)) finished

-- A longer run has the longer record.
theorem after_more (site : Site) (jobs : TaskId → Job) (schedule more : List (TaskId × Env)) :
    ∃ new, (site.after jobs (schedule ++ more)).history = new ++ (site.after jobs schedule).history := by
  have extended := System.run_related (R := fun a b : World => ∃ new, b = a.extend new) (fun w => ⟨[],rfl⟩)
    (fun first second => by
      obtain ⟨one,rfl⟩ := first
      obtain ⟨two,rfl⟩ := second
      exact ⟨two ++ one,(extend_append _ two one).symm⟩)
    (fun i e a b moved => by
      obtain ⟨new,_,rfl⟩ := moved
      exact ⟨new,rfl⟩) ((site.daemon jobs).run schedule) more
  obtain ⟨new,same⟩ := extended
  refine ⟨new,?_⟩
  unfold after
  rw [System.run_append,same,extend_history]

theorem after_step (site : Site) (jobs : TaskId → Job) (schedule : List (TaskId × Env)) (i : TaskId) (env : Env) :
    site.after jobs (schedule ++ [(i,env)]) = site.after jobs schedule ∨
    ∃ new, site.after jobs (schedule ++ [(i,env)]) = (site.after jobs schedule).extend (own i new) ∧
      Permitted site.safety env.now (site.after jobs schedule).state
        ((rules site.safety).progress i (site.after jobs schedule).history) new := by
  unfold after
  rw [System.run_snoc]
  rcases run_lawful (s := site.daemon jobs) rfl (fun i => job_follows (jobs i)) schedule i env with still | lawful
  · exact .inl (by rw [still])
  · exact .inr lawful

theorem after_origin {i : TaskId} {event : Event} (member : (i,event) ∈ (site.after jobs schedule).history) :
    ∃ before env rest new, schedule = before ++ (i,env) :: rest ∧ event ∈ new ∧
      site.after jobs (before ++ [(i,env)]) = (site.after jobs before).extend (own i new) ∧
      Permitted site.safety env.now (site.after jobs before).state
        ((rules site.safety).progress i (site.after jobs before).history) new :=
  run_origin (s := site.daemon jobs) rfl (fun i => job_follows (jobs i)) member

end Site
end ReactorOS
