import ReactorOS.Concurrency.Idle
import ReactorOS.AiRequests
import ReactorOS.Jobs
namespace ReactorOS
open Concurrency Journal Task Section
variable {safety : SafetyConfig} {limits : SensorLimits} {capabilities : List DeviceComponentCapability} {actor : AuditActor} {may : Event → Bool}
  {me : TaskId} {ε ε' α : Type}

theorem idle_locked {s : Critical may me ε α} (silent : s.Silent) : (locked s : Handler may me ε α).Idle := idle_section silent

theorem idle_asked {look : Env → Db → α} : (locked (orInternalLocked (query look)) : Handler may me AppError α).Idle :=
  idle_locked silent_asked

theorem idle_timed {check : Instant → Except AppError α} : (timed check : Handler may me AppError α).Idle :=
  idle_locked (silent_bind (silent_inspect _) fun now => silent_ofExcept (check now))

theorem idle_catching {t : Handler may me ε α} {handler : ε → Handler may me ε' α} (idle : t.Idle)
    (caught : ∀ err, (handler err).Idle) : (catching t handler : Handler may me ε' α).Idle := by
  refine idle_bind (idle_attempt idle) fun outcome => ?_
  cases outcome with
  | ok value => exact idle_done _
  | error err => exact caught err

section Parts
variable {runtime : RuntimeState} {assessed : AiControlSafety} {allow : Bool} {recommended : Option ControlTargets} {plan : AiPlan}

theorem idle_assess : (aiAssess safety limits true :
    Handler Event.work me AppError (RuntimeState × AiControlSafety)).Idle := by
  unfold aiAssess aiControlSafety
  refine idle_bind (idle_locked silent_runtimeState) fun runtime => ?_
  refine idle_bind (idle_catching idle_timed fun err => idle_done _) fun _ => ?_
  refine idle_bind ?_ fun assessed => idle_done _
  refine idle_bind (idle_locked silent_unfinishedBatchStatus) fun batchStatus => ?_
  refine idle_bind (idle_locked silent_liveAlarmsFor) fun alarms => ?_
  refine idle_bind (idle_locked ?_) fun status => idle_done _
  exact silent_bind silent_deviceStatusSummaryWithDb fun _ => silent_bind silent_utcNow fun _ => silent_pure _

theorem idle_ensureAllowed : (aiEnsureAllowed assessed true : Handler Event.work me AppError Unit).Idle := by
  unfold aiEnsureAllowed
  split
  · exact idle_done _
  split
  · exact idle_done _
  split
  · rename_i offline
    simp at offline
  · exact idle_done _

theorem idle_blockReason : (aiProcessStartBlockReason assessed runtime allow : Handler Event.work me AppError (Option String)).Idle := by
  unfold aiProcessStartBlockReason
  split
  · exact idle_done _
  split
  · exact idle_done _
  split
  · exact idle_done _
  split
  · exact idle_done _
  · exact idle_bind idle_asked fun unfinished => idle_done _

-- Whatever the outcomes, the optimizer and the provider answer.
theorem idle_generate : (generateRecommendation : Handler Event.work me AppError Recommendation).Idle := by
  unfold generateRecommendation
  refine idle_bind idle_asked fun sources => ?_
  split
  · exact idle_done _
  cases sources.optimized with
  | none => exact idle_done _
  | some fallback =>
      refine idle_bind (idle_locked silent_answer) fun env => ?_
      cases env.sources.provider with
      | none => exact idle_done _
      | some answered => exact idle_done _

theorem idle_recommendation : (aiRecommendation true allow actor : Handler Event.work me AppError (Option Recommendation)).Idle := by
  unfold aiRecommendation
  refine idle_bind idle_asked fun stored => ?_
  cases stored with
  | some recommendation => exact idle_done _
  | none =>
      cases allow with
      | false => exact idle_done _
      | true => exact idle_bind idle_generate fun recommendation => idle_done _

theorem idle_adjust : (aiAdjustTargets safety runtime true allow recommended actor plan : Handler Event.work me AppError AiPlan).Idle := by
  unfold aiAdjustTargets
  cases recommended with
  | none => exact idle_done _
  | some targets =>
      simp only
      split
      · exact idle_done _
      · exact idle_done _

theorem idle_start {blocked : Option String} {selected : Option ProcessDefinition} :
    (aiStartProcess safety runtime true allow blocked selected actor plan : Handler Event.work me AppError AiPlan).Idle := by
  unfold aiStartProcess
  split
  · cases selected with
    | none => exact idle_done _
    | some process => exact idle_done _
  · cases blocked with
    | none => exact idle_done _
    | some reason => exact idle_done _

theorem idle_stopOrShake {stop control : Bool} :
    (aiStopOrShake safety capabilities assessed true stop control recommended actor runtime plan :
      Handler Event.work me AppError AiPlan).Idle := by
  unfold aiStopOrShake
  split
  · exact idle_done _
  split
  · exact idle_done _
  split
  · refine idle_bind (idle_locked silent_runtimeState) fun component => ?_
    cases planShakeComponentAction capabilities component recommended with
    | none => exact idle_done _
    | some action => exact idle_done _
  · exact idle_done _

theorem idle_acts {flags : AiFlags} {blocked : Option String} :
    (aiActs safety capabilities actor true flags runtime assessed blocked recommended :
      Handler Event.work me AppError AiControlResponse).Idle := by
  unfold aiActs
  refine idle_bind idle_adjust fun plan => ?_
  refine idle_bind (idle_locked silent_answer) fun env => ?_
  refine idle_bind (idle_done _) fun selected => ?_
  refine idle_bind idle_start fun plan => ?_
  refine idle_bind (idle_locked silent_runtimeState) fun live => ?_
  refine idle_bind idle_stopOrShake fun plan => ?_
  exact idle_done _

theorem idle_carryOut {flags : AiFlags} :
    (aiCarryOut safety limits capabilities actor true flags : Handler Event.work me AppError AiControlResponse).Idle := by
  unfold aiCarryOut
  refine idle_bind idle_assess fun found => ?_
  unfold aiCarryOn
  refine idle_bind idle_ensureAllowed fun _ => ?_
  refine idle_bind idle_blockReason fun blocked => ?_
  refine idle_bind idle_recommendation fun recommendation => ?_
  refine idle_bind (idle_done _) fun recommended => ?_
  exact idle_acts

end Parts

-- `dry_run` is the default: only a request that says `false` is carried out.
theorem idle_aiControl {payload : AiControlRequest} (dry : payload.dryRun ≠ some (some false)) :
    (aiControl safety limits capabilities payload actor : Handler Event.work me AppError AiControlResponse).Idle := by
  have defaults : ∀ given, optionalPresentBool payload.dryRun "dry_run" = .ok given → given.getD true = true := by
    intro given read
    rcases asked : payload.dryRun with _ | _ | _ | _
    · rw [asked] at read
      cases read
      rfl
    · rw [asked] at read
      cases read
    · exact absurd asked dry
    · rw [asked] at read
      cases read
      rfl
  rw [aiControl_flags]
  cases read : optionalPresentBool payload.dryRun "dry_run" with
  | error err => exact idle_done _
  | ok given =>
      change (Task.ofExcept payload.flags >>= fun flags =>
        aiCarryOut safety limits capabilities actor (given.getD true) flags).Idle
      rw [defaults given read]
      exact idle_bind (idle_done _) fun flags => idle_carryOut

-- A step that leaves everything as it is: no device write, no row, no field of the runtime state.
structure Effectless (moment : Moment Env World) : Prop where
  commands : ∀ i writer command delivered, (i,.commanded writer command delivered) ∉ moment.recorded
  rows : moment.after.state.db = moment.before.state.db
  runtime : moment.after.state.runtime = moment.before.state.runtime

theorem effectless_of_same {moment : Moment Env World} (same : moment.after = moment.before) : Effectless moment := by
  obtain ⟨answer,before,after⟩ := moment
  cases same
  have nothing : Moment.recorded (⟨answer,before,before⟩ : Moment Env World) = [] := Moment.recorded_silent answer before
  exact ⟨by simp [nothing],rfl,rfl⟩

section Claim
variable (site : Site) (jobs : TaskId → Job) (i : TaskId)

theorem idle_job {limits : SensorLimits} {capabilities : List DeviceComponentCapability} {payload : AiControlRequest} {actor : AuditActor}
    (dry : payload.dryRun ≠ some (some false)) (asked : jobs i = .aiControl limits capabilities payload actor) :
    ((site.daemon jobs).tasks i).Idle := by
  change ((jobs i).task site.safety i).Idle
  rw [asked]
  exact idle_bind (idle_aiControl dry) fun _ => idle_done _

-- Whoever else is at work, whatever the database, the clock and the provider answer, and
-- wherever the run stops, none of the request's steps has an effect.
theorem dry_run_pure (limits : SensorLimits) (capabilities : List DeviceComponentCapability) (payload : AiControlRequest) (actor : AuditActor)
    (dry : payload.dryRun ≠ some (some false)) (asked : jobs i = .aiControl limits capabilities payload actor)
    (schedule : List (TaskId × Env)) :
    (∀ moment ∈ (site.daemon jobs).moments i schedule, Effectless moment) ∧
      ∀ entry ∈ ((site.daemon jobs).run schedule).world.history, entry.1 ≠ i := by
  have idle := idle_job site jobs i dry asked
  refine ⟨fun moment member => effectless_of_same (System.moments_each idle schedule moment member),?_⟩
  exact idle_unnamed idle (fun entry member => by cases member) schedule

def previewing : TaskId → Job
  | 0 => .aiControl {} [] {} .system
  | _ => .controlLoop .simulation 1

-- Once the control loop has a sample the preview gets as far as the provider, which does not answer in time.
def unanswered : List (TaskId × Env) :=
  healthy [1,1,1] ++ List.replicate 9 (0,{Env.healthy with sources := ⟨1,some ⟨65,300,30,30⟩,some (.error ⟨"timed out",[]⟩)⟩ })

theorem unanswered_preview_pure : ((Site.shipped.daemon previewing).moments 0 unanswered).length = 9 ∧
    (∀ moment ∈ (Site.shipped.daemon previewing).moments 0 unanswered, Effectless moment) ∧
      ∀ entry ∈ ((Site.shipped.daemon previewing).run unanswered).world.history, entry.1 ≠ 0 :=
  ⟨by decide +kernel,dry_run_pure .shipped previewing 0 {} [] {} .system (by decide) rfl unanswered⟩

-- Nobody can tell: without the steps of the request the run is the same for everyone else.
theorem dry_run_unseen {capabilities : List DeviceComponentCapability} {payload : AiControlRequest} {actor : AuditActor}
    (dry : payload.dryRun ≠ some (some false)) (asked : jobs i = .aiControl limits capabilities payload actor)
    (schedule : List (TaskId × Env)) : System.Beside i ((site.daemon jobs).run schedule)
      ((site.daemon jobs).run (schedule.filter fun entry => entry.1 ≠ i)) :=
  System.run_without (idle_job site jobs i dry asked) schedule

theorem unanswered_preview_unseen : System.Beside 0 ((Site.shipped.daemon previewing).run unanswered)
    ((Site.shipped.daemon previewing).run (unanswered.filter fun entry => entry.1 ≠ 0)) :=
  dry_run_unseen .shipped previewing 0 (by decide) rfl unanswered

end Claim
end ReactorOS
