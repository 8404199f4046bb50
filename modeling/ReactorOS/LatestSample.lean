import ReactorOS.Concurrency.Passage
import ReactorOS.DeviceEffects
import ReactorOS.Discipline.Daemon
namespace ReactorOS
open Concurrency Journal Task Section Protocol Passage
variable {safety : SafetyConfig} {limits : SensorLimits} {config : LoopConfig} {may may' : Event → Bool} {me : TaskId}
  {ε ε' α β γ : Type} {carried : Option SensorSnapshot}

-- A sample is on its way from the moment it is stamped until it is the latest one.
def ingestion : Passage Event SensorSnapshot where
  enters
    | .note (.sampleCaptured sample) => some sample
    | _ => none
  leaves
    | .runtime (.sampleAccepted sample) => some sample
    | _ => none

abbrev ingested : Protocol Env Event Plant (Option SensorSnapshot) := ingestion.rules

section Parts

theorem untouched_done {result : Except ε α} : ingestion.Untouched (.done result : Handler may me ε α) := each_done _ result

theorem untouched_bind {t : Handler may me ε α} {k : α → Handler may me ε β} (first : ingestion.Untouched t)
    (rest : ∀ value, ingestion.Untouched (k value)) : ingestion.Untouched (t >>= k) := each_bind first rest

theorem untouched_silent {s : Critical may me ε α} (silent : s.Silent) : ingestion.Untouched (locked s) :=
  untouched_locked (keeps_silent silent)

theorem untouched_attempt {t : Handler may me ε α} (untouched : ingestion.Untouched t) :
    ingestion.Untouched (t.attempt : Handler may me ε' (Except ε α)) := each_attempt untouched

theorem untouched_within [Within may may'] {t : Handler may me ε α} (untouched : ingestion.Untouched t) :
    ingestion.Untouched (within t : Handler may' me ε α) := (behaves_relax _ t _).mpr untouched

theorem untouched_quiet {t : Handler Event.quiet me ε α} : ingestion.Untouched t := by
  apply untouched_may
  intro event quiet
  rcases event with change | write | _ | _
  · cases change <;> first | exact ⟨rfl,rfl⟩ | cases quiet
  · exact ⟨rfl,rfl⟩
  · cases quiet
  · cases quiet

theorem untouched_within_quiet [Within Event.quiet may] {t : Handler Event.quiet me ε α} :
    ingestion.Untouched (within t : Handler may me ε α) := untouched_within untouched_quiet

-- What a section does under the lock besides.
theorem keeps_rejectUnpersisted {status : Option DeviceStatusSnapshot} {reason : String} :
    (rejectUnpersistedSampleWithStatus status reason : Critical Event.field me AppError Bool).Keeps
      (Records ingestion.Foreign me) := by
  unfold rejectUnpersistedSampleWithStatus
  refine keeps_bind (keeps_silent silent_runtimeState) fun runtime => keeps_bind (keeps_record ⟨rfl,rfl⟩) fun _ => ?_
  exact keeps_bind (keeps_record ⟨rfl,rfl⟩) fun _ => keeps_bind (keeps_record ⟨rfl,rfl⟩) fun _ => keeps_silent (silent_pure _)

theorem keeps_enforceControlFault : (enforceControlFaultFailClosed : Critical Event.field me AppError Bool).Keeps
    (Records ingestion.Foreign me) := by
  unfold enforceControlFaultFailClosed
  refine keeps_bind (keeps_silent silent_runtimeState) fun runtime => ?_
  split
  · exact keeps_bind (keeps_record ⟨rfl,rfl⟩) fun _ => keeps_silent (silent_pure _)
  · exact keeps_silent (silent_pure _)

theorem keeps_highSensorAlarm {count : Nat} : (applyHighSensorAlarmFailClosed count : Critical Event.field me AppError Bool).Keeps
    (Records ingestion.Foreign me) := by
  unfold applyHighSensorAlarmFailClosed
  refine keeps_bind (keeps_silent silent_runtimeState) fun runtime => ?_
  split
  · exact keeps_silent (silent_pure _)
  · exact keeps_bind (keeps_record ⟨rfl,rfl⟩) fun _ => keeps_silent (silent_pure _)

theorem keeps_latchChanged {reason : String} : (latchControlFaultChanged reason : Critical Event.field me AppError Bool).Keeps
    (Records ingestion.Foreign me) := by
  unfold latchControlFaultChanged
  refine keeps_bind (keeps_silent silent_runtimeState) fun runtime => ?_
  exact keeps_bind (keeps_record ⟨rfl,rfl⟩) fun _ => keeps_silent (silent_pure _)

theorem keeps_latchReported {status : Option DeviceStatusSnapshot} :
    (latchReportedCommandFault status : Critical Event.field me AppError (Option (Bool × String))).Keeps
      (Records ingestion.Foreign me) := by
  unfold latchReportedCommandFault
  split
  · exact keeps_silent (silent_pure _)
  · exact keeps_bind keeps_latchChanged fun _ => keeps_silent (silent_pure _)

end Parts

section Ingest

theorem follows_caught {t : Handler may me ε α} {handler : ε → Handler may me ε' α} {k : α → Handler may me ε' β}
    {R : Except ε α → Option SensorSnapshot → Prop} {Q : Except ε' β → Option SensorSnapshot → Prop}
    (first : ingested.follows t carried R) (ok : ∀ value q, R (.ok value) q → ingested.follows (k value) q Q)
    (error : ∀ err q, R (.error err) q → ingested.follows (handler err >>= k) q Q) :
    ingested.follows (catching t handler >>= k) carried Q := by
  unfold catching
  rw [Task.bind_assoc]
  refine follows_bind (follows_attempt (follows_mono first ?_))
  intro r q reached
  cases r with
  | ok value => exact ok value q reached
  | error err => exact error err q reached

-- A part that only refuses.
theorem follows_refusing {t : Handler may me ε α} {err : ε} {k : β → Handler may me ε γ}
    (untouched : ingestion.Untouched t) :
    ingested.follows ((t >>= fun _ => (throw err : Handler may me ε β)) >>= k) carried fun _ _ => True := by
  rw [Task.bind_assoc]
  exact follows_untouched untouched (fun _ => follows_done trivial) fun _ => trivial

-- From here on the task carries the sample that it has stamped.
theorem capture_follows (found : Env → β) (sample : β → Option SensorSnapshot) :
    ingested.follows (locked (do
      let env ← answer
      noteCapture (sample (found env))
      return found env) : Handler Event.field me AppError β) carried
        fun r q => ∀ value, r = .ok value → ∀ taken, sample value = some taken → q = some taken := by
  refine follows_section fun e w => leads_look ?_
  cases taken : sample (found e) with
  | none =>
      refine leads_pure ⟨trivial,?_⟩
      intro value same other listed
      cases same
      rw [taken] at listed
      cases listed
  | some stamped =>
      refine leads_emit (leads_pure ⟨⟨trivial,fun x out => by cases out⟩,?_⟩)
      intro value same other listed
      cases same
      rw [taken] at listed
      cases listed
      rfl

theorem rejectPipelineSampleInput_untouched {reason : String} :
    ingestion.Untouched (rejectPipelineSampleInput reason : Handler Event.field me AppError Unit) := by
  unfold rejectPipelineSampleInput
  refine untouched_bind (untouched_locked ?_) fun pair => untouched_within_quiet
  refine keeps_bind (keeps_silent silent_runtimeState) fun runtime => ?_
  exact keeps_bind keeps_rejectUnpersisted fun _ => keeps_silent (silent_pure _)

-- The alarms that follow an acceptance have nothing more to do with it.
theorem alarmed_untouched {runtime : RuntimeState} {seen : RuntimeState} {sample : SensorSnapshot} :
    ingestion.Untouched (do
      let alarms ← timed fun now => .ok (alarmsFor safety now runtime runtime.latestSample limits)
      let (byAlarm,byControlFault) ← locked (do
        let byAlarm ← applyHighSensorAlarmFailClosed (highAlarms alarms).length
        let byControlFault ← enforceControlFaultFailClosed
        return (byAlarm,byControlFault))
      let names := ", ".intercalate ((highAlarms alarms).map (·.alarmType))
      within (auditWhen byAlarm seen.activeBatchId "high_sensor_alarm_auto_disabled"
        s!"high sensor alarm disabled automatic control: {names}")
      if byControlFault then within (auditControlFaultAutoDisable seen.activeBatchId)
      return sample : Handler Event.field me AppError SensorSnapshot) := by
  refine untouched_bind (untouched_silent ?_) fun alarms => ?_
  · exact silent_bind (silent_inspect _) fun now => silent_ofExcept _
  refine untouched_bind (untouched_locked ?_) fun pair => ?_
  · exact keeps_bind keeps_highSensorAlarm fun _ => keeps_bind keeps_enforceControlFault fun _ => keeps_silent (silent_pure _)
  refine untouched_bind untouched_within_quiet fun _ => ?_
  cases pair.2 with
  | false => exact untouched_done
  | true => exact untouched_bind untouched_within_quiet fun _ => untouched_done

theorem acceptPipelineSample_follows {payload : PipelineSampleRequest} :
    ingested.follows (acceptPipelineSample safety limits payload : Handler Event.field me AppError SensorSnapshot) carried
      fun _ _ => True := by
  unfold acceptPipelineSample
  refine follows_seq (capture_follows (fun env => pipelineSampleFromRequest env.now env.sine payload) Except.toOption) ?_
    fun _ _ _ => trivial
  intro captured q taken
  refine follows_caught (R := fun r c => r = captured ∧ c = q) (follows_done ⟨rfl,rfl⟩) ?_ ?_
  · rintro sample carries ⟨rfl,rfl⟩
    obtain rfl : carries = some sample := taken (.ok sample) rfl sample rfl
    refine follows_untouched (untouched_silent silent_runtimeState) (fun seen => ?_) fun _ => trivial
    refine follows_caught (untouched_follows (untouched_silent silent_query)) ?_ ?_
    · rintro _ _ rfl
      have accepts : ingested.follows (locked (do
          change (.sampleAccepted sample)
          runtimeState) : Handler Event.field me AppError RuntimeState) (some sample) fun _ _ => True :=
        follows_section fun e w => leads_emit (leads_silent silent_runtimeState
          ⟨⟨trivial,fun x out => by cases out; rfl⟩,trivial⟩)
      refine follows_seq accepts (fun runtime q _ => ?_) fun _ _ _ => trivial
      exact follows_mono (untouched_follows alarmed_untouched) fun _ _ _ => trivial
    · rintro err _ rfl
      rw [Task.bind_assoc]
      refine follows_untouched (untouched_locked keeps_rejectUnpersisted) (fun off => ?_) fun _ => trivial
      exact follows_refusing untouched_within_quiet
  · rintro err _ ⟨rfl,rfl⟩
    exact follows_refusing rejectPipelineSampleInput_untouched

theorem acceptSampleAndAuditFaults_follows {sample : SensorSnapshot} {status : Option DeviceStatusSnapshot} :
    ingested.follows (acceptSampleAndAuditFaults safety sample status : Handler Event.field me AppError Unit) (some sample)
      fun _ _ => True := by
  unfold acceptSampleAndAuditFaults
  refine follows_seq (R := fun _ _ => True) (follows_section fun e w => leads_emit
    (leads_keeps (?_ : Section.Keeps (Records ingestion.Foreign me) _) ?_)) ?_ fun _ _ _ => trivial
  · refine keeps_bind (keeps_record ⟨rfl,rfl⟩) fun _ => keeps_bind (keeps_silent silent_runtimeState) fun runtime => ?_
    refine keeps_bind (keeps_silent silent_utcNow) fun now => ?_
    split
    · exact keeps_silent (silent_pure _)
    split
    · exact keeps_bind (keeps_record ⟨rfl,rfl⟩) fun _ => keeps_silent (silent_pure _)
    split
    · exact keeps_bind keeps_latchChanged fun _ => keeps_silent (silent_pure _)
    · exact keeps_silent (silent_pure _)
  · intro result more foreign
    exact ⟨each_foreign _ _ _ foreign ⟨trivial,fun x out => by cases out; rfl⟩,trivial⟩
  · intro audit q _
    exact follows_mono (untouched_follows untouched_within_quiet) fun _ _ _ => trivial

theorem rejectReading_untouched {batchId : Option Int} {status : Option DeviceStatusSnapshot} {reason : String} :
    ingestion.Untouched (rejectReading batchId status reason : Handler Event.field me AppError Unit) := by
  unfold rejectReading
  refine untouched_bind (untouched_locked ?_) fun pair => untouched_within_quiet
  exact keeps_bind keeps_rejectUnpersisted fun _ => keeps_bind keeps_latchReported fun _ => keeps_silent (silent_pure _)

theorem deviceReading_follows : ingested.follows (deviceReading config : Handler Event.field me AppError Unit) carried
    fun _ _ => True := by
  unfold deviceReading
  have rejected : ∀ {c : Option SensorSnapshot} {batchId : Option Int} {status : Option DeviceStatusSnapshot} {reason : String},
      ingested.follows (rejectReading batchId status reason : Handler Event.field me AppError Unit) c fun _ _ => True :=
    follows_mono (untouched_follows rejectReading_untouched) fun _ _ _ => trivial
  have stamped := @capture_follows me _ carried (fun env => env.reading) fun reading => reading.toOption.map (·.1)
  refine follows_seq stamped ?_ fun _ _ _ => trivial
  intro reading q taken
  cases reading with
  | error err =>
      refine follows_mono (untouched_follows ?_) fun _ _ _ => trivial
      refine untouched_bind (untouched_silent silent_answer) fun answered => ?_
      refine untouched_bind (untouched_locked ?_) fun found => untouched_within_quiet
      refine keeps_bind (keeps_silent silent_runtimeState) fun runtime => keeps_bind (keeps_record ⟨rfl,rfl⟩) fun _ => ?_
      refine keeps_bind (keeps_record ⟨rfl,rfl⟩) fun _ => keeps_bind (keeps_record ⟨rfl,rfl⟩) fun _ => ?_
      exact keeps_bind keeps_latchReported fun _ => keeps_silent (silent_pure _)
  | ok pair =>
      obtain ⟨sample,status⟩ := pair
      obtain rfl : q = some sample := taken (.ok (sample,status)) rfl sample rfl
      refine follows_untouched (untouched_silent silent_runtimeState) (fun seen => ?_) fun _ => trivial
      cases validateSensorSnapshot sample with
      | error reason => exact rejected
      | ok _ =>
          simp only
          split
          · exact acceptSampleAndAuditFaults_follows
          · refine follows_untouched (untouched_attempt (untouched_silent silent_query)) (fun persisted => ?_) fun _ => trivial
            cases persisted with
            | error err => exact rejected
            | ok _ => exact acceptSampleAndAuditFaults_follows

theorem pipelineReading_untouched : ingestion.Untouched (pipelineReading safety : Handler Event.field me AppError Unit) := by
  unfold pipelineReading
  refine untouched_bind (untouched_locked ?_) fun fault => ?_
  · refine keeps_bind (keeps_silent silent_runtimeState) fun runtime => keeps_bind (keeps_silent silent_utcNow) fun now => ?_
    simp only
    split
    · exact keeps_silent (silent_pure _)
    · exact keeps_bind (keeps_record ⟨rfl,rfl⟩) fun _ => keeps_silent (silent_pure _)
  · cases fault with
    | none => exact untouched_done
    | some found => exact untouched_within_quiet

end Ingest

section Loop
variable {command : SafeCommand} {memory : LoopMemory} {activeBatchId : Option Int} {requestId : String}

theorem latchChanged_untouched {reason : String} :
    ingestion.Untouched (within (locked (latchControlFaultChanged reason)) : Handler Event.work me AppError Bool) :=
  untouched_within (untouched_locked keeps_latchChanged)

theorem finalInterlock_untouched :
    ingestion.Untouched (finalInterlock config command : Handler Event.work me AppError FinalInterlock) := by
  unfold finalInterlock
  refine untouched_bind (untouched_silent silent_runtimeState) fun snapshot => ?_
  refine untouched_bind (untouched_attempt (untouched_silent silent_query)) fun unfinished => ?_
  cases unfinished with
  | error err => exact untouched_bind untouched_within_quiet fun _ => untouched_bind untouched_within_quiet fun _ => untouched_done
  | ok unfinished =>
      simp only
      cases automaticBatchStateIsConsistent snapshot.activeBatchId unfinished with
      | error reason =>
          exact untouched_bind latchChanged_untouched fun _ => untouched_bind untouched_within_quiet fun _ => untouched_done
      | ok _ =>
          refine untouched_bind (untouched_silent silent_answer) fun env => ?_
          refine untouched_bind (untouched_locked ?_) fun live => ?_
          · unfold liveInterlock
            refine keeps_bind (keeps_silent silent_runtimeState) fun runtime => keeps_bind (keeps_silent silent_answer) fun env => ?_
            simp only
            split
            · exact keeps_bind (keeps_record ⟨rfl,rfl⟩) fun _ => keeps_silent (silent_pure _)
            · exact keeps_bind (keeps_silent (silent_pure _)) fun _ => keeps_silent (silent_pure _)
          · split
            · split
              · exact untouched_done
              · exact untouched_done
            · unfold failFinalInterlock
              split
              · exact untouched_done
              · refine untouched_bind (untouched_within (untouched_locked ?_)) fun _ => ?_
                · refine keeps_bind (keeps_silent silent_runtimeState) fun runtime => ?_
                  exact keeps_bind keeps_latchChanged fun _ => keeps_silent (silent_pure _)
                · exact untouched_bind untouched_within_quiet fun _ => untouched_done

theorem rememberDelivery_untouched {status : AckStatus} :
    ingestion.Untouched (rememberDelivery memory command activeBatchId status requestId :
      Handler Event.work me AppError LoopMemory) := by
  unfold rememberDelivery
  refine untouched_bind (untouched_attempt untouched_within_quiet) fun audited => ?_
  cases audited with
  | error err => exact untouched_bind untouched_within_quiet fun _ => untouched_done
  | ok _ =>
      refine untouched_locked (keeps_bind (keeps_silent silent_utcNow) fun now => ?_)
      exact keeps_bind (keeps_record ⟨rfl,rfl⟩) fun _ => keeps_silent (silent_pure _)

theorem latchUnconfirmed_untouched {outcome : AckOutcome} :
    ingestion.Untouched (latchUnconfirmed config memory command activeBatchId outcome requestId :
      Handler Event.work me AppError LoopMemory) := by
  unfold latchUnconfirmed
  split
  · exact untouched_done
  · refine untouched_bind (untouched_silent silent_utcNow) fun now => untouched_bind latchChanged_untouched fun _ => ?_
    exact untouched_bind untouched_within_quiet fun _ => untouched_done

theorem deliver_untouched :
    ingestion.Untouched (deliver config memory command activeBatchId : Handler Event.work me AppError LoopMemory) := by
  unfold deliver
  refine untouched_bind (untouched_silent silent_utcNow) fun sent => ?_
  refine untouched_bind (untouched_attempt (untouched_locked ?_)) fun written => ?_
  · refine keeps_bind (keeps_silent silent_answer) fun env => ?_
    exact keeps_bind (keeps_record ⟨rfl,rfl⟩) fun _ => keeps_silent (silent_ofExcept _)
  · cases written with
    | error err =>
        refine untouched_bind (untouched_silent silent_utcNow) fun now => untouched_bind untouched_within_quiet fun _ => ?_
        exact untouched_bind untouched_within_quiet fun _ => untouched_done
    | ok status =>
        simp only
        split
        · exact rememberDelivery_untouched
        · exact latchUnconfirmed_untouched

theorem takeReading_follows : ingested.follows (takeReading config : Handler Event.field me AppError Unit) carried
    fun _ _ => True := by
  unfold takeReading
  split
  · exact follows_mono (untouched_follows pipelineReading_untouched) fun _ _ _ => trivial
  · exact deviceReading_follows

-- What a round does once it has its reading.
theorem tick_follows_reading : ingested.follows (tick config memory : Handler Event.work me AppError LoopMemory) carried
    fun _ _ => True := by
  unfold tick
  refine follows_seq (follows_relax Within.wider takeReading_follows) (fun _ q _ => ?_) fun _ _ _ => trivial
  refine follows_mono (untouched_follows ?_) fun _ _ _ => trivial
  refine untouched_bind (untouched_within (untouched_locked ?_)) fun pair => ?_
  · refine keeps_bind (keeps_silent silent_runtimeState) fun runtime => ?_
    exact keeps_bind keeps_enforceControlFault fun _ => keeps_silent (silent_pure _)
  refine untouched_bind untouched_within_quiet fun _ => ?_
  refine untouched_bind (untouched_silent ?_) fun decision => ?_
  · exact silent_bind silent_runtimeState fun _ => silent_bind silent_answer fun _ => silent_pure _
  cases decision with
  | blocked reason => exact untouched_done
  | write command =>
      refine untouched_bind (untouched_locked ?_) fun skip => ?_
      · refine keeps_bind (keeps_silent silent_utcNow) fun now => ?_
        split
        · exact keeps_silent (silent_pure _)
        split
        · exact keeps_bind (keeps_record ⟨rfl,rfl⟩) fun _ => keeps_silent (silent_pure _)
        · exact keeps_silent (silent_pure _)
      · split
        · exact untouched_done
        · refine untouched_bind finalInterlock_untouched fun passed => ?_
          cases passed with
          | refused => exact untouched_done
          | passed active => exact deliver_untouched

theorem controlLoop_ingests {rounds : Nat} :
    ingested.follows (controlLoop config rounds memory : Handler Event.work me AppError Unit) carried fun _ _ => True := by
  induction rounds generalizing memory carried with
  | zero => exact follows_done trivial
  | succ rounds ih => exact follows_seq tick_follows_reading (fun memory q _ => ih) fun _ _ _ => trivial

end Loop
theorem controlLoopMonitor_untouched {panicked : Bool} :
    ingestion.Untouched (controlLoopMonitor panicked : Handler Event.field me AppError Unit) := by
  refine untouched_bind (untouched_locked ?_) fun _ => untouched_within_quiet
  exact keeps_bind (keeps_record ⟨rfl,rfl⟩) fun _ => keeps_record ⟨rfl,rfl⟩

-- The jobs that samples come in by, and the monitor of the loop.
def Job.ingests : Job → Bool
  | .acceptPipelineSample _ _ | .rejectPipelineSampleInput _ | .controlLoop _ _ | .controlLoopMonitor _ => true
  | _ => false

theorem job_ingests {job : Job} (ingests : job.ingests = true) :
    ingested.follows (job.task safety me) none fun _ _ => True := by
  cases job with
  | controlLoop config rounds => exact controlLoop_ingests
  | controlLoopMonitor panicked =>
      exact follows_mono (untouched_follows controlLoopMonitor_untouched) fun _ _ _ => trivial
  | acceptPipelineSample limits payload =>
      exact follows_seq acceptPipelineSample_follows (fun _ _ _ => follows_done trivial) fun _ _ _ => trivial
  | rejectPipelineSampleInput reason =>
      exact follows_mono (untouched_follows rejectPipelineSampleInput_untouched) fun _ _ _ => trivial
  | _ => cases ingests

-- No sample becomes the latest one that was captured before another that has already been it.
def NeverBack (history : List (TaskId × Event)) : Prop :=
  ∀ newer i sample older, history = newer ++ (i,.runtime (.sampleAccepted sample)) :: older →
    ∀ j earlier, (j,.runtime (.sampleAccepted earlier)) ∈ older → earlier.capturedAt ≤ sample.capturedAt

theorem leaves_accepted {event : Event} {sample : SensorSnapshot} (leaves : ingestion.leaves event = some sample) :
    event = .runtime (.sampleAccepted sample) := by
  unfold ingestion at leaves
  simp only at leaves
  split at leaves
  · cases leaves
    rfl
  · cases leaves

theorem neverBack_iff {history : List (TaskId × Event)} :
    NeverBack history ↔ ingestion.Forward (·.capturedAt) history := by
  constructor
  · intro never newer i event older sample split leaves entry member earlier leaves'
    obtain ⟨j,before⟩ := entry
    obtain rfl := leaves_accepted leaves
    obtain rfl := leaves_accepted leaves'
    exact never newer i sample older split j earlier member
  · intro forward newer i sample older split j earlier member
    exact forward newer i _ older sample split rfl (j,_) member earlier rfl

section Claim
variable (site : Site) (jobs : TaskId → Job) (schedule : List (TaskId × Env))

theorem samples_honest (ingest : ∀ i, (jobs i).ingests = true) :
    ingested.Throughout ingestion.honest site.startUp (site.after jobs schedule).history :=
  run_throughout rfl (fun i => job_ingests (ingest i)) (fun _ _ _ _ each => each) schedule

-- While the samples are accepted in the order of their captures and no capture is stamped
-- before an earlier one, the latest sample never goes back. With stamps that all differ it
-- goes back as soon as one is accepted out of turn.
theorem latest_in_turn (ingest : ∀ i, (jobs i).ingests = true)
    (ordered : ingestion.Stamps (·.capturedAt) (· ≤ ·) (site.after jobs schedule).history) :
    (ingestion.InTurn (site.after jobs schedule).history → NeverBack (site.after jobs schedule).history) ∧
    (ingestion.Stamps (·.capturedAt) (· < ·) (site.after jobs schedule).history →
      (NeverBack (site.after jobs schedule).history ↔ ingestion.InTurn (site.after jobs schedule).history)) := by
  have honest := samples_honest site jobs schedule ingest
  rw [neverBack_iff]
  refine ⟨honest_forward honest ordered,fun increasing => ⟨turn_of_forward increasing,honest_forward honest ordered⟩⟩

def lukewarm : PipelineSampleRequest := ⟨60,1/2,300,30,0,0,0,7⟩

def lukewarmAt (now : Instant) : SensorSnapshot := ⟨60,1/2,300,30,0,0,0,0,7,now⟩

def samplers (_ : TaskId) : Job := .acceptPipelineSample {} lukewarm

-- Two requests, one served after the other.
def oneByOne : List (TaskId × Env) :=
  List.replicate 4 (0,{Env.healthy with now := 1 }) ++ List.replicate 4 (1,{Env.healthy with now := 2 })

theorem samplers_in_turn : NeverBack (Site.shipped.after samplers oneByOne).history ∧
    ingestion.InTurn (Site.shipped.after samplers oneByOne).history := by
  have record : (Site.shipped.after samplers oneByOne).history =
      [(1,.runtime (.sampleAccepted (lukewarmAt 2))),(1,.note (.sampleCaptured (lukewarmAt 2))),
        (0,.runtime (.sampleAccepted (lukewarmAt 1))),(0,.note (.sampleCaptured (lukewarmAt 1)))] := by decide +kernel
  have captures : ∀ {a i event x}, occurs (Site.shipped.after samplers oneByOne).history a = some (i,event) →
      ingestion.enters event = some x → a = 0 ∧ x = lukewarmAt 1 ∨ a = 2 ∧ x = lukewarmAt 2 := by
    intro a i event x found takes
    rw [record] at found
    rcases a with _ | _ | _ | _ | a
    · cases found
      exact .inl ⟨rfl,(Option.some.inj takes).symm⟩
    · cases found
      cases takes
    · cases found
      exact .inr ⟨rfl,(Option.some.inj takes).symm⟩
    · cases found
      cases takes
    · cases found
  have increasing : ingestion.Stamps (·.capturedAt) (· < ·) (Site.shipped.after samplers oneByOne).history := by
    intro i event x a j later y c found takes found' takes' before
    rcases captures found takes with ⟨rfl,rfl⟩ | ⟨rfl,rfl⟩ <;> rcases captures found' takes' with ⟨rfl,rfl⟩ | ⟨rfl,rfl⟩
    · exact absurd before (lt_irrefl _)
    · decide
    · exact absurd before (by decide)
    · exact absurd before (lt_irrefl _)
  have result := latest_in_turn .shipped samplers oneByOne (fun _ => rfl)
    fun i event x a j later y c found takes found' takes' before =>
      (increasing i event x a j later y c found takes found' takes' before).le
  have turn : ingestion.InTurn (Site.shipped.after samplers oneByOne).history := by
    intro i x a b j y c d one other before
    obtain ⟨first,there,takes⟩ := one.entered
    obtain ⟨second,there',takes'⟩ := other.entered
    have early : b ≤ 1 ∨ x = lukewarmAt 2 := by
      obtain ⟨event,found,lets⟩ := one.left
      rw [record] at found
      rcases b with _ | _ | _ | _ | b
      · exact .inl (by decide)
      · exact .inl le_rfl
      · cases found
        cases lets
      · cases found
        exact .inr (Option.some.inj lets).symm
      · cases found
    have late := other.order
    rcases captures there takes with ⟨rfl,rfl⟩ | ⟨rfl,rfl⟩ <;> rcases captures there' takes' with ⟨rfl,rfl⟩ | ⟨rfl,rfl⟩
    · exact absurd before (lt_irrefl _)
    · have apart : lukewarmAt 1 ≠ lukewarmAt 2 := fun same => absurd (congrArg SensorSnapshot.capturedAt same) (by decide)
      exact (early.resolve_right apart).trans_lt (by omega)
    · exact absurd before (by decide)
    · exact absurd before (lt_irrefl _)
  exact ⟨result.1 turn,(result.2 increasing).mp (result.1 turn)⟩

-- The first request stamps its sample and waits for the database while the second one is served.
def overlapping : List (TaskId × Env) :=
  (0,{Env.healthy with now := 1 }) :: List.replicate 4 (1,{Env.healthy with now := 2 }) ++
    List.replicate 3 (0,{Env.healthy with now := 2 })

theorem slow_sample_goes_back : (∀ i, (samplers i).ingests = true) ∧
    ¬NeverBack (Site.shipped.after samplers overlapping).history ∧
    (Site.shipped.after samplers overlapping).state.runtime.latestSample = some (lukewarmAt 1) := by
  refine ⟨fun _ => rfl,fun never => ?_,by decide +kernel⟩
  have split : (Site.shipped.after samplers overlapping).history =
      [] ++ (0,.runtime (.sampleAccepted (lukewarmAt 1))) :: [(1,.runtime (.sampleAccepted (lukewarmAt 2))),
        (1,.note (.sampleCaptured (lukewarmAt 2))),(0,.note (.sampleCaptured (lukewarmAt 1)))] := by decide +kernel
  have back := never [] 0 _ _ split 1 (lukewarmAt 2) List.mem_cons_self
  exact absurd back (by decide)

end Claim
end ReactorOS
