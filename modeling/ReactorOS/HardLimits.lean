import ReactorOS.Behaviours
import ReactorOS.ControlLoop
namespace ReactorOS
open Concurrency Journal Task

def SensorLimit.Broken (limit : SensorLimit) (value : ℚ) : Prop :=
  (∃ min, limit.hardMin = some min ∧ value < min) ∨ ∃ max, limit.hardMax = some max ∧ max < value

-- What of a sample is held against which limit.
def limitedReadings (limits : SensorLimits) (sample : SensorSnapshot) : List (Option SensorLimit × ℚ) :=
  [(limits.temperatureC,sample.temperatureC),(limits.pressureMpa,sample.pressureMpa),
   (limits.stirrerRpm,sample.stirrerRpm),(limits.shakeSpeedCpm,sample.shakeSpeedCpm),
   (limits.tiltAngleDeg,sample.tiltAngleDeg),(limits.flowRateLMin,sample.flowRateLMin),
   (limits.productConcentrationPercent,sample.productConcentrationPercent),(limits.ph,sample.ph)]

def BreaksHardLimit (limits : SensorLimits) (sample : SensorSnapshot) : Prop :=
  ∃ limit value, (some limit,value) ∈ limitedReadings limits sample ∧ limit.Broken value

theorem below_some {limit : Option ℚ} {value bound : ℚ} :
    below limit value = some bound ↔ limit = some bound ∧ value < bound := by
  simp [below,Option.filter_eq_some_iff]

theorem above_some {limit : Option ℚ} {value bound : ℚ} :
    above limit value = some bound ↔ limit = some bound ∧ bound < value := by
  simp [above,Option.filter_eq_some_iff]

-- A hard limit goes before the normal range.
theorem check_broken {limit : SensorLimit} {value : ℚ} (broken : limit.Broken value) :
    ∃ message, limit.check value = some (.high,message) := by
  unfold SensorLimit.check
  cases low : below limit.hardMin value with
  | some bound => exact ⟨_,rfl⟩
  | none =>
      obtain ⟨bound,given,less⟩ | ⟨bound,given,more⟩ := broken
      · rw [below_some.mpr ⟨given,less⟩] at low
        cases low
      · rw [above_some.mpr ⟨given,more⟩]
        exact ⟨_,rfl⟩

theorem sensorAlarm_broken {alarmType : String} {limit : SensorLimit} {value : ℚ} (broken : limit.Broken value) :
    ∃ alarm, sensorAlarm alarmType (some limit) value = some alarm ∧ alarm.level = .high := by
  obtain ⟨message,checked⟩ := check_broken broken
  exact ⟨⟨alarmType,.high,message⟩,by simp [sensorAlarm,checked],rfl⟩

theorem breaks_alarm {safety : SafetyConfig} {now : Instant} {runtime : RuntimeState} {limits : SensorLimits}
    {sample : SensorSnapshot} (breaks : BreaksHardLimit limits sample) :
    (highAlarms (alarmsFor safety now runtime (some sample) limits)).length ≠ 0 := by
  obtain ⟨limit,value,listed,broken⟩ := breaks
  have raised : ∃ alarm ∈ alarmsFor safety now runtime (some sample) limits, alarm.level = .high := by
    simp only [limitedReadings,List.mem_cons,Prod.mk.injEq,List.not_mem_nil,or_false] at listed
    rcases listed with ⟨given,rfl⟩ | ⟨given,rfl⟩ | ⟨given,rfl⟩ | ⟨given,rfl⟩ | ⟨given,rfl⟩ | ⟨given,rfl⟩ |
      ⟨given,rfl⟩ | ⟨given,rfl⟩
    · obtain ⟨alarm,raised,high⟩ := @sensorAlarm_broken "temperature_limit" _ _ broken
      exact ⟨alarm,by simp [alarmsFor,←given,raised],high⟩
    · obtain ⟨alarm,raised,high⟩ := @sensorAlarm_broken "pressure_limit" _ _ broken
      exact ⟨alarm,by simp [alarmsFor,←given,raised],high⟩
    · obtain ⟨alarm,raised,high⟩ := @sensorAlarm_broken "stirrer_limit" _ _ broken
      exact ⟨alarm,by simp [alarmsFor,←given,raised],high⟩
    · obtain ⟨alarm,raised,high⟩ := @sensorAlarm_broken "shake_speed_limit" _ _ broken
      exact ⟨alarm,by simp [alarmsFor,←given,raised],high⟩
    · obtain ⟨alarm,raised,high⟩ := @sensorAlarm_broken "tilt_angle_limit" _ _ broken
      exact ⟨alarm,by simp [alarmsFor,←given,raised],high⟩
    · obtain ⟨alarm,raised,high⟩ := @sensorAlarm_broken "flow_rate_limit" _ _ broken
      exact ⟨alarm,by simp [alarmsFor,←given,raised],high⟩
    · obtain ⟨alarm,raised,high⟩ := @sensorAlarm_broken "product_concentration_limit" _ _ broken
      exact ⟨alarm,by simp [alarmsFor,←given,raised],high⟩
    · obtain ⟨alarm,raised,high⟩ := @sensorAlarm_broken "ph_limit" _ _ broken
      exact ⟨alarm,by simp [alarmsFor,←given,raised],high⟩
  obtain ⟨alarm,member,high⟩ := raised
  have kept : alarm ∈ highAlarms (alarmsFor safety now runtime (some sample) limits) :=
    List.mem_filter.mpr ⟨member,by simpa using high⟩
  intro absent
  rw [List.length_eq_zero_iff.mp absent] at kept
  cases kept

def Event.isRuntime : Event → Bool
  | .runtime _ => true
  | _ => false

-- A step that changes the runtime state.
def changesRuntime (moment : Moment Env World) : Bool := moment.recorded.any fun entry => entry.2.isRuntime

-- The runtime as a task leaves it: after the last of its steps that has changed it.
def leaves (moments : Moments) : Option RuntimeState :=
  (moments.filter changesRuntime).getLast?.map (·.after.state.runtime)

theorem leaves_append (first later : Moments) : leaves (first ++ later) = (leaves later).or (leaves first) := by
  unfold leaves
  rw [List.filter_append,List.getLast?_append]
  cases (later.filter changesRuntime).getLast? <;> rfl

theorem leaves_extend (e : Env) (w : World) (new : List (TaskId × Event)) : leaves [⟨e,w,w.extend new⟩] =
    if new.any fun entry => entry.2.isRuntime then some (w.extend new).state.runtime else none := by
  unfold leaves changesRuntime
  simp only [List.filter_cons,Moment.recorded_extend,List.filter_nil]
  split <;> rfl

theorem leaves_silent (e : Env) (w : World) : leaves [⟨e,w,w⟩] = none := leaves_extend e w []

theorem leaves_emit (e : Env) (w : World) (me : TaskId) (event : Event) : leaves [⟨e,w,w.emit me event⟩] =
    if event.isRuntime then some (w.emit me event).state.runtime else none := by
  simpa using leaves_extend e w [(me,event)]

-- A task has left automatic control off.
def AutoOff (moments : Moments) : Prop := ∃ runtime, leaves moments = some runtime ∧ runtime.autoEnabled = false

theorem autoOff_later {first later : Moments} (off : AutoOff later) : AutoOff (first ++ later) := by
  obtain ⟨runtime,left,disabled⟩ := off
  exact ⟨runtime,by rw [leaves_append,left]; rfl,disabled⟩

theorem leaves_before {first later : Moments} (silent : leaves later = none) : leaves (first ++ later) = leaves first := by
  rw [leaves_append,silent]
  rfl

theorem insertControlEventSqlx_leaves {me : TaskId} (batchId : Option Int) (eventType : String)
    (command : Option SafeCommand) (reason : String) (actor : AuditActor) :
    (insertControlEventSqlx batchId eventType command reason actor : Handler Event.quiet me Failure Unit).behaves
      fun moments _ => leaves moments = none := by
  unfold insertControlEventSqlx
  rw [behaves_locked]
  intro e w
  unfold statement
  cases answered : e.db with
  | done => simp [answered,leaves_emit,Event.isRuntime]
  | failed error => simp [answered,leaves_silent]
  | lost error => simp [answered,leaves_emit,Event.isRuntime]

theorem auditWhen_leaves {me : TaskId} (due : Bool) (batchId : Option Int) (eventType reason : String) :
    (auditWhen due batchId eventType reason : Handler Event.quiet me AppError Unit).behaves
      fun moments _ => leaves moments = none := by
  unfold auditWhen
  cases due with
  | false => rfl
  | true =>
      rw [if_pos rfl,behaves_ignoring]
      exact insertControlEventSqlx_leaves batchId eventType none reason .system

-- What a sample beyond a hard limit has to have led to once it is accepted.
def FailsClosed (limits : SensorLimits) (moments : Moments) (result : Except AppError SensorSnapshot) : Prop :=
  ∀ sample, result = .ok sample → BreaksHardLimit limits sample → AutoOff moments

variable {me : TaskId} {may : Event → Bool} {α : Type} {limits : SensorLimits}

theorem failsClosed_after {t : Handler may me AppError α} {k : α → Handler may me AppError SensorSnapshot}
    (rest : ∀ value, (k value).behaves (FailsClosed limits)) : (t >>= k).behaves (FailsClosed limits) := by
  have anything : t.behaves fun _ _ => True := behaves_true t
  apply behaves_seq anything
  · intro moments value _
    apply behaves_mono _ (rest value)
    intro later result closed sample accepted breaks
    exact autoOff_later (closed sample accepted breaks)
  · intro moments err _ sample accepted
    cases accepted

-- The alarm section disables automatic control wherever there is a high alarm.
theorem alarm_section (count : Nat) : (locked (do
    let byAlarm ← applyHighSensorAlarmFailClosed count
    let byControlFault ← enforceControlFaultFailClosed
    return (byAlarm,byControlFault)) : Handler Event.field me AppError (Bool × Bool)).behaves
      fun moments _ => count ≠ 0 → AutoOff moments := by
  rw [behaves_locked]
  intro e w high
  unfold applyHighSensorAlarmFailClosed enforceControlFaultFailClosed
  simp [high,AutoOff,leaves_emit,Event.isRuntime,Change.apply]

-- The audits that follow leave the runtime as it is.
theorem audits_leave (byAlarm byControlFault : Bool) (batchId : Option Int) (eventType reason : String)
    (sample : SensorSnapshot) : (do
      within (auditWhen byAlarm batchId eventType reason)
      if byControlFault then within (auditControlFaultAutoDisable batchId)
      return sample : Handler Event.field me AppError SensorSnapshot).behaves
        fun moments result => leaves moments = none ∧ ∀ returned, result = .ok returned → returned = sample := by
  apply behaves_seq (behaves_within.mpr (auditWhen_leaves byAlarm batchId eventType reason))
  · intro first _ silent
    have fault : (if byControlFault then within (auditControlFaultAutoDisable batchId) else pure () :
        Handler Event.field me AppError Unit).behaves fun later _ => leaves later = none := by
      cases byControlFault with
      | false => rfl
      | true => exact behaves_within.mpr (auditWhen_leaves true batchId _ _)
    have split : (do
        if byControlFault then within (auditControlFaultAutoDisable batchId)
        return sample : Handler Event.field me AppError SensorSnapshot) =
        (if byControlFault then within (auditControlFaultAutoDisable batchId) else pure ()) >>= fun _ => pure sample := by
      cases byControlFault <;> rfl
    rw [split]
    apply behaves_seq fault
    · intro second _ quiet
      rw [Task.pure_done,behaves_done]
      refine ⟨by rw [List.append_nil,leaves_before quiet,silent],?_⟩
      intro returned accepted
      cases accepted
      rfl
    · intro second err quiet
      exact ⟨by rw [leaves_before quiet,silent],fun returned accepted => by cases accepted⟩
  · intro first err silent
    exact ⟨silent,fun returned accepted => by cases accepted⟩

theorem acceptPipelineSample_failsClosed (safety : SafetyConfig) (payload : PipelineSampleRequest) :
    (acceptPipelineSample safety limits payload : Handler Event.field me AppError SensorSnapshot).behaves
      (FailsClosed limits) := by
  unfold acceptPipelineSample
  apply failsClosed_after
  intro env
  apply failsClosed_after
  intro sample
  apply failsClosed_after
  intro seen
  apply failsClosed_after
  intro _
  -- what is assessed is the runtime with the sample that this very request has stored
  have stored : (locked (do
      change (.sampleAccepted sample)
      runtimeState) : Handler Event.field me AppError RuntimeState).behaves
        fun _ result => ∀ runtime, result = .ok runtime → runtime.latestSample = some sample := by
    rw [behaves_locked]
    intro e w runtime accepted
    cases accepted
    rfl
  apply behaves_seq stored
  · intro before updatedRuntime accepted
    have current := accepted updatedRuntime rfl
    have assessed : (timed fun now => .ok (alarmsFor safety now updatedRuntime updatedRuntime.latestSample limits) :
        Handler Event.field me AppError (List Alarm)).behaves fun _ result => ∀ alarms, result = .ok alarms →
          BreaksHardLimit limits sample → (highAlarms alarms).length ≠ 0 := by
      unfold timed
      rw [behaves_locked,current]
      intro e w alarms listed breaks
      cases listed
      exact breaks_alarm breaks
    apply behaves_seq assessed
    · intro looked alarms alarming
      apply behaves_seq (alarm_section (highAlarms alarms).length)
      · intro applied pair off
        apply behaves_mono _ (audits_leave pair.1 pair.2 _ _ _ sample)
        intro audits result ended returned accepted breaks
        obtain ⟨silent,same⟩ := ended
        rw [same returned accepted] at breaks
        obtain ⟨runtime,left,disabled⟩ := off (alarming alarms rfl breaks)
        have disabling : AutoOff (applied ++ audits) := ⟨runtime,by rw [leaves_before silent,left],disabled⟩
        exact autoOff_later (autoOff_later disabling)
      · intro applied err _ returned accepted
        cases accepted
    · intro looked err _ returned accepted
      cases accepted
  · intro moments err _ returned accepted
    cases accepted

def ReportsFault (safety : SafetyConfig) (now : Instant) (status : Option DeviceStatusSnapshot) : Prop :=
  ∃ reported ∈ status, deviceStatusFieldFaultReason now reported safety.control.sensorTimeoutMs ≠ none ∨
    downstreamCommandFaultReason reported ≠ none

-- What the loop path does to the runtime under the lock, newest first.
def acceptSection (safety : SafetyConfig) (now : Instant) (sample : SensorSnapshot)
    (status : Option DeviceStatusSnapshot) : List Change :=
  match status with
  | none => [.deviceStatusSet none,.sampleAccepted sample]
  | some reported =>
      match deviceStatusFieldFaultReason now reported safety.control.sensorTimeoutMs with
      | some reason => [.fieldFaultRecorded reason,.deviceStatusSet (some reported),.sampleAccepted sample]
      | none => match downstreamCommandFaultReason reported with
        | some reason => [.engaged .controlFault reason,.deviceStatusSet (some reported),.sampleAccepted sample]
        | none => [.deviceStatusSet (some reported),.sampleAccepted sample]

theorem acceptSection_auto {safety : SafetyConfig} {sample : SensorSnapshot} {status : Option DeviceStatusSnapshot}
    {now : Instant} {w : World} :
    (w.extend ((acceptSection safety now sample status).map fun change => (me,.runtime change))).state.runtime.autoEnabled
      = false ↔ w.state.runtime.autoEnabled = false ∨ ReportsFault safety now status := by
  unfold acceptSection ReportsFault
  cases status with
  | none => simp [Change.apply]
  | some reported =>
      cases field : deviceStatusFieldFaultReason now reported safety.control.sensorTimeoutMs with
      | some reason => simp [field,Change.apply,RuntimeState.disableAutoForFieldFault]
      | none =>
          cases command : downstreamCommandFaultReason reported with
          | some reason => simp [field,command,Change.apply,RuntimeState.latchControlFault]
          | none => simp [field,command,Change.apply]

theorem acceptSampleAndAuditFaults_auto (safety : SafetyConfig) (sample : SensorSnapshot)
    (status : Option DeviceStatusSnapshot) :
    (acceptSampleAndAuditFaults safety sample status : Handler Event.field me AppError Unit).behaves
      fun moments _ => ∃ first ∈ moments.head?, (AutoOff moments ↔
        first.before.state.runtime.autoEnabled = false ∨ ReportsFault safety first.answer.now status) := by
  unfold acceptSampleAndAuditFaults
  rw [behaves_bind,behaves_locked]
  intro e w
  generalize held : Section.run _ e w = ran
  have recorded : ∃ audit : Handler Event.quiet me AppError Unit, ran = (.ok audit,
      w.extend ((acceptSection safety e.now sample status).map fun change => (me,.runtime change))) ∧
      audit.behaves fun moments _ => leaves moments = none := by
    subst held
    unfold acceptSection
    cases status with
    | none => exact ⟨_,rfl,rfl⟩
    | some reported =>
        cases field : deviceStatusFieldFaultReason e.now reported safety.control.sensorTimeoutMs with
        | some reason => exact ⟨_,by simp [field]; rfl,auditWhen_leaves _ _ _ _⟩
        | none =>
            cases command : downstreamCommandFaultReason reported with
            | some reason => exact ⟨_,by simp [field,command,latchControlFaultChanged]; rfl,auditWhen_leaves _ _ _ _⟩
            | none => exact ⟨pure (),by simp [field,command],rfl⟩
  obtain ⟨audit,rfl,quiet⟩ := recorded
  have changed : ((acceptSection safety e.now sample status).map fun change =>
      (me,Event.runtime change)).any (fun entry => entry.2.isRuntime) = true := by
    unfold acceptSection
    cases status with
    | none => rfl
    | some reported => grind [Event.isRuntime]
  apply behaves_mono _ (behaves_within.mpr quiet)
  intro audits result silent
  refine ⟨_,rfl,?_⟩
  have kept := @acceptSection_auto me safety sample status e.now w
  unfold AutoOff
  rw [leaves_before silent,leaves_extend,changed,←kept]
  simp

-- The pipeline path always reacts to a broken hard limit, the loop path never does: there
-- automatic control ends off only for other reasons.
theorem hard_limit_reaction_iff (safety : SafetyConfig) (payload : PipelineSampleRequest) (sample : SensorSnapshot)
    (status : Option DeviceStatusSnapshot) :
    (acceptPipelineSample safety limits payload : Handler Event.field me AppError SensorSnapshot).behaves
      (FailsClosed limits) ∧
    (acceptSampleAndAuditFaults safety sample status : Handler Event.field me AppError Unit).behaves
      fun moments _ => ∃ first ∈ moments.head?, (AutoOff moments ↔
        first.before.state.runtime.autoEnabled = false ∨ ReportsFault safety first.answer.now status) :=
  ⟨acceptPipelineSample_failsClosed safety payload,acceptSampleAndAuditFaults_auto safety sample status⟩

def boilingLimits : SensorLimits where
  temperatureC := some ⟨"kettle","C",none,some 100,none,some 120⟩

def boilingSample : SensorSnapshot := ⟨130,1/2,300,30,0,0,0,0,7,0⟩

def soundStatus : DeviceStatusSnapshot := ⟨true,some 0,true,none,none,none,none⟩

def running : World := ⟨⟨{RuntimeState.fromSafety .shipped with autoEnabled := true},.empty⟩,[]⟩

theorem boiling_keeps_auto : BreaksHardLimit boilingLimits boilingSample ∧
    ((acceptSampleAndAuditFaults .shipped boilingSample (some soundStatus) :
      Handler Event.field 0 AppError Unit).drive (fun _ => .healthy) running).2.state.runtime.autoEnabled = true := by
  have broken : (⟨"kettle","C",none,some 100,none,some 120⟩ : SensorLimit).Broken 130 := .inr ⟨120,rfl,by norm_num⟩
  exact ⟨⟨_,_,List.mem_cons_self,broken⟩,by decide +kernel⟩

end ReactorOS
