import ReactorOS.ControlLoop
import ReactorOS.Limiter
namespace ReactorOS
open Concurrency Journal Task Section
variable {safety : SafetyConfig} {me : TaskId}

-- A step of the loop stays between the limits and out of the zones before the rounding. Where
-- it comes to is told by the sample, the targets and the configuration.
def LoopAllowed (safety : SafetyConfig) (sample : SensorSnapshot) (targets : ControlTargets) : Prop :=
  MinimaStand safety (nearestTemperature safety sample targets) (nearestStirrer safety sample targets) ∧
    MaximaStand safety (nearestTemperature safety sample targets) (nearestStirrer safety sample targets) ∧
      ¬ForbiddenByRounding safety (nearestTemperature safety sample targets) (nearestStirrer safety sample targets)

-- A decision of the loop, from the state that it was taken in.
def Steps (safety : SafetyConfig) (look : Moment Env World) (command : SafeCommand) : Prop :=
  ∃ sample, look.before.state.runtime.latestSample = some sample ∧
    (command.InEnvelope safety ↔ LoopAllowed safety sample look.before.state.runtime.targets)

theorem decided_steps (valid : validateSafetyConfig safety = .ok ()) {now : Instant} {state : RuntimeState}
    {command : SafeCommand} (decided : decideControlWithDeviceStatus safety now state.latestSample state.targets
      state.autoEnabled state.manualLock state.emergencyStop state.lastControlError state.deviceStatus = .write command) :
    ∃ sample, state.latestSample = some sample ∧ (command.InEnvelope safety ↔ LoopAllowed safety sample state.targets) := by
  obtain ⟨temperature,stirrer⟩ := validateSafetyConfig_limits valid
  obtain ⟨sample,permitted,clear,rfl⟩ := decideControl_write.mp decided
  refine ⟨sample,permitted.sampled,?_⟩
  have warm : steppedTemperature safety sample state.targets = nearestTemperature safety sample state.targets :=
    clampStep_reach temperature
  have stirred : steppedStirrer safety sample state.targets = nearestStirrer safety sample state.targets :=
    clampStep_reach stirrer
  unfold LoopAllowed
  rw [← warm,← stirred,← round2_clear_iff clear]
  exact inEnvelope_between (clampStep_within temperature) (clampStep_within stirrer)

-- What the loop hands over it has decided at an earlier step.
def LoopHands (safety : SafetyConfig) (me : TaskId) (moments : Moments) : Prop :=
  Handed me moments fun writer command => writer = .controlLoop ∧ ∃ look ∈ moments, Steps safety look command

section Loop
variable {config : LoopConfig} {memory : LoopMemory} {command : SafeCommand} {ε α β : Type} {may : Event → Bool}

theorem loopHands_append {first later : Moments} (early : LoopHands safety me first) (late : LoopHands safety me later) :
    LoopHands safety me (first ++ later) := by
  intro moment member writer command delivered listed
  rcases List.mem_append.mp member with one | two
  · obtain ⟨own,look,found,steps⟩ := early moment one writer command delivered listed
    exact ⟨own,look,List.mem_append_left _ found,steps⟩
  · obtain ⟨own,look,found,steps⟩ := late moment two writer command delivered listed
    exact ⟨own,look,List.mem_append_right _ found,steps⟩

-- Hands nothing over at all.
abbrev Handless (t : Handler may me ε α) : Prop := t.Clean (Strays me fun _ _ => False)

theorem loopHands_none {moments : Moments} (nothing : Handed me moments fun _ _ => False) : LoopHands safety me moments := by
  intro moment member writer command delivered listed
  exact (nothing moment member writer command delivered listed).elim

theorem loopHands_handless {t : Handler may me ε α} (clean : Handless t) :
    t.behaves fun moments _ => LoopHands safety me moments := by
  apply behaves_mono _ (behaves_handed clean)
  intro moments result nothing
  exact loopHands_none nothing

theorem loopHands_bind {t : Handler may me ε α} {k : α → Handler may me ε β}
    (first : t.behaves fun moments _ => LoopHands safety me moments)
    (rest : ∀ value, (k value).behaves fun moments _ => LoopHands safety me moments) :
    (t >>= k).behaves fun moments _ => LoopHands safety me moments := by
  apply behaves_seq first
  · intro before value early
    apply behaves_mono _ (rest value)
    intro later result late
    exact loopHands_append early late
  · intro before err early
    exact early

-- The interlock lets a command pass only where the live state decides on it.
def Passes (safety : SafetyConfig) (command : SafeCommand) (moments : Moments) (result : Except AppError FinalInterlock) : Prop :=
  ∀ activeBatchId, result = .ok (.passed activeBatchId) → ∃ look ∈ moments, Steps safety look command

theorem passes_after {t : Handler may me AppError α} {k : α → Handler may me AppError FinalInterlock}
    (rest : ∀ value, (k value).behaves (Passes safety command)) : (t >>= k).behaves (Passes safety command) := by
  apply behaves_seq (behaves_true t)
  · intro before value _
    apply behaves_mono _ (rest value)
    intro later result passes activeBatchId passed
    obtain ⟨look,member,steps⟩ := passes activeBatchId passed
    exact ⟨look,List.mem_append_right _ member,steps⟩
  · intro before err _ activeBatchId passed
    cases passed

theorem passes_refused : (pure .refused : Handler may me AppError FinalInterlock).behaves (Passes safety command) := by
  intro activeBatchId passed
  cases passed

theorem passes_failFinalInterlock {decision : ControlDecision} :
    (failFinalInterlock decision : Handler Event.work me AppError FinalInterlock).behaves (Passes safety command) := by
  unfold failFinalInterlock
  split
  · exact passes_refused
  · exact passes_after fun found => passes_after fun _ => passes_refused

theorem liveInterlock_returns {snapshotBatchId : Option Int} {recheckPassed : Bool} (e : Env) (w : World) :
    ((liveInterlock config command snapshotBatchId recheckPassed :
      Critical Event.work me AppError (ControlDecision × Option Int)).run e w).1 =
      .ok (decideControlWithOptionalGuard config e w.state.runtime false,w.state.runtime.activeBatchId) := by
  unfold liveInterlock
  simp only [run_bind,run_runtimeState,chain_ok,run_answer]
  split
  · simp
  · simp

theorem finalInterlock_passes (valid : validateSafetyConfig config.safety = .ok ()) : (finalInterlock config command : Handler Event.work me AppError FinalInterlock).behaves
    (Passes config.safety command) := by
  unfold finalInterlock
  refine passes_after fun snapshot => passes_after fun read => ?_
  cases read with
  | error err => exact passes_after fun _ => passes_after fun _ => passes_refused
  | ok unfinished =>
      simp only
      split
      · exact passes_after fun shouldAudit => passes_after fun _ => passes_refused
      · refine passes_after fun env => ?_
        rw [behaves_bind,behaves_locked]
        intro e w
        rw [liveInterlock_returns]
        simp only
        split
        · rename_i still
          simp only [Bool.and_eq_true,decide_eq_true_eq] at still
          split
          · intro activeBatchId _
            refine ⟨_,List.mem_singleton.mpr rfl,?_⟩
            have decided := still.2
            unfold decideControlWithOptionalGuard at decided
            simp only [Bool.false_and,Bool.false_eq_true,if_false] at decided
            exact decided_steps valid decided
          · intro activeBatchId passed
            cases passed
        · apply behaves_mono _ (@passes_failFinalInterlock config.safety me command _)
          intro later result passes activeBatchId passed
          obtain ⟨look,member,steps⟩ := passes activeBatchId passed
          exact ⟨look,List.mem_append_right _ member,steps⟩

theorem handless_latchedAudit {reason event audited : String} {batchId : Option Int} :
    (do
      let shouldAudit ← within (locked (latchControlFaultChanged reason))
      within (auditWhen shouldAudit batchId event audited)
      return .refused : Handler Event.work me AppError FinalInterlock).Clean (Strays me fun _ _ => False) :=
  clean_bind (clean_within clean_field) fun _ => clean_bind (clean_within clean_quiet) fun _ => clean_done _

theorem handless_failFinalInterlock {decision : ControlDecision} :
    Handless (failFinalInterlock decision : Handler Event.work me AppError FinalInterlock) := by
  unfold failFinalInterlock
  split
  · exact clean_done _
  · exact clean_bind (clean_within clean_field) fun found => clean_bind (clean_within clean_quiet) fun _ => clean_done _

theorem keeps_liveInterlock {tame : Event → Prop} [Narrow tame] {snapshotBatchId : Option Int} {recheckPassed : Bool} :
    (liveInterlock config command snapshotBatchId recheckPassed :
      Critical Event.work me AppError (ControlDecision × Option Int)).Keeps (Records tame me) := by
  refine keeps_bind (keeps_silent silent_runtimeState) fun runtime => keeps_bind (keeps_silent silent_answer) fun env => ?_
  simp only
  split
  · exact keeps_bind (keeps_note rfl) fun _ => keeps_silent (silent_pure _)
  · exact keeps_silent (silent_pure _)

theorem handless_finalInterlock : Handless (finalInterlock config command : Handler Event.work me AppError FinalInterlock) := by
  unfold finalInterlock
  refine clean_bind (clean_locked (keeps_silent silent_runtimeState)) fun snapshot => ?_
  refine clean_bind (clean_attempt (clean_locked (keeps_silent silent_query))) fun read => ?_
  cases read with
  | error err => exact clean_bind (clean_within clean_quiet) fun _ => clean_bind (clean_within clean_quiet) fun _ => clean_done _
  | ok unfinished =>
      simp only
      split
      · exact handless_latchedAudit
      · refine clean_bind (clean_locked (keeps_silent silent_answer)) fun env => ?_
        refine clean_bind (clean_locked keeps_liveInterlock) fun live => ?_
        split
        · split
          · exact clean_done _
          · exact clean_done _
        · exact handless_failFinalInterlock

variable {effect : Moment Env World → Prop} [Shows me effect]

theorem clean_rememberDelivery {activeBatchId : Option Int} {status : AckStatus} {requestId : String} :
    (rememberDelivery memory command activeBatchId status requestId : Handler Event.work me AppError LoopMemory).Clean
      effect := by
  unfold rememberDelivery
  refine clean_bind (clean_attempt (clean_within clean_quiet)) fun audited => ?_
  cases audited with
  | error err => exact clean_bind (clean_within clean_quiet) fun _ => clean_done _
  | ok _ =>
      exact clean_locked (keeps_bind (keeps_silent silent_utcNow) fun _ => keeps_bind (keeps_note rfl) fun _ => keeps_silent (silent_pure _))

theorem clean_latchUnconfirmed {activeBatchId : Option Int} {outcome : AckOutcome} {requestId : String} :
    (latchUnconfirmed config memory command activeBatchId outcome requestId : Handler Event.work me AppError LoopMemory).Clean
      effect := by
  unfold latchUnconfirmed
  split
  · exact clean_done _
  · refine clean_bind (clean_locked (keeps_silent silent_utcNow)) fun now => clean_bind (clean_within clean_field) fun shouldAudit => ?_
    exact clean_bind (clean_within clean_quiet) fun _ => clean_done _

theorem clean_deliver {activeBatchId : Option Int} :
    (deliver config memory command activeBatchId : Handler Event.work me AppError LoopMemory).Clean
      (Strays me fun writer sent => writer = .controlLoop ∧ sent = command) := by
  unfold deliver
  refine clean_bind (clean_locked (keeps_silent silent_utcNow)) fun now => clean_bind (clean_attempt ?_) fun answered => ?_
  · unfold writeTargetsAcknowledged
    intro e w strayed
    obtain ⟨moment,member,given,sent,delivered,listed,wrong⟩ := strayed
    rw [List.mem_singleton.mp member] at listed
    simp only [run_bind,run_answer,chain_ok,run_record,run_ofExcept] at listed
    rw [Moment.recorded_emit,List.mem_singleton] at listed
    cases listed
    exact wrong ⟨rfl,rfl⟩
  · cases answered with
    | error err =>
        refine clean_bind (clean_locked (keeps_silent silent_utcNow)) fun now => ?_
        exact clean_bind (clean_within clean_quiet) fun _ => clean_bind (clean_within clean_quiet) fun _ => clean_done _
    | ok status =>
        simp only
        split
        · exact clean_rememberDelivery
        · exact clean_latchUnconfirmed

-- A tick decides, passes the interlock and delivers, in this order.
theorem tick_hands (valid : validateSafetyConfig config.safety = .ok ()) :
    (tick config memory : Handler Event.work me AppError LoopMemory).behaves fun moments _ =>
      LoopHands config.safety me moments := by
  unfold tick
  refine loopHands_bind (loopHands_handless (clean_within clean_field)) fun _ => ?_
  refine loopHands_bind (loopHands_handless (clean_within clean_field)) fun seen => ?_
  refine loopHands_bind (loopHands_handless ?_) fun _ => ?_
  · exact clean_within clean_quiet
  refine loopHands_bind (loopHands_handless (clean_locked (keeps_silent ?_))) fun decision => ?_
  · exact silent_bind silent_runtimeState fun runtime => silent_bind silent_answer fun env => silent_pure _
  cases decision with
  | blocked reason => exact loopHands_handless (clean_done _)
  | write command =>
      simp only
      refine loopHands_bind (loopHands_handless (clean_locked ?_)) fun skip => ?_
      · refine keeps_bind (keeps_silent silent_utcNow) fun now => ?_
        split
        · exact keeps_silent (silent_pure _)
        · split
          · exact keeps_bind (keeps_note rfl) fun _ => keeps_silent (silent_pure _)
          · exact keeps_silent (silent_pure _)
      · cases skip with
        | true => exact loopHands_handless (clean_done _)
        | false =>
            simp only [Bool.false_eq_true,if_false]
            apply behaves_seq (behaves_and handless_finalInterlock (finalInterlock_passes valid))
            · intro before passed checked
              have early : LoopHands config.safety me before := loopHands_none (handed_iff.mpr checked.1)
              cases passed with
              | refused => simpa using early
              | passed activeBatchId =>
                  obtain ⟨look,looked,steps⟩ := checked.2 activeBatchId rfl
                  apply behaves_mono _ (behaves_handed clean_deliver)
                  intro later result handed moment member writer sent delivered listed
                  rcases List.mem_append.mp member with one | two
                  · obtain ⟨own,other,found,decided⟩ := early moment one writer sent delivered listed
                    exact ⟨own,other,List.mem_append_left _ found,decided⟩
                  · obtain ⟨own,same⟩ := handed moment two writer sent delivered listed
                    subst same
                    exact ⟨own,look,List.mem_append_left _ looked,steps⟩
            · intro before err checked
              exact loopHands_none (handed_iff.mpr checked.1)

theorem controlLoop_hands (valid : validateSafetyConfig config.safety = .ok ()) (rounds : Nat) :
    (controlLoop config rounds memory : Handler Event.work me AppError Unit).behaves fun moments _ =>
      LoopHands config.safety me moments := by
  induction rounds generalizing memory with
  | zero => exact loopHands_handless (clean_done _)
  | succ rounds ih => exact loopHands_bind (tick_hands valid) fun later => ih

end Loop

section Components
variable (fromTimestampMillis : Int → Option Instant)

-- The target sets that a component write hands to its device or answers with.
def ComponentWrite.Sets (write : ComponentWrite) (command : SafeCommand) : Prop :=
  write.command = some command ∨ ∃ outcome, write.result = .ok (some outcome) ∧ outcome.targets = some command

-- Over the bridge a set comes back where the command was translated from one.
theorem bridgeOutcome_sets {config : JsonBridgeConfig} {call : JsonBridgeCall} {state : JsonBridgeState}
    {command : ComponentControlCommand} {targets : ControlTargets} {pending : JsonBridgePendingComponentOutcome}
    {sent : SafeCommand} (outcome : jsonBridgeComponentControlOutcome fromTimestampMillis config call state command targets
      safety = .ok pending) (bound : pending.response.targets = some sent) :
    ∃ next, targetsForComponent command targets safety = .ok next ∧
      sent = safeCommandFromTargets next "manual component control" := by
  have stirrer : jsonBridgeStirrerComponentOutcome config call state command targets safety = .ok pending →
      ∃ next, targetsForComponent command targets safety = .ok next ∧
        sent = safeCommandFromTargets next "manual component control" := by
    intro done
    obtain ⟨next,found,rest⟩ := Wire.bind_ok done
    simp only at rest
    split at rest
    · cases rest
      cases bound
      exact ⟨next,found,rfl⟩
    · cases rest
      cases bound
      exact ⟨next,found,rfl⟩
  have translated : jsonBridgeTargetComponentOutcome fromTimestampMillis config call state command targets safety = .ok pending →
      ∃ next, targetsForComponent command targets safety = .ok next ∧
        sent = safeCommandFromTargets next "manual component control" := by
    intro done
    obtain ⟨next,found,rest⟩ := Wire.bind_ok done
    obtain ⟨control,_,rest⟩ := Wire.bind_ok rest
    cases control with
    | none =>
        cases rest
        cases bound
        exact ⟨next,found,rfl⟩
    | some control =>
        cases rest
        cases bound
        exact ⟨next,found,rfl⟩
  unfold jsonBridgeComponentControlOutcome at outcome
  cases direct : jsonBridgeDirectComponentControl config call command with
  | some control =>
      rw [direct] at outcome
      cases outcome
      cases bound
  | none =>
      rw [direct] at outcome
      simp only at outcome
      split at outcome
      · exact stirrer outcome
      · exact translated outcome
      · exact translated outcome
      · cases outcome

theorem bridgeWrite_sets {config : JsonBridgeConfig} {call : JsonBridgeCall} {command : ComponentControlCommand}
    {targets : ControlTargets} {response : ComponentControlOutcome} {sent : SafeCommand}
    (written : (JsonBridgeDevice.writeComponent fromTimestampMillis config call command targets safety).result = .ok response)
    (bound : response.targets = some sent) : ∃ next, targetsForComponent command targets safety = .ok next ∧
      sent = safeCommandFromTargets next "manual component control" := by
  have answered : ∀ {control : JsonBridgeControl} {update : JsonBridgePendingCacheUpdate} {answer : ComponentControlOutcome},
      (writeJsonBridgeControl call control update answer).result = .ok response → answer = response := by
    intro control update answer done
    unfold writeJsonBridgeControl at done
    split at done
    · cases done
      rfl
    · cases done
    · cases done
  unfold JsonBridgeDevice.writeComponent at written
  by_cases risk : jsonBridgeDirectControlIsRiskReducing command
  · rw [if_pos risk] at written
    simp only at written
    split at written
    · cases written
    · rename_i pending outcome
      have none_bound : pending.response.targets = some sent := by
        cases shape : pending.command with
        | none =>
            simp only [shape] at written
            cases written
            exact bound
        | some control =>
            simp only [shape] at written
            exact answered written ▸ bound
      unfold jsonBridgeComponentControlOutcomeWithoutState at outcome
      split at outcome
      · cases outcome
      · cases outcome
        cases none_bound
  · rw [if_neg risk] at written
    simp only at written
    split at written
    · cases written
    · rename_i pending outcome
      obtain ⟨state,_,rest⟩ := Wire.bind_ok outcome
      obtain ⟨_,_,done⟩ := Wire.bind_ok rest
      refine bridgeOutcome_sets fromTimestampMillis done ?_
      cases shape : pending.command with
      | none =>
          simp only [shape] at written
          cases written
          exact bound
      | some control =>
          simp only [shape] at written
          exact answered written ▸ bound

theorem writeComponent_sets {device : Device} {call : DeviceCall} {command : ComponentControlCommand}
    {targets : ControlTargets} {sent : SafeCommand}
    (sets : (device.writeComponent fromTimestampMillis call command targets safety).Sets sent) :
    ∃ next, targetsForComponent command targets safety = .ok next ∧
      sent = safeCommandFromTargets next "manual component control" := by
  have whole : ∀ {line : Except Failure Unit} {message : String},
      (writeWholeTargets line message command targets safety).Sets sent → ∃ next,
        targetsForComponent command targets safety = .ok next ∧
          sent = safeCommandFromTargets next "manual component control" := by
    intro line message set
    unfold writeWholeTargets at set
    cases found : targetsForComponent command targets safety with
    | error err =>
        rw [found] at set
        obtain same | ⟨outcome,same,_⟩ := set
        · cases same
        · cases same
    | ok next =>
        rw [found] at set
        obtain same | ⟨outcome,same,bound⟩ := set
        · cases same
          exact ⟨next,rfl,rfl⟩
        · cases line with
          | error err => cases same
          | ok _ =>
              cases same
              cases bound
              exact ⟨next,rfl,rfl⟩
  cases device with
  | pipeline =>
      obtain same | ⟨outcome,same,_⟩ := sets
      · cases same
      · cases same
  | simulation =>
      obtain same | ⟨outcome,same,_⟩ := sets
      · cases same
      · cases same
  | modbus => exact whole sets
  | esp32Serial => exact whole sets
  | jsonBridge config =>
      obtain same | ⟨outcome,same,bound⟩ := sets
      · cases same
      · obtain ⟨response,written,only⟩ := Wire.map_ok same
        cases only
        exact bridgeWrite_sets fromTimestampMillis written bound

-- An axis that the command leaves as it is has to lie between the limits already; one that it
-- sets has been held to them.
def AxisAllowed (lower upper current requested : ℚ) : Prop :=
  if requested = current then lower ≤ round2 current ∧ round2 current ≤ upper
  else ¬RoundsUnder lower requested ∧ ¬RoundsOver upper requested

theorem axis_allowed {lower upper current requested : ℚ}
    (limits : requested = current ∨ lower ≤ requested ∧ requested ≤ upper) :
    lower ≤ round2 requested ∧ round2 requested ≤ upper ↔ AxisAllowed lower upper current requested := by
  unfold AxisAllowed
  by_cases same : requested = current
  · rw [if_pos same,same]
  · obtain ⟨above,below⟩ := limits.resolve_left same
    rw [if_neg same,le_round2_iff above,round2_le_iff below]

def ComponentAllowed (safety : SafetyConfig) (proven : Bool) (current requested : ControlTargets) : Prop :=
  AxisAllowed safety.temperature.minC safety.temperature.maxC current.temperatureC requested.temperatureC ∧
  AxisAllowed safety.stirrer.minRpm safety.stirrer.maxRpm current.stirrerRpm requested.stirrerRpm ∧
    (proven = false → isForbiddenControlZone safety (round2 requested.temperatureC) (round2 requested.stirrerRpm) = false)

-- A component command is made from the state that its request has seen: as it was acknowledged where
-- the field has to be proven safe, and at first sight otherwise.
def ComponentHands (device : Device) (calls : Env → DeviceCall) (safety : SafetyConfig) (componentId : String)
    (payload : ComponentControlRequest) (me : TaskId) (moments : Moments) : Prop :=
  ∀ look, moments[(componentControlRequiresProvenSafeField payload.action).toNat]? = some look →
  ∀ write ∈ moments, ∀ writer sent delivered, (me,.commanded writer sent delivered) ∈ write.recorded →
    writer = .component ∧ ∃ component action, componentAction device.controlCapabilities componentId payload = .ok (component,action) ∧
      let command : ComponentControlCommand := ⟨componentId,payload.action,componentControlCommandValue action payload⟩
      let current := look.before.state.runtime.targets
      ∀ safe, (device.writeComponent fromTimestampMillis (calls write.answer) command current safety).Sets safe →
        (safe.InEnvelope safety ↔ ComponentAllowed safety (componentControlRequiresProvenSafeField payload.action) current
          (command.requested current))

-- Where the field is proven safe, the pair has been held to the zones.
def Proven (safety : SafetyConfig) (command : ComponentControlCommand) (moments : Moments) (runtime : RuntimeState) : Prop :=
  ∃ look, moments.head? = some look ∧ runtime.targets = look.before.state.runtime.targets ∧
    isForbiddenControlZone safety (round2 (command.requested runtime.targets).temperatureC)
      (round2 (command.requested runtime.targets).stirrerRpm) = false

theorem returns_after {α β : Type} {Q : β → Prop} {t : Handler Event.work me AppError α} {k : α → Handler Event.work me AppError β}
    (rest : ∀ value, (k value).behaves fun _ result => ∀ returned, result = .ok returned → Q returned) :
    (t >>= k).behaves fun _ result => ∀ returned, result = .ok returned → Q returned := by
  apply behaves_seq (behaves_true t)
  · intro before value _
    exact rest value
  · intro before err _ returned done
    cases done

theorem proveComponentField_proves {command : ComponentControlCommand} :
    (proveComponentField safety command : Handler Event.work me AppError RuntimeState).behaves fun moments result =>
      ∀ runtime, result = .ok runtime → Proven safety command moments runtime := by
  unfold proveComponentField
  rw [behaves_bind,behaves_locked]
  intro e w
  unfold disableAutoAndAcknowledge
  simp only [run_bind,run_change,chain_ok,run_runtimeState,run_note,run_pure]
  have checked : ∀ (runtime : RuntimeState) (healthy : Instant → Except AppError Unit), (do
      timed fun now => ensureTargetUpdateInterlockClear safety now runtime .componentControl
      locked (ensurePersistedBatchStateConsistent runtime .componentControl)
      timed healthy
      let pair ← Task.ofExcept ((targetsForComponent command runtime.targets safety).mapError .internal)
      Task.ofExcept (validateTargetPairAllowed safety pair.temperatureC pair.stirrerRpm)
      return runtime : Handler Event.work me AppError RuntimeState).behaves fun _ result => ∀ returned, result = .ok returned →
        returned = runtime ∧ isForbiddenControlZone safety (round2 (command.requested runtime.targets).temperatureC)
          (round2 (command.requested runtime.targets).stirrerRpm) = false := by
    intro runtime healthy
    refine returns_after fun _ => returns_after fun _ => returns_after fun _ => ?_
    apply behaves_ofExcept
    · intro err _ returned done
      cases done
    · intro pair found
      apply behaves_ofExcept
      · intro err _ returned done
        cases done
      · intro _ allowed returned done
        cases done
        cases translated : targetsForComponent command runtime.targets safety with
        | error err =>
            rw [translated] at found
            cases found
        | ok next =>
            rw [translated] at found
            cases found
            obtain ⟨_,same⟩ := targetsForComponent_ok translated
            subst same
            exact ⟨rfl,validateTargetPairAllowed_ok.mp allowed⟩
  apply behaves_mono _ (checked _ _)
  intro later result proven returned done
  obtain ⟨rfl,clear⟩ := proven returned done
  exact ⟨_,rfl,rfl,clear⟩

theorem component_pairs {device : Device} {call : DeviceCall} {command : ComponentControlCommand} {targets : ControlTargets}
    {proven : Bool} (clear : proven = true → isForbiddenControlZone safety (round2 (command.requested targets).temperatureC)
      (round2 (command.requested targets).stirrerRpm) = false) {safe : SafeCommand}
    (sets : (device.writeComponent fromTimestampMillis call command targets safety).Sets safe) :
    safe.InEnvelope safety ↔ ComponentAllowed safety proven targets (command.requested targets) := by
  obtain ⟨next,translated,rfl⟩ := writeComponent_sets fromTimestampMillis sets
  obtain ⟨limits,same⟩ := targetsForComponent_ok translated
  subst same
  unfold ComponentAllowed
  rw [← axis_allowed limits.temperature,← axis_allowed limits.stirrer]
  constructor
  · intro within
    exact ⟨within.temperature,within.stirrer,fun _ => within.zone⟩
  · intro allowed
    obtain ⟨temperature,stirrer,zone⟩ := allowed
    refine ⟨temperature,stirrer,?_⟩
    cases proven with
    | false => exact zone rfl
    | true => exact clear rfl

-- A command of another kind than a component's.
def ByOthers (me : TaskId) (moment : Moment Env World) : Prop :=
  ∃ writer sent delivered, (me,.commanded writer sent delivered) ∈ moment.recorded ∧ writer ≠ .component

instance (me : TaskId) : Shows me (ByOthers me) where
  tame event := uncommanded event = true
  narrow := uncommanded_narrow
  shown moment others := by
    obtain ⟨writer,sent,delivered,listed,_⟩ := others
    exact ⟨_,listed,Bool.false_ne_true⟩

def Commands (me : TaskId) (moment : Moment Env World) : Prop :=
  ∃ writer sent delivered, (me,.commanded writer sent delivered) ∈ moment.recorded

instance (me : TaskId) : Shows me (Commands me) where
  tame event := uncommanded event = true
  narrow := uncommanded_narrow
  shown moment commands := by
    obtain ⟨writer,sent,delivered,listed⟩ := commands
    exact ⟨_,listed,Bool.false_ne_true⟩

theorem clean_deliverComponent {requiresProvenSafeField : Bool} {runtime : RuntimeState} {auditReason eventType : String}
    {actor : AuditActor} : (deliverComponent safety requiresProvenSafeField runtime auditReason eventType actor :
      Handler Event.work me AppError (Option ComponentControlOutcome)).Clean (ByOthers me) := by
  unfold deliverComponent
  refine clean_bind (clean_catching ?_ fun err => clean_bind (clean_within clean_quiet) fun _ => clean_done _) fun outcome => ?_
  · unfold writeComponent
    intro e w others
    obtain ⟨moment,member,writer,sent,delivered,listed,other⟩ := others
    rw [List.mem_singleton.mp member] at listed
    simp only [run_bind,run_answer,chain_ok,run_record,run_ofExcept] at listed
    rw [Moment.recorded_emit,List.mem_singleton] at listed
    cases listed
    exact other rfl
  refine clean_bind (clean_catching (clean_within clean_quiet) fun err => clean_bind (clean_within clean_quiet) fun _ => clean_done _)
    fun _ => clean_bind ?_ fun _ => clean_done _
  unfold commitComponentOutcome
  cases outcome.bind (·.targets) with
  | none => exact clean_done _
  | some targets =>
      exact clean_catching (clean_commitComponentTargets rfl) fun err => clean_bind (clean_within clean_quiet) fun _ => clean_done _

theorem executeComponentControl_handed (device : Device) (calls : Env → DeviceCall) (deviceId componentId : String)
    (payload : ComponentControlRequest) (eventType : String) (actor : AuditActor) :
    (executeComponentControl safety device.controlCapabilities deviceId componentId payload eventType actor :
      Handler Event.work me AppError ComponentControlResponse).behaves fun moments _ =>
        ComponentHands fromTimestampMillis device calls safety componentId payload me moments := by
  have nothing : ∀ moments : Moments, ¬Effected (Commands me) moments →
      ComponentHands fromTimestampMillis device calls safety componentId payload me moments := by
    intro moments nothing look _ write member writer sent delivered listed
    exact absurd ⟨write,member,writer,sent,delivered,listed⟩ nothing
  have none_at_all : ¬Effected (Commands me) [] := by
    intro effected
    obtain ⟨moment,member,_⟩ := effected
    cases member
  unfold executeComponentControl
  apply behaves_ofExcept
  · intro err _
    exact nothing _ none_at_all
  intro _ _
  rw [behaves_bind,behaves_locked]
  intro e w
  simp only [run_runtimeState]
  have unseen : ¬Effected (Commands me) [(⟨e,w,w⟩ : Moment Env World)] := by
    intro effected
    obtain ⟨moment,member,writer,sent,delivered,listed⟩ := effected
    rw [List.mem_singleton.mp member,Moment.recorded_silent] at listed
    cases listed
  apply behaves_ofExcept
  · intro err _
    exact nothing _ unseen
  intro offered found
  obtain ⟨component,action⟩ := offered
  apply behaves_ofExcept
  · intro err _
    exact nothing _ unseen
  intro _ _
  apply behaves_ofExcept
  · intro err _
    exact nothing _ unseen
  intro operatorReason _
  -- what a delivery from a state that `look` has seen comes to
  have delivers : ∀ (before : Moments) (runtime : RuntimeState) (reason : String), ¬Effected (Commands me) before →
      (∀ look, before[(componentControlRequiresProvenSafeField payload.action).toNat]? = some look →
        let command : ComponentControlCommand := ⟨componentId,payload.action,componentControlCommandValue action payload⟩
        let requested := command.requested look.before.state.runtime.targets
        componentControlRequiresProvenSafeField payload.action = true →
          isForbiddenControlZone safety (round2 requested.temperatureC) (round2 requested.stirrerRpm) = false) →
      (componentControlRequiresProvenSafeField payload.action).toNat < before.length →
      (do
        let outcome ← deliverComponent safety (componentControlRequiresProvenSafeField payload.action) runtime reason eventType actor
        return ⟨deviceId,component,outcome⟩ : Handler Event.work me AppError ComponentControlResponse).behaves fun later _ =>
          ComponentHands fromTimestampMillis device calls safety componentId payload me (before ++ later) := by
    intro before runtime reason nothing clear reached
    apply behaves_mono _ (clean_bind clean_deliverComponent fun outcome => clean_done _)
    intro later result others look at_ write member writer sent delivered listed
    rw [List.getElem?_append_left reached] at at_
    have own : writer = .component := by
      by_contra other
      rcases List.mem_append.mp member with early | late
      · exact nothing ⟨write,early,writer,sent,delivered,listed⟩
      · exact others ⟨write,late,writer,sent,delivered,listed,other⟩
    refine ⟨own,component,action,found,?_⟩
    intro command requested safe sets
    exact component_pairs fromTimestampMillis (clear look at_) sets
  cases needed : componentControlRequiresProvenSafeField payload.action with
  | false =>
      simp only [Bool.false_eq_true,if_false]
      rw [Task.pure_done,Task.bind_ok]
      rw [needed] at delivers
      apply delivers [⟨e,w,w⟩] w.state.runtime _ unseen
      · intro look _ command requested proven
        cases proven
      · simp
  | true =>
      simp only [if_true]
      rw [needed] at delivers
      have unproven : (proveComponentField safety ⟨componentId,payload.action,componentControlCommandValue action payload⟩ :
          Handler Event.work me AppError RuntimeState).Clean (Commands me) := clean_proveComponentField
      have quiet : ∀ proof : Moments, ¬Effected (Commands me) proof → ¬Effected (Commands me) ([⟨e,w,w⟩] ++ proof) := by
        intro proof nothing effected
        exact (effected_append.mp effected).elim unseen nothing
      apply behaves_seq (behaves_and unproven proveComponentField_proves)
      · intro proof runtime checked
        obtain ⟨look,first,same,clear⟩ := checked.2 runtime rfl
        cases proof with
        | nil => cases first
        | cons moment proof =>
            cases first
            apply behaves_mono _ (delivers ([⟨e,w,w⟩] ++ look :: proof) runtime _ (quiet _ checked.1) ?_ (by simp))
            · intro later result hands
              rw [← List.append_assoc]
              exact hands
            · intro other at_ command requested _
              cases at_
              rw [same] at clear
              exact clear
      · intro proof err checked
        exact nothing _ (quiet proof checked.1)

end Components
-- Every pair that is handed to the device has been looked at by its handler, and lies in the
-- envelope exactly where it keeps to what the handler has not looked at: the lower limits at a
-- start, and everywhere what the rounding does behind the checks.
theorem device_pairs_iff (fromTimestampMillis : Int → Option Instant) (safety : SafetyConfig)
    (valid : validateSafetyConfig safety = .ok ()) (me : TaskId) :
    (∀ payload actor, (startBatch safety payload actor : Handler Event.work me AppError Batch).behaves fun moments _ =>
      ∀ look ∈ moments.head?, Handed me moments
        (Starts safety (CheckedAllowed safety (payload.requested look.before.state.runtime.targets).temperatureC
          (payload.requested look.before.state.runtime.targets).stirrerRpm))) ∧
    (∀ processId eventType nameOverride actor, (startProcessLifecycle safety processId eventType nameOverride actor :
      Handler Event.work me AppError ProcessApplyResponse).behaves fun moments _ =>
        ∀ look ∈ moments.head?, Handed me moments (StartsProcess safety look)) ∧
    (∀ deviceId payload actor, (v1Control safety deviceId payload actor :
      Handler Event.work me AppError V1ControlResponse).behaves fun moments _ =>
        Handed me moments (Starts safety (CheckedAllowed safety payload.params.requested.temperatureC
          payload.params.requested.stirrerRpm))) ∧
    (∀ (config : LoopConfig) rounds memory, (controlLoop {config with safety := safety} rounds memory :
      Handler Event.work me AppError Unit).behaves fun moments _ => LoopHands safety me moments) ∧
    (∀ runtime recommendation reason actor, (do
        let targets ← Task.ofExcept (aiTargetsFromRecommendation safety runtime recommendation)
        applyAiTargets safety targets reason actor : Handler Event.work me AppError Unit).behaves fun moments _ =>
          Handed me moments (AppliesRecommendation safety recommendation)) ∧
    ∀ device calls deviceId componentId payload eventType actor,
      (executeComponentControl safety device.controlCapabilities deviceId componentId payload eventType actor :
        Handler Event.work me AppError ComponentControlResponse).behaves fun moments _ =>
          ComponentHands fromTimestampMillis device calls safety componentId payload me moments :=
  ⟨startBatch_handed valid,startProcessLifecycle_handed valid,v1Control_handed valid,
    fun config rounds _ => @controlLoop_hands me {config with safety := safety} _ valid rounds,
    applyAiTargets_handed,executeComponentControl_handed fromTimestampMillis⟩

def coldStart : TaskId → Job
  | 0 => .controlLoop .simulation 1
  | _ => .startBatch {targetTemperatureC := some (some 5)} .system

-- Nothing that this start hands over as its own is as warm as the configuration asks for.
theorem device_pairs_iff_cold : (startBatch .shipped {targetTemperatureC := some (some 5)} .system :
    Handler Event.work 1 AppError Batch).behaves fun moments _ => ∀ look ∈ moments.head?,
      Handed 1 moments fun writer command => writer = .processStart → ¬command.InEnvelope .shipped := by
  have started := (device_pairs_iff (fun _ => none) .shipped shipped_accepted 1).1 {targetTemperatureC := some (some 5)} .system
  apply behaves_mono _ started
  intro moments result handed look first moment member writer command delivered listed starts within
  subst starts
  obtain ⟨minima,_⟩ := (handed look first moment member _ _ _ listed).mp within
  have warm : (20:ℚ) ≤ round2 5 := minima.temperature
  revert warm
  decide +kernel

def coldCommand : SafeCommand :=
  {safeCommandFromRuntimeTargets (RuntimeState.fromSafety .shipped).targets "process start target write accepted by safety gate" with
    targetTemperatureC := 5
    heatTimeS := 3600
    holdTimeS := 3600 }

-- The start looks at the upper limit only: five degrees go out under a lower limit of twenty.
theorem start_writes_below_minimum :
    ((Site.shipped.daemon coldStart).run (healthy [0,0,0,0,0,0,0,1,1,1,1,1,1,1])).world.history.head? =
      some (1,.commanded .processStart (some coldCommand) true) ∧ ¬coldCommand.InEnvelope .shipped := by
  refine ⟨by decide +kernel,?_⟩
  intro within
  have warm := within.temperature.1
  revert warm
  decide +kernel

end ReactorOS
