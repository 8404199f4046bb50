import ReactorOS.Latches
namespace ReactorOS
open Concurrency Journal Protocol
variable {site : Site} {history : List (TaskId × Event)} {me : TaskId}

-- The row that tells the reader of the audit trail that the reactor was told to stop.
def reportsDelivery (me : TaskId) (entry : TaskId × Event) : Bool :=
  entry.1 = me && match entry.2 with
    | .store (.controlEventInserted row) => row.reason = emergencyStopDelivered
    | _ => false

section Drive
variable (safety : SafetyConfig) (actor : AuditActor) (me : TaskId) (answers : Nat → Env) (w : World)

def stopCommand (safety : SafetyConfig) : SafeCommand :=
  safeCommandFromRuntimeTargets (processStopTargets safety) "emergency stop fail-safe targets"

-- The world once the latch is set and the device write has returned.
def afterStopWrite (delivered : Bool) : World :=
  (w.emit me (.runtime (.engaged .emergencyStop ""))).emit me (.commanded .emergencyStop (some (stopCommand safety)) delivered)

theorem run_statement (write : Write) (mine : Event.quiet (.store write) = true) (e : Env) (w : World) :
    (statement write mine : Critical Event.quiet me Failure Unit).run e w = match e.db with
      | .done => (.ok (),w.emit me (.store write))
      | .failed error => (.error error,w)
      | .lost error => (.error error,w.emit me (.store write)) := by
  unfold statement
  cases answered : e.db <;> simp [answered]

def stopRow (safety : SafetyConfig) (actor : AuditActor) (reason : String) : Event :=
  .store (.controlEventInserted ⟨none,"emergency_stop",some (stopCommand safety),reason,actor⟩)

def stopFault (reason : String) : Event := .runtime (.engaged .controlFault reason)

-- The device write has come back in time, with whatever result.
theorem drive_returned (inTime : (answers 1).deviceInTime = true) :
    (emergencyStop safety actor : Handler Event.work me AppError Unit).drive answers w =
      match (answers 2).db with
      | .done => (.ok (),(afterStopWrite safety me w (answers 1).device.isOk).emit me
          (stopRow safety actor emergencyStopDelivered))
      | .failed error => (.error (.internal error),(afterStopWrite safety me w (answers 1).device.isOk).emit me
          (stopFault s!"emergency stop audit failed after fail-safe state change: {error.message}"))
      | .lost error => (.error (.internal error),((afterStopWrite safety me w (answers 1).device.isOk).emit me
          (stopRow safety actor emergencyStopDelivered)).emit me
          (stopFault s!"emergency stop audit failed after fail-safe state change: {error.message}")) := by
  unfold emergencyStop writeTargetsWithin locked catching insertControlEventSqlx within
  rw [Task.drive_section_bind]
  simp only [run_change]
  rw [Task.drive_section_bind]
  simp only [locked,Task.relax_section,Task.attempt_section]
  simp [inTime]
  rw [Task.drive_section_bind]
  cases audit : (answers 2).db with
  | done => simp [run_statement,audit]; rfl
  | failed error =>
      simp [run_statement,audit,latchControlFault,locked]
      rw [Task.drive_section_bind]
      simp; rfl
  | lost error =>
      simp [run_statement,audit,latchControlFault,locked]
      rw [Task.drive_section_bind]
      simp; rfl

def stopFailure (message : String) : String :=
  s!"operator triggered emergency stop; fail-safe target write FAILED, downstream may still hold previous targets: {message}; activate hardware e-stop"

def stopTimeout (safety : SafetyConfig) : String :=
  s!"emergency stop target write timed out after {if 0 ≤ safety.control.sensorTimeoutMs then safety.control.sensorTimeoutMs.toNat else 1} ms"

-- It has not come back in time.
theorem drive_late (late : (answers 1).deviceInTime = false) :
    (emergencyStop safety actor : Handler Event.work me AppError Unit).drive answers w =
      (.error (.serviceUnavailable s!"emergency stop engaged but fail-safe targets could not be delivered to downstream device: {stopTimeout safety}; activate hardware e-stop immediately"),
        match (answers 3).db with
        | .failed _ => (afterStopWrite safety me w false).emit me (stopFault (stopTimeout safety))
        | _ => ((afterStopWrite safety me w false).emit me (stopFault (stopTimeout safety))).emit me
            (stopRow safety actor (stopFailure (stopTimeout safety)))) := by
  unfold emergencyStop writeTargetsWithin locked catching insertControlEventSqlx within latchControlWriteFault
    latchControlFault ignoring
  rw [Task.drive_section_bind]
  simp only [run_change]
  rw [Task.drive_section_bind]
  simp [late,locked,Task.relax_bind]
  rw [Task.drive_section_bind]
  simp [Task.bind_assoc]
  rw [Task.drive_section_bind]
  simp [run_statement]
  cases audit : (answers 3).db with
  | done => exact ⟨rfl,rfl⟩
  | failed error => exact ⟨rfl,rfl⟩
  | lost error => exact ⟨rfl,rfl⟩

-- An emergency stop that runs by itself. Its second step is the device write; success,
-- and the row that says so, are for a write that came back `Ok` in time.
structure EmergencyStopHonest (safety : SafetyConfig) (actor : AuditActor) (me : TaskId) (answers : Nat → Env)
    (w : World) (result : Except AppError Unit) (final : World) : Prop where
  delivered : ∀ new, final.history = new ++ w.history → result = .ok () ∨ new.any (reportsDelivery me) = true →
    (answers 1).deviceInTime = true ∧ (answers 1).device = .ok ()
  undelivered : ¬((answers 1).deviceInTime = true ∧ (answers 1).device = .ok ()) →
    final.state.runtime.lastControlError.isSome = true ∧ ∃ error, result = .error error
  latched : final.state.runtime.emergencyStop = true ∧ final.state.runtime.autoEnabled = false

theorem stopFailure_undelivered (message : String) : stopFailure message ≠ emergencyStopDelivered := by
  unfold stopFailure emergencyStopDelivered
  rw [String.append_assoc]
  exact append_ne_literal 60 rfl rfl (by decide) (by decide) _

theorem emergency_stop_honest :
    EmergencyStopHonest safety actor me answers w
        ((emergencyStop safety actor : Handler Event.work me AppError Unit).drive answers w).1
        ((emergencyStop safety actor : Handler Event.work me AppError Unit).drive answers w).2 ↔
      ((answers 1).deviceInTime = true → (answers 1).device.isOk = false → ∃ error, (answers 2).db = .failed error) := by
  cases time : (answers 1).deviceInTime with
  | false =>
      rw [drive_late safety actor me answers w time]
      refine ⟨fun _ inTime => (by cases inTime),fun _ => ⟨?_,?_,?_⟩⟩
      · intro new recorded reported
        rcases reported with absurd | row
        · cases absurd
        · have other := stopFailure_undelivered (stopTimeout safety)
          cases audit : (answers 3).db with
          | failed error =>
              rw [audit] at recorded
              obtain rfl := List.append_cancel_right (show [_,_,_] ++ w.history = new ++ w.history from recorded)
              simp [reportsDelivery,stopFault] at row
          | done =>
              rw [audit] at recorded
              obtain rfl := List.append_cancel_right (show [_,_,_,_] ++ w.history = new ++ w.history from recorded)
              simp [reportsDelivery,stopFault,stopRow,other] at row
          | lost error =>
              rw [audit] at recorded
              obtain rfl := List.append_cancel_right (show [_,_,_,_] ++ w.history = new ++ w.history from recorded)
              simp [reportsDelivery,stopFault,stopRow,other] at row
      · intro _
        exact ⟨by cases (answers 3).db <;> rfl,_,rfl⟩
      · cases (answers 3).db <;> exact ⟨rfl,rfl⟩
  | true =>
      rw [drive_returned safety actor me answers w time]
      cases written : (answers 1).device with
      | ok value =>
          refine ⟨fun _ _ failed => (by cases failed),fun _ => ⟨?_,?_,?_⟩⟩
          · intro new _ _
            exact ⟨time,written⟩
          · intro undelivered
            exact absurd ⟨time,written⟩ undelivered
          · cases (answers 2).db <;> exact ⟨rfl,rfl⟩
      | error err =>
          constructor
          · intro honest _ _
            cases audit : (answers 2).db with
            | failed error => exact ⟨error,rfl⟩
            | done =>
                rw [audit] at honest
                obtain ⟨_,absurd⟩ := honest.delivered _ (show _ = [_,_,_] ++ w.history from rfl) (.inl rfl)
                rw [written] at absurd
                cases absurd
            | lost error =>
                rw [audit] at honest
                obtain ⟨_,absurd⟩ := honest.delivered _ (show _ = [_,_,_,_] ++ w.history from rfl) (.inr (by
                  simp [reportsDelivery,stopRow]))
                rw [written] at absurd
                cases absurd
          · intro silent
            obtain ⟨error,audit⟩ := silent rfl rfl
            rw [audit]
            refine ⟨?_,?_,?_⟩
            · intro new recorded reported
              rcases reported with absurd | row
              · cases absurd
              · obtain rfl := List.append_cancel_right (show [_,_,_] ++ w.history = new ++ w.history from recorded)
                simp [reportsDelivery,stopFault] at row
            · intro _
              exact ⟨rfl,_,rfl⟩
            · exact ⟨rfl,rfl⟩

end Drive

-- The device refuses the write at once; the operator reads of a delivery.
theorem emergency_stop_hides_refusal :
    ¬EmergencyStopHonest .shipped .system 0 (fun _ => {device := .error ⟨"write refused",[]⟩}) ⟨Site.shipped.startUp,[]⟩
      ((emergencyStop .shipped .system : Handler Event.work 0 AppError Unit).drive
        (fun _ => {device := .error ⟨"write refused",[]⟩}) ⟨Site.shipped.startUp,[]⟩).1
      ((emergencyStop .shipped .system : Handler Event.work 0 AppError Unit).drive
        (fun _ => {device := .error ⟨"write refused",[]⟩}) ⟨Site.shipped.startUp,[]⟩).2 := by
  intro honest
  obtain ⟨_,absurd⟩ := honest.delivered _ (List.append_nil _).symm (.inl rfl)
  cases absurd

def Event.arms (before : Bool) : Event → Bool
  | .note .interlockPassed => true
  | .commanded _ _ _ => false
  | _ => before

-- A task that has passed its interlock and has not written since.
def armed (j : TaskId) : List (TaskId × Event) → Bool
  | [] => false
  | (i,event) :: older => if i = j then event.arms (armed j older) else armed j older

-- The fail-safe write of an emergency stop has reached the device, and the stop has not
-- been reset since.
def stopInForce (init : Plant) : List (TaskId × Event) → Bool
  | [] => false
  | (_,event) :: older => match event with
      | .runtime (.cleared .emergencyStop) => false
      | .commanded .emergencyStop _ true => (replay init older).runtime.emergencyStop
      | _ => stopInForce init older

def Event.energising : Event → Bool
  | .commanded .controlLoop _ _ => true
  | .commanded .processStart _ _ => true
  | _ => false

def Event.stops : Event → Bool
  | .commanded .emergencyStop _ true => true
  | _ => false

-- Where a stop write reaches the device, no other task is about to write.
def NothingArmedAtStop : List (TaskId × Event) → Prop :=
  Always fun older _ event => event.stops = true → ∀ entry ∈ older, armed entry.1 older = false

instance : Decidable (NothingArmedAtStop history) := Always.decide history

def NoEnergisingAfterStop (init : Plant) : List (TaskId × Event) → Prop :=
  Always fun older _ event => event.energising = true → stopInForce init older = false

instance {init : Plant} : Decidable (NoEnergisingAfterStop init history) := Always.decide history

theorem armed_after (event : Event) (p : Progress) : (Progress.after event p).armed = event.arms p.armed := by
  rw [Progress.armed_after]
  cases event with
  | note note => cases note <;> rfl
  | _ => rfl

theorem armed_own (j : TaskId) (event : Event) (older : List (TaskId × Event)) :
    armed j ((j,event) :: older) = event.arms (armed j older) := if_pos rfl

theorem armed_other {i j : TaskId} (event : Event) (older : List (TaskId × Event)) (other : i ≠ j) :
    armed j ((i,event) :: older) = armed j older := if_neg other

theorem armed_progress (safety : SafetyConfig) (j : TaskId) (history : List (TaskId × Event)) :
    ((rules safety).progress j history).armed = armed j history := by
  induction history with
  | nil => rfl
  | cons entry history ih =>
      obtain ⟨i,event⟩ := entry
      by_cases mine : i = j
      · subst mine
        have moved := armed_after event ((rules safety).progress i history)
        rw [progress_own,armed_own,←ih]
        exact moved
      · rw [progress_other _ mine,ih,armed_other _ _ mine]

-- Who has recorded nothing has not passed anything.
theorem armed_recorded {j : TaskId} {history : List (TaskId × Event)} (passed : armed j history = true) :
    ∃ entry ∈ history, entry.1 = j := by
  induction history with
  | nil => cases passed
  | cons entry history ih =>
      obtain ⟨i,event⟩ := entry
      by_cases mine : i = j
      · exact ⟨(i,event),by simp,mine⟩
      · rw [armed_other _ _ mine] at passed
        obtain ⟨older,member,same⟩ := ih passed
        exact ⟨older,by simp [member],same⟩

theorem stops_disarm {event : Event} (stops : event.stops = true) (before : Bool) : event.arms before = false := by
  cases event with
  | commanded writer command delivered => rfl
  | _ => cases stops

theorem stopInForce_since {init : Plant} {i : TaskId} {event : Event} {older : List (TaskId × Event)}
    (inForce : stopInForce init ((i,event) :: older) = true) : event.clears .emergencyStop = false ∧
      (event.stops = true ∧ (replay init older).runtime.emergencyStop = true ∨ stopInForce init older = true) := by
  cases event with
  | runtime change =>
      cases change with
      | cleared latch =>
          cases latch with
          | emergencyStop => cases inForce
          | _ => exact ⟨rfl,.inr inForce⟩
      | _ => exact ⟨rfl,.inr inForce⟩
  | commanded writer command delivered =>
      refine ⟨rfl,?_⟩
      cases writer with
      | emergencyStop =>
          cases delivered with
          | true => exact .inl ⟨rfl,inForce⟩
          | false => exact .inr inForce
      | _ => exact .inr inForce
  | store write => exact ⟨rfl,.inr inForce⟩
  | note note => exact ⟨rfl,.inr inForce⟩

theorem latch_stays {plant : Plant} {event : Event} (uncleared : event.clears .emergencyStop = false)
    (on : plant.runtime.emergencyStop = true) : (Effect.apply event plant).runtime.emergencyStop = true := by
  have kept := latched_event event plant .emergencyStop
  rw [uncleared] at kept
  change _ = if _ then true else plant.runtime.emergencyStop at kept
  rw [on] at kept
  exact kept.trans (by split <;> rfl)

-- While a stop is in force the latch is on and nobody is about to write.
theorem stop_in_force (history : List (TaskId × Event)) (holds : site.Allowed history) (quiet : NothingArmedAtStop history)
    (inForce : stopInForce site.startUp history = true) :
    (replay site.startUp history).runtime.emergencyStop = true ∧ ∀ j, armed j history = false := by
  induction history with
  | nil => cases inForce
  | cons entry history ih =>
      obtain ⟨i,event⟩ := entry
      obtain ⟨before,permitted⟩ := holds
      obtain ⟨earlier,atStop⟩ := quiet
      obtain ⟨uncleared,⟨stops,on⟩ | since⟩ := stopInForce_since inForce
      · refine ⟨latch_stays uncleared on,fun j => ?_⟩
        by_cases mine : i = j
        · subst mine
          rw [armed_own]
          exact stops_disarm stops _
        · rw [armed_other _ _ mine,←Bool.not_eq_true]
          intro passed
          obtain ⟨entry,member,rfl⟩ := armed_recorded passed
          rw [atStop stops entry member] at passed
          cases passed
      · obtain ⟨on,unarmed⟩ := ih before earlier since
        refine ⟨latch_stays uncleared on,fun j => ?_⟩
        by_cases mine : i = j
        · subst mine
          rw [armed_own,unarmed]
          cases event with
          | note note =>
              cases note with
              | interlockPassed =>
                  have off : (replay site.startUp history).runtime.emergencyStop = false := permitted
                  rw [on] at off
                  cases off
              | _ => rfl
          | _ => rfl
        · rw [armed_other _ _ mine]
          exact unarmed j

theorem energising_armed {event : Event} (energising : event.energising = true) {plant : Plant} {p : Progress}
    (permitted : allowed plant p event) : p.armed = true := by
  cases event with
  | commanded writer command delivered =>
      cases writer with
      | controlLoop => exact permitted
      | processStart => exact permitted
      | _ => cases energising
  | _ => cases energising

theorem no_energising_after_stop {jobs : TaskId → Job} {schedule : List (TaskId × Env)}
    (quiet : NothingArmedAtStop (site.after jobs schedule).history) :
    NoEnergisingAfterStop site.startUp (site.after jobs schedule).history := by
  apply always_of
  intro newer i event older record energising
  have holds := site.after_allowed jobs schedule
  rw [record] at holds quiet
  have passed := energising_armed energising holds.event
  rw [armed_progress] at passed
  rw [←Bool.not_eq_true]
  intro inForce
  have unarmed := (stop_in_force older holds.older.1 quiet.older inForce).2 i
  rw [passed] at unarmed
  cases unarmed

def stopDuringStart : TaskId → Job
  | 0 => .controlLoop .simulation 1
  | 1 => .startBatch {name := some "hydrogenation",targetTemperatureC := some (some 60)} .system
  | _ => .emergencyStop .system

-- The stop comes before the interlock of the start, which then refuses.
theorem no_energising_after_stop_start : NoEnergisingAfterStop Site.shipped.startUp
    (Site.shipped.after stopDuringStart (healthy [0,0,0,0,0,0,0,1,1,1,1,1,2,2,1,1,1,1,1])).history :=
  no_energising_after_stop (by decide +kernel)

-- The start has passed its interlock already; its write follows that of the stop.
theorem start_heats_after_stop : ¬NoEnergisingAfterStop Site.shipped.startUp
    (Site.shipped.after stopDuringStart (healthy [0,0,0,0,0,0,0,1,1,1,1,1,1,2,2,1])).history := by decide +kernel

end ReactorOS
