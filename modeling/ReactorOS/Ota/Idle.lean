import ReactorOS.DeviceSummary
namespace ReactorOS.Ota
open Wire

-- What `curl` brings of the status address, and whether python3 is there to read it. A
-- body that is no JSON has no payload.
structure StatusAnswer where
  reached : Bool
  python : Bool
  payload : Option Document

-- White space to `str.strip()`.
def pythonSpace (ch : Char) : Bool := isWhitespace ch || (0x1C ≤ ch.val && ch.val ≤ 0x1F)

def strip (text : String) : String :=
  String.ofList ((text.toList.dropWhile pythonSpace).reverse.dropWhile pythonSpace).reverse

def lowered (text : String) : String := String.ofList (text.toList.map Char.toLower)

-- `str(value).lower()`. No value but a text reads like one of the states.
def statusText : Option Document → String
  | some (.string text) => lowered text
  | some (.bool true) => "true"
  | some (.bool false) => "false"
  | some .null => "none"
  | some (.number value) => toString value
  | some (.array _) => "["
  | some (.object _) => "\x7b"
  | none => ""

structure DeviceFindings where
  busy : Bool
  emergency : Bool
  automatic : Bool
  manualLock : Bool
  controlFault : Bool
  unsafeStatus : Bool

def isNull : Option Document → Bool
  | none => true
  | some .null => true
  | _ => false

def isTrue : Option Document → Bool
  | some (.bool true) => true
  | _ => false

def isFalse : Option Document → Bool
  | some (.bool false) => true
  | _ => false

def stripped : Document → Document
  | .string text => .string (strip text)
  | value => value

-- Whoever is no object has no `get`.
def deviceFindings : Document → Option DeviceFindings
  | .object device =>
      let get := Document.member device
      let status := statusText (get "status")
      some {
        busy := !isNull (get "active_batch_id") || status == "running"
        emergency := (get "emergency_stop").any Document.truthy
        automatic := isTrue (get "auto_enabled")
        manualLock := isTrue (get "manual_lock")
        controlFault := ((get "last_control_error").map stripped).any Document.truthy || isFalse (get "last_command_ok")
        unsafeStatus := !isTrue (get "online") || status != "idle" }
  | _ => none

-- The exit code of the script within the script: 1 where it ends in an exception.
def statusCode (payload : Option Document) : Nat :=
  match payload with
  | some (.object payload) =>
      match (Document.member payload "data").getD (.object payload) with
      | .object data =>
          let devices := (Document.member data "devices").getD (.array [])
          if !devices.truthy then 16
          else match devices with
            | .array devices => match devices.mapM deviceFindings with
                | none => 1
                | some found =>
                    if found.any (·.busy) then 10
                    else if found.any (·.emergency) then 11
                    else if found.any (·.automatic) then 12
                    else if found.any (·.manualLock) then 15
                    else if found.any (·.controlFault) then 13
                    else if found.any (·.unsafeStatus) then 14
                    else 0
            | _ => 1
      | _ => 1
  | _ => 1

def proveOtaSafeIdleStatus (answer : StatusAnswer) : Nat :=
  if !answer.reached then 20
  else if !answer.python then 21
  else statusCode answer.payload

-- The message the script dies with.
def explainOtaSafeIdleStatusFailure (code : Nat) : Except String Unit :=
  match code with
  | 0 => .ok ()
  | 10 => .error "device is running an active process; wait for a maintenance window or use --force --confirm-maintenance-window"
  | 11 => .error "emergency stop is active; resolve field safety before OTA or use --force --confirm-maintenance-window"
  | 12 => .error "automatic control is enabled; disable automatic control and verify idle field state before OTA"
  | 13 => .error "device control fault is uncleared; resolve and reset the fault before OTA"
  | 14 => .error "device status is not proven idle and online; use --force --confirm-maintenance-window only during a verified maintenance window"
  | 15 => .error "manual lock is active; complete field handover before OTA or use --force --confirm-maintenance-window"
  | 16 => .error "device status did not report any devices; cannot prove reactor is idle"
  | 20 => .error "cannot read device status; use --force --confirm-maintenance-window only during a verified maintenance window"
  | 21 => .error "python3 is unavailable; cannot parse device status safely"
  | _ => .error "device status parse failed"

-- The members of a device that nothing speaks against.
structure IdleDevice (device : List (String × Document)) : Prop where
  batch : isNull (Document.member device "active_batch_id") = true
  status : statusText (Document.member device "status") = "idle"
  emergency : (Document.member device "emergency_stop").any Document.truthy = false
  automatic : isTrue (Document.member device "auto_enabled") = false
  manualLock : isTrue (Document.member device "manual_lock") = false
  fault : ((Document.member device "last_control_error").map stripped).any Document.truthy = false
  command : isFalse (Document.member device "last_command_ok") = false
  online : isTrue (Document.member device "online") = true

def DeviceFindings.clear (found : DeviceFindings) : Bool :=
  !found.busy && !found.emergency && !found.automatic && !found.manualLock && !found.controlFault && !found.unsafeStatus

section Proof
variable {answer : StatusAnswer} {device : Document} {devices : List Document} {found : DeviceFindings}

theorem deviceFindings_clear (inspected : deviceFindings device = some found) :
    found.clear = true ↔ ∃ fields, device = .object fields ∧ IdleDevice fields := by
  cases device with
  | object fields =>
      obtain rfl := Option.some.inj inspected
      have apart : "idle" ≠ "running" := by decide
      constructor
      · intro clear
        simp only [DeviceFindings.clear,Bool.and_eq_true,Bool.not_eq_true',Bool.or_eq_false_iff,Bool.not_eq_false',
          bne_eq_false_iff_eq] at clear
        obtain ⟨⟨⟨⟨⟨⟨batch,_⟩,emergency⟩,automatic⟩,manualLock⟩,fault,command⟩,online,status⟩ := clear
        exact ⟨fields,rfl,⟨batch,status,emergency,automatic,manualLock,fault,command,online⟩⟩
      · rintro ⟨same,shown,idle⟩
        obtain rfl := Document.object.inj shown
        simp [DeviceFindings.clear,idle.batch,idle.status,idle.emergency,idle.automatic,idle.manualLock,idle.fault,
          idle.command,idle.online]
  | _ => cases inspected

theorem findings_every (inspected : devices.mapM deviceFindings = some founds) :
    (∀ found ∈ founds, found.clear = true) ↔ ∀ device ∈ devices, ∃ fields, device = .object fields ∧ IdleDevice fields := by
  induction devices generalizing founds with
  | nil =>
      obtain rfl : founds = [] := by simpa using inspected.symm
      simp
  | cons device devices ih =>
      rw [List.mapM_cons] at inspected
      simp only [Option.bind_eq_bind,Option.bind_eq_some_iff,Option.pure_def,Option.some.injEq] at inspected
      obtain ⟨found,first,rest,others,rfl⟩ := inspected
      rw [List.forall_mem_cons,List.forall_mem_cons,deviceFindings_clear first,ih others]

theorem findings_some (every : ∀ device ∈ devices, ∃ fields, device = .object fields ∧ IdleDevice fields) :
    ∃ founds, devices.mapM deviceFindings = some founds := by
  induction devices with
  | nil => exact ⟨[],rfl⟩
  | cons device devices ih =>
      obtain ⟨⟨fields,rfl,_⟩,others⟩ := List.forall_mem_cons.mp every
      obtain ⟨founds,rest⟩ := ih others
      rw [List.mapM_cons,rest]
      exact ⟨_,rfl⟩

-- Every finding has its code, so the code is 0 for none.
theorem summary_code (founds : List DeviceFindings) :
    (if founds.any (·.busy) then 10
      else if founds.any (·.emergency) then 11
      else if founds.any (·.automatic) then 12
      else if founds.any (·.manualLock) then 15
      else if founds.any (·.controlFault) then 13
      else if founds.any (·.unsafeStatus) then 14
      else 0) = 0 ↔ ∀ found ∈ founds, found.clear = true := by
  constructor
  · intro zero found member
    have each : ∀ flag : DeviceFindings → Bool, founds.any flag = false → flag found = false := by
      intro flag clear
      simpa using List.any_eq_false.mp clear found member
    split at zero <;> try (exact absurd zero (by decide))
    rename_i busy
    split at zero <;> try (exact absurd zero (by decide))
    rename_i emergency
    split at zero <;> try (exact absurd zero (by decide))
    rename_i automatic
    split at zero <;> try (exact absurd zero (by decide))
    rename_i manualLock
    split at zero <;> try (exact absurd zero (by decide))
    rename_i fault
    split at zero <;> try (exact absurd zero (by decide))
    rename_i status
    simp only [Bool.not_eq_true] at busy emergency automatic manualLock fault status
    simp [DeviceFindings.clear,each _ busy,each _ emergency,each _ automatic,each _ manualLock,each _ fault,each _ status]
  · intro clear
    have calm : ∀ flag : DeviceFindings → Bool, (∀ found, found.clear = true → flag found = false) → founds.any flag = false := by
      intro flag quiet
      exact List.any_eq_false.mpr fun found member => by simp [quiet found (clear found member)]
    have quiet : ∀ found : DeviceFindings, found.clear = true → found.busy = false ∧ found.emergency = false ∧
        found.automatic = false ∧ found.manualLock = false ∧ found.controlFault = false ∧ found.unsafeStatus = false := by
      intro found clear
      simpa [DeviceFindings.clear,and_assoc] using clear
    rw [calm _ fun found clear => (quiet found clear).1,calm _ fun found clear => (quiet found clear).2.1,
      calm _ fun found clear => (quiet found clear).2.2.1,calm _ fun found clear => (quiet found clear).2.2.2.1,
      calm _ fun found clear => (quiet found clear).2.2.2.2.1,calm _ fun found clear => (quiet found clear).2.2.2.2.2]
    rfl

-- Every device of the report, and there is one, is idle.
def ReportsIdle (payload : Option Document) : Prop :=
  ∃ members data devices, payload = some (.object members) ∧
    (Document.member members "data").getD (.object members) = .object data ∧
    Document.member data "devices" = some (.array devices) ∧ devices ≠ [] ∧
    ∀ device ∈ devices, ∃ fields, device = .object fields ∧ IdleDevice fields

theorem statusCode_zero (payload : Option Document) : statusCode payload = 0 ↔ ReportsIdle payload := by
  constructor
  · intro zero
    unfold statusCode at zero
    split at zero
    · rename_i members
      split at zero
      · rename_i data inner
        dsimp only at zero
        split at zero
        · exact absurd zero (by decide)
        · rename_i truthy
          split at zero
          · rename_i devices listed
            split at zero
            · exact absurd zero (by decide)
            · rename_i founds inspected
              have every := (findings_every inspected).mp ((summary_code founds).mp zero)
              rw [listed] at truthy
              have nonempty : devices ≠ [] := by
                rintro rfl
                exact truthy rfl
              refine ⟨members,data,devices,rfl,inner,?_,nonempty,every⟩
              cases found : Document.member data "devices" with
              | none =>
                  rw [found] at listed
                  exact absurd (Document.array.inj listed).symm nonempty
              | some value =>
                  rw [found] at listed
                  exact congrArg some listed
          · exact absurd zero (by decide)
      · exact absurd zero (by decide)
    · exact absurd zero (by decide)
  · rintro ⟨members,data,devices,rfl,inner,listed,nonempty,every⟩
    obtain ⟨founds,inspected⟩ := findings_some every
    have clear := (summary_code founds).mpr ((findings_every inspected).mpr every)
    have truthy : (Document.array devices).truthy = true := by simpa [Document.truthy] using nonempty
    unfold statusCode
    simp only [inner,listed,Option.getD_some,truthy,inspected]
    exact clear

-- What the answer must be for the update to go on.
theorem prove_idle_iff (answer : StatusAnswer) : proveOtaSafeIdleStatus answer = 0 ↔
    answer.reached = true ∧ answer.python = true ∧ ReportsIdle answer.payload := by
  unfold proveOtaSafeIdleStatus
  cases answer.reached with
  | false => simp
  | true =>
      cases answer.python with
      | false => simp
      | true => simpa using statusCode_zero answer.payload

end Proof

-- The daemon has nothing to do and nothing to report, and the field bus is live.
structure Quiet (safety : SafetyConfig) (now : Instant) (runtime : RuntimeState) (unfinished : List Batch) : Prop where
  batch : runtime.activeBatchId = none
  unfinished : unfinished = []
  emergency : runtime.emergencyStop = false
  automatic : runtime.autoEnabled = false
  manualLock : runtime.manualLock = false
  control : runtime.lastControlError = none
  sensor : runtime.lastSensorError = none
  command : runtime.deviceStatus.bind (·.lastCommandOk) ≠ some false
  online : bridgeOnline safety now runtime = true

section Daemon
variable {instant : Instant → String} {safety : SafetyConfig} {now : Instant} {runtime : RuntimeState}
  {unfinished : List Batch}

-- The members of a device are read back by their names.
theorem document_member (instant : Instant → String) (device : DeviceStatusItem) : ∃ fields, device.document instant = .object fields ∧
    ∀ name value, (name,value) ∈ [("active_batch_id",Document.ofOption .int device.activeBatchId),
      ("status",.string device.status),("emergency_stop",.bool device.emergencyStop),
      ("auto_enabled",.bool device.autoEnabled),("manual_lock",.bool device.manualLock),
      ("last_control_error",.ofOption .string device.lastControlError),
      ("last_command_ok",.ofOption .bool device.lastCommandOk),("online",.bool device.online)] →
      Document.member fields name = some value := by
  refine ⟨_,rfl,?_⟩
  intro name value listed
  apply Document.member_nodup (by simp)
  simp only [List.mem_cons,List.not_mem_nil,or_false] at listed ⊢
  tauto

theorem document_idle (device : DeviceStatusItem) :
    (∃ fields, device.document instant = .object fields ∧ IdleDevice fields) ↔
    device.activeBatchId = none ∧ lowered device.status = "idle" ∧ device.emergencyStop = false ∧
      device.autoEnabled = false ∧ device.manualLock = false ∧
      (∀ error ∈ device.lastControlError, strip error = "") ∧ device.lastCommandOk ≠ some false ∧ device.online = true := by
  obtain ⟨fields,shown,read⟩ := document_member instant device
  have batch := read "active_batch_id" (.ofOption .int device.activeBatchId) (by simp)
  have status := read "status" (.string device.status) (by simp)
  have emergency := read "emergency_stop" (.bool device.emergencyStop) (by simp)
  have automatic := read "auto_enabled" (.bool device.autoEnabled) (by simp)
  have manualLock := read "manual_lock" (.bool device.manualLock) (by simp)
  have fault := read "last_control_error" (.ofOption .string device.lastControlError) (by simp)
  have command := read "last_command_ok" (.ofOption .bool device.lastCommandOk) (by simp)
  have online := read "online" (.bool device.online) (by simp)
  have blank : ((some (Document.ofOption .string device.lastControlError)).map stripped).any Document.truthy = false ↔
      ∀ error ∈ device.lastControlError, strip error = "" := by
    cases device.lastControlError with
    | none => simp [Document.ofOption,stripped,Document.truthy]
    | some error => simp [Document.ofOption,stripped,Document.truthy]
  have failed : isFalse (some (Document.ofOption .bool device.lastCommandOk)) = false ↔ device.lastCommandOk ≠ some false := by
    cases device.lastCommandOk with
    | none => simp [Document.ofOption,isFalse]
    | some ok => cases ok <;> simp [Document.ofOption,isFalse]
  have absent : isNull (some (Document.ofOption .int device.activeBatchId)) = true ↔ device.activeBatchId = none := by
    cases device.activeBatchId with
    | none => simp [Document.ofOption,isNull]
    | some id => simp [Document.ofOption,isNull,Document.int]
  have truth : ∀ flag : Bool, isTrue (some (.bool flag)) = flag := by
    intro flag
    cases flag <;> rfl
  constructor
  · rintro ⟨others,again,idle⟩
    obtain rfl : fields = others := Document.object.inj (shown.symm.trans again)
    exact ⟨absent.mp (batch ▸ idle.batch),by simpa [status,statusText] using idle.status,by simpa [emergency,Document.truthy] using idle.emergency,
      by simpa [automatic,truth] using idle.automatic,by simpa [manualLock,truth] using idle.manualLock,
      blank.mp (fault ▸ idle.fault),failed.mp (command ▸ idle.command),by simpa [online,truth] using idle.online⟩
  · rintro ⟨unbatched,shows,calm,manual,unlocked,errorless,succeeded,live⟩
    exact ⟨fields,shown,{
      batch := batch ▸ absent.mpr unbatched
      status := by simpa [status,statusText] using shows
      emergency := by simpa [emergency,Document.truthy] using calm
      automatic := by simpa [automatic,truth] using manual
      manualLock := by simpa [manualLock,truth] using unlocked
      fault := fault ▸ blank.mpr errorless
      command := command ▸ failed.mpr succeeded
      online := by simpa [online,truth] using live}⟩

theorem commandFault_iff (runtime : RuntimeState) :
    commandFault runtime = true ↔ runtime.deviceStatus.bind (·.lastCommandOk) = some false := by
  unfold commandFault
  cases runtime.deviceStatus with
  | none => simp
  | some status =>
      unfold downstreamCommandFaultReason
      by_cases failed : status.lastCommandOk = some false
      · simp [failed]
      · simp [failed]

-- What is said of a device that is live and has no fault.
theorem status_idle_iff (online : bridgeOnline safety now runtime = true) (calm : runtime.emergencyStop = false)
    (command : commandFault runtime = false) : deviceStatusText safety now runtime = "idle" ↔
    runtime.lastSensorError = none ∧ runtime.lastControlError = none ∧ runtime.activeBatchId = none := by
  have linked : (runtime.deviceStatus.any fun status => !status.connected || !status.lastFrameOk) = false := by
    unfold bridgeOnline at online
    cases status : runtime.deviceStatus with
    | none => rfl
    | some device =>
        simp only [status,Bool.and_eq_true] at online
        simp [online.1.1,online.1.2]
  have required : (runtime.deviceStatus.isNone && safety.control.requireDeviceStatusForControl) = false := by
    unfold bridgeOnline at online
    cases status : runtime.deviceStatus with
    | none =>
        simp only [status,Bool.and_eq_true] at online
        simpa using online.1
    | some device => rfl
  unfold deviceStatusText
  simp only [calm,linked,command,required,online,Bool.not_true,Bool.and_false,Bool.false_eq_true,if_false]
  cases runtime.lastSensorError with
  | some error => simp
  | none =>
      cases runtime.lastControlError with
      | some error => simp
      | none =>
          cases runtime.activeBatchId with
          | some batch => simp
          | none => simp

theorem devicesStatus_reports (items : List DeviceStatusItem) (total online : Nat) :
    ReportsIdle (some (success ((⟨total,online,items⟩ : DeviceStatusSummary).document instant))) ↔
      items ≠ [] ∧ ∀ device ∈ items, ∃ fields, device.document instant = .object fields ∧ IdleDevice fields := by
  have data : Document.member [("code",.int 0),("message",.string "success"),
      ("data",(⟨total,online,items⟩ : DeviceStatusSummary).document instant)] "data" =
      some ((⟨total,online,items⟩ : DeviceStatusSummary).document instant) := Document.member_nodup (by simp) (by simp)
  have devices : Document.member [("total_count",.int total),("online_count",.int online),
      ("devices",.array (items.map (·.document instant)))] "devices" =
      some (.array (items.map (·.document instant))) := Document.member_nodup (by simp) (by simp)
  constructor
  · rintro ⟨members,inner,documents,shown,leads,listed,nonempty,every⟩
    obtain rfl := Document.object.inj (Option.some.inj shown)
    rw [data,Option.getD_some] at leads
    obtain rfl := Document.object.inj leads
    obtain rfl := Document.array.inj (Option.some.inj (devices.symm.trans listed))
    exact ⟨by simpa using nonempty,by simpa using every⟩
  · rintro ⟨nonempty,every⟩
    exact ⟨_,_,_,rfl,by rw [data,Option.getD_some,DeviceStatusSummary.document],devices,by simpa using nonempty,by simpa using every⟩

-- While batches have to be recovered the device is given out as faulty.
theorem recovery_reports {batchStatus : UnfinishedBatchStatus} (unfinished : batchStatus.hasUnfinishedBatch runtime = true)
    (inconsistent : batchStatus.isConsistent = false) :
    ¬ReportsIdle (some (success ((deviceStatusSummaryWithBatchStatus safety now runtime batchStatus).document instant))) := by
  intro reports
  unfold deviceStatusSummaryWithBatchStatus applyUnfinishedBatchStatus at reports
  rw [unfinished,inconsistent] at reports
  obtain ⟨_,every⟩ := (devicesStatus_reports _ _ _).mp reports
  obtain ⟨_,status,_⟩ := (document_idle _).mp (every _ (List.mem_map_of_mem List.mem_cons_self))
  exact absurd status (show lowered "error" ≠ "idle" by decide)

-- The gate of the scripts is passed exactly by a daemon that is quiet.
theorem idle_proof_of_daemon (instant : Instant → String) (safety : SafetyConfig) (now : Instant) (runtime : RuntimeState)
    (unfinished : List Batch) :
    proveOtaSafeIdleStatus ⟨true,true,some (devicesStatus instant safety now runtime unfinished)⟩ = 0 ↔
      Quiet safety now runtime unfinished := by
  have plain : ReportsIdle (some (success ((deviceStatusSummary safety now runtime).document instant))) ↔
      runtime.activeBatchId = none ∧ runtime.emergencyStop = false ∧ runtime.autoEnabled = false ∧
        runtime.manualLock = false ∧ runtime.lastControlError = none ∧ runtime.lastSensorError = none ∧
        runtime.deviceStatus.bind (·.lastCommandOk) ≠ some false ∧ bridgeOnline safety now runtime = true := by
    rw [deviceStatusSummary,devicesStatus_reports,List.forall_mem_singleton,document_idle]
    simp only [deviceStatusItem,ne_eq,List.cons_ne_nil,not_false_eq_true,true_and,Bool.and_eq_true,Bool.not_eq_true']
    have lower : lowered (deviceStatusText safety now runtime) = "idle" ↔ deviceStatusText safety now runtime = "idle" := by
      unfold deviceStatusText
      split_ifs <;> decide
    constructor
    · rintro ⟨batch,status,emergency,automatic,manualLock,_,command,⟨online,_⟩,fault⟩
      obtain ⟨sensor,control,_⟩ := (status_idle_iff online emergency fault).mp (lower.mp status)
      exact ⟨batch,emergency,automatic,manualLock,control,sensor,command,online⟩
    · rintro ⟨batch,emergency,automatic,manualLock,control,sensor,command,online⟩
      have fault : commandFault runtime = false := by
        rw [← Bool.not_eq_true,commandFault_iff]
        exact command
      exact ⟨batch,lower.mpr ((status_idle_iff online emergency fault).mpr ⟨sensor,control,batch⟩),emergency,automatic,manualLock,
        by simp [control],command,⟨online,emergency⟩,fault⟩
  have fine : (unfinishedBatchStatusFromBatches unfinished runtime).hasUnfinishedBatch runtime = false ∨
      (unfinishedBatchStatusFromBatches unfinished runtime).isConsistent = true →
      (deviceStatusSummaryWithBatchStatus safety now runtime (unfinishedBatchStatusFromBatches unfinished runtime) =
        deviceStatusSummary safety now runtime) := by
    intro reason
    unfold deviceStatusSummaryWithBatchStatus applyUnfinishedBatchStatus
    rcases reason with finished | consistent
    · rw [finished,if_pos (by rfl)]
    · simp only [consistent,if_true,ite_self]
  rw [prove_idle_iff]
  simp only [true_and]
  constructor
  · intro reports
    have calm : (unfinishedBatchStatusFromBatches unfinished runtime).hasUnfinishedBatch runtime = false ∨
        (unfinishedBatchStatusFromBatches unfinished runtime).isConsistent = true := by
      by_contra neither
      simp only [not_or,Bool.not_eq_false,Bool.not_eq_true] at neither
      exact recovery_reports neither.1 neither.2 reports
    rw [devicesStatus,fine calm] at reports
    obtain ⟨batch,emergency,automatic,manualLock,control,sensor,command,online⟩ := plain.mp reports
    have closed : unfinished = [] := by
      cases unfinished with
      | nil => rfl
      | cons batch others =>
          simp [UnfinishedBatchStatus.hasUnfinishedBatch,UnfinishedBatchStatus.isConsistent,
            unfinishedBatchStatusFromBatches,‹runtime.activeBatchId = none›] at calm
    exact ⟨batch,closed,emergency,automatic,manualLock,control,sensor,command,online⟩
  · intro quiet
    have finished : (unfinishedBatchStatusFromBatches unfinished runtime).hasUnfinishedBatch runtime = false := by
      simp [UnfinishedBatchStatus.hasUnfinishedBatch,unfinishedBatchStatusFromBatches,quiet.batch,quiet.unfinished]
    rw [devicesStatus,fine (.inl finished)]
    exact plain.mpr ⟨quiet.batch,quiet.emergency,quiet.automatic,quiet.manualLock,quiet.control,quiet.sensor,quiet.command,
      quiet.online⟩

end Daemon
end ReactorOS.Ota
