import ReactorOS.ModbusTcp
import ReactorOS.Wire.Document
namespace ReactorOS
open Wire

structure DeviceStatusItem where
  deviceId : String
  deviceRole : String
  online : Bool
  status : String
  autoEnabled : Bool
  manualLock : Bool
  lastSeenAt : Option Instant
  lastSeenAgeMs : Option Int
  staleAfterMs : Int
  activeBatchId : Option Int
  emergencyStop : Bool
  lastSensorError : Option String
  lastControlError : Option String
  unfinishedBatchIds : List Int
  unexpectedUnfinishedBatchIds : List Int
  motor : Option Nat
  lastCommandRequestId : Option String
  lastCommandOk : Option Bool
  lastCommandError : Option String

structure DeviceStatusSummary where
  totalCount : Nat
  onlineCount : Nat
  devices : List DeviceStatusItem

section Summary
variable (safety : SafetyConfig) (now : Instant) (runtime : RuntimeState)

def sampleFresh : Bool := match runtime.latestSample with
  | some sample => timestampIsFresh now sample.capturedAt safety.control.sensorTimeoutMs
  | none => false

def bridgeOnline : Bool := match runtime.deviceStatus with
  | some status => status.connected && status.lastFrameOk && (match status.lastSeenAt with
    | some lastSeen => timestampIsFresh now lastSeen safety.control.sensorTimeoutMs
    | none => false)
  | none => !safety.control.requireDeviceStatusForControl && sampleFresh safety now runtime

def commandFault : Bool := (runtime.deviceStatus.bind downstreamCommandFaultReason).isSome

def deviceStatusText : String :=
  if runtime.emergencyStop then "error"
  else if runtime.deviceStatus.any fun status => !status.connected || !status.lastFrameOk then "error"
  else if commandFault runtime then "error"
  else if runtime.deviceStatus.isNone && safety.control.requireDeviceStatusForControl then "offline"
  else if !sampleFresh safety now runtime && !bridgeOnline safety now runtime then
    if runtime.latestSample.isSome then "stale" else "offline"
  else if !sampleFresh safety now runtime && runtime.lastSensorError.isSome then "error"
  else if runtime.lastSensorError.isSome then "error"
  else if runtime.lastControlError.isSome then "error"
  else if runtime.activeBatchId.isSome then "running"
  else "idle"

def deviceStatusItem (deviceId deviceRole : String) : DeviceStatusItem :=
  let lastSeen := (runtime.deviceStatus.bind (·.lastSeenAt)).or (runtime.latestSample.map (·.capturedAt))
  { deviceId, deviceRole
    online := bridgeOnline safety now runtime && !runtime.emergencyStop && !commandFault runtime
    status := deviceStatusText safety now runtime
    autoEnabled := runtime.autoEnabled
    manualLock := runtime.manualLock
    lastSeenAt := lastSeen
    lastSeenAgeMs := lastSeen.map (timestampAgeMs now)
    staleAfterMs := safety.control.sensorTimeoutMs
    activeBatchId := runtime.activeBatchId
    emergencyStop := runtime.emergencyStop
    lastSensorError := runtime.lastSensorError
    lastControlError := runtime.lastControlError
    unfinishedBatchIds := []
    unexpectedUnfinishedBatchIds := []
    motor := runtime.deviceStatus.bind (·.motor)
    lastCommandRequestId := runtime.deviceStatus.bind (·.lastCommandRequestId)
    lastCommandOk := runtime.deviceStatus.bind (·.lastCommandOk)
    lastCommandError := runtime.deviceStatus.bind (·.lastCommandError) }

def deviceStatusSummary : DeviceStatusSummary :=
  let device := deviceStatusItem safety now runtime "reactor_001" "reactor_bridge"
  ⟨1,device.online.toNat,[device]⟩

def applyUnfinishedBatchStatus (batchStatus : UnfinishedBatchStatus) (summary : DeviceStatusSummary) : DeviceStatusSummary :=
  if !batchStatus.hasUnfinishedBatch runtime then summary
  else if batchStatus.isConsistent then summary
  else
    let reason := batchStatus.reason runtime
    { summary with
      devices := summary.devices.map fun device => {device with
        online := false
        status := "error"
        unfinishedBatchIds := batchStatus.unfinishedBatchIds
        unexpectedUnfinishedBatchIds := batchStatus.unexpectedBatchIds
        lastControlError := some (match device.lastControlError with
          | some error => s!"{error}; {reason}"
          | none => reason)}
      onlineCount := 0}

def deviceStatusSummaryWithBatchStatus (batchStatus : UnfinishedBatchStatus) : DeviceStatusSummary :=
  applyUnfinishedBatchStatus runtime batchStatus (deviceStatusSummary safety now runtime)

end Summary

section Render
variable (instant : Instant → String)

-- `instant` writes a time down.
def DeviceStatusItem.document (device : DeviceStatusItem) : Document := .object
  [("device_id",.string device.deviceId),("device_role",.string device.deviceRole),("online",.bool device.online),
    ("status",.string device.status),("auto_enabled",.bool device.autoEnabled),("manual_lock",.bool device.manualLock),
    ("last_seen_at",.ofOption (fun time => .string (instant time)) device.lastSeenAt),
    ("last_seen_age_ms",.ofOption .int device.lastSeenAgeMs),("stale_after_ms",.int device.staleAfterMs),
    ("active_batch_id",.ofOption .int device.activeBatchId),("emergency_stop",.bool device.emergencyStop),
    ("last_sensor_error",.ofOption .string device.lastSensorError),
    ("last_control_error",.ofOption .string device.lastControlError),
    ("unfinished_batch_ids",.array (device.unfinishedBatchIds.map .int)),
    ("unexpected_unfinished_batch_ids",.array (device.unexpectedUnfinishedBatchIds.map .int)),
    ("motor",.ofOption (fun motor => .int motor) device.motor),
    ("last_command_request_id",.ofOption .string device.lastCommandRequestId),
    ("last_command_ok",.ofOption .bool device.lastCommandOk),
    ("last_command_error",.ofOption .string device.lastCommandError)]

def DeviceStatusSummary.document (summary : DeviceStatusSummary) : Document := .object
  [("total_count",.int summary.totalCount),("online_count",.int summary.onlineCount),
    ("devices",.array (summary.devices.map (·.document instant)))]

-- `success(data)`
def success (data : Document) : Document := .object [("code",.int 0),("message",.string "success"),("data",data)]

-- The body that `devices_status` answers with.
def devicesStatus (safety : SafetyConfig) (now : Instant) (runtime : RuntimeState) (unfinished : List Batch) : Document :=
  success ((deviceStatusSummaryWithBatchStatus safety now runtime
    (unfinishedBatchStatusFromBatches unfinished runtime)).document instant)

end Render
end ReactorOS
