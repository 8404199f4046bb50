import ReactorOS.Ai
import ReactorOS.ControlLoop
import ReactorOS.Integration
import ReactorOS.Modbus
namespace ReactorOS
open Concurrency Journal

-- The receipt of a task that came over MQTT. A receipt that is not published leaves a
-- latch behind, but only where the action was carried out.
def latchMqttReceiptPublishFailure (receipt : Option IntegrationTask) (err : String) :
    Handler Event.quiet me AppError Unit :=
  match receipt with
  | some task =>
      if task.status = .executed then
        if task.action = "start_process" ∨ task.action = "stop_process" then
          latchAuditFailureAfterDeviceAction "MQTT task receipt publish" err
        else if task.action = "set_targets" then
          latchControlFault s!"MQTT task set_targets receipt publish failed after target intent commit: {err}"
        else return ()
      else return ()
  | none => return ()

def mqttTask (safety : SafetyConfig) (payload : AinasTaskRequest) : Handler Event.work me AppError Unit := do
  let outcome ← (executeIntegrationTask safety "mqtt" payload ⟨"mqtt","system"⟩).attempt
  let env ← locked answer
  match env.published with
  | .ok () => return ()
  | .error err => within (latchMqttReceiptPublishFailure (match outcome with
      | .ok task => some task
      | .error (_ : AppError) => none) err.message)

-- What the daemon runs: requests, its control loop and the monitor of that loop.
inductive Job where
  | controlLoop (config : LoopConfig) (rounds : Nat)
  | controlLoopMonitor (panicked : Bool)
  | setAuto (enabled : Bool) (actor : AuditActor)
  | engageManualLock (actor : AuditActor)
  | releaseManualLock (actor : AuditActor)
  | emergencyStop (actor : AuditActor)
  | resetEmergencyStop (actor : AuditActor)
  | resetControlFault (actor : AuditActor)
  | setTargets (payload : TargetRequest) (actor : AuditActor)
  | startBatch (payload : StartBatchRequest) (actor : AuditActor)
  | finishBatch (batchId : Int) (actor : AuditActor)
  | applyProcess (processId : Int) (actor : AuditActor)
  | startProcess (processId : Int) (name : Option String) (actor : AuditActor)
  | stopProcess (processId : Option Int) (reason : Option String) (actor : AuditActor)
  | v1Control (deviceId : String) (payload : V1ControlRequest) (actor : AuditActor)
  | v1Process (deviceId : String) (payload : V1ProcessRequest) (actor : AuditActor)
  | componentControl (capabilities : List DeviceComponentCapability) (deviceId componentId : String)
      (payload : ComponentControlRequest) (actor : AuditActor)
  | aiControl (limits : SensorLimits) (capabilities : List DeviceComponentCapability) (payload : AiControlRequest)
      (actor : AuditActor)
  | integrationTask (source : String) (payload : AinasTaskRequest) (actor : AuditActor)
  | mqttTask (payload : AinasTaskRequest)
  | modbusRegisterWrite (registers : TargetRegister → WriteRegister) (register : String) (value : ℚ)
      (reason : Option String) (actor : AuditActor)
  | acceptPipelineSample (limits : SensorLimits) (payload : PipelineSampleRequest)
  | rejectPipelineSampleInput (reason : String)

namespace Job

def may : Job → Event → Bool
  | .releaseManualLock _ => Event.resetting .manualLock
  | .resetEmergencyStop _ => Event.resetting .emergencyStop
  | .resetControlFault _ => Event.resetting .controlFault
  | .controlLoopMonitor _ | .engageManualLock _ | .acceptPipelineSample _ _ | .rejectPipelineSampleInput _ =>
      Event.field
  | _ => Event.work

-- The loop runs with its own configuration; everything else shares one.
def task (safety : SafetyConfig) (me : TaskId) : (job : Job) → Handler job.may me AppError Unit
  | .controlLoop config rounds => ReactorOS.controlLoop {config with safety := safety} rounds .start
  | .controlLoopMonitor panicked => ReactorOS.controlLoopMonitor panicked
  | .setAuto enabled actor => ReactorOS.setAuto safety enabled actor
  | .engageManualLock actor => ReactorOS.engageManualLock actor
  | .releaseManualLock actor => ReactorOS.releaseManualLock safety actor
  | .emergencyStop actor => ReactorOS.emergencyStop safety actor
  | .resetEmergencyStop actor => ReactorOS.resetEmergencyStop safety actor
  | .resetControlFault actor => ReactorOS.resetControlFault safety actor
  | .setTargets payload actor => discard (ReactorOS.setTargets safety payload actor)
  | .startBatch payload actor => discard (ReactorOS.startBatch safety payload actor)
  | .finishBatch batchId actor => ReactorOS.finishBatch safety batchId actor
  | .applyProcess processId actor => discard (startProcessLifecycle safety processId "process_applied" none actor)
  | .startProcess processId name actor =>
      discard (startProcessLifecycle safety processId "process_started"
        ((name.map trim).filter fun name => !name.isEmpty) actor)
  | .stopProcess processId reason actor =>
      discard (stopProcessLifecycle safety processId "process_stopped" reason actor)
  | .v1Control deviceId payload actor => discard (ReactorOS.v1Control safety deviceId payload actor)
  | .v1Process deviceId payload actor => discard (ReactorOS.v1Process safety deviceId payload actor)
  | .componentControl capabilities deviceId componentId payload actor =>
      discard (executeComponentControl safety capabilities deviceId componentId payload "component_control" actor)
  | .aiControl limits capabilities payload actor =>
      discard (ReactorOS.aiControl safety limits capabilities payload actor)
  | .integrationTask source payload actor => discard (executeIntegrationTask safety source payload actor)
  | .mqttTask payload => ReactorOS.mqttTask safety payload
  | .modbusRegisterWrite registers register value reason actor =>
      discard (applyModbusRegisterWrite safety registers register value reason actor)
  | .acceptPipelineSample limits payload => discard (ReactorOS.acceptPipelineSample safety limits payload)
  | .rejectPipelineSampleInput reason => ReactorOS.rejectPipelineSampleInput reason

end Job

-- A database as it is found at start-up: its keys are keys.
structure Stored where
  db : Db
  batchIds : (db.batches.map (·.id)).Nodup
  taskIds : (db.integrationTasks.map (·.id)).Nodup

def Stored.empty : Stored := ⟨.empty,by simp [Db.empty],by simp [Db.empty]⟩

def recoverRuntimeFromDb (db : Db) (safety : SafetyConfig) : RuntimeState :=
  let runtime := RuntimeState.fromSafety safety
  let unfinished := db.unfinishedBatches 100
  match unfinished.head? with
  | none => runtime
  | some batch =>
      let ids := ",".intercalate (unfinished.map fun batch => toString batch.id)
      {runtime with activeBatchId := some batch.id,autoEnabled := false}.latchControlFault
        s!"daemon restarted with unfinished batch {batch.id}; unfinished batch ids [{ids}] require field verification and stop/finish repair before production control resumes"

-- One installation: its safety configuration and the database it starts with.
structure Site where
  safety : SafetyConfig
  stored : Stored

def Site.shipped : Site := ⟨.shipped,.empty⟩

namespace Site

def startUp (site : Site) : Plant := ⟨recoverRuntimeFromDb site.stored.db site.safety,site.stored.db⟩

abbrev Daemon (jobs : TaskId → Job) :=
  System (fun me => (Emits (jobs me).may me : Env → World → World → Prop)) AppError Unit

def daemon (site : Site) (jobs : TaskId → Job) : Daemon jobs :=
  ⟨⟨site.startUp,[]⟩,fun me => (jobs me).task site.safety me⟩

end Site

-- Tasks in the order in which they take their steps, while nothing goes wrong.
def healthy (tasks : List TaskId) : List (TaskId × Env) := tasks.map fun i => (i,.healthy)

end ReactorOS
