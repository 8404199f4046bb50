import ReactorOS.Concurrency.Protocol
import ReactorOS.Db
namespace ReactorOS
open Concurrency Journal

-- `anyhow` keeps a message and the chain of its causes.
structure Failure where
  message : String
  causes : List String
  deriving DecidableEq

def Failure.alternate (error : Failure) : String := ": ".intercalate (error.message :: error.causes)

structure AppError where
  status : Nat
  message : String
  deriving DecidableEq

namespace AppError
def withMessagePrefix (error : AppError) (label : String) : AppError :=
  {error with message := s!"{label}: {error.message}"}
def forbidden (message : String) : AppError := ⟨403,message⟩
def badRequest (message : String) : AppError := ⟨400,message⟩
def notFound (message : String) : AppError := ⟨404,message⟩
def conflict (message : String) : AppError := ⟨409,message⟩
def serviceUnavailable (message : String) : AppError := ⟨503,message⟩
def internal (_ : Failure) : AppError := ⟨500,"internal server error"⟩
def isServerError (error : AppError) : Bool := 500 ≤ error.status && error.status < 600
end AppError

-- The two things every handler shares: the runtime behind its lock and the database.
structure Plant where
  runtime : RuntimeState
  db : Db

structure SafetyLatchGenerations where
  manualLock : Generation
  emergencyStop : Generation
  controlFault : Generation
  deriving DecidableEq

namespace SafetyLatchGenerations

def fromRuntime (runtime : RuntimeState) : SafetyLatchGenerations :=
  ⟨runtime.manualLockGeneration,runtime.emergencyStopGeneration,runtime.controlFaultGeneration⟩

def changedSince (latches : SafetyLatchGenerations) (runtime : RuntimeState) : Bool :=
  latches.manualLock != runtime.manualLockGeneration ||
  latches.emergencyStop != runtime.emergencyStopGeneration ||
  latches.controlFault != runtime.controlFaultGeneration

end SafetyLatchGenerations

structure SafeCommandFingerprint where
  targetTemperatureC : Int
  heatTimeS : Int
  holdTimeS : Int
  coolTimeS : Int
  targetStirrerRpm : Int
  targetShakeSpeedCpm : Int
  targetPressureMpa : Int
  deriving DecidableEq

def SafeCommand.fingerprint (command : SafeCommand) : SafeCommandFingerprint where
  targetTemperatureC := scaled command.targetTemperatureC
  heatTimeS := scaled command.heatTimeS
  holdTimeS := scaled command.holdTimeS
  coolTimeS := scaled command.coolTimeS
  targetStirrerRpm := scaled command.targetStirrerRpm
  targetShakeSpeedCpm := scaled command.targetShakeSpeedCpm
  targetPressureMpa := scaled command.targetPressureMpa

-- A write to the runtime state.
inductive Change where
  | engaged (latch : Latch) (reason : String)
  | controlLoopTerminated (reason : String)
  | cleared (latch : Latch)
  | autoDisabled
  | autoEnabled
  | targetsSet (targets : ControlTargets)
  | activeBatchSet (batch : Option Int)
  | sampleAccepted (sample : SensorSnapshot)
  | sampleDropped
  | deviceStatusSet (status : Option DeviceStatusSnapshot)
  | fieldFaultRecorded (reason : String)
  deriving DecidableEq

def Change.apply : Change → RuntimeState → RuntimeState
  | .engaged .manualLock _,state => state.engageManualLock
  | .engaged .emergencyStop _,state => state.engageEmergencyStop
  | .engaged .controlFault reason,state => state.latchControlFault reason
  | .controlLoopTerminated reason,state => {state with controlLoopTerminated := true}.latchControlFault reason
  | .cleared .manualLock,state => state.clearManualLock
  | .cleared .emergencyStop,state => state.clearEmergencyStop
  | .cleared .controlFault,state => state.clearControlFault
  | .autoDisabled,state => {state with autoEnabled := false}
  | .autoEnabled,state => {state with autoEnabled := true}
  | .targetsSet targets,state => {state with targets := targets}
  | .activeBatchSet batch,state => {state with activeBatchId := batch}
  | .sampleAccepted sample,state => {state with latestSample := some sample,lastSensorError := none}
  | .sampleDropped,state => {state with latestSample := none}
  | .deviceStatusSet status,state => {state with deviceStatus := status}
  | .fieldFaultRecorded reason,state => state.disableAutoForFieldFault reason

structure Recommendation where
  targetTemperatureC : ℚ
  targetStirrerRpm : ℚ
  heatingMinutes : ℚ
  stirringMinutes : ℚ
  deriving DecidableEq

-- A statement that changed the database. The table of recommendations itself is read
-- through what the environment has stored, so only the audit row of an insert shows here.
inductive Write where
  | batchInserted (batch : Batch)
  | batchFinished (batchId : Int) (now : Instant)
  | controlEventInserted (event : ControlEvent)
  | recommendationInserted (recommendation : Recommendation) (event : ControlEvent)
  | taskInserted (task : IntegrationTask)
  | taskMarkedExecuting (id : Int) (message : String)
  | taskUpdated (id : Int) (status : TaskStatus) (response : TaskResponse)
  deriving DecidableEq

def Write.apply : Write → Db → Db
  | .batchInserted batch,db => db.insertBatch batch
  | .batchFinished batchId now,db => db.finishBatch batchId now
  | .controlEventInserted event,db => db.insertControlEvent event
  | .recommendationInserted _ event,db => db.insertControlEvent event
  | .taskInserted task,db => db.insertIntegrationTask task
  | .taskMarkedExecuting id message,db => db.updateIntegrationTask id .executing (.executing message)
  | .taskUpdated id status response,db => db.updateIntegrationTask id status response

inductive Writer where
  | controlLoop | processStart | processStop | emergencyStop | aiTargets | component
  deriving DecidableEq, Repr

inductive CommitPath where
  | activation (batch : Int) | targets | componentTargets | autoEnable
  deriving DecidableEq

-- What a task has come to know or to decide. Notes change nothing; they say in the
-- record where in its code the task is.
inductive Note where
  | latchesAcknowledged (latches : SafetyLatchGenerations)
  | unlockAcknowledged (latches : SafetyLatchGenerations)
  | latchesRechecked
  | unfinishedRead (ids : List Int)
  | commit (path : CommitPath) (latches : Option SafetyLatchGenerations) (accepted : Bool)
  | resetAcknowledged (latch : Latch) (generation : Generation)
  | resetChecked (latch : Latch) (now : Instant)
  | interlockPassed
  | batchSeen (batch : Int) (active : Option Int)
  | commandRemembered (fingerprint : SafeCommandFingerprint)
  | commandSkipped (fingerprint : SafeCommandFingerprint)
  | taskClaimed (task : Int) (found : TaskStatus)
  | actionStarted (task : Int)
  | sampleCaptured (sample : SensorSnapshot)
  deriving DecidableEq

-- `commanded` is a device write that has returned; a write of a single component may
-- have no target set behind it.
inductive Event where
  | runtime (change : Change)
  | store (write : Write)
  | commanded (writer : Writer) (command : Option SafeCommand) (delivered : Bool)
  | note (note : Note)
  deriving DecidableEq

instance : Effect Event Plant where
  apply
    | .runtime change,plant => {plant with runtime := change.apply plant.runtime}
    | .store write,plant => {plant with db := write.apply plant.db}
    | .commanded _ _ _,plant => plant
    | .note _,plant => plant

@[simp] theorem apply_runtime (change : Change) (plant : Plant) :
    Effect.apply (Event.runtime change) plant = {plant with runtime := change.apply plant.runtime} := rfl

@[simp] theorem apply_store (write : Write) (plant : Plant) :
    Effect.apply (Event.store write) plant = {plant with db := write.apply plant.db} := rfl

@[simp] theorem apply_commanded (writer : Writer) (command : Option SafeCommand) (delivered : Bool)
    (plant : Plant) : Effect.apply (Event.commanded writer command delivered) plant = plant := rfl

@[simp] theorem apply_note (note : Note) (plant : Plant) : Effect.apply (Event.note note) plant = plant := rfl

-- A statement can also fail after it took effect, when its answer is lost.
inductive DbAnswer where
  | done
  | failed (error : Failure)
  | lost (error : Failure)

inductive AckStatus where
  | confirmed
  | rejected (detail : String)
  | timeout
  | unverified
  deriving DecidableEq

structure ComponentControlOutcome where
  componentId : String
  action : String
  targets : Option SafeCommand
  message : String

-- What a new recommendation is made from: the outcomes on record, what the optimizer
-- makes of them, and the answer of the provider where one is configured.
structure RecommendationSources where
  outcomes : Nat := 0
  optimized : Option Recommendation := none
  provider : Option (Except Failure Recommendation) := none

-- What everything outside the model answers in one atomic step: the clock, the
-- database, the device, the safety guard process and the tables that other requests edit.
structure Env where
  now : Instant := 0
  db : DbAnswer := .done
  device : Except Failure Unit := .ok ()
  deviceInTime : Bool := true
  ack : Except Failure AckStatus := .ok .confirmed
  component : Except Failure (Option ComponentControlOutcome) := .ok none
  reading : Except Failure (SensorSnapshot × Option DeviceStatusSnapshot) := .error ⟨"no reading",[]⟩
  deviceStatus : Except Failure (Option DeviceStatusSnapshot) := .ok none
  guard : Option ControlDecision := none
  guardJoined : Bool := true
  process : Option ProcessDetail := none
  appliedProcess : Option ProcessDefinition := none
  storedRecommendation : Option Recommendation := none
  sources : RecommendationSources := {}
  selectedProcess : Except AppError (Option ProcessDefinition) := .ok none
  sine : ℚ := 0
  published : Except Failure Unit := .ok ()

-- An environment in which nothing is wrong.
def Env.healthy : Env where
  reading := .ok ({
    temperatureC := 60
    pressureMpa := 1/2
    stirrerRpm := 300
    shakeSpeedCpm := 30
    tiltState := 0
    tiltAngleDeg := 0
    flowRateLMin := 0
    productConcentrationPercent := 0
    ph := 7
    capturedAt := 0 },some {
    connected := true
    lastSeenAt := some 0
    lastFrameOk := true
    motor := none
    lastCommandRequestId := none
    lastCommandOk := none
    lastCommandError := none })

abbrev TaskId := Nat
abbrev World := Journal TaskId Event Plant

-- Code under the runtime lock, and code between whose steps others run.
abbrev Critical (may : Event → Bool) (me : TaskId) (ε α : Type) := Locked Env Plant may me ε α
abbrev Handler (may : Event → Bool) (me : TaskId) (ε α : Type) := Async Env Plant may me ε α

-- What a piece of code may cause at most. `quiet` code only raises alarms, closes batch
-- records, files recommendations and writes audit rows.
@[reducible] def Event.quiet : Event → Bool
  | .runtime (.engaged .controlFault _) => true
  | .store (.batchFinished _ _) => true
  | .store (.controlEventInserted _) => true
  | .store (.recommendationInserted _ _) => true
  | _ => false

@[reducible] def Event.field : Event → Bool
  | .runtime (.engaged _ _) => true
  | .runtime (.controlLoopTerminated _) => true
  | .runtime .autoDisabled => true
  | .runtime (.sampleAccepted _) => true
  | .runtime .sampleDropped => true
  | .runtime (.deviceStatusSet _) => true
  | .runtime (.fieldFaultRecorded _) => true
  | .note (.sampleCaptured _) => true
  | event => event.quiet

@[reducible] def Event.resetting (latch : Latch) : Event → Bool
  | .runtime (.cleared other) => other = latch
  | _ => true

@[reducible] def Event.work : Event → Bool
  | .runtime (.cleared _) => false
  | _ => true

class Within (may : semiOutParam (Event → Bool)) (may' : Event → Bool) : Prop where
  wider : ∀ event, may event = true → may' event = true

instance : Within Event.quiet Event.field := ⟨by
  intro event quiet
  rcases event with change | write | _ | _
  · rcases change with ⟨latch,_⟩ | _ | _ | _ | _ | _ | _ | _ | _ | _ | _ <;> simp_all [Event.quiet,Event.field]
  · exact quiet
  · exact quiet
  · cases quiet⟩

instance : Within Event.quiet Event.work := ⟨by
  intro event quiet
  rcases event with change | write | _ | _
  · cases change <;> simp_all [Event.quiet,Event.work]
  · rfl
  · rfl
  · rfl⟩

instance : Within Event.field Event.work := ⟨by
  intro event field
  rcases event with change | write | _ | _
  · cases change <;> simp_all [Event.quiet,Event.field,Event.work]
  · rfl
  · rfl
  · rfl⟩

instance (latch : Latch) : Within Event.work (Event.resetting latch) := ⟨by
  intro event work
  rcases event with change | write | _ | _
  · cases change <;> simp_all [Event.work,Event.resetting]
  · rfl
  · rfl
  · rfl⟩

instance (latch : Latch) : Within Event.quiet (Event.resetting latch) :=
  ⟨fun event quiet => have work : event.work = true := Within.wider event quiet; Within.wider event work⟩

instance (latch : Latch) : Within Event.field (Event.resetting latch) :=
  ⟨fun event field => have work : event.work = true := Within.wider event field; Within.wider event work⟩

section Code
variable {may may' : Event → Bool} {me : TaskId} {ε : Type} {α : Type}

def within [Within may may'] (t : Handler may me ε α) : Handler may' me ε α :=
  t.relax (emits_wider Within.wider)

def record (event : Event) (allowed : may event = true) : Critical may me ε Unit :=
  .update (fun _ w => w.emit me event) fun _ _ => ⟨[(me,event)],by simp [allowed],rfl⟩

def note (note : Note) (allowed : may (.note note) = true := by exact @rfl Bool true) : Critical may me ε Unit :=
  record (.note note) allowed

def change (change : Change) (allowed : may (.runtime change) = true := by exact @rfl Bool true) : Critical may me ε Unit :=
  record (.runtime change) allowed

def runtimeState : Critical may me ε RuntimeState := .inspect fun _ w => .ok w.state.runtime

def utcNow : Critical may me ε Instant := .inspect fun env _ => .ok env.now

def database : Critical may me ε Db := .inspect fun _ w => .ok w.state.db

def answer : Critical may me ε Env := .inspect fun env _ => .ok env

-- Holding the lock is one atomic step.
def locked (s : Critical may me ε α) : Handler may me ε α := .ofSection s

def query (look : Env → Db → α) : Critical may me Failure α :=
  .inspect fun env w => match env.db with
    | .done => .ok (look env w.state.db)
    | .failed error => .error error
    | .lost error => .error error

def statement (write : Write) (allowed : may (.store write) = true) : Critical may me Failure Unit := do
  match (← answer).db with
  | .done => record (.store write) allowed
  | .failed error => throw error
  | .lost error =>
      record (.store write) allowed
      throw error

@[simp] theorem run_record (event : Event) (allowed : may event = true) (e : Env) (w : World) :
    (record event allowed : Critical may me ε Unit).run e w = (.ok (),w.emit me event) := rfl

@[simp] theorem run_note (note : Note) (allowed : may (.note note) = true) (e : Env) (w : World) :
    (ReactorOS.note note allowed : Critical may me ε Unit).run e w = (.ok (),w.emit me (.note note)) := rfl

@[simp] theorem run_change (change : Change) (allowed : may (.runtime change) = true) (e : Env) (w : World) :
    (ReactorOS.change change allowed : Critical may me ε Unit).run e w = (.ok (),w.emit me (.runtime change)) := rfl

@[simp] theorem run_runtimeState (e : Env) (w : World) :
    (runtimeState : Critical may me ε RuntimeState).run e w = (.ok w.state.runtime,w) := rfl

@[simp] theorem run_utcNow (e : Env) (w : World) : (utcNow : Critical may me ε Instant).run e w = (.ok e.now,w) := rfl

@[simp] theorem run_database (e : Env) (w : World) :
    (database : Critical may me ε Db).run e w = (.ok w.state.db,w) := rfl

@[simp] theorem run_answer (e : Env) (w : World) : (answer : Critical may me ε Env).run e w = (.ok e,w) := rfl

end Code
end ReactorOS
