import ReactorOS.Interlock
namespace ReactorOS
open Concurrency Journal Protocol

-- How far a task has come, read off its own events.
structure Progress where
  acknowledged : Option SafetyLatchGenerations := none
  unlocking : Option SafetyLatchGenerations := none
  rechecked : Bool := false
  resetting : Option (Latch × Generation) := none
  cleared : List Latch := []
  unfinished : Option (List Int) := none
  armed : Bool := false
  delivered : Option SafeCommandFingerprint := none
  remembered : Option SafeCommandFingerprint := none
  looked : Option (Int × Option Int) := none
  marked : Option Int := none
  claimed : Option (Int × TaskStatus) := none
  running : Option Int := none
  deriving DecidableEq

namespace Progress

def afterNote (p : Progress) : Note → Progress
  | .latchesAcknowledged latches => {p with acknowledged := some latches}
  | .unlockAcknowledged latches => {p with unlocking := some latches}
  | .latchesRechecked => {p with rechecked := true}
  | .unfinishedRead ids => {p with unfinished := some ids}
  | .commit _ _ _ => p
  | .resetAcknowledged latch generation => {p with resetting := some (latch,generation)}
  | .resetChecked _ _ => p
  | .interlockPassed => {p with armed := true}
  | .batchSeen batch active => {p with looked := some (batch,active)}
  | .commandRemembered fingerprint => {p with remembered := some fingerprint}
  | .commandSkipped _ => p
  | .taskClaimed id found => {p with claimed := some (id,found),marked := none}
  | .actionStarted id => {p with running := some id,claimed := none}
  | .sampleCaptured _ => p

def after : Event → Progress → Progress
  | .note note,p => p.afterNote note
  | .runtime (.cleared latch),p => {p with cleared := latch :: p.cleared}
  | .runtime _,p => p
  | .store (.taskMarkedExecuting id _),p => {p with marked := some id}
  | .store (.taskUpdated _ _ _),p => {p with running := none}
  | .store _,p => p
  | .commanded _ command delivered,p => {p with
      armed := false
      delivered := if delivered then command.map (·.fingerprint) else none
      remembered := none }

section After
variable (event : Event) (p : Progress)

theorem acknowledged_after : (after event p).acknowledged = match event with
    | .note (.latchesAcknowledged latches) => some latches
    | _ => p.acknowledged := by
  cases event with
  | runtime change => cases change <;> rfl
  | store write => cases write <;> rfl
  | commanded writer command delivered => rfl
  | note note => cases note <;> rfl

theorem unlocking_after : (after event p).unlocking = match event with
    | .note (.unlockAcknowledged latches) => some latches
    | _ => p.unlocking := by
  cases event with
  | runtime change => cases change <;> rfl
  | store write => cases write <;> rfl
  | commanded writer command delivered => rfl
  | note note => cases note <;> rfl

theorem rechecked_after : (after event p).rechecked = match event with
    | .note .latchesRechecked => true
    | _ => p.rechecked := by
  cases event with
  | runtime change => cases change <;> rfl
  | store write => cases write <;> rfl
  | commanded writer command delivered => rfl
  | note note => cases note <;> rfl

theorem resetting_after : (after event p).resetting = match event with
    | .note (.resetAcknowledged latch generation) => some (latch,generation)
    | _ => p.resetting := by
  cases event with
  | runtime change => cases change <;> rfl
  | store write => cases write <;> rfl
  | commanded writer command delivered => rfl
  | note note => cases note <;> rfl

theorem cleared_after : (after event p).cleared = match event with
    | .runtime (.cleared latch) => latch :: p.cleared
    | _ => p.cleared := by
  cases event with
  | runtime change => cases change <;> rfl
  | store write => cases write <;> rfl
  | commanded writer command delivered => rfl
  | note note => cases note <;> rfl

theorem armed_after : (after event p).armed = match event with
    | .note .interlockPassed => true
    | .commanded _ _ _ => false
    | _ => p.armed := by
  cases event with
  | runtime change => cases change <;> rfl
  | store write => cases write <;> rfl
  | commanded writer command delivered => rfl
  | note note => cases note <;> rfl

theorem delivered_after : (after event p).delivered = match event with
    | .commanded _ command delivered => if delivered then command.map (·.fingerprint) else none
    | _ => p.delivered := by
  cases event with
  | runtime change => cases change <;> rfl
  | store write => cases write <;> rfl
  | commanded writer command delivered => rfl
  | note note => cases note <;> rfl

theorem remembered_after : (after event p).remembered = match event with
    | .commanded _ _ _ => none
    | .note (.commandRemembered fingerprint) => some fingerprint
    | _ => p.remembered := by
  cases event with
  | runtime change => cases change <;> rfl
  | store write => cases write <;> rfl
  | commanded writer command delivered => rfl
  | note note => cases note <;> rfl

end After

-- The request has seen no batch but its own in the device.
def Undisturbed (p : Progress) : Prop :=
  ∀ batch seen, p.looked = some (batch,seen) → seen = none ∨ seen = some batch

end Progress

-- A command to the device, or a change of the targets, of automatic control or of the
-- active batch; latching a control fault is not one.
def Event.intrusive : Event → Bool
  | .commanded _ _ _ => true
  | .runtime (.engaged .controlFault _) => false
  | .runtime (.sampleAccepted _) => false
  | .runtime .sampleDropped => false
  | .runtime (.deviceStatusSet _) => false
  | .runtime _ => true
  | .store _ => false
  | .note _ => false

-- When an event may be recorded: in terms of the state just before it and of what
-- the task itself has done before.
def allowedNote (plant : Plant) (p : Progress) : Note → Prop
  | .latchesAcknowledged latches => latches = .fromRuntime plant.runtime
  | .unlockAcknowledged latches => latches = .fromRuntime plant.runtime ∧ p.unlocking = none
  | .latchesRechecked => ∃ latches, p.unlocking = some latches ∧ latches.changedSince plant.runtime = false
  | .unfinishedRead ids => ids = (plant.db.unfinishedBatches 100).map (·.id)
  | .commit path latches accepted => ∃ acknowledged, latches = some acknowledged ∧
      p.acknowledged = some acknowledged ∧
      (accepted = true → acknowledged.changedSince plant.runtime = false ∧
        ∀ batch, path = .activation batch → plant.runtime.activeBatchId = some batch ∧
          ∃ ids, p.unfinished = some ids ∧ batch ∈ ids ∧ ∀ id ∈ ids, id = batch)
  | .resetAcknowledged latch generation => p.resetting = none ∧ generation = plant.runtime.generation latch ∧
      plant.runtime.latched latch = true ∧
      (latch = .controlFault → plant.runtime.controlLoopTerminated = false)
  | .resetChecked _ _ => True
  | .interlockPassed => plant.runtime.emergencyStop = false
  | .batchSeen _ active => active = plant.runtime.activeBatchId
  | .commandRemembered fingerprint => p.delivered = some fingerprint
  | .commandSkipped fingerprint => p.remembered = some fingerprint
  | .taskClaimed id found => if found = .received then p.marked = some id
      else ∃ task, plant.db.integrationTask id = some task ∧ task.status = found
  | .actionStarted id => ∃ found, p.claimed = some (id,found) ∧ (found = .received ∨ found = .executing)
  | .sampleCaptured _ => True

def allowedWrite (plant : Plant) (p : Progress) : Write → Prop
  | .batchInserted batch => batch.id = plant.db.nextBatchId ∧ batch.finishedAt = none
  | .batchFinished _ _ => True
  | .controlEventInserted _ => True
  | .recommendationInserted _ _ => True
  | .taskInserted task => task.id = plant.db.nextTaskId ∧ task.status = .received ∧
      ∀ external, task.externalTaskId = some external →
        plant.db.integrationTaskByExternalId task.source external = none
  | .taskMarkedExecuting id _ => ∃ task, plant.db.integrationTask id = some task ∧ task.status = .received
  | .taskUpdated id status _ => status.terminal = true ∧ p.running = some id

def allowedChange (plant : Plant) (p : Progress) : Change → Prop
  | .autoEnabled => plant.runtime.emergencyStop = false ∧ plant.runtime.manualLock = false ∧
      plant.runtime.lastControlError = none ∧ plant.runtime.lastSensorError = none
  | .cleared .manualLock => p.rechecked = true
  | .cleared latch => p.resetting = some (latch,plant.runtime.generation latch)
  | .activeBatchSet (some batch) => ∃ seen, p.looked = some (batch,seen)
  | _ => True

def allowed (plant : Plant) (p : Progress) : Event → Prop
  | .note note => allowedNote plant p note
  | .store write => allowedWrite plant p write
  | .runtime change => allowedChange plant p change
  | .commanded .controlLoop _ _ => p.armed = true
  | .commanded .processStart _ _ => p.armed = true
  | .commanded _ _ _ => True

-- What a clearing step looks like as a whole.
def ResetStep (safety : SafetyConfig) (now : Instant) (plant : Plant) (latch : Latch) (new : List Event) : Prop :=
  plant.runtime.activeBatchId = none ∧ ensureFreshSample safety now plant.runtime = .ok () ∧
    (new = [.runtime (.cleared latch),.note (.resetChecked latch now)] ∨
     new = [.runtime (.cleared latch),.note (.resetChecked latch now),.runtime .autoDisabled])

-- What one atomic step may record.
structure Permitted (safety : SafetyConfig) (now : Instant) (plant : Plant) (p : Progress) (new : List Event) : Prop where
  events : Each Progress.after allowed plant p new
  resets : ∀ latch, .runtime (.cleared latch) ∈ new → latch ≠ .manualLock → ResetStep safety now plant latch new
  refusals : ∀ path latches, .note (.commit path latches false) ∈ new →
    ∀ event ∈ new, event = .runtime .autoDisabled ∨ event = .note (.commit path latches false)
  isolation : (∃ event ∈ new, event.intrusive = true) → (new.foldr Progress.after p).Undisturbed ∨
    ∃ reason, .runtime (.engaged .controlFault reason) ∈ new

def rules (safety : SafetyConfig) : Protocol Env Event Plant Progress where
  start := {}
  after := Progress.after
  permits env := Permitted safety env.now

-- Events of no special standing: neither a reset nor a refused commit.
def Event.ordinary : Event → Bool
  | .runtime (.cleared _) => false
  | .note (.commit _ _ false) => false
  | _ => true

-- Without a reset and without a refused commit only the isolation of batches is left.
theorem Permitted.ordinary {safety : SafetyConfig} {now : Instant} {plant : Plant} {p : Progress} {new : List Event}
    (events : Each Progress.after allowed plant p new) (plain : ∀ event ∈ new, event.ordinary = true)
    (isolation : (∃ event ∈ new, event.intrusive = true) → (new.foldr Progress.after p).Undisturbed ∨
      ∃ reason, .runtime (.engaged .controlFault reason) ∈ new) : Permitted safety now plant p new where
  events := events
  resets latch member := by
    have ordinary := plain _ member
    simp [Event.ordinary] at ordinary
  refusals path latches member := by
    have ordinary := plain _ member
    simp [Event.ordinary] at ordinary
  isolation := isolation

theorem Permitted.plain {safety : SafetyConfig} {now : Instant} {plant : Plant} {p : Progress} {new : List Event}
    (events : Each Progress.after allowed plant p new) (plain : ∀ event ∈ new, event.ordinary = true)
    (calm : (new.foldr Progress.after p).Undisturbed) : Permitted safety now plant p new :=
  .ordinary events plain fun _ => .inl calm

theorem Permitted.unintrusive {safety : SafetyConfig} {now : Instant} {plant : Plant} {p : Progress} {new : List Event}
    (events : Each Progress.after allowed plant p new) (plain : ∀ event ∈ new, event.ordinary = true)
    (quiet : ∀ event ∈ new, event.intrusive = false) : Permitted safety now plant p new :=
  .ordinary events plain fun ⟨event,member,intrusive⟩ => by simp [quiet event member] at intrusive

theorem permitted_nil {safety : SafetyConfig} {now : Instant} {plant : Plant} {p : Progress} : Permitted safety now plant p [] where
  events := trivial
  resets := by simp
  refusals := by simp
  isolation := by simp

-- Quiet and field events lead nowhere and are allowed everywhere.
theorem field_event {event : Event} (field : event.field = true) (plant : Plant) (p : Progress) :
    Progress.after event p = p ∧ allowed plant p event ∧ event.ordinary = true := by
  rcases event with change | write | ⟨_,_,_⟩ | note
  · cases change <;> simp_all [Event.field,Event.quiet,Progress.after,allowed,allowedChange,Event.ordinary]
  · cases write <;> simp_all [Event.field,Event.quiet,Progress.after,allowed,allowedWrite,Event.ordinary]
  · simp [Event.field,Event.quiet] at field
  · cases note <;> simp_all [Event.field,Event.quiet,Progress.after,Progress.afterNote,allowed,allowedNote,Event.ordinary]

theorem field_events {new : List Event} (field : ∀ event ∈ new, event.field = true) (plant : Plant) (p : Progress) :
    new.foldr Progress.after p = p ∧ Each Progress.after allowed plant p new ∧ ∀ event ∈ new, event.ordinary = true := by
  induction new with
  | nil => exact ⟨rfl,trivial,by simp⟩
  | cons event new ih =>
      obtain ⟨stays,permitted,ordinary⟩ := ih fun other member => field other (by simp [member])
      have one := field_event (field event (by simp))
      refine ⟨?_,⟨permitted,(one _ _).2.1⟩,?_⟩
      · rw [List.foldr_cons,stays]; exact (one plant p).1
      · simpa [(one plant p).2.2] using ordinary

theorem quiet_unintrusive {event : Event} (quiet : event.quiet = true) : event.intrusive = false := by
  rcases event with change | write | ⟨_,_,_⟩ | note
  · cases change with
    | engaged latch reason => cases latch <;> simp_all [Event.quiet,Event.intrusive]
    | _ => simp [Event.quiet] at quiet
  · rfl
  · simp [Event.quiet] at quiet
  · rfl

theorem quiet_steady {safety : SafetyConfig} {p : Progress} : (rules safety).Steady Event.quiet p := by
  intro new quiet
  have field : ∀ event ∈ new, event.field = true := fun event member => Within.wider event (quiet event member)
  refine ⟨(field_events field ⟨.fromSafety safety,.empty⟩ p).1,fun env plant => ?_⟩
  obtain ⟨stays,permitted,ordinary⟩ := field_events field plant p
  exact .unintrusive permitted ordinary fun event member => quiet_unintrusive (quiet event member)

theorem field_steady {safety : SafetyConfig} {p : Progress} (calm : p.Undisturbed) :
    (rules safety).Steady Event.field p := by
  intro new field
  refine ⟨(field_events field ⟨.fromSafety safety,.empty⟩ p).1,fun env plant => ?_⟩
  obtain ⟨stays,permitted,ordinary⟩ := field_events field plant p
  exact .plain permitted ordinary (by rw [stays]; exact calm)

end ReactorOS
