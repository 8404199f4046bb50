import ReactorOS.Backends
import ReactorOS.DeviceEffects
import ReactorOS.TargetLimits
namespace ReactorOS
open Concurrency Journal Task Section

-- What the safety configuration lets the device be asked for.
structure InEnvelope (safety : SafetyConfig) (temperatureC stirrerRpm : ℚ) : Prop where
  temperature : safety.temperature.minC ≤ temperatureC ∧ temperatureC ≤ safety.temperature.maxC
  stirrer : safety.stirrer.minRpm ≤ stirrerRpm ∧ stirrerRpm ≤ safety.stirrer.maxRpm
  zone : isForbiddenControlZone safety temperatureC stirrerRpm = false

-- The pairs that the rounding to hundredths leaves between the limits, and those that it takes
-- into a zone.
structure RoundsInside (safety : SafetyConfig) (temperatureC stirrerRpm : ℚ) : Prop where
  temperature : RoundsFrom safety.temperature.minC temperatureC ∧ RoundsTo safety.temperature.maxC temperatureC
  stirrer : RoundsFrom safety.stirrer.minRpm stirrerRpm ∧ RoundsTo safety.stirrer.maxRpm stirrerRpm

structure RoundsInto (zone : ForbiddenControlZone) (temperatureC stirrerRpm : ℚ) : Prop where
  temperature : RoundsFrom zone.minTemperatureC temperatureC ∧ RoundsTo zone.maxTemperatureC temperatureC
  stirrer : RoundsFrom zone.minStirrerRpm stirrerRpm ∧ RoundsTo zone.maxStirrerRpm stirrerRpm

def RoundsClear (safety : SafetyConfig) (temperatureC stirrerRpm : ℚ) : Prop :=
  ∀ zone ∈ safety.forbiddenControlZones, ¬RoundsInto zone temperatureC stirrerRpm

variable {safety : SafetyConfig} {me : TaskId} {temperatureC stirrerRpm : ℚ}

-- What the checks of a configuration leave of the limits of one axis.
structure AxisLimits (lower upper maxStep : ℚ) : Prop where
  ordered : lower ≤ upper
  forward : 0 ≤ maxStep

theorem validateSafetyConfig_limits {safety : SafetyConfig} (accepted : validateSafetyConfig safety = .ok ()) :
    AxisLimits safety.temperature.minC safety.temperature.maxC safety.temperature.maxStepC ∧
      AxisLimits safety.stirrer.minRpm safety.stirrer.maxRpm safety.stirrer.maxStepRpm := by
  unfold validateSafetyConfig at accepted
  obtain ⟨_,_,accepted⟩ := Wire.bind_ok accepted
  obtain ⟨_,_,accepted⟩ := Wire.bind_ok accepted
  obtain ⟨_,_,accepted⟩ := Wire.bind_ok accepted
  obtain ⟨_,_,accepted⟩ := Wire.bind_ok accepted
  obtain ⟨_,_,accepted⟩ := Wire.bind_ok accepted
  obtain ⟨_,_,accepted⟩ := Wire.bind_ok accepted
  obtain ⟨_,temperature,accepted⟩ := Wire.bind_ok accepted
  obtain ⟨_,temperatureStep,accepted⟩ := Wire.bind_ok accepted
  obtain ⟨_,_,accepted⟩ := Wire.bind_ok accepted
  obtain ⟨_,stirrer,accepted⟩ := Wire.bind_ok accepted
  obtain ⟨_,stirrerStep,_⟩ := Wire.bind_ok accepted
  constructor
  · exact ⟨ensureOrdered_ok.mp temperature,ensureNonNegative_ok.mp temperatureStep⟩
  · exact ⟨ensureOrdered_ok.mp stirrer,ensureNonNegative_ok.mp stirrerStep⟩

theorem contains_iff {zone : ForbiddenControlZone} : zone.contains temperatureC stirrerRpm = true ↔
    (zone.minTemperatureC ≤ temperatureC ∧ temperatureC ≤ zone.maxTemperatureC) ∧
      zone.minStirrerRpm ≤ stirrerRpm ∧ stirrerRpm ≤ zone.maxStirrerRpm := by
  simp [ForbiddenControlZone.contains,and_assoc]

theorem roundsInto_iff {zone : ForbiddenControlZone} :
    RoundsInto zone temperatureC stirrerRpm ↔ zone.contains (round2 temperatureC) (round2 stirrerRpm) = true := by
  rw [contains_iff]
  simp only [le_round2,round2_le]
  constructor
  · intro into
    exact ⟨into.temperature,into.stirrer⟩
  · intro into
    exact ⟨into.1,into.2⟩

theorem roundsClear_iff : RoundsClear safety temperatureC stirrerRpm ↔
    isForbiddenControlZone safety (round2 temperatureC) (round2 stirrerRpm) = false := by
  unfold RoundsClear isForbiddenControlZone
  simp only [roundsInto_iff,List.any_eq_false]

-- A pair that is rounded before it is handed over.
theorem inEnvelope_round2 : InEnvelope safety (round2 temperatureC) (round2 stirrerRpm) ↔
    RoundsInside safety temperatureC stirrerRpm ∧ RoundsClear safety temperatureC stirrerRpm := by
  rw [roundsClear_iff]
  constructor
  · intro within
    refine ⟨⟨?_,?_⟩,within.zone⟩
    · exact ⟨le_round2.mp within.temperature.1,round2_le.mp within.temperature.2⟩
    · exact ⟨le_round2.mp within.stirrer.1,round2_le.mp within.stirrer.2⟩
  · intro within
    obtain ⟨inside,clear⟩ := within
    refine ⟨?_,?_,clear⟩
    · exact ⟨le_round2.mpr inside.temperature.1,round2_le.mpr inside.temperature.2⟩
    · exact ⟨le_round2.mpr inside.stirrer.1,round2_le.mpr inside.stirrer.2⟩

-- The rounding takes a number over an upper bound that it keeps to, and under a lower one.
def RoundsOver (bound value : ℚ) : Prop := value ≤ bound ∧ bound < round2 value

def RoundsUnder (bound value : ℚ) : Prop := bound ≤ value ∧ round2 value < bound

-- It takes a pair outside all zones into one.
def ForbiddenByRounding (safety : SafetyConfig) (temperatureC stirrerRpm : ℚ) : Prop :=
  isForbiddenControlZone safety temperatureC stirrerRpm = false ∧
    isForbiddenControlZone safety (round2 temperatureC) (round2 stirrerRpm) = true

theorem round2_le_iff {bound value : ℚ} (kept : value ≤ bound) : round2 value ≤ bound ↔ ¬RoundsOver bound value := by
  simp [RoundsOver,kept]

theorem le_round2_iff {bound value : ℚ} (kept : bound ≤ value) : bound ≤ round2 value ↔ ¬RoundsUnder bound value := by
  simp [RoundsUnder,kept]

theorem round2_clear_iff (clear : isForbiddenControlZone safety temperatureC stirrerRpm = false) :
    isForbiddenControlZone safety (round2 temperatureC) (round2 stirrerRpm) = false ↔
      ¬ForbiddenByRounding safety temperatureC stirrerRpm := by
  simp [ForbiddenByRounding,clear]

-- The lower limits, where nothing has looked at them.
structure MinimaReached (safety : SafetyConfig) (temperatureC stirrerRpm : ℚ) : Prop where
  temperature : safety.temperature.minC ≤ round2 temperatureC
  stirrer : safety.stirrer.minRpm ≤ round2 stirrerRpm

-- The lower and the upper limits of a pair that has been held to them before the rounding.
structure MinimaStand (safety : SafetyConfig) (temperatureC stirrerRpm : ℚ) : Prop where
  temperature : ¬RoundsUnder safety.temperature.minC temperatureC
  stirrer : ¬RoundsUnder safety.stirrer.minRpm stirrerRpm

structure MaximaStand (safety : SafetyConfig) (temperatureC stirrerRpm : ℚ) : Prop where
  temperature : ¬RoundsOver safety.temperature.maxC temperatureC
  stirrer : ¬RoundsOver safety.stirrer.maxRpm stirrerRpm

-- The checks of a target set look at the upper limits alone.
theorem inEnvelope_below (temperature : temperatureC ≤ safety.temperature.maxC) (stirrer : stirrerRpm ≤ safety.stirrer.maxRpm) :
    InEnvelope safety (round2 temperatureC) (round2 stirrerRpm) ↔ MinimaReached safety temperatureC stirrerRpm ∧
      MaximaStand safety temperatureC stirrerRpm ∧
        isForbiddenControlZone safety (round2 temperatureC) (round2 stirrerRpm) = false := by
  constructor
  · intro within
    exact ⟨⟨within.temperature.1,within.stirrer.1⟩,
      ⟨(round2_le_iff temperature).mp within.temperature.2,(round2_le_iff stirrer).mp within.stirrer.2⟩,within.zone⟩
  · intro allowed
    obtain ⟨minima,maxima,clear⟩ := allowed
    exact ⟨⟨minima.temperature,(round2_le_iff temperature).mpr maxima.temperature⟩,
      ⟨minima.stirrer,(round2_le_iff stirrer).mpr maxima.stirrer⟩,clear⟩

theorem inEnvelope_between (temperature : safety.temperature.minC ≤ temperatureC ∧ temperatureC ≤ safety.temperature.maxC)
    (stirrer : safety.stirrer.minRpm ≤ stirrerRpm ∧ stirrerRpm ≤ safety.stirrer.maxRpm) :
    InEnvelope safety (round2 temperatureC) (round2 stirrerRpm) ↔ MinimaStand safety temperatureC stirrerRpm ∧
      MaximaStand safety temperatureC stirrerRpm ∧
        isForbiddenControlZone safety (round2 temperatureC) (round2 stirrerRpm) = false := by
  have minima : MinimaReached safety temperatureC stirrerRpm ↔ MinimaStand safety temperatureC stirrerRpm := by
    constructor
    · intro reached
      exact ⟨(le_round2_iff temperature.1).mp reached.temperature,(le_round2_iff stirrer.1).mp reached.stirrer⟩
    · intro kept
      exact ⟨(le_round2_iff temperature.1).mpr kept.temperature,(le_round2_iff stirrer.1).mpr kept.stirrer⟩
  rw [inEnvelope_below temperature.2 stirrer.2,minima]

-- What a task hands to the device over its steps.
def Handed (me : TaskId) (moments : Moments) (P : Writer → SafeCommand → Prop) : Prop :=
  ∀ moment ∈ moments, ∀ writer command delivered,
    (me,.commanded writer (some command) delivered) ∈ moment.recorded → P writer command

def Strays (me : TaskId) (P : Writer → SafeCommand → Prop) (moment : Moment Env World) : Prop :=
  ∃ writer command delivered, (me,.commanded writer (some command) delivered) ∈ moment.recorded ∧ ¬P writer command

instance (me : TaskId) (P : Writer → SafeCommand → Prop) : Shows me (Strays me P) where
  tame
    | .commanded writer (some command) _ => P writer command
    | _ => True
  narrow := ⟨fun event plain _ => by
    cases event with
    | commanded writer command delivered => cases plain
    | _ => trivial⟩
  shown moment strays := by
    obtain ⟨writer,command,delivered,listed,wrong⟩ := strays
    exact ⟨_,listed,wrong⟩

theorem handed_iff {moments : Moments} {P : Writer → SafeCommand → Prop} :
    Handed me moments P ↔ ¬Effected (Strays me P) moments := by
  constructor
  · intro handed strayed
    obtain ⟨moment,member,writer,command,delivered,listed,wrong⟩ := strayed
    exact wrong (handed moment member writer command delivered listed)
  · intro never moment member writer command delivered listed
    by_contra wrong
    exact never ⟨moment,member,writer,command,delivered,listed,wrong⟩

theorem behaves_handed {ε α : Type} {may : Event → Bool} {t : Handler may me ε α} {P : Writer → SafeCommand → Prop}
    (clean : t.Clean (Strays me P)) : t.behaves fun moments _ => Handed me moments P := by
  apply behaves_mono _ clean
  intro moments result never
  exact handed_iff.mpr never

def SafeCommand.InEnvelope (command : SafeCommand) (safety : SafetyConfig) : Prop :=
  ReactorOS.InEnvelope safety command.targetTemperatureC command.targetStirrerRpm

-- A pair that was checked against the upper limits and the zones and then rounded, and one
-- that was held to the zones once it was rounded.
def CheckedAllowed (safety : SafetyConfig) (temperatureC stirrerRpm : ℚ) : Prop :=
  MinimaReached safety temperatureC stirrerRpm ∧ MaximaStand safety temperatureC stirrerRpm ∧
    ¬ForbiddenByRounding safety temperatureC stirrerRpm

def RoundedAllowed (safety : SafetyConfig) (temperatureC stirrerRpm : ℚ) : Prop :=
  MinimaReached safety temperatureC stirrerRpm ∧ MaximaStand safety temperatureC stirrerRpm

section Requested
variable {requested : ControlTargets} {reason : String} {heatMax holdMax : ℚ}

theorem checked_allowed (limits : WithinLimits safety heatMax holdMax requested)
    (clear : isForbiddenControlZone safety requested.temperatureC requested.stirrerRpm = false) :
    (safeCommandFromRuntimeTargets requested.round2 reason).InEnvelope safety ↔
      CheckedAllowed safety requested.temperatureC requested.stirrerRpm := by
  unfold CheckedAllowed
  rw [← round2_clear_iff clear]
  exact inEnvelope_below limits.temperature.2 limits.stirrer.2

theorem rounded_allowed (limits : WithinLimits safety heatMax holdMax requested)
    (clear : isForbiddenControlZone safety (round2 requested.temperatureC) (round2 requested.stirrerRpm) = false) :
    (safeCommandFromRuntimeTargets requested.round2 reason).InEnvelope safety ↔
      RoundedAllowed safety requested.temperatureC requested.stirrerRpm := by
  have below := @inEnvelope_below safety _ _ limits.temperature.2 limits.stirrer.2
  rw [and_iff_left clear] at below
  exact below

end Requested

-- A stop asks for the lower limits, and for nothing else about them.
def StopAllowed (safety : SafetyConfig) : Prop :=
  MinimaStand safety safety.temperature.minC safety.stirrer.minRpm ∧
    MaximaStand safety safety.temperature.minC safety.stirrer.minRpm ∧
      isForbiddenControlZone safety (round2 safety.temperature.minC) (round2 safety.stirrer.minRpm) = false

theorem stop_allowed (valid : validateSafetyConfig safety = .ok ()) {reason : String} :
    (safeCommandFromRuntimeTargets (processStopTargets safety) reason).InEnvelope safety ↔ StopAllowed safety := by
  obtain ⟨temperature,stirrer⟩ := validateSafetyConfig_limits valid
  have same : (safeCommandFromRuntimeTargets (processStopTargets safety) reason).InEnvelope safety ↔
      InEnvelope safety (round2 safety.temperature.minC) (round2 safety.stirrer.minRpm) := by
    unfold processStopTargets clampOperatorTargets SafeCommand.InEnvelope safeCommandFromRuntimeTargets
    rw [clamp_self le_rfl temperature.ordered,clamp_self le_rfl stirrer.ordered]
  rw [same]
  exact inEnvelope_between ⟨le_rfl,temperature.ordered⟩ ⟨le_rfl,stirrer.ordered⟩

-- What a start hands over: its own targets, and those of a stop where it is rolled back.
def Starts (safety : SafetyConfig) (allowed : Prop) : Writer → SafeCommand → Prop
  | .processStart,command => command.InEnvelope safety ↔ allowed
  | .processStop,command => command.InEnvelope safety ↔ StopAllowed safety
  | _,_ => False

theorem starts_tame (valid : validateSafetyConfig safety = .ok ()) {allowed : Prop} {targets : ControlTargets}
    (exact : ∀ reason, (safeCommandFromRuntimeTargets targets reason).InEnvelope safety ↔ allowed) :
    StartTame me (Strays me (Starts safety allowed)) safety targets where
  starts _ := exact _
  sets := trivial
  stop := ⟨fun _ => stop_allowed valid,trivial⟩

theorem behaves_seen {ε α : Type} {may : Event → Bool} {t : Handler may me ε α}
    {P : Moment Env World → Writer → SafeCommand → Prop}
    (never : t.behaves fun moments _ => ∀ look ∈ moments.head?, ¬Effected (Strays me (P look)) moments) :
    t.behaves fun moments _ => ∀ look ∈ moments.head?, Handed me moments (P look) := by
  apply behaves_mono _ never
  intro moments result strays look first
  exact handed_iff.mpr (strays look first)

section Handlers
variable (valid : validateSafetyConfig safety = .ok ())
include valid

theorem startBatch_handed (payload : StartBatchRequest) (actor : AuditActor) :
    (startBatch safety payload actor : Handler Event.work me AppError Batch).behaves fun moments _ =>
      ∀ look ∈ moments.head?, Handed me moments
        (Starts safety (CheckedAllowed safety (payload.requested look.before.state.runtime.targets).temperatureC
          (payload.requested look.before.state.runtime.targets).stirrerRpm)) := by
  apply behaves_seen
  apply startBatch_seen
  intro look found accepted
  obtain ⟨limits,clear,same⟩ := startBatchTargets_ok accepted
  rw [same]
  exact starts_tame valid fun _ => checked_allowed limits clear

theorem v1Control_handed (deviceId : String) (payload : V1ControlRequest) (actor : AuditActor) :
    (v1Control safety deviceId payload actor : Handler Event.work me AppError V1ControlResponse).behaves fun moments _ =>
      Handed me moments (Starts safety (CheckedAllowed safety payload.params.requested.temperatureC
        payload.params.requested.stirrerRpm)) := by
  apply behaves_handed
  apply clean_v1Control
  intro runningState targets accepted
  obtain ⟨limits,clear,same⟩ := validateV1ControlParams_ok accepted
  rw [same]
  exact starts_tame valid fun _ => checked_allowed limits clear

-- The pair of a process comes from its stored steps and is held to the zones once it is rounded.
def StartsProcess (safety : SafetyConfig) (look : Moment Env World) (writer : Writer) (command : SafeCommand) : Prop :=
  ∃ detail first rest, look.answer.process = some detail ∧ detail.steps = first :: rest ∧
    Starts safety (RoundedAllowed safety first.targetTemperatureC (rest.headD first).targetStirrerRpm) writer command

theorem startProcessLifecycle_handed (processId : Int) (eventType : String) (nameOverride : Option String) (actor : AuditActor) :
    (startProcessLifecycle safety processId eventType nameOverride actor :
      Handler Event.work me AppError ProcessApplyResponse).behaves fun moments _ =>
        ∀ look ∈ moments.head?, Handed me moments (StartsProcess safety look) := by
  apply behaves_seen
  apply startProcessLifecycle_seen
  intro look detail targets stored accepted
  obtain ⟨first,rest,steps,limits,same,clear⟩ := targetsFromProcessSteps_ok accepted
  have exact : ∀ reason, (safeCommandFromRuntimeTargets targets reason).InEnvelope safety ↔
      RoundedAllowed safety first.targetTemperatureC (rest.headD first).targetStirrerRpm := by
    intro reason
    subst same
    exact rounded_allowed limits clear
  have tame := @starts_tame safety me valid _ _ exact
  constructor
  · intro delivered
    exact ⟨detail,first,rest,stored,steps,tame.starts delivered⟩
  · trivial
  · exact ⟨fun delivered => ⟨detail,first,rest,stored,steps,tame.stop.stops delivered⟩,trivial⟩

end Handlers

-- A recommendation, as it is validated and applied.
def AppliesRecommendation (safety : SafetyConfig) (recommendation : Recommendation) (writer : Writer)
    (command : SafeCommand) : Prop :=
  writer = .aiTargets ∧ (command.InEnvelope safety ↔
    RoundedAllowed safety recommendation.targetTemperatureC recommendation.targetStirrerRpm)

theorem applyAiTargets_handed (runtime : RuntimeState) (recommendation : Recommendation) (reason : String)
    (actor : AuditActor) : (do
      let targets ← Task.ofExcept (aiTargetsFromRecommendation safety runtime recommendation)
      applyAiTargets safety targets reason actor : Handler Event.work me AppError Unit).behaves fun moments _ =>
        Handed me moments (AppliesRecommendation safety recommendation) := by
  apply behaves_handed
  refine clean_accepted fun targets accepted => ?_
  obtain ⟨limits,same⟩ := aiTargetsFromRecommendation_ok.mp accepted
  subst same
  refine clean_applyAiTargets _ reason actor ?_ trivial
  intro allowed delivered
  have clear := ensureTargetsAllowed_ok.mp allowed
  simp only [ControlTargets.round2] at clear
  have within := @rounded_allowed safety _ reason _ _ limits clear
  exact ⟨rfl,within⟩

end ReactorOS
