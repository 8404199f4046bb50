import ReactorOS.Chance.Guarded
import ReactorOS.Ingestion
import ReactorOS.Wire.Fields
namespace ReactorOS
open Chance Wire

def defaultBaseTemperatureC : ℚ := 45
def defaultBasePressureMpa : ℚ := 3/10
def defaultBaseStirrerRpm : ℚ := 300
def defaultBaseShakeSpeedCpm : ℚ := 25
def defaultBaseFlowRate : ℚ := 5/2
def defaultBaseConcentration : ℚ := 35
def defaultBasePh : ℚ := 7

inductive Scenario where
  | normal | slowRise | slowFall | suddenSpike | outOfRange | frozenValue | sensorDisconnect | noisySignal
  | intermittentData | recovery
  deriving DecidableEq

def Scenario.name : Scenario → String
  | .normal => "normal"
  | .slowRise => "slow_rise"
  | .slowFall => "slow_fall"
  | .suddenSpike => "sudden_spike"
  | .outOfRange => "out_of_range"
  | .frozenValue => "frozen_value"
  | .sensorDisconnect => "sensor_disconnect"
  | .noisySignal => "noisy_signal"
  | .intermittentData => "intermittent_data"
  | .recovery => "recovery"

def availableScenarios : List Scenario :=
  [.normal,.slowRise,.slowFall,.suddenSpike,.outOfRange,.frozenValue,.sensorDisconnect,.noisySignal,.intermittentData,
    .recovery]

def scenarioOf (name : String) : Option Scenario := availableScenarios.find? fun scenario => scenario.name = name

def validateScenarioName (name : String) : Except String Unit :=
  let valid := ", ".intercalate (availableScenarios.map Scenario.name)
  if (scenarioOf name).isSome then .ok ()
  else .error s!"unknown scenario '{name}'; valid scenarios: {valid}"

-- The sign of a zero counts for the period alone, which is divided by.
structure ScenarioParameters where
  startValue : Option ℚ
  targetValue : Option ℚ
  noise : Option ℚ
  periodSeconds : Option Double

-- `as u64` of a double.
def asU64 (value : ℚ) : Nat := min ⌊value⌋.toNat (2^64-1)

-- `now` is what the clock says and `sine` what the math library returns for |sin| of the
-- phase, by shake speed.
structure ScenarioContext where
  tick : Nat
  elapsedMs : Nat
  parameters : ScenarioParameters
  now : Instant
  sine : ℚ → ℚ

namespace ScenarioContext
variable (ctx : ScenarioContext)

def elapsedSeconds : ℚ := ctx.elapsedMs/1000

def noise : ℚ := max (ctx.parameters.noise.getD (1/2)) 0

end ScenarioContext

def jitter (amplitude : ℚ) : Guarded ℚ := if amplitude ≤ 0 then return 0 else genRangeTo (-amplitude) amplitude

section Samples
variable (ctx : ScenarioContext)

def makeSample (temperatureC pressureMpa stirrerRpm shakeSpeedCpm : ℚ) (tiltState : Nat)
    (flowRateLMin productConcentrationPercent ph : ℚ) : SensorSnapshot where
  temperatureC := round2 temperatureC
  pressureMpa := round2 pressureMpa
  stirrerRpm := round2 stirrerRpm
  shakeSpeedCpm := round2 shakeSpeedCpm
  tiltState := tiltState
  tiltAngleDeg := fitTiltAngleDeg tiltState shakeSpeedCpm (ctx.sine shakeSpeedCpm)
  flowRateLMin := round2 flowRateLMin
  productConcentrationPercent := round2 productConcentrationPercent
  ph := round2 ph
  capturedAt := ctx.now

-- A sample of the base values but for its temperature and pressure.
def sampleOf (temperatureC pressureMpa : ℚ) : SensorSnapshot :=
  makeSample ctx temperatureC pressureMpa defaultBaseStirrerRpm defaultBaseShakeSpeedCpm 0 defaultBaseFlowRate
    defaultBaseConcentration defaultBasePh

def baseSampleRaw : SensorSnapshot := sampleOf ctx defaultBaseTemperatureC defaultBasePressureMpa

-- What is generated: a sample, or one that is a sample but for its temperature, which is NaN.
inductive Generated where
  | sample (snapshot : SensorSnapshot)
  | notANumber (snapshot : SensorSnapshot)

def generated (temperatureC : Option ℚ) (pressureMpa : ℚ) : Generated :=
  match temperatureC with
  | some temperatureC => .sample (sampleOf ctx temperatureC pressureMpa)
  | none => .notANumber (sampleOf ctx 0 pressureMpa)

section Drawing
variable {m : Type → Type} [Monad m] (jitter : ℚ → m ℚ)

def addNoiseToSample (sample : SensorSnapshot) (magnitude : ℚ) : m SensorSnapshot := do
  let temperatureC := round2 (sample.temperatureC + (← jitter magnitude))
  let pressureMpa := round2 (sample.pressureMpa + (← jitter (magnitude*(2/100))))
  let stirrerRpm := round2 (sample.stirrerRpm + (← jitter (magnitude*2)))
  let shakeSpeedCpm := round2 (sample.shakeSpeedCpm + (← jitter (magnitude*(2/10))))
  let flowRateLMin := round2 (sample.flowRateLMin + (← jitter (magnitude*(1/10))))
  let productConcentrationPercent := round2 (sample.productConcentrationPercent + (← jitter magnitude))
  let ph := round2 (sample.ph + (← jitter (magnitude*(5/100))))
  return { sample with
    temperatureC := temperatureC
    pressureMpa := pressureMpa
    stirrerRpm := stirrerRpm
    shakeSpeedCpm := shakeSpeedCpm
    flowRateLMin := flowRateLMin
    productConcentrationPercent := productConcentrationPercent
    ph := ph
    tiltAngleDeg := fitTiltAngleDeg sample.tiltState shakeSpeedCpm (ctx.sine shakeSpeedCpm) }

-- The base sample under noise.
def steadySample (factor : ℚ) : m (Option Generated) :=
  (some ∘ Generated.sample) <$> addNoiseToSample ctx jitter (baseSampleRaw ctx) (ctx.noise*factor)

-- A sample whose temperature alone is under noise.
def jitteredSample (temperatureC : Option ℚ) (pressureMpa : ℚ) : m (Option Generated) := do
  let disturbance ← jitter ctx.noise
  return some (generated ctx (temperatureC.map (· + disturbance)) pressureMpa)

end Drawing

-- `slow_rise` and `slow_fall`, which differ in where they start and end by default.
def ramp (start target : ℚ) : Traced (Option Generated) := do
  let start := ctx.parameters.startValue.getD start
  let target := ctx.parameters.targetValue.getD target
  let durationS := ctx.parameters.periodSeconds.getD (.number 300)
  let progress := (← divide (.number ctx.elapsedSeconds) durationS).clamp 0 1
  let temp := progress.map fun progress => start+(target-start)*progress
  liftM (jitteredSample ctx jitter temp defaultBasePressureMpa)

def suddenSpike : Guarded (Option Generated) := do
  let spikeAfterTicks := asU64 (ctx.parameters.startValue.getD 10)
  let spikeValue := ctx.parameters.targetValue.getD 150
  if ctx.tick ≤ spikeAfterTicks then steadySample ctx jitter (3/10)
  else
    let holdTicks := asU64 (ctx.parameters.periodSeconds.getD (.number 5)).value
    let last ← sum spikeAfterTicks holdTicks
    if ctx.tick ≤ last then jitteredSample ctx jitter (some spikeValue) (defaultBasePressureMpa+2/10)
    else steadySample ctx jitter (3/10)

def intermittentData : Traced (Option Generated) := do
  let onTicks := asU64 (ctx.parameters.startValue.getD 3)
  let offTicks := asU64 (ctx.parameters.targetValue.getD 2)
  let cycle ← liftM (sum onTicks offTicks)
  let phase ← remainder ctx.tick (max cycle 1)
  if phase < onTicks then liftM (steadySample ctx jitter (3/10)) else return none

def generateForScenario (name : String) : Traced (Option Generated) :=
  match scenarioOf name with
  | some .normal => liftM (steadySample ctx jitter (3/10))
  | some .slowRise => ramp ctx 30 85
  | some .slowFall => ramp ctx 85 30
  | some .suddenSpike => liftM (suddenSpike ctx)
  | some .outOfRange => return some (generated ctx (ctx.parameters.targetValue.getD 600) defaultBasePressureMpa)
  | some .frozenValue => return some (generated ctx (ctx.parameters.startValue.getD 55) defaultBasePressureMpa)
  | some .sensorDisconnect =>
      let disconnectAfter := asU64 (ctx.parameters.startValue.getD 5)
      if ctx.tick ≤ disconnectAfter then liftM (steadySample ctx jitter (3/10)) else return none
  | some .noisySignal => liftM (steadySample ctx jitter 5)
  | some .intermittentData => intermittentData ctx
  | some .recovery =>
      let faultTicks := asU64 (ctx.parameters.startValue.getD 10)
      if ctx.tick ≤ faultTicks then
        liftM (jitteredSample ctx jitter (some (ctx.parameters.targetValue.getD 130)) (defaultBasePressureMpa+15/100))
      else liftM (steadySample ctx jitter (3/10))
  | none => liftM (steadySample ctx jitter (3/10))

end Samples

-- What the scenarios are documented to do, with numbers that have no end: nothing is
-- checked here, and nothing can go wrong.
section Documented
variable (ctx : ScenarioContext)

def sway (amplitude : ℚ) : Random ℚ := if amplitude ≤ 0 then return 0 else uniform (-amplitude) amplitude

def spikeAfter : Nat := asU64 (ctx.parameters.startValue.getD 10)
def spikeHold : Nat := asU64 (ctx.parameters.periodSeconds.getD (.number 5)).value
def ticksOn : Nat := asU64 (ctx.parameters.startValue.getD 3)
def ticksOff : Nat := asU64 (ctx.parameters.targetValue.getD 2)
def rampSeconds : ℚ := (ctx.parameters.periodSeconds.getD (.number 300)).value

def rampValue (start target : ℚ) : ℚ :=
  let start := ctx.parameters.startValue.getD start
  let target := ctx.parameters.targetValue.getD target
  start+(target-start)*clamp (ctx.elapsedSeconds/rampSeconds ctx) 0 1

-- The spike is on: `spike_after < tick <= spike_after + hold`.
def SpikeOn : Prop := spikeAfter ctx < ctx.tick ∧ ctx.tick ≤ spikeAfter ctx+spikeHold ctx

-- Data comes: `tick mod (on + off) < on`.
def DataOn : Prop := ctx.tick % (ticksOn ctx+ticksOff ctx) < ticksOn ctx

instance : Decidable (SpikeOn ctx) := inferInstanceAs (Decidable (_ ∧ _))

instance : Decidable (DataOn ctx) := inferInstanceAs (Decidable (_ < _))

def documented (name : String) : Random (Option Generated) :=
  match scenarioOf name with
  | some .slowRise => jitteredSample ctx sway (some (rampValue ctx 30 85)) defaultBasePressureMpa
  | some .slowFall => jitteredSample ctx sway (some (rampValue ctx 85 30)) defaultBasePressureMpa
  | some .suddenSpike =>
      if SpikeOn ctx then
        jitteredSample ctx sway (some (ctx.parameters.targetValue.getD 150)) (defaultBasePressureMpa+2/10)
      else steadySample ctx sway (3/10)
  | some .outOfRange => return some (generated ctx (ctx.parameters.targetValue.getD 600) defaultBasePressureMpa)
  | some .frozenValue => return some (generated ctx (ctx.parameters.startValue.getD 55) defaultBasePressureMpa)
  | some .sensorDisconnect =>
      if ctx.tick ≤ asU64 (ctx.parameters.startValue.getD 5) then steadySample ctx sway (3/10) else return none
  | some .noisySignal => steadySample ctx sway 5
  | some .intermittentData => if DataOn ctx then steadySample ctx sway (3/10) else return none
  | some .recovery =>
      if ctx.tick ≤ asU64 (ctx.parameters.startValue.getD 10) then
        jitteredSample ctx sway (some (ctx.parameters.targetValue.getD 130)) (defaultBasePressureMpa+15/100)
      else steadySample ctx sway (3/10)
  | some .normal => steadySample ctx sway (3/10)
  | none => steadySample ctx sway (3/10)

-- A range from minus an amplitude to the amplitude has a width that is a double.
def Drawable (amplitude : ℚ) : Prop := 2*amplitude < Double.limit

-- The widest of the ranges for a sample under noise is that of its speed.
def Noisy (factor : ℚ) : Prop := Drawable (ctx.noise*factor*2)

-- The parameters of a scenario are in bounds at a tick.
def InBounds (name : String) : Prop :=
  match scenarioOf name with
  | some .slowRise => rampSeconds ctx ≠ 0 ∧ Drawable ctx.noise
  | some .slowFall => rampSeconds ctx ≠ 0 ∧ Drawable ctx.noise
  | some .suddenSpike =>
      if ctx.tick ≤ spikeAfter ctx then Noisy ctx (3/10)
      else spikeAfter ctx+spikeHold ctx < 2^64 ∧ if SpikeOn ctx then Drawable ctx.noise else Noisy ctx (3/10)
  | some .outOfRange => True
  | some .frozenValue => True
  | some .sensorDisconnect => ctx.tick ≤ asU64 (ctx.parameters.startValue.getD 5) → Noisy ctx (3/10)
  | some .noisySignal => Noisy ctx 5
  | some .intermittentData => ticksOn ctx+ticksOff ctx < 2^64 ∧ (DataOn ctx → Noisy ctx (3/10))
  | some .recovery =>
      if ctx.tick ≤ asU64 (ctx.parameters.startValue.getD 10) then Drawable ctx.noise else Noisy ctx (3/10)
  | some .normal => Noisy ctx (3/10)
  | none => Noisy ctx (3/10)

-- A tick that comes to something, with nothing divided by zero on the way.
def Faultless (name : String) (draws : Draws) : Prop :=
  ∃ output divisors rest, generateForScenario ctx name [] draws = .ok ((output,divisors),rest) ∧
    ∀ divisor ∈ divisors, divisor ≠ 0

-- Such a tick that comes to what is documented.
def Meets (name : String) (draws : Draws) : Prop :=
  ∃ divisors, generateForScenario ctx name [] draws =
      .ok (((documented ctx name draws).1,divisors),(documented ctx name draws).2) ∧
    ∀ divisor ∈ divisors, divisor ≠ 0

-- What a tick needs, and what is enough for it.
structure Needs (name : String) (draws : Draws) (bounded : Prop) : Prop where
  needed : Faultless ctx name draws → bounded
  enough : bounded → Meets ctx name draws

end Documented

section Runs
variable {ctx : ScenarioContext} {name : String} {draws : Draws} {value : Option Generated}

theorem Needs.congr {bounded same : Prop} (needs : Needs ctx name draws bounded) (iff : bounded ↔ same) :
    Needs ctx name draws same := ⟨fun sound => iff.mp (needs.needed sound),fun within => needs.enough (iff.mpr within)⟩

theorem noise_nonneg (ctx : ScenarioContext) : 0 ≤ ctx.noise := le_max_right _ _

theorem jitter_runs {amplitude : ℚ} (bounded : Drawable amplitude) : Runs (jitter amplitude) (sway amplitude) := by
  unfold Drawable at bounded
  unfold jitter sway
  split
  · exact .pure
  · rename_i positive
    exact genRangeTo_runs (by linarith) (by linarith)

theorem jitter_stops {amplitude : ℚ} (past : ¬Drawable amplitude) (draws : Draws) :
    jitter amplitude draws = .error .rangeOverflow := by
  unfold Drawable at past
  have wide := Double.limit_pos.trans_le (not_lt.mp past)
  have positive : ¬amplitude ≤ 0 := by linarith
  unfold jitter
  rw [if_neg positive]
  refine genRangeTo_stops (by linarith) (fun bounded => past ?_) draws
  linarith

theorem drawable_of_le {one other : ℚ} (bounded : Drawable one) (less : other ≤ one) : Drawable other := by
  unfold Drawable at *
  linarith

theorem addNoiseToSample_runs (sample : SensorSnapshot) {magnitude : ℚ} (least : 0 ≤ magnitude) (bounded : Drawable (magnitude*2)) :
    Runs (addNoiseToSample ctx jitter sample magnitude) (addNoiseToSample ctx sway sample magnitude) := by
  have drawn {amplitude : ℚ} (less : amplitude ≤ magnitude*2) : Runs (jitter amplitude) (sway amplitude) :=
    jitter_runs (drawable_of_le bounded less)
  refine .bind (drawn (by linarith)) .any fun temperature _ => ?_
  refine .bind (drawn (by linarith)) .any fun pressure _ => ?_
  refine .bind (drawn le_rfl) .any fun stirrer _ => ?_
  refine .bind (drawn (by linarith)) .any fun shake _ => ?_
  refine .bind (drawn (by linarith)) .any fun flow _ => ?_
  refine .bind (drawn (by linarith)) .any fun concentration _ => ?_
  exact .bind (drawn (by linarith)) .any fun ph _ => .pure

-- Too wide a range for the speed stops a sample, unless one before it has.
theorem addNoiseToSample_stops (sample : SensorSnapshot) {magnitude : ℚ} (past : ¬Drawable (magnitude*2)) (draws : Draws) :
    addNoiseToSample ctx jitter sample magnitude draws = .error .rangeOverflow := by
  unfold addNoiseToSample
  by_cases temperature : Drawable magnitude
  · rw [(jitter_runs temperature).reaches]
    by_cases pressure : Drawable (magnitude*(2/100))
    · rw [(jitter_runs pressure).reaches]
      exact Runs.stops (jitter_stops past _)
    · exact Runs.stops (jitter_stops pressure _)
  · exact Runs.stops (jitter_stops temperature _)

theorem steadySample_runs {factor : ℚ} (least : 0 ≤ factor) (bounded : Noisy ctx factor) :
    Runs (steadySample ctx jitter factor) (steadySample ctx sway factor) :=
  .map (addNoiseToSample_runs _ (mul_nonneg (noise_nonneg ctx) least) bounded)

theorem steadySample_stops {factor : ℚ} (past : ¬Noisy ctx factor) (draws : Draws) :
    steadySample ctx jitter factor draws = .error .rangeOverflow := by
  change (addNoiseToSample ctx jitter (baseSampleRaw ctx) (ctx.noise*factor) draws >>= fun reached => _) = _
  rw [addNoiseToSample_stops _ past]
  rfl

theorem jitteredSample_runs (temperatureC : Option ℚ) (pressureMpa : ℚ) (bounded : Drawable ctx.noise) :
    Runs (jitteredSample ctx jitter temperatureC pressureMpa) (jitteredSample ctx sway temperatureC pressureMpa) :=
  .bind (jitter_runs bounded) .any fun _ _ => .pure

theorem jitteredSample_stops (temperatureC : Option ℚ) (pressureMpa : ℚ) (past : ¬Drawable ctx.noise) (draws : Draws) :
    jitteredSample ctx jitter temperatureC pressureMpa draws = .error .rangeOverflow :=
  Runs.stops (jitter_stops past draws)

-- What settles a scenario that draws from one of two kinds of ranges: it runs through or stops.
theorem needs_runs {guarded : Guarded (Option Generated)} {plain : Random (Option Generated)} {divisors : List ℚ}
    {bounded : Prop} (nonzero : ∀ divisor ∈ divisors, divisor ≠ 0)
    (same : ∀ draws, generateForScenario ctx name [] draws = (liftM guarded : Traced (Option Generated)) divisors draws)
    (plainly : documented ctx name = plain) (runs : bounded → Runs guarded plain)
    (stops : ¬bounded → ∀ draws, ∃ breach, guarded draws = .error breach) : Needs ctx name draws bounded where
  needed sound := by
    obtain ⟨_,_,_,reached,_⟩ := sound
    by_contra unbounded
    obtain ⟨breach,stopped⟩ := stops unbounded draws
    rw [same,lift_stops stopped] at reached
    cases reached
  enough within := by
    have traced := Traces.lift (runs within) divisors draws
    rw [List.append_nil] at traced
    unfold Meets
    rw [same,plainly]
    exact ⟨divisors,traced,nonzero⟩

theorem steadySample_needs {factor : ℚ} (least : 0 ≤ factor) (plainly : documented ctx name = steadySample ctx sway factor)
    (same : generateForScenario ctx name = liftM (steadySample ctx jitter factor)) :
    Needs ctx name draws (Noisy ctx factor) :=
  needs_runs (List.forall_mem_nil _) (fun draws => by rw [same]) plainly (fun bounded => steadySample_runs least bounded)
    fun past draws => ⟨.rangeOverflow,steadySample_stops past draws⟩

theorem jitteredSample_needs {temperatureC : Option ℚ} {pressureMpa : ℚ} {divisors : List ℚ}
    (nonzero : ∀ divisor ∈ divisors, divisor ≠ 0)
    (plainly : documented ctx name = jitteredSample ctx sway temperatureC pressureMpa)
    (same : ∀ draws, generateForScenario ctx name [] draws =
      (liftM (jitteredSample ctx jitter temperatureC pressureMpa) : Traced (Option Generated)) divisors draws) :
    Needs ctx name draws (Drawable ctx.noise) :=
  needs_runs nonzero same plainly (fun bounded => jitteredSample_runs _ _ bounded)
    fun past draws => ⟨.rangeOverflow,jitteredSample_stops _ _ past draws⟩

theorem ramp_needs {start target : ℚ}
    (plainly : documented ctx name = jitteredSample ctx sway (some (rampValue ctx start target)) defaultBasePressureMpa)
    (same : generateForScenario ctx name = ramp ctx start target) :
    Needs ctx name draws (rampSeconds ctx ≠ 0 ∧ Drawable ctx.noise) := by
  by_cases zero : rampSeconds ctx = 0
  · refine ⟨fun sound => ?_,fun bounded => absurd zero bounded.1⟩
    -- whatever the quotient is, the zero stays among the divisors
    obtain ⟨output,divisors,rest,reached,nonzero⟩ := sound
    rw [same] at reached
    change (jitteredSample ctx jitter _ defaultBasePressureMpa draws >>= fun drawn =>
      (pure ((drawn.1,[rampSeconds ctx]),drawn.2) : Except Breach _)) = _ at reached
    obtain ⟨drawn,_,kept⟩ := bind_ok reached
    have listed : [rampSeconds ctx] = divisors := congrArg (·.1.2) (Except.ok.inj kept)
    exact absurd zero (nonzero _ (listed ▸ List.mem_singleton_self _))
  · have needs : Needs ctx name draws (Drawable ctx.noise) := by
      refine jitteredSample_needs (List.forall_mem_singleton.mpr zero) plainly fun draws => ?_
      rw [same]
      unfold ramp
      change (liftM (jitteredSample ctx jitter
        ((((Double.number ctx.elapsedSeconds).div (ctx.parameters.periodSeconds.getD (.number 300))).clamp 0 1).map _)
          defaultBasePressureMpa) : Traced (Option Generated)) [rampSeconds ctx] draws = _
      rw [Double.div_finite zero]
      rfl
    exact needs.congr (and_iff_right zero).symm

-- Over no time a ramp is at its end, though it has divided by zero.
theorem ramp_over_zero {start target : ℚ} (zero : ctx.parameters.periodSeconds = some (.number 0)) (later : 0 < ctx.elapsedMs)
    (quiet : ctx.noise = 0) : ∃ snapshot, ramp ctx start target [] draws = .ok ((some (.sample snapshot),[0]),draws) ∧
      snapshot.temperatureC = round2 (ctx.parameters.targetValue.getD target) := by
  have past : (0:ℚ) < ctx.elapsedSeconds := div_pos (Nat.cast_pos.mpr later) (by norm_num)
  have infinite : (Double.number ctx.elapsedSeconds).div (.number 0) = .infinite false := by
    simp [Double.div,Double.value,Double.negative,past.ne',not_lt.mpr past.le]
  have still : jitter 0 = pure 0 := if_pos le_rfl
  unfold ramp
  rw [zero]
  change ∃ snapshot, (jitteredSample ctx jitter
    ((((Double.number ctx.elapsedSeconds).div (.number 0)).clamp 0 1).map _) defaultBasePressureMpa draws >>= fun drawn =>
      (pure ((drawn.1,[0]),drawn.2) : Except Breach _)) = _ ∧ _
  rw [infinite]
  unfold jitteredSample
  rw [quiet,still]
  refine ⟨_,rfl,?_⟩
  simp [sampleOf,makeSample]

theorem needs_stops {breach : Breach} {bounded : Prop} (stopped : generateForScenario ctx name [] draws = .error breach)
    (unbounded : ¬bounded) : Needs ctx name draws bounded where
  needed sound := by
    obtain ⟨_,_,_,reached,_⟩ := sound
    rw [stopped] at reached
    cases reached
  enough within := absurd within unbounded

theorem suddenSpike_eq : suddenSpike ctx =
    if ctx.tick ≤ spikeAfter ctx then steadySample ctx jitter (3/10)
    else liftM (sum (spikeAfter ctx) (spikeHold ctx)) >>= fun last =>
      if ctx.tick ≤ last then jitteredSample ctx jitter (some (ctx.parameters.targetValue.getD 150)) (defaultBasePressureMpa+2/10)
      else steadySample ctx jitter (3/10) := rfl

theorem suddenSpike_stops (late : ¬ctx.tick ≤ spikeAfter ctx) (past : ¬spikeAfter ctx+spikeHold ctx < 2^64) (draws : Draws) :
    suddenSpike ctx draws = .error .overflow := by
  rw [suddenSpike_eq,if_neg late]
  exact breach_stops (sum_overflow past) _ draws

theorem suddenSpike_needs (kind : scenarioOf name = some .suddenSpike) : Needs ctx name draws (InBounds ctx name) := by
  have same : generateForScenario ctx name = liftM (suddenSpike ctx) := by rw [generateForScenario,kind]
  have plainly : documented ctx name = if SpikeOn ctx then
      jitteredSample ctx sway (some (ctx.parameters.targetValue.getD 150)) (defaultBasePressureMpa+2/10)
      else steadySample ctx sway (3/10) := by rw [documented,kind]
  rw [InBounds,kind]
  simp only
  by_cases early : ctx.tick ≤ spikeAfter ctx
  · rw [if_neg fun on : SpikeOn ctx => absurd on.1 (Nat.not_lt.mpr early)] at plainly
    rw [suddenSpike_eq,if_pos early] at same
    rw [if_pos early]
    exact steadySample_needs (by norm_num) plainly same
  · rw [if_neg early]
    by_cases fits : spikeAfter ctx+spikeHold ctx < 2^64
    · rw [suddenSpike_eq,if_neg early,sum_ok fits] at same
      by_cases held : ctx.tick ≤ spikeAfter ctx+spikeHold ctx
      · have on : SpikeOn ctx := ⟨Nat.lt_of_not_le early,held⟩
        rw [if_pos on] at plainly
        rw [if_pos on,and_iff_right fits]
        refine jitteredSample_needs (List.forall_mem_nil _) plainly fun draws => ?_
        rw [same]
        change (liftM (if ctx.tick ≤ spikeAfter ctx+spikeHold ctx then _ else _) : Traced (Option Generated)) [] draws = _
        rw [if_pos held]
      · have off : ¬SpikeOn ctx := fun on => held on.2
        rw [if_neg off] at plainly
        rw [if_neg off,and_iff_right fits]
        refine steadySample_needs (by norm_num) plainly (same.trans ?_)
        change (liftM (if ctx.tick ≤ spikeAfter ctx+spikeHold ctx then _ else _) : Traced (Option Generated)) = _
        rw [if_neg held]
    · have stopped : generateForScenario ctx name [] draws = .error .overflow := by
        rw [same]
        exact lift_stops (suddenSpike_stops early fits draws)
      exact needs_stops stopped fun bounded => fits bounded.1

theorem intermittentData_needs (kind : scenarioOf name = some .intermittentData) : Needs ctx name draws (InBounds ctx name) := by
  have same : generateForScenario ctx name = intermittentData ctx := by rw [generateForScenario,kind]
  have plainly : documented ctx name = if DataOn ctx then steadySample ctx sway (3/10) else pure none := by
    rw [documented,kind]
  rw [InBounds,kind]
  simp only
  by_cases fits : ticksOn ctx+ticksOff ctx < 2^64
  · -- a cycle of no ticks is on at none, and counts as one tick
    have phase : ctx.tick % max (ticksOn ctx+ticksOff ctx) 1 < ticksOn ctx ↔ DataOn ctx := by
      unfold DataOn
      rcases Nat.eq_zero_or_pos (ticksOn ctx+ticksOff ctx) with empty | positive
      · omega
      · rw [Nat.max_eq_left positive]
    have nonzero : ∀ divisor ∈ [((max (ticksOn ctx+ticksOff ctx) 1 : Nat) : ℚ)], divisor ≠ 0 := by
      refine List.forall_mem_singleton.mpr (Nat.cast_ne_zero.mpr ?_)
      omega
    have reached : ∀ draws, generateForScenario ctx name [] draws =
        (liftM (if DataOn ctx then steadySample ctx jitter (3/10) else pure none) : Traced (Option Generated))
          [((max (ticksOn ctx+ticksOff ctx) 1 : Nat) : ℚ)] draws := by
      intro draws
      rw [same,intermittentData]
      change ((liftM (sum (ticksOn ctx) (ticksOff ctx)) : Traced Nat) >>= fun cycle => _) [] draws = _
      rw [sum_ok fits]
      change (if ctx.tick % max (ticksOn ctx+ticksOff ctx) 1 < ticksOn ctx then
        liftM (steadySample ctx jitter (3/10)) else pure none : Traced (Option Generated))
          [((max (ticksOn ctx+ticksOff ctx) 1 : Nat) : ℚ)] draws = _
      by_cases on : DataOn ctx
      · rw [if_pos on,if_pos (phase.mpr on)]
      · rw [if_neg on,if_neg fun early => on (phase.mp early)]
        rfl
    refine (needs_runs nonzero reached plainly ?_ ?_).congr (and_iff_right fits).symm
    · intro bounded
      by_cases on : DataOn ctx
      · rw [if_pos on,if_pos on]
        exact steadySample_runs (by norm_num) (bounded on)
      · rw [if_neg on,if_neg on]
        exact .pure
    · intro past draws
      obtain ⟨on,past⟩ := Classical.not_imp.mp past
      rw [if_pos on]
      exact ⟨.rangeOverflow,steadySample_stops past draws⟩
  · have stopped : generateForScenario ctx name [] draws = .error .overflow := by
      rw [same,intermittentData]
      change ((liftM (sum (ticksOn ctx) (ticksOff ctx)) : Traced Nat) >>= fun cycle => _) [] draws = _
      rw [sum_overflow fits]
      rfl
    exact needs_stops stopped fun bounded => fits bounded.1

theorem needs_nothing (plainly : documented ctx name = pure value) (same : generateForScenario ctx name = pure value) :
    Needs ctx name draws True := ⟨fun _ => trivial,fun _ => ⟨[],by rw [plainly,same]; rfl,List.forall_mem_nil _⟩⟩

-- A tick of any scenario: what it draws from decides, and what it adds and divides by.
theorem scenario_needs : Needs ctx name draws (InBounds ctx name) := by
  cases kind : scenarioOf name with
  | none =>
      rw [InBounds,kind]
      exact steadySample_needs (by norm_num) (by rw [documented,kind]) (by rw [generateForScenario,kind])
  | some scenario =>
      cases scenario with
      | suddenSpike => exact suddenSpike_needs kind
      | intermittentData => exact intermittentData_needs kind
      | normal =>
          rw [InBounds,kind]
          exact steadySample_needs (by norm_num) (by rw [documented,kind]) (by rw [generateForScenario,kind])
      | slowRise =>
          rw [InBounds,kind]
          exact ramp_needs (by rw [documented,kind]) (by rw [generateForScenario,kind])
      | slowFall =>
          rw [InBounds,kind]
          exact ramp_needs (by rw [documented,kind]) (by rw [generateForScenario,kind])
      | outOfRange =>
          rw [InBounds,kind]
          exact needs_nothing (by rw [documented,kind]) (by rw [generateForScenario,kind])
      | frozenValue =>
          rw [InBounds,kind]
          exact needs_nothing (by rw [documented,kind]) (by rw [generateForScenario,kind])
      | sensorDisconnect =>
          rw [InBounds,kind]
          simp only
          by_cases early : ctx.tick ≤ asU64 (ctx.parameters.startValue.getD 5)
          · rw [forall_prop_of_true early]
            refine steadySample_needs (by norm_num) ?_ ?_
            · rw [documented,kind]
              exact if_pos early
            · rw [generateForScenario,kind]
              exact if_pos early
          · rw [forall_prop_of_false early]
            refine @needs_nothing ctx name _ none ?_ ?_
            · rw [documented,kind]
              exact if_neg early
            · rw [generateForScenario,kind]
              exact if_neg early
      | noisySignal =>
          rw [InBounds,kind]
          exact steadySample_needs (by norm_num) (by rw [documented,kind]) (by rw [generateForScenario,kind])
      | recovery =>
          rw [InBounds,kind]
          simp only
          by_cases early : ctx.tick ≤ asU64 (ctx.parameters.startValue.getD 10)
          · rw [if_pos early]
            have plainly : documented ctx name = jitteredSample ctx sway (some (ctx.parameters.targetValue.getD 130))
                (defaultBasePressureMpa+15/100) := by
              rw [documented,kind]
              exact if_pos early
            refine jitteredSample_needs (List.forall_mem_nil _) plainly fun draws => ?_
            · rw [generateForScenario,kind]
              simp only
              rw [if_pos early]
          · rw [if_neg early]
            refine steadySample_needs (by norm_num) ?_ ?_
            · rw [documented,kind]
              exact if_neg early
            · rw [generateForScenario,kind]
              exact if_neg early

theorem faultless_iff : Faultless ctx name draws ↔ InBounds ctx name := by
  refine ⟨scenario_needs.needed,fun bounded => ?_⟩
  obtain ⟨divisors,reached,nonzero⟩ := scenario_needs.enough bounded
  exact ⟨_,divisors,_,reached,nonzero⟩

theorem steadySample_some (factor : ℚ) (draws : Draws) : (steadySample ctx sway factor draws).1.isSome = true := rfl

end Runs

-- Every tick of every scenario comes to something exactly if the parameters are in bounds:
-- nothing overflows, nothing is divided by zero, every range drawn from is neither empty nor
-- wider than a double. It is then what is documented: the spike and the data are on at their
-- ticks.
theorem scenarios_total_in_bounds (ctx : ScenarioContext) :
    (∀ name draws, (Faultless ctx name draws ↔ InBounds ctx name) ∧ (InBounds ctx name → Meets ctx name draws)) ∧
    (documented ctx "sudden_spike" = if SpikeOn ctx then
      jitteredSample ctx sway (some (ctx.parameters.targetValue.getD 150)) (defaultBasePressureMpa+2/10)
      else steadySample ctx sway (3/10)) ∧
    ∀ draws, (documented ctx "intermittent_data" draws).1.isSome = true ↔ DataOn ctx := by
  have spike : scenarioOf "sudden_spike" = some .suddenSpike := by decide
  have data : scenarioOf "intermittent_data" = some .intermittentData := by decide
  refine ⟨fun name draws => ⟨faultless_iff,scenario_needs.enough⟩,?_,fun draws => ?_⟩
  · unfold documented
    rw [spike]
  · unfold documented
    rw [data]
    simp only
    by_cases on : DataOn ctx
    · rw [if_pos on]
      exact iff_of_true (steadySample_some _ _) on
    · rw [if_neg on]
      exact iff_of_false (fun sampled => by cases sampled) on

def stillDraws : Draws := fun _ => ⟨0,le_refl 0,zero_le_one⟩

def contextAt (tick elapsedMs : Nat) (parameters : ScenarioParameters) : ScenarioContext := ⟨tick,elapsedMs,parameters,0,fun _ => 0⟩

-- A spike that is held for 10^30 ticks ends the process at the tick behind its start, and so
-- does a cycle of that length. A ramp over no time divides by zero and is at its end. Noise
-- near the largest double asks for a range that is wider than it.
theorem huge_hold_overflows :
    generateForScenario (contextAt 2 0 ⟨some 1,none,none,some (.number (10^30))⟩) "sudden_spike" [] stillDraws =
        .error .overflow ∧
      generateForScenario (contextAt 1 0 ⟨some (10^30),some (10^30),none,none⟩) "intermittent_data" [] stillDraws =
        .error .overflow ∧
      (∃ snapshot rest, generateForScenario (contextAt 1 1000 ⟨none,none,some 0,some (.number 0)⟩) "slow_rise" [] stillDraws =
        .ok ((some (.sample snapshot),[0]),rest) ∧ snapshot.temperatureC = 85) ∧
      generateForScenario (contextAt 1 0 ⟨none,none,some (17*10^307),none⟩) "normal" [] stillDraws =
        .error .rangeOverflow := by
  have spike : scenarioOf "sudden_spike" = some .suddenSpike := by decide
  have data : scenarioOf "intermittent_data" = some .intermittentData := by decide
  have rise : scenarioOf "slow_rise" = some .slowRise := by decide
  have normal : scenarioOf "normal" = some .normal := by decide
  have cap : asU64 (10^30) = 2^64-1 := by
    have whole : ⌊(10^30 : ℚ)⌋ = 10^30 := by norm_cast
    rw [asU64,whole]
    decide
  have one : asU64 1 = 1 := by
    rw [asU64,Int.floor_one]
    decide
  unfold generateForScenario
  rw [spike,data,rise,normal]
  refine ⟨?_,?_,?_,?_⟩
  · refine lift_stops (suddenSpike_stops ?_ ?_ _)
    · change ¬2 ≤ asU64 1
      rw [one]
      decide
    · change ¬asU64 1+asU64 (10^30) < 2^64
      rw [one,cap]
      decide
  · have past : ¬asU64 (10^30)+asU64 (10^30) < 2^64 := by
      rw [cap]
      decide
    change ((liftM (sum (asU64 (10^30)) (asU64 (10^30))) : Traced Nat) >>= fun cycle => _) [] stillDraws = _
    rw [sum_overflow past]
    rfl
  · obtain ⟨snapshot,reached,hot⟩ := @ramp_over_zero (contextAt 1 1000 ⟨none,none,some 0,some (.number 0)⟩) stillDraws 30 85
      rfl (by decide) (max_self 0)
    refine ⟨snapshot,_,reached,hot.trans ?_⟩
    decide +kernel
  · refine lift_stops (steadySample_stops ?_ _)
    change ¬2*(max (17*10^307) 0*(3/10)*2) < Double.limit
    have wide : (2:ℚ)^1024 ≤ 204*10^306 := by
      have whole : 2^1024 ≤ 204*10^306 := by decide +kernel
      exact_mod_cast whole
    have least : (0:ℚ) < 2^970 := by positivity
    unfold Double.limit
    rw [max_eq_left (by positivity),pow_succ]
    generalize (2:ℚ)^1024 = whole,(2:ℚ)^970 = step,(10:ℚ)^306 = size at *
    linarith

-- A session as the endpoint and the device share it; its clock counts milliseconds.
structure SimulationConfig where
  scenario : String
  seed : Nat
  speed : ℚ
  durationSeconds : Option Nat
  parameters : ScenarioParameters

structure SimulationSession where
  config : SimulationConfig
  active : Bool
  tick : Nat
  startMs : Nat
  lastSample : Option Generated

-- What the device finds when it is asked for a sample. The clock is read once for the
-- duration and once for the sample.
structure Reading where
  firstMs : Nat
  secondMs : Nat
  now : Instant
  sine : ℚ → ℚ

namespace SimulationSession
variable (session : SimulationSession)

def elapsedMs (clockMs : Nat) : Nat := asU64 ((clockMs-session.startMs : Nat)*session.config.speed)

def switchScenario (clockMs : Nat) (scenario : String) (seed : Option Nat) (parameters : Option ScenarioParameters) :
    SimulationSession :=
  { session with
    config := { session.config with
      scenario := scenario
      seed := seed.getD session.config.seed
      parameters := parameters.getD session.config.parameters }
    tick := 0
    startMs := clockMs }

def context (reading : Reading) : ScenarioContext :=
  ⟨session.tick,session.elapsedMs reading.secondMs,session.config.parameters,reading.now,reading.sine⟩

-- The sample, and what was divided by for it.
def generateSample (reading : Reading) : Guarded ((Option Generated × List ℚ) × SimulationSession) :=
  if !session.active then return ((none,[]),session)
  else if session.config.durationSeconds.any (· ≤ session.elapsedMs reading.firstMs/1000) then
    return ((none,[]),{session with active := false})
  else do
    let tick ← sum session.tick 1
    let session := {session with tick := tick}
    let output ← generateForScenario (session.context reading) session.config.scenario []
    match output.1 with
    | some sample => return (output,{session with lastSample := some sample})
    | none => return (output,session)

def readSamples : SimulationSession → List Reading → Guarded (List (Option Generated × List ℚ) × SimulationSession)
  | session,[] => return ([],session)
  | session,reading :: readings => do
      let (sample,session) ← session.generateSample reading
      let (samples,session) ← readSamples session readings
      return (sample :: samples,session)

-- Every reading is answered, and nothing is divided by zero for any.
def Survives (readings : List Reading) (draws : Draws) : Prop :=
  ∃ samples after rest, session.readSamples readings draws = .ok ((samples,after),rest) ∧
    ∀ sample ∈ samples, ∀ divisor ∈ sample.2, divisor ≠ 0

-- The parameters are in bounds at a tick, whatever the clocks say.
def Fits (tick : Nat) : Prop :=
  ∀ ctx : ScenarioContext, ctx.tick = tick → ctx.parameters = session.config.parameters →
    InBounds ctx session.config.scenario

variable {session} {reading : Reading} {draws : Draws}

theorem inBounds_fits {ctx : ScenarioContext} (parameters : ctx.parameters = session.config.parameters) :
    InBounds ctx session.config.scenario ↔ session.Fits ctx.tick := by
  refine ⟨fun bounded other tick same => ?_,fun fits => fits ctx rfl parameters⟩
  obtain ⟨_,_,_,_,_⟩ := ctx
  obtain ⟨_,_,_,_,_⟩ := other
  cases parameters
  cases same
  cases tick
  exact bounded

-- The session after a sample has been asked for.
def advanced (session : SimulationSession) (output : Option Generated) : SimulationSession :=
  {session with tick := session.tick+1,lastSample := output.or session.lastSample}

theorem generateSample_eq (active : session.active = true) (endless : session.config.durationSeconds = none)
    (room : session.tick+1 < 2^64) : session.generateSample reading draws =
      (generateForScenario ({session with tick := session.tick+1}.context reading) session.config.scenario [] draws >>=
        fun reached => .ok ((reached.1,session.advanced reached.1.1),reached.2)) := by
  unfold generateSample
  rw [if_neg (by simp [active]),if_neg (by simp [endless]),sum_ok room]
  change (generateForScenario _ _ [] draws >>= fun reached => _) = _
  congr 1
  funext reached
  obtain ⟨⟨output,divisors⟩,rest⟩ := reached
  cases output with
  | none => rfl
  | some sample => rfl

theorem survives_cons {readings : List Reading} (active : session.active = true)
    (endless : session.config.durationSeconds = none) (room : session.tick+1 < 2^64) :
    session.Survives (reading :: readings) draws ↔ ∃ output divisors rest,
      generateForScenario ({session with tick := session.tick+1}.context reading) session.config.scenario [] draws =
        .ok ((output,divisors),rest) ∧ (∀ divisor ∈ divisors, divisor ≠ 0) ∧ (session.advanced output).Survives readings rest := by
  constructor
  · intro survives
    obtain ⟨_,after,rest,answered,nonzero⟩ := survives
    change (session.generateSample reading draws >>= fun first => readSamples first.1.2 readings first.2 >>= fun later => _) = _
      at answered
    rw [generateSample_eq active endless room] at answered
    obtain ⟨first,generated,answered⟩ := bind_ok answered
    obtain ⟨drawn,came,same⟩ := bind_ok generated
    cases same
    obtain ⟨⟨⟨samples,last⟩,left⟩,later,same⟩ := bind_ok answered
    cases same
    obtain ⟨here,others⟩ := List.forall_mem_cons.mp nonzero
    exact ⟨_,_,_,came,here,samples,_,_,later,others⟩
  · intro parts
    obtain ⟨output,divisors,rest,came,here,samples,after,left,later,others⟩ := parts
    refine ⟨(output,divisors) :: samples,after,left,?_,List.forall_mem_cons.mpr ⟨here,others⟩⟩
    change (session.generateSample reading draws >>= fun first => readSamples first.1.2 readings first.2 >>= fun later => _) = _
    rw [generateSample_eq active endless room,came]
    change (readSamples (session.advanced output) readings rest >>= fun later => _) = _
    rw [later]
    rfl

-- A session without an end answers as long as its parameters are in bounds.
theorem survives_iff {readings : List Reading} (active : session.active = true)
    (endless : session.config.durationSeconds = none) (room : session.tick+readings.length < 2^64) :
    session.Survives readings draws ↔ ∀ i < readings.length, session.Fits (session.tick+i+1) := by
  induction readings generalizing session draws with
  | nil => exact iff_of_true ⟨[],session,draws,rfl,List.forall_mem_nil _⟩ fun i before => absurd before (Nat.not_lt_zero i)
  | cons reading readings ih =>
      rw [List.length_cons] at room ⊢
      have later : ∀ output rest, (session.advanced output).Survives readings rest ↔
          ∀ i < readings.length, session.Fits (session.tick+1+i+1) := fun output rest =>
        @ih (session.advanced output) rest active endless (by change session.tick+1+readings.length < 2^64; omega)
      have bounds := @inBounds_fits session ({session with tick := session.tick+1}.context reading) rfl
      rw [survives_cons active endless (by omega)]
      constructor
      · intro parts
        obtain ⟨output,divisors,rest,came,nonzero,others⟩ := parts
        have first := bounds.mp (faultless_iff.mp ⟨output,divisors,rest,came,nonzero⟩)
        intro i before
        cases i with
        | zero => exact first
        | succ i =>
            have fits := (later output rest).mp others i (by omega)
            rwa [show session.tick+(i+1)+1 = session.tick+1+i+1 by omega]
      · intro fits
        obtain ⟨output,divisors,rest,came,nonzero⟩ := (@faultless_iff _ _ draws).mpr (bounds.mpr (fits 0 (by omega)))
        refine ⟨output,divisors,rest,came,nonzero,(later output rest).mpr fun i before => ?_⟩
        have next := fits (i+1) (by omega)
        rwa [show session.tick+(i+1)+1 = session.tick+1+i+1 by omega] at next

end SimulationSession

structure SimulationScenarioRequest where
  scenario : String
  seed : Option Nat
  parameters : Option ScenarioParameters

-- `permitted` is what the check for an administrator said.
def simulationScenario (permitted : Except AppError Unit) (session : Option SimulationSession) (deviceMode : String)
    (clockMs : Nat) (payload : SimulationScenarioRequest) : Except AppError SimulationSession := do
  permitted
  (validateScenarioName payload.scenario).mapError .badRequest
  match session with
  | none => throw (.badRequest s!"simulation mode is not active; current device mode is {deviceMode}")
  | some session => return session.switchScenario clockMs payload.scenario payload.seed payload.parameters

-- Any name but those of the scenarios is refused, and an accepted request starts its
-- scenario anew: its session then answers every reading exactly as long as the parameters
-- are in bounds at the ticks from the first one on.
theorem accepted_scenario_survives {session after : SimulationSession} {deviceMode : String} {clockMs : Nat}
    {payload : SimulationScenarioRequest} (permitted : Except AppError Unit)
    (accepted : simulationScenario permitted (some session) deviceMode clockMs payload = .ok after)
    (active : session.active = true) (endless : session.config.durationSeconds = none) {readings : List Reading}
    (room : readings.length < 2^64) (draws : Draws) :
    (scenarioOf payload.scenario).isSome = true ∧ after.config.scenario = payload.scenario ∧
    after.config.parameters = payload.parameters.getD session.config.parameters ∧
    (after.Survives readings draws ↔ ∀ i < readings.length, after.Fits (i+1)) := by
  obtain ⟨_,_,accepted⟩ := bind_ok accepted
  obtain ⟨_,valid,accepted⟩ := bind_ok accepted
  have named : (scenarioOf payload.scenario).isSome = true := by
    by_contra unknown
    rw [validateScenarioName,if_neg unknown] at valid
    cases valid
  obtain rfl := Except.ok.inj accepted
  refine ⟨named,rfl,rfl,?_⟩
  have survives := @SimulationSession.survives_iff (session.switchScenario clockMs payload.scenario payload.seed payload.parameters)
    draws readings active endless (by rw [SimulationSession.switchScenario,Nat.zero_add]; exact room)
  rw [survives]
  simp only [SimulationSession.switchScenario,Nat.zero_add]

def rampSession : SimulationSession := ⟨⟨"slow_rise",42,1,none,⟨none,none,none,none⟩⟩,true,5,0,none⟩

def freeze : SimulationScenarioRequest := ⟨"frozen_value",none,none⟩

theorem accepted_scenario_survives_frozen : (rampSession.switchScenario 0 "frozen_value" none none).Survives
    [⟨0,0,0,fun _ => 0⟩,⟨1000,1000,0,fun _ => 0⟩] stillDraws := by
  have frozen : scenarioOf "frozen_value" = some .frozenValue := by decide
  have accepted : simulationScenario (.ok ()) (some rampSession) "Simulation" 0 freeze =
      .ok (rampSession.switchScenario 0 "frozen_value" none none) := by
    have valid : validateScenarioName freeze.scenario = .ok () := by
      rw [validateScenarioName,if_pos]
      change (scenarioOf "frozen_value").isSome = true
      rw [frozen]
      rfl
    unfold simulationScenario
    rw [valid]
    rfl
  refine (accepted_scenario_survives (.ok ()) accepted rfl rfl (by decide) stillDraws).2.2.2.mpr fun i _ ctx _ _ => ?_
  change InBounds ctx "frozen_value"
  rw [InBounds,frozen]
  trivial

end ReactorOS
