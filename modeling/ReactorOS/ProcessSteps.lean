import ReactorOS.RecordRanges
import ReactorOS.TargetLimits
namespace ReactorOS
variable {safety : SafetyConfig} {processId : Int}

def processRampRateCMinRange : SensorRange := ⟨"ramp_rate_c_min",-20,20⟩
def processDurationMinutesRange : SensorRange := ⟨"duration_minutes",1,1440⟩
def processPressureMpaRange : SensorRange := ⟨"target_pressure_mpa",0,10⟩

structure ProcessStepRequest where
  name : Option String := none
  targetTemperatureC : ℚ
  rampRateCMin : Option (Option ℚ) := none
  durationMinutes : ℚ
  targetStirrerRpm : ℚ
  targetShakeSpeedCpm : Option (Option ℚ) := none
  targetPressureMpa : Option (Option ℚ) := none
  coolingMode : Option String := none

structure NewProcessStep where
  name : String
  targetTemperatureC : ℚ
  rampRateCMin : ℚ
  durationMinutes : ℚ
  targetStirrerRpm : ℚ
  targetShakeSpeedCpm : ℚ
  targetPressureMpa : ℚ
  coolingMode : String
  deriving DecidableEq

-- What the editor asks of a step. The numbers are rounded after they have been looked at.
def validateProcessStep (safety : SafetyConfig) (payload : ProcessStepRequest) : Except AppError NewProcessStep := do
  let name := cleanLabel payload.name "新步骤" 80
  validateTargetTemperature safety payload.targetTemperatureC
  let rampRateCMin := (← optionalPresentNumber payload.rampRateCMin "ramp_rate_c_min").getD 0
  validateRange "ramp_rate_c_min" rampRateCMin (-20) 20
  validateRange "duration_minutes" payload.durationMinutes 1
    (max safety.optimizer.maxStirringMinutes safety.optimizer.maxHeatingMinutes)
  validateStirSpeed safety payload.targetStirrerRpm
  validateTargetPairAllowed safety payload.targetTemperatureC payload.targetStirrerRpm
  let targetShakeSpeedCpm := (← optionalPresentNumber payload.targetShakeSpeedCpm "target_shake_speed_cpm").getD 30
  validateRange "target_shake_speed_cpm" targetShakeSpeedCpm 0 60
  let targetPressureMpa := (← optionalPresentNumber payload.targetPressureMpa "target_pressure_mpa").getD (1/2)
  validateRange "target_pressure_mpa" targetPressureMpa 0 10
  let coolingMode := cleanLabel payload.coolingMode "自然" 20
  return {
    name := name
    targetTemperatureC := round2 payload.targetTemperatureC
    rampRateCMin := round2 rampRateCMin
    durationMinutes := round2 payload.durationMinutes
    targetStirrerRpm := round2 payload.targetStirrerRpm
    targetShakeSpeedCpm := round2 targetShakeSpeedCpm
    targetPressureMpa := round2 targetPressureMpa
    coolingMode := coolingMode }

-- The ranges that the table has for a step.
def NewProcessStep.validate (step : NewProcessStep) : Except String Unit := do
  targetTemperatureCRange.validate step.targetTemperatureC
  processRampRateCMinRange.validate step.rampRateCMin
  processDurationMinutesRange.validate step.durationMinutes
  targetStirrerRpmRange.validate step.targetStirrerRpm
  processShakeSpeedCpmRange.validate step.targetShakeSpeedCpm
  processPressureMpaRange.validate step.targetPressureMpa

def ensureValidProcessStepForInsert (step : NewProcessStep) : Except Failure Unit :=
  step.validate.mapError fun reason => ⟨s!"invalid process step rejected before DB insert: {reason}",[]⟩

structure ProcessStepRow where
  id : Int
  processId : Int
  stepIndex : Int
  step : NewProcessStep
  deriving DecidableEq

def ProcessStepRow.toProcessStep (row : ProcessStepRow) : ProcessStep where
  id := row.id
  targetTemperatureC := row.step.targetTemperatureC
  rampRateCMin := row.step.rampRateCMin
  durationMinutes := row.step.durationMinutes
  targetStirrerRpm := row.step.targetStirrerRpm
  targetShakeSpeedCpm := row.step.targetShakeSpeedCpm
  targetPressureMpa := row.step.targetPressureMpa

def processStepFromRow (row : ProcessStepRow) : Except Failure ProcessStepRow :=
  match row.step.validate with
  | .ok () => .ok row
  | .error reason => .error ⟨s!"invalid process step in database: process step {row.id} {reason}",[]⟩

-- ORDER BY step_index ASC, id ASC
def ProcessStepRow.Before (one other : ProcessStepRow) : Prop :=
  one.stepIndex < other.stepIndex ∨ one.stepIndex = other.stepIndex ∧ one.id ≤ other.id
instance : DecidableRel ProcessStepRow.Before := fun one other => by
  unfold ProcessStepRow.Before
  infer_instance

structure StepTable where
  processes : List Int
  rows : List ProcessStepRow
  nextId : Int

namespace StepTable

def ofProcess (table : StepTable) (processId : Int) : List ProcessStepRow :=
  (table.rows.filter fun row => row.processId = processId).insertionSort ProcessStepRow.Before

def processSteps (table : StepTable) (processId : Int) : Except Failure (List ProcessStepRow) :=
  (table.ofProcess processId).mapM processStepFromRow

-- COALESCE(MAX(step_index), 0) + 1
def nextIndex (table : StepTable) (processId : Int) : Int :=
  (((table.ofProcess processId).map ProcessStepRow.stepIndex).max?.getD 0)+1

-- `audit` is what becomes of the control event. Its failure takes the step back with it.
def addProcessStepWithAudit (table : StepTable) (processId : Int) (step : NewProcessStep) (audit : Except Failure Unit) :
    Except Failure (Option ProcessStepRow × StepTable) := do
  if !table.processes.contains processId then return (none,table)
  ensureValidProcessStepForInsert step
  let row : ProcessStepRow := ⟨table.nextId,processId,table.nextIndex processId,step⟩
  audit
  let found ← processStepFromRow row
  return (some found,{table with rows := table.rows ++ [row], nextId := table.nextId+1})

def updateProcessStepWithAudit (table : StepTable) (processId stepId : Int) (step : NewProcessStep)
    (audit : Except Failure Unit) : Except Failure (Option ProcessStepRow × StepTable) :=
  match table.rows.find? fun row => row.id = stepId with
  | none => return (none,table)
  | some existing => do
      let existing ← processStepFromRow existing
      if existing.processId ≠ processId then return (none,table)
      ensureValidProcessStepForInsert step
      audit
      let found ← processStepFromRow {existing with step := step}
      return (some found,{table with rows := table.rows.map fun row =>
        if row.id = stepId ∧ row.processId = processId then {row with step := step} else row})

end StepTable

-- A handler answers, and leaves the table as it was unless the transaction has gone through.
def answerStep (missing : String) (table : StepTable) (done : Except Failure (Option ProcessStepRow × StepTable)) :
    Except AppError ProcessStepRow × StepTable :=
  match done with
  | .error failure => (.error (.internal failure),table)
  | .ok (none,after) => (.error (.notFound missing),after)
  | .ok (some row,after) => (.ok row,after)

def addProcessStep (safety : SafetyConfig) (table : StepTable) (processId : Int) (payload : ProcessStepRequest)
    (audit : Except Failure Unit) : Except AppError ProcessStepRow × StepTable :=
  match validateProcessStep safety payload with
  | .error err => (.error err,table)
  | .ok step => answerStep "process not found" table (table.addProcessStepWithAudit processId step audit)

def updateProcessStep (safety : SafetyConfig) (table : StepTable) (processId stepId : Int) (payload : ProcessStepRequest)
    (audit : Except Failure Unit) : Except AppError ProcessStepRow × StepTable :=
  match validateProcessStep safety payload with
  | .error err => (.error err,table)
  | .ok step => answerStep "process step not found" table (table.updateProcessStepWithAudit processId stepId step audit)

inductive StepEdit where
  | created (processId : Int)
  | added (processId : Int) (payload : ProcessStepRequest) (audit : Except Failure Unit)
  | updated (processId stepId : Int) (payload : ProcessStepRequest) (audit : Except Failure Unit)

def StepTable.edit (safety : SafetyConfig) (table : StepTable) : StepEdit → StepTable
  | .created processId => {table with processes := table.processes ++ [processId]}
  | .added processId payload audit => (ReactorOS.addProcessStep safety table processId payload audit).2
  | .updated processId stepId payload audit => (ReactorOS.updateProcessStep safety table processId stepId payload audit).2

def StepTable.empty : StepTable := ⟨[],[],1⟩

-- What the editor has let into the table.
def Admitted (safety : SafetyConfig) (step : NewProcessStep) : Prop :=
  (∃ payload, validateProcessStep safety payload = .ok step) ∧ step.validate = .ok ()

theorem ensureValidProcessStepForInsert_ok {step : NewProcessStep} :
    ensureValidProcessStepForInsert step = .ok () ↔ step.validate = .ok () := by
  unfold ensureValidProcessStepForInsert
  cases step.validate with
  | ok done => exact iff_of_true rfl rfl
  | error reason =>
      constructor
      · intro same
        cases same
      · intro same
        cases same

theorem processStepFromRow_ok {row found : ProcessStepRow} :
    processStepFromRow row = .ok found ↔ row.step.validate = .ok () ∧ found = row := by
  unfold processStepFromRow
  cases row.step.validate with
  | error reason =>
      constructor
      · intro same
        cases same
      · intro same
        cases same.1
  | ok done =>
      constructor
      · intro same
        cases same
        exact ⟨rfl,rfl⟩
      · intro same
        rw [same.2]

namespace StepTable
variable {table after : StepTable} {step : NewProcessStep} {audit : Except Failure Unit} {found : Option ProcessStepRow}

theorem added_rows (done : table.addProcessStepWithAudit processId step audit = .ok (found,after)) :
    after = table ∨ step.validate = .ok () ∧ ∃ row : ProcessStepRow, row.step = step ∧ after.rows = table.rows ++ [row] := by
  unfold addProcessStepWithAudit at done
  split at done
  · cases done
    exact .inl rfl
  · obtain ⟨_,checked,done⟩ := Wire.bind_ok done
    obtain ⟨_,_,done⟩ := Wire.bind_ok done
    obtain ⟨_,_,done⟩ := Wire.bind_ok done
    cases done
    exact .inr ⟨ensureValidProcessStepForInsert_ok.mp checked,_,rfl,rfl⟩

theorem updated_rows {stepId : Int} (done : table.updateProcessStepWithAudit processId stepId step audit = .ok (found,after)) :
    after = table ∨ step.validate = .ok () ∧ ∀ row ∈ after.rows, row ∈ table.rows ∨ row.step = step := by
  unfold updateProcessStepWithAudit at done
  split at done
  · cases done
    exact .inl rfl
  · obtain ⟨existing,_,done⟩ := Wire.bind_ok done
    split at done
    · cases done
      exact .inl rfl
    · obtain ⟨_,checked,done⟩ := Wire.bind_ok done
      obtain ⟨_,_,done⟩ := Wire.bind_ok done
      obtain ⟨_,_,done⟩ := Wire.bind_ok done
      cases done
      refine .inr ⟨ensureValidProcessStepForInsert_ok.mp checked,?_⟩
      intro row member
      obtain ⟨before,was,rfl⟩ := List.mem_map.mp member
      split
      · exact .inr rfl
      · exact .inl was

theorem mem_ofProcess {row : ProcessStepRow} : row ∈ table.ofProcess processId ↔ row ∈ table.rows ∧ row.processId = processId := by
  unfold ofProcess
  rw [List.mem_insertionSort,List.mem_filter,decide_eq_true_iff]

-- The table that an answer leaves behind.
theorem answerStep_table (missing : String) (table : StepTable) (done : Except Failure (Option ProcessStepRow × StepTable)) :
    (answerStep missing table done).2 = table ∨ ∃ found, done = .ok (found,(answerStep missing table done).2) := by
  cases done with
  | error failure => exact .inl rfl
  | ok result =>
      obtain ⟨found,after⟩ := result
      cases found with
      | none => exact .inr ⟨none,rfl⟩
      | some row => exact .inr ⟨some row,rfl⟩

theorem addProcessStep_admitted {payload : ProcessStepRequest} (admitted : ∀ row ∈ table.rows, Admitted safety row.step) :
    ∀ row ∈ (addProcessStep safety table processId payload audit).2.rows, Admitted safety row.step := by
  unfold addProcessStep
  cases valid : validateProcessStep safety payload with
  | error err => exact admitted
  | ok step =>
      rcases answerStep_table "process not found" table (table.addProcessStepWithAudit processId step audit) with
        same | ⟨found,done⟩
      · simpa only [same] using admitted
      · rcases added_rows done with same | ⟨checked,row,given,same⟩
        · simpa only [same] using admitted
        · simp only [same]
          refine List.forall_mem_append.mpr ⟨admitted,List.forall_mem_singleton.mpr ?_⟩
          rw [given]
          exact ⟨⟨payload,valid⟩,checked⟩

theorem updateProcessStep_admitted {stepId : Int} {payload : ProcessStepRequest}
    (admitted : ∀ row ∈ table.rows, Admitted safety row.step) :
    ∀ row ∈ (updateProcessStep safety table processId stepId payload audit).2.rows, Admitted safety row.step := by
  unfold updateProcessStep
  cases valid : validateProcessStep safety payload with
  | error err => exact admitted
  | ok step =>
      rcases answerStep_table "process step not found" table
        (table.updateProcessStepWithAudit processId stepId step audit) with same | ⟨found,done⟩
      · simpa only [same] using admitted
      · rcases updated_rows done with same | ⟨checked,kept⟩
        · simpa only [same] using admitted
        · intro row member
          rcases kept row member with was | given
          · exact admitted row was
          · rw [given]
            exact ⟨⟨payload,valid⟩,checked⟩

-- No edit brings in a step that the editor has not accepted.
theorem edit_admitted (edit : StepEdit) (admitted : ∀ row ∈ table.rows, Admitted safety row.step) :
    ∀ row ∈ (table.edit safety edit).rows, Admitted safety row.step := by
  cases edit with
  | created processId => exact admitted
  | added processId payload audit => exact addProcessStep_admitted admitted
  | updated processId stepId payload audit => exact updateProcessStep_admitted admitted

theorem edits_admitted (edits : List StepEdit) :
    ∀ row ∈ (edits.foldl (edit safety) empty).rows, Admitted safety row.step := by
  have run : ∀ table : StepTable, (∀ row ∈ table.rows, Admitted safety row.step) →
      ∀ row ∈ (edits.foldl (edit safety) table).rows, Admitted safety row.step := by
    induction edits with
    | nil => exact fun _ admitted => admitted
    | cons first rest ih => exact fun table admitted => ih _ (edit_admitted first admitted)
  exact run empty (List.forall_mem_nil _)

-- What has been admitted can be read back.
theorem admitted_reads (admitted : ∀ row ∈ table.rows, row.processId = processId → Admitted safety row.step) :
    table.processSteps processId = .ok (table.ofProcess processId) := by
  apply Wire.mapM_ok.mpr
  apply List.forall₂_same.mpr
  intro row member
  obtain ⟨stored,same⟩ := mem_ofProcess.mp member
  exact processStepFromRow_ok.mpr ⟨(admitted row stored same).2,rfl⟩

end StepTable
end ReactorOS
