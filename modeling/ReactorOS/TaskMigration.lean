import Mathlib.Data.List.MinMax
import ReactorOS.Rekey
import ReactorOS.Storage.Updates
namespace ReactorOS
open Storage

-- The table and the text that `sqlite_master` keeps for its unique index.
structure TaskSchema where
  columns : List String
  table : TaskTable
  uniqueIndex : Option String

-- status IN ('received', 'executing', 'executed')
def TaskRow.active (row : TaskRow) : Bool := ["received","executing","executed"].contains row.status

-- A comparison with NULL does not hold.
def sqlEqual (one other : Option String) : Bool :=
  match one,other with
  | some one,some other => one == other
  | _,_ => false

def TaskRow.sameTask (canonical duplicate : TaskRow) : Bool :=
  canonical.source == duplicate.source && sqlEqual canonical.externalTaskId duplicate.externalTaskId

-- UPDATE integration_tasks AS duplicate SET external_task_id = NULL WHERE ..
def duplicateRepair : Update TaskRow where
  selects rows duplicate := duplicate.externalTaskId.isSome && duplicate.active &&
    rows.any fun canonical => canonical.sameTask duplicate && canonical.active && decide (canonical.id < duplicate.id)
  set row := {row with externalTaskId := none}

theorem duplicateRepair_id (row : TaskRow) : (duplicateRepair.set row).id = row.id := rfl

def duplicateCount (table : TaskTable) : Nat := table.rows.countP (duplicateRepair.selects table.rows)

def TaskTable.repair (plan : UpdatePlan Int) (table : TaskTable) : TaskTable where
  rows := (duplicateRepair.run TaskRow.id table.rows plan).1
  ordered := by
    have ordered : (table.rows.map TaskRow.id).Pairwise (· < ·) := List.pairwise_map.mpr table.ordered
    rw [← Update.run_keys duplicateRepair_id plan] at ordered
    exact List.pairwise_map.mp ordered

def splitWhitespace (text : String) : List String :=
  ((text.toList.splitOnP isWhitespace).filter fun word => !word.isEmpty).map String.ofList

def normalizeSql (sql : String) : String := toAsciiLowercase (" ".intercalate (splitWhitespace sql))

def containsText (part text : String) : Bool := decide (part.toList <:+: text.toList)

def expectedIndex (existingSql : Option String) : Bool :=
  match existingSql.map normalizeSql with
  | none => false
  | some sql =>
      containsText "create unique index" sql &&
      containsText "on integration_tasks(source, external_task_id)" sql &&
      containsText "where external_task_id is not null" sql &&
      containsText "status in ('received', 'executing', 'executed')" sql

-- `plan` is how the engine runs the UPDATE.
def prepareIntegrationTaskUniqueIndex (plan : UpdatePlan Int) (schema : TaskSchema) : Except Failure TaskSchema :=
  if !schema.columns.contains "id" then
    .error ⟨"legacy integration_tasks schema is missing primary key column id; refusing a lossy automatic migration; preserve the database and run an explicit export/import migration",[]⟩
  else
    let expected := duplicateCount schema.table
    let schema := if !expectedIndex schema.uniqueIndex || 0 < expected then {schema with uniqueIndex := none} else schema
    if 0 < expected then
      let repaired := (duplicateRepair.run TaskRow.id schema.table.rows plan).2
      if repaired ≠ expected then
        .error ⟨s!"legacy integration task duplicate repair changed {repaired} rows but expected {expected}; rolling back migration",[]⟩
      else .ok {schema with table := schema.table.repair plan}
    else .ok schema

def TaskRow.conflicts (one other : TaskRow) : Bool := one.active && other.active && one.sameTask other

-- What the engine records of the statement.
def uniqueActiveIndexSql : String :=
  "CREATE UNIQUE INDEX idx_integration_tasks_unique_active_external_task_id\n    ON integration_tasks(source, external_task_id)\n    WHERE external_task_id IS NOT NULL\n      AND status IN ('received', 'executing', 'executed')"

-- CREATE UNIQUE INDEX IF NOT EXISTS. The other indexes refuse no row.
def createIndexes (schema : TaskSchema) : Except Failure TaskSchema :=
  if schema.uniqueIndex.isSome then .ok schema
  else if schema.table.rows.Pairwise fun one other => one.conflicts other = false then
    .ok {schema with uniqueIndex := some uniqueActiveIndexSql}
  else
    .error (.context "failed to create SQLite indexes after column migrations"
      ⟨"UNIQUE constraint failed: integration_tasks.source, integration_tasks.external_task_id",[]⟩)

def normalChars (sql : List Char) : List Char :=
  ([' '].intercalate ((sql.splitOnP isWhitespace).filter fun word => !word.isEmpty)).map Char.toLower

theorem normalizeSql_chars (sql : String) : (normalizeSql sql).toList = normalChars sql.toList := by
  unfold normalizeSql toAsciiLowercase splitWhitespace normalChars
  rw [String.toList_ofList,String.toList_intercalate,List.map_map]
  have same : String.toList ∘ String.ofList = id := funext fun _ => String.toList_ofList
  rw [same,List.map_id]
  rfl

-- The texts are compared as lists of characters.
theorem containsText_normal {part sql : String} {inner chars : List Char} (first : part = String.ofList inner)
    (text : sql = String.ofList chars) (inside : inner <:+: normalChars chars) : containsText part (normalizeSql sql) = true := by
  rw [containsText,normalizeSql_chars,first,text,String.toList_ofList,String.toList_ofList]
  exact decide_eq_true inside

set_option maxRecDepth 4000 in
theorem expectedIndex_created : expectedIndex (some uniqueActiveIndexSql) = true := by
  have create := @containsText_normal "create unique index" uniqueActiveIndexSql _ _ rfl rfl (by decide +kernel)
  have keys := @containsText_normal "on integration_tasks(source, external_task_id)" uniqueActiveIndexSql _ _ rfl rfl
    (by decide +kernel)
  have external := @containsText_normal "where external_task_id is not null" uniqueActiveIndexSql _ _ rfl rfl (by decide +kernel)
  have status := @containsText_normal "status in ('received', 'executing', 'executed')" uniqueActiveIndexSql _ _ rfl rfl
    (by decide +kernel)
  rw [expectedIndex,Option.map_some]
  simp only [create,keys,external,status,Bool.and_self]

-- An earlier active row holds the same external id of the same source.
def LaterDuplicate (rows : List TaskRow) (row : TaskRow) : Prop :=
  row.active ∧ ∃ external, row.externalTaskId = some external ∧
    ∃ canonical ∈ rows, canonical.active ∧ canonical.source = row.source ∧
      canonical.externalTaskId = some external ∧ canonical.id < row.id

-- The active rows that name one task.
def TaskTable.group (table : TaskTable) (source external : String) : List TaskRow :=
  table.rows.filter fun row => row.active ∧ row.source = source ∧ row.externalTaskId = some external

def TaskTable.UniqueActive (table : TaskTable) : Prop :=
  ∀ one ∈ table.rows, ∀ other ∈ table.rows, one.active → other.active → one.source = other.source →
    one.externalTaskId.isSome → one.externalTaskId = other.externalTaskId → one = other

structure Repaired (before after : TaskTable) : Prop where
  -- No row is lost or added, and none loses more than its external id.
  rows : List.Forall₂ (fun row row' => row' = row ∨ row' = {row with externalTaskId := none}) before.rows after.rows
  unique : after.UniqueActive
  -- In a group the row with the least id keeps the external id, and no other does.
  lowest : ∀ source external, ∀ row ∈ before.group source external,
    (∃ row' ∈ after.rows, row'.id = row.id ∧ row'.externalTaskId = some external) ↔
      ∀ other ∈ before.group source external, row.id ≤ other.id
  unchanged : ∀ row ∈ before.rows, ¬LaterDuplicate before.rows row → row ∈ after.rows

def changedRows (before after : TaskTable) : Nat :=
  (before.rows.zip after.rows).countP fun pair => pair.1 ≠ pair.2

theorem sqlEqual_iff {one other : Option String} :
    sqlEqual one other = true ↔ ∃ text, one = some text ∧ other = some text := by
  constructor
  · intro equal
    cases one with
    | none => cases equal
    | some text =>
        cases other with
        | none => cases equal
        | some text' => exact ⟨text,rfl,congrArg some (beq_iff_eq.mp equal).symm⟩
  · rintro ⟨text,rfl,rfl⟩
    exact beq_self_eq_true text

theorem selects_iff {rows : List TaskRow} {row : TaskRow} :
    duplicateRepair.selects rows row = true ↔ LaterDuplicate rows row := by
  simp only [duplicateRepair,TaskRow.sameTask,LaterDuplicate,Bool.and_eq_true,List.any_eq_true,beq_iff_eq,sqlEqual_iff,
    decide_eq_true_eq,Option.isSome_iff_exists]
  constructor
  · rintro ⟨⟨_,active⟩,canonical,member,⟨⟨source,external,held,named⟩,canonicalActive⟩,earlier⟩
    exact ⟨active,external,named,canonical,member,canonicalActive,source,held,earlier⟩
  · rintro ⟨active,external,named,canonical,member,canonicalActive,source,held,earlier⟩
    exact ⟨⟨⟨external,named⟩,active⟩,canonical,member,⟨⟨source,external,held,named⟩,canonicalActive⟩,earlier⟩

section Groups
variable {table : TaskTable} {source external : String} {row : TaskRow}

theorem mem_group : row ∈ table.group source external ↔
    row ∈ table.rows ∧ row.active ∧ row.source = source ∧ row.externalTaskId = some external := by
  simp [TaskTable.group]

theorem group_least (member : row ∈ table.group source external) :
    ∃ least ∈ table.group source external, ∀ other ∈ table.group source external, least.id ≤ other.id := by
  have ordered : (table.group source external).Pairwise fun one other => one.id < other.id := table.ordered.filter _
  cases found : table.group source external with
  | nil => simp [found] at member
  | cons least later =>
      rw [found] at ordered
      refine ⟨least,List.mem_cons_self,?_⟩
      intro other here
      rcases List.mem_cons.mp here with rfl | after
      · exact le_rfl
      · exact (List.rel_of_pairwise_cons ordered after).le

theorem same_of_id {one other : TaskRow} (here : one ∈ table.rows) (there : other ∈ table.rows) (same : one.id = other.id) :
    one = other := by
  have ids : (table.rows.map TaskRow.id).Nodup := by
    rw [List.Nodup,List.pairwise_map]
    exact table.ordered.imp ne_of_lt
  exact List.inj_on_of_nodup_map ids here there same

-- In its group a row is either the least or a later duplicate.
theorem laterDuplicate_group (member : row ∈ table.group source external) :
    LaterDuplicate table.rows row ↔ ∃ other ∈ table.group source external, other.id < row.id := by
  obtain ⟨_,active,rfl,named⟩ := mem_group.mp member
  constructor
  · rintro ⟨_,external',named',canonical,listed,canonicalActive,canonicalSource,held,earlier⟩
    obtain rfl : external = external' := by simpa [named] using named'
    exact ⟨canonical,mem_group.mpr ⟨listed,canonicalActive,canonicalSource,held⟩,earlier⟩
  · rintro ⟨other,there,earlier⟩
    obtain ⟨listed,otherActive,otherSource,held⟩ := mem_group.mp there
    exact ⟨active,external,named,other,listed,otherActive,otherSource,held,earlier⟩

end Groups

-- The least row of a group stays as it is, and it alone decides for the others.
theorem duplicateRepair_stable (table : TaskTable) : duplicateRepair.Stable table.rows := by
  intro seen row member _
  rw [Bool.eq_iff_iff,selects_iff,selects_iff]
  constructor
  · rintro ⟨active,external,named,canonical,changed,canonicalActive,source,held,earlier⟩
    obtain ⟨original,listed,rfl⟩ := List.mem_map.mp changed
    split at held
    · simp [duplicateRepair] at held
    · rename_i kept
      rw [if_neg kept] at canonicalActive source earlier
      exact ⟨active,external,named,original,listed,canonicalActive,source,held,earlier⟩
  · rintro ⟨active,external,named,canonical,listed,canonicalActive,source,held,earlier⟩
    obtain ⟨least,inGroup,least_le⟩ := group_least (mem_group.mpr ⟨listed,canonicalActive,source,held⟩)
    obtain ⟨leastListed,leastActive,leastSource,leastHeld⟩ := mem_group.mp inGroup
    have first : ¬duplicateRepair.selects table.rows least = true := by
      rw [selects_iff,laterDuplicate_group inGroup]
      rintro ⟨other,there,before⟩
      exact absurd (least_le other there) (not_le.mpr before)
    have stays : least ∈ duplicateRepair.after table.rows seen :=
      List.mem_map.mpr ⟨least,leastListed,if_neg fun both => first both.2⟩
    have before := least_le canonical (mem_group.mpr ⟨listed,canonicalActive,source,held⟩)
    exact ⟨active,external,named,least,stays,leastActive,leastSource,leastHeld,by omega⟩

section Repair
variable {plan : UpdatePlan Int} {table : TaskTable}

theorem repair_run (visits : plan.Visits TaskRow.id table.rows) :
    duplicateRepair.run TaskRow.id table.rows plan = duplicateRepair.collect table.rows :=
  Update.run_stable duplicateRepair_id (duplicateRepair_stable table) visits

theorem repair_rows (visits : plan.Visits TaskRow.id table.rows) : (table.repair plan).rows =
    table.rows.map fun row => if duplicateRepair.selects table.rows row then duplicateRepair.set row else row := by
  change (duplicateRepair.run TaskRow.id table.rows plan).1 = _
  rw [repair_run visits]
  rfl

theorem repair_mem (visits : plan.Visits TaskRow.id table.rows) {row' : TaskRow} : row' ∈ (table.repair plan).rows ↔
    ∃ row ∈ table.rows, (LaterDuplicate table.rows row ∧ row' = {row with externalTaskId := none}) ∨
      (¬LaterDuplicate table.rows row ∧ row' = row) := by
  rw [repair_rows visits,List.mem_map]
  refine exists_congr fun row => and_congr_right fun _ => ?_
  by_cases chosen : LaterDuplicate table.rows row
  · rw [if_pos (selects_iff.mpr chosen)]
    exact ⟨fun same => .inl ⟨chosen,same.symm⟩,fun either => (either.resolve_right fun other => other.1 chosen).2.symm⟩
  · rw [if_neg fun selected => chosen (selects_iff.mp selected)]
    exact ⟨fun same => .inr ⟨chosen,same.symm⟩,fun either => (either.resolve_left fun other => chosen other.1).2.symm⟩

theorem repaired (visits : plan.Visits TaskRow.id table.rows) : Repaired table (table.repair plan) := by
  refine ⟨?_,?_,?_,?_⟩
  · rw [repair_rows visits,List.forall₂_map_right_iff,List.forall₂_same]
    intro row _
    split
    · exact .inr rfl
    · exact .inl rfl
  · intro one here other there active otherActive source present same
    obtain ⟨row,listed,⟨_,rfl⟩ | ⟨kept,rfl⟩⟩ := (repair_mem visits).mp here
    · simp at present
    obtain ⟨row',listed',⟨_,rfl⟩ | ⟨kept',rfl⟩⟩ := (repair_mem visits).mp there
    · simp [same] at present
    obtain ⟨external,named⟩ := Option.isSome_iff_exists.mp present
    have member := mem_group.mpr ⟨listed,active,rfl,named⟩
    have member' := mem_group.mpr ⟨listed',otherActive,source.symm,same ▸ named⟩
    rw [laterDuplicate_group member] at kept
    rw [laterDuplicate_group member'] at kept'
    push Not at kept kept'
    exact same_of_id listed listed' (le_antisymm (kept _ member') (kept' _ member))
  · intro source external row member
    obtain ⟨listed,active,_,named⟩ := mem_group.mp member
    have later := laterDuplicate_group member
    constructor
    · rintro ⟨row',there,same,held⟩
      obtain ⟨original,listed',⟨_,rfl⟩ | ⟨kept,rfl⟩⟩ := (repair_mem visits).mp there
      · simp at held
      obtain rfl := same_of_id listed' listed same
      rw [later] at kept
      push Not at kept
      exact kept
    · intro least
      refine ⟨row,(repair_mem visits).mpr ⟨row,listed,.inr ⟨?_,rfl⟩⟩,rfl,named⟩
      rw [later]
      push Not
      exact least
  · intro row listed kept
    exact (repair_mem visits).mpr ⟨row,listed,.inr ⟨kept,rfl⟩⟩

theorem repair_changes (visits : plan.Visits TaskRow.id table.rows) :
    changedRows table (table.repair plan) = duplicateCount table := by
  have each : ∀ rows : List TaskRow, (rows.zip (rows.map fun row =>
      if duplicateRepair.selects table.rows row then duplicateRepair.set row else row)).countP (fun pair => pair.1 ≠ pair.2) =
      rows.countP (duplicateRepair.selects table.rows) := by
    intro rows
    rw [List.zip_map_right,List.zip,List.zipWith_self,List.map_map,List.countP_map]
    apply List.countP_congr
    intro row _
    by_cases chosen : duplicateRepair.selects table.rows row
    · obtain ⟨_,external,named,_⟩ := selects_iff.mp chosen
      have changed : row ≠ duplicateRepair.set row := by
        intro same
        rw [same] at named
        cases named
      simpa only [Function.comp_apply,Prod.map_apply,id_eq,chosen,if_true,decide_eq_true_eq,iff_true] using changed
    · simp [chosen]
  rw [changedRows,repair_rows visits]
  exact each table.rows

-- Where no active row repeats another, there is nothing to repair.
theorem duplicateCount_zero {table : TaskTable} (unique : table.UniqueActive) : duplicateCount table = 0 := by
  rw [duplicateCount,List.countP_eq_zero]
  intro row listed chosen
  obtain ⟨active,external,named,canonical,listed',canonicalActive,source,held,earlier⟩ := selects_iff.mp chosen
  have same := unique canonical listed' row listed canonicalActive active source (by simp [held]) (held.trans named.symm)
  exact absurd earlier (by simp [same])

theorem repair_clean (visits : plan.Visits TaskRow.id table.rows) (clean : duplicateCount table = 0) :
    table.repair plan = table := by
  have apart := List.countP_eq_zero.mp clean
  have same : (table.repair plan).rows = table.rows := by
    rw [repair_rows visits]
    conv_rhs => rw [← List.map_id table.rows]
    apply List.map_congr_left
    intro row listed
    rw [if_neg (apart row listed),id]
  cases repaired' : table.repair plan
  cases table
  simp_all

end Repair

section Migration
variable {plan : UpdatePlan Int} {schema : TaskSchema}

-- The schema as the repair leaves it. The check of the number of rows is always met.
theorem prepare_ok (named : "id" ∈ schema.columns) (visits : plan.Visits TaskRow.id schema.table.rows) :
    prepareIntegrationTaskUniqueIndex plan schema = .ok {schema with
      table := schema.table.repair plan
      uniqueIndex := if !expectedIndex schema.uniqueIndex || 0 < duplicateCount schema.table then none else schema.uniqueIndex} := by
  have met : (duplicateRepair.run TaskRow.id schema.table.rows plan).2 = duplicateCount schema.table := by
    rw [repair_run visits]
    rfl
  rw [prepareIntegrationTaskUniqueIndex,if_neg (by simpa using named)]
  by_cases some' : 0 < duplicateCount schema.table
  · simp [some',met]
  · have clean : duplicateCount schema.table = 0 := by omega
    rw [repair_clean visits clean]
    split <;> simp_all

theorem prepare_settled (named : "id" ∈ schema.columns) (visits : plan.Visits TaskRow.id schema.table.rows)
    (clean : duplicateCount schema.table = 0) (settled : schema.uniqueIndex = none ∨ expectedIndex schema.uniqueIndex) :
    prepareIntegrationTaskUniqueIndex plan schema = .ok schema := by
  rw [prepare_ok named visits,repair_clean visits clean,clean]
  rcases settled with absent | expected
  · cases schema
    simp_all
  · simp [expected]

theorem createIndexes_ok (unique : schema.table.UniqueActive) :
    createIndexes schema = .ok {schema with uniqueIndex := some (schema.uniqueIndex.getD uniqueActiveIndexSql)} := by
  have apart : schema.table.rows.Pairwise fun one other => one.conflicts other = false := by
    refine schema.table.ordered.imp_of_mem ?_
    intro one other here there earlier
    by_contra clash
    simp only [TaskRow.conflicts,TaskRow.sameTask,Bool.not_eq_false,Bool.and_eq_true,beq_iff_eq,sqlEqual_iff] at clash
    obtain ⟨⟨active,otherActive⟩,source,external,held,held'⟩ := clash
    have same := unique one here other there active otherActive source (by simp [held]) (held.trans held'.symm)
    exact absurd earlier (by simp [same])
  unfold createIndexes
  cases stored : schema.uniqueIndex with
  | none => rw [if_neg (by simp),if_pos apart,Option.getD_none]
  | some sql =>
      rw [if_pos (Option.isSome_some),Option.getD_some]
      cases schema
      simp_all

theorem duplicate_repair (schema : TaskSchema) (plan : UpdatePlan Int) (named : "id" ∈ schema.columns)
    (visits : plan.Visits TaskRow.id schema.table.rows) :
    ∃ after indexed, prepareIntegrationTaskUniqueIndex plan schema = .ok after ∧ after.columns = schema.columns ∧
      Repaired schema.table after.table ∧ changedRows schema.table after.table = duplicateCount schema.table ∧
      createIndexes after = .ok indexed ∧ indexed.table = after.table ∧
      ∀ next : UpdatePlan Int, next.Visits TaskRow.id after.table.rows →
        prepareIntegrationTaskUniqueIndex next after = .ok after ∧ prepareIntegrationTaskUniqueIndex next indexed = .ok indexed := by
  have fixed := repaired visits
  refine ⟨_,_,prepare_ok named visits,rfl,fixed,repair_changes visits,createIndexes_ok fixed.unique,rfl,?_⟩
  intro next again
  have clean := duplicateCount_zero fixed.unique
  constructor
  · refine prepare_settled named again clean ?_
    by_cases dropped : !expectedIndex schema.uniqueIndex || 0 < duplicateCount schema.table
    · exact .inl (if_pos dropped)
    · refine .inr ?_
      change expectedIndex (ite _ _ _) = true
      rw [if_neg dropped]
      simp only [Bool.or_eq_true,Bool.not_eq_true',not_or,Bool.not_eq_false] at dropped
      exact dropped.1
  · refine prepare_settled named again clean (.inr ?_)
    change expectedIndex (some ((ite _ _ _ : Option String).getD _)) = true
    by_cases dropped : !expectedIndex schema.uniqueIndex || 0 < duplicateCount schema.table
    · rw [if_pos dropped]
      exact expectedIndex_created
    · rw [if_neg dropped]
      simp only [Bool.or_eq_true,Bool.not_eq_true',not_or,Bool.not_eq_false] at dropped
      cases stored : schema.uniqueIndex with
      | none => simp [stored,expectedIndex] at dropped
      | some sql => exact stored ▸ dropped.1

-- Two tasks of one source in turn with two of another, the second of them at rest.
def mixedTasks : TaskSchema where
  columns := ["id","external_task_id","source","status"]
  table.rows := [("a","received"),("b","failed"),("a","executed"),("b","received"),("b","executing")].zipIdx.map
    fun (task,index) => ⟨index,some task.1,"ainas","set_targets",task.2,"{}","null","",""⟩
  table.ordered := by decide
  uniqueIndex := none

theorem duplicate_repair_mixed : ∃ after, prepareIntegrationTaskUniqueIndex (.inPlace [4,2,0,1,3]) mixedTasks = .ok after ∧
    after.table.rows.map (·.externalTaskId) = [some "a",some "b",none,some "b",none] := by
  obtain ⟨after,_,prepared,_⟩ := duplicate_repair mixedTasks (.inPlace [4,2,0,1,3]) (by decide) ⟨by decide,by decide⟩
  refine ⟨after,prepared,?_⟩
  have run : prepareIntegrationTaskUniqueIndex (.inPlace [4,2,0,1,3]) mixedTasks = .ok
    {mixedTasks with table := mixedTasks.table.repair (.inPlace [4,2,0,1,3])} := rfl
  obtain rfl := Except.ok.inj (prepared.symm.trans run)
  rfl

end Migration

end ReactorOS
