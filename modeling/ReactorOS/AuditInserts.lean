import ReactorOS.AuditVerifier
import Mathlib.Data.List.Nodup
import Mathlib.Data.Rat.Encodable
namespace ReactorOS
open Wire HashChain

-- The signs that zeros among the targets have.
structure ZeroSigns where
  temperature : Bool
  stirrer : Bool
  shake : Bool

def ZeroSigns.plus : ZeroSigns := ⟨false,false,false⟩

-- An event, the time it is written under and the signs of its zeros.
structure AuditWrite where
  event : ControlEvent
  moment : Instant
  minus : ZeroSigns

namespace AuditWrite
variable (write : AuditWrite)

def targetTemperatureC : Option Double := write.event.command.map fun command =>
  .signed write.minus.temperature command.targetTemperatureC

def targetStirrerRpm : Option Double := write.event.command.map fun command =>
  .signed write.minus.stirrer command.targetStirrerRpm

def targetShakeSpeedCpm : Option Double := write.event.command.map fun command =>
  .signed write.minus.shake command.targetShakeSpeedCpm

-- No target is minus zero.
structure Plain : Prop where
  temperature : write.targetTemperatureC ≠ some .minusZero
  stirrer : write.targetStirrerRpm ≠ some .minusZero
  shake : write.targetShakeSpeedCpm ≠ some .minusZero

end AuditWrite

-- What the driver answers to the statements of an insert: its error, if any.
structure InsertFaults where
  tail : Option String
  insert : Option String

structure SqlxFaults extends InsertFaults where
  start : Option String
  commit : Option String

def answered (fault : Option String) : Except String Unit :=
  match fault with
  | some err => .error err
  | none => .ok ()

-- An error shows the outermost of its contexts.
def context {α : Type} (message : String) (result : Except String α) : Except String α := result.mapError fun _ => message

def ensureValidControlEventTargetsForInsert (targetTemperatureC targetStirrerRpm targetShakeSpeedCpm : Option ℚ) :
    Except String Unit :=
  (validateControlEventTargets targetTemperatureC targetStirrerRpm targetShakeSpeedCpm).mapError
    fun reason => s!"invalid control event target rejected before DB insert: {reason}"

def ensureValidWrite (event : ControlEvent) : Except String Unit :=
  ensureValidControlEventTargetsForInsert (event.command.map (·.targetTemperatureC))
    (event.command.map (·.targetStirrerRpm)) (event.command.map (·.targetShakeSpeedCpm))

section Codec
variable (codec : AuditCodec)

def controlEventRow (write : AuditWrite) (previousHash : Option String) (id : Int) : ControlEventRow where
  id := id
  batchId := write.event.batchId
  eventType := write.event.eventType
  targetTemperatureC := write.targetTemperatureC.map Double.value
  targetStirrerRpm := write.targetStirrerRpm.map Double.value
  targetShakeSpeedCpm := write.targetShakeSpeedCpm.map Double.value
  reason := write.event.reason
  actor := write.event.actor.username
  role := write.event.actor.role
  createdAt := codec.toRfc3339 write.moment
  previousHash := previousHash
  eventHash := some (controlEventHash codec previousHash write.event.batchId write.event.eventType
    write.targetTemperatureC write.targetStirrerRpm write.targetShakeSpeedCpm write.event.reason
    (codec.toRfc3339 write.moment))

def ControlEventTable.store (write : AuditWrite) (previousHash : Option String) (table : ControlEventTable) :
    ControlEventTable := table.insert (controlEventRow codec write previousHash) fun _ => rfl

namespace ControlEventTable

-- `insert_control_event` runs its two statements on the write connection by themselves.
def insertControlEventRead (fault : Option String) (table : ControlEventTable) : Except String (Option String) := do
  answered fault
  return table.previousHash

def insertControlEventWrite (write : AuditWrite) (previousHash : Option String) (fault : Option String)
    (table : ControlEventTable) : Except String ControlEventTable := do
  ensureValidWrite write.event
  answered fault
  return table.store codec write previousHash

def insertControlEventInTx (driver : String) (write : AuditWrite) (faults : InsertFaults) (table : ControlEventTable) :
    Except String ControlEventTable := do
  context s!"failed to read previous audit hash{driver}" (answered faults.tail)
  ensureValidWrite write.event
  context s!"failed to insert audit event{driver}" (answered faults.insert)
  return table.store codec write table.previousHash

def insertControlEventInRusqliteTx : AuditWrite → InsertFaults → ControlEventTable → Except String ControlEventTable :=
  insertControlEventInTx codec ""

def insertControlEventInSqlxTx : AuditWrite → InsertFaults → ControlEventTable → Except String ControlEventTable :=
  insertControlEventInTx codec " with SQLx"

def insertControlEventSqlx (write : AuditWrite) (faults : SqlxFaults) (table : ControlEventTable) :
    Except String ControlEventTable := do
  context "failed to begin audit insert transaction with SQLx" (answered faults.start)
  let table ← insertControlEventInSqlxTx codec write faults.toInsertFaults table
  context "failed to commit audit insert transaction with SQLx" (answered faults.commit)
  return table

end ControlEventTable

-- A caller's transaction with its audited inserts and what became of the rest of it.
def auditTransaction (insert : AuditWrite → InsertFaults → ControlEventTable → Except String ControlEventTable)
    (writes : List (AuditWrite × InsertFaults)) (rest : Option String) (table : ControlEventTable) :
    Except String ControlEventTable := do
  let table ← writes.foldlM (fun table write => insert write.1 write.2 table) table
  answered rest
  return table

-- A writer on the write connection between its two statements.
structure PendingEvent where
  write : AuditWrite
  previousHash : Option String

structure AuditStore where
  table : ControlEventTable
  pending : Option PendingEvent

inductive AuditAction where
  | insertControlEvent (write : AuditWrite) (fault : Option String)
  | insertControlEventRow (fault : Option String)
  | insertControlEventSqlx (write : AuditWrite) (faults : SqlxFaults)
  | rusqliteTransaction (writes : List (AuditWrite × InsertFaults)) (rest : Option String)
  | sqlxTransaction (writes : List (AuditWrite × InsertFaults)) (rest : Option String)

namespace AuditStore

def settle (store : AuditStore) (writes : List AuditWrite) (result : Except String ControlEventTable) :
    Except String (List AuditWrite) × AuditStore :=
  match result with
  | .ok table => (.ok writes,{ store with table := table })
  | .error err => (.error err,store)

-- The write connection is one writer's at a time, the others wait.
def beginInsert (store : AuditStore) (write : AuditWrite) (fault : Option String) :
    Except String (List AuditWrite) × AuditStore :=
  match store.pending with
  | some _ => (.ok [],store)
  | none =>
      match ControlEventTable.insertControlEventRead fault store.table with
      | .ok previousHash => (.ok [],{ store with pending := some ⟨write,previousHash⟩ })
      | .error err => (.error err,store)

def finishInsert (store : AuditStore) (fault : Option String) : Except String (List AuditWrite) × AuditStore :=
  match store.pending with
  | some pending => settle { store with pending := none } [pending.write]
      (ControlEventTable.insertControlEventWrite codec pending.write pending.previousHash fault store.table)
  | none => (.ok [],store)

def rusqliteTransaction (store : AuditStore) (writes : List (AuditWrite × InsertFaults)) (rest : Option String) :
    Except String (List AuditWrite) × AuditStore :=
  match store.pending with
  | some _ => (.ok [],store)
  | none => store.settle (writes.map (·.1))
      (auditTransaction (ControlEventTable.insertControlEventInRusqliteTx codec) writes rest store.table)

-- Without a pool the SQLx variants are the plain ones.
def step (pool : Bool) (store : AuditStore) : AuditAction → Except String (List AuditWrite) × AuditStore
  | .insertControlEvent write fault => store.beginInsert write fault
  | .insertControlEventRow fault => store.finishInsert codec fault
  | .insertControlEventSqlx write faults =>
      if pool = true then store.settle [write] (ControlEventTable.insertControlEventSqlx codec write faults store.table)
      else store.beginInsert write faults.tail
  | .rusqliteTransaction writes rest => store.rusqliteTransaction codec writes rest
  | .sqlxTransaction writes rest =>
      if pool = true then
        store.settle (writes.map (·.1))
          (auditTransaction (ControlEventTable.insertControlEventInSqlxTx codec) writes rest store.table)
      else store.rusqliteTransaction codec writes rest

def committed (result : Except String (List AuditWrite)) : List AuditWrite :=
  match result with
  | .ok writes => writes
  | .error _ => []

def run (pool : Bool) : AuditStore → List AuditAction → List AuditWrite × AuditStore
  | store,[] => ([],store)
  | store,action :: actions =>
      let (result,next) := store.step codec pool action
      let (writes,last) := run pool next actions
      (committed result ++ writes,last)

-- An insert that nothing keeps from committing.
def Commits (write : AuditWrite × InsertFaults) : Prop :=
  write.2 = ⟨none,none⟩ ∧ ensureValidWrite write.1.event = .ok ()

-- Where the plain insert writes its row, the chain still ends as it has read; and what is
-- committed holds no minus zero.
def Current (pool : Bool) (store : AuditStore) : AuditAction → Prop
  | .insertControlEvent _ _ => True
  | .insertControlEventRow fault => ∀ pending, store.pending = some pending → fault = none →
      ensureValidWrite pending.write.event = .ok () →
        pending.previousHash = store.table.previousHash ∧ pending.write.Plain
  | .insertControlEventSqlx write faults => pool = true → faults.start = none ∧ faults.commit = none →
      Commits (write,faults.toInsertFaults) → write.Plain
  | .rusqliteTransaction writes rest => store.pending = none → rest = none → (∀ write ∈ writes, Commits write) →
      ∀ write ∈ writes, write.1.Plain
  | .sqlxTransaction writes rest => pool = true ∨ store.pending = none → rest = none →
      (∀ write ∈ writes, Commits write) → ∀ write ∈ writes, write.1.Plain

def CurrentRun (pool : Bool) : AuditStore → List AuditAction → Prop
  | _,[] => True
  | store,action :: actions => store.Current pool action ∧ CurrentRun pool (store.step codec pool action).2 actions

end AuditStore

def ValidChain (table : ControlEventTable) : Prop :=
  ∃ status, fullAuditChainStatusForDiagnostics codec table = .ok status ∧ status.brokenEvents = 0

def ValidWindow (table : ControlEventTable) : Prop :=
  ∃ status, auditChainStatus codec table = .ok status ∧ status.brokenEvents = 0

-- A row holds what was written.
def Stores (row : ControlEventRow) (write : AuditWrite) : Prop :=
  ∃ previousHash, row = controlEventRow codec write previousHash row.id

def Appended (writes : List AuditWrite) (old new : ControlEventTable) : Prop :=
  ∃ rows, new.rows = old.rows ++ rows ∧ List.Forall₂ (Stores codec) rows writes

variable {codec}

theorem validChain_iff {table : ControlEventTable} : ValidChain codec table ↔
    ∃ links, List.Forall₂ (Readable codec) table.hashed links ∧ Intact codec.seal none links := by
  simp only [ValidChain,full_spec (· = 0),broken_zero]

theorem validWindow_iff {table : ControlEventTable} : ValidWindow codec table ↔
    ∃ links, List.Forall₂ (Readable codec) table.window links ∧
      Intact codec.seal (windowStart table.truncated links) links := by
  simp only [ValidWindow,window_spec (· = 0),broken_zero]

theorem within_limit {table : ControlEventTable} (whole : table.truncated = false) :
    table.hashed.length-auditChainCheckLimit = 0 := by
  simp only [ControlEventTable.truncated,decide_eq_false_iff_not] at whole
  omega

theorem validChain_window {table : ControlEventTable} (valid : ValidChain codec table) : ValidWindow codec table := by
  obtain ⟨links,readable,intact⟩ := validChain_iff.mp valid
  have within : List.Forall₂ (Readable codec) table.window (links.drop (table.hashed.length-auditChainCheckLimit)) := by
    unfold ControlEventTable.window
    exact List.forall₂_drop _ readable
  refine validWindow_iff.mpr ⟨_,within,?_⟩
  cases truncated : table.truncated with
  | true =>
      cases window : links.drop (table.hashed.length-auditChainCheckLimit) with
      | nil => trivial
      | cons link newer =>
          have parts := List.take_append_drop (table.hashed.length-auditChainCheckLimit) links
          rw [window] at parts
          rw [←parts] at intact
          change Intact codec.seal link.previous (link :: newer)
          generalize List.take _ links = older at intact
          exact intact_window intact
  | false =>
      rw [within_limit truncated]
      exact intact

theorem previousHash_tail {table : ControlEventTable} {links : List AuditLink}
    (readable : List.Forall₂ (Readable codec) table.hashed links) : table.previousHash = tail none links := by
  unfold ControlEventTable.previousHash
  cases hashed : table.hashed using List.reverseRecOn with
  | nil =>
      rw [hashed,List.forall₂_nil_left_iff] at readable
      rw [readable]
      rfl
  | append_singleton rows row =>
      rw [hashed] at readable
      obtain ⟨older,link,_,last,rfl⟩ := forall₂_snoc.mp readable
      rw [tail_snoc,readable_hash last,List.getLast?_concat]
      rfl

theorem hashed_store {table : ControlEventTable} {write : AuditWrite} {previousHash : Option String} :
    (table.store codec write previousHash).hashed = table.hashed ++ [controlEventRow codec write previousHash table.nextId] := by
  unfold ControlEventTable.store ControlEventTable.insert ControlEventTable.hashed
  rw [List.filter_append]
  rfl

@[simp] theorem stored_temperature (write : AuditWrite) :
    write.targetTemperatureC.map Double.value = write.event.command.map (·.targetTemperatureC) := by
  simp [AuditWrite.targetTemperatureC,Function.comp_def]

@[simp] theorem stored_stirrer (write : AuditWrite) :
    write.targetStirrerRpm.map Double.value = write.event.command.map (·.targetStirrerRpm) := by
  simp [AuditWrite.targetStirrerRpm,Function.comp_def]

@[simp] theorem stored_shake (write : AuditWrite) :
    write.targetShakeSpeedCpm.map Double.value = write.event.command.map (·.targetShakeSpeedCpm) := by
  simp [AuditWrite.targetShakeSpeedCpm,Function.comp_def]

-- A target is read back as it was hashed exactly if it is not minus zero.
theorem read_back {target : Option Double} :
    (target.map Double.value).map Double.number = target ↔ target ≠ some .minusZero := by
  constructor
  · rintro back rfl
    cases back
  · intro plain
    cases target with
    | none => rfl
    | some double => exact congrArg some (Double.number_value fun zero => plain (congrArg some zero))

theorem ensureValidWrite_ok {write : AuditWrite} (valid : ensureValidWrite write.event = .ok ()) :
    validateControlEventTargets (write.targetTemperatureC.map Double.value) (write.targetStirrerRpm.map Double.value)
      (write.targetShakeSpeedCpm.map Double.value) = .ok () := by
  rw [stored_temperature,stored_stirrer,stored_shake]
  unfold ensureValidWrite ensureValidControlEventTargetsForInsert at valid
  cases checked : validateControlEventTargets (write.event.command.map (·.targetTemperatureC))
      (write.event.command.map (·.targetStirrerRpm)) (write.event.command.map (·.targetShakeSpeedCpm)) with
  | error err =>
      rw [checked] at valid
      cases valid
  | ok _ => rfl

theorem optionalNumber_injective {one two : Option Double} (same : optionalNumber codec one = optionalNumber codec two) :
    one = two := by
  cases one with
  | none =>
      cases two with
      | none => rfl
      | some two => cases same
  | some one =>
      cases two with
      | none => cases same
      | some two =>
          have texts : codec.double one = codec.double two := JsonValue.number.inj same
          cases one with
          | number value =>
              cases two with
              | number other => rw [codec.number_injective texts]
              | minusZero => exact absurd texts (codec.minusZero_apart value)
          | minusZero =>
              cases two with
              | number other => exact absurd texts.symm (codec.minusZero_apart other)
              | minusZero => rfl

theorem optionalInt_wellFormed (value : Option Int) : (optionalInt value).wellFormed := by
  cases value with
  | none => trivial
  | some value => exact int_text_numeric value

theorem optionalNumber_wellFormed (value : Option Double) : (optionalNumber codec value).wellFormed := by
  cases value with
  | none => trivial
  | some double =>
      cases double with
      | number value => exact codec.numeric value
      | minusZero => exact codec.minusZero_numeric

theorem optionalText_wellFormed (value : Option String) : (optionalText value).wellFormed := by
  cases value <;> trivial

theorem string_wellFormed (text : String) : (JsonValue.string text).wellFormed := trivial

-- Without collisions a hash determines what is written into it.
theorem controlEventHash_injective (collisionFree : Function.Injective codec.digest)
    {previous previous' : Option String} {batchId batchId' : Option Int} {eventType eventType' : String}
    {temperature temperature' stirrer stirrer' shake shake' : Option Double} {reason reason' createdAt createdAt' : String}
    (same : controlEventHash codec previous batchId eventType temperature stirrer shake reason createdAt =
      controlEventHash codec previous' batchId' eventType' temperature' stirrer' shake' reason' createdAt') :
    [optionalInt batchId,.string createdAt,.string eventType,optionalText previous,.string reason] =
        [optionalInt batchId',.string createdAt',.string eventType',optionalText previous',.string reason'] ∧
      temperature = temperature' ∧ stirrer = stirrer' ∧ shake = shake' := by
  have values := renderObject_injective rfl rfl ?_ ?_ (collisionFree same)
  · simp only [List.cons.injEq,and_true] at values ⊢
    obtain ⟨batch,time,kind,link,why,shakes,stirrers,temperatures⟩ := values
    exact ⟨⟨batch,time,kind,link,why⟩,optionalNumber_injective temperatures,optionalNumber_injective stirrers,
      optionalNumber_injective shakes⟩
  · simp [optionalInt_wellFormed,optionalNumber_wellFormed,optionalText_wellFormed,string_wellFormed]
  · simp [optionalInt_wellFormed,optionalNumber_wellFormed,optionalText_wellFormed,string_wellFormed]

-- The verifier reads the row of a valid write, and hashes the text that the writer has
-- hashed; not where a target was minus zero.
theorem readable_row {write : AuditWrite} {previousHash : Option String} {id : Int}
    (valid : ensureValidWrite write.event = .ok ()) :
    ∃ link, Readable codec (controlEventRow codec write previousHash id) link ∧ link.previous = previousHash ∧
      (write.Plain → link.hash = some (codec.seal link.previous link.body)) ∧
      (Function.Injective codec.digest → link.hash = some (codec.seal link.previous link.body) → write.Plain) := by
  have time := codec.parse_toRfc3339 write.moment
  refine ⟨⟨previousHash,(controlEventRow codec write previousHash id).eventHash,⟨_,_,_,_,_,_,write.moment⟩⟩,
    readable_iff.mpr ⟨time,ensureValidWrite_ok valid,rfl⟩,rfl,?_,?_⟩
  · intro plain
    simp only [controlEventRow,AuditCodec.seal,read_back.mpr plain.temperature,read_back.mpr plain.stirrer,
      read_back.mpr plain.shake]
  · intro collisionFree same
    obtain ⟨_,temperature,stirrer,shake⟩ := controlEventHash_injective collisionFree (Option.some.inj same)
    exact ⟨read_back.mp temperature.symm,read_back.mp stirrer.symm,read_back.mp shake.symm⟩

-- The chain of one table is as valid as that of another and a condition together.
structure ChainGiven (codec : AuditCodec) (old new : ControlEventTable) (condition : Prop) : Prop where
  kept : ValidChain codec old → condition → ValidChain codec new
  needed : Function.Injective codec.digest → ValidChain codec new → ValidChain codec old ∧ condition

theorem ChainGiven.refl {table : ControlEventTable} : ChainGiven codec table table True :=
  ⟨fun valid _ => valid,fun _ valid => ⟨valid,trivial⟩⟩

theorem ChainGiven.trans {old middle new : ControlEventTable} {one two : Prop} (first : ChainGiven codec old middle one)
    (second : ChainGiven codec middle new two) : ChainGiven codec old new (one ∧ two) where
  kept valid both := second.kept (first.kept valid both.1) both.2
  needed collisionFree valid := by
    obtain ⟨between,later⟩ := second.needed collisionFree valid
    obtain ⟨before,earlier⟩ := first.needed collisionFree between
    exact ⟨before,earlier,later⟩

theorem ChainGiven.congr {old new : ControlEventTable} {one two : Prop} (carries : ChainGiven codec old new one)
    (same : one ↔ two) : ChainGiven codec old new two := by rwa [←propext same]

theorem chainGiven_store {table : ControlEventTable} {write : AuditWrite} {previousHash : Option String}
    (valid : ensureValidWrite write.event = .ok ()) :
    ChainGiven codec table (table.store codec write previousHash) (previousHash = table.previousHash ∧ write.Plain) := by
  obtain ⟨link,reads,names,hashes,plainly⟩ := @readable_row codec write previousHash table.nextId valid
  constructor
  · intro chain both
    obtain ⟨current,plain⟩ := both
    obtain ⟨links,readable,intact⟩ := validChain_iff.mp chain
    rw [validChain_iff,hashed_store]
    refine ⟨links ++ [link],forall₂_snoc.mpr ⟨links,link,readable,reads,rfl⟩,intact_snoc.mpr ⟨intact,?_,?_⟩⟩
    · rw [names,current,previousHash_tail readable]
    · rw [hashes plain,names,current,previousHash_tail readable]
  · intro collisionFree chain
    rw [validChain_iff,hashed_store] at chain
    obtain ⟨links,readable,intact⟩ := chain
    obtain ⟨older,last,before,reads',rfl⟩ := forall₂_snoc.mp readable
    obtain rfl := readable_determined reads reads'
    obtain ⟨unbroken,follows⟩ := intact_snoc.mp intact
    refine ⟨validChain_iff.mpr ⟨older,before,unbroken⟩,?_,plainly collisionFree ?_⟩
    · rw [previousHash_tail before,←follows.1,names]
    · rw [follows.2,follows.1]

theorem Appended.refl {table : ControlEventTable} : Appended codec [] table table := ⟨[],by simp,.nil⟩

theorem Appended.trans {writes others : List AuditWrite} {old middle new : ControlEventTable}
    (one : Appended codec writes old middle) (two : Appended codec others middle new) :
    Appended codec (writes ++ others) old new := by
  obtain ⟨rows,first,stored⟩ := one
  obtain ⟨rows',second,stored'⟩ := two
  exact ⟨rows ++ rows',by rw [second,first,List.append_assoc],List.rel_append stored stored'⟩

theorem appended_store {table : ControlEventTable} {write : AuditWrite} {previousHash : Option String} :
    Appended codec [write] table (table.store codec write previousHash) :=
  ⟨[controlEventRow codec write previousHash table.nextId],rfl,.cons ⟨previousHash,rfl⟩ .nil⟩

-- What a transaction of audited inserts does to the rows and the chain.
structure Extends (codec : AuditCodec) (writes : List AuditWrite) (old new : ControlEventTable) : Prop where
  appended : Appended codec writes old new
  chain : ChainGiven codec old new (∀ write ∈ writes, write.Plain)

theorem answered_fault {fault : Option String} {message : String} (answer : context message (answered fault) = .ok ()) :
    fault = none := by
  cases fault with
  | none => rfl
  | some err => cases answer

theorem insertInTx_extends {driver : String} {write : AuditWrite} {faults : InsertFaults} {old new : ControlEventTable}
    (inserted : ControlEventTable.insertControlEventInTx codec driver write faults old = .ok new) :
    AuditStore.Commits (write,faults) ∧ Extends codec [write] old new := by
  obtain ⟨_,read,rest⟩ := bind_ok inserted
  obtain ⟨_,valid,rest⟩ := bind_ok rest
  obtain ⟨_,wrote,rest⟩ := bind_ok rest
  obtain rfl := Except.ok.inj rest
  refine ⟨⟨?_,valid⟩,appended_store,(chainGiven_store valid).congr (by simp)⟩
  cases faults with
  | mk tail insert =>
      obtain rfl := answered_fault read
      obtain rfl := answered_fault wrote
      rfl

theorem insertInTx_commits {driver : String} {write : AuditWrite} {faults : InsertFaults} {table : ControlEventTable}
    (commits : AuditStore.Commits (write,faults)) :
    ControlEventTable.insertControlEventInTx codec driver write faults table =
      .ok (table.store codec write table.previousHash) := by
  obtain ⟨rfl,valid⟩ := commits
  exact ok_bind valid

theorem inserts_extend {driver : String} {writes : List (AuditWrite × InsertFaults)} {old new : ControlEventTable}
    (inserted : writes.foldlM (fun table write =>
      ControlEventTable.insertControlEventInTx codec driver write.1 write.2 table) old = .ok new) :
    (∀ write ∈ writes, AuditStore.Commits write) ∧ Extends codec (writes.map (·.1)) old new := by
  induction writes generalizing old with
  | nil =>
      obtain rfl := Except.ok.inj inserted
      exact ⟨by simp,.refl,ChainGiven.refl.congr (by simp)⟩
  | cons write writes ih =>
      rw [List.foldlM_cons] at inserted
      obtain ⟨table,first,later⟩ := bind_ok inserted
      obtain ⟨commits,one⟩ := insertInTx_extends first
      obtain ⟨others,further⟩ := ih later
      refine ⟨List.forall_mem_cons.mpr ⟨commits,others⟩,one.appended.trans further.appended,?_⟩
      exact (one.chain.trans further.chain).congr (by simp)

theorem inserts_commit {driver : String} {writes : List (AuditWrite × InsertFaults)} {table : ControlEventTable}
    (commit : ∀ write ∈ writes, AuditStore.Commits write) : ∃ new, writes.foldlM (fun table write =>
      ControlEventTable.insertControlEventInTx codec driver write.1 write.2 table) table = .ok new := by
  induction writes generalizing table with
  | nil => exact ⟨table,rfl⟩
  | cons write writes ih =>
      obtain ⟨first,later⟩ := List.forall_mem_cons.mp commit
      obtain ⟨new,done⟩ := @ih (table.store codec write.1 table.previousHash) later
      refine ⟨new,?_⟩
      rw [List.foldlM_cons,ok_bind (insertInTx_commits first)]
      exact done

theorem transaction_extends {driver : String} {writes : List (AuditWrite × InsertFaults)} {rest : Option String}
    {old new : ControlEventTable}
    (done : auditTransaction (ControlEventTable.insertControlEventInTx codec driver) writes rest old = .ok new) :
    rest = none ∧ (∀ write ∈ writes, AuditStore.Commits write) ∧ Extends codec (writes.map (·.1)) old new := by
  obtain ⟨table,inserted,answer⟩ := bind_ok done
  obtain ⟨_,whole,same⟩ := bind_ok answer
  obtain rfl := Except.ok.inj same
  refine ⟨?_,inserts_extend inserted⟩
  cases rest with
  | none => rfl
  | some err => cases whole

theorem transaction_commits {driver : String} {writes : List (AuditWrite × InsertFaults)} {table : ControlEventTable}
    (commit : ∀ write ∈ writes, AuditStore.Commits write) : ∃ new,
      auditTransaction (ControlEventTable.insertControlEventInTx codec driver) writes none table = .ok new := by
  obtain ⟨new,done⟩ := @inserts_commit codec driver writes table commit
  exact ⟨new,ok_bind done⟩

namespace AuditStore

-- What one action does: a failed one leaves the rows as they are.
structure Effect (codec : AuditCodec) (current : Prop) (old : AuditStore) (outcome : Except String (List AuditWrite) × AuditStore) : Prop where
  failed : ∀ err, outcome.1 = .error err → outcome.2.table = old.table
  appended : Appended codec (committed outcome.1) old.table outcome.2.table
  chain : ChainGiven codec old.table outcome.2.table current

theorem Effect.congr {old : AuditStore} {outcome : Except String (List AuditWrite) × AuditStore} {one two : Prop}
    (effect : Effect codec one old outcome) (same : one ↔ two) : Effect codec two old outcome := by rwa [←propext same]

theorem idle_effect {old new : AuditStore} {result : Except String (List AuditWrite)} (rows : new.table = old.table)
    (nothing : committed result = []) : Effect codec True old (result,new) where
  failed _ _ := rows
  appended := by
    change Appended codec (committed result) old.table new.table
    rw [nothing,rows]
    exact .refl
  chain := by
    change ChainGiven codec old.table new.table True
    rw [rows]
    exact .refl

theorem settle_effect (old between : AuditStore) {writes : List AuditWrite} {result : Except String ControlEventTable}
    {current : Prop} (rows : between.table = old.table)
    (done : ∀ table, result = .ok table → Appended codec writes old.table table ∧ ChainGiven codec old.table table current)
    (otherwise : (∀ table, result ≠ .ok table) → current) : Effect codec current old (between.settle writes result) := by
  cases result with
  | ok table =>
      obtain ⟨appended,chain⟩ := done table rfl
      exact ⟨fun err failed => (by cases failed),appended,chain⟩
  | error err =>
      have holds := otherwise fun table other => (by cases other)
      have idle : Effect codec True old (.error err,between) := idle_effect rows rfl
      exact idle.congr (by simp [holds])

theorem transaction_effect {driver : String} {store : AuditStore} {writes : List (AuditWrite × InsertFaults)}
    {rest : Option String} :
    Effect codec (rest = none → (∀ write ∈ writes, Commits write) → ∀ write ∈ writes, write.1.Plain) store
      (store.settle (writes.map (·.1))
        (auditTransaction (ControlEventTable.insertControlEventInTx codec driver) writes rest store.table)) := by
  apply settle_effect store store rfl
  · intro table done
    obtain ⟨whole,commit,extend⟩ := transaction_extends done
    have plain : (∀ write ∈ writes.map (·.1), write.Plain) ↔ ∀ write ∈ writes, write.1.Plain := List.forall_mem_map
    exact ⟨extend.appended,extend.chain.congr (plain.trans ⟨fun all _ _ => all,fun all => all whole commit⟩)⟩
  · intro never whole commit
    subst whole
    obtain ⟨table,done⟩ := transaction_commits commit
    exact absurd done (never table)

theorem sqlx_effect {store : AuditStore} {write : AuditWrite} {faults : SqlxFaults} :
    Effect codec (faults.start = none ∧ faults.commit = none → Commits (write,faults.toInsertFaults) → write.Plain) store
      (store.settle [write] (ControlEventTable.insertControlEventSqlx codec write faults store.table)) := by
  apply settle_effect store store rfl
  · intro table done
    obtain ⟨_,started,rest⟩ := bind_ok done
    obtain ⟨_,within,rest⟩ := bind_ok rest
    obtain ⟨_,finished,same⟩ := bind_ok rest
    obtain rfl := Except.ok.inj same
    obtain ⟨commits,extend⟩ := insertInTx_extends within
    exact ⟨extend.appended,extend.chain.congr (by simp [answered_fault started,answered_fault finished,commits])⟩
  · intro never answers commits
    cases faults with
    | mk inner start commit =>
        obtain ⟨rfl,rfl⟩ := answers
        exact absurd (ok_bind (insertInTx_commits commits)) (never _)

theorem beginInsert_effect {store : AuditStore} {write : AuditWrite} {fault : Option String} :
    Effect codec True store (store.beginInsert write fault) := by
  unfold beginInsert
  cases store.pending with
  | some pending => exact idle_effect rfl rfl
  | none =>
      cases ControlEventTable.insertControlEventRead fault store.table with
      | ok previousHash => exact idle_effect rfl rfl
      | error err => exact idle_effect rfl rfl

theorem rusqliteTransaction_effect {store : AuditStore} {writes : List (AuditWrite × InsertFaults)} {rest : Option String} :
    Effect codec (store.pending = none → rest = none → (∀ write ∈ writes, Commits write) →
      ∀ write ∈ writes, write.1.Plain) store (store.rusqliteTransaction codec writes rest) := by
  unfold rusqliteTransaction
  cases store.pending with
  | some pending => exact (idle_effect rfl rfl).congr (by simp)
  | none => exact transaction_effect.congr (by simp)

theorem finishInsert_effect {pool : Bool} {store : AuditStore} {fault : Option String} :
    Effect codec (store.Current pool (.insertControlEventRow fault)) store (store.finishInsert codec fault) := by
  unfold finishInsert
  cases waiting : store.pending with
  | none => exact (idle_effect rfl rfl).congr (by simp [Current,waiting])
  | some pending =>
      have current : (fault = none → ensureValidWrite pending.write.event = .ok () →
          pending.previousHash = store.table.previousHash ∧ pending.write.Plain) ↔
          store.Current pool (.insertControlEventRow fault) := by simp [Current,waiting]
      apply Effect.congr _ current
      apply settle_effect store ⟨store.table,none⟩ rfl
      · intro table done
        obtain ⟨_,valid,rest⟩ := bind_ok done
        obtain ⟨_,sound,same⟩ := bind_ok rest
        obtain rfl := Except.ok.inj same
        refine ⟨appended_store,(chainGiven_store valid).congr ?_⟩
        cases fault with
        | none => simp [valid]
        | some err => cases sound
      · intro never unfaulted valid
        subst unfaulted
        exact absurd (ok_bind valid) (never _)

theorem step_effect {pool : Bool} {store : AuditStore} {action : AuditAction} :
    Effect codec (store.Current pool action) store (store.step codec pool action) := by
  cases action with
  | insertControlEvent write fault => exact beginInsert_effect
  | insertControlEventRow fault => exact finishInsert_effect
  | insertControlEventSqlx write faults =>
      cases pool with
      | true => exact sqlx_effect.congr (by simp [Current])
      | false => exact beginInsert_effect.congr (by simp [Current])
  | rusqliteTransaction writes rest => exact rusqliteTransaction_effect
  | sqlxTransaction writes rest =>
      cases pool with
      | true => exact transaction_effect.congr (by simp [Current])
      | false => exact rusqliteTransaction_effect.congr (by simp [Current])

theorem run_appended {pool : Bool} {store : AuditStore} {actions : List AuditAction} :
    Appended codec (store.run codec pool actions).1 store.table (store.run codec pool actions).2.table := by
  induction actions generalizing store with
  | nil => exact .refl
  | cons action actions ih => exact step_effect.appended.trans ih

theorem run_chain {pool : Bool} {store : AuditStore} {actions : List AuditAction} :
    ChainGiven codec store.table (store.run codec pool actions).2.table (store.CurrentRun codec pool actions) := by
  induction actions generalizing store with
  | nil => exact .refl
  | cons action actions ih => exact step_effect.chain.trans ih

end AuditStore

-- The chain stays valid as long as no plain insert writes behind a tail that has changed
-- since it was read and no minus zero is committed, and without collisions no longer; the
-- rows are those committed, in their order, and a failed write changes none.
theorem chain_valid_iff (codec : AuditCodec) (pool : Bool) (store : AuditStore) (valid : ValidChain codec store.table)
    (actions : List AuditAction) :
    (store.CurrentRun codec pool actions → ValidChain codec (store.run codec pool actions).2.table ∧
      ValidWindow codec (store.run codec pool actions).2.table) ∧
    (Function.Injective codec.digest →
      (ValidChain codec (store.run codec pool actions).2.table ↔ store.CurrentRun codec pool actions)) ∧
    Appended codec (store.run codec pool actions).1 store.table (store.run codec pool actions).2.table ∧
    (store.run codec pool actions).2.table.rows.Pairwise (·.id < ·.id) ∧
    ∀ action err, ((store.run codec pool actions).2.step codec pool action).1 = .error err →
      ((store.run codec pool actions).2.step codec pool action).2.table = (store.run codec pool actions).2.table := by
  have chain := @AuditStore.run_chain codec pool store actions
  refine ⟨?_,?_,AuditStore.run_appended,(store.run codec pool actions).2.table.ordered,?_⟩
  · intro current
    exact ⟨chain.kept valid current,validChain_window (chain.kept valid current)⟩
  · intro collisionFree
    exact ⟨fun whole => (chain.needed collisionFree whole).2,chain.kept valid⟩
  · intro action err failed
    exact AuditStore.step_effect.failed err failed

end Codec

theorem sign_not_digits (number other : Nat) : "-" ++ Nat.repr number ≠ Nat.repr other := by
  intro same
  have digit := repr_digits other '-' (by rw [←same]; simp)
  exact absurd digit (by decide)

theorem int_text_injective {one two : Int} (same : toString one = toString two) : one = two := by
  rw [Int.toString_eq_repr,Int.toString_eq_repr,Int.repr_eq_if,Int.repr_eq_if] at same
  split at same
  · split at same
    · have numbers := congrArg (fun text => Nat.ofDigitChars 10 text.toList 0) same
      simp only [repr_back] at numbers
      omega
    · exact absurd same.symm (sign_not_digits _ _)
  · split at same
    · exact absurd same (sign_not_digits _ _)
    · have numbers := congrArg (fun text => Nat.ofDigitChars 10 (text.toList.drop 1) 0) same
      simp at numbers
      omega

theorem int_text_nonzero (value : Int) : toString value ≠ "-0" := by
  intro same
  rw [Int.toString_eq_repr,Int.repr_eq_if] at same
  split at same
  · have digit := repr_digits value.toNat '-' (by rw [same]; decide)
    exact absurd digit (by decide)
  · have number := congrArg (fun text => Nat.ofDigitChars 10 (text.toList.drop 1) 0) same
    have zero : Nat.ofDigitChars 10 ['0'] 0 = 0 := rfl
    simp [zero] at number
    omega

-- The text of a whole number, and elsewhere digits that tell the numbers apart.
def hashedNumber (value : ℚ) : String := if value.den = 1 then toString value.num ++ ".0" else Nat.repr (Encodable.encode value)

theorem hashedNumber_point {value : ℚ} (whole : value.den = 1) (other : Nat) : hashedNumber value ≠ Nat.repr other := by
  intro same
  rw [hashedNumber,if_pos whole] at same
  have digit := repr_digits other '.' (by rw [←same]; simp)
  exact absurd digit (by decide)

theorem hashedNumber_numeric (value : ℚ) : ∀ ch ∈ (hashedNumber value).toList, isNumeric ch = true := by
  intro ch member
  unfold hashedNumber at member
  split at member
  · rw [String.toList_append,List.mem_append] at member
    rcases member with digits | point
    · exact int_text_numeric _ ch digits
    · have every : ∀ ch ∈ ".0".toList, isNumeric ch = true := List.all_eq_true.mp (by decide)
      exact every ch point
  · simp [isNumeric,repr_digits _ ch member]

theorem hashedNumber_injective : Function.Injective hashedNumber := by
  intro one two same
  by_cases whole : one.den = 1
  · by_cases whole' : two.den = 1
    · rw [hashedNumber,hashedNumber,if_pos whole,if_pos whole'] at same
      exact Rat.ext (int_text_injective (by simpa using same)) (whole.trans whole'.symm)
    · rw [hashedNumber.eq_def two,if_neg whole'] at same
      exact absurd same (hashedNumber_point whole _)
  · by_cases whole' : two.den = 1
    · rw [hashedNumber.eq_def one,if_neg whole] at same
      exact absurd same.symm (hashedNumber_point whole' _)
    · rw [hashedNumber,hashedNumber,if_neg whole,if_neg whole'] at same
      have back := repr_back (Encodable.encode one)
      rw [same,repr_back] at back
      exact Encodable.encode_injective back.symm

theorem hashedNumber_apart (value : ℚ) : hashedNumber value ≠ "-0.0" := by
  intro same
  by_cases whole : value.den = 1
  · rw [hashedNumber,if_pos whole,show "-0.0" = "-0" ++ ".0" from rfl] at same
    exact int_text_nonzero _ ((String.append_left_inj _).mp same)
  · rw [hashedNumber,if_neg whole] at same
    have digit := repr_digits (Encodable.encode value) '-' (by rw [same]; decide)
    exact absurd digit (by decide)

def seedEvent : AuditWrite := ⟨⟨none,"demo_seed_applied",none,"seed",.system⟩,0,.plus⟩
def autoEvent : AuditWrite := ⟨⟨none,"auto_enabled",none,"ready",.system⟩,0,.plus⟩

-- A process document with a shake speed of -0.0.
def processLoaded : AuditWrite where
  event := ⟨none,"v1_process_loaded",some ⟨60,300,600,180,300,0,1/2,"v1 process accepted after document range validation"⟩,
    "v1 process accepted after document range validation",.system⟩
  moment := 0
  minus := ⟨false,false,true⟩

def benchText (previousHash : Option String) (write : AuditWrite) (targets : List JsonValue) : String :=
  renderObject (hashedKeys.zip ([.null,.string "1970-01-01T00:00:00+00:00",.string write.event.eventType,
    optionalText previousHash,.string write.event.reason] ++ targets))

def seedHash : String := "a6f7cfcf2a2a090ec9e8f7c71d420b4bd396de53e6e89136de62c687990fa70b"
def autoHash : String := "bd4c6b1d283b413e943ae1666640f941c430a5578b1a51322118067a2890961e"
def chainedHash : String := "ef42b6fd8faa395f95c9ab6763b147f7edcbd09af7af19ff519071bc7c3c3f66"
def loadedHash : String := "68dfbaedf3efa9d20077155067fd20e0b55e9b67d4e3a581ee506fc0a77049ea"
def rereadHash : String := "fe53300f66f7332163c3fc2d5e54c5d7ef5de0282e935804229892168a4fd20c"

-- SHA-256 of five texts. The second one is what the verifier makes of the row of `processLoaded`.
def benchHashes : List (String × String) :=
  [(benchText none processLoaded [.number "-0.0",.number "300.0",.number "60.0"],loadedHash),
    (benchText none processLoaded [.number "0.0",.number "300.0",.number "60.0"],rereadHash),
    (benchText none seedEvent [.null,.null,.null],seedHash),(benchText none autoEvent [.null,.null,.null],autoHash),
    (benchText (some seedHash) autoEvent [.null,.null,.null],chainedHash)]

-- Elsewhere a text that is no hash.
def benchDigest (text : String) : String := (benchHashes.lookup text).getD ("x" ++ text)

theorem lookup_injective {table : List (String × String)} (once : (table.map (·.2)).Nodup)
    (other : ∀ hash ∈ table.map (·.2), ∀ text, "x" ++ text ≠ hash) :
    Function.Injective fun text => (table.lookup text).getD ("x" ++ text) := by
  have found : ∀ {text hash}, table.lookup text = some hash → (text,hash) ∈ table := by
    intro text hash looked
    obtain ⟨before,after,rfl,_⟩ := List.lookup_eq_some_iff.mp looked
    simp
  intro one two same
  dsimp only at same
  cases first : table.lookup one with
  | none =>
      cases second : table.lookup two with
      | none => simpa [first,second] using same
      | some hash =>
          rw [first,second] at same
          exact absurd same (other hash (List.mem_map_of_mem (found second)) one)
  | some hash =>
      cases second : table.lookup two with
      | none =>
          rw [first,second] at same
          exact absurd same.symm (other hash (List.mem_map_of_mem (found first)) two)
      | some hash' =>
          rw [first,second] at same
          exact congrArg Prod.fst (List.inj_on_of_nodup_map once (found first) (found second) same)

def benchCodec : AuditCodec where
  digest := benchDigest
  number := hashedNumber
  minusZero := "-0.0"
  numeric := hashedNumber_numeric
  minusZero_numeric := List.all_eq_true.mp (by decide)
  number_injective := hashedNumber_injective
  minusZero_apart := hashedNumber_apart
  toRfc3339 moment := if moment = 0 then "1970-01-01T00:00:00+00:00" else Nat.repr (Encodable.encode moment)
  parseRfc3339 text :=
    if text = "1970-01-01T00:00:00+00:00" then some 0 else Encodable.decode (Nat.ofDigitChars 10 text.toList 0)
  parse_toRfc3339 moment := by
    by_cases start : moment = 0
    · simp [start]
    · rw [if_neg start,if_neg]
      · rw [repr_back,Encodable.encodek]
      · intro same
        have digits := repr_digits (Encodable.encode moment) '-'
        rw [same] at digits
        exact absurd (digits (by decide)) (by decide)

theorem benchDigest_injective : Function.Injective benchCodec.digest := by
  have digest : benchCodec.digest = benchDigest := by simp only [benchCodec]
  rw [digest]
  obtain ⟨once,every⟩ : (benchHashes.map (·.2)).Nodup ∧ ∀ hash ∈ benchHashes.map (·.2), hash.toList.head? ≠ some 'x' := by
    decide +kernel
  refine lookup_injective once fun hash member text same => ?_
  have first : ("x" ++ text).toList.head? = some 'x' := by simp
  exact every hash member (by rw [←same,first])

theorem empty_valid (codec : AuditCodec) : ValidChain codec .empty := ⟨_,rfl,rfl⟩

theorem seedEvent_plain : seedEvent.Plain := ⟨by decide,by decide,by decide⟩
theorem autoEvent_plain : autoEvent.Plain := ⟨by decide,by decide,by decide⟩

theorem processLoaded_valid : ensureValidWrite processLoaded.event = .ok () := by decide

theorem processLoaded_minus : ¬processLoaded.Plain := by
  intro plain
  exact plain.shake (by decide)

-- One event behind the other; and without collisions a minus zero breaks the chain.
theorem chain_valid_iff_seeded :
    ValidChain benchCodec (AuditStore.run benchCodec true ⟨.empty,none⟩
      [.insertControlEvent seedEvent none,.insertControlEventRow none,
        .insertControlEventSqlx autoEvent ⟨⟨none,none⟩,none,none⟩]).2.table ∧
    ¬ValidChain benchCodec (AuditStore.run benchCodec false ⟨.empty,none⟩
      [.insertControlEvent processLoaded none,.insertControlEventRow none]).2.table := by
  constructor
  · apply ((chain_valid_iff benchCodec true ⟨.empty,none⟩ (empty_valid _) _).1 _).1
    refine ⟨trivial,?_,fun _ _ _ => autoEvent_plain,trivial⟩
    intro pending waiting _ _
    cases waiting
    exact ⟨rfl,seedEvent_plain⟩
  · rw [(chain_valid_iff benchCodec false ⟨.empty,none⟩ (empty_valid _) _).2.1 benchDigest_injective]
    intro current
    exact processLoaded_minus (current.2.1 ⟨processLoaded,none⟩ rfl rfl processLoaded_valid).2

-- Both events are committed, the second one behind the first. And one writer alone
-- commits a target of -0.0, which the column gives back as 0.0.
theorem seed_breaks_chain :
    ((AuditStore.run benchCodec true ⟨.empty,none⟩ [.insertControlEvent seedEvent none,
      .insertControlEventSqlx autoEvent ⟨⟨none,none⟩,none,none⟩,.insertControlEventRow none]).1 = [autoEvent,seedEvent] ∧
    ¬ValidChain benchCodec (AuditStore.run benchCodec true ⟨.empty,none⟩ [.insertControlEvent seedEvent none,
      .insertControlEventSqlx autoEvent ⟨⟨none,none⟩,none,none⟩,.insertControlEventRow none]).2.table) ∧
    (AuditStore.run benchCodec true ⟨.empty,none⟩ [.insertControlEventSqlx processLoaded ⟨⟨none,none⟩,none,none⟩]).1 =
      [processLoaded] ∧
    (AuditStore.run benchCodec true ⟨.empty,none⟩
      [.insertControlEventSqlx processLoaded ⟨⟨none,none⟩,none,none⟩]).2.table.rows.map (·.eventHash) = [some loadedHash] ∧
    ¬ValidChain benchCodec (AuditStore.run benchCodec true ⟨.empty,none⟩
      [.insertControlEventSqlx processLoaded ⟨⟨none,none⟩,none,none⟩]).2.table := by
  refine ⟨⟨rfl,?_⟩,rfl,by decide +kernel,?_⟩
  · intro valid
    have current := (AuditStore.run_chain.needed benchDigest_injective valid).2
    cases (current.2.2.1 ⟨seedEvent,none⟩ rfl rfl rfl).1
  · intro valid
    have current := (AuditStore.run_chain.needed benchDigest_injective valid).2
    exact processLoaded_minus (current.1 rfl ⟨rfl,rfl⟩ ⟨rfl,processLoaded_valid⟩)

end ReactorOS
