import Mathlib.Data.List.Nodup
import ReactorOS.Concurrency.Amid
import ReactorOS.Discipline.Daemon
import ReactorOS.Operator
namespace ReactorOS
open Concurrency Journal Protocol Task
variable {may may' : Event → Bool} {me : TaskId} {ε ε' α β : Type}

-- What finishing a batch goes by: the active batch and the batch records.
structure BatchView where
  active : Option Int
  batches : List Batch

def BatchView.of (w : World) : BatchView := ⟨w.state.runtime.activeBatchId,w.state.db.batches⟩

-- A database and a device that do what they are asked to.
structure Succeeds (env : Env) : Prop where
  db : env.db = .done
  device : env.device = .ok ()

def unfinishedIds (batches : List Batch) : List Int := (batches.filter fun batch => batch.finishedAt.isNone).map (·.id)

-- The batch records after a finish.
def finishedRows (batches : List Batch) (batchId : Int) (now : Instant) : List Batch :=
  (Db.finishBatch ⟨batches,[],[]⟩ batchId now).batches

theorem mem_unfinishedIds {batches : List Batch} {id : Int} :
    id ∈ unfinishedIds batches ↔ ∃ batch ∈ batches, batch.finishedAt = none ∧ batch.id = id := by
  simp [unfinishedIds,and_assoc]

theorem finishedRows_ids (batches : List Batch) (batchId : Int) (now : Instant) :
    (finishedRows batches batchId now).map (·.id) = batches.map (·.id) := by
  simp only [finishedRows,Db.finishBatch,List.map_map]
  refine List.map_congr_left fun batch _ => ?_
  simp only [Function.comp_apply]
  split <;> rfl

theorem finishedRows_closed {batches : List Batch} {batchId : Int} {now : Instant} {batch : Batch}
    (member : batch ∈ finishedRows batches batchId now) (same : batch.id = batchId) : batch.finishedAt.isNone = false := by
  simp only [finishedRows,Db.finishBatch,List.mem_map] at member
  obtain ⟨before,_,rfl⟩ := member
  split
  · rfl
  · rename_i kept
    rw [if_neg kept] at same
    cases finished : before.finishedAt with
    | none => exact absurd ⟨same,finished⟩ kept
    | some at' => rfl

theorem finishedRows_unfinished (batches : List Batch) (batchId : Int) (now : Instant) :
    unfinishedIds (finishedRows batches batchId now) = (unfinishedIds batches).filter (· ≠ batchId) := by
  induction batches with
  | nil => rfl
  | cons batch rest ih =>
      simp only [unfinishedIds,finishedRows,Db.finishBatch,List.map_cons,List.filter_cons] at ih ⊢
      cases finished : batch.finishedAt with
      | some at' => simpa [finished] using ih
      | none =>
          by_cases same : batch.id = batchId
          · simpa [finished,same] using ih
          · simpa [finished,same] using ih

-- What a finish leaves behind: no active batch, and one unfinished batch less.
structure Closes (batchId : Int) (before after : BatchView) : Prop where
  active : after.active = none
  ids : after.batches.map (·.id) = before.batches.map (·.id)
  unfinished : unfinishedIds after.batches = (unfinishedIds before.batches).filter (· ≠ batchId)

-- A part of a handler that goes through wherever the database and the device do, and
-- what it makes of the batches.
abbrev Recovers (t : Handler may me ε α) (v : BatchView) (Q : α → BatchView → Prop) : Prop :=
  t.returns BatchView.of Succeeds v Q

section Parts
variable {v : BatchView}

theorem recovers_locked {s : Critical may me ε α} {Q : α → BatchView → Prop}
    (holds : ∀ w, BatchView.of w = v → ∀ env, Succeeds env → GoesThrough Q (s.run env w).1 (.of (s.run env w).2)) :
    Recovers (locked s) v Q := holds

theorem recovers_within [Within may may'] {t : Handler may me ε α} {Q : α → BatchView → Prop} :
    Recovers (within t : Handler may' me ε α) v Q ↔ Recovers t v Q := returns_relax _

theorem recovers_orInternal {t : Handler may me Failure α} {Q : α → BatchView → Prop} (holds : Recovers t v Q) :
    Recovers (orInternal t : Handler may me AppError α) v Q := returns_mapError holds

-- What goes through has no failure to handle.
theorem recovers_catching {t : Handler may me ε α} {handler : ε → Handler may me ε' α} {Q : α → BatchView → Prop}
    (holds : Recovers t v Q) : Recovers (catching t handler) v Q := by
  unfold catching
  refine (amid_bind _ _ _).mpr ((amid_attempt _ _).mpr (amid_mono ?_ holds))
  intro result after reached
  rcases reached with ⟨value,rfl,reached⟩
  exact ⟨value,rfl,reached⟩

theorem recovers_batchById (batchId : Int) : Recovers (batchByIdSqlx batchId : Handler may me Failure (Option Batch)) v
    fun found after => after = v ∧ found = v.batches.find? fun batch => batch.id == batchId := by
  refine recovers_locked fun w seen env succeeds => ?_
  subst seen
  simp only [query,Section.run_inspect,succeeds.db]
  exact ⟨_,rfl,rfl,rfl⟩

theorem recovers_finishBatchSqlx (batchId : Int) : Recovers (finishBatchSqlx batchId : Handler Event.quiet me Failure Unit) v
    fun _ after => ∃ now, after = ⟨v.active,finishedRows v.batches batchId now⟩ := by
  refine recovers_locked fun w seen env succeeds => ?_
  subst seen
  simp only [statement,Section.run_bind,run_utcNow,run_answer,Section.chain_ok,succeeds.db,run_record]
  exact ⟨(),rfl,env.now,rfl⟩

theorem recovers_insertControlEvent (batchId : Option Int) (eventType : String) (command : Option SafeCommand)
    (reason : String) (actor : AuditActor) :
    Recovers (insertControlEventSqlx batchId eventType command reason actor : Handler Event.quiet me Failure Unit) v
      fun _ after => after = v := by
  refine recovers_locked fun w seen env succeeds => ?_
  subst seen
  simp only [statement,Section.run_bind,run_answer,Section.chain_ok,succeeds.db,run_record]
  exact ⟨(),rfl,rfl⟩

theorem recovers_stopProcessOnDevice (targets : ControlTargets) :
    Recovers (stopProcessOnDevice targets : Handler Event.work me AppError Unit) v fun _ after => after = v := by
  refine recovers_catching (recovers_locked fun w seen env succeeds => ?_)
  subst seen
  simp only [Section.run_bind,run_answer,Section.chain_ok,run_record,Section.run_ofExcept,succeeds.device]
  exact ⟨(),rfl,rfl⟩

theorem recovers_clearStoppedBatch {batchId : Int} {stoppedTargets : Option ControlTargets}
    (due : v.active = some batchId ∨ v.active = none) :
    Recovers (locked (clearStoppedBatch batchId stoppedTargets) : Handler Event.work me AppError Unit) v
      fun _ after => after = ⟨none,v.batches⟩ := by
  refine recovers_locked fun w seen env succeeds => ?_
  subst seen
  simp only [clearStoppedBatch,Section.run_bind,run_runtimeState,Section.chain_ok]
  rcases due with active | none
  · have active : w.state.runtime.activeBatchId = some batchId := active
    rw [if_pos active]
    cases stoppedTargets with
    | none => exact ⟨(),rfl,rfl⟩
    | some targets => exact ⟨(),rfl,rfl⟩
  · have other : w.state.runtime.activeBatchId = Option.none := none
    rw [if_neg (by rw [other]; simp)]
    have left : ∀ targets, BatchView.of ((w.emit me (.runtime .autoDisabled)).emit me (.runtime (.targetsSet targets))) =
        ⟨Option.none,w.state.db.batches⟩ := fun targets => congrArg (BatchView.mk · _) other
    have left' : BatchView.of (w.emit me (.runtime .autoDisabled)) = ⟨Option.none,w.state.db.batches⟩ :=
      congrArg (BatchView.mk · _) other
    cases stoppedTargets with
    | none => exact ⟨(),rfl,left'⟩
    | some targets => exact ⟨(),rfl,left targets⟩

theorem recovers_confirmStoppedBatch {batchId : Int} {stoppedTargets : ControlTargets} {what : String}
    (active : v.active = some batchId) :
    Recovers (locked (confirmStoppedBatch batchId stoppedTargets what) : Handler Event.work me AppError Unit) v
      fun _ after => after = v := by
  refine recovers_locked fun w seen env succeeds => ?_
  subst seen
  have active : w.state.runtime.activeBatchId = some batchId := active
  simp only [confirmStoppedBatch,Section.run_bind,run_runtimeState,Section.chain_ok,run_note,run_change,active,ne_eq,
    not_true_eq_false,if_false]
  exact ⟨(),rfl,rfl⟩

theorem recovers_finishMissing (safety : SafetyConfig) {batchId : Int} (active : v.active = some batchId) :
    Recovers (finishMissingActiveBatchRecovery safety batchId : Handler Event.work me AppError Unit) v
      fun _ after => after = ⟨none,v.batches⟩ := by
  refine returns_still (recovers_stopProcessOnDevice _) fun _ => ?_
  have disabled : Recovers (locked (do
      change .autoDisabled
      change (.targetsSet (processStopTargets safety))) : Handler Event.work me AppError Unit) v fun _ after => after = v := by
    refine recovers_locked fun w seen env succeeds => ?_
    subst seen
    exact ⟨(),rfl,rfl⟩
  refine returns_still disabled fun _ => ?_
  refine returns_still (recovers_catching (recovers_within.mpr (recovers_insertControlEvent _ _ _ _ _))) fun _ => ?_
  exact recovers_clearStoppedBatch (.inl active)

-- The look at a record that has just been finished.
theorem recovers_reload {batchId : Int} {wasActive : Bool} (listed : ∃ batch ∈ v.batches, batch.id = batchId)
    (finished : ∀ batch ∈ v.batches, batch.id = batchId → batch.finishedAt.isNone = false) :
    Recovers (do
      let finished ← orInternal (batchByIdSqlx batchId)
      match finished with
      | none => within (failBatchFinish wasActive "batch finish state commit"
          "batch disappeared after finish update" (.notFound "batch not found after finish update"))
      | some finishedBatch =>
          if finishedBatch.finishedAt.isNone then
            within (failBatchFinish wasActive "batch finish state commit"
              "batch finish update did not mark the batch finished"
              (.conflict "batch finish update did not mark the batch finished"))
          else return () : Handler Event.work me AppError Unit) v fun _ after => after = v := by
  refine returns_bind (recovers_orInternal (recovers_batchById batchId)) ?_
  intro found after reached
  rcases reached with ⟨rfl,rfl⟩
  obtain ⟨batch,member,same⟩ := listed
  cases found : after.batches.find? (fun batch => batch.id == batchId) with
  | none =>
      have absent := List.find?_eq_none.mp found batch member
      exact absurd same (by simpa using absent)
  | some closed =>
      have is := finished closed (List.mem_of_find?_eq_some found) (by simpa using List.find?_some found)
      simp only [is,Bool.false_eq_true,if_false]
      exact returns_pure rfl

-- The record of a batch is finished in the end, be it only now or since before.
theorem recovers_closeFinishedRecord {batchId : Int} {batch : Batch} (wasActive : Bool)
    (unique : (v.batches.map (·.id)).Nodup) (found : v.batches.find? (fun batch => batch.id == batchId) = some batch) :
    Recovers (closeFinishedRecord batchId batch wasActive : Handler Event.work me AppError Unit) v fun _ after =>
      after.active = v.active ∧ after.batches.map (·.id) = v.batches.map (·.id) ∧
        unfinishedIds after.batches = (unfinishedIds v.batches).filter (· ≠ batchId) := by
  unfold closeFinishedRecord
  split
  · refine returns_bind (recovers_catching (recovers_within.mpr (recovers_finishBatchSqlx batchId))) ?_
    intro _ after reached
    rcases reached with ⟨now,rfl⟩
    have listed : batchId ∈ (finishedRows v.batches batchId now).map (·.id) := by
      rw [finishedRows_ids]
      exact List.mem_map.mpr ⟨batch,List.mem_of_find?_eq_some found,by simpa using List.find?_some found⟩
    obtain ⟨row,member,same⟩ := List.mem_map.mp listed
    refine returns_mono ?_ (recovers_reload (v := ⟨v.active,finishedRows v.batches batchId now⟩) ⟨row,member,same⟩
      fun finished member same => finishedRows_closed member same)
    intro _ after same
    rcases same with rfl
    exact ⟨rfl,finishedRows_ids _ _ _,finishedRows_unfinished _ _ _⟩
  · rename_i closed
    have member := List.mem_of_find?_eq_some found
    have same : batch.id = batchId := by simpa using List.find?_some found
    have only : ∀ other ∈ v.batches, other.id = batchId → other.finishedAt.isNone = false := fun other listed named => by
      rw [List.inj_on_of_nodup_map unique listed member (named.trans same.symm)]
      exact Bool.eq_false_iff.mpr closed
    refine returns_mono ?_ (recovers_reload ⟨batch,member,same⟩ only)
    intro _ after same
    rcases same with rfl
    refine ⟨rfl,rfl,(List.filter_eq_self.mpr fun id open' => ?_).symm⟩
    obtain ⟨other,listed,unfinished,rfl⟩ := mem_unfinishedIds.mp open'
    refine decide_eq_true fun named => ?_
    have finished := only other listed named
    rw [unfinished] at finished
    cases finished

theorem recovers_closeFinishedBatch {actor : AuditActor} {batchId : Int} {batch : Batch} {stoppedTargets : Option ControlTargets}
    (due : v.active = some batchId ∨ v.active = none) (unique : (v.batches.map (·.id)).Nodup)
    (found : v.batches.find? (fun batch => batch.id == batchId) = some batch) :
    Recovers (closeFinishedBatch actor batchId batch stoppedTargets : Handler Event.work me AppError Unit) v
      fun _ after => Closes batchId v after := by
  refine returns_bind (recovers_closeFinishedRecord _ unique found) fun _ closed reached => ?_
  obtain ⟨active,ids,unfinished⟩ := reached
  refine returns_still (recovers_catching (recovers_within.mpr (recovers_insertControlEvent _ _ _ _ _))) fun _ => ?_
  refine returns_mono ?_ (recovers_clearStoppedBatch (by rw [active]; exact due))
  intro _ after same
  rcases same with rfl
  exact ⟨rfl,ids,unfinished⟩

theorem recovers_finishBatch (safety : SafetyConfig) {batchId : Int} (actor : AuditActor)
    (unique : (v.batches.map (·.id)).Nodup)
    (due : v.active = some batchId ∨ v.active = none ∧ batchId ∈ unfinishedIds v.batches) :
    Recovers (finishBatch safety batchId actor : Handler Event.work me AppError Unit) v fun _ after => Closes batchId v after := by
  have looked : Recovers (locked (do
      let runtime ← runtimeState
      note (.batchSeen batchId runtime.activeBatchId)
      return runtime.activeBatchId) : Handler Event.work me AppError (Option Int)) v
      fun active after => after = v ∧ active = v.active := by
    refine recovers_locked fun w seen env succeeds => ?_
    subst seen
    exact ⟨_,rfl,rfl,rfl⟩
  refine returns_bind looked fun active seen reached => ?_
  rw [reached.1,reached.2]
  refine returns_bind (recovers_orInternal (recovers_batchById batchId)) fun found seen reached => ?_
  rw [reached.1,reached.2]
  cases record : v.batches.find? fun batch => batch.id == batchId with
  | none =>
      have absent := List.find?_eq_none.mp record
      rcases due with active | ⟨_,unfinished⟩
      · simp only [active,if_true]
        refine returns_mono ?_ (recovers_finishMissing safety active)
        intro _ after same
        rcases same with rfl
        refine ⟨rfl,rfl,(List.filter_eq_self.mpr fun id open' => ?_).symm⟩
        obtain ⟨batch,member,_,rfl⟩ := mem_unfinishedIds.mp open'
        simpa using absent batch member
      · obtain ⟨batch,member,_,same⟩ := mem_unfinishedIds.mp unfinished
        exact absurd same (by simpa using absent batch member)
  | some batch =>
      rcases due with active | ⟨none,unfinished⟩
      · have can : ensureBatchCanFinish batchId batch (some batchId) = .ok () := by simp [ensureBatchCanFinish]
        simp only [active,can,if_true]
        refine returns_still (returns_pure rfl) fun _ => ?_
        refine returns_still (recovers_stopProcessOnDevice _) fun _ => ?_
        refine returns_still (recovers_confirmStoppedBatch active) fun _ => ?_
        exact recovers_closeFinishedBatch (.inl active) unique record
      · obtain ⟨other,member,finishedAt,same⟩ := mem_unfinishedIds.mp unfinished
        have named : batch.id = batchId := by simpa using List.find?_some record
        obtain rfl := List.inj_on_of_nodup_map unique (List.mem_of_find?_eq_some record) member (named.trans same.symm)
        have can : ensureBatchCanFinish batchId batch Option.none = .ok () := by simp [ensureBatchCanFinish,finishedAt]
        have disabled : Recovers (locked (change .autoDisabled) : Handler Event.work me AppError Unit) v
            fun _ after => after = v := by
          refine recovers_locked fun w seen env succeeds => ?_
          subst seen
          exact ⟨(),rfl,rfl⟩
        simp only [none,can,reduceCtorEq,if_false]
        refine returns_still (returns_pure rfl) fun _ => ?_
        refine returns_still disabled fun _ => ?_
        exact recovers_closeFinishedBatch (.inr none) unique record

end Parts

-- An operator's way out: one batch after the other is finished.
def finishBatches (safety : SafetyConfig) (actor : AuditActor) : List Int → Handler Event.work me AppError Unit
  | [] => return ()
  | batchId :: rest => do
      finishBatch safety batchId actor
      finishBatches safety actor rest

-- With no batch active, any unfinished ones are finished in any order.
theorem recovers_unfinished (safety : SafetyConfig) (actor : AuditActor) {ids : List Int} {v : BatchView}
    (unique : (v.batches.map (·.id)).Nodup) (idle : v.active = none) (distinct : ids.Nodup)
    (unfinished : ∀ id ∈ ids, id ∈ unfinishedIds v.batches) :
    Recovers (finishBatches safety actor ids : Handler Event.work me AppError Unit) v fun _ after =>
      after.active = none ∧ unfinishedIds after.batches = (unfinishedIds v.batches).filter (· ∉ ids) := by
  induction ids generalizing v with
  | nil => exact returns_pure ⟨idle,(List.filter_eq_self.mpr fun _ _ => by simp).symm⟩
  | cons id ids ih =>
      obtain ⟨apart,distinct⟩ := List.nodup_cons.mp distinct
      refine returns_bind (recovers_finishBatch safety actor unique (.inr ⟨idle,unfinished id List.mem_cons_self⟩)) ?_
      intro _ closed closes
      refine returns_mono ?_ (ih (by rw [closes.ids]; exact unique) closes.active distinct fun other member => ?_)
      · intro _ after reached
        rcases reached with ⟨active,left⟩
        refine ⟨active,left.trans ?_⟩
        rw [closes.unfinished,List.filter_filter]
        refine List.filter_congr fun other _ => ?_
        simp [Bool.and_comm]
      · rw [closes.unfinished]
        refine List.mem_filter.mpr ⟨unfinished other (List.mem_cons_of_mem _ member),decide_eq_true fun same => ?_⟩
        exact apart (same ▸ member)

-- The active batch goes first where there is one.
theorem recovers_batches (safety : SafetyConfig) (actor : AuditActor) {ids : List Int} {v : BatchView}
    (unique : (v.batches.map (·.id)).Nodup) (remaining : ids.Perm ((unfinishedIds v.batches).filter (v.active ≠ some ·))) :
    Recovers (finishBatches safety actor (v.active.toList ++ ids) : Handler Event.work me AppError Unit) v fun _ after =>
      after.active = none ∧ unfinishedIds after.batches = [] := by
  have distinct : ids.Nodup := by
    refine remaining.nodup_iff.mpr (List.Nodup.filter _ ?_)
    exact List.Nodup.sublist (List.Sublist.map _ List.filter_sublist) unique
  cases active : v.active with
  | none =>
      have listed : ∀ id, id ∈ ids ↔ id ∈ unfinishedIds v.batches := fun id => by
        simp [remaining.mem_iff,active]
      refine returns_mono ?_ (recovers_unfinished safety actor unique active distinct fun id member => (listed id).mp member)
      intro _ after reached
      rcases reached with ⟨idle,left⟩
      refine ⟨idle,left.trans (List.filter_eq_nil_iff.mpr fun id member => ?_)⟩
      rw [decide_eq_true_eq,not_not]
      exact (listed id).mpr member
  | some batchId =>
      have listed : ∀ id, id ∈ ids ↔ id ∈ unfinishedIds v.batches ∧ batchId ≠ id := fun id => by
        simp [remaining.mem_iff,active]
      refine returns_bind (recovers_finishBatch safety actor unique (.inl active)) fun _ closed closes => ?_
      have left : ∀ id ∈ ids, id ∈ unfinishedIds closed.batches := fun id member => by
        rw [closes.unfinished]
        exact List.mem_filter.mpr ⟨((listed id).mp member).1,decide_eq_true ((listed id).mp member).2.symm⟩
      refine returns_mono ?_ (recovers_unfinished safety actor (by rw [closes.ids]; exact unique) closes.active distinct left)
      intro _ after reached
      rcases reached with ⟨idle,left⟩
      refine ⟨idle,left.trans (List.filter_eq_nil_iff.mpr fun id member => ?_)⟩
      rw [closes.unfinished] at member
      obtain ⟨open',other⟩ := List.mem_filter.mp member
      rw [decide_eq_true_eq,not_not]
      exact (listed id).mpr ⟨open',(of_decide_eq_true other).symm⟩

-- The refusals of a reset that a batch is the reason of.
inductive BatchRefusal : AppError → Prop where
  | active (batchId : Int) (action : String) : BatchRefusal
      (.conflict s!"active batch {batchId} is still open; retry stop/finish to close production state before {action}")
  | unfinished (status : UnfinishedBatchStatus) (runtime : RuntimeState) (action : String) : BatchRefusal
      (.conflict s!"{action} blocked until unfinished batch recovery is resolved: {status.reason runtime}")

theorem BatchRefusal.known {err : AppError} (refusal : BatchRefusal err) :
    err.status = 409 ∧ (err.message.toList.head? = some 'a' ∨ ':' ∈ err.message.toList) := by
  cases refusal with
  | active batchId action =>
      refine ⟨rfl,.inl ?_⟩
      simp only [AppError.conflict,String.toList_append,List.append_assoc,List.head?_append]
      rfl
  | unfinished status runtime action =>
      refine ⟨rfl,.inr ?_⟩
      have colon : ':' ∈ (toString " blocked until unfinished batch recovery is resolved: ").toList := by decide
      simp only [AppError.conflict,String.toList_append,List.mem_append,colon,true_or,or_true]

theorem unrefused_status {err : AppError} (status : err.status ≠ 409) : ¬BatchRefusal err :=
  fun refusal => status refusal.known.1

theorem unrefused_text {err : AppError} {chars : List Char} (text : err.message = String.ofList chars)
    (head : chars.head? ≠ some 'a') (plain : ':' ∉ chars) : ¬BatchRefusal err := by
  intro refusal
  have known := refusal.known.2
  rw [toList_literal text] at known
  exact known.elim head plain

theorem unrefused_unavailable (message : String) : ¬BatchRefusal (.serviceUnavailable message) :=
  unrefused_status (show 503 ≠ 409 by decide)

theorem unrefused_freshSample {safety : SafetyConfig} {now : Instant} {runtime : RuntimeState} {err : AppError}
    (refused : ensureFreshSample safety now runtime = .error err) : ¬BatchRefusal err := by
  have unavailable : ∀ err, freshSampleForRealtime safety now runtime = .error err → ¬BatchRefusal err := by
    intro err refused
    unfold freshSampleForRealtime at refused
    dsimp only at refused
    repeat' split at refused
    all_goals cases refused
    all_goals exact unrefused_unavailable _
  unfold ensureFreshSample at refused
  cases fresh : freshSampleForRealtime safety now runtime with
  | ok sample =>
      rw [fresh] at refused
      cases refused
  | error other =>
      rw [fresh] at refused
      obtain rfl := Except.error.inj refused
      exact unavailable _ fresh

theorem unrefused_deviceStatus {safety : SafetyConfig} {now : Instant} {runtime : RuntimeState} {action : String} {err : AppError}
    (refused : ensureProvenHealthyDeviceStatus safety now runtime action = .error err) : ¬BatchRefusal err := by
  unfold ensureProvenHealthyDeviceStatus at refused
  repeat' split at refused
  all_goals cases refused
  all_goals exact unrefused_unavailable _

-- A piece of a critical section that leaves the batches alone and refuses nothing on their account.
def Unrefusing (v : BatchView) (s : Critical may me AppError α) : Prop := ∀ w, BatchView.of w = v → ∀ env, Succeeds env →
  BatchView.of (s.run env w).2 = v ∧ ∀ err, (s.run env w).1 = .error err → ¬BatchRefusal err

section Reset
variable {v : BatchView}

theorem unrefusing_bind {s : Critical may me AppError α} {k : α → Critical may me AppError β} (first : Unrefusing v s)
    (rest : ∀ value, Unrefusing v (k value)) : Unrefusing v (s >>= k) := by
  intro w seen env succeeds
  obtain ⟨kept,refusals⟩ := first w seen env succeeds
  rw [Section.run_bind]
  rcases ran : s.run env w with ⟨result,after⟩
  rw [ran] at kept refusals
  cases result with
  | ok value => exact rest value after kept env succeeds
  | error err => exact ⟨kept,fun other same => refusals other (congrArg Except.error (Except.error.inj same))⟩

theorem unrefusing_runtime {k : RuntimeState → Critical may me AppError β}
    (rest : ∀ runtime, runtime.activeBatchId = v.active → Unrefusing v (k runtime)) : Unrefusing v (runtimeState >>= k) := by
  intro w seen env succeeds
  exact rest w.state.runtime (congrArg BatchView.active seen) w seen env succeeds

theorem unrefusing_pure (value : α) : Unrefusing v (pure value : Critical may me AppError α) :=
  fun _ seen _ _ => ⟨seen,nofun⟩

theorem unrefusing_throw {err : AppError} (other : ¬BatchRefusal err) :
    Unrefusing v (throw err : Critical may me AppError α) := fun _ seen _ _ => ⟨seen,fun _ same => by cases same; exact other⟩

theorem unrefusing_throws {err : AppError} {k : α → Critical may me AppError β} (other : ¬BatchRefusal err) :
    Unrefusing v ((throw err : Critical may me AppError α) >>= k) :=
  fun _ seen _ _ => ⟨seen,fun _ same => by cases same; exact other⟩

theorem unrefusing_ofExcept {result : Except AppError α} (other : ∀ err, result = .error err → ¬BatchRefusal err) :
    Unrefusing v (.ofExcept result : Critical may me AppError α) := fun _ seen _ _ => ⟨seen,other⟩

theorem unrefusing_ensure {check : Instant → Except AppError α}
    (other : ∀ now err, check now = .error err → ¬BatchRefusal err) :
    Unrefusing v (ensure check : Critical may me AppError α) := fun _ seen env _ => ⟨seen,other env.now⟩

theorem unrefusing_note (note : Note) (allowed : may (.note note) = true) :
    Unrefusing v (ReactorOS.note note allowed : Critical may me AppError Unit) := fun _ seen _ _ => ⟨seen,nofun⟩

theorem unrefusing_now : Unrefusing v (utcNow : Critical may me AppError Instant) := fun _ seen _ _ => ⟨seen,nofun⟩

theorem unrefusing_change {change : Change} {allowed : may (.runtime change) = true}
    (kept : ∀ runtime, (change.apply runtime).activeBatchId = runtime.activeBatchId) :
    Unrefusing v (ReactorOS.change change allowed : Critical may me AppError Unit) := by
  intro w seen env succeeds
  subst seen
  exact ⟨congrArg (BatchView.mk · _) (kept _),nofun⟩

theorem unrefusing_active {runtime : RuntimeState} (idle : runtime.activeBatchId = none) (action : String) :
    Unrefusing v (.ofExcept (ensureNoActiveBatchForReset runtime action) : Critical may me AppError Unit) := by
  refine unrefusing_ofExcept fun err refused => ?_
  rw [ensureNoActiveBatchForReset,idle] at refused
  cases refused

theorem unrefusing_unfinished {runtime : RuntimeState} (idle : runtime.activeBatchId = none)
    (resolved : unfinishedIds v.batches = []) (action : String) :
    Unrefusing v (ensureNoUnfinishedBatchRecoveryForReset runtime action : Critical may me AppError Unit) := by
  intro w seen env succeeds
  subst seen
  have settled : w.state.db.unfinishedBatches 100 = [] := by
    have rows : w.state.db.batches.filter (fun batch => batch.finishedAt.isNone) = [] := List.map_eq_nil_iff.mp resolved
    rw [Db.unfinishedBatches,rows]
    rfl
  have ran : (ensureNoUnfinishedBatchRecoveryForReset runtime action : Critical may me AppError Unit).run env w =
      (.ok (),w) := by
    simp [ensureNoUnfinishedBatchRecoveryForReset,unfinishedBatchStatus,orInternalLocked,unfinishedBatchesSqlx,query,
      succeeds.db,settled,Except.mapError,unfinishedBatchStatusFromBatches,UnfinishedBatchStatus.recoveryRequired,
      UnfinishedBatchStatus.isConsistent,idle]
  rw [ran]
  refine ⟨rfl,fun _ refused => ?_⟩
  cases refused

def Unrefused (v : BatchView) (t : Handler may me AppError α) : Prop := t.amid BatchView.of Succeeds v fun result after =>
  after = v ∧ ∀ err, result = .error err → ¬BatchRefusal err

theorem unrefused_locked {s : Critical may me AppError α} (unrefusing : Unrefusing v s) : Unrefused v (locked s) := unrefusing

theorem unrefused_bind {t : Handler may me AppError α} {k : α → Handler may me AppError β} (first : Unrefused v t)
    (rest : ∀ value, Unrefused v (k value)) : Unrefused v (t >>= k) := by
  refine (amid_bind _ _ _).mpr (amid_mono ?_ first)
  intro result after reached
  rcases reached with ⟨rfl,refusals⟩
  cases result with
  | ok value => exact rest value
  | error err => exact ⟨rfl,fun other same => refusals other (congrArg Except.error (Except.error.inj same))⟩

theorem unrefused_through {t : Handler may me AppError α} (through : Recovers t v fun _ after => after = v) :
    Unrefused v t := by
  refine amid_mono ?_ through
  intro result after reached
  rcases reached with ⟨value,rfl,same⟩
  exact ⟨same,nofun⟩

set_option maxRecDepth 2000 in
-- Without a batch in the way no batch is the reason of a refusal.
theorem reset_unrefused (safety : SafetyConfig) (actor : AuditActor) (idle : v.active = none)
    (resolved : unfinishedIds v.batches = []) :
    Unrefused v (resetControlFault safety actor : Handler (Event.resetting .controlFault) me AppError Unit) := by
  have disabled : ∀ runtime : RuntimeState, (Change.autoDisabled.apply runtime).activeBatchId = runtime.activeBatchId :=
    fun _ => rfl
  have cleared : ∀ runtime : RuntimeState, ((Change.cleared .controlFault).apply runtime).activeBatchId = runtime.activeBatchId :=
    fun _ => rfl
  unfold resetControlFault
  refine unrefused_bind (unrefused_locked ?_) fun acknowledged => unrefused_bind ?_ fun _ => unrefused_locked ?_
  · refine unrefusing_runtime fun runtime same => ?_
    rw [idle] at same
    split
    · exact unrefusing_throw (unrefused_text rfl (by decide) (by decide))
    · split
      · exact unrefusing_throws (unrefused_text rfl (by decide) (by decide))
      · refine unrefusing_bind (unrefusing_change disabled) fun _ => ?_
        refine unrefusing_bind (unrefusing_active same _) fun _ => ?_
        refine unrefusing_bind (unrefusing_unfinished same resolved _) fun _ => ?_
        refine unrefusing_bind (unrefusing_ensure fun _ _ => unrefused_freshSample) fun _ => ?_
        refine unrefusing_bind (unrefusing_ensure fun _ _ => unrefused_deviceStatus) fun _ => ?_
        exact unrefusing_bind (unrefusing_note _ _) fun _ => unrefusing_pure _
  · exact unrefused_through (recovers_orInternal (recovers_within.mpr (recovers_insertControlEvent _ _ _ _ _)))
  · refine unrefusing_bind (unrefusing_change disabled) fun _ => unrefusing_runtime fun runtime same => ?_
    rw [idle] at same
    refine unrefusing_bind (unrefusing_active same _) fun _ => ?_
    refine unrefusing_bind (unrefusing_unfinished same resolved _) fun _ => ?_
    refine unrefusing_bind (unrefusing_ensure fun _ _ => unrefused_freshSample) fun _ => ?_
    refine unrefusing_bind (unrefusing_ensure fun _ _ => unrefused_deviceStatus) fun _ => ?_
    split
    · exact unrefusing_throws (unrefused_text rfl (by decide) (by decide))
    · refine unrefusing_bind unrefusing_now fun _ => unrefusing_bind (unrefusing_note _ _) fun _ => ?_
      exact unrefusing_change cleared

end Reset

-- The id of a batch is its key: a new record takes one that no record has.
theorem write_batch_ids {plant : Plant} {p : Progress} {write : Write} (unique : (plant.db.batches.map (·.id)).Nodup)
    (permitted : allowedWrite plant p write) : ((write.apply plant.db).batches.map (·.id)).Nodup := by
  cases write with
  | batchInserted batch =>
      change ((plant.db.batches ++ [batch]).map (·.id)).Nodup
      rw [List.map_append,List.map_singleton,permitted.1]
      refine List.nodup_append.mpr ⟨unique,List.nodup_singleton _,fun id member other last => ?_⟩
      rw [List.mem_singleton.mp last]
      exact fun same => plant.db.nextBatchId_fresh (same ▸ member)
  | batchFinished batchId now =>
      change ((finishedRows plant.db.batches batchId now).map (·.id)).Nodup
      rw [finishedRows_ids]
      exact unique
  | controlEventInserted event => exact unique
  | recommendationInserted recommendation event => exact unique
  | taskInserted task => exact unique
  | taskMarkedExecuting id message => exact unique
  | taskUpdated id status response => exact unique

theorem replay_batch_ids {safety : SafetyConfig} {init : Plant} {history : List (TaskId × Event)}
    (stored : (init.db.batches.map (·.id)).Nodup) (permitted : (rules safety).Throughout allowed init history) :
    ((replay init history).db.batches.map (·.id)).Nodup := by
  induction history with
  | nil => exact stored
  | cons entry older ih =>
      obtain ⟨i,event⟩ := entry
      have before := ih permitted.1
      cases event with
      | store write => exact write_batch_ids before permitted.2
      | runtime change => exact before
      | commanded writer command delivered => exact before
      | note note => exact before

theorem Site.after_batch_ids (site : Site) (jobs : TaskId → Job) (schedule : List (TaskId × Env)) :
    ((site.after jobs schedule).state.db.batches.map (·.id)).Nodup := by
  rw [site.after_consistent jobs schedule]
  exact replay_batch_ids site.stored.batchIds (site.after_allowed jobs schedule)

-- A request to finish a batch, as a task of the daemon beside tasks that leave the batches alone.
theorem Site.finish_in_company {site : Site} {jobs : TaskId → Job} {schedule more : List (TaskId × Env)} {i : TaskId}
    {batchId : Int} {actor : AuditActor} {result : Except AppError Unit} (request : jobs i = .finishBatch batchId actor)
    (waiting : ((site.daemon jobs).run schedule).tasks i = (site.daemon jobs).tasks i)
    (due : (site.after jobs schedule).state.runtime.activeBatchId = some batchId ∨
      (site.after jobs schedule).state.runtime.activeBatchId = none ∧
        batchId ∈ unfinishedIds (site.after jobs schedule).state.db.batches)
    (company : System.Company i BatchView.of Succeeds ((site.daemon jobs).run schedule) more)
    (finished : ((site.daemon jobs).run (schedule ++ more)).tasks i = .done result) :
    result = .ok () ∧ Closes batchId (.of (site.after jobs schedule)) (.of (site.after jobs (schedule ++ more))) := by
  have closes : ∀ job : Job, job = .finishBatch batchId actor → (job.task site.safety i).amid BatchView.of Succeeds
      (.of (site.after jobs schedule)) (GoesThrough fun _ after => Closes batchId (.of (site.after jobs schedule)) after) := by
    intro _ same
    rcases same with rfl
    exact recovers_finishBatch site.safety actor (site.after_batch_ids jobs schedule) due
  have start := closes _ request
  change ((site.daemon jobs).tasks i).amid _ _ _ _ at start
  rw [← waiting] at start
  rw [System.run_append] at finished
  obtain ⟨_,same,closed⟩ := System.result_amid start company finished
  refine ⟨same,?_⟩
  unfold Site.after at closed ⊢
  rw [System.run_append]
  exact closed

theorem recovery_ends (site : Site) (jobs : TaskId → Job) (schedule : List (TaskId × Env)) (me : TaskId)
    (actor resetter : AuditActor) (ids : List Int)
    (remaining : ids.Perm ((unfinishedIds (site.after jobs schedule).state.db.batches).filter
      ((site.after jobs schedule).state.runtime.activeBatchId ≠ some ·))) :
    (finishBatches site.safety actor ((site.after jobs schedule).state.runtime.activeBatchId.toList ++ ids) :
        Handler Event.work me AppError Unit).amid BatchView.of Succeeds (.of (site.after jobs schedule)) fun result after =>
      result = .ok () ∧ after.active = none ∧ (∀ batch ∈ after.batches, batch.finishedAt.isSome) ∧
      (resetControlFault site.safety resetter : Handler (Event.resetting .controlFault) me AppError Unit).amid
        BatchView.of Succeeds after fun reset _ => ∀ err, reset = .error err → ¬BatchRefusal err := by
  refine amid_mono ?_ (recovers_batches site.safety actor (v := .of (site.after jobs schedule))
    (site.after_batch_ids jobs schedule) remaining)
  intro result after reached
  rcases reached with ⟨_,rfl,idle,resolved⟩
  refine ⟨rfl,idle,fun batch member => ?_,amid_mono (fun _ _ reset => reset.2) (reset_unrefused site.safety resetter idle resolved)⟩
  cases finished : batch.finishedAt with
  | some at' => rfl
  | none =>
      have open' : batch.id ∈ unfinishedIds after.batches := mem_unfinishedIds.mpr ⟨batch,member,finished,rfl⟩
      rw [resolved] at open'
      cases open'

def interruptedBatch (id : Int) : Batch := ⟨id,none,"batch",0,none,60,300,60,60⟩

-- A daemon that comes up again over two batches that were never finished.
def Site.interrupted : Site := ⟨.shipped,{
  db := ⟨[interruptedBatch 1,interruptedBatch 2],[],[]⟩
  batchIds := by simp [interruptedBatch]
  taskIds := List.nodup_nil }⟩

theorem recovery_ends_interrupted :
    let jobs : TaskId → Job := fun _ => .setAuto true .system
    (Site.interrupted.after jobs []).state.runtime.activeBatchId = some 2 ∧
    (finishBatches .shipped .system [2,1] : Handler Event.work 0 AppError Unit).amid BatchView.of Succeeds
      (.of (Site.interrupted.after jobs [])) fun result after =>
        result = .ok () ∧ after.active = none ∧ (∀ batch ∈ after.batches, batch.finishedAt.isSome) ∧
        (resetControlFault .shipped .system : Handler (Event.resetting .controlFault) 0 AppError Unit).amid
          BatchView.of Succeeds after fun reset _ => ∀ err, reset = .error err → ¬BatchRefusal err :=
  ⟨rfl,recovery_ends .interrupted (fun _ => .setAuto true .system) [] 0 .system .system [1] (List.Perm.refl [1])⟩

def finishing : TaskId → Job
  | 0 => .finishBatch 2 .system
  | _ => .controlLoop .simulation 1

-- After a round of the control loop the request finishes the batch that the restart made active.
theorem finish_in_company_interrupted :
    Closes 2 (.of (Site.interrupted.after finishing (healthy [1,1,1])))
      (.of (Site.interrupted.after finishing (healthy [1,1,1] ++ healthy (List.replicate 8 0)))) := by
  have waiting : ((Site.interrupted.daemon finishing).run (healthy [1,1,1])).tasks 0 = (Site.interrupted.daemon finishing).tasks 0 :=
    System.run_elsewhere (by decide)
  have active : (Site.interrupted.after finishing (healthy [1,1,1])).state.runtime.activeBatchId = some 2 := by decide +kernel
  have alone : System.Company 0 BatchView.of Succeeds ((Site.interrupted.daemon finishing).run (healthy [1,1,1]))
      (healthy (List.replicate 8 0)) := by
    refine System.company_alone fun entry member => ?_
    obtain ⟨task,listed,rfl⟩ := List.mem_map.mp member
    exact ⟨List.eq_of_mem_replicate listed,rfl,rfl⟩
  have ended : (match ((Site.interrupted.daemon finishing).run (healthy [1,1,1] ++ healthy (List.replicate 8 0))).tasks 0 with
      | .done _ => true
      | .step _ _ _ => false) = true := by decide +kernel
  cases finished : ((Site.interrupted.daemon finishing).run (healthy [1,1,1] ++ healthy (List.replicate 8 0))).tasks 0 with
  | step update kept next =>
      rw [finished] at ended
      cases ended
  | done result => exact (Site.finish_in_company rfl waiting (.inl active) alone finished).2

end ReactorOS
