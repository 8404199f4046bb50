import ReactorOS.TaskRefinement
namespace ReactorOS.TaskStore
open Wire Storage
variable {Value Time : Type}

-- The database of a site and the key that its daemon is given.
structure Installation where
  encryption : Option EncryptionKey
  tables : Tables

structure Exchange (Value Time : Type) where
  call : Call Time
  request : Request Value
  result : Except StoreError (List (StoredTask Value Time))

-- What can come between two moments: a call of the store, a key where there was none, or
-- the command that puts the payloads under another key.
inductive Step (crypto : Cryptography) (formats : Formats Value Time) :
    Installation → List (Exchange Value Time) → Installation → Prop
  | served {encryption : Option EncryptionKey} {tables : Tables} (call : Call Time) (request : Request Value)
      (shallow : request.Shallow formats) :
      Step crypto formats ⟨encryption,tables⟩ [⟨call,request,(serve crypto formats encryption call request tables).1⟩]
        ⟨encryption,(serve crypto formats encryption call request tables).2⟩
  | switched {tables : Tables} (key : EncryptionKey) : Step crypto formats ⟨none,tables⟩ [] ⟨some key,tables⟩
  | rekeyed {encryption : Option EncryptionKey} {tables left : Tables} {old new : EncryptionKey} {output : RekeyOutput}
      (run : RekeyRun) (held : encryption = none ∨ encryption = some old) (oldKey : run.oldKey = .ok old)
      (newKey : run.newKey = .ok new) (wet : run.dryRun = false)
      (done : run.keyRekeyIntegrationTasks crypto tables.tasks = (.ok output,left.tasks))
      (counted : left.sequence = tables.sequence) : Step crypto formats ⟨encryption,tables⟩ [] ⟨some new,left⟩

inductive Runs (crypto : Cryptography) (formats : Formats Value Time) :
    Installation → List (Exchange Value Time) → Installation → Prop
  | none (installation : Installation) : Runs crypto formats installation [] installation
  | more {start here there : Installation} {exchanges new : List (Exchange Value Time)}
      (runs : Runs crypto formats start exchanges here) (step : Step crypto formats here new there) :
      Runs crypto formats start (exchanges ++ new) there

-- The same exchanges with a register: a call that is answered with an error was carried
-- out or was not.
inductive History (formats : Formats Value Time) : Register Value Time → List (Exchange Value Time) → Register Value Time → Prop
  | none (register : Register Value Time) : History formats register [] register
  | more {start before after : Register Value Time} {exchanges : List (Exchange Value Time)} {exchange : Exchange Value Time}
      (history : History formats start exchanges before)
      (served : Served exchange.request before (performed formats before exchange.call.now exchange.request)
        exchange.result after) : History formats start (exchanges ++ [exchange]) after

variable {crypto : Cryptography} {formats : Formats Value Time}

section Keys
variable {encryption : Option EncryptionKey} {tables left : Tables} {register : Register Value Time} {key old new : EncryptionKey}

theorem encodes_imp {Raw Row Err : Type} {decode decode' : Raw → Except Err Row} {raws : List Raw} {rows : List Row}
    (encodes : Encodes decode raws rows) (same : ∀ raw row, decode raw = .ok row → decode' raw = .ok row) :
    Encodes decode' raws rows := encodes.imp same

theorem switched_reads (reads : Reads crypto formats none tables register) :
    Reads crypto formats (some key) tables register := by
  refine ⟨encodes_imp reads.rows fun row task read => ?_,reads.sequence⟩
  have was := fromRow_ok.mp read
  exact fromRow_ok.mpr {was with
    request := payload_switched was.request
    response := payload_switched was.response}

theorem rekeyed_row {before after : TaskRow} {task : StoredTask Value Time}
    (was : RowReads crypto formats (some old) before task) (rekeyed : RowRekeyed crypto old new before after) :
    RowReads crypto formats (some new) after task := by
  have columns := rekeyed.columns
  rw [columns]
  exact {was with
    request := payload_rekeyed rekeyed.request was.request
    response := payload_rekeyed rekeyed.response was.response}

theorem rekeyed_rows {before after : List TaskRow} {tasks : List (StoredTask Value Time)}
    (rekeyed : List.Forall₂ (RowRekeyed crypto old new) before after)
    (reads : Encodes (integrationTaskFromRow crypto formats (some old)) before tasks) :
    Encodes (integrationTaskFromRow crypto formats (some new)) after tasks := by
  induction rekeyed generalizing tasks with
  | nil =>
      cases reads
      exact .nil
  | cons first _ ih =>
      cases reads with
      | cons read rest => exact .cons (fromRow_ok.mpr (rekeyed_row (fromRow_ok.mp read) first)) (ih rest)

-- The command that succeeds leaves every task as it was, under the new key.
theorem rekeyed_reads (sound : crypto.Reliable) {run : RekeyRun} {output : RekeyOutput}
    (reads : Reads crypto formats (some old) tables register) (oldKey : run.oldKey = .ok old) (newKey : run.newKey = .ok new)
    (wet : run.dryRun = false) (done : run.keyRekeyIntegrationTasks crypto tables.tasks = (.ok output,left.tasks))
    (counted : left.sequence = tables.sequence) : Reads crypto formats (some new) left register := by
  refine ⟨?_,counted.trans reads.sequence⟩
  cases rekey_leaves crypto tables.tasks wet with
  | inl failed =>
      obtain ⟨⟨err,stopped⟩,_⟩ := failed
      rw [done] at stopped
      cases stopped
  | inr committed =>
      obtain ⟨old',new',daemon,report,commits,rewritten,_⟩ := committed
      obtain ⟨_,cleared⟩ := commits.preflight
      obtain ⟨was,is,_⟩ := preflight_keys cleared
      rw [oldKey] at was
      rw [newKey] at is
      cases was
      cases is
      rw [done] at rewritten
      exact rekeyed_rows (rewritten.imp fun _ _ change => change.rekeyed sound) reads.rows

end Keys

section Runs
variable {start here there : Installation} {exchanges new : List (Exchange Value Time)} {register : Register Value Time}

theorem empty_reads (encryption : Option EncryptionKey) :
    Reads crypto formats encryption .empty (.empty : Register Value Time) := ⟨.nil,rfl⟩

theorem step_reads (sound : crypto.Reliable) (reliable : formats.Reliable) (step : Step crypto formats here new there)
    (reads : Reads crypto formats here.encryption here.tables register) :
    ∃ after, History formats register new after ∧ Reads crypto formats there.encryption there.tables after := by
  cases step with
  | served call request shallow =>
      obtain ⟨⟨after,left,served⟩,_⟩ := serve_refines call sound reliable reads shallow
      exact ⟨after,.more (.none register) served,left⟩
  | switched key => exact ⟨register,.none register,switched_reads reads⟩
  | rekeyed run held oldKey newKey wet done counted =>
      refine ⟨register,.none register,?_⟩
      cases held with
      | inl bare =>
          cases bare
          exact rekeyed_reads sound (switched_reads reads) oldKey newKey wet done counted
      | inr same =>
          cases same
          exact rekeyed_reads sound reads oldKey newKey wet done counted

theorem history_append {one two three : Register Value Time} {first second : List (Exchange Value Time)}
    (before : History formats one first two) (after : History formats two second three) :
    History formats one (first ++ second) three := by
  induction after with
  | none =>
      rw [List.append_nil]
      exact before
  | more _ served ih =>
      rw [← List.append_assoc]
      exact .more ih served

theorem runs_read (sound : crypto.Reliable) (reliable : formats.Reliable) (runs : Runs crypto formats start exchanges there)
    (reads : Reads crypto formats start.encryption start.tables register) :
    ∃ after, History formats register exchanges after ∧ Reads crypto formats there.encryption there.tables after := by
  induction runs with
  | none => exact ⟨register,.none register,reads⟩
  | more runs step ih =>
      obtain ⟨between,earlier,left⟩ := ih
      obtain ⟨after,later,read⟩ := step_reads sound reliable step left
      exact ⟨after,history_append earlier later,read⟩

end Runs

section Continuity
variable {register before after : Register Value Time} {exchanges : List (Exchange Value Time)} {task : StoredTask Value Time}

theorem served_continues {request : Request Value} {now : Time}
    {result : Except StoreError (List (StoredTask Value Time))}
    (served : Served request before (performed formats before now request) result after) (member : task ∈ before.tasks) :
    ∃ later ∈ after.tasks, task.Continues later := by
  cases served.moved with
  | inl same =>
      rw [same]
      exact ⟨task,member,Register.continues_refl task⟩
  | inr moved =>
      obtain ⟨admitted,rfl⟩ := moved
      have mapped : (request.map formats.reparsed).Admitted := by
        cases request with
        | update id status response => exact admitted
        | create => trivial
        | markExecuting => trivial
        | get => trivial
        | list => trivial
      exact Register.perform_continues mapped member

-- What a call was answered with has stood in the register, and stands in it as it has become.
theorem history_answered (history : History formats before exchanges after) {exchange : Exchange Value Time}
    (member : exchange ∈ exchanges) {tasks : List (StoredTask Value Time)} (answered : exchange.result = .ok tasks)
    (named : task ∈ tasks) : ∃ later ∈ after.tasks, task.Continues later := by
  induction history with
  | none => cases member
  | more history served ih =>
      cases List.mem_append.mp member with
      | inl earlier =>
          obtain ⟨between,present,first⟩ := ih earlier
          obtain ⟨later,left,second⟩ := served_continues served present
          exact ⟨later,left,Register.continues_trans first second⟩
      | inr last =>
          cases List.mem_singleton.mp last
          obtain ⟨rfl,rfl⟩ := served.answered tasks answered
          exact ⟨task,Register.perform_answers named,Register.continues_refl task⟩

end Continuity

-- Whatever is called and whatever fails, the tables read as a register that has had the
-- same calls and given the same answers; a call with nothing in its way is answered.
theorem task_store_refines (sound : crypto.Reliable) (reliable : formats.Reliable) {installation : Installation}
    {exchanges : List (Exchange Value Time)} (runs : Runs crypto formats ⟨none,.empty⟩ exchanges installation) :
    ∃ register, History formats .empty exchanges register ∧
      Reads crypto formats installation.encryption installation.tables register ∧
      ∀ call request, request.Shallow formats →
        Clear crypto formats installation.encryption call installation.tables request →
        ∃ tasks, (serve crypto formats installation.encryption call request installation.tables).1 = .ok tasks := by
  obtain ⟨register,history,reads⟩ := runs_read sound reliable runs (empty_reads none)
  refine ⟨register,history,reads,?_⟩
  intro call request shallow clear
  exact (serve_refines call sound reliable reads shallow).2 clear

def filing : Exchange BenchValue String :=
  ⟨benchCall "2026-01-01T00:00:00+00:00",fileOne,
    (serve benchCrypto benchFormats none (benchCall "2026-01-01T00:00:00+00:00") fileOne .empty).1⟩

def afterFiling : Tables := (serve benchCrypto benchFormats none (benchCall "2026-01-01T00:00:00+00:00") fileOne .empty).2

def benchKey : EncryptionKey := ⟨List.replicate 32 5,rfl⟩

-- A task is filed in the clear, and then the daemon is given a key.
theorem filing_runs : Runs benchCrypto benchFormats ⟨none,.empty⟩ [filing] ⟨some benchKey,afterFiling⟩ := by
  have shallow : fileOne.Shallow benchFormats := by
    change 1 < 128
    decide
  exact .more (.more (.none _) (.served _ _ shallow)) (.switched benchKey)

theorem task_store_refines_filing : ∃ register, History benchFormats .empty [filing] register ∧
    Reads benchCrypto benchFormats (some benchKey) afterFiling register := by
  obtain ⟨register,history,reads,_⟩ := task_store_refines benchCrypto_reliable benchFormats_reliable filing_runs
  exact ⟨register,history,reads⟩

-- A task that a caller has seen is found for good: under its number, for the same source
-- and identifier, with the same request, and never at an earlier status.
theorem answered_task_kept (sound : crypto.Reliable) (reliable : formats.Reliable) {installation : Installation}
    {exchanges : List (Exchange Value Time)} (runs : Runs crypto formats ⟨none,.empty⟩ exchanges installation)
    {exchange : Exchange Value Time} (member : exchange ∈ exchanges) {tasks : List (StoredTask Value Time)}
    (answered : exchange.result = .ok tasks) {task : StoredTask Value Time} (named : task ∈ tasks) {call : Call Time}
    (quiet : ∀ statement, call.failure statement = none) :
    ∃ later, (serve crypto formats installation.encryption call (.get task.id) installation.tables).1 = .ok [later] ∧
      task.Continues later := by
  obtain ⟨register,history,reads⟩ := runs_read sound reliable runs (empty_reads none)
  obtain ⟨later,present,continues⟩ := history_answered history member answered named
  have found : register.byId task.id = some later := by
    rw [← continues.id]
    exact Register.byId_of_mem present
  refine ⟨later,?_,continues⟩
  have answers : Ends (serve crypto formats installation.encryption call (.get task.id)) installation.tables
      fun result _ => result = .ok [later] := by
    refine ends_bind (ends_bind (ends_allow ?_ fun err fails => ?_))
    · refine ends_byId reads ?_ fun err fails => ?_
      · rw [found]
        rfl
      · rw [quiet] at fails
        cases fails
    · rw [quiet] at fails
      cases fails
  exact answers

theorem answered_task_kept_filing : ∃ later, (serve benchCrypto benchFormats (some benchKey)
    (benchCall "2026-01-02T00:00:00+00:00") (.get 1) afterFiling).1 = .ok [later] ∧ filedOne.Continues later := by
  have answered : filing.result = .ok [filedOne] := rfl
  exact answered_task_kept benchCrypto_reliable benchFormats_reliable filing_runs List.mem_cons_self answered
    List.mem_cons_self fun _ => rfl

end ReactorOS.TaskStore
