import ReactorOS.TaskRefinement
namespace ReactorOS.TaskStore
open Wire Storage
variable {Value Time : Type}

-- A row that the store wrote a payload of under this key.
def SealedUnder (crypto : Cryptography) (key : EncryptionKey) (row : TaskRow) : Prop :=
  ∃ nonce plaintext, crypto.encryptJson key nonce plaintext = .ok row.requestJson ∨
    crypto.encryptJson key nonce plaintext = .ok row.responseJson

-- A call, and the key of the store that it is made of.
structure Visit (Value Time : Type) where
  encryption : Option EncryptionKey
  call : Call Time
  request : Request Value

def serveAll (crypto : Cryptography) (formats : Formats Value Time) :
    List (Visit Value Time) → Tables → List (Except StoreError (List (StoredTask Value Time))) × Tables
  | [],tables => ([],tables)
  | visit :: rest,tables =>
      let served := serve crypto formats visit.encryption visit.call visit.request tables
      let later := serveAll crypto formats rest served.2
      (served.1 :: later.1,later.2)

-- The rows that go by the name that this row goes by.
def Namesake (row other : TaskRow) : Prop :=
  row.externalTaskId ≠ none ∧ other.source = row.source ∧ other.externalTaskId = row.externalTaskId

-- The row stands as it stood, nothing of it was told, and its name was not given again.
structure Untouched (row : TaskRow) (before : Tables) (tasks : List (StoredTask Value Time)) (after : Tables) : Prop where
  kept : row ∈ after.tasks.rows
  untold : ∀ task ∈ tasks, task.id ≠ row.id
  named : ∀ other ∈ after.tasks.rows, Namesake row other →
    ∃ earlier ∈ before.tasks.rows, earlier.id = other.id ∧ Namesake row earlier

-- What an answer tells.
def told : Except StoreError (List (StoredTask Value Time)) → List (StoredTask Value Time)
  | .ok tasks => tasks
  | .error _ => []

variable {crypto : Cryptography} {formats : Formats Value Time} {encryption : Option EncryptionKey} {key : EncryptionKey}
  {row : TaskRow} {tables : Tables} {call : Call Time}

theorem sealed_text {nonce : Nonce} {plaintext text : String} (sound : crypto.Reliable)
    (made : crypto.encryptJson key nonce plaintext = .ok text) (foreign : encryption ≠ some key) :
    ∃ failure, openSensitiveJson crypto encryption text = .error failure := by
  unfold openSensitiveJson
  cases encryption with
  | none =>
      obtain ⟨ciphertext,_,rfl⟩ := encryptJson_ok.mp made
      have marked : ∀ rest, startsWith encryptedJsonPrefix (encryptedJsonPrefix ++ rest) = true := by
        intro rest
        unfold startsWith
        rw [String.toList_append]
        exact List.isPrefixOf_iff_prefix.mpr (List.prefix_append _ _)
      simp only [marked,if_true]
      exact ⟨_,rfl⟩
  | some other =>
      have differs : other ≠ key := fun same => foreign (congrArg some same)
      dsimp only
      cases opened : crypto.decryptJsonIfNeeded other text with
      | error failure => exact ⟨failure,rfl⟩
      | ok read => exact absurd opened (decrypt_foreign sound made differs)

-- The row is no task to a store with another key or with none, and no listing passes it over.
theorem sealed_unreadable (sound : crypto.Reliable) (locked : SealedUnder crypto key row) (foreign : encryption ≠ some key) :
    ∃ failure, integrationTaskFromRow crypto formats encryption row = .error (.conversion failure) := by
  obtain ⟨nonce,plaintext,made⟩ := locked
  have refuses : ∀ {text failure}, openSensitiveJson crypto encryption text = .error failure →
      parseSensitiveJson crypto formats encryption text = .error (.conversion failure) := by
    intro text failure opened
    unfold parseSensitiveJson
    rw [opened]
    rfl
  have fails : ∀ text, (∃ failure, parseSensitiveJson crypto formats encryption text = .error (.conversion failure)) ∨
      ∃ value, parseSensitiveJson crypto formats encryption text = .ok value := by
    intro text
    cases opened : openSensitiveJson crypto encryption text with
    | error failure => exact .inl ⟨failure,refuses opened⟩
    | ok plain =>
        cases parsed : formats.fromStr plain with
        | error err =>
            refine .inl ⟨⟨err,[]⟩,?_⟩
            unfold parseSensitiveJson
            rw [opened]
            change (formats.fromStr plain).mapError _ = _
            rw [parsed]
            rfl
        | ok value => exact .inr ⟨value,parse_opened opened parsed⟩
  unfold integrationTaskFromRow
  cases fails row.requestJson with
  | inl refused =>
      obtain ⟨failure,refused⟩ := refused
      rw [refused]
      exact ⟨failure,rfl⟩
  | inr requested =>
      obtain ⟨request,requested⟩ := requested
      rw [ok_bind requested]
      cases made with
      | inl request_made =>
          obtain ⟨failure,opened⟩ := sealed_text sound request_made foreign
          rw [refuses opened] at requested
          cases requested
      | inr response_made =>
          obtain ⟨failure,opened⟩ := sealed_text sound response_made foreign
          rw [refuses opened]
          exact ⟨failure,rfl⟩

theorem sealed_unread (sound : crypto.Reliable) (locked : SealedUnder crypto key row) (foreign : encryption ≠ some key)
    (task : StoredTask Value Time) : integrationTaskFromRow crypto formats encryption row ≠ .ok task := by
  obtain ⟨failure,refused⟩ := @sealed_unreadable _ _ _ formats _ _ _ sound locked foreign
  rw [refused]
  intro impossible
  cases impossible

section Calls
variable {α : Type}

-- A search among rows of any kind: what it answers with is a row that reads.
theorem ends_query {post : Except StoreError (Option (StoredTask Value Time)) → Tables → Prop} {statement : TaskStatement}
    {here : TaskRow → Bool} (missing : tables.tasks.rows.find? here = none → post (.ok none) tables)
    (found : ∀ other task, tables.tasks.rows.find? here = some other →
      integrationTaskFromRow crypto formats encryption other = .ok task → post (.ok (some task)) tables)
    (failed : ∀ error, post (.error error) tables) :
    Ends (queryRow crypto formats encryption call statement here) tables post := by
  refine ends_bind (ends_allow ?_ fun err _ => failed _)
  refine ends_bind (ends_get ?_)
  dsimp only
  cases first : tables.tasks.rows.find? here with
  | none => exact missing first
  | some other =>
      dsimp only
      cases read : integrationTaskFromRow crypto formats encryption other with
      | error error => exact failed _
      | ok task => exact found other task first read

theorem ends_write {post : Except StoreError Unit → Tables → Prop} {write : Tables → Except Failure Tables}
    (done : ∀ written, write tables = .ok written → post (.ok ()) written) (failed : ∀ error, post (.error error) tables) :
    Ends (execute write) tables post := by
  cases accepts : write tables with
  | ok written => exact ends_execute accepts (done written accepts)
  | error err => exact ends_rejected accepts (failed _)

end Calls

section Guard

variable (row tables) in
-- What a call of a foreign store comes to.
def Guarded (result : Except StoreError (List (StoredTask Value Time))) (left : Tables) : Prop :=
  Untouched row tables (told result) left

variable {left : Tables}

theorem guarded_same {result : Except StoreError (List (StoredTask Value Time))} (member : row ∈ tables.tasks.rows)
    (untold : ∀ task ∈ told result, task.id ≠ row.id) : Guarded row tables result tables :=
  ⟨member,untold,fun other present namesake => ⟨other,present,rfl,namesake⟩⟩

theorem guarded_refused {error : StoreError} (member : row ∈ tables.tasks.rows) :
    Guarded row tables (.error error : Except StoreError (List (StoredTask Value Time))) tables :=
  guarded_same member fun _ impossible => by cases impossible

theorem guarded_none (member : row ∈ tables.tasks.rows) :
    Guarded row tables (.ok [] : Except StoreError (List (StoredTask Value Time))) tables :=
  guarded_same member fun _ impossible => by cases impossible

theorem read_id {other : TaskRow} {task : StoredTask Value Time}
    (read : integrationTaskFromRow crypto formats encryption other = .ok task) : task.id = other.id := (fromRow_ok.mp read).id

-- A row that reads is another row.
theorem read_other (unread : ∀ task, integrationTaskFromRow crypto formats encryption row ≠ .ok task)
    (member : row ∈ tables.tasks.rows) {other : TaskRow} {task : StoredTask Value Time} (present : other ∈ tables.tasks.rows)
    (read : integrationTaskFromRow crypto formats encryption other = .ok task) : task.id ≠ row.id := by
  intro same
  have equal := same_of_id present member ((read_id read).symm.trans same)
  rw [equal] at read
  exact unread task read

theorem update_guards {here : TaskRow → Bool} {status responseJson updatedAt : String} (member : row ∈ tables.tasks.rows)
    (elsewhere : here row = false) {written : Tables} (accepts : tables.updateTask here status responseJson updatedAt = .ok written) :
    row ∈ written.tasks.rows ∧ ∀ other ∈ written.tasks.rows, Namesake row other →
      ∃ earlier ∈ tables.tasks.rows, earlier.id = other.id ∧ Namesake row earlier := by
  unfold Tables.updateTask at accepts
  split at accepts
  · cases accepts
  · cases accepts
    constructor
    · refine List.mem_map.mpr ⟨row,member,?_⟩
      rw [elsewhere]
      rfl
    · intro other present namesake
      obtain ⟨earlier,before,rfl⟩ := List.mem_map.mp present
      refine ⟨earlier,before,(Tables.settled_id here status responseJson updatedAt earlier).symm,?_⟩
      unfold Namesake at namesake ⊢
      split at namesake
      · exact namesake
      · exact namesake

theorem insert_guards {new : TaskRow} (member : row ∈ tables.tasks.rows)
    (apart : ¬Namesake row new) {written : Tables} (accepts : tables.insertTask new = .ok written) :
    row ∈ written.tasks.rows ∧ written.sequence ≠ row.id ∧
      ∀ other ∈ written.tasks.rows, Namesake row other →
        ∃ earlier ∈ tables.tasks.rows, earlier.id = other.id ∧ Namesake row earlier := by
  unfold Tables.insertTask at accepts
  split at accepts
  · cases accepts
  · split at accepts
    · cases accepts
    · cases accepts
      refine ⟨List.mem_append_left _ member,?_,?_⟩
      · have below := tables.used row member
        change tables.sequence+1 ≠ row.id
        omega
      · intro other present namesake
        cases List.mem_append.mp present with
        | inl before => exact ⟨other,before,rfl,namesake⟩
        | inr last =>
            rw [List.mem_singleton.mp last] at namesake
            exact (apart namesake).elim

-- The answer of a read by number: another row's, or none.
theorem ends_guarded_read {id : Int} {statement : TaskStatement}
    (unread : ∀ task, integrationTaskFromRow crypto formats encryption row ≠ .ok task) (member : row ∈ left.tasks.rows)
    (named : ∀ other ∈ left.tasks.rows, Namesake row other →
      ∃ earlier ∈ tables.tasks.rows, earlier.id = other.id ∧ Namesake row earlier) :
    Ends (integrationTaskByIdConn crypto formats encryption call statement id) left fun result after =>
      Guarded row tables (result.map Option.toList) after := by
  refine ends_query (fun _ => ⟨member,(by simp [told,Except.map]),named⟩) ?_ fun error => ⟨member,(by simp [told,Except.map]),named⟩
  intro other task found read
  refine ⟨member,?_,named⟩
  intro task' told'
  rw [show task' = task by simpa [told,Except.map] using told']
  exact read_other unread member (List.mem_of_find?_eq_some found) read

theorem ends_guarded_lists {statements : Statements (Option (StoredTask Value Time))}
    (ends : Ends statements left fun result after => Guarded row tables (result.map Option.toList) after) :
    Ends (do return (← statements).toList) left (Guarded row tables) := by
  refine ends_bind (ends_imp ends ?_)
  intro result after guarded
  cases result with
  | ok found => exact guarded
  | error error => exact guarded

theorem create_guarded {source action : String} {externalTaskId : Option String} {value : Value}
    (unread : ∀ task, integrationTaskFromRow crypto formats encryption row ≠ .ok task) (member : row ∈ tables.tasks.rows) :
    Ends (serve crypto formats encryption call (.create source externalTaskId action value)) tables (Guarded row tables) := by
  unfold serve createIntegrationTask
  refine ends_bind (ends_bind (ends_settle ?_ fun _ _ => guarded_refused member))
  intro _ _
  refine ends_bind (ends_allow ?_ fun _ _ => guarded_refused member)
  have existing : Ends (existingTask crypto formats encryption call source externalTaskId) tables
      fun result after => after = tables ∧ ∀ found, result = .ok found →
        (∀ task, found = some task → task.id ≠ row.id) ∧ (found = none → externalTaskId = none ∨
          ¬(row.source = source ∧ row.externalTaskId = externalTaskId)) := by
    cases externalTaskId with
    | none =>
        refine ⟨rfl,fun found same => ?_⟩
        cases same
        exact ⟨(fun task impossible => by cases impossible),fun _ => .inl rfl⟩
    | some identifier =>
        refine ends_query ?_ ?_ ?_
        · intro missing
          refine ⟨rfl,fun found same => ?_⟩
          cases same
          refine ⟨(fun task impossible => by cases impossible),fun _ => .inr ?_⟩
          have missed := List.find?_eq_none.mp missing row member
          simpa using missed
        · intro other task first read
          refine ⟨rfl,fun found same => ?_⟩
          cases same
          refine ⟨?_,fun impossible => by cases impossible⟩
          intro task' same
          cases same
          exact read_other unread member (List.mem_of_find?_eq_some first) read
        · intro error
          exact ⟨rfl,fun found impossible => by cases impossible⟩
  refine ends_bind (ends_imp existing ?_)
  intro result after answered
  obtain ⟨rfl,answers⟩ := answered
  cases result with
  | error error => exact guarded_refused member
  | ok found =>
      obtain ⟨others,unknown⟩ := answers found rfl
      cases found with
      | some task =>
          refine guarded_same member ?_
          intro task' single
          rw [List.mem_singleton.mp single]
          exact others task rfl
      | none =>
          dsimp only
          refine ends_bind (ends_settle ?_ fun _ _ => guarded_refused member)
          intro requestJson _
          refine ends_bind (ends_settle ?_ fun _ _ => guarded_refused member)
          intro responseJson _
          refine ends_bind (ends_allow ?_ fun _ _ => guarded_refused member)
          refine ends_bind (ends_write ?_ fun _ => guarded_refused member)
          intro written accepts
          have apart : ¬Namesake row ⟨0,externalTaskId,source,action,"received",requestJson,responseJson,
              formats.toRfc3339 call.now,formats.toRfc3339 call.now⟩ := by
            intro namesake
            obtain ⟨named,origin,given⟩ := namesake
            cases unknown rfl with
            | inl nameless => exact named (given.symm.trans nameless)
            | inr different => exact different ⟨origin.symm,given.symm⟩
          obtain ⟨stays,fresh,known⟩ := insert_guards member apart accepts
          refine ends_bind (ends_get ?_)
          refine ends_bind (ends_imp (ends_guarded_read unread stays known) ?_)
          intro result after guarded
          cases result with
          | error error => exact guarded
          | ok found =>
              cases found with
              | none => exact guarded
              | some task => exact guarded

-- The write of a call is to a row that was read, hence to another one.
theorem settling_guards {id : Int} {here : TaskRow → Bool} {status : String} {response : Value}
    (unread : ∀ task, integrationTaskFromRow crypto formats encryption row ≠ .ok task) (member : row ∈ tables.tasks.rows)
    (elsewhere : here row = false) :
    Ends (do
      let responseJson ← settle (serializeSensitiveJson crypto formats encryption call.responseNonce response)
      call.allow .update
      execute (·.updateTask here status responseJson (formats.toRfc3339 call.now))
      integrationTaskByIdConn crypto formats encryption call .selectAfterwards id) tables
      fun result after => Guarded row tables (result.map Option.toList) after := by
  refine ends_bind (ends_settle ?_ fun _ _ => guarded_refused member)
  intro responseJson _
  refine ends_bind (ends_allow ?_ fun _ _ => guarded_refused member)
  refine ends_bind (ends_write ?_ fun _ => guarded_refused member)
  intro written accepts
  obtain ⟨stays,known⟩ := update_guards member elsewhere accepts
  exact ends_guarded_read unread stays known

-- A read by number before a write: only a row that reads lets the call go on.
theorem reading_guards {id : Int} {next : Option (StoredTask Value Time) → Statements (Option (StoredTask Value Time))}
    (unread : ∀ task, integrationTaskFromRow crypto formats encryption row ≠ .ok task) (member : row ∈ tables.tasks.rows)
    (missing : Ends (next none) tables fun result after => Guarded row tables (result.map Option.toList) after)
    (found : ∀ task, task.id ≠ row.id → id ≠ row.id →
      Ends (next (some task)) tables fun result after => Guarded row tables (result.map Option.toList) after) :
    Ends (integrationTaskByIdConn crypto formats encryption call .selectById id >>= next) tables
      fun result after => Guarded row tables (result.map Option.toList) after := by
  refine ends_bind (ends_query (fun _ => missing) ?_ fun _ => guarded_refused member)
  intro other task first read
  have apart := read_other unread member (List.mem_of_find?_eq_some first) read
  refine found task apart ?_
  have named := List.find?_some first
  rw [← of_decide_eq_true named,← read_id read]
  exact apart

theorem update_guarded {id : Int} {status : String} {response : Value}
    (unread : ∀ task, integrationTaskFromRow crypto formats encryption row ≠ .ok task) (member : row ∈ tables.tasks.rows) :
    Ends (serve crypto formats encryption call (.update id status response)) tables (Guarded row tables) := by
  refine ends_guarded_lists ?_
  unfold updateIntegrationTask
  refine ends_bind (ends_settle ?_ fun _ _ => guarded_refused member)
  intro _ _
  refine ends_bind (ends_allow ?_ fun _ _ => guarded_refused member)
  refine reading_guards unread member (guarded_none member) ?_
  intro task _ apart
  exact settling_guards unread member (by simpa using apart.symm)

theorem mark_guarded {id : Int} (unread : ∀ task, integrationTaskFromRow crypto formats encryption row ≠ .ok task)
    (member : row ∈ tables.tasks.rows) :
    Ends (serve crypto formats encryption call (.markExecuting id)) tables (Guarded row tables) := by
  refine ends_guarded_lists ?_
  unfold markIntegrationTaskExecuting
  refine ends_bind (ends_allow ?_ fun _ _ => guarded_refused member)
  refine reading_guards unread member (guarded_none member) ?_
  intro task other apart
  dsimp only
  split
  · refine guarded_same member ?_
    intro task' single
    rw [List.mem_singleton.mp single]
    exact other
  · exact settling_guards unread member (by simp [apart.symm])

theorem get_guarded {id : Int} (unread : ∀ task, integrationTaskFromRow crypto formats encryption row ≠ .ok task)
    (member : row ∈ tables.tasks.rows) :
    Ends (serve crypto formats encryption call (.get id)) tables (Guarded row tables) := by
  refine ends_guarded_lists ?_
  unfold integrationTask
  refine ends_bind (ends_allow ?_ fun _ _ => guarded_refused member)
  exact ends_guarded_read unread member fun other present namesake => ⟨other,present,rfl,namesake⟩

-- A listing is made of rows that read.
theorem list_guarded {source : Option String} {limit : Nat}
    (unread : ∀ task, integrationTaskFromRow crypto formats encryption row ≠ .ok task) (member : row ∈ tables.tasks.rows) :
    Ends (serve crypto formats encryption call (.list source limit)) tables (Guarded row tables) := by
  unfold serve integrationTasks
  refine ends_bind (ends_allow ?_ fun _ _ => guarded_refused member)
  refine ends_bind (ends_allow ?_ fun _ _ => guarded_refused member)
  refine ends_bind (ends_get ?_)
  dsimp only
  split
  · rename_i tasks read
    refine guarded_same member ?_
    intro task present
    obtain ⟨other,listed,found⟩ := readAll_origin read task present
    have among := Register.limited_mem listed
    exact read_other unread member (List.mem_reverse.mp (List.mem_of_mem_filter among)) found
  · exact guarded_refused member

theorem serve_guarded (call : Call Time) (request : Request Value)
    (unread : ∀ task, integrationTaskFromRow crypto formats encryption row ≠ .ok task) (member : row ∈ tables.tasks.rows) :
    Ends (serve crypto formats encryption call request) tables (Guarded row tables) := by
  cases request with
  | create source externalTaskId action value => exact create_guarded unread member
  | update id status response => exact update_guarded unread member
  | markExecuting id => exact mark_guarded unread member
  | get id => exact get_guarded unread member
  | list source limit => exact list_guarded unread member

end Guard
theorem listing_shut (sound : crypto.Reliable) (locked : SealedUnder crypto key row) (foreign : encryption ≠ some key)
    {source : Option String} {limit : Nat}
    (listed : row ∈ limited limit (tables.tasks.rows.reverse.filter fun row => source.all (row.source = ·)))
    (tasks : List (StoredTask Value Time)) :
    (integrationTasks crypto formats encryption call source limit tables).1 ≠ .ok tasks := by
  have shut : Ends (integrationTasks crypto formats encryption call source limit) tables fun result _ => result ≠ .ok tasks := by
    unfold integrationTasks
    refine ends_bind (ends_allow ?_ fun _ _ impossible => by cases impossible)
    refine ends_bind (ends_allow ?_ fun _ _ impossible => by cases impossible)
    refine ends_bind (ends_get ?_)
    dsimp only
    split
    · rename_i found read
      refine absurd read (readAll_blocked listed (sealed_unread sound locked foreign) ?_)
      intro err refused
      obtain ⟨failure,fails⟩ := @sealed_unreadable _ _ _ formats _ _ _ sound locked foreign
      rw [fails] at refused
      cases refused
      rfl
    · intro impossible
      cases impossible
  exact shut

-- A row as a store with its own key could have written it is left alone by every run of
-- stores that hold another key or none, and shuts the listings that it would stand in.
theorem sealed_task_untouched (sound : crypto.Reliable) (locked : SealedUnder crypto key row)
    (member : row ∈ tables.tasks.rows) (visits : List (Visit Value Time))
    (foreign : ∀ visit ∈ visits, visit.encryption ≠ some key) :
    Untouched row tables ((serveAll crypto formats visits tables).1.flatMap told) (serveAll crypto formats visits tables).2 ∧
      ∀ encryption (call : Call Time) source limit, encryption ≠ some key →
        row ∈ limited limit ((serveAll crypto formats visits tables).2.tasks.rows.reverse.filter
          fun row => source.all (row.source = ·)) →
        ∀ tasks, (integrationTasks crypto formats encryption call source limit
          (serveAll crypto formats visits tables).2).1 ≠ .ok tasks := by
  constructor
  · induction visits generalizing tables with
    | nil => exact ⟨member,(by simp [serveAll]),fun other present namesake => ⟨other,present,rfl,namesake⟩⟩
    | cons visit rest ih =>
        obtain ⟨first,later⟩ := List.forall_mem_cons.mp foreign
        obtain ⟨stays,untold,named⟩ := serve_guarded visit.call visit.request (sealed_unread sound locked first) member
        have after := ih stays later
        refine ⟨after.kept,?_,?_⟩
        · intro task present
          cases List.mem_append.mp present with
          | inl here => exact untold task here
          | inr behind => exact after.untold task behind
        · intro other present namesake
          obtain ⟨between,found,same,alike⟩ := after.named other present namesake
          obtain ⟨earlier,before,equal,kept⟩ := named between found alike
          exact ⟨earlier,before,equal.trans same,kept⟩
  · intro encryption call source limit apart listed
    exact listing_shut sound locked apart listed

def lostKey : EncryptionKey := ⟨List.replicate 32 7,rfl⟩

def envelopeOf (text : String) : String :=
  match benchCrypto.encryptJson lostKey ⟨List.replicate 12 9,rfl⟩ text with
  | .ok envelope => envelope
  | .error _ => ""

def lockedRow : TaskRow :=
  ⟨1,some "job-1","mqtt","start_process","received",envelopeOf "\x7b\"process_id\":1\x7d",envelopeOf "null",
    "2026-01-01T00:00:00+00:00","2026-01-01T00:00:00+00:00"⟩

def lockedTables : Tables where
  tasks := ⟨[lockedRow],List.pairwise_singleton _ _⟩
  sequence := 1
  used row member := by
    rw [List.mem_singleton.mp member]
    decide

-- The broker sends the task again after the key was lost.
def resent : List (Visit BenchValue String) := [⟨none,benchCall "2026-01-02T00:00:00+00:00",fileOne⟩]

theorem sealed_task_untouched_resent : Untouched lockedRow lockedTables
    ((serveAll benchCrypto benchFormats resent lockedTables).1.flatMap told)
    (serveAll benchCrypto benchFormats resent lockedTables).2 := by
  have locked : SealedUnder benchCrypto lostKey lockedRow := ⟨⟨List.replicate 12 9,rfl⟩,_,.inl rfl⟩
  refine (sealed_task_untouched benchCrypto_reliable locked List.mem_cons_self resent ?_).1
  intro visit member
  rw [List.mem_singleton.mp member]
  intro impossible
  cases impossible

end ReactorOS.TaskStore
