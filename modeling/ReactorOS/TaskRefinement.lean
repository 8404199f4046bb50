import ReactorOS.RekeyAtomicity
import ReactorOS.TaskRegister
namespace ReactorOS.TaskStore
open Wire Storage
variable {Value Time : Type}

-- What the code relies on: JSON text reads back as a value of its kind as long as it does
-- not nest too deep for the reader, and the text of an instant as that instant.
structure Formats.Reliable (formats : Formats Value Time) : Prop where
  reads : ∀ value, formats.nesting value < 128 → ∃ read, formats.fromStr (formats.toString value) = .ok read ∧
    formats.isObject read = formats.isObject value ∧ formats.isNull read = formats.isNull value
  plain : ∀ value, startsWith encryptedJsonPrefix (formats.toString value) = false
  null : formats.nesting formats.null < 128 ∧ formats.isNull formats.null = true
  object : ∀ fields, formats.nesting (formats.object fields) < 128 ∧ formats.isObject (formats.object fields) = true
  instants : ∀ time, formats.parseFromRfc3339 (formats.toRfc3339 time) = .ok time

-- A value as it is after it was written and read.
def Formats.reparsed (formats : Formats Value Time) (value : Value) : Value :=
  match formats.fromStr (formats.toString value) with
  | .ok read => read
  | .error _ => value

-- What a row says of a task, all of it accepted.
structure Valid (formats : Formats Value Time) (task : StoredTask Value Time) : Prop where
  source : validateIntegrationTaskSource task.source = .ok ()
  externalTaskId : validateExternalIdIfAny task.externalTaskId = .ok ()
  action : validateIntegrationTaskAction task.action = .ok ()
  status : validateIntegrationTaskStatus task.status = .ok ()
  request : formats.isObject task.request = true
  response : (task.status = "received" ∧ formats.isNull task.response = true) ∨ formats.isObject task.response = true

structure RowReads (crypto : Cryptography) (formats : Formats Value Time) (encryption : Option EncryptionKey)
    (row : TaskRow) (task : StoredTask Value Time) : Prop where
  id : task.id = row.id
  externalTaskId : task.externalTaskId = row.externalTaskId
  source : task.source = row.source
  action : task.action = row.action
  status : task.status = row.status
  request : parseSensitiveJson crypto formats encryption row.requestJson = .ok task.request
  response : parseSensitiveJson crypto formats encryption row.responseJson = .ok task.response
  createdAt : parseDt formats row.createdAt = .ok task.createdAt
  updatedAt : parseDt formats row.updatedAt = .ok task.updatedAt
  valid : Valid formats task

variable {crypto : Cryptography} {formats : Formats Value Time} {encryption : Option EncryptionKey}

section Checks
variable {source action status : String} {externalTaskId : Option String} {request response : Value}

theorem mapError_ok {α ε δ : Type} {result : Except ε α} {wrap : ε → δ} {value : α} :
    result.mapError wrap = .ok value ↔ result = .ok value := by
  cases result <;> simp [Except.mapError]

theorem request_ok : validateIntegrationTaskRequestPayload formats request = .ok () ↔ formats.isObject request = true := by
  unfold validateIntegrationTaskRequestPayload
  split <;> simp_all

theorem response_ok : validateIntegrationTaskResponsePayload formats status response = .ok () ↔
    (status = "received" ∧ formats.isNull response = true) ∨ formats.isObject response = true := by
  unfold validateIntegrationTaskResponsePayload
  cases formats.isObject response with
  | true => split <;> simp
  | false => simp

theorem oneOf_ok {field value : String} {allowed : List String} : validateOneOf field value allowed = .ok () ↔ value ∈ allowed := by
  unfold validateOneOf
  by_cases member : value ∈ allowed
  · simp [member]
  · simp [member]

theorem valid_ok {task task' : StoredTask Value Time} :
    validateIntegrationTaskRecord formats task = .ok task' ↔ task' = task ∧ Valid formats task := by
  constructor
  · intro passed
    unfold validateIntegrationTaskRecord at passed
    obtain ⟨_,source,passed⟩ := bind_ok passed
    obtain ⟨_,external,passed⟩ := bind_ok passed
    obtain ⟨_,action,passed⟩ := bind_ok passed
    obtain ⟨_,status,passed⟩ := bind_ok passed
    obtain ⟨_,request,passed⟩ := bind_ok passed
    obtain ⟨_,response,passed⟩ := bind_ok passed
    cases passed
    exact ⟨rfl,source,external,action,status,request_ok.mp request,response_ok.mp response⟩
  · intro holds
    obtain ⟨rfl,valid⟩ := holds
    unfold validateIntegrationTaskRecord
    rw [ok_bind valid.source,ok_bind valid.externalTaskId,ok_bind valid.action,ok_bind valid.status,
      ok_bind (request_ok.mpr valid.request),ok_bind (response_ok.mpr valid.response)]
    rfl

theorem create_checks : ensureValidIntegrationTaskCreateForInsert formats source externalTaskId action request = .ok () ↔
    validateIntegrationTaskSource source = .ok () ∧ validateExternalIdIfAny externalTaskId = .ok () ∧
      validateIntegrationTaskAction action = .ok () ∧ formats.isObject request = true := by
  unfold ensureValidIntegrationTaskCreateForInsert
  rw [mapError_ok]
  constructor
  · intro passed
    obtain ⟨_,source,passed⟩ := bind_ok passed
    obtain ⟨_,external,passed⟩ := bind_ok passed
    obtain ⟨_,action,passed⟩ := bind_ok passed
    exact ⟨source,external,action,request_ok.mp passed⟩
  · intro holds
    obtain ⟨source,external,action,object⟩ := holds
    rw [ok_bind source,ok_bind external,ok_bind action]
    exact request_ok.mpr object

-- A status that ends a task is not `received`, so its response is an object.
theorem update_checks : ensureValidIntegrationTaskUpdateForInsert formats status response = .ok () ↔
    status ∈ integrationTaskTerminalStatuses ∧ formats.isObject response = true := by
  unfold ensureValidIntegrationTaskUpdateForInsert
  rw [mapError_ok]
  have ends : status ∈ integrationTaskTerminalStatuses → status ≠ "received" := by
    rintro member rfl
    exact absurd member (by decide)
  constructor
  · intro passed
    obtain ⟨_,terminal,passed⟩ := bind_ok passed
    have member := oneOf_ok.mp terminal
    cases response_ok.mp passed with
    | inl blank => exact absurd blank.1 (ends member)
    | inr object => exact ⟨member,object⟩
  · intro holds
    rw [validateIntegrationTaskTerminalStatus,ok_bind (oneOf_ok.mpr holds.1)]
    exact response_ok.mpr (.inr holds.2)

theorem fromRow_ok {row : TaskRow} {task : StoredTask Value Time} :
    integrationTaskFromRow crypto formats encryption row = .ok task ↔ RowReads crypto formats encryption row task := by
  constructor
  · intro read
    unfold integrationTaskFromRow at read
    obtain ⟨request,requested,read⟩ := bind_ok read
    obtain ⟨response,responded,read⟩ := bind_ok read
    obtain ⟨createdAt,created,read⟩ := bind_ok read
    obtain ⟨updatedAt,updated,read⟩ := bind_ok read
    obtain ⟨rfl,valid⟩ := valid_ok.mp (mapError_ok.mp read)
    exact ⟨rfl,rfl,rfl,rfl,rfl,requested,responded,created,updated,valid⟩
  · intro reads
    unfold integrationTaskFromRow
    rw [ok_bind reads.request,ok_bind reads.response,ok_bind reads.createdAt,ok_bind reads.updatedAt,
      ← reads.id,← reads.externalTaskId,← reads.source,← reads.action,← reads.status]
    exact mapError_ok.mpr (valid_ok.mpr ⟨rfl,reads.valid⟩)

end Checks

section Payloads
variable {value : Value} {text : String} {nonce : Nonce} {key : EncryptionKey}

theorem reparsed_ok (reliable : formats.Reliable) (shallow : formats.nesting value < 128) :
    formats.fromStr (formats.toString value) = .ok (formats.reparsed value) ∧
      formats.isObject (formats.reparsed value) = formats.isObject value ∧
      formats.isNull (formats.reparsed value) = formats.isNull value := by
  obtain ⟨read,parsed,object,null⟩ := reliable.reads value shallow
  unfold Formats.reparsed
  rw [parsed]
  exact ⟨rfl,object,null⟩

theorem parse_opened {read : String} (opened : openSensitiveJson crypto encryption text = .ok read)
    (parsed : formats.fromStr read = .ok value) : parseSensitiveJson crypto formats encryption text = .ok value := by
  unfold parseSensitiveJson
  rw [opened]
  change (formats.fromStr read).mapError _ = _
  exact mapError_ok.mpr parsed

theorem parse_ok (read : parseSensitiveJson crypto formats encryption text = .ok value) :
    ∃ plaintext, openSensitiveJson crypto encryption text = .ok plaintext ∧ formats.fromStr plaintext = .ok value := by
  unfold parseSensitiveJson at read
  obtain ⟨plaintext,opened,parsed⟩ := bind_ok read
  exact ⟨plaintext,mapError_ok.mp opened,mapError_ok.mp parsed⟩

-- What the store wrote it reads.
theorem payload_reads (sound : crypto.Reliable) (reliable : formats.Reliable) (shallow : formats.nesting value < 128)
    (made : serializeSensitiveJson crypto formats encryption nonce value = .ok text) :
    parseSensitiveJson crypto formats encryption text = .ok (formats.reparsed value) := by
  have opened : openSensitiveJson crypto encryption text = .ok (formats.toString value) := by
    cases encryption with
    | none =>
        cases made
        unfold openSensitiveJson
        simp only [reliable.plain,Bool.false_eq_true,if_false]
    | some key => exact decrypt_own sound made
  exact parse_opened opened (reparsed_ok reliable shallow).1

-- With a key the plain payloads of before are read as before.
theorem payload_switched (read : parseSensitiveJson crypto formats none text = .ok value) :
    parseSensitiveJson crypto formats (some key) text = .ok value := by
  obtain ⟨plaintext,opened,parsed⟩ := parse_ok read
  refine parse_opened ?_ parsed
  unfold openSensitiveJson at opened ⊢
  dsimp only at opened ⊢
  split at opened
  · cases opened
  · rename_i bare
    cases opened
    unfold Cryptography.decryptJsonIfNeeded stripPrefix
    unfold startsWith at bare
    rw [if_neg bare]

theorem payload_rekeyed {old new : EncryptionKey} {before after : String} (kept : PayloadKept crypto old new before after)
    (read : parseSensitiveJson crypto formats (some old) before = .ok value) :
    parseSensitiveJson crypto formats (some new) after = .ok value := by
  obtain ⟨plaintext,opened,parsed⟩ := parse_ok read
  obtain ⟨same,was,now⟩ := kept
  rw [was.symm.trans opened] at now
  exact parse_opened now parsed

end Payloads

-- The tables as a store with this key reads them.
structure Reads (crypto : Cryptography) (formats : Formats Value Time) (encryption : Option EncryptionKey) (tables : Tables)
    (register : Register Value Time) : Prop where
  rows : Encodes (integrationTaskFromRow crypto formats encryption) tables.tasks.rows register.tasks
  sequence : tables.sequence = register.sequence

section Calls
variable {α β : Type} {tables : Tables} {post : Except StoreError α → Tables → Prop}

-- What a call comes to, with an answer or with an error.
def Ends (statements : Statements α) (tables : Tables) (post : Except StoreError α → Tables → Prop) : Prop :=
  post (statements tables).1 (statements tables).2

theorem ends_bind {first : Statements β} {next : β → Statements α}
    (ends : Ends first tables fun result left => match result with
      | .ok value => Ends (next value) left post
      | .error error => post (.error error) left) : Ends (first >>= next) tables post := by
  unfold Ends at *
  change post (ExceptT.bindCont next (first tables).1 (first tables).2).1 (ExceptT.bindCont next (first tables).1 (first tables).2).2
  cases reached : (first tables).1 with
  | ok value =>
      rw [reached] at ends
      exact ends
  | error error =>
      rw [reached] at ends
      exact ends

theorem ends_imp {statements : Statements α} {post' : Except StoreError α → Tables → Prop}
    (ends : Ends statements tables post') (weaker : ∀ result left, post' result left → post result left) :
    Ends statements tables post := weaker _ _ ends

theorem ends_pure {value : α} (holds : post (.ok value) tables) : Ends (pure value) tables post := holds

theorem ends_get {post : Except StoreError Tables → Tables → Prop} (holds : post (.ok tables) tables) :
    Ends get tables post := holds

theorem ends_settle {result : Except Failure α} (done : ∀ value, result = .ok value → post (.ok value) tables)
    (failed : ∀ err, result = .error err → post (.error (.failed err)) tables) : Ends (settle result) tables post := by
  unfold Ends settle
  cases result with
  | ok value => exact done value rfl
  | error err => exact failed err rfl

variable {call : Call Time} {register : Register Value Time}

theorem ends_allow {post : Except StoreError Unit → Tables → Prop} {statement : TaskStatement}
    (done : post (.ok ()) tables)
    (failed : ∀ err, call.failure statement = some err → post (.error (.failed err)) tables) :
    Ends (call.allow statement) tables post := by
  unfold Call.allow
  refine ends_settle (fun _ _ => done) ?_
  intro err stopped
  cases fails : call.failure statement with
  | none =>
      rw [fails] at stopped
      cases stopped
  | some found =>
      rw [fails] at stopped
      cases stopped
      exact failed err fails

theorem ends_execute {post : Except StoreError Unit → Tables → Prop} {write : Tables → Except Failure Tables}
    {written : Tables} (accepts : write tables = .ok written) (done : post (.ok ()) written) :
    Ends (execute write) tables post := by
  unfold Ends execute
  rw [accepts]
  exact done

theorem ends_rejected {post : Except StoreError Unit → Tables → Prop} {write : Tables → Except Failure Tables}
    {err : Failure} (rejects : write tables = .error err) (failed : post (.error (.failed err)) tables) :
    Ends (execute write) tables post := by
  unfold Ends execute
  rw [rejects]
  exact failed

-- A row is found where its task is, and reads as this task.
theorem ends_queryRow {post : Except StoreError (Option (StoredTask Value Time)) → Tables → Prop}
    {statement : TaskStatement} {here : TaskRow → Bool} {there : StoredTask Value Time → Bool}
    (reads : Reads crypto formats encryption tables register)
    (same : ∀ row task, RowReads crypto formats encryption row task → here row = there task)
    (done : post (.ok (register.tasks.find? there)) tables)
    (failed : ∀ err, call.failure statement = some err → post (.error (.failed err)) tables) :
    Ends (queryRow crypto formats encryption call statement here) tables post := by
  refine ends_bind (ends_allow ?_ failed)
  have found := reads.rows.find fun row task read => same row task (fromRow_ok.mp read)
  refine ends_bind (ends_get ?_)
  dsimp only
  cases row : tables.tasks.rows.find? here with
  | none =>
      rw [row] at found
      cases task : register.tasks.find? there with
      | none =>
          rw [task] at done
          exact done
      | some task' =>
          rw [task] at found
          cases found
  | some row' =>
      rw [row] at found
      cases task : register.tasks.find? there with
      | none =>
          rw [task] at found
          cases found
      | some task' =>
          rw [task] at found done
          have read := Option.some.inj found
          dsimp only
          rw [read]
          exact done

theorem ends_byId {post : Except StoreError (Option (StoredTask Value Time)) → Tables → Prop} {statement : TaskStatement}
    {id : Int} (reads : Reads crypto formats encryption tables register) (done : post (.ok (register.byId id)) tables)
    (failed : ∀ err, call.failure statement = some err → post (.error (.failed err)) tables) :
    Ends (integrationTaskByIdConn crypto formats encryption call statement id) tables post :=
  ends_queryRow reads (fun _ _ read => by rw [read.id]) done failed

theorem ends_existing {post : Except StoreError (Option (StoredTask Value Time)) → Tables → Prop} {source : String}
    {externalTaskId : Option String} (reads : Reads crypto formats encryption tables register)
    (done : post (.ok (register.byKey source externalTaskId)) tables)
    (failed : ∀ err, call.failure .selectByExternalId = some err → post (.error (.failed err)) tables) :
    Ends (existingTask crypto formats encryption call source externalTaskId) tables post := by
  cases externalTaskId with
  | none => exact done
  | some identifier => exact ends_queryRow reads (fun _ _ read => by rw [read.source,read.externalTaskId]) done failed

end Calls

section Writes
variable {tables : Tables} {register : Register Value Time} {now : Time} {requestJson responseJson : String}

theorem conflicts_key {one other : TaskRow} (conflicts : one.conflicts other = true) :
    one.source = other.source ∧ one.externalTaskId = other.externalTaskId ∧ one.externalTaskId ≠ none := by
  unfold TaskRow.conflicts TaskRow.sameTask at conflicts
  simp only [Bool.and_eq_true,beq_iff_eq] at conflicts
  obtain ⟨_,origin,equal⟩ := conflicts
  obtain ⟨external,first,second⟩ := sqlEqual_iff.mp equal
  rw [first,second]
  exact ⟨origin,rfl,by simp⟩

-- The unique index has nothing against a task that is not there yet.
theorem insert_reads {source action : String} {externalTaskId : Option String} {request blank : Value}
    (reliable : formats.Reliable) (reads : Reads crypto formats encryption tables register)
    (unknown : register.byKey source externalTaskId = none) (room : tables.sequence < 2^63-1)
    (requested : parseSensitiveJson crypto formats encryption requestJson = .ok request)
    (responded : parseSensitiveJson crypto formats encryption responseJson = .ok blank)
    (valid : Valid formats ⟨register.sequence+1,externalTaskId,source,action,"received",request,blank,now,now⟩) :
    ∃ written, tables.insertTask ⟨0,externalTaskId,source,action,"received",requestJson,responseJson,formats.toRfc3339 now,
        formats.toRfc3339 now⟩ = .ok written ∧ written.sequence = register.sequence+1 ∧
      Reads crypto formats encryption written (register.file source externalTaskId action request blank now unknown) := by
  have free : (tables.tasks.rows.any fun row => row.conflicts ⟨0,externalTaskId,source,action,"received",requestJson,
      responseJson,formats.toRfc3339 now,formats.toRfc3339 now⟩) = false := by
    refine List.any_eq_false.mpr ?_
    intro row member conflicts
    obtain ⟨origin,given,named⟩ := conflicts_key conflicts
    obtain ⟨task,present,read⟩ := reads.rows.reads member
    have row_reads := fromRow_ok.mp read
    change row.externalTaskId = externalTaskId at given
    cases externalTaskId with
    | none => exact named given
    | some identifier =>
        have missed := List.find?_eq_none.mp unknown task present
        rw [row_reads.source,row_reads.externalTaskId,given,origin] at missed
        simp at missed
  have instant : parseDt formats (formats.toRfc3339 now) = .ok now := mapError_ok.mpr (reliable.instants now)
  have filed : RowReads crypto formats encryption ⟨tables.sequence+1,externalTaskId,source,action,"received",requestJson,
      responseJson,formats.toRfc3339 now,formats.toRfc3339 now⟩
      ⟨register.sequence+1,externalTaskId,source,action,"received",request,blank,now,now⟩ :=
    ⟨by rw [reads.sequence],rfl,rfl,rfl,rfl,requested,responded,instant,instant,valid⟩
  unfold Tables.insertTask
  rw [if_neg (by omega),free]
  simp only [Bool.false_eq_true,if_false]
  have counted : tables.sequence+1 = register.sequence+1 := by rw [reads.sequence]
  exact ⟨_,rfl,counted,reads.rows.append (fromRow_ok.mpr filed),counted⟩

theorem insert_full {row : TaskRow} (full : ¬tables.sequence < 2^63-1) :
    tables.insertTask row = .error ⟨"database or disk is full",[]⟩ := by
  unfold Tables.insertTask
  rw [if_pos (by omega)]

-- An update of the status leaves every row with the key it had.
theorem update_reads (now : Time) {here : TaskRow → Bool} {there : StoredTask Value Time → Bool} {status : String} {response : Value}
    (reliable : formats.Reliable) (reads : Reads crypto formats encryption tables register)
    (same : ∀ row task, RowReads crypto formats encryption row task → here row = there task)
    (responded : parseSensitiveJson crypto formats encryption responseJson = .ok response)
    (known : validateIntegrationTaskStatus status = .ok ()) (object : formats.isObject response = true) :
    ∃ written, tables.updateTask here status responseJson (formats.toRfc3339 now) = .ok written ∧
      Reads crypto formats encryption written (register.settle there status response now) := by
  have free : (tables.tasks.rows.any fun row => here row && tables.tasks.rows.any fun other =>
      other.id ≠ row.id && (TaskRow.settle status responseJson (formats.toRfc3339 now) row).conflicts other) = false := by
    refine List.any_eq_false.mpr ?_
    intro row member clash
    simp only [Bool.and_eq_true,List.any_eq_true,decide_eq_true_eq] at clash
    obtain ⟨_,other,other_member,apart,conflicts⟩ := clash
    obtain ⟨origin,given,named⟩ := conflicts_key conflicts
    obtain ⟨task,present,read⟩ := reads.rows.reads member
    obtain ⟨other_task,other_present,other_read⟩ := reads.rows.reads other_member
    have first := fromRow_ok.mp read
    have second := fromRow_ok.mp other_read
    change row.source = other.source at origin
    change row.externalTaskId = other.externalTaskId at given
    refine apart ?_
    rw [← first.id,← second.id]
    refine (register.single task present other_task other_present ?_ ?_ ?_).symm
    · rw [first.source,second.source,origin]
    · rw [first.externalTaskId,second.externalTaskId,given]
    · rw [first.externalTaskId]
      exact named
  have instant : parseDt formats (formats.toRfc3339 now) = .ok now := mapError_ok.mpr (reliable.instants now)
  unfold Tables.updateTask
  rw [free]
  simp only [Bool.false_eq_true,if_false]
  refine ⟨_,rfl,reads.rows.map ?_,reads.sequence⟩
  intro row task _ read
  have row_reads := fromRow_ok.mp read
  unfold Register.change
  rw [same row task row_reads]
  split
  · refine fromRow_ok.mpr ⟨row_reads.id,row_reads.externalTaskId,row_reads.source,row_reads.action,rfl,row_reads.request,
      responded,row_reads.createdAt,instant,?_⟩
    have valid := row_reads.valid
    exact ⟨valid.source,valid.externalTaskId,valid.action,known,valid.request,.inr object⟩
  · exact read

end Writes

-- The value of a call nests no deeper than the reader goes.
def Request.Shallow (formats : Formats Value Time) : Request Value → Prop
  | .create _ _ _ request => formats.nesting request < 128
  | .update _ _ response => formats.nesting response < 128
  | _ => True

def Request.Accepted (formats : Formats Value Time) : Request Value → Prop
  | .create source externalTaskId action request =>
      ensureValidIntegrationTaskCreateForInsert formats source externalTaskId action request = .ok ()
  | .update _ status response => ensureValidIntegrationTaskUpdateForInsert formats status response = .ok ()
  | _ => True

def Request.map (change : Value → Value) : Request Value → Request Value
  | .create source externalTaskId action request => .create source externalTaskId action (change request)
  | .update id status response => .update id status (change response)
  | .markExecuting id => .markExecuting id
  | .get id => .get id
  | .list source limit => .list source limit

-- Nothing stands in the way of a call.
structure Clear (crypto : Cryptography) (formats : Formats Value Time) (encryption : Option EncryptionKey) (call : Call Time)
    (tables : Tables) (request : Request Value) : Prop where
  accepted : request.Accepted formats
  statements : ∀ statement, call.failure statement = none
  seals : ∀ nonce value, ∃ text, serializeSensitiveJson crypto formats encryption nonce value = .ok text
  room : tables.sequence < 2^63-1

def performed (formats : Formats Value Time) (register : Register Value Time) (now : Time) (request : Request Value) :
    Register Value Time × List (StoredTask Value Time) :=
  register.perform (formats.reparsed formats.null) (formats.reparsed (executingResponse formats)) now
    (request.map formats.reparsed)

-- A call is carried out or it is not, and is answered only when it is.
structure Served (request : Request Value) (before : Register Value Time)
    (performed : Register Value Time × List (StoredTask Value Time))
    (result : Except StoreError (List (StoredTask Value Time))) (after : Register Value Time) : Prop where
  moved : after = before ∨ request.Admitted ∧ after = performed.1
  answered : ∀ tasks, result = .ok tasks → after = performed.1 ∧ tasks = performed.2

-- What a call has to come to.
def Refines (crypto : Cryptography) (formats : Formats Value Time) (encryption : Option EncryptionKey) (call : Call Time)
    (tables : Tables) (register : Register Value Time) (request : Request Value)
    (result : Except StoreError (List (StoredTask Value Time))) (left : Tables) : Prop :=
  (∃ after, Reads crypto formats encryption left after ∧
    Served request register (performed formats register call.now request) result after) ∧
  (Clear crypto formats encryption call tables request → ∃ tasks, result = .ok tasks)

section Serving
variable {call : Call Time} {tables left : Tables} {register : Register Value Time} {request : Request Value}
  {error : StoreError}

theorem refused (reads : Reads crypto formats encryption tables register)
    (hindered : ¬Clear crypto formats encryption call tables request) :
    Refines crypto formats encryption call tables register request (.error error) tables :=
  ⟨⟨register,reads,.inl rfl,fun _ impossible => by cases impossible⟩,fun clear => (hindered clear).elim⟩

theorem unheard (admitted : request.Admitted)
    (reads : Reads crypto formats encryption left (performed formats register call.now request).1)
    (hindered : ¬Clear crypto formats encryption call tables request) :
    Refines crypto formats encryption call tables register request (.error error) left :=
  ⟨⟨_,reads,.inr ⟨admitted,rfl⟩,fun _ impossible => by cases impossible⟩,fun clear => (hindered clear).elim⟩

theorem heard {tasks : List (StoredTask Value Time)} (admitted : request.Admitted)
    (reads : Reads crypto formats encryption left (performed formats register call.now request).1)
    (answers : tasks = (performed formats register call.now request).2) :
    Refines crypto formats encryption call tables register request (.ok tasks) left :=
  ⟨⟨_,reads,.inr ⟨admitted,rfl⟩,fun _ same => by cases same; exact ⟨rfl,answers⟩⟩,fun _ => ⟨tasks,rfl⟩⟩

theorem failing {statement : TaskStatement} {err : Failure} (fails : call.failure statement = some err) :
    ¬Clear crypto formats encryption call tables request := by
  intro clear
  rw [clear.statements statement] at fails
  cases fails

theorem unsealed {nonce : Nonce} {value : Value} {err : Failure}
    (fails : serializeSensitiveJson crypto formats encryption nonce value = .error err) :
    ¬Clear crypto formats encryption call tables request := by
  intro clear
  obtain ⟨text,made⟩ := clear.seals nonce value
  rw [made] at fails
  cases fails

theorem create_refines {source action : String} {externalTaskId : Option String} {value : Value} (sound : crypto.Reliable)
    (reliable : formats.Reliable) (reads : Reads crypto formats encryption tables register)
    (shallow : formats.nesting value < 128) :
    Ends (serve crypto formats encryption call (.create source externalTaskId action value)) tables
      (Refines crypto formats encryption call tables register (.create source externalTaskId action value)) := by
  unfold serve createIntegrationTask
  refine ends_bind (ends_bind (ends_settle ?_ ?_))
  · intro _ accepted
    refine ends_bind (ends_allow ?_ fun err fails => refused reads (failing fails))
    refine ends_bind (ends_existing reads ?_ fun err fails => refused reads (failing fails))
    cases known : register.byKey source externalTaskId with
    | some task =>
        have same : performed formats register call.now (.create source externalTaskId action value) = (register,[task]) := by
          unfold performed Register.perform Request.map Register.create
          dsimp only
          split
          · rename_i found
            rw [known] at found
            cases found
            rfl
          · rename_i missed
            rw [known] at missed
            cases missed
        refine ends_pure (heard trivial ?_ ?_)
        · rw [same]
          exact reads
        · rw [same]
    | none =>
        have same : performed formats register call.now (.create source externalTaskId action value) =
            (register.file source externalTaskId action (formats.reparsed value) (formats.reparsed formats.null) call.now known,
              [⟨register.sequence+1,externalTaskId,source,action,"received",formats.reparsed value,
                formats.reparsed formats.null,call.now,call.now⟩]) := by
          unfold performed Register.perform Request.map Register.create
          dsimp only
          split
          · rename_i found
            rw [known] at found
            cases found
          · rfl
        refine ends_bind (ends_settle ?_ fun err fails => refused reads (unsealed fails))
        intro requestJson request_made
        refine ends_bind (ends_settle ?_ fun err fails => refused reads (unsealed fails))
        intro responseJson response_made
        refine ends_bind (ends_allow ?_ fun err fails => refused reads (failing fails))
        have null := reparsed_ok reliable reliable.null.1
        have checks := create_checks.mp accepted
        have valid : Valid formats ⟨register.sequence+1,externalTaskId,source,action,"received",formats.reparsed value,
            formats.reparsed formats.null,call.now,call.now⟩ := by
          have status : "received" ∈ integrationTaskStatuses := by decide
          refine ⟨checks.1,checks.2.1,checks.2.2.1,oneOf_ok.mpr status,?_,.inl ⟨rfl,?_⟩⟩
          · exact (reparsed_ok reliable shallow).2.1.trans checks.2.2.2
          · exact null.2.2.trans reliable.null.2
        by_cases room : tables.sequence < 2^63-1
        · obtain ⟨written,accepts,numbered,stored⟩ := insert_reads reliable reads known room
            (payload_reads sound reliable shallow request_made) (payload_reads sound reliable reliable.null.1 response_made)
            valid
          have filed : Reads crypto formats encryption written
              (performed formats register call.now (.create source externalTaskId action value)).1 := by
            rw [same]
            exact stored
          refine ends_bind (ends_execute accepts ?_)
          refine ends_bind (ends_get ?_)
          have admitted : (Request.create source externalTaskId action value).Admitted := trivial
          refine ends_bind (ends_byId stored ?_ fun err fails => unheard admitted filed (failing fails))
          rw [numbered,Register.file_byId]
          exact heard admitted filed (by rw [same])
        · refine ends_bind (ends_rejected (insert_full room) ?_)
          exact refused reads fun clear => room clear.room
  · intro err rejected
    refine refused reads fun clear => ?_
    have accepted : ensureValidIntegrationTaskCreateForInsert formats source externalTaskId action value = .ok () :=
      clear.accepted
    rw [accepted] at rejected
    cases rejected

-- A call whose answer is to be the list of what it finds.
def Lists (crypto : Cryptography) (formats : Formats Value Time) (encryption : Option EncryptionKey) (call : Call Time)
    (tables : Tables) (register : Register Value Time) (request : Request Value)
    (result : Except StoreError (Option (StoredTask Value Time))) (left : Tables) : Prop :=
  match result with
  | .ok found => Refines crypto formats encryption call tables register request (.ok found.toList) left
  | .error error => Refines crypto formats encryption call tables register request (.error error) left

theorem ends_lists {statements : Statements (Option (StoredTask Value Time))}
    (ends : Ends statements tables (Lists crypto formats encryption call tables register request)) :
    Ends (do return (← statements).toList) tables (Refines crypto formats encryption call tables register request) := by
  refine ends_bind (ends_imp ends ?_)
  intro result left listed
  cases result with
  | ok found => exact listed
  | error error => exact listed

-- A new status is written and the row read back, in an update as in a claim.
theorem settling_refines {id : Int} {task : StoredTask Value Time} {here : TaskRow → Bool}
    {there : StoredTask Value Time → Bool} {status : String} {response : Value} (sound : crypto.Reliable)
    (reliable : formats.Reliable) (reads : Reads crypto formats encryption tables register)
    (found : register.byId id = some task) (selected : there task = true) (admitted : request.Admitted)
    (same : ∀ row task, RowReads crypto formats encryption row task → here row = there task)
    (shallow : formats.nesting response < 128) (object : formats.isObject response = true)
    (known : validateIntegrationTaskStatus status = .ok ())
    (performs : performed formats register call.now request =
      (register.settle there status (formats.reparsed response) call.now,
        [task.settle status (formats.reparsed response) call.now])) :
    Ends (do
      let responseJson ← settle (serializeSensitiveJson crypto formats encryption call.responseNonce response)
      call.allow .update
      execute (·.updateTask here status responseJson (formats.toRfc3339 call.now))
      integrationTaskByIdConn crypto formats encryption call .selectAfterwards id) tables
      (Lists crypto formats encryption call tables register request) := by
  refine ends_bind (ends_settle ?_ fun err fails => refused reads (unsealed fails))
  intro responseJson made
  refine ends_bind (ends_allow ?_ fun err fails => refused reads (failing fails))
  obtain ⟨written,accepts,stored⟩ := update_reads call.now reliable reads same
    (payload_reads sound reliable shallow made) known ((reparsed_ok reliable shallow).2.1.trans object)
  have settled : Reads crypto formats encryption written (performed formats register call.now request).1 := by
    rw [performs]
    exact stored
  refine ends_bind (ends_execute accepts ?_)
  refine ends_byId stored ?_ fun err fails => unheard admitted settled (failing fails)
  rw [Register.settle_byId found selected]
  exact heard admitted settled (by rw [performs]; rfl)

theorem update_refines {id : Int} {status : String} {response : Value} (sound : crypto.Reliable)
    (reliable : formats.Reliable) (reads : Reads crypto formats encryption tables register)
    (shallow : formats.nesting response < 128) :
    Ends (serve crypto formats encryption call (.update id status response)) tables
      (Refines crypto formats encryption call tables register (.update id status response)) := by
  refine ends_lists ?_
  unfold updateIntegrationTask
  refine ends_bind (ends_settle ?_ ?_)
  · intro _ accepted
    obtain ⟨admitted,object⟩ := update_checks.mp accepted
    have known : status ∈ integrationTaskStatuses := by
      have within : integrationTaskTerminalStatuses ⊆ integrationTaskStatuses := by decide
      exact within admitted
    refine ends_bind (ends_allow ?_ fun err fails => refused reads (failing fails))
    refine ends_bind (ends_byId reads ?_ fun err fails => refused reads (failing fails))
    cases found : register.byId id with
    | none =>
        have performs : performed formats register call.now (.update id status response) = (register,[]) := by
          simp only [performed,Request.map,Register.perform,found]
        exact heard admitted (by rw [performs]; exact reads) (by rw [performs]; rfl)
    | some task =>
        have performs : performed formats register call.now (.update id status response) =
            (register.settle (fun task => task.id = id) status (formats.reparsed response) call.now,
              [task.settle status (formats.reparsed response) call.now]) := by
          simp only [performed,Request.map,Register.perform,found]
        have named := (Register.byId_mem found).2
        exact settling_refines sound reliable reads found (by simpa using named) admitted
          (fun _ _ read => by rw [read.id]) shallow object (oneOf_ok.mpr known) performs
  · intro err rejected
    refine refused reads fun clear => ?_
    have accepted : ensureValidIntegrationTaskUpdateForInsert formats status response = .ok () := clear.accepted
    rw [accepted] at rejected
    cases rejected

theorem mark_refines {id : Int} (sound : crypto.Reliable) (reliable : formats.Reliable)
    (reads : Reads crypto formats encryption tables register) :
    Ends (serve crypto formats encryption call (.markExecuting id)) tables
      (Refines crypto formats encryption call tables register (.markExecuting id)) := by
  refine ends_lists ?_
  unfold markIntegrationTaskExecuting
  have admitted : (Request.markExecuting id : Request Value).Admitted := trivial
  refine ends_bind (ends_allow ?_ fun err fails => refused reads (failing fails))
  refine ends_bind (ends_byId reads ?_ fun err fails => refused reads (failing fails))
  cases found : register.byId id with
  | none =>
      have performs : performed formats register call.now (.markExecuting id) = (register,[]) := by
        simp only [performed,Request.map,Register.perform,found]
      exact heard admitted (by rw [performs]; exact reads) (by rw [performs]; rfl)
  | some task =>
      have performs : performed formats register call.now (.markExecuting id) = if task.status = "received" then
            (register.settle (fun task => task.id = id && task.status = "received") "executing"
                (formats.reparsed (executingResponse formats)) call.now,
              [task.settle "executing" (formats.reparsed (executingResponse formats)) call.now])
          else (register,[task]) := by
        simp only [performed,Request.map,Register.perform,found]
      dsimp only
      by_cases received : task.status = "received"
      · rw [if_pos received] at performs
        rw [if_neg (not_not.mpr received)]
        have named := (Register.byId_mem found).2
        have object := reliable.object [("status","executing"),("message",executingMessage)]
        have known : "executing" ∈ integrationTaskStatuses := by decide
        exact settling_refines sound reliable reads found (by simp [named,received]) admitted
          (fun _ _ read => by rw [read.id,read.status]) object.1 object.2 (oneOf_ok.mpr known) performs
      · rw [if_neg received] at performs
        rw [if_pos received]
        exact heard admitted (by rw [performs]; exact reads) (by rw [performs]; rfl)

theorem get_refines {id : Int} (reads : Reads crypto formats encryption tables register) :
    Ends (serve crypto formats encryption call (.get id)) tables
      (Refines crypto formats encryption call tables register (.get id)) := by
  refine ends_lists ?_
  unfold integrationTask
  refine ends_bind (ends_allow ?_ fun err fails => refused reads (failing fails))
  refine ends_byId reads ?_ fun err fails => refused reads (failing fails)
  exact heard trivial reads rfl

theorem limited_encodes {Raw Row Err : Type} {decode : Raw → Except Err Row} {raws : List Raw} {rows : List Row} (limit : Nat)
    (encodes : Encodes decode raws rows) : Encodes decode (limited limit raws) (limited limit rows) := by
  unfold limited
  split
  · exact List.forall₂_take limit encodes
  · exact encodes

theorem list_refines {source : Option String} {limit : Nat} (reads : Reads crypto formats encryption tables register) :
    Ends (serve crypto formats encryption call (.list source limit)) tables
      (Refines crypto formats encryption call tables register (.list source limit)) := by
  unfold serve integrationTasks
  refine ends_bind (ends_allow ?_ fun err fails => refused reads (failing fails))
  refine ends_bind (ends_allow ?_ fun err fails => refused reads (failing fails))
  refine ends_bind (ends_get ?_)
  have newest : Encodes (integrationTaskFromRow crypto formats encryption) tables.tasks.rows.reverse register.tasks.reverse :=
    List.forall₂_reverse_iff.mpr reads.rows
  have chosen : Encodes (integrationTaskFromRow crypto formats encryption)
      (tables.tasks.rows.reverse.filter fun row => source.all (row.source = ·))
      (register.tasks.reverse.filter fun task => source.all (task.source = ·)) :=
    newest.filter fun row task read => by rw [(fromRow_ok.mp read).source]
  have listed := limited_encodes limit chosen
  dsimp only
  rw [listed.readAll]
  exact heard trivial reads rfl

theorem serve_refines (call : Call Time) (sound : crypto.Reliable) (reliable : formats.Reliable)
    (reads : Reads crypto formats encryption tables register) (shallow : request.Shallow formats) :
    Ends (serve crypto formats encryption call request) tables
      (Refines crypto formats encryption call tables register request) := by
  cases request with
  | create source externalTaskId action value => exact create_refines sound reliable reads shallow
  | update id status response => exact update_refines sound reliable reads shallow
  | markExecuting id => exact mark_refines sound reliable reads
  | get id => exact get_refines reads
  | list source limit => exact list_refines reads

end Serving

-- JSON as its text, which the reader takes for what it is.
abbrev BenchValue : Type := {text : String // startsWith encryptedJsonPrefix text = false}

theorem braced_plain (rest : String) : startsWith encryptedJsonPrefix ("\x7b" ++ rest) = false := by
  unfold startsWith
  rw [String.toList_append]
  rfl

def benchFormats : Formats BenchValue String where
  toString value := value.1
  fromStr text :=
    if plain : startsWith encryptedJsonPrefix text = false then .ok ⟨text,plain⟩
    else .error "expected value at line 1 column 1"
  nesting _ := 1
  isObject value := startsWith "\x7b" value.1
  isNull value := value.1 = "null"
  null := ⟨"null",by decide +kernel⟩
  object fields := ⟨"\x7b" ++ (",".intercalate (fields.map fun field => "\"" ++ field.1 ++ "\":\"" ++ field.2 ++ "\"") ++ "\x7d"),
    braced_plain _⟩
  toRfc3339 time := time
  parseFromRfc3339 text := .ok text

theorem benchFormats_reliable : benchFormats.Reliable where
  reads value _ := by
    refine ⟨value,?_,rfl,rfl⟩
    simp only [benchFormats]
    rw [dif_pos value.2]
  plain value := value.2
  null := ⟨by decide,by decide +kernel⟩
  object fields := by
    constructor
    · change 1 < 128
      decide
    · simp only [benchFormats]
      unfold startsWith
      rw [String.toList_append]
      rfl
  instants _ := rfl

def benchCall (now : String) : Call String where
  failure _ := none
  now := now
  requestNonce := ⟨List.replicate 12 1,rfl⟩
  responseNonce := ⟨List.replicate 12 2,rfl⟩

def startOne : BenchValue := ⟨"\x7b\"process_id\":1\x7d",by decide +kernel⟩

-- A task of a broker, as it is filed.
def fileOne : Request BenchValue := .create "mqtt" (some "job-1") "start_process" startOne

def filedOne : StoredTask BenchValue String :=
  ⟨1,some "job-1","mqtt","start_process","received",startOne,benchFormats.null,"2026-01-01T00:00:00+00:00",
    "2026-01-01T00:00:00+00:00"⟩

end ReactorOS.TaskStore
