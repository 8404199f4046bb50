import ReactorOS.Rekey
namespace ReactorOS
open Wire
variable {crypto : Cryptography} {run : RekeyRun} {old new key other : EncryptionKey} {table : TaskTable}

section Envelopes

theorem decodeBase64_encoded (reliable : crypto.Reliable) (bytes : List UInt8) :
    crypto.decodeBase64 (crypto.encodeNoPad bytes) = .ok bytes := by
  rw [Cryptography.decodeBase64,reliable.decodes]

theorem encryptJson_ok {nonce : Nonce} {plaintext value : String} :
    crypto.encryptJson key nonce plaintext = .ok value ↔ ∃ ciphertext,
      crypto.encrypt key nonce (asBytes plaintext) dbEncryptionAad = .ok ciphertext ∧ value = encryptedJsonPrefix ++
        (crypto.encodeNoPad nonce.1 ++ String.singleton ':' ++ crypto.encodeNoPad ciphertext) := by
  unfold Cryptography.encryptJson
  cases crypto.encrypt key nonce (asBytes plaintext) dbEncryptionAad with
  | error err => simp
  | ok ciphertext => simp [eq_comm]

-- An envelope is read as the ciphertext and the nonce it was made of.
theorem decrypt_envelope (reliable : crypto.Reliable) (nonce : Nonce) (ciphertext : List UInt8) :
    crypto.decryptJsonIfNeeded key (encryptedJsonPrefix ++
        (crypto.encodeNoPad nonce.1 ++ String.singleton ':' ++ crypto.encodeNoPad ciphertext)) =
      crypto.decryptEnvelope key nonce.1 ciphertext := by
  unfold Cryptography.decryptJsonIfNeeded
  rw [stripPrefix_append]
  simp only
  rw [splitOnce_append (reliable.whole nonce.1)]
  simp only [decodeBase64_encoded reliable]
  rfl

theorem decrypt_own (reliable : crypto.Reliable) {nonce : Nonce} {plaintext value : String}
    (made : crypto.encryptJson key nonce plaintext = .ok value) : crypto.decryptJsonIfNeeded key value = .ok plaintext := by
  obtain ⟨ciphertext,sealed',rfl⟩ := encryptJson_ok.mp made
  rw [decrypt_envelope reliable]
  unfold Cryptography.decryptEnvelope
  rw [dif_pos nonce.2,reliable.opens sealed']
  simp only [decodeUtf8_some.mpr rfl]

theorem decrypt_foreign (reliable : crypto.Reliable) {nonce : Nonce} {plaintext value read : String}
    (made : crypto.encryptJson key nonce plaintext = .ok value) (differs : other ≠ key) :
    crypto.decryptJsonIfNeeded other value ≠ .ok read := by
  obtain ⟨ciphertext,sealed',rfl⟩ := encryptJson_ok.mp made
  rw [decrypt_envelope reliable]
  unfold Cryptography.decryptEnvelope
  rw [dif_pos nonce.2]
  cases opened : crypto.decrypt other nonce ciphertext dbEncryptionAad with
  | error err => simp
  | ok plain => exact absurd opened (reliable.authentic sealed' differs)

end Envelopes

-- The same plaintext, read under the old key before and under the new one after.
def PayloadKept (crypto : Cryptography) (old new : EncryptionKey) (before after : String) : Prop :=
  ∃ plaintext, crypto.decryptJsonIfNeeded old before = .ok plaintext ∧ crypto.decryptJsonIfNeeded new after = .ok plaintext

structure RowRekeyed (crypto : Cryptography) (old new : EncryptionKey) (before after : TaskRow) : Prop where
  columns : after = {before with requestJson := after.requestJson,responseJson := after.responseJson}
  request : PayloadKept crypto old new before.requestJson after.requestJson
  response : PayloadKept crypto old new before.responseJson after.responseJson

-- An envelope under the new key of what was readable under the old key, and JSON.
def Reencrypted (crypto : Cryptography) (run : RekeyRun) (old new : EncryptionKey) (field : String) (rowId : Int)
    (value envelope : String) : Prop :=
  ∃ plaintext, crypto.decryptJsonIfNeeded old value = .ok plaintext ∧ crypto.fromStr plaintext = .ok () ∧
    crypto.encryptJson new (run.nonce rowId field) plaintext = .ok envelope

structure Rewritten (crypto : Cryptography) (run : RekeyRun) (old new : EncryptionKey) (before after : TaskRow) : Prop where
  columns : after = {before with requestJson := after.requestJson,responseJson := after.responseJson}
  updated : run.failure (.updateTask before.id) = none
  request : Reencrypted crypto run old new "request_json" before.id before.requestJson after.requestJson
  response : Reencrypted crypto run old new "response_json" before.id before.responseJson after.responseJson

section Fields
variable {value field : String} {report : RekeyIntegrationReport} {rowId : Int}

theorem rekeyIntegrationField_ok {rekeyed : RekeyedField} {seen : RekeyIntegrationReport}
    (ran : run.rekeyIntegrationField crypto old new value report field rowId = .ok (rekeyed,seen)) :
    rekeyed.changed = true ∧ Reencrypted crypto run old new field rowId value rekeyed.value := by
  unfold RekeyRun.rekeyIntegrationField at ran
  cases read : crypto.decryptJsonIfNeeded old value with
  | error err => simp [read,Except.mapError,bind,Except.bind] at ran
  | ok plaintext =>
      cases parsed : crypto.fromStr plaintext with
      | error err => simp [read,parsed,Except.mapError,bind,Except.bind] at ran
      | ok fine =>
          cases made : crypto.encryptJson new (run.nonce rowId field) plaintext with
          | error err => simp [read,parsed,made,Except.mapError,bind,Except.bind] at ran
          | ok envelope =>
              simp [read,parsed,made,Except.mapError,bind,Except.bind,pure,Except.pure] at ran
              obtain ⟨rfl,_⟩ := ran
              exact ⟨rfl,plaintext,read,parsed,made⟩

theorem rekeyIntegrationField_runs {envelope : String} (report : RekeyIntegrationReport) (possible : Reencrypted crypto run old new field rowId value envelope) :
    ∃ seen, run.rekeyIntegrationField crypto old new value report field rowId = .ok (⟨envelope,true⟩,seen) := by
  obtain ⟨plaintext,read,parsed,made⟩ := possible
  unfold RekeyRun.rekeyIntegrationField
  simp [read,parsed,made,Except.mapError,bind,Except.bind,pure,Except.pure]

end Fields

theorem executeAll_ok {statements : List RekeyStatement} :
    run.executeAll statements = .ok () ↔ ∀ statement ∈ statements, run.failure statement = none := by
  induction statements with
  | nil => simp [RekeyRun.executeAll]
  | cons statement rest ih =>
      rw [RekeyRun.executeAll,List.forall_mem_cons,← ih,RekeyRun.execute]
      cases run.failure statement with
      | none => simp [bind,Except.bind]
      | some err => simp [bind,Except.bind]

-- An update by the key changes the one row of the key.
theorem setPayloads_rows {front rest : List TaskRow} {row : TaskRow} {requestJson responseJson : String}
    (ordered : (front ++ row :: rest).Pairwise fun one other => one.id < other.id) :
    (front ++ row :: rest).map (.setPayloads row.id requestJson responseJson) =
      front ++ {row with requestJson := requestJson,responseJson := responseJson} :: rest := by
  obtain ⟨_,behind,across⟩ := List.pairwise_append.mp ordered
  have apart : ∀ rows : List TaskRow, (∀ other ∈ rows, other.id ≠ row.id) →
      rows.map (.setPayloads row.id requestJson responseJson) = rows := by
    intro rows different
    conv_rhs => rw [← List.map_id rows]
    refine List.map_congr_left fun other member => ?_
    rw [TaskRow.setPayloads,if_neg (different other member)]
    rfl
  rw [List.map_append,List.map_cons,apart front fun other member => (across other member row List.mem_cons_self).ne,
    apart rest fun other member => ((List.pairwise_cons.mp behind).1 other member).ne',TaskRow.setPayloads,if_pos rfl]

theorem rekeyRows_ok {rows : List TaskRow} (front : List TaskRow) {tx tx' : TaskTable} {report report' : RekeyIntegrationReport}
    (wet : run.dryRun = false) (standing : tx.rows = front ++ rows)
    (ran : run.rekeyRows crypto old new rows tx report = .ok (tx',report')) :
    ∃ rows', tx'.rows = front ++ rows' ∧ List.Forall₂ (Rewritten crypto run old new) rows rows' := by
  induction rows generalizing front tx report with
  | nil =>
      cases ran
      exact ⟨[],standing,.nil⟩
  | cons row rest ih =>
      rw [RekeyRun.rekeyRows] at ran
      obtain ⟨⟨request,seen⟩,first,ran⟩ := bind_ok ran
      obtain ⟨⟨response,seen'⟩,second,ran⟩ := bind_ok ran
      have first := rekeyIntegrationField_ok first
      have second := rekeyIntegrationField_ok second
      simp only [wet,first.1,Bool.not_false,Bool.true_or,Bool.true_and,if_true] at ran
      obtain ⟨_,updated,ran⟩ := bind_ok ran
      have ordered := tx.ordered
      rw [standing] at ordered
      have changed : (tx.setPayloads row.id request.value response.value).rows =
          (front ++ [{row with requestJson := request.value,responseJson := response.value}]) ++ rest := by
        change tx.rows.map _ = _
        rw [standing,setPayloads_rows ordered,List.append_assoc]
        rfl
      obtain ⟨rows',left,rewritten⟩ := ih _ changed ran
      have accepted : run.failure (.updateTask row.id) = none := by
        unfold RekeyRun.execute at updated
        split at updated
        · assumption
        · cases updated
      refine ⟨_ :: rows',left.trans (List.append_assoc _ _ _),.cons ?_ rewritten⟩
      exact ⟨rfl,accepted,first.2,second.2⟩

theorem rekeyRows_runs {rows : List TaskRow} (tx : TaskTable) (report : RekeyIntegrationReport)
    (possible : ∀ row ∈ rows, ∃ after, Rewritten crypto run old new row after) :
    ∃ out, run.rekeyRows crypto old new rows tx report = .ok out := by
  induction rows generalizing tx report with
  | nil => exact ⟨_,rfl⟩
  | cons row rest ih =>
      obtain ⟨⟨after,rewritten⟩,later⟩ := List.forall_mem_cons.mp possible
      rw [RekeyRun.rekeyRows]
      obtain ⟨seen,first⟩ := rekeyIntegrationField_runs {report with rowsScanned := report.rowsScanned+1}
        rewritten.request
      obtain ⟨seen',second⟩ := rekeyIntegrationField_runs seen rewritten.response
      simp only [first,second,RekeyRun.execute,rewritten.updated,bind,Except.bind]
      split
      · exact ih _ _ later
      · exact ih _ _ later

-- A run that comes to its commit, which is accepted.
structure Commits (crypto : Cryptography) (run : RekeyRun) (table : TaskTable) (old new : EncryptionKey) : Prop where
  wet : run.dryRun = false
  preflight : ∃ daemon, run.preflight = .ok (daemon,old,new)
  statements : ∀ statement ∈ [RekeyStatement.openDatabase,.busyTimeout,.beginTransaction,.selectTasks,.commit],
    run.failure statement = none
  read : ∀ row ∈ table.rows, run.failure (.readTask row.id) = none
  rows : ∀ row ∈ table.rows, ∃ after, Rewritten crypto run old new row after

-- The checkpoints and the VACUUM behind the commit.
def Compacts (run : RekeyRun) : Prop :=
  ∀ statement ∈ [RekeyStatement.checkpoint,.vacuum,.lastCheckpoint], run.failure statement = none

structure RekeyAtomic (crypto : Cryptography) (run : RekeyRun) (table : TaskTable) : Prop where
  rekeyed : ∀ output, (run.keyRekeyIntegrationTasks crypto table).1 = .ok output → run.dryRun = false →
    ∃ old new, run.oldKey = .ok old ∧ run.newKey = .ok new ∧
      List.Forall₂ (RowRekeyed crypto old new) table.rows (run.keyRekeyIntegrationTasks crypto table).2.rows
  kept : (∃ err, (run.keyRekeyIntegrationTasks crypto table).1 = .error err) ∨ run.dryRun = true →
    (run.keyRekeyIntegrationTasks crypto table).2 = table

theorem preflight_keys {daemon : String} (cleared : run.preflight = .ok (daemon,old,new)) :
    run.oldKey = .ok old ∧ run.newKey = .ok new ∧ old ≠ new := by
  unfold RekeyRun.preflight at cleared
  dsimp only at cleared
  split at cleared
  · cases cleared
  · split at cleared
    · cases cleared
    · obtain ⟨_,_,cleared⟩ := bind_ok cleared
      obtain ⟨oldKey,foundOld,cleared⟩ := bind_ok cleared
      obtain ⟨newKey,foundNew,cleared⟩ := bind_ok cleared
      split at cleared
      · cases cleared
      · rename_i distinct
        cases cleared
        exact ⟨foundOld,foundNew,distinct⟩

theorem Rewritten.rekeyed (reliable : crypto.Reliable) {before after : TaskRow}
    (rewritten : Rewritten crypto run old new before after) : RowRekeyed crypto old new before after := by
  obtain ⟨columns,_,⟨request,readRequest,_,madeRequest⟩,response,readResponse,_,madeResponse⟩ := rewritten
  exact ⟨columns,⟨request,readRequest,decrypt_own reliable madeRequest⟩,response,readResponse,decrypt_own reliable madeResponse⟩

-- What was readable under the old key is not what stands there under the new one.
theorem Rewritten.changed (reliable : crypto.Reliable) (distinct : old ≠ new) {before after : TaskRow}
    (rewritten : Rewritten crypto run old new before after) : after ≠ before := by
  obtain ⟨plaintext,read,_,made⟩ := rewritten.request
  intro same
  rw [same] at made
  exact decrypt_foreign reliable made distinct read

-- How far the transaction has come that is there to be committed.
theorem transaction_ok {daemon : String} {tx : TaskTable} {report : RekeyIntegrationReport} (wet : run.dryRun = false)
    (ran : run.transaction crypto table = .ok (daemon,tx,report)) : ∃ old new, run.preflight = .ok (daemon,old,new) ∧
      (∀ statement ∈ [RekeyStatement.openDatabase,.busyTimeout,.beginTransaction,.selectTasks],
        run.failure statement = none) ∧
      (∀ row ∈ table.rows, run.failure (.readTask row.id) = none) ∧
      List.Forall₂ (Rewritten crypto run old new) table.rows tx.rows := by
  unfold RekeyRun.transaction at ran
  obtain ⟨⟨found,old,new⟩,cleared,ran⟩ := bind_ok ran
  obtain ⟨_,opened,ran⟩ := bind_ok ran
  obtain ⟨_,read,ran⟩ := bind_ok ran
  obtain ⟨⟨left,seen⟩,rekeyed,ran⟩ := bind_ok ran
  cases ran
  obtain ⟨rows,standing,rewritten⟩ := rekeyRows_ok [] wet rfl rekeyed
  refine ⟨old,new,cleared,executeAll_ok.mp opened,fun row member => ?_,?_⟩
  · exact executeAll_ok.mp read _ (List.mem_map_of_mem member)
  · rw [standing]
    exact rewritten

theorem transaction_runs (commits : Commits crypto run table old new) : ∃ daemon tx report,
    run.transaction crypto table = .ok (daemon,tx,report) ∧ List.Forall₂ (Rewritten crypto run old new) table.rows tx.rows := by
  obtain ⟨daemon,cleared⟩ := commits.preflight
  obtain ⟨⟨tx,report⟩,rekeyed⟩ := rekeyRows_runs table {} commits.rows
  have opened : run.executeAll [.openDatabase,.busyTimeout,.beginTransaction,.selectTasks] = .ok () :=
    executeAll_ok.mpr fun statement member => commits.statements statement (by
      simp only [List.mem_cons,List.not_mem_nil,or_false] at member ⊢
      rcases member with rfl | rfl | rfl | rfl <;> simp)
  have read : run.executeAll (table.rows.map fun row => .readTask row.id) = .ok () := by
    refine executeAll_ok.mpr fun statement member => ?_
    obtain ⟨row,listed,rfl⟩ := List.mem_map.mp member
    exact commits.read row listed
  have ran : run.transaction crypto table = .ok (daemon,tx,report) := by
    unfold RekeyRun.transaction
    rw [cleared,ok_bind rfl]
    simp only
    rw [opened,ok_bind rfl,read,ok_bind rfl,rekeyed]
    rfl
  obtain ⟨rows,standing,rewritten⟩ := rekeyRows_ok [] commits.wet rfl rekeyed
  refine ⟨daemon,tx,report,ran,?_⟩
  rw [standing]
  exact rewritten

theorem compactRekeyedDatabase_ok : run.compactRekeyedDatabase = .ok () ↔ Compacts run := by
  unfold RekeyRun.compactRekeyedDatabase Compacts
  rw [← executeAll_ok]
  cases run.executeAll [.checkpoint,.vacuum,.lastCheckpoint] with
  | error err => simp [Except.mapError]
  | ok fine => simp [Except.mapError]

theorem TaskTable.rows_inj {one two : TaskTable} (same : one.rows = two.rows) : one = two := by
  cases one
  cases two
  cases same
  rfl

theorem execute_ok {statement : RekeyStatement} : run.execute statement = .ok () ↔ run.failure statement = none := by
  unfold RekeyRun.execute
  cases run.failure statement <;> simp

theorem forall₂_partner {α β : Type} {R : α → β → Prop} {xs : List α} {ys : List β} (related : List.Forall₂ R xs ys) :
    ∀ x ∈ xs, ∃ y, R x y := by
  induction related with
  | nil => simp
  | cons first rest ih => exact List.forall_mem_cons.mpr ⟨⟨_,first⟩,ih⟩

-- What a run leaves behind that is no dry run: the table as it was, or a committed one.
theorem rekey_leaves (crypto : Cryptography) (table : TaskTable) (wet : run.dryRun = false) :
    ((∃ err, (run.keyRekeyIntegrationTasks crypto table).1 = .error err) ∧
      (run.keyRekeyIntegrationTasks crypto table).2 = table) ∨
    ∃ old new daemon report, Commits crypto run table old new ∧
      List.Forall₂ (Rewritten crypto run old new) table.rows (run.keyRekeyIntegrationTasks crypto table).2.rows ∧
      (run.keyRekeyIntegrationTasks crypto table).1 =
        run.compactRekeyedDatabase.map fun _ => ⟨"committed",report,daemon⟩ := by
  unfold RekeyRun.keyRekeyIntegrationTasks
  cases ran : run.transaction crypto table with
  | error err => exact .inl ⟨⟨err,rfl⟩,rfl⟩
  | ok found =>
      obtain ⟨daemon,tx,report⟩ := found
      simp only [wet,Bool.false_eq_true,if_false]
      cases committed : run.execute .commit with
      | error err => exact .inl ⟨⟨err,rfl⟩,rfl⟩
      | ok fine =>
          obtain ⟨old,new,cleared,opened,read,rewritten⟩ := transaction_ok wet ran
          refine .inr ⟨old,new,daemon,report,⟨wet,⟨daemon,cleared⟩,?_,read,?_⟩,rewritten,rfl⟩
          · intro statement member
            rcases List.mem_append.mp (show statement ∈ [RekeyStatement.openDatabase,.busyTimeout,.beginTransaction,
              .selectTasks] ++ [.commit] from member) with before | last
            · exact opened statement before
            · rw [List.mem_singleton.mp last]
              exact execute_ok.mp committed
          · intro row member
            exact forall₂_partner rewritten row member

theorem rekey_dry (dry : run.dryRun = true) : (run.keyRekeyIntegrationTasks crypto table).2 = table := by
  unfold RekeyRun.keyRekeyIntegrationTasks
  cases run.transaction crypto table with
  | error err => rfl
  | ok found =>
      obtain ⟨daemon,tx,report⟩ := found
      simp only [dry,if_true]

theorem commits_leave (commits : Commits crypto run table old new) :
    ∃ old new, old ≠ new ∧
      List.Forall₂ (Rewritten crypto run old new) table.rows (run.keyRekeyIntegrationTasks crypto table).2.rows ∧
      ∃ report daemon, (run.keyRekeyIntegrationTasks crypto table).1 =
        run.compactRekeyedDatabase.map fun _ => ⟨"committed",report,daemon⟩ := by
  obtain ⟨daemon,tx,report,ran,rewritten⟩ := transaction_runs commits
  obtain ⟨_,cleared⟩ := commits.preflight
  have committed : run.execute .commit = .ok () := execute_ok.mpr (commits.statements _ (by simp))
  unfold RekeyRun.keyRekeyIntegrationTasks
  rw [ran]
  simp only [commits.wet,Bool.false_eq_true,if_false,committed]
  exact ⟨old,new,(preflight_keys cleared).2.2,rewritten,report,daemon,rfl⟩

theorem rekey_atomic_iff (reliable : crypto.Reliable) (run : RekeyRun) (table : TaskTable) : RekeyAtomic crypto run table ↔
    (∀ old new, ¬Commits crypto run table old new) ∨ table.rows = [] ∨ Compacts run := by
  constructor
  · intro atomic
    by_contra inside
    simp only [not_or,not_forall,not_not] at inside
    obtain ⟨⟨old,new,commits⟩,filled,uncompacted⟩ := inside
    obtain ⟨old,new,distinct,rewritten,report,daemon,result⟩ := commits_leave commits
    cases compacted : run.compactRekeyedDatabase with
    | ok fine => exact uncompacted (compactRekeyedDatabase_ok.mp compacted)
    | error err =>
        rw [compacted] at result
        rw [atomic.kept (.inl ⟨err,result⟩)] at rewritten
        cases rows : table.rows with
        | nil => exact filled rows
        | cons row rest =>
            rw [rows] at rewritten
            exact (List.forall₂_cons.mp rewritten).1.changed reliable distinct rfl
  · intro condition
    constructor
    · intro output result wet
      rcases rekey_leaves crypto table wet with ⟨⟨err,failed⟩,_⟩ | ⟨old,new,daemon,report,commits,rewritten,_⟩
      · rw [failed] at result
        cases result
      · obtain ⟨_,cleared⟩ := commits.preflight
        obtain ⟨foundOld,foundNew,_⟩ := preflight_keys cleared
        exact ⟨old,new,foundOld,foundNew,rewritten.imp fun _ _ rewritten => rewritten.rekeyed reliable⟩
    · intro ended
      cases dry : run.dryRun with
      | true => exact rekey_dry dry
      | false =>
          rcases rekey_leaves crypto table dry with ⟨_,kept⟩ | ⟨old,new,daemon,report,commits,rewritten,result⟩
          · exact kept
          · rcases condition with never | empty | compacts
            · exact absurd commits (never old new)
            · rw [empty] at rewritten
              exact TaskTable.rows_inj ((List.forall₂_nil_left_iff.mp rewritten).trans empty.symm)
            · rw [compactRekeyedDatabase_ok.mpr compacts] at result
              rcases ended with ⟨err,failed⟩ | wet
              · rw [failed] at result
                cases result
              · rw [dry] at wet
                cases wet

-- A cipher that only writes its key in front, and bytes written as single letters.
def benchCrypto : Cryptography where
  encrypt key _ msg _ := .ok (key.1 ++ msg)
  decrypt key _ msg _ := if msg.take 32 = key.1 then .ok (msg.drop 32) else .error "aead::Error"
  encodeNoPad bytes := String.ofList (bytes.map fun byte => Char.ofNat (byte.toNat+256))
  decodeNoPad value := .ok (value.toList.map fun ch => UInt8.ofNat (ch.toNat-256))
  decodePadded _ := .error "Invalid padding"
  fromStr text := if text = "oops" then .error "expected value at line 1 column 1" else .ok ()

theorem benchCrypto_reliable : benchCrypto.Reliable where
  opens := by
    intro key nonce msg aad sealed' made
    cases made
    simp [benchCrypto,key.2]
  authentic := by
    intro key other nonce msg aad sealed' plain made differs opened
    cases made
    simp only [benchCrypto,List.take_left' key.2] at opened
    split at opened
    · rename_i same
      exact differs (Subtype.ext same.symm)
    · cases opened
  decodes := by
    have letter : ∀ byte : Fin 256, UInt8.ofNat ((Char.ofNat (byte+256)).toNat-256) = UInt8.ofNat byte := by decide +kernel
    intro bytes
    simp only [benchCrypto,String.toList_ofList,List.map_map]
    congr 1
    conv_rhs => rw [← List.map_id bytes]
    refine List.map_congr_left fun byte _ => ?_
    have same := letter ⟨byte.toNat,byte.toNat_lt⟩
    simpa using same
  whole := by
    have letter : ∀ byte : Fin 256, Char.ofNat (byte+256) ≠ ':' := by decide +kernel
    intro bytes member
    simp only [benchCrypto,String.toList_ofList,List.mem_map] at member
    obtain ⟨byte,_,same⟩ := member
    exact letter ⟨byte.toNat,byte.toNat_lt⟩ same

-- The disk has no room for the copy that VACUUM makes.
def diskFull : RekeyRun where
  db := "data/reactor.sqlite3"
  isFile := true
  dryRun := false
  yes := true
  daemonStopped := .ok "passed"
  batchesFinished := .ok ()
  oldKey := .ok ⟨List.replicate 32 1,rfl⟩
  newKey := .ok ⟨List.replicate 32 2,rfl⟩
  failure statement := if statement = .vacuum then some ⟨"database or disk is full",[]⟩ else none
  nonce _ _ := ⟨List.replicate 12 0,rfl⟩

def oneTask (requestJson : String) : TaskTable :=
  ⟨[⟨1,none,"mqtt","set_targets","executed",requestJson,"null","2026-01-01T00:00:00+00:00","2026-01-01T00:00:00+00:00"⟩],
    List.pairwise_singleton _ _⟩

-- The same with room for the copy.
def roomyDisk : RekeyRun := {diskFull with failure := fun _ => none}

theorem roomyDisk_compacts : Compacts roomyDisk := compactRekeyedDatabase_ok.mp rfl

-- A payload that is refused before the commit, and one that goes over to the new key.
theorem rekey_atomic_iff_bench : RekeyAtomic benchCrypto diskFull (oneTask "oops") ∧
    RekeyAtomic benchCrypto roomyDisk (oneTask "{}") ∧
    (roomyDisk.keyRekeyIntegrationTasks benchCrypto (oneTask "{}")).2.rows ≠ (oneTask "{}").rows := by
  refine ⟨?_,?_,by decide +kernel⟩
  · refine (rekey_atomic_iff benchCrypto_reliable diskFull (oneTask "oops")).mpr (.inl fun old new commits => ?_)
    obtain ⟨after,rewritten⟩ := commits.rows _ List.mem_cons_self
    obtain ⟨plaintext,read,parsed,_⟩ := rewritten.request
    have plain : stripPrefix encryptedJsonPrefix "oops" = none := by decide +kernel
    unfold Cryptography.decryptJsonIfNeeded at read
    simp only [plain] at read
    cases read
    simp [benchCrypto] at parsed
  · exact (rekey_atomic_iff benchCrypto_reliable roomyDisk (oneTask "{}")).mpr (.inr (.inr roomyDisk_compacts))

-- The error comes after the commit: the rows are under the new key already.
theorem rekey_error_after_commit : benchCrypto.Reliable ∧ ¬RekeyAtomic benchCrypto diskFull (oneTask "{}") := by
  refine ⟨benchCrypto_reliable,fun atomic => ?_⟩
  have failed : (diskFull.keyRekeyIntegrationTasks benchCrypto (oneTask "{}")).1 = .error
      ⟨"failed to compact database and truncate WAL after key rekey",["database or disk is full"]⟩ := by decide +kernel
  have changed : (diskFull.keyRekeyIntegrationTasks benchCrypto (oneTask "{}")).2.rows ≠ (oneTask "{}").rows := by decide +kernel
  exact changed (congrArg TaskTable.rows (atomic.kept (.inl ⟨_,failed⟩)))

end ReactorOS
