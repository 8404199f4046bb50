import ReactorOS.Auth
import ReactorOS.Serial
namespace ReactorOS
open Wire

-- `err.context(message)`
def Failure.context (message : String) (error : Failure) : Failure := ⟨message,error.message :: error.causes⟩

abbrev EncryptionKey := {bytes : List UInt8 // bytes.length = 32}
abbrev Nonce := {bytes : List UInt8 // bytes.length = 12}

-- AES-256-GCM, base64 and the reader of JSON as their crates have them.
structure Cryptography where
  encrypt : EncryptionKey → Nonce → (msg aad : List UInt8) → Except String (List UInt8)
  decrypt : EncryptionKey → Nonce → (msg aad : List UInt8) → Except String (List UInt8)
  encodeNoPad : List UInt8 → String
  decodeNoPad : String → Except String (List UInt8)
  decodePadded : String → Except String (List UInt8)
  fromStr : String → Except String Unit

-- What the code relies on: a ciphertext opens under its own key and under no other,
-- and the text of bytes is a word that reads back as these bytes.
structure Cryptography.Reliable (crypto : Cryptography) : Prop where
  opens : ∀ {key nonce msg aad sealed'}, crypto.encrypt key nonce msg aad = .ok sealed' →
    crypto.decrypt key nonce sealed' aad = .ok msg
  authentic : ∀ {key other nonce msg aad sealed' plain}, crypto.encrypt key nonce msg aad = .ok sealed' → other ≠ key →
    crypto.decrypt other nonce sealed' aad ≠ .ok plain
  decodes : ∀ bytes, crypto.decodeNoPad (crypto.encodeNoPad bytes) = .ok bytes
  whole : ∀ bytes, ':' ∉ (crypto.encodeNoPad bytes).toList

def encryptedJsonPrefix : String := "xingshu:v1:aes256gcm:"

def dbEncryptionAad : List UInt8 := asBytes "xingshu:integration_tasks:json:v1"

namespace Cryptography
variable (crypto : Cryptography)

def decodeBase64 (value : String) : Except Failure (List UInt8) :=
  match crypto.decodeNoPad value with
  | .ok bytes => .ok bytes
  | .error _ => match crypto.decodePadded value with
    | .ok bytes => .ok bytes
    | .error err => .error ⟨"encrypted integration task payload base64 decode failed: " ++ err,[]⟩

def encryptJson (key : EncryptionKey) (nonce : Nonce) (plaintext : String) : Except Failure String :=
  match crypto.encrypt key nonce (asBytes plaintext) dbEncryptionAad with
  | .error err => .error ⟨"failed to encrypt integration task payload: " ++ err,[]⟩
  | .ok ciphertext => .ok (encryptedJsonPrefix ++ (crypto.encodeNoPad nonce.1 ++ String.singleton ':' ++
      crypto.encodeNoPad ciphertext))

def decryptEnvelope (key : EncryptionKey) (nonce ciphertext : List UInt8) : Except Failure String :=
  if length : nonce.length = 12 then
    match crypto.decrypt key ⟨nonce,length⟩ ciphertext dbEncryptionAad with
    | .error err => .error ⟨"failed to decrypt integration task payload: " ++ err,[]⟩
    | .ok plaintext => match decodeUtf8 plaintext with
      | some text => .ok text
      | none => .error ⟨"decrypted integration task payload was not utf-8",[]⟩
  else .error ⟨"encrypted integration task payload nonce must be 12 bytes",[]⟩

def decryptJsonIfNeeded (key : EncryptionKey) (value : String) : Except Failure String :=
  match stripPrefix encryptedJsonPrefix value with
  | none => .ok value
  | some envelope => match splitOnce ':' envelope with
    | none => .error ⟨"encrypted integration task payload envelope is malformed",[]⟩
    | some (nonce,ciphertext) => do
        let nonce ← crypto.decodeBase64 nonce
        let ciphertext ← crypto.decodeBase64 ciphertext
        crypto.decryptEnvelope key nonce ciphertext

end Cryptography

structure TaskRow where
  id : Int
  externalTaskId : Option String
  source : String
  action : String
  status : String
  requestJson : String
  responseJson : String
  createdAt : String
  updatedAt : String
  deriving DecidableEq, Repr

-- The table in the order of its primary key.
structure TaskTable where
  rows : List TaskRow
  ordered : rows.Pairwise fun one other => one.id < other.id

def TaskRow.setPayloads (id : Int) (requestJson responseJson : String) (row : TaskRow) : TaskRow :=
  if row.id = id then {row with requestJson := requestJson,responseJson := responseJson} else row

@[simp] theorem TaskRow.setPayloads_id (id : Int) (requestJson responseJson : String) (row : TaskRow) :
    (row.setPayloads id requestJson responseJson).id = row.id := by
  unfold setPayloads
  split <;> rfl

-- UPDATE integration_tasks SET request_json = ?1, response_json = ?2 WHERE id = ?3
def TaskTable.setPayloads (table : TaskTable) (id : Int) (requestJson responseJson : String) : TaskTable where
  rows := table.rows.map (.setPayloads id requestJson responseJson)
  ordered := by
    rw [List.pairwise_map]
    simpa using table.ordered

structure RekeyIntegrationReport where
  rowsScanned : Nat := 0
  fieldsScanned : Nat := 0
  encryptedFieldsSeen : Nat := 0
  plaintextFieldsSeen : Nat := 0
  fieldsReencrypted : Nat := 0
  plaintextFieldsEncrypted : Nat := 0
  fieldsChanged : Nat := 0
  deriving DecidableEq, Repr

structure RekeyedField where
  value : String
  changed : Bool

-- The statements on the connection, the three of the compaction apart.
inductive RekeyStatement where
  | openDatabase | busyTimeout | beginTransaction | selectTasks | readTask (id : Int) | updateTask (id : Int)
  | rollback | commit | checkpoint | vacuum | lastCheckpoint
  deriving DecidableEq, Repr

-- What a run meets with: the checks before it, the keys that were given, the statements
-- that fail, and the nonces of the random generator.
structure RekeyRun where
  db : String
  isFile : Bool
  dryRun : Bool
  yes : Bool
  daemonStopped : Except Failure String
  batchesFinished : Except Failure Unit
  oldKey : Except Failure EncryptionKey
  newKey : Except Failure EncryptionKey
  failure : RekeyStatement → Option Failure
  nonce : Int → String → Nonce

structure RekeyOutput where
  mode : String
  report : RekeyIntegrationReport
  daemonStopPreflight : String
  deriving DecidableEq

namespace RekeyRun
variable (crypto : Cryptography) (run : RekeyRun)

def execute (statement : RekeyStatement) : Except Failure Unit :=
  match run.failure statement with
  | none => .ok ()
  | some err => .error err

def rekeyIntegrationField (oldCipher newCipher : EncryptionKey) (value : String) (report : RekeyIntegrationReport)
    (field : String) (rowId : Int) : Except Failure (RekeyedField × RekeyIntegrationReport) := do
  let wasEncrypted := startsWith encryptedJsonPrefix value
  let plaintext ← (crypto.decryptJsonIfNeeded oldCipher value).mapError
    (.context s!"failed to decrypt integration_tasks.{field} for row id {rowId}")
  (crypto.fromStr plaintext).mapError fun err =>
    ⟨s!"integration_tasks.{field} for row id {rowId} is not valid JSON",[err]⟩
  let encrypted ← (crypto.encryptJson newCipher (run.nonce rowId field) plaintext).mapError
    (.context s!"failed to encrypt integration_tasks.{field} for row id {rowId}")
  return (⟨encrypted,true⟩,{report with
    fieldsScanned := report.fieldsScanned+1
    encryptedFieldsSeen := report.encryptedFieldsSeen+(if wasEncrypted then 1 else 0)
    plaintextFieldsSeen := report.plaintextFieldsSeen+(if wasEncrypted then 0 else 1)
    fieldsReencrypted := report.fieldsReencrypted+(if wasEncrypted then 1 else 0)
    plaintextFieldsEncrypted := report.plaintextFieldsEncrypted+(if wasEncrypted then 0 else 1)
    fieldsChanged := report.fieldsChanged+1})

-- The loop over the rows that the SELECT found; `tx` is the table as the transaction sees it.
def rekeyRows (oldCipher newCipher : EncryptionKey) : List TaskRow → TaskTable → RekeyIntegrationReport →
    Except Failure (TaskTable × RekeyIntegrationReport)
  | [],tx,report => .ok (tx,report)
  | row :: rest,tx,report => do
      let report := {report with rowsScanned := report.rowsScanned+1}
      let (request,report) ← run.rekeyIntegrationField crypto oldCipher newCipher row.requestJson report "request_json" row.id
      let (response,report) ← run.rekeyIntegrationField crypto oldCipher newCipher row.responseJson report "response_json" row.id
      if !run.dryRun && (request.changed || response.changed) then
        run.execute (.updateTask row.id)
        rekeyRows oldCipher newCipher rest (tx.setPayloads row.id request.value response.value) report
      else rekeyRows oldCipher newCipher rest tx report

def daemonStopPreflight : Except Failure String :=
  if run.dryRun then .ok "not_required_for_dry_run"
  else do
    let daemonStopPreflight ← run.daemonStopped
    run.batchesFinished
    return daemonStopPreflight

-- What comes before the database is opened: the refusals and the keys.
def preflight : Except Failure (String × EncryptionKey × EncryptionKey) := do
  if !run.isFile then throw ⟨s!"database {run.db} does not exist",[]⟩
  if !run.dryRun && !run.yes then
    throw ⟨"refusing to re-encrypt integration task payloads without --yes (run with --dry-run first, then stop the daemon and rerun with --yes)",[]⟩
  let daemonStopPreflight ← run.daemonStopPreflight
  let oldKey ← run.oldKey
  let newKey ← run.newKey
  if oldKey = newKey then throw ⟨"old and new encryption keys are identical; refusing no-op rekey",[]⟩
  return (daemonStopPreflight,oldKey,newKey)

def executeAll : List RekeyStatement → Except Failure Unit
  | [] => .ok ()
  | statement :: rest => do
      run.execute statement
      executeAll rest

-- What the transaction would come to, with the statements up to its end.
def transaction (table : TaskTable) : Except Failure (String × TaskTable × RekeyIntegrationReport) := do
  let (daemonStopPreflight,oldKey,newKey) ← run.preflight
  run.executeAll [.openDatabase,.busyTimeout,.beginTransaction,.selectTasks]
  run.executeAll (table.rows.map fun row => .readTask row.id)
  let (tx,report) ← run.rekeyRows crypto oldKey newKey table.rows table {}
  return (daemonStopPreflight,tx,report)

def compactRekeyedDatabase : Except Failure Unit :=
  (run.executeAll [.checkpoint,.vacuum,.lastCheckpoint]).mapError (.context "failed to compact database and truncate WAL after key rekey")

-- The result and the table that is left. A transaction that is not committed leaves nothing.
def keyRekeyIntegrationTasks (table : TaskTable) : Except Failure RekeyOutput × TaskTable :=
  match run.transaction crypto table with
  | .error err => (.error err,table)
  | .ok (daemonStopPreflight,tx,report) =>
      if run.dryRun then
        ((run.execute .rollback).map fun _ => ⟨"dry-run",report,daemonStopPreflight⟩,table)
      else match run.execute .commit with
        | .error err => (.error err,table)
        | .ok () => (run.compactRekeyedDatabase.map fun _ => ⟨"committed",report,daemonStopPreflight⟩,tx)

end RekeyRun
end ReactorOS
