import ReactorOS.Restore
import ReactorOS.Serial
import ReactorOS.Storage.Names
import ReactorOS.Text
import ReactorOS.Wire.Json
namespace ReactorOS
open Concurrency Storage FilePath

-- A SHA-256 value.
abbrev Digest := {bytes : List UInt8 // bytes.length = 32}

def digestHex (digest : Digest) : String := String.ofList (digest.val.flatMap fun byte => Wire.hexDigits byte.toNat)

-- `text.lines()`. A '\r' before the line feed is kept here: those who read the lines
-- drop the blanks at their ends.
def textLines : List Char → List (List Char)
  | [] => []
  | ch :: rest =>
      if ch = '\n' then [] :: textLines rest
      else match textLines rest with
        | [] => [[ch]]
        | line :: later => (ch :: line) :: later

def trimEnd (text : List Char) : List Char := (text.reverse.dropWhile isWhitespace).reverse

def firstWord (line : List Char) : Option (List Char) :=
  match (line.dropWhile isWhitespace).takeWhile (fun ch => !isWhitespace ch) with
  | [] => none
  | word => some word

def isAsciiHexDigit (ch : Char) : Bool := ch.isDigit || ('a' ≤ ch && ch ≤ 'f') || ('A' ≤ ch && ch ≤ 'F')

structure BackupReport where
  source : String
  destination : String
  sizeBytes : Nat
  sha256 : String
  hashSidecar : String
deriving DecidableEq, Repr

inductive BackupHashSidecarCheck where
  | missing
  | verified
deriving DecidableEq, Repr

def ensureBackupOutputAbsent (out : FilePath) : DbTask Unit := do
  match ← (tryExists out).attempt with
  | .ok false => pure ()
  | .ok true => throw ("refusing to overwrite existing backup snapshot " ++ out.display ++ "; choose a new --out path")
  | .error error => throw ("failed to inspect backup output path " ++ out.display ++ " before writing: " ++ error.text)

def removeStaleTempFile (path : FilePath) (label : String) : DbTask Unit := do
  match ← (removeFile path).attempt with
  | .ok () => pure ()
  | .error .notFound => pure ()
  | .error error => throw ("failed to remove stale temporary " ++ label ++ " " ++ path.display ++ " before backup: " ++
      error.text)

def syncFileForDurability (path : FilePath) (label : String) : DbTask Unit := do
  let _ ← (openFile path).mapError fun _ => "failed to reopen " ++ label ++ " " ++ path.display ++ " for durability sync"
  let _ ← (syncFile path).mapError fun _ => "failed to sync " ++ label ++ " " ++ path.display ++ " to storage"
  pure ()

def syncBackupDir (path : FilePath) : DbTask Unit :=
  if path.folder = "" then pure ()
  else do
    (openFolder path).mapError fun _ => "failed to open backup directory " ++ path.parent
    (syncFolder path).mapError fun _ => "failed to sync backup directory " ++ path.parent

def backupSnapshotTmpPath (pid : Nat) (out : FilePath) : FilePath :=
  out.withFileName (out.fileName ++ ".tmp." ++ toString pid)

def hashSidecarTmpPath (pid : Nat) (hashPath : FilePath) : FilePath :=
  hashPath.withFileName (hashPath.fileName ++ ".tmp." ++ toString pid)

def backupHashSidecarPath (backup : FilePath) : FilePath :=
  backup.withExtension (backup.extension.getD "bin" ++ ".sha256")

def backupHashSidecarLine (backupPath : FilePath) (sha256 : String) : String := sha256 ++ "  " ++ backupPath.display

-- `contents.lines().any(|line| line.trim_end() == expected)`
def listsLine (contents expected : String) : Bool := (textLines contents.toList).any fun line => trimEnd line = expected.toList

-- `fs::read_to_string`
def readableText (path : FilePath) (w : Files FilePath Content) : Except FileError String :=
  match w path with
  | none => .error .notFound
  | some content => (decodeUtf8 content).elim (.error (.failed "stream did not contain valid UTF-8")) .ok

def readToString (path : FilePath) : FileTask FilePath Content FileError String := look (.read path) (readableText path)

def verifyBackupHashSidecar (hashPath backupPath : FilePath) (sha256 : String) : DbTask Unit := do
  let contents ← (readToString hashPath).mapError fun _ => "failed to verify backup hash sidecar " ++ hashPath.display
  if listsLine contents (backupHashSidecarLine backupPath sha256) then pure ()
  else throw ("backup hash sidecar " ++ hashPath.display ++ " did not verify after publish")

def writeBackupHashSidecarTmp (tmpPath backupPath : FilePath) (sha256 : String) : DbTask Unit := do
  let text := asBytes (backupHashSidecarLine backupPath sha256 ++ "\n")
  (createFile tmpPath fun _ => .ok text).mapError fun _ => "failed to create backup hash sidecar " ++ tmpPath.display
  (fillFile tmpPath fun _ => .ok text).mapError fun _ => "failed to write backup hash sidecar " ++ tmpPath.display
  let _ ← (syncFile tmpPath).mapError fun _ => "failed to sync backup hash sidecar " ++ tmpPath.display
  let contents ← (readToString tmpPath).mapError fun _ => "failed to verify backup hash sidecar " ++ tmpPath.display
  if listsLine contents (backupHashSidecarLine backupPath sha256) then pure ()
  else throw ("backup hash sidecar " ++ tmpPath.display ++ " did not verify after write")

def removeExistingHashSidecarFile (hashPath : FilePath) : DbTask Unit := do
  match ← (metadata hashPath).attempt with
  | .ok _ => (removeFile hashPath).mapError fun _ =>
      "failed to remove existing backup hash sidecar " ++ hashPath.display ++ " before publish"
  | .error .notFound => pure ()
  | .error error => throw ("failed to inspect backup hash sidecar " ++ hashPath.display ++ " before publish: " ++ error.text)

def publishTmpFile (tmpPath finalPath : FilePath) (label : String) : DbTask Unit :=
  (renameFile tmpPath finalPath).mapError fun _ => "failed to publish " ++ label ++ " " ++ finalPath.display

-- The files that an open database is kept in.
def databaseFiles (db : FilePath) : List FilePath :=
  db :: ["-wal","-shm","-journal"].map (pathWithRawSuffix db)

-- SQLite at work on a file of its own: whatever it holds afterwards, or no file.
def sqliteWrites : List FilePath → DbTask Unit
  | [] => pure ()
  | path :: rest => do
    operation (.fill path) fun fate w =>
      (.ok (),Function.update w path (fate.failure.elim (some fate.left) fun _ => none))
    sqliteWrites rest

def openStore (db : FilePath) : DbTask Unit := do
  sqliteWrites (databaseFiles db)
  (look (.openFile db) fun _ => .ok ()).mapError fun _ => "failed to open source database " ++ db.display

-- The connections are closed when the scope of the store ends, however it ends.
def closingStore {α : Type} (db : FilePath) (work : DbTask α) : DbTask α := do
  let result ← work.attempt
  sqliteWrites (databaseFiles db)
  .ofExcept result

variable (digest : Content → Digest) (pid : Nat)

def fileSha256Hex (path : FilePath) : DbTask String := do
  let _ ← (openFile path).mapError fun _ => "failed to open " ++ path.display
  let content ← (readFile path).mapError fun _ => "failed to read " ++ path.display
  pure (digestHex (digest content))

def makeBackupFolder (destination : FilePath) : DbTask Unit :=
  if destination.folder = "" then pure ()
  else (makeFolder destination).mapError fun _ => "failed to create backup parent dir " ++ destination.parent

-- `Db::backup_to`. What image the database gives is up to SQLite; it goes to a new or
-- empty file only.
def backupTo (db destination : FilePath) : DbTask BackupReport := do
  makeBackupFolder destination
  let image ← operation (.read db) fun fate w => (fate.failure.elim (.ok fate.left)
    fun _ => .error ("VACUUM INTO failed for " ++ destination.display),w)
  (look (.inspect destination) fun w => if (w destination).getD [] = [] then .ok () else .error (.failed "output file already exists")).mapError
    fun _ => "VACUUM INTO failed for " ++ destination.display
  (writeFile destination fun _ => .ok image).mapError fun _ => "VACUUM INTO failed for " ++ destination.display
  let size ← (metadata destination).attempt
  let sha256 ← sha256Hex (fun content => digestHex (digest content)) destination
  pure { source := db.display,destination := destination.display,sizeBytes := (size.toOption.map List.length).getD 0
         sha256 := sha256,hashSidecar := "" }

-- Up to the moment before the snapshot is published.
def prepareBackup (db out : FilePath) : DbTask BackupReport := do
  let report ← backupTo digest db (backupSnapshotTmpPath pid out)
  syncFileForDurability (backupSnapshotTmpPath pid out) "backup snapshot"
  writeBackupHashSidecarTmp (hashSidecarTmpPath pid (backupHashSidecarPath out)) out report.sha256
  removeExistingHashSidecarFile (backupHashSidecarPath out)
  pure report

def withdrawSnapshot (out : FilePath) : DbTask Unit := do
  match ← (removeFile out).attempt with
  | .ok () => throw "published snapshot was removed"
  | .error error => throw ("published snapshot could not be removed after sidecar failure: " ++ error.text)

def publishBackup (out : FilePath) (sha256 : String) : DbTask Unit := do
  let hashPath := backupHashSidecarPath out
  publishTmpFile (backupSnapshotTmpPath pid out) out "backup snapshot"
  syncBackupDir out
  tryCatch (publishTmpFile (hashSidecarTmpPath pid hashPath) hashPath "backup hash sidecar") fun _ => withdrawSnapshot out
  syncBackupDir hashPath
  verifyBackupHashSidecar hashPath out sha256

def opsBackup (db out : FilePath) : DbTask BackupReport := do
  let present ← pathExists db
  if !present then throw ("source database " ++ db.display ++ " does not exist")
  else do
    ensureBackupOutputAbsent out
    let backupTmpPath := backupSnapshotTmpPath pid out
    let hashPath := backupHashSidecarPath out
    let hashTmpPath := hashSidecarTmpPath pid hashPath
    removeStaleTempFile backupTmpPath "backup snapshot"
    removeStaleTempFile hashTmpPath "backup hash sidecar"
    tryCatch (do
      openStore db
      closingStore db do
        let report ← prepareBackup digest pid db out
        publishBackup pid out report.sha256
        pure { report with destination := out.display,hashSidecar := hashPath.display }) fun error => do
      let _ ← (removeFile backupTmpPath).attempt
      let _ ← (removeFile hashTmpPath).attempt
      throw error

-- Whether a line of the sidecar starts with the hash.
def listsHash (sidecar expectedHash : String) : Bool :=
  let sidecarHashes := ((textLines sidecar.toList).filterMap firstWord).filter fun word =>
    word.length = 64 && word.all isAsciiHexDigit
  sidecarHashes.any fun hash => eqIgnoreAsciiCase (String.ofList hash) expectedHash

-- `verify_restore_backup_hash_sidecar_if_present`, as a restore asks for it.
def verifyRestoreBackupHashSidecarIfPresent (backup hashPath : FilePath) : DbTask BackupHashSidecarCheck := do
  let present ← (tryExists hashPath).mapError fun error =>
    "failed to inspect backup hash sidecar " ++ hashPath.display ++ " before restore: " ++ error.text
  if !present then pure .missing
  else do
    let isFile ← pathExists hashPath
    if !isFile then throw ("backup hash sidecar " ++ hashPath.display ++ " exists but is not a file")
    else do
      let expectedHash ← (fileSha256Hex digest backup).mapError fun _ =>
        "failed to hash backup " ++ backup.display ++ " before restore"
      let sidecar ← (readToString hashPath).mapError fun _ =>
        "failed to read backup hash sidecar " ++ hashPath.display ++ " before restore"
      if listsHash sidecar expectedHash then pure .verified
      else throw ("backup hash sidecar " ++ hashPath.display ++ " does not match " ++ backup.display ++
        "; refusing restore to avoid using a corrupt or mismatched snapshot")

end ReactorOS
