import ReactorOS.Esp32
import ReactorOS.Storage.Files
namespace ReactorOS
open Concurrency Storage

abbrev Content := List UInt8

abbrev DbTask (α : Type) := FileTask FilePath Content String α

-- What the code asks of SQLite: its integrity check and its list of tables, and, for
-- those who open the restored database, what is read from a main file beside the
-- write-ahead log and the rollback journal that stand with it.
structure Sqlite (Database : Type) where
  integrityCheck : Content → Option String
  tableNames : Content → Option (List String)
  opened : (main wal journal : Option Content) → Database

structure RestoreReport where
  source : String
  destination : String
  preservedExisting : Option String
  removedSidecars : List String
  preservedSidecars : List String
  integrityCheck : String
  sizeBytes : Nat
  sha256 : String
  tables : List String
deriving DecidableEq, Repr

def pathWithFileSuffix (path : FilePath) (suffix : String) : FilePath :=
  path.withFileName (path.fileName ++ "." ++ suffix)

def pathWithRawSuffix (path : FilePath) (suffix : String) : FilePath := path.withFileName (path.fileName ++ suffix)

def evidenceTmpPath (pid : Nat) (path : FilePath) : FilePath :=
  path.withFileName (path.fileName ++ ".evidence.tmp." ++ toString pid)

def restoreTmpPath (pid : Nat) (path : FilePath) : FilePath :=
  path.withFileName (path.fileName ++ ".restore.tmp." ++ toString pid)

def evidenceCandidates (base : FilePath) : List FilePath :=
  base :: (List.range' 1 10000).map fun index => base.withFileName (base.fileName ++ "." ++ toString index)

def firstFree (base : FilePath) : List FilePath → DbTask FilePath
  | [] => throw ("could not allocate a non-overwriting pre-restore path for " ++ base.display)
  | candidate :: rest => do
    let taken ← (tryExists candidate).mapError fun _ => "failed to inspect " ++ candidate.display
    if taken then firstFree base rest else pure candidate

def uniquePath (base : FilePath) : DbTask FilePath := firstFree base (evidenceCandidates base)

def removeRestoreTmpIfPresent (path : FilePath) : DbTask Unit := do
  match ← (removeFile path).attempt with
  | .ok () => pure ()
  | .error .notFound => pure ()
  | .error error => throw ("failed to remove stale temporary restore file " ++ path.display ++ ": " ++ error.text)

def syncWritten (path : FilePath) : DbTask Unit := do
  let _ ← (openFile path).mapError fun _ => "failed to reopen " ++ path.display ++ " for sync"
  let _ ← (syncFile path).mapError fun _ => "failed to sync " ++ path.display
  pure ()

def syncParentDir (path : FilePath) : DbTask Unit :=
  if path.folder = "" then pure ()
  else do
    (openFolder path).mapError fun _ => "failed to open directory " ++ path.parent ++ " for sync"
    (syncFolder path).mapError fun _ => "failed to sync directory " ++ path.parent

-- `let _ = remove_file(tmp)` before an error is handed on.
def cleaningUp {α : Type} (tmp : FilePath) (work : DbTask α) : DbTask α :=
  tryCatch work fun error => do
    let _ ← (removeFile tmp).attempt
    throw error

def copyEvidenceFileAtomic (pid : Nat) (source destination : FilePath) (label : String) : DbTask Unit := do
  let tmp := evidenceTmpPath pid destination
  removeRestoreTmpIfPresent tmp
  cleaningUp tmp do
    (copyFile source tmp).mapError fun _ => "failed to preserve " ++ label ++ " " ++ source.display ++
      " -> temporary evidence file " ++ tmp.display
    (syncWritten tmp).mapError fun _ => "failed to sync temporary preserved " ++ label ++ " " ++ tmp.display
    let original ← (metadata source).mapError fun _ => "failed to stat source evidence " ++ source.display
    let copied ← (metadata tmp).mapError fun _ => "failed to stat temporary evidence " ++ tmp.display
    if original.length ≠ copied.length then
      throw ("temporary preserved " ++ label ++ " " ++ tmp.display ++ " has size " ++ toString copied.length ++
        ", expected " ++ toString original.length)
    else do
      (renameFile tmp destination).mapError fun _ => "failed to publish preserved " ++ label ++ " " ++
        destination.display
      syncParentDir destination

def sha256Hex (sha256 : Content → String) (path : FilePath) : DbTask String := do
  let _ ← (openFile path).mapError fun _ => "failed to open " ++ path.display ++ " for sha256"
  let content ← (readFile path).mapError FileError.text
  pure (sha256 content)

variable {Database : Type} (sqlite : Sqlite Database) (sha256 : Content → String) (pid : Nat)

def validateRestoredDbFile (path : FilePath) : DbTask (String × List String) := do
  let _ ← (openFile path).mapError fun _ => "restored db is unreadable: " ++ path.display
  let checked ← (readFile path).mapError fun _ => "failed to run SQLite integrity_check"
  match sqlite.integrityCheck checked with
  | none => throw "failed to run SQLite integrity_check"
  | some integrity =>
      if integrity ≠ "ok" then throw ("restored db failed integrity_check: " ++ integrity)
      else do
        let listed ← (readFile path).mapError fun _ => "failed to list restored tables"
        match sqlite.tableNames listed with
        | none => throw "failed to list restored tables"
        | some tables => pure (integrity,tables)

def sqliteMagic : Content := asBytes "SQLite format 3" ++ [0]

def checkMagic (source destination : FilePath) : DbTask Unit := do
  let _ ← (openFile source).mapError fun _ => "failed to open " ++ source.display
  let content ← (readFile source).mapError fun _ => "failed to read SQLite magic from " ++ source.display
  if content.length < 16 then throw ("failed to read SQLite magic from " ++ source.display)
  else if content.take 16 ≠ sqliteMagic then
    throw ("restore source " ++ source.display ++ " is not a SQLite file (magic header missing)")
  else if destination.folder = "" then pure ()
  else (makeFolder destination).mapError fun _ => "failed to create restore target dir " ++ destination.parent

-- What is asked before anything is written.
def checkRestore (source destination : FilePath) (overwrite : Bool) : DbTask Unit := do
  let present ← pathExists source
  if !present then throw ("restore source " ++ source.display ++ " does not exist")
  else do
    let occupied ← pathExists destination
    if occupied && !overwrite then
      throw ("refusing to restore over an existing database without overwrite = true: " ++ destination.display)
    else checkMagic source destination

def stageImage (source tmp : FilePath) : DbTask (String × List String) := do
  (copyFile source tmp).mapError fun _ =>
    "failed to copy " ++ source.display ++ " -> temporary restore file " ++ tmp.display
  (syncWritten tmp).mapError fun _ => "failed to sync temporary restore file " ++ tmp.display
  validateRestoredDbFile sqlite tmp

def preserveExisting (destination : FilePath) : DbTask (Option String) := do
  let occupied ← pathExists destination
  if occupied then do
    let backupExisting ← uniquePath (pathWithFileSuffix destination "pre-restore")
    copyEvidenceFileAtomic pid destination backupExisting "existing db"
    pure (some backupExisting.display)
  else pure none

-- The sidecars that were removed, each with the evidence of it.
def removeSidecars (destination : FilePath) : List String → DbTask (List (String × String))
  | [] => pure []
  | suffix :: rest => do
    let sidecar := pathWithRawSuffix destination suffix
    let present ← pathExists sidecar
    if present then do
      let preserved ← uniquePath (pathWithRawSuffix destination (suffix ++ ".pre-restore"))
      copyEvidenceFileAtomic pid sidecar preserved "SQLite sidecar"
      (removeFile sidecar).mapError fun _ => "failed to remove stale SQLite sidecar " ++ sidecar.display
      let later ← removeSidecars destination rest
      pure ((sidecar.display,preserved.display) :: later)
    else removeSidecars destination rest

def publishImage (tmp destination : FilePath) : DbTask (Option String × List (String × String)) := do
  let preservedExisting ← preserveExisting pid destination
  let sidecars ← removeSidecars pid destination ["-wal","-shm","-journal"]
  (renameFile tmp destination).mapError fun _ => "failed to publish restored db " ++ destination.display
  (syncParentDir destination).mapError fun _ => "restored db " ++ destination.display ++
    " was published but directory sync failed; target_may_have_changed=true"
  pure (preservedExisting,sidecars)

def restoreFile (source destination : FilePath) (overwrite : Bool) : DbTask RestoreReport := do
  checkRestore source destination overwrite
  let tmp := restoreTmpPath pid destination
  removeRestoreTmpIfPresent tmp
  let (integrity,tables) ← cleaningUp tmp (stageImage sqlite source tmp)
  let (preservedExisting,sidecars) ← cleaningUp tmp (publishImage pid tmp destination)
  let size ← (metadata destination).attempt
  let hash ← sha256Hex sha256 destination
  pure {
    source := source.display
    destination := destination.display
    preservedExisting := preservedExisting
    removedSidecars := sidecars.map Prod.fst
    preservedSidecars := sidecars.map Prod.snd
    integrityCheck := integrity
    sizeBytes := (size.toOption.map List.length).getD 0
    sha256 := hash
    tables := tables }

end ReactorOS
