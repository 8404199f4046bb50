import ReactorOS.Ota.Board
namespace ReactorOS.Ota
open Concurrency Task Wire

def interruptedRollback (status reason slot : String) : Bool :=
  status == "rolling_back" && reason == "manual rollback" && slot != ""

-- The slot that an interrupted script is to be brought back to.
def recoverySlot (status reason slot : String) (w : Board) : Except String Slot :=
  if interruptedRollback status reason slot then
    match managedSlotName slot with
    | none => .error s!"manual rollback target slot is outside managed slots: {slotPath slot}"
    | some target =>
        if (w.dirs target.name).isSome then .ok target
        else .error s!"manual rollback target slot path is missing: {slotPath slot}"
  else previousSlotPath w

-- What the boot check has read of the state file.
structure Interrupted where
  status : String
  slot : String
  reason : String
  fromVersion : String
  toVersion : String
  fromGit : String
  toGit : String

def Interrupted.read (w : Board) : Interrupted where
  status := w.stateValue "status"
  slot := w.stateValue "slot"
  reason := w.stateValue "reason"
  fromVersion := w.stateValue "from_version"
  toVersion := w.stateValue "to_version"
  fromGit := w.stateValue "from_git"
  toGit := w.stateValue "to_git"

-- The versions as they are once the old slot is back.
def Interrupted.backward (read : Interrupted) (status slot reason : String) : OtaState :=
  { status, slot, reason, fromVersion := read.toVersion, toVersion := read.fromVersion, fromGit := read.toGit,
    toGit := read.fromGit }

def Interrupted.forward (read : Interrupted) (status slot reason : String) : OtaState :=
  { status, slot, reason, fromVersion := read.fromVersion, toVersion := read.toVersion, fromGit := read.fromGit,
    toGit := read.toGit }

def restorePreviousSlotAfterInterruptedOta (read : Interrupted) : Script Unit := do
  let reason := s!"interrupted OTA {read.status} detected on boot"
  let current ← look requireCurrentSlotPath
  let previous ← look (recoverySlot read.status read.reason read.slot)
  look fun w => validateSlotDir (w.tree previous)
  log
  installSystemdUnitsFromSlot previous
  if current = previous then
    syncCompatLinks
    installRootOtaToolsFromSlot previous
    writeOtaState (read.backward "rolled_back_on_boot" previous.name (reason ++ " before current switch completed"))
  else
    atomicSymlink fun w => {w with current := some (.slot previous)}
    syncCompatLinks
    installRootOtaToolsFromSlot previous
    writeOtaState (read.backward "rolled_back_on_boot" previous.name reason)

def recordInterruptedBeforeSwitch (read : Interrupted) : Script Unit := do
  let current ← look requireCurrentSlotPath
  look fun w => validateSlotDir (w.tree current)
  log
  writeOtaState (read.forward "interrupted_before_switch" current.name s!"interrupted OTA {read.status} before current switch")

def settledStatuses : List String :=
  ["committed","rolled_back","rolled_back_on_boot","interrupted_before_switch","rejected_before_switch","dry_run_passed"]

def stagingStatuses : List String := ["downloading","verifying","verified","backup_done","staged"]

def switchingStatuses : List String := ["switching","health_checking","rolling_back"]

-- The script that runs at boot, and before each start of the service.
def otaBootCheck : Script Unit := do
  sourceOtaLib
  command fun _ w => w
  let read ← look fun w => .ok (w.state.map fun _ => Interrupted.read w)
  match read with
  | none => log
  | some read =>
      if read.status ∈ settledStatuses then log
      else if read.status = "" then
        writeOtaState (read.forward "failed" read.slot "OTA state file missing status on boot")
        throw "OTA state file missing status on boot; use recovery or manual rollback"
      else if read.status = "failed" then
        clearOtaServiceStartAllowed
        stopRuntimeServices
        throw "OTA state is failed on boot; keep device in maintenance and use recovery or manual rollback"
      else if read.status ∈ stagingStatuses then recordInterruptedBeforeSwitch read
      else if read.status ∈ switchingStatuses then
        if ← otaServiceStartAllowed then log
        else restorePreviousSlotAfterInterruptedOta read
      else
        writeOtaState (read.forward "failed" read.slot s!"unexpected OTA state on boot: {read.status}")
        throw s!"unexpected OTA state on boot: {read.status}; use recovery or manual rollback"

def markOtaServiceStartAllowed : Script Unit := run fun e w =>
  if !e.identified then
    (.error "cannot create OTA service-start marker because current process identity is unavailable",w)
  else (.ok (),if e.fails then w else {w with marker := true})

-- The units run the boot check twice before the service: as a service of its own and as a
-- part of its start.
def startBackend : Script Bool := do
  match ← (started otaBootCheck).attempt with
  | .error _ => return false
  | .ok _ => match ← (started otaBootCheck).attempt with
    | .error _ => return false
    | .ok _ => tried fun w => {w with backend := true}

-- The script stands as a condition, so what fails in it does not end it.
def startRuntimeServices : Script Bool := do
  markOtaServiceStartAllowed
  if ← tried fun w => w then
    if ← startBackend then
      tolerated fun w => w
      tried fun w => {w with marker := false}
    else
      tolerated fun w => {w with marker := false}
      return false
  else
    tolerated fun w => {w with marker := false}
    return false

-- Whether one round of the health check passes.
def probe : Script Bool := run fun e w => (.ok (w.backend && e.healthy && proveOtaSafeIdleStatus e.status == 0),w)

-- `Restart=on-failure`: the boot check is a part of each start.
def restartBackend : Script Unit := do
  if ← ask fun e => .ok e.restarts then
    match ← (started otaBootCheck).attempt with
    | .error _ => tolerated fun w => {w with backend := false}
    | .ok _ => pure ()

-- `required` rounds in a row, with `passed` of them behind.
def healthCheckLoop (required : Nat) : Nat → Nat → Script Bool
  | 0,_ => return false
  | attempts+1,passed => do
      restartBackend
      if ← probe then
        if required ≤ passed+1 then return true
        else healthCheckLoop required attempts (passed+1)
      else healthCheckLoop required attempts 0

-- `start_runtime_services && health_check_loop ..`
def startHealthy (attempts required : Nat) : Script Bool := do
  if ← startRuntimeServices then healthCheckLoop required attempts 0
  else return false

def checkNotBusy (force : Bool) : Script Unit := do
  if force then log
  else
    run fun e w => (orDie (w.backend && !e.fails)
      "cannot prove reactor is idle because backend service is not active; use --force --confirm-maintenance-window only during a verified maintenance window",w)
    ask fun e => explainOtaSafeIdleStatusFailure (proveOtaSafeIdleStatus e.status)
    log

def validateHealthArgs (attempts required : Nat) : Except String Unit := do
  orDie (0 < attempts) "--health-attempts must be a positive integer"
  orDie (0 < required) "--required-passes must be a positive integer"
  orDie (required ≤ attempts) "--required-passes cannot exceed --health-attempts"

def requireConfirmedDangerousOption (option confirmation : String) (enabled confirmed : Bool) : Except String Unit :=
  orDie (!enabled || confirmed)
    s!"{option} requires {confirmation}; do not use field bypasses without a recorded maintenance decision"

def linkPrevious (slot : Slot) (stands : Bool) : Script Unit :=
  if stands then atomicSymlink fun w => {w with previous := some (.slot slot)} else pure ()

structure RollbackOptions where
  force : Bool := false
  confirmMaintenanceWindow : Bool := false
  healthAttempts : Nat := 12
  requiredPasses : Nat := 3

-- What a rollback writes down.
def rollbackState (target : Slot) (versions gits : String × String) (status reason : String) : OtaState :=
  { status, slot := target.name, reason, fromVersion := versions.1, toVersion := versions.2, fromGit := gits.1, toGit := gits.2 }

def otaRollback (options : RollbackOptions) : Script Unit := do
  sourceOtaLib
  given (validateHealthArgs options.healthAttempts options.requiredPasses)
  given (requireConfirmedDangerousOption "--force" "--confirm-maintenance-window" options.force options.confirmMaintenanceWindow)
  command fun _ w => w
  checkNotBusy options.force
  let current ← look requireCurrentSlotPath
  let previous ← look previousSlotPath
  given (orDie (current != previous) "current and previous slots are identical")
  look fun w => validateSlotDir (w.tree previous)
  let versions ← look fun w => .ok (releaseVersionFromDir (w.tree current),releaseVersionFromDir (w.tree previous))
  let gits ← look fun w => .ok (releaseGitFromDir (w.tree current),releaseGitFromDir (w.tree previous))
  let state := rollbackState previous versions gits
  writeOtaState (state "rolling_back" "manual rollback")
  log
  stopRuntimeServices
  installSystemdUnitsFromSlot previous
  atomicSymlink fun w => {w with current := some (.slot previous)}
  let stands ← look fun w => .ok (w.dirs current.name).isSome
  linkPrevious current stands
  syncCompatLinks
  installRootOtaToolsFromSlot previous
  if ← startHealthy options.healthAttempts options.requiredPasses then
    writeOtaState (state "rolled_back" "manual rollback")
    log
  else
    enterOtaFailedState (state "failed" "manual rollback health check failed")
    throw "manual rollback health check failed; keep device in maintenance"

-- An update as it is called: the package with its path, the checksum file that is given
-- or found with it, and the process id of the script.
structure UpdateRequest where
  package : ReleasePackage
  path : String
  sidecar : Option (Option String)
  allowMissingChecksum : Bool := false
  confirmUnsafeNoChecksum : Bool := false
  dryRun : Bool := false
  force : Bool := false
  confirmMaintenanceWindow : Bool := false
  skipBackup : Bool := false
  confirmSkipBackup : Bool := false
  healthAttempts : Nat := 12
  requiredPasses : Nat := 3
  pid : Nat

-- The variables of the script that go into the state file.
structure Versions where
  fromVersion : String := ""
  toVersion : String := ""
  fromGit : String := ""
  toGit : String := ""

def Versions.swapped (versions : Versions) : Versions :=
  ⟨versions.toVersion,versions.fromVersion,versions.toGit,versions.fromGit⟩

def UpdateRequest.state (request : UpdateRequest) (versions : Versions) (status : String) (slot reason : String := "") :
    OtaState :=
  { status, slot, reason, package := request.path, fromVersion := versions.fromVersion, toVersion := versions.toVersion,
    fromGit := versions.fromGit, toGit := versions.toGit }

-- What runs when the script fails before the switch, ahead of the removal of its directories.
def otaExitHook (request : UpdateRequest) (versions : Versions) : Script Unit := do
  tolerated fun w => {w with marker := false}
  writeOtaStateAnyway (request.state versions "rejected_before_switch" ""
    "OTA update failed before switching current slot; current slot remains active")

def rejecting {α : Type} (request : UpdateRequest) (versions : Versions) (part : Script α) : Script α :=
  tryCatch part fun error => do
    otaExitHook request versions
    throw error

-- The directories that are removed when the script ends, whichever way it ends.
def cleaning {α : Type} (names : List String) (part : Script α) : Script α := do
  let result ← part.attempt
  names.forM removeTreeAnyway
  given result

def extractPackage (package : ReleasePackage) (name : String) : Script Tree := do
  command fun _ w => w.setDir name (some ((w.dirs name).getD []))
  run fun e w => (.ok (),w.setDir name (some ((package.contents.filter fun entry => e.kept entry.1) ++ (w.dirs name).getD [])))
  command fun _ w => w.setDir name (some (package.contents ++ (w.dirs name).getD []))
  look fun w => .ok ((w.dirs name).getD [])

def metadataDir (slot : Slot) (pid : Nat) : String := s!".{slot.name}.metadata.{pid}"

def readReleaseMetadataFromPackage (request : UpdateRequest) (target : Slot) : Script (String × String) := do
  let extractDir := metadataDir target request.pid
  removeTreeAnyway extractDir
  let extracted ← extractPackage request.package extractDir
  let candidate ← given (releaseCandidateDir extracted)
  let dir := candidateTree extracted candidate
  given (validateBuildMetadata dir)
  removeTree extractDir
  log
  return (releaseVersionFromDir dir,releaseGitFromDir dir)

-- The candidate goes from where it was unpacked to the stage; what is left there is removed.
def extractReleaseCandidateToStage (package : ReleasePackage) (extractDir stageDir : String) : Script Unit := do
  let extracted ← extractPackage package extractDir
  let candidate ← given (releaseCandidateDir extracted)
  let dir := candidateTree extracted candidate
  given (validateSlotDir dir)
  given (validateBuildMetadata dir)
  command fun _ w =>
    let moved := place (candidate.getD extractDir) dir (w.dirs stageDir)
    (w.setDir extractDir (candidate.map fun name => extracted.filter fun entry => !(name ++ "/").toList.isPrefixOf entry.1.toList)).setDir
      stageDir moved
  removeTree extractDir
  look fun w => validateSlotDir ((w.dirs stageDir).getD [])
  look fun w => validateBuildMetadata ((w.dirs stageDir).getD [])
  flushOtaDisk

def dryRunDirs (slot : Slot) (pid : Nat) : String × String :=
  (s!".{slot.name}.dry-run.extract.{pid}",s!".{slot.name}.dry-run.stage.{pid}")

def dryRunReleaseCandidateValidation (request : UpdateRequest) (target : Slot) : Script Unit := do
  let dirs := dryRunDirs target request.pid
  removeTreeAnyway dirs.1
  removeTreeAnyway dirs.2
  extractReleaseCandidateToStage request.package dirs.1 dirs.2
  removeTree dirs.2
  log

def backupScriptAvailable (e : Answer) (w : Board) : Bool :=
  (match w.current with
  | some (.slot slot) => (w.tree slot).isExecutable "backup.sh"
  | _ => false) || e.legacyBackup

def checkPreUpdateBackupAvailable (skipBackup : Bool) : Script Unit := do
  if skipBackup then log
  else
    run fun e w => (if e.databaseExists then orDie (backupScriptAvailable e w) "backup script missing; refusing update" else .ok (),w)
    log

-- The snapshot itself is made by another script, which only reads here.
def runPreUpdateBackup (skipBackup : Bool) : Script Unit := do
  if skipBackup then log
  else
    run fun e w => (if e.databaseExists then orDie (backupScriptAvailable e w) "backup script missing; refusing update" else .ok (),w)
    command fun _ w => w

def stageDirs (slot : Slot) (pid : Nat) : String × String := (s!".{slot.name}.extract.{pid}",s!"{slot.name}.tmp.{pid}")

def verifyPackage (request : UpdateRequest) : Script Unit :=
  match request.sidecar with
  | some sidecar => do
      log
      given (verifySha256ForPackage request.package sidecar)
  | none =>
      if request.allowMissingChecksum then log
      else throw "missing sha256 sidecar; provide --sha256 or use --allow-missing-checksum --confirm-unsafe-no-checksum only for lab recovery"

-- The package is checked and the state of the field is proved.
def admitPackage (request : UpdateRequest) : Script (Slot × Option Slot) := do
  writeOtaState (request.state {} "downloading")
  log
  writeOtaState (request.state {} "verifying")
  verifyPackage request
  writeOtaState (request.state {} "verified")
  checkNotBusy request.force
  ask fun e => ensureSpaceForPackage request.package e.availableKb
  given (validateTarPackage request.package)
  let target ← look fun w => .ok (inactiveSlotName w)
  let previous ← look optionalCurrentSlotPath
  return (target,previous)

def backUp (request : UpdateRequest) (versions : Versions) : Script Unit := do
  runPreUpdateBackup request.skipBackup
  writeOtaState (request.state versions "backup_done")

-- The inactive slot is replaced by the candidate.
def stageCandidate (request : UpdateRequest) (versions : Versions) (target : Slot) (previous : Option Slot) : Script Unit := do
  let dirs := stageDirs target request.pid
  writeOtaState (request.state versions "staged" target.name "extracting")
  log
  removeTreeAnyway dirs.1
  removeTreeAnyway dirs.2
  extractReleaseCandidateToStage request.package dirs.1 dirs.2
  removeTreeAnyway target.name
  run fun e w => match w.dirs dirs.2 with
    | none => (.error "command failed",w)
    | some tree =>
        if e.fails then (.error "command failed",w)
        else (.ok (),(w.setDir dirs.2 none).setDir target.name (place dirs.2 tree (w.dirs target.name)))
  flushOtaDisk
  look fun w => validateSlotDir (w.tree target)
  match previous with
  | some previous => atomicSymlink fun w => {w with previous := some (.slot previous)}
  | none => pure ()

-- The way back, once the new slot has failed.
def fallBack (request : UpdateRequest) (versions : Versions) (target previous : Slot) : Script Unit := do
  stopRuntimeServices
  log
  installSystemdUnitsFromSlot previous
  atomicSymlink fun w => {w with current := some (.slot previous)}
  syncCompatLinks
  installRootOtaToolsFromSlot previous
  if ← startHealthy request.healthAttempts request.requiredPasses then
    writeOtaState (request.state versions.swapped "rolled_back" previous.name s!"new slot {target.name} failed health check")
    log
    throw "rollback to previous slot succeeded"
  else
    enterOtaFailedState (request.state versions "failed" target.name "rollback health check failed")
    throw "rollback health check failed; keep device in manual maintenance"

-- From here on the state file says how to recover.
def switchSlot (request : UpdateRequest) (versions : Versions) (target : Slot) (previous : Option Slot) : Script Unit := do
  writeOtaState (request.state versions "switching" target.name)
  log
  stopRuntimeServices
  installRootOtaToolsFromSlot target
  log
  installSystemdUnitsFromSlot target
  atomicSymlink fun w => {w with current := some (.slot target)}
  syncCompatLinks
  writeOtaState (request.state versions "health_checking" target.name)
  if ← startHealthy request.healthAttempts request.requiredPasses then
    writeOtaState (request.state versions "committed" target.name)
    log
  else
    log
    writeOtaState (request.state versions "rolling_back" target.name "new slot health check failed")
    match ← look fun w => .ok (previous.filter fun slot => (w.dirs slot.name).isSome) with
    | none =>
        enterOtaFailedState (request.state versions "failed" target.name "new slot failed and no previous slot exists")
        throw "new slot failed and no previous slot exists"
    | some previous => fallBack request versions target previous

def otaUpdate (request : UpdateRequest) : Script Unit := do
  sourceOtaLib
  given (validateHealthArgs request.healthAttempts request.requiredPasses)
  given (requireConfirmedDangerousOption "--allow-missing-checksum" "--confirm-unsafe-no-checksum"
    request.allowMissingChecksum request.confirmUnsafeNoChecksum)
  given (requireConfirmedDangerousOption "--force" "--confirm-maintenance-window" request.force request.confirmMaintenanceWindow)
  given (requireConfirmedDangerousOption "--skip-backup" "--confirm-skip-backup" request.skipBackup request.confirmSkipBackup)
  command fun _ w => w
  given (orDie (".tar.gz".toList.isSuffixOf request.path.toList || ".tgz".toList.isSuffixOf request.path.toList)
    s!"release package must be .tar.gz or .tgz: {request.path}")
  let slots ← rejecting request {} (admitPackage request)
  let target := slots.1
  let previous := slots.2
  let origin ← look fun w => .ok (previous.elim ("","") fun slot => (releaseVersionFromDir (w.tree slot),releaseGitFromDir (w.tree slot)))
  let started : Versions := {fromVersion := origin.1,fromGit := origin.2}
  cleaning [metadataDir target request.pid] do
    let release ← rejecting request started (readReleaseMetadataFromPackage request target)
    let versions : Versions := {started with toVersion := release.1,toGit := release.2}
    if request.dryRun then
      rejecting request versions (checkPreUpdateBackupAvailable request.skipBackup)
      let dirs := dryRunDirs target request.pid
      cleaning [dirs.1,dirs.2] do
        rejecting request versions do
          dryRunReleaseCandidateValidation request target
          writeOtaState (request.state versions "dry_run_passed" target.name)
          log
    else
      rejecting request versions (backUp request versions)
      let dirs := stageDirs target request.pid
      cleaning [dirs.1,dirs.2] do
        rejecting request versions (stageCandidate request versions target previous)
        switchSlot request versions target previous

end ReactorOS.Ota
