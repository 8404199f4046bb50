import ReactorOS.Concurrency.Crash
import ReactorOS.Ota.Idle
import ReactorOS.Ota.Package
import ReactorOS.Ota.StateFile
namespace ReactorOS.Ota
open Concurrency Task Wire

inductive Slot where
  | a | b
  deriving DecidableEq, Repr

def Slot.name : Slot → String
  | .a => "a"
  | .b => "b"

def Slot.other : Slot → Slot
  | .a => .b
  | .b => .a

def slotPath (slot : String) : String := "/opt/reactor-edge/slots/" ++ slot

-- What `readlink -f` makes of a link.
inductive Place where
  | slot (slot : Slot)
  | elsewhere (path : String)
  deriving DecidableEq

-- What stands at a place that is to be a link into the current slot.
inductive Standing where
  | absent
  | link (target : String)
  | other
  deriving DecidableEq

-- A file that has been installed, as far as it has been written.
structure Installed where
  text : String
  whole : Bool

-- The part of the machine that the scripts work on. `dirs` are the directories below
-- SLOTS_DIR by name, `rootTools` and `units` the installed files by name. Of a link that
-- leads nowhere `readlink -f` makes nothing, as of none.
structure Board where
  dirs : String → Option Tree
  current : Option Place
  previous : Option Place
  state : Option String
  stateTmp : Option String
  rootTools : String → Option Installed
  units : String → Option Installed
  compat : String → Standing
  marker : Bool
  backend : Bool

-- What the machine answers to one command.
structure Answer where
  -- The command fails.
  fails : Bool
  -- The entries that are there when a removal or an unpacking has done a part of its work.
  kept : String → Bool
  -- How many characters a write has brought when it breaks off.
  count : Nat
  -- A script of which only a part is there ends here, and what its exit status says then.
  stops : Option (Except String Unit)
  date : String
  availableKb : Option Nat
  databaseExists : Bool
  -- The backup script outside of the slots is there.
  legacyBackup : Bool
  -- The kernel tells the script its own identity.
  identified : Bool
  -- The marker that lets the service start is taken for that of a running update.
  fresh : Bool
  -- The health and the HMI address answer.
  healthy : Bool
  -- The service has ended, and systemd starts it again.
  restarts : Bool
  status : StatusAnswer

namespace Board

def tree (board : Board) (slot : Slot) : Tree := (board.dirs slot.name).getD []

def setDir (board : Board) (name : String) (tree : Option Tree) : Board :=
  {board with dirs := fun other => if other = name then tree else board.dirs other}

def setTool (board : Board) (name : String) (file : Option Installed) : Board :=
  {board with rootTools := fun other => if other = name then file else board.rootTools other}

def setUnit (board : Board) (name : String) (file : Option Installed) : Board :=
  {board with units := fun other => if other = name then file else board.units other}

def setCompat (board : Board) (name : String) (standing : Standing) : Board :=
  {board with compat := fun other => if other = name then standing else board.compat other}

def stateValue (board : Board) (key : String) : String := board.state.elim "" (jsonStateValue key)

end Board

-- `require_current_slot_path` and `previous_slot_path`
def managedSlot (label : String) (place : Option Place) (board : Board) : Except String Slot :=
  match place with
  | none => .error s!"{label} slot link is missing or invalid"
  | some (.elsewhere path) => .error s!"{label} slot is outside managed slots: {path}"
  | some (.slot slot) =>
      if (board.dirs slot.name).isSome then .ok slot
      else .error s!"{label} slot path is missing: {slotPath slot.name}"

def requireCurrentSlotPath (board : Board) : Except String Slot := managedSlot "current" board.current board

def optionalCurrentSlotPath (board : Board) : Except String (Option Slot) :=
  match board.current with
  | none => .ok none
  | place => (managedSlot "current" place board).map some

def previousSlotPath (board : Board) : Except String Slot := managedSlot "previous" board.previous board

def inactiveSlotName (board : Board) : Slot := if board.current = some (.slot .a) then .b else .a

def managedSlotName (name : String) : Option Slot :=
  if name = "a" then some .a
  else if name = "b" then some .b
  else none

-- A script is cut between any two of its commands, by a loss of power.
abbrev Script (α : Type) := Task (fun (_ : Answer) (_ _ : Board) => True) String α

def run {α : Type} (step : Answer → Board → Except String α × Board) : Script α := .ofSection ⟨step,fun _ _ => trivial⟩

-- A command under `set -e` that does what it is there for or nothing.
def command (effect : Answer → Board → Board) : Script Unit :=
  run fun e w => if e.fails then (.error "command failed",w) else (.ok (),effect e w)

-- The same where a failure is ignored.
def tolerated (effect : Board → Board) : Script Unit := run fun e w => (.ok (),if e.fails then w else effect w)

-- The same where it is a condition.
def tried (effect : Board → Board) : Script Bool := run fun e w => if e.fails then (.ok false,w) else (.ok true,effect w)

def look {α : Type} (read : Board → Except String α) : Script α := run fun _ w => (read w,w)

def ask {α : Type} (read : Answer → Except String α) : Script α := run fun e w => (read e,w)

def log : Script Unit := command fun _ w => w

def given {α : Type} (result : Except String α) : Script α := .done result

-- A line of the log and `sync`.
def flushOtaDisk : Script Unit := do
  log
  command fun _ w => w

def writeStateTmp (state : OtaState) (e : Answer) (w : Board) : Board :=
  let text := stateText {state with updatedAt := e.date}
  {w with stateTmp := some (if e.fails then String.ofList (text.toList.take e.count) else text)}

def moveStateTmp (w : Board) : Board := match w.stateTmp with
  | none => w
  | some text => {w with state := some text,stateTmp := none}

def writeOtaState (state : OtaState) : Script Unit := do
  command fun _ w => w
  run fun e w => (if e.fails then .error "command failed" else .ok (),writeStateTmp state e w)
  command fun _ w => moveStateTmp w
  flushOtaDisk

-- `write_ota_state` where `set -e` does not hold: what has been written of the text is
-- moved to its place.
def writeOtaStateAnyway (state : OtaState) : Script Unit := do
  run fun e w => (.ok (),writeStateTmp state e w)
  tolerated moveStateTmp

def clearOtaServiceStartAllowed : Script Unit := command fun _ w => {w with marker := false}

def otaServiceStartAllowed : Script Bool := run fun e w =>
  if w.marker && e.fresh then (.ok true,w)
  else (.ok false,if e.fails then w else {w with marker := false})

-- `rm -rf`, which may come to its end or not.
def removeTree (name : String) : Script Unit := do
  run fun e w => (.ok (),w.setDir name ((w.dirs name).map fun tree => tree.filter fun entry => e.kept entry.1))
  command fun _ w => w.setDir name none

-- The same with `|| true`.
def removeTreeAnyway (name : String) : Script Unit := do
  run fun e w => (.ok (),w.setDir name ((w.dirs name).map fun tree => tree.filter fun entry => e.kept entry.1))
  tolerated fun w => w.setDir name none

-- `mv` of a directory, which goes into the destination where that is there already.
def place (name : String) (tree : Tree) : Option Tree → Tree
  | none => tree
  | some old => old ++ tree.inside name

def atomicSymlink (link : Board → Board) : Script Unit := do
  command fun _ w => w
  command fun _ w => link w
  flushOtaDisk

def compatLinks : List (String × String) :=
  [("bin","current/bin"),("frontend","current/frontend"),("static","current/static"),("kiosk","current/kiosk"),
    ("backup.sh","current/backup.sh"),("health-check.sh","current/health-check.sh")]

-- What stands there is kept, unless it is a link.
def makeRoom (name : String) : Standing → Script Unit
  | .absent => pure ()
  | .link _ => command fun _ w => w.setCompat name .absent
  | .other => do
      command fun _ w => w
      command fun _ w => w.setCompat name .absent
      log

def replaceWithLinkPreservingExisting (name target : String) : Script Unit := do
  let standing ← look fun w => .ok (w.compat name)
  makeRoom name standing
  command fun _ w => w.setCompat name (.link target)

def syncCompatLinks : Script Unit := do
  if ← look fun w => .ok w.current.isSome then
    compatLinks.forM fun link => replaceWithLinkPreservingExisting link.1 link.2
    flushOtaDisk

-- `install` writes the new file in place of the old one.
def install (set : Option Installed → Board → Board) (text : String) : Script Unit := do
  run fun e w =>
    let written : Installed := ⟨String.ofList (text.toList.take e.count),text.toList.length ≤ e.count⟩
    if e.fails then (.error "command failed",w) else (.ok (),set (some written) w)
  command fun _ w => set (some ⟨text,true⟩) w

def otaTools : List String := ["ota-update.sh","ota-rollback.sh","ota-lib.sh","ota-boot-check.sh"]

-- The scripts and the units that systemd starts them by are all there, each to its end.
def Board.installed (board : Board) : Bool :=
  otaTools.all (fun tool => (board.rootTools tool).any (·.whole)) && systemdUnits.all fun unit => (board.units unit).any (·.whole)

-- The head of each script.
def sourceOtaLib : Script Unit :=
  look fun w => orDie ((w.rootTools "ota-lib.sh").isSome || (w.rootTools "reactor-edge-ota-lib.sh").isSome) "missing ota-lib.sh"

-- A script is started from the files that are installed. Where one of them has been left
-- incomplete the shell may give up at any command, and with any exit status.
def started (script : Script Unit) : Script Unit := do
  if ← look fun w => .ok w.installed then script
  else script.breaking Answer.stops fun _ _ => trivial

def installRootOtaToolsFromSlot (slot : Slot) : Script Unit := do
  otaTools.forM fun script => do
    match ← look fun w => .ok ((w.tree slot).text script) with
    | some text => install (fun file w => w.setTool script file) text
    | none => pure ()
  flushOtaDisk

def installSystemdUnitsFromSlot (slot : Slot) : Script Unit := do
  look fun w => systemdUnits.forM fun unit =>
    orDie ((w.tree slot).isFile ("deploy/" ++ unit)) s!"slot missing deploy/{unit}"
  command fun _ w => w
  systemdUnits.forM fun unit => do
    match ← look fun w => .ok ((w.tree slot).text ("deploy/" ++ unit)) with
    | some text => install (fun file w => w.setUnit unit file) text
    | none => throw "command failed"
  flushOtaDisk

def stopRuntimeServices : Script Unit := do
  tolerated fun w => w
  tolerated fun w => {w with backend := false}

def enterOtaFailedState (state : OtaState) : Script Unit := do
  clearOtaServiceStartAllowed
  writeOtaState {state with status := "failed"}
  stopRuntimeServices

end ReactorOS.Ota
