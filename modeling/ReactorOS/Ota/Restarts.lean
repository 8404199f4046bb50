import ReactorOS.Ota.Recovery
namespace ReactorOS.Ota
open Concurrency Task Wire

inductive Operation where
  | update (request : UpdateRequest)
  | rollback (options : RollbackOptions)
  | bootCheck

def Operation.script : Operation → Script Unit
  | .update request => started (otaUpdate request)
  | .rollback options => started (otaRollback options)
  | .bootCheck => started otaBootCheck

-- The marker does not outlast the machine, nor does the service.
def Board.reboot (w : Board) : Board := {w with marker := false,backend := false}

theorem Board.reboot_view (w : Board) : w.reboot.view = w.view := rfl

theorem Board.reboot_sound {w : Board} (sound : w.view.Sound) : w.reboot.view.Sound := sound

-- The boards that any number of scripts lead to, each cut wherever it may be or not at all.
inductive Reached (init : Board) : Board → Prop where
  | start : Reached init init
  | script {w : Board} (operation : Operation) (answers : Nat → Answer) (steps : Nat) : Reached init w →
      Reached init (operation.script.cut answers steps w)
  | reboot {w : Board} : Reached init w → Reached init w.reboot
  | service {w : Board} (running : Bool) : Reached init w → Reached init {w with backend := running}

-- The boards that attempts to start lead to.
inductive Booted (init : Board) : Board → Prop where
  | start : Booted init init.reboot
  | again {w : Board} (answers : Nat → Answer) (steps : Nat) : Booted init w →
      Booted init ((started otaBootCheck).cut answers steps w).reboot

-- No command fails.
def Smooth (e : Answer) : Prop := e.fails = false

-- The script comes to its end where no command fails.
def succeeds {α : Type} (t : Script α) (w : Board) (Q : α → Board → Prop) : Prop :=
  t.guarded Smooth (fun _ => True) w (Ends Q fun _ => False)

section Success
variable {α β : Type} {t : Script α} {k : α → Script β} {w : Board} {Q F : α → Board → Prop} {S : β → Board → Prop}
  {v : View}

theorem succeeds_bind (first : succeeds t w F) (rest : ∀ value after, F value after → succeeds (k value) after S) :
    succeeds (t >>= k) w S :=
  guarded_seq first (fun value after _ reached => rest value after reached) fun _ _ _ failed => failed

theorem succeeds_done {value : α} (ends : Q value w) : succeeds (.done (.ok value)) w Q := ⟨trivial,ends⟩

theorem succeeds_run {step : Answer → Board → Except String α × Board}
    (taken : ∀ e, Smooth e → ∃ value, (step e w).1 = .ok value ∧ Q value (step e w).2) : succeeds (run step) w Q := by
  refine ⟨trivial,fun e smooth => ⟨trivial,?_⟩⟩
  obtain ⟨value,same,ends⟩ := taken e smooth
  change Ends Q (fun _ => False) (step e w).1 (step e w).2
  rw [same]
  exact ends

theorem succeeds_look {read : Board → Except String α} {value : α} (found : read w = .ok value) (rest : succeeds (k value) w S) :
    succeeds (look read >>= k) w S := by
  refine succeeds_bind (F := fun value' after => value' = value ∧ after = w) ?_ ?_
  · exact succeeds_run fun _ _ => ⟨value,found,rfl,rfl⟩
  · rintro _ _ ⟨rfl,rfl⟩
    exact rest

theorem succeeds_command {effect : Answer → Board → Board} {Q : Unit → Board → Prop}
    (taken : ∀ e, Smooth e → Q () (effect e w)) : succeeds (command effect) w Q := by
  apply succeeds_run
  intro e smooth
  refine ⟨(),?_⟩
  rw [show e.fails = false from smooth]
  exact ⟨rfl,taken e smooth⟩

theorem succeeds_log (here : w.view = v) : succeeds log w fun _ after => after.view = v := succeeds_command fun _ _ => here

theorem succeeds_flush (here : w.view = v) : succeeds flushOtaDisk w fun _ after => after.view = v :=
  succeeds_bind (succeeds_log here) fun _ _ same => succeeds_log same

theorem succeeds_install {set : Option Installed → Board → Board} (kept : ∀ file w, (set file w).view = w.view) (text : String)
    (here : w.view = v) : succeeds (install set text) w fun _ after => after.view = v := by
  refine succeeds_bind (F := fun _ after => after.view = v) ?_ fun _ after same => ?_
  · apply succeeds_run
    intro e smooth
    refine ⟨(),?_⟩
    rw [show e.fails = false from smooth]
    exact ⟨rfl,(kept _ w).trans here⟩
  · exact succeeds_command fun _ _ => (kept _ after).trans same

-- A part for each of a list, where none of them changes what decides.
theorem succeeds_forM {γ : Type} {items : List γ} {part : γ → Script Unit}
    (each : ∀ item ∈ items, ∀ before : Board, before.view = v → succeeds (part item) before fun _ after => after.view = v)
    (here : w.view = v) : succeeds (items.forM part) w fun _ after => after.view = v := by
  induction items generalizing w with
  | nil => exact succeeds_done here
  | cons item items ih =>
      refine succeeds_bind (each item List.mem_cons_self w here) fun _ after same => ?_
      exact ih (fun other member => each other (List.mem_cons_of_mem _ member)) same

theorem succeeds_tools (slot : Slot) (here : w.view = v) :
    succeeds (installRootOtaToolsFromSlot slot) w fun _ after => after.view = v := by
  refine succeeds_bind (succeeds_forM (fun script _ before same => ?_) here) fun _ _ same => succeeds_flush same
  refine succeeds_look rfl ?_
  split
  · rename_i text _
    exact succeeds_install (fun file w => (rfl : (w.setTool script file).view = w.view)) text same
  · exact succeeds_done same

theorem succeeds_units {slot : Slot} {tree : Tree} (dirs : v.dirs slot.name = some tree) (valid : validateSlotDir tree = .ok ())
    (here : w.view = v) : succeeds (installSystemdUnitsFromSlot slot) w fun _ after => after.view = v := by
  have found : ∀ before : Board, before.view = v → before.tree slot = tree := by
    rintro before rfl
    unfold Board.tree
    rw [show before.dirs slot.name = some tree from dirs,Option.getD_some]
  obtain ⟨_,_,units⟩ := bind_ok valid
  obtain ⟨_,units,_⟩ := bind_ok units
  have files : ∀ unit ∈ systemdUnits, tree.isFile ("deploy/" ++ unit) = true := fun unit listed =>
    orDie_ok.mp (forM_ok units unit listed)
  have checked : (systemdUnits.forM fun unit => orDie ((w.tree slot).isFile ("deploy/" ++ unit)) s!"slot missing deploy/{unit}") = .ok () := by
    rw [found w here]
    exact forM_all fun unit listed => orDie_ok.mpr (files unit listed)
  refine succeeds_look checked (succeeds_bind (succeeds_log here) fun _ before same => ?_)
  refine succeeds_bind (succeeds_forM (fun unit listed before same => ?_) same) fun _ _ same => succeeds_flush same
  have shipped : ∃ text, (before.tree slot).text ("deploy/" ++ unit) = some text := by
    have file := files unit listed
    rw [found before same]
    unfold Tree.isFile at file
    unfold Tree.text
    cases node : tree.node ("deploy/" ++ unit) with
    | none => simp [node] at file
    | some node' =>
        cases node' with
        | file executable text => exact ⟨text,rfl⟩
        | folder => simp [node] at file
  obtain ⟨text,read⟩ := shipped
  refine succeeds_look (congrArg Except.ok read) ?_
  exact succeeds_install (fun file w => (rfl : (w.setUnit unit file).view = w.view)) text same

theorem succeeds_compat (here : w.view = v) : succeeds syncCompatLinks w fun _ after => after.view = v := by
  have set : ∀ (before : Board) name standing, before.view = v →
      succeeds (command fun _ w => w.setCompat name standing) before fun _ after => after.view = v :=
    fun before name standing same => succeeds_command fun _ _ => same
  refine succeeds_look rfl ?_
  split
  · refine succeeds_bind (succeeds_forM (fun link _ before same => ?_) here) fun _ _ same => succeeds_flush same
    refine succeeds_look rfl (succeeds_bind (F := fun _ after => after.view = v) ?_ fun _ after same => set after _ _ same)
    unfold makeRoom
    split
    · exact succeeds_done same
    · exact set _ _ _ same
    · exact succeeds_bind (succeeds_log same) fun _ _ same => succeeds_bind (set _ _ _ same) fun _ _ same => succeeds_log same
  · exact succeeds_done here

theorem succeeds_symlink {link : Board → Board} {after : View} (here : w.view = v)
    (linked : ∀ before : Board, before.view = v → (link before).view = after) :
    succeeds (atomicSymlink link) w fun _ ends => ends.view = after :=
  succeeds_bind (succeeds_log here) fun _ before same =>
    succeeds_bind (succeeds_command fun _ _ => linked before same) fun _ _ same => succeeds_flush same

theorem succeeds_write (state : OtaState) : succeeds (writeOtaState state) w fun _ _ => True := by
  refine succeeds_bind (succeeds_command (Q := fun _ _ => True) fun _ _ => trivial) fun _ _ _ => ?_
  refine succeeds_bind (F := fun _ _ => True) ?_ fun _ _ _ => ?_
  · apply succeeds_run
    intro e smooth
    rw [show e.fails = false from smooth]
    exact ⟨(),rfl,trivial⟩
  refine succeeds_bind (succeeds_command (Q := fun _ _ => True) fun _ _ => trivial) fun _ _ _ => ?_
  refine guarded_mono (fun _ _ => trivial) ?_ (succeeds_flush rfl)
  intro result after _ reached
  cases result with
  | ok value => trivial
  | error error => exact reached

theorem requireCurrent_stands {slot : Slot} {tree : Tree} (current : w.view.current = some (.slot slot))
    (dirs : w.view.dirs slot.name = some tree) : requireCurrentSlotPath w = .ok slot := by
  have stands : (w.dirs slot.name).isSome = true := by
    rw [show w.dirs slot.name = some tree from dirs]
    rfl
  unfold requireCurrentSlotPath
  rw [show w.current = some (.slot slot) from current,managedSlot,if_pos stands]

-- Where the machine comes back to is what the boot check finds, if it stands.
theorem recoverySlot_stands {slot : Slot} {tree : Tree} (switching : w.view.switching) (home : w.view.home = some (.slot slot))
    (dirs : w.view.dirs slot.name = some tree) :
    recoverySlot (w.view.value "status") (w.view.value "reason") (w.view.value "slot") w = .ok slot := by
  have stands : (w.dirs slot.name).isSome = true := by
    rw [show w.dirs slot.name = some tree from dirs]
    rfl
  unfold View.home at home
  rw [if_pos switching] at home
  unfold recoverySlot
  split
  · rename_i manual
    rw [if_pos manual,Option.map_eq_some_iff] at home
    obtain ⟨target,named,same⟩ := home
    obtain rfl := Place.slot.inj same
    rw [named]
    exact if_pos stands
  · rename_i other
    rw [if_neg other] at home
    unfold previousSlotPath
    rw [show w.previous = some (.slot slot) from home,managedSlot,if_pos stands]

theorem tree_eq {slot : Slot} {tree : Tree} (dirs : w.view.dirs slot.name = some tree) : w.tree slot = tree := by
  unfold Board.tree
  rw [show w.dirs slot.name = some tree from dirs,Option.getD_some]

theorem installed_library (installed : w.installed = true) :
    orDie ((w.rootTools "ota-lib.sh").isSome || (w.rootTools "reactor-edge-ota-lib.sh").isSome) "missing ota-lib.sh" = .ok () := by
  unfold Board.installed at installed
  obtain ⟨tools,_⟩ := Bool.and_eq_true_iff.mp installed
  have library := List.all_eq_true.mp tools "ota-lib.sh" (by simp [otaTools])
  rw [orDie_ok,Bool.or_eq_true]
  cases file : w.rootTools "ota-lib.sh" with
  | none => simp [file] at library
  | some file => exact .inl rfl

theorem succeeds_started {t : Script Unit} {Q : Unit → Board → Prop} (installed : w.installed = true) (holds : succeeds t w Q) :
    succeeds (started t) w Q := by
  refine succeeds_look rfl ?_
  rw [if_pos installed]
  exact holds

theorem succeeds_restore (sound : w.view.Sound) (switching : w.view.switching) :
    succeeds (restorePreviousSlotAfterInterruptedOta (.read w)) w fun _ _ => True := by
  obtain ⟨running,tree,current,dirs,valid⟩ := sound.current
  obtain ⟨home,kept,led,stands,complete⟩ := sound.home
  unfold restorePreviousSlotAfterInterruptedOta
  refine succeeds_look (requireCurrent_stands current dirs) (succeeds_look (recoverySlot_stands switching led stands) ?_)
  refine succeeds_look (by rw [tree_eq stands,complete]) (succeeds_bind (succeeds_log rfl) fun _ _ same => ?_)
  refine succeeds_bind (succeeds_units stands complete same) fun _ _ same => ?_
  split
  · refine succeeds_bind (succeeds_compat same) fun _ _ same => succeeds_bind (succeeds_tools home same) fun _ _ _ => ?_
    exact succeeds_write _
  · refine succeeds_bind (succeeds_symlink same fun _ same => congrArg (View.lead home) same) fun _ _ same => ?_
    refine succeeds_bind (succeeds_compat same) fun _ _ same => succeeds_bind (succeeds_tools home same) fun _ _ _ => ?_
    exact succeeds_write _

-- Of a state that a script leaves behind, but for the one that is to stop the machine, the
-- boot check comes to its end.
theorem otaBootCheck_succeeds (installed : w.installed = true) (sound : w.view.Sound)
    (ordinary : w.state = none ∨ w.view.value "status" ∈ settledStatuses ++ stagingStatuses ++ switchingStatuses) :
    succeeds otaBootCheck w fun _ _ => True := by
  have last : ∀ before : Board, succeeds log before fun _ _ => True := fun before => succeeds_command fun _ _ => trivial
  unfold otaBootCheck
  refine succeeds_look (installed_library installed) ?_
  refine succeeds_bind (succeeds_command (Q := fun _ after => w = after) fun _ _ => rfl) ?_
  rintro _ _ rfl
  refine succeeds_look rfl ?_
  rcases ordinary with absent | listed
  · rw [absent]
    exact last _
  cases present : w.state with
  | none => exact last _
  | some text =>
      dsimp only [Option.map_some]
      have status : (Interrupted.read w).status ∈ settledStatuses ++ stagingStatuses ++ switchingStatuses := listed
      have apart : ∀ status ∈ settledStatuses ++ stagingStatuses ++ switchingStatuses, status ≠ "" ∧ status ≠ "failed" := by
        decide
      obtain ⟨named,calm⟩ := apart _ status
      rw [if_neg named,if_neg calm]
      split
      · exact last _
      split
      · obtain ⟨running,tree,current,dirs,valid⟩ := sound.current
        unfold recordInterruptedBeforeSwitch
        refine succeeds_look (requireCurrent_stands current dirs) (succeeds_look (by rw [tree_eq dirs,valid]) ?_)
        exact succeeds_bind (succeeds_log rfl) fun _ _ _ => succeeds_write _
      · rename_i settled staging
        have switching : (Interrupted.read w).status ∈ switchingStatuses := by
          simpa [settled,staging] using status
        rw [if_pos switching]
        refine succeeds_bind (F := fun allowed after => after.view = w.view) ?_ fun allowed checked same => ?_
        · apply succeeds_run
          intro e smooth
          split
          · exact ⟨true,rfl,rfl⟩
          · rw [show e.fails = false from smooth]
            exact ⟨false,rfl,rfl⟩
        · have read : Interrupted.read w = Interrupted.read checked := by
            unfold Interrupted.read Board.stateValue
            rw [show w.state = checked.state from (congrArg View.state same).symm]
          split
          · exact last _
          · rw [read]
            exact succeeds_restore (same ▸ sound) (same ▸ switching)

end Success

section Runs
variable {init w : Board} {before v : View}

theorem Boots.sound (sound : before.Sound) (boots : Boots before v) : v.Sound := by
  have stands : ∀ place, before.Stands place → v.Stands place := by
    rintro place ⟨slot,tree,same,dirs,valid⟩
    exact ⟨slot,tree,same,boots.dirs ▸ dirs,valid⟩
  refine ⟨?_,?_⟩
  · rcases boots.current with same | home
    · exact same ▸ stands _ sound.current
    · exact home ▸ stands _ sound.home
  · exact boots.home ▸ stands _ sound.home

theorem Updated.sound {slot : Slot} {tree : Tree} (valid : validateSlotDir tree = .ok ()) (updated : Updated slot tree v) :
    v.Sound := by
  refine ⟨updated.current,?_⟩
  rcases updated.home with home | ⟨home,status⟩
  · exact ⟨slot,tree,home,updated.dirs,valid⟩
  · have resting : ¬v.switching := by
      rw [View.switching,status]
      decide
    rw [View.home_of_resting resting]
    exact updated.current

theorem Turned.sound {target : Slot} {tree : Tree} (sound : before.Sound) (dirs : before.dirs target.name = some tree)
    (valid : validateSlotDir tree = .ok ()) (turned : Turned target before v) : v.Sound := by
  have target' : v.Stands (some (.slot target)) := ⟨target,tree,rfl,turned.dirs ▸ dirs,valid⟩
  refine ⟨?_,turned.home ▸ target'⟩
  rcases turned.current with same | same
  · obtain ⟨slot,tree,current,dirs,valid⟩ := sound.current
    exact ⟨slot,tree,same.trans current,turned.dirs ▸ dirs,valid⟩
  · exact same ▸ target'

theorem update_sound (request : UpdateRequest) (sound : w.view.Sound) (answers : Nat → Answer) (steps : Nat) :
    ((started (otaUpdate request)).cut answers steps w).view.Sound := by
  obtain ⟨slot,tree,current,dirs,valid⟩ := sound.current
  rcases leads_cut (leads_started (otaUpdate_leads current dirs valid)) answers steps with same | updated
  · exact same ▸ sound
  · exact updated.sound valid

theorem rollback_sound (options : RollbackOptions) (sound : w.view.Sound) (answers : Nat → Answer) (steps : Nat) :
    ((started (otaRollback options)).cut answers steps w).view.Sound := by
  rcases leads_cut (leads_started (otaRollback_leads options w)) answers steps with same | ⟨target,tree,_,dirs,valid,turned⟩
  · exact same ▸ sound
  · exact turned.sound sound dirs valid

theorem script_sound (operation : Operation) (sound : w.view.Sound) (answers : Nat → Answer) (steps : Nat) :
    (operation.script.cut answers steps w).view.Sound := by
  cases operation with
  | update request => exact update_sound request sound answers steps
  | rollback options => exact rollback_sound options sound answers steps
  | bootCheck => exact (leads_cut (leads_started (otaBootCheck_leads w)) answers steps).sound sound

theorem reached_sound (sound : init.view.Sound) (reached : Reached init w) : w.view.Sound := by
  induction reached with
  | start => exact sound
  | script operation answers steps _ ih => exact script_sound operation ih answers steps
  | reboot _ ih => exact ih
  | service running _ ih => exact ih

-- Attempts to start change nothing about where the machine comes to.
theorem booted_boots (booted : Booted init w) : Boots init.view w.view := by
  induction booted with
  | start => exact Boots.refl _
  | again answers steps _ ih => exact ih.trans (leads_cut (leads_started (otaBootCheck_leads _)) answers steps)

theorem booted_unmarked (booted : Booted init w) : w.marker = false := by
  cases booted with
  | start => rfl
  | again => rfl

-- The check that is granted has come to where the machine was to come.
theorem granted_home {last after : Board} {answers : Nat → Answer} (sound : w.view.Sound) (booted : Booted w last)
    (installed : last.installed = true) (granted : (started otaBootCheck).drive answers last = (.ok (),after)) :
    after.view.Sound ∧ after.view.current = w.view.home ∧ after.view.dirs = w.view.dirs ∧ ¬after.view.switching := by
  have checked : leads (fun _ => True) (Boots last.view) (started otaBootCheck) last _ := leads_started (otaBootCheck_leads last)
  obtain ⟨arrived,resting⟩ := leads_drive checked granted installed (booted_unmarked booted)
  have kept : Boots last.view after.view := leads_drive (leads_ends checked) granted
  have whole := (booted_boots booted).trans kept
  exact ⟨whole.sound sound,arrived.trans whole.home,whole.dirs,resting⟩

theorem drive_ok {last : Board} {answers : Nat → Answer} (granted : ((started otaBootCheck).drive answers last).1 = .ok ()) :
    (started otaBootCheck).drive answers last = (.ok (),((started otaBootCheck).drive answers last).2) := Prod.ext granted rfl

theorem smooth_granted {last : Board} {answers : Nat → Answer} (installed : last.installed = true) (sound : last.view.Sound)
    (smooth : ∀ n, (answers n).fails = false)
    (ordinary : last.state = none ∨ last.view.value "status" ∈ settledStatuses ++ stagingStatuses ++ switchingStatuses) :
    ((started otaBootCheck).drive answers last).1 = .ok () := by
  have ended := guarded_drive (succeeds_started installed (otaBootCheck_succeeds installed sound ordinary)) smooth
  cases result : ((started otaBootCheck).drive answers last).1 with
  | ok value => rfl
  | error error =>
      rw [result] at ended
      exact ended.elim

-- A board of two whole releases with their scripts and units installed, and commands that
-- do what they are there for.
def buildMetadata : String := "REACTOR_EDGE_BUILD_SCHEMA=reactor-edge.build.v1\nREACTOR_EDGE_PACKAGE_NAME=edge\nREACTOR_EDGE_GIT_SHA=4f1c\nREACTOR_EDGE_BUILT_AT_UTC=2026\n"

def releaseTree : Tree :=
  ("BUILD-METADATA.properties",.file false buildMetadata) :: requiredExecutables.map (·,.file true "#!/usr/bin/env bash\n") ++
    systemdUnits.map ("deploy/" ++ ·,.file false "[Unit]\n") ++ [("static/index.html",.file false "<!doctype html>\n")]

theorem releaseTree_valid : validateSlotDir releaseTree = .ok () := by decide +kernel

def twoSlots : Board where
  dirs name := if name = "a" ∨ name = "b" then some releaseTree else none
  current := some (.slot .a)
  previous := some (.slot .b)
  state := none
  stateTmp := none
  rootTools name := if name ∈ otaTools then some ⟨"#!/usr/bin/env bash\n",true⟩ else none
  units name := if name ∈ systemdUnits then some ⟨"[Unit]\n",true⟩ else none
  compat _ := .absent
  marker := false
  backend := true

theorem twoSlots_sound : twoSlots.view.Sound :=
  ⟨⟨.a,releaseTree,rfl,rfl,releaseTree_valid⟩,.a,releaseTree,rfl,rfl,releaseTree_valid⟩

def idleStatus : Document := .object [("data",.object [("devices",.array [.object [("status",.string "idle"),("online",.bool true)]])])]

def obedient : Answer where
  fails := false
  kept _ := false
  count := 0
  stops := none
  date := "2026-01-01T00:00:00Z"
  availableKb := some 10000000
  databaseExists := true
  legacyBackup := true
  identified := true
  fresh := true
  healthy := true
  restarts := false
  status := ⟨true,true,some idleStatus⟩

def maintenanceRollback : RollbackOptions := {force := true,confirmMaintenanceWindow := true}

def plainUpdate : UpdateRequest where
  package := ⟨"release.tar.gz",1000,"",some ("reactor-edge/" :: releaseTree.map fun entry => "reactor-edge/" ++ entry.1),
    some ("drwxr-xr-x" :: releaseTree.map fun _ => "-rwxr-xr-x"),releaseTree.inside "reactor-edge"⟩
  path := "/tmp/release.tar.gz"
  sidecar := none
  allowMissingChecksum := true
  confirmUnsafeNoChecksum := true
  force := true
  confirmMaintenanceWindow := true
  pid := 7

-- A rollback that is cut once it has switched, before the new slot is started.
def halfRolled : Board := (started (otaRollback maintenanceRollback)).cut (fun _ => obedient) 60 twoSlots

theorem halfRolled_stopped : halfRolled.reboot.installed = true ∧ halfRolled.reboot.view.value "status" = "rolling_back" := by
  decide +kernel

theorem halfRolled_ordinary : halfRolled.reboot.view.value "status" ∈ settledStatuses ++ stagingStatuses ++ switchingStatuses := by
  rw [halfRolled_stopped.2]
  decide

-- Whatever scripts have run, and wherever each of them was cut: the machine can be started,
-- attempts to start that are cut in turn change nothing about where it comes to, and the one
-- that is granted from whole scripts has come there. It is granted where no command fails,
-- unless the state file is to stop the machine.
theorem recovery_from_any_cut {last after : Board} (sound : init.view.Sound) (reached : Reached init w) (booted : Booted w last)
    (answers : Nat → Answer) :
    last.view.Sound ∧ last.view.dirs = w.view.dirs ∧ last.view.home = w.view.home ∧
    (last.installed = true → (started otaBootCheck).drive answers last = (.ok (),after) →
      after.view.Sound ∧ after.view.current = w.view.home ∧ after.view.dirs = w.view.dirs ∧ ¬after.view.switching) ∧
    (last.installed = true → (∀ n, (answers n).fails = false) →
      last.state = none ∨ last.view.value "status" ∈ settledStatuses ++ stagingStatuses ++ switchingStatuses →
      ((started otaBootCheck).drive answers last).1 = .ok ()) := by
  have boots := booted_boots booted
  have standing := reached_sound sound reached
  have standing' := boots.sound standing
  exact ⟨standing',boots.dirs,boots.home,granted_home standing booted,fun installed => smooth_granted installed standing'⟩

theorem recovery_of_half_rolled : ((started otaBootCheck).drive (fun _ => obedient) halfRolled.reboot).1 = .ok () := by
  have reached : Reached twoSlots halfRolled := .script (.rollback maintenanceRollback) (fun _ => obedient) 60 .start
  obtain ⟨_,_,_,_,granted⟩ := @recovery_from_any_cut _ _ _ halfRolled twoSlots_sound reached .start fun _ => obedient
  exact granted halfRolled_stopped.1 (fun _ => rfl) (.inr halfRolled_ordinary)

-- Wherever an update is cut: the slot that ran before is as it was, and the boot check that
-- is granted from whole scripts comes back to it, unless the update has written that the new
-- slot is committed.
theorem update_interrupted {slot : Slot} {tree : Tree} {last after : Board} (request : UpdateRequest)
    (current : w.view.current = some (.slot slot)) (dirs : w.view.dirs slot.name = some tree)
    (valid : validateSlotDir tree = .ok ()) (resting : ¬w.view.switching) (updating answers : Nat → Answer) (steps : Nat)
    (booted : Booted ((started (otaUpdate request)).cut updating steps w) last) (installed : last.installed = true)
    (granted : (started otaBootCheck).drive answers last = (.ok (),after)) :
    after.view.dirs slot.name = some tree ∧ after.view.Stands after.view.current ∧
    (after.view.current = some (.slot slot) ∨ after.view.current = some (.slot slot.other) ∧
      ((started (otaUpdate request)).cut updating steps w).view.value "status" = "committed") := by
  have leads : leads (fun _ => True) (fun v => v = w.view ∨ Updated slot tree v) (started (otaUpdate request)) w fun _ _ => _ :=
    leads_started (otaUpdate_leads current dirs valid)
  have led := leads_cut leads updating steps
  generalize (started (otaUpdate request)).cut updating steps w = stopped at *
  have updated : Updated slot tree stopped.view := by
    cases led with
    | inl nothing => exact nothing ▸ Untouched.updated valid ⟨current,dirs,resting⟩
    | inr updated => exact updated
  obtain ⟨kept,arrived,same,_⟩ := granted_home (updated.sound valid) booted installed granted
  refine ⟨(congrFun same _).trans updated.dirs,kept.current,?_⟩
  cases updated.home with
  | inl home => exact .inl (arrived.trans home)
  | inr committed => exact .inr ⟨arrived.trans committed.1,committed.2⟩

-- An update that is cut while the new slot is watched.
def halfUpdated : Board := (started (otaUpdate plainUpdate)).cut (fun _ => obedient) 150 twoSlots

theorem halfUpdated_stopped : halfUpdated.reboot.installed = true ∧ halfUpdated.reboot.current = some (.slot .b) ∧
    halfUpdated.reboot.view.value "status" = "health_checking" := by
  decide +kernel

theorem halfUpdated_ordinary : halfUpdated.reboot.view.value "status" ∈ settledStatuses ++ stagingStatuses ++ switchingStatuses := by
  rw [halfUpdated_stopped.2.2]
  decide

theorem update_interrupted_watched :
    let after := ((started otaBootCheck).drive (fun _ => obedient) halfUpdated.reboot).2
    after.view.dirs Slot.a.name = some releaseTree ∧ after.view.Stands after.view.current ∧
    (after.view.current = some (.slot .a) ∨ after.view.current = some (.slot Slot.a.other) ∧ halfUpdated.view.value "status" = "committed") := by
  have standing : halfUpdated.view.Sound := update_sound plainUpdate twoSlots_sound (fun _ => obedient) 150
  have resting : ¬twoSlots.view.switching := by decide
  have granted := drive_ok (smooth_granted halfUpdated_stopped.1 (Board.reboot_sound standing) (fun _ => (rfl : obedient.fails = false))
    (.inr halfUpdated_ordinary))
  have booted : Booted halfUpdated halfUpdated.reboot := .start
  have current : twoSlots.view.current = some (.slot .a) := rfl
  have dirs : twoSlots.view.dirs Slot.a.name = some releaseTree := rfl
  exact update_interrupted plainUpdate current dirs releaseTree_valid resting (fun _ => obedient) (fun _ => obedient) 150 booted
    halfUpdated_stopped.1 granted

-- Wherever a rollback is cut: no slot has changed, and the boot check that is granted from
-- whole scripts comes to where the machine was to come, or to the slot that the rollback was
-- for.
theorem rollback_interrupted {last after : Board} (options : RollbackOptions) (sound : w.view.Sound)
    (rolling answers : Nat → Answer) (steps : Nat) (booted : Booted ((started (otaRollback options)).cut rolling steps w) last)
    (installed : last.installed = true) (granted : (started otaBootCheck).drive answers last = (.ok (),after)) :
    after.view.dirs = w.view.dirs ∧ after.view.Stands after.view.current ∧
    (after.view.current = w.view.home ∨ after.view.current = w.view.previous) := by
  have led := leads_cut (leads_started (otaRollback_leads options w)) rolling steps
  have standing : ((started (otaRollback options)).cut rolling steps w).view.Sound := rollback_sound options sound rolling steps
  generalize (started (otaRollback options)).cut rolling steps w = stopped at *
  obtain ⟨kept,arrived,same,_⟩ := granted_home standing booted installed granted
  cases led with
  | inl nothing => exact ⟨same.trans (congrArg View.dirs nothing),kept.current,.inl (arrived.trans (congrArg View.home nothing))⟩
  | inr turned =>
      obtain ⟨target,tree,previous,_,_,turned⟩ := turned
      exact ⟨same.trans turned.dirs,kept.current,.inr ((arrived.trans turned.home).trans previous.symm)⟩

theorem rollback_interrupted_halfway :
    let after := ((started otaBootCheck).drive (fun _ => obedient) halfRolled.reboot).2
    after.view.dirs = twoSlots.view.dirs ∧ after.view.Stands after.view.current ∧
    (after.view.current = twoSlots.view.home ∨ after.view.current = some (.slot .b)) := by
  have standing : halfRolled.view.Sound := rollback_sound maintenanceRollback twoSlots_sound (fun _ => obedient) 60
  have granted := drive_ok (smooth_granted halfRolled_stopped.1 (Board.reboot_sound standing) (fun _ => (rfl : obedient.fails = false))
    (.inr halfRolled_ordinary))
  exact rollback_interrupted maintenanceRollback twoSlots_sound (fun _ => obedient) (fun _ => obedient) 60 .start
    halfRolled_stopped.1 granted

end Runs
end ReactorOS.Ota
