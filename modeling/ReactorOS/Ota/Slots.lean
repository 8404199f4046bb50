import ReactorOS.Ota.Scripts
namespace ReactorOS.Ota
open Concurrency Task Wire

-- The part of the board that decides which slot is started, now and after a recovery.
structure View where
  dirs : String → Option Tree
  current : Option Place
  previous : Option Place
  state : Option String

def Board.view (w : Board) : View := ⟨w.dirs,w.current,w.previous,w.state⟩

namespace View

def value (v : View) (key : String) : String := v.state.elim "" (jsonStateValue key)

def switching (v : View) : Prop := v.value "status" ∈ switchingStatuses

instance (v : View) : Decidable v.switching := inferInstanceAs (Decidable (_ ∈ switchingStatuses))

-- The slot that a boot check comes back to, whatever it was that was cut before.
def home (v : View) : Option Place :=
  if v.switching then
    if interruptedRollback (v.value "status") (v.value "reason") (v.value "slot") then
      (managedSlotName (v.value "slot")).map .slot
    else v.previous
  else v.current

-- The place is a slot that can be started.
def Stands (v : View) (place : Option Place) : Prop :=
  ∃ slot tree, place = some (.slot slot) ∧ v.dirs slot.name = some tree ∧ validateSlotDir tree = .ok ()

-- The machine can be started as it is, and so it can after a recovery.
structure Sound (v : View) : Prop where
  current : v.Stands v.current
  home : v.Stands v.home

def write (state : OtaState) (date : String) (v : View) : View :=
  {v with state := some (stateText {state with updatedAt := date})}

-- The links, led elsewhere.
def lead (slot : Slot) (v : View) : View := {v with current := some (.slot slot)}

def remember (slot : Slot) (v : View) : View := {v with previous := some (.slot slot)}

@[simp] theorem write_dirs (state : OtaState) (date : String) (v : View) : (v.write state date).dirs = v.dirs := rfl
@[simp] theorem write_current (state : OtaState) (date : String) (v : View) : (v.write state date).current = v.current := rfl
@[simp] theorem write_previous (state : OtaState) (date : String) (v : View) : (v.write state date).previous = v.previous := rfl

theorem home_of_resting {v : View} (resting : ¬v.switching) : v.home = v.current := if_neg resting

-- During a recovery the current slot has no say in where it leads.
theorem home_lead {v : View} (switching : v.switching) (slot : Slot) : (v.lead slot).home = v.home := by
  have same : ∀ key, (v.lead slot).value key = v.value key := fun _ => rfl
  have still : (v.lead slot).switching := switching
  rw [home,home,if_pos still,if_pos switching,same,same,same]
  rfl

end View

section Values
variable {state : OtaState} {date : String} {v : View}

-- The states that ask for no recovery.
def restingStatuses : List String := "failed" :: settledStatuses ++ stagingStatuses

def knownStatuses : List String := restingStatuses ++ switchingStatuses

theorem resting_apart {status : String} (resting : status ∈ restingStatuses) : status ∉ switchingStatuses := by
  have every : ∀ status ∈ restingStatuses, status ∉ switchingStatuses := by decide
  exact every status resting

theorem known_plain {status : String} (known : status ∈ knownStatuses) : readBack status = status ∧ ¬Echoes "slot" status ∧
    ¬Echoes "reason" status := by
  have every : ∀ status ∈ knownStatuses, readBack status = status ∧ ¬Echoes "slot" status ∧ ¬Echoes "reason" status := by
    decide
  exact every status known

theorem value_write (key : String) :
    (v.write state date).value key = jsonStateValue key (stateText {state with updatedAt := date}) := by
  simp only [View.value,View.write,Option.elim_some]

theorem value_status (known : state.status ∈ knownStatuses) : (v.write state date).value "status" = state.status := by
  have read := @state_file_read {state with updatedAt := date} "status" (by simp [OtaState.fields])
  rw [OtaState.fields,List.find?_cons_of_pos (by simp),Option.map_some,Option.some_inj] at read
  rw [value_write,← read]
  exact (known_plain known).1

theorem value_slot (known : state.status ∈ knownStatuses) : (v.write state date).value "slot" = readBack state.slot := by
  have read := @state_file_read {state with updatedAt := date} "slot" (by simp [OtaState.fields])
  rw [OtaState.fields,List.find?_cons_of_neg (by simpa using (known_plain known).2.1),
    List.find?_cons_of_pos (by simp),Option.map_some,Option.some_inj] at read
  rw [value_write,← read]

theorem value_reason (known : state.status ∈ knownStatuses) (slot : ¬Echoes "reason" state.slot) :
    (v.write state date).value "reason" = readBack state.reason := by
  have read := @state_file_read {state with updatedAt := date} "reason" (by simp [OtaState.fields])
  rw [OtaState.fields,List.find?_cons_of_neg (by simpa using (known_plain known).2.2),
    List.find?_cons_of_neg (by simpa using slot),List.find?_cons_of_pos (by simp),Option.map_some,Option.some_inj] at read
  rw [value_write,← read]

theorem write_resting (resting : state.status ∈ restingStatuses) : ¬(v.write state date).switching := by
  rw [View.switching,value_status (List.mem_append_left _ resting)]
  exact resting_apart resting

-- Behind a text that asks for no recovery the machine starts what is current.
theorem home_resting (resting : state.status ∈ restingStatuses) : (v.write state date).home = v.current :=
  View.home_of_resting (write_resting resting)

theorem home_switching (switching : state.status ∈ switchingStatuses) (slot : Slot) (named : state.slot = slot.name)
    (other : readBack state.reason ≠ "manual rollback") : (v.write state date).home = v.previous := by
  have known : state.status ∈ knownStatuses := List.mem_append_right _ switching
  have plain : ¬Echoes "reason" state.slot := by
    rw [named]
    cases slot <;> decide
  unfold View.home
  rw [if_pos (by rwa [View.switching,value_status known]),if_neg]
  · rfl
  · rw [interruptedRollback,value_reason known plain]
    simp [other]

theorem home_rollback (status : state.status = "rolling_back") (slot : Slot) (named : state.slot = slot.name)
    (reason : state.reason = "manual rollback") : (v.write state date).home = some (.slot slot) := by
  have known : state.status ∈ knownStatuses := status ▸ by decide
  have plain : ¬Echoes "reason" state.slot := by
    rw [named]
    cases slot <;> decide
  have read : readBack state.slot = slot.name := by
    rw [named]
    cases slot <;> decide
  have back : readBack state.reason = "manual rollback" := by
    rw [reason]
    decide
  have found : managedSlotName slot.name = some slot := by cases slot <;> decide
  have nonempty : (slot.name != "") = true := by cases slot <;> decide
  unfold View.home
  rw [if_pos (by rw [View.switching,value_status known,status]; decide),value_status known,value_reason known plain,
    value_slot known,read,back,status,if_pos (by simp [interruptedRollback,nonempty]),found,Option.map_some]

end Values

-- Every step of the script keeps to a relation between the boards around it.
def keepsTo {α : Type} (R : Board → Board → Prop) (t : Script α) : Prop := t.each fun moment => R moment.before moment.after

-- The other slot apart, all that decides stays as it is.
structure Around (slot : Slot) (a b : Board) : Prop where
  current : b.current = a.current
  previous : b.previous = a.previous
  state : b.state = a.state
  dirs : b.dirs slot.name = a.dirs slot.name

def Steady (a b : Board) : Prop := b.view = a.view

-- Everything that decides stays as it is, but for directories that are no slots.
structure Aside (a b : Board) : Prop where
  current : b.current = a.current
  previous : b.previous = a.previous
  state : b.state = a.state
  slots : ∀ slot : Slot, b.dirs slot.name = a.dirs slot.name

section Rules
variable {α β : Type} {R S : Board → Board → Prop} {t : Script α} {k : α → Script β} {slot : Slot}

theorem Steady.refl (a : Board) : Steady a a := rfl
theorem Steady.trans {a b c : Board} (one : Steady a b) (two : Steady b c) : Steady a c := Eq.trans two one

theorem Around.refl (a : Board) : Around slot a a := ⟨rfl,rfl,rfl,rfl⟩
theorem Around.trans {a b c : Board} (one : Around slot a b) (two : Around slot b c) : Around slot a c :=
  ⟨two.current.trans one.current,two.previous.trans one.previous,two.state.trans one.state,two.dirs.trans one.dirs⟩

theorem Steady.around {a b : Board} (same : Steady a b) : Around slot a b :=
  ⟨congrArg View.current same,congrArg View.previous same,congrArg View.state same,
    congrFun (congrArg View.dirs same) slot.name⟩

theorem Aside.refl (a : Board) : Aside a a := ⟨rfl,rfl,rfl,fun _ => rfl⟩
theorem Aside.trans {a b c : Board} (one : Aside a b) (two : Aside b c) : Aside a c :=
  ⟨two.current.trans one.current,two.previous.trans one.previous,two.state.trans one.state,
    fun slot => (two.slots slot).trans (one.slots slot)⟩

theorem Aside.around {a b : Board} (aside : Aside a b) : Around slot a b :=
  ⟨aside.current,aside.previous,aside.state,aside.slots slot⟩

theorem Steady.aside {a b : Board} (same : Steady a b) : Aside a b :=
  ⟨congrArg View.current same,congrArg View.previous same,congrArg View.state same,
    fun slot => congrFun (congrArg View.dirs same) slot.name⟩

-- A directory that is no slot.
theorem aside_setDir {name : String} (apart : ∀ slot : Slot, slot.name ≠ name) (w : Board) (tree : Option Tree) :
    Aside w (w.setDir name tree) := ⟨rfl,rfl,rfl,fun slot => if_neg (apart slot)⟩

theorem around_setDir {name : String} (apart : slot.name ≠ name) (w : Board) (tree : Option Tree) :
    Around slot w (w.setDir name tree) := ⟨rfl,rfl,rfl,if_neg apart⟩

theorem keepsTo_mono (wider : ∀ a b, R a b → S a b) (kept : keepsTo R t) : keepsTo S t :=
  behaves_mono (fun _ _ every moment member => wider _ _ (every moment member)) kept

theorem keepsTo_run {step : Answer → Board → Except String α × Board} (kept : ∀ e w, R w (step e w).2) :
    keepsTo R (run step) := each_section kept

theorem keepsTo_bind (first : keepsTo R t) (rest : ∀ value, keepsTo R (k value)) : keepsTo R (t >>= k) := each_bind first rest

theorem keepsTo_done (result : Except String α) : keepsTo R (.done result : Script α) := each_done _ result

theorem keepsTo_forM {items : List β} {part : β → Script Unit} (kept : ∀ item, keepsTo R (part item)) :
    keepsTo R (items.forM part) := by
  induction items with
  | nil => exact keepsTo_done _
  | cons item items ih => exact keepsTo_bind (kept item) fun _ => ih

theorem keepsTo_effect (refl : ∀ a, R a a) {effect : Board → Board} (kept : ∀ w, R w (effect w)) (fails : Bool) (w : Board) :
    R w (if fails then w else effect w) := by
  cases fails
  · exact kept w
  · exact refl w

theorem keepsTo_command (refl : ∀ a, R a a) {effect : Answer → Board → Board} (kept : ∀ e w, R w (effect e w)) :
    keepsTo R (command effect) := by
  apply keepsTo_run
  intro e w
  cases e.fails
  · exact kept e w
  · exact refl w

theorem keepsTo_tolerated (refl : ∀ a, R a a) {effect : Board → Board} (kept : ∀ w, R w (effect w)) :
    keepsTo R (tolerated effect) := keepsTo_run fun e w => keepsTo_effect refl kept e.fails w

theorem keepsTo_tried (refl : ∀ a, R a a) {effect : Board → Board} (kept : ∀ w, R w (effect w)) :
    keepsTo R (tried effect) := by
  apply keepsTo_run
  intro e w
  cases e.fails
  · exact kept w
  · exact refl w

theorem keepsTo_look (refl : ∀ a, R a a) (read : Board → Except String α) : keepsTo R (look read) :=
  keepsTo_run fun _ w => refl w

theorem keepsTo_ask (refl : ∀ a, R a a) (read : Answer → Except String α) : keepsTo R (ask read) :=
  keepsTo_run fun _ w => refl w

-- A part that only does what changes nothing that decides.
theorem steady_log : keepsTo Steady log := keepsTo_command Steady.refl fun _ _ => rfl

theorem steady_flush : keepsTo Steady flushOtaDisk :=
  keepsTo_bind steady_log fun _ => keepsTo_command Steady.refl fun _ _ => rfl

theorem steady_install (set : Option Installed → Board → Board) (kept : ∀ file w, Steady w (set file w)) (text : String) :
    keepsTo Steady (install set text) := by
  apply keepsTo_bind
  · apply keepsTo_run
    intro e w
    cases e.fails
    · exact kept _ w
    · rfl
  · exact fun _ => keepsTo_command Steady.refl fun _ w => kept _ w

theorem steady_tools (slot : Slot) : keepsTo Steady (installRootOtaToolsFromSlot slot) := by
  refine keepsTo_bind (keepsTo_forM fun script => keepsTo_bind (keepsTo_look Steady.refl _) fun text => ?_)
    fun _ => steady_flush
  cases text with
  | none => exact keepsTo_done _
  | some text =>
      exact steady_install (fun file w => w.setTool script file) (fun _ _ => rfl) text

theorem steady_units (slot : Slot) : keepsTo Steady (installSystemdUnitsFromSlot slot) := by
  refine keepsTo_bind (keepsTo_look Steady.refl _) fun _ => keepsTo_bind (keepsTo_command Steady.refl fun _ _ => rfl) fun _ =>
    keepsTo_bind (keepsTo_forM fun unit => keepsTo_bind (keepsTo_look Steady.refl _) fun text => ?_) fun _ => steady_flush
  cases text with
  | none => exact keepsTo_done _
  | some text =>
      exact steady_install (fun file w => w.setUnit unit file) (fun _ _ => rfl) text

theorem steady_replace (name target : String) : keepsTo Steady (replaceWithLinkPreservingExisting name target) := by
  have set : ∀ standing, keepsTo Steady (command fun _ w => w.setCompat name standing) := fun standing =>
    keepsTo_command Steady.refl fun _ _ => rfl
  refine keepsTo_bind (keepsTo_look Steady.refl _) fun standing => keepsTo_bind ?_ fun _ => set _
  cases standing with
  | absent => exact keepsTo_done _
  | link other => exact set _
  | other =>
      exact keepsTo_bind (keepsTo_command Steady.refl fun _ _ => rfl) fun _ => keepsTo_bind (set _) fun _ => steady_log

theorem steady_compat : keepsTo Steady syncCompatLinks := by
  refine keepsTo_bind (keepsTo_look Steady.refl _) fun linked => ?_
  cases linked with
  | false => exact keepsTo_done _
  | true => exact keepsTo_bind (keepsTo_forM fun link => steady_replace link.1 link.2) fun _ => steady_flush

theorem steady_stop : keepsTo Steady stopRuntimeServices :=
  keepsTo_bind (keepsTo_tolerated Steady.refl fun _ => rfl) fun _ => keepsTo_tolerated Steady.refl fun _ => rfl

theorem steady_clear : keepsTo Steady clearOtaServiceStartAllowed := keepsTo_command Steady.refl fun _ _ => rfl

-- The removal of a directory, by what each change of it keeps to.
theorem keepsTo_removeAnyway (refl : ∀ a, R a a) {name : String} (set : ∀ w tree, R w (w.setDir name tree)) :
    keepsTo R (removeTreeAnyway name) :=
  keepsTo_bind (keepsTo_run fun _ w => set w _) fun _ => keepsTo_tolerated refl fun w => set w _

theorem keepsTo_remove (refl : ∀ a, R a a) {name : String} (set : ∀ w tree, R w (w.setDir name tree)) :
    keepsTo R (removeTree name) :=
  keepsTo_bind (keepsTo_run fun _ w => set w _) fun _ => keepsTo_command refl fun _ w => set w _

theorem keepsTo_extract (refl : ∀ a, R a a) {name : String} (set : ∀ w tree, R w (w.setDir name tree)) (package : ReleasePackage) :
    keepsTo R (extractPackage package name) :=
  keepsTo_bind (keepsTo_command refl fun _ w => set w _) fun _ => keepsTo_bind (keepsTo_run fun _ w => set w _) fun _ =>
    keepsTo_bind (keepsTo_command refl fun _ w => set w _) fun _ => keepsTo_look refl _

theorem aside_log : keepsTo Aside log := keepsTo_mono (fun _ _ => Steady.aside) steady_log

theorem aside_flush : keepsTo Aside flushOtaDisk := keepsTo_mono (fun _ _ => Steady.aside) steady_flush

theorem aside_stage {extractDir stageDir : String} (extract : ∀ slot : Slot, slot.name ≠ extractDir)
    (stage : ∀ slot : Slot, slot.name ≠ stageDir) (package : ReleasePackage) :
    keepsTo Aside (extractReleaseCandidateToStage package extractDir stageDir) := by
  refine keepsTo_bind (keepsTo_extract Aside.refl (aside_setDir extract) package) fun extracted => ?_
  refine keepsTo_bind (keepsTo_done _) fun candidate => ?_
  refine keepsTo_bind (keepsTo_done _) fun _ => keepsTo_bind (keepsTo_done _) fun _ => ?_
  refine keepsTo_bind (keepsTo_command Aside.refl fun _ w => ?_) fun _ => ?_
  · exact (aside_setDir extract w _).trans (aside_setDir stage _ _)
  refine keepsTo_bind (keepsTo_remove Aside.refl (aside_setDir extract)) fun _ => ?_
  exact keepsTo_bind (keepsTo_look Aside.refl _) fun _ => keepsTo_bind (keepsTo_look Aside.refl _) fun _ => aside_flush

-- No slot has a name in which more than a letter stands.
theorem slot_apart {front middle back : String} (long : 2 ≤ middle.length) (slot : Slot) : slot.name ≠ front ++ middle ++ back := by
  intro same
  have length := congrArg String.length same
  have letter : slot.name.length = 1 := by cases slot <;> rfl
  rw [letter,String.length_append,String.length_append] at length
  omega

theorem metadataDir_apart (target : Slot) (pid : Nat) (slot : Slot) : slot.name ≠ metadataDir target pid :=
  slot_apart (by decide) slot

theorem dryRunDirs_apart (target : Slot) (pid : Nat) : ∀ name ∈ [(dryRunDirs target pid).1,(dryRunDirs target pid).2],
    ∀ slot : Slot, slot.name ≠ name := by
  exact List.forall_mem_cons.mpr ⟨slot_apart (by decide),List.forall_mem_singleton.mpr (slot_apart (by decide))⟩

theorem stageDirs_apart (target : Slot) (pid : Nat) : ∀ name ∈ [(stageDirs target pid).1,(stageDirs target pid).2],
    ∀ slot : Slot, slot.name ≠ name := by
  exact List.forall_mem_cons.mpr ⟨slot_apart (by decide),List.forall_mem_singleton.mpr (slot_apart (by decide))⟩

theorem aside_metadata (request : UpdateRequest) (target : Slot) : keepsTo Aside (readReleaseMetadataFromPackage request target) := by
  have set := aside_setDir (metadataDir_apart target request.pid)
  refine keepsTo_bind (keepsTo_removeAnyway Aside.refl set) fun _ => ?_
  refine keepsTo_bind (keepsTo_extract Aside.refl set _) fun extracted => keepsTo_bind (keepsTo_done _) fun candidate => ?_
  refine keepsTo_bind (keepsTo_done _) fun _ => keepsTo_bind (keepsTo_remove Aside.refl set) fun _ => ?_
  exact keepsTo_bind aside_log fun _ => keepsTo_done _

theorem aside_dryRun (request : UpdateRequest) (target : Slot) :
    keepsTo Aside (dryRunReleaseCandidateValidation request target) := by
  have extract := dryRunDirs_apart target request.pid _ List.mem_cons_self
  have stage := dryRunDirs_apart target request.pid _ (List.mem_cons_of_mem _ List.mem_cons_self)
  refine keepsTo_bind (keepsTo_removeAnyway Aside.refl (aside_setDir extract)) fun _ => ?_
  refine keepsTo_bind (keepsTo_removeAnyway Aside.refl (aside_setDir stage)) fun _ => ?_
  refine keepsTo_bind (aside_stage extract stage _) fun _ => ?_
  exact keepsTo_bind (keepsTo_remove Aside.refl (aside_setDir stage)) fun _ => aside_log

end Rules
end ReactorOS.Ota
