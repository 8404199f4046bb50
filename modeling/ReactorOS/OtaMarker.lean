import ReactorOS.Wire.Shell
namespace ReactorOS
open Wire

-- What the kernel tells of a process. `fields` are those from pgrp to itrealvalue.
structure Process where
  comm : String
  state : Char
  ppid : Nat
  fields : List Int
  starttime : Nat
  rest : List Int
  letter : state.isAlpha = true
  seventeen : fields.length = 17

def Process.statFields (process : Process) : List String :=
  String.singleton process.state :: toString process.ppid ::
    (process.fields.map toString ++ toString process.starttime :: process.rest.map toString)

-- The line of /proc/<pid>/stat. The name of the command may hold blanks and parentheses.
def Process.statLine (process : Process) (pid : Nat) : String :=
  toString pid ++ " (" ++ process.comm ++ ") " ++ join ' ' process.statFields ++ "\n"

structure Marker where
  text : String
  mtime : Int

-- `clock` is the wall clock in seconds, `ticks` the clock since boot. `owner` is who has
-- written the marker, as it was at that time; no script reads it.
structure Machine where
  processes : List (Nat × Process)
  ticks : Nat
  clock : Int
  marker : Option Marker
  owner : Option (Nat × Process)

namespace Machine

def lookup (machine : Machine) (pid : Nat) : Option Process :=
  (machine.processes.find? fun entry => entry.1 == pid).map (·.2)

def readStat (machine : Machine) (pid : String) : Option String :=
  (machine.processes.find? fun entry => toString entry.1 == pid).map fun entry => entry.2.statLine entry.1

def processStartTicks (machine : Machine) (pid : String) : Option String := do
  guard (digits pid)
  let statLine := captured (← machine.readStat pid)
  let rest := withoutPrefix ") " statLine
  let args := fieldWords rest
  guard (digits (positional args 20))
  return String.ofList (expandQuoted args "$20".toList)

def markerText (pid : Nat) (pidStartTicks created : String) : String :=
  s!"ota_pid={pid}\nota_pid_start_ticks={pidStartTicks}\ncreated_at={created}\n"

-- The script dies where its own identity is unavailable.
def markOtaServiceStartAllowed (machine : Machine) (pid : Nat) (created : String) : Machine :=
  match machine.processStartTicks (toString pid),machine.lookup pid with
  | some pidStartTicks,some process =>
      {machine with marker := some ⟨markerText pid pidStartTicks created,machine.clock⟩,owner := some (pid,process)}
  | _,_ => machine

def clearOtaServiceStartAllowed (machine : Machine) : Machine := {machine with marker := none}

-- The verdict, and the machine with the marker as it is left behind.
def otaServiceStartAllowed (ttl : Int) (machine : Machine) : Bool × Machine :=
  match machine.marker with
  | none => (false,machine)
  | some marker =>
      if digits (toString machine.clock) && digits (toString marker.mtime) && machine.clock-marker.mtime ≤ ttl then
        let markerPid := (lineValue "ota_pid" marker.text).getD ""
        let markerStart := (lineValue "ota_pid_start_ticks" marker.text).getD ""
        if digits markerPid && digits markerStart && (machine.processStartTicks markerPid).getD "" == markerStart then
          (true,machine)
        else (false,machine.clearOtaServiceStartAllowed)
      else (false,machine.clearOtaServiceStartAllowed)

end Machine

inductive MachineEvent where
  | boot
  | spawn (pid : Nat) (process : Process)
  -- The children go to the process that reaps orphans.
  | exit (pid reaper : Nat)
  | change (pid : Nat) (process : Process)
  | tick (count : Nat)
  | setClock (time : Int)
  | mark (pid : Nat) (created : String)
  | clear
  | check

namespace Machine

def Allowed (machine : Machine) : MachineEvent → Prop
  | .spawn pid process => machine.lookup pid = none ∧ process.starttime = machine.ticks
  | .change pid process => ∃ before, machine.lookup pid = some before ∧ process.ppid = before.ppid ∧
      process.starttime = before.starttime
  | .mark pid _ => (machine.lookup pid).isSome
  | _ => True

def adopt (pid reaper : Nat) (process : Process) : Process :=
  if process.ppid = pid then {process with ppid := reaper} else process

def exit (pid reaper : Nat) (processes : List (Nat × Process)) : List (Nat × Process) :=
  (processes.filter fun entry => entry.1 != pid).map fun entry => (entry.1,adopt pid reaper entry.2)

def replace (pid : Nat) (process : Process) (processes : List (Nat × Process)) : List (Nat × Process) :=
  processes.map fun entry => if entry.1 = pid then (pid,process) else entry

def apply (ttl : Int) (machine : Machine) : MachineEvent → Machine
  | .boot => {machine with processes := [],ticks := 0}
  | .spawn pid process => {machine with processes := (pid,process) :: machine.processes}
  | .exit pid reaper => {machine with processes := exit pid reaper machine.processes}
  | .change pid process => {machine with processes := replace pid process machine.processes}
  | .tick count => {machine with ticks := machine.ticks+count}
  | .setClock time => {machine with clock := time}
  | .mark pid created => machine.markOtaServiceStartAllowed pid created
  | .clear => machine.clearOtaServiceStartAllowed
  | .check => (machine.otaServiceStartAllowed ttl).2

-- The machines that a history of events leads to.
inductive Reached (ttl : Int) : Machine → Prop where
  | initial (clock : Int) : Reached ttl ⟨[],0,clock,none,none⟩
  | step {machine : Machine} {event : MachineEvent} : Reached ttl machine → machine.Allowed event →
      Reached ttl (machine.apply ttl event)

-- The process that has written the marker is still running, and the marker is fresh.
def OwnerActive (ttl : Int) (machine : Machine) : Prop :=
  ∃ marker pid writer process, machine.marker = some marker ∧ machine.owner = some (pid,writer) ∧
    machine.clock-marker.mtime ≤ ttl ∧ machine.lookup pid = some process ∧ process.starttime = writer.starttime

def IdentifiesOwner (ttl : Int) (machine : Machine) : Prop :=
  ((machine.otaServiceStartAllowed ttl).1 = true → machine.OwnerActive ttl) ∧
    (¬machine.OwnerActive ttl → (machine.otaServiceStartAllowed ttl).1 = false ∧
      (machine.otaServiceStartAllowed ttl).2.marker = none)

-- While the marker is fresh, another process has the pid of its owner and a parent with
-- the pid that the parent of the owner had.
def Impersonated (ttl : Int) (machine : Machine) : Prop :=
  ∃ marker pid writer process, machine.marker = some marker ∧ machine.owner = some (pid,writer) ∧
    (digits (toString machine.clock) && digits (toString marker.mtime) && machine.clock-marker.mtime ≤ ttl) = true ∧
    machine.lookup pid = some process ∧ process.starttime ≠ writer.starttime ∧ process.ppid = writer.ppid

end Machine

section Stat
variable {process : Process} {pid : Nat}

-- The characters of the fields behind the name of the command.
def plain (ch : Char) : Bool := ch.isAlpha || isNumeric ch

theorem plain_field {ch : Char} (simple : plain ch = true) : fieldBlank ch = false ∧ ch ≠ ')' := by
  constructor
  · unfold fieldBlank
    rw [Bool.or_eq_false_iff,Bool.or_eq_false_iff]
    refine ⟨⟨?_,?_⟩,?_⟩
    all_goals
      refine beq_false_of_ne ?_
      rintro rfl
      exact absurd simple (by decide)
  · rintro rfl
    exact absurd simple (by decide)

theorem Process.statFields_plain {field : String} (member : field ∈ process.statFields) :
    field ≠ "" ∧ ∀ ch ∈ field.toList, plain ch = true := by
  have number : ∀ value : Int, toString value ≠ "" ∧ ∀ ch ∈ (toString value).toList, plain ch = true :=
    fun value => ⟨int_text_ne_empty value,fun ch inside => by simp [plain,int_text_numeric value ch inside]⟩
  have natural : ∀ value : Nat, toString value ≠ "" ∧ ∀ ch ∈ (toString value).toList, plain ch = true := by
    intro value
    exact number value
  unfold statFields at member
  simp only [List.mem_cons,List.mem_append,List.mem_map] at member
  rcases member with rfl | rfl | ⟨value,_,rfl⟩ | rfl | ⟨value,_,rfl⟩
  · refine ⟨by simp,?_⟩
    intro ch inside
    rw [String.toList_singleton,List.mem_singleton] at inside
    simp [plain,inside,process.letter]
  · exact natural process.ppid
  · exact number value
  · exact natural process.starttime
  · exact number value

theorem join_mem {separator ch : Char} {parts : List String} (member : ch ∈ (join separator parts).toList) :
    ch = separator ∨ ∃ part ∈ parts, ch ∈ part.toList := by
  unfold join at member
  rw [String.toList_ofList] at member
  induction parts with
  | nil => simp at member
  | cons part parts ih =>
      cases parts with
      | nil => exact .inr ⟨part,by simp,by simpa using member⟩
      | cons next parts =>
          rw [List.map_cons,List.map_cons,List.intercalate_cons_cons,List.append_assoc,List.mem_append,List.singleton_append,
            List.mem_cons] at member
          rcases member with here | rfl | later
          · exact .inr ⟨part,by simp,here⟩
          · exact .inl rfl
          · rcases ih later with same | ⟨other,listed,inside⟩
            · exact .inl same
            · exact .inr ⟨other,List.mem_cons_of_mem part listed,inside⟩

-- Behind the last closing parenthesis the fields are read back, whatever the command is called.
theorem Process.statLine_words (process : Process) (pid : Nat) :
    fieldWords (withoutPrefix ") " (captured (process.statLine pid))) = process.statFields := by
  have inside : ∀ ch ∈ (join ' ' process.statFields).toList, ch ≠ ')' ∧ ch ≠ '\n' := by
    intro ch member
    rcases join_mem member with rfl | ⟨field,listed,here⟩
    · decide
    · obtain ⟨blank,apart⟩ := plain_field ((Process.statFields_plain listed).2 ch here)
      refine ⟨apart,?_⟩
      rintro rfl
      cases blank
  have nonempty : (join ' ' process.statFields).toList ≠ [] := by simp [join,statFields]
  unfold statLine
  rw [captured_line]
  · have front : toString pid ++ " (" ++ process.comm ++ ") " ++ join ' ' process.statFields =
        toString pid ++ " (" ++ process.comm ++ (String.singleton ')' ++ " ") ++ join ' ' process.statFields := rfl
    rw [front]
    rw [show ") " = String.singleton ')' ++ " " from rfl,withoutPrefix_last]
    · exact fieldWords_join (by decide) fun field listed => ⟨(Process.statFields_plain listed).1,
        fun ch here => (plain_field ((Process.statFields_plain listed).2 ch here)).1⟩
    · intro member
      rcases List.mem_append.mp member with blank | later
      · simp at blank
      · exact (inside _ later).1 rfl
  · intro ch last
    rw [String.toList_append,List.getLast?_append_of_ne_nil _ nonempty] at last
    exact (inside ch (List.mem_of_getLast? last)).2

theorem Process.statFields_ppid (process : Process) : positional process.statFields 2 = toString process.ppid := rfl

theorem Process.statFields_starttime (process : Process) : positional process.statFields 20 = toString process.starttime := by
  unfold positional statFields
  simp [process.seventeen]

end Stat

namespace Machine
variable {machine : Machine} {pid : Nat} {process : Process}

theorem readStat_eq (machine : Machine) (pid : Nat) :
    machine.readStat (toString pid) = (machine.lookup pid).map fun process => process.statLine pid := by
  have same : (fun entry : Nat × Process => toString entry.1 == toString pid) = fun entry => entry.1 == pid := by
    funext entry
    rw [Bool.eq_iff_iff,beq_iff_eq,beq_iff_eq]
    exact ⟨nat_text_injective,congrArg toString⟩
  unfold readStat lookup
  rw [same]
  cases held : machine.processes.find? fun entry => entry.1 == pid with
  | none => rfl
  | some entry =>
      have here : entry.1 = pid := by simpa using List.find?_some held
      simp [here]

-- The second field and a zero stand for the twentieth.
theorem processStartTicks_found (found : machine.lookup pid = some process) :
    machine.processStartTicks (toString pid) = some (toString process.ppid ++ "0") := by
  unfold processStartTicks
  rw [readStat_eq,found,digits_nat]
  simp only [Option.map_some,bind,Option.bind,guard,if_true,pure]
  rw [process.statLine_words,process.statFields_starttime,digits_nat]
  simp only [if_true]
  rw [show "$20".toList = ['$','2','0'] from rfl,expandQuoted,if_pos (by decide)]
  change some (String.ofList ((positional process.statFields 2).toList ++ ['0'])) = _
  rw [process.statFields_ppid]
  rw [String.ofList_append,String.ofList_toList]

theorem processStartTicks_absent (absent : machine.lookup pid = none) : machine.processStartTicks (toString pid) = none := by
  unfold processStartTicks
  rw [readStat_eq,absent,digits_nat]
  rfl

section Text
variable {created ticks : String}

-- A text on one line and in one field.
def single (text : String) : Prop := '\n' ∉ text.toList ∧ '=' ∉ text.toList

theorem single_digits {text : String} (numeric : ∀ ch ∈ text.toList, ch.isDigit = true) : single text :=
  ⟨fun member => absurd (numeric _ member) (by decide),fun member => absurd (numeric _ member) (by decide)⟩

theorem split_field {key value : String} (name : single key) (text : single value) :
    split '\n' (key ++ String.singleton '=' ++ value) = [key ++ String.singleton '=' ++ value] ∧
      split '=' (key ++ String.singleton '=' ++ value) = [key,value] := by
  constructor
  · apply split_whole
    simpa using ⟨name.1,text.1⟩
  · rw [split_append,split_whole name.2,split_whole text.2]
    rfl

theorem markerText_lines (pid : Nat) (whole : single ticks) : ∃ rest,
    (split '\n' (markerText pid ticks created)).map (split '=') = ["ota_pid",toString pid] :: ["ota_pid_start_ticks",ticks] :: rest := by
  have text : markerText pid ticks created = ("ota_pid" ++ String.singleton '=' ++ toString pid) ++ String.singleton '\n' ++
      (("ota_pid_start_ticks" ++ String.singleton '=' ++ ticks) ++ String.singleton '\n' ++ ("created_at=" ++ created ++ "\n")) := by
    rw [← String.toList_inj]
    simp [markerText,toString]
  have known : single "ota_pid" := by unfold single; decide
  have known' : single "ota_pid_start_ticks" := by unfold single; decide
  obtain ⟨line,fields⟩ := split_field known (single_digits (repr_digits pid))
  obtain ⟨line',fields'⟩ := split_field known' whole
  refine ⟨(split '\n' ("created_at=" ++ created ++ "\n")).map (split '='),?_⟩
  rw [text,split_append,split_append]
  change List.map _ (split '\n' ("ota_pid" ++ String.singleton '=' ++ Nat.repr pid) ++ _) = _
  rw [line,line',List.map_append,List.map_append,List.map_singleton,List.map_singleton,fields']
  rw [fields]
  rfl

theorem markerText_pid (whole : single ticks) : lineValue "ota_pid" (markerText pid ticks created) = some (toString pid) := by
  obtain ⟨rest,lines⟩ := markerText_lines pid whole
  rw [lineValue,lines]
  rfl

theorem markerText_start (whole : single ticks) :
    lineValue "ota_pid_start_ticks" (markerText pid ticks created) = some ticks := by
  obtain ⟨rest,lines⟩ := markerText_lines pid whole
  rw [lineValue,lines]
  rfl

end Text

-- A marker holds what its owner has written, and the owner's parent stands for its start.
def Marked (machine : Machine) : Prop :=
  ∀ marker, machine.marker = some marker → ∃ pid writer created, machine.owner = some (pid,writer) ∧
    marker.text = markerText pid (toString writer.ppid ++ "0") created

theorem ticks_digits (ppid : Nat) : ∀ ch ∈ (toString ppid ++ "0").toList, ch.isDigit = true := by
  intro ch member
  rw [String.toList_append,List.mem_append] at member
  rcases member with digit | zero
  · exact repr_digits ppid ch digit
  · obtain rfl : ch = '0' := by simpa using zero
    rfl

theorem digits_ticks (ppid : Nat) : digits (toString ppid ++ "0") = true := by
  refine digits_iff.mpr ⟨?_,ticks_digits ppid⟩
  rw [Ne,← String.toList_eq_nil_iff,String.toList_append]
  simp

theorem ticks_injective {one other : Nat} (same : toString one ++ "0" = toString other ++ "0") : one = other := by
  rw [← String.toList_inj,String.toList_append,String.toList_append] at same
  exact nat_text_injective (String.toList_inj.mp (List.append_cancel_right same))

theorem mark_found (found : machine.lookup pid = some process) (created : String) :
    machine.markOtaServiceStartAllowed pid created = {machine with
      marker := some ⟨markerText pid (toString process.ppid ++ "0") created,machine.clock⟩
      owner := some (pid,process)} := by
  rw [markOtaServiceStartAllowed,processStartTicks_found found,found]

theorem marked_mark (marked : machine.Marked) (pid : Nat) (created : String) :
    (machine.markOtaServiceStartAllowed pid created).Marked := by
  cases found : machine.lookup pid with
  | none =>
      rw [markOtaServiceStartAllowed,processStartTicks_absent found]
      exact marked
  | some process =>
      rw [mark_found found]
      intro marker written
      cases written
      exact ⟨pid,process,created,rfl,rfl⟩

variable {ttl : Int}

theorem check_marker : (machine.otaServiceStartAllowed ttl).2.marker = none ∨ (machine.otaServiceStartAllowed ttl).2 = machine := by
  unfold otaServiceStartAllowed
  split
  · exact .inr rfl
  · simp only
    split
    · split
      · exact .inr rfl
      · exact .inl rfl
    · exact .inl rfl

theorem check_removes (refused : (machine.otaServiceStartAllowed ttl).1 = false) :
    (machine.otaServiceStartAllowed ttl).2.marker = none := by
  unfold otaServiceStartAllowed at refused ⊢
  split
  · rename_i absent
    exact absent
  · rename_i marker present
    rw [present] at refused
    simp only at refused ⊢
    split at refused
    · split at refused
      · cases refused
      · rename_i fresh other
        rw [if_pos fresh,if_neg other]
        rfl
    · rename_i stale
      rw [if_neg stale]
      rfl

theorem check_marked (marked : machine.Marked) : (machine.otaServiceStartAllowed ttl).2.Marked := by
  rcases @check_marker machine ttl with removed | same
  · intro marker present
    rw [removed] at present
    cases present
  · rwa [same]

theorem reached_marked (reached : Reached ttl machine) : machine.Marked := by
  induction reached with
  | initial clock => exact nofun
  | step prior allowed ih =>
      rename_i before event
      cases event with
      | mark pid created => exact marked_mark ih pid created
      | clear => exact nofun
      | check => exact check_marked ih
      | boot => exact ih
      | spawn => exact ih
      | exit => exact ih
      | change => exact ih
      | tick => exact ih
      | setClock => exact ih

-- The marker is taken for its owner's while some process has the pid and the parent's pid.
theorem allowed_iff (marked : machine.Marked) : (machine.otaServiceStartAllowed ttl).1 = true ↔
    ∃ marker pid writer process, machine.marker = some marker ∧ machine.owner = some (pid,writer) ∧
      (digits (toString machine.clock) && digits (toString marker.mtime) && machine.clock-marker.mtime ≤ ttl) = true ∧
      machine.lookup pid = some process ∧ process.ppid = writer.ppid := by
  unfold otaServiceStartAllowed
  cases present : machine.marker with
  | none => simp
  | some marker =>
      obtain ⟨pid,writer,created,owner,text⟩ := marked marker present
      have known : (lineValue "ota_pid" marker.text).getD "" = toString pid := by
        rw [text,markerText_pid (single_digits (ticks_digits _))]
        rfl
      have start : (lineValue "ota_pid_start_ticks" marker.text).getD "" = toString writer.ppid ++ "0" := by
        rw [text,markerText_start (single_digits (ticks_digits _))]
        rfl
      simp only [known,start,digits_nat,digits_ticks,Bool.true_and]
      constructor
      · intro passed
        split at passed
        · rename_i fresh
          split at passed
          · rename_i same
            rw [beq_iff_eq] at same
            cases found : machine.lookup pid with
            | none =>
                rw [processStartTicks_absent found,Option.getD_none] at same
                exact absurd same.symm (digits_iff.mp (digits_ticks writer.ppid)).1
            | some process =>
                rw [processStartTicks_found found,Option.getD_some] at same
                exact ⟨marker,pid,writer,process,rfl,owner,fresh,found,ticks_injective same⟩
          · cases passed
        · cases passed
      · rintro ⟨_,_,_,process,given,owner',fresh,found,parent⟩
        cases given
        cases owner.symm.trans owner'
        rw [if_pos fresh,processStartTicks_found found,parent,Option.getD_some,if_pos (beq_self_eq_true _)]

theorem identifiesOwner_iff (marked : machine.Marked) : machine.IdentifiesOwner ttl ↔ ¬machine.Impersonated ttl := by
  have allowed := @allowed_iff machine ttl marked
  constructor
  · rintro ⟨sound,_⟩ ⟨marker,pid,writer,process,present,owner,fresh,found,other,parent⟩
    obtain ⟨_,_,_,_,_,owner',_,found',same⟩ := sound (allowed.mpr ⟨marker,pid,writer,process,present,owner,fresh,found,parent⟩)
    cases owner.symm.trans owner'
    cases found.symm.trans found'
    exact other same
  · intro genuine
    have sound : (machine.otaServiceStartAllowed ttl).1 = true → machine.OwnerActive ttl := by
      intro passed
      obtain ⟨marker,pid,writer,process,present,owner,fresh,found,parent⟩ := allowed.mp passed
      have same : process.starttime = writer.starttime := by
        by_contra other
        exact genuine ⟨marker,pid,writer,process,present,owner,fresh,found,other,parent⟩
      rw [Bool.and_eq_true,decide_eq_true_eq] at fresh
      exact ⟨marker,pid,writer,process,present,owner,fresh.2,found,same⟩
    refine ⟨sound,fun inactive => ?_⟩
    have refused : (machine.otaServiceStartAllowed ttl).1 = false := by
      rw [← Bool.not_eq_true]
      exact fun passed => inactive (sound passed)
    exact ⟨refused,check_removes refused⟩

theorem marker_owner_iff (ttl : Int) {machine : Machine} (reached : Reached ttl machine) :
    machine.IdentifiesOwner ttl ↔ ¬machine.Impersonated ttl := identifiesOwner_iff (reached_marked reached)

-- Both are started by the first process, the second under the pid of the first.
def unit (comm : String) (starttime : Nat) : Process where
  comm := comm
  state := 'S'
  ppid := 1
  fields := List.replicate 17 0
  starttime := starttime
  rest := []
  letter := by decide
  seventeen := by decide

def booted : Machine := ⟨[],0,0,none,none⟩

def started : Machine := {booted with processes := [(700,unit "reactor-edge-ot" 0)]}

def recycled : Machine where
  processes := [(700,unit "cron" 90)]
  ticks := 90
  clock := 0
  marker := some ⟨markerText 700 "10" "2026-06-08T00:00:00Z",0⟩
  owner := some (700,unit "reactor-edge-ot" 0)

theorem recycled_reached : Reached 1800 recycled := by
  have spawned : Reached 1800 started := (Reached.initial 0).step (show booted.Allowed (.spawn 700 (unit "reactor-edge-ot" 0)) from ⟨rfl,rfl⟩)
  have running : started.lookup 700 = some (unit "reactor-edge-ot" 0) := rfl
  have marked := spawned.step (show started.Allowed (.mark 700 "2026-06-08T00:00:00Z") from rfl)
  rw [apply,mark_found running] at marked
  have exited := marked.step (show Allowed _ (.exit 700 1) from trivial)
  have later := exited.step (show Allowed _ (.tick 90) from trivial)
  exact later.step (show Allowed _ (.spawn 700 (unit "cron" 90)) from ⟨rfl,rfl⟩)

theorem marker_recycled_pid : ¬∀ (ttl : Int) (machine : Machine), Reached ttl machine → machine.IdentifiesOwner ttl := by
  intro identifies
  refine (identifiesOwner_iff (reached_marked recycled_reached)).mp (identifies 1800 recycled recycled_reached) ?_
  exact ⟨_,700,_,_,rfl,rfl,by decide,rfl,by decide,rfl⟩

theorem marker_owner_iff_recycled : recycled.IdentifiesOwner 1800 ↔ ¬recycled.Impersonated 1800 :=
  marker_owner_iff 1800 recycled_reached

end Machine

end ReactorOS
