import ReactorOS.BridgeMachine
import ReactorOS.Wire.Json
import Mathlib.Logic.Relation
namespace ReactorOS
open Wire Concurrency

-- The answer to an acknowledged write, with the control that was sent for it.
structure BridgeAck where
  requestId : String
  control : Option JsonBridgeControl
  status : AckStatus
  deriving DecidableEq

-- A daemon and its bridge, with the two files between them. A control is built with an id
-- of its own, put in place by a rename some time later, and waited for if its write is an
-- acknowledged one. Calls run side by side, so what one of them has built may be put in
-- place after what another has. Times are in milliseconds: `epoch` is when this process
-- has started, `latest` the latest one that the id of a control was made of.
structure BridgeLink where
  epoch : Int
  latest : Int
  sequence : Nat
  commandSeq : Nat
  building : List (JsonBridgeControl × Bool)
  awaited : List JsonBridgeControl
  acks : List BridgeAck
  box : BridgeBox

namespace BridgeLink

def initial (epoch : Int) : BridgeLink := ⟨epoch,epoch,1,0,[],[],[],Mailbox.initial {}⟩

def millis (now : Instant) : Int := now / 1000000

def build (now : Instant) (control : JsonBridgeControl) (awaits : Bool) (link : BridgeLink) : BridgeLink :=
  {link with latest := max link.latest (millis now),building := (control,awaits) :: link.building}

-- The bridge moves its sensors and its targets between two files, the outputs it does not.
def drifts (before after : BridgeMachine) : Prop := after.motor = before.motor ∧ after.relay = before.relay

def starts (device : BridgeMachine) : Prop := device.motor = 1 ∧ device.relay = 0

-- A round of the bridge in its own mode.
def tick (numberOf : String → Option ℚ) (evolved : BridgeMachine) (box : BridgeBox) : BridgeBox :=
  ((consumeJsonBridgeControl numberOf box).drift evolved).publish

section Steps
variable (fromTimestampMillis : Int → Option Instant) (config : JsonBridgeConfig) (numberOf : String → Option ℚ)

-- The counters are of 64 bits and are not used up by one process, the clock is not set back
-- behind the start of the process, and a process starts later than the ids of the ones before.
inductive Step : BridgeLink → BridgeLink → Prop where
  | writes {link : BridgeLink} {call : JsonBridgeCall} {control : JsonBridgeControl} :
      call.sequence = link.sequence → link.sequence ≤ u64Max → link.epoch ≤ millis call.now →
      Built fromTimestampMillis config call control →
      Step link {link.build call.now control false with sequence := link.sequence+1}
  | sends {link : BridgeLink} {call : AcknowledgedCall} {command : SafeCommand} {control : JsonBridgeControl} (sent : Instant) :
      link.commandSeq < u64Max → link.epoch ≤ millis sent →
      call.requestId = requestIdAt "auto" (millis sent) (link.commandSeq+1) →
      (JsonBridgeDevice.writeTargetsAcknowledged fromTimestampMillis config call command).commanded = some control →
      Step link {link.build sent control true with sequence := link.sequence+1,commandSeq := link.commandSeq+1}
  -- With nothing to send the answer comes at once.
  | answers {link : BridgeLink} {call : AcknowledgedCall} {command : SafeCommand} {ack : CommandAck} (sent : Instant) :
      link.commandSeq < u64Max → link.epoch ≤ millis sent →
      call.requestId = requestIdAt "auto" (millis sent) (link.commandSeq+1) →
      (JsonBridgeDevice.writeTargetsAcknowledged fromTimestampMillis config call command).commanded = none →
      (JsonBridgeDevice.writeTargetsAcknowledged fromTimestampMillis config call command).result = .ok ack →
      Step link {link with
        commandSeq := link.commandSeq+1
        acks := ⟨ack.requestId,none,ack.status⟩ :: link.acks}
  -- A call that fails before it has anything to write.
  | spends {link : BridgeLink} {sequence commandSeq : Nat} :
      link.sequence ≤ sequence → link.commandSeq ≤ commandSeq →
      Step link {link with sequence := sequence,commandSeq := commandSeq}
  -- A file in place whose directory could not be synced is not waited for.
  | lands {link : BridgeLink} {front rest : List (JsonBridgeControl × Bool)} {control : JsonBridgeControl} {awaits : Bool}
      (synced : Bool) : link.building = front ++ (control,awaits) :: rest →
      Step link {link with
        building := front ++ rest
        awaited := if awaits && synced then control :: link.awaited else link.awaited
        box := link.box.post control}
  | fails {link : BridgeLink} {front rest : List (JsonBridgeControl × Bool)} {entry : JsonBridgeControl × Bool} :
      link.building = front ++ entry :: rest → Step link {link with building := front ++ rest}
  | polls {link : BridgeLink} {front rest : List JsonBridgeControl} {control : JsonBridgeControl} :
      link.awaited = front ++ control :: rest →
      awaitEcho control.requestId [.ok (stateReply link.box.board)] ≠ .timeout →
      Step link {link with
        awaited := front ++ rest
        acks := ⟨control.requestId,some control,awaitEcho control.requestId [.ok (stateReply link.box.board)]⟩ :: link.acks}
  | expires {link : BridgeLink} {front rest : List JsonBridgeControl} {control : JsonBridgeControl} :
      link.awaited = front ++ control :: rest →
      Step link {link with awaited := front ++ rest,acks := ⟨control.requestId,some control,.timeout⟩ :: link.acks}
  | consumes (link : BridgeLink) : Step link {link with box := consumeJsonBridgeControl numberOf link.box}
  | evolves {link : BridgeLink} {device : BridgeMachine} : drifts link.box.device device →
      Step link {link with box := link.box.drift device}
  | reports (link : BridgeLink) : Step link {link with box := link.box.publish}
  | restarts {link : BridgeLink} {device : BridgeMachine} : starts device → Step link {link with box := link.box.restart device}
  | relaunches {link : BridgeLink} {epoch : Int} : link.latest < epoch →
      Step link {link with epoch := epoch,latest := epoch,sequence := 1,commandSeq := 0,building := [],awaited := []}

abbrev Runs : BridgeLink → BridgeLink → Prop := Relation.ReflTransGen (Step fromTimestampMillis config numberOf)

-- What a daemon and a bridge come to that start with no control in place.
def Reached (link : BridgeLink) : Prop :=
  ∃ epoch, 0 ≤ epoch ∧ Runs fromTimestampMillis config numberOf (initial epoch) link

end Steps

-- A number and its time are taken apart again from an id.
theorem requestIdAt_split (stem : String) {millis : Int} (nonneg : 0 ≤ millis) (number : Nat) :
    split '-' (requestIdAt stem millis number) = split '-' stem ++ [toString millis,toString number] := by
  have plain : ∀ number : Nat, '-' ∉ (toString number).toList := by
    intro number bar
    cases repr_digits number '-' bar
  obtain ⟨time,rfl⟩ := Int.eq_ofNat_of_zero_le nonneg
  have shown : requestIdAt stem (time : Int) number =
      stem ++ String.singleton '-' ++ (toString time ++ String.singleton '-' ++ toString number) := by
    simp only [requestIdAt,String.append_assoc]
    rfl
  rw [shown,split_append,split_append,split_whole (plain time),split_whole (plain number)]
  rfl

theorem requestIdAt_injective {stem other : String} {millis time : Int} (one : 0 ≤ millis) (two : 0 ≤ time)
    {number count : Nat} (same : requestIdAt stem millis number = requestIdAt other time count) :
    stem = other ∧ millis = time ∧ number = count := by
  have parts := congrArg (split '-') same
  rw [requestIdAt_split stem one,requestIdAt_split other two] at parts
  obtain ⟨stems,ends⟩ := List.append_inj' parts rfl
  injection ends with times numbers
  injection numbers with numbers
  refine ⟨?_,?_,?_⟩
  · rw [←join_split '-' stem,stems,join_split]
  · obtain ⟨m,rfl⟩ := Int.eq_ofNat_of_zero_le one
    obtain ⟨n,rfl⟩ := Int.eq_ofNat_of_zero_le two
    exact congrArg Int.ofNat (nat_text_injective times)
  · exact nat_text_injective numbers

-- An id made so far: of an earlier process by its time, of this one by its number.
def Issued (stem : String) (next : Nat) (epoch latest : Int) (id : String) : Prop :=
  ∃ millis number, id = requestIdAt stem millis number ∧ 0 ≤ millis ∧ millis ≤ latest ∧ (epoch ≤ millis → number < next)

theorem Issued.later {stem id : String} {next more : Nat} {epoch latest now : Int} (issued : Issued stem next epoch latest id)
    (counted : next ≤ more) (passed : latest ≤ now) : Issued stem more epoch now id := by
  obtain ⟨millis,number,rfl,nonneg,before,used⟩ := issued
  exact ⟨millis,number,rfl,nonneg,before.trans passed,fun current => (used current).trans_le counted⟩

theorem Issued.past {stem id : String} {next count : Nat} {epoch latest start : Int} (issued : Issued stem next epoch latest id)
    (later : latest < start) : Issued stem count start start id := by
  obtain ⟨millis,number,rfl,nonneg,before,_⟩ := issued
  exact ⟨millis,number,rfl,nonneg,by omega,fun current => absurd current (by omega)⟩

theorem Issued.fresh {stem id : String} {next : Nat} {epoch latest millis : Int} (issued : Issued stem next epoch latest id)
    (begun : 0 ≤ epoch) (clock : epoch ≤ millis) : id ≠ requestIdAt stem millis next := by
  obtain ⟨time,number,rfl,nonneg,_,used⟩ := issued
  intro same
  obtain ⟨_,rfl,rfl⟩ := requestIdAt_injective nonneg (begun.trans clock) same
  exact absurd (used clock) (lt_irrefl _)

theorem Issued.other {stem other id : String} {next count : Nat} {epoch latest millis : Int}
    (issued : Issued stem next epoch latest id) (apart : stem ≠ other) (nonneg : 0 ≤ millis) :
    id ≠ requestIdAt other millis count := by
  obtain ⟨time,number,rfl,early,_,_⟩ := issued
  intro same
  exact apart (requestIdAt_injective early nonneg same).1

-- The controls there have been, the ones still to be put in place first.
def controls (link : BridgeLink) : List JsonBridgeControl := link.building.map Prod.fst ++ link.box.posted

def ids (link : BridgeLink) : List String := link.controls.map JsonBridgeControl.requestId

section Invariants
variable {fromTimestampMillis : Int → Option Instant} {config : JsonBridgeConfig} {numberOf : String → Option ℚ}
  {link next : BridgeLink}

def Known (config : JsonBridgeConfig) (link : BridgeLink) (id : String) : Prop :=
  Issued config.requestIdPrefix link.sequence link.epoch link.latest id ∨
    Issued "auto" (link.commandSeq+1) link.epoch link.latest id

theorem Known.later {id : String} (known : Known config link id) (epoch : next.epoch = link.epoch)
    (sequence : link.sequence ≤ next.sequence) (commandSeq : link.commandSeq ≤ next.commandSeq)
    (latest : link.latest ≤ next.latest) : Known config next id := by
  unfold Known
  rw [epoch]
  rcases known with own | auto
  · exact .inl (own.later sequence latest)
  · exact .inr (auto.later (Nat.succ_le_succ commandSeq) latest)

theorem Known.named {id : String} (known : Known config link id) : id ≠ "" := by
  have filled : ∀ stem next, Issued stem next link.epoch link.latest id → id ≠ "" := by
    intro stem next issued empty
    obtain ⟨millis,number,shape,nonneg,_,_⟩ := issued
    have parts := congrArg (fun text => (split '-' text).length) (shape.symm.trans empty)
    rw [requestIdAt_split stem nonneg number] at parts
    have whole : split '-' "" = [""] := split_whole (by simp)
    simp [whole] at parts
  rcases known with own | auto
  · exact filled _ _ own
  · exact filled _ _ auto

-- The two files work, and every control has an id that no other has had.
structure Wired (config : JsonBridgeConfig) (link : BridgeLink) : Prop where
  box : Mailbox.Sound JsonBridgeControl.requestId link.box
  clock : 0 ≤ link.epoch ∧ link.epoch ≤ link.latest
  known : ∀ id ∈ link.ids, Known config link id
  apart : link.ids.Nodup

theorem Wired.consume (wired : Wired config link) : consumeJsonBridgeControl numberOf link.box =
    link.box.look JsonBridgeControl.requestId (carryOut numberOf) := by
  apply consume_look
  intro control slot
  have posted : control ∈ link.controls := List.mem_append_right _ (wired.box.in_place slot)
  exact (wired.known _ (List.mem_map_of_mem posted)).named

-- A step that builds no control.
theorem Wired.kept (wired : Wired config link) (box : Mailbox.Sound JsonBridgeControl.requestId next.box)
    (clock : 0 ≤ next.epoch ∧ next.epoch ≤ next.latest) (known : ∀ id, Known config link id → Known config next id)
    (listed : next.controls.Subperm link.controls) : Wired config next where
  box := box
  clock := clock
  known id member := by
    obtain ⟨control,there,rfl⟩ := List.mem_map.mp member
    exact known _ (wired.known _ (List.mem_map_of_mem (listed.subset there)))
  apart := by
    obtain ⟨kept,same,among⟩ := listed
    exact (same.map JsonBridgeControl.requestId).nodup_iff.mp ((among.map JsonBridgeControl.requestId).nodup wired.apart)

-- A step that builds one.
theorem Wired.built {control : JsonBridgeControl} (wired : Wired config link) (box : next.box = link.box)
    (epoch : next.epoch = link.epoch) (latest : link.latest ≤ next.latest)
    (known : ∀ id, Known config link id → Known config next id) (listed : next.controls = control :: link.controls) (new : Known config next control.requestId)
    (fresh : ∀ id, Known config link id → id ≠ control.requestId) : Wired config next where
  box := box ▸ wired.box
  clock := ⟨epoch ▸ wired.clock.1,epoch ▸ wired.clock.2.trans latest⟩
  known id member := by
    rw [ids,listed,List.map_cons] at member
    rcases List.mem_cons.mp member with rfl | before
    · exact new
    · exact known id (wired.known id before)
  apart := by
    rw [ids,listed,List.map_cons]
    exact List.nodup_cons.mpr ⟨fun before => fresh _ (wired.known _ before) rfl,wired.apart⟩

theorem lands_perm {front rest : List (JsonBridgeControl × Bool)} {control : JsonBridgeControl} {awaits : Bool}
    (posted : List JsonBridgeControl) : ((front ++ rest).map Prod.fst ++ control :: posted).Perm
      ((front ++ (control,awaits) :: rest).map Prod.fst ++ posted) := by
  have last : ((front ++ rest).map Prod.fst ++ control :: posted).Perm
      (control :: ((front ++ rest).map Prod.fst ++ posted)) := List.perm_middle
  have first : (front.map Prod.fst ++ control :: (rest.map Prod.fst ++ posted)).Perm
      (control :: (front.map Prod.fst ++ (rest.map Prod.fst ++ posted))) := List.perm_middle
  simp only [List.map_append,List.map_cons,List.append_assoc,List.cons_append] at last first ⊢
  exact last.trans first.symm

theorem Wired.writes {call : JsonBridgeCall} {control : JsonBridgeControl} (wired : Wired config link)
    (distinct : config.requestIdPrefix ≠ "auto") (numbered : call.sequence = link.sequence)
    (clock : link.epoch ≤ millis call.now) (built : Built fromTimestampMillis config call control) :
    Wired config {link.build call.now control false with sequence := link.sequence+1} := by
  have id : control.requestId = requestIdAt config.requestIdPrefix (millis call.now) link.sequence := by
    rw [←numbered]
    exact built.wellBuilt.requestId
  have nonneg : 0 ≤ millis call.now := wired.clock.1.trans clock
  refine wired.built rfl rfl (le_max_left _ _) ?_ rfl ?_ ?_
  · intro id known
    exact known.later rfl (Nat.le_succ _) (Nat.le_refl _) (le_max_left _ _)
  · exact .inl ⟨_,_,id,nonneg,le_max_right _ _,fun _ => Nat.lt_succ_self _⟩
  · intro other known
    rw [id]
    rcases known with own | auto
    · exact own.fresh wired.clock.1 clock
    · exact auto.other distinct.symm nonneg

theorem Wired.sends {sent : Instant} {control : JsonBridgeControl} (wired : Wired config link)
    (distinct : config.requestIdPrefix ≠ "auto") (clock : link.epoch ≤ millis sent)
    (id : control.requestId = requestIdAt "auto" (millis sent) (link.commandSeq+1)) :
    Wired config {link.build sent control true with sequence := link.sequence+1,commandSeq := link.commandSeq+1} := by
  have nonneg : 0 ≤ millis sent := wired.clock.1.trans clock
  refine wired.built rfl rfl (le_max_left _ _) ?_ rfl ?_ ?_
  · intro id known
    exact known.later rfl (Nat.le_succ _) (Nat.le_succ _) (le_max_left _ _)
  · exact .inr ⟨_,_,id,nonneg,le_max_right _ _,fun _ => Nat.lt_succ_self _⟩
  · intro other known
    rw [id]
    rcases known with own | auto
    · exact own.other distinct nonneg
    · exact auto.fresh wired.clock.1 clock

theorem Wired.lands {front rest : List (JsonBridgeControl × Bool)} {control : JsonBridgeControl} {awaits : Bool}
    (wired : Wired config link) (building : link.building = front ++ (control,awaits) :: rest)
    (awaited : List JsonBridgeControl) :
    Wired config {link with building := front ++ rest,awaited := awaited,box := link.box.post control} := by
  have listed : ((front ++ rest).map Prod.fst ++ control :: link.box.posted).Perm link.controls := by
    rw [controls,building]
    exact lands_perm link.box.posted
  have apart := (listed.map JsonBridgeControl.requestId).nodup_iff.mpr wired.apart
  rw [List.map_append,List.map_cons] at apart
  have fresh : control.requestId ∉ link.box.posted.map JsonBridgeControl.requestId :=
    (List.nodup_cons.mp apart.of_append_right).1
  exact wired.kept (wired.box.post fresh) wired.clock (fun id known => known) listed.subperm

-- What one step does to the two files is a step of theirs.
theorem Wired.box_step (wired : Wired config link) (step : Step fromTimestampMillis config numberOf link next) :
    next.box = link.box ∨
      Mailbox.Step JsonBridgeControl.requestId (carryOut numberOf) starts drifts link.box next.box := by
  cases step with
  | lands synced building =>
      have posted := (wired.lands building link.awaited).box.apart
      exact .inr (.post (List.nodup_cons.mp posted).1)
  | consumes =>
      rw [wired.consume]
      exact .inr (.look _)
  | evolves moved => exact .inr (.drift moved)
  | reports => exact .inr (.publish _)
  | restarts start => exact .inr (.restart _ start)
  | _ => exact .inl rfl

theorem Wired.step (wired : Wired config link) (distinct : config.requestIdPrefix ≠ "auto")
    (step : Step fromTimestampMillis config numberOf link next) : Wired config next := by
  have box : Mailbox.Sound JsonBridgeControl.requestId next.box := by
    rcases wired.box_step step with still | moved
    · rw [still]
      exact wired.box
    · exact wired.box.step moved
  cases step with
  | writes numbered _ clock built => exact wired.writes distinct numbered clock built
  | sends sent _ clock id commanded =>
      exact wired.sends distinct clock ((acknowledged_understood commanded).2.trans id)
  | answers =>
      exact wired.kept box wired.clock (fun id known => known.later rfl le_rfl (Nat.le_succ _) le_rfl) (List.Subperm.refl _)
  | spends sequence commandSeq =>
      exact wired.kept box wired.clock (fun id known => known.later rfl sequence commandSeq le_rfl) (List.Subperm.refl _)
  | lands synced building => exact wired.lands building _
  | fails building =>
      refine wired.kept box wired.clock (fun id known => known) (List.Sublist.subperm ?_)
      simp only [controls,building]
      exact (((List.sublist_cons_self _ _).append_left _).map _).append_right _
  | consumes =>
      refine wired.kept box wired.clock (fun id known => known) (List.Sublist.subperm ?_)
      simp only [controls,wired.consume,Mailbox.look_posted]
      exact List.Sublist.refl _
  | relaunches later =>
      refine wired.kept box ?_ ?_ (List.Sublist.subperm (List.sublist_append_right _ _))
      · exact ⟨(wired.clock.1.trans wired.clock.2).trans later.le,le_rfl⟩
      · intro id known
        rcases known with own | auto
        · exact .inl (own.past later)
        · exact .inr (auto.past later)
  | _ => exact wired.kept box wired.clock (fun id known => known) (List.Subperm.refl _)

theorem initial_wired {epoch : Int} (nonneg : 0 ≤ epoch) : Wired config (initial epoch) where
  box := Mailbox.initial_sound _
  clock := ⟨nonneg,le_rfl⟩
  known _ listed := by cases listed
  apart := List.nodup_nil

-- The bridge has had nothing that it could not carry out.
structure Carried (link : BridgeLink) : Prop where
  understood : ∀ control ∈ link.controls, Understood control.command control.value
  log : ∀ control result, (control,result) ∈ link.box.log → result = ⟨true,none⟩

theorem Wired.controls_step (wired : Wired config link) (step : Step fromTimestampMillis config numberOf link next)
    {control : JsonBridgeControl} (listed : control ∈ next.controls) :
    control ∈ link.controls ∨ Understood control.command control.value := by
  cases step with
  | writes numbered room clock built =>
      rcases List.mem_cons.mp listed with rfl | before
      · exact .inr built.wellBuilt.understood
      · exact .inl before
  | sends sent room clock id commanded =>
      rcases List.mem_cons.mp listed with rfl | before
      · exact .inr (acknowledged_understood commanded).1
      · exact .inl before
  | lands synced building =>
      refine .inl ?_
      rw [controls,building]
      exact (lands_perm link.box.posted).subset listed
  | fails building =>
      refine .inl ?_
      rw [controls,building]
      exact (((List.sublist_cons_self _ _).append_left _).map _ |>.append_right _).subset listed
  | consumes =>
      simp only [controls,wired.consume,Mailbox.look_posted] at listed
      exact .inl listed
  | relaunches => exact .inl (List.mem_append_right _ listed)
  | _ => exact .inl listed

theorem Carried.step (carried : Carried link) (wired : Wired config link)
    (step : Step fromTimestampMillis config numberOf link next) : Carried next where
  understood control listed := by
    rcases wired.controls_step step listed with before | new
    · exact carried.understood control before
    · exact new
  log control result listed := by
    have waits : ∀ control, link.box.slot = some control → Understood control.command control.value := fun control slot =>
      carried.understood control (List.mem_append_right _ (wired.box.in_place slot))
    cases step with
    | consumes =>
        rw [wired.consume] at listed
        obtain idle | ⟨held,slot,_,served⟩ := Mailbox.look_cases JsonBridgeControl.requestId (carryOut numberOf) link.box
        · rw [idle] at listed
          exact carried.log control result listed
        · rw [served] at listed
          rcases List.mem_cons.mp listed with now | before
          · cases now
            exact understood_carried numberOf (waits control slot) _
          · exact carried.log control result before
    | _ => exact carried.log control result listed

-- What a call had read of the bridge left it nothing to send.
def NothingToSend (fromTimestampMillis : Int → Option Instant) (config : JsonBridgeConfig) (requestId : String) : Prop :=
  ∃ (call : AcknowledgedCall) (command : SafeCommand) (state : JsonBridgeState), call.requestId = requestId ∧
    call.state = .ok state ∧
      nextJsonBridgeControl fromTimestampMillis config call.now call.sequence call.cache state command = .ok none

theorem nothing_to_send {call : AcknowledgedCall} {command : SafeCommand} {ack : CommandAck}
    (unsent : (JsonBridgeDevice.writeTargetsAcknowledged fromTimestampMillis config call command).commanded = none)
    (done : (JsonBridgeDevice.writeTargetsAcknowledged fromTimestampMillis config call command).result = .ok ack) :
    ack.status = .confirmed ∧ NothingToSend fromTimestampMillis config ack.requestId := by
  cases read : call.state with
  | error err =>
      unfold JsonBridgeDevice.writeTargetsAcknowledged at done
      rw [read] at done
      cases done
  | ok state =>
      rcases acknowledged_cases read done with ⟨nothing,same⟩ | ⟨pending,_,_,same⟩
      · rw [same] at done
        cases done
        exact ⟨rfl,call,command,state,rfl,read,nothing⟩
      · rw [same] at unsent
        cases unsent

-- What is said of a write: that nothing was to be sent for it, that time has run out, or what
-- the bridge has done.
inductive Told (fromTimestampMillis : Int → Option Instant) (config : JsonBridgeConfig) (link : BridgeLink) :
    BridgeAck → Prop where
  | nothing {requestId : String} : NothingToSend fromTimestampMillis config requestId →
      Told fromTimestampMillis config link ⟨requestId,none,.confirmed⟩
  | late {control : JsonBridgeControl} : control ∈ link.box.posted →
      Told fromTimestampMillis config link ⟨control.requestId,some control,.timeout⟩
  | done {control : JsonBridgeControl} : control ∈ link.box.posted → (control,⟨true,none⟩) ∈ link.box.log →
      Told fromTimestampMillis config link ⟨control.requestId,some control,.confirmed⟩

-- What is waited for is in place or was, and the answers say nothing else.
structure Answered (fromTimestampMillis : Int → Option Instant) (config : JsonBridgeConfig) (link : BridgeLink) : Prop where
  awaited : ∀ control ∈ link.awaited, control ∈ link.box.posted
  acks : ∀ ack ∈ link.acks, Told fromTimestampMillis config link ack

theorem polled {control : JsonBridgeControl} (wired : Wired config link) (carried : Carried link)
    (posted : control ∈ link.box.posted)
    (decided : awaitEcho control.requestId [.ok (stateReply link.box.board)] ≠ .timeout) :
    awaitEcho control.requestId [.ok (stateReply link.box.board)] = .confirmed ∧ (control,⟨true,none⟩) ∈ link.box.log := by
  obtain ⟨result,board,confirmed⟩ := echo_of decided
  have listed : (control,result) ∈ link.box.log := wired.box.board_of posted board
  cases carried.log control result listed
  exact ⟨confirmed.mpr rfl,listed⟩

theorem Wired.keeps_posted (wired : Wired config link) (step : Step fromTimestampMillis config numberOf link next)
    {control : JsonBridgeControl} (posted : control ∈ link.box.posted) : control ∈ next.box.posted := by
  rcases wired.box_step step with still | moved
  · rw [still]
    exact posted
  · exact moved.posted posted

theorem Wired.keeps_log (wired : Wired config link) (step : Step fromTimestampMillis config numberOf link next)
    {control : JsonBridgeControl} {result : CommandResult} (listed : (control,result) ∈ link.box.log) :
    (control,result) ∈ next.box.log := by
  rcases wired.box_step step with still | moved
  · rw [still]
    exact listed
  · exact moved.keeps listed

theorem Answered.step (answered : Answered fromTimestampMillis config link) (wired : Wired config link) (carried : Carried link)
    (step : Step fromTimestampMillis config numberOf link next) : Answered fromTimestampMillis config next where
  awaited control listed := by
    have older : control ∈ link.awaited → control ∈ next.box.posted := fun before =>
      wired.keeps_posted step (answered.awaited control before)
    cases step with
    | lands synced building =>
        dsimp only at listed
        split at listed
        · rcases List.mem_cons.mp listed with rfl | before
          · exact List.mem_cons_self
          · exact older before
        · exact older listed
    | polls awaited => exact older (by rw [awaited]; exact ((List.sublist_cons_self _ _).append_left _).subset listed)
    | expires awaited => exact older (by rw [awaited]; exact ((List.sublist_cons_self _ _).append_left _).subset listed)
    | relaunches => cases listed
    | _ => exact older listed
  acks ack listed := by
    have older : ack ∈ link.acks → Told fromTimestampMillis config next ack := by
      intro before
      cases answered.acks ack before with
      | nothing idle => exact .nothing idle
      | late posted => exact .late (wired.keeps_posted step posted)
      | done posted logged => exact .done (wired.keeps_posted step posted) (wired.keeps_log step logged)
    cases step with
    | answers sent room clock id unsent done =>
        rcases List.mem_cons.mp listed with rfl | before
        · obtain ⟨confirmed,idle⟩ := nothing_to_send unsent done
          rw [confirmed]
          exact .nothing idle
        · exact older before
    | polls awaited decided =>
        rcases List.mem_cons.mp listed with rfl | before
        · have posted := answered.awaited _ (by rw [awaited]; exact List.mem_append_right _ List.mem_cons_self)
          obtain ⟨confirmed,logged⟩ := polled wired carried posted decided
          rw [confirmed]
          exact .done posted logged
        · exact older before
    | expires awaited =>
        rcases List.mem_cons.mp listed with rfl | before
        · exact .late (answered.awaited _ (by rw [awaited]; exact List.mem_append_right _ List.mem_cons_self))
        · exact older before
    | _ => exact older listed

-- What the relay has been told last, since the bridge started.
def relaySays (control : JsonBridgeControl) : Option Nat :=
  if control.command = "relay" then some (if truthy control.value then 1 else 0) else none

def RelayAsTold (box : BridgeBox) : Prop := box.device.relay = (box.served.findSome? (relaySays ·.1)).getD 0

theorem applyControl_relay {control : JsonBridgeControl} {device moved : BridgeMachine}
    (applied : applyControl numberOf control device = .ok moved) : moved.relay = (relaySays control).getD device.relay := by
  unfold applyControl at applied
  unfold relaySays
  by_cases relay : control.command = "relay"
  · simp only [relay,String.reduceEq,false_and,if_false,if_true] at applied ⊢
    cases applied
    rfl
  · simp only [if_neg relay] at applied ⊢
    split at applied
    · cases applied
      by_cases slow : (if truthy control.value = true then 1 else 0) = 1 ∧ device.targetShakeSpeedCpm ≤ 1/100
      · rw [if_pos slow]
        rfl
      · rw [if_neg slow]
        rfl
    split at applied
    · cases applied
      rfl
    split at applied
    · cases applied
      rfl
    split at applied
    · split at applied
      · cases applied
      · cases applied
        rfl
    · cases applied

theorem understood_relay {control : JsonBridgeControl} (understood : Understood control.command control.value)
    (device : BridgeMachine) : (carryOut numberOf control device).2.relay = (relaySays control).getD device.relay := by
  have carried := understood_carried numberOf understood device
  unfold carryOut at carried ⊢
  cases applied : applyControl numberOf control device with
  | error message => simp [applied] at carried
  | ok moved => exact applyControl_relay applied

theorem RelayAsTold.step (told : RelayAsTold link.box) (wired : Wired config link) (carried : Carried link)
    (step : Step fromTimestampMillis config numberOf link next) : RelayAsTold next.box := by
  cases step with
  | consumes =>
      rw [wired.consume]
      obtain idle | ⟨control,slot,_,served⟩ := Mailbox.look_cases JsonBridgeControl.requestId (carryOut numberOf) link.box
      · rw [idle]
        exact told
      · have understood := carried.understood control (List.mem_append_right _ (wired.box.in_place slot))
        rw [served]
        change (carryOut numberOf control link.box.device).2.relay = _
        rw [understood_relay understood,told]
        change _ = (List.findSome? _ (_ :: link.box.served)).getD 0
        rw [List.findSome?_cons]
        cases relaySays control <;> rfl
  | evolves moved => exact moved.2.trans told
  | restarts start => exact start.2
  | _ => exact told

-- What holds of every run.
structure Safe (fromTimestampMillis : Int → Option Instant) (config : JsonBridgeConfig) (link : BridgeLink) : Prop where
  wired : Wired config link
  carried : Carried link
  answered : Answered fromTimestampMillis config link
  relay : RelayAsTold link.box

theorem initial_safe {epoch : Int} (nonneg : 0 ≤ epoch) : Safe fromTimestampMillis config (initial epoch) where
  wired := initial_wired nonneg
  carried := ⟨fun _ listed => (nomatch listed),fun _ _ listed => (nomatch listed)⟩
  answered := ⟨fun _ listed => (nomatch listed),fun _ listed => (nomatch listed)⟩
  relay := rfl

theorem Safe.step (safe : Safe fromTimestampMillis config link) (distinct : config.requestIdPrefix ≠ "auto")
    (step : Step fromTimestampMillis config numberOf link next) : Safe fromTimestampMillis config next where
  wired := safe.wired.step distinct step
  carried := safe.carried.step safe.wired step
  answered := safe.answered.step safe.wired safe.carried step
  relay := safe.relay.step safe.wired safe.carried step

theorem Safe.run (safe : Safe fromTimestampMillis config link) (distinct : config.requestIdPrefix ≠ "auto")
    (run : Runs fromTimestampMillis config numberOf link next) : Safe fromTimestampMillis config next := by
  induction run with
  | refl => exact safe
  | tail run step ih => exact ih.step distinct step

theorem Reached.safe (reached : Reached fromTimestampMillis config numberOf link)
    (distinct : config.requestIdPrefix ≠ "auto") : Safe fromTimestampMillis config link := by
  obtain ⟨epoch,nonneg,run⟩ := reached
  exact (initial_safe nonneg).run distinct run

-- A control that is no longer in place stays so, and nothing more comes of it.
theorem Safe.gone {control : JsonBridgeControl} (safe : Safe fromTimestampMillis config link) (distinct : config.requestIdPrefix ≠ "auto")
    (run : Runs fromTimestampMillis config numberOf link next) (posted : control ∈ link.box.posted)
    (gone : link.box.slot ≠ some control) : control ∈ next.box.posted ∧ next.box.slot ≠ some control ∧
      ∀ result, (control,result) ∈ next.box.log → (control,result) ∈ link.box.log := by
  induction run with
  | refl => exact ⟨posted,gone,fun _ listed => listed⟩
  | tail run step ih =>
      obtain ⟨posted,gone,log⟩ := ih
      have wired := (safe.run distinct run).wired
      refine ⟨wired.keeps_posted step posted,?_,?_⟩
      · rcases wired.box_step step with still | moved
        · rw [still]
          exact gone
        · exact moved.gone posted gone
      · intro result listed
        rcases wired.box_step step with still | moved
        · rw [still] at listed
          exact log result listed
        · exact (moved.log listed).elim (log result) fun slot => absurd slot gone

end Invariants

section Example

def motorOn : JsonBridgeControl := ⟨"auto-0-1","motor",some (.integer 1),none⟩

def relayOn : JsonBridgeControl := ⟨"reactor-os-0-2","relay",some (.integer 1),some "heater_relay"⟩

def motorPosted : BridgeLink where
  epoch := 0
  latest := 0
  sequence := 2
  commandSeq := 1
  building := []
  awaited := [motorOn]
  acks := []
  box := (Mailbox.initial {}).post motorOn

def motorAnswered : BridgeLink :=
  let box := (consumeJsonBridgeControl (fun _ => none) motorPosted.box).publish
  {motorPosted with
    awaited := []
    acks := [⟨motorOn.requestId,some motorOn,awaitEcho motorOn.requestId [.ok (stateReply box.board)]⟩]
    box := box}

def relayPosted : BridgeLink := {motorPosted with sequence := 3,box := motorPosted.box.post relayOn}

def relaySwitched : BridgeLink := {relayPosted with box := consumeJsonBridgeControl (fun _ => none) relayPosted.box}

-- The motor is switched on by the control loop, then the heater by an operator.
theorem motorPosted_reached : Reached (fun ms => some (ms*1000000)) .default (fun _ => none) motorPosted := by
  have next := @next_motor_on (fun ms => some (ms*1000000)) .default 0 1 ⟨none,none⟩ (idleState 0) shakeAndStir rfl
    (by decide +kernel) rfl
  have same := @acknowledged_replaced _ _ _ _ _ (echoedCall (idleState 0)) rfl rfl next
  have commanded : (acknowledgedWrite (idleState 0)).commanded = some motorOn := congrArg JsonBridgeWrite.commanded same
  have sent : Step (fun ms => some (ms*1000000)) .default (fun _ => none) (initial 0) _ :=
    .sends 0 (by decide) (by decide) rfl commanded
  have landed : Step (fun ms => some (ms*1000000)) .default (fun _ => none)
      {(initial 0).build 0 motorOn true with sequence := 2,commandSeq := 1} motorPosted :=
    @Step.lands _ _ _ _ [] [] motorOn true true rfl
  exact ⟨0,le_rfl,(Relation.ReflTransGen.single sent).tail landed⟩

theorem relayPosted_reached : Reached (fun ms => some (ms*1000000)) .default (fun _ => none) relayPosted := by
  obtain ⟨epoch,nonneg,run⟩ := motorPosted_reached
  have written : Built (fun ms => some (ms*1000000)) .default {(echoedCall (idleState 0)).toJsonBridgeCall with sequence := 2}
      relayOn := @Built.component _ _ _ ⟨"heater_relay","on",none⟩ Site.shipped.startUp.runtime.targets .shipped relayOn rfl
  have built : Step (fun ms => some (ms*1000000)) .default (fun _ => none) motorPosted _ :=
    .writes rfl (by decide) (by decide) written
  have landed : Step (fun ms => some (ms*1000000)) .default (fun _ => none)
      {motorPosted.build 0 relayOn false with sequence := 3} relayPosted :=
    @Step.lands _ _ _ _ [] [] relayOn false true rfl
  exact ⟨epoch,nonneg,(run.tail built).tail landed⟩

theorem motorAnswered_reached : Reached (fun ms => some (ms*1000000)) .default (fun _ => none) motorAnswered := by
  obtain ⟨epoch,nonneg,run⟩ := motorPosted_reached
  have consumed := run.tail (.consumes motorPosted)
  have reported := consumed.tail (.reports _)
  exact ⟨epoch,nonneg,reported.tail (@Step.polls _ _ _ _ [] [] motorOn rfl (by decide +kernel))⟩

theorem relaySwitched_reached : Reached (fun ms => some (ms*1000000)) .default (fun _ => none) relaySwitched := by
  obtain ⟨epoch,nonneg,run⟩ := relayPosted_reached
  exact ⟨epoch,nonneg,run.tail (.consumes relayPosted)⟩

-- A machine that turns as it should, and the answer that a command for it gets.
def steadyState : JsonBridgeState := {idleState 300 with motor := some 1}

def steadyAnswered : BridgeLink := {initial 0 with commandSeq := 1,acks := [⟨"auto-0-1",none,.confirmed⟩]}

theorem steadyAnswered_reached : Reached (fun ms => some (ms*1000000)) .default (fun _ => none) steadyAnswered := by
  have unsent : acknowledgedWrite steadyState = ⟨.ok ⟨"auto-0-1",.confirmed,none⟩,none,⟨none,none⟩⟩ := by
    have motor : MotorAgrees steadyState shakeAndStir := by
      unfold MotorAgrees
      decide +kernel
    have converged : Converged .default ⟨none,none⟩ steadyState shakeAndStir :=
      ⟨motor,by decide +kernel,fun controlled => (by cases controlled),stirrerAt_self 300⟩
    have nothing : nextJsonBridgeControl (fun ms => some (ms*1000000)) .default 0 1 ⟨none,none⟩ steadyState shakeAndStir =
        .ok none := (next_none_iff (by decide +kernel) rfl).mpr converged
    unfold acknowledgedWrite JsonBridgeDevice.writeTargetsAcknowledged
    simp only [echoedCall,Except.bind,nothing]
  have answered : Step (fun ms => some (ms*1000000)) .default (fun _ => none) (initial 0) steadyAnswered :=
    @Step.answers _ _ _ _ (echoedCall steadyState) shakeAndStir ⟨"auto-0-1",.confirmed,none⟩ 0 (by decide) (by decide) rfl
      (congrArg JsonBridgeWrite.commanded unsent) (congrArg JsonBridgeWrite.result unsent)
  exact ⟨0,le_rfl,.single answered⟩

end Example

section Results
variable {fromTimestampMillis : Int → Option Instant} {config : JsonBridgeConfig} {numberOf : String → Option ℚ}
  {link next : BridgeLink}

-- An ack of a write is no more than what the bridge has done, and never a rejection: with a
-- control sent it is late or true of this control alone, and without one there was nothing
-- to send.
theorem bridge_acks {ack : BridgeAck} (reached : Reached fromTimestampMillis config numberOf link)
    (distinct : config.requestIdPrefix ≠ "auto") (acked : ack ∈ link.acks) :
    (ack.control = none → ack.status = .confirmed ∧ NothingToSend fromTimestampMillis config ack.requestId) ∧
      ∀ control, ack.control = some control → control.requestId = ack.requestId ∧
        (ack.status = .timeout ∨ ack.status = .confirmed ∧ (control,⟨true,none⟩) ∈ link.box.log ∧
          ∀ other result, (other,result) ∈ link.box.log → other.requestId = ack.requestId → other = control) := by
  have safe := reached.safe distinct
  cases safe.answered.acks ack acked with
  | nothing idle =>
      refine ⟨fun _ => ⟨rfl,idle⟩,?_⟩
      intro control sent
      cases sent
  | late posted =>
      refine ⟨fun unsent => (by cases unsent),?_⟩
      intro control sent
      cases sent
      exact ⟨rfl,.inl rfl⟩
  | done posted logged =>
      refine ⟨fun unsent => (by cases unsent),?_⟩
      intro control sent
      cases sent
      refine ⟨rfl,.inr ⟨rfl,logged,?_⟩⟩
      intro other result listed same
      exact safe.wired.box.owner (safe.wired.box.posted other result listed) posted same

theorem bridge_acks_motor : (motorOn.requestId = motorOn.requestId ∧ (AckStatus.confirmed = .timeout ∨
    AckStatus.confirmed = .confirmed ∧ (motorOn,⟨true,none⟩) ∈ motorAnswered.box.log ∧
      ∀ other result, (other,result) ∈ motorAnswered.box.log → other.requestId = motorOn.requestId → other = motorOn)) ∧
    AckStatus.confirmed = .confirmed ∧ NothingToSend (fun ms => some (ms*1000000)) .default "auto-0-1" := by
  constructor
  · exact (@bridge_acks _ _ _ _ ⟨motorOn.requestId,some motorOn,.confirmed⟩ motorAnswered_reached (by decide)
      (by decide +kernel)).2 motorOn rfl
  · exact (@bridge_acks _ _ _ _ ⟨"auto-0-1",none,.confirmed⟩ steadyAnswered_reached (by decide)
      (by decide +kernel)).1 rfl

-- The bridge takes the controls in the order they were put in place, each of them once.
theorem bridge_takes_in_order (reached : Reached fromTimestampMillis config numberOf link)
    (distinct : config.requestIdPrefix ≠ "auto") : (link.box.served.map Prod.fst).Sublist link.box.posted ∧
      (link.box.posted.map JsonBridgeControl.requestId).Nodup ∧
        ∀ control result, (control,result) ∈ link.box.log → control ∈ link.box.posted ∧ result = ⟨true,none⟩ := by
  have safe := reached.safe distinct
  refine ⟨safe.wired.box.order,safe.wired.box.apart,?_⟩
  intro control result listed
  exact ⟨safe.wired.box.posted control result listed,safe.carried.log control result listed⟩

theorem bridge_takes_motor_in_order : (motorAnswered.box.served.map Prod.fst).Sublist motorAnswered.box.posted ∧
    (motorAnswered.box.posted.map JsonBridgeControl.requestId).Nodup ∧
      ∀ control result, (control,result) ∈ motorAnswered.box.log → control ∈ motorAnswered.box.posted ∧ result = ⟨true,none⟩ :=
  bridge_takes_in_order motorAnswered_reached (by decide)

-- A control that another one has replaced before the bridge looked is lost, and nobody
-- is told otherwise.
theorem bridge_overwritten {control : JsonBridgeControl} (reached : Reached fromTimestampMillis config numberOf link)
    (distinct : config.requestIdPrefix ≠ "auto") (posted : control ∈ link.box.posted)
    (replaced : link.box.slot ≠ some control) (unserved : ∀ result, (control,result) ∉ link.box.log)
    (run : Runs fromTimestampMillis config numberOf link next) : (∀ result, (control,result) ∉ next.box.log) ∧
      ∀ ack ∈ next.acks, ack.control = some control → ack.status = .timeout := by
  have safe := reached.safe distinct
  obtain ⟨_,_,log⟩ := safe.gone distinct run posted replaced
  have never : ∀ result, (control,result) ∉ next.box.log := fun result listed => unserved result (log result listed)
  refine ⟨never,?_⟩
  intro ack acked sent
  cases (safe.run distinct run).answered.acks ack acked with
  | nothing idle => cases sent
  | late posted => rfl
  | done posted logged =>
      cases sent
      exact absurd logged (never _)

theorem motor_overwritten : (∀ result, (motorOn,result) ∉ relaySwitched.box.log) ∧
    ∀ ack ∈ relaySwitched.acks, ack.control = some motorOn → ack.status = .timeout :=
  bridge_overwritten relayPosted_reached (by decide) (by decide +kernel) (by decide +kernel) (fun _ listed => nomatch listed)
    (.single (.consumes relayPosted))

-- A control that is still in place is confirmed after a round of the bridge.
theorem bridge_confirms {control : JsonBridgeControl} (reached : Reached fromTimestampMillis config numberOf link)
    (distinct : config.requestIdPrefix ≠ "auto") (slot : link.box.slot = some control) (evolved : BridgeMachine) :
    (control,⟨true,none⟩) ∈ (tick numberOf evolved link.box).log ∧
      awaitEcho control.requestId [.ok (stateReply (tick numberOf evolved link.box).board)] = .confirmed := by
  have safe := reached.safe distinct
  have consumed : Step fromTimestampMillis config numberOf link {link with box := consumeJsonBridgeControl numberOf link.box} :=
    .consumes link
  have answered : ∃ result, (control,result) ∈ (consumeJsonBridgeControl numberOf link.box).log ∧
      (consumeJsonBridgeControl numberOf link.box).publish.board = some (control.requestId,result) := by
    rw [safe.wired.consume]
    exact safe.wired.box.answered slot
  obtain ⟨result,listed,board⟩ := answered
  have after := safe.carried.step safe.wired consumed
  cases after.log control result listed
  refine ⟨listed,?_⟩
  have shown : (tick numberOf evolved link.box).board = some (control.requestId,⟨true,none⟩) := board
  rw [shown]
  simp [awaitEcho,stateReply]

theorem bridge_confirms_motor :
    (motorOn,⟨true,none⟩) ∈ (tick (fun _ => none) {} motorPosted.box).log ∧
      awaitEcho motorOn.requestId [.ok (stateReply (tick (fun _ => none) {} motorPosted.box).board)] = .confirmed :=
  bridge_confirms motorPosted_reached (by decide) rfl {}

-- The heater is on only where the daemon has had it switched on, and not off since.
theorem bridge_relay (reached : Reached fromTimestampMillis config numberOf link)
    (distinct : config.requestIdPrefix ≠ "auto") (on : link.box.device.relay ≠ 0) :
    ∃ since control before, link.box.served.map Prod.fst = since ++ control :: before ∧
      control ∈ link.box.posted ∧ control.command = "relay" ∧ truthy control.value = true ∧
        ∀ other ∈ since, other.command ≠ "relay" := by
  have safe := reached.safe distinct
  have told : link.box.device.relay = ((link.box.served.map Prod.fst).findSome? relaySays).getD 0 := by
    rw [List.findSome?_map]
    exact safe.relay
  cases said : (link.box.served.map Prod.fst).findSome? relaySays with
  | none =>
      rw [said] at told
      exact absurd told on
  | some value =>
      rw [said] at told
      obtain ⟨since,control,before,parts,spoken,silent⟩ := List.findSome?_eq_some_iff.mp said
      have switches : control.command = "relay" ∧ value = if truthy control.value then 1 else 0 := by
        unfold relaySays at spoken
        split at spoken
        · cases spoken
          exact ⟨by assumption,rfl⟩
        · cases spoken
      refine ⟨since,control,before,parts,safe.wired.box.order.subset (by rw [parts]; exact List.mem_append_right _ List.mem_cons_self),
        switches.1,?_,?_⟩
      · by_contra off
        rw [switches.2,if_neg off] at told
        exact on told
      · intro other listed relay
        have quiet := silent other listed
        simp [relaySays,relay] at quiet

theorem bridge_relay_on : ∃ since control before, relaySwitched.box.served.map Prod.fst = since ++ control :: before ∧
    control ∈ relaySwitched.box.posted ∧ control.command = "relay" ∧ truthy control.value = true ∧
      ∀ other ∈ since, other.command ≠ "relay" :=
  bridge_relay relaySwitched_reached (by decide) (by decide +kernel)

end Results

end BridgeLink
end ReactorOS
