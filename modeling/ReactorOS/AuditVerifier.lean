import ReactorOS.AuditChain
import ReactorOS.Wire.Fields
import Mathlib.Data.List.Forall2
namespace ReactorOS
open Wire HashChain

-- What the hash of an event is over, besides the hash before it.
structure SealedEvent where
  batchId : Option Int
  eventType : String
  targetTemperatureC : Option ℚ
  targetStirrerRpm : Option ℚ
  targetShakeSpeedCpm : Option ℚ
  reason : String
  moment : Instant

def AuditCodec.seal (codec : AuditCodec) (previous : Option String) (event : SealedEvent) : String :=
  controlEventHash codec previous event.batchId event.eventType (event.targetTemperatureC.map .number)
    (event.targetStirrerRpm.map .number) (event.targetShakeSpeedCpm.map .number) event.reason
    (codec.toRfc3339 event.moment)

abbrev AuditLink : Type := Link SealedEvent String

def ControlEventRecord.link (event : ControlEventRecord) : AuditLink :=
  ⟨event.previousHash,event.eventHash,⟨event.batchId,event.eventType,event.targetTemperatureC,
    event.targetStirrerRpm,event.targetShakeSpeedCpm,event.reason,event.moment⟩⟩

section Codec
variable (codec : AuditCodec)

def Readable (row : ControlEventRow) (link : AuditLink) : Prop :=
  ∃ event, controlEventFromRow codec row = .ok event ∧ event.link = link

-- The chain as the verifier reads it.
def chainLinks (rows : List ControlEventRow) : Except String (List AuditLink) := do
  let events ← rows.mapM (controlEventFromRow codec)
  return events.map ControlEventRecord.link

def ControlEventTable.window (table : ControlEventTable) : List ControlEventRow :=
  table.hashed.drop (table.hashed.length-auditChainCheckLimit)

def ControlEventTable.truncated (table : ControlEventTable) : Bool := auditChainCheckLimit < table.hashed.length

-- What a verifier starts from: a window is taken to follow what its first event names.
def windowStart (truncated : Bool) (links : List AuditLink) : Option String :=
  if truncated = true then links.head?.bind (·.previous) else none

variable {codec}

theorem forall₂_snoc {α β : Type} {R : α → β → Prop} {rows : List α} {row : α} {values : List β} :
    List.Forall₂ R (rows ++ [row]) values ↔ ∃ older last, List.Forall₂ R rows older ∧ R row last ∧ values = older ++ [last] := by
  induction rows generalizing values with
  | nil =>
      rw [List.nil_append,List.forall₂_cons_left_iff]
      simp [List.forall₂_nil_left_iff]
  | cons first rows ih =>
      rw [List.cons_append,List.forall₂_cons_left_iff]
      constructor
      · intro parts
        obtain ⟨value,others,here,later,rfl⟩ := parts
        obtain ⟨older,last,before,final,rfl⟩ := ih.mp later
        exact ⟨value :: older,last,.cons here before,final,rfl⟩
      · intro parts
        obtain ⟨older,last,before,final,rfl⟩ := parts
        obtain ⟨value,others,here,later,rfl⟩ := List.forall₂_cons_left_iff.mp before
        exact ⟨value,others ++ [last],here,ih.mpr ⟨others,last,later,final,rfl⟩,rfl⟩

theorem chainLinks_ok {rows : List ControlEventRow} {links : List AuditLink} :
    chainLinks codec rows = .ok links ↔ List.Forall₂ (Readable codec) rows links := by
  unfold chainLinks
  constructor
  · intro read
    obtain ⟨events,mapped,same⟩ := bind_ok read
    obtain rfl := Except.ok.inj same
    rw [List.forall₂_map_right_iff]
    exact (mapM_ok.mp mapped).imp fun row event found => ⟨event,found,rfl⟩
  · intro every
    have read : ∃ events, List.Forall₂ (fun row event => controlEventFromRow codec row = .ok event) rows events ∧
        events.map ControlEventRecord.link = links := by
      induction every with
      | nil => exact ⟨[],.nil,rfl⟩
      | cons first later ih =>
          obtain ⟨event,found,rfl⟩ := first
          obtain ⟨events,others,rfl⟩ := ih
          exact ⟨event :: events,.cons found others,rfl⟩
    obtain ⟨events,found,rfl⟩ := read
    exact ok_bind (mapM_ok.mpr found)

theorem readable_iff {row : ControlEventRow} {link : AuditLink} : Readable codec row link ↔
    codec.parseRfc3339 row.createdAt = some link.body.moment ∧
    validateControlEventTargets row.targetTemperatureC row.targetStirrerRpm row.targetShakeSpeedCpm = .ok () ∧
    link = ⟨row.previousHash,row.eventHash,⟨row.batchId,row.eventType,row.targetTemperatureC,
      row.targetStirrerRpm,row.targetShakeSpeedCpm,row.reason,link.body.moment⟩⟩ := by
  unfold Readable controlEventFromRow
  cases parsed : codec.parseRfc3339 row.createdAt with
  | none => simp
  | some moment =>
      constructor
      · intro read
        obtain ⟨event,found,rfl⟩ := read
        obtain ⟨_,valid,same⟩ := bind_ok found
        obtain rfl := Except.ok.inj same
        exact ⟨rfl,valid,rfl⟩
      · intro parts
        obtain ⟨time,valid,shape⟩ := parts
        refine ⟨⟨row,moment⟩,ok_bind valid,?_⟩
        rw [shape]
        simp [ControlEventRecord.link,Option.some.inj time]

theorem readable_hash {row : ControlEventRow} {link : AuditLink} (read : Readable codec row link) :
    link.hash = row.eventHash := by
  rw [(readable_iff.mp read).2.2]

theorem readable_determined {row : ControlEventRow} {one two : AuditLink} (first : Readable codec row one)
    (second : Readable codec row two) : one = two := by
  obtain ⟨event,found,rfl⟩ := first
  obtain ⟨event',found',rfl⟩ := second
  obtain rfl := Except.ok.inj (found.symm.trans found')
  rfl

-- One round of the verifier's loop counts the event if it does not fit.
theorem step_brokenEvents {truncated : Bool} (check : ChainCheck) (event : ControlEventRecord)
    (within : ¬(check.checkedEvents = 0 ∧ truncated = true)) :
    (check.step codec truncated event).brokenEvents =
      check.brokenEvents+(if Follows codec.seal check.previous event.link then 0 else 1) := by
  unfold ChainCheck.step
  rw [if_neg within]
  change (if _ ∨ _ then _ else _) = _
  by_cases fits : Follows codec.seal check.previous event.link
  · rw [if_pos fits,if_neg]
    · rfl
    · intro broken
      rcases broken with named | hashed
      · exact named fits.1
      · exact hashed fits.2
  · rw [if_neg fits,if_pos]
    by_contra unbroken
    obtain ⟨named,hashed⟩ := not_or.mp unbroken
    exact fits ⟨not_not.mp named,not_not.mp hashed⟩

theorem foldl_brokenEvents {truncated : Bool} {events : List ControlEventRecord} {check : ChainCheck}
    (within : ¬(check.checkedEvents = 0 ∧ truncated = true)) :
    (events.foldl (ChainCheck.step codec truncated) check).brokenEvents =
      check.brokenEvents+broken codec.seal check.previous (events.map ControlEventRecord.link) := by
  induction events generalizing check with
  | nil => rfl
  | cons event events ih =>
      have later : ¬((check.step codec truncated event).checkedEvents = 0 ∧ truncated = true) :=
        fun both => Nat.succ_ne_zero _ both.1
      rw [List.foldl_cons,ih later,step_brokenEvents _ _ within,List.map_cons,broken,Nat.add_assoc]
      rfl

theorem status_brokenEvents {events : List ControlEventRecord} {total limit : Nat} {truncated : Bool} :
    (auditChainStatusFromEvents codec events total limit truncated).brokenEvents =
      broken codec.seal (windowStart truncated (events.map ControlEventRecord.link)) (events.map ControlEventRecord.link) := by
  change (events.foldl (ChainCheck.step codec truncated) .start).brokenEvents = _
  cases truncated with
  | false =>
      rw [foldl_brokenEvents (by simp)]
      exact Nat.zero_add _
  | true =>
      cases events with
      | nil => rfl
      | cons event events =>
          have later : ¬((ChainCheck.start.step codec true event).checkedEvents = 0 ∧ true = true) :=
            fun both => Nat.succ_ne_zero _ both.1
          rw [List.foldl_cons,foldl_brokenEvents later,List.map_cons,broken]
          congr 1
          -- The first event of a window is checked against what it names itself.
          have fits : (ChainCheck.start.step codec true event).brokenEvents =
              (if Follows codec.seal event.previousHash event.link then 0 else 1) := by
            rw [←Nat.zero_add (if Follows codec.seal event.previousHash event.link then 0 else 1)]
            exact @step_brokenEvents codec true ⟨1,0,event.previousHash,none,none,none⟩ event (by simp)
          exact fits

-- What a verifier reports is the number of events that do not fit.
theorem verifier_spec (reports : Nat → Prop) {rows : List ControlEventRow} {truncated : Bool}
    {total limit : List ControlEventRecord → Nat} :
    (∃ status, (do
        let events ← rows.mapM (controlEventFromRow codec)
        return auditChainStatusFromEvents codec events (total events) (limit events) truncated) = Except.ok status ∧
      reports status.brokenEvents) ↔
    ∃ links, List.Forall₂ (Readable codec) rows links ∧
      reports (broken codec.seal (windowStart truncated links) links) := by
  constructor
  · intro reported
    obtain ⟨status,done,holds⟩ := reported
    obtain ⟨events,read,same⟩ := bind_ok done
    obtain rfl := Except.ok.inj same
    rw [status_brokenEvents] at holds
    exact ⟨_,chainLinks_ok.mp (ok_bind read),holds⟩
  · intro chain
    obtain ⟨links,readable,holds⟩ := chain
    obtain ⟨events,read,same⟩ := bind_ok (chainLinks_ok.mpr readable)
    obtain rfl := Except.ok.inj same
    refine ⟨_,ok_bind read,?_⟩
    rw [status_brokenEvents]
    exact holds

theorem full_spec (reports : Nat → Prop) {table : ControlEventTable} :
    (∃ status, fullAuditChainStatusForDiagnostics codec table = .ok status ∧ reports status.brokenEvents) ↔
    ∃ links, List.Forall₂ (Readable codec) table.hashed links ∧ reports (broken codec.seal none links) :=
  @verifier_spec codec reports table.hashed false List.length List.length

theorem window_spec (reports : Nat → Prop) {table : ControlEventTable} :
    (∃ status, auditChainStatus codec table = .ok status ∧ reports status.brokenEvents) ↔
    ∃ links, List.Forall₂ (Readable codec) table.window links ∧
      reports (broken codec.seal (windowStart table.truncated links) links) :=
  @verifier_spec codec reports table.window table.truncated (fun _ => table.hashed.length) fun _ => auditChainCheckLimit

end Codec
end ReactorOS
