import ReactorOS.AuditVerifier
namespace ReactorOS
open Wire HashChain
variable (codec : AuditCodec)

-- The windowed verifier with the size of its window as a parameter.
def auditChainStatusWithin (limit : Nat) (table : ControlEventTable) : Except String AuditChainStatus := do
  let totalHashedEvents := table.hashed.length
  let verificationTruncated := limit < totalHashedEvents
  let events ← (table.hashed.drop (totalHashedEvents-limit)).mapM (controlEventFromRow codec)
  return auditChainStatusFromEvents codec events totalHashedEvents limit verificationTruncated

-- The rounds of the verifier's loop that count their event as broken.
def ChainCheck.counted (truncated : Bool) : ChainCheck → List ControlEventRecord → List Bool
  | _,[] => []
  | check,event :: events =>
      let next := check.step codec truncated event
      decide (check.brokenEvents < next.brokenEvents) :: ChainCheck.counted truncated next events

variable {codec}

theorem counted_marks {events : List ControlEventRecord} {check : ChainCheck} :
    check.counted codec false events = marks codec.seal check.previous (events.map ControlEventRecord.link) := by
  induction events generalizing check with
  | nil => rfl
  | cons event events ih =>
      rw [ChainCheck.counted,List.map_cons,marks,step_brokenEvents check event (by simp),ih]
      congr 1
      by_cases fits : Follows codec.seal check.previous event.link <;> simp [fits]

-- The rows that the full verifier marks as broken.
def brokenRows (codec : AuditCodec) (events : List ControlEventRecord) : List Bool :=
  ChainCheck.start.counted codec false events

-- The first event of a cut window names another predecessor than the row before it, and is
-- otherwise whole.
def cutMisnamed (codec : AuditCodec) (limit : Nat) (events : List ControlEventRecord) : Nat :=
  let older := events.take (events.length-limit)
  match older.getLast?,events.drop (events.length-limit) with
  | some before,first :: _ => if Misnamed codec.seal before.eventHash first.link then 1 else 0
  | _,_ => 0

theorem mapM_drop {ε α β : Type} {f : α → Except ε β} {rows : List α} {values : List β}
    (read : rows.mapM f = .ok values) (count : Nat) : (rows.drop count).mapM f = .ok (values.drop count) :=
  mapM_ok.mpr (List.forall₂_drop count (mapM_ok.mp read))

theorem window_broken (codec : AuditCodec) (limit : Nat) (events : List ControlEventRecord) (total : Nat) :
    (auditChainStatusFromEvents codec (events.drop (events.length-limit)) total limit
        (decide (limit < events.length))).brokenEvents + cutMisnamed codec limit events =
      ((brokenRows codec events).drop (events.length-limit)).count true := by
  have split : events.take (events.length-limit) ++ events.drop (events.length-limit) = events := List.take_append_drop _ _
  have before : (events.take (events.length-limit)).length = events.length-limit := by
    rw [List.length_take]
    omega
  have whole : brokenRows codec events = marks codec.seal none (events.map ControlEventRecord.link) := counted_marks
  rw [status_brokenEvents,whole]
  unfold cutMisnamed
  simp only
  generalize events.take (events.length-limit) = older at split before
  generalize events.drop (events.length-limit) = newer at split
  have marked : (marks codec.seal none (events.map ControlEventRecord.link)).drop (events.length-limit) =
      marks codec.seal (tail none (older.map ControlEventRecord.link)) (newer.map ControlEventRecord.link) := by
    rw [← before]
    conv_lhs => rw [← split]
    rw [List.map_append,marks_append,List.drop_left' (by rw [marks_length,List.length_map])]
  rw [marked,← broken_marks]
  cases older using List.reverseRecOn with
  | nil =>
      have full : ¬limit < events.length := by
        rw [List.length_nil] at before
        omega
      rw [decide_eq_false full]
      rfl
  | append_singleton older last =>
      have cut : limit < events.length := by
        rw [List.length_append,List.length_singleton] at before
        omega
      rw [decide_eq_true cut,List.map_append,List.map_singleton,tail_snoc,List.getLast?_concat]
      cases newer with
      | nil => rfl
      | cons first newer => exact broken_believed last.eventHash first.link (newer.map ControlEventRecord.link)

theorem valid_iff {events : List ControlEventRecord} {total limit : Nat} {truncated : Bool} :
    (auditChainStatusFromEvents codec events total limit truncated).valid = true ↔
      (auditChainStatusFromEvents codec events total limit truncated).brokenEvents = 0 ∧ truncated = false := by
  unfold auditChainStatusFromEvents
  simp

-- A window over the whole table counts as the full verifier does.
theorem covered_broken {events : List ControlEventRecord} {total limit : Nat} :
    (auditChainStatusFromEvents codec events total limit false).brokenEvents =
      (auditChainStatusFromEvents codec events events.length events.length false).brokenEvents := by
  rw [status_brokenEvents,status_brokenEvents]

-- The windowed verifier believes the first row of a cut window what it names as its
-- predecessor; besides that it counts what the full verifier marks in the window.
theorem windowed_verification_agrees (codec : AuditCodec) (limit : Nat) (table : ControlEventTable) :
    (∀ full, fullAuditChainStatusForDiagnostics codec table = .ok full → ∃ events window,
      table.hashed.mapM (controlEventFromRow codec) = .ok events ∧ auditChainStatusWithin codec limit table = .ok window ∧
        full.brokenEvents = (brokenRows codec events).count true ∧
        window.brokenEvents + cutMisnamed codec limit events =
          ((brokenRows codec events).drop (table.hashed.length-limit)).count true) ∧
    ((∃ window, auditChainStatusWithin codec limit table = .ok window ∧ window.valid = true) ↔
      table.hashed.length ≤ limit ∧ ∃ full, fullAuditChainStatusForDiagnostics codec table = .ok full ∧
        full.brokenEvents = 0) := by
  constructor
  · intro full checked
    obtain ⟨events,read,same⟩ := bind_ok checked
    obtain rfl := Except.ok.inj same
    have length := (mapM_ok.mp read).length_eq
    have counts := window_broken codec limit events table.hashed.length
    rw [← length] at counts
    refine ⟨events,_,read,ok_bind (mapM_drop read _),?_,counts⟩
    rw [status_brokenEvents,brokenRows,counted_marks,← broken_marks]
    rfl
  · constructor
    · intro ⟨window,checked,valid⟩
      obtain ⟨events,read,same⟩ := bind_ok checked
      obtain rfl := Except.ok.inj same
      obtain ⟨unbroken,uncut⟩ := valid_iff.mp valid
      have covered : table.hashed.length ≤ limit := not_lt.mp (of_decide_eq_false uncut)
      rw [Nat.sub_eq_zero_of_le covered,List.drop_zero] at read
      rw [uncut,covered_broken] at unbroken
      exact ⟨covered,_,ok_bind read,unbroken⟩
    · intro ⟨covered,full,checked,unbroken⟩
      obtain ⟨events,read,same⟩ := bind_ok checked
      obtain rfl := Except.ok.inj same
      have all := read
      rw [← List.drop_zero (l := table.hashed),← Nat.sub_eq_zero_of_le covered] at all
      refine ⟨_,ok_bind all,valid_iff.mpr ⟨?_,decide_eq_false (not_lt.mpr covered)⟩⟩
      rw [decide_eq_false (not_lt.mpr covered),covered_broken]
      exact unbroken

end ReactorOS
