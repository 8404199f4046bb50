import ReactorOS.Discipline.Parts
import ReactorOS.ControlLoop
namespace ReactorOS
open Concurrency Journal Protocol
variable {safety : SafetyConfig} {me : TaskId} {p : Progress} {config : LoopConfig}

-- What the loop takes for the last command is what it last delivered itself.
def Remembers (memory : LoopMemory) (p : Progress) : Prop :=
  ∀ last, memory.lastWrittenCommand = some last → p.remembered = some last.fingerprint

theorem remembers_forget {memory : LoopMemory} {q : Progress} : Remembers (forget memory) q := by
  simp [Remembers,forget]

theorem still_latchChanged {reason : String} (calm : p.Undisturbed) :
    Still safety p (within (locked (latchControlFaultChanged reason)) : Handler Event.work me AppError Bool) :=
  still_within (still_field calm)

-- Every outcome but a confirmation comes with a fault to latch.
theorem classifyAckOutcome_fault {status : AckStatus} {required : Bool} {budget : Nat}
    (unconfirmed : (classifyAckOutcome status required budget).confirmed = false) :
    ∃ fault, (classifyAckOutcome status required budget).fault = some fault := by
  cases status with
  | confirmed => simp [classifyAckOutcome] at unconfirmed
  | rejected detail => exact ⟨_,rfl⟩
  | timeout => exact ⟨_,rfl⟩
  | unverified =>
      cases required
      · simp [classifyAckOutcome] at unconfirmed
      · exact ⟨_,rfl⟩

-- What the loop passes with: a live decision to write the very command.
theorem liveInterlock_follows {command : SafeCommand} {snapshotBatchId : Option Int} {recheckPassed : Bool}
    (calm : p.Undisturbed) :
    (rules safety).follows (locked (liveInterlock config command snapshotBatchId recheckPassed) :
      Handler Event.work me AppError (ControlDecision × Option Int)) p fun r q =>
        ∃ decision active, r = .ok (decision,active) ∧
          q = if recheckPassed && decision = .write command && active = snapshotBatchId then {p with armed := true} else p := by
  refine follows_section fun e w => leads_look (leads_look ?_)
  dsimp only
  split
  · rename_i passed
    refine leads_emit (leads_pure ⟨.plain ⟨trivial,?_⟩ (by simp [Event.ordinary]) calm,_,_,rfl,by rw [if_pos passed]; rfl⟩)
    simp only [Bool.and_eq_true,decide_eq_true_eq] at passed
    exact (write_allowed passed.1.2).1
  · rename_i refused
    exact leads_pure ⟨permitted_nil,_,_,rfl,by rw [if_neg refused]; rfl⟩

theorem still_failFinalInterlock {decision : ControlDecision} (calm : p.Undisturbed) :
    (rules safety).follows (failFinalInterlock decision : Handler Event.work me AppError FinalInterlock) p
      fun r q => q = p ∧ ∀ active, r ≠ .ok (.passed active) := by
  unfold failFinalInterlock
  cases automaticFinalInterlockFaultReason decision with
  | none => exact follows_done ⟨rfl,by simp⟩
  | some reason =>
      refine follows_still (still_within (still_field calm)) (fun _ => ?_) fun _ => ⟨rfl,by simp⟩
      exact follows_still still_within_quiet (fun _ => follows_done ⟨rfl,by simp⟩) fun _ => ⟨rfl,by simp⟩

theorem finalInterlock_follows {command : SafeCommand} (calm : p.Undisturbed) :
    (rules safety).follows (finalInterlock config command : Handler Event.work me AppError FinalInterlock) p
      fun r q => q.Undisturbed ∧ q.remembered = p.remembered ∧ ∀ active, r = .ok (.passed active) → q.armed = true := by
  refine follows_still (still_silent silent_runtimeState) (fun snapshot => ?_) fun _ => ⟨calm,rfl,by simp⟩
  refine follows_still (still_attempt (still_silent silent_query)) (fun unfinished => ?_) fun _ => ⟨calm,rfl,by simp⟩
  cases unfinished with
  | error err =>
      refine follows_still still_within_quiet (fun _ => ?_) fun _ => ⟨calm,rfl,by simp⟩
      exact follows_still still_within_quiet (fun _ => follows_done ⟨calm,rfl,by simp⟩) fun _ => ⟨calm,rfl,by simp⟩
  | ok unfinished =>
      dsimp only
      cases automaticBatchStateIsConsistent snapshot.activeBatchId unfinished with
      | error reason =>
          refine follows_still (still_latchChanged calm) (fun _ => ?_) fun _ => ⟨calm,rfl,by simp⟩
          exact follows_still still_within_quiet (fun _ => follows_done ⟨calm,rfl,by simp⟩) fun _ => ⟨calm,rfl,by simp⟩
      | ok _ =>
          refine follows_still (still_silent silent_answer) (fun env => ?_) fun _ => ⟨calm,rfl,by simp⟩
          refine follows_seq (liveInterlock_follows calm) ?_ fun _ _ refused => by obtain ⟨_,_,absurd,_⟩ := refused; cases absurd
          rintro ⟨live,active⟩ q ⟨_,_,⟨⟩,same⟩
          dsimp only
          split
          · rename_i decided
            split
            · rename_i batch
              rw [if_pos (by simp_all)] at same
              subst same
              exact follows_done ⟨calm,rfl,fun _ _ => rfl⟩
            · rename_i batch
              rw [if_neg (by simp_all)] at same
              subst same
              exact follows_done ⟨calm,rfl,by simp⟩
          · rename_i undecided
            rw [if_neg (by simp_all)] at same
            subst same
            refine follows_mono (still_failFinalInterlock calm) ?_
            rintro r q ⟨same,refused⟩
            subst same
            exact ⟨calm,rfl,fun active ok => absurd ok (refused active)⟩

theorem writeAcknowledged_follows {command : SafeCommand} (calm : p.Undisturbed) (armed : p.armed = true) :
    (rules safety).follows (writeTargetsAcknowledged config command : Handler Event.work me Failure AckStatus) p
      fun r q => q.Undisturbed ∧ ∀ status, r = .ok status →
        (classifyAckOutcome status config.safety.control.requireCommandAck
          config.safety.control.commandAckTimeoutMs).confirmed = true → q.delivered = some command.fingerprint := by
  refine follows_section fun e w => leads_look (leads_emit (leads_silent (Section.silent_ofExcept _) ?_))
  refine ⟨.plain ⟨trivial,armed⟩ (by simp [Event.ordinary]) calm,calm,?_⟩
  intro status ok confirmed
  have answered : e.ack = .ok status := ok
  simp [rules,Progress.after,answered,confirmed]

theorem rememberDelivery_follows {memory : LoopMemory} {command : SafeCommand} {active : Option Int}
    {status : AckStatus} {requestId : String} (calm : p.Undisturbed) (delivered : p.delivered = some command.fingerprint) :
    (rules safety).follows (rememberDelivery memory command active status requestId :
      Handler Event.work me AppError LoopMemory) p fun r q => q.Undisturbed ∧ ∀ memory, r = .ok memory → Remembers memory q := by
  refine follows_still (still_attempt still_within_quiet) (fun audited => ?_) fun _ => ⟨calm,by simp⟩
  cases audited with
  | error err =>
      refine follows_still still_within_quiet (fun _ => follows_done ⟨calm,?_⟩) fun _ => ⟨calm,by simp⟩
      rintro _ ⟨⟩
      exact remembers_forget
  | ok _ =>
      refine follows_section fun e w => leads_look (leads_emit (leads_pure ?_))
      refine ⟨.plain ⟨trivial,delivered⟩ (by simp [Event.ordinary]) calm,calm,?_⟩
      rintro _ ⟨⟩ last ⟨⟩
      rfl

theorem deliver_follows {memory : LoopMemory} {command : SafeCommand} {active : Option Int} (calm : p.Undisturbed)
    (armed : p.armed = true) :
    (rules safety).follows (deliver config memory command active : Handler Event.work me AppError LoopMemory) p
      fun r q => q.Undisturbed ∧ ∀ memory, r = .ok memory → Remembers memory q := by
  refine follows_still (still_silent silent_utcNow) (fun sent => ?_) fun _ => ⟨calm,by simp⟩
  refine follows_seq (R := fun r q => q.Undisturbed ∧ ∀ status, r = .ok (.ok status) →
    (classifyAckOutcome status config.safety.control.requireCommandAck
      config.safety.control.commandAckTimeoutMs).confirmed = true → q.delivered = some command.fingerprint)
    (follows_attempt (follows_mono (writeAcknowledged_follows calm armed) fun r q written =>
      ⟨written.1,fun status ok => written.2 status (Except.ok.inj ok)⟩)) ?_ fun _ _ refused => ⟨refused.1,by simp⟩
  rintro outcome q ⟨settled,delivered⟩
  cases outcome with
  | error err =>
      refine follows_still (still_silent silent_utcNow) (fun now => ?_) fun _ => ⟨settled,by simp⟩
      refine follows_still still_within_quiet (fun _ => ?_) fun _ => ⟨settled,by simp⟩
      refine follows_still still_within_quiet (fun _ => follows_done ⟨settled,?_⟩) fun _ => ⟨settled,by simp⟩
      rintro _ ⟨⟩ last ⟨⟩
  | ok status =>
      dsimp only
      split
      · rename_i confirmed
        exact rememberDelivery_follows settled (delivered status rfl confirmed)
      · rename_i unconfirmed
        obtain ⟨⟨reason,eventType⟩,fault⟩ := classifyAckOutcome_fault (by simpa using unconfirmed)
        unfold latchUnconfirmed
        rw [fault]
        refine follows_still (still_silent silent_utcNow) (fun now => ?_) fun _ => ⟨settled,by simp⟩
        refine follows_still (still_latchChanged settled) (fun _ => ?_) fun _ => ⟨settled,by simp⟩
        refine follows_still still_within_quiet (fun _ => follows_done ⟨settled,?_⟩) fun _ => ⟨settled,by simp⟩
        rintro _ ⟨⟩ last ⟨⟩

theorem tick_follows {memory : LoopMemory} (calm : p.Undisturbed) (remembers : Remembers memory p) :
    (rules safety).follows (tick config memory : Handler Event.work me AppError LoopMemory) p
      fun r q => q.Undisturbed ∧ ∀ memory, r = .ok memory → Remembers memory q := by
  refine follows_still (still_within (still_field calm)) (fun _ => ?_) fun _ => ⟨calm,by simp⟩
  refine follows_still (still_within (still_field calm)) ?_ fun _ => ⟨calm,by simp⟩
  rintro ⟨active,disabled⟩
  refine follows_still still_within_quiet (fun _ => ?_) fun _ => ⟨calm,by simp⟩
  refine follows_still (still_silent ?_) (fun decision => ?_) fun _ => ⟨calm,by simp⟩
  · exact Section.silent_bind silent_runtimeState fun _ => Section.silent_bind silent_answer fun _ => Section.silent_pure _
  cases decision with
  | blocked reason =>
      refine follows_done ⟨calm,?_⟩
      rintro _ ⟨⟩
      exact remembers_forget
  | write command =>
      have skip : Still safety p (locked (do
          let now ← utcNow
          if memory.retryAfter.any fun deadline => now < deadline then return true
          if memory.lastWrittenCommand.any fun last => last.matchesRecent now command.fingerprint config.safety then
            note (.commandSkipped command.fingerprint)
            return true
          return false) : Handler Event.work me AppError Bool) := by
        refine follows_section fun e w => leads_look ?_
        refine leads_ite (fun _ => leads_pure ⟨permitted_nil,rfl⟩) fun _ => leads_ite (fun recent => ?_) fun _ => leads_pure ⟨permitted_nil,rfl⟩
        refine leads_emit (leads_pure ⟨.plain ⟨trivial,?_⟩ (by simp [Event.ordinary]) calm,rfl⟩)
        cases written : memory.lastWrittenCommand with
        | none => simp [written] at recent
        | some last =>
            have same : last.fingerprint = command.fingerprint := by
              simp [written,LastWrittenCommand.matchesRecent] at recent
              exact recent.1
            have remembered := remembers last written
            rw [same] at remembered
            exact remembered
      refine follows_still skip (fun skipped => ?_) fun _ => ⟨calm,by simp⟩
      split
      · refine follows_done ⟨calm,?_⟩
        rintro _ ⟨⟩
        exact remembers
      · refine follows_seq (finalInterlock_follows calm) ?_ fun _ _ refused => ⟨refused.1,by simp⟩
        rintro passed q ⟨settled,_,armed⟩
        cases passed with
        | refused =>
            refine follows_done ⟨settled,?_⟩
            rintro _ ⟨⟩
            exact remembers_forget
        | passed active => exact deliver_follows settled (armed active rfl)

theorem controlLoop_follows {rounds : Nat} {memory : LoopMemory} (calm : p.Undisturbed) (remembers : Remembers memory p) :
    (rules safety).follows (controlLoop config rounds memory : Handler Event.work me AppError Unit) p fun _ _ => True := by
  induction rounds generalizing memory p with
  | zero => exact follows_done trivial
  | succ rounds ih =>
      refine follows_seq (tick_follows calm remembers) ?_ fun _ _ _ => trivial
      rintro memory q ⟨settled,kept⟩
      exact ih settled (kept memory rfl)

end ReactorOS
