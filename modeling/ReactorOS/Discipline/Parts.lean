import ReactorOS.Ai
import ReactorOS.Rules
import ReactorOS.Commit
namespace ReactorOS
open Concurrency Journal Protocol
variable {safety : SafetyConfig} {may : Event → Bool} {me : TaskId} {ε ε' α β : Type} {p : Progress}

-- Code that leaves the progress of its task where it was.
def Still (safety : SafetyConfig) (p : Progress) (t : Handler may me ε α) : Prop :=
  (rules safety).follows t p fun _ q => q = p

theorem still_done {result : Except ε α} : Still safety p (.done result : Handler may me ε α) :=
  follows_done rfl

theorem still_ofExcept {result : Except ε α} : Still safety p (Task.ofExcept result : Handler may me ε α) :=
  follows_done rfl

theorem still_silent {s : Critical may me ε α} (silent : s.Silent) : Still safety p (locked s) :=
  follows_silent silent fun _ _ => permitted_nil

theorem still_attempt {t : Handler may me ε α} (still : Still safety p t) :
    Still safety p (t.attempt : Handler may me ε' (Except ε α)) := follows_attempt still

theorem still_mapError {t : Handler may me ε α} {f : ε → ε'} (still : Still safety p t) :
    Still safety p (t.mapError f : Handler may me ε' α) := follows_mapError still

theorem still_bind {t : Handler may me ε α} {k : α → Handler may me ε β} (first : Still safety p t)
    (rest : ∀ value, Still safety p (k value)) : Still safety p (t >>= k) :=
  follows_still first rest fun _ => rfl

theorem still_orInternal {t : Handler may me Failure α} (still : Still safety p t) :
    Still safety p (orInternal t) := still_mapError still

theorem still_quiet {t : Handler Event.quiet me ε α} : Still safety p t := follows_steady quiet_steady

theorem still_field {t : Handler Event.field me ε α} (calm : p.Undisturbed) : Still safety p t :=
  follows_steady (field_steady calm)

theorem still_within {may' : Event → Bool} [Within may may'] {t : Handler may me ε α} (still : Still safety p t) :
    Still safety p (within t : Handler may' me ε α) := follows_relax Within.wider still

theorem still_within_quiet [Within Event.quiet may] {t : Handler Event.quiet me ε α} :
    Still safety p (within t : Handler may me ε α) := still_within still_quiet

theorem follows_catching {t : Handler may me ε α} {handler : ε → Handler may me ε' α}
    {R : Except ε α → Progress → Prop} {Q : Except ε' α → Progress → Prop} (first : (rules safety).follows t p R)
    (ok : ∀ value q, R (.ok value) q → Q (.ok value) q)
    (error : ∀ error q, R (.error error) q → (rules safety).follows (handler error) q Q) :
    (rules safety).follows (catching t handler) p Q := by
  unfold catching
  refine follows_bind (follows_attempt (follows_mono first ?_))
  intro r q reached
  cases r with
  | ok value => exact follows_done (ok value q reached)
  | error e => exact error e q reached

theorem still_catching {t : Handler may me ε α} {handler : ε → Handler may me ε' α} (first : Still safety p t)
    (rest : ∀ error, Still safety p (handler error)) : Still safety p (catching t handler) :=
  follows_catching first (fun _ _ same => same) fun error _ same => same ▸ rest error

-- What a request goes on to rely on is as it was.
structure Progress.Carries (p q : Progress) : Prop where
  running : q.running = p.running
  acknowledged : q.acknowledged = p.acknowledged
  looked : q.looked = p.looked

namespace Progress.Carries

theorem refl (p : Progress) : p.Carries p := ⟨rfl,rfl,rfl⟩

theorem trans {p q r : Progress} (first : p.Carries q) (second : q.Carries r) : p.Carries r :=
  ⟨second.running.trans first.running,second.acknowledged.trans first.acknowledged,
    second.looked.trans first.looked⟩

theorem calm {p q : Progress} (carries : p.Carries q) (calm : p.Undisturbed) : q.Undisturbed := by
  intro batch seen looked
  exact calm batch seen (carries.looked ▸ looked)

end Progress.Carries

def Carried (safety : SafetyConfig) (p : Progress) (t : Handler may me ε α) : Prop :=
  (rules safety).follows t p fun _ q => p.Carries q

theorem Still.carried {t : Handler may me ε α} (still : Still safety p t) : Carried safety p t :=
  follows_mono still fun _ _ same => same ▸ .refl p

theorem carried_bind {t : Handler may me ε α} {k : α → Handler may me ε β} (first : Carried safety p t)
    (rest : ∀ value q, p.Carries q → Carried safety q (k value)) : Carried safety p (t >>= k) :=
  follows_seq first (fun value q carries => follows_mono (rest value q carries) fun _ _ more => carries.trans more)
    fun _ _ carries => carries

theorem carried_within_quiet [Within Event.quiet may] {t : Handler Event.quiet me ε α} :
    Carried safety p (within t : Handler may me ε α) := Still.carried still_within_quiet

theorem carried_attempt {t : Handler may me ε α} (carried : Carried safety p t) :
    Carried safety p (t.attempt : Handler may me ε' (Except ε α)) := follows_attempt carried

theorem carried_catching {t : Handler may me ε α} {handler : ε → Handler may me ε' α} (first : Carried safety p t)
    (rest : ∀ error q, p.Carries q → Carried safety q (handler error)) : Carried safety p (catching t handler) :=
  follows_catching first (fun _ _ carries => carries) fun error q carries =>
    follows_mono (rest error q carries) fun _ _ more => carries.trans more

-- How a request leaves its task: with the task it may run for still its own, and able
-- to go on where it succeeded.
def Returned (p : Progress) (r : Except ε α) (q : Progress) : Prop :=
  q.running = p.running ∧ ((∃ value, r = .ok value) → q.Undisturbed)

theorem returned_error {error : ε} {q : Progress} (same : q.running = p.running) :
    Returned p (.error error : Except ε α) q := ⟨same,by rintro ⟨_,absurd⟩; cases absurd⟩

theorem returned_ok {value : α} {q : Progress} (same : q.running = p.running) (calm : q.Undisturbed) :
    Returned p (.ok value : Except ε α) q := ⟨same,fun _ => calm⟩

theorem Returned.since {q q' : Progress} {r : Except ε α} (returned : Returned q r q') (same : q.running = p.running) :
    Returned p r q' := ⟨returned.1.trans same,returned.2⟩

theorem returned_still {t : Handler may me ε α} (still : Still safety p t) (calm : p.Undisturbed) :
    (rules safety).follows t p (Returned p) :=
  follows_mono still fun _ _ same => ⟨by rw [same],fun _ => by rw [same]; exact calm⟩

theorem leads_statement {write : Write} {mine : may (.store write) = true} {e : Env} {w : World}
    {before : List Event} {ends : Except Failure Unit → List Event → Prop}
    (done : ends (.ok ()) (.store write :: before)) (failed : ∀ error, ends (.error error) before)
    (lost : ∀ error, ends (.error error) (.store write :: before)) :
    leads (statement write mine : Critical may me Failure Unit) e w before ends := by
  refine leads_look ?_
  cases e.db with
  | done => exact leads_emitted done
  | failed error => exact leads_throw (failed error)
  | lost error => exact leads_emit (leads_throw (lost error))

section Silent
variable {runtime : RuntimeState}

theorem silent_query {look : Env → Db → α} : (query look : Critical may me Failure α).Silent :=
  Section.silent_inspect _

theorem silent_runtimeState : (runtimeState : Critical may me ε RuntimeState).Silent := Section.silent_inspect _

theorem silent_answer : (answer : Critical may me ε Env).Silent := Section.silent_inspect _

theorem silent_utcNow : (utcNow : Critical may me ε Instant).Silent := Section.silent_inspect _

theorem silent_ensure {check : Instant → Except AppError α} : (ensure check : Critical may me AppError α).Silent :=
  Section.silent_bind (Section.silent_inspect _) fun _ => Section.silent_ofExcept _

theorem still_timed {check : Instant → Except AppError α} :
    Still safety p (timed check : Handler may me AppError α) := still_silent silent_ensure

theorem silent_unfinishedBatches {limit : Nat} :
    (orInternalLocked (unfinishedBatchesSqlx limit) : Critical may me AppError (List Batch)).Silent :=
  Section.silent_mapError silent_query _

theorem unfinishedBatches_ok {limit : Nat} {e : Env} {w : World} {listed : List Batch}
    (read : ((orInternalLocked (unfinishedBatchesSqlx limit) : Critical may me AppError (List Batch)).run e w).1 =
      .ok listed) : listed = w.state.db.unfinishedBatches limit := by
  cases answered : e.db <;>
    simp_all [orInternalLocked,unfinishedBatchesSqlx,query,Except.mapError]

theorem silent_unfinishedBatchStatus :
    (unfinishedBatchStatus runtime : Critical may me AppError UnfinishedBatchStatus).Silent :=
  Section.silent_bind silent_unfinishedBatches fun _ => Section.silent_pure _

theorem silent_liveAlarmsFor {sample : Option SensorSnapshot} {limits : SensorLimits} :
    (liveAlarmsFor safety runtime sample limits : Critical Event.work me AppError (List Alarm)).Silent :=
  Section.silent_bind silent_unfinishedBatchStatus fun _ => Section.silent_bind silent_utcNow fun _ => Section.silent_pure _

theorem silent_deviceStatusSummaryWithDb :
    (deviceStatusSummaryWithDb safety runtime : Critical Event.work me AppError DeviceStatusSummary).Silent :=
  Section.silent_bind silent_unfinishedBatchStatus fun _ => Section.silent_bind silent_utcNow fun _ => Section.silent_pure _

theorem silent_ensurePersistedBatchStateConsistent {mode : TargetUpdateInterlockMode} :
    (ensurePersistedBatchStateConsistent runtime mode : Critical may me AppError Unit).Silent :=
  Section.silent_bind silent_unfinishedBatchStatus fun _ => Section.silent_ofExcept _

theorem silent_ensureNoUnfinishedBatchRecoveryForReset {action : String} :
    (ensureNoUnfinishedBatchRecoveryForReset runtime action : Critical may me AppError Unit).Silent := by
  refine Section.silent_bind silent_unfinishedBatchStatus fun status => ?_
  cases status.recoveryRequired
  · exact Section.silent_pure _
  · exact Section.silent_throw _

theorem silent_ensureNoUnclosedDbBatchExcept {allowedBatchId : Option Int} :
    (ensureNoUnclosedDbBatchExcept runtime allowedBatchId : Critical may me AppError Unit).Silent := by
  unfold ensureNoUnclosedDbBatchExcept
  refine Section.silent_bind silent_unfinishedBatches fun unfinished => ?_
  dsimp only
  split
  · exact Section.silent_bind (Section.silent_throw _) fun _ => by split <;> first | exact Section.silent_throw _ | exact Section.silent_pure _
  · split
    · exact Section.silent_throw _
    · exact Section.silent_pure _

theorem still_ensureProcessCanStart :
    Still safety p (ensureProcessCanStart safety runtime : Handler may me AppError Unit) := by
  apply still_silent
  cases runtime.activeBatchId.isSome
  · exact Section.silent_bind silent_ensureNoUnclosedDbBatchExcept fun _ => silent_ensure
  · exact Section.silent_bind (Section.silent_throw _) fun _ => Section.silent_bind silent_ensureNoUnclosedDbBatchExcept fun _ => silent_ensure

end Silent
end ReactorOS
