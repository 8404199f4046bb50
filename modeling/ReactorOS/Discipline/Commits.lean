import ReactorOS.Discipline.Parts
namespace ReactorOS
open Concurrency Journal Protocol
variable {safety : SafetyConfig} {me : TaskId} {α β : Type} {p : Progress} {e : Env} {w : World}

-- The two ways a commit can go under its lock: refused, with automatic control off at
-- most, or made as a whole.
def Decided (made : List Event → Prop) : Except AppError Unit → List Event → Prop
  | .error _,new => new = [] ∨ new = [.runtime .autoDisabled]
  | .ok (),new => made new

section Decided
variable {made : List Event → Prop} {latches : SafetyLatchGenerations} {action : String}
  {next : Unit → Critical Event.work me AppError Unit}

theorem decided_check {s : Critical Event.work me AppError α} {k : α → Critical Event.work me AppError Unit}
    (silent : s.Silent) (rest : ∀ value, (s.run e w).1 = .ok value → leads (k value) e w [] (Decided made)) :
    leads (s >>= k) e w [] (Decided made) := leads_check silent rest fun _ => .inl rfl

theorem decided_latches (rest : latches.changedSince w.state.runtime = false → leads (next ()) e w [] (Decided made)) :
    leads (ensureSafetyLatchesUnchangedForCommit (some latches) action >>= next) e w [] (Decided made) := by
  refine leads_bind (leads_look ?_)
  dsimp only
  split
  · exact leads_emit (leads_throw (.inr rfl))
  · rename_i unchanged
    exact leads_pure (rest (by simpa using unchanged))

theorem decided_expected {expectedCurrent : Option ControlTargets} (rest : leads (next ()) e w [] (Decided made)) :
    leads (ensureExpectedCurrent expectedCurrent action >>= next) e w [] (Decided made) := by
  refine leads_bind (leads_look ?_)
  cases expectedCurrent with
  | none => exact leads_pure rest
  | some targets =>
      dsimp only
      split
      · exact leads_emit (leads_throw (.inr rfl))
      · exact leads_pure rest

end Decided

theorem refused_permitted {path : CommitPath} {latches : SafetyLatchGenerations} {new : List Event} {plant : Plant}
    (calm : p.Undisturbed) (acknowledged : p.acknowledged = some latches)
    (refused : new = [] ∨ new = [.runtime .autoDisabled]) :
    Permitted safety now plant p (.note (.commit path (some latches) false) :: new) ∧
      (Event.note (.commit path (some latches) false) :: new).foldr Progress.after p = p := by
  refine ⟨⟨?_,?_,?_,?_⟩,?_⟩
  · rcases refused with rfl | rfl <;>
      simp [Each,allowed,allowedNote,allowedChange,Progress.after,acknowledged]
  · rcases refused with rfl | rfl <;> simp
  · rcases refused with rfl | rfl <;> simp +contextual
  · intro _
    left
    rcases refused with rfl | rfl <;> exact calm
  · rcases refused with rfl | rfl <;> rfl

-- A commit that is refused or else records `made`, and marks which.
theorem committing_follows {path : CommitPath} {latches : SafetyLatchGenerations}
    {commit : Critical Event.work me AppError Unit} (made : World → List Event → Prop)
    (calm : p.Undisturbed) (acknowledged : p.acknowledged = some latches)
    (decided : ∀ e w, leads commit e w [] (Decided (made w)))
    (permitted : ∀ (e : Env) (w : World) new, made w new →
      Permitted safety e.now w.state p (.note (.commit path (some latches) true) :: new) ∧
        new.foldr Progress.after p = p) :
    Still safety p (locked (committing path (some latches) commit)) := by
  apply follows_section
  intro e w
  obtain ⟨outcome,new,ran,reached⟩ := decided e w
  rw [own_nil,extend_nil] at ran
  refine ⟨outcome,.note (.commit path (some latches) outcome.isOk) :: new,?_,?_⟩
  · simp [committing,ran]
  · cases outcome with
    | error refused => exact refused_permitted calm acknowledged reached
    | ok _ => exact permitted e w new reached

section Paths
variable {targets : ControlTargets} {latches : SafetyLatchGenerations}

theorem still_commitTargets {mode : TargetUpdateInterlockMode} {expectedCurrent : Option ControlTargets}
    (calm : p.Undisturbed) (acknowledged : p.acknowledged = some latches) :
    Still safety p (commitTargetsAfterFinalInterlock safety targets mode expectedCurrent (some latches) :
      Handler Event.work me AppError Unit) := by
  refine still_bind (still_silent silent_unfinishedBatches) fun unfinished => ?_
  refine committing_follows (fun w new => latches.changedSince w.state.runtime = false ∧
    new = [.runtime (.targetsSet targets)]) calm acknowledged ?_ ?_
  · intro e w
    refine leads_look ?_
    refine decided_check silent_ensure fun _ _ => ?_
    refine decided_latches fun unchanged => ?_
    refine decided_check (Section.silent_ofExcept _) fun _ _ => ?_
    exact decided_expected (leads_emitted ⟨unchanged,rfl⟩)
  · intro e w new made
    obtain ⟨unchanged,rfl⟩ := made
    refine ⟨Permitted.plain ?_ (by simp [Event.ordinary]) calm,rfl⟩
    simpa [Each,allowed,allowedNote,allowedChange,Progress.after,acknowledged,Change.apply,
      SafetyLatchGenerations.changedSince] using unchanged

theorem still_commitComponentTargets {command : SafeCommand} {requiresProvenSafeField : Bool}
    {expectedCurrent : Option ControlTargets} (calm : p.Undisturbed)
    (acknowledged : requiresProvenSafeField = true → p.acknowledged = some latches) :
    Still safety p (commitComponentTargetsAfterFinalInterlock safety command requiresProvenSafeField expectedCurrent
      (if requiresProvenSafeField then some latches else none) : Handler Event.work me AppError Unit) := by
  cases requiresProvenSafeField with
  | false =>
      refine follows_section fun e w => leads_emitted ⟨?_,rfl⟩
      exact Permitted.plain (by simp [Each,allowed,allowedChange]) (by simp [Event.ordinary]) calm
  | true =>
      refine still_bind (still_silent silent_unfinishedBatches) fun unfinished => ?_
      refine committing_follows (fun w new => latches.changedSince w.state.runtime = false ∧
        new = [.runtime (.targetsSet command.targets)]) calm (acknowledged rfl) ?_ ?_
      · intro e w
        refine leads_look ?_
        refine decided_check silent_ensure fun _ _ => ?_
        refine decided_latches fun unchanged => ?_
        refine decided_check (Section.silent_ofExcept _) fun _ _ => ?_
        exact decided_expected (leads_emitted ⟨unchanged,rfl⟩)
      · intro e w new made
        obtain ⟨unchanged,rfl⟩ := made
        refine ⟨Permitted.plain ?_ (by simp [Event.ordinary]) calm,rfl⟩
        simpa [Each,allowed,allowedNote,allowedChange,Progress.after,acknowledged rfl,Change.apply,
          SafetyLatchGenerations.changedSince] using unchanged

theorem unfinishedRead_follows (calm : p.Undisturbed) :
    (rules safety).follows (locked (do
      let unfinished ← orInternalLocked (unfinishedBatchesSqlx 100)
      note (.unfinishedRead (unfinished.map (·.id)))
      return unfinished) : Handler Event.work me AppError (List Batch)) p fun r q => match r with
        | .ok unfinished => q = {p with unfinished := some (unfinished.map (·.id))}
        | .error _ => q = p := by
  refine follows_section fun e w => leads_check silent_unfinishedBatches (fun unfinished read => ?_)
    fun _ => ⟨permitted_nil,rfl⟩
  refine leads_emit (leads_pure ⟨.plain ?_ (by simp [Event.ordinary]) calm,rfl⟩)
  have listed := unfinishedBatches_ok read
  simp [Each,allowed,allowedNote,listed]

theorem commitProcessActivation_follows {batchId : Int} {autoEnabled : Bool} {seen : Option Int}
    (calm : p.Undisturbed) (acknowledged : p.acknowledged = some latches) (looked : p.looked = some (batchId,seen)) :
    (rules safety).follows (commitProcessActivationAfterFinalInterlock safety batchId targets autoEnabled
      (some latches) : Handler Event.work me AppError Unit) p fun _ q => ∃ ids, q = {p with unfinished := ids} := by
  refine follows_seq (unfinishedRead_follows calm) ?_ fun error q same => ⟨p.unfinished,same⟩
  rintro unfinished q rfl
  refine follows_mono (committing_follows (fun w new => latches.changedSince w.state.runtime = false ∧
    (w.state.runtime.emergencyStop = false ∧ w.state.runtime.manualLock = false ∧
      w.state.runtime.lastControlError = none ∧ w.state.runtime.lastSensorError = none) ∧
    (batchId ∈ unfinished.map (·.id) ∧ ∀ id ∈ unfinished.map (·.id), id = batchId) ∧
    new = [.runtime (if autoEnabled then .autoEnabled else .autoDisabled),.runtime (.activeBatchSet (some batchId)),
      .runtime (.targetsSet targets)]) calm acknowledged ?_ ?_) fun _ _ same => ⟨_,same⟩
  · intro e w
    refine leads_look ?_
    refine decided_check silent_ensure fun _ clear => ?_
    refine decided_latches fun unchanged => ?_
    simp only [own_nil,extend_nil]
    cases active : w.state.runtime.activeBatchId with
    | some other => exact leads_throws (.inl rfl)
    | none =>
        refine decided_check (Section.silent_ofExcept _) fun _ consistent => ?_
        cases autoEnabled
        · exact leads_emit (leads_emit (leads_emitted
            ⟨unchanged,interlock_clear clear,consistent_ids rfl consistent,rfl⟩))
        · exact leads_emit (leads_emit (leads_emitted
            ⟨unchanged,interlock_clear clear,consistent_ids rfl consistent,rfl⟩))
  · intro e w new made
    obtain ⟨unchanged,clear,listed,rfl⟩ := made
    have note : allowedNote (((Change.targetsSet targets).apply w.state.runtime |> (Change.activeBatchSet (some batchId)).apply |>
        (if autoEnabled then Change.autoEnabled else .autoDisabled).apply |> (⟨·,w.state.db⟩))) {p with unfinished := some (unfinished.map (·.id))}
        (.commit (.activation batchId) (some latches) true) := by
      refine ⟨latches,rfl,acknowledged,fun _ => ⟨?_,?_⟩⟩
      · cases autoEnabled <;> exact unchanged
      · rintro batch same
        cases same
        cases autoEnabled <;> exact ⟨rfl,_,rfl,listed⟩
    cases autoEnabled
    · exact ⟨.plain ⟨⟨⟨⟨trivial,trivial⟩,seen,looked⟩,trivial⟩,note⟩ (by simp [Event.ordinary]) calm,rfl⟩
    · exact ⟨.plain ⟨⟨⟨⟨trivial,trivial⟩,seen,looked⟩,clear⟩,note⟩ (by simp [Event.ordinary]) calm,rfl⟩

end Paths
end ReactorOS
