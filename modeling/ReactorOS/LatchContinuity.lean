import ReactorOS.Latches
namespace ReactorOS
open Concurrency Journal Protocol
variable {site : Site} {history older : List (TaskId × Event)} {me : TaskId}

def acknowledges (me : TaskId) (entry : TaskId × Event) : Bool :=
  entry.1 = me && entry.2 matches .note (.latchesAcknowledged _)

-- A latch has engaged since the request last captured the generations.
def engagedSinceAcknowledged (me : TaskId) (history : List (TaskId × Event)) : Bool :=
  (history.takeWhile fun entry => !acknowledges me entry).any fun entry => entry.2.engaging

-- A commit before which a latch has engaged is refused, and the runtime is left as
-- `left` says. `earlier` is what the committing section recorded before.
def RefusesAfterEngagement (left : RuntimeState → RuntimeState → Prop) (site : Site) (jobs : TaskId → Job)
    (schedule : List (TaskId × Env)) (me : TaskId) (env : Env) : Prop :=
  ∀ path latches accepted later earlier, (site.after jobs (schedule ++ [(me,env)])).history =
      later ++ (me,.note (.commit path latches accepted)) :: (earlier ++ (site.after jobs schedule).history) →
    engagedSinceAcknowledged me (earlier ++ (site.after jobs schedule).history) = true →
      accepted = false ∧ left (site.after jobs schedule).state.runtime
        (site.after jobs (schedule ++ [(me,env)])).state.runtime

def Unchanged (before after : RuntimeState) : Prop :=
  after.targets = before.targets ∧ after.activeBatchId = before.activeBatchId ∧ after.autoEnabled = before.autoEnabled

def UnchangedOrDisarmed (before after : RuntimeState) : Prop :=
  after.targets = before.targets ∧ after.activeBatchId = before.activeBatchId ∧
    (after.autoEnabled = before.autoEnabled ∨ after.autoEnabled = false)

theorem takeWhile_upTo {α : Type} {p : α → Bool} {since rest : List α} {stop : α} (stops : p stop = false) :
    ∀ entry ∈ (since ++ stop :: rest).takeWhile p, entry ∈ since := by
  intro entry member
  induction since with
  | nil => simp [stops] at member
  | cons first since ih =>
      rw [List.cons_append,List.takeWhile_cons] at member
      split at member
      · rcases List.mem_cons.mp member with rfl | further
        · simp
        · exact List.mem_cons_of_mem _ (ih further)
      · cases member

-- The capture on which a commit relies, and that nothing engaged in the meantime if
-- the generations still agree.
theorem unengaged_since (holds : site.Allowed history) {latches : SafetyLatchGenerations}
    (acknowledged : ((rules site.safety).progress me history).acknowledged = some latches)
    (unchanged : latches.changedSince (replay site.startUp history).runtime = false)
    (room : ∀ latch, ((replay site.startUp history).runtime.generation latch).val < u64Max) :
    engagedSinceAcknowledged me history = false := by
  obtain ⟨since,event,older,rfl,before,now,held⟩ :=
    progress_since _ (fun p : Progress => p.acknowledged = some latches) (by simp [rules]) acknowledged
  have moved := Progress.acknowledged_after event ((rules site.safety).progress me older)
  change (Progress.after event _).acknowledged = _ at now
  rw [now] at moved
  split at moved
  · rename_i captured
    obtain rfl : latches = captured := Option.some.inj moved
    have current : latches = .fromRuntime (replay site.startUp older).runtime := holds.event
    rw [←Bool.not_eq_true]
    intro engaged
    obtain ⟨entry,recent,engaging⟩ := List.any_eq_true.mp engaged
    obtain ⟨latch,engages⟩ := engaging_latch engaging
    have same := unchanged_generation unchanged latch
    have captured := congrArg (fun seen => seen.generation latch) current
    simp only [fromRuntime_generation] at captured
    rw [captured] at same
    have quiet := unengaged same (room latch) entry (takeWhile_upTo (by simp [acknowledges]) entry recent)
    rw [quiet] at engages
    cases engages
  · exact absurd moved.symm before

theorem refused_leaves {path : CommitPath} {latches : Option SafetyLatchGenerations} (plant : Plant) (new : List Event)
    (harmless : ∀ event ∈ new, event = .runtime .autoDisabled ∨ event = .note (.commit path latches false)) :
    UnchangedOrDisarmed plant.runtime (new.foldr Effect.apply plant).runtime := by
  induction new with
  | nil => exact ⟨rfl,rfl,.inl rfl⟩
  | cons event new ih =>
      obtain ⟨targets,active,auto⟩ := ih fun other member => harmless other (by simp [member])
      rcases harmless event (by simp) with rfl | rfl
      · exact ⟨targets,active,.inr rfl⟩
      · exact ⟨targets,active,auto⟩

theorem commit_refuses_after_engagement {jobs : TaskId → Job} {schedule : List (TaskId × Env)}
    (me : TaskId) (env : Env)
    (counting : site.Counting jobs (schedule ++ [(me,env)])) :
    RefusesAfterEngagement UnchangedOrDisarmed site jobs schedule me env := by
  intro path latches accepted later earlier split engaged
  have holds := site.after_allowed jobs (schedule ++ [(me,env)])
  rw [split] at holds
  obtain ⟨acknowledged,rfl,captured,passes⟩ := holds.event
  have record : ∃ new, site.after jobs (schedule ++ [(me,env)]) = (site.after jobs schedule).extend (own me new) ∧
      Permitted site.safety env.now (site.after jobs schedule).state
        ((rules site.safety).progress me (site.after jobs schedule).history) new := by
    rcases site.after_step jobs schedule me env with still | lawful
    · refine ⟨[],still,permitted_nil⟩
    · exact lawful
  obtain ⟨new,moved,permitted⟩ := record
  have mine : own me new = later ++ (me,.note (.commit path (some acknowledged) accepted)) :: earlier := by
    rw [moved,extend_history] at split
    exact List.append_cancel_right (by rw [split]; simp)
  have member : Event.note (.commit path (some acknowledged) accepted) ∈ new := by
    have found : (me,Event.note (.commit path (some acknowledged) accepted)) ∈ own me new := by rw [mine]; simp
    obtain ⟨event,inside,same⟩ := List.mem_map.mp found
    obtain ⟨_,rfl⟩ := Prod.mk.inj same
    exact inside
  have refused : accepted = false := by
    rw [←Bool.not_eq_true]
    intro granted
    obtain ⟨unchanged,_⟩ := passes granted
    have quiet := unengaged_since holds.older.1 captured unchanged ?_
    · rw [quiet] at engaged
      cases engaged
    · intro latch
      have room := counting.room split latch
      exact room
  subst refused
  refine ⟨rfl,?_⟩
  rw [moved,extend_own]
  exact refused_leaves _ new (permitted.refusals _ _ member)

def lockBetween : TaskId → Job
  | 0 => .controlLoop .simulation 1
  | 1 => .setTargets ⟨60,300,none⟩ .system
  | 2 => .engageManualLock .system
  | 3 => .releaseManualLock .system
  | _ => .setAuto true .system

theorem commit_refuses_after_engagement_lock :
    (Site.shipped.after lockBetween (healthy [0,0,0,0,0,0,0,1,1,1,1,1,2,3,3,3,3,3,3,3,1])).state.runtime.targets =
      (Site.shipped.after lockBetween (healthy [0,0,0,0,0,0,0,1,1,1,1,1,2,3,3,3,3,3,3,3])).state.runtime.targets := by
  have counting : Site.shipped.Counting lockBetween (healthy [0,0,0,0,0,0,0,1,1,1,1,1,2,3,3,3,3,3,3,3] ++ healthy [1]) := by
    intro latch
    cases latch <;> decide +kernel
  have refused := commit_refuses_after_engagement 1 .healthy counting .targets (some ⟨0,0,0⟩) false []
    [(1,.runtime .autoDisabled)] (by decide +kernel) (by decide +kernel)
  exact refused.2.1

-- Another request has switched automatic control on in the meantime; the refusal
-- switches it off.
theorem commit_refusal_disarms :
    ¬RefusesAfterEngagement Unchanged .shipped lockBetween
      (healthy [0,0,0,0,0,0,0,1,1,1,1,1,2,3,3,3,3,3,3,3,4,4,4,4,4]) 1 .healthy := by
  intro refuses
  have left := refuses .targets (some ⟨0,0,0⟩) false [] [(1,.runtime .autoDisabled)] (by decide +kernel) (by decide +kernel)
  have changed : ¬Unchanged
      (Site.shipped.after lockBetween (healthy [0,0,0,0,0,0,0,1,1,1,1,1,2,3,3,3,3,3,3,3,4,4,4,4,4])).state.runtime
      (Site.shipped.after lockBetween (healthy [0,0,0,0,0,0,0,1,1,1,1,1,2,3,3,3,3,3,3,3,4,4,4,4,4] ++
        [(1,.healthy)])).state.runtime := by
    unfold Unchanged
    decide +kernel
  exact changed left.2

end ReactorOS
