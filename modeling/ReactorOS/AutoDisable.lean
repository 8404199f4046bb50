import ReactorOS.Behaviours
import ReactorOS.Discipline.Daemon
namespace ReactorOS
open Concurrency Journal Task Section
variable {safety : SafetyConfig} {me : TaskId} {actor : AuditActor} {ε α β : Type} {front : Moments}

-- What the last section of an enabling request finds where it turns automatic control on.
structure EnableClear (safety : SafetyConfig) (latches : SafetyLatchGenerations) (found : Env) (plant : Plant) : Prop where
  interlock : ensureTargetUpdateInterlockClear safety found.now plant.runtime .autoEnable = .ok ()
  unchanged : latches.changedSince plant.runtime = false
  answered : found.db = .done
  consistent : ensurePersistedBatchStatusConsistent (unfinishedBatchStatusFromBatches (plant.db.unfinishedBatches 100)
    plant.runtime) plant.runtime .autoEnable = .ok ()

def Enables (me : TaskId) (moment : Moment Env World) : Prop := (me,.runtime .autoEnabled) ∈ moment.recorded

section Enable
variable {latches : SafetyLatchGenerations}

theorem enables_silent {e : Env} {w : World} : ¬Enables me ⟨e,w,w⟩ := by simp [Enables]

theorem enables_disabled {e : Env} {w : World} : ¬Enables me ⟨e,w,w.emit me (.runtime .autoDisabled)⟩ := by simp [Enables]

theorem enables_enabled {e : Env} {w : World} : Enables me ⟨e,w,w.emit me (.runtime .autoEnabled)⟩ := by simp [Enables]

theorem enables_acknowledged {e : Env} {w : World} : ¬Enables me ⟨e,w,acknowledged me w⟩ := by
  have world : acknowledged me w = w.extend [(me,.note (.latchesAcknowledged
    (.fromRuntime {w.state.runtime with autoEnabled := false}))),(me,.runtime .autoDisabled)] := rfl
  rw [Enables,world,Moment.recorded_extend]
  simp

-- The mark that a commit leaves in the record is no enabling.
theorem committing_enables {path : CommitPath} {latches : Option SafetyLatchGenerations}
    {commit : Critical Event.work me AppError Unit} (e : Env) (w : World) :
    Enables me ⟨e,w,((committing path latches commit).run e w).2⟩ ↔ Enables me ⟨e,w,(commit.run e w).2⟩ := by
  obtain ⟨new,_,same⟩ := commit.kept e w
  have marked : ((committing path latches commit).run e w).2 =
      w.extend ((me,.note (.commit path latches (commit.run e w).1.isOk)) :: new) := by
    rw [extend_cons,← same]
    rfl
  unfold Enables
  rw [marked,same,Moment.recorded_extend,Moment.recorded_extend]
  simp

theorem enable_section (e : Env) (w : World) : Enables me ⟨e,w,((committing .autoEnable (some latches) (do
      let runtime ← runtimeState
      ensure fun now => ensureTargetUpdateInterlockClear safety now runtime .autoEnable
      if latches.changedSince runtime then
        change .autoDisabled
        throw (.conflict "automatic control enable safety state changed during audit; operator must re-check field state")
      ensurePersistedBatchStateConsistent runtime .autoEnable
      change .autoEnabled) : Critical Event.work me AppError Unit).run e w).2⟩ ↔ EnableClear safety latches e w.state := by
  rw [committing_enables,run_bind,run_runtimeState,chain_ok,run_bind,run_ensure]
  cases clear : ensureTargetUpdateInterlockClear safety e.now w.state.runtime .autoEnable with
  | error err =>
      refine iff_of_false enables_silent fun found => ?_
      rw [found.interlock] at clear
      cases clear
  | ok _ =>
      rw [chain_ok]
      cases changed : latches.changedSince w.state.runtime with
      | true =>
          refine iff_of_false enables_disabled fun found => ?_
          rw [found.unchanged] at changed
          cases changed
      | false =>
          simp only [Bool.false_eq_true,if_false]
          rw [run_bind,run_persisted]
          cases read : e.db with
          | failed error =>
              refine iff_of_false enables_silent fun found => ?_
              rw [found.answered] at read
              cases read
          | lost error =>
              refine iff_of_false enables_silent fun found => ?_
              rw [found.answered] at read
              cases read
          | done =>
              simp only
              cases consistent : ensurePersistedBatchStatusConsistent
                  (unfinishedBatchStatusFromBatches (w.state.db.unfinishedBatches 100) w.state.runtime)
                  w.state.runtime .autoEnable with
              | error err =>
                  refine iff_of_false enables_silent fun found => ?_
                  rw [found.consistent] at consistent
                  cases consistent
              | ok _ => exact iff_of_true enables_enabled ⟨clear,changed,read,consistent⟩

-- An enabling request takes five steps at most, and enables in the fifth if at all.
structure EnablesLast (safety : SafetyConfig) (me : TaskId) (moments : Moments) : Prop where
  short : moments.length ≤ 5
  early : ∀ moment ∈ moments.take 4, ¬Enables me moment
  last : ∀ first final, moments[0]? = some first → moments[4]? = some final →
    (Enables me final ↔ EnableClear safety (.fromRuntime first.before.state.runtime) final.answer final.before.state)

theorem enablesLast_early (few : front.length ≤ 4) (early : ∀ moment ∈ front, ¬Enables me moment) :
    EnablesLast safety me front := by
  refine ⟨Nat.le_succ_of_le few,fun moment member => early moment (List.mem_of_mem_take member),?_⟩
  intro first final _ fifth
  have inside := (List.getElem?_eq_some_iff.mp fifth).choose
  omega

-- A request that has not finished has only taken some of its steps.
theorem enablesLast_prefix {later : Moments} (holds : EnablesLast safety me (front ++ later)) : EnablesLast safety me front := by
  have still : ∀ (n : Nat) (moment : Moment Env World), front[n]? = some moment → (front ++ later)[n]? = some moment := by
    intro n moment found
    obtain ⟨inside,_⟩ := List.getElem?_eq_some_iff.mp found
    exact (List.getElem?_append_left inside).trans found
  refine ⟨?_,?_,?_⟩
  · have short := holds.short
    rw [List.length_append] at short
    omega
  · intro moment member
    apply holds.early moment
    rw [List.take_append]
    exact List.mem_append_left _ member
  · intro first final opens closes
    exact holds.last first final (still 0 first opens) (still 4 final closes)

theorem EnablesLast.only {moments : Moments} {moment final : Moment Env World} (holds : EnablesLast safety me moments)
    (fifth : moments[4]? = some final) (member : moment ∈ moments) (enables : Enables me moment) : final = moment := by
  obtain ⟨n,position⟩ := List.mem_iff_getElem?.mp member
  by_cases before : n < 4
  · have taken := (List.getElem?_take_of_lt before).trans position
    exact absurd enables (holds.early moment (List.mem_of_getElem? taken))
  · obtain ⟨inside,_⟩ := List.getElem?_eq_some_iff.mp position
    have short := holds.short
    obtain rfl : n = 4 := by omega
    exact Option.some.inj (fifth.symm.trans position)

-- One step, and it does not enable.
def Prepares (me : TaskId) (moments : Moments) (_ : Except ε α) : Prop := ∃ moment, moments = [moment] ∧ ¬Enables me moment

theorem prepares_silent {s : Critical Event.work me ε α} (silent : s.Silent) :
    (locked s : Handler Event.work me ε α).behaves (Prepares me) := by
  rw [behaves_locked]
  intro e w
  rw [silent e w]
  exact ⟨_,rfl,enables_silent⟩

theorem prepares_audit {batchId : Option Int} {eventType : String} {command : Option SafeCommand} {reason : String} :
    (orInternal (within (insertControlEventSqlx batchId eventType command reason actor)) :
      Handler Event.work me AppError Unit).behaves (Prepares me) := by
  rw [behaves_orInternal,behaves_within]
  intro e w
  refine ⟨_,rfl,fun enables => ?_⟩
  have quiet := Moment.behaves_may (insertControlEventSqlx batchId eventType command reason actor :
    Handler Event.quiet me Failure Unit) e w
  cases (quiet _ List.mem_cons_self _ enables).2

theorem enables_next {t : Handler Event.work me AppError α} {k : α → Handler Event.work me AppError Unit}
    (few : front.length < 4) (early : ∀ moment ∈ front, ¬Enables me moment) (first : t.behaves (Prepares me))
    (rest : ∀ value moment, (∀ earlier ∈ front ++ [moment], ¬Enables me earlier) →
      (k value).behaves fun later _ => EnablesLast safety me (front ++ [moment] ++ later)) :
    (t >>= k).behaves fun later _ => EnablesLast safety me (front ++ later) := by
  have more : ∀ moment, ¬Enables me moment → ∀ earlier ∈ front ++ [moment], ¬Enables me earlier := by
    intro moment prepares earlier member
    rcases List.mem_append.mp member with before | now
    · exact early earlier before
    · rw [List.mem_singleton.mp now]
      exact prepares
  apply behaves_seq first
  · rintro _ value ⟨moment,rfl,prepares⟩
    apply behaves_mono _ (rest value moment (more moment prepares))
    intro later _ holds
    rw [← List.append_assoc]
    exact holds
  · rintro _ err ⟨moment,rfl,prepares⟩
    refine enablesLast_early ?_ (more moment prepares)
    rw [List.length_append]
    exact few

theorem setAuto_enables : (setAuto safety true actor : Handler Event.work me AppError Unit).behaves fun moments _ =>
    EnablesLast safety me moments := by
  unfold setAuto
  rw [if_pos rfl,behaves_bind,behaves_locked]
  intro e w
  rw [run_acknowledge]
  simp only
  have acknowledges : ∀ moment ∈ [(⟨e,w,acknowledged me w⟩ : Moment Env World)], ¬Enables me moment := by
    intro moment member
    rw [List.mem_singleton.mp member]
    exact enables_acknowledged
  refine enables_next (by simp) acknowledges (prepares_silent ?_) fun _ second early => ?_
  · exact silent_bind silent_utcNow fun now => silent_ofExcept _
  refine enables_next (by simp) early (prepares_silent silent_ensurePersistedBatchStateConsistent) fun _ third early => ?_
  refine enables_next (by simp) early prepares_audit fun _ fourth early => ?_
  rw [behaves_locked]
  intro found final
  refine ⟨by simp,?_,?_⟩
  · intro moment member
    exact early moment (by simpa using member)
  · intro first last opens closes
    simp at opens closes
    subst opens closes
    exact enable_section found final

end Enable

-- An enabling request takes effect in its fifth step; since its checks in the second and
-- the third a disabling one has.
def DisabledBetween (jobs : TaskId → Job) (moments : Moments) (final : Moment Env World) : Prop :=
  moments[4]? = some final ∧ ∃ checked between, moments[2]? = some checked ∧
    final.before.history = between ++ checked.after.history ∧
      ∃ j actor, jobs j = .setAuto false actor ∧ (j,.runtime .autoDisabled) ∈ between

-- The disabling is not lost: the enabling request does not turn automatic control on.
def DisableKept (jobs : TaskId → Job) (me : TaskId) (moments : Moments) : Prop :=
  ∀ final, DisabledBetween jobs moments final → ∀ moment ∈ moments, ¬Enables me moment

section Claim
variable (site : Site) (jobs : TaskId → Job) (i : TaskId) (actor : AuditActor)

theorem run_enablesLast (enabling : jobs i = .setAuto true actor) (schedule : List (TaskId × Env)) :
    EnablesLast site.safety i ((site.daemon jobs).moments i schedule) := by
  have behaves : ((site.daemon jobs).tasks i).behaves fun moments _ => EnablesLast site.safety i moments := by
    change ((jobs i).task site.safety i).behaves _
    rw [enabling]
    exact setAuto_enables
  obtain ⟨later,_,holds⟩ := System.moments_extend .healthy (site.daemon jobs) behaves schedule
  exact enablesLast_prefix holds

-- A disabling in between is kept exactly where the last section of the enabling request is
-- refused on other grounds.
theorem disable_kept_iff (enabling : jobs i = .setAuto true actor) (schedule : List (TaskId × Env)) :
    DisableKept jobs i ((site.daemon jobs).moments i schedule) ↔
      ∀ first final, ((site.daemon jobs).moments i schedule)[0]? = some first →
        DisabledBetween jobs ((site.daemon jobs).moments i schedule) final →
          ¬EnableClear site.safety (.fromRuntime first.before.state.runtime) final.answer final.before.state := by
  have enables := run_enablesLast site jobs i actor enabling schedule
  constructor
  · intro kept first final opens between
    rw [← enables.last first final opens between.1]
    exact kept final between final (List.mem_of_getElem? between.1)
  · intro refused final between moment member turned
    obtain rfl := enables.only between.1 member turned
    obtain ⟨inside,_⟩ := List.getElem?_eq_some_iff.mp between.1
    have opens := List.getElem?_eq_getElem (Nat.zero_lt_of_lt inside)
    exact refused _ final opens between ((enables.last _ final opens between.1).mp turned)

def bothWays : TaskId → Job
  | 0 => .setAuto true .system
  | 1 => .setAuto false .system
  | 2 => .engageManualLock .system
  | _ => .controlLoop .simulation 1

-- The manual lock that is engaged as well is what keeps the disabling.
def lockedToo : List (TaskId × Env) := healthy [3,3,3,0,0,0,1,2,0,0]

theorem locked_disable_kept_iff : DisableKept bothWays 0 ((Site.shipped.daemon bothWays).moments 0 lockedToo) ↔
    ∀ first final, ((Site.shipped.daemon bothWays).moments 0 lockedToo)[0]? = some first →
      DisabledBetween bothWays ((Site.shipped.daemon bothWays).moments 0 lockedToo) final →
        ¬EnableClear Site.shipped.safety (.fromRuntime first.before.state.runtime) final.answer final.before.state :=
  disable_kept_iff .shipped bothWays 0 .system rfl lockedToo

-- Without the lock nothing is left of it: the flag that it cleared is set again.
def disabledOnly : List (TaskId × Env) := healthy [3,3,3,0,0,0,1,0,0]

theorem disable_lost : bothWays 0 = .setAuto true .system ∧
    ¬DisableKept bothWays 0 ((Site.shipped.daemon bothWays).moments 0 disabledOnly) ∧
      (Site.shipped.after bothWays disabledOnly).state.runtime.autoEnabled = true := by
  refine ⟨rfl,fun kept => ?_,by decide +kernel⟩
  have overtaken : ((Site.shipped.daemon bothWays).moments 0 disabledOnly)[4]?.map (·.before.history) =
      ((Site.shipped.daemon bothWays).moments 0 disabledOnly)[2]?.map fun checked =>
        [(0,.store (.controlEventInserted ⟨none,"auto_enabled",none,"operator changed automatic control state",.system⟩)),
          (1,.runtime .autoDisabled)] ++ checked.after.history := by decide +kernel
  have turned : ((Site.shipped.daemon bothWays).moments 0 disabledOnly)[4]?.map (·.recorded) =
      some [(0,.note (.commit .autoEnable (some ⟨0,0,0⟩) true)),(0,.runtime .autoEnabled)] := by decide +kernel
  obtain ⟨final,last,recorded⟩ := Option.map_eq_some_iff.mp turned
  rw [last] at overtaken
  obtain ⟨checked,checks,since⟩ := Option.map_eq_some_iff.mp overtaken.symm
  refine kept final ⟨last,checked,_,checks,since.symm,1,.system,rfl,by simp⟩ final (List.mem_of_getElem? last) ?_
  rw [Enables,recorded]
  simp

end Claim
end ReactorOS
