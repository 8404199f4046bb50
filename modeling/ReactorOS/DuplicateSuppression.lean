import ReactorOS.Discipline.Daemon
namespace ReactorOS
open Concurrency Journal Protocol
variable {site : Site} {history : List (TaskId × Event)} {me : TaskId} {fingerprint : SafeCommandFingerprint}

-- The fingerprint of a command that reached the device; a component write without
-- targets reached it too, with no fingerprint.
def Event.delivers : Event → Option (Option SafeCommandFingerprint)
  | .commanded _ command true => some (command.map (·.fingerprint))
  | _ => none

def Event.skips : Event → Option SafeCommandFingerprint
  | .note (.commandSkipped fingerprint) => some fingerprint
  | _ => none

-- The last command that any writer delivered.
def lastDelivered : List (TaskId × Event) → Option (Option SafeCommandFingerprint)
  | [] => none
  | (_,event) :: older => event.delivers.or (lastDelivered older)

def ownDelivery (me : TaskId) (entry : TaskId × Event) : Bool := entry.1 = me && entry.2.delivers.isSome

def sinceOwnDelivery (me : TaskId) (history : List (TaskId × Event)) : List (TaskId × Event) :=
  history.takeWhile fun entry => !ownDelivery me entry

def SkipsSound : List (TaskId × Event) → Prop :=
  Always fun older _ event => ∀ fingerprint ∈ event.skips, lastDelivered older = some (some fingerprint)

instance : Decidable (SkipsSound history) := Always.decide history

-- If others have delivered since the loop itself last did, then in the end its own command again.
def OthersAgree : List (TaskId × Event) → Prop :=
  Always fun older me event => ∀ fingerprint ∈ event.skips,
    lastDelivered (sinceOwnDelivery me older) = none ∨ lastDelivered (sinceOwnDelivery me older) = some (some fingerprint)

instance : Decidable (OthersAgree history) := Always.decide history

theorem lastDelivered_append (newer older : List (TaskId × Event)) :
    lastDelivered (newer ++ older) = (lastDelivered newer).or (lastDelivered older) := by
  induction newer with
  | nil => rfl
  | cons entry newer ih =>
      obtain ⟨i,event⟩ := entry
      rw [List.cons_append,lastDelivered,lastDelivered,ih,Option.or_assoc]

-- What the loop holds for delivered is the last that it delivered itself.
theorem delivered_since (known : ((rules site.safety).progress me history).delivered = some fingerprint) :
    ∃ since event older, history = since ++ (me,event) :: older ∧ event.delivers = some (some fingerprint) ∧
      ∀ entry ∈ since, ownDelivery me entry = false := by
  induction history with
  | nil => cases known
  | cons entry history ih =>
      obtain ⟨i,event⟩ := entry
      have further : ((rules site.safety).progress me history).delivered = some fingerprint →
          ownDelivery me (i,event) = false → ∃ since event' older, (i,event) :: history = since ++ (me,event') :: older ∧
            event'.delivers = some (some fingerprint) ∧ ∀ entry ∈ since, ownDelivery me entry = false := by
        intro earlier silent
        obtain ⟨since,event',older,rfl,delivers,held⟩ := ih earlier
        refine ⟨(i,event) :: since,event',older,rfl,delivers,?_⟩
        intro entry member
        rcases List.mem_cons.mp member with rfl | inside
        · exact silent
        · exact held entry inside
      by_cases mine : i = me
      · subst mine
        rw [progress_own] at known
        have moved := Progress.delivered_after event ((rules site.safety).progress i history)
        change (Progress.after event _).delivered = _ at known
        rw [moved] at known
        cases event with
        | commanded writer command delivered =>
            cases delivered with
            | true => exact ⟨[],_,history,rfl,congrArg some known,by simp⟩
            | false => cases known
        | runtime change => exact further known (by simp [ownDelivery,Event.delivers])
        | store write => exact further known (by simp [ownDelivery,Event.delivers])
        | note note => exact further known (by simp [ownDelivery,Event.delivers])
      · rw [progress_other _ mine] at known
        exact further known (by simp [ownDelivery,mine])

-- The loop remembers nothing but what it has just delivered.
theorem remembered_delivered (history : List (TaskId × Event)) (holds : site.Allowed history)
    (known : ((rules site.safety).progress me history).remembered = some fingerprint) :
    ((rules site.safety).progress me history).delivered = some fingerprint := by
  induction history with
  | nil => cases known
  | cons entry history ih =>
      obtain ⟨i,event⟩ := entry
      obtain ⟨before,permitted⟩ := holds
      by_cases mine : i = me
      · subst mine
        rw [progress_own] at known ⊢
        have moved := Progress.delivered_after event ((rules site.safety).progress i history)
        have kept := Progress.remembered_after event ((rules site.safety).progress i history)
        change (Progress.after event _).remembered = _ at known
        change (Progress.after event _).delivered = _
        rw [moved]
        rw [kept] at known
        cases event with
        | commanded writer command delivered => cases known
        | runtime change => exact ih before known
        | store write => exact ih before known
        | note note =>
            cases note with
            | commandRemembered remembered =>
                obtain rfl : remembered = fingerprint := Option.some.inj known
                exact permitted
            | _ => exact ih before known
      · rw [progress_other _ mine] at known ⊢
        exact ih before known

-- Where the loop skips, the last command of all is the last of the others since its
-- own, or else its own.
theorem lastDelivered_skip {older : List (TaskId × Event)} {event : Event} (holds : site.Allowed ((me,event) :: older))
    (skips : event.skips = some fingerprint) :
    lastDelivered older = (lastDelivered (sinceOwnDelivery me older)).or (some (some fingerprint)) := by
  obtain ⟨before,permitted⟩ := holds
  cases event with
  | note note =>
      cases note with
      | commandSkipped skipped =>
          obtain rfl : skipped = fingerprint := Option.some.inj skips
          obtain ⟨since,event',rest,rfl,delivers,others⟩ := delivered_since (remembered_delivered older before permitted)
          have own : ownDelivery me (me,event') = true := by simp [ownDelivery,delivers]
          have upTo : sinceOwnDelivery me (since ++ (me,event') :: rest) = since := by
            rw [sinceOwnDelivery,List.takeWhile_append_of_pos (by simpa using others),List.takeWhile_cons,own]
            simp
          rw [upTo,lastDelivered_append,lastDelivered,delivers,Option.some_or]
      | _ => cases skips
  | _ => cases skips

theorem skips_sound_iff (jobs : TaskId → Job) (schedule : List (TaskId × Env)) :
    SkipsSound (site.after jobs schedule).history ↔ OthersAgree (site.after jobs schedule).history := by
  have holds := site.after_allowed jobs schedule
  have agree : ∀ newer me event older, (site.after jobs schedule).history = newer ++ (me,event) :: older →
      ∀ fingerprint ∈ event.skips, (lastDelivered older = some (some fingerprint) ↔
        lastDelivered (sinceOwnDelivery me older) = none ∨
          lastDelivered (sinceOwnDelivery me older) = some (some fingerprint)) := by
    intro newer me event older record fingerprint skips
    rw [record] at holds
    rw [lastDelivered_skip holds.older skips]
    cases lastDelivered (sinceOwnDelivery me older) <;> simp
  constructor
  · intro sound
    apply always_of
    intro newer me event older record fingerprint skips
    rw [record] at sound
    exact (agree newer me event older record fingerprint skips).mp (sound.event fingerprint skips)
  · intro others
    apply always_of
    intro newer me event older record fingerprint skips
    rw [record] at others
    exact (agree newer me event older record fingerprint skips).mpr (others.event fingerprint skips)

def stopBetweenTicks : TaskId → Job
  | 0 => .controlLoop .simulation 3
  | 2 => .emergencyStop .system
  | 3 => .resetEmergencyStop .system
  | _ => .setAuto true .system

-- The device was driven to the targets of the stop; the loop takes it to hold its own.
theorem skips_after_stop : ¬SkipsSound (Site.shipped.after stopBetweenTicks (healthy
    (List.replicate 7 0 ++ List.replicate 10 1 ++ List.replicate 15 0 ++ List.replicate 5 2 ++ List.replicate 10 3 ++
      List.replicate 10 4 ++ [0,0,0]))).history := by decide +kernel

end ReactorOS
