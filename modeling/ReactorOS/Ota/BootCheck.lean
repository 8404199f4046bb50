import ReactorOS.Ota.Slots
namespace ReactorOS.Ota
open Concurrency Task Wire

section Leads
variable {α β : Type} {allows : Answer → Prop} {J : View → Prop} {t : Script α} {k : α → Script β} {w : Board}
  {Q F : α → Board → Prop} {S : β → Board → Prop}

-- Wherever the script is cut `J` holds of what decides, and `Q` where it succeeds.
def leads (allows : Answer → Prop) (J : View → Prop) (t : Script α) (w : Board) (Q : α → Board → Prop) : Prop :=
  t.guarded allows (fun after => J after.view) w (Ends Q fun _ => True)

theorem leads_bind (first : leads allows J t w F)
    (rest : ∀ value after, J after.view → F value after → leads allows J (k value) after S) : leads allows J (t >>= k) w S :=
  guarded_seq first rest fun _ _ _ _ => trivial

theorem leads_mono {K : View → Prop} (weaker : ∀ v, J v → K v) (implies : ∀ value after, J after.view → F value after → Q value after)
    (holds : leads allows J t w F) : leads allows K t w Q := by
  refine guarded_mono ?_ ?_ holds
  · exact fun after => weaker after.view
  · intro result after here reached
    cases result with
    | ok value => exact implies value after here reached
    | error error => trivial

theorem leads_done (here : J w.view) {result : Except String α} (ok : ∀ value, result = .ok value → Q value w) :
    leads allows J (.done result) w Q := by
  refine ⟨here,?_⟩
  cases result with
  | ok value => exact ok value rfl
  | error error => trivial

theorem leads_failed (here : J w.view) {error : String} : leads allows J (.done (.error error : Except String α)) w Q :=
  leads_done here fun _ impossible => by cases impossible

theorem leads_run (here : J w.view) {step : Answer → Board → Except String α × Board}
    (taken : ∀ e, allows e → J (step e w).2.view ∧ ∀ value, (step e w).1 = .ok value → Q value (step e w).2) :
    leads allows J (run step) w Q := by
  refine ⟨here,fun e allowed => ⟨(taken e allowed).1,?_⟩⟩
  change Ends Q (fun _ => True) (step e w).1 (step e w).2
  cases result : (step e w).1 with
  | ok value => exact (taken e allowed).2 value result
  | error error => trivial

theorem leads_look (here : J w.view) {read : Board → Except String α} (found : ∀ value, read w = .ok value → Q value w) :
    leads allows J (look read) w Q := leads_run here fun _ _ => ⟨here,found⟩

theorem leads_command (here : J w.view) {effect : Answer → Board → Board} {Q : Unit → Board → Prop}
    (taken : ∀ e, allows e → J (effect e w).view ∧ Q () (effect e w)) : leads allows J (command effect) w Q := by
  apply leads_run here
  intro e allowed
  cases fails : e.fails with
  | true => exact ⟨here,nofun⟩
  | false => exact ⟨(taken e allowed).1,fun _ _ => (taken e allowed).2⟩

theorem silent_command : keepsTo Eq (command fun _ w => w) := keepsTo_command (fun _ => rfl) fun _ _ => rfl

theorem leads_steady (kept : keepsTo Steady t) (here : J w.view) : leads allows J t w fun _ after => after.view = w.view := by
  apply guarded_mono _ _ (guarded_each Steady.refl (fun _ _ _ => Steady.trans) kept)
  · intro after same
    rw [same]
    exact here
  · intro result after same _
    cases result with
    | ok value => exact same
    | error error => trivial

theorem leads_then (kept : keepsTo Steady t) (here : J w.view)
    (rest : ∀ value after, after.view = w.view → leads allows J (k value) after S) : leads allows J (t >>= k) w S :=
  leads_bind (leads_steady kept here) fun value after _ same => rest value after same

theorem leads_silent (kept : keepsTo Eq t) (here : J w.view) : leads allows J t w fun _ after => w = after := by
  refine guarded_mono ?_ ?_ (guarded_each (fun _ => rfl) (fun _ _ _ => Eq.trans) kept)
  · rintro after rfl
    exact here
  · intro result after same _
    cases result with
    | ok value => exact same
    | error error => trivial

theorem leads_look_then {read : Board → Except String α} (here : J w.view)
    (rest : ∀ value, read w = .ok value → leads allows J (k value) w S) : leads allows J (look read >>= k) w S := by
  refine leads_bind (F := fun value after => read w = .ok value ∧ w = after) ?_ ?_
  · exact leads_look here fun value found => ⟨found,rfl⟩
  · rintro value _ _ ⟨found,rfl⟩
    exact rest value found

theorem leads_silent_then (kept : keepsTo Eq t) (here : J w.view)
    (rest : ∀ value, leads allows J (k value) w S) : leads allows J (t >>= k) w S := by
  refine leads_bind (leads_silent kept here) ?_
  rintro value _ _ rfl
  exact rest value

theorem leads_attempt (holds : leads allows J t w Q) :
    leads allows J (t.attempt : Script (Except String α)) w fun result after => ∀ value, result = .ok value → Q value after := by
  unfold leads
  rw [guarded_attempt]
  refine guarded_mono (fun _ here => here) ?_ holds
  intro result after _ reached value same
  rw [same] at reached
  exact reached

theorem leads_write {state : OtaState} (here : J w.view) (writes : ∀ date, J (w.view.write state date)) :
    leads allows J (writeOtaState state) w fun _ after => ∃ date, after.view = w.view.write state date := by
  apply leads_then (keepsTo_command Steady.refl fun _ _ => rfl) here
  intro _ before same
  have here' : J before.view := same ▸ here
  apply leads_bind (F := fun _ (after : Board) => after.view = w.view ∧ ∃ date, after.stateTmp = some (stateText {state with updatedAt := date}))
  · apply leads_run here'
    intro e _
    cases fails : e.fails with
    | true => exact ⟨here',fun _ failed => by simp at failed⟩
    | false =>
        refine ⟨here',fun _ _ => ⟨same,e.date,?_⟩⟩
        simp [writeStateTmp,fails]
  · rintro _ prepared _ ⟨still,date,text⟩
    have moved : (moveStateTmp prepared).view = w.view.write state date := by
      rw [moveStateTmp,text,← still]
      rfl
    apply leads_bind (F := fun _ (after : Board) => after.view = w.view.write state date)
    · apply leads_command (still ▸ here)
      intro _ _
      rw [moved]
      exact ⟨writes date,rfl⟩
    · intro _ written here written'
      exact leads_mono (fun _ kept => kept) (fun _ _ _ same => ⟨date,same.trans written'⟩) (leads_steady steady_flush here)

theorem leads_symlink {link : Board → Board} (here : J w.view) {v : View} (linked : ∀ before, before.view = w.view → (link before).view = v)
    (leads' : J v) : leads allows J (atomicSymlink link) w fun _ after => after.view = v := by
  apply leads_then (keepsTo_command Steady.refl fun _ _ => rfl) here
  intro _ before same
  apply leads_bind (F := fun _ (after : Board) => after.view = v)
  · apply leads_command (same ▸ here)
    intro _ _
    rw [linked before same]
    exact ⟨leads',rfl⟩
  · intro _ after here same
    exact leads_mono (fun _ kept => kept) (fun _ _ _ still => still.trans same) (leads_steady steady_flush here)

theorem source_then {k : Unit → Script β} (here : J w.view) (rest : leads allows J (k ()) w S) :
    leads allows J (sourceOtaLib >>= k) w S := leads_look_then here fun _ _ => rest

-- A start from whole files is the script's own, and one from others goes no further.
theorem leads_started {t : Script Unit} {Q : Unit → Board → Prop} (holds : leads allows J t w Q) :
    leads allows J (started t) w fun value after => w.installed = true → Q value after := by
  have here : J w.view := by
    cases t with
    | done result => exact holds.1
    | step update kept next => exact holds.1
  unfold started
  refine leads_look_then here fun whole found => ?_
  obtain rfl : w.installed = whole := Except.ok.inj found
  cases installed : w.installed with
  | true => exact leads_mono (fun _ kept => kept) (fun _ _ _ reached _ => reached) holds
  | false =>
      refine guarded_mono (fun _ here => here) ?_ (guarded_breaking holds)
      intro result after _ _
      cases result with
      | ok value => exact fun whole => by cases whole
      | error error => trivial

-- What is known of a script holds wherever it is cut, and where it has come to its end.
theorem leads_cut (holds : leads (fun _ => True) J t w Q) (answers : Nat → Answer) (steps : Nat) :
    J (t.cut answers steps w).view := guarded_cut holds (fun _ => trivial) steps

theorem leads_drive (holds : leads (fun _ => True) J t w Q) {answers : Nat → Answer} {value : α} {after : Board}
    (ended : t.drive answers w = (.ok value,after)) : Q value after := by
  have reached : Ends Q (fun _ => True) (t.drive answers w).1 (t.drive answers w).2 := guarded_drive holds fun _ => trivial
  rw [ended] at reached
  exact reached

end Leads

-- What a boot check can do to what decides: nothing, or lead to where it comes back to.
structure Boots (before after : View) : Prop where
  dirs : after.dirs = before.dirs
  previous : after.previous = before.previous
  home : after.home = before.home
  current : after.current = before.current ∨ after.current = before.home

section Boot
variable {allows : Answer → Prop} {w : Board} {v : View}

theorem Boots.refl (v : View) : Boots v v := ⟨rfl,rfl,rfl,.inl rfl⟩

theorem Boots.trans {a b c : View} (one : Boots a b) (two : Boots b c) : Boots a c := by
  refine ⟨two.dirs.trans one.dirs,two.previous.trans one.previous,two.home.trans one.home,?_⟩
  rcases two.current with same | home
  · rcases one.current with same' | home
    · exact .inl (same.trans same')
    · exact .inr (same.trans home)
  · exact .inr (home.trans one.home)

theorem recoverySlot_home {slot : Slot} (switching : w.view.switching)
    (found : recoverySlot (w.view.value "status") (w.view.value "reason") (w.view.value "slot") w = .ok slot) :
    w.view.home = some (.slot slot) := by
  unfold View.home
  rw [if_pos switching]
  unfold recoverySlot at found
  split at found
  · rename_i manual
    rw [if_pos manual]
    split at found
    · cases found
    · rename_i target named
      split at found
      · rw [named,← Except.ok.inj found,Option.map_some]
      · cases found
  · rename_i other
    rw [if_neg other]
    unfold previousSlotPath managedSlot at found
    split at found
    · cases found
    · cases found
    · rename_i target linked
      split at found
      · rw [← Except.ok.inj found]
        exact linked
      · cases found

-- A text without a recovery written over a board whose current slot is where it comes back to.
theorem boots_write {state : OtaState} (resting : state.status ∈ restingStatuses) {before : View} (boots : Boots before v)
    (home : v.current = v.home) (date : String) : Boots before (v.write state date) := by
  have led : (v.write state date).home = v.current := home_resting resting
  exact ⟨boots.dirs,boots.previous,led.trans (home.trans boots.home),boots.current⟩

theorem managedSlot_current {slot : Slot} (linked : requireCurrentSlotPath w = .ok slot) :
    w.view.current = some (.slot slot) := by
  unfold requireCurrentSlotPath managedSlot at linked
  split at linked
  · cases linked
  · cases linked
  · rename_i target found
    split at linked
    · rw [← Except.ok.inj linked]
      exact found
    · cases linked

-- A state that asks for no recovery, written over a board that is where it comes back to.
theorem noted_leads {before : View} {state : OtaState} {status : String} (listed : status ∈ restingStatuses)
    (same : state.status = status) (boots : Boots before w.view) (home : w.view.current = w.view.home) :
    leads allows (Boots before) (writeOtaState state) w fun _ after =>
      after.view.current = after.view.home ∧ ¬after.view.switching := by
  have resting : state.status ∈ restingStatuses := same ▸ listed
  refine leads_mono (fun _ kept => kept) ?_ (leads_write boots fun date => boots_write resting boots home date)
  rintro _ after _ ⟨date,written⟩
  rw [written]
  exact ⟨(home_resting resting).symm,write_resting resting⟩

-- The old slot is brought back and written down.
theorem restore_leads (switching : w.view.switching) :
    leads allows (Boots w.view) (restorePreviousSlotAfterInterruptedOta (.read w)) w fun _ after =>
      after.view.current = after.view.home ∧ ¬after.view.switching := by
  have resting : "rolled_back_on_boot" ∈ restingStatuses := by decide
  unfold restorePreviousSlotAfterInterruptedOta
  refine leads_look_then (Boots.refl _) fun current linked => leads_look_then (Boots.refl _) fun previous found => ?_
  refine leads_look_then (Boots.refl _) fun _ _ => leads_silent_then silent_command (Boots.refl _) fun _ => ?_
  refine leads_then (steady_units previous) (Boots.refl _) fun _ installed same => ?_
  have home := recoverySlot_home switching found
  split
  · rename_i already
    refine leads_then steady_compat (same ▸ Boots.refl _) fun _ synced one => ?_
    refine leads_then (steady_tools previous) ((one.trans same) ▸ Boots.refl _) fun _ ready two => ?_
    have still : ready.view = w.view := two.trans (one.trans same)
    apply noted_leads resting rfl (still ▸ Boots.refl _)
    rw [still,home,managedSlot_current linked,already]
  · have moved : Boots w.view (w.view.lead previous) :=
      ⟨rfl,rfl,View.home_lead switching previous,.inr home.symm⟩
    refine leads_bind (leads_symlink (same ▸ Boots.refl _) (fun before still => ?_) moved) fun _ led _ there => ?_
    · exact congrArg (View.lead previous) (still.trans same)
    refine leads_then steady_compat (there ▸ moved) fun _ synced one => ?_
    refine leads_then (steady_tools previous) ((one.trans there) ▸ moved) fun _ ready two => ?_
    have still : ready.view = w.view.lead previous := two.trans (one.trans there)
    apply noted_leads resting rfl (still ▸ moved)
    rw [still,View.home_lead switching previous,home]
    rfl

-- Whatever has happened before, a boot check changes nothing about where it comes back to,
-- and where it grants the start without a running update, it has come there.
theorem otaBootCheck_leads (w : Board) : leads allows (Boots w.view) otaBootCheck w fun _ after =>
    w.marker = false → after.view.current = after.view.home ∧ ¬after.view.switching := by
  have granted : ¬w.view.switching → leads allows (Boots w.view) log w fun _ after =>
      w.marker = false → after.view.current = after.view.home ∧ ¬after.view.switching := by
    intro resting
    refine leads_mono (fun _ kept => kept) ?_ (leads_silent silent_command (Boots.refl _))
    rintro _ _ _ rfl _
    exact ⟨(View.home_of_resting resting).symm,resting⟩
  -- Without a recovery to be made a state is written that asks for none.
  have noted : ∀ {state : OtaState} (status : String), status ∈ restingStatuses → state.status = status → ¬w.view.switching →
      leads allows (Boots w.view) (writeOtaState state) w fun _ after =>
        w.marker = false → after.view.current = after.view.home ∧ ¬after.view.switching := by
    intro state status listed same calm
    exact leads_mono (fun _ kept => kept) (fun _ _ _ reached _ => reached)
      (noted_leads listed same (Boots.refl _) (View.home_of_resting calm).symm)
  unfold otaBootCheck
  refine source_then (Boots.refl _) (leads_silent_then silent_command (Boots.refl _) fun _ => ?_)
  refine leads_look_then (Boots.refl _) fun read found => ?_
  cases absent : w.state with
  | none =>
      rw [absent] at found
      obtain rfl := Except.ok.inj found
      apply granted
      rw [View.switching,View.value,show w.view.state = none from absent]
      decide
  | some text =>
      rw [absent] at found
      obtain rfl := Except.ok.inj found
      have resting : ∀ status, (Interrupted.read w).status = status → status ∉ switchingStatuses → ¬w.view.switching := by
        intro status same apart switching
        exact apart (same ▸ switching)
      dsimp only [Option.map_some]
      split
      · rename_i settled
        exact granted (resting _ rfl (resting_apart (by simp [restingStatuses,settled])))
      split
      · rename_i missing
        refine leads_bind (noted "failed" (by decide) rfl (resting "" missing (by decide))) fun _ after here _ => ?_
        exact leads_failed here
      split
      · rename_i failed
        refine leads_then steady_clear (Boots.refl _) fun _ cleared same => ?_
        refine leads_then steady_stop (same ▸ Boots.refl _) fun _ stopped same' => ?_
        exact leads_failed ((same'.trans same) ▸ Boots.refl _)
      split
      · rename_i staging
        have calm := resting _ rfl (resting_apart (by simp [restingStatuses,staging]))
        unfold recordInterruptedBeforeSwitch
        refine leads_look_then (Boots.refl _) fun current _ => leads_look_then (Boots.refl _) fun _ _ =>
          leads_silent_then silent_command (Boots.refl _) fun _ => ?_
        exact noted "interrupted_before_switch" (by decide) rfl calm
      split
      · rename_i switching
        refine leads_bind (F := fun allowed after => after.view = w.view ∧ (allowed = true → w.marker = true)) ?_ ?_
        · apply leads_run (Boots.refl _)
          intro e _
          cases marked : w.marker && e.fresh with
          | true =>
              refine ⟨Boots.refl _,fun _ _ => ⟨rfl,fun _ => ?_⟩⟩
              exact (Bool.and_eq_true_iff.mp marked).1
          | false =>
              have same : (if e.fails then w else {w with marker := false}).view = w.view := by cases e.fails <;> rfl
              refine ⟨same ▸ Boots.refl _,fun allowed granted => ⟨same,fun yes => ?_⟩⟩
              exact absurd (Except.ok.inj granted) (by simp [yes])
        · rintro allowed checked _ ⟨same,owned⟩
          cases allowed with
          | true =>
              refine leads_mono (fun _ kept => kept) ?_ (leads_silent silent_command (same ▸ Boots.refl _))
              intro _ _ _ _ unmarked
              exact absurd (owned rfl) (by simp [unmarked])
          | false =>
              have read : Interrupted.read w = Interrupted.read checked := by
                unfold Interrupted.read Board.stateValue
                rw [show w.state = checked.state from (congrArg View.state same).symm]
              have still : checked.view.switching := same ▸ switching
              rw [read,← same]
              exact leads_mono (fun _ kept => kept) (fun _ _ _ reached _ => reached) (restore_leads still)
      · rename_i strange
        refine leads_bind (noted "failed" (by decide) rfl strange) fun _ after here _ => ?_
        exact leads_failed here

end Boot
end ReactorOS.Ota
