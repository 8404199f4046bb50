import ReactorOS.Ota.BootCheck
namespace ReactorOS.Ota
open Concurrency Task Wire

section Torn
variable {state : OtaState}

-- The text of a rejected update as far as its first value.
def rejectedHead : String := "\x7b\n  \"status\": \"rejected_before_switch\","

theorem stateText_head (status : state.status = "rejected_before_switch") :
    ∃ rest, stateText state = rejectedHead ++ String.singleton '\n' ++ rest := by
  obtain ⟨others,nonempty,lines⟩ : ∃ others, others ≠ [] ∧
      stateLines state = ["\x7b",fieldLine "status" state.status ++ ","] ++ others := ⟨_,by simp,rfl⟩
  refine ⟨join '\n' others,?_⟩
  unfold stateText
  have head : join '\n' ["\x7b",fieldLine "status" "rejected_before_switch" ++ ","] = rejectedHead := by decide +kernel
  rw [lines,join_append '\n' (by simp) nonempty,status,head]

-- However little of it has been written, it asks for no recovery.
theorem torn_status (status : state.status = "rejected_before_switch") (count : Nat) :
    jsonStateValue "status" (String.ofList ((stateText state).toList.take count)) ∉ switchingStatuses := by
  obtain ⟨rest,whole⟩ := stateText_head status
  have length : rejectedHead.toList.length = 39 := by decide
  have chars : (stateText state).toList = rejectedHead.toList ++ '\n' :: rest.toList := by simp [whole]
  rcases Nat.lt_or_ge count 40 with short | long
  · have begins : (stateText state).toList.take count = rejectedHead.toList.take count := by
      rw [chars,List.take_append_of_le_length (by omega)]
    have every : ∀ count ∈ List.range 40,
        jsonStateValue "status" (String.ofList (rejectedHead.toList.take count)) ∉ switchingStatuses := by decide +kernel
    rw [begins]
    exact every count (List.mem_range.mpr short)
  · have text : String.ofList ((stateText state).toList.take count) =
        "\x7b" ++ String.singleton '\n' ++ "  \"status\": \"rejected_before_switch\"," ++ String.singleton '\n' ++
          String.ofList (rest.toList.take (count-40)) := by
      obtain ⟨more,rfl⟩ : ∃ more, count = 39+(more+1) := ⟨count-40,by omega⟩
      have head : rejectedHead = "\x7b" ++ String.singleton '\n' ++ "  \"status\": \"rejected_before_switch\"," := by decide
      have behind : 39+(more+1)-40 = more := by omega
      rw [← head,chars,behind,← length,List.take_length_add_append,List.take_succ_cons,← String.toList_inj]
      simp
    have first : split '\n' "\x7b" = ["\x7b"] := split_whole (by decide)
    have second : split '\n' "  \"status\": \"rejected_before_switch\"," = ["  \"status\": \"rejected_before_switch\","] :=
      split_whole (by decide)
    unfold jsonStateValue
    rw [text,split_append,split_append,first,second,List.append_assoc,List.singleton_append,List.singleton_append,
      List.find?_cons_of_neg (by decide),List.find?_cons_of_pos (by decide)]
    decide

theorem torn_whole (status : state.status = "rejected_before_switch") :
    jsonStateValue "status" (stateText state) ∉ switchingStatuses := by
  have whole := torn_status status (stateText state).toList.length
  rwa [List.take_length,String.ofList_toList] at whole

end Torn

section Parts
variable {α β : Type} {allows : Answer → Prop} {J : View → Prop} {t : Script α} {k : α → Script β} {w : Board}
  {Q : α → Board → Prop} {S : β → Board → Prop} {R : Board → Board → Prop}

theorem leads_within (refl : ∀ a, R a a) (trans : ∀ a b c, R a b → R b c → R a c) (kept : keepsTo R t)
    (closed : ∀ after, R w after → J after.view) : leads allows J t w fun _ after => R w after := by
  refine guarded_mono closed ?_ (guarded_each refl trans kept)
  intro result after same _
  cases result with
  | ok value => exact same
  | error error => trivial

theorem leads_ends {F : α → Board → Prop} (holds : leads allows J t w F) : leads allows J t w fun _ after => J after.view :=
  leads_mono (fun _ kept => kept) (fun _ _ here _ => here) holds

-- What the hook leaves behind: no marker, and a state that asks for no recovery or the old one.
theorem hook_leads {request : UpdateRequest} {versions : Versions} (here : J w.view)
    (torn : ∀ v text, J v → jsonStateValue "status" text ∉ switchingStatuses → J {v with state := some text}) :
    leads allows J (otaExitHook request versions) w fun _ _ => True := by
  refine leads_then (keepsTo_tolerated Steady.refl fun _ => rfl) here fun _ cleared same => ?_
  have here' : J cleared.view := same ▸ here
  refine leads_bind (F := fun _ after => after.view = cleared.view ∧
    ∃ text, after.stateTmp = some text ∧ jsonStateValue "status" text ∉ switchingStatuses) ?_ ?_
  · apply leads_run here'
    intro e _
    refine ⟨here',fun _ _ => ⟨rfl,_,rfl,?_⟩⟩
    split
    · exact torn_status rfl _
    · exact torn_whole rfl
  · rintro _ prepared here ⟨same,text,written,calm⟩
    apply leads_run here
    intro e _
    have moved : (moveStateTmp prepared).view = {prepared.view with state := some text} := by
      rw [moveStateTmp,written]
      rfl
    have either : J (if e.fails then prepared else moveStateTmp prepared).view := by
      cases e.fails with
      | true => exact here
      | false =>
          change J (moveStateTmp prepared).view
          rw [moved]
          exact torn _ _ here calm
    exact ⟨either,fun _ _ => trivial⟩

theorem leads_rejecting {request : UpdateRequest} {versions : Versions} (holds : leads allows J t w Q)
    (torn : ∀ v text, J v → jsonStateValue "status" text ∉ switchingStatuses → J {v with state := some text}) :
    leads allows J (rejecting request versions t) w Q := by
  refine leads_bind (leads_attempt holds) ?_
  intro result after here reached
  cases result with
  | ok value => exact leads_done here fun _ same => Except.ok.inj same ▸ reached value rfl
  | error error =>
      refine leads_bind (hook_leads here torn) fun _ _ here _ => ?_
      exact leads_done here nofun

theorem leads_cleaning {names : List String} (apart : ∀ name ∈ names, ∀ slot : Slot, slot.name ≠ name)
    (closed : ∀ a b, Aside a b → J a.view → J b.view) (holds : leads allows J t w Q) :
    leads allows J (cleaning names t) w fun _ _ => True := by
  have removed : keepsTo Aside (names.forM removeTreeAnyway) := by
    induction names with
    | nil => exact keepsTo_done _
    | cons name names ih =>
        refine keepsTo_bind (keepsTo_removeAnyway Aside.refl (aside_setDir (apart name List.mem_cons_self))) fun _ => ?_
        exact ih fun other member => apart other (List.mem_cons_of_mem _ member)
  refine leads_bind (leads_attempt holds) fun result ended here _ => ?_
  refine leads_bind (leads_within Aside.refl (fun _ _ _ => Aside.trans) removed fun after aside => closed _ _ aside here)
    fun _ after here _ => ?_
  exact leads_done here fun _ _ => trivial

-- A boot check in the middle of another script.
theorem nested_leads {before : View} (boots : Boots before w.view) :
    leads allows (Boots before) ((started otaBootCheck).attempt : Script (Except String Unit)) w fun _ _ => True := by
  have checked : leads allows (Boots w.view) (started otaBootCheck) w _ := leads_started (otaBootCheck_leads w)
  have alone := leads_attempt checked
  exact leads_mono (fun _ later => boots.trans later) (fun _ _ _ _ => trivial) alone

theorem leads_calm {before : View} (kept : keepsTo Steady t) (boots : Boots before w.view)
    (rest : ∀ value after, Boots before after.view → leads allows (Boots before) (k value) after S) :
    leads allows (Boots before) (t >>= k) w S :=
  leads_then kept boots fun value after same => rest value after (same ▸ boots)

theorem leads_calm_last {before : View} {t : Script Bool} (kept : keepsTo Steady t) (boots : Boots before w.view) :
    leads allows (Boots before) t w fun _ _ => True :=
  leads_mono (fun _ same => same) (fun _ _ _ _ => trivial) (leads_steady kept boots)

theorem startBackend_leads {before : View} (boots : Boots before w.view) :
    leads allows (Boots before) startBackend w fun _ _ => True := by
  refine leads_bind (nested_leads boots) fun first checked here _ => ?_
  cases first with
  | error error => exact leads_done here fun _ _ => trivial
  | ok _ =>
      refine leads_bind (nested_leads here) fun second checked here _ => ?_
      cases second with
      | error error => exact leads_done here fun _ _ => trivial
      | ok _ => exact leads_calm_last (keepsTo_tried Steady.refl fun _ => rfl) here

theorem startRuntimeServices_leads {before : View} (boots : Boots before w.view) :
    leads allows (Boots before) startRuntimeServices w fun _ _ => True := by
  have marks : keepsTo Steady markOtaServiceStartAllowed := by
    apply keepsTo_run
    intro e w
    cases e.identified with
    | false => rfl
    | true => cases e.fails <;> rfl
  have clear : keepsTo Steady (tolerated fun w => {w with marker := false}) := keepsTo_tolerated Steady.refl fun _ => rfl
  refine leads_calm marks boots fun _ marked here => leads_calm (keepsTo_tried Steady.refl fun _ => rfl) here fun reloaded _ here => ?_
  cases reloaded with
  | false => exact leads_calm clear here fun _ _ here => leads_done here fun _ _ => trivial
  | true =>
      refine leads_bind (startBackend_leads here) fun started _ here _ => ?_
      cases started with
      | false => exact leads_calm clear here fun _ _ here => leads_done here fun _ _ => trivial
      | true =>
          exact leads_calm (keepsTo_tolerated Steady.refl fun _ => rfl) here fun _ _ here =>
            leads_calm_last (keepsTo_tried Steady.refl fun _ => rfl) here

theorem restartBackend_leads {before : View} (boots : Boots before w.view) :
    leads allows (Boots before) restartBackend w fun _ _ => True := by
  refine leads_calm (keepsTo_ask Steady.refl _) boots fun restarts _ here => ?_
  cases restarts with
  | false => exact leads_done here fun _ _ => trivial
  | true =>
      refine leads_bind (nested_leads here) fun checked _ here _ => ?_
      cases checked with
      | ok _ => exact leads_done here fun _ _ => trivial
      | error _ =>
          exact leads_mono (fun _ same => same) (fun _ _ _ _ => trivial) (leads_steady (keepsTo_tolerated Steady.refl fun _ => rfl) here)

theorem healthCheckLoop_leads {before : View} (required attempts : Nat) (passed : Nat) (boots : Boots before w.view) :
    leads allows (Boots before) (healthCheckLoop required attempts passed) w fun _ _ => True := by
  induction attempts generalizing w passed with
  | zero => exact leads_done boots fun _ _ => trivial
  | succ attempts ih =>
      refine leads_bind (restartBackend_leads boots) fun _ _ here _ => ?_
      refine leads_calm (keepsTo_run fun _ _ => rfl) here fun passes after here => ?_
      cases passes with
      | false => exact ih 0 here
      | true =>
          by_cases enough : required ≤ passed+1
          · simp only [if_true,enough]
            exact leads_done here fun _ _ => trivial
          · simp only [if_true,enough,if_false]
            exact ih (passed+1) here

-- A start changes no more than a boot check does.
theorem startHealthy_leads {before : View} (attempts required : Nat) (boots : Boots before w.view) :
    leads allows (Boots before) (startHealthy attempts required) w fun _ _ => True := by
  refine leads_bind (startRuntimeServices_leads boots) fun started _ here _ => ?_
  cases started with
  | false => exact leads_done here fun _ _ => trivial
  | true => exact healthCheckLoop_leads required attempts 0 here

end Parts

-- The slot that runs is as it was, and nothing is to be recovered.
structure Untouched (slot : Slot) (tree : Tree) (v : View) : Prop where
  current : v.current = some (.slot slot)
  dirs : v.dirs slot.name = some tree
  resting : ¬v.switching

-- Both slots can be started, and a recovery leads to the old one.
structure Between (slot : Slot) (tree : Tree) (v : View) : Prop where
  dirs : v.dirs slot.name = some tree
  other : ∃ tree, v.dirs slot.other.name = some tree ∧ validateSlotDir tree = .ok ()
  previous : v.previous = some (.slot slot)
  home : v.home = some (.slot slot)
  current : v.current = some (.slot slot) ∨ v.current = some (.slot slot.other)

-- The old slot is as it was, and the machine comes back to it, unless the new one is committed.
structure Updated (slot : Slot) (tree : Tree) (v : View) : Prop where
  dirs : v.dirs slot.name = some tree
  current : v.Stands v.current
  home : v.home = some (.slot slot) ∨ v.home = some (.slot slot.other) ∧ v.value "status" = "committed"

section Update
variable {allows : Answer → Prop} {w : Board} {v : View} {slot : Slot} {tree : Tree} {request : UpdateRequest}

theorem Untouched.updated (valid : validateSlotDir tree = .ok ()) (untouched : Untouched slot tree v) : Updated slot tree v where
  dirs := untouched.dirs
  current := ⟨slot,tree,untouched.current,untouched.dirs,valid⟩
  home := .inl ((View.home_of_resting untouched.resting).trans untouched.current)

theorem Between.updated (valid : validateSlotDir tree = .ok ()) (between : Between slot tree v) : Updated slot tree v where
  dirs := between.dirs
  current := by
    obtain ⟨other,dirs,complete⟩ := between.other
    rcases between.current with same | same
    · exact ⟨slot,tree,same,between.dirs,valid⟩
    · exact ⟨slot.other,other,same,dirs,complete⟩
  home := .inl between.home

theorem Untouched.around {a b : Board} (around : Around slot a b) (untouched : Untouched slot tree a.view) :
    Untouched slot tree b.view := by
  refine ⟨around.current.trans untouched.current,around.dirs.trans untouched.dirs,?_⟩
  have same : b.view.value "status" = a.view.value "status" := by
    unfold View.value
    rw [show b.view.state = a.view.state from around.state]
  rw [View.switching,same]
  exact untouched.resting

theorem Untouched.written {state : OtaState} {date : String} (untouched : Untouched slot tree v)
    (resting : state.status ∈ restingStatuses) : Untouched slot tree (v.write state date) :=
  ⟨untouched.current,untouched.dirs,write_resting resting⟩

theorem Untouched.torn {text : String} (untouched : Untouched slot tree v)
    (calm : jsonStateValue "status" text ∉ switchingStatuses) : Untouched slot tree {v with state := some text} :=
  ⟨untouched.current,untouched.dirs,calm⟩

theorem Between.boots {after : View} (between : Between slot tree v) (boots : Boots v after) : Between slot tree after := by
  refine ⟨boots.dirs ▸ between.dirs,boots.dirs ▸ between.other,boots.previous.trans between.previous,
    boots.home.trans between.home,?_⟩
  rcases boots.current with same | home
  · rw [same]
    exact between.current
  · exact .inl (home.trans between.home)

theorem Updated.aside {a b : Board} (aside : Aside a b) (updated : Updated slot tree a.view) : Updated slot tree b.view := by
  have view : b.view = {a.view with dirs := b.dirs} := by
    unfold Board.view
    rw [aside.current,aside.previous,aside.state]
  have home : b.view.home = a.view.home := view ▸ rfl
  have status : b.view.value "status" = a.view.value "status" := view ▸ rfl
  refine ⟨(aside.slots slot).trans updated.dirs,?_,?_⟩
  · obtain ⟨running,tree,current,dirs,valid⟩ := updated.current
    exact ⟨running,tree,aside.current.trans current,(aside.slots running).trans dirs,valid⟩
  · rw [home,status]
    exact updated.home

-- Up to the first state that is written nothing has changed.
def Begun (slot : Slot) (tree : Tree) (before v : View) : Prop := v = before ∨ Untouched slot tree v

theorem begun_write {state : OtaState} {before : View} (current : before.current = some (.slot slot))
    (dirs : before.dirs slot.name = some tree) (resting : state.status ∈ restingStatuses) (begun : Begun slot tree before v)
    (date : String) : Untouched slot tree (v.write state date) := by
  rcases begun with rfl | untouched
  · exact ⟨current,dirs,write_resting resting⟩
  · exact untouched.written resting

theorem begun_torn {before : View} (current : before.current = some (.slot slot)) (dirs : before.dirs slot.name = some tree)
    {text : String} (begun : Begun slot tree before v) (calm : jsonStateValue "status" text ∉ switchingStatuses) :
    Begun slot tree before {v with state := some text} := by
  rcases begun with rfl | untouched
  · exact .inr ⟨current,dirs,calm⟩
  · exact .inr (untouched.torn calm)

-- A part of the script that only writes down how far it has come.
theorem staging_leads {state : OtaState} (status : String) (listed : status ∈ restingStatuses) (same : state.status = status)
    (untouched : Untouched slot tree w.view) : leads allows (Untouched slot tree) (writeOtaState state) w fun _ _ => True :=
  leads_mono (fun _ kept => kept) (fun _ _ _ _ => trivial)
    (leads_write untouched fun _ => untouched.written (same ▸ listed))

theorem untouched_then {α β : Type} {t : Script α} {k : α → Script β} {S : β → Board → Prop} (kept : keepsTo (Around slot) t)
    (untouched : Untouched slot tree w.view)
    (rest : ∀ value after, Untouched slot tree after.view → leads allows (Untouched slot tree) (k value) after S) :
    leads allows (Untouched slot tree) (t >>= k) w S :=
  leads_bind (leads_within Around.refl (fun _ _ _ => Around.trans) kept fun _ around => untouched.around around)
    fun value after here _ => rest value after here

theorem inactive_other (current : w.current = some (.slot slot)) : inactiveSlotName w = slot.other := by
  unfold inactiveSlotName
  rw [current]
  cases slot with
  | a => rfl
  | b => exact if_neg (by simp)

theorem around_log : keepsTo (Around slot) log := keepsTo_mono (fun _ _ => Steady.around) steady_log

theorem around_checkNotBusy (force : Bool) : keepsTo (Around slot) (checkNotBusy force) := by
  cases force with
  | true => exact around_log
  | false =>
      exact keepsTo_bind (keepsTo_run fun _ w => Around.refl w) fun _ =>
        keepsTo_bind (keepsTo_ask Around.refl _) fun _ => around_log

theorem around_verify (request : UpdateRequest) : keepsTo (Around slot) (verifyPackage request) := by
  unfold verifyPackage
  split
  · exact keepsTo_bind around_log fun _ => keepsTo_done _
  · split
    · exact around_log
    · exact keepsTo_done _

theorem admit_leads (current : w.view.current = some (.slot slot)) (dirs : w.view.dirs slot.name = some tree) :
    leads allows (Begun slot tree w.view) (admitPackage request) w fun slots after =>
      Untouched slot tree after.view ∧ slots = (slot.other,some slot) := by
  have listed : ("downloading" : String) ∈ restingStatuses := by decide
  refine leads_bind (F := fun _ after => Untouched slot tree after.view) ?_ fun _ before _ untouched => ?_
  · refine leads_mono (fun _ kept => kept) ?_
      (leads_write (.inl rfl) fun date => .inr (begun_write current dirs listed (.inl rfl) date))
    rintro _ after _ ⟨date,written⟩
    rw [written]
    exact begun_write current dirs listed (.inl rfl) date
  refine leads_mono (fun _ kept => .inr kept) (fun _ _ _ reached => reached) (?_ : leads allows (Untouched slot tree) _ _ _)
  refine untouched_then around_log untouched fun _ _ untouched => ?_
  refine leads_bind (staging_leads "verifying" (by decide) rfl untouched) fun _ _ untouched _ => ?_
  refine untouched_then (around_verify request) untouched fun _ _ untouched => ?_
  refine leads_bind (staging_leads "verified" (by decide) rfl untouched) fun _ _ untouched _ => ?_
  refine untouched_then (around_checkNotBusy request.force) untouched fun _ _ untouched => ?_
  refine untouched_then (keepsTo_ask Around.refl _) untouched fun _ _ untouched => ?_
  refine untouched_then (keepsTo_done _) untouched fun _ checked untouched => ?_
  refine leads_look_then untouched fun target found => leads_look_then untouched fun previous linked => ?_
  apply leads_done untouched
  intro slots same
  obtain rfl := Except.ok.inj same
  have active : checked.current = some (.slot slot) := untouched.current
  have stands : (checked.dirs slot.name).isSome = true := by
    rw [show checked.dirs slot.name = some tree from untouched.dirs]
    rfl
  refine ⟨untouched,?_⟩
  rw [← Except.ok.inj found,inactive_other active]
  unfold optionalCurrentSlotPath at linked
  rw [active] at linked
  simp only [managedSlot,stands,if_true,Except.map] at linked
  rw [Except.ok.inj linked]

-- The new slot is complete and the old one is remembered.
structure Ready (slot : Slot) (tree : Tree) (v : View) : Prop extends Untouched slot tree v where
  other : ∃ tree, v.dirs slot.other.name = some tree ∧ validateSlotDir tree = .ok ()
  previous : v.previous = some (.slot slot)

theorem stands_of_valid (valid : validateSlotDir (w.tree slot) = .ok ()) :
    ∃ tree, w.dirs slot.name = some tree ∧ validateSlotDir tree = .ok () := by
  unfold Board.tree at valid
  cases dirs : w.dirs slot.name with
  | none =>
      rw [dirs] at valid
      exact absurd valid (by decide)
  | some tree =>
      rw [dirs] at valid
      exact ⟨tree,rfl,valid⟩

theorem other_apart (slot : Slot) : slot.name ≠ slot.other.name := by cases slot <;> decide

theorem backUp_leads {versions : Versions} (untouched : Untouched slot tree w.view) :
    leads allows (Untouched slot tree) (backUp request versions) w fun _ _ => True := by
  have backup : keepsTo (Around slot) (runPreUpdateBackup request.skipBackup) := by
    unfold runPreUpdateBackup
    split
    · exact around_log
    · exact keepsTo_bind (keepsTo_run fun _ w => Around.refl w) fun _ => keepsTo_command Around.refl fun _ w => Around.refl w
  exact untouched_then backup untouched fun _ _ untouched => staging_leads "backup_done" (by decide) rfl untouched

theorem stage_leads {versions : Versions} (untouched : Untouched slot tree w.view) :
    leads allows (Untouched slot tree) (stageCandidate request versions slot.other (some slot)) w fun _ after =>
      Ready slot tree after.view := by
  have extract := stageDirs_apart slot.other request.pid _ List.mem_cons_self
  have stage := stageDirs_apart slot.other request.pid _ (List.mem_cons_of_mem _ List.mem_cons_self)
  have around : ∀ {α : Type} {t : Script α}, keepsTo Aside t → keepsTo (Around slot) t := keepsTo_mono fun _ _ => Aside.around
  refine leads_bind (staging_leads "staged" (by decide) rfl untouched) fun _ _ untouched _ => ?_
  refine untouched_then around_log untouched fun _ _ untouched => ?_
  refine untouched_then (around (keepsTo_removeAnyway Aside.refl (aside_setDir extract))) untouched fun _ _ untouched => ?_
  refine untouched_then (around (keepsTo_removeAnyway Aside.refl (aside_setDir stage))) untouched fun _ _ untouched => ?_
  refine untouched_then (around (aside_stage extract stage _)) untouched fun _ _ untouched => ?_
  refine untouched_then (keepsTo_removeAnyway Around.refl (around_setDir (other_apart slot))) untouched fun _ _ untouched => ?_
  refine untouched_then (keepsTo_run fun e w => ?_) untouched fun _ _ untouched => ?_
  · split
    · exact Around.refl w
    · split
      · exact Around.refl w
      · exact (around_setDir (stage slot) w none).trans (around_setDir (other_apart slot) _ _)
  refine untouched_then (around aside_flush) untouched fun _ flushed untouched => ?_
  refine leads_look_then untouched fun _ valid => ?_
  have remembered : Untouched slot tree (flushed.view.remember slot) := ⟨untouched.current,untouched.dirs,untouched.resting⟩
  refine leads_mono (fun _ kept => kept) ?_
    (leads_symlink untouched (fun before same => congrArg (View.remember slot) same) remembered)
  rintro _ after _ same
  rw [same]
  exact {remembered with other := stands_of_valid valid,previous := rfl}

-- A state that asks for a recovery, written where the old slot is remembered.
theorem between_write {state : OtaState} {date : String} (switching : state.status ∈ switchingStatuses)
    (named : state.slot = slot.other.name) (reason : readBack state.reason ≠ "manual rollback")
    (dirs : v.dirs slot.name = some tree) (other : ∃ tree, v.dirs slot.other.name = some tree ∧ validateSlotDir tree = .ok ())
    (previous : v.previous = some (.slot slot))
    (current : v.current = some (.slot slot) ∨ v.current = some (.slot slot.other)) : Between slot tree (v.write state date) :=
  ⟨dirs,other,previous,(home_switching switching slot.other named reason).trans previous,current⟩

theorem Between.lead {running : Slot} (between : Between slot tree v) (switching : v.switching) : Between slot tree (v.lead running) := by
  refine ⟨between.dirs,between.other,between.previous,(View.home_lead switching running).trans between.home,?_⟩
  cases slot <;> cases running <;> simp [View.lead,Slot.other]

-- The old slot is current again.
structure Back (slot : Slot) (tree : Tree) (v : View) : Prop extends Between slot tree v where
  back : v.current = some (.slot slot)

theorem Back.boots {after : View} (back : Back slot tree v) (boots : Boots v after) : Back slot tree after := by
  refine {back.toBetween.boots boots with back := ?_}
  rcases boots.current with same | home
  · exact same.trans back.back
  · exact home.trans back.home

theorem Back.written {state : OtaState} {date : String} (valid : validateSlotDir tree = .ok ()) (back : Back slot tree v)
    (resting : state.status ∈ restingStatuses) : Updated slot tree (v.write state date) :=
  ⟨back.dirs,⟨slot,tree,back.back,back.dirs,valid⟩,.inl ((home_resting resting).trans back.back)⟩

-- What is written down at the end, over a board that is back.
theorem back_write {state : OtaState} (status : String) (listed : status ∈ restingStatuses) (same : state.status = status)
    (valid : validateSlotDir tree = .ok ()) (back : Back slot tree w.view) :
    leads allows (Updated slot tree) (writeOtaState state) w fun _ _ => True :=
  leads_mono (fun _ kept => kept) (fun _ _ _ _ => trivial)
    (leads_write (back.updated valid) fun _ => back.written valid (same ▸ listed))

theorem updated_last {t : Script Unit} (kept : keepsTo Steady t) (updated : Updated slot tree w.view) :
    leads allows (Updated slot tree) t w fun _ _ => True :=
  leads_mono (fun _ kept => kept) (fun _ _ _ _ => trivial) (leads_steady kept updated)

-- The way back to the old slot, once the new one has failed.
theorem fallBack_leads {versions : Versions} (valid : validateSlotDir tree = .ok ()) (between : Between slot tree w.view)
    (switching : w.view.switching) :
    leads allows (Updated slot tree) (fallBack request versions slot.other slot) w fun _ _ => True := by
  have updated := between.updated valid
  refine leads_then steady_stop updated fun _ stopped one => ?_
  refine leads_then steady_log (one ▸ updated) fun _ logged two => ?_
  refine leads_then (steady_units slot) (two ▸ one ▸ updated) fun _ installed three => ?_
  have still : installed.view = w.view := three.trans (two.trans one)
  have back : Back slot tree (w.view.lead slot) := {between.lead switching with back := rfl}
  refine leads_bind (leads_symlink (still ▸ updated) (fun before same => ?_) (back.updated valid)) fun _ led _ there => ?_
  · exact congrArg (View.lead slot) (same.trans still)
  refine leads_then steady_compat (there ▸ back.updated valid) fun _ synced one => ?_
  refine leads_then (steady_tools slot) (one ▸ there ▸ back.updated valid) fun _ ready two => ?_
  have back' : Back slot tree ready.view := (two.trans (one.trans there)) ▸ back
  refine leads_bind (F := fun _ after => Back slot tree after.view) ?_ fun healthy started _ back => ?_
  · have boots : leads allows (Boots ready.view) (startHealthy request.healthAttempts request.requiredPasses) ready fun _ after =>
        Boots ready.view after.view := leads_ends (startHealthy_leads _ _ (Boots.refl _))
    exact leads_mono (fun _ boots => (back'.boots boots).updated valid) (fun _ _ _ boots => back'.boots boots) boots
  cases healthy with
  | true =>
      refine leads_bind (back_write "rolled_back" (by decide) rfl valid back) fun _ _ updated _ => ?_
      exact leads_then steady_log updated fun _ _ same => leads_done (same ▸ updated) nofun
  | false =>
      refine leads_bind (F := fun _ _ => True) ?_ fun _ _ updated _ => leads_done updated nofun
      refine leads_then steady_clear (back.updated valid) fun _ cleared same => ?_
      refine leads_bind (back_write "failed" (by decide) rfl valid (same ▸ back)) fun _ _ updated _ => ?_
      exact updated_last steady_stop updated

-- A state that asks for a recovery, written on the way of an update.
theorem between_leads {state : OtaState} (status : String) (listed : status ∈ switchingStatuses) (same : state.status = status)
    (named : state.slot = slot.other.name) (reason : readBack state.reason ≠ "manual rollback")
    (valid : validateSlotDir tree = .ok ()) (updated : Updated slot tree w.view)
    (other : ∃ tree, w.view.dirs slot.other.name = some tree ∧ validateSlotDir tree = .ok ())
    (previous : w.view.previous = some (.slot slot))
    (current : w.view.current = some (.slot slot) ∨ w.view.current = some (.slot slot.other)) :
    leads allows (Updated slot tree) (writeOtaState state) w fun _ after => Between slot tree after.view ∧ after.view.switching := by
  have switching : state.status ∈ switchingStatuses := same ▸ listed
  have between : ∀ date, Between slot tree (w.view.write state date) := fun date =>
    between_write switching named reason updated.dirs other previous current
  refine leads_mono (fun _ kept => kept) ?_ (leads_write updated fun date => (between date).updated valid)
  rintro _ after _ ⟨date,written⟩
  rw [written,View.switching,value_status (List.mem_append_right _ switching)]
  exact ⟨between date,switching⟩

theorem commit_leads {versions : Versions} (valid : validateSlotDir tree = .ok ()) (between : Between slot tree w.view) :
    leads allows (Updated slot tree) (writeOtaState (request.state versions "committed" slot.other.name)) w fun _ _ => True := by
  have resting : (request.state versions "committed" slot.other.name).status ∈ restingStatuses :=
    (by decide : ("committed" : String) ∈ restingStatuses)
  have updated := between.updated valid
  refine leads_mono (fun _ kept => kept) (fun _ _ _ _ => trivial) (leads_write updated fun date => ?_)
  refine ⟨between.dirs,updated.current,?_⟩
  rw [home_resting resting,value_status (List.mem_append_left _ resting)]
  rcases between.current with same | same
  · exact .inl same
  · exact .inr ⟨same,rfl⟩

-- The switch and all that comes behind it.
theorem switch_leads {versions : Versions} (valid : validateSlotDir tree = .ok ()) (ready : Ready slot tree w.view) :
    leads allows (Updated slot tree) (switchSlot request versions slot.other (some slot)) w fun _ _ => True := by
  refine leads_bind (between_leads "switching" (by decide) rfl rfl (show readBack "" ≠ _ by decide) valid
    (ready.toUntouched.updated valid) ready.other ready.previous (.inl ready.current)) fun _ begun _ ⟨between,switching⟩ => ?_
  have updated := between.updated valid
  refine leads_then steady_log updated fun _ logged one => ?_
  refine leads_then steady_stop (one ▸ updated) fun _ stopped two => ?_
  have still := two.trans one
  refine leads_then (steady_tools slot.other) (still ▸ updated) fun _ replaced one => ?_
  refine leads_then steady_log (one.trans still ▸ updated) fun _ logged two => ?_
  refine leads_then (steady_units slot.other) (two.trans (one.trans still) ▸ updated) fun _ installed three => ?_
  have still : installed.view = begun.view := three.trans (two.trans (one.trans still))
  have led : Between slot tree (begun.view.lead slot.other) := between.lead switching
  refine leads_bind (leads_symlink (still ▸ updated) (fun before same => ?_) (led.updated valid)) fun _ switched _ there => ?_
  · exact congrArg (View.lead slot.other) (same.trans still)
  refine leads_then steady_compat (there ▸ led.updated valid) fun _ synced same => ?_
  have led' : Between slot tree synced.view := same.trans there ▸ led
  refine leads_bind (between_leads "health_checking" (by decide) rfl rfl (show readBack "" ≠ _ by decide) valid
    (led'.updated valid) led'.other led'.previous led'.current) fun _ checking _ ⟨between,_⟩ => ?_
  refine leads_bind (F := fun _ after => Between slot tree after.view) ?_ fun healthy started _ between => ?_
  · have boots : leads allows (Boots checking.view) (startHealthy request.healthAttempts request.requiredPasses) checking fun _ after =>
        Boots checking.view after.view := leads_ends (startHealthy_leads _ _ (Boots.refl _))
    exact leads_mono (fun _ boots => (between.boots boots).updated valid) (fun _ _ _ boots => between.boots boots) boots
  cases healthy with
  | true =>
      refine leads_bind (commit_leads valid between) fun _ _ updated _ => ?_
      exact updated_last steady_log updated
  | false =>
      refine leads_then steady_log (between.updated valid) fun _ logged same => ?_
      have between : Between slot tree logged.view := same ▸ between
      refine leads_bind (between_leads "rolling_back" (by decide) rfl rfl
        (show readBack "new slot health check failed" ≠ _ by decide) valid (between.updated valid) between.other between.previous
        between.current) fun _ rolling _ ⟨between,switching⟩ => ?_
      refine leads_look_then (between.updated valid) fun previous found => ?_
      have stands : (rolling.dirs slot.name).isSome = true := by
        rw [show rolling.dirs slot.name = some tree from between.dirs]
        rfl
      have kept : Option.filter (fun slot : Slot => (rolling.dirs slot.name).isSome) (some slot) = some slot :=
        Option.filter_some_pos stands
      obtain rfl : some slot = previous := kept.symm.trans (Except.ok.inj found)
      exact fallBack_leads valid between switching

-- Wherever an update is cut, nothing has begun, or the old slot is as it was and the machine
-- comes back to it, unless the new slot is committed.
theorem otaUpdate_leads (current : w.view.current = some (.slot slot)) (dirs : w.view.dirs slot.name = some tree)
    (valid : validateSlotDir tree = .ok ()) :
    leads allows (fun v => v = w.view ∨ Updated slot tree v) (otaUpdate request) w fun _ _ => True := by
  have torn : ∀ v text, Untouched slot tree v → jsonStateValue "status" text ∉ switchingStatuses →
      Untouched slot tree {v with state := some text} := fun _ _ untouched calm => untouched.torn calm
  have begins : leads allows (fun v => v = w.view ∨ Updated slot tree v) (rejecting request {} (admitPackage request)) w
      fun slots after => Untouched slot tree after.view ∧ slots = (slot.other,some slot) := by
    refine leads_mono ?_ (fun _ _ _ reached => reached)
      (leads_rejecting (admit_leads current dirs) fun _ _ begun calm => begun_torn current dirs begun calm)
    rintro v (same | untouched)
    · exact .inl same
    · exact .inr (untouched.updated valid)
  have silent : ∀ {α : Type} (result : Except String α), keepsTo Eq (given result) := fun result => keepsTo_done result
  have closed : ∀ a b, Aside a b → Updated slot tree a.view → Updated slot tree b.view := fun _ _ => Updated.aside
  unfold otaUpdate
  refine source_then (.inl rfl) ?_
  refine leads_silent_then (silent _) (.inl rfl) fun _ => leads_silent_then (silent _) (.inl rfl) fun _ => ?_
  refine leads_silent_then (silent _) (.inl rfl) fun _ => leads_silent_then (silent _) (.inl rfl) fun _ => ?_
  refine leads_silent_then silent_command (.inl rfl) fun _ => leads_silent_then (silent _) (.inl rfl) fun _ => ?_
  refine leads_bind begins fun slots admitted _ ⟨untouched,same⟩ => ?_
  subst same
  refine leads_mono (fun _ updated => .inr updated) (fun _ _ _ _ => trivial) (?_ : leads allows (Updated slot tree) _ _ fun _ _ => True)
  refine leads_look_then (untouched.updated valid) fun origin _ => ?_
  refine leads_cleaning (by simpa using metadataDir_apart slot.other request.pid) closed (?_ : leads _ _ _ _ fun _ _ => True)
  have calm : ∀ {α : Type} {t : Script α} {before : Board} {Q : α → Board → Prop} {versions : Versions},
      leads allows (Untouched slot tree) t before Q → leads allows (Updated slot tree) (rejecting request versions t) before
        fun value after => Untouched slot tree after.view ∧ Q value after := by
    intro α t before Q versions holds
    refine leads_mono (fun _ untouched => untouched.updated valid) (fun _ _ untouched reached => ⟨untouched,reached⟩)
      (leads_rejecting holds torn)
  refine leads_bind (calm (leads_within Around.refl (fun _ _ _ => Around.trans)
    (keepsTo_mono (fun _ _ => Aside.around) (aside_metadata request slot.other)) fun _ around => untouched.around around))
    fun release read _ ⟨untouched,_⟩ => ?_
  split
  · have checks : keepsTo (Around slot) (checkPreUpdateBackupAvailable request.skipBackup) := by
      unfold checkPreUpdateBackupAvailable
      split
      · exact around_log
      · exact keepsTo_bind (keepsTo_run fun _ w => Around.refl w) fun _ => around_log
    refine leads_bind (calm (leads_within Around.refl (fun _ _ _ => Around.trans) checks fun _ around => untouched.around around))
      fun _ checked _ ⟨untouched,_⟩ => ?_
    refine leads_cleaning (dryRunDirs_apart slot.other request.pid) closed (?_ : leads _ _ _ _ fun _ _ => True)
    have tried : leads allows (Untouched slot tree) (do
        dryRunReleaseCandidateValidation request slot.other
        writeOtaState (request.state {fromVersion := origin.1,fromGit := origin.2,toVersion := release.1,toGit := release.2}
          "dry_run_passed" slot.other.name)
        log) checked fun _ _ => True := by
      refine untouched_then (keepsTo_mono (fun _ _ => Aside.around) (aside_dryRun request slot.other)) untouched fun _ _ untouched => ?_
      refine leads_bind (staging_leads "dry_run_passed" (by decide) rfl untouched) fun _ _ untouched _ => ?_
      exact leads_mono (fun _ same => same) (fun _ _ _ _ => trivial) (leads_steady steady_log untouched)
    exact leads_mono (fun _ same => same) (fun _ _ _ _ => trivial) (calm tried)
  · refine leads_bind (calm (backUp_leads untouched)) fun _ saved _ ⟨untouched,_⟩ => ?_
    refine leads_cleaning (stageDirs_apart slot.other request.pid) closed (?_ : leads _ _ _ _ fun _ _ => True)
    exact leads_bind (calm (stage_leads untouched)) fun _ _ _ reached => switch_leads valid reached.2

end Update

-- The machine comes to the slot that a rollback is to lead to. No slot has changed.
structure Turned (target : Slot) (before v : View) : Prop where
  dirs : v.dirs = before.dirs
  home : v.home = some (.slot target)
  current : v.current = before.current ∨ v.current = some (.slot target)

section Rollback
variable {allows : Answer → Prop} {w : Board} {target : Slot} {before v : View}

theorem Turned.boots {after : View} (turned : Turned target before v) (boots : Boots v after) : Turned target before after := by
  refine ⟨boots.dirs.trans turned.dirs,boots.home.trans turned.home,?_⟩
  rcases boots.current with same | home
  · rw [same]
    exact turned.current
  · exact .inr (home.trans turned.home)

-- The slot is current, and what is written down asks for no recovery.
theorem turned_write {state : OtaState} (status : String) (listed : status ∈ restingStatuses) (same : state.status = status)
    (turned : Turned target before w.view) (arrived : w.view.current = some (.slot target)) :
    leads allows (Turned target before) (writeOtaState state) w fun _ _ => True := by
  have resting : state.status ∈ restingStatuses := same ▸ listed
  exact leads_mono (fun _ kept => kept) (fun _ _ _ _ => trivial)
    (leads_write turned fun date => ⟨turned.dirs,(home_resting resting).trans arrived,.inr arrived⟩)

theorem silent_checkNotBusy (force : Bool) : keepsTo Eq (checkNotBusy force) := by
  cases force with
  | true => exact silent_command
  | false =>
      exact keepsTo_bind (keepsTo_run fun _ _ => rfl) fun _ =>
        keepsTo_bind (keepsTo_ask (fun _ => rfl) _) fun _ => silent_command

theorem managedSlot_previous {slot : Slot} (linked : previousSlotPath w = .ok slot) : w.view.previous = some (.slot slot) := by
  unfold previousSlotPath managedSlot at linked
  split at linked
  · cases linked
  · cases linked
  · rename_i target found
    split at linked
    · rw [← Except.ok.inj linked]
      exact found
    · cases linked

-- Wherever a rollback is cut, nothing has begun, or the machine comes to the slot before,
-- which is complete.
theorem otaRollback_leads (options : RollbackOptions) (w : Board) :
    leads allows (fun v => v = w.view ∨ ∃ target tree, w.view.previous = some (.slot target) ∧
      w.view.dirs target.name = some tree ∧ validateSlotDir tree = .ok () ∧ Turned target w.view v) (otaRollback options) w
      fun _ after => after.view.current = w.view.previous := by
  have silent : ∀ {α : Type} (result : Except String α), keepsTo Eq (given result) := fun result => keepsTo_done result
  unfold otaRollback
  refine source_then (.inl rfl) ?_
  refine leads_silent_then (silent _) (.inl rfl) fun _ => leads_silent_then (silent _) (.inl rfl) fun _ => ?_
  refine leads_silent_then silent_command (.inl rfl) fun _ => leads_silent_then (silent_checkNotBusy _) (.inl rfl) fun _ => ?_
  refine leads_look_then (.inl rfl) fun running linked => leads_look_then (.inl rfl) fun target found => ?_
  refine leads_silent_then (silent _) (.inl rfl) fun _ => leads_look_then (.inl rfl) fun _ valid => ?_
  refine leads_look_then (.inl rfl) fun versions _ => leads_look_then (.inl rfl) fun gits _ => ?_
  obtain ⟨tree,dirs,valid⟩ := stands_of_valid valid
  have previous := managedSlot_previous found
  have weaker : ∀ v, Turned target w.view v → v = w.view ∨ ∃ target tree, w.view.previous = some (.slot target) ∧
      w.view.dirs target.name = some tree ∧ validateSlotDir tree = .ok () ∧ Turned target w.view v :=
    fun v turned => .inr ⟨target,tree,previous,dirs,valid,turned⟩
  -- The state file names the slot, whatever the links are.
  have turned : ∀ (date : String) (v : View), v.dirs = w.view.dirs →
      v.current = w.view.current ∨ v.current = some (.slot target) →
      Turned target w.view (v.write (rollbackState target versions gits "rolling_back" "manual rollback") date) :=
    fun date v dirs current => ⟨dirs,home_rollback rfl target rfl rfl,current⟩
  refine leads_bind (leads_write (.inl rfl) fun date => weaker _ (turned date _ rfl (.inl rfl)))
    fun _ written _ ⟨date,same⟩ => ?_
  have begun : Turned target w.view written.view := same ▸ turned date w.view rfl (.inl rfl)
  refine leads_mono weaker (fun _ _ _ reached => reached) (?_ : leads allows (Turned target w.view) _ _ _)
  refine leads_then steady_log begun fun _ logged one => leads_then steady_stop (one ▸ begun) fun _ stopped two => ?_
  refine leads_then (steady_units target) (two.trans one ▸ begun) fun _ installed three => ?_
  have still : installed.view = written.view := three.trans (two.trans one)
  have led := turned date (w.view.lead target) rfl (.inr rfl)
  refine leads_bind (leads_symlink (still ▸ begun) (fun before same' => ?_) led) fun _ switched _ there => ?_
  · exact congrArg (View.lead target) (same'.trans (still.trans same))
  refine leads_look_then (there ▸ led) fun stands _ => ?_
  have linked' : leads allows (Turned target w.view) (linkPrevious running stands) switched fun _ after =>
      Turned target w.view after.view ∧ after.view.current = some (.slot target) := by
    unfold linkPrevious
    have remembered := turned date ((w.view.lead target).remember running) rfl (.inr rfl)
    cases stands with
    | false =>
        refine leads_done (there ▸ led) fun _ _ => ⟨there ▸ led,?_⟩
        rw [there]
        rfl
    | true =>
        refine leads_mono (fun _ kept => kept) ?_
          (leads_symlink (there ▸ led) (fun before same' => congrArg (View.remember running) (same'.trans there)) remembered)
        rintro _ after here same'
        refine ⟨here,?_⟩
        rw [same']
        rfl
  refine leads_bind linked' fun _ remembered _ ⟨turned,arrived⟩ => ?_
  refine leads_then steady_compat turned fun _ synced one => leads_then (steady_tools target) (one ▸ turned) fun _ ready two => ?_
  have still : ready.view = remembered.view := two.trans one
  have turned : Turned target w.view ready.view := still ▸ turned
  have arrived : ready.view.current = some (.slot target) := still ▸ arrived
  refine leads_bind (F := fun _ after => Turned target w.view after.view ∧ after.view.current = some (.slot target)) ?_
    fun healthy started _ ⟨turned,arrived⟩ => ?_
  · have boots : leads allows (Boots ready.view) (startHealthy options.healthAttempts options.requiredPasses) ready fun _ after =>
        Boots ready.view after.view := leads_ends (startHealthy_leads _ _ (Boots.refl _))
    refine leads_mono (fun _ boots => turned.boots boots) (fun _ _ _ boots => ⟨turned.boots boots,?_⟩) boots
    rcases boots.current with same | home
    · exact same.trans arrived
    · exact home.trans turned.home
  cases healthy with
  | true =>
      have resting : (rollbackState target versions gits "rolled_back" "manual rollback").status ∈ restingStatuses :=
        (by decide : ("rolled_back" : String) ∈ restingStatuses)
      refine leads_bind (leads_write turned fun date => ⟨turned.dirs,(home_resting resting).trans arrived,.inr arrived⟩)
        fun _ written turned ⟨date,same⟩ => ?_
      refine leads_mono (fun _ kept => kept) ?_ (leads_steady steady_log turned)
      rintro _ after _ still
      rw [still,same,previous]
      exact arrived
  | false =>
      refine leads_bind (F := fun _ _ => True) ?_ fun _ _ turned _ => leads_done turned nofun
      refine leads_then steady_clear turned fun _ cleared same => ?_
      refine leads_bind (turned_write "failed" (by decide) rfl (same ▸ turned) (same ▸ arrived)) fun _ _ turned _ => ?_
      exact leads_mono (fun _ kept => kept) (fun _ _ _ _ => trivial) (leads_steady steady_stop turned)

end Rollback
end ReactorOS.Ota
