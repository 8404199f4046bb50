import ReactorOS.Restore
import ReactorOS.Storage.Names
namespace ReactorOS
open Concurrency Task Storage FilePath

-- The names that restores give to what they preserve.
def IsEvidence (path : FilePath) : Prop :=
  ∃ stem, path.fileName = stem ++ ".pre-restore" ∨ ∃ index : Nat, path.fileName = stem ++ ".pre-restore." ++ toString index

theorem evidence_ends {path : FilePath} (evidence : IsEvidence path) :
    ∃ rest, undigited path.fileName = 'e' :: rest ∨ undigited path.fileName = '.' :: 'e' :: rest := by
  obtain ⟨stem,name | ⟨index,name⟩⟩ := evidence
  · rw [name,undigited_append stem ".pre-restore" (by decide : _ = 'e' :: "rotser-erp.".toList) rfl]
    exact ⟨_,.inl rfl⟩
  · rw [name,undigited_number,undigited_append stem ".pre-restore." (by decide : _ = '.' :: "erotser-erp.".toList) rfl]
    exact ⟨_,.inr rfl⟩

section Names
variable (pid : Nat) (destination : FilePath)

theorem tmp_no_evidence (base : FilePath) (tag : String) (letter : tag.toList.reverse.take 2 = ['.','p']) :
    ¬IsEvidence (base.withFileName (base.fileName ++ tag ++ toString pid)) := by
  intro evidence
  obtain ⟨rest,ending⟩ := evidence_ends evidence
  have split := List.take_append_drop 2 tag.toList.reverse
  rw [letter] at split
  rw [withFileName_fileName,undigited_number,undigited_append base.fileName tag split.symm rfl] at ending
  rcases ending with wrong | wrong <;> simp at wrong

theorem restoreTmp_no_evidence : ¬IsEvidence (restoreTmpPath pid destination) :=
  tmp_no_evidence pid destination ".restore.tmp." (by decide)

theorem evidenceTmp_no_evidence : ¬IsEvidence (evidenceTmpPath pid destination) :=
  tmp_no_evidence pid destination ".evidence.tmp." (by decide)

theorem sidecar_no_evidence {suffix : String} (known : suffix ∈ ["-wal","-shm","-journal"]) :
    ¬IsEvidence (pathWithRawSuffix destination suffix) := by
  have ends : ∀ (ch : Char) (rest : List Char), suffix.toList.reverse = ch :: rest → ch.isDigit = false → ch ≠ 'e' →
      ch ≠ '.' → ¬IsEvidence (pathWithRawSuffix destination suffix) := by
    intro ch rest last letter not_e not_dot evidence
    obtain ⟨tail,ending⟩ := evidence_ends evidence
    rw [pathWithRawSuffix,withFileName_fileName,undigited_append _ suffix last letter] at ending
    rcases ending with wrong | wrong
    · exact not_e (List.cons.inj wrong).1
    · exact not_dot (List.cons.inj wrong).1
  simp only [List.mem_cons,List.not_mem_nil,or_false] at known
  rcases known with rfl | rfl | rfl
  · exact ends 'l' _ (by decide : _ = 'l' :: "aw-".toList) rfl (by decide) (by decide)
  · exact ends 'm' _ (by decide : _ = 'm' :: "hs-".toList) rfl (by decide) (by decide)
  · exact ends 'l' _ (by decide : _ = 'l' :: "anruoj-".toList) rfl (by decide) (by decide)

theorem restoreTmp_beside : destination.Beside ".restore.tmp." (restoreTmpPath pid destination) :=
  beside_tag destination ".restore.tmp." (toString pid)

theorem evidenceTmp_beside {tag : String} {path : FilePath} (beside : destination.Beside tag path) :
    destination.Beside tag (evidenceTmpPath pid path) := by
  have longer := beside.append (".evidence.tmp." ++ toString pid)
  rwa [←String.append_assoc] at longer

theorem candidates_beside {tag : String} {base candidate : FilePath} (beside : destination.Beside tag base)
    (member : candidate ∈ evidenceCandidates base) : destination.Beside tag candidate := by
  rcases List.mem_cons.mp member with rfl | numbered
  · exact beside
  · obtain ⟨index,_,rfl⟩ := List.mem_map.mp numbered
    have longer := beside.append ("." ++ toString index)
    rwa [←String.append_assoc] at longer

theorem existing_beside : destination.Beside ".pre-restore" (pathWithFileSuffix destination "pre-restore") := by
  have beside := beside_tag destination ".pre-restore" ""
  rwa [String.append_empty,(by decide : ".pre-restore" = "." ++ "pre-restore"),←String.append_assoc] at beside

theorem suffix_beside (suffix more : String) : destination.Beside suffix (pathWithRawSuffix destination (suffix ++ more)) := by
  unfold pathWithRawSuffix
  rw [←String.append_assoc]
  exact beside_tag destination suffix more

theorem sidecar_beside (suffix : String) : destination.Beside suffix (pathWithRawSuffix destination suffix) := by
  have beside := suffix_beside destination suffix ""
  rwa [String.append_empty] at beside

end Names

section Touched
variable {S : FilePath → Prop} {α : Type} (pid : Nat)

theorem touches_asked {op : FileOp FilePath} {found : Files FilePath Content → Except FileError α}
    (text : FileError → String) : touches S ((look op found).mapError text) := touches_mapError _ (touches_look _ _)

theorem touches_throw (error : String) : touches S (throw error : DbTask α) := touches_done _

theorem touches_pure (value : α) : touches S (pure value : DbTask α) := touches_done _

theorem touches_removeTmp {path : FilePath} (inside : S path) : touches S (removeRestoreTmpIfPresent path) := by
  unfold removeRestoreTmpIfPresent
  apply touches_bind (touches_attempt (touches_remove inside))
  intro result
  cases result with
  | ok _ => exact touches_pure _
  | error error =>
      cases error with
      | notFound => exact touches_pure _
      | failed text => exact touches_throw _

theorem touches_syncWritten (path : FilePath) : touches S (syncWritten path) := by
  unfold syncWritten
  exact touches_bind (touches_asked _) fun _ => touches_bind (touches_asked _) fun _ => touches_pure _

theorem touches_syncParentDir (path : FilePath) : touches S (syncParentDir path) := by
  unfold syncParentDir
  split
  · exact touches_pure _
  · exact touches_bind (touches_asked _) fun _ => touches_asked _

theorem touches_cleaningUp {tmp : FilePath} {work : DbTask α} (inside : S tmp) (kept : touches S work) :
    touches S (cleaningUp tmp work) :=
  touches_tryCatch kept fun _ => touches_bind (touches_attempt (touches_remove inside)) fun _ => touches_throw _

theorem touches_copyEvidence (source destination : FilePath) (label : String) :
    touches (fun path => path = evidenceTmpPath pid destination ∨ path = destination)
      (copyEvidenceFileAtomic pid source destination label) := by
  unfold copyEvidenceFileAtomic
  apply touches_bind (touches_removeTmp (.inl rfl))
  intro _
  apply touches_cleaningUp (.inl rfl)
  apply touches_bind (touches_mapError _ (touches_copy (.inl rfl)))
  intro _
  apply touches_bind (touches_mapError _ (touches_syncWritten _))
  intro _
  apply touches_bind (touches_asked _)
  intro original
  apply touches_bind (touches_asked _)
  intro copied
  split
  · exact touches_throw _
  · exact touches_bind (touches_mapError _ (touches_rename (.inl rfl) (.inr rfl))) fun _ => touches_syncParentDir _

variable {Database : Type} (sqlite : Sqlite Database)

theorem touches_validate (path : FilePath) : touches S (validateRestoredDbFile sqlite path) := by
  unfold validateRestoredDbFile
  apply touches_bind (touches_asked _)
  intro _
  apply touches_bind (touches_asked _)
  intro checked
  cases sqlite.integrityCheck checked with
  | none => exact touches_throw _
  | some integrity =>
      simp only
      split
      · exact touches_throw _
      · apply touches_bind (touches_asked _)
        intro listed
        cases sqlite.tableNames listed with
        | none => exact touches_throw _
        | some tables => exact touches_pure _

theorem touches_stageImage (source tmp : FilePath) : touches (fun path => path = tmp) (stageImage sqlite source tmp) := by
  unfold stageImage
  apply touches_bind (touches_mapError _ (touches_copy (S := fun path => path = tmp) rfl))
  intro _
  exact touches_bind (touches_mapError _ (touches_syncWritten _)) fun _ => touches_validate sqlite tmp

theorem touches_report {β : Type} (sha256 : Content → String) (destination : FilePath)
    (report : Except FileError Content → String → β) : touches S (do
      let size ← (metadata destination).attempt
      let hash ← sha256Hex sha256 destination
      pure (report size hash) : DbTask β) := by
  apply touches_bind (touches_attempt (touches_look _ _))
  intro size
  unfold sha256Hex
  apply touches_bind
  · exact touches_bind (touches_asked _) fun _ => touches_bind (touches_asked _) fun _ => touches_pure _
  · exact fun _ => touches_pure _

end Touched

section Stages
variable {allows : (FileOp FilePath → Fate Content) → Prop} {w : Files FilePath Content} {α : Type}

variable {I : Files FilePath Content → Prop}

-- A question to the disk and what is done with the answer.
theorem guarded_ask {β : Type} {op : FileOp FilePath} {found : Files FilePath Content → Except FileError α}
    {text : FileError → String} {k : α → DbTask β} {R : Except String β → Files FilePath Content → Prop} (here : I w)
    (failed : ∀ error, R (.error error) w) (seen : ∀ value, found w = .ok value → (k value).guarded allows I w R) :
    ((look op found).mapError text >>= k).guarded allows I w R := by
  rw [guarded_bind,guarded_mapError]
  exact guarded_look here (fun error => failed (text error)) seen

theorem guarded_firstFree (base : FilePath) (candidates : List FilePath) :
    (firstFree base candidates).guarded allows (fun after => after = w) w
      (Ends (fun path _ => path ∈ candidates ∧ w path = none) fun _ => True) := by
  induction candidates with
  | nil => exact ⟨rfl,trivial⟩
  | cons candidate rest ih =>
      unfold firstFree
      apply guarded_ask
      · rfl
      · intro error
        trivial
      · intro taken answered
        cases taken with
        | true =>
            apply guarded_mono (fun _ same => same) _ ih
            intro result after _ found
            cases result with
            | error error => trivial
            | ok path => exact ⟨List.mem_cons_of_mem _ found.1,found.2⟩
        | false =>
            have free : w candidate = none := by simpa using answered
            exact ⟨rfl,List.mem_cons_self,free⟩

theorem guarded_removeTmp {path : FilePath} (here : I w)
    (gone : I (Function.update w path none)) : (removeRestoreTmpIfPresent path).guarded allows I w
      (Ends (fun _ after => after = Function.update w path none) fun _ => True) := by
  unfold removeRestoreTmpIfPresent
  rw [guarded_bind,guarded_attempt]
  apply guarded_remove here gone
  · intro text
    exact ⟨here,trivial⟩
  · intro missing
    constructor
    · exact here
    · exact ((Function.update_eq_self_iff).mpr missing.symm).symm
  · exact ⟨gone,rfl⟩

theorem guarded_cleaningUp {tmp : FilePath} {work : DbTask α}
    {F : α → Files FilePath Content → Prop} (inner : work.guarded allows I w (Ends F fun _ => True))
    (stable : ∀ after, I after → I (Function.update after tmp none)) :
    (cleaningUp tmp work).guarded allows I w (Ends F fun _ => True) := by
  unfold cleaningUp
  apply (guarded_bind _ _ _).mpr
  apply (guarded_attempt _ _).mpr
  apply guarded_mono (fun _ here => here) _ inner
  intro result after here reached
  cases result with
  | ok value => exact ⟨here,reached⟩
  | error error =>
      apply (guarded_bind _ _ _).mpr
      apply (guarded_attempt _ _).mpr
      exact guarded_remove here (stable after here) (fun _ => ⟨here,trivial⟩) (fun _ => ⟨here,trivial⟩)
        ⟨stable after here,trivial⟩

variable {Database : Type} (sqlite : Sqlite Database)

-- An image that passes what is checked of a restored file.
def Sqlite.Valid (image : Content) : Prop :=
  sqlite.integrityCheck image = some "ok" ∧ (sqlite.tableNames image).isSome = true

theorem guarded_validate (path : FilePath) : (validateRestoredDbFile sqlite path).guarded allows (fun after => after = w) w
    (Ends (fun _ _ => ∃ image, w path = some image ∧ sqlite.Valid image) fun _ => True) := by
  unfold validateRestoredDbFile
  apply guarded_ask
  · rfl
  · intro error
    trivial
  intro _ _
  apply guarded_ask
  · rfl
  · intro error
    trivial
  intro checked read
  have stands := standing_ok.mp read
  cases integrity : sqlite.integrityCheck checked with
  | none => exact ⟨rfl,trivial⟩
  | some text =>
      simp only
      split
      · exact ⟨rfl,trivial⟩
      · rename_i ok
        apply guarded_ask
        · rfl
        · intro error
          trivial
        intro listed again
        have same : listed = checked := Option.some.inj ((standing_ok.mp again).symm.trans stands)
        cases names : sqlite.tableNames listed with
        | none => exact ⟨rfl,trivial⟩
        | some tables =>
            have valid : sqlite.Valid checked := ⟨by rw [integrity,not_not.mp ok],by rw [←same,names]; rfl⟩
            exact ⟨rfl,checked,stands,valid⟩

theorem guarded_stageImage (source tmp : FilePath) (absent : w tmp = none) :
    (stageImage sqlite source tmp).guarded allows (fun _ => True) w
      (Ends (fun _ after => ∃ image, w source = some image ∧ after tmp = some image ∧ sqlite.Valid image) fun _ => True) := by
  unfold stageImage
  rw [guarded_bind,guarded_mapError]
  apply guarded_copy absent
  · intro _ _
    trivial
  · intro image copied stands holds
    have written : ((syncWritten tmp).mapError fun _ => "failed to sync temporary restore file " ++ tmp.display).guarded
        allows (fun after => after = copied) copied fun _ _ => True := guarded_silent (touches_mapError _ (touches_syncWritten tmp))
    apply guarded_mono (fun _ _ => trivial) (fun _ _ _ reached => reached)
    apply guarded_seq written
    · intro _ after same _
      subst same
      apply guarded_mono (fun _ same => same) _ (guarded_validate sqlite tmp)
      intro result ended unchanged checked
      cases result with
      | error error => trivial
      | ok value =>
          obtain ⟨found,there,valid⟩ := checked
          rw [unchanged]
          rw [holds] at there
          exact ⟨image,stands,holds,Option.some.inj there ▸ valid⟩
    · intro _ _ _ _
      trivial

end Stages

def sidecarSuffixes : List String := ["-wal","-shm","-journal"]

theorem sidecars_apart {destination path : FilePath} {suffix other : String} (known : suffix ∈ sidecarSuffixes)
    (other_known : other ∈ sidecarSuffixes) (different : suffix ≠ other) (beside : destination.Beside suffix path) :
    ¬destination.Beside other path := by
  have long : ∀ tag ∈ sidecarSuffixes, 2 ≤ tag.toList.length := by decide
  have starts : ∀ one ∈ sidecarSuffixes, ∀ two ∈ sidecarSuffixes, one ≠ two → one.toList.take 2 ≠ two.toList.take 2 := by
    decide
  exact beside.apart 2 (long _ known) (long _ other_known) (starts _ known _ other_known different)

-- What may be left of a sidecar: it as it was, or nothing if there is a name to
-- preserve it under.
def Removable (w : Files FilePath Content) (destination : FilePath) (suffix : String) (left : Option Content) : Prop :=
  left = w (pathWithRawSuffix destination suffix) ∨ left = none ∧
    ∃ candidate ∈ evidenceCandidates (pathWithRawSuffix destination (suffix ++ ".pre-restore")), w candidate = none

theorem removable_congr {w after : Files FilePath Content} {destination : FilePath} {suffix : String} {left : Option Content}
    (same : ∀ path, destination.Beside suffix path → after path = w path)
    (removable : Removable after destination suffix left) : Removable w destination suffix left := by
  rcases removable with kept | ⟨gone,candidate,member,free⟩
  · exact .inl (kept.trans (same _ (sidecar_beside destination suffix)))
  · exact .inr ⟨gone,candidate,member,
      (same _ (candidates_beside destination (suffix_beside destination suffix ".pre-restore") member)).symm.trans free⟩

-- The files of the sidecars of `suffixes` may be gone, and evidence may be new.
structure SidecarsCleared (destination : FilePath) (suffixes : List String) (before after : Files FilePath Content) : Prop where
  others : ∀ path, (∀ suffix ∈ suffixes, ¬destination.Beside suffix path) → after path = before path
  evidence : ∀ path, IsEvidence path → (before path).isSome = true → after path = before path
  sidecars : ∀ suffix ∈ suffixes, Removable before destination suffix (after (pathWithRawSuffix destination suffix))

theorem SidecarsCleared.refl (destination : FilePath) (suffixes : List String) (w : Files FilePath Content) :
    SidecarsCleared destination suffixes w w := ⟨fun _ _ => rfl,fun _ _ _ => rfl,fun _ _ => .inl rfl⟩

section Publishing
variable {allows : (FileOp FilePath → Fate Content) → Prop} {w : Files FilePath Content} (pid : Nat) (destination : FilePath)

theorem SidecarsCleared.cons {suffix : String} {rest : List String} {before middle after : Files FilePath Content}
    (known : ∀ one ∈ suffix :: rest, one ∈ sidecarSuffixes) (fresh : suffix ∉ rest)
    (first : SidecarsCleared destination [suffix] before middle) (then_rest : SidecarsCleared destination rest middle after) :
    SidecarsCleared destination (suffix :: rest) before after := by
  have head_known := known suffix List.mem_cons_self
  have not_head : ∀ other ∈ rest, ∀ path, destination.Beside other path → middle path = before path := by
    intro other member path beside
    apply first.others path
    intro one head
    rw [List.mem_singleton.mp head]
    exact sidecars_apart (known other (List.mem_cons_of_mem _ member)) head_known (fun same => fresh (same ▸ member)) beside
  have not_rest : ∀ path, destination.Beside suffix path → after path = middle path := by
    intro path beside
    apply then_rest.others path
    intro other member
    exact sidecars_apart head_known (known other (List.mem_cons_of_mem _ member)) (fun same => fresh (same ▸ member)) beside
  constructor
  · intro path outside
    have late := then_rest.others path fun other member => outside other (List.mem_cons_of_mem _ member)
    have early := first.others path fun other member => outside other (List.mem_singleton.mp member ▸ List.mem_cons_self)
    exact late.trans early
  · intro path evidence present
    have early := first.evidence path evidence present
    have late := then_rest.evidence path evidence (by rw [early]; exact present)
    exact late.trans early
  · intro other member
    rcases List.mem_cons.mp member with rfl | later
    · rw [not_rest _ (sidecar_beside destination other)]
      exact first.sidecars other List.mem_cons_self
    · exact removable_congr (not_head other later) (then_rest.sidecars other later)

theorem evidence_beside (suffix : String) {candidate : FilePath}
    (member : candidate ∈ evidenceCandidates (pathWithRawSuffix destination (suffix ++ ".pre-restore"))) :
    (pathWithRawSuffix destination suffix).Beside ".pre-restore" candidate := by
  have named : pathWithRawSuffix destination (suffix ++ ".pre-restore") =
      (pathWithRawSuffix destination suffix).withFileName
        ((pathWithRawSuffix destination suffix).fileName ++ ".pre-restore" ++ "") := by
    simp [pathWithRawSuffix,withFileName,String.append_assoc]
  rw [named] at member
  exact candidates_beside _ (beside_tag _ ".pre-restore" "") member

-- Copying evidence of a sidecar to a name that is free leaves the sidecar.
theorem cleared_copying {suffix : String} {preserved : FilePath} {after : Files FilePath Content}
    (member : preserved ∈ evidenceCandidates (pathWithRawSuffix destination (suffix ++ ".pre-restore")))
    (free : w preserved = none)
    (same : ∀ path, ¬(path = evidenceTmpPath pid preserved ∨ path = preserved) → after path = w path) :
    SidecarsCleared destination [suffix] w after ∧
      after (pathWithRawSuffix destination suffix) = w (pathWithRawSuffix destination suffix) := by
  have beside := candidates_beside destination (suffix_beside destination suffix ".pre-restore") member
  have tmp_beside := evidenceTmp_beside pid destination beside
  have longer := evidence_beside destination suffix member
  have sidecar : after (pathWithRawSuffix destination suffix) = w (pathWithRawSuffix destination suffix) := by
    apply same
    intro either
    rcases either with tmp | target
    · exact (evidenceTmp_beside pid _ longer).ne_base (by decide) tmp.symm
    · exact longer.ne_base (by decide) target.symm
  have cleared : SidecarsCleared destination [suffix] w after := by
    constructor
    · intro path outside
      apply same
      intro either
      rcases either with rfl | rfl
      · exact outside suffix List.mem_cons_self tmp_beside
      · exact outside suffix List.mem_cons_self beside
    · intro path evidence present
      apply same
      intro either
      rcases either with rfl | rfl
      · exact evidenceTmp_no_evidence pid preserved evidence
      · rw [free] at present
        cases present
    · intro one only
      rw [List.mem_singleton.mp only]
      exact .inl sidecar
  exact ⟨cleared,sidecar⟩

theorem cleared_removed {suffix : String} {preserved : FilePath} {middle : Files FilePath Content}
    (known : suffix ∈ sidecarSuffixes)
    (member : preserved ∈ evidenceCandidates (pathWithRawSuffix destination (suffix ++ ".pre-restore")))
    (free : w preserved = none) (cleared : SidecarsCleared destination [suffix] w middle) :
    SidecarsCleared destination [suffix] w (Function.update middle (pathWithRawSuffix destination suffix) none) := by
  constructor
  · intro path outside
    have other : path ≠ pathWithRawSuffix destination suffix := by
      intro same
      exact outside suffix List.mem_cons_self (same ▸ sidecar_beside destination suffix)
    exact (Function.update_of_ne other _ _).trans (cleared.others path outside)
  · intro path evidence present
    have other : path ≠ pathWithRawSuffix destination suffix := by
      intro same
      exact sidecar_no_evidence destination known (same ▸ evidence)
    exact (Function.update_of_ne other _ _).trans (cleared.evidence path evidence present)
  · intro one only
    rw [List.mem_singleton.mp only,Function.update_self]
    exact .inr ⟨rfl,preserved,member,free⟩

-- The loop over the sidecars, at whatever operation it stops.
theorem guarded_removeSidecars (suffixes : List String) (known : ∀ suffix ∈ suffixes, suffix ∈ sidecarSuffixes)
    (distinct : suffixes.Nodup) : (removeSidecars pid destination suffixes).guarded allows
      (SidecarsCleared destination suffixes w) w fun _ _ => True := by
  induction suffixes generalizing w with
  | nil => exact ⟨SidecarsCleared.refl destination [] w,trivial⟩
  | cons suffix rest ih =>
      have fresh := (List.nodup_cons.mp distinct).1
      have rest_known : ∀ other ∈ rest, other ∈ sidecarSuffixes := fun other member => known other (List.mem_cons_of_mem _ member)
      have later : ∀ middle, SidecarsCleared destination [suffix] w middle →
          (removeSidecars pid destination rest).guarded allows (SidecarsCleared destination (suffix :: rest) w) middle
            fun _ _ => True := by
        intro middle first
        apply guarded_mono _ (fun _ _ _ _ => trivial) (ih rest_known (List.nodup_cons.mp distinct).2)
        intro after then_rest
        exact SidecarsCleared.cons destination known fresh first then_rest
      have head : ∀ middle, SidecarsCleared destination [suffix] w middle → SidecarsCleared destination (suffix :: rest) w middle :=
        fun middle first => SidecarsCleared.cons destination known fresh first (SidecarsCleared.refl destination rest middle)
      have here := SidecarsCleared.refl destination (suffix :: rest) w
      unfold removeSidecars
      rw [guarded_bind]
      apply guarded_exists here
      · exact later w (SidecarsCleared.refl destination [suffix] w)
      · intro present
        simp only [reduceIte]
        rw [guarded_bind]
        apply guarded_mono _ _ (guarded_firstFree _ _)
        · intro after same
          rw [same]
          exact here
        intro result after same found
        subst same
        cases result with
        | error error => exact trivial
        | ok preserved =>
            obtain ⟨member,free⟩ := found
            have copying := fun middle => @cleared_copying _ pid destination _ _ middle member free
            simp only
            rw [guarded_bind]
            apply guarded_mono _ _ (guarded_touches (touches_copyEvidence pid _ preserved _))
            · intro middle same
              exact head middle (copying middle same).1
            intro result middle same _
            cases result with
            | error error => exact trivial
            | ok _ =>
                have first := (copying middle same).1
                have removed := cleared_removed destination (known suffix List.mem_cons_self) member free first
                simp only
                rw [guarded_bind,guarded_mapError]
                apply guarded_remove
                · exact head middle first
                · exact head _ removed
                · intro text
                  trivial
                · intro missing
                  trivial
                · simp only [Except.mapError]
                  apply guarded_seq (later _ removed)
                  · intro _ _ reached _
                    exact ⟨reached,trivial⟩
                  · intro _ _ _ _
                    trivial

-- The files that preserve the main file may be new.
structure Aside (before after : Files FilePath Content) : Prop where
  others : ∀ path, ¬destination.Beside ".pre-restore" path → after path = before path
  evidence : ∀ path, IsEvidence path → (before path).isSome = true → after path = before path

theorem Aside.refl (w : Files FilePath Content) : Aside destination w w := ⟨fun _ _ => rfl,fun _ _ _ => rfl⟩

theorem guarded_preserveExisting : (preserveExisting pid destination).guarded allows (Aside destination w) w
    fun _ _ => True := by
  have here := Aside.refl destination w
  unfold preserveExisting
  rw [guarded_bind]
  apply guarded_exists here
  · exact ⟨here,trivial⟩
  · intro present
    simp only [reduceIte]
    rw [guarded_bind]
    apply guarded_mono _ _ (guarded_firstFree _ _)
    · intro after same
      rw [same]
      exact here
    intro result after same found
    subst same
    cases result with
    | error error => exact trivial
    | ok preserved =>
        obtain ⟨member,free⟩ := found
        have beside := candidates_beside destination (existing_beside destination) member
        have tmp_beside := evidenceTmp_beside pid destination beside
        simp only
        apply guarded_seq (F := fun _ _ => True)
        · apply guarded_mono _ (fun _ _ _ _ => trivial) (guarded_touches (touches_copyEvidence pid _ preserved _))
          intro middle same
          constructor
          · intro path outside
            apply same
            intro either
            rcases either with rfl | rfl
            · exact outside tmp_beside
            · exact outside beside
          · intro path evidence there
            apply same
            intro either
            rcases either with rfl | rfl
            · exact evidenceTmp_no_evidence pid preserved evidence
            · rw [free] at there
              cases there
        · intro _ middle aside _
          exact ⟨aside,trivial⟩
        · intro _ _ _ _
          trivial

-- What may have become of the files that are there before a restore: the main file is
-- `main`, each sidecar is whole or gone, and what was preserved earlier stands.
structure Disturbed (main : Option Content) (before after : Files FilePath Content) : Prop where
  main : after destination = main
  evidence : ∀ path, IsEvidence path → path ≠ destination → (before path).isSome = true → after path = before path
  wal : Removable before destination "-wal" (after (pathWithRawSuffix destination "-wal"))
  journal : Removable before destination "-journal" (after (pathWithRawSuffix destination "-journal"))

theorem sidecar_known {suffix : String} (known : suffix ∈ sidecarSuffixes) {path : FilePath}
    (beside : destination.Beside suffix path) :
    ¬destination.Beside ".restore.tmp." path ∧ ¬destination.Beside ".pre-restore" path := by
  have long : ∀ tag ∈ sidecarSuffixes, 2 ≤ tag.toList.length := by decide
  have dash : ∀ tag ∈ sidecarSuffixes, tag.toList.take 2 ≠ ".restore.tmp.".toList.take 2 ∧
      tag.toList.take 2 ≠ ".pre-restore".toList.take 2 := by decide
  exact ⟨beside.apart 2 (long _ known) (by decide) (dash _ known).1,
    beside.apart 2 (long _ known) (by decide) (dash _ known).2⟩

-- Up to the rename: the image stands in the temporary file, the main file as it was.
theorem disturbed_before_rename {before staged preserved after : Files FilePath Content}
    (image : ∀ path, path ≠ restoreTmpPath pid destination → staged path = before path)
    (aside : Aside destination staged preserved) (cleared : SidecarsCleared destination sidecarSuffixes preserved after) :
    Disturbed destination (before destination) before after ∧
      after (restoreTmpPath pid destination) = staged (restoreTmpPath pid destination) := by
  have tmp := restoreTmp_beside pid destination
  have not_tmp : ∀ suffix ∈ sidecarSuffixes, ∀ path, destination.Beside suffix path →
      preserved path = before path := by
    intro suffix known path beside
    have apart := sidecar_known destination known beside
    have other : path ≠ restoreTmpPath pid destination := fun same => apart.1 (same ▸ tmp)
    exact (aside.others path apart.2).trans (image path other)
  have removable : ∀ suffix ∈ sidecarSuffixes,
      Removable before destination suffix (after (pathWithRawSuffix destination suffix)) :=
    fun suffix known => removable_congr (not_tmp suffix known) (cleared.sidecars suffix known)
  have not_beside : ∀ tag, tag ≠ "" → ¬destination.Beside tag destination :=
    fun tag long beside => beside.ne_base long rfl
  have disturbed : Disturbed destination (before destination) before after := by
    constructor
    · have late := cleared.others destination fun suffix known => not_beside suffix fun empty => by
        rw [empty] at known
        revert known
        decide
      exact late.trans ((aside.others destination (not_beside _ (by decide))).trans
        (image destination (tmp.ne_base (by decide)).symm))
    · intro path evidence _ present
      have other : path ≠ restoreTmpPath pid destination := fun same => restoreTmp_no_evidence pid destination (same ▸ evidence)
      have first := image path other
      have second := aside.evidence path evidence (by rw [first]; exact present)
      have third := cleared.evidence path evidence (by rw [second,first]; exact present)
      exact third.trans (second.trans first)
    · exact removable "-wal" (by decide)
    · exact removable "-journal" (by decide)
  have kept : after (restoreTmpPath pid destination) = staged (restoreTmpPath pid destination) :=
    (cleared.others _ fun suffix known beside => (sidecar_known destination known beside).1 tmp).trans
      (aside.others _ (tmp.apart 2 (by decide) (by decide) (by decide)))
  exact ⟨disturbed,kept⟩

theorem Disturbed.renamed {main : Option Content} {before after : Files FilePath Content} (image : Option Content)
    (disturbed : Disturbed destination main before after) : Disturbed destination image before
      (Function.update (Function.update after (restoreTmpPath pid destination) none) destination image) := by
  have tmp := restoreTmp_beside pid destination
  have other : ∀ suffix ∈ sidecarSuffixes, Function.update (Function.update after (restoreTmpPath pid destination) none)
      destination image (pathWithRawSuffix destination suffix) = after (pathWithRawSuffix destination suffix) := by
    intro suffix known
    have beside := sidecar_beside destination suffix
    have not_main : pathWithRawSuffix destination suffix ≠ destination := beside.ne_base fun empty => by
      rw [empty] at known
      revert known
      decide
    have not_tmp : pathWithRawSuffix destination suffix ≠ restoreTmpPath pid destination :=
      fun same => (sidecar_known destination known beside).1 (same ▸ tmp)
    rw [Function.update_of_ne not_main,Function.update_of_ne not_tmp]
  constructor
  · exact Function.update_self _ _ _
  · intro path evidence different present
    have not_tmp : path ≠ restoreTmpPath pid destination := fun same => restoreTmp_no_evidence pid destination (same ▸ evidence)
    rw [Function.update_of_ne different,Function.update_of_ne not_tmp]
    exact disturbed.evidence path evidence different present
  · rw [other "-wal" (by decide)]
    exact disturbed.wal
  · rw [other "-journal" (by decide)]
    exact disturbed.journal

theorem Disturbed.tidied {main : Option Content} {before after : Files FilePath Content}
    (disturbed : Disturbed destination main before after) :
    Disturbed destination main before (Function.update after (restoreTmpPath pid destination) none) := by
  have renamed := disturbed.renamed pid destination main
  have still : Function.update (Function.update after (restoreTmpPath pid destination) none) destination main =
      Function.update after (restoreTmpPath pid destination) none := by
    rw [Function.update_eq_self_iff,Function.update_of_ne ((restoreTmp_beside pid destination).ne_base (by decide)).symm]
    exact disturbed.main.symm
  rw [still] at renamed
  exact renamed

theorem guarded_publishImage {before : Files FilePath Content} {image : Content}
    (staged : ∀ path, path ≠ restoreTmpPath pid destination → w path = before path)
    (stands : w (restoreTmpPath pid destination) = some image) :
    (publishImage pid (restoreTmpPath pid destination) destination).guarded allows
      (fun after => Disturbed destination (before destination) before after ∨ Disturbed destination (some image) before after)
      w fun _ _ => True := by
  unfold publishImage
  rw [guarded_bind]
  apply guarded_mono _ _ (guarded_preserveExisting pid destination)
  · intro after aside
    exact .inl (disturbed_before_rename pid destination staged aside (SidecarsCleared.refl destination _ after)).1
  intro result preserved aside _
  cases result with
  | error error => exact trivial
  | ok _ =>
      simp only
      rw [guarded_bind]
      apply guarded_mono _ _ (guarded_removeSidecars pid destination sidecarSuffixes (fun _ known => known) (by decide))
      · intro after cleared
        exact .inl (disturbed_before_rename pid destination staged aside cleared).1
      intro result cleaned cleared _
      cases result with
      | error error => exact trivial
      | ok sidecars =>
          have ready := disturbed_before_rename pid destination staged aside cleared
          simp only
          rw [guarded_bind,guarded_mapError]
          apply guarded_rename
          · exact .inl ready.1
          · intro error
            exact trivial
          · intro content found
            rw [ready.2,stands] at found
            obtain rfl := Option.some.inj found
            have published := ready.1.renamed pid destination (some image)
            constructor
            · exact .inr published
            · simp only [Except.mapError]
              rw [guarded_bind]
              apply guarded_mono _ _ (guarded_silent (touches_mapError _ (touches_syncParentDir destination)))
              · intro after same
                rw [same]
                exact .inr published
              · intro result after same _
                subst same
                cases result with
                | error error => trivial
                | ok _ => exact ⟨.inr published,trivial⟩

theorem guarded_checkMagic (source : FilePath) :
    (checkMagic source destination).guarded allows (fun after => after = w) w
      (Ends (fun _ _ => ∃ image, w source = some image ∧ 16 ≤ image.length ∧ image.take 16 = sqliteMagic)
        fun _ => True) := by
  unfold checkMagic
  apply guarded_ask
  · rfl
  · intro error
    trivial
  intro _ _
  apply guarded_ask
  · rfl
  · intro error
    trivial
  intro image read
  have stands := standing_ok.mp read
  split
  · exact ⟨rfl,trivial⟩
  · rename_i long
    split
    · exact ⟨rfl,trivial⟩
    · rename_i magic
      split
      · exact ⟨rfl,image,stands,not_lt.mp long,not_not.mp magic⟩
      · rw [guarded_mapError]
        apply guarded_look
        · rfl
        · intro error
          trivial
        · intro _ _
          exact ⟨image,stands,not_lt.mp long,not_not.mp magic⟩

theorem guarded_checkRestore (source : FilePath) (overwrite : Bool) :
    (checkRestore source destination overwrite).guarded allows (fun after => after = w) w
      (Ends (fun _ _ => ∃ image, w source = some image ∧ 16 ≤ image.length ∧ image.take 16 = sqliteMagic)
        fun _ => True) := by
  unfold checkRestore
  rw [guarded_bind]
  apply guarded_exists
  · rfl
  · exact ⟨rfl,trivial⟩
  · intro _
    simp only [Bool.not_true,Bool.false_eq_true,reduceIte]
    rw [guarded_bind]
    apply guarded_exists
    · rfl
    · exact guarded_checkMagic destination source
    · intro _
      simp only [Bool.true_and]
      split
      · exact ⟨rfl,trivial⟩
      · exact guarded_checkMagic destination source

variable {Database : Type} (sqlite : Sqlite Database) (sha256 : Content → String) (source : FilePath)

-- The image that a restore comes to publish, if its operations succeed.
structure Publishable (before : Files FilePath Content) (image : Content) : Prop where
  stands : before source = some image
  apart : source ≠ restoreTmpPath pid destination
  long : 16 ≤ image.length
  magic : image.take 16 = sqliteMagic
  valid : sqlite.Valid image

-- How far a restore has got.
def Reached (before after : Files FilePath Content) : Prop :=
  (∀ path, path ≠ restoreTmpPath pid destination → after path = before path) ∨
    ∃ image, Publishable pid destination sqlite source before image ∧
      (Disturbed destination (before destination) before after ∨ Disturbed destination (some image) before after)

theorem guarded_restoreFile (overwrite : Bool) : (restoreFile sqlite sha256 pid source destination overwrite).guarded
    allows (Reached pid destination sqlite source w) w fun _ _ => True := by
  have untouched : ∀ after, (∀ path, path ≠ restoreTmpPath pid destination → after path = w path) →
      Reached pid destination sqlite source w after := fun after same => .inl same
  unfold restoreFile
  rw [guarded_bind]
  apply guarded_mono _ _ (guarded_checkRestore destination source overwrite)
  · intro after same
    subst same
    exact untouched after fun _ _ => rfl
  intro result after same checked
  subst same
  cases result with
  | error error => exact trivial
  | ok _ =>
      obtain ⟨image,stands,long,magic⟩ := checked
      simp only
      rw [guarded_bind]
      apply guarded_mono (I := fun middle => ∀ path, path ≠ restoreTmpPath pid destination → middle path = after path)
        untouched _ (guarded_removeTmp (fun _ _ => rfl) fun path other => Function.update_of_ne other _ _)
      intro result cleaned same gone
      cases result with
      | error error => exact trivial
      | ok _ =>
          have absent : cleaned (restoreTmpPath pid destination) = none := by
            rw [show cleaned = _ from gone]
            exact Function.update_self _ _ _
          have frame : (stageImage sqlite source (restoreTmpPath pid destination)).guarded allows
              (fun middle => ∀ path, ¬path = restoreTmpPath pid destination → middle path = cleaned path) cleaned
              fun _ _ => True := guarded_touches (touches_stageImage sqlite source (restoreTmpPath pid destination))
          have staging := guarded_mono (J := fun middle => ∀ path, ¬path = restoreTmpPath pid destination → middle path = cleaned path)
            (Q := Ends (fun _ staged => ∃ image, cleaned source = some image ∧
              staged (restoreTmpPath pid destination) = some image ∧ sqlite.Valid image) fun _ => True)
            (fun _ both => both.1) (fun result _ _ both => both.2)
            (guarded_and frame (guarded_stageImage sqlite source (restoreTmpPath pid destination) absent))
          simp only
          rw [guarded_bind]
          apply guarded_mono _ _ (guarded_cleaningUp staging (by
            intro middle others path other
            rw [Function.update_of_ne other]
            exact others path other))
          · intro middle others
            exact untouched middle fun path other => (others path other).trans (same path other)
          intro result staged others held
          cases result with
          | error error => exact trivial
          | ok facts =>
              obtain ⟨copied,found,stands_tmp,valid⟩ := held
              have apart : source ≠ restoreTmpPath pid destination := by
                intro equal
                rw [equal,absent] at found
                cases found
              have equal : copied = image := by
                rw [same source apart,stands] at found
                exact (Option.some.inj found).symm
              subst equal
              have publishable : Publishable pid destination sqlite source after copied := ⟨stands,apart,long,magic,valid⟩
              have moved : ∀ path, path ≠ restoreTmpPath pid destination → staged path = after path :=
                fun path other => (others path other).trans (same path other)
              have publishing := @guarded_publishImage allows staged pid destination after copied moved stands_tmp
              have reached : ∀ ended, (Disturbed destination (after destination) after ended ∨
                  Disturbed destination (some copied) after ended) → Reached pid destination sqlite source after ended :=
                fun ended either => .inr ⟨copied,publishable,either⟩
              have tidied : ∀ ended, (Disturbed destination (after destination) after ended ∨
                  Disturbed destination (some copied) after ended) →
                  Disturbed destination (after destination) after
                    (Function.update ended (restoreTmpPath pid destination) none) ∨
                  Disturbed destination (some copied) after
                    (Function.update ended (restoreTmpPath pid destination) none) := by
                intro ended either
                rcases either with old | new
                · exact .inl (old.tidied pid destination)
                · exact .inr (new.tidied pid destination)
              simp only
              rw [guarded_bind]
              apply guarded_mono reached _ (guarded_cleaningUp (F := fun _ _ => True)
                (guarded_mono (fun _ either => either) (fun result _ _ _ => by cases result <;> trivial) publishing) tidied)
              intro result ended either _
              cases result with
              | error error => exact trivial
              | ok names =>
                  apply guarded_mono _ (fun _ _ _ _ => trivial) (guarded_silent (touches_report sha256 destination _))
                  intro final same
                  rw [same]
                  exact reached ended either

end Publishing

-- What the operations come to where none of them fails.
section Possible
variable {w : Files FilePath Content} {α β : Type}

abbrev Goes (t : DbTask α) (w : Files FilePath Content) (F : α → Files FilePath Content → Prop) : Prop :=
  t.can (fun _ => True) w (Ends F fun _ => False)

theorem goes_ask {op : FileOp FilePath} {found : Files FilePath Content → Except FileError α} {text : FileError → String}
    {k : α → DbTask β} {F : β → Files FilePath Content → Prop} {v : α} (seen : found w = .ok v)
    (rest : Goes (k v) w F) : Goes ((look op found).mapError text >>= k) w F := by
  apply (can_bind _ _ _).mpr
  apply (can_mapError _ _ _).mpr
  apply can_look
  rw [seen]
  exact rest

theorem goes_removeTmp (path : FilePath) :
    Goes (removeRestoreTmpIfPresent path) w fun _ after => after = Function.update w path none := by
  unfold Goes removeRestoreTmpIfPresent
  apply (can_bind _ _ _).mpr
  apply (can_attempt _ _).mpr
  cases stands : w path with
  | none =>
      apply can_whole
      rw [stands]
      exact (Function.update_eq_self_iff.mpr stands.symm).symm
  | some content => exact can_remove stands rfl

theorem goes_syncWritten {path : FilePath} {content : Content} (stands : w path = some content) :
    Goes (syncWritten path) w fun _ after => after = w :=
  goes_ask (standing_ok.mpr stands) (goes_ask (standing_ok.mpr stands) rfl)

theorem goes_syncParentDir (path : FilePath) : Goes (syncParentDir path) w fun _ after => after = w := by
  unfold syncParentDir
  split
  · rfl
  · apply goes_ask (v := ())
    · rfl
    · apply (can_mapError _ _ _).mpr
      exact can_look rfl

theorem goes_cleaningUp {tmp : FilePath} {work : DbTask α} {F : α → Files FilePath Content → Prop} (goes : Goes work w F) :
    Goes (cleaningUp tmp work) w F := by
  apply (can_bind _ _ _).mpr
  apply (can_attempt _ _).mpr
  apply can_mono _ goes
  intro result after reached
  cases result with
  | ok value => exact reached
  | error error => exact reached.elim

theorem goes_firstFree (base : FilePath) {candidates : List FilePath} (free : ∃ path ∈ candidates, w path = none) :
    Goes (firstFree base candidates) w fun path after => after = w ∧ path ∈ candidates ∧ w path = none := by
  induction candidates with
  | nil =>
      obtain ⟨path,member,_⟩ := free
      cases member
  | cons candidate rest ih =>
      unfold firstFree
      cases stands : w candidate with
      | none =>
          apply goes_ask (v := false)
          · rw [stands]
            rfl
          · exact ⟨rfl,List.mem_cons_self,stands⟩
      | some content =>
          have later : ∃ path ∈ rest, w path = none := by
            obtain ⟨path,member,empty⟩ := free
            rcases List.mem_cons.mp member with rfl | behind
            · rw [stands] at empty
              cases empty
            · exact ⟨path,behind,empty⟩
          apply goes_ask (v := true)
          · rw [stands]
            rfl
          · apply can_mono _ (ih later)
            intro result after reached
            cases result with
            | ok path => exact ⟨reached.1,List.mem_cons_of_mem _ reached.2.1,reached.2.2⟩
            | error error => exact reached

variable (pid : Nat)

theorem goes_copyEvidence {source preserved : FilePath} {label : String} {content : Content} (stands : w source = some content)
    (apart : source ≠ evidenceTmpPath pid preserved) :
    Goes (copyEvidenceFileAtomic pid source preserved label) w fun _ _ => True := by
  unfold copyEvidenceFileAtomic
  apply can_seq (goes_removeTmp _)
  intro _ cleaned same
  have there : cleaned source = some content := by
    rw [same,Function.update_of_ne apart]
    exact stands
  apply goes_cleaningUp
  apply (can_bind _ _ _).mpr
  apply (can_mapError _ _ _).mpr
  apply can_copy there apart
  have tmp : Function.update cleaned (evidenceTmpPath pid preserved) (some content) (evidenceTmpPath pid preserved) =
      some content := Function.update_self _ _ _
  have original : Function.update cleaned (evidenceTmpPath pid preserved) (some content) source = some content := by
    rw [Function.update_of_ne apart]
    exact there
  simp only [Except.mapError]
  apply (can_bind _ _ _).mpr
  apply (can_mapError _ _ _).mpr
  apply can_mono _ (goes_syncWritten tmp)
  intro result after reached
  cases result with
  | error error => exact reached.elim
  | ok _ =>
      rw [show after = _ from reached]
      apply goes_ask (standing_ok.mpr original)
      apply goes_ask (standing_ok.mpr tmp)
      simp only [ne_eq,not_true_eq_false,reduceIte]
      apply (can_bind _ _ _).mpr
      apply (can_mapError _ _ _).mpr
      apply can_rename tmp
      apply can_mono _ (goes_syncParentDir preserved)
      intro result final done
      cases result with
      | ok _ => trivial
      | error error => exact done

variable {destination : FilePath}

-- Each sidecar can be left or removed, as one likes, where it can be preserved.
theorem goes_removeSidecars (suffixes : List String) (known : ∀ suffix ∈ suffixes, suffix ∈ sidecarSuffixes)
    (distinct : suffixes.Nodup) (left : String → Option Content)
    (removable : ∀ suffix ∈ suffixes, Removable w destination suffix (left suffix)) :
    Goes (removeSidecars pid destination suffixes) w fun _ after =>
      ∀ suffix ∈ suffixes, after (pathWithRawSuffix destination suffix) = left suffix := by
  induction suffixes generalizing w with
  | nil =>
      intro suffix member
      cases member
  | cons suffix rest ih =>
      have fresh := (List.nodup_cons.mp distinct).1
      have rest_known : ∀ other ∈ rest, other ∈ sidecarSuffixes := fun other member => known other (List.mem_cons_of_mem _ member)
      have behind : ∀ middle, (∀ other ∈ rest, ∀ path, destination.Beside other path → middle path = w path) →
          middle (pathWithRawSuffix destination suffix) = left suffix →
          Goes (removeSidecars pid destination rest) middle fun _ after =>
            ∀ one ∈ suffix :: rest, after (pathWithRawSuffix destination one) = left one := by
        intro middle same chosen
        have still : ∀ other ∈ rest, Removable middle destination other (left other) := fun other member =>
          removable_congr (fun path beside => (same other member path beside).symm)
            (removable other (List.mem_cons_of_mem _ member))
        have goes := can_guarded (guarded_removeSidecars pid destination rest rest_known (List.nodup_cons.mp distinct).2)
          (ih rest_known (List.nodup_cons.mp distinct).2 still)
        apply can_mono _ goes
        intro result after reached
        obtain ⟨cleared,_,ended⟩ := reached
        cases result with
        | error error => exact ended
        | ok sidecars =>
            intro one member
            rcases List.mem_cons.mp member with rfl | later
            · rw [cleared.others _ fun other member => sidecars_apart (known one List.mem_cons_self)
                (rest_known other member) (fun same => fresh (same ▸ member)) (sidecar_beside destination one)]
              exact chosen
            · exact ended one later
      unfold removeSidecars
      apply (can_bind _ _ _).mpr
      cases stands : w (pathWithRawSuffix destination suffix) with
      | none =>
          have gone : left suffix = none := by
            rcases removable suffix List.mem_cons_self with kept | ⟨gone,_⟩
            · rw [kept,stands]
            · exact gone
          apply can_exists false
          · intro impossible
            cases impossible
          · exact behind w (fun _ _ _ _ => rfl) (by rw [stands,gone])
      | some content =>
          rcases removable suffix List.mem_cons_self with kept | ⟨gone,free⟩
          · apply can_exists false
            · intro impossible
              cases impossible
            · exact behind w (fun _ _ _ _ => rfl) kept.symm
          · apply can_exists true
            · intro _
              rw [stands]
              rfl
            simp only [reduceIte]
            apply can_seq (goes_firstFree _ free)
            intro preserved after found
            obtain ⟨rfl,member,empty⟩ := found
            have longer := evidence_beside destination suffix member
            have apart : pathWithRawSuffix destination suffix ≠ evidenceTmpPath pid preserved :=
              ((evidenceTmp_beside pid _ longer).ne_base (by decide)).symm
            have copied := can_guarded (guarded_touches (touches_copyEvidence pid
              (pathWithRawSuffix destination suffix) preserved "SQLite sidecar")) (goes_copyEvidence pid stands apart)
            apply (can_bind _ _ _).mpr
            apply can_mono _ copied
            intro result middle reached
            obtain ⟨same,_,ended⟩ := reached
            cases result with
            | error error => exact ended.elim
            | ok _ =>
                have copying := @cleared_copying _ pid destination _ _ middle member empty same
                have removed := cleared_removed destination (known suffix List.mem_cons_self) member empty copying.1
                apply (can_bind _ _ _).mpr
                apply (can_mapError _ _ _).mpr
                apply can_remove (copying.2.trans stands)
                simp only [Except.mapError]
                apply can_seq (behind _ _ _)
                · intro _ after chosen
                  exact chosen
                · intro other later path beside
                  apply removed.others path
                  intro one only
                  rw [List.mem_singleton.mp only]
                  exact sidecars_apart (rest_known other later) (known suffix List.mem_cons_self)
                    (fun same => fresh (same ▸ later)) beside
                · rw [Function.update_self,gone]

variable {Database : Type} (sqlite : Sqlite Database) {image : Content}

theorem goes_checkRestore {source : FilePath} (overwrite : Bool) (stands : w source = some image) (long : 16 ≤ image.length)
    (magic : image.take 16 = sqliteMagic) : Goes (checkRestore source destination overwrite) w fun _ after => after = w := by
  have checked : Goes (checkMagic source destination) w fun _ after => after = w := by
    unfold checkMagic
    apply goes_ask (standing_ok.mpr stands)
    apply goes_ask (standing_ok.mpr stands)
    simp only [not_lt.mpr long,magic,ne_eq,not_true_eq_false,reduceIte]
    split
    · rfl
    · apply (can_mapError _ _ _).mpr
      exact can_look rfl
  unfold checkRestore
  apply (can_bind _ _ _).mpr
  apply can_exists true
  · intro _
    rw [stands]
    rfl
  apply (can_bind _ _ _).mpr
  apply can_exists false
  · intro impossible
    cases impossible
  · exact checked

theorem goes_validate {path : FilePath} (stands : w path = some image) (valid : sqlite.Valid image) :
    Goes (validateRestoredDbFile sqlite path) w fun _ after => after = w := by
  unfold validateRestoredDbFile
  apply goes_ask (standing_ok.mpr stands)
  apply goes_ask (standing_ok.mpr stands)
  rw [valid.1]
  simp only [ne_eq,not_true_eq_false,reduceIte]
  apply goes_ask (standing_ok.mpr stands)
  obtain ⟨tables,names⟩ := Option.isSome_iff_exists.mp valid.2
  rw [names]
  rfl

theorem goes_stageImage {source tmp : FilePath} (stands : w source = some image) (apart : source ≠ tmp)
    (valid : sqlite.Valid image) :
    Goes (stageImage sqlite source tmp) w fun _ after => after = Function.update w tmp (some image) := by
  have there : Function.update w tmp (some image) tmp = some image := Function.update_self _ _ _
  unfold stageImage
  apply (can_bind _ _ _).mpr
  apply (can_mapError _ _ _).mpr
  apply can_copy stands apart
  simp only [Except.mapError]
  apply (can_bind _ _ _).mpr
  apply (can_mapError _ _ _).mpr
  apply can_mono _ (goes_syncWritten there)
  intro result after reached
  cases result with
  | error error => exact reached.elim
  | ok _ =>
      rw [show after = _ from reached]
      exact goes_validate sqlite there valid

theorem goes_preserveExisting : Goes (preserveExisting pid destination) w fun _ after => after = w := by
  unfold preserveExisting
  apply (can_bind _ _ _).mpr
  apply can_exists false
  · intro impossible
    cases impossible
  · rfl

end Possible

section Atomicity
variable {Database : Type} (sqlite : Sqlite Database) (sha256 : Content → String) (pid : Nat)
variable (source destination : FilePath) (overwrite : Bool) (before : Files FilePath Content)

-- What one reads who opens the destination.
def Sqlite.openedAt (w : Files FilePath Content) : Database :=
  sqlite.opened (w destination) (w (pathWithRawSuffix destination "-wal")) (w (pathWithRawSuffix destination "-journal"))

-- The old database or the checked image in whole, and earlier evidence as it was.
structure RestoredWhole (after : Files FilePath Content) : Prop where
  opened : sqlite.openedAt destination after = sqlite.openedAt destination before ∨
    ∃ image, before source = some image ∧ sqlite.integrityCheck image = some "ok" ∧
      sqlite.openedAt destination after = sqlite.opened (some image) none none
  evidence : ∀ path, IsEvidence path → path ≠ destination → (before path).isSome = true → after path = before path

-- Neither the old main file nor the image reads otherwise for the sidecars that a
-- restore may leave beside it or take from it.
def SidecarsIdle : Prop := ∀ image, Publishable pid destination sqlite source before image →
  ∀ wal, Removable before destination "-wal" wal → ∀ journal, Removable before destination "-journal" journal →
  ∀ main, main = before destination ∨ main = some image →
    sqlite.opened main wal journal = sqlite.openedAt destination before ∨
    sqlite.opened main wal journal = sqlite.opened (some image) none none

theorem reached_whole (idle : SidecarsIdle sqlite pid source destination before) {after : Files FilePath Content}
    (reached : Reached pid destination sqlite source before after) :
    RestoredWhole sqlite source destination before after := by
  rcases reached with untouched | ⟨image,publishable,either⟩
  · have tmp := restoreTmp_beside pid destination
    have sidecar : ∀ suffix ∈ sidecarSuffixes,
        after (pathWithRawSuffix destination suffix) = before (pathWithRawSuffix destination suffix) := by
      intro suffix known
      apply untouched
      intro same
      exact (sidecar_known destination known (sidecar_beside destination suffix)).1 (same ▸ tmp)
    constructor
    · left
      unfold Sqlite.openedAt
      rw [untouched destination (tmp.ne_base (by decide)).symm,sidecar "-wal" (by decide),sidecar "-journal" (by decide)]
    · intro path evidence _ _
      exact untouched path fun same => restoreTmp_no_evidence pid destination (same ▸ evidence)
  · have whole : ∀ main, main = before destination ∨ main = some image → Disturbed destination main before after →
        RestoredWhole sqlite source destination before after := by
      intro main known disturbed
      constructor
      · have read := idle image publishable _ disturbed.wal _ disturbed.journal main known
        rw [←disturbed.main] at read
        exact read.imp id fun new => ⟨image,publishable.stands,publishable.valid.1,new⟩
      · exact disturbed.evidence
    rcases either with old | new
    · exact whole _ (.inl rfl) old
    · exact whole _ (.inr rfl) new

theorem guarded_inside {α : Type} {allows : (FileOp FilePath → Fate Content) → Prop} {I : Files FilePath Content → Prop}
    {tmp : FilePath} {work : DbTask α} {w : Files FilePath Content} {R : Except String α → Files FilePath Content → Prop}
    (holds : (cleaningUp tmp work).guarded allows I w R) : work.guarded allows I w fun _ _ => True := by
  have inner := (guarded_attempt _ _).mp ((guarded_bind _ _ _).mp holds)
  exact guarded_mono (fun _ here => here) (fun _ _ _ _ => trivial) inner

theorem goes_clearing {w : Files FilePath Content} (left : String → Option Content)
    (removable : ∀ suffix ∈ sidecarSuffixes, Removable w destination suffix (left suffix)) :
    Goes (removeSidecars pid destination sidecarSuffixes) w fun _ after =>
      SidecarsCleared destination sidecarSuffixes w after ∧
        ∀ suffix ∈ sidecarSuffixes, after (pathWithRawSuffix destination suffix) = left suffix := by
  have all : ∀ suffix ∈ sidecarSuffixes, suffix ∈ sidecarSuffixes := fun _ known => known
  have goes := can_guarded (guarded_removeSidecars pid destination sidecarSuffixes all (by decide))
    (goes_removeSidecars pid sidecarSuffixes all (by decide) left removable)
  apply can_mono _ goes
  intro result after reached
  obtain ⟨cleared,_,ended⟩ := reached
  cases result with
  | ok sidecars => exact ⟨cleared,ended⟩
  | error error => exact ended

def sidecarsLeft (wal shm journal : Option Content) (suffix : String) : Option Content :=
  if suffix = "-wal" then wal else if suffix = "-shm" then shm else journal

-- A restore that is whole at every cut says of the sidecars that they are idle.
theorem whole_idle (whole : (restoreFile sqlite sha256 pid source destination overwrite).guarded (fun _ => True)
    (RestoredWhole sqlite source destination before) before fun _ _ => True) :
    SidecarsIdle sqlite pid source destination before := by
  intro image publishable wal wal_removable journal journal_removable
  have tmp := restoreTmp_beside pid destination
  -- Nothing fails until the image is staged, and the main file is overlooked.
  unfold restoreFile at whole
  obtain ⟨_,asked,unchanged,checked⟩ := guarded_after whole
    (goes_checkRestore overwrite publishable.stands publishable.long publishable.magic)
  rw [unchanged] at checked
  obtain ⟨_,cleaned,gone,removed⟩ := guarded_after checked (goes_removeTmp (restoreTmpPath pid destination))
  have stands : cleaned source = some image := by
    rw [gone,Function.update_of_ne publishable.apart]
    exact publishable.stands
  obtain ⟨_,staged,copied,stage⟩ := guarded_after removed
    (goes_cleaningUp (goes_stageImage sqlite stands publishable.apart publishable.valid))
  have publishing := guarded_inside (guarded_mono (fun _ here => here) (fun _ _ _ _ => trivial) ((guarded_bind _ _ _).mp stage))
  unfold publishImage at publishing
  obtain ⟨_,preserved,same,clearing⟩ := guarded_after publishing (goes_preserveExisting pid)
  have moved : ∀ path, path ≠ restoreTmpPath pid destination → preserved path = before path := by
    intro path other
    rw [same,copied,gone,Function.update_of_ne other,Function.update_of_ne other]
  have stands_tmp : preserved (restoreTmpPath pid destination) = some image := by
    rw [same,copied,Function.update_self]
  have family : ∀ suffix ∈ sidecarSuffixes, ∀ path, destination.Beside suffix path → before path = preserved path := by
    intro suffix known path beside
    exact (moved path fun equal => (sidecar_known destination known beside).1 (equal ▸ tmp)).symm
  have removable : ∀ suffix ∈ sidecarSuffixes, Removable preserved destination suffix
      (sidecarsLeft wal (preserved (pathWithRawSuffix destination "-shm")) journal suffix) := by
    intro suffix known
    have three := known
    simp only [sidecarSuffixes,List.mem_cons,List.not_mem_nil,or_false] at three
    rcases three with rfl | rfl | rfl
    · exact removable_congr (family "-wal" known) wal_removable
    · exact .inl rfl
    · exact removable_congr (family "-journal" known) journal_removable
  obtain ⟨_,cleared_files,⟨cleared,chosen⟩,publish⟩ := guarded_after clearing
    (goes_clearing pid destination _ removable)
  have ready := disturbed_before_rename pid destination moved (Aside.refl destination preserved) cleared
  have tmp_ready : cleared_files (restoreTmpPath pid destination) = some image := ready.2.trans stands_tmp
  have wal_now : cleared_files (pathWithRawSuffix destination "-wal") = wal := chosen "-wal" (by decide)
  have journal_now : cleared_files (pathWithRawSuffix destination "-journal") = journal := chosen "-journal" (by decide)
  have reads : ∀ {main : Option Content} {after : Files FilePath Content}, after destination = main →
      after (pathWithRawSuffix destination "-wal") = wal → after (pathWithRawSuffix destination "-journal") = journal →
      RestoredWhole sqlite source destination before after →
      sqlite.opened main wal journal = sqlite.openedAt destination before ∨
        sqlite.opened main wal journal = sqlite.opened (some image) none none := by
    intro main after main_now wal_now journal_now restored
    have opened := restored.opened
    unfold Sqlite.openedAt at opened ⊢
    rw [main_now,wal_now,journal_now] at opened
    rcases opened with old | ⟨found,there,_,new⟩
    · exact .inl old
    · rw [publishable.stands] at there
      exact .inr (Option.some.inj there ▸ new)
  intro main either
  rcases either with rfl | rfl
  · exact reads ready.1.main wal_now journal_now (guarded_here publish)
  · have renames : Goes ((renameFile (restoreTmpPath pid destination) destination : FileTask FilePath Content FileError Unit).mapError
        fun _ => "failed to publish restored db " ++ destination.display) cleared_files fun _ after => after =
          Function.update (Function.update cleared_files (restoreTmpPath pid destination) none) destination (some image) := by
      apply (can_mapError _ _ _).mpr
      exact can_rename tmp_ready rfl
    obtain ⟨_,renamed,published,ended⟩ := guarded_after publish renames
    have other : ∀ suffix ∈ sidecarSuffixes, renamed (pathWithRawSuffix destination suffix) =
        cleared_files (pathWithRawSuffix destination suffix) := by
      intro suffix known
      have beside := sidecar_beside destination suffix
      have not_main : pathWithRawSuffix destination suffix ≠ destination := beside.ne_base fun empty => by
        rw [empty] at known
        revert known
        decide
      have not_tmp : pathWithRawSuffix destination suffix ≠ restoreTmpPath pid destination :=
        fun same => (sidecar_known destination known beside).1 (same ▸ tmp)
      rw [published,Function.update_of_ne not_main,Function.update_of_ne not_tmp]
    have main_now : renamed destination = some image := by
      rw [published]
      exact Function.update_self _ _ _
    exact reads main_now ((other "-wal" (by decide)).trans wal_now) ((other "-journal" (by decide)).trans journal_now)
      (guarded_here ended)

-- Whatever fails and wherever the restore is cut off, the destination opens as the old
-- database or as the image, exactly if the sidecars are idle.
theorem restore_whole_iff_idle :
    (∀ answers n, RestoredWhole sqlite source destination before
      ((restoreFile sqlite sha256 pid source destination overwrite).cut answers n before)) ↔
    SidecarsIdle sqlite pid source destination before := by
  rw [always_cut_iff _ fun _ => ⟨none,[]⟩]
  constructor
  · intro whole
    exact whole_idle sqlite sha256 pid source destination overwrite before whole
  · intro idle
    apply guarded_mono _ (fun _ _ _ _ => trivial) (guarded_restoreFile pid destination sqlite sha256 source overwrite)
    intro after reached
    exact reached_whole sqlite pid source destination before idle reached

end Atomicity

-- A reader that shows what it reads: the log after the main file, and an open journal
-- in the place of it.
def benchSqlite : Sqlite Content where
  integrityCheck image := if image.take 16 = sqliteMagic then some "ok" else none
  tableNames _ := some []
  opened main wal journal := journal.getD (main.getD []) ++ wal.getD []

def liveDb : FilePath := ⟨"/var/lib/reactor-edge/","reactor.sqlite3"⟩

def keptImage : FilePath := ⟨"/var/backups/","reactor.sqlite3.backup"⟩

-- A database whose last rows stand in its log.
def liveFiles : Files FilePath Content := fun path =>
  if path = keptImage then some (sqliteMagic ++ [9])
  else if path = liveDb then some (sqliteMagic ++ [1])
  else if path = pathWithRawSuffix liveDb "-wal" then some [2]
  else none

-- No operation fails: the power goes between the removal of the log and the rename.
theorem restore_cut_loses_log : ¬RestoredWhole benchSqlite keptImage liveDb liveFiles
    ((restoreFile benchSqlite (fun _ => "") 7 keptImage liveDb true).cut (fun _ _ => ⟨none,[]⟩) 38 liveFiles) := by
  intro whole
  have after : benchSqlite.openedAt liveDb
      ((restoreFile benchSqlite (fun _ => "") 7 keptImage liveDb true).cut (fun _ _ => ⟨none,[]⟩) 38 liveFiles) =
      sqliteMagic ++ [1] := by decide +kernel
  rcases whole.opened with old | ⟨image,stands,_,new⟩
  · rw [after] at old
    revert old
    decide +kernel
  · have image_is : liveFiles keptImage = some (sqliteMagic ++ [9]) := by decide +kernel
    rw [image_is] at stands
    rw [after,←Option.some.inj stands] at new
    revert new
    decide +kernel

end ReactorOS
