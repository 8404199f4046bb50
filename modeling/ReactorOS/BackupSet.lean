import ReactorOS.Backup
import ReactorOS.RestoreAtomicity
namespace ReactorOS
open Concurrency Task Storage FilePath

section Sidecar
variable (out : FilePath) (pid : Nat)

theorem backupHashSidecarPath_cases : ∃ tag, (tag = ".sha256" ∨ tag = ".bin.sha256") ∧
    backupHashSidecarPath out = out.withFileName (out.fileName ++ tag) := by
  unfold backupHashSidecarPath extension withExtension
  rcases parts : splitAtDot out.fileName with ⟨stem,_ | ext⟩
  · use ".bin.sha256"
    obtain rfl := splitAtDot_none parts
    exact ⟨.inr rfl,rfl⟩
  · use ".sha256"
    have whole := splitAtDot_some parts
    have long : ext ++ ".sha256" ≠ "" := by
      intro empty
      have lengths := congrArg String.length empty
      rw [String.length_append] at lengths
      change ext.length+7 = 0 at lengths
      omega
    simp only [Option.getD_some,long,reduceIte]
    rw [←whole]
    simp [String.append_assoc]

-- The four files of a call are different files.
structure OwnFiles : Prop where
  hash : backupHashSidecarPath out ≠ out
  tmp : backupSnapshotTmpPath pid out ≠ out
  hash_tmp : hashSidecarTmpPath pid (backupHashSidecarPath out) ≠ out
  tmp_hash : backupSnapshotTmpPath pid out ≠ backupHashSidecarPath out
  tmps : backupSnapshotTmpPath pid out ≠ hashSidecarTmpPath pid (backupHashSidecarPath out)
  hash_own : hashSidecarTmpPath pid (backupHashSidecarPath out) ≠ backupHashSidecarPath out

theorem ownFiles : OwnFiles out pid := by
  obtain ⟨tag,known,same⟩ := backupHashSidecarPath_cases out
  have tag_long : tag ≠ "" ∧ 2 ≤ tag.toList.length ∧ tag.toList.take 2 ≠ ".tmp.".toList.take 2 := by
    rcases known with rfl | rfl <;> decide
  have hash : out.Beside tag (backupHashSidecarPath out) := by
    have beside := beside_tag out tag ""
    rw [String.append_empty] at beside
    rwa [same]
  have tmp : out.Beside ".tmp." (backupSnapshotTmpPath pid out) := beside_tag out ".tmp." (toString pid)
  have hash_tmp : out.Beside tag (hashSidecarTmpPath pid (backupHashSidecarPath out)) := by
    have longer := hash.append (".tmp." ++ toString pid)
    rwa [←String.append_assoc] at longer
  have apart : ∀ path, out.Beside tag path → backupSnapshotTmpPath pid out ≠ path := by
    intro path beside equal
    exact beside.apart 2 tag_long.2.1 (by decide) tag_long.2.2 (equal ▸ tmp)
  have hash_own : (backupHashSidecarPath out).Beside ".tmp." (hashSidecarTmpPath pid (backupHashSidecarPath out)) :=
    beside_tag _ ".tmp." (toString pid)
  exact ⟨hash.ne_base tag_long.1,tmp.ne_base (by decide),hash_tmp.ne_base tag_long.1,apart _ hash,apart _ hash_tmp,
    hash_own.ne_base (by decide)⟩

end Sidecar

section Calls
variable {S : FilePath → Prop} {α : Type} (digest : Content → Digest) (pid : Nat) (db out : FilePath)

theorem touches_removeStale {path : FilePath} (label : String) (inside : S path) : touches S (removeStaleTempFile path label) := by
  unfold removeStaleTempFile
  apply touches_bind (touches_attempt (touches_remove inside))
  intro result
  cases result with
  | ok _ => exact touches_pure _
  | error error =>
      cases error with
      | notFound => exact touches_pure _
      | failed text => exact touches_throw _

theorem touches_durability (path : FilePath) (label : String) : touches S (syncFileForDurability path label) :=
  touches_bind (touches_asked _) fun _ => touches_bind (touches_asked _) fun _ => touches_pure _

theorem touches_syncBackupDir (path : FilePath) : touches S (syncBackupDir path) := by
  unfold syncBackupDir
  split
  · exact touches_pure _
  · exact touches_bind (touches_asked _) fun _ => touches_asked _

theorem touches_verifySidecar (hashPath backupPath : FilePath) (sha256 : String) :
    touches S (verifyBackupHashSidecar hashPath backupPath sha256) := by
  unfold verifyBackupHashSidecar
  apply touches_bind (touches_asked _)
  intro contents
  split
  · exact touches_pure _
  · exact touches_throw _

theorem touches_writeSidecarTmp {tmpPath : FilePath} (backupPath : FilePath) (sha256 : String) (inside : S tmpPath) :
    touches S (writeBackupHashSidecarTmp tmpPath backupPath sha256) := by
  unfold writeBackupHashSidecarTmp
  apply touches_bind (touches_mapError _ (touches_create inside))
  intro _
  apply touches_bind (touches_mapError _ (touches_fill inside))
  intro _
  apply touches_bind (touches_asked _)
  intro _
  apply touches_bind (touches_asked _)
  intro contents
  split
  · exact touches_pure _
  · exact touches_throw _

theorem touches_removeExisting {hashPath : FilePath} (inside : S hashPath) :
    touches S (removeExistingHashSidecarFile hashPath) := by
  unfold removeExistingHashSidecarFile
  apply touches_bind (touches_attempt (touches_look _ _))
  intro result
  cases result with
  | ok _ => exact touches_mapError _ (touches_remove inside)
  | error error =>
      cases error with
      | notFound => exact touches_pure _
      | failed text => exact touches_throw _

theorem touches_sqliteWrites (paths : List FilePath) (inside : ∀ path ∈ paths, S path) : touches S (sqliteWrites paths) := by
  induction paths with
  | nil => exact touches_pure _
  | cons path rest ih =>
      unfold sqliteWrites
      apply touches_bind
      · apply touches_operation
        intro fate w other outside
        exact update_outside (inside path List.mem_cons_self) outside
      · intro _
        exact ih fun other member => inside other (List.mem_cons_of_mem _ member)

theorem touches_sha256Hex (sha256 : Content → String) (path : FilePath) : touches S (sha256Hex sha256 path) :=
  touches_bind (touches_asked _) fun _ => touches_bind (touches_asked _) fun _ => touches_pure _

theorem touches_backupTo {destination : FilePath} (inside : S destination) : touches S (backupTo digest db destination) := by
  unfold backupTo
  apply touches_bind
  · unfold makeBackupFolder
    split
    · exact touches_pure _
    · exact touches_asked _
  intro _
  apply touches_bind (touches_operation fun _ _ _ _ => rfl)
  intro image
  apply touches_bind (touches_asked _)
  intro _
  apply touches_bind (touches_mapError _ (touches_write inside))
  intro _
  apply touches_bind (touches_attempt (touches_look _ _))
  intro size
  exact touches_bind (touches_sha256Hex _ _) fun _ => touches_pure _

-- The files that a call may write or remove.
def CallFiles (path : FilePath) : Prop :=
  path = backupSnapshotTmpPath pid out ∨ path = hashSidecarTmpPath pid (backupHashSidecarPath out) ∨
    path = backupHashSidecarPath out ∨ path ∈ databaseFiles db

instance (path : FilePath) : Decidable (CallFiles pid db out path) := inferInstanceAs (Decidable (_ ∨ _ ∨ _ ∨ _))

theorem touches_prepareBackup : touches (CallFiles pid db out) (prepareBackup digest pid db out) := by
  unfold prepareBackup
  apply touches_bind (touches_backupTo digest db (.inl rfl))
  intro report
  apply touches_bind (touches_durability _ _)
  intro _
  apply touches_bind (touches_writeSidecarTmp _ _ (.inr (.inl rfl)))
  intro _
  exact touches_bind (touches_removeExisting (.inr (.inr (.inl rfl)))) fun _ => touches_pure _

theorem touches_publishBackup (sha256 : String) :
    touches (fun path => CallFiles pid db out path ∨ path = out) (publishBackup pid out sha256) := by
  unfold publishBackup
  apply touches_bind (touches_mapError _ (touches_rename (.inl (.inl rfl)) (.inr rfl)))
  intro _
  apply touches_bind (touches_syncBackupDir _)
  intro _
  apply touches_bind
  · apply touches_tryCatch (touches_mapError _ (touches_rename (.inl (.inr (.inl rfl))) (.inl (.inr (.inr (.inl rfl))))))
    intro _
    unfold withdrawSnapshot
    apply touches_bind (touches_attempt (touches_remove (.inr rfl)))
    intro result
    cases result with
    | ok _ => exact touches_throw _
    | error error => exact touches_throw _
  · exact fun _ => touches_bind (touches_syncBackupDir _) fun _ => touches_verifySidecar _ _ _

theorem touches_closingStore {work : DbTask α} (inside : ∀ path ∈ databaseFiles db, S path) (kept : touches S work) :
    touches S (closingStore db work) := by
  unfold closingStore
  apply touches_bind (touches_attempt kept)
  intro result
  exact touches_bind (touches_sqliteWrites _ inside) fun _ => touches_done _

theorem touches_openStore (inside : ∀ path ∈ databaseFiles db, S path) : touches S (openStore db) :=
  touches_bind (touches_sqliteWrites _ inside) fun _ => touches_asked _

theorem touches_ensureAbsent : touches S (ensureBackupOutputAbsent out) := by
  unfold ensureBackupOutputAbsent
  apply touches_bind (touches_attempt (touches_look _ _))
  intro result
  cases result with
  | ok taken => cases taken <;> exact touches_done _
  | error error => exact touches_throw _

theorem touches_opsBackup : touches (fun path => CallFiles pid db out path ∨ path = out) (opsBackup digest pid db out) := by
  have inside : ∀ path ∈ databaseFiles db, CallFiles pid db out path ∨ path = out :=
    fun path member => .inl (.inr (.inr (.inr member)))
  unfold opsBackup
  apply touches_bind (touches_exists _)
  intro present
  split
  · exact touches_throw _
  apply touches_bind (touches_ensureAbsent _)
  intro _
  apply touches_bind (touches_removeStale _ (.inl (.inl rfl)))
  intro _
  apply touches_bind (touches_removeStale _ (.inl (.inr (.inl rfl))))
  intro _
  apply touches_tryCatch
  · apply touches_bind (touches_openStore db inside)
    intro _
    apply touches_closingStore db inside
    apply touches_bind (touches_mono (fun _ => .inl) (touches_prepareBackup digest pid db out))
    intro report
    exact touches_bind (touches_publishBackup pid db out _) fun _ => touches_pure _
  · intro error
    apply touches_bind (touches_attempt (touches_remove (.inl (.inl rfl))))
    intro _
    exact touches_bind (touches_attempt (touches_remove (.inl (.inr (.inl rfl))))) fun _ => touches_throw _

end Calls

section Spec
variable {allows : (FileOp FilePath → Fate Content) → Prop} {w : Files FilePath Content}
variable (digest : Content → Digest) (pid : Nat) (db out : FilePath)

def sidecarText (content : Content) : Content := asBytes (backupHashSidecarLine out (digestHex (digest content)) ++ "\n")

-- A snapshot beside the sidecar that was written for it.
def Sealed (w : Files FilePath Content) : Prop :=
  ∃ content, w out = some content ∧ w (backupHashSidecarPath out) = some (sidecarText digest out content)

-- What a failing call may leave at the output path.
def Unpublished (w : Files FilePath Content) : Prop := w out = none ∨ Sealed digest out w

theorem sealed_frame {after : Files FilePath Content} (own : after out = w out)
    (sidecar : after (backupHashSidecarPath out) = w (backupHashSidecarPath out)) (done : Sealed digest out w) :
    Sealed digest out after := by
  obtain ⟨content,stands,text⟩ := done
  exact ⟨content,own.trans stands,sidecar.trans text⟩

theorem unpublished_frame {after : Files FilePath Content} (own : after out = w out)
    (sidecar : after (backupHashSidecarPath out) = w (backupHashSidecarPath out)) (done : Unpublished digest out w) :
    Unpublished digest out after := by
  rcases done with absent | published
  · exact .inl (own.trans absent)
  · exact .inr (sealed_frame digest out own sidecar published)

theorem guarded_sha256Hex (sha256 : Content → String) (path : FilePath) :
    (sha256Hex sha256 path).guarded allows (fun _ => True) w
      (Ends (fun text after => ∃ content, after path = some content ∧ text = sha256 content) fun _ => True) := by
  unfold sha256Hex
  apply guarded_skip
  · intro _ after
    apply guarded_ask trivial
    · intro error
      trivial
    · intro content read
      exact ⟨trivial,content,standing_ok.mp read,rfl⟩
  · intro _ _
    trivial

theorem guarded_backupTo (destination : FilePath) : (backupTo digest db destination).guarded allows (fun _ => True) w
    (Ends (fun report after => ∃ content, after destination = some content ∧ report.sha256 = digestHex (digest content))
      fun _ => True) := by
  unfold backupTo
  apply guarded_skip _ fun _ _ => trivial
  intro _ _
  apply guarded_skip _ fun _ _ => trivial
  intro image _
  apply guarded_skip _ fun _ _ => trivial
  intro _ _
  apply guarded_skip _ fun _ _ => trivial
  intro _ _
  apply guarded_skip _ fun _ _ => trivial
  intro size _
  apply guarded_seq (guarded_sha256Hex _ destination)
  · intro text after _ reached
    exact ⟨trivial,reached⟩
  · intro _ _ _ _
    trivial

theorem guarded_writeSidecarTmp {tmpPath : FilePath} (sha256 : String) :
    (writeBackupHashSidecarTmp tmpPath out sha256).guarded allows (fun _ => True) w
      (Ends (fun _ after => after tmpPath = some (asBytes (backupHashSidecarLine out sha256 ++ "\n"))) fun _ => True) := by
  unfold writeBackupHashSidecarTmp
  apply guarded_skip _ fun _ _ => trivial
  intro _ created
  rw [guarded_bind,guarded_mapError]
  apply guarded_fill
  · intro _ _
    trivial
  · simp only [Except.mapError]
    apply guarded_ask trivial
    · intro error
      trivial
    intro _ _
    apply guarded_ask trivial
    · intro error
      trivial
    intro contents _
    split
    · exact ⟨trivial,Function.update_self _ _ _⟩
    · exact ⟨trivial,trivial⟩

-- The snapshot and its sidecar stand in their temporary files.
theorem guarded_prepareBackup : (prepareBackup digest pid db out).guarded allows (fun _ => True) w
    (Ends (fun report after => ∃ content, after (backupSnapshotTmpPath pid out) = some content ∧
      report.sha256 = digestHex (digest content) ∧
      after (hashSidecarTmpPath pid (backupHashSidecarPath out)) = some (sidecarText digest out content)) fun _ => True) := by
  have own := ownFiles out pid
  unfold prepareBackup
  apply guarded_seq (guarded_backupTo digest db _)
  · intro report snapshot _ reached
    obtain ⟨content,stands,sha256⟩ := reached
    apply guarded_seq (guarded_framed (touches_durability (S := fun _ => False) _ _) (guarded_any _))
    · intro _ synced _ same
      apply guarded_seq (guarded_framed (touches_writeSidecarTmp (S := fun path => path = hashSidecarTmpPath pid (backupHashSidecarPath out))
        _ _ rfl) (guarded_writeSidecarTmp out report.sha256))
      · intro _ written _ kept
        apply guarded_seq (guarded_framed (touches_removeExisting (S := fun path => path = backupHashSidecarPath out) rfl)
          (guarded_any _))
        · intro _ cleared _ others
          have snapshot_kept : cleared (backupSnapshotTmpPath pid out) = some content := by
            rw [others.2 _ own.tmp_hash,kept.2 _ own.tmps,same.2 _ id]
            exact stands
          have text : cleared (hashSidecarTmpPath pid (backupHashSidecarPath out)) = some (sidecarText digest out content) := by
            rw [others.2 _ own.hash_own]
            unfold sidecarText
            rw [←sha256]
            exact kept.1
          exact ⟨trivial,content,snapshot_kept,sha256,text⟩
        · intro _ _ _ _
          trivial
      · intro _ _ _ _
        trivial
    · intro _ _ _ _
      trivial
  · intro _ _ _ _
    trivial

theorem tryCatch_guarded {α : Type} {I : Files FilePath Content → Prop} (t : DbTask α) (handler : String → DbTask α)
    (R : Except String α → Files FilePath Content → Prop) : (tryCatch t handler).guarded allows I w R ↔
      t.guarded allows I w fun result after => match result with
        | .ok value => R (.ok value) after
        | .error error => (handler error).guarded allows I after R := by
  change (t.attempt >>= _).guarded allows I w R ↔ _
  rw [guarded_bind,guarded_attempt]
  constructor
  · apply guarded_mono fun _ here => here
    intro result after _ reached
    cases result with
    | ok value => exact reached.2
    | error error => exact reached
  · apply guarded_mono fun _ here => here
    intro result after here reached
    cases result with
    | ok value => exact ⟨here,reached⟩
    | error error => exact reached

-- The folder of a published snapshot can be synced, and a snapshot can be withdrawn.
def Granted (e : FileOp FilePath → Fate Content) : Prop :=
  (e (.openFolder out)).failure = none ∧ (e (.syncFolder out)).failure = none ∧ (e (.remove out)).failure = none

theorem guarded_syncGranted (granted : ∀ e, allows e → Granted out e) :
    (syncBackupDir out).guarded allows (fun _ => True) w (Ends (fun _ after => after = w) fun _ => False) := by
  unfold syncBackupDir
  split
  · exact ⟨trivial,rfl⟩
  · rw [guarded_bind,guarded_mapError]
    apply guarded_lookGranted
    · exact fun e allowed => (granted e allowed).1
    · trivial
    · simp only [Except.mapError]
      rw [guarded_mapError]
      apply guarded_lookGranted
      · exact fun e allowed => (granted e allowed).2.1
      · trivial
      · rfl

-- A withdrawal always ends in an error.
theorem guarded_withdraw (granted : ∀ e, allows e → Granted out e) {content : Content} (stands : w out = some content)
    {F : Unit → Files FilePath Content → Prop} :
    (withdrawSnapshot out).guarded allows (fun _ => True) w (Ends F fun after => after out = none) := by
  unfold withdrawSnapshot
  rw [guarded_bind,guarded_attempt]
  apply guarded_granted
  · exact fun e allowed => (granted e allowed).2.2
  · trivial
  intro _
  rw [stands]
  exact ⟨trivial,trivial,Function.update_self _ _ _⟩

-- From the two temporary files to the snapshot and its sidecar, or back.
theorem guarded_publishBackup (granted : ∀ e, allows e → Granted out e) {content : Content} {sha256 : String}
    (absent : w out = none) (stands : w (backupSnapshotTmpPath pid out) = some content)
    (text : w (hashSidecarTmpPath pid (backupHashSidecarPath out)) = some (sidecarText digest out content)) :
    (publishBackup pid out sha256).guarded allows (fun _ => True) w
      (Ends (fun _ => Sealed digest out) (Unpublished digest out)) := by
  have own := ownFiles out pid
  unfold publishBackup publishTmpFile
  simp only
  rw [guarded_bind,guarded_mapError]
  apply guarded_rename trivial
  · intro _
    exact .inl absent
  · intro found there
    rw [stands] at there
    obtain rfl := Option.some.inj there
    constructor
    · trivial
    · simp only [Except.mapError]
      apply guarded_seq (guarded_syncGranted out granted)
      · intro _ published _ same
        have snapshot : published out = some content := by
          rw [show published = _ from same]
          exact Function.update_self _ _ _
        have sidecar : published (hashSidecarTmpPath pid (backupHashSidecarPath out)) = some (sidecarText digest out content) := by
          rw [show published = _ from same,Function.update_of_ne own.hash_tmp,Function.update_of_ne own.tmps.symm]
          exact text
        have done : ∀ after, after out = some content ∧ after (backupHashSidecarPath out) = some (sidecarText digest out content) →
            Sealed digest out after := fun after both => ⟨content,both⟩
        have finish : ∀ after : Files FilePath Content, Sealed digest out after →
            (do syncBackupDir (backupHashSidecarPath out)
                verifyBackupHashSidecar (backupHashSidecarPath out) out sha256 : DbTask Unit).guarded allows
              (fun _ => True) after (Ends (fun _ => Sealed digest out) (Unpublished digest out)) := by
          intro after closed
          apply guarded_mono (fun _ _ => trivial) _ (guarded_silent (touches_bind (touches_syncBackupDir _)
            fun _ => touches_verifySidecar _ _ _))
          intro result ended unchanged _
          rw [unchanged]
          cases result with
          | ok _ => exact closed
          | error error => exact .inr closed
        apply guarded_seq (F := Ends (fun _ => Sealed digest out) fun after => after out = none)
        · rw [tryCatch_guarded,guarded_mapError]
          apply guarded_rename trivial
          · intro error
            exact guarded_withdraw out granted snapshot
          · intro moved there
            rw [sidecar] at there
            obtain rfl := Option.some.inj there
            constructor
            · trivial
            · have kept : Function.update (Function.update published (hashSidecarTmpPath pid (backupHashSidecarPath out)) none)
                  (backupHashSidecarPath out) (some (sidecarText digest out content)) out = some content := by
                rw [Function.update_of_ne own.hash.symm,Function.update_of_ne own.hash_tmp.symm]
                exact snapshot
              exact done _ ⟨kept,Function.update_self _ _ _⟩
        · intro _ after _ closed
          exact finish after closed
        · intro _ after _ gone
          exact .inl gone
      · intro _ _ _ impossible
        exact impossible.elim

def TmpFiles (path : FilePath) : Prop :=
  path = backupSnapshotTmpPath pid out ∨ path = hashSidecarTmpPath pid (backupHashSidecarPath out)

-- No file of the source database is the snapshot or its sidecar.
def SourceApart : Prop := ∀ path ∈ databaseFiles db, path ≠ out ∧ path ≠ backupHashSidecarPath out

theorem out_untouched (apart : SourceApart db out) : ¬CallFiles pid db out out := by
  have own := ownFiles out pid
  intro touched
  rcases touched with tmp | hash_tmp | hash | source
  · exact own.tmp tmp.symm
  · exact own.hash_tmp hash_tmp.symm
  · exact own.hash hash.symm
  · exact (apart out source).1 rfl

theorem guarded_sqliteWrites (paths : List FilePath) : (sqliteWrites paths).guarded allows (fun _ => True) w
    (Ends (fun _ _ => True) fun _ => False) := by
  induction paths generalizing w with
  | nil => exact ⟨trivial,trivial⟩
  | cons path rest ih =>
      unfold sqliteWrites
      rw [guarded_bind]
      apply guarded_operation trivial
      intro fate
      exact ⟨trivial,ih⟩

theorem guarded_closingStore {α : Type} {F : α → Files FilePath Content → Prop} {E : Files FilePath Content → Prop}
    (work : DbTask α) (spec : work.guarded allows (fun _ => True) w (Ends F E))
    (kept : ∀ before after, (∀ path, path ∉ databaseFiles db → after path = before path) →
      (∀ value, F value before → F value after) ∧ (E before → E after)) :
    (closingStore db work).guarded allows (fun _ => True) w (Ends F E) := by
  unfold closingStore
  rw [guarded_bind,guarded_attempt]
  apply guarded_mono (fun _ _ => trivial) _ spec
  intro result before _ reached
  have writes := guarded_framed (touches_sqliteWrites (S := fun path => path ∈ databaseFiles db) _ fun _ member => member)
    (@guarded_sqliteWrites allows before (databaseFiles db))
  apply guarded_seq writes
  · intro _ after _ framed
    have moved := kept before after framed.2
    cases result with
    | ok value => exact ⟨trivial,moved.1 value reached⟩
    | error error => exact ⟨trivial,moved.2 reached⟩
  · intro _ _ _ impossible
    exact impossible.1.elim

-- What happens between the opening of the source database and its closing.
theorem guarded_storing (granted : ∀ e, allows e → Granted out e) (apart : SourceApart db out) (absent : w out = none) :
    (do openStore db
        closingStore db do
          let report ← prepareBackup digest pid db out
          publishBackup pid out report.sha256
          pure { report with destination := out.display,hashSidecar := (backupHashSidecarPath out).display } :
      DbTask BackupReport).guarded allows (fun _ => True) w (Ends (fun _ => Sealed digest out) (Unpublished digest out)) := by
  have untouched := out_untouched pid db out apart
  have inside : ∀ path ∈ databaseFiles db, CallFiles pid db out path := fun path member => .inr (.inr (.inr member))
  apply guarded_seq (guarded_framed (touches_openStore db inside) (guarded_any _))
  · intro _ opened _ one
    have absent_one : opened out = none := (one.2 out untouched).trans absent
    apply guarded_closingStore
    · apply guarded_seq (guarded_framed (touches_prepareBackup digest pid db out) (guarded_prepareBackup digest pid db out))
      · intro report prepared _ two
        obtain ⟨⟨content,stands,_,text⟩,frame⟩ := two
        have absent_two : prepared out = none := (frame out untouched).trans absent_one
        apply guarded_seq (guarded_publishBackup digest pid out granted absent_two stands text)
        · intro _ published _ done
          exact ⟨trivial,done⟩
        · intro _ _ _ unpublished
          exact unpublished
      · intro _ prepared _ two
        exact .inl ((two.2 out untouched).trans absent_one)
    · intro before after frame
      have own_kept : after out = before out := frame out fun member => (apart out member).1 rfl
      have hash_kept : after (backupHashSidecarPath out) = before (backupHashSidecarPath out) :=
        frame _ fun member => (apart _ member).2 rfl
      exact ⟨fun _ done => sealed_frame digest out own_kept hash_kept done,unpublished_frame digest out own_kept hash_kept⟩
  · intro _ opened _ one
    exact .inl ((one.2 out untouched).trans absent)

-- A call for a path where nothing stands, if its folder can be synced, its snapshot can
-- be withdrawn and its source database is apart.
theorem guarded_opsBackup (granted : ∀ e, allows e → Granted out e) (apart : SourceApart db out) (absent : w out = none) :
    (opsBackup digest pid db out).guarded allows (fun _ => True) w
      (Ends (fun _ => Sealed digest out) (Unpublished digest out)) := by
  have untouched := out_untouched pid db out apart
  have own := ownFiles out pid
  have inside : ∀ path ∈ databaseFiles db, CallFiles pid db out path := fun path member => .inr (.inr (.inr member))
  unfold opsBackup
  apply guarded_seq (guarded_framed (touches_exists (S := CallFiles pid db out) _) (guarded_any _))
  · intro present asked _ one
    have absent_one : asked out = none := (one.2 out untouched).trans absent
    split
    · exact ⟨trivial,.inl absent_one⟩
    apply guarded_seq (guarded_framed (touches_ensureAbsent (S := CallFiles pid db out) _) (guarded_any _))
    · intro _ ensured _ two
      have absent_two : ensured out = none := (two.2 out untouched).trans absent_one
      apply guarded_seq (guarded_framed (touches_removeStale (S := CallFiles pid db out) _ (.inl rfl)) (guarded_any _))
      · intro _ stale _ three
        have absent_three : stale out = none := (three.2 out untouched).trans absent_two
        apply guarded_seq (guarded_framed (touches_removeStale (S := CallFiles pid db out) _ (.inr (.inl rfl))) (guarded_any _))
        · intro _ clean _ four
          have absent_four : clean out = none := (four.2 out untouched).trans absent_three
          rw [tryCatch_guarded]
          apply guarded_mono (fun _ _ => trivial) _ (guarded_storing digest pid db out granted apart absent_four)
          intro result after _ reached
          cases result with
          | ok report => exact reached
          | error error =>
              have kept : ∀ {before after : Files FilePath Content}, (∀ path, ¬TmpFiles pid out path → after path = before path) →
                  Unpublished digest out before → Unpublished digest out after := by
                intro before after same unpublished
                apply unpublished_frame digest out _ _ unpublished
                · exact same out fun either => either.elim own.tmp.symm own.hash_tmp.symm
                · exact same _ fun either => either.elim own.tmp_hash.symm own.hash_own.symm
              apply guarded_seq (guarded_framed (touches_attempt (touches_remove (S := TmpFiles pid out) (.inl rfl))) (guarded_any _))
              · intro _ first _ five
                have still := kept five.2 reached
                apply guarded_seq (guarded_framed (touches_attempt (touches_remove (S := TmpFiles pid out) (.inr rfl))) (guarded_any _))
                · intro _ second _ six
                  exact ⟨trivial,kept six.2 still⟩
                · intro _ second _ six
                  exact kept six.2 still
              · intro _ first _ five
                exact kept five.2 reached
        · intro _ after _ four
          exact .inl ((four.2 out untouched).trans absent_three)
      · intro _ after _ three
        exact .inl ((three.2 out untouched).trans absent_two)
    · intro _ after _ two
      exact .inl ((two.2 out untouched).trans absent_one)
  · intro _ after _ one
    exact .inl ((one.2 out untouched).trans absent)

-- A call for a path where something stands is refused.
theorem guarded_occupied {content : Content} (stands : w out = some content) :
    (opsBackup digest pid db out).guarded allows (fun after => after = w) w (Ends (fun _ _ => False) fun _ => True) := by
  have ensured : ∀ {α : Type} (k : Unit → DbTask α), (ensureBackupOutputAbsent out >>= k).guarded allows
      (fun after => after = w) w (Ends (fun _ _ => False) fun _ => True) := by
    intro α k
    unfold ensureBackupOutputAbsent
    rw [guarded_bind,guarded_bind,guarded_attempt]
    apply guarded_look
    · rfl
    · intro error
      exact ⟨rfl,trivial⟩
    · intro taken answered
      have occupied : taken = true := by
        rw [stands] at answered
        exact (Except.ok.inj answered).symm
      subst occupied
      exact ⟨rfl,trivial⟩
  unfold opsBackup
  rw [guarded_bind]
  apply guarded_exists
  · rfl
  · exact ⟨rfl,trivial⟩
  · intro _
    exact ensured _

end Spec

section Verified
variable (digest : Content → Digest)

theorem hexDigits_hex {byte : UInt8} {ch : Char} (member : ch ∈ Wire.hexDigits byte.toNat) :
    isAsciiHexDigit ch = true ∧ isWhitespace ch = false ∧ ch ≠ '\n' := by
  have digits : ∀ n < 16, isAsciiHexDigit (Nat.digitChar n) = true ∧ isWhitespace (Nat.digitChar n) = false ∧
      Nat.digitChar n ≠ '\n' := by decide
  have small := byte.toNat_lt
  rcases List.mem_cons.mp member with rfl | later
  · exact digits _ (by omega)
  · rw [List.mem_singleton.mp later]
    exact digits _ (by omega)

theorem digestHex_chars (value : Digest) : ∀ ch ∈ (digestHex value).toList,
    isAsciiHexDigit ch = true ∧ isWhitespace ch = false ∧ ch ≠ '\n' := by
  intro ch member
  unfold digestHex at member
  rw [String.toList_ofList,List.mem_flatMap] at member
  obtain ⟨byte,_,digit⟩ := member
  exact hexDigits_hex digit

theorem digestHex_length (value : Digest) : (digestHex value).toList.length = 64 := by
  have pairs : ∀ bytes : List UInt8, (bytes.flatMap fun byte => Wire.hexDigits byte.toNat).length = 2*bytes.length := by
    intro bytes
    induction bytes with
    | nil => rfl
    | cons byte rest ih =>
        rw [List.flatMap_cons,List.length_append,ih,List.length_cons]
        change 2+2*rest.length = 2*(rest.length+1)
        omega
  unfold digestHex
  rw [String.toList_ofList,pairs,value.property]

theorem textLines_starts {word : List Char} (inside : ∀ ch ∈ word, ch ≠ '\n') (long : word ≠ []) (rest : List Char) :
    ∃ line later, textLines (word ++ rest) = (word ++ line) :: later := by
  induction word with
  | nil => exact (long rfl).elim
  | cons ch tail ih =>
      have other : ch ≠ '\n' := inside ch List.mem_cons_self
      cases tail with
      | nil =>
          simp only [List.cons_append,List.nil_append,textLines,other,reduceIte]
          cases textLines rest with
          | nil => exact ⟨[],[],rfl⟩
          | cons line later => exact ⟨line,later,rfl⟩
      | cons next more =>
          obtain ⟨line,later,same⟩ := ih (fun one member => inside one (List.mem_cons_of_mem _ member)) (List.cons_ne_nil _ _)
          refine ⟨line,later,?_⟩
          rw [List.cons_append,textLines,if_neg other,same]
          rfl

theorem firstWord_blank {word : List Char} (visible : ∀ ch ∈ word, isWhitespace ch = false) (long : word ≠ [])
    (rest : List Char) : firstWord (word ++ ' ' :: rest) = some word := by
  obtain ⟨ch,tail,rfl⟩ := List.exists_cons_of_ne_nil long
  have head : isWhitespace ch = false := visible ch List.mem_cons_self
  have kept : (ch :: tail ++ ' ' :: rest).takeWhile (fun ch => !isWhitespace ch) = ch :: tail := by
    rw [List.takeWhile_append_of_pos]
    · rw [List.takeWhile_cons_of_neg (by decide),List.append_nil]
    · intro one member
      rw [visible one member]
      rfl
  unfold firstWord
  rw [List.cons_append,List.dropWhile_cons_of_neg (by simp [head]),←List.cons_append,kept]

theorem sidecar_lists (out : FilePath) (value : Digest) :
    listsHash (backupHashSidecarLine out (digestHex value) ++ "\n") (digestHex value) = true := by
  have chars := digestHex_chars value
  have length := digestHex_length value
  have long : (digestHex value).toList ≠ [] := by
    intro empty
    rw [empty] at length
    cases length
  have text : (backupHashSidecarLine out (digestHex value) ++ "\n").toList =
      ((digestHex value).toList ++ [' ']) ++ ' ' :: (out.display ++ "\n").toList := by
    unfold backupHashSidecarLine
    simp only [String.toList_append,List.append_assoc]
    rfl
  have one_line : ∀ ch ∈ (digestHex value).toList ++ [' '], ch ≠ '\n' := by
    intro ch member
    rcases List.mem_append.mp member with digit | blank
    · exact (chars ch digit).2.2
    · rw [List.mem_singleton.mp blank]
      decide
  obtain ⟨line,later,lines⟩ := textLines_starts one_line (by simp) (' ' :: (out.display ++ "\n").toList)
  have word : firstWord ((digestHex value).toList ++ [' '] ++ line) = some (digestHex value).toList := by
    rw [List.append_assoc]
    exact firstWord_blank (fun ch member => (chars ch member).2.1) long line
  have all_hex : (digestHex value).toList.all isAsciiHexDigit = true :=
    List.all_eq_true.mpr fun ch member => (chars ch member).1
  have listed : ((digestHex value).toList.length = 64 && (digestHex value).toList.all isAsciiHexDigit) = true := by
    simp [length,all_hex]
  unfold listsHash
  simp only
  rw [text,lines,List.filterMap_cons_some word,List.filter_cons,if_pos listed,List.any_cons,String.ofList_toList]
  simp [eqIgnoreAsciiCase]

-- What a restore finds of a snapshot, if nothing fails.
def Verifies (w : Files FilePath Content) (out : FilePath) : Prop :=
  (verifyRestoreBackupHashSidecarIfPresent digest out (backupHashSidecarPath out)).drive (fun _ _ => ⟨none,[]⟩) w =
    (.ok .verified,w)

-- Nothing fails.
def Quiet (e : FileOp FilePath → Fate Content) : Prop := e = fun _ => ⟨none,[]⟩

theorem alone_quiet {α : Type} {op : FileOp FilePath} {found : Files FilePath Content → Except FileError α}
    {w : Files FilePath Content} {R : Except FileError α → Files FilePath Content → Prop} :
    (look op found).alone Quiet w R ↔ R (found w) w := by
  constructor
  · intro holds
    exact holds _ rfl
  · intro holds e quiet
    rw [show e = _ from quiet]
    exact holds

theorem alone_ask {α β : Type} {op : FileOp FilePath} {found : Files FilePath Content → Except FileError α}
    {text : FileError → String} {k : α → DbTask β} {w : Files FilePath Content} {v : α}
    {R : Except String β → Files FilePath Content → Prop} (seen : found w = .ok v) (rest : (k v).alone Quiet w R) :
    ((look op found).mapError text >>= k).alone Quiet w R := by
  rw [alone_bind,alone_mapError,alone_quiet,seen]
  exact rest

theorem readable_text {w : Files FilePath Content} {path : FilePath} {text : String} (stands : w path = some (asBytes text)) :
    readableText path w = .ok text := by
  have decoded : decodeUtf8 (asBytes text) = some text := decodeUtf8_some.mpr rfl
  unfold readableText
  rw [stands]
  simp only [decoded]
  rfl

theorem sealed_verifies {w : Files FilePath Content} {out : FilePath} (done : Sealed digest out w) : Verifies digest w out := by
  obtain ⟨content,stands,text⟩ := done
  have verified : (verifyRestoreBackupHashSidecarIfPresent digest out (backupHashSidecarPath out)).alone Quiet w
      fun result after => (result,after) = (.ok .verified,w) := by
    unfold verifyRestoreBackupHashSidecarIfPresent
    apply alone_ask (v := true)
    · rw [text]
      rfl
    simp only [Bool.not_true,Bool.false_eq_true,reduceIte]
    rw [alone_bind]
    intro e quiet
    rw [show e = _ from quiet]
    simp only [text]
    change Task.alone Quiet (_ >>= _) w _
    rw [alone_bind,alone_mapError]
    unfold fileSha256Hex
    apply alone_ask (standing_ok.mpr stands)
    apply alone_ask (standing_ok.mpr stands)
    simp only [Except.mapError]
    apply alone_ask (v := backupHashSidecarLine out (digestHex (digest content)) ++ "\n")
    · exact readable_text text
    · rw [sidecar_lists out (digest content)]
      rfl
  exact alone_drive verified fun _ => rfl

end Verified

-- One call of the command: the process it runs in and what becomes of its operations.
structure BackupCall where
  db : FilePath
  out : FilePath
  pid : Nat
  answers : Nat → FileOp FilePath → Fate Content

-- The disk, and the snapshots that calls have published on it with their contents.
structure BackupSet where
  files : Files FilePath Content
  snapshots : List (FilePath × Content)

section Runs
variable (digest : Content → Digest)

def BackupCall.perform (call : BackupCall) (w : Files FilePath Content) : Except String BackupReport × Files FilePath Content :=
  (opsBackup digest call.pid call.db call.out).drive call.answers w

-- What a call has put to a path where nothing stood.
def published (before after : Files FilePath Content) (out : FilePath) : List (FilePath × Content) :=
  match before out,after out with
  | none,some content => [(out,content)]
  | _,_ => []

def BackupSet.call (set : BackupSet) (call : BackupCall) : BackupSet :=
  let after := (call.perform digest set.files).2
  ⟨after,published set.files after call.out ++ set.snapshots⟩

theorem call_snapshots {set : BackupSet} {call : BackupCall} {snapshot : FilePath × Content}
    (member : snapshot ∈ (set.call digest call).snapshots) : snapshot.1 = call.out ∨ snapshot ∈ set.snapshots := by
  rcases List.mem_append.mp member with new | old
  · left
    unfold published at new
    split at new
    · rw [List.mem_singleton.mp new]
    · cases new
  · exact .inr old

def BackupSet.Intact (set : BackupSet) : Prop :=
  ∀ snapshot ∈ set.snapshots, set.files snapshot.1 = some snapshot.2 ∧ Verifies digest set.files snapshot.1

-- After every call of a sequence the set is intact, and a call that reports a backup
-- has published it.
def SetIntegrity : BackupSet → List BackupCall → Prop
  | _,[] => True
  | set,call :: rest => (set.call digest call).Intact digest ∧
      ((call.perform digest set.files).1.isOk = true → ∃ content, (call.out,content) ∈ (set.call digest call).snapshots) ∧
      SetIntegrity (set.call digest call) rest

-- A call that is refused for its output path, or that has its folder synced, can take
-- back what it has published, and writes to no snapshot or sidecar that is there.
def Undisturbing (set : BackupSet) (call : BackupCall) : Prop :=
  (set.files call.out).isSome = true ∨ (∀ n, Granted call.out (call.answers n)) ∧ SourceApart call.db call.out ∧
    ∀ snapshot ∈ set.snapshots, ¬CallFiles call.pid call.db call.out snapshot.1 ∧
      ¬CallFiles call.pid call.db call.out (backupHashSidecarPath snapshot.1)

def Undisturbed : BackupSet → List BackupCall → Prop
  | _,[] => True
  | set,call :: rest => Undisturbing set call ∧ Undisturbed (set.call digest call) rest

-- What carries the induction: every snapshot has the sidecar that was written for it.
def BackupSet.AllSealed (set : BackupSet) : Prop :=
  ∀ snapshot ∈ set.snapshots, set.files snapshot.1 = some snapshot.2 ∧ Sealed digest snapshot.1 set.files

theorem allSealed_intact {set : BackupSet} (all : set.AllSealed digest) : set.Intact digest := by
  intro snapshot member
  have held := all snapshot member
  exact ⟨held.1,sealed_verifies digest held.2⟩

theorem call_occupied {set : BackupSet} {call : BackupCall} {content : Content} (stands : set.files call.out = some content) :
    (call.perform digest set.files).1.isOk = false ∧ set.call digest call = set := by
  have spec : (opsBackup digest call.pid call.db call.out).guarded (fun _ => True) (fun after => after = set.files) set.files
      fun result after => after = set.files ∧ Ends (fun _ _ => False) (fun _ => True) result after :=
    guarded_mono (fun _ same => same) (fun _ _ same reached => ⟨same,reached⟩)
      (guarded_occupied digest call.pid call.db call.out stands)
  obtain ⟨same,failed⟩ : (call.perform digest set.files).2 = set.files ∧
      Ends (fun _ _ => False) (fun _ => True) (call.perform digest set.files).1 (call.perform digest set.files).2 :=
    guarded_drive spec fun _ => trivial
  constructor
  · cases result : (call.perform digest set.files).1 with
    | error error => rfl
    | ok report =>
        rw [result] at failed
        exact failed.elim
  · unfold BackupSet.call
    simp only [same]
    unfold published
    rw [stands]
    rfl

-- What a call comes to that starts with nothing at its output path.
theorem call_absent {set : BackupSet} {call : BackupCall} (absent : set.files call.out = none)
    (granted : ∀ n, Granted call.out (call.answers n)) (apart : SourceApart call.db call.out) :
    Ends (fun _ => Sealed digest call.out) (Unpublished digest call.out) (call.perform digest set.files).1
        (call.perform digest set.files).2 ∧
      ∀ path, ¬(CallFiles call.pid call.db call.out path ∨ path = call.out) →
        (call.perform digest set.files).2 path = set.files path := by
  have framed := guarded_framed (touches_opsBackup digest call.pid call.db call.out)
    (guarded_opsBackup digest call.pid call.db call.out (fun _ allowed => allowed) apart absent)
  exact guarded_drive framed granted

theorem call_allSealed {set : BackupSet} {call : BackupCall} (undisturbing : Undisturbing set call)
    (all : set.AllSealed digest) : (set.call digest call).AllSealed digest ∧
      ((call.perform digest set.files).1.isOk = true → ∃ content, (call.out,content) ∈ (set.call digest call).snapshots) := by
  cases stands : set.files call.out with
  | some content =>
      obtain ⟨failed,same⟩ := call_occupied digest stands
      rw [same,failed]
      exact ⟨all,fun impossible => by cases impossible⟩
  | none =>
      rcases undisturbing with occupied | ⟨granted,source,names⟩
      · rw [stands] at occupied
        cases occupied
      obtain ⟨ended,frame⟩ := call_absent digest stands granted source
      constructor
      · intro snapshot member
        rcases List.mem_append.mp member with new | old
        · -- What stands there now was put there together with its sidecar.
          unfold published at new
          rw [stands] at new
          cases there : (call.perform digest set.files).2 call.out with
          | none =>
              rw [there] at new
              cases new
          | some content =>
              rw [there] at new
              rw [List.mem_singleton.mp new]
              constructor
              · exact there
              · cases result : (call.perform digest set.files).1 with
                | ok report =>
                    rw [result] at ended
                    exact ended
                | error error =>
                    rw [result] at ended
                    rcases ended with absent | done
                    · rw [there] at absent
                      cases absent
                    · exact done
        · have held := all snapshot old
          have apart := names snapshot old
          have kept : (set.call digest call).files snapshot.1 = set.files snapshot.1 := by
            apply frame
            intro either
            rcases either with touched | same
            · exact apart.1 touched
            · rw [same,stands] at held
              cases held.1
          have sidecar_kept : (set.call digest call).files (backupHashSidecarPath snapshot.1) =
              set.files (backupHashSidecarPath snapshot.1) := by
            apply frame
            intro either
            rcases either with touched | same
            · exact apart.2 touched
            · obtain ⟨content,_,text⟩ := held.2
              rw [same,stands] at text
              cases text
          exact ⟨kept.trans held.1,sealed_frame digest snapshot.1 kept sidecar_kept held.2⟩
      · intro ok
        cases result : (call.perform digest set.files).1 with
        | error error =>
            rw [result] at ok
            cases ok
        | ok report =>
            rw [result] at ended
            obtain ⟨content,there,_⟩ := ended
            use content
            apply List.mem_append_left
            unfold published
            rw [stands,there]
            exact List.mem_singleton.mpr rfl

-- In every run of calls that disturb nothing the published snapshots stay verified.
theorem backups_stay_verified (files : Files FilePath Content) (calls : List BackupCall)
    (undisturbed : Undisturbed digest ⟨files,[]⟩ calls) : SetIntegrity digest ⟨files,[]⟩ calls := by
  have run : ∀ (calls : List BackupCall) (set : BackupSet), set.AllSealed digest → Undisturbed digest set calls →
      SetIntegrity digest set calls := by
    intro calls
    induction calls with
    | nil =>
        intro set _ _
        trivial
    | cons call rest ih =>
        intro set all undisturbed
        obtain ⟨now,later⟩ := undisturbed
        obtain ⟨kept,reported⟩ := call_allSealed digest now all
        exact ⟨allSealed_intact digest kept,reported,ih _ kept later⟩
  apply run calls _ _ undisturbed
  intro snapshot member
  cases member

end Runs

def benchSum (content : Content) : Digest := ⟨List.replicate 32 (content.headD 0),List.length_replicate⟩

-- A call of which no operation fails, and the image that its database gives.
def backupOf (image : UInt8) (out : FilePath) : BackupCall where
  db := liveDb
  out := out
  pid := 7
  answers _ op := if op = .read liveDb then ⟨none,[image]⟩ else ⟨none,[]⟩

def sourceOnly : BackupSet := ⟨fun path => if path = liveDb then some [1] else none,[]⟩

theorem backups_stay_verified_nights : SetIntegrity benchSum sourceOnly
    [backupOf 1 ⟨"/var/backups/","monday.sqlite3"⟩,backupOf 2 ⟨"/var/backups/","tuesday.sqlite3"⟩] := by
  apply backups_stay_verified
  have quiet : ∀ image name, ∀ n, Granted ⟨"/var/backups/",name⟩ ((backupOf image ⟨"/var/backups/",name⟩).answers n) :=
    fun _ _ _ => ⟨rfl,rfl,rfl⟩
  have monday : Undisturbing sourceOnly (backupOf 1 ⟨"/var/backups/","monday.sqlite3"⟩) := by
    right
    exact ⟨quiet 1 _,by unfold SourceApart; decide,fun snapshot missing => by cases missing⟩
  have tuesday : Undisturbing (sourceOnly.call benchSum (backupOf 1 ⟨"/var/backups/","monday.sqlite3"⟩))
      (backupOf 2 ⟨"/var/backups/","tuesday.sqlite3"⟩) := by
    right
    constructor
    · exact quiet 2 _
    constructor
    · unfold SourceApart
      decide
    · intro snapshot member
      rcases call_snapshots benchSum member with named | old
      · rw [named]
        decide
      · cases old
  exact ⟨monday,tuesday,trivial⟩

-- The sidecar of a name without an extension is the sidecar of that name with ".bin".
theorem backups_share_sidecar :
    ([backupOf 1 ⟨"/var/backups/","nightly.bin"⟩,backupOf 2 ⟨"/var/backups/","nightly"⟩].map BackupCall.out).Nodup ∧
    ¬SetIntegrity benchSum sourceOnly
      [backupOf 1 ⟨"/var/backups/","nightly.bin"⟩,backupOf 2 ⟨"/var/backups/","nightly"⟩] := by
  constructor
  · decide
  · intro integrity
    have verified : ∀ snapshot ∈ ((sourceOnly.call benchSum (backupOf 1 ⟨"/var/backups/","nightly.bin"⟩)).call benchSum
        (backupOf 2 ⟨"/var/backups/","nightly"⟩)).snapshots,
        ((verifyRestoreBackupHashSidecarIfPresent benchSum snapshot.1 (backupHashSidecarPath snapshot.1)).drive
          (fun _ _ => ⟨none,[]⟩) ((sourceOnly.call benchSum (backupOf 1 ⟨"/var/backups/","nightly.bin"⟩)).call benchSum
            (backupOf 2 ⟨"/var/backups/","nightly"⟩)).files).1.toOption = some .verified := by
      intro snapshot member
      exact congrArg (fun answer => answer.1.toOption) (integrity.2.2.1 snapshot member).2
    revert verified
    decide +kernel

end ReactorOS
