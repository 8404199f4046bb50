import Mathlib.Data.Set.Card
import ReactorOS.Rekey
import ReactorOS.Wire.Search
import ReactorOS.Wire.Utf8
namespace ReactorOS
open Wire

-- The bytes of a file name.
abbrev OsName := List UInt8

-- A path beside the database, or one in the folder of the backups there.
inductive OsPath where
  | beside (name : OsName)
  | backup (name : OsName)
  deriving DecidableEq

inductive Node where
  | file (size : Nat)
  | other
  deriving DecidableEq

abbrev Disk := OsPath → Option Node

-- The name up to its last dot, if something stands before that.
def fileStem (name : OsName) : OsName :=
  match lastIndexOf [0x2E] name with
  | some place => if name = [0x2E,0x2E] ∨ place = 0 then name else name.take place
  | none => name

-- `Path::with_extension`, by which `key generate` names the key.
def stdWithExtension (name : OsName) (ext : String) : OsName := fileStem name ++ 0x2E :: encode ext.toList

def withSuffix (name : OsName) (suffix : String) : OsName := encode (lossy name ++ suffix.toList)

def truncateAtDot (name : List Char) : List Char :=
  match lastIndexOf ['.'] name with
  | some dot => name.take dot
  | none => name

def withExtension (name : OsName) (ext : String) : OsName := encode (truncateAtDot (lossy name) ++ '.' :: ext.toList)

-- How the run of a wipe goes: what was asked for and checked before it, the paths whose
-- metadata cannot be had, the operations that fail, and what `read_dir` lists.
structure WipeRun where
  shown : String
  yes : Bool
  daemonStopped : Except Failure String
  batchesFinished : Except Failure Unit
  unseen : OsPath → Bool
  sizeUnread : OsPath → Bool
  overwrite : OsPath → Option Failure
  remove : OsPath → Option Failure
  backupsFolder : Bool
  listing : Option (List OsName)

structure WipeReport where
  bytesOverwritten : Nat
  filesRemoved : Nat
  daemonStopPreflight : String
  scope : List String

structure Sweep where
  disk : Disk
  bytesOverwritten : Nat := 0
  filesRemoved : Nat := 0
  scope : List String := []

namespace WipeRun
variable (run : WipeRun)

def isFile (disk : Disk) (path : OsPath) : Bool :=
  !run.unseen path && match disk path with
    | some (.file _) => true
    | _ => false

def sizeOf (disk : Disk) (path : OsPath) : Nat :=
  if run.sizeUnread path then 0 else match disk path with
    | some (.file size) => size
    | _ => 0

def overwriteFileWithRandom (path : OsPath) (size passes : Nat) : Except Failure Nat :=
  match run.overwrite path with
  | some failure => .error failure
  | none => .ok (size*passes)

-- `fs::remove_file(..)`, its failure dropped by the caller.
def removed (disk : Disk) (path : OsPath) : Disk :=
  if (run.remove path).isSome then disk else Function.update disk path none

def sweepFile (state : Sweep) (target : OsPath × String) : Except Failure Sweep :=
  if run.isFile state.disk target.1 then do
    let overwritten ← run.overwriteFileWithRandom target.1 (run.sizeOf state.disk target.1) 1
    return {
      disk := run.removed state.disk target.1
      bytesOverwritten := state.bytesOverwritten+overwritten
      filesRemoved := state.filesRemoved+1
      scope := state.scope ++ [target.2] }
  else return state

def sidecarSuffixes : List String := ["-wal","-shm","-journal"]

def sidecars (db : OsName) : List (OsPath × String) :=
  sidecarSuffixes.map fun suffix => (.beside (withSuffix db suffix),"sqlite_" ++ String.ofList (suffix.toList.dropWhile (· == '-')))

def keyFile (db : OsName) : OsPath × String := (.beside (withExtension db "key"),"db_key_file")

-- The entries whose names, as far as they can be read, go on from the stem.
def snapshots (db : OsName) : List (OsPath × String) :=
  if run.backupsFolder then
    (run.listing.getD []).filterMap fun name =>
      let text := (toStr name).getD []
      if (lossy (fileStem db)).isPrefixOf text then some (.backup name,"backup_snapshot:" ++ String.ofList text) else none
  else []

def refuseIf (refused : Bool) (message : String) : Except Failure Unit := if refused then .error ⟨message,[]⟩ else .ok ()

def removeMain (db : OsName) : Except Failure Unit :=
  match run.remove (.beside db) with
  | some failure => .error (.context s!"failed to remove {run.shown}" failure)
  | none => .ok ()

def opsWipe (db : OsName) (disk : Disk) : Except Failure (WipeReport × Disk) := do
  refuseIf (run.unseen (.beside db) || (disk (.beside db)).isNone) s!"database {run.shown} does not exist"
  refuseIf (!run.yes)
    s!"refusing to wipe without --yes (this overwrites and removes the SQLite main file, WAL/SHM sidecars, the <db>.key file, and any *.backup/*.snapshot files in the backups/ subdirectory next to {run.shown})"
  let preflight ← run.daemonStopped
  run.batchesFinished
  let overwritten ← run.overwriteFileWithRandom (.beside db) (run.sizeOf disk (.beside db)) 3
  run.removeMain db
  let state : Sweep := {
    disk := Function.update disk (.beside db) none
    bytesOverwritten := overwritten
    filesRemoved := 1
    scope := ["sqlite_main_file"] }
  let state ← (sidecars db).foldlM run.sweepFile state
  let state ← run.sweepFile state (keyFile db)
  let state ← (run.snapshots db).foldlM run.sweepFile state
  return (⟨state.bytesOverwritten,state.filesRemoved,preflight,state.scope⟩,state.disk)

-- What the sweep is to leave behind: no file that the database was kept in, and a true count.
structure Wiped (db : OsName) (disk : Disk) (report : WipeReport) (after : Disk) : Prop where
  main : after (.beside db) = none
  sidecars : ∀ suffix ∈ sidecarSuffixes, ∀ size, after (.beside (db ++ encode suffix.toList)) ≠ some (.file size)
  key : ∀ size, after (.beside (stdWithExtension db "key")) ≠ some (.file size)
  snapshots : ∀ name size, fileStem db <+: name → after (.backup name) ≠ some (.file size)
  honest : report.filesRemoved = Set.ncard {path | (disk path).isSome ∧ after path = none}

-- The paths behind the main file, in the order of the sweep.
def visits (db : OsName) : List OsPath := (sidecars db ++ [keyFile db] ++ run.snapshots db).map (·.1)

-- A file that the sweep comes to, and one that it can remove.
def Reaches (db : OsName) (disk : Disk) (path : OsPath) : Prop := path ∈ run.visits db ∧ run.isFile disk path = true

structure Sweepable (db : OsName) (disk : Disk) : Prop where
  removals : ∀ path, path ≠ .beside db → run.Reaches db disk path → run.remove path = none
  sidecars : ∀ suffix ∈ sidecarSuffixes, ∀ size, disk (.beside (db ++ encode suffix.toList)) = some (.file size) →
    (toStr db).isSome ∧ run.unseen (.beside (db ++ encode suffix.toList)) = false
  key : ∀ size, disk (.beside (stdWithExtension db "key")) = some (.file size) → stdWithExtension db "key" ≠ db →
    withExtension db "key" = stdWithExtension db "key" ∧ run.unseen (.beside (stdWithExtension db "key")) = false
  snapshots : ∀ name size, disk (.backup name) = some (.file size) → fileStem db <+: name →
    run.backupsFolder ∧ name ∈ run.listing.getD [] ∧ run.unseen (.backup name) = false ∧
      lossy (fileStem db) <+: (toStr name).getD []

variable {run} {db : OsName} {disk : Disk}

theorem isFile_iff {path : OsPath} : run.isFile disk path = true ↔ run.unseen path = false ∧ ∃ size, disk path = some (.file size) := by
  unfold isFile
  rw [Bool.and_eq_true,Bool.not_eq_true']
  refine and_congr_right fun _ => ?_
  split
  · rename_i size stands
    exact iff_of_true rfl ⟨size,stands⟩
  · rename_i other
    exact iff_of_false (by simp) fun ⟨size,stands⟩ => other size stands

theorem sweepFile_cases {before after : Sweep} {target : OsPath × String} (swept : run.sweepFile before target = .ok after) :
    (run.isFile before.disk target.1 = false ∧ after = before) ∨
    (run.isFile before.disk target.1 = true ∧ after.disk = run.removed before.disk target.1 ∧
      after.filesRemoved = before.filesRemoved+1) := by
  unfold sweepFile at swept
  cases stands : run.isFile before.disk target.1 with
  | false =>
      rw [stands] at swept
      cases swept
      exact .inl ⟨rfl,rfl⟩
  | true =>
      rw [stands] at swept
      obtain ⟨_,_,done⟩ := bind_ok swept
      cases done
      exact .inr ⟨rfl,rfl,rfl⟩

-- The sweep removes the files that it comes to and that it can remove, and counts also the others.
theorem sweep_ok {targets : List (OsPath × String)} {before after : Sweep} (swept : targets.foldlM run.sweepFile before = .ok after) :
    ∃ gone : List OsPath, gone.Nodup ∧
      (∀ path, path ∈ gone ↔ path ∈ targets.map (·.1) ∧ run.isFile before.disk path = true ∧ run.remove path = none) ∧
      (∀ path, after.disk path = if path ∈ gone then none else before.disk path) ∧
      before.filesRemoved+gone.length ≤ after.filesRemoved ∧
      (after.filesRemoved = before.filesRemoved+gone.length ↔
        ∀ path ∈ targets.map (·.1), run.isFile before.disk path = true → run.remove path = none) := by
  induction targets generalizing before with
  | nil =>
      cases swept
      exact ⟨[],by simp,by simp,by simp,by simp,by simp⟩
  | cons target targets ih =>
      rw [List.foldlM_cons] at swept
      obtain ⟨middle,first,rest⟩ := bind_ok swept
      obtain ⟨gone,once,members,disk,count,exact'⟩ := ih rest
      simp only [List.map_cons,List.forall_mem_cons]
      simp only [List.mem_cons]
      rcases sweepFile_cases first with ⟨absent,rfl⟩ | ⟨stands,removed,counted⟩
      · refine ⟨gone,once,?_,disk,count,?_⟩
        · intro path
          rw [members]
          constructor
          · exact fun ⟨listed,reached⟩ => ⟨.inr listed,reached⟩
          · rintro ⟨rfl | listed,reached,granted⟩
            · rw [absent] at reached
              cases reached
            · exact ⟨listed,reached,granted⟩
        · rw [exact',absent]
          exact ⟨fun every => ⟨nofun,every⟩,(·.2)⟩
      · cases failed : run.remove target.1 with
        | some failure =>
            have same : middle.disk = before.disk := by rw [removed,WipeRun.removed,failed,Option.isSome_some,if_pos rfl]
            rw [same] at members disk exact'
            refine ⟨gone,once,?_,disk,by omega,?_⟩
            · intro path
              rw [members]
              constructor
              · exact fun ⟨listed,reached⟩ => ⟨.inr listed,reached⟩
              · rintro ⟨rfl | listed,reached,granted⟩
                · rw [failed] at granted
                  cases granted
                · exact ⟨listed,reached,granted⟩
            · refine iff_of_false (by omega) fun ⟨granted,_⟩ => ?_
              cases granted stands
        | none =>
            have changed : middle.disk = Function.update before.disk target.1 none := by
              rw [removed,WipeRun.removed,failed,Option.isSome_none,if_neg Bool.false_ne_true]
            have elsewhere : ∀ path, path ≠ target.1 → run.isFile middle.disk path = run.isFile before.disk path := by
              intro path other
              rw [isFile,isFile,changed,Function.update_of_ne other]
            have nowhere : run.isFile middle.disk target.1 = false := by
              rw [isFile,changed,Function.update_self,Bool.and_false]
            have fresh : target.1 ∉ gone := by
              intro member
              obtain ⟨_,reached,_⟩ := (members target.1).mp member
              rw [nowhere] at reached
              cases reached
            refine ⟨target.1 :: gone,List.nodup_cons.mpr ⟨fresh,once⟩,?_,?_,?_,?_⟩
            · intro path
              rw [List.mem_cons,members]
              by_cases here : path = target.1
              · subst here
                simp [stands,failed]
              · simp [here,elsewhere path here]
            · intro path
              rw [disk,changed]
              by_cases here : path = target.1
              · subst here
                simp
              · simp [here]
            · rw [List.length_cons]
              omega
            · rw [List.length_cons]
              have shift : after.filesRemoved = before.filesRemoved+(gone.length+1) ↔
                  after.filesRemoved = middle.filesRemoved+gone.length := by omega
              rw [shift,exact']
              constructor
              · refine fun every => ⟨fun _ => rfl,fun path listed reached => ?_⟩
                by_cases here : path = target.1
                · rw [here]
                  exact failed
                · exact every path listed ((elsewhere path here).trans reached)
              · rintro ⟨_,every⟩ path listed reached
                by_cases here : path = target.1
                · rw [here]
                  exact failed
                · exact every path listed ((elsewhere path here).symm.trans reached)

theorem opsWipe_ok {report : WipeReport} {after : Disk} (done : run.opsWipe db disk = .ok (report,after)) :
    (disk (.beside db)).isSome ∧ ∃ bytes state, (sidecars db ++ [keyFile db] ++ run.snapshots db).foldlM run.sweepFile
      ⟨Function.update disk (.beside db) none,bytes,1,["sqlite_main_file"]⟩ = .ok state ∧
        report.filesRemoved = state.filesRemoved ∧ after = state.disk := by
  obtain ⟨_,stands,done⟩ := bind_ok done
  obtain ⟨_,_,done⟩ := bind_ok done
  obtain ⟨preflight,_,done⟩ := bind_ok done
  obtain ⟨_,_,done⟩ := bind_ok done
  obtain ⟨overwritten,_,done⟩ := bind_ok done
  obtain ⟨_,_,done⟩ := bind_ok done
  obtain ⟨beside,first,done⟩ := bind_ok done
  obtain ⟨keyed,second,done⟩ := bind_ok done
  obtain ⟨state,third,done⟩ := bind_ok done
  cases done
  refine ⟨?_,overwritten,state,?_,rfl,rfl⟩
  · unfold refuseIf at stands
    split at stands
    · cases stands
    · rename_i found
      simp only [Bool.or_eq_true,not_or,Option.isNone_iff_eq_none] at found
      exact Option.isSome_iff_ne_none.mpr found.2
  · rw [List.foldlM_append,List.foldlM_append,first]
    change ([keyFile db].foldlM run.sweepFile beside >>= fun state => (run.snapshots db).foldlM run.sweepFile state) = _
    rw [List.foldlM_cons,second]
    exact third

theorem visits_beside {name : OsName} : OsPath.beside name ∈ run.visits db ↔
    (∃ suffix ∈ sidecarSuffixes, withSuffix db suffix = name) ∨ withExtension db "key" = name := by
  simp only [visits,sidecars,keyFile,snapshots,List.map_append,List.map_map,List.mem_append,List.mem_map,List.mem_singleton,
    Function.comp_apply,List.map_cons,List.map_nil,OsPath.beside.injEq]
  constructor
  · rintro ((sidecar | key) | ⟨target,listed,here⟩)
    · exact .inl sidecar
    · exact .inr key.symm
    · split at listed
      · obtain ⟨_,_,found⟩ := List.mem_filterMap.mp listed
        split at found
        · cases found
          cases here
        · cases found
      · cases listed
  · rintro (sidecar | key)
    · exact .inl (.inl sidecar)
    · exact .inl (.inr key.symm)

theorem visits_backup {name : OsName} : OsPath.backup name ∈ run.visits db ↔
    run.backupsFolder ∧ name ∈ run.listing.getD [] ∧ lossy (fileStem db) <+: (toStr name).getD [] := by
  simp only [visits,sidecars,keyFile,snapshots,List.map_append,List.map_map,List.mem_append,List.mem_map,List.mem_singleton,
    Function.comp_apply,List.map_cons,List.map_nil]
  constructor
  · rintro ((⟨_,_,other⟩ | other) | ⟨target,listed,here⟩)
    · cases other
    · cases other
    · split at listed
      · rename_i folder
        obtain ⟨entry,member,found⟩ := List.mem_filterMap.mp listed
        split at found
        · rename_i starts
          cases found
          cases here
          exact ⟨folder,member, List.isPrefixOf_iff_prefix.mp starts⟩
        · cases found
      · cases listed
  · rintro ⟨folder,member,starts⟩
    refine .inr ⟨(.backup name,"backup_snapshot:" ++ String.ofList ((toStr name).getD [])),?_,rfl⟩
    rw [if_pos folder]
    exact List.mem_filterMap.mpr ⟨name,member,if_pos ( List.isPrefixOf_iff_prefix.mpr starts)⟩

-- A name that goes on from the database's with a suffix is a text only if the database's is.
theorem sidecar_visited {suffix : String} (known : suffix ∈ sidecarSuffixes) :
    OsPath.beside (db ++ encode suffix.toList) ∈ run.visits db ↔ (toStr db).isSome := by
  have ascii : ∀ ch ∈ suffix.toList, Ascii ch := by
    simp only [sidecarSuffixes,List.mem_cons,List.not_mem_nil,or_false] at known
    rcases known with rfl | rfl | rfl <;> exact ascii_all (by decide)
  have valid : ∀ text, encode text = db ++ encode suffix.toList → (toStr db).isSome := by
    intro text same
    obtain ⟨before,_,rfl⟩ := encode_back ascii same
    rw [toStr_encode]
    rfl
  rw [visits_beside]
  constructor
  · rintro (⟨other,_,same⟩ | same)
    · exact valid _ same
    · exact valid _ same
  · intro readable
    obtain ⟨text,read⟩ := Option.isSome_iff_exists.mp readable
    obtain rfl := toStr_some.mp read
    exact .inl ⟨suffix,known,by rw [withSuffix,lossy_encode,encode_append]⟩

theorem key_visited : OsPath.beside (stdWithExtension db "key") ∈ run.visits db ↔
    withExtension db "key" = stdWithExtension db "key" := by
  rw [visits_beside]
  constructor
  · rintro (⟨suffix,known,same⟩ | same)
    · have last := congrArg List.getLast? same
      rw [withSuffix,encode_append,stdWithExtension] at last
      simp only [sidecarSuffixes,List.mem_cons,List.not_mem_nil,or_false] at known
      rcases known with rfl | rfl | rfl
      all_goals
        rw [List.getLast?_append_of_ne_nil _ (by decide),List.getLast?_append_of_ne_nil _ (by simp)] at last
        exact absurd last (by decide)
    · exact same
  · exact .inr

-- What a run leaves that comes to its end: the count is true where no removal fails, and then
-- a file is left behind only if the sweep does not come to it.
structure Leaves (run : WipeRun) (db : OsName) (disk : Disk) (report : WipeReport) (after : Disk) : Prop where
  main : after (.beside db) = none
  honest : report.filesRemoved = Set.ncard {path | (disk path).isSome ∧ after path = none} ↔
    ∀ path, path ≠ .beside db → run.Reaches db disk path → run.remove path = none
  cleared : (∀ path, path ≠ .beside db → run.Reaches db disk path → run.remove path = none) →
    ∀ path, path ≠ .beside db → ((∀ size, after path ≠ some (.file size)) ↔
      ∀ size, disk path = some (.file size) → path ∈ run.visits db ∧ run.unseen path = false)

theorem opsWipe_leaves {report : WipeReport} {after : Disk} (done : run.opsWipe db disk = .ok (report,after)) :
    run.Leaves db disk report after := by
  obtain ⟨stands,bytes,state,swept,counted,rfl⟩ := opsWipe_ok done
  obtain ⟨gone,once,members,left,least,exact'⟩ := sweep_ok swept
  change ∀ path, path ∈ gone ↔ path ∈ run.visits db ∧ _ at members
  change _ ↔ ∀ path ∈ run.visits db, _ at exact'
  simp only at left
  have main : run.isFile (Function.update disk (.beside db) none) (.beside db) = false := by simp [isFile]
  have others : ∀ path, path ≠ .beside db → run.isFile (Function.update disk (.beside db) none) path = run.isFile disk path := by
    intro path other
    rw [isFile,isFile,Function.update_of_ne other]
  have kept : OsPath.beside db ∉ gone := by
    intro member
    rw [members,main] at member
    exact Bool.false_ne_true member.2.1
  have stays : ∀ path, path ≠ .beside db → (state.disk path = none ↔ disk path = none ∨ path ∈ gone) := by
    intro path other
    rw [left,Function.update_of_ne other]
    by_cases here : path ∈ gone <;> simp [here]
  have standing : ∀ path ∈ gone, path ≠ .beside db ∧ (disk path).isSome := by
    intro path member
    have other : path ≠ .beside db := fun same => kept (same ▸ member)
    obtain ⟨_,found,_⟩ := (members path).mp member
    rw [others path other,isFile_iff] at found
    obtain ⟨_,size,held⟩ := found
    exact ⟨other,by rw [held]; rfl⟩
  have removed : {path | (disk path).isSome ∧ state.disk path = none} = ((OsPath.beside db :: gone).toFinset : Set OsPath) := by
    ext path
    simp only [Set.mem_ofPred_eq,List.coe_toFinset,List.mem_cons]
    by_cases here : path = .beside db
    · subst here
      simp [stands,left]
    · rw [stays path here]
      constructor
      · rintro ⟨held,absent | member⟩
        · rw [absent] at held
          cases held
        · exact .inr member
      · rintro (same | member)
        · exact absurd same here
        · exact ⟨(standing path member).2,.inr member⟩
  refine ⟨by rw [left,if_neg kept,Function.update_self],?_,?_⟩
  · rw [removed,Set.ncard_coe_finset,List.toFinset_card_of_nodup (List.nodup_cons.mpr ⟨kept,once⟩),List.length_cons,counted]
    rw [show state.filesRemoved = gone.length+1 ↔ state.filesRemoved = 1+gone.length by omega,exact']
    constructor
    · intro every path other ⟨listed,found⟩
      exact every path listed ((others path other).trans found)
    · intro every path listed found
      have other : path ≠ .beside db := by
        rintro rfl
        rw [main] at found
        cases found
      exact every path other ⟨listed,(others path other).symm.trans found⟩
  · intro removals path other
    rw [left,Function.update_of_ne other]
    by_cases here : path ∈ gone
    · obtain ⟨listed,found,_⟩ := (members path).mp here
      rw [others path other,isFile_iff] at found
      exact iff_of_true (by simp [here]) fun _ _ => ⟨listed,found.1⟩
    · rw [if_neg here]
      refine forall_congr' fun size => ⟨fun absent held => absurd held absent,fun visited held => here ?_⟩
      obtain ⟨listed,seen⟩ := visited held
      have found : run.isFile disk path = true := isFile_iff.mpr ⟨seen,size,held⟩
      exact (members path).mpr ⟨listed,(others path other).trans found,removals path other ⟨listed,found⟩⟩

theorem sidecar_other {suffix : String} (known : suffix ∈ sidecarSuffixes) :
    OsPath.beside (db ++ encode suffix.toList) ≠ .beside db := by
  intro same
  have empty := List.append_right_eq_self.mp (OsPath.beside.inj same)
  simp only [sidecarSuffixes,List.mem_cons,List.not_mem_nil,or_false] at known
  rcases known with rfl | rfl | rfl
  all_goals exact absurd empty (by decide)

theorem last_dot {text : List Char} : '.' ∉ text ∨ ∃ front back, text = front ++ '.' :: back ∧ '.' ∉ back := by
  by_cases listed : '.' ∈ text
  · obtain ⟨front,back,same,first⟩ := List.eq_append_cons_of_mem (List.mem_reverse.mpr listed)
    refine .inr ⟨back.reverse,front.reverse,?_,by simpa using first⟩
    rw [← List.reverse_reverse text,same]
    simp
  · exact .inl listed

-- The two names of the key part where the only dot of the database's name is its first character.
theorem withExtension_agree {text : List Char} (whole : text ≠ ['.','.']) (ext : String) :
    withExtension (encode text) ext = stdWithExtension (encode text) ext ↔ ¬∃ rest, text = '.' :: rest ∧ '.' ∉ rest := by
  have dot : ∀ front back, encode (front ++ '.' :: back) = encode front ++ 0x2E :: encode back := by
    intro front back
    rw [encode_append,encode_cons]
    rfl
  have absent : ∀ {back : List Char}, '.' ∉ back → (0x2E : UInt8) ∉ encode back :=
    fun later member => later (mem_of_byte (by decide : Ascii '.') member)
  rw [withExtension,lossy_encode,dot,stdWithExtension]
  rcases @last_dot text with none' | ⟨front,back,rfl,last⟩
  · rw [truncateAtDot,lastIndexOf_none none',fileStem,lastIndexOf_none (absent none')]
    refine iff_of_true rfl ?_
    rintro ⟨rest,rfl,_⟩
    exact none' List.mem_cons_self
  · have place : lastIndexOf ['.'] (front ++ '.' :: back) = some front.length := lastIndexOf_last (by simpa using last)
    have place' : lastIndexOf [(0x2E : UInt8)] (encode front ++ 0x2E :: encode back) = some (encode front).length :=
      lastIndexOf_last (by rw [List.nil_append]; exact absent last)
    rw [truncateAtDot,place,fileStem,dot,place']
    simp only [List.take_left]
    cases front with
    | nil =>
        rw [encode_nil,List.length_nil,if_pos (.inr rfl)]
        refine iff_of_false (fun same => ?_) (not_not.mpr ⟨back,rfl,last⟩)
        have lengths := congrArg List.length same
        simp only [List.length_append,List.length_cons,List.length_nil] at lengths
        omega
    | cons ch front =>
        have other : ¬(encode (ch :: front) ++ 0x2E :: encode back = [0x2E,0x2E] ∨ (encode (ch :: front)).length = 0) := by
          rintro (dots | nothing)
          · rw [← dot] at dots
            exact whole (encode_injective (dots.trans (by decide : ([0x2E,0x2E] : List UInt8) = encode ['.','.'])))
          · rw [List.length_eq_zero_iff] at nothing
            exact absurd (encode_injective (nothing.trans encode_nil.symm)) (List.cons_ne_nil ch front)
        rw [if_neg other]
        refine iff_of_true rfl ?_
        rintro ⟨rest,same,absent'⟩
        obtain ⟨_,rfl⟩ := List.cons.inj same
        exact absent' (by simp)

-- The sweep is complete and honest exactly where nothing it depends on goes wrong.
theorem wipe_honest_iff (run : WipeRun) (db : OsName) (disk : Disk) {report : WipeReport} {after : Disk}
    (done : run.opsWipe db disk = .ok (report,after)) : Wiped db disk report after ↔ run.Sweepable db disk := by
  have leaves := opsWipe_leaves done
  constructor
  · intro wiped
    have removals := leaves.honest.mp wiped.honest
    refine ⟨removals,?_,?_,?_⟩
    · intro suffix known size held
      obtain ⟨listed,seen⟩ := (leaves.cleared removals _ (sidecar_other known)).mp (wiped.sidecars suffix known) size held
      exact ⟨(sidecar_visited known).mp listed,seen⟩
    · intro size held other
      have apart : OsPath.beside (stdWithExtension db "key") ≠ .beside db := fun same => other (OsPath.beside.inj same)
      obtain ⟨listed,seen⟩ := (leaves.cleared removals _ apart).mp wiped.key size held
      exact ⟨key_visited.mp listed,seen⟩
    · intro name size held starts
      obtain ⟨listed,seen⟩ := (leaves.cleared removals (.backup name) nofun).mp (fun size => wiped.snapshots name size starts) size held
      obtain ⟨folder,member,readable⟩ := visits_backup.mp listed
      exact ⟨folder,member,seen,readable⟩
  · rintro ⟨removals,beside,key,snapshots⟩
    refine ⟨?_,?_,?_,?_,leaves.honest.mpr removals⟩
    · exact leaves.main
    · intro suffix known
      refine (leaves.cleared removals _ (sidecar_other known)).mpr fun size held => ?_
      obtain ⟨readable,seen⟩ := beside suffix known size held
      exact ⟨(sidecar_visited known).mpr readable,seen⟩
    · intro size
      by_cases same : stdWithExtension db "key" = db
      · rw [same,leaves.main]
        nofun
      · have apart : OsPath.beside (stdWithExtension db "key") ≠ .beside db := fun equal => same (OsPath.beside.inj equal)
        refine (leaves.cleared removals _ apart).mpr (fun size held => ?_) size
        obtain ⟨agree,seen⟩ := key size held same
        exact ⟨key_visited.mpr agree,seen⟩
    · intro name size starts
      refine (leaves.cleared removals (.backup name) nofun).mpr (fun size held => ?_) size
      obtain ⟨folder,member,seen,readable⟩ := snapshots name size held starts
      exact ⟨visits_backup.mpr ⟨folder,member,readable⟩,seen⟩

def benchDisk : Disk
  | .beside name => if name = encode "reactor.sqlite3".toList then some (.file 4096)
      else if name = encode "reactor.sqlite3-wal".toList then some (.file 32) else none
  | .backup _ => none

-- The write-ahead log cannot be removed.
def stuckRun : WipeRun where
  shown := "reactor.sqlite3"
  yes := true
  daemonStopped := .ok "passed"
  batchesFinished := .ok ()
  unseen _ := false
  sizeUnread _ := false
  overwrite _ := none
  remove path := if path = .beside (encode "reactor.sqlite3-wal".toList) then some ⟨"Operation not permitted (os error 1)",[]⟩ else none
  backupsFolder := false
  listing := none

theorem stuckRun_ok : ∃ report after, stuckRun.opsWipe (encode "reactor.sqlite3".toList) benchDisk = .ok (report,after) ∧
    report.filesRemoved = 2 := by
  have reported : ((stuckRun.opsWipe (encode "reactor.sqlite3".toList) benchDisk).toOption.map (·.1.filesRemoved)) = some 2 := by
    decide +kernel
  cases done : stuckRun.opsWipe (encode "reactor.sqlite3".toList) benchDisk with
  | error failure =>
      rw [done] at reported
      cases reported
  | ok result =>
      rw [done] at reported
      exact ⟨result.1,result.2,rfl,Option.some.inj reported⟩

theorem wipe_stuck : ¬∀ (run : WipeRun) (db : OsName) (disk : Disk) (report : WipeReport) (after : Disk),
    run.opsWipe db disk = .ok (report,after) → Wiped db disk report after := by
  intro wiped
  obtain ⟨report,after,done,_⟩ := stuckRun_ok
  have removals := (opsWipe_leaves done).honest.mp (wiped _ _ _ report after done).honest
  have stuck := removals (.beside (encode "reactor.sqlite3-wal".toList)) (by decide) ⟨by decide +kernel,by decide +kernel⟩
  exact absurd stuck (by decide +kernel)

theorem wipe_honest_stuck : ∃ report after, stuckRun.opsWipe (encode "reactor.sqlite3".toList) benchDisk = .ok (report,after) ∧
    (Wiped (encode "reactor.sqlite3".toList) benchDisk report after ↔
      stuckRun.Sweepable (encode "reactor.sqlite3".toList) benchDisk) := by
  obtain ⟨report,after,done,_⟩ := stuckRun_ok
  exact ⟨report,after,done,wipe_honest_iff stuckRun _ benchDisk done⟩

end WipeRun
end ReactorOS
