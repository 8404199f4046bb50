import Mathlib.Data.Char
import Mathlib.Data.List.Dedup
import Mathlib.Data.List.Lex
import ReactorOS.Wire.Shell
namespace ReactorOS.Ota
open Wire

-- `[[ condition ]] || die message`
def orDie (condition : Bool) (message : String) : Except String Unit := if condition then .ok () else .error message

theorem orDie_ok {condition : Bool} {message : String} : orDie condition message = .ok () ↔ condition = true := by
  unfold orDie
  split <;> simp_all

inductive Node where
  | file (executable : Bool) (text : String)
  | folder
  deriving DecidableEq

-- What stands below a directory, by the path from there. Of entries of one path the first one counts.
abbrev Tree := List (String × Node)

namespace Tree

def node (tree : Tree) (path : String) : Option Node := (tree.find? fun entry => entry.1 = path).map (·.2)

-- `[[ -f path ]]`
def isFile (tree : Tree) (path : String) : Bool := match tree.node path with
  | some (.file _ _) => true
  | _ => false

-- `[[ -x path ]]`, which holds of a directory too.
def isExecutable (tree : Tree) (path : String) : Bool := match tree.node path with
  | some (.file executable _) => executable
  | some .folder => true
  | none => false

def text (tree : Tree) (path : String) : Option String := match tree.node path with
  | some (.file _ text) => some text
  | _ => none

-- The part of the tree below one of its directories.
def below (tree : Tree) (folder : String) : Tree := tree.filterMap fun entry =>
  if (folder ++ "/").toList <+: entry.1.toList then some (String.ofList (entry.1.toList.drop (folder.length+1)),entry.2) else none

-- The tree as it stands in a directory of another one.
def inside (tree : Tree) (folder : String) : Tree := (folder,.folder) :: tree.map fun entry => (folder ++ "/" ++ entry.1,entry.2)

-- `find -mindepth 1 -maxdepth 1 -type d | sort`
def directories (tree : Tree) : List String :=
  let names := tree.filterMap fun entry => match split '/' entry.1 with
    | [name] => if entry.2 = .folder then some name else none
    | name :: _ => some name
    | [] => none
  names.dedup.mergeSort fun one other => decide (one.toList ≤ other.toList)

end Tree

-- A release package: its base name, its size, what `sha256sum` says of it, what `tar` lists
-- and what it unpacks. No list: `tar` fails.
structure ReleasePackage where
  name : String
  bytes : Nat
  digest : String
  members : Option (List String)
  verbose : Option (List String)
  contents : Tree

-- A name that matches `/*|../*|*/../*|..|*/..`.
def unsafeMember (member : String) : Bool :=
  "/".toList.isPrefixOf member.toList || "../".toList.isPrefixOf member.toList ||
    (indexOf "/../".toList member.toList).isSome || member == ".." || "/..".toList.isSuffixOf member.toList

-- `${member%%/*}`
def topLevel (member : String) : String := (split '/' member).headD ""

def validateMember (member : String) : Except String Unit := do
  orDie (!member.isEmpty) "release package contains an empty tar member name"
  orDie (!unsafeMember member) s!"release package contains unsafe path: {member}"
  orDie (topLevel member != "" && topLevel member != "." && topLevel member != "..")
    s!"release package contains unsafe top-level path: {member}"

def validateMemberType (member : String) : Except String Unit :=
  orDie (member.toList.head? == some '-' || member.toList.head? == some 'd')
    s!"release package contains unsupported tar member type: {member}"

def listed (list : Option (List String)) (message : String) : Except String (List String) :=
  list.elim (.error message) .ok

def validateTarPackage (package : ReleasePackage) : Except String Unit := do
  let members ← listed package.members "release package tar directory cannot be read"
  let verbose ← listed package.verbose "release package tar metadata cannot be read"
  members.forM validateMember
  let topCount := (members.map topLevel).dedup.length
  orDie (topCount == 1) s!"release package must contain exactly one top-level directory, found {topCount}"
  verbose.forM validateMemberType

-- The words of a line to awk.
def lineWords (line : String) : List String :=
  ((line.toList.splitOnP fun ch => ch == ' ' || ch == '\t').filter fun word => !word.isEmpty).map String.ofList

-- The base name that a line of a checksum file is about.
def sidecarName (word : String) : String :=
  let word := if "*".toList.isPrefixOf word.toList then word.toList.drop 1 else word.toList
  (split '/' (String.ofList word)).getLastD ""

def sidecarDigest (package sidecar : String) : Option String :=
  ((split '\n' sidecar).map lineWords).find? (fun words => 2 ≤ words.length ∧ sidecarName (words.getLastD "") = package)
    |>.map fun words => words.headD ""

def isHexDigit (ch : Char) : Bool := ch.isDigit || ('a' ≤ ch && ch ≤ 'f') || ('A' ≤ ch && ch ≤ 'F')

def lowerText (text : String) : String := String.ofList (text.toList.map Char.toLower)

def verifySha256ForPackage (package : ReleasePackage) (sidecar : Option String) : Except String Unit := do
  let sidecar ← sidecar.elim (.error "sha256 sidecar not found") .ok
  let expected ← (sidecarDigest package.name sidecar).elim
    (.error s!"sha256 sidecar does not reference package {package.name}") .ok
  orDie (expected.length == 64 && expected.toList.all isHexDigit) s!"sha256 sidecar contains invalid digest for {package.name}"
  orDie (lowerText package.digest == lowerText expected) s!"sha256 mismatch for {package.name}"

-- The room that must be left for a package.
def requiredBytes (package : ReleasePackage) : Nat := package.bytes*3+104857600

def ensureSpaceForPackage (package : ReleasePackage) (availableKb : Option Nat) : Except String Unit :=
  match availableKb with
  | none => .error "cannot determine disk space for OTA"
  | some available =>
      if available*1024 < requiredBytes package then
        .error s!"not enough disk space for OTA: available={available*1024} required={requiredBytes package}"
      else .ok ()

-- The text behind the key and its `=` in the first line that begins with them.
def metadataValue (dir : Tree) (key : String) : String :=
  match dir.text "BUILD-METADATA.properties" with
  | none => ""
  | some text => match (split '\n' text).find? fun line => (split '=' line).headD "" = key with
    | none => ""
    | some line => captured (String.ofList (line.toList.drop (((split '=' line).headD "").length+1)) ++ "\n")

def releaseFromDir (key : String) (dir : Tree) : String :=
  let value := metadataValue dir key
  if value ≠ "" then value
  else if dir.isFile "BUILD-METADATA.properties" then "unknown"
  else ""

def releaseVersionFromDir (dir : Tree) : String := releaseFromDir "REACTOR_EDGE_PACKAGE_NAME" dir

def releaseGitFromDir (dir : Tree) : String := releaseFromDir "REACTOR_EDGE_GIT_SHA" dir

def validateBuildMetadata (dir : Tree) : Except String Unit := do
  orDie (dir.isFile "BUILD-METADATA.properties") "candidate missing BUILD-METADATA.properties"
  orDie (metadataValue dir "REACTOR_EDGE_BUILD_SCHEMA" == "reactor-edge.build.v1") "candidate build metadata schema is invalid"
  orDie (metadataValue dir "REACTOR_EDGE_PACKAGE_NAME" != "") "candidate build metadata missing package name"
  orDie (metadataValue dir "REACTOR_EDGE_GIT_SHA" != "") "candidate build metadata missing git sha"
  orDie (metadataValue dir "REACTOR_EDGE_BUILT_AT_UTC" != "") "candidate build metadata missing build timestamp"

def requiredExecutables : List String :=
  ["bin/reactor-edge-daemon","bin/reactor-safety-guard","bin/xingshu","backup.sh","health-check.sh","ota-boot-check.sh",
    "ota-update.sh","ota-rollback.sh","ota-lib.sh"]

def systemdUnits : List String :=
  ["reactor-edge-ota-boot-check.service","reactor-edge.service","reactor-edge-backup.service","reactor-edge-backup.timer",
    "reactor-os-chromium.service"]

def validateSlotDir (dir : Tree) : Except String Unit := do
  requiredExecutables.forM fun path => orDie (dir.isExecutable path) s!"candidate missing executable {path}"
  systemdUnits.forM fun unit => orDie (dir.isFile ("deploy/" ++ unit)) s!"candidate missing deploy/{unit}"
  orDie (dir.isFile "frontend/dist/index.html" || dir.isFile "static/index.html") "candidate missing HMI assets"

-- The directory of the release below the one it was unpacked in: none for that one itself.
def releaseCandidateDir (extracted : Tree) : Except String (Option String) :=
  if extracted.isExecutable "bin/reactor-edge-daemon" then .ok none
  else match extracted.directories.find? fun name => (extracted.below name).isExecutable "bin/reactor-edge-daemon" with
    | some name => .ok (some name)
    | none => .error "package does not contain a ReactorOS release root"

def candidateTree (extracted : Tree) : Option String → Tree
  | none => extracted
  | some name => extracted.below name

-- Where a path leads from a directory, step by step.
def walk : List String → List String → List String
  | base,[] => base
  | base,name :: path =>
      if name = "" ∨ name = "." then walk base path
      else if name = ".." then walk base.dropLast path
      else walk (base ++ [name]) path

section Tar
variable {member : String} {base path : List String}

theorem walk_below {top : List String} (below : top <+: base) (down : ".." ∉ path) : top <+: walk base path := by
  induction path generalizing base with
  | nil => exact below
  | cons name path ih =>
      obtain ⟨here,later⟩ := not_or.mp (fun either => down (List.mem_cons.mpr either))
      unfold walk
      split
      · exact ih below later
      · rw [if_neg (Ne.symm here)]
        exact ih (below.trans (List.prefix_append _ _)) later

theorem parent_alone : split '/' ".." = [".."] := split_whole (by decide)

theorem split_cut (one other : String) : split '/' (one ++ "/" ++ other) = split '/' one ++ split '/' other :=
  split_append '/' one other

-- The five patterns find exactly the absolute paths and those with a step to the parent.
theorem unsafeMember_iff (member : String) :
    unsafeMember member = true ↔ (∃ rest, member = "/" ++ rest) ∨ ".." ∈ split '/' member := by
  have front : ∀ mark : String, mark.toList.isPrefixOf member.toList = true ↔ ∃ rest, member = mark ++ rest := by
    intro mark
    rw [List.isPrefixOf_iff_prefix]
    constructor
    · rintro ⟨rest,whole⟩
      exact ⟨String.ofList rest,String.toList_inj.mp (by simp [whole])⟩
    · rintro ⟨rest,rfl⟩
      exact ⟨rest.toList,by simp⟩
  have back : "/..".toList.isSuffixOf member.toList = true ↔ ∃ rest, member = rest ++ "/" ++ ".." := by
    rw [List.isSuffixOf_iff_suffix]
    constructor
    · rintro ⟨rest,whole⟩
      exact ⟨String.ofList rest,String.toList_inj.mp (by simp [← whole])⟩
    · rintro ⟨rest,rfl⟩
      exact ⟨rest.toList,by simp⟩
  have inner : (indexOf "/../".toList member.toList).isSome = true ↔
      ∃ before after, member = before ++ "/" ++ (".." ++ "/" ++ after) := by
    rw [Option.isSome_iff_ne_none,ne_eq,indexOf_none,not_not]
    constructor
    · rintro ⟨before,after,whole⟩
      exact ⟨String.ofList before,String.ofList after,String.toList_inj.mp (by simp [← whole])⟩
    · rintro ⟨before,after,rfl⟩
      exact ⟨before.toList,after.toList,by simp⟩
  unfold unsafeMember
  rw [Bool.or_eq_true,Bool.or_eq_true,Bool.or_eq_true,Bool.or_eq_true,front,front,inner,back,beq_iff_eq]
  constructor
  · rintro ((((absolute | ⟨rest,rfl⟩) | ⟨before,after,rfl⟩) | rfl) | ⟨rest,rfl⟩)
    · exact .inl absolute
    · have whole : split '/' ("../" ++ rest) = [".."] ++ split '/' rest := by
        rw [← parent_alone,← split_cut]
        rfl
      exact .inr (whole ▸ List.mem_append_left _ List.mem_cons_self)
    · rw [split_cut,split_cut,parent_alone]
      simp
    · rw [parent_alone]
      simp
    · rw [split_cut,parent_alone]
      simp
  · rintro (absolute | step)
    · exact .inl (.inl (.inl (.inl absolute)))
    · obtain ⟨before,after,parts⟩ := List.append_of_mem step
      have whole := join_split '/' member
      rw [parts] at whole
      cases before with
      | nil =>
          cases after with
          | nil => exact .inl (.inr (by rw [← whole]; rfl))
          | cons next after =>
              have cut := @join_append '/' [".."] (next :: after) (by simp) (by simp)
              exact .inl (.inl (.inl (.inr ⟨join '/' (next :: after),by rw [← whole]; exact cut⟩)))
      | cons first before =>
          cases after with
          | nil =>
              have cut := @join_append '/' (first :: before) [".."] (by simp) (by simp)
              exact .inr ⟨join '/' (first :: before),by rw [← whole]; exact cut⟩
          | cons next after =>
              have cut := @join_append '/' (first :: before) (".." :: next :: after) (by simp) (by simp)
              have tail := @join_append '/' [".."] (next :: after) (by simp) (by simp)
              refine .inl (.inl (.inr ⟨join '/' (first :: before),join '/' (next :: after),?_⟩))
              rw [← whole,cut]
              exact congrArg (join '/' (first :: before) ++ "/" ++ ·) tail

theorem validateMember_ok (member : String) : validateMember member = .ok () ↔
    ∃ top path, split '/' member = top :: path ∧ top ≠ "" ∧ top ≠ "." ∧ top ≠ ".." ∧ ".." ∉ path := by
  obtain ⟨top,path,parts⟩ := List.exists_cons_of_ne_nil (split_ne_nil '/' member)
  have head : topLevel member = top := by rw [topLevel,parts,List.headD_cons]
  have nonempty : top ≠ "" → member.isEmpty = false := by
    intro named
    rw [← Bool.not_eq_true,String.isEmpty_iff]
    rintro rfl
    exact named (List.cons.inj (parts.symm.trans (split_whole (by decide)))).1
  have safe : top ≠ "" → (unsafeMember member = false ↔ top ≠ ".." ∧ ".." ∉ path) := by
    intro named
    rw [← Bool.not_eq_true,unsafeMember_iff,not_or,parts,List.mem_cons,not_or]
    constructor
    · rintro ⟨_,here,down⟩
      exact ⟨Ne.symm here,down⟩
    · rintro ⟨here,down⟩
      refine ⟨?_,Ne.symm here,down⟩
      rintro ⟨rest,rfl⟩
      have cut := split_cut "" rest
      rw [String.empty_append,parts,split_whole (by decide)] at cut
      exact named (List.cons.inj cut).1
  constructor
  · intro passed
    obtain ⟨_,_,passed⟩ := bind_ok passed
    obtain ⟨_,checked,passed⟩ := bind_ok passed
    have names := orDie_ok.mp passed
    simp only [head,Bool.and_eq_true,bne_iff_ne] at names
    obtain ⟨⟨named,here⟩,parent⟩ := names
    have down := ((safe named).mp (by simpa using orDie_ok.mp checked)).2
    exact ⟨top,path,parts,named,here,parent,down⟩
  · rintro ⟨top',path',parts',named,here,parent,down⟩
    obtain ⟨rfl,rfl⟩ := List.cons.inj (parts.symm.trans parts')
    have fine := (safe named).mpr ⟨parent,down⟩
    unfold validateMember
    rw [nonempty named,fine,head]
    simp only [orDie,Bool.not_false,if_true,Bool.and_eq_true,bne_iff_ne,named,here,parent,ne_eq,not_false_eq_true,
      and_self]
    rfl

-- What may be unpacked: files and directories of one directory, none of them by a way that
-- leads up.
def Confined (package : ReleasePackage) : Prop :=
  ∃ members verbose top, package.members = some members ∧ package.verbose = some verbose ∧ members ≠ [] ∧
    top ≠ "" ∧ top ≠ "." ∧ top ≠ ".." ∧ (∀ member ∈ members, ∃ path, split '/' member = top :: path ∧ ".." ∉ path) ∧
    ∀ line ∈ verbose, line.toList.head? = some '-' ∨ line.toList.head? = some 'd'

theorem single_dedup {names : List String} : names.dedup.length = 1 ↔ ∃ name, names ≠ [] ∧ ∀ other ∈ names, other = name := by
  constructor
  · intro single
    obtain ⟨name,alone⟩ := List.length_eq_one_iff.mp single
    refine ⟨name,?_,?_⟩
    · rintro rfl
      cases alone
    · intro other member
      simpa [alone] using List.mem_dedup.mpr member
  · rintro ⟨name,nonempty,same⟩
    rw [List.eq_replicate_of_mem same,List.replicate_dedup (by simpa using nonempty)]
    rfl

theorem listed_ok {list : Option (List String)} {message : String} {names : List String} :
    listed list message = .ok names ↔ list = some names := by
  cases list with
  | none => exact ⟨nofun,nofun⟩
  | some others => exact ⟨fun same => congrArg some (Except.ok.inj same),fun same => congrArg Except.ok (Option.some.inj same)⟩

theorem validateTarPackage_ok (package : ReleasePackage) : validateTarPackage package = .ok () ↔ Confined package := by
  have kind : ∀ line, validateMemberType line = .ok () ↔ line.toList.head? = some '-' ∨ line.toList.head? = some 'd' := by
    intro line
    unfold validateMemberType
    rw [orDie_ok,Bool.or_eq_true,beq_iff_eq,beq_iff_eq]
  constructor
  · intro passed
    obtain ⟨members,names,passed⟩ := bind_ok passed
    obtain ⟨verbose,lines,passed⟩ := bind_ok passed
    obtain ⟨_,every,passed⟩ := bind_ok passed
    obtain ⟨_,single,passed⟩ := bind_ok passed
    obtain ⟨top,nonempty,same⟩ := single_dedup.mp (beq_iff_eq.mp (orDie_ok.mp single))
    have each : ∀ member ∈ members, ∃ path, split '/' member = top :: path ∧ top ≠ "" ∧ top ≠ "." ∧ top ≠ ".." ∧
        ".." ∉ path := by
      intro member inside
      obtain ⟨first,path,parts,rest⟩ := (validateMember_ok member).mp (forM_ok every member inside)
      obtain rfl : first = top := by
        rw [← same _ (List.mem_map_of_mem inside),topLevel,parts,List.headD_cons]
      exact ⟨path,parts,rest⟩
    have several : members ≠ [] := by simpa using nonempty
    obtain ⟨member,inside⟩ := List.exists_mem_of_ne_nil members several
    obtain ⟨_,_,named,here,parent,_⟩ := each member inside
    refine ⟨members,verbose,top,listed_ok.mp names,listed_ok.mp lines,several,named,here,parent,?_,?_⟩
    · intro member inside
      obtain ⟨path,parts,_,_,_,down⟩ := each member inside
      exact ⟨path,parts,down⟩
    · intro line member
      exact (kind line).mp (forM_ok passed line member)
  · rintro ⟨members,verbose,top,names,lines,nonempty,named,here,parent,each,kinds⟩
    have every : members.forM validateMember = .ok () := by
      apply forM_all
      intro member inside
      obtain ⟨path,parts,down⟩ := each member inside
      exact (validateMember_ok member).mpr ⟨top,path,parts,named,here,parent,down⟩
    have single : (members.map topLevel).dedup.length = 1 := by
      refine single_dedup.mpr ⟨top,by simpa using nonempty,?_⟩
      intro other listed
      obtain ⟨member,inside,rfl⟩ := List.mem_map.mp listed
      obtain ⟨path,parts,_⟩ := each member inside
      rw [topLevel,parts,List.headD_cons]
    unfold validateTarPackage
    rw [ok_bind (listed_ok.mpr names),ok_bind (listed_ok.mpr lines),ok_bind every,
      ok_bind (orDie_ok.mpr (beq_iff_eq.mpr single))]
    exact forM_all fun line member => (kind line).mpr (kinds line member)

-- What is unpacked of a package that has passed stays below one directory of the place it
-- is unpacked in, wherever that is.
theorem tar_package_confined (package : ReleasePackage) : (validateTarPackage package = .ok () ↔ Confined package) ∧
    (validateTarPackage package = .ok () → ∃ top, top ≠ "" ∧ top ≠ "." ∧ top ≠ ".." ∧ ∀ members, package.members = some members →
      ∀ member ∈ members, ∀ base, base ++ [top] <+: walk base (split '/' member)) := by
  refine ⟨validateTarPackage_ok package,?_⟩
  intro passed
  obtain ⟨members,verbose,top,names,_,_,named,here,parent,each,_⟩ := (validateTarPackage_ok package).mp passed
  refine ⟨top,named,here,parent,?_⟩
  intro others again member inside base
  obtain rfl := Option.some.inj (names.symm.trans again)
  obtain ⟨path,parts,down⟩ := each member inside
  rw [parts,walk,if_neg (by simp [named,here]),if_neg parent]
  exact walk_below (List.prefix_refl _) down

end Tar
end ReactorOS.Ota
