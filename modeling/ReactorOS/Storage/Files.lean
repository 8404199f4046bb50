import Mathlib.Logic.Function.Basic
import ReactorOS.Concurrency.Crash
namespace Storage
open Concurrency Task

-- A file path: the text before the file name, its last separator included, and the name.
structure FilePath where
  folder : String
  fileName : String
deriving DecidableEq, Repr

def FilePath.withFileName (path : FilePath) (name : String) : FilePath := { path with fileName := name }

def FilePath.display (path : FilePath) : String := path.folder ++ path.fileName

-- The folder without its last separator, if it is not the root.
def FilePath.parent (path : FilePath) : String :=
  if path.folder = "/" then path.folder else String.ofList path.folder.toList.dropLast

@[simp] theorem FilePath.withFileName_fileName (path : FilePath) (name : String) :
    (path.withFileName name).fileName = name := rfl

-- The operations of a program on files, each apart from the others to its environment.
inductive FileOp (P : Type) where
  | inspect (path : P)
  | openFile (path : P)
  | read (path : P)
  | makeFolder (path : P)
  | remove (path : P)
  | create (path : P)
  | fill (path : P)
  | rename (source destination : P)
  | sync (path : P)
  | openFolder (path : P)
  | syncFolder (path : P)
deriving DecidableEq, Repr

-- What becomes of an operation: the text it fails with, and what a write that has not
-- come to its end has left in the file.
structure Fate (C : Type) where
  failure : Option String
  left : C

inductive FileError where
  | notFound
  | failed (text : String)
deriving DecidableEq, Repr

def FileError.text : FileError → String
  | .notFound => "No such file or directory (os error 2)"
  | .failed text => text

abbrev Files (P C : Type) := P → Option C

abbrev FileTask (P C ε α : Type) :=
  Task (fun (_ : FileOp P → Fate C) (_ _ : Files P C) => True) ε α

section Looks
variable {P C ε α : Type}

def operation (op : FileOp P) (run : Fate C → Files P C → Except ε α × Files P C) : FileTask P C ε α :=
  .ofSection ⟨fun e w => run (e op) w,fun _ _ => trivial⟩

-- An operation that fails without effect or does what it is there for.
def whole (op : FileOp P) (run : Fate C → Files P C → Except FileError α × Files P C) : FileTask P C FileError α :=
  operation op fun fate w => match fate.failure with
    | some text => (.error (.failed text),w)
    | none => run fate w

-- An operation that only looks.
def look (op : FileOp P) (found : Files P C → Except FileError α) : FileTask P C FileError α :=
  whole op fun _ w => (found w,w)

def standing (path : P) (w : Files P C) : Except FileError C := (w path).elim (.error .notFound) .ok

-- `path.exists()`: a failure is answered with `false`.
def pathExists (path : P) : FileTask P C ε Bool :=
  operation (.inspect path) fun fate w => (.ok (fate.failure.isNone && (w path).isSome),w)

def tryExists (path : P) : FileTask P C FileError Bool := look (.inspect path) fun w => .ok (w path).isSome

def metadata (path : P) : FileTask P C FileError C := look (.inspect path) (standing path)

def openFile (path : P) : FileTask P C FileError C := look (.openFile path) (standing path)

def readFile (path : P) : FileTask P C FileError C := look (.read path) (standing path)

def syncFile (path : P) : FileTask P C FileError C := look (.sync path) (standing path)

def makeFolder (path : P) : FileTask P C FileError Unit := look (.makeFolder path) fun _ => .ok ()

def openFolder (path : P) : FileTask P C FileError Unit := look (.openFolder path) fun _ => .ok ()

def syncFolder (path : P) : FileTask P C FileError Unit := look (.syncFolder path) fun _ => .ok ()

end Looks

section Touches
variable {P C ε ε' α β : Type} {S T : P → Prop} {w : Files P C}
variable {allows : (FileOp P → Fate C) → Prop} {I : Files P C → Prop}

-- A task that changes no path but those of `S`.
def touches (S : P → Prop) (t : FileTask P C ε α) : Prop :=
  t.each fun (moment : Moment (FileOp P → Fate C) (Files P C)) => ∀ path, ¬S path → moment.after path = moment.before path

theorem touches_mono {t : FileTask P C ε α} (wider : ∀ path, S path → T path) (kept : touches S t) : touches T t := by
  apply behaves_mono _ kept
  intro moments result each moment member path outside
  exact each moment member path fun inside => outside (wider path inside)

theorem touches_done (result : Except ε α) : touches S (.done result : FileTask P C ε α) := each_done _ result

theorem touches_operation {op : FileOp P} {run : Fate C → Files P C → Except ε α × Files P C}
    (kept : ∀ fate w path, ¬S path → (run fate w).2 path = w path) : touches S (operation op run) := by
  apply each_section
  intro e w path outside
  exact kept (e op) w path outside

theorem touches_bind {t : FileTask P C ε α} {k : α → FileTask P C ε β} (first : touches S t)
    (rest : ∀ value, touches S (k value)) : touches S (t >>= k) := each_bind first rest

theorem touches_attempt {t : FileTask P C ε α} (kept : touches S t) :
    touches S (t.attempt : FileTask P C ε' (Except ε α)) := each_attempt kept

theorem touches_mapError {t : FileTask P C ε α} (f : ε → ε') (kept : touches S t) : touches S (t.mapError f) :=
  (behaves_mapError f t _).mpr kept

theorem touches_tryCatch {t : FileTask P C ε α} {handler : ε → FileTask P C ε α} (first : touches S t)
    (rest : ∀ error, touches S (handler error)) : touches S (tryCatch t handler) := by
  apply touches_bind (touches_attempt first)
  intro result
  cases result with
  | ok value => exact touches_done _
  | error error => exact rest error

theorem touches_exists (path : P) : touches S (pathExists path : FileTask P C ε Bool) :=
  touches_operation fun _ _ _ _ => rfl

-- What a task does not touch stays as it is, wherever the task is cut.
theorem guarded_touches {t : FileTask P C ε α} (kept : touches S t) :
    t.guarded allows (fun after => ∀ path, ¬S path → after path = w path) w fun _ _ => True :=
  guarded_each (R := fun (a b : Files P C) => ∀ path, ¬S path → b path = a path) (fun _ _ _ => rfl)
    (fun _ _ _ one two path outside => (two path outside).trans (one path outside)) kept

theorem guarded_silent {t : FileTask P C ε α} (kept : touches (fun _ => False) t) :
    t.guarded allows (fun after => after = w) w fun _ _ => True := by
  apply guarded_mono _ (fun _ _ _ _ => trivial) (guarded_touches kept)
  intro after same
  exact funext fun path => same path id

theorem guarded_operation {op : FileOp P} {run : Fate C → Files P C → Except ε α × Files P C}
    {R : Except ε α → Files P C → Prop} (here : I w)
    (each : ∀ fate, I (run fate w).2 ∧ R (run fate w).1 (run fate w).2) : (operation op run).guarded allows I w R := by
  unfold operation
  rw [guarded_section]
  exact ⟨here,fun e _ => each (e op)⟩

theorem guarded_exists {path : P} {R : Except ε Bool → Files P C → Prop} (here : I w) (no : R (.ok false) w)
    (yes : (w path).isSome = true → R (.ok true) w) : (pathExists path : FileTask P C ε Bool).guarded allows I w R := by
  apply guarded_operation here
  intro fate
  cases stands : (fate.failure.isNone && (w path).isSome) with
  | false => exact ⟨here,no⟩
  | true => exact ⟨here,yes (Bool.and_eq_true _ _ ▸ stands).2⟩

-- What a task comes to and what it leaves alone.
theorem guarded_framed {t : FileTask P C ε α} {R : Except ε α → Files P C → Prop} (kept : touches S t)
    (spec : t.guarded allows (fun _ => True) w R) : t.guarded allows (fun _ => True) w fun result after =>
      R result after ∧ ∀ path, ¬S path → after path = w path :=
  guarded_mono (fun _ _ => trivial) (fun _ _ frame reached => ⟨reached.2,frame.1⟩) (guarded_and (guarded_touches kept) spec)

theorem touches_whole {op : FileOp P} {run : Fate C → Files P C → Except FileError α × Files P C}
    (kept : ∀ fate w path, ¬S path → (run fate w).2 path = w path) : touches S (whole op run) := by
  apply touches_operation
  intro fate w path outside
  cases fate.failure with
  | some text => rfl
  | none => exact kept fate w path outside

theorem touches_look (op : FileOp P) (found : Files P C → Except FileError α) : touches S (look op found) :=
  touches_whole fun _ _ _ _ => rfl

theorem guarded_whole {op : FileOp P} {run : Fate C → Files P C → Except FileError α × Files P C}
    {R : Except FileError α → Files P C → Prop} (here : I w) (failed : ∀ text, R (.error (.failed text)) w)
    (ran : ∀ fate, I (run fate w).2 ∧ R (run fate w).1 (run fate w).2) : (whole op run).guarded allows I w R := by
  apply guarded_operation here
  intro fate
  cases fate.failure with
  | some text => exact ⟨here,failed _⟩
  | none => exact ran fate

-- An operation that the environment does not let fail.
theorem guarded_granted {op : FileOp P} {run : Fate C → Files P C → Except FileError α × Files P C}
    {R : Except FileError α → Files P C → Prop} (granted : ∀ e, allows e → (e op).failure = none) (here : I w)
    (ran : ∀ fate, I (run fate w).2 ∧ R (run fate w).1 (run fate w).2) : (whole op run).guarded allows I w R := by
  unfold whole operation
  rw [guarded_section]
  constructor
  · exact here
  · intro e allowed
    simp only [granted e allowed]
    exact ran (e op)

theorem guarded_lookGranted {op : FileOp P} {found : Files P C → Except FileError α}
    {R : Except FileError α → Files P C → Prop} (granted : ∀ e, allows e → (e op).failure = none) (here : I w)
    (seen : R (found w) w) : (look op found).guarded allows I w R :=
  guarded_granted granted here fun _ => ⟨here,seen⟩

theorem guarded_look {op : FileOp P} {found : Files P C → Except FileError α} {R : Except FileError α → Files P C → Prop}
    (here : I w) (failed : ∀ error, R (.error error) w) (seen : ∀ value, found w = .ok value → R (.ok value) w) :
    (look op found).guarded allows I w R := by
  apply guarded_whole here fun text => failed _
  intro fate
  cases result : found w with
  | error error => exact ⟨here,failed error⟩
  | ok value => exact ⟨here,seen value result⟩

theorem standing_ok {path : P} {content : C} : standing path w = .ok content ↔ w path = some content := by
  unfold standing
  cases w path with
  | none => simp
  | some found => simp

-- Under answers that are not restricted every operation can succeed.
theorem can_operation {op : FileOp P} {run : Fate C → Files P C → Except ε α × Files P C}
    {R : Except ε α → Files P C → Prop} (fate : Fate C) (reached : R (run fate w).1 (run fate w).2) :
    (operation op run).can (fun _ => True) w R := ⟨fun _ => fate,trivial,reached⟩

section Can
variable [Inhabited C]

theorem can_whole {op : FileOp P} {run : Fate C → Files P C → Except FileError α × Files P C}
    {R : Except FileError α → Files P C → Prop} (reached : R (run ⟨none,default⟩ w).1 (run ⟨none,default⟩ w).2) :
    (whole op run).can (fun _ => True) w R := can_operation ⟨none,default⟩ reached

theorem can_look {op : FileOp P} {found : Files P C → Except FileError α} {R : Except FileError α → Files P C → Prop}
    (reached : R (found w) w) : (look op found).can (fun _ => True) w R := can_whole reached

theorem can_exists {path : P} {R : Except ε Bool → Files P C → Prop} (answer : Bool)
    (honest : answer = true → (w path).isSome = true) (reached : R (.ok answer) w) :
    (pathExists path : FileTask P C ε Bool).can (fun _ => True) w R := by
  cases answer with
  | false => exact can_operation ⟨some "",default⟩ reached
  | true =>
      apply can_operation ⟨none,default⟩
      simpa [honest rfl] using reached

end Can

end Touches

section Operations
variable {P C : Type} [DecidableEq P]

def removeFile (path : P) : FileTask P C FileError Unit :=
  whole (.remove path) fun _ w => match w path with
    | none => (.error .notFound,w)
    | some _ => (.ok (),Function.update w path none)

def renameFile (source destination : P) : FileTask P C FileError Unit :=
  whole (.rename source destination) fun _ w => match w source with
    | none => (.error .notFound,w)
    | some content => (.ok (),Function.update (Function.update w source none) destination (some content))

-- Writing is no single step: the file stands there first with whatever part of the
-- content has come to it, and stays so when the writing fails.
def createFile (path : P) (content : Files P C → Except FileError C) : FileTask P C FileError Unit :=
  whole (.create path) fun fate w => match content w with
    | .error error => (.error error,w)
    | .ok _ => (.ok (),Function.update w path (some fate.left))

def fillFile (path : P) (content : Files P C → Except FileError C) : FileTask P C FileError Unit :=
  operation (.fill path) fun fate w => match fate.failure,content w with
    | some text,_ => (.error (.failed text),Function.update w path (some fate.left))
    | none,.error error => (.error error,w)
    | none,.ok whole => (.ok (),Function.update w path (some whole))

def writeFile (path : P) (content : Files P C → Except FileError C) : FileTask P C FileError Unit := do
  createFile path content
  fillFile path content

def copyFile (source destination : P) : FileTask P C FileError Unit := writeFile destination (standing source)

variable {S : P → Prop} {path source destination : P} {w : Files P C}
variable {allows : (FileOp P → Fate C) → Prop} {I : Files P C → Prop}

theorem update_outside {content : Option C} {q : P} (inside : S path) (outside : ¬S q) :
    Function.update w path content q = w q := by
  apply Function.update_of_ne
  intro same
  exact outside (same ▸ inside)

theorem touches_remove (inside : S path) : touches S (removeFile path : FileTask P C FileError Unit) := by
  apply touches_whole
  intro fate w other outside
  cases w path with
  | none => rfl
  | some content => exact update_outside inside outside

theorem touches_rename (from_inside : S source) (to_inside : S destination) :
    touches S (renameFile source destination : FileTask P C FileError Unit) := by
  apply touches_whole
  intro fate w other outside
  cases w source with
  | none => rfl
  | some content => exact (update_outside to_inside outside).trans (update_outside from_inside outside)

theorem touches_create {content : Files P C → Except FileError C} (inside : S path) : touches S (createFile path content) := by
  apply touches_whole
  intro fate w q outside
  cases content w with
  | error error => rfl
  | ok whole => exact update_outside inside outside

theorem touches_fill {content : Files P C → Except FileError C} (inside : S path) : touches S (fillFile path content) := by
  apply touches_operation
  intro fate w q outside
  cases fate.failure with
  | some text => exact update_outside inside outside
  | none =>
      cases content w with
      | error error => rfl
      | ok whole => exact update_outside inside outside

theorem touches_write {content : Files P C → Except FileError C} (inside : S path) : touches S (writeFile path content) :=
  touches_bind (touches_create inside) fun _ => touches_fill inside

theorem touches_copy (inside : S destination) : touches S (copyFile source destination : FileTask P C FileError Unit) :=
  touches_write inside

theorem guarded_remove {R : Except FileError Unit → Files P C → Prop} (here : I w)
    (gone : I (Function.update w path none)) (failed : ∀ text, R (.error (.failed text)) w)
    (missing : w path = none → R (.error .notFound) w) (ok : R (.ok ()) (Function.update w path none)) :
    (removeFile path : FileTask P C FileError Unit).guarded allows I w R := by
  apply guarded_whole here failed
  intro fate
  cases found : w path with
  | none => exact ⟨here,missing found⟩
  | some content => exact ⟨gone,ok⟩

theorem guarded_rename {R : Except FileError Unit → Files P C → Prop} (here : I w) (error : ∀ err, R (.error err) w)
    (moved : ∀ content, w source = some content →
      I (Function.update (Function.update w source none) destination (some content)) ∧
        R (.ok ()) (Function.update (Function.update w source none) destination (some content))) :
    (renameFile source destination : FileTask P C FileError Unit).guarded allows I w R := by
  apply guarded_whole here fun text => error _
  intro fate
  cases found : w source with
  | none => exact ⟨here,error _⟩
  | some content => exact moved content found

-- What has been written to its end stands there.
theorem guarded_fill {content : C} {R : Except FileError Unit → Files P C → Prop} (error : ∀ err after, R (.error err) after)
    (ok : R (.ok ()) (Function.update w path (some content))) :
    (fillFile path fun _ => .ok content).guarded allows (fun _ => True) w R := by
  apply guarded_operation trivial
  intro fate
  constructor
  · trivial
  · cases fate.failure with
    | some text => exact error _ _
    | none => exact ok

-- A copy to where nothing stands: what comes to its end holds what its source holds.
theorem guarded_copy {R : Except FileError Unit → Files P C → Prop} (absent : w destination = none)
    (error : ∀ err after, R (.error err) after)
    (ok : ∀ content after, w source = some content → after destination = some content → R (.ok ()) after) :
    (copyFile source destination : FileTask P C FileError Unit).guarded allows (fun _ => True) w R := by
  apply guarded_seq (F := Ends (fun _ after => after source = w source) fun _ => True)
  · apply guarded_whole trivial fun _ => trivial
    intro fate
    constructor
    · trivial
    · cases found : standing source w with
      | error err => trivial
      | ok content =>
          have different : source ≠ destination := by
            intro same
            rw [standing_ok,same,absent] at found
            cases found
          exact Function.update_of_ne different _ _
  · intro _ after _ kept
    apply guarded_operation trivial
    intro fate
    constructor
    · trivial
    · cases fate.failure with
      | some text => exact error _ _
      | none =>
          cases found : standing source after with
          | error err => exact error _ _
          | ok content =>
              have held := standing_ok.mp found
              have before : after source = w source := kept
              rw [before] at held
              exact ok content _ held (Function.update_self _ _ _)
  · intro err after _ _
    exact error err after

section Can
variable [Inhabited C]

theorem can_remove {content : C} {R : Except FileError Unit → Files P C → Prop} (there : w path = some content)
    (reached : R (.ok ()) (Function.update w path none)) :
    (removeFile path : FileTask P C FileError Unit).can (fun _ => True) w R := by
  apply can_whole
  simpa [there] using reached

theorem can_rename {content : C} {R : Except FileError Unit → Files P C → Prop} (there : w source = some content)
    (reached : R (.ok ()) (Function.update (Function.update w source none) destination (some content))) :
    (renameFile source destination : FileTask P C FileError Unit).can (fun _ => True) w R := by
  apply can_whole
  simpa [there] using reached

theorem can_copy {content : C} {R : Except FileError Unit → Files P C → Prop} (there : w source = some content)
    (different : source ≠ destination) (reached : R (.ok ()) (Function.update w destination (some content))) :
    (copyFile source destination : FileTask P C FileError Unit).can (fun _ => True) w R := by
  have held : standing source w = .ok content := standing_ok.mpr there
  have still : standing source (Function.update w destination (some default)) = .ok content :=
    standing_ok.mpr (by rw [Function.update_of_ne different]; exact there)
  apply can_seq (F := fun _ after => after = Function.update w destination (some default))
  · apply can_whole
    rw [held]
    rfl
  · intro _ after same
    subst same
    apply can_operation ⟨none,default⟩
    simpa [still] using reached

end Can

end Operations
end Storage
