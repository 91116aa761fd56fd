import Scaffold.Fault
import Scaffold.Files.Draft
import Scaffold.Journal
import Scaffold.Text.Blank

/-!
# The workspace of a run

All that a run reads and changes: the file system, the mask of new files, what the system draws for
drafts, the program that installs packages, and the journal.

* `Action`: a computation over a state that may fail; what was done before a failure stays done.
* `note`, `readText`, `isFile`: what the parts of a run are made of.
-/
namespace Scaffold

/-- How a command ended. -/
structure Completed where
  exitCode : Int := 0
  complaint : String := ""
  deriving Repr, DecidableEq

/-- What a command does to the file system, and how it ends; a command that cannot be started says why. -/
abbrev Runner := List String → Files.Tree → Except String Completed × Files.Tree

/-- All that a run reads and changes. -/
structure Workspace where
  files : Files.Tree := {}
  umask : Nat := 0o022
  /-- What the system draws for the drafts of a target, attempt by attempt. -/
  draws : Files.Path → Nat → Files.Letters := fun _ => Files.Letters.ofNat
  /-- The directory that relative paths start from. -/
  directory : Files.Location := []
  /-- The directory of the packaged stubs. -/
  stubs : Files.Location := []
  /-- The package installer on the search path, if there is one. -/
  installer : Option (String × Runner) := none
  /-- The commands that were run. -/
  commands : List (List String) := []
  journal : List Note := []

/-- A computation over a state that ends with a result or a fault. The state it leaves is kept in both
cases. -/
def Action (σ α : Type) : Type := σ → Except Fault α × σ

namespace Action

variable {σ τ α β : Type}

/-- Runs an action. -/
def run (x : Action σ α) (s : σ) : Except Fault α × σ := x s

instance : Monad (Action σ) where
  pure a := fun s => (.ok a, s)
  bind x f := fun s =>
    match x s with
    | (.ok a, s) => f a s
    | (.error e, s) => (.error e, s)

/-- Ends with a fault. -/
def fail (e : Fault) : Action σ α := fun s => (.error e, s)

/-- The outcome of a computation without effects. -/
def lift (x : Except Fault α) : Action σ α := fun s => (x, s)

/-- The state. -/
def get : Action σ σ := fun s => (.ok s, s)

/-- Changes the state. -/
def modify (f : σ → σ) : Action σ Unit := fun s => (.ok (), f s)

/-- The outcome of an action, a fault included, as a value. -/
def attempt (x : Action σ α) : Action σ (Except Fault α) := fun s =>
  match x s with
  | (r, s) => (.ok r, s)

/-- An action on one part of a pair. -/
def onSecond (x : Action τ α) : Action (σ × τ) α := fun s =>
  match x s.2 with
  | (r, t) => (r, (s.1, t))

/-- Runs an action for every item, in order. -/
def forEach (items : List β) (f : β → Action σ Unit) : Action σ Unit :=
  match items with
  | [] => pure ()
  | item :: rest => do
    f item
    forEach rest f

/-- The results of an action for every item, in order. -/
def collect (items : List β) (f : β → Action σ α) : Action σ (List α) :=
  match items with
  | [] => pure []
  | item :: rest => do
    let a ← f item
    let others ← collect rest f
    return a :: others

end Action

/-- States that have a journal. -/
class Journaled (σ : Type) where
  record : Note → σ → σ

instance : Journaled Workspace where
  record note w := { w with journal := w.journal ++ [note] }

instance {σ τ : Type} [Journaled τ] : Journaled (σ × τ) where
  record note s := (s.1, Journaled.record note s.2)

/-- Makes an entry in the journal. -/
def note {σ : Type} [Journaled σ] (level : Level) (source : Source) (message : String) :
    Action σ Unit :=
  Action.modify (Journaled.record ⟨level, source, message⟩)

namespace Workspace

/-- Whether there is a file at a path. -/
def isFile (p : Files.Path) : Action Workspace Bool := fun w =>
  ((w.files.isFile w.directory p).mapError Fault.file, w)

/-- Whether there is a directory at a path. -/
def isDirectory (p : Files.Path) : Action Workspace Bool := fun w =>
  ((w.files.isDirectory w.directory p).mapError Fault.file, w)

/-- The text of the file at a path: UTF-8, every line end as one line feed. -/
def textAt (files : Files.Tree) (directory : Files.Location) (p : Files.Path) :
    Except ReadFailure String :=
  match files.contentAt directory p with
  | .error failure => .error (.file failure)
  | .ok bytes =>
    match Text.Utf8.decode bytes.toList with
    | .error malformed => .error (.undecodable malformed)
    | .ok cs => .ok (.ofList (Text.normaliseNewlines cs))

/-- Reads a text file. -/
def readText (p : Files.Path) : Action Workspace (Except ReadFailure String) := fun w =>
  (.ok (textAt w.files w.directory p), w)

/-- The absolute path without `..`; a path with a null character has none. -/
def resolve (p : Files.Path) : Action Workspace Files.Path := fun w =>
  if p.hasNull then (.error (.file ⟨.nullCharacter, p.text, none⟩), w)
  else (.ok (p.resolved w.directory), w)

end Workspace

end Scaffold
