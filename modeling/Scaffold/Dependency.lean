import Scaffold.Markup.Json
import Scaffold.Report.Basic
import Scaffold.Workspace

/-!
# The package that the generated code needs

The generated database file loads its environment through a package. A run with a controller makes sure
that the project requires it, by running the package installer if it does not.

* `isRequired`: whether the project's manifest requires the package.
* `ensure`: what became of it. No outcome ends the run, except a manifest that is nested too deep.
-/
namespace Scaffold.Dependency

open Files (Path Tree)

/-- The package. -/
def package : String := "vlucas/phpdotenv"

/-- The file that lists what a project requires. -/
def manifestPath (root : Path) : Path := root.join "composer.json"

/-- Why the requirements of a project cannot be read. -/
inductive Unknown where
  | unread (failure : ReadFailure)
  | malformed (fault : Markup.Fault)

/-- The text of a failed reading. -/
def Unknown.message : Unknown → String
  | .unread failure => failure.message
  | .malformed (.malformed detail) => detail
  | .malformed (.unreadable flaw) => flaw.message

/-- The fault of a manifest that is nested too deep. Other failures to read a manifest end no run. -/
def Unknown.fault? : Unknown → Option Fault
  | .malformed (.unreadable (.tooDeep activity)) => some (.value (.tooDeep activity))
  | _ => none

/-- What a manifest requires; anything that is not a mapping requires nothing. -/
def requirementsOf : Value → Entries
  | .mapping entries =>
    match Entries.get? entries "require" with
    | some (.mapping required) => required
    | _ => []
  | _ => []

/-- What the manifest at a path requires. -/
def requirementsAt (files : Tree) (directory : Files.Location) (manifest : Path) :
    Except Unknown Entries :=
  match Workspace.textAt files directory manifest with
  | .error failure => .error (.unread failure)
  | .ok text =>
    match Markup.Json.read text.toList with
    | .error fault => .error (.malformed fault)
    | .ok value => .ok (requirementsOf value)

/-- Whether the requirements hold the package. -/
def holdsPackage (entries : Entries) : Bool := (Entries.get? entries package).isSome

/-- Whether the project below a root requires the package. A manifest that cannot be read requires
nothing, unless it is nested too deep to be looked at. -/
def isRequired (root : Path) : Action Workspace Bool := do
  let w ← Action.get
  let manifest := manifestPath root
  match requirementsAt w.files w.directory manifest with
  | .ok entries => return holdsPackage entries
  | .error unknown =>
    match unknown.fault? with
    | some fault => Action.fail fault
    | none =>
      note .warning .dependency ("Could not read " ++ manifest.text ++ ": " ++ unknown.message)
      return false

/-- The command that installs the package. -/
def installCommand (executable : String) (root : Path) : List String :=
  [executable, "require", package, "--working-dir", root.text]

/-- Runs a command and remembers that it was run. -/
def runCommand (runner : Runner) (command : List String) :
    Action Workspace (Except String Completed) := fun w =>
  match runner command w.files with
  | (r, files) => (.ok r, { w with files := files, commands := w.commands ++ [command] })

/-- What a program on the search path writes is read as text, every line end as one line feed. -/
def asText (runner : Runner) : Runner := fun command files =>
  match runner command files with
  | (.ok c, files) =>
    (.ok { c with complaint := .ofList (Text.normaliseNewlines c.complaint.toList) }, files)
  | (.error message, files) => (.error message, files)

/-- The executable and the way to run it: the given runner, or else the installer on the search path. -/
def installerOf (runner : Option Runner) (w : Workspace) : Option (String × Runner) :=
  match runner with
  | some runner => some ("composer", runner)
  | none => w.installer.map fun found => (found.1, asText found.2)

/-- Runs the installer and looks at the manifest again. The exit code does not count. -/
def install (executable : String) (runner : Runner) (root : Path) :
    Action Workspace DependencyStatus := do
  let command := installCommand executable root
  note .info .dependency ("Installing " ++ package ++ ": " ++ Text.join " " command)
  match ← runCommand runner command with
  | .error message =>
    note .error .dependency ("Failed to run composer: " ++ message)
    return .failed
  | .ok completed =>
    if completed.exitCode ≠ 0 then
      note .debug .dependency ("composer stderr: " ++ completed.complaint)
    if ← isRequired root then
      note .info .dependency (package ++ " installed.")
      return .installed
    else
      note .error .dependency ("Automatic install of " ++ package ++ " failed.")
      return .failed

/-- Makes sure that the project below a root requires the package. -/
def ensure (root : Path) (runner : Option Runner) : Action Workspace DependencyStatus := do
  if !(← Workspace.isFile (manifestPath root)) then
    note .warning .dependency
      ("composer.json not found in " ++ root.text ++ "; skipping automatic install of " ++ package ++ ".")
    return .missingManifest
  else if ← isRequired root then
    note .info .dependency (package ++ " is already required.")
    return .alreadyInstalled
  else
    let w ← Action.get
    match installerOf runner w with
    | none =>
      note .error .dependency
        ("composer executable not found on PATH; cannot install " ++ package ++ ".")
      return .failed
    | some (executable, runner) => install executable runner root

end Scaffold.Dependency
