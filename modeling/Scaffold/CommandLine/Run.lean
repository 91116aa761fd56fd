import Scaffold.CommandLine.Choices
import Scaffold.CommandLine.Help
import Scaffold.Generator.Basic
import Scaffold.Settings.Source

/-!
# Running a command line

* `run`: what a command line does, prints and answers.

The journal of a run is shown next to its output; how much of it depends on the options.
-/
namespace Scaffold

/-- The line of an entry of the journal. The clock of a run stands still. -/
def Note.line (n : Note) : String :=
  "00:00:00 │ " ++ Report.padRight 8 n.level.name ++ " │ " ++ n.source.name ++ " │ " ++ n.message

namespace CommandLine

open Files (Path)

/-- What a command line answers: its exit code, its output, what is wrong with it, and the entries of the
journal that are shown. -/
structure Outcome where
  exitCode : Nat
  output : String := ""
  complaint : String := ""
  notes : List Note := []
  deriving Repr, DecidableEq

/-- The text beside the output. -/
def Outcome.errorText (o : Outcome) : String := o.complaint ++ linesText (o.notes.map Note.line)

/-- The outcome of a command line that asks for no run. -/
def Stop.outcome : Stop → Outcome
  | .help => { exitCode := 0, output := helpText }
  | .version => { exitCode := 0, output := versionText }
  | .misuse m =>
    { exitCode := 2, complaint := usage ++ commandName ++ ": error: " ++ m.message ++ "\n" }

/-- The lowest level that is shown. -/
def Choices.level (c : Choices) : Level :=
  if c.quiet then .error
  else match c.verbosity with
    | 0 => .warning
    | 1 => .info
    | _ => .debug

/-- The directory of a path given as text; without text it is the working directory. -/
def directoryOf (given : Option String) : Action Workspace Path := do
  match given with
  | none => return .ofLocation (← Action.get).directory
  | some "" => return .ofLocation (← Action.get).directory
  | some s => Workspace.resolve (.ofString s)

/-- The configuration file that was asked for. -/
def Choices.configPath (c : Choices) : Action Workspace (Option Path) :=
  match c.config with
  | none => pure none
  | some "" => pure none
  | some s => do return some (← Workspace.resolve (.ofString s))

/-- The setting of the directory of stubs that was asked for. -/
def stubsOverride : Option Given → Action Workspace Entries
  | none => pure []
  | some .nothing => Action.fail .noPath
  | some (.text s) => do
    let path ← Workspace.resolve (.ofString s)
    return [(.text "stubs_dir", .text path.text)]

/-- The settings that were asked for; what was not asked for is left to the configuration file. -/
def Choices.overrides (c : Choices) : Action Workspace Entries := do
  let stubs ← stubsOverride c.stubs
  return (if c.controller then [(.text "with_controller", .bool true)] else []) ++
    (match c.setup with
      | some mode => [(.text "setup_mode", .text mode.name)]
      | none => []) ++
    stubs ++
    (match c.rootNamespace with
      | some (.text name) => [(.text "namespace", .text name)]
      | some .nothing => [(.text "namespace", .list [])]
      | none => []) ++
    (if c.noInstall then [(.text "install_dependencies", .bool false)] else []) ++
    (if c.dryRun then [(.text "dry_run", .bool true)] else [])

/-- What to do after a setup, depending on whether the package is installed. -/
def setupInstructions (installed : Bool) : List String :=
  ["NEXT STEPS (SETUP)",
    "1. Copy .env.example to .env and fill in your database credentials.",
    if installed then "2. " ++ Dependency.package ++ " has been installed for you."
    else "2. Install the dotenv loader: composer require " ++ Dependency.package,
    "3. Point your web server's document root at the public directory.",
    "4. For development, run from the project root: php -S localhost:8000 -t public"]

/-- What is printed about a report: its summary, and instructions after a successful setup. -/
def reportText (settings : Settings) (r : Report) : String :=
  linesText (r.summary ::
    if r.exitCode = 0 && settings.setupMode.isSome then
      "" :: (setupInstructions (r.dependency.any Generator.isThere)).map ("  " ++ ·)
    else [])

/-- Settings that do not come about because of their configuration are reported as such. -/
def isConfigFault : Fault → Bool
  | .config _ => true
  | _ => false

/-- The exit code of a run whose input cannot be used. -/
def inputError : Nat := 4

/-- Generates for a schema below a project root. -/
def generate (c : Choices) (root : Path) (schema : String) : Action Workspace (Nat × String) := do
  let config ← c.configPath
  match ← Generator.catching isConfigFault
      (do Settings.assemble root config (← c.overrides)) with
  | .error fault => do
    note .error .program fault.message
    return (inputError, "")
  | .ok settings => do
    if settings.dryRun then
      note .info .program "Dry-run mode: files will not be written to disk."
    let generator ← Generator.new settings none
    let report ← generator.generate (.ofString schema)
    return (report.exitCode, if c.quiet then "" else reportText settings report)

/-- Tells how a run ended. -/
def tellEnd (exitCode : Nat) : Action Workspace Unit :=
  if exitCode = 0 then note .info .program "Generation completed successfully."
  else note .error .program ("Generation failed with exit code " ++ toString exitCode ++ ".")

/-- A run as asked for. -/
def perform (c : Choices) (schema : String) : Action Workspace (Nat × String) := do
  let root ← directoryOf c.projectRoot
  if !(← Workspace.isDirectory root) then
    note .error .program ("Project root is not a directory: " ++ root.text)
    return (inputError, "")
  else
    note .info .program ("Schema:        " ++ schema)
    note .info .program ("Project root:  " ++ root.text)
    let (exitCode, output) ← generate c root schema
    tellEnd exitCode
    return (exitCode, output)

/-- What a command line does. A fault that no part of the run takes as its own ends it without an
outcome. -/
def run (arguments : List String) : Action Workspace Outcome := fun w =>
  match Choices.read arguments with
  | .error stop => (.ok stop.outcome, w)
  | .ok (choices, schema) =>
    match (perform choices schema).run { w with journal := [] } with
    | (.error fault, w) => (.error fault, w)
    | (.ok (exitCode, output), w) =>
      (.ok { exitCode := exitCode, output := output, notes := atLeast choices.level w.journal }, w)

end CommandLine

end Scaffold
