import Scaffold.Artifact.Produce
import Scaffold.Dependency
import Scaffold.Export.Basic
import Scaffold.Plan.Build
import Scaffold.Report.Basic
import Scaffold.Schema.Files

/-!
# The generator

A run reads a schema, plans, renders, writes, and sees to the package that the written code needs. Each
step is entered in the report; what cannot be read, planned or rendered ends the run before anything is
written.

* `Generator.generate`: the whole run.
-/
namespace Scaffold

open Files (Path)

/-- A generator: its settings, the project root they lead to, and how to run the installer. -/
structure Generator where
  settings : Settings
  root : Path
  runner : Option Runner := none

namespace Generator

/-- A new generator. -/
def new (settings : Settings) (runner : Option Runner) : Action Workspace Generator := do
  let root ← Workspace.resolve (Path.ofString settings.projectRoot)
  note .debug .generator
    ("CrudGenerator initialised: root=" ++ root.text ++ ", controller=" ++
      yesNo settings.controllerEnabled ++ ", setup=" ++
      ((settings.setupMode.map SetupMode.name).getD "None") ++ ", dry_run=" ++
      yesNo settings.dryRun ++ ".")
  return { settings := settings, root := root, runner := runner }

/-- The path of a schema; a relative one starts at the project root. -/
def schemaPath (g : Generator) (schema : Path) : Path := g.root.append schema

/-- A step entered in a report. -/
def withStep (r : Report) (name : String) (success : Bool) (detail : String) : Report :=
  { r with steps := r.steps ++ [{ name := name, success := success, detail := detail }] }

/-- A schema error entered in a report. -/
def withSchemaError (r : Report) (step : String) (e : SchemaError) : Report :=
  withStep { r with schemaErrors := r.schemaErrors ++ [e.message], reason := some e.reason } step false
    e.reason.tag

/-- How a step ended: with a value, or with a report that ends the run. -/
inductive Outcome (α : Type) where
  | value (a : α) (r : Report)
  | ended (r : Report)

/-- Enters the schema error of a step and ends the run; other faults end it without a report. -/
def schemaOutcome {α : Type} (r : Report) (step : String) (ok : α → Report) :
    Except Fault α → Action Workspace (Outcome α)
  | .ok a => pure (.value a (ok a))
  | .error (.schema e) => do
    note .error .generator e.message
    return .ended (withSchemaError r step e)
  | .error e => Action.fail e

/-- The faults that a step takes as its own; all others pass through it. -/
def catching {σ α : Type} (own : Fault → Bool) (x : Action σ α) : Action σ (Except Fault α) := fun s =>
  match x s with
  | (.ok a, s) => (.ok (.ok a), s)
  | (.error e, s) => if own e then (.ok (.error e), s) else (.error e, s)

/-- Whether a fault is a schema error. -/
def isSchemaFault : Fault → Bool
  | .schema _ => true
  | _ => false

/-- Whether a fault is a stub that is missing or a file that the system refuses. -/
def isStubFault : Fault → Bool
  | .stub _ => true
  | .read (.file failure) => failure.problem != .nullCharacter
  | _ => false

/-- Reads the schema. -/
def parseStep (path : Path) (r : Report) : Action Workspace (Outcome Table) := do
  let outcome ← timed "parse_schema" (catching isSchemaFault (Schema.load path))
  schemaOutcome r "Parse Schema" (fun table =>
    withStep { r with tableName := table.name, modelName := table.modelName } "Parse Schema" true
      (toString table.columns.length ++ " columns, " ++ toString table.foreignKeys.length ++ " FKs"))
    outcome

/-- The plan of a table whose parents stand beside its schema. -/
def planBeside (path : Path) (table : Table) : Action Workspace Plan := fun w =>
  match (Plan.build table Schema.Resolver.lookup).run ({ directory := path.parent }, w) with
  | (outcome, (_, w)) => (outcome, w)

/-- Plans. -/
def planStep (path : Path) (table : Table) (r : Report) : Action Workspace (Outcome Plan) := do
  let outcome ← timed "build_plan" (catching isSchemaFault (planBeside path table))
  schemaOutcome r "Build Plan" (fun plan =>
    withStep { r with
        plan := some plan
        warnings := r.warnings ++ plan.warnings.map (·.message) } "Build Plan" true
      (toString plan.fillableColumns.length ++ " fillable, " ++ toString plan.joinClauses.length ++
        "/" ++ toString plan.relations.length ++ " relations joined"))
    outcome

/-- Renders. -/
def renderStep (g : Generator) (plan : Plan) (r : Report) :
    Action Workspace (Outcome (List Artifact)) := do
  match ← timed "render" (catching isStubFault (Render.produce g.settings plan)) with
  | .ok artifacts =>
    return .value artifacts
      (withStep r "Render Templates" true (toString artifacts.length ++ " artifacts"))
  | .error e =>
    let message := "Template rendering failed: " ++ e.message
    note .error .generator message
    return .ended
      (withStep { r with generationErrors := r.generationErrors ++ [message] } "Render Templates" false
        e.message)

/-- Exports some artifacts by a new exporter. -/
def exportBy (root : Path) (dryRun : Bool) (artifacts : List Artifact) :
    Action Workspace Export.Result := do
  let exporter ← Export.Exporter.new root dryRun true
  fun w => match (Export.exportAll artifacts).run (exporter, w) with
    | (outcome, (_, w)) => (outcome, w)

/-- Writes. -/
def exportStep (g : Generator) (artifacts : List Artifact) (r : Report) :
    Action Workspace Report := do
  let result ← exportBy g.root g.settings.dryRun artifacts
  return withStep { r with
      created := r.created ++ result.created
      skipped := r.skipped ++ result.skipped
      exportErrors := r.exportErrors ++ result.errors
      manifest := some result.manifest } "Export Files" result.success
    (toString result.created.length ++ " created, " ++ toString result.skipped.length ++ " skipped")

/-- Whether the package is seen to. -/
def installs (g : Generator) : Bool :=
  g.settings.controllerEnabled && g.settings.installDependencies && !g.settings.dryRun

/-- The warning that a package was not installed. -/
def dependencyWarnings : DependencyStatus → List String
  | .alreadyInstalled => []
  | .installed => []
  | status =>
    [Dependency.package ++ " was not installed automatically (" ++ status.tag ++
      "); run `composer require " ++ Dependency.package ++ "`."]

/-- Whether the package is there. -/
def isThere : DependencyStatus → Bool
  | .alreadyInstalled => true
  | .installed => true
  | _ => false

/-- Sees to the package. -/
def dependencyStep (g : Generator) (r : Report) : Action Workspace Report := do
  let status ← timed "dependencies" (Dependency.ensure g.root g.runner)
  return withStep { r with
      dependency := some status
      warnings := r.warnings ++ dependencyWarnings status } "Dependencies" (isThere status) status.tag

/-- Everything after planning. -/
def finish (g : Generator) (plan : Plan) (r : Report) : Action Workspace Report := do
  match ← g.renderStep plan r with
  | .ended r => return r.finished
  | .value artifacts r => do
    let r ← g.exportStep artifacts r
    let r ← if g.installs then g.dependencyStep r else pure r
    return r.finished

/-- Runs all steps for a schema. -/
def generate (g : Generator) (schema : Path) : Action Workspace Report := do
  let path := g.schemaPath schema
  let r : Report := {
    schemaFile := path.text
    projectRoot := g.root.text
    dryRun := g.settings.dryRun }
  match ← parseStep path r with
  | .ended r => return r.finished
  | .value table r =>
    match ← planStep path table r with
    | .ended r => return r.finished
    | .value plan r => g.finish plan r

end Generator

end Scaffold
