import Scaffold.Decimal.Fixed
import Scaffold.Export.Manifest
import Scaffold.Plan.Basic
import Scaffold.Schema.Reason

/-!
# The report of a run

What a run did, step by step, and how it ended.

* `Report.summary`: the report for the user.
* `Report.exitCode`: what the command line answers with.
-/
namespace Scaffold

/-- How one step of a run went. -/
structure StepRecord where
  name : String := ""
  success : Bool := true
  seconds : Float := 0
  detail : String := ""

/-- What became of the package that the generated code needs. -/
inductive DependencyStatus where
  | missingManifest
  | alreadyInstalled
  | installed
  | failed
  deriving Repr, DecidableEq

/-- Every status. -/
def DependencyStatus.all : List DependencyStatus :=
  [.missingManifest, .alreadyInstalled, .installed, .failed]

/-- The tag of a status. -/
def DependencyStatus.tag : DependencyStatus → String
  | .missingManifest => "missing_composer_json"
  | .alreadyInstalled => "already_installed"
  | .installed => "installed"
  | .failed => "failed"

/-- The report of a run. Schema errors and generation errors end a run before anything is written, export
errors concern single files, warnings never count as failure. -/
structure Report where
  success : Bool := false
  schemaFile : String := ""
  projectRoot : String := ""
  tableName : String := ""
  modelName : String := ""
  dryRun : Bool := false
  created : List String := []
  skipped : List String := []
  warnings : List String := []
  schemaErrors : List String := []
  generationErrors : List String := []
  exportErrors : List String := []
  reason : Option SchemaReason := none
  dependency : Option DependencyStatus := none
  seconds : Float := 0
  steps : List StepRecord := []
  plan : Option Plan := none
  manifest : Option Export.Manifest := none

namespace Report

/-- Every error of a run. -/
def errors (r : Report) : List String := r.schemaErrors ++ r.generationErrors ++ r.exportErrors

/-- A text padded with blanks on the right. -/
def padRight (width : Nat) (s : String) : String :=
  s ++ .ofList (List.replicate (width - s.length) ' ')

/-- A text padded with blanks on the left. -/
def padLeft (width : Nat) (s : String) : String :=
  .ofList (List.replicate (width - s.length) ' ') ++ s

/-- The line around a summary. -/
def doubleRule : String := .ofList (List.replicate 60 '=')

/-- The line between the parts of a summary. -/
def rule : String := .ofList (List.replicate 60 '─')

/-- The line of one step. -/
def stepLine (step : StepRecord) : String :=
  "    " ++ (if step.success then "✓" else "✗") ++ " " ++ padRight 22 step.name ++ " " ++
    padLeft 7 (Decimal.fixed 3 step.seconds) ++ "s  " ++ step.detail

/-- The lines on what a run was about. -/
def headLines (r : Report) : List String :=
  [doubleRule, "  crudgen — Generation Report", doubleRule,
    "  Status:        " ++ (if r.success then "✅ SUCCESS" else "❌ FAILED"),
    "  Schema:        " ++ r.schemaFile] ++
  (if r.tableName.isEmpty then []
    else ["  Table:         " ++ r.tableName ++ " → " ++ r.modelName]) ++
  (match r.plan with
    | some plan =>
      ["  Soft delete:   " ++ (if plan.hasSoftDelete then "enabled" else "disabled"),
        "  Relations:     " ++ toString plan.joinClauses.length ++ " joined / " ++
          toString plan.relations.length ++ " declared"]
    | none => []) ++
  ["  Project root:  " ++ r.projectRoot] ++
  (if r.dryRun then ["  Mode:          dry run (nothing written)"] else []) ++
  ["  Total time:    " ++ Decimal.fixed 3 r.seconds ++ "s", rule]

/-- The lines on the steps of a run. -/
def stepLines (r : Report) : List String :=
  if r.steps.isEmpty then [] else "  Pipeline Steps:" :: r.steps.map stepLine

/-- The lines of a titled list, none if it is empty. -/
def titled (title icon : String) (items : List String) : List String :=
  if items.isEmpty then []
  else [rule, "  " ++ title ++ " (" ++ toString items.length ++ "):"] ++
    items.map fun item => "    " ++ icon ++ " " ++ item

/-- The report for the user. -/
def summary (r : Report) : String :=
  Text.join "\n" (r.headLines ++ r.stepLines ++ titled "Created" "✓" r.created ++
    titled "Skipped (already exist)" "⊘" r.skipped ++ titled "Warnings" "⚠" r.warnings ++
    titled "Errors" "✗" r.errors ++ [doubleRule])

/-- The report at the end of a run, which succeeded if no error was recorded. -/
def finished (r : Report) : Report := { r with success := r.errors.isEmpty }

/-- Whether a reason concerns the schema file and not its text. -/
def isInputReason : SchemaReason → Bool
  | .fileNotFound => true
  | .fileUnreadable => true
  | _ => false

/-- What the command line answers with: 0 for success, 1 for a schema that cannot be parsed, 2 for a
failed rendering, 3 for files that could not be written, 4 for a schema file that cannot be read. -/
def exitCode (r : Report) : Nat :=
  if r.success then 0
  else if !r.schemaErrors.isEmpty then
    if r.reason.any isInputReason then 4 else 1
  else if !r.generationErrors.isEmpty then 2
  else if !r.exportErrors.isEmpty then 3
  else 2

end Report

end Scaffold
