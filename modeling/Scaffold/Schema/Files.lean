import Scaffold.Schema.Reader
import Scaffold.Text.Quoted
import Scaffold.Workspace

/-!
# Schema files

* `Schema.load`: the table of a schema file.
* `Resolver.lookup`: the table of a parent, from the file of its name in one directory. Answers are kept, so
  that a file is read once.
-/
namespace Scaffold.Schema

open Files (Path)

/-- The ending of schema files. -/
def fileEnding : String := ".sql"

/-- The text of a schema file, line ends normalised. -/
def fileText (path : Path) : Action Workspace String := do
  if !(← Workspace.isFile path) then
    Action.fail (.schema { reason := .fileNotFound, path := some path.text })
  match ← Workspace.readText path with
  | .error failure =>
    Action.fail (.schema {
      reason := .fileUnreadable
      path := some path.text
      detail := some (failure.kindName ++ ": " ++ failure.message) })
  | .ok text => do
    note .debug .schema
      ("Read " ++ toString text.length ++ " characters from " ++ path.text ++ ".")
    return .ofList (Text.normaliseNewlines text.toList)

/-- Reads a table and tells of it. -/
def parse {σ : Type} [Journaled σ] (text : String) (source : Option String) : Action σ Table := do
  Action.forEach (strayLines (Text.normaliseNewlines text.toList)) fun line =>
    note .debug .schema
      ("Ignoring unrecognised line in column block: " ++ Text.quoted (.ofList line))
  match Table.parse text source with
  | .error e => Action.fail (.schema e)
  | .ok table => do
    note .info .schema
      ("Parsed table '" ++ table.name ++ "': " ++ toString table.columns.length ++ " columns, " ++
        toString table.foreignKeys.length ++ " foreign keys.")
    return table

/-- The table of a schema file. -/
def load (path : Path) : Action Workspace Table := do
  let text ← fileText path
  parse text (some path.text)

/-- Finds parent tables in one directory and keeps what it found. -/
structure Resolver where
  directory : Path
  found : List (String × Option Table) := []

/-- The file of a table. -/
def Resolver.pathOf (r : Resolver) (table : String) : Path := r.directory.join (table ++ fileEnding)

/-- The table of a file as it is now, or nothing if there is no such file. -/
def lookUpNow (table : String) (path : Path) : Action Workspace (Option Table) := do
  if ← Workspace.isFile path then
    return some (← load path)
  else
    note .debug .schema ("No sibling schema for '" ++ table ++ "' at " ++ path.text ++ ".")
    return none

/-- The table of a name: what was found before, or else what the file says now. A failure is not kept. -/
def Resolver.lookup (table : String) : Action (Resolver × Workspace) (Option Table) := fun s =>
  match List.lookup table s.1.found with
  | some answer => (.ok answer, s)
  | none =>
    match (lookUpNow table (s.1.pathOf table)).run s.2 with
    | (.ok answer, w) => (.ok answer, ({ s.1 with found := (table, answer) :: s.1.found }, w))
    | (.error e, w) => (.error e, (s.1, w))

end Scaffold.Schema
