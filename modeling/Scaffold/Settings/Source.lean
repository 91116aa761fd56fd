import Scaffold.Markup.Json
import Scaffold.Markup.Yaml.Read
import Scaffold.Settings.Basic
import Scaffold.Text.Case
import Scaffold.Workspace

/-!
# Where settings come from

Settings are put together from a configuration file, the project root and explicit overrides, of which
the later ones win.

* `findFile`: the configuration file of a project, if there is one.
* `loadFile`: the entries of a configuration file, JSON or YAML by its ending.
* `assemble`: the settings.
-/
namespace Scaffold.Settings

open Files (Path)

/-- The names of configuration files, in the order in which they are looked for. -/
def fileNames : List String := ["crudgen.yaml", "crudgen.yml", "crudgen.json"]

/-- The first of some files that is there. -/
def firstFile (root : Path) : List String → Action Workspace (Option Path)
  | [] => pure none
  | name :: rest => do
    if ← Workspace.isFile (root.join name) then return some (root.join name)
    else firstFile root rest

/-- The configuration file of a project, if there is one. -/
def findFile (root : Path) : Action Workspace (Option Path) := firstFile root fileNames

/-- The format of a file, by its ending. -/
def formatOf (p : Path) : ConfigFormat :=
  if Text.lower p.extension = ".json".toList then .json else .yaml

/-- The value of a text in a format. -/
def readFormat : ConfigFormat → List Char → Except Markup.Fault Value
  | .json, cs => Markup.Json.read cs
  | .yaml, cs => Markup.Yaml.read cs

/-- The entries of a configuration text; an empty one has none. -/
def entriesOf (format : ConfigFormat) (path : String) (text : String) : Except Fault Entries :=
  match readFormat format text.toList with
  | .error (.malformed detail) => .error (.config (.malformed format path detail))
  | .error (.unreadable flaw) => .error (.value flaw)
  | .ok .null => .ok []
  | .ok (.mapping entries) => .ok entries
  | .ok value => .error (.config (.notMapping format path value.kindName))

/-- The entries of a configuration file. -/
def loadFile (p : Path) : Action Workspace Entries := do
  if !(← Workspace.isFile p) then
    Action.fail (.config (.notFound p.text))
  match ← Workspace.readText p with
  | .error failure => Action.fail (.config (.unreadable p.text failure))
  | .ok text => Action.lift (entriesOf (formatOf p) p.text text)

/-- The entries with others put over them; a null puts nothing. -/
def override (entries others : Entries) : Entries :=
  others.foldl (fun entries other =>
    if other.2.isNull then entries else Entries.insert other.1 other.2 entries) entries

/-- The entries of the given configuration file, or else of the project's. -/
def fileEntries (root : Path) (file : Option Path) : Action Workspace Entries := do
  let source ← match file with
    | some p => pure (some p)
    | none => findFile root
  match source with
  | none => return []
  | some p => do
    let entries ← loadFile p
    note .info .generator
      ("Loaded configuration from " ++ p.text ++ " (" ++ toString entries.length ++ " keys).")
    return entries

/-- The entries from which settings are made: those of the file, the project root, the overrides. -/
def merged (root : Path) (entries overrides : Entries) : Entries :=
  override (Entries.put entries "project_root" (.text root.text)) overrides

/-- The settings for a project root, from its configuration file and explicit overrides. -/
def assemble (root : Path) (file : Option Path) (overrides : Entries) : Action Workspace Settings := do
  let entries ← fileEntries root file
  match Settings.ofValue (.mapping (merged root entries overrides)) with
  | .ok settings => return settings
  | .error rejection => Action.fail (.config (.invalid rejection))

end Scaffold.Settings
