import Scaffold.Artifact.Basic
import Scaffold.Decimal.Fixed
import Scaffold.Export.Manifest
import Scaffold.Workspace

/-!
# Writing artifacts

Files are written below a project root. A file that is there already is never overwritten; a file that
cannot be written does not keep the others from being written.

* `exportOne`: one artifact: created, skipped, or recorded as an error.
* `exportAll`: a list of artifacts, and the result so far.
-/
namespace Scaffold

/-- The entry that a measurement of time makes. The clock of a run stands still. -/
def timeNote (label : String) : Note :=
  ⟨.debug, .clock, "Timer [" ++ label ++ "]: " ++ Decimal.fixed 4 0 ++ " seconds"⟩

/-- An action whose time is told, whether it fails or not. -/
def timed {σ α : Type} [Journaled σ] (label : String) (x : Action σ α) : Action σ α := fun s =>
  match x s with
  | (r, s) => (r, Journaled.record (timeNote label) s)

/-- `True` or `False`. -/
def yesNo (b : Bool) : String := if b then "True" else "False"

namespace Export

open Files (Path Process Tree)

/-- Writes below a root, and remembers what it did. -/
structure Exporter where
  root : Path
  dryRun : Bool := false
  atomic : Bool := true
  created : List String := []
  skipped : List String := []
  errors : List String := []
  records : List FileRecord := []
  deriving Repr, DecidableEq

/-- The result of an export: everything since the exporter was made. -/
structure Result where
  success : Bool
  manifest : Manifest
  created : List String
  skipped : List String
  errors : List String
  deriving Repr, DecidableEq

/-- What an export works on. -/
abbrev State := Exporter × Workspace

/-- A new exporter for a root. -/
def Exporter.new (root : Path) (dryRun atomic : Bool) : Action Workspace Exporter := do
  let root ← Workspace.resolve root
  note .debug .exporter
    ("ProjectExporter initialised: root=" ++ root.text ++ ", dry_run=" ++ yesNo dryRun ++
      ", atomic=" ++ yesNo atomic ++ ".")
  return { root := root, dryRun := dryRun, atomic := atomic }

/-- The path of an artifact. -/
def Exporter.target (x : Exporter) (a : Artifact) : Path := x.root.join a.relativePath

/-- What is recorded of a written artifact. -/
def Exporter.recordOf (x : Exporter) (a : Artifact) : FileRecord where
  relativePath := a.relativePath
  absolutePath := (x.target a).text
  label := a.label
  bytes := (Text.Utf8.encode a.content).size
  lines := Text.countLines a.content
  digest := Digest.sha256 (Text.Utf8.encode a.content)

/-- The manifest of what was written so far. -/
def Exporter.manifest (x : Exporter) : Manifest where
  projectRoot := x.root.text
  dryRun := x.dryRun
  totalFiles := x.records.length
  totalBytes := x.records.foldl (fun total r => total + r.bytes) 0
  totalLines := x.records.foldl (fun total r => total + r.lines) 0
  files := x.records

/-- The result so far. -/
def Exporter.result (x : Exporter) : Result where
  success := x.errors.isEmpty
  manifest := x.manifest
  created := x.created
  skipped := x.skipped
  errors := x.errors

/-- Writes a file at a path whose directory exists. -/
def writeAt (atomic : Bool) (w : Workspace) (p : Path) (content : ByteArray) :
    Except Files.Failure Unit × Workspace :=
  if atomic then
    match Process.replace ⟨w.files, w.umask⟩ w.directory (w.draws p) p content with
    | (r, s) => (r, { w with files := s.files, umask := s.umask })
  else
    match w.files.write w.directory w.umask p content with
    | .error failure => (.error failure, w)
    | .ok t => (.ok (), { w with files := t })

/-- Writes the file of an artifact after the directories above it; directories made stay even if the file
cannot be written. -/
def writeArtifact (x : Exporter) (w : Workspace) (a : Artifact) :
    Except Files.Failure Unit × Workspace :=
  let p := x.target a
  match w.files.makeDirectories w.directory p.parent with
  | (.error failure, t) => (.error failure, { w with files := t })
  | (.ok (), t) => writeAt x.atomic { w with files := t } p (Text.Utf8.encode a.content)

/-- The error of an artifact that could not be written. -/
def writeError (a : Artifact) (failure : Files.Failure) : String :=
  "Failed to write " ++ a.relativePath ++ ": " ++ failure.problem.kindName ++ ": " ++ failure.message

/-- An entry of the exporter in the journal. -/
def tell (level : Level) (message : String) : Action State Unit := note level .exporter message

/-- Notes an artifact that is there already. -/
def skip (a : Artifact) : Action State Unit := do
  Action.modify fun s => ({ s.1 with skipped := s.1.skipped ++ [a.relativePath] }, s.2)
  tell .warning (a.label ++ " already exists at " ++ a.relativePath ++ ", skipped.")

/-- Notes an artifact that could not be written. A null character in a path ends the export. -/
def reject (a : Artifact) (failure : Files.Failure) : Action State Unit :=
  if failure.problem = .nullCharacter then Action.fail (.file failure)
  else do
    let message := writeError a failure
    Action.modify fun s => ({ s.1 with errors := s.1.errors ++ [message] }, s.2)
    tell .error message

/-- Notes an artifact that was written. -/
def accept (a : Artifact) : Action State Unit := do
  Action.modify fun s =>
    ({ s.1 with
        records := s.1.records ++ [s.1.recordOf a]
        created := s.1.created ++ [a.relativePath] }, s.2)
  tell .info (a.label ++ " created at " ++ a.relativePath ++ ".")

/-- Exports one artifact. -/
def exportOne (a : Artifact) : Action State Unit := fun s =>
  match s.2.files.exists? s.2.directory (s.1.target a) with
  | .error failure => (.error (.file failure), s)
  | .ok true => skip a s
  | .ok false =>
    if s.1.dryRun then accept a s
    else
      match writeArtifact s.1 s.2 a with
      | (.error failure, w) => reject a failure (s.1, w)
      | (.ok (), w) => accept a (s.1, w)

/-- Tells how an export ended. -/
def tellResult (r : Result) : Action State Unit :=
  if r.success then
    tell .info ("Export finished: " ++ toString r.created.length ++ " created, " ++
      toString r.skipped.length ++ " skipped in " ++ Decimal.fixed 3 0 ++ "s.")
  else
    tell .error ("Export finished with " ++ toString r.errors.length ++ " error(s) in " ++
      Decimal.fixed 3 0 ++ "s.")

/-- Exports artifacts in order; the result covers everything since the exporter was made. -/
def exportAll (artifacts : List Artifact) : Action State Result := do
  timed "export" (Action.forEach artifacts exportOne)
  let s ← Action.get
  let result := s.1.result
  tellResult result
  return result

end Export

end Scaffold
