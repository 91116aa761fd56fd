import Scaffold.CommandLine.Run

/-!
# The program

The files that a run may touch are read into a file system that is a value, the command line is run on it,
and what has changed is written back.

The package installer is not started from here: a project that lacks the package is told how to get it.
-/
namespace Scaffold.Main

open Files (Location Node Path Tree)

/-- The deepest nesting of directories that is looked at. -/
def depthLimit : Nat := 32

/-- The endings of the files whose text a run may need. Of other files only their being there counts. -/
def readEndings : List String := [".sql", ".json", ".yaml", ".yml", ".stub"]

/-- Whether the text of a file may be needed. -/
def mayRead (name : String) : Bool := readEndings.any fun ending => name.endsWith ending

/-- The place of an absolute path. -/
def placeOf (path : String) : Location := (Path.ofString path).names

/-- The file at a path. -/
def fileEntry (path : String) (read : Bool) : IO (Location × Node) := do
  let bytes ← if read then IO.FS.readBinFile path else pure ByteArray.empty
  return (placeOf path, .file 0o644 bytes)

/-- An action on what a path leads to, or nothing if it leads nowhere. -/
def whereThere {α : Type} (x : IO (List α)) : IO (List α) :=
  try x catch _ => return []

/-- Everything below a directory, at most so many levels down. -/
def entriesBelow : Nat → String → IO (List (Location × Node))
  | 0, _ => return []
  | depth + 1, path => do
    let directory ← IO.FS.realPath path
    if !(← directory.isDir) then return []
    let mut found : List (Location × Node) := []
    for entry in ← directory.readDir do
      let child := entry.path.toString
      if ← entry.path.isDir then
        found := found ++ ((placeOf child, .directory) :: (← entriesBelow depth child))
      else
        found := found ++ [← fileEntry child (mayRead entry.fileName)]
    return found

/-- A directory with everything below it. -/
def directoryEntries (path : String) : IO (List (Location × Node)) := do
  let real ← IO.FS.realPath path
  if ← real.isDir then
    return (placeOf real.toString, .directory) :: (← entriesBelow depthLimit path)
  else return []

/-- A file that is read, whatever its ending. -/
def readEntries (path : String) : IO (List (Location × Node)) := do
  let real ← IO.FS.realPath path
  if ← real.isDir then return []
  else return [← fileEntry real.toString true]

/-- A place and the directories above it. -/
def directoriesTo (place : Location) : List (Location × Node) :=
  (List.range place.length).map fun n => (place.take (n + 1), .directory)

/-- The directories that a command line names, besides the one it is run in. -/
def directoriesOf (arguments : List String) : List String :=
  match CommandLine.Choices.read arguments with
  | .error _ => []
  | .ok (choices, schema) =>
    let root := Path.ofString (choices.projectRoot.getD "")
    [choices.projectRoot, choices.stubs.bind CommandLine.Given.text?].filterMap id ++
      (root.append (Path.ofString schema)).parent.text ::
      (choices.config.map fun file => (Path.ofString file).parent.text).toList

/-- The files that a command line names. -/
def filesOf (arguments : List String) : List String :=
  match CommandLine.Choices.read arguments with
  | .error _ => []
  | .ok (choices, schema) =>
    let root := Path.ofString (choices.projectRoot.getD "")
    (root.append (Path.ofString schema)).text :: choices.config.toList

/-- The packaged stubs below a place. -/
def packagedStubs (place : Location) : List (Location × Node) :=
  Stub.Name.all.map fun name =>
    (place ++ (Path.ofString name.fileName).names, .file 0o644 (Text.Utf8.encode name.packaged))

/-- The places of entries that stand for something of their own: the first entry of a place counts. -/
def withDirectories (entries : List (Location × Node)) : List (Location × Node) :=
  entries ++ entries.flatMap fun entry => directoriesTo entry.1.dropLast

/-- The workspace of a command line. -/
def load (arguments : List String) : IO Workspace := do
  let directory := placeOf (← IO.FS.realPath ".").toString
  let stubs := placeOf (← IO.appPath).toString ++ ["stubs"]
  let mut entries : List (Location × Node) := []
  for file in filesOf arguments do
    entries := entries ++ (← whereThere (readEntries file))
  for path in "." :: directoriesOf arguments do
    entries := entries ++ (← whereThere (directoryEntries path))
  return {
    files := ⟨withDirectories (entries ++ packagedStubs stubs)⟩
    directory := directory
    stubs := stubs }

/-- Writes what a run has changed. -/
def save (before after : Tree) : IO Unit := do
  for (place, node) in after.entries do
    let path := (Path.ofLocation place).text
    match before.lookup place, node with
    | none, .directory => IO.FS.createDirAll path
    | none, .file _ bytes =>
      IO.FS.createDirAll (Path.ofLocation place.dropLast).text
      IO.FS.writeBinFile path bytes
    | some _, _ => pure ()

end Scaffold.Main

/-- Runs the command line. -/
def main (arguments : List String) : IO UInt32 := do
  let before ← Scaffold.Main.load arguments
  let (outcome, after) := (Scaffold.CommandLine.run arguments).run before
  Scaffold.Main.save before.files after.files
  match outcome with
  | .ok outcome => do
    IO.print outcome.output
    IO.eprint outcome.errorText
    return outcome.exitCode.toUInt32
  | .error fault => do
    IO.eprintln fault.message
    return 1
