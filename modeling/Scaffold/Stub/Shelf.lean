import Scaffold.Stub.Packaged
import Scaffold.Workspace

/-!
# Stub files

* `Shelf.locate`: the file of a stub: the user's own if there is one, else the packaged one.
* `Shelf.load`: its text; a text once read is kept.
-/
namespace Scaffold.Stub

open Files (Path)

/-- Where stubs come from, and the texts read so far. -/
structure Shelf where
  overrides : Option Path := none
  texts : List (String × String) := []

/-- The packaged file of a stub. -/
def packagedPath (w : Workspace) (stub : String) : Path := (Path.ofLocation w.stubs).join stub

/-- The user's own file of a stub, if there is one. -/
def overriding? (overrides : Option Path) (stub : String) : Action Workspace (Option Path) :=
  match overrides with
  | none => pure none
  | some directory => do
    let candidate := directory.join stub
    if ← Workspace.isFile candidate then
      return some candidate
    else
      note .debug .templates ("Stub '" ++ stub ++ "' not overridden in " ++ directory.text ++ ".")
      return none

/-- The file of a stub. -/
def locate (overrides : Option Path) (stub : String) : Action Workspace Path := do
  match ← overriding? overrides stub with
  | some path => return path
  | none =>
    let w ← Action.get
    let packaged := packagedPath w stub
    if ← Workspace.isFile packaged then
      return packaged
    else
      Action.fail (.stub ⟨stub, (overrides.getD (Path.ofLocation w.stubs)).text⟩)

/-- The text of the file of a stub. -/
def readStub (overrides : Option Path) (stub : String) : Action Workspace String := do
  let path ← locate overrides stub
  match ← Workspace.readText path with
  | .error failure => Action.fail (.read failure)
  | .ok text => do
    note .debug .templates ("Loaded stub '" ++ stub ++ "' from " ++ path.text ++ ".")
    return text

/-- The text of a stub: what was read before, or else what its file says now. -/
def Shelf.load (stub : String) : Action (Shelf × Workspace) String := fun s =>
  match List.lookup stub s.1.texts with
  | some text => (.ok text, s)
  | none =>
    match (readStub s.1.overrides stub).run s.2 with
    | (.ok text, w) => (.ok text, ({ s.1 with texts := (stub, text) :: s.1.texts }, w))
    | (.error e, w) => (.error e, (s.1, w))

end Scaffold.Stub
