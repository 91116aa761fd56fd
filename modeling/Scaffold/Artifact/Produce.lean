import Scaffold.Artifact.Render
import Scaffold.Stub.Shelf

/-!
# Producing artifacts

* `produce`: reads the stubs that a plan needs and fills them. Nothing is written.
-/
namespace Scaffold.Render

/-- The text of a stub among those that were read. -/
def stubText (texts : List (Stub.Name × String)) : Stubs := fun name =>
  (List.lookup name texts).getD ""

/-- Reads some stubs, in order. -/
def readStubs (names : List Stub.Name) : Action (Stub.Shelf × Workspace) (List (Stub.Name × String)) :=
  Action.collect names fun name => do
    return (name, ← Stub.Shelf.load name.fileName)

/-- The directory of a user's own stubs; an empty text names none. -/
def overridesOf (settings : Settings) : Option Files.Path :=
  (settings.stubsDir.filter fun s => !s.isEmpty).map Files.Path.ofString

/-- The files of a plan. -/
def produce (settings : Settings) (plan : Plan) : Action Workspace (List Artifact) := fun w =>
  match (readStubs (stubsFor settings plan)).run ({ overrides := overridesOf settings }, w) with
  | (.error e, (_, w)) => (.error e, w)
  | (.ok texts, (_, w)) =>
    let found := artifacts (stubText texts) settings plan
    ((note .info .templates
      ("Rendered " ++ toString found.length ++ " artifacts for " ++ plan.modelName ++ ": " ++
        Text.join ", " (found.map (·.kind)) ++ ".")).run w).map (fun _ => .ok found) id

end Scaffold.Render
