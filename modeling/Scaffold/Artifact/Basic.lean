/-!
# Artifacts

A generated file before it is written.
-/
namespace Scaffold

/-- A rendered file: its kind, its path in the project, its content, and its name for the user. -/
structure Artifact where
  kind : String
  relativePath : String
  content : String
  label : String
  deriving Repr, DecidableEq, Inhabited

end Scaffold
