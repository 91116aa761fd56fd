/-!
# The journal

Every part of a run tells what it does. Entries have a level, so that a reader can leave out the finer
ones.
-/
namespace Scaffold

/-- How important an entry is. -/
inductive Level where
  | debug
  | info
  | warning
  | error
  deriving Repr, DecidableEq

/-- The rank of a level. -/
def Level.rank : Level → Nat
  | .debug => 0
  | .info => 1
  | .warning => 2
  | .error => 3

/-- The name of a level. -/
def Level.name : Level → String
  | .debug => "DEBUG"
  | .info => "INFO"
  | .warning => "WARNING"
  | .error => "ERROR"

/-- The part of the program that an entry comes from. -/
inductive Source where
  | program
  | schema
  | plan
  | templates
  | exporter
  | dependency
  | generator
  | clock
  deriving Repr, DecidableEq

/-- The name of a source. -/
def Source.name : Source → String
  | .program => "crudgen"
  | .schema => "crudgen.parser"
  | .plan => "crudgen.inference"
  | .templates => "crudgen.templates"
  | .exporter => "crudgen.exporters"
  | .dependency => "crudgen.composer"
  | .generator => "crudgen.generator"
  | .clock => "crudgen.utils"

/-- One entry. -/
structure Note where
  level : Level
  source : Source
  message : String
  deriving Repr, DecidableEq

/-- The entries that are at least as important as a level. -/
def atLeast (level : Level) (notes : List Note) : List Note :=
  notes.filter fun note => level.rank ≤ note.level.rank

end Scaffold
