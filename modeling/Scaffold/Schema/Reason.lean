/-!
# Why a schema is not accepted

A schema failure names its reason, and where known the file and a detail.

* `SchemaError.message`: the text shown to the user.
-/
namespace Scaffold

/-- The reasons for which a schema is refused. -/
inductive SchemaReason where
  | noTableName
  | noColumns
  | invalidColumnBlock
  | fileNotFound
  | fileUnreadable
  deriving Repr, DecidableEq

/-- Every reason, in the order in which they are listed to the user. -/
def SchemaReason.all : List SchemaReason :=
  [.noTableName, .noColumns, .invalidColumnBlock, .fileNotFound, .fileUnreadable]

/-- The tag of a reason. -/
def SchemaReason.tag : SchemaReason → String
  | .noTableName => "NoTableName"
  | .noColumns => "NoColumns"
  | .invalidColumnBlock => "InvalidColumnBlock"
  | .fileNotFound => "SchemaFileNotFound"
  | .fileUnreadable => "SchemaFileUnreadable"

/-- The reason with a given tag. -/
def SchemaReason.ofTag? (tag : String) : Option SchemaReason :=
  SchemaReason.all.find? fun reason => reason.tag == tag

/-- The sentence that explains a reason. -/
def SchemaReason.sentence : SchemaReason → String
  | .noTableName => "could not find a CREATE TABLE statement with a table name"
  | .noColumns => "no columns could be parsed from the column block"
  | .invalidColumnBlock => "could not locate the parenthesised column block"
  | .fileNotFound => "schema file not found"
  | .fileUnreadable => "schema file could not be read"

/-- A refused schema: the reason, the file it concerns and a detail. -/
structure SchemaError where
  reason : SchemaReason
  path : Option String := none
  detail : Option String := none
  deriving Repr, DecidableEq

/-- The same failure, bound to a file. -/
def SchemaError.withPath (e : SchemaError) (path : String) : SchemaError :=
  { e with path := some path }

/-- The same failure, bound to a file unless it already is or none is given. -/
def SchemaError.orPath (e : SchemaError) (path : Option String) : SchemaError :=
  match e.path, path with
  | none, some p => e.withPath p
  | _, _ => e

/-- The text shown to the user. An empty path or detail is left out like an absent one. -/
def SchemaError.message (e : SchemaError) : String :=
  let detail := e.detail.getD ""
  let path := e.path.getD ""
  let sentence :=
    if detail.isEmpty then e.reason.sentence else e.reason.sentence ++ " (" ++ detail ++ ")"
  "[" ++ e.reason.tag ++ "] " ++ (if path.isEmpty then "" else path ++ ": ") ++ sentence

end Scaffold
