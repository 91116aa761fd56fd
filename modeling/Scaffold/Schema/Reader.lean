import Scaffold.Schema.Reason
import Scaffold.Schema.Scan

/-!
# Reading a table from its schema

* `tableName`, `columnBlock`, `columns`, `foreignKeys`: the parts of a schema text.
* `Table.parse`: all of them together.
* `strayLines`: the pieces of the column block that are neither columns nor known constraints.

The column block runs from the first parenthesis after the table name to the last one of the text, so
options behind the block must not hold parentheses.
-/
namespace Scaffold.Schema

open Text

/-- The name in the first table head. -/
def tableName (cs : List Char) : Except SchemaError (List Char) :=
  match firstTable? cs with
  | some (name, _) => .ok name
  | none => .error { reason := .noTableName }

/-- The text between the first opening parenthesis after the table name and the last closing one. -/
def columnBlock (cs : List Char) : Except SchemaError (List Char) :=
  match firstTable? cs with
  | none => .error { reason := .noTableName }
  | some (_, rest) =>
    match afterFirst? '(' rest with
    | none => .error { reason := .invalidColumnBlock, detail := some "no opening parenthesis" }
    | some block =>
      match beforeLast? ')' block with
      | none => .error { reason := .invalidColumnBlock, detail := some "no closing parenthesis" }
      | some inner => .ok inner

/-- The beginnings of lines that declare a constraint rather than a column. -/
def constraintHeads : List String :=
  ["PRIMARY KEY", "UNIQUE KEY", "KEY", "CONSTRAINT", "INDEX", "FOREIGN KEY"]

/-- Whether a line declares a column as far as its first words tell. -/
def isColumnLine (line : List Char) : Bool :=
  !constraintHeads.any fun head => startsWith head.toList (upper (strip line))

/-- Whether a line is a comment as a whole. -/
def isCommentLine (line : List Char) : Bool := startsWith ['-', '-'] (strip line)

/-- A piece of the block without its comment lines. -/
def withoutComments (piece : List Char) : List Char :=
  joinWith ['\n'] ((lines piece).filter fun line => !isCommentLine line)

/-- What a piece of the column block declares. -/
inductive Piece where
  | ignored
  | column (name : List Char)
  | stray (line : List Char)
  deriving Repr, DecidableEq

/-- Reads one piece of the column block. -/
def readPiece (piece : List Char) : Piece :=
  let line := strip (withoutComments piece)
  if line.isEmpty || !isColumnLine line then .ignored
  else match word? (optional '`' line) with
    | some (name, _) => .column name
    | none => .stray line

/-- The name of the column a piece declares, if it declares one. -/
def Piece.column? : Piece → Option (List Char)
  | .column name => some name
  | _ => none

/-- The line of a piece that is not understood. -/
def Piece.stray? : Piece → Option (List Char)
  | .stray line => some line
  | _ => none

/-- The pieces of the column block of a schema whose line ends are normalised first. -/
def blockPieces (cs : List Char) : Except SchemaError (List Piece) :=
  (columnBlock (normaliseNewlines cs)).map fun block => (pieces block).map readPiece

/-- The names of the columns in the order of their declaration, at least one. -/
def columns (cs : List Char) : Except SchemaError (List (List Char)) :=
  match blockPieces cs with
  | .error e => .error e
  | .ok found =>
    match found.filterMap Piece.column? with
    | [] => .error { reason := .noColumns }
    | names => .ok names

/-- The lines of the column block that are not understood. -/
def strayLines (cs : List Char) : List (List Char) :=
  match blockPieces cs with
  | .error _ => []
  | .ok found => found.filterMap Piece.stray?

/-- Every foreign key of a schema, in the order of the text. -/
def foreignKeys (cs : List Char) : List ForeignKey := foreignKeysIn cs

/-- Reads a table from a schema whose line ends are normalised. -/
def readTable (cs : List Char) (source : Option String) : Except SchemaError Table := do
  let name ← tableName cs
  let columns ← columns cs
  return {
    name := .ofList name
    columns := columns.map .ofList
    foreignKeys := foreignKeys cs
    sourceFile := source }

end Scaffold.Schema

namespace Scaffold

/-- Reads a table from the text of its schema; a failure is bound to the source. -/
def Table.parse (text : String) (source : Option String := none) : Except SchemaError Table :=
  match Schema.readTable (Text.normaliseNewlines text.toList) source with
  | .ok table => .ok table
  | .error e => .error (e.orPath source)

end Scaffold
