import Scaffold.Naming

/-!
# Tables

What is known of a table from its `CREATE TABLE` statement: its name, its columns in the order of
their declaration, and the foreign keys.
-/
namespace Scaffold

/-- The column every table is identified by. -/
def primaryKeyColumn : String := "id"

/-- The column that holds the time at which a row was deleted. -/
def softDeleteColumn : String := "deleted_at"

/-- One foreign key: a column that refers to a column of a parent table. -/
structure ForeignKey where
  column : String
  parentTable : String
  parentColumn : String
  deriving Repr, DecidableEq, Inhabited

/-- A key in one line. -/
def ForeignKey.display (fk : ForeignKey) : String :=
  "<FK " ++ fk.column ++ " → " ++ fk.parentTable ++ "." ++ fk.parentColumn ++ ">"

/-- A table, and the file it was read from if any. -/
structure Table where
  name : String
  columns : List String
  foreignKeys : List ForeignKey := []
  sourceFile : Option String := none
  deriving Repr, DecidableEq, Inhabited

/-- Whether rows are marked as deleted rather than removed. -/
def hasSoftDelete (columns : List String) : Bool := columns.contains softDeleteColumn

/-- Whether rows of the table are marked as deleted rather than removed. -/
def Table.softDelete (t : Table) : Bool := hasSoftDelete t.columns

/-- The class that stands for a row of the table. -/
def Table.modelName (t : Table) : String := Naming.modelName t.name

/-- A table in one line. -/
def Table.display (t : Table) : String :=
  "<Table " ++ t.name ++ " " ++ toString t.columns.length ++ " columns, " ++
    toString t.foreignKeys.length ++ " FKs>"

end Scaffold
