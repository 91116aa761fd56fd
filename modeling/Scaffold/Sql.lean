import Scaffold.Schema.Table

/-!
# SQL fragments

The pieces of SQL that a repository is put together from. Every name is quoted, every value is bound to
a placeholder.
-/
namespace Scaffold.Sql

open Naming (quoteIdentifier)

/-- The mark that stands for a bound value. -/
def placeholder : String := "?"

/-- Columns that the database or the repository keeps up, never written from an object. -/
def managedColumns : List String := [primaryKeyColumn, "created_at", "updated_at", softDeleteColumn]

/-- The columns written from an object, in the order of their declaration. -/
def fillableColumns (columns : List String) : List String :=
  columns.filter fun column => !managedColumns.contains column

/-- The columns of an `INSERT`. -/
def insertColumns (fillable : List String) : List String := fillable.map quoteIdentifier

/-- The values of an `INSERT`. -/
def placeholders (fillable : List String) : List String := fillable.map fun _ => placeholder

/-- The assignments of an `UPDATE`. -/
def assignments (fillable : List String) : List String :=
  fillable.map fun column => quoteIdentifier column ++ " = " ++ placeholder

/-- The condition that selects one row by its key. -/
def byKey : String := quoteIdentifier primaryKeyColumn ++ " = " ++ placeholder

/-- The statement that deletes a row, or marks it as deleted. -/
def deleteStatement (table : String) (softDelete : Bool) : String :=
  if softDelete then
    "UPDATE " ++ quoteIdentifier table ++ " SET " ++ quoteIdentifier softDeleteColumn ++
      " = NOW() WHERE " ++ byKey
  else "DELETE FROM " ++ quoteIdentifier table ++ " WHERE " ++ byKey

/-- The statement that takes the mark of deletion away. -/
def restoreStatement (table : String) : String :=
  "UPDATE " ++ quoteIdentifier table ++ " SET " ++ quoteIdentifier softDeleteColumn ++
    " = NULL WHERE " ++ byKey

/-- The condition that a row is not marked as deleted. -/
def liveCondition (table : String) : String :=
  quoteIdentifier table ++ "." ++ quoteIdentifier softDeleteColumn ++ " IS NULL"

/-- The join of a parent table by its key. -/
def joinClause (table : String) (fk : ForeignKey) : String :=
  let parent := quoteIdentifier fk.parentTable
  "LEFT JOIN " ++ parent ++ " ON " ++ quoteIdentifier table ++ "." ++ quoteIdentifier fk.column ++
    " = " ++ parent ++ "." ++ quoteIdentifier primaryKeyColumn

/-- The name under which a parent column is selected. -/
def relationAlias (relationName parentColumn : String) : String := relationName ++ "_" ++ parentColumn

/-- A parent column selected under a name of its own. -/
def selectColumn (parentTable column aliasName : String) : String :=
  quoteIdentifier parentTable ++ "." ++ quoteIdentifier column ++ " as " ++ quoteIdentifier aliasName

end Scaffold.Sql
