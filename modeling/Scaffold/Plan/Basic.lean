import Scaffold.Hydration.Rule
import Scaffold.Sql
import Scaffold.Validation.Field

/-!
# The plan of a generation

Everything the templates need to know of a table and its relations, as lists of unjoined fragments.

* `Relation`: what follows from one foreign key.
* `Plan`: what follows from a table and its relations.
* `planRelation`, `assemble`: how both are computed.
-/
namespace Scaffold

/-- What follows from one foreign key. Without the schema of its parent a relation is declared but
neither joined nor hydrated. -/
structure Relation where
  foreignKey : ForeignKey
  relationName : String
  parentModel : String
  resolved : Bool := false
  joinClause : Option String := none
  selectColumns : List String := []
  hydration : Option Hydration.Rule := none
  deriving Repr, DecidableEq, Inhabited

/-- The parent table of a relation. -/
def Relation.parentTable (r : Relation) : String := r.foreignKey.parentTable

/-- A relation in one line. -/
def Relation.display (r : Relation) : String :=
  "<Relation " ++ r.relationName ++ " → " ++ r.parentTable ++ " (" ++
    (if r.resolved then "resolved" else "unresolved") ++ ")>"

/-- A declared relation that cannot be joined. -/
structure RelationWarning where
  parentTable : String
  column : String
  message : String
  deriving Repr, DecidableEq, Inhabited

/-- What follows from a table and its relations. -/
structure Plan where
  tableName : String
  modelName : String
  columns : List String
  hasSoftDelete : Bool := false
  fillableColumns : List String := []
  insertColumns : List String := []
  placeholders : List String := []
  assignments : List String := []
  deleteStatement : String
  restoreStatement : Option String := none
  whereLive : String := ""
  andLive : String := ""
  relations : List Relation := []
  warnings : List RelationWarning := []
  deriving Repr, DecidableEq, Inhabited

end Scaffold

namespace Scaffold.Plan

open Naming (quoteIdentifier)
open Validation (Rejection Issue Place Flaw)

/-- The relations whose parent is known. -/
def resolvedRelations (p : Plan) : List Relation := p.relations.filter (·.resolved)

/-- The joins of the parents that are known. -/
def joinClauses (p : Plan) : List String :=
  p.resolvedRelations.filterMap fun r => r.joinClause.filter fun clause => !clause.isEmpty

/-- What the query selects: every column of the table, then the parents' columns. -/
def selectColumns (p : Plan) : List String :=
  (quoteIdentifier p.tableName ++ ".*") :: p.resolvedRelations.flatMap (·.selectColumns)

/-- The rules that fold the parents' columns. -/
def hydrationRules (p : Plan) : List Hydration.Rule := p.relations.filterMap (·.hydration)

/-- A plan in one line. -/
def display (p : Plan) : String :=
  "<GenerationPlan " ++ p.modelName ++ " (" ++ p.tableName ++ ") " ++
    toString p.fillableColumns.length ++ " fillable, " ++ toString p.joinClauses.length ++ "/" ++
    toString p.relations.length ++ " joined>"

/-- The fields that are empty although they must not be, reported together. -/
def requireFilled (record : String) (fields : List (String × String)) : Except Rejection Unit :=
  match fields.filter fun field => field.2.isEmpty with
  | [] => .ok ()
  | empty => .error ⟨record, empty.map fun field =>
      { flaw := .emptyText, location := [.field field.1] }⟩

/-- The mapping of one parent column. -/
def planMapping (relationName column : String) : Except Rejection Hydration.Mapping := do
  let m : Hydration.Mapping := ⟨Sql.relationAlias relationName column, column, Naming.camel column⟩
  requireFilled "HydrationMapping"
    [("alias", m.aliasName), ("column", m.column), ("attribute", m.property)]
  return m

/-- The mappings of the parent's columns, up to the first that is refused. -/
def planMappings (relationName : String) : List String → Except Rejection (List Hydration.Mapping)
  | [] => .ok []
  | column :: rest => do
    let m ← planMapping relationName column
    return m :: (← planMappings relationName rest)

/-- What follows from one foreign key of a table. Names that come out empty are refused. -/
def planRelation (table : String) (fk : ForeignKey) (parent : Option Table) :
    Except Rejection Relation := do
  let relationName := Naming.relationName fk.parentTable
  let parentModel := Naming.modelName fk.parentTable
  let names := [("relation_name", relationName), ("parent_model", parentModel)]
  match parent with
  | none =>
    requireFilled "RelationPlan" names
    return { foreignKey := fk, relationName := relationName, parentModel := parentModel }
  | some parent =>
    let mappings ← planMappings relationName parent.columns
    requireFilled "HydrationRule" names
    return {
      foreignKey := fk
      relationName := relationName
      parentModel := parentModel
      resolved := true
      joinClause := some (Sql.joinClause table fk)
      selectColumns := mappings.map fun m => Sql.selectColumn fk.parentTable m.column m.aliasName
      hydration := some ⟨relationName, parentModel, mappings⟩ }

/-- The warning for a foreign key whose parent is not known. -/
def unresolvedWarning (table : String) (fk : ForeignKey) : RelationWarning where
  parentTable := fk.parentTable
  column := fk.column
  message :=
    "Schema for relation '" ++ fk.parentTable ++ "' (via " ++ table ++ "." ++ fk.column ++
      ") not found; the relation will not be joined or hydrated."

/-- The warning that a relation gives rise to. -/
def warning? (table : String) (r : Relation) : Option RelationWarning :=
  if r.resolved then none else some (unresolvedWarning table r.foreignKey)

/-- The plan of a table whose relations are planned. -/
def assemble (table : Table) (relations : List Relation) : Except Rejection Plan := do
  let fillable := Sql.fillableColumns table.columns
  let live := Sql.liveCondition table.name
  let soft := table.softDelete
  let plan : Plan := {
    tableName := table.name
    modelName := table.modelName
    columns := table.columns
    hasSoftDelete := soft
    fillableColumns := fillable
    insertColumns := Sql.insertColumns fillable
    placeholders := Sql.placeholders fillable
    assignments := Sql.assignments fillable
    deleteStatement := Sql.deleteStatement table.name soft
    restoreStatement := if soft then some (Sql.restoreStatement table.name) else none
    whereLive := if soft then "WHERE " ++ live else ""
    andLive := if soft then "AND " ++ live else ""
    relations := relations
    warnings := relations.filterMap (warning? table.name) }
  requireFilled "GenerationPlan" [("table_name", plan.tableName), ("model_name", plan.modelName)]
  return plan

end Scaffold.Plan
