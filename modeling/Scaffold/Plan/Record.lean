import Scaffold.Plan.Basic
import Scaffold.Schema.Record

/-!
# Plans as data

Hydration rules, relations, warnings and plans are given as mappings, checked, and shown as mappings
again, with what follows from their fields.
-/
namespace Scaffold.Hydration

open Validation

/-- The name of the record of a mapping. -/
def Mapping.record : String := "HydrationMapping"

/-- Checks the data for a mapping. -/
def Mapping.check : Check Mapping :=
  Validation.record Mapping.record ["alias", "column", "attribute"] fun entries =>
    Checked.ok Mapping.mk
      |>.and (required "alias" filledText entries)
      |>.and (required "column" filledText entries)
      |>.and (required "attribute" filledText entries)

/-- A mapping of a column as data. -/
def Mapping.toValue (m : Mapping) : Value :=
  .record [("alias", .text m.aliasName), ("column", .text m.column), ("attribute", .text m.property)]

/-- Sets one field of a mapping. -/
def Mapping.set (m : Mapping) (field : String) (value : Value) : Except Refusal Mapping :=
  match field with
  | "alias" => setField record field (filledText value) fun s => { m with aliasName := s }
  | "column" => setField record field (filledText value) fun s => { m with column := s }
  | "attribute" => setField record field (filledText value) fun s => { m with property := s }
  | _ => setOther record [] m field

/-- The name of the record of a rule. -/
def Rule.record : String := "HydrationRule"

/-- Checks the data for a rule. -/
def Rule.check : Check Rule :=
  Validation.record Rule.record ["relation_name", "parent_model", "mappings"] fun entries =>
    Checked.ok Rule.mk
      |>.and (required "relation_name" filledText entries)
      |>.and (required "parent_model" filledText entries)
      |>.and (given "mappings" [] (listOf Mapping.check) entries)

/-- A rule as data. -/
def Rule.toValue (r : Rule) : Value :=
  .record [("relation_name", .text r.relationName), ("parent_model", .text r.parentModel),
    ("mappings", .list (r.mappings.map Mapping.toValue)), ("aliases", .texts r.aliases)]

/-- Sets one field of a rule. -/
def Rule.set (r : Rule) (field : String) (value : Value) : Except Refusal Rule :=
  match field with
  | "relation_name" => setField record field (filledText value) fun s => { r with relationName := s }
  | "parent_model" => setField record field (filledText value) fun s => { r with parentModel := s }
  | "mappings" => setField record field (listOf Mapping.check value) fun xs => { r with mappings := xs }
  | _ => setOther record ["aliases"] r field

end Scaffold.Hydration

namespace Scaffold

open Validation

/-- The name of the record of a warning. -/
def RelationWarning.record : String := "RelationWarning"

/-- Checks the data for a warning. -/
def RelationWarning.check : Check RelationWarning :=
  Validation.record RelationWarning.record ["parent_table", "column", "message"] fun entries =>
    Checked.ok RelationWarning.mk
      |>.and (required "parent_table" text entries)
      |>.and (required "column" text entries)
      |>.and (required "message" text entries)

/-- A warning as data. -/
def RelationWarning.toValue (w : RelationWarning) : Value :=
  .record [("parent_table", .text w.parentTable), ("column", .text w.column),
    ("message", .text w.message)]

/-- Sets one field of a warning. -/
def RelationWarning.set (w : RelationWarning) (field : String) (value : Value) :
    Except Refusal RelationWarning :=
  match field with
  | "parent_table" => setField record field (text value) fun s => { w with parentTable := s }
  | "column" => setField record field (text value) fun s => { w with column := s }
  | "message" => setField record field (text value) fun s => { w with message := s }
  | _ => setOther record [] w field

/-- The name of the record of a relation. -/
def Relation.record : String := "RelationPlan"

/-- Checks the data for a relation. -/
def Relation.check : Check Relation :=
  Validation.record Relation.record
    ["foreign_key", "relation_name", "parent_model", "resolved", "join_clause", "select_columns",
      "hydration"] fun entries =>
    Checked.ok Relation.mk
      |>.and (required "foreign_key" ForeignKey.check entries)
      |>.and (required "relation_name" filledText entries)
      |>.and (required "parent_model" filledText entries)
      |>.and (given "resolved" false bool entries)
      |>.and (given "join_clause" none (optional text) entries)
      |>.and (given "select_columns" [] (listOf text) entries)
      |>.and (given "hydration" none (optional Hydration.Rule.check) entries)

/-- A relation as data. -/
def Relation.toValue (r : Relation) : Value :=
  .record [("foreign_key", r.foreignKey.toValue), ("relation_name", .text r.relationName),
    ("parent_model", .text r.parentModel), ("resolved", .bool r.resolved),
    ("join_clause", .optionalText r.joinClause), ("select_columns", .texts r.selectColumns),
    ("hydration", (r.hydration.map Hydration.Rule.toValue).getD .null)]

/-- Sets one field of a relation. -/
def Relation.set (r : Relation) (field : String) (value : Value) : Except Refusal Relation :=
  match field with
  | "foreign_key" => setField record field (ForeignKey.check value) fun x => { r with foreignKey := x }
  | "relation_name" => setField record field (filledText value) fun s => { r with relationName := s }
  | "parent_model" => setField record field (filledText value) fun s => { r with parentModel := s }
  | "resolved" => setField record field (bool value) fun b => { r with resolved := b }
  | "join_clause" => setField record field (optional text value) fun s => { r with joinClause := s }
  | "select_columns" => setField record field (listOf text value) fun xs =>
      { r with selectColumns := xs }
  | "hydration" => setField record field (optional Hydration.Rule.check value) fun x =>
      { r with hydration := x }
  | _ => setOther record ["parent_table"] r field

/-- The name of the record of a plan. -/
def Plan.record : String := "GenerationPlan"

/-- Checks the data for a plan. -/
def Plan.check : Check Plan :=
  Validation.record Plan.record
    ["table_name", "model_name", "columns", "has_soft_delete", "fillable_columns",
      "insert_column_list", "placeholder_list", "update_assignment_list", "delete_statement",
      "restore_statement", "soft_delete_where_clause", "soft_delete_and_where_clause", "relations",
      "warnings"] fun entries =>
    Checked.ok Plan.mk
      |>.and (required "table_name" filledText entries)
      |>.and (required "model_name" filledText entries)
      |>.and (required "columns" (filledListOf text) entries)
      |>.and (given "has_soft_delete" false bool entries)
      |>.and (given "fillable_columns" [] (listOf text) entries)
      |>.and (given "insert_column_list" [] (listOf text) entries)
      |>.and (given "placeholder_list" [] (listOf text) entries)
      |>.and (given "update_assignment_list" [] (listOf text) entries)
      |>.and (required "delete_statement" filledText entries)
      |>.and (given "restore_statement" none (optional text) entries)
      |>.and (given "soft_delete_where_clause" "" text entries)
      |>.and (given "soft_delete_and_where_clause" "" text entries)
      |>.and (given "relations" [] (listOf Relation.check) entries)
      |>.and (given "warnings" [] (listOf RelationWarning.check) entries)

/-- A plan as data. -/
def Plan.toValue (p : Plan) : Value :=
  .record [("table_name", .text p.tableName), ("model_name", .text p.modelName),
    ("columns", .texts p.columns), ("has_soft_delete", .bool p.hasSoftDelete),
    ("fillable_columns", .texts p.fillableColumns), ("insert_column_list", .texts p.insertColumns),
    ("placeholder_list", .texts p.placeholders), ("update_assignment_list", .texts p.assignments),
    ("delete_statement", .text p.deleteStatement),
    ("restore_statement", .optionalText p.restoreStatement),
    ("soft_delete_where_clause", .text p.whereLive), ("soft_delete_and_where_clause", .text p.andLive),
    ("relations", .list (p.relations.map Relation.toValue)),
    ("warnings", .list (p.warnings.map RelationWarning.toValue)),
    ("join_clause_list", .texts p.joinClauses), ("select_column_list", .texts p.selectColumns),
    ("hydration_rules", .list (p.hydrationRules.map Hydration.Rule.toValue))]

/-- What follows from the fields of a plan and cannot be set. -/
def Plan.derivedFields : List String :=
  ["join_clause_list", "select_column_list", "hydration_rules", "resolved_relations"]

/-- Sets one field of a plan. -/
def Plan.set (p : Plan) (field : String) (value : Value) : Except Refusal Plan :=
  match field with
  | "table_name" => setField record field (filledText value) fun s => { p with tableName := s }
  | "model_name" => setField record field (filledText value) fun s => { p with modelName := s }
  | "columns" => setField record field (filledListOf text value) fun xs => { p with columns := xs }
  | "has_soft_delete" => setField record field (bool value) fun b => { p with hasSoftDelete := b }
  | "fillable_columns" => setField record field (listOf text value) fun xs =>
      { p with fillableColumns := xs }
  | "insert_column_list" => setField record field (listOf text value) fun xs =>
      { p with insertColumns := xs }
  | "placeholder_list" => setField record field (listOf text value) fun xs =>
      { p with placeholders := xs }
  | "update_assignment_list" => setField record field (listOf text value) fun xs =>
      { p with assignments := xs }
  | "delete_statement" => setField record field (filledText value) fun s =>
      { p with deleteStatement := s }
  | "restore_statement" => setField record field (optional text value) fun s =>
      { p with restoreStatement := s }
  | "soft_delete_where_clause" => setField record field (text value) fun s => { p with whereLive := s }
  | "soft_delete_and_where_clause" => setField record field (text value) fun s =>
      { p with andLive := s }
  | "relations" => setField record field (listOf Relation.check value) fun xs =>
      { p with relations := xs }
  | "warnings" => setField record field (listOf RelationWarning.check value) fun xs =>
      { p with warnings := xs }
  | _ => setOther record Plan.derivedFields p field

end Scaffold
