import Scaffold.Schema.Table
import Scaffold.Validation.Field

/-!
# Tables as data

Tables and foreign keys are given as mappings, checked, and shown as mappings again. A field can be set
afterwards; the value is checked like one that is given.
-/
namespace Scaffold

open Validation

/-- The name of the record of a foreign key. -/
def ForeignKey.record : String := "ForeignKeyDescriptor"

/-- Checks the data for a foreign key. -/
def ForeignKey.check : Check ForeignKey :=
  Validation.record ForeignKey.record ["column", "parent_table", "parent_column"] fun entries =>
    Checked.ok ForeignKey.mk
      |>.and (required "column" filledText entries)
      |>.and (required "parent_table" filledText entries)
      |>.and (required "parent_column" filledText entries)

/-- A foreign key as a mapping. -/
def ForeignKey.toValue (fk : ForeignKey) : Value :=
  .record [("column", .text fk.column), ("parent_table", .text fk.parentTable),
    ("parent_column", .text fk.parentColumn)]

/-- Sets one field of a foreign key. -/
def ForeignKey.set (fk : ForeignKey) (field : String) (value : Value) : Except Refusal ForeignKey :=
  match field with
  | "column" => setField record field (filledText value) fun s => { fk with column := s }
  | "parent_table" => setField record field (filledText value) fun s => { fk with parentTable := s }
  | "parent_column" => setField record field (filledText value) fun s => { fk with parentColumn := s }
  | _ => setOther record [] fk field

/-- The name of the record of a table. -/
def Table.record : String := "TableDescriptor"

/-- Checks the data for a table. -/
def Table.check : Check Table :=
  Validation.record Table.record ["name", "columns", "foreign_keys", "source_file"] fun entries =>
    Checked.ok Table.mk
      |>.and (required "name" filledText entries)
      |>.and (required "columns" (filledListOf text) entries)
      |>.and (given "foreign_keys" [] (listOf ForeignKey.check) entries)
      |>.and (given "source_file" none (optional text) entries)

/-- A table as a mapping, with what follows from its fields. -/
def Table.toValue (t : Table) : Value :=
  .record [("name", .text t.name), ("columns", .texts t.columns),
    ("foreign_keys", .list (t.foreignKeys.map ForeignKey.toValue)),
    ("source_file", .optionalText t.sourceFile), ("has_soft_delete", .bool t.softDelete),
    ("model_name", .text t.modelName)]

/-- Sets one field of a table. -/
def Table.set (t : Table) (field : String) (value : Value) : Except Refusal Table :=
  match field with
  | "name" => setField record field (filledText value) fun s => { t with name := s }
  | "columns" => setField record field (filledListOf text value) fun xs => { t with columns := xs }
  | "foreign_keys" => setField record field (listOf ForeignKey.check value) fun xs =>
      { t with foreignKeys := xs }
  | "source_file" => setField record field (optional text value) fun s => { t with sourceFile := s }
  | _ => setOther record ["has_soft_delete", "model_name"] t field

end Scaffold
