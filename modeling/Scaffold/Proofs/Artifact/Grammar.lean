import Scaffold.Proofs.Artifact.Writing

/-!
# The grammar of the statements

The statements of a repository are put together from lists that are filtered on their own. What they are as
statements is told by a grammar that knows nothing of those lists.

* `Statement`, `Statement.text`, `Statement.WellFormed`: the statements that write, as SQL.
* `Grammatical`: each statement of a plan is one of the grammar, the update under a condition.
* `statements_grammatical`: the condition is that a column is left to be written.
* `tags_update_is_empty`: a table that has its key and no other column.
-/
namespace Scaffold.Sql

open Naming (quoteIdentifier)
open Schema (IsName)

/-- What a column is set to. -/
inductive Term where
  | bound
  | now
  | null
  deriving DecidableEq

/-- A term as SQL. -/
def Term.text : Term → String
  | .bound => "?"
  | .now => "NOW()"
  | .null => "NULL"

/-- An assignment as SQL. -/
def assignmentText (assignment : String × Term) : String :=
  quoteIdentifier assignment.1 ++ " = " ++ assignment.2.text

/-- A statement that writes to a table. -/
inductive Statement where
  | insertion (columns : List String)
  | update (assignments : List (String × Term))
  | deletion

/-- A statement as SQL. -/
def Statement.text (table : String) : Statement → String
  | .insertion columns =>
    "INSERT INTO " ++ quoteIdentifier table ++ " (" ++ Text.join ", " (columns.map quoteIdentifier) ++
      ") VALUES (" ++ Text.join ", " (List.replicate columns.length "?") ++ ")"
  | .update assignments =>
    "UPDATE " ++ quoteIdentifier table ++ " SET " ++ Text.join ", " (assignments.map assignmentText) ++
      " WHERE `id` = ?"
  | .deletion => "DELETE FROM " ++ quoteIdentifier table ++ " WHERE `id` = ?"

-- Stated by hand, as the equations that would be derived of `Statement.text` take long.
theorem Statement.text_insertion (table : String) (columns : List String) :
    (insertion columns).text table =
      "INSERT INTO " ++ quoteIdentifier table ++ " (" ++ Text.join ", " (columns.map quoteIdentifier) ++
        ") VALUES (" ++ Text.join ", " (List.replicate columns.length "?") ++ ")" := rfl

theorem Statement.text_update (table : String) (assignments : List (String × Term)) :
    (update assignments).text table = "UPDATE " ++ quoteIdentifier table ++ " SET " ++
      Text.join ", " (assignments.map assignmentText) ++ " WHERE `id` = ?" := rfl

/-- A statement about columns that have names; one that updates assigns something. -/
def Statement.WellFormed : Statement → Prop
  | .insertion columns => ∀ column ∈ columns, IsName column
  | .update assignments => assignments ≠ [] ∧ ∀ assignment ∈ assignments, IsName assignment.1
  | .deletion => True

/-- A text that inserts a row. -/
def IsInsertion (table text : String) : Prop :=
  ∃ columns, (Statement.insertion columns).WellFormed ∧ text = (Statement.insertion columns).text table

/-- A text that updates a row, with one assignment or more. -/
def IsUpdate (table text : String) : Prop :=
  ∃ assignments, (Statement.update assignments).WellFormed ∧
    text = (Statement.update assignments).text table

/-- A text that updates a row with exactly one assignment. -/
def IsMarking (table text : String) : Prop :=
  ∃ assignment, (Statement.update [assignment]).WellFormed ∧
    text = (Statement.update [assignment]).text table

/-- A text that deletes a row, or updates it with exactly one assignment. -/
def IsDeletion (table text : String) : Prop := text = Statement.deletion.text table ∨ IsMarking table text

/-! ## The statements of fragments -/

section Statements

variable {table : String} {fillable : List String}

theorem where_key : " WHERE " ++ byKey = " WHERE `id` = ?" := by decide +kernel

theorem isMarking_of_term (table : String) (term : Term) {column : String} (h : IsName column) :
    IsMarking table ("UPDATE " ++ quoteIdentifier table ++ " SET " ++
      (quoteIdentifier column ++ " = " ++ term.text) ++ " WHERE " ++ byKey) := by
  refine ⟨(column, term), ⟨List.cons_ne_nil _ _, by simpa using h⟩, ?_⟩
  rw [String.append_assoc, where_key]
  rfl

theorem isName_softDelete : IsName softDeleteColumn := ⟨by decide, Text.forall_mem_of_all (by decide)⟩

theorem isDeletion_deleteStatement (table : String) (soft : Bool) :
    IsDeletion table (deleteStatement table soft) := by
  cases soft with
  | true =>
    have hmarking := isMarking_of_term table .now isName_softDelete
    have hnow : " = NOW() WHERE " = " = " ++ Term.now.text ++ " WHERE " := by decide +kernel
    refine .inr ?_
    rw [deleteStatement, if_pos rfl, hnow]
    simpa only [String.append_assoc] using hmarking
  | false =>
    refine .inl ?_
    rw [deleteStatement, if_neg Bool.false_ne_true, String.append_assoc, where_key]
    rfl

theorem isMarking_restoreStatement (table : String) : IsMarking table (restoreStatement table) := by
  have hmarking := isMarking_of_term table .null isName_softDelete
  have hnull : " = NULL WHERE " = " = " ++ Term.null.text ++ " WHERE " := by decide +kernel
  rw [restoreStatement, hnull]
  simpa only [String.append_assoc] using hmarking

/-- Two updates of one text have one list of assignments as a text. -/
theorem join_eq_of_update_eq {a b : List (String × Term)}
    (h : (Statement.update a).text table = (Statement.update b).text table) :
    Text.join ", " (a.map assignmentText) = Text.join ", " (b.map assignmentText) := by
  have hletters := congrArg String.toList h
  simp only [Statement.text_update, String.toList_append] at hletters
  exact String.toList_inj.mp (List.append_cancel_left (List.append_cancel_right hletters))

/-- An update without assignments is no update of the grammar. -/
theorem not_isUpdate_nil : ¬IsUpdate table ((Statement.update []).text table) := by
  rintro ⟨assignments, ⟨hne, -⟩, htext⟩
  have hjoin := join_eq_of_update_eq htext
  cases assignments with
  | nil => exact hne rfl
  | cons first rest =>
    -- the first assignment begins with a backtick
    have hfirst : '`' ∈ (Text.join ", " ((first :: rest).map assignmentText)).toList := by
      refine (Text.isInfix_join ", " (List.mem_map_of_mem List.mem_cons_self)).subset ?_
      simp [assignmentText, quoteIdentifier]
    rw [← hjoin] at hfirst
    simp [Text.join] at hfirst

end Statements

end Scaffold.Sql

namespace Scaffold.Render

open Naming (quoteIdentifier)
open Php (Sends)
open Plan (Built)
open Sql (IsDeletion IsInsertion IsMarking IsUpdate Statement)
open Stub (Name)

/-! ## The statements of a plan -/

theorem insertStatement_eq {plan : Plan}
    (hcolumns : plan.insertColumns = Sql.insertColumns plan.fillableColumns)
    (hmarks : plan.placeholders = Sql.placeholders plan.fillableColumns) :
    insertStatement plan = (Statement.insertion plan.fillableColumns).text plan.tableName := by
  have hinsert : "INSERT INTO `" = "INSERT INTO " ++ "`" := by decide
  have hopen : "` (" = "`" ++ " (" := by decide
  have hplaceholders : Sql.placeholders plan.fillableColumns =
      List.replicate plan.fillableColumns.length "?" := List.map_const'
  delta insertStatement
  rw [hcolumns, hmarks, hplaceholders, hinsert, hopen]
  simp only [Statement.text_insertion, quoteIdentifier, String.append_assoc]
  rfl

theorem updateStatement_eq {plan : Plan}
    (hassignments : plan.assignments = Sql.assignments plan.fillableColumns) :
    updateStatement plan =
      (Statement.update (plan.fillableColumns.map (·, .bound))).text plan.tableName := by
  have hupdate : "UPDATE `" = "UPDATE " ++ "`" := by decide
  have hset : "` SET " = "`" ++ " SET " := by decide
  have hjoin : (plan.fillableColumns.map (·, Sql.Term.bound)).map Sql.assignmentText =
      Sql.assignments plan.fillableColumns := by
    rw [List.map_map]
    rfl
  delta updateStatement
  rw [hassignments, hupdate, hset]
  simp only [Statement.text_update, hjoin, quoteIdentifier, String.append_assoc]

/-- The statements of a plan as statements of the grammar, the update under a condition. -/
structure Grammatical (plan : Plan) (updates : Prop) : Prop where
  insertion : IsInsertion plan.tableName (insertStatement plan)
  update : IsUpdate plan.tableName (updateStatement plan) ↔ updates
  deletion : IsDeletion plan.tableName plan.deleteStatement
  restoring : ∀ statement, restoring? plan = some statement → IsMarking plan.tableName statement

/-- What the methods of a repository that write send to the database. -/
structure Sent (content : String) (plan : Plan) : Prop where
  create : Sends content "create" (insertStatement plan) (plan.fillableColumns.map modelValue)
  update : Sends content "update" (updateStatement plan) (plan.fillableColumns.map modelValue ++ [keyValue])
  delete : Sends content "delete" plan.deleteStatement ["$id"]
  restore : ∀ statement, restoring? plan = some statement → Sends content "restore" statement ["$id"]

section Built

variable {σ : Type} {resolve : String → Action σ (Option Table)} {table : Table} {plan : Plan}

theorem sent_of_harmless (hbuilt : Built resolve table plan) (h : Harmless nameMarks table)
    (settings : Settings) : Sent (repository Name.packaged settings plan).content plan where
  create := sends_create hbuilt h settings
  update := sends_update hbuilt h settings
  delete := sends_delete hbuilt (h.mono valueMarks_subset) settings
  restore _ hstatement := sends_restore hbuilt (h.mono valueMarks_subset) settings hstatement

/-- An update is one of the grammar exactly if a column is left to be written. -/
theorem isUpdate_updateStatement (hbuilt : Built resolve table plan)
    (hnames : ∀ column ∈ plan.fillableColumns, Schema.IsName column) :
    IsUpdate plan.tableName (updateStatement plan) ↔ plan.fillableColumns ≠ [] := by
  have hassignments : plan.assignments = Sql.assignments plan.fillableColumns := by
    rw [hbuilt.eq_planOf]
    rfl
  rw [updateStatement_eq hassignments]
  constructor
  · intro hupdate hnil
    rw [hnil] at hupdate
    exact Sql.not_isUpdate_nil hupdate
  · intro hne
    exact ⟨_, ⟨by simpa using hne, List.forall_mem_map.mpr hnames⟩, rfl⟩

theorem grammatical_of_read (hbuilt : Built resolve table plan) (hread : Schema.WasRead table) :
    Grammatical plan (∃ column ∈ table.columns, column ∉ Sql.managedColumns) := by
  have hfillable : plan.fillableColumns = Sql.fillableColumns table.columns := by
    rw [hbuilt.eq_planOf]
    rfl
  have hnames : ∀ column ∈ plan.fillableColumns, Schema.IsName column := by
    rw [hfillable]
    exact fun column hcolumn => hread.worded.columns column (List.mem_filter.mp hcolumn).1
  refine ⟨?_, ?_, ?_, ?_⟩
  · refine ⟨plan.fillableColumns, hnames, insertStatement_eq ?_ ?_⟩ <;>
    · rw [hbuilt.eq_planOf]
      rfl
  · rw [isUpdate_updateStatement hbuilt hnames, hfillable, Sql.fillableColumns, ne_eq,
      List.filter_eq_nil_iff]
    simp
  · have hdelete : plan.deleteStatement = Sql.deleteStatement plan.tableName table.softDelete := by
      rw [hbuilt.eq_planOf]
      rfl
    rw [hdelete]
    exact Sql.isDeletion_deleteStatement _ _
  · intro statement hstatement
    rw [eq_of_restoring hbuilt hstatement]
    exact Sql.isMarking_restoreStatement _

end Built

/-- For every table that was read, the methods of its repository send statements of the grammar, whatever the
parents and the settings are, but for one: the statement of `update` is one of the grammar if, and only if,
the table has a column besides those that are kept up for it. -/
theorem statements_grammatical {σ : Type} [Journaled σ] {resolve : String → Action σ (Option Table)}
    {text : String} {source : Option String} {table : Table} {plan : Plan} {s s' : σ}
    (hparse : Table.parse text source = .ok table)
    (hbuild : (Plan.build table resolve).run s = (.ok plan, s')) (settings : Settings) :
    Sent (repository Name.packaged settings plan).content plan ∧
      Grammatical plan (∃ column ∈ table.columns, column ∉ Sql.managedColumns) := by
  have hread : Schema.WasRead table := ⟨text, source, hparse⟩
  have hbuilt := Plan.built_of_build hbuild
  exact ⟨sent_of_harmless hbuilt (harmless_of_read ample_nameMarks hread) settings,
    grammatical_of_read hbuilt hread⟩

/-- The orders have a column to write, so all their statements are of the grammar. -/
theorem orders_grammatical :
    ∃ w, Table.parse Plan.ordersSchema = .ok Plan.orders ∧
      (Plan.build Plan.orders Plan.findUsers).run {} = (.ok Plan.ordersPlan, w) ∧
      Sent (repository Name.packaged {} Plan.ordersPlan).content Plan.ordersPlan ∧
      updateStatement Plan.ordersPlan = "UPDATE `orders` SET `user_id` = ? WHERE `id` = ?" ∧
      IsUpdate "orders" (updateStatement Plan.ordersPlan) := by
  obtain ⟨w, hbuild⟩ := Plan.orders_built
  obtain ⟨hsent, hgrammatical⟩ := statements_grammatical Plan.orders_read hbuild {}
  exact ⟨w, Plan.orders_read, hbuild, hsent, by decide +kernel,
    hgrammatical.update.mpr ⟨"user_id", by decide +kernel, by decide +kernel⟩⟩

/-- The schema of tags, which have a key and nothing else. -/
def tagsSchema : String := "CREATE TABLE tags (\n  id INT\n);"

/-- The tags. -/
def tags : Table where
  name := "tags"
  columns := ["id"]

/-- The repository of tags sends an update that assigns nothing. -/
theorem tags_update_is_empty :
    ∃ plan w, Table.parse tagsSchema = .ok tags ∧
      (Plan.build tags findNone).run {} = (.ok plan, w) ∧
      updateStatement plan = "UPDATE `tags` SET  WHERE `id` = ?" ∧
      Sends (repository Name.packaged {} plan).content "update" (updateStatement plan) [keyValue] ∧
      ¬IsUpdate plan.tableName (updateStatement plan) := by
  have hread : Table.parse tagsSchema = .ok tags := Schema.parse_of_letters rfl (by decide +kernel)
  obtain ⟨w, hbuild⟩ : ∃ w, (Plan.build tags findNone).run {} = (.ok (Plan.planOf tags []), w) :=
    Action.exists_run (by decide +kernel)
  have hbuilt := Plan.built_of_build hbuild
  have hharmless := harmless_of_read ample_nameMarks ⟨tagsSchema, none, hread⟩
  have hnone : (Plan.planOf tags []).fillableColumns = [] := by decide +kernel
  have hsends := sends_update hbuilt hharmless {}
  rw [hnone] at hsends
  refine ⟨_, w, hread, hbuild, by decide +kernel, hsends, ?_⟩
  rw [isUpdate_updateStatement hbuilt (by simp [hnone])]
  exact not_not.mpr hnone

end Scaffold.Render
