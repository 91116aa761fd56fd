import Scaffold.Proofs.Artifact.Grammar
import Scaffold.Proofs.Plan.Quoting

/-!
# What the question marks stand for

The columns of a statement, its question marks and the values that it is executed with come from lists that
are put together apart. Read from the left, each question mark of `create` and `update` stands for the column
whose value is bound at its place.

* `marks`: how many values a statement asks for.
* `boundNames`: for each question mark the name that was quoted last before it.
* `Binds`: `create` and `update` send every fillable column, and no other, at its own place.
* `writing_binds`: they do so for tables without marks in their names, and so for all tables that were read.
* `marked_columns_unbound`: columns with a question mark or a comma in their names.
-/
namespace Scaffold.Sql

open Naming (quoteIdentifier)

/-! ## Reading question marks -/

/-- How many values a statement asks for. -/
def marks (s : String) : Nat := s.toList.count '?'

/-- For each question mark the name that was quoted last before it, and behind the one before. -/
def boundNames (s : String) : List (Option String) :=
  (s.toList.splitOn '?').dropLast.map fun piece => (quotedNames (.ofList piece)).bind List.getLast?

theorem marks_append (s t : String) : marks (s ++ t) = marks s + marks t := by
  rw [marks, String.toList_append, List.count_append]
  rfl

theorem marks_quoteIdentifier {name : String} (h : '?' ∉ name.toList) : marks (quoteIdentifier name) = 0 := by
  have hname : marks name = 0 := List.count_eq_zero.mpr h
  rw [quoteIdentifier, marks_append, marks_append, hname]
  rfl

/-- Pieces that ask for the same number of values each, with nothing that asks for one between them. -/
theorem marks_join {separator : String} (hseparator : marks separator = 0) (pieces : List String) {n : Nat}
    (h : ∀ piece ∈ pieces, marks piece = n) : marks (Text.join separator pieces) = pieces.length * n := by
  induction pieces with
  | nil => exact (Nat.zero_mul n).symm
  | cons piece rest ih =>
    obtain ⟨hpiece, hrest⟩ := List.forall_mem_cons.mp h
    cases rest with
    | nil => rw [Text.join_singleton, hpiece, List.length_singleton, Nat.one_mul]
    | cons next rest =>
      have hlength : (piece :: next :: rest).length = (next :: rest).length + 1 := rfl
      rw [Text.join_cons_cons, marks_append, marks_append, hpiece, hseparator, ih hrest, hlength,
        Nat.succ_mul, Nat.add_zero, Nat.add_comm]

/-- Every question mark stands for something. -/
theorem length_boundNames (s : String) : (boundNames s).length = marks s := by
  rw [boundNames, List.length_map, List.length_dropLast, marks]
  generalize s.toList = cs
  induction cs with
  | nil => rfl
  | cons c cs ih =>
    rw [List.splitOn_cons_eq_if_modifyHead, List.count_cons]
    have hfilled := List.length_pos_of_ne_nil (List.splitOn_ne_nil '?' cs)
    split <;> simp <;> omega

/-- A question mark stands for the name that was quoted last before it. -/
theorem boundNames_mark {s name : String} {names : List String} (hquotes : Quotes s (names ++ [name]))
    (h : '?' ∉ s.toList) (rest : String) :
    boundNames (s ++ placeholder ++ rest) = some name :: boundNames rest := by
  have hmark : placeholder.toList = ['?'] := by decide
  have hletters : (s ++ placeholder ++ rest).toList = s.toList ++ '?' :: rest.toList := by
    rw [String.toList_append, String.toList_append, hmark, List.append_assoc, List.singleton_append]
  unfold Quotes at hquotes
  rw [boundNames, hletters, List.splitOn_append_cons_self_of_not_mem h,
    List.dropLast_cons_of_ne_nil (List.splitOn_ne_nil _ _), List.map_cons, String.ofList_toList, hquotes,
    Option.bind_some, List.getLast?_concat, boundNames]

/-! ## The statements -/

section Statements

variable {table start : String} {names columns : List String}

/-- What is quoted in pieces is quoted in the pieces together, in their order. -/
theorem quotes_join (separator : String) (hseparator : isPlain separator = true) {piece : String → String}
    {quoted : String → List String} (h : ∀ column ∈ columns, Quotes (piece column) (quoted column)) :
    Quotes (Text.join separator (columns.map piece)) (columns.flatMap quoted) := by
  induction columns with
  | nil => exact (quotes_plain (by decide) : Quotes "" [])
  | cons column rest ih =>
    obtain ⟨hcolumn, hrest⟩ := List.forall_mem_cons.mp h
    cases rest with
    | nil =>
      rw [List.flatMap_singleton]
      exact hcolumn
    | cons next rest =>
      rw [List.map_cons, List.map_cons, Text.join_cons_cons, List.flatMap_cons]
      exact (hcolumn.plain hseparator).append (ih hrest)

theorem quotes_insertion (htable : Quotable table) (h : ∀ column ∈ columns, Quotable column) :
    Quotes ((Statement.insertion columns).text table) (table :: columns) := by
  have hcolumns : Quotes (Text.join ", " (columns.map quoteIdentifier)) columns := by
    have hjoin := quotes_join ", " (by decide) fun column hcolumn =>
      quotes_quoteIdentifier (h column hcolumn)
    rwa [List.flatMap_singleton'] at hjoin
  have hmarks : Quotes (Text.join ", " (List.replicate columns.length "?")) [] := by
    have hjoin : Quotes (Text.join ", " (columns.map fun _ => "?")) (columns.flatMap fun _ => []) :=
      quotes_join ", " (by decide) fun _ _ => quotes_plain (by decide)
    rwa [List.map_const', List.flatMap_eq_nil_iff.mpr fun _ _ => rfl] at hjoin
  have hquotes : Quotes ((Statement.insertion columns).text table) ([] ++ [table] ++ columns ++ []) :=
    quotes_plain (by decide) |>.quoted htable |>.plain |>.append hcolumns |>.plain |>.append hmarks |>.plain
  rwa [List.append_nil] at hquotes

theorem marks_insertion (htable : '?' ∉ table.toList) (h : ∀ column ∈ columns, '?' ∉ column.toList) :
    marks ((Statement.insertion columns).text table) = columns.length := by
  have hcolumns : marks (Text.join ", " (columns.map quoteIdentifier)) = 0 :=
    marks_join (by decide) _ (List.forall_mem_map.mpr fun column hcolumn =>
      marks_quoteIdentifier (h column hcolumn))
  have hmarks : marks (Text.join ", " (List.replicate columns.length "?")) = columns.length := by
    have hone : ∀ piece ∈ List.replicate columns.length "?", marks piece = 1 := fun piece hpiece => by
      rw [List.eq_of_mem_replicate hpiece]
      decide
    have hcomma : marks ", " = 0 := by decide
    rw [marks_join hcomma _ hone, List.length_replicate, Nat.mul_one]
  have htext : ∀ text ∈ ["INSERT INTO ", " (", ") VALUES (", ")"], marks text = 0 := by decide
  simp only [List.forall_mem_cons] at htext
  obtain ⟨hinsert, hopen, hvalues, hclose, -⟩ := htext
  simp only [Statement.text_insertion, marks_append, marks_quoteIdentifier htable, hcolumns, hmarks,
    hinsert, hopen, hvalues, hclose, Nat.zero_add, Nat.add_zero]

theorem quotes_update (htable : Quotable table) (h : ∀ column ∈ columns, Quotable column) :
    Quotes ((Statement.update (columns.map (·, .bound))).text table)
      (table :: columns ++ [primaryKeyColumn]) := by
  have hassignments : Quotes (Text.join ", " ((columns.map (·, Term.bound)).map assignmentText)) columns := by
    have hjoin := quotes_join ", " (by decide) fun column hcolumn =>
      quotes_assignment (h column hcolumn)
    rw [List.flatMap_singleton'] at hjoin
    rwa [List.map_map]
  have hwhere : Quotes " WHERE `id` = ?" [primaryKeyColumn] := by
    rw [← where_key]
    exact (quotes_plain (by decide)).append quotes_byKey
  have hquotes : Quotes ((Statement.update (columns.map (·, .bound))).text table)
      ([] ++ [table] ++ columns ++ [primaryKeyColumn]) :=
    quotes_plain (by decide) |>.quoted htable |>.plain |>.append hassignments |>.append hwhere
  exact hquotes

/-- In an update each question mark stands for the column that its assignment sets, the last for the key. -/
theorem boundNames_assignments (h : ∀ column ∈ columns, Quotable column ∧ '?' ∉ column.toList)
    (hstart : Quotes start names) (hmark : '?' ∉ start.toList) :
    boundNames (start ++ Text.join ", " ((columns.map (·, Term.bound)).map assignmentText) ++
      " WHERE `id` = ?") = (columns ++ [primaryKeyColumn]).map some := by
  have hnothing : Quotes "" [] := quotes_plain (by decide)
  induction columns generalizing start names with
  | nil =>
    have hquotes : Quotes (start ++ " WHERE " ++ quoteIdentifier primaryKeyColumn ++ " = ")
        (names ++ [primaryKeyColumn]) := hstart.plain.quoted quotable_primaryKey |>.plain
    have hunmarked : '?' ∉ (start ++ " WHERE " ++ quoteIdentifier primaryKeyColumn ++ " = ").toList := by
      simp only [String.toList_append, List.mem_append, not_or]
      exact ⟨⟨⟨hmark, by decide⟩, by decide⟩, by decide⟩
    have hkey := boundNames_mark hquotes hunmarked ""
    rw [← where_key, byKey]
    simp only [List.map_nil, Text.join, String.append_empty, String.append_assoc] at hkey ⊢
    exact hkey
  | cons column rest ih =>
    obtain ⟨⟨hquotable, hcolumn⟩, hrest⟩ := List.forall_mem_cons.mp h
    have hquotes : Quotes (start ++ quoteIdentifier column ++ " = ") (names ++ [column]) :=
      hstart.quoted hquotable |>.plain
    have hunmarked : '?' ∉ (start ++ quoteIdentifier column ++ " = ").toList := by
      simp only [quoteIdentifier, String.toList_append, List.mem_append, not_or]
      exact ⟨⟨hmark, ⟨by decide, hcolumn⟩, by decide⟩, by decide⟩
    have hbound := boundNames_mark hquotes hunmarked
    rw [List.map_cons, List.map_cons, List.cons_append, List.map_cons]
    -- what follows the question mark is an update again, with a comma in front unless it is the last
    cases rest with
    | nil =>
      rw [← ih hrest hnothing (by decide), ← hbound]
      simp only [List.map_nil, Text.join, assignmentText, String.append_assoc, String.empty_append]
      rfl
    | cons next rest =>
      have hcomma : Quotes ", " [] := quotes_plain (by decide)
      rw [← ih hrest hcomma (by decide), ← hbound]
      simp only [List.map_cons, Text.join_cons_cons, assignmentText, String.append_assoc]
      rfl

theorem boundNames_update (htable : Quotable table) (hmark : '?' ∉ table.toList)
    (h : ∀ column ∈ columns, Quotable column ∧ '?' ∉ column.toList) :
    boundNames ((Statement.update (columns.map (·, .bound))).text table) =
      (columns ++ [primaryKeyColumn]).map some := by
  have hstart : Quotes ("UPDATE " ++ quoteIdentifier table ++ " SET ") ([] ++ [table]) :=
    quotes_plain (by decide) |>.quoted htable |>.plain
  refine boundNames_assignments h hstart ?_
  simp only [quoteIdentifier, String.toList_append, List.mem_append, not_or]
  exact ⟨⟨by decide, ⟨by decide, hmark⟩, by decide⟩, by decide⟩

end Statements

end Scaffold.Sql

namespace Scaffold.Php

/-! ## Commas -/

theorem not_mem_of_mem_splitOn {c : Char} {cs piece : List Char} (h : piece ∈ cs.splitOn c) :
    c ∉ piece := by
  induction cs generalizing piece with
  | nil =>
    rw [List.splitOn_nil, List.mem_singleton] at h
    rw [h]
    exact List.not_mem_nil
  | cons d cs ih =>
    rw [List.splitOn_cons_eq_if_modifyHead] at h
    by_cases hd : d = c
    · rw [if_pos (beq_iff_eq.mpr hd)] at h
      rcases List.mem_cons.mp h with rfl | h
      · exact List.not_mem_nil
      · exact ih h
    · rw [if_neg (mt beq_iff_eq.mp hd)] at h
      cases hcs : cs.splitOn c with
      | nil => exact absurd hcs (List.splitOn_ne_nil c cs)
      | cons first rest =>
        rw [hcs, List.modifyHead_cons] at h
        rcases List.mem_cons.mp h with rfl | h
        · exact List.not_mem_cons_of_ne_of_not_mem (Ne.symm hd) (ih (by rw [hcs]; exact List.mem_cons_self))
        · exact ih (by rw [hcs]; exact List.mem_cons_of_mem first h)

/-- No value that a method sends has a comma, as commas separate the values. -/
theorem Sends.comma_not_mem {text method statement : String} {values : List String}
    (h : Sends text method statement values) : ∀ value ∈ values, ',' ∉ value.toList := by
  obtain ⟨body, -, -, hvalues⟩ := h
  have hexecution : values ∈ executions body := by
    rw [hvalues]
    exact List.mem_singleton_self values
  obtain ⟨rest, -, rfl⟩ := List.mem_map.mp hexecution
  intro value hvalue
  obtain ⟨item, hitem, rfl⟩ := List.mem_map.mp hvalue
  obtain ⟨piece, hpiece, rfl⟩ := List.mem_map.mp (List.mem_filter.mp hitem).1
  rw [String.toList_ofList]
  exact fun hcomma => not_mem_of_mem_splitOn hpiece ((List.dropWhile_sublist _).subset hcomma)

end Scaffold.Php

namespace Scaffold.Render

open Php (Sends)
open Sql (Quotable Quotes Statement boundNames marks)
open Stub (Name)

/-! ## What is bound -/

/-- `create` and `update` of a repository bind each fillable column, and no other, where it stands. -/
structure Binds (content : String) (plan : Plan) : Prop where
  create : Sends content "create" (insertStatement plan) (plan.fillableColumns.map modelValue)
  /-- The columns are listed in their order, before as many question marks as are values. -/
  insertion : insertStatement plan = (Statement.insertion plan.fillableColumns).text plan.tableName
  listed : Quotes (insertStatement plan) (plan.tableName :: plan.fillableColumns)
  createMarks : marks (insertStatement plan) = (plan.fillableColumns.map modelValue).length
  update : Sends content "update" (updateStatement plan) (plan.fillableColumns.map modelValue ++ [keyValue])
  /-- The question marks stand for the columns in their order, and for the key last. -/
  assigned : boundNames (updateStatement plan) = (plan.fillableColumns ++ [primaryKeyColumn]).map some
  named : Quotes (updateStatement plan) (plan.tableName :: plan.fillableColumns ++ [primaryKeyColumn])
  updateMarks : marks (updateStatement plan) = (plan.fillableColumns.map modelValue ++ [keyValue]).length
  unmanaged : ∀ column ∈ plan.fillableColumns, column ∉ Sql.managedColumns

/-- The characters that no name may have, so that each question mark is one that asks for a value. -/
def writingMarks : List Char := ['`', '?'] ++ nameMarks

theorem ample_writingMarks : Naming.Ample (· ∉ writingMarks) :=
  ample_of_marks (Text.forall_mem_of_all (by decide))

theorem unmanaged_fillableColumns (columns : List String) :
    ∀ column ∈ Sql.fillableColumns columns, column ∉ Sql.managedColumns := by
  intro column hcolumn
  simpa using (List.mem_filter.mp hcolumn).2

/-- Whatever the parents and the settings are, the repository of a table without marks in its names binds its
columns in `create` and `update` where they stand. -/
theorem writing_binds {σ : Type} [Journaled σ] {resolve : String → Action σ (Option Table)} {table : Table}
    {plan : Plan} {s s' : σ} (hbuild : (Plan.build table resolve).run s = (.ok plan, s'))
    (h : Harmless writingMarks table) (settings : Settings) :
    Binds (repository Name.packaged settings plan).content plan := by
  have hbuilt := Plan.built_of_build hbuild
  have hharmless : Harmless nameMarks table := h.mono (List.subset_append_right _ _)
  have hname : Text.Free writingMarks plan.tableName := by
    rw [hbuilt.eq_planOf]
    exact h.name
  have hcolumns : ∀ column ∈ plan.fillableColumns, Text.Free writingMarks column := by
    rw [hbuilt.eq_planOf]
    exact h.fillable
  have hquotable : ∀ {name}, Text.Free writingMarks name → Quotable name := fun hfree =>
    hfree.not_mem (by decide)
  have hunmarked : ∀ {name}, Text.Free writingMarks name → '?' ∉ name.toList := fun hfree =>
    hfree.not_mem (by decide)
  have hinsertion : insertStatement plan =
      (Statement.insertion plan.fillableColumns).text plan.tableName :=
    insertStatement_eq (by rw [hbuilt.eq_planOf]; rfl) (by rw [hbuilt.eq_planOf]; rfl)
  have hupdate : updateStatement plan =
      (Statement.update (plan.fillableColumns.map (·, .bound))).text plan.tableName :=
    updateStatement_eq (by rw [hbuilt.eq_planOf]; rfl)
  have hassigned : boundNames (updateStatement plan) =
      (plan.fillableColumns ++ [primaryKeyColumn]).map some := by
    rw [hupdate]
    exact Sql.boundNames_update (hquotable hname) (hunmarked hname) fun column hcolumn =>
      ⟨hquotable (hcolumns column hcolumn), hunmarked (hcolumns column hcolumn)⟩
  refine ⟨sends_create hbuilt hharmless settings, hinsertion, ?_, ?_, sends_update hbuilt hharmless settings,
    hassigned, ?_, ?_, ?_⟩
  · rw [hinsertion]
    exact Sql.quotes_insertion (hquotable hname) fun column hcolumn => hquotable (hcolumns column hcolumn)
  · rw [hinsertion, List.length_map]
    exact Sql.marks_insertion (hunmarked hname) fun column hcolumn => hunmarked (hcolumns column hcolumn)
  · rw [hupdate]
    exact Sql.quotes_update (hquotable hname) fun column hcolumn => hquotable (hcolumns column hcolumn)
  · rw [← Sql.length_boundNames, hassigned]
    simp
  · rw [hbuilt.eq_planOf]
    exact unmanaged_fillableColumns _

/-- The orders bind the key of their user, and `update` their own. -/
theorem orders_bound :
    ∃ w, (Plan.build Plan.orders Plan.findUsers).run {} = (.ok Plan.ordersPlan, w) ∧
      Harmless writingMarks Plan.orders ∧
      Binds (repository Name.packaged {} Plan.ordersPlan).content Plan.ordersPlan ∧
      boundNames (updateStatement Plan.ordersPlan) = [some "user_id", some "id"] := by
  obtain ⟨w, hbuild⟩ := Plan.orders_built
  have hharmless := harmless_of_read ample_writingMarks ⟨Plan.ordersSchema, none, Plan.orders_read⟩
  have hbinds := writing_binds hbuild hharmless {}
  have hfillable : Plan.ordersPlan.fillableColumns = ["user_id"] := by decide +kernel
  refine ⟨w, hbuild, hharmless, hbinds, ?_⟩
  rw [hbinds.assigned, hfillable]
  rfl

/-- Notes with one column. -/
def notes (column : String) : Table where
  name := "notes"
  columns := [column]

/-- A repository of notes whose `create` sends a statement with some values, and does not bind its columns. -/
def NotBinding (column statement : String) (values : List String) : Prop :=
  ∃ plan w, (Plan.build (notes column) findNone).run {} = (.ok plan, w) ∧
    Sends (repository Name.packaged {} plan).content "create" statement values ∧
    ¬Binds (repository Name.packaged {} plan).content plan

/-- A question mark in a name is one more than there are values. -/
theorem notBinding_question :
    NotBinding "a?" "INSERT INTO `notes` (`a?`) VALUES (?)" ["$model->a?"] := by
  obtain ⟨w, hbuild⟩ : ∃ w, (Plan.build (notes "a?") findNone).run {} =
      (.ok (Plan.planOf (notes "a?") []), w) := Action.exists_run (by decide +kernel)
  have hharmless : Harmless nameMarks (notes "a?") := ⟨by decide, by decide⟩
  have hinsertion : insertStatement (Plan.planOf (notes "a?") []) =
      "INSERT INTO `notes` (`a?`) VALUES (?)" := by decide +kernel
  have hvalues : (Plan.planOf (notes "a?") []).fillableColumns.map modelValue = ["$model->a?"] := by
    decide +kernel
  have hsends := sends_create (Plan.built_of_build hbuild) hharmless {}
  rw [hinsertion, hvalues] at hsends
  refine ⟨_, w, hbuild, hsends, fun hbinds => ?_⟩
  have hmarks := hbinds.createMarks
  rw [hinsertion, hvalues] at hmarks
  exact absurd hmarks (by decide)

/-- A comma in a name makes two values of one. -/
theorem notBinding_comma :
    NotBinding "a,b" "INSERT INTO `notes` (`a,b`) VALUES (?)" ["$model->a", "b"] := by
  obtain ⟨w, hbuild⟩ : ∃ w, (Plan.build (notes "a,b") findNone).run {} =
      (.ok (Plan.planOf (notes "a,b") []), w) := Action.exists_run (by decide +kernel)
  have hharmless : Harmless Stub.valueMarks (notes "a,b") := ⟨by decide, by decide⟩
  have hinsertion : insertStatement (Plan.planOf (notes "a,b") []) =
      "INSERT INTO `notes` (`a,b`) VALUES (?)" := by decide +kernel
  have hvalues : Php.items ('\n' ::
      ((Php.executeParams (Plan.planOf (notes "a,b") []).fillableColumns).toList ++
        '\n' :: "        ".toList)) = ["$model->a", "b"] := by decide +kernel
  have hsends := sends_of_stub (Plan.built_of_build hbuild) hharmless {} (m := createStub) (by simp)
  rw [statement_createStub, values_createStub, hinsertion, hvalues] at hsends
  refine ⟨_, w, hbuild, hsends, fun hbinds => ?_⟩
  have hcomma := hbinds.create.comma_not_mem "$model->a,b" (by decide +kernel)
  exact hcomma (by decide)

/-- Names with marks are not bound where they stand: they bring marks or commas of their own. -/
theorem marked_columns_unbound :
    NotBinding "a?" "INSERT INTO `notes` (`a?`) VALUES (?)" ["$model->a?"] ∧
      NotBinding "a,b" "INSERT INTO `notes` (`a,b`) VALUES (?)" ["$model->a", "b"] :=
  ⟨notBinding_question, notBinding_comma⟩

end Scaffold.Render
