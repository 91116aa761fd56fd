import Scaffold.Proofs.Artifact.Bodies
import Scaffold.Proofs.Artifact.Properties

/-!
# The methods of a repository that write

What `create`, `update`, `delete` and `restore` send depends on the table and its columns alone, whatever the
parents, the look-up and the settings are.

* `Harmless`: tables of whose names no character could be taken for code.
* `createStub`, `updateStub`, `deleteStub`, `restoreStub`: the methods as parts of the stubs.
* `sends_create`, `sends_update`, `sends_delete`, `sends_restore`: the statement each of them sends, and the
  values that it binds.
-/
namespace Scaffold.Render

open Naming (quoteIdentifier)
open Php (Sends codeMarks items)
open Plan (Built)
open Stub (Filling MethodStub Name Sign Template signs valueMarks)
open Text (Free)

/-! ## Names without marks -/

/-- The characters of which a text in quotes, an entry of an array, a method or a hole could end or change. -/
def nameMarks : List Char := ['$', '\\', ','] ++ valueMarks

/-- A table that has none of some characters in its name and its columns. -/
structure Harmless (marks : List Char) (table : Table) : Prop where
  name : Free marks table.name
  columns : ∀ column ∈ table.columns, Free marks column

theorem ample_of_marks {marks : List Char} (h : ∀ c ∈ marks, Text.isWord c = false ∧ ¬Text.IsLetter c) :
    Naming.Ample (· ∉ marks) := by
  refine ⟨fun c hc hmem => ?_, fun c hc hmem => (h c hmem).2 hc⟩
  rw [(h c hmem).1] at hc
  cases hc

theorem ample_nameMarks : Naming.Ample (· ∉ nameMarks) :=
  ample_of_marks (Text.forall_mem_of_all (by decide))

theorem ample_valueMarks : Naming.Ample (· ∉ valueMarks) :=
  ample_of_marks (Text.forall_mem_of_all (by decide))

theorem valueMarks_subset : valueMarks ⊆ nameMarks := List.subset_append_right _ _

/-- The names that the parser reads have no such characters. -/
theorem harmless_of_read {marks : List Char} {table : Table} (hok : Naming.Ample (· ∉ marks))
    (h : Schema.WasRead table) : Harmless marks table :=
  ⟨Naming.over_of_isName hok h.worded.name, h.over_columns hok⟩

section Harmless

variable {marks marks' : List Char} {table : Table}

theorem Harmless.mono (h : Harmless marks' table) (hsub : marks ⊆ marks') : Harmless marks table :=
  ⟨h.name.mono hsub, fun column hcolumn => (h.columns column hcolumn).mono hsub⟩

theorem Harmless.fillable (h : Harmless marks table) :
    ∀ column ∈ Sql.fillableColumns table.columns, Free marks column := fun column hcolumn =>
  h.columns column (List.mem_filter.mp hcolumn).1

end Harmless

/-! ## Fragments -/

section Fragments

variable {table name : String} {fillable : List String}

theorem free_quoteIdentifier (h : Free valueMarks name) : Free valueMarks (quoteIdentifier name) := by
  simp only [quoteIdentifier, Text.free_append]
  exact ⟨⟨by decide, h⟩, by decide⟩

theorem free_insertColumns (h : ∀ column ∈ fillable, Free valueMarks column) :
    Free valueMarks (Text.join ", " (Sql.insertColumns fillable)) :=
  Text.over_join (by decide) (List.forall_mem_map.mpr fun column hcolumn =>
    free_quoteIdentifier (h column hcolumn))

theorem free_placeholders (fillable : List String) :
    Free valueMarks (Text.join ", " (Sql.placeholders fillable)) :=
  Text.over_join (by decide) (List.forall_mem_map.mpr fun _ _ =>
    (by decide : Free valueMarks Sql.placeholder))

theorem free_assignments (h : ∀ column ∈ fillable, Free valueMarks column) :
    Free valueMarks (Text.join ", " (Sql.assignments fillable)) :=
  Text.over_join (by decide) (List.forall_mem_map.mpr fun column hcolumn => by
    simp only [Text.over_append]
    exact ⟨⟨free_quoteIdentifier (h column hcolumn), by decide⟩, by decide⟩)

theorem free_executeParams (h : ∀ column ∈ fillable, Free valueMarks column) :
    Free valueMarks (Php.executeParams fillable) :=
  Text.over_join (by decide) (List.forall_mem_map.mpr fun column hcolumn => by
    have hcamel : Free valueMarks (Naming.camel column) :=
      Naming.over_camel ample_valueMarks (h column hcolumn)
    simp only [Text.over_append]
    exact ⟨⟨⟨by decide, by decide⟩, hcamel⟩, by decide⟩)

theorem free_deleteStatement (h : Free valueMarks table) (soft : Bool) :
    Free valueMarks (Sql.deleteStatement table soft) := by
  have htable := free_quoteIdentifier h
  cases soft with
  | true =>
    simp only [Sql.deleteStatement, if_true, Text.free_append]
    exact ⟨⟨⟨⟨⟨by decide, htable⟩, by decide⟩, by decide⟩, by decide⟩, by decide⟩
  | false =>
    simp only [Sql.deleteStatement, Bool.false_eq_true, if_false, Text.free_append]
    exact ⟨⟨⟨by decide, htable⟩, by decide⟩, by decide⟩

theorem free_restoreStatement (h : Free valueMarks table) :
    Free valueMarks (Sql.restoreStatement table) := by
  have htable := free_quoteIdentifier h
  simp only [Sql.restoreStatement, Text.free_append]
  exact ⟨⟨⟨⟨⟨by decide, htable⟩, by decide⟩, by decide⟩, by decide⟩, by decide⟩

end Fragments

/-! ## The methods in the stubs -/

/-- The method that inserts a row. -/
def createStub : MethodStub where
  name := "create"
  start := [.blank "modelName", .lines [" $model): int\n    \x7b\n        $sql = "]]
  statement := [.lines ["INSERT INTO `"], .blank "tableName", .lines ["` ("], .blank "insertColumns",
    .lines [") VALUES ("], .blank "insertPlaceholders", .lines [")"]]
  call := [.lines [";\n        $stmt = $this->db->prepare($sql);\n        $stmt->"]]
  values := [.lines ["\n"], .blank "executeArrayParamsCreate", .lines ["\n" ++ "        "]]
  rest := [.lines [");\n        return (int) $this->db->lastInsertId();"]]

/-- The method that updates a row. -/
def updateStub : MethodStub where
  name := "update"
  start := [.blank "modelName", .lines [" $model): bool\n    \x7b\n        $sql = "]]
  statement := [.lines ["UPDATE `"], .blank "tableName", .lines ["` SET "], .blank "updateSetClause",
    .lines [" WHERE `id` = ?"]]
  call := [.lines [";\n        $stmt = $this->db->prepare($sql);\n        return $stmt->"]]
  values := [.lines ["\n"], .blank "executeArrayParamsUpdate",
    .lines ["\n" ++ "            $model->id,\n        "]]
  rest := [.lines [");"]]

/-- The method that sends a statement for the key of a row. -/
def keyStub (name hole : String) : MethodStub where
  name := name
  start := [.lines ["int $id): bool\n    \x7b\n        $stmt = $this->db->prepare("]]
  statement := [.blank hole]
  call := [.lines [");\n        return $stmt->"]]
  values := [.lines ["$id"]]
  rest := [.lines [");"]]

/-- The method that deletes a row. -/
def deleteStub : MethodStub := keyStub "delete" "deleteStatement"

/-- The method that takes the mark of deletion away. -/
def restoreStub : MethodStub := keyStub "restore" "restoreStatement"

theorem standsIn_repository : ∀ m ∈ [createStub, updateStub, deleteStub],
    m.StandsIn Name.repository.template := by
  -- checked at one go, as taking the texts apart is what takes long
  have hletters : ∀ m ∈ [createStub, updateStub, deleteStub],
      (∀ s ∈ m.parts, s.Literal) ∧ m.template.Sound ∧
        Sign.char '\n' :: (signs m.template.pieces ++ [.char '\n']) <:+:
          signs Name.repository.letters.1 := by
    decide +kernel
  exact fun m hm => MethodStub.standsIn_of_letters (hletters m hm)

theorem standsIn_repositoryRestore : restoreStub.StandsIn Name.repositoryRestore.template :=
  MethodStub.standsIn_of_letters (by decide +kernel)

/-! ## The values -/

/-- The value that is bound for a column. -/
def modelValue (column : String) : String := "$model->" ++ Naming.camel column

/-- The value of the key in `update`. -/
def keyValue : String := "$model->id"

theorem items_modelValue {column : String} (h : Free nameMarks column) (rest : List Char) :
    items ('\n' :: ((Php.indent3 ++ modelValue column).toList ++ ',' :: rest)) =
      modelValue column :: items rest := by
  have hcamel : Free nameMarks (Naming.camel column) := Naming.over_camel ample_nameMarks h
  have hcomma : ',' ∉ '\n' :: (Php.indent3 ++ modelValue column).toList := by
    simp only [modelValue, String.toList_append, List.mem_cons, List.mem_append, not_or]
    exact ⟨by decide, by decide, by decide, hcamel.not_mem (by decide)⟩
  have hgap : ('\n' :: (Php.indent3 ++ modelValue column).toList).dropWhile Php.isGap =
      (modelValue column).toList := by
    have hdollar : Text.Outside Php.isGap (modelValue column).toList := by
      rw [modelValue, String.toList_append]
      rfl
    rw [String.toList_append, ← List.cons_append]
    exact Text.dropWhile_run (Text.forall_mem_of_all (by decide)) hdollar
  have hfilled : (modelValue column).toList ≠ [] := by
    rw [modelValue, String.toList_append]
    exact List.cons_ne_nil _ _
  rw [← List.cons_append, Php.items_cons hcomma, hgap, if_neg hfilled, String.ofList_toList,
    List.singleton_append]

theorem toList_executeParams_cons (column : String) (columns : List String) :
    (Php.executeParams (column :: columns)).toList = (Php.indent3 ++ modelValue column).toList ++
      ',' :: if columns = [] then [] else '\n' :: (Php.executeParams columns).toList := by
  have hcomma : ",".toList = [','] := by decide
  have hbreak : "\n".toList = ['\n'] := by decide
  unfold Php.executeParams modelValue
  cases columns with
  | nil =>
    rw [if_pos rfl, List.map_singleton, Text.join_singleton]
    simp only [String.toList_append, hcomma, List.append_assoc]
  | cons next columns =>
    rw [if_neg (List.cons_ne_nil _ _), List.map_cons, List.map_cons, Text.join_cons_cons]
    simp only [String.toList_append, hcomma, hbreak, List.append_assoc, List.cons_append,
      List.nil_append]

/-- The lines of the bound values are the items of the array, one for each column. -/
theorem items_executeParams {columns : List String} (h : ∀ column ∈ columns, Free nameMarks column)
    (rest : List Char) :
    items ('\n' :: ((Php.executeParams columns).toList ++ '\n' :: rest)) =
      columns.map modelValue ++ items rest := by
  have hgap : ∀ cs, items ('\n' :: cs) = items cs := Php.items_gap (by decide)
  induction columns with
  | nil => exact (hgap _).trans (hgap _)
  | cons column columns ih =>
    obtain ⟨hcolumn, hcolumns⟩ := List.forall_mem_cons.mp h
    rw [toList_executeParams_cons, List.append_assoc, List.cons_append, items_modelValue hcolumn,
      List.map_cons, List.cons_append]
    refine congrArg (modelValue column :: ·) ?_
    cases columns with
    | nil => exact hgap _
    | cons next columns => exact ih hcolumns

/-! ## What the methods send -/

section Sending

variable {σ : Type} {resolve : String → Action σ (Option Table)} {table : Table} {plan : Plan}
  {settings : Settings}

theorem keys_repositoryFilling (stubs : Stubs) (settings : Settings) (plan : Plan) :
    ((repositoryFilling stubs settings plan).map (·.1)).Nodup := by
  simp only [repositoryFilling, List.map_cons, List.map_nil]
  decide

/-- The holes of a repository that its methods of writing need. -/
def writtenHoles : List String :=
  ["modelName", "tableName", "insertColumns", "insertPlaceholders", "executeArrayParamsCreate",
    "updateSetClause", "executeArrayParamsUpdate", "deleteStatement"]

theorem written_of_stub : ∀ m ∈ [createStub, updateStub, deleteStub], ∀ name ∈ holes m.parts,
    name ∈ writtenHoles := by decide +kernel

theorem statement_keyStub {f : Filling} {name hole statement : String}
    (h : List.lookup hole f = some statement) : (keyStub name hole).statement.fill f = statement :=
  Stub.fill_blank h

theorem items_keyStub (f : Filling) (name hole : String) :
    items ((keyStub name hole).values.fill f).toList = ["$id"] := by
  have hitems : items "$id".toList = ["$id"] := by decide +kernel
  have hvalues : (keyStub name hole).values.fill f = "$id" := by
    rw [keyStub, Stub.fill_cons, Stub.fill_nil, Stub.text_fill_lines, Text.join_singleton,
      String.append_empty]
  rw [hvalues, hitems]

theorem statement_createStub (stubs : Stubs) (settings : Settings) (plan : Plan) :
    createStub.statement.fill (repositoryFilling stubs settings plan) = insertStatement plan := by
  have htable : List.lookup "tableName" (repositoryFilling stubs settings plan) =
      some plan.tableName := rfl
  have hcolumns : List.lookup "insertColumns" (repositoryFilling stubs settings plan) =
      some (Text.join ", " plan.insertColumns) := rfl
  have hmarks : List.lookup "insertPlaceholders" (repositoryFilling stubs settings plan) =
      some (Text.join ", " plan.placeholders) := rfl
  -- opened by delta, as the equation of the definition is slow to derive
  delta insertStatement
  simp only [createStub, Stub.fill_cons, Stub.fill_nil, Stub.text_fill_lines, Text.join_singleton,
    Stub.text_fill_blank htable, Stub.text_fill_blank hcolumns, Stub.text_fill_blank hmarks,
    String.append_assoc, String.append_empty]

theorem statement_updateStub (stubs : Stubs) (settings : Settings) (plan : Plan) :
    updateStub.statement.fill (repositoryFilling stubs settings plan) = updateStatement plan := by
  have htable : List.lookup "tableName" (repositoryFilling stubs settings plan) =
      some plan.tableName := rfl
  have hset : List.lookup "updateSetClause" (repositoryFilling stubs settings plan) =
      some (Text.join ", " plan.assignments) := rfl
  delta updateStatement
  simp only [updateStub, Stub.fill_cons, Stub.fill_nil, Stub.text_fill_lines, Text.join_singleton,
    Stub.text_fill_blank htable, Stub.text_fill_blank hset, String.append_assoc, String.append_empty]

/-- The array of a method that binds the values of columns, and something behind them. -/
theorem toList_fill_params {f : Filling} {hole last : String} {columns : List String}
    (hparams : List.lookup hole f = some (Php.executeParams columns)) :
    (Template.fill [.lines ["\n"], .blank hole, .lines ["\n" ++ last]] f).toList =
      '\n' :: ((Php.executeParams columns).toList ++ '\n' :: last.toList) := by
  have hbreak : "\n".toList = ['\n'] := by decide
  simp only [Stub.fill_cons, Stub.fill_nil, Stub.text_fill_lines, Stub.text_fill_blank hparams,
    Text.join_singleton, String.toList_append, hbreak, String.toList_empty, List.cons_append,
    List.nil_append, List.append_nil]

theorem values_createStub (stubs : Stubs) (settings : Settings) (plan : Plan) :
    (createStub.values.fill (repositoryFilling stubs settings plan)).toList =
      '\n' :: ((Php.executeParams plan.fillableColumns).toList ++ '\n' :: "        ".toList) := by
  have hparams : List.lookup "executeArrayParamsCreate" (repositoryFilling stubs settings plan) =
      some (Php.executeParams plan.fillableColumns) := rfl
  rw [createStub, toList_fill_params hparams]

theorem values_updateStub (stubs : Stubs) (settings : Settings) (plan : Plan) :
    (updateStub.values.fill (repositoryFilling stubs settings plan)).toList =
      '\n' :: ((Php.executeParams plan.fillableColumns).toList ++
        '\n' :: "            $model->id,\n        ".toList) := by
  have hparams : List.lookup "executeArrayParamsUpdate" (repositoryFilling stubs settings plan) =
      some (Php.executeParams plan.fillableColumns) := rfl
  rw [updateStub, toList_fill_params hparams]

/-- What fills the method that takes the mark of deletion away. -/
def restoreFilling (plan : Plan) (statement : String) : Filling :=
  [("restoreStatement", statement), ("tableName", plan.tableName)]

/-- The method that takes the mark of deletion away is the last that is put into the repository. -/
theorem repositoryRestore_isInfix (settings : Settings) (plan : Plan) :
    (repositoryRestore Name.packaged plan).toList <:+:
      (repository Name.packaged settings plan).content.toList := by
  have hhole : '\n' :: ((Stub.hole "restoreMethod").toList ++ ['\n']) <:+:
      Stub.repositoryTemplate.text.toList :=
    Stub.hole_isInfix ["\");", "        return $stmt->execute([$id]);", "    \x7d"] (by simp)
      ⟨Stub.repositoryTemplate.take 48, Stub.repositoryTemplate.drop 51, rfl⟩
  unfold repository Stub.render
  rw [String.toList_ofList]
  exact Stub.isInfix_renderChars_hole (repositoryFilling Name.packaged settings plan).dropLast []
    (lettered_repositoryFilling _ settings plan) (by simp [repositoryFilling]) (by decide)
    (by decide) hhole

theorem eq_of_restoring (hbuilt : Built resolve table plan) {statement : String}
    (hstatement : restoring? plan = some statement) : statement = Sql.restoreStatement plan.tableName := by
  rw [hbuilt.eq_planOf] at hstatement ⊢
  unfold restoring? at hstatement
  split at hstatement
  · have hrestore := (Option.filter_eq_some_iff.mp hstatement).1
    unfold Plan.planOf at hrestore ⊢
    dsimp only at hrestore ⊢
    split at hrestore
    · exact (Option.some.inj hrestore).symm
    · cases hrestore
  · cases hstatement

variable (hbuilt : Built resolve table plan)
include hbuilt

theorem free_fillable (h : Harmless nameMarks table) :
    ∀ column ∈ plan.fillableColumns, Free nameMarks column := by
  rw [hbuilt.eq_planOf]
  exact h.fillable

section Values

variable (h : Harmless valueMarks table)
include h

/-- What fills these holes brings no marks, whatever the relations of the plan are. -/
theorem free_written (stubs : Stubs) (settings : Settings) : ∀ name ∈ writtenHoles,
    ∃ value, List.lookup name (repositoryFilling stubs settings plan) = some value ∧
      Free valueMarks value := by
  have hmodel : Free valueMarks table.modelName := Naming.over_modelName ample_valueMarks h.name
  have hfillable := h.fillable
  rw [hbuilt.eq_planOf]
  simp only [writtenHoles, List.forall_mem_cons]
  exact ⟨⟨_, rfl, hmodel⟩, ⟨_, rfl, h.name⟩, ⟨_, rfl, free_insertColumns hfillable⟩,
    ⟨_, rfl, free_placeholders _⟩, ⟨_, rfl, free_executeParams hfillable⟩,
    ⟨_, rfl, free_assignments hfillable⟩, ⟨_, rfl, free_executeParams hfillable⟩,
    ⟨_, rfl, free_deleteStatement h.name _⟩, by simp⟩

/-- A method of the repository sends its statement, whatever fills the holes of the others. -/
theorem sends_of_stub (settings : Settings) {m : MethodStub}
    (hm : m ∈ [createStub, updateStub, deleteStub]) :
    Sends (repository Name.packaged settings plan).content m.name
      (m.statement.fill (repositoryFilling Name.packaged settings plan))
      (items (m.values.fill (repositoryFilling Name.packaged settings plan)).toList) := by
  have hstands := standsIn_repository m hm
  have hplain : ∀ s ∈ m.parts, s.Plain (repositoryFilling Name.packaged settings plan) :=
    Stub.plain_of_literal hstands.literal fun name hname =>
      free_written hbuilt h _ settings name
        (written_of_stub m hm name (List.mem_filterMap.mpr ⟨_, hname, rfl⟩))
  have hinside := MethodStub.isInfix_render hplain (lettered_repositoryFilling _ settings plan)
    (keys_repositoryFilling _ settings plan) hstands
  exact (Php.Method.sends (MethodStub.plain_fill hplain) hinside :)

/-- `delete` sends the statement that deletes a row or marks it as deleted, with the key. -/
theorem sends_delete (settings : Settings) :
    Sends (repository Name.packaged settings plan).content "delete" plan.deleteStatement ["$id"] := by
  have hsends := sends_of_stub hbuilt h settings (m := deleteStub) (by simp)
  have hdelete : List.lookup "deleteStatement" (repositoryFilling Name.packaged settings plan) =
      some plan.deleteStatement := rfl
  rw [deleteStub, statement_keyStub hdelete, items_keyStub] at hsends
  exact hsends

/-- `restore` sends the statement that takes the mark of deletion away, with the key. -/
theorem sends_restore (settings : Settings) {statement : String}
    (hstatement : restoring? plan = some statement) :
    Sends (repository Name.packaged settings plan).content "restore" statement ["$id"] := by
  have hfree : Free valueMarks statement := by
    have htable : Free valueMarks plan.tableName := by
      rw [hbuilt.eq_planOf]
      exact h.name
    rw [eq_of_restoring hbuilt hstatement]
    exact free_restoreStatement htable
  have hlookup : List.lookup "restoreStatement" (restoreFilling plan statement) = some statement := rfl
  have hplain : ∀ s ∈ restoreStub.parts, s.Plain (restoreFilling plan statement) := by
    refine Stub.plain_of_literal standsIn_repositoryRestore.literal fun name hname => ?_
    have hone : holes restoreStub.parts = ["restoreStatement"] := by decide
    have hmem : name ∈ holes restoreStub.parts := List.mem_filterMap.mpr ⟨_, hname, rfl⟩
    rw [hone, List.mem_singleton] at hmem
    exact ⟨statement, by rw [hmem, hlookup], hfree⟩
  have hlettered : (restoreFilling plan statement).Lettered := by
    unfold Filling.Lettered restoreFilling
    simp only [List.forall_mem_cons]
    exact ⟨Stub.lettered_literal (by decide), Stub.lettered_literal (by decide), by simp⟩
  have hmethod := MethodStub.isInfix_render hplain hlettered (by simp [restoreFilling])
    standsIn_repositoryRestore
  have hvalue : repositoryRestore Name.packaged plan =
      Stub.render Name.repositoryRestore.template.text (restoreFilling plan statement) := by
    unfold repositoryRestore
    rw [hstatement]
    rfl
  have hplace := repositoryRestore_isInfix settings plan
  rw [hvalue] at hplace
  have hsends : Sends (repository Name.packaged settings plan).content "restore"
      (restoreStub.statement.fill (restoreFilling plan statement))
      (items (restoreStub.values.fill (restoreFilling plan statement)).toList) :=
    (Php.Method.sends (MethodStub.plain_fill hplain) (hmethod.trans hplace) :)
  rw [restoreStub, statement_keyStub hlookup, items_keyStub] at hsends
  exact hsends

end Values

/-- `create` sends the statement that inserts a row, with the value of each fillable column. -/
theorem sends_create (h : Harmless nameMarks table) (settings : Settings) :
    Sends (repository Name.packaged settings plan).content "create" (insertStatement plan)
      (plan.fillableColumns.map modelValue) := by
  have hsends := sends_of_stub hbuilt (h.mono valueMarks_subset) settings (m := createStub) (by simp)
  rw [statement_createStub, values_createStub] at hsends
  have hgap : items "        ".toList = [] := by decide +kernel
  rw [items_executeParams (free_fillable hbuilt h), hgap, List.append_nil] at hsends
  exact hsends

/-- `update` sends the statement that updates a row, with the same values and the key. -/
theorem sends_update (h : Harmless nameMarks table) (settings : Settings) :
    Sends (repository Name.packaged settings plan).content "update" (updateStatement plan)
      (plan.fillableColumns.map modelValue ++ [keyValue]) := by
  have hsends := sends_of_stub hbuilt (h.mono valueMarks_subset) settings (m := updateStub) (by simp)
  rw [statement_updateStub, values_updateStub] at hsends
  have hkey : items "            $model->id,\n        ".toList = [keyValue] := by decide +kernel
  rw [items_executeParams (free_fillable hbuilt h), hkey] at hsends
  exact hsends

end Sending

end Scaffold.Render
