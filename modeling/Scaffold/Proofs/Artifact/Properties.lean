import Scaffold.Artifact.Render
import Scaffold.Proofs.Artifact.Fragment
import Scaffold.Proofs.Plan.Query
import Scaffold.Stub.Packaged

/-!
# The properties that model and repository share

A repository writes the object of a row in three places: where a statement is given its values, where the
rows of parents are attached, and where an update names its row. The first two use what the columns and
relations give, and the model declares all of that. The third is in the template and takes the key for
granted, whether the table has it or not.

* `PlainNames`: names without dollar signs, as all names are that the parser reads.
* `Plan.properties`: what the columns and relations of a plan give.
* `closed_repository`: a repository accesses the key and what the plan gives.
* `mem_declarations_model`: a model declares what the plan gives.
* `accessed_declared`: what the repository accesses the model declares, a missing key apart.
* `undeclared_accesses`: a table without a key, a parent called `models`, and a name with a dollar sign.
-/
namespace Scaffold

open Php (Compact Dollarless Closed Tame ClosedSegment accesses declarations nameAt?)
open Plan (Answered Built)
open Stub (Lettered Filling)

/-- The properties that the columns and relations of a plan give. -/
def Plan.properties (p : Plan) : List String :=
  (p.columns.map Naming.camel ++ p.relations.map (·.relationName)).filterMap fun name =>
    nameAt? name.toList

namespace Render

variable {σ : Type} {resolve : String → Action σ (Option Table)} {table : Table} {plan : Plan}
  {names : List String}

/-! ## Plans without variables -/

/-- No name of a table, of its keys or of the parents that are found has a dollar sign. -/
structure PlainNames (resolve : String → Action σ (Option Table)) (table : Table) : Prop where
  name : Dollarless table.name
  columns : ∀ column ∈ table.columns, Dollarless column
  keyColumns : ∀ fk ∈ table.foreignKeys, Dollarless fk.column
  parentTables : ∀ fk ∈ table.foreignKeys, Dollarless fk.parentTable
  parentColumns : ∀ fk ∈ table.foreignKeys, ∀ parent, Answered resolve fk.parentTable (some parent) →
    ∀ column ∈ parent.columns, Dollarless column

/-- The texts of a relation have no variables but those of its code. -/
structure PlainRelation (r : Relation) : Prop where
  name : Compact r.relationName
  parent : Compact r.parentModel
  join : ∀ clause, r.joinClause = some clause → Dollarless clause
  selects : ∀ column ∈ r.selectColumns, Dollarless column
  rule : ∀ rule, r.hydration = some rule → r.resolved = true ∧
    rule.relationName = r.relationName ∧ rule.parentModel = r.parentModel ∧
    ∀ m ∈ rule.mappings, Compact m.property ∧ Dollarless m.aliasName

theorem plainRelation (h : Built resolve table plan) (hnames : PlainNames resolve table)
    {r : Relation} (hr : r ∈ plan.relations) : PlainRelation r := by
  have hfk : r.foreignKey ∈ table.foreignKeys := by
    rw [← h.keys]
    exact List.mem_map_of_mem hr
  have hcolumn := hnames.keyColumns _ hfk
  have hparent := hnames.parentTables _ hfk
  have hname := Php.compact_relationName hparent
  obtain ⟨parent, hanswered, heq⟩ := h.planned r hr
  generalize r.foreignKey = fk at *
  subst heq
  cases parent with
  | none =>
    exact ⟨hname, Php.compact_modelName hparent, by simp [Plan.relationOf],
      by simp [Plan.relationOf], by simp [Plan.relationOf]⟩
  | some parent =>
    have hcolumns := hnames.parentColumns fk hfk parent hanswered
    have hmappings : ∀ m ∈ Plan.mappingsOf fk.parentTable parent.columns,
        Dollarless m.column ∧ Compact m.property ∧ Dollarless m.aliasName := by
      refine List.forall_mem_map.mpr fun column hcolumn => ?_
      have hplain := hcolumns column hcolumn
      exact ⟨hplain, Php.compact_camel hplain, Php.dollarless_relationAlias hname.dollar hplain⟩
    refine ⟨hname, Php.compact_modelName hparent, ?_, ?_, ?_⟩
    · intro clause hclause
      rw [Plan.relationOf_joinClause, Option.some.injEq] at hclause
      rw [← hclause]
      exact Php.dollarless_joinClause hnames.name hcolumn hparent
    · refine List.forall_mem_map.mpr fun m hm => ?_
      obtain ⟨hplain, -, halias⟩ := hmappings m hm
      exact Php.dollarless_selectColumn hparent hplain halias
    · intro rule hrule
      rw [Plan.relationOf_hydration, Option.map_some, Option.some.injEq] at hrule
      rw [← hrule]
      exact ⟨rfl, rfl, rfl, fun m hm => (hmappings m hm).2⟩

theorem mem_properties_of_column {column p : String} (h : column ∈ plan.columns)
    (hp : nameAt? (Naming.camel column).toList = some p) : p ∈ plan.properties :=
  List.mem_filterMap.mpr ⟨_, List.mem_append_left _ (List.mem_map_of_mem h), hp⟩

theorem mem_properties_of_relation {r : Relation} {p : String} (h : r ∈ plan.relations)
    (hp : nameAt? r.relationName.toList = some p) : p ∈ plan.properties :=
  List.mem_filterMap.mpr ⟨_, List.mem_append_right _ (List.mem_map_of_mem h), hp⟩

/-! ## The repository -/

/-- All that the templates of a repository say on their own is that the key is accessed. -/
theorem closed_templates :
    ∀ segment ∈ Stub.repositoryTemplate ++ Stub.repositoryRestoreTemplate,
      ClosedSegment [primaryKeyColumn] segment := by
  unfold Stub.repositoryTemplate Stub.repositoryRestoreTemplate
  simp only [List.forall_mem_append, List.forall_mem_cons, ClosedSegment]
  repeat' apply And.intro
  -- one goal for each line and for each name of a hole
  all_goals first
    | exact Php.closed_literal (List.Subset.refl _) (by decide)
    | exact Stub.lettered_literal (by decide)
    | intro _ hmem; cases hmem

theorem closed_repositoryTemplate (hkey : primaryKeyColumn ∈ names) :
    ∀ segment ∈ Stub.repositoryTemplate, ClosedSegment names segment := fun segment h =>
  (closed_templates segment (List.mem_append_left _ h)).mono
    (List.cons_subset.mpr ⟨hkey, List.nil_subset names⟩)

theorem closed_restoreTemplate (hkey : primaryKeyColumn ∈ names) :
    ∀ segment ∈ Stub.repositoryRestoreTemplate, ClosedSegment names segment := fun segment h =>
  (closed_templates segment (List.mem_append_right _ h)).mono
    (List.cons_subset.mpr ⟨hkey, List.nil_subset names⟩)

theorem lettered_repositoryFilling (stubs : Stubs) (settings : Settings) (plan : Plan) :
    (repositoryFilling stubs settings plan).Lettered := by
  unfold Filling.Lettered repositoryFilling
  simp only [List.forall_mem_cons]
  repeat' apply And.intro
  all_goals first
    | exact Stub.lettered_literal (by decide)
    | intro _ hmem; cases hmem

section Texts

variable (hbuilt : Built resolve table plan) (hplain : PlainNames resolve table)
include hbuilt hplain

theorem dollarless_tableName : Dollarless plan.tableName := by
  rw [hbuilt.eq_planOf]
  exact hplain.name

theorem dollarless_modelName : Dollarless plan.modelName := by
  rw [hbuilt.eq_planOf]
  exact (Php.compact_modelName hplain.name).dollar

theorem dollarless_fillable : ∀ column ∈ plan.fillableColumns, Dollarless column := by
  intro column hcolumn
  rw [hbuilt.eq_planOf] at hcolumn
  exact hplain.columns column (List.mem_filter.mp hcolumn).1

theorem dollarless_selectColumns :
    Dollarless (Text.join selectSeparator plan.selectColumns) := by
  refine Php.dollarless_join (by simp [Dollarless, selectSeparator]) ?_
  unfold Plan.selectColumns
  refine List.forall_mem_cons.mpr ⟨?_, fun column hcolumn => ?_⟩
  · have hname := Php.dollarless_quoteIdentifier (dollarless_tableName hbuilt hplain)
    simp only [Php.dollarless_append, hname]
    simp [Dollarless]
  · obtain ⟨r, hr, hcolumn⟩ := List.mem_flatMap.mp hcolumn
    exact (plainRelation hbuilt hplain (List.mem_of_mem_filter hr)).selects column hcolumn

theorem dollarless_joins : Dollarless (Php.joinLines plan.joinClauses) := by
  refine Php.dollarless_joinLines fun clause hclause => ?_
  obtain ⟨r, hr, hclause⟩ := List.mem_filterMap.mp hclause
  exact (plainRelation hbuilt hplain (List.mem_of_mem_filter hr)).join clause
    (Option.filter_eq_some_iff.mp hclause).1

theorem dollarless_live : Dollarless plan.whereLive ∧ Dollarless plan.andLive := by
  have hlive := Php.dollarless_liveCondition hplain.name
  rw [hbuilt.eq_planOf]
  unfold Plan.planOf
  dsimp only
  split
  · simp only [Php.dollarless_append, hlive]
    simp [Dollarless]
  · simp [Dollarless]

theorem dollarless_deletion : Dollarless plan.deleteStatement := by
  rw [hbuilt.eq_planOf]
  exact Php.dollarless_deleteStatement hplain.name _

theorem dollarless_writing : Dollarless (Text.join ", " plan.insertColumns) ∧
    Dollarless (Text.join ", " plan.placeholders) ∧
    Dollarless (Text.join ", " plan.assignments) := by
  have hfillable := dollarless_fillable hbuilt hplain
  rw [hbuilt.eq_planOf] at hfillable ⊢
  exact ⟨Php.dollarless_insertColumns hfillable, Php.dollarless_placeholders _,
    Php.dollarless_assignments hfillable⟩

theorem dollarless_restoring {statement : String} (h : restoring? plan = some statement) :
    Dollarless statement := by
  rw [hbuilt.eq_planOf] at h
  unfold restoring? at h
  split at h
  · have hstatement := (Option.filter_eq_some_iff.mp h).1
    unfold Plan.planOf at hstatement
    dsimp only at hstatement
    split at hstatement
    · cases hstatement
      exact Php.dollarless_restoreStatement hplain.name
    · cases hstatement
  · cases h

theorem closed_restore (hkey : primaryKeyColumn ∈ names) :
    Closed names (repositoryRestore Stub.Name.packaged plan).toList := by
  unfold repositoryRestore
  split
  · rename_i statement hstatement
    refine Php.closed_render (closed_restoreTemplate hkey) ?_ ?_
    · unfold Filling.Lettered
      simp only [List.forall_mem_cons]
      exact ⟨Stub.lettered_literal (by decide), Stub.lettered_literal (by decide), by simp⟩
    · simp only [List.forall_mem_cons]
      exact ⟨(dollarless_restoring hbuilt hplain hstatement).closed,
        (dollarless_tableName hbuilt hplain).closed, by simp⟩
  · exact Php.closed_nil

theorem closed_hydration (hmodel : ∀ r ∈ plan.resolvedRelations, r.relationName ≠ "model")
    (hsub : plan.properties ⊆ names) :
    Closed names (String.join (plan.hydrationRules.map Hydration.Rule.text)).toList := by
  refine Php.closed_concat (List.forall_mem_map.mpr fun rule hrule => Php.closed_rule ?_)
  obtain ⟨r, hr, hrule⟩ := List.mem_filterMap.mp hrule
  have hrelation := plainRelation hbuilt hplain hr
  obtain ⟨hresolved, hname, hparent, hmappings⟩ := hrelation.rule rule hrule
  refine ⟨?_, ?_, ?_, fun m hm => (hmappings m hm).1, fun m hm => (hmappings m hm).2, ?_⟩
  · rw [hname]; exact hrelation.name
  · rw [hname]; exact hmodel r (List.mem_filter.mpr ⟨hr, hresolved⟩)
  · rw [hparent]; exact hrelation.parent
  · rw [hname]; exact fun p hp => hsub (mem_properties_of_relation hr hp)

theorem closed_params (hsub : plan.properties ⊆ names) :
    Closed names (Php.executeParams plan.fillableColumns).toList := by
  refine Php.closed_executeParams (dollarless_fillable hbuilt hplain) fun column hcolumn p hp => ?_
  refine hsub (mem_properties_of_column ?_ hp)
  rw [hbuilt.eq_planOf] at hcolumn ⊢
  exact (List.mem_filter.mp hcolumn).1

theorem dollarless_uses {namespaceName : String} (hnamespace : Dollarless namespaceName) :
    Dollarless (Text.join "\n" (Php.useLines namespaceName
      (plan.modelName :: plan.relations.map (·.parentModel)) [])) := by
  refine Php.dollarless_join (by simp [Dollarless]) (Php.dollarless_useLines hnamespace ?_ [])
  refine List.forall_mem_cons.mpr ⟨dollarless_modelName hbuilt hplain,
    List.forall_mem_map.mpr fun r hr => (plainRelation hbuilt hplain hr).parent.dollar⟩

/-- A repository accesses the key and what the columns and relations give. -/
theorem closed_repository {settings : Settings} (hnamespace : Dollarless settings.rootNamespace)
    (hmodel : ∀ r ∈ plan.resolvedRelations, r.relationName ≠ "model") :
    Closed (primaryKeyColumn :: plan.properties)
      (repository Stub.Name.packaged settings plan).content.toList := by
  have hsub : plan.properties ⊆ primaryKeyColumn :: plan.properties := List.subset_cons_self _ _
  have hname := dollarless_modelName hbuilt hplain
  have htable := dollarless_tableName hbuilt hplain
  have hmodels : Dollarless settings.modelsNamespace := by
    simp only [Settings.modelsNamespace, Php.dollarless_append, hnamespace]
    simp [Dollarless]
  have hrepositories : Dollarless settings.repositoriesNamespace := by
    simp only [Settings.repositoriesNamespace, Php.dollarless_append, hnamespace]
    simp [Dollarless]
  have hclass : Dollarless (repositoryName plan) := by
    simp only [repositoryName, Php.dollarless_append, hname]
    simp [Dollarless]
  obtain ⟨hwhere, hand⟩ := dollarless_live hbuilt hplain
  obtain ⟨hinsert, hplaceholders, hassignments⟩ := dollarless_writing hbuilt hplain
  have hparams := closed_params hbuilt hplain hsub
  refine Php.closed_render (closed_repositoryTemplate List.mem_cons_self) ?_ ?_
  · exact lettered_repositoryFilling _ settings plan
  · unfold repositoryFilling
    simp only [List.forall_mem_cons]
    exact ⟨hrepositories.closed, hclass.closed, (dollarless_uses hbuilt hplain hmodels).closed,
      hname.closed, htable.closed, (dollarless_selectColumns hbuilt hplain).closed,
      (dollarless_joins hbuilt hplain).closed, closed_hydration hbuilt hplain hmodel hsub,
      hwhere.closed, hand.closed, hinsert.closed, hplaceholders.closed, hparams,
      hassignments.closed, hparams, (dollarless_deletion hbuilt hplain).closed,
      closed_restore hbuilt hplain List.mem_cons_self, by simp⟩

end Texts

/-! ## The model -/

theorem lettered_modelFilling (settings : Settings) (plan : Plan) :
    (modelFilling settings plan).Lettered := by
  unfold Filling.Lettered modelFilling
  simp only [List.forall_mem_cons]
  exact ⟨Stub.lettered_literal (by decide), Stub.lettered_literal (by decide),
    Stub.lettered_literal (by decide), Stub.lettered_literal (by decide), by simp⟩

/-- The properties are the last that is put into the model, on lines of their own. -/
theorem properties_isInfix_model (settings : Settings) (plan : Plan) :
    (Php.modelProperties plan settings.modelsNamespace).toList <:+:
      (model Stub.Name.packaged settings plan).content.toList := by
  have hhole : '\n' :: ((Stub.hole "properties").toList ++ ['\n']) <:+:
      Stub.modelTemplate.text.toList :=
    Stub.hole_isInfix ["", "\x7b"] (by simp) ⟨Stub.modelTemplate.take 6, [], rfl⟩
  unfold model Stub.render
  rw [String.toList_ofList]
  exact Stub.isInfix_renderChars_hole (modelFilling settings plan).dropLast []
    (lettered_modelFilling settings plan) (by simp [modelFilling]) (by decide) (by decide) hhole

/-- What the columns and relations of a plan give is declared in the model. -/
theorem mem_declarations_model {settings : Settings} {p : String} (h : p ∈ plan.properties) :
    p ∈ declarations (model Stub.Name.packaged settings plan).content := by
  have hinside := properties_isInfix_model settings plan
  obtain ⟨name, hname, hp⟩ := List.mem_filterMap.mp h
  rcases List.mem_append.mp hname with hname | hname
  · obtain ⟨column, hcolumn, rfl⟩ := List.mem_map.mp hname
    exact Php.mem_declarations_of_column hinside hcolumn hp
  · obtain ⟨r, hr, rfl⟩ := List.mem_map.mp hname
    exact Php.mem_declarations_of_relation hinside hr hp

/-- Names that the parser reads have no dollar signs. -/
theorem plainNames_of_parse {text : String} {source : Option String}
    (hparse : Table.parse text source = .ok table)
    (hparents : ∀ fk ∈ table.foreignKeys, ∀ parent, Answered resolve fk.parentTable (some parent) →
      ∀ column ∈ parent.columns, Dollarless column) : PlainNames resolve table := by
  have hworded := Schema.worded_of_parse hparse
  have hplain : ∀ {name : String}, Schema.IsName name → Dollarless name := fun h =>
    h.not_mem (by decide)
  exact ⟨hplain hworded.name, fun c hc => hplain (hworded.columns c hc),
    fun fk hfk => hplain (hworded.keyColumns fk hfk),
    fun fk hfk => hplain (hworded.parentTables fk hfk), hparents⟩

/-- The statement that updates a row accesses the key, whatever the table. -/
theorem key_accessed (settings : Settings) (plan : Plan) :
    primaryKeyColumn ∈ accesses (repository Stub.Name.packaged settings plan).content := by
  have hlines : .lines ["", "            $model->id,", "        ]);", "    \x7d", "",
      "    public function delete(int $id): bool", "    \x7b",
      "        $stmt = $this->db->prepare(\""] ∈ Stub.repositoryTemplate := by
    exact List.mem_of_getElem? (i := 46) rfl
  have hline : '$' :: ("model->id".toList ++ [',']) <:+: "            $model->id,".toList :=
    ⟨List.replicate 12 ' ', [], by decide⟩
  have htext := hline.trans (Stub.line_isInfix hlines (by decide))
  exact Php.mem_accesses_of_template (lettered_repositoryFilling _ settings plan) (by decide)
    (Stub.unmarked_of_not_mem (by decide)) htext (by decide)

/-! ## Both together -/

/-- Every property of `$model` that the repository of a plan accesses by name is declared in the model, but
for the key where nothing gives it. -/
theorem accessed_declared [Journaled σ] {s s' : σ} {settings : Settings}
    (hbuild : (Plan.build table resolve).run s = (.ok plan, s')) (hplain : PlainNames resolve table)
    (hnamespace : ∀ c ∈ settings.rootNamespace.toList, Text.isWord c = true ∨ c = '\\')
    (hmodel : ∀ r ∈ plan.resolvedRelations, r.relationName ≠ "model") :
    ∀ p ∈ accesses (repository Stub.Name.packaged settings plan).content,
      p ∈ declarations (model Stub.Name.packaged settings plan).content ∨
        p = primaryKeyColumn ∧ primaryKeyColumn ∉ plan.properties := by
  have hroot : Dollarless settings.rootNamespace := by
    intro hdollar
    rcases hnamespace _ hdollar with hword | hslash
    · exact absurd hword (by decide)
    · exact absurd hslash (by decide)
  intro p hp
  have hclosed := closed_repository (Plan.built_of_build hbuild) hplain hroot hmodel
  rcases List.mem_cons.mp (Php.mem_of_closed hclosed hp) with rfl | hp
  · by_cases hkey : primaryKeyColumn ∈ plan.properties
    · exact .inl (mem_declarations_model hkey)
    · exact .inr ⟨rfl, hkey⟩
  · exact .inl (mem_declarations_model hp)

theorem findUsers_plain : PlainNames Plan.findUsers Plan.orders := by
  refine plainNames_of_parse Plan.orders_read fun fk _ parent hanswered column hcolumn => ?_
  obtain ⟨s, s', hanswered⟩ := hanswered
  cases hanswered
  rw [List.mem_singleton.mp hcolumn]
  simp [Dollarless]

/-- The repository of the orders accesses nothing that their model does not declare. -/
theorem orders_declared :
    ∃ plan w, (Plan.build Plan.orders Plan.findUsers).run {} = (.ok plan, w) ∧
      PlainNames Plan.findUsers Plan.orders ∧
      (∀ c ∈ ({} : Settings).rootNamespace.toList, Text.isWord c = true ∨ c = '\\') ∧
      (∀ r ∈ plan.resolvedRelations, r.relationName ≠ "model") ∧
      primaryKeyColumn ∈ accesses (repository Stub.Name.packaged {} plan).content ∧
      ∀ p ∈ accesses (repository Stub.Name.packaged {} plan).content,
        p ∈ declarations (model Stub.Name.packaged {} plan).content := by
  obtain ⟨w, hbuild⟩ := Plan.orders_built
  have hnamespace : ∀ c ∈ ({} : Settings).rootNamespace.toList,
      Text.isWord c = true ∨ c = '\\' := Text.forall_mem_of_all (by decide +kernel)
  have hmodel : ∀ r ∈ Plan.ordersPlan.resolvedRelations, r.relationName ≠ "model" := by
    decide +kernel
  refine ⟨_, w, hbuild, findUsers_plain, hnamespace, hmodel, key_accessed _ _, fun p hp => ?_⟩
  rcases accessed_declared hbuild findUsers_plain hnamespace hmodel p hp with hdeclared | ⟨-, hkey⟩
  · exact hdeclared
  · exact absurd (by decide +kernel) hkey

/-! ## What is not declared -/

theorem declarations_model (settings : Settings) (plan : Plan) :
    declarations (model Stub.Name.packaged settings plan).content =
      Php.readAll Php.declaration? (Stub.renderChars Stub.modelTemplate.text.toList
        (modelFilling settings plan)) := by
  unfold model Stub.render declarations
  rw [String.toList_ofList]
  rfl

/-- Under default settings the repository of a table accesses a property that the model does not declare. -/
def Undeclared (table : Table) (resolve : String → Action Workspace (Option Table)) (p : String) :
    Prop :=
  ∃ plan w, (Plan.build table resolve).run {} = (.ok plan, w) ∧
    p ∈ accesses (repository Stub.Name.packaged {} plan).content ∧
    p ∉ declarations (model Stub.Name.packaged {} plan).content

/-- A table of messages without a key. -/
def logs : Table := { name := "logs", columns := ["msg"] }

/-- A table of engines with a key to their models. -/
def engines : Table where
  name := "engines"
  columns := ["id", "model_id"]
  foreignKeys := [⟨"model_id", "models", "id"⟩]

/-- A table whose name PHP reads as more than a name. -/
def odd : Table := { name := "a$model->b.", columns := ["id"] }

/-- A look-up that finds nothing. -/
def findNone : String → Action Workspace (Option Table) := fun _ => pure none

/-- A look-up that finds models. -/
def findModels : String → Action Workspace (Option Table) := fun _ =>
  pure (some { name := "models", columns := ["label"] })

/-- Nothing gives the key that the update names. -/
theorem logs_undeclared : Undeclared logs findNone primaryKeyColumn := by
  obtain ⟨w, hbuild⟩ : ∃ w, (Plan.build logs findNone).run {} = (.ok (Plan.planOf logs []), w) :=
    Action.exists_run (by decide +kernel)
  refine ⟨_, w, hbuild, key_accessed {} _, ?_⟩
  rw [declarations_model]
  decide +kernel

/-- The object of the parent is held in the variable of the row's own object. -/
theorem engines_undeclared : Undeclared engines findModels "label" := by
  obtain ⟨w, hbuild⟩ : ∃ w, (Plan.build engines findModels).run {} =
      (.ok (Plan.planOf engines [Plan.relationOf "engines" ⟨"model_id", "models", "id"⟩
        (some { name := "models", columns := ["label"] })]), w) :=
    Action.exists_run (by decide +kernel)
  refine ⟨_, w, hbuild, ?_, ?_⟩
  · have hhole : '\n' :: ((Stub.hole "hydrationLogic").toList ++ ['\n']) <:+:
        Stub.repositoryTemplate.text.toList :=
      Stub.hole_isInfix ["();"] (by simp)
        ⟨Stub.repositoryTemplate.take 54, [], rfl⟩
    have hline : Hydration.innerIndent ++
        (Hydration.Simple.assign "model" "label" "model_label").line ∈
          (Plan.ruleOf "models" ["label"]).block.flatMap Hydration.Statement.lines := by
      decide +kernel
    have hvalue : '$' :: ("model->label ".toList ++ ['=']) <:+:
        (String.join [(Plan.ruleOf "models" ["label"]).text]).toList := by
      rw [String.toList_join, List.flatMap_singleton]
      refine List.IsInfix.trans ?_ (Text.isInfix_join "\n" hline)
      exact ⟨List.replicate 12 ' ', " $row['model_label'];".toList, by decide +kernel⟩
    exact Php.mem_accesses_of_value ((repositoryFilling Stub.Name.packaged {} _).take 7)
      ((repositoryFilling Stub.Name.packaged {} _).drop 8) rfl
      (lettered_repositoryFilling _ {} _) (by decide) (by decide) (by decide) hhole (by decide)
      (Stub.unmarked_of_not_mem (by decide)) hvalue (by decide)
  · rw [declarations_model]
    decide +kernel

/-- PHP reads a variable out of the name of the table in a query. -/
theorem odd_undeclared : Undeclared odd findNone "b" := by
  obtain ⟨w, hbuild⟩ : ∃ w, (Plan.build odd findNone).run {} = (.ok (Plan.planOf odd []), w) :=
    Action.exists_run (by decide +kernel)
  refine ⟨_, w, hbuild, ?_, ?_⟩
  · have hpieces : [.lines ["", "        FROM `"], .blank "tableName", .lines ["`"]] <:+:
        Stub.repositoryTemplate :=
      ⟨Stub.repositoryTemplate.take 10, Stub.repositoryTemplate.drop 13, rfl⟩
    have hhole : '`' :: ((Stub.hole "tableName").toList ++ ['`']) <:+:
        Stub.repositoryTemplate.text.toList := by
      refine List.IsInfix.trans ?_ (Stub.toList_text_isInfix hpieces)
      exact ⟨"\n        FROM ".toList, [], by simp [Stub.Template.text, Stub.Segment.text, Text.join]⟩
    have hvalue : '$' :: ("model->b".toList ++ ['.']) <:+: odd.name.toList :=
      ⟨['a'], [], by decide⟩
    exact Php.mem_accesses_of_value ((repositoryFilling Stub.Name.packaged {} _).take 4)
      ((repositoryFilling Stub.Name.packaged {} _).drop 5) rfl
      (lettered_repositoryFilling _ {} _) (by decide) (by decide) (by decide) hhole (by decide)
      (Stub.unmarked_of_not_mem (by decide)) hvalue (by decide)
  · rw [declarations_model]
    decide +kernel

/-- What a repository accesses need not be declared: a table may have no key, the name of a relation may be
the one of the variable, and a name may begin a variable itself. -/
theorem undeclared_accesses : Undeclared logs findNone primaryKeyColumn ∧
    Undeclared engines findModels "label" ∧ Undeclared odd findNone "b" :=
  ⟨logs_undeclared, engines_undeclared, odd_undeclared⟩

end Render

end Scaffold
