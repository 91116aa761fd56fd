import Scaffold.Proofs.Artifact.Imports

/-!
# A repository and the models of its parents

The code that folds a row creates an object of the class of each parent and assigns to its attributes what
the row has of the parent. The class is declared in another file, made from another plan: the model of the
parent. Both are named after the same table, so they fit together, but for two names that the code around
them has taken: the class `PDO` of the database connection, and the variable `model` of the object to which
that of the parent is attached.

* `created`, `assigned`: what a block creates, and what it assigns on an object.
* `DeclaresClass`, `DeclaresProperty`: what a text declares.
* `Links`: a repository and the model of a parent fit together.
* `links_iff`: they do exactly if neither name is taken, or a taken variable does no harm.
* `models_do_not_link`: a parent called `models`, to which the code attaches itself.
-/
namespace Scaffold.Hydration

/-! ## What a block creates and assigns -/

/-- The object that a statement creates, with its class. -/
def Statement.created? : Statement → Option (String × String)
  | .create object model => some (object, model)
  | _ => none

/-- The attribute of an object that a statement without a body assigns. What is attached is attached to the
object that `model` holds. -/
def Simple.assigned? (object : String) : Simple → Option String
  | .assign owner property _ => if owner = object then some property else none
  | .attach property _ => if object = "model" then some property else none
  | _ => none

/-- The attributes of an object that a statement assigns. -/
def Statement.assigned (object : String) : Statement → List String
  | .whenSet _ body => body.filterMap (Simple.assigned? object)
  | .whenRaised _ body => body.filterMap (Simple.assigned? object)
  | _ => []

/-- The objects that a block creates, each with its class. -/
def created (block : List Statement) : List (String × String) := block.filterMap Statement.created?

/-- The attributes of an object that a block assigns. -/
def assigned (object : String) (block : List Statement) : List String :=
  block.flatMap (Statement.assigned object)

theorem created_block (rule : Rule) : created rule.block = [(rule.relationName, rule.parentModel)] := by
  have hmappings : (rule.mappings.map (Mapping.statement rule)).filterMap Statement.created? = [] :=
    List.filterMap_eq_nil_iff.mpr (List.forall_mem_map.mpr fun m _ => rfl)
  rw [created, Rule.block, List.filterMap_append, List.filterMap_append, hmappings]
  rfl

/-- A block assigns the attributes of the mappings, and the attachment is an assignment to the object itself
if that is held in `model`. -/
theorem assigned_block (rule : Rule) : assigned rule.relationName rule.block =
    rule.mappings.map (·.property) ++ if rule.relationName = "model" then [rule.relationName] else [] := by
  have hmapping : ∀ m : Mapping, (m.statement rule).assigned rule.relationName = [m.property] := by
    intro m
    simp [Mapping.statement, Statement.assigned, Simple.assigned?]
  have hmappings : (rule.mappings.map (Mapping.statement rule)).flatMap
      (Statement.assigned rule.relationName) = rule.mappings.map (·.property) := by
    rw [List.flatMap_map, List.map_eq_flatMap]
    simp only [hmapping]
  have hattached : (Statement.whenRaised rule.flag
      [.attach rule.relationName rule.relationName]).assigned rule.relationName =
        if rule.relationName = "model" then [rule.relationName] else [] := by
    by_cases h : rule.relationName = "model" <;> simp [Statement.assigned, Simple.assigned?, h]
  rw [assigned, Rule.block, List.flatMap_append, List.flatMap_append, hmappings, List.flatMap_singleton,
    hattached]
  rfl

/-- How an object is created. -/
def creation (object model : String) : String := "$" ++ object ++ " = new " ++ model ++ "();"

theorem creation_isInfix (rule : Rule) :
    (creation rule.relationName rule.parentModel).toList <:+: rule.text.toList := by
  have hline : indent ++ creation rule.relationName rule.parentModel ∈
      rule.block.flatMap Statement.lines := by
    refine List.mem_flatMap.mpr ⟨.create rule.relationName rule.parentModel, by simp [Rule.block], ?_⟩
    simp [Statement.lines, creation, String.append_assoc]
  refine List.IsInfix.trans ?_ (Text.isInfix_join "\n" hline)
  rw [String.toList_append]
  exact (List.suffix_append _ _).isInfix

end Scaffold.Hydration

namespace Scaffold

/-! ## What a model declares -/

/-- A text declares a class: its namespace is stated at the start, and a line begins the class. -/
structure Php.DeclaresClass (text namespaceName name : String) : Prop where
  head : ("<?php\n\nnamespace " ++ namespaceName ++ ";\n").toList <+: text.toList
  line : ("\nclass " ++ name ++ "\n").toList <:+: text.toList

/-- A text declares a property, as that of a column or as that of a relation. -/
def Php.DeclaresProperty (text property : String) : Prop :=
  (propertyLine "string" property).toList <:+: text.toList ∨
    (propertyLine "object" property).toList <:+: text.toList

instance (text property : String) : Decidable (Php.DeclaresProperty text property) :=
  inferInstanceAs (Decidable (_ ∨ _))

namespace Render

open Php (DeclaresClass DeclaresProperty Spelt importsOf)
open Plan (Known)
open Stub (Filling Name Template)
open Text (Over)

/-- The template of a model down to its namespace. -/
def modelHead : Template := [.lines ["<?php", "", "namespace "], .blank "namespace", .lines [";"]]

/-- The template of the line that begins the class of a model, with the imports that stand before it. -/
def classLine : Template := [.blank "useStatements", .lines ["class "], .blank "modelName"]

/-- The template of the body of a model. -/
def modelBody : Template := [.lines ["\x7b", ""], .blank "properties", .lines ["", "\x7d", ""]]

theorem toList_modelTemplate : (Name.packaged .model).toList = modelHead.text.toList ++
    '\n' :: ([] ++ '\n' :: (classLine.text.toList ++ '\n' :: modelBody.text.toList)) := by
  decide +kernel

section ClassLine

variable {name : String} (hname : Spelt name)
include hname

/-- The line that begins a class, without what stands before it. -/
theorem renderChars_className (later : Filling) :
    Stub.renderChars (Template.text [.lines ["class "], .blank "modelName"]).toList
      (("modelName", name) :: later) = ("class " ++ name).toList := by
  have hfills : Fills [.lines ["class "], .blank "modelName"] [("modelName", name)] := by
    refine fills_of_names ["modelName"] rfl (Text.forall_mem_of_all (by decide)) (by decide) ?_
    simp only [List.forall_mem_cons]
    exact ⟨bare_of_spelt hname, by simp⟩
  have hlookup : List.lookup "modelName" [("modelName", name)] = some name := rfl
  have hfilled : Template.fill [.lines ["class "], .blank "modelName"] [("modelName", name)] =
      "class " ++ name := by
    simp [Stub.fill_cons, Stub.fill_nil, Stub.text_fill_lines, Stub.text_fill_blank hlookup]
  rw [← hfilled]
  exact hfills.renderChars_append (by decide +kernel) later

/-- A line of its own begins the class, whatever is imported, as long as the imports end their last line. -/
theorem exists_classLine (namespaceName properties : String) {imports : String}
    (himports : imports = "" ∨ ∃ start, imports = start ++ "\n") :
    ∃ before, '\n' :: Stub.renderChars classLine.text.toList [("namespace", namespaceName),
      ("useStatements", imports), ("modelName", name), ("properties", properties)] =
        before ++ '\n' :: ("class " ++ name).toList := by
  have hsound : classLine.Sound := by decide +kernel
  have hnamespace : Stub.replaceAll (Stub.hole "namespace").toList namespaceName.toList
      classLine.text.toList = classLine.text.toList := by
    rw [Stub.replaceAll_text hsound (by decide)]
    rfl
  have hfirst : Stub.replaceAll (Stub.hole "useStatements").toList imports.toList
      classLine.text.toList =
        imports.toList ++ (Template.text [.lines ["class "], .blank "modelName"]).toList := by
    rw [Stub.replaceAll_text hsound (by decide)]
    exact Stub.toList_text_cons (.lines [imports]) _
  have hlettered : Filling.Lettered [("modelName", name), ("properties", properties)] := by
    unfold Filling.Lettered
    simp only [List.forall_mem_cons]
    exact ⟨Stub.lettered_literal (by decide), Stub.lettered_literal (by decide), by simp⟩
  have hsteps : Stub.renderChars classLine.text.toList [("namespace", namespaceName),
      ("useStatements", imports), ("modelName", name), ("properties", properties)] =
        Stub.renderChars (imports.toList ++
          (Template.text [.lines ["class "], .blank "modelName"]).toList)
            [("modelName", name), ("properties", properties)] := by
    rw [← hfirst, ← hnamespace]
    rfl
  rw [hsteps]
  rcases himports with rfl | ⟨start, rfl⟩
  · exact ⟨[], congrArg _ (renderChars_className hname _)⟩
  · rw [String.toList_append, List.append_assoc]
    refine ⟨'\n' :: Stub.renderChars start.toList [("modelName", name), ("properties", properties)], ?_⟩
    have hbreak : "\n".toList ++ (Template.text [.lines ["class "], .blank "modelName"]).toList =
        '\n' :: (Template.text [.lines ["class "], .blank "modelName"]).toList := rfl
    rw [hbreak, Stub.renderChars_append_cons hlettered (by decide), renderChars_className hname]
    rfl

end ClassLine

/-- The model of a plan declares its class in the namespace of the models, whatever it imports and whatever
its properties are called. -/
theorem declaresClass_model {settings : Settings} {plan : Plan} (hname : Spelt plan.modelName)
    (hnamespace : Over (fun c => Php.isValueChar c = true) settings.rootNamespace) :
    DeclaresClass (model Name.packaged settings plan).content settings.modelsNamespace plan.modelName := by
  have hlettered := lettered_modelFilling settings plan
  have hmodels := (over_namespaces ne_brace_of_isValueChar (hnamespace.mono ne_brace_of_isValueChar)).1
  have hfills : Fills modelHead [("namespace", settings.modelsNamespace)] := by
    refine fills_of_names ["namespace"] rfl (Text.forall_mem_of_all (by decide)) (by decide) ?_
    simp only [List.forall_mem_cons]
    exact ⟨Unopened.bare hmodels, by simp⟩
  have hlookup : List.lookup "namespace" [("namespace", settings.modelsNamespace)] =
      some settings.modelsNamespace := rfl
  have hfilled : modelHead.fill [("namespace", settings.modelsNamespace)] =
      "<?php\n\nnamespace " ++ settings.modelsNamespace ++ ";" := by
    have hlead : Text.join "\n" ["<?php", "", "namespace "] = "<?php\n\nnamespace " := by decide +kernel
    simp [modelHead, Stub.fill_cons, Stub.fill_nil, Stub.text_fill_lines, Stub.text_fill_blank hlookup,
      hlead, String.append_assoc]
  have hhead : Stub.renderChars modelHead.text.toList (modelFilling settings plan) =
      ("<?php\n\nnamespace " ++ settings.modelsNamespace ++ ";").toList := by
    rw [← hfilled]
    exact hfills.renderChars_append (by decide +kernel) _
  have himports : ∀ uses : List String, (if uses.isEmpty then "" else Text.join "\n" uses ++ "\n\n") = "" ∨
      ∃ start, (if uses.isEmpty then "" else Text.join "\n" uses ++ "\n\n") = start ++ "\n" := by
    intro uses
    split
    · exact .inl rfl
    · exact .inr ⟨Text.join "\n" uses ++ "\n", by rw [String.append_assoc]; rfl⟩
  obtain ⟨before, hclass⟩ := exists_classLine hname settings.modelsNamespace
    (Php.modelProperties plan settings.modelsNamespace) (himports (Php.useLines
      settings.modelsNamespace (plan.relations.map (·.parentModel)) [plan.modelName]))
  have htext : (model Name.packaged settings plan).content.toList =
      ("<?php\n\nnamespace " ++ settings.modelsNamespace ++ ";").toList ++ '\n' ::
        (before ++ '\n' :: ("class " ++ plan.modelName).toList ++ '\n' ::
          Stub.renderChars modelBody.text.toList (modelFilling settings plan)) := by
    unfold model Stub.render
    dsimp only
    rw [String.toList_ofList, toList_modelTemplate, Stub.renderChars_append_cons hlettered (by decide),
      Stub.renderChars_append_cons hlettered (by decide),
      Stub.renderChars_append_cons hlettered (by decide), hhead, ← hclass]
    rfl
  have hstart : ("<?php\n\nnamespace " ++ settings.modelsNamespace ++ ";\n").toList =
      ("<?php\n\nnamespace " ++ settings.modelsNamespace ++ ";").toList ++ ['\n'] := by
    simp [String.toList_append]
  have hline : ("\nclass " ++ plan.modelName ++ "\n").toList =
      '\n' :: ("class " ++ plan.modelName).toList ++ ['\n'] := by
    simp [String.toList_append]
  refine ⟨?_, ?_⟩
  · rw [htext, hstart]
    exact ⟨_, List.append_assoc _ _ _⟩
  · rw [htext, hline]
    exact ⟨("<?php\n\nnamespace " ++ settings.modelsNamespace ++ ";").toList ++ '\n' :: before,
      Stub.renderChars modelBody.text.toList (modelFilling settings plan), by simp⟩

/-- The model of a plan declares a property for each column, whatever the column is called. -/
theorem declaresProperty_column {settings : Settings} {plan : Plan} {column : String}
    (h : column ∈ plan.columns) :
    DeclaresProperty (model Name.packaged settings plan).content (Naming.camel column) := by
  have hline : Php.propertyLine "string" (Naming.camel column) ∈ plan.columns.map Php.columnProperty ++
      (Php.firstRelations [] plan.relations).flatMap
        (Php.relationProperty settings.modelsNamespace) := by
    rw [Php.propertyLine_string]
    exact List.mem_append_left _ (List.mem_map_of_mem h)
  exact .inl ((Text.isInfix_join "\n" hline).trans (properties_isInfix_model settings plan))

/-! ## Both together -/

/-- A repository and the model of a parent fit together: the code of the rule creates an object of a class
that the repository imports once and that the model declares, and it assigns to properties of that class. -/
structure Links (settings : Settings) (plan : Plan) (rule : Hydration.Rule) (parentPlan : Plan) : Prop where
  creates : Hydration.created rule.block = [(rule.relationName, rule.parentModel)]
  written : (Hydration.creation rule.relationName rule.parentModel).toList <:+:
    (repository Name.packaged settings plan).content.toList
  imported : importsOf rule.parentModel (repository Name.packaged settings plan).content =
    [settings.modelsNamespace ++ "\\" ++ rule.parentModel]
  declared : DeclaresClass (model Name.packaged settings parentPlan).content settings.modelsNamespace
    rule.parentModel
  assigned : ∀ p ∈ Hydration.assigned rule.relationName rule.block,
    DeclaresProperty (model Name.packaged settings parentPlan).content p

/-- The code that creates an object stands in the repository, whatever columns the parents have. -/
theorem creation_isInfix_repository {settings : Settings} {plan : Plan} {rule : Hydration.Rule}
    (hrule : rule ∈ plan.hydrationRules) (hrelation : Spelt rule.relationName)
    (hparent : Spelt rule.parentModel) :
    (Hydration.creation rule.relationName rule.parentModel).toList <:+:
      (repository Name.packaged settings plan).content.toList := by
  have hcode : (Hydration.creation rule.relationName rule.parentModel).toList =
      '$' :: ((rule.relationName ++ " = new " ++ rule.parentModel ++ "()").toList ++ [';']) := by
    simp [Hydration.creation, String.toList_append]
  have hbrace : '\x7b' ∉ (rule.relationName ++ " = new " ++ rule.parentModel ++ "()").toList := by
    simp only [String.toList_append, List.mem_append, not_or]
    exact ⟨⟨⟨hrelation.not_mem (by decide), by decide⟩, hparent.not_mem (by decide)⟩, by decide⟩
  have hvalue : (Hydration.creation rule.relationName rule.parentModel).toList <:+:
      (String.join (plan.hydrationRules.map Hydration.Rule.text)).toList := by
    rw [String.toList_join, List.flatMap_def]
    exact (Hydration.creation_isInfix rule).trans
      (List.infix_of_mem_flatten (List.mem_map_of_mem (List.mem_map_of_mem hrule)))
  have hhole : '\n' :: ((Stub.hole "hydrationLogic").toList ++ ['\n']) <:+:
      Stub.repositoryTemplate.text.toList :=
    Stub.hole_isInfix ["();"] (by simp) ⟨Stub.repositoryTemplate.take 54, [], rfl⟩
  rw [hcode] at hvalue ⊢
  exact Php.isInfix_render_value ((repositoryFilling Name.packaged settings plan).take 7)
    ((repositoryFilling Name.packaged settings plan).drop 8) rfl
    (lettered_repositoryFilling Name.packaged settings plan) (by simp [repositoryFilling]) (by decide)
    (by decide) hhole (by decide) (by decide) (Stub.unmarked_of_not_mem hbrace) hvalue

/-- Whether a repository and the model of a parent fit together is told by the names of the rule, if the
model has the class of the rule and a property for each of its attributes. -/
theorem links_iff_names {settings : Settings} {plan parentPlan : Plan} {rule : Hydration.Rule}
    (hnamespace : ∀ c ∈ settings.rootNamespace.toList, Text.isWord c = true ∨ c = '\\')
    (hclasses : ∀ name ∈ plan.modelName :: plan.relations.map (·.parentModel), Spelt name)
    (hrule : rule ∈ plan.hydrationRules) (hrelation : Spelt rule.relationName)
    (hclass : rule.parentModel ∈ plan.relations.map (·.parentModel))
    (hsame : parentPlan.modelName = rule.parentModel)
    (hattributes : ∀ m ∈ rule.mappings,
      DeclaresProperty (model Name.packaged settings parentPlan).content m.property) :
    Links settings plan rule parentPlan ↔ rule.parentModel ≠ "PDO" ∧
      (rule.relationName = "model" →
        DeclaresProperty (model Name.packaged settings parentPlan).content "model") := by
  have hspelt := hclasses _ (List.mem_cons_of_mem _ hclass)
  have himports := importsOf_repository hclasses hnamespace hclass
  have hassigned := Hydration.assigned_block rule
  constructor
  · intro hlinks
    refine ⟨fun hconnection => ?_, fun hvariable => hlinks.assigned "model" ?_⟩
    · have htwo := hlinks.imported
      rw [himports, if_pos hconnection] at htwo
      exact absurd (List.cons.inj htwo).2 (List.cons_ne_nil _ _)
    · rw [hassigned, if_pos hvariable, hvariable]
      exact List.mem_append_right _ (List.mem_singleton_self _)
  · rintro ⟨hconnection, hvariable⟩
    refine ⟨Hydration.created_block rule, creation_isInfix_repository hrule hrelation hspelt, ?_, ?_, ?_⟩
    · rw [himports, if_neg hconnection]
    · rw [← hsame] at hspelt ⊢
      exact declaresClass_model hspelt (over_rootNamespace hnamespace)
    · rw [hassigned]
      refine List.forall_mem_append.mpr ⟨List.forall_mem_map.mpr hattributes, fun p hp => ?_⟩
      split at hp
      · rename_i hmodel
        rw [List.mem_singleton.mp hp, hmodel]
        exact hvariable hmodel
      · cases hp

section Linking

variable {σ τ : Type} {resolve : String → Action σ (Option Table)} {child parent : Table}
  {plan parentPlan : Plan} {r : Relation}

/-- The classes of a plan are words, whatever the look-up of parents answers. -/
theorem spelt_classes (hbuilt : Plan.Built resolve child plan) (hread : Schema.WasRead child) :
    ∀ name ∈ plan.modelName :: plan.relations.map (·.parentModel), Spelt name := by
  refine List.forall_mem_cons.mpr ⟨?_, List.forall_mem_map.mpr fun r hr =>
    ((Php.spelt_propertyNames hbuilt hread).2 r hr).2⟩
  rw [hbuilt.eq_planOf]
  exact Naming.over_modelName Php.ample_nameChar
    (Naming.over_of_isName Php.ample_nameChar hread.worded.name)

variable [Journaled σ] [Journaled τ] {resolveParent : String → Action τ (Option Table)}

/-- The repository of a table that was read and the model of a parent, each from a plan of its own, fit
together if, and only if, the class of the parent is not called like that of the database connection, and
its variable is not that of the object it is attached to, unless its model declares what is attached. -/
theorem links_iff {text : String} {source : Option String} {st st' : σ} {s s' : τ} {settings : Settings}
    (hparse : Table.parse text source = .ok child)
    (hbuild : (Plan.build child resolve).run st = (.ok plan, st')) (hr : r ∈ plan.relations)
    (hknown : Known resolve child r parent) (hname : parent.name = r.parentTable)
    (hparent : (Plan.build parent resolveParent).run s = (.ok parentPlan, s'))
    (hnamespace : ∀ c ∈ settings.rootNamespace.toList, Text.isWord c = true ∨ c = '\\') :
    ∃ rule, r.hydration = some rule ∧ (Links settings plan rule parentPlan ↔
      rule.parentModel ≠ "PDO" ∧ (rule.relationName = "model" →
        DeclaresProperty (model Name.packaged settings parentPlan).content "model")) := by
  have hbuilt := Plan.built_of_build hbuild
  have hread : Schema.WasRead child := ⟨text, source, hparse⟩
  have hrule : r.hydration = some (Plan.ruleOf r.parentTable parent.columns) := by
    rw [hknown.relation, Plan.relationOf_hydration]
    rfl
  have hrelation : Spelt (Naming.relationName r.parentTable) := by
    rw [← hknown.relationName]
    exact ((Php.spelt_propertyNames hbuilt hread).2 r hr).1
  have hclass : Naming.modelName r.parentTable ∈ plan.relations.map (·.parentModel) := by
    have hmodel : r.parentModel = Naming.modelName r.parentTable := by
      rw [hknown.relation, Plan.relationOf_parentModel]
      rfl
    rw [← hmodel]
    exact List.mem_map_of_mem hr
  -- the other run gives its class and its columns the same names
  have hparentPlan := (Plan.built_of_build hparent).eq_planOf
  have hsame : parentPlan.modelName = Naming.modelName r.parentTable := by
    rw [hparentPlan, ← hname]
    rfl
  have hcolumns : parentPlan.columns = parent.columns := by
    rw [hparentPlan]
    rfl
  have hattributes : ∀ m ∈ (Plan.ruleOf r.parentTable parent.columns).mappings,
      DeclaresProperty (model Name.packaged settings parentPlan).content m.property :=
    List.forall_mem_map.mpr fun column hcolumn => declaresProperty_column (hcolumns ▸ hcolumn)
  exact ⟨_, hrule, links_iff_names hnamespace (spelt_classes hbuilt hread)
    (List.mem_filterMap.mpr ⟨r, hr, hrule⟩) hrelation hclass hsame hattributes⟩

end Linking

/-- The orders and the users they belong to fit together. -/
theorem orders_link :
    ∃ w w' r rule, Table.parse Plan.ordersSchema = .ok Plan.orders ∧
      (Plan.build Plan.orders Plan.findUsers).run {} = (.ok Plan.ordersPlan, w) ∧
      r ∈ Plan.ordersPlan.relations ∧ Known Plan.findUsers Plan.orders r Plan.users ∧
      Plan.users.name = r.parentTable ∧
      (Plan.build Plan.users findNone).run {} = (.ok (Plan.planOf Plan.users []), w') ∧
      (∀ c ∈ ({} : Settings).rootNamespace.toList, Text.isWord c = true ∨ c = '\\') ∧
      r.hydration = some rule ∧ Links {} Plan.ordersPlan rule (Plan.planOf Plan.users []) := by
  obtain ⟨w, hbuild⟩ := Plan.orders_built
  obtain ⟨w', hparent⟩ : ∃ w', (Plan.build Plan.users findNone).run {} =
      (.ok (Plan.planOf Plan.users []), w') := Action.exists_run (by decide +kernel)
  have hnamespace : ∀ c ∈ ({} : Settings).rootNamespace.toList,
      Text.isWord c = true ∨ c = '\\' := Text.forall_mem_of_all (by decide +kernel)
  have hr : Plan.relationOf "orders" ⟨"user_id", "users", "id"⟩ (some Plan.users) ∈
      Plan.ordersPlan.relations := List.mem_singleton_self _
  have hknown : Known Plan.findUsers Plan.orders
      (Plan.relationOf "orders" ⟨"user_id", "users", "id"⟩ (some Plan.users)) Plan.users :=
    ⟨⟨{}, {}, rfl⟩, rfl⟩
  obtain ⟨rule, hrule, hlinks⟩ := links_iff Plan.orders_read hbuild hr hknown rfl hparent hnamespace
  have hnames : rule.parentModel ≠ "PDO" ∧ rule.relationName ≠ "model" := by
    cases hrule
    decide +kernel
  exact ⟨w, w', _, rule, Plan.orders_read, hbuild, hr, hknown, rfl, hparent, hnamespace, hrule,
    hlinks.mpr ⟨hnames.1, fun hvariable => absurd hvariable hnames.2⟩⟩

/-- The schema of engines, each of one model. -/
def enginesSchema : String :=
  "CREATE TABLE engines (\n  id INT,\n  model_id INT,\n" ++
    "  FOREIGN KEY (model_id) REFERENCES models (id)\n);"

/-- Models with nothing but a label. -/
def labels : Table := { name := "models", columns := ["label"] }

/-- A parent called `models` is held in the variable of the object that it is to be attached to, so the
code assigns it an attribute that its model does not declare. -/
theorem models_do_not_link :
    ∃ plan parentPlan w w' r rule, Table.parse enginesSchema = .ok engines ∧
      (Plan.build engines findModels).run {} = (.ok plan, w) ∧ r ∈ plan.relations ∧
      Known findModels engines r labels ∧ labels.name = r.parentTable ∧
      (Plan.build labels findNone).run {} = (.ok parentPlan, w') ∧ r.hydration = some rule ∧
      Hydration.assigned rule.relationName rule.block = ["label", "model"] ∧
      ¬DeclaresProperty (model Name.packaged {} parentPlan).content "model" ∧
      ¬Links {} plan rule parentPlan := by
  obtain ⟨w, hbuild⟩ : ∃ w, (Plan.build engines findModels).run {} =
      (.ok (Plan.planOf engines [Plan.relationOf "engines" ⟨"model_id", "models", "id"⟩ (some labels)]), w) :=
    Action.exists_run (by decide +kernel)
  obtain ⟨w', hparent⟩ : ∃ w', (Plan.build labels findNone).run {} = (.ok (Plan.planOf labels []), w') :=
    Action.exists_run (by decide +kernel)
  have hread : Table.parse enginesSchema = .ok engines :=
    Schema.parse_of_letters String.ofList_append.symm (by decide +kernel)
  have hassigned : Hydration.assigned (Plan.ruleOf "models" ["label"]).relationName
      (Plan.ruleOf "models" ["label"]).block = ["label", "model"] := by decide +kernel
  have hundeclared :
      ¬DeclaresProperty (model Name.packaged {} (Plan.planOf labels [])).content "model" := by
    decide +kernel
  exact ⟨_, _, w, w', Plan.relationOf "engines" ⟨"model_id", "models", "id"⟩ (some labels),
    Plan.ruleOf "models" ["label"], hread, hbuild, List.mem_singleton_self _, ⟨⟨{}, {}, rfl⟩, rfl⟩, rfl,
    hparent, rfl, hassigned, hundeclared, fun hlinks =>
      hundeclared (hlinks.assigned "model" (by rw [hassigned]; decide))⟩

end Render

end Scaffold
