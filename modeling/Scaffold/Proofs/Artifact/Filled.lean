import Scaffold.Proofs.Artifact.Confinement
import Scaffold.Proofs.Artifact.Values
import Scaffold.Proofs.Stub.Letters

/-!
# Filled stubs

Each stub that a plan needs is filled on its own, and two of them are put into others once they are
filled. With the packaged stubs every hole is filled, and what is put into one is never mistaken for
another: the braces that code brings along stand apart.

* `fillings`: the stubs of a plan, each with what fills it.
* `exists_filling`: every artifact is one of these stubs, filled.
* `Fills`: a filling that fills all holes of a template with bare texts.
* `fills_of_mem_fillings`: the fillings of a plan whose names are words.
* `stubs_filled`: no artifact has a hole left, and every stub is filled at once.
-/
namespace Scaffold.Render

open Php (Spelt)
open Plan (Answering Spelled)
open Schema (WasRead)
open Stub (Bare Braceless Filling Name Template opening)
open Text (Over)

/-! ## The stubs of a plan -/

/-- The stubs that a plan needs, in the order in which they are read, each with what fills it. -/
def fillings (stubs : Stubs) (settings : Settings) (plan : Plan) : List (Name × Filling) :=
  [(.model, modelFilling settings plan)] ++
    (restoring? plan).toList.map (fun statement =>
      (.repositoryRestore, [("restoreStatement", statement), ("tableName", plan.tableName)])) ++
    [(.repository, repositoryFilling stubs settings plan)] ++
    (if settings.controllerEnabled then
      (if plan.hasSoftDelete then
        [(.controllerRestore, [("repositoryVariable", repositoryVariable plan)])] else []) ++
        [(.controller, controllerFilling stubs settings plan), (.database, []), (.environment, [])]
    else []) ++
    (match settings.setupMode with
    | some mode => [(.router, routerFilling settings plan), (serverStub mode, [])]
    | none => [])

theorem fillings_stubs (stubs : Stubs) (settings : Settings) (plan : Plan) :
    (fillings stubs settings plan).map (·.1) = stubsFor settings plan := by
  unfold fillings stubsFor
  cases restoring? plan <;> cases settings.controllerEnabled <;> cases plan.hasSoftDelete <;>
    cases settings.setupMode <;> rfl

/-- The artifacts of a plan, one by one. -/
theorem artifact_cases {stubs : Stubs} {settings : Settings} {plan : Plan} {a : Artifact}
    (ha : a ∈ artifacts stubs settings plan) :
    a = model stubs settings plan ∨ a = repository stubs settings plan ∨
      (settings.controllerEnabled = true ∧ (a = controller stubs settings plan ∨
        a = databaseBootstrap stubs ∨ a = environmentExample stubs)) ∨
      ∃ mode, settings.setupMode = some mode ∧
        (a = router stubs settings plan ∨ a = serverConfig stubs mode) := by
  unfold artifacts controllerPart setupPart at ha
  simp only [List.mem_append, List.mem_cons, List.not_mem_nil, or_false] at ha
  rcases ha with ((hmodel | hrepository) | hcontroller) | hsetup
  · exact .inl hmodel
  · exact .inr (.inl hrepository)
  · split at hcontroller
    · rename_i henabled
      simp only [List.mem_cons, List.not_mem_nil, or_false] at hcontroller
      exact .inr (.inr (.inl ⟨henabled, hcontroller⟩))
    · cases hcontroller
  · split at hsetup
    · rename_i mode hmode
      simp only [List.mem_cons, List.not_mem_nil, or_false] at hsetup
      exact .inr (.inr (.inr ⟨mode, hmode, hsetup⟩))
    · cases hsetup

/-- Every artifact is a stub of the plan, filled. -/
theorem exists_filling {stubs : Stubs} {settings : Settings} {plan : Plan} {a : Artifact}
    (ha : a ∈ artifacts stubs settings plan) : ∃ entry ∈ fillings stubs settings plan,
      a.content = Stub.render (stubs entry.1) entry.2 := by
  unfold fillings
  rcases artifact_cases ha with rfl | rfl | ⟨henabled, rfl | rfl | rfl⟩ | ⟨mode, hmode, rfl | rfl⟩
  · exact ⟨(.model, modelFilling settings plan), by simp, rfl⟩
  · exact ⟨(.repository, repositoryFilling stubs settings plan), by simp, rfl⟩
  · exact ⟨(.controller, controllerFilling stubs settings plan), by simp [henabled], rfl⟩
  · exact ⟨(.database, []), by simp [henabled], rfl⟩
  · exact ⟨(.environment, []), by simp [henabled], rfl⟩
  · exact ⟨(.router, routerFilling settings plan), by simp [hmode], rfl⟩
  · exact ⟨(serverStub mode, []), by simp [hmode], by cases mode <;> rfl⟩

/-! ## Fillings without marks -/

/-- A filling that fills all holes of a template, with texts that bring no marks. -/
structure Fills (t : Template) (f : Filling) : Prop where
  names : ∀ entry ∈ f, Braceless entry.1
  holes : ∀ name, .blank name ∈ t → name ∈ f.map (·.1)
  values : ∀ entry ∈ f, Bare entry.2.toList

theorem Fills.bare_fill {t : Template} {f : Filling} (h : Fills t f) (ht : t.Sound) :
    Bare (t.fill f).toList :=
  Stub.bare_fill ht h.holes fun entry hentry _ => h.values entry hentry

theorem Fills.render {name : Name} {f : Filling} (h : Fills name.template f) :
    Stub.render name.packaged f = name.template.fill f :=
  Stub.render_text (Stub.sound_packaged name) h.names fun entry hentry _ => h.values entry hentry

theorem Fills.bare {name : Name} {f : Filling} (h : Fills name.template f) :
    Bare (Stub.render name.packaged f).toList := by
  rw [h.render]
  exact h.bare_fill (Stub.sound_packaged name)

/-- What is filled first is all that fills a template if it leaves no hole, whatever is filled after it. -/
theorem Fills.renderChars_append {t : Template} {f : Filling} (h : Fills t f) (ht : t.Sound)
    (later : Filling) : Stub.renderChars t.text.toList (f ++ later) = (t.fill f).toList := by
  have hsplit : Stub.renderChars t.text.toList (f ++ later) =
      Stub.renderChars (Stub.renderChars t.text.toList f) later := List.foldl_append
  rw [hsplit, Stub.renderChars_text ht h.names fun entry hentry _ => h.values entry hentry]
  exact Stub.renderChars_of_unmarked (h.bare_fill ht).unmarked later

/-- The names of the holes of a template. -/
def holes (t : Template) : List String :=
  t.filterMap fun
    | .lines _ => none
    | .blank name => some name

/-- A filling is told by its names and its texts. -/
theorem fills_of_names {t : Template} {f : Filling} (names : List String) (hf : f.map (·.1) = names)
    (hnames : ∀ name ∈ names, Braceless name) (hholes : ∀ name ∈ holes t, name ∈ names)
    (hvalues : ∀ entry ∈ f, Bare entry.2.toList) : Fills t f := by
  subst hf
  exact ⟨List.forall_mem_map.mp hnames,
    fun name hname => hholes name (List.mem_filterMap.mpr ⟨_, hname, rfl⟩), hvalues⟩

/-! ## The fillings of a plan -/

/-- A text without the brace that opens. -/
def Unopened (s : String) : Prop := Over (· ≠ '\x7b') s

instance (s : String) : Decidable (Unopened s) := inferInstanceAs (Decidable (Over _ s))

theorem Unopened.bare {s : String} (h : Unopened s) : Bare s.toList :=
  Stub.bare_of_not_mem (h.not_mem (by simp))

theorem ne_brace_of_isValueChar : ∀ c, Php.isValueChar c = true → c ≠ '\x7b' := by
  rintro c hc rfl
  exact absurd hc (by decide)

theorem bare_of_queryText {s : String} (h : Php.QueryText s) : Bare s.toList :=
  Unopened.bare (over_of_queryText ne_brace_of_isValueChar h)

theorem bare_of_statementText {s : String} (h : Php.StatementText s) : Bare s.toList :=
  Stub.bare_of_not_mem (Over.not_mem h (by decide))

theorem bare_of_spelt {s : String} (h : Spelt s) : Bare s.toList :=
  Unopened.bare (over_of_spelt ne_brace_of_isValueChar h)

/-- The lines of a rule have single braces, and none at the start. -/
theorem sound_lines : ∀ t ∈ Hydration.plainLines ++ Hydration.mappingLines, t.Sound := by
  decide +kernel

theorem fills_plainLine {rule : Hydration.Rule} (h : ∀ name ∈ rule.names, Spelt name) {t : Template}
    (ht : t ∈ Hydration.plainLines) : Fills t (Hydration.plainFilling rule) := by
  have hholes : ∀ t ∈ Hydration.plainLines, holes t ⊆ ["relation", "model", "flag"] := by
    simp [Hydration.plainLines, holes]
  exact fills_of_names ["relation", "model", "flag"] rfl (Text.forall_mem_of_all (by decide))
    (fun _ hname => hholes t ht hname) fun entry hentry =>
      bare_of_spelt (Php.spelt_plainFilling h entry hentry)

theorem fills_mappingLine {rule : Hydration.Rule} (h : ∀ name ∈ rule.names, Spelt name)
    {m : Hydration.Mapping} (hm : m ∈ rule.mappings) {t : Template} (ht : t ∈ Hydration.mappingLines) :
    Fills t (Hydration.mappingFilling rule m) := by
  have hholes : ∀ t ∈ Hydration.mappingLines,
      holes t ⊆ ["relation", "model", "flag", "alias", "property"] := by
    simp [Hydration.mappingLines, holes]
  exact fills_of_names ["relation", "model", "flag", "alias", "property"] rfl
    (Text.forall_mem_of_all (by decide)) (fun _ hname => hholes t ht hname) fun entry hentry =>
      bare_of_spelt (Php.spelt_mappingFilling h hm entry hentry)

theorem bare_rule {rule : Hydration.Rule} (h : ∀ name ∈ rule.names, Spelt name) :
    Bare rule.text.toList := by
  refine Stub.bare_join (Hydration.forall_line (fun t ht => ?_) fun m hm t ht => ?_)
  · exact (fills_plainLine h ht).bare_fill (sound_lines t (List.mem_append_left _ ht))
  · exact (fills_mappingLine h hm ht).bare_fill (sound_lines t (List.mem_append_right _ ht))

/-- The code of the rules of a plan. -/
theorem bare_hydration {plan : Plan} (h : Spelled plan) :
    Bare (String.join (plan.hydrationRules.map Hydration.Rule.text)).toList := by
  rw [String.toList_join, List.flatMap_map]
  refine Stub.bare_flatten (List.forall_mem_map.mpr fun rule hrule => ?_)
  exact bare_rule (h.ofRule hrule)

theorem bare_restoreRoute (plan : Plan) : Bare (restoreRoute plan).toList := by
  unfold restoreRoute
  split
  · have hindent : Unopened Php.indent := Text.over_ofList (by simp)
    have hcase : Unopened "case $method === 'POST' && $id !== null && $action === 'restore':\n" :=
      Text.over_ofList (by simp)
    have hcall : Unopened "$controller->restore($id);\n" := Text.over_ofList (by simp)
    have hbreak : Unopened "break;\n" := Text.over_ofList (by simp)
    have hindent2 : Unopened Php.indent2 := hindent.append hindent
    exact Unopened.bare
      (((((hindent.append hcase).append hindent2).append hcall).append hindent2).append hbreak)
  · exact Stub.bare_nil

section Values

variable {settings : Settings} {plan : Plan} (h : Spelled plan)
include h

theorem queryText_restoring {statement : String} (hstatement : restoring? plan = some statement) :
    Php.QueryText statement := by
  unfold restoring? at hstatement
  split at hstatement
  · exact h.restoring statement (Option.filter_eq_some_iff.mp hstatement).1
  · cases hstatement

theorem fills_repositoryRestore {statement : String} (hstatement : restoring? plan = some statement) :
    Fills Name.repositoryRestore.template
      [("restoreStatement", statement), ("tableName", plan.tableName)] := by
  refine fills_of_names ["restoreStatement", "tableName"] rfl
    (Text.forall_mem_of_all (by decide)) (Text.forall_mem_of_all (by decide)) ?_
  simp only [List.forall_mem_cons]
  exact ⟨bare_of_queryText (queryText_restoring h hstatement), bare_of_spelt h.tableName, by simp⟩

theorem fills_controllerRestore :
    Fills Name.controllerRestore.template [("repositoryVariable", repositoryVariable plan)] := by
  refine fills_of_names ["repositoryVariable"] rfl (Text.forall_mem_of_all (by decide))
    (Text.forall_mem_of_all (by decide)) ?_
  simp only [List.forall_mem_singleton]
  exact bare_of_spelt (spelt_repositoryVariable h)

theorem bare_repositoryRestore : Bare (repositoryRestore Name.packaged plan).toList := by
  unfold repositoryRestore
  split
  · rename_i statement hstatement
    exact (fills_repositoryRestore h hstatement).bare
  · exact Stub.bare_nil

theorem bare_controllerRestore : Bare (controllerRestore Name.packaged plan).toList := by
  unfold controllerRestore
  split
  · exact (fills_controllerRestore h).bare
  · exact Stub.bare_nil

variable (hnamespace : Unopened settings.rootNamespace)
include hnamespace

theorem fills_model : Fills Name.model.template (modelFilling settings plan) :=
  fills_of_names ["namespace", "useStatements", "modelName", "properties"] rfl
    (Text.forall_mem_of_all (by decide)) (Text.forall_mem_of_all (by decide)) fun entry hentry =>
      Unopened.bare (over_modelFilling ne_brace_of_isValueChar h hnamespace entry hentry)

theorem fills_repository :
    Fills Name.repository.template (repositoryFilling Name.packaged settings plan) := by
  refine fills_of_names ["namespace", "repositoryName", "useStatements", "modelName",
    "tableName", "selectColumns", "joinClause", "hydrationLogic", "softDeleteWhereClause",
    "softDeleteAndWhereClause", "insertColumns", "insertPlaceholders", "executeArrayParamsCreate",
    "updateSetClause", "executeArrayParamsUpdate", "deleteStatement", "restoreMethod"] rfl
    (Text.forall_mem_of_all (by decide)) (Text.forall_mem_of_all (by decide)) fun entry hentry => ?_
  rcases over_repositoryFilling ne_brace_of_isValueChar h hnamespace _ entry hentry with hcode | hplain
  · simp only [codeValues, List.mem_cons, List.not_mem_nil, or_false] at hcode
    rcases hcode with rfl | rfl | rfl
    · exact bare_hydration h
    · exact bare_of_statementText h.deletion
    · exact bare_repositoryRestore h
  · exact Unopened.bare hplain

theorem fills_controller :
    Fills Name.controller.template (controllerFilling Name.packaged settings plan) := by
  refine fills_of_names ["namespace", "controllerName", "modelName", "modelNamespace",
    "repositoryName", "repositoryNamespace", "repositoryVariable", "restoreMethod"] rfl
    (Text.forall_mem_of_all (by decide)) (Text.forall_mem_of_all (by decide)) fun entry hentry => ?_
  rcases over_controllerFilling ne_brace_of_isValueChar h hnamespace _ entry hentry with rfl | hplain
  · exact bare_controllerRestore h
  · exact Unopened.bare hplain

theorem fills_router : Fills Name.router.template (routerFilling settings plan) := by
  refine fills_of_names ["modelName", "controllerName", "controllerClass",
    "repositoryName", "repositoryClass", "resourceName", "restoreRoute"] rfl
    (Text.forall_mem_of_all (by decide)) (Text.forall_mem_of_all (by decide)) fun entry hentry => ?_
  rcases over_routerFilling ne_brace_of_isValueChar h hnamespace entry hentry with rfl | hplain
  · exact bare_restoreRoute plan
  · exact Unopened.bare hplain

/-- Every stub of a plan whose names are words is filled with bare texts. -/
theorem fills_of_mem_fillings {entry : Name × Filling}
    (hentry : entry ∈ fillings Name.packaged settings plan) : Fills entry.1.template entry.2 := by
  have hplain : ∀ {t : Template}, holes t = [] → Fills t [] := fun hholes =>
    fills_of_names [] rfl (by simp) (by simp [hholes]) (by simp)
  unfold fillings at hentry
  simp only [List.mem_append, List.mem_singleton, List.mem_map, Option.mem_toList] at hentry
  rcases hentry with (((rfl | ⟨statement, hstatement, rfl⟩) | rfl) | hcontroller) | hsetup
  · exact fills_model h hnamespace
  · exact fills_repositoryRestore h hstatement
  · exact fills_repository h hnamespace
  · split at hcontroller
    · simp only [List.mem_append, List.mem_cons, List.not_mem_nil, or_false] at hcontroller
      rcases hcontroller with hrestore | rfl | rfl | rfl
      · split at hrestore
        · rw [List.mem_singleton.mp hrestore]
          exact fills_controllerRestore h
        · cases hrestore
      · exact fills_controller h hnamespace
      · exact hplain rfl
      · exact hplain rfl
    · cases hcontroller
  · split at hsetup
    · rename_i mode hmode
      simp only [List.mem_cons, List.not_mem_nil, or_false] at hsetup
      rcases hsetup with rfl | rfl
      · exact fills_router h hnamespace
      · cases mode <;> exact hplain rfl
    · cases hsetup

end Values

/-! ## Filled artifacts -/

/-- For a plan that is built for a table that was read, with parents that were read, no artifact has a
hole left; every stub is filled as if all its holes were filled at once, those that are put into others
included, and no two braces open in what comes out. -/
theorem stubs_filled {σ : Type} [Journaled σ] {resolve : String → Action σ (Option Table)}
    {inv : σ → Prop} {text : String} {source : Option String} {table : Table} {plan : Plan}
    {st st' : σ} {settings : Settings} (hparse : Table.parse text source = .ok table)
    (hresolve : Answering resolve inv fun _ parent => ∀ t ∈ parent, WasRead t) (hst : inv st)
    (hbuild : (Plan.build table resolve).run st = (.ok plan, st'))
    (hnamespace : '\x7b' ∉ settings.rootNamespace.toList) :
    (∀ a ∈ artifacts Name.packaged settings plan, ¬opening <:+: a.content.toList) ∧
    (fillings Name.packaged settings plan).map (·.1) = stubsFor settings plan ∧
    ∀ entry ∈ fillings Name.packaged settings plan,
      (∀ hole, .blank hole ∈ entry.1.template → hole ∈ entry.2.map (·.1)) ∧
      Stub.render entry.1.packaged entry.2 = entry.1.template.fill entry.2 ∧
      ¬opening <:+: (Stub.render entry.1.packaged entry.2).toList := by
  have hspelled := Plan.spelled_of_build ⟨text, source, hparse⟩ (hresolve.mono fun _ _ hread t ht =>
    (hread t ht).over_columns Php.ample_nameChar) hst hbuild
  have hroot : Unopened settings.rootNamespace := by
    rintro c hc rfl
    exact hnamespace hc
  have hfills : ∀ entry ∈ fillings Name.packaged settings plan, Fills entry.1.template entry.2 :=
    fun _ => fills_of_mem_fillings hspelled hroot
  refine ⟨fun a ha => ?_, fillings_stubs _ _ _, fun entry hentry =>
    ⟨(hfills entry hentry).holes, (hfills entry hentry).render, (hfills entry hentry).bare.inside⟩⟩
  obtain ⟨entry, hentry, hcontent⟩ := exists_filling ha
  rw [hcontent]
  exact (hfills entry hentry).bare.inside

/-- The schema of posts, each of one user, that are marked when they are deleted. -/
def postsSchema : String :=
  "CREATE TABLE posts (\n  id INT,\n  title TEXT,\n  user_id INT,\n  deleted_at DATETIME,\n" ++
    "  FOREIGN KEY (user_id) REFERENCES users (id)\n);"

/-- The posts. -/
def posts : Table where
  name := "posts"
  columns := ["id", "title", "user_id", "deleted_at"]
  foreignKeys := [⟨"user_id", "users", "id"⟩]

/-- The plan of the posts. -/
def postsPlan : Plan :=
  Plan.planOf posts [Plan.relationOf "posts" ⟨"user_id", "users", "id"⟩ (some Plan.users)]

/-- Settings under which everything is generated. -/
def wholeShop : Settings := { rootNamespace := "Shop", setupMode := some .apache }

theorem posts_read : Table.parse postsSchema = .ok posts :=
  Schema.parse_of_letters String.ofList_append.symm (by decide +kernel)

theorem posts_built : ∃ st', (Plan.build posts Schema.Resolver.lookup).run usersBeside =
    (.ok postsPlan, st') := Action.exists_run (by decide +kernel)

theorem keepsRead_usersBeside : Schema.KeepsRead usersBeside := fun _ _ h => by cases h

/-- For the posts nine stubs are filled, two of them to be put into others. -/
theorem posts_filled :
    ∃ st', Table.parse postsSchema = .ok posts ∧ Schema.KeepsRead usersBeside ∧
      (Plan.build posts Schema.Resolver.lookup).run usersBeside = (.ok postsPlan, st') ∧
      '\x7b' ∉ wholeShop.rootNamespace.toList ∧
      (fillings Name.packaged wholeShop postsPlan).map (·.1) =
        [.model, .repositoryRestore, .repository, .controllerRestore, .controller, .database,
          .environment, .router, .apache] ∧
      ∀ a ∈ artifacts Name.packaged wholeShop postsPlan, ¬opening <:+: a.content.toList := by
  obtain ⟨st', hbuild⟩ := posts_built
  have hnamespace : '\x7b' ∉ wholeShop.rootNamespace.toList := by decide
  obtain ⟨hclean, hstubs, -⟩ := stubs_filled posts_read Schema.lookup_answering keepsRead_usersBeside
    hbuild hnamespace
  exact ⟨st', posts_read, keepsRead_usersBeside, hbuild, hnamespace, hstubs.trans (by decide +kernel),
    hclean⟩

end Scaffold.Render
