import Scaffold.Proofs.Artifact.Actions
import Scaffold.Proofs.Artifact.Statements

/-!
# Soft deletion through every layer

Whether rows of a table are marked when they are deleted is decided once, by its columns. The statements
of the plan, the queries of the repository, its methods, the actions of the controller and the routes of
the entry point all follow from it, and so nothing is called that is not there.

* `Decided`: the fields of a plan that depend on the decision.
* `Shows`: what shows of the decision in the plan and in its artifacts.
* `softDelete_consistent`: all of it shows the same, and all calls find their method.
-/
namespace Scaffold.Render

open Naming (quoteIdentifier)
open Php (Spelt called methods strings)
open Plan (Answering Spelled)
open Schema (WasRead)
open Stub (Filling Name Template)
open Text (Over)

/-! ## The decision -/

/-- The fields of a plan that depend on whether its rows are marked when they are deleted. -/
structure Decided (soft : Bool) (plan : Plan) : Prop where
  flag : plan.hasSoftDelete = soft
  deletion : plan.deleteStatement = Sql.deleteStatement plan.tableName soft
  restoring : plan.restoreStatement = if soft then some (Sql.restoreStatement plan.tableName) else none
  whereLive : plan.whereLive = if soft then "WHERE " ++ Sql.liveCondition plan.tableName else ""
  andLive : plan.andLive = if soft then "AND " ++ Sql.liveCondition plan.tableName else ""

theorem decided_planOf (table : Table) (relations : List Relation) :
    Decided table.softDelete (Plan.planOf table relations) := ⟨rfl, rfl, rfl, rfl, rfl⟩

/-- A statement that marks the row of a table as deleted. -/
def Marks (table statement : String) : Prop :=
  ("UPDATE " ++ quoteIdentifier table ++ " SET " ++ quoteIdentifier softDeleteColumn ++ " = NOW()").toList
    <+: statement.toList

/-- A query that leaves out the rows of a table that are marked as deleted. -/
def LeavesOut (table query : String) : Prop :=
  ("WHERE " ++ Sql.liveCondition table).toList <:+ query.toList ∨
    ("AND " ++ Sql.liveCondition table).toList <:+ query.toList

/-- The queries in a text. -/
def queries (text : String) : List String :=
  (strings text).filter fun s => Text.startsWith "SELECT ".toList s.toList

/-- How a method begins that takes the mark of deletion away. -/
def restoreSignature : String := "public function restore(int $id)"

/-- The route to the restore action. -/
def routeText : String :=
  "case $method === 'POST' && $id !== null && $action === 'restore':\n" ++ Php.indent2 ++
    "$controller->restore($id);\n"

/-- What shows of soft deletion in a plan and in its artifacts. -/
structure Shows (soft : Prop) (settings : Settings) (plan : Plan) : Prop where
  deletion : Marks plan.tableName plan.deleteStatement ↔ soft
  restoring : plan.restoreStatement.isSome = true ↔ soft
  whereLive : plan.whereLive ≠ "" ↔ soft
  andLive : plan.andLive ≠ "" ↔ soft
  twoQueries : (queries (repository Name.packaged settings plan).content).length = 2
  queries : ∀ query ∈ queries (repository Name.packaged settings plan).content,
    LeavesOut plan.tableName query ↔ soft
  repository : restoreSignature.toList <:+:
    (repository Name.packaged settings plan).content.toList ↔ soft
  controller : restoreSignature.toList <:+:
    (controller Name.packaged settings plan).content.toList ↔ soft
  router : routeText.toList <:+: (router Name.packaged settings plan).content.toList ↔ soft

section Decision

variable {soft : Bool} {plan : Plan} (hdecided : Decided soft plan)
include hdecided

theorem marks_iff : Marks plan.tableName plan.deleteStatement ↔ soft = true := by
  rw [hdecided.deletion]
  cases soft with
  | true =>
    refine iff_of_true ⟨(" WHERE " ++ Sql.byKey).toList, ?_⟩ rfl
    simp [Sql.deleteStatement, String.toList_append]
  | false => simp [Marks, Sql.deleteStatement]

theorem whereLive_iff : plan.whereLive ≠ "" ↔ soft = true := by
  rw [hdecided.whereLive]
  cases soft <;> simp

theorem andLive_iff : plan.andLive ≠ "" ↔ soft = true := by
  rw [hdecided.andLive]
  cases soft <;> simp

theorem restoring_eq : restoring? plan =
    if soft then some (Sql.restoreStatement plan.tableName) else none := by
  have hfilled : (Sql.restoreStatement plan.tableName).isEmpty = false := by
    simp [Sql.restoreStatement]
  unfold restoring?
  rw [hdecided.flag, hdecided.restoring]
  cases soft <;> simp [hfilled]

theorem restoring_isSome : (restoring? plan).isSome = soft := by
  rw [restoring_eq hdecided]
  cases soft <;> rfl

end Decision

/-! ## Queries -/

/-- What ends in a literal ends in the last letter of the literal. -/
theorem getLast?_append_literal {s literal : String} {c : Char} (h : literal.toList.getLast? = some c) :
    (s ++ literal).toList.getLast? = some c := by
  rw [String.toList_append, List.getLast?_append, h, Option.some_or]

/-- The last letter of a query that leaves out rows. -/
theorem LeavesOut.last {table query : String} (h : LeavesOut table query) :
    query.toList.getLast? = some 'L' := by
  have hlive : ∀ keyword : String, (keyword ++ Sql.liveCondition table).toList.getLast? = some 'L' := by
    intro keyword
    have hend : keyword ++ Sql.liveCondition table = keyword ++ (quoteIdentifier table ++ "." ++
        quoteIdentifier softDeleteColumn) ++ " IS NULL" := by
      simp only [Sql.liveCondition, String.append_assoc]
    rw [hend]
    exact getLast?_append_literal (by decide)
  rcases h with ⟨start, hquery⟩ | ⟨start, hquery⟩ <;>
    rw [← hquery, List.getLast?_append, hlive, Option.some_or]

/-- A query whose last clause is there only if rows are marked. -/
theorem leavesOut_iff {soft : Bool} {table start clause keyword : String}
    (hkeyword : keyword = "WHERE " ∨ keyword = "AND ")
    (hclause : clause = if soft then keyword ++ Sql.liveCondition table else "")
    (hstart : start.toList.getLast? = some ' ') :
    LeavesOut table (start ++ clause) ↔ soft = true := by
  cases soft with
  | true =>
    have hsuffix : clause.toList <:+ (start ++ clause).toList := by
      rw [String.toList_append]
      exact List.suffix_append _ _
    rw [if_pos rfl] at hclause
    refine iff_of_true ?_ rfl
    rw [hclause] at hsuffix ⊢
    exact hkeyword.imp (fun hwhere => by rw [hwhere] at hsuffix ⊢; exact hsuffix)
      (fun hand => by rw [hand] at hsuffix ⊢; exact hsuffix)
  | false =>
    refine iff_of_false (fun hleaves => ?_) Bool.false_ne_true
    have hlast := hleaves.last
    rw [hclause, if_neg Bool.false_ne_true, String.append_empty, hstart] at hlast
    cases hlast

theorem allQuery_iff {soft : Bool} {plan : Plan} (hdecided : Decided soft plan) :
    LeavesOut plan.tableName (allQuery plan) ↔ soft = true :=
  leavesOut_iff (.inl rfl) hdecided.whereLive (getLast?_append_literal (by decide))

theorem oneQuery_iff {soft : Bool} {plan : Plan} (hdecided : Decided soft plan) :
    LeavesOut plan.tableName (oneQuery plan) ↔ soft = true :=
  leavesOut_iff (.inr rfl) hdecided.andLive (getLast?_append_literal (by decide))

/-- The queries of a repository are the one for all rows and the one for one row. -/
theorem queries_repository {soft : Bool} {settings : Settings} {plan : Plan}
    (hdecided : Decided soft plan) (h : Spelled plan)
    (hnamespace : Over (fun c => Php.isValueChar c = true) settings.rootNamespace) :
    queries (repository Name.packaged settings plan).content = [allQuery plan, oneQuery plan] := by
  have hselect : ∀ rest : String, Text.startsWith "SELECT ".toList ("SELECT " ++ rest).toList = true := by
    intro rest
    rw [String.toList_append]
    exact Text.startsWith_iff.mpr (List.prefix_append _ _)
  have hall : Text.startsWith "SELECT ".toList (allQuery plan).toList = true := by
    delta allQuery
    simp only [String.append_assoc]
    exact hselect _
  have hone : Text.startsWith "SELECT ".toList (oneQuery plan).toList = true := by
    delta oneQuery
    simp only [String.append_assoc]
    exact hselect _
  have hinsert : Text.startsWith "SELECT ".toList (insertStatement plan).toList = false := by
    delta insertStatement
    simp [Text.startsWith, List.isPrefixOf, String.toList_append]
  have hupdate : Text.startsWith "SELECT ".toList (updateStatement plan).toList = false := by
    delta updateStatement
    simp [Text.startsWith, List.isPrefixOf, String.toList_append]
  have hdelete : Text.startsWith "SELECT ".toList plan.deleteStatement.toList = false := by
    rw [hdecided.deletion]
    cases soft <;> simp [Text.startsWith, List.isPrefixOf, Sql.deleteStatement, String.toList_append]
  have hrestore : (restoring? plan).toList.filter
      (fun s => Text.startsWith "SELECT ".toList s.toList) = [] := by
    rw [restoring_eq hdecided]
    cases soft <;> simp [Text.startsWith, List.isPrefixOf, Sql.restoreStatement, String.toList_append]
  unfold queries
  rw [strings_repository h hnamespace, List.filter_append, hrestore, List.append_nil]
  simp only [List.filter_cons, List.filter_nil, hall, hone, hinsert, hupdate, hdelete, if_true,
    Bool.false_eq_true, if_false]

/-! ## Methods, actions and routes -/

/-- The text of a segment is in the text of the filled template. -/
theorem segment_isInfix_fill {t : Template} {f : Filling} {s : Stub.Segment} (hs : s ∈ t) :
    (s.fill f).text.toList <:+: (t.fill f).toList := by
  induction t with
  | nil => cases hs
  | cons first t ih =>
    rw [Stub.fill_cons, String.toList_append]
    rcases List.mem_cons.mp hs with rfl | hs
    · exact (List.prefix_append _ _).isInfix
    · exact (ih hs).trans (List.suffix_append _ _).isInfix

/-- The value of a hole is in the text of the filled template. -/
theorem value_isInfix_fill {t : Template} {f : Filling} {name value : String}
    (hname : .blank name ∈ t) (hvalue : List.lookup name f = some value) :
    value.toList <:+: (t.fill f).toList := by
  rw [← Stub.text_fill_blank hvalue]
  exact segment_isInfix_fill hname

/-- A line of the text of a template is in the text of the filled template. -/
theorem line_isInfix_fill {t : Template} {f : Filling} {texts : List String} {line part : String}
    (htexts : .lines texts ∈ t) (hline : line ∈ texts) (hpart : part.toList <:+: line.toList) :
    part.toList <:+: (t.fill f).toList := by
  have hlines := segment_isInfix_fill (f := f) htexts
  rw [Stub.text_fill_lines] at hlines
  exact hpart.trans ((Text.isInfix_join "\n" hline).trans hlines)

theorem restore_mem_methods {text : String} (h : restoreSignature.toList <:+: text.toList) :
    "restore" ∈ methods text := by
  have hlead : ("public function " ++ "restore" ++ "(").toList <+: restoreSignature.toList := by
    decide +kernel
  exact Php.mem_called (by decide +kernel : _ = some ' ') (by decide)
    (Text.forall_mem_of_all (by decide)) (by decide) (hlead.isInfix.trans h)

section Layers

variable {soft : Bool} {settings : Settings} {plan : Plan} (hdecided : Decided soft plan)
  (h : Spelled plan)
include hdecided h

theorem restoreSignature_repository (hsoft : soft = true) :
    restoreSignature.toList <:+: (repositoryRestore Name.packaged plan).toList := by
  have hstatement : restoring? plan = some (Sql.restoreStatement plan.tableName) := by
    rw [restoring_eq hdecided, if_pos hsoft]
  unfold repositoryRestore
  rw [hstatement]
  dsimp only
  rw [(fills_repositoryRestore h hstatement).render]
  exact line_isInfix_fill List.mem_cons_self (List.mem_cons_of_mem _ List.mem_cons_self)
    (by decide +kernel)

theorem restoreSignature_controller (hsoft : soft = true) :
    restoreSignature.toList <:+: (controllerRestore Name.packaged plan).toList := by
  unfold controllerRestore
  rw [hdecided.flag, if_pos hsoft, (fills_controllerRestore h).render]
  exact line_isInfix_fill List.mem_cons_self (List.mem_cons_of_mem _ List.mem_cons_self)
    (by decide +kernel)

variable (hnamespace : Over (fun c => Php.isValueChar c = true) settings.rootNamespace)
include hnamespace

theorem methods_of_repository : methods (repository Name.packaged settings plan).content =
    ["__construct", "findAll", "findById", "create", "update", "delete"] ++
      if soft then ["restore"] else [] := by
  have hdeletion : Php.Quiet methodLead plan.deleteStatement := by
    rw [hdecided.deletion]
    exact quiet_deleteStatement h.tableName soft
  rw [methods_repository h hnamespace hdeletion, restoring_isSome hdecided]

theorem repository_restores : restoreSignature.toList <:+:
    (repository Name.packaged settings plan).content.toList ↔ soft = true := by
  refine ⟨fun hsignature => ?_, fun hsoft => ?_⟩
  · have hmethod := restore_mem_methods hsignature
    rw [methods_of_repository hdecided h hnamespace] at hmethod
    cases soft with
    | true => rfl
    | false => simp at hmethod
  · have hfills := fills_repository h (hnamespace.mono ne_brace_of_isValueChar)
    have hvalue : List.lookup "restoreMethod" (repositoryFilling Name.packaged settings plan) =
        some (repositoryRestore Name.packaged plan) := rfl
    have hplace : .blank "restoreMethod" ∈ Name.repository.template := by
      simp [Name.template, Stub.repositoryTemplate]
    refine (restoreSignature_repository hdecided h hsoft).trans ?_
    unfold repository
    dsimp only
    rw [hfills.render]
    exact value_isInfix_fill hplace hvalue

theorem controller_restores : restoreSignature.toList <:+:
    (controller Name.packaged settings plan).content.toList ↔ soft = true := by
  refine ⟨fun hsignature => ?_, fun hsoft => ?_⟩
  · have hmethod := restore_mem_methods hsignature
    rw [methods_controller h hnamespace, hdecided.flag] at hmethod
    cases soft with
    | true => rfl
    | false => simp at hmethod
  · have hfills := fills_controller h (hnamespace.mono ne_brace_of_isValueChar)
    have hvalue : List.lookup "restoreMethod" (controllerFilling Name.packaged settings plan) =
        some (controllerRestore Name.packaged plan) := rfl
    have hplace : .blank "restoreMethod" ∈ Name.controller.template := by
      simp [Name.template, Stub.controllerTemplate]
    refine (restoreSignature_controller hdecided h hsoft).trans ?_
    unfold controller
    dsimp only
    rw [hfills.render]
    exact value_isInfix_fill hplace hvalue

theorem router_restores : routeText.toList <:+:
    (router Name.packaged settings plan).content.toList ↔ soft = true := by
  refine ⟨fun hroute => ?_, fun hsoft => ?_⟩
  · have hlead : (controllerLead ++ "restore" ++ "(").toList <:+: routeText.toList := by
      decide +kernel
    have hcall : "restore" ∈ called controllerLead (router Name.packaged settings plan).content :=
      Php.mem_called (by decide +kernel : _ = some '>') (by decide)
        (Text.forall_mem_of_all (by decide)) (by decide) (hlead.trans hroute)
    rw [called_router h hnamespace, hdecided.flag] at hcall
    cases soft with
    | true => rfl
    | false => simp at hcall
  · have hfills := fills_router h (hnamespace.mono ne_brace_of_isValueChar)
    have hvalue : List.lookup "restoreRoute" (routerFilling settings plan) =
        some (restoreRoute plan) := rfl
    have hplace : .blank "restoreRoute" ∈ Name.router.template := by
      simp [Name.template, Stub.routerTemplate]
    have hinside : routeText.toList <:+: (restoreRoute plan).toList := by
      unfold restoreRoute
      rw [hdecided.flag, if_pos hsoft]
      decide +kernel
    refine hinside.trans ?_
    unfold router
    dsimp only
    rw [hfills.render]
    exact value_isInfix_fill hplace hvalue

end Layers

/-! ## Consistency -/

/-- What is decided shows everywhere. -/
theorem shows_of_decided {soft : Bool} {settings : Settings} {plan : Plan}
    (hdecided : Decided soft plan) (h : Spelled plan)
    (hnamespace : Over (fun c => Php.isValueChar c = true) settings.rootNamespace) :
    Shows (soft = true) settings plan where
  deletion := marks_iff hdecided
  restoring := by
    rw [hdecided.restoring]
    cases soft <;> simp
  whereLive := whereLive_iff hdecided
  andLive := andLive_iff hdecided
  twoQueries := congrArg List.length (queries_repository hdecided h hnamespace)
  queries := by
    rw [queries_repository hdecided h hnamespace]
    simp only [List.forall_mem_cons, List.not_mem_nil, false_implies, implies_true, and_true]
    exact ⟨allQuery_iff hdecided, oneQuery_iff hdecided⟩
  repository := repository_restores hdecided h hnamespace
  controller := controller_restores hdecided h hnamespace
  router := router_restores hdecided h hnamespace

/-- The calls of a controller on its repository end in the same way for every plan. -/
theorem repositoryLead_suffix (plan : Plan) :
    repositoryLead <:+ ("$this->" ++ repositoryVariable plan ++ "->").toList := by
  obtain ⟨start, hvariable⟩ := repositoryVariable_ending plan
  have hlead : repositoryLead = "epository".toList ++ "->".toList := by decide
  rw [hlead, String.toList_append, String.toList_append, ← hvariable, List.append_assoc,
    List.append_assoc]
  exact (List.suffix_append _ _).trans (List.suffix_append _ _)

section Calls

variable {soft : Bool} {settings : Settings} {plan : Plan} (hdecided : Decided soft plan)
  (h : Spelled plan)
  (hnamespace : Over (fun c => Php.isValueChar c = true) settings.rootNamespace)
include hdecided h hnamespace

/-- The router calls actions that the controller has. -/
theorem called_router_subset :
    called controllerLead (router Name.packaged settings plan).content ⊆
      methods (controller Name.packaged settings plan).content := by
  rw [called_router h hnamespace, methods_controller h hnamespace, hdecided.flag]
  cases soft <;> decide +kernel

/-- The controller calls methods that the repository has. -/
theorem called_controller_subset :
    called ("$this->" ++ repositoryVariable plan ++ "->")
        (controller Name.packaged settings plan).content ⊆
      methods (repository Name.packaged settings plan).content := by
  refine List.Subset.trans (Php.calledFrom_mono (repositoryLead_suffix plan)) ?_
  rw [called_controller h hnamespace, methods_of_repository hdecided h hnamespace, hdecided.flag]
  cases soft <;> decide +kernel

end Calls

/-- A router comes with its controller. -/
theorem controller_mem_artifacts {stubs : Stubs} {settings : Settings} {plan : Plan} {a : Artifact}
    (ha : a ∈ artifacts stubs settings plan) (hkind : a.kind = "router") :
    a = router stubs settings plan ∧ controller stubs settings plan ∈ artifacts stubs settings plan := by
  rcases artifact_cases ha with rfl | rfl | ⟨-, rfl | rfl | rfl⟩ | ⟨mode, hmode, rfl | rfl⟩
  · simp [model] at hkind
  · simp [repository] at hkind
  · simp [controller] at hkind
  · simp [databaseBootstrap] at hkind
  · simp [environmentExample] at hkind
  · have henabled : settings.controllerEnabled = true := by
      rw [Settings.controllerEnabled, hmode, Option.isSome_some, Bool.or_true]
    exact ⟨rfl, by simp [artifacts, controllerPart, henabled]⟩
  · cases mode <;> simp [serverConfig] at hkind

/-- A controller comes with its repository. -/
theorem repository_mem_artifacts {stubs : Stubs} {settings : Settings} {plan : Plan} {a : Artifact}
    (ha : a ∈ artifacts stubs settings plan) (hkind : a.kind = "controller") :
    a = controller stubs settings plan ∧
      repository stubs settings plan ∈ artifacts stubs settings plan := by
  have hrepository : repository stubs settings plan ∈ artifacts stubs settings plan := by
    simp [artifacts]
  rcases artifact_cases ha with rfl | rfl | ⟨-, rfl | rfl | rfl⟩ | ⟨mode, -, rfl | rfl⟩
  · simp [model] at hkind
  · simp [repository] at hkind
  · exact ⟨rfl, hrepository⟩
  · simp [databaseBootstrap] at hkind
  · simp [environmentExample] at hkind
  · simp [router] at hkind
  · cases mode <;> simp [serverConfig] at hkind

/-- Soft deletion is consistent: for a table that was read, whose parents have columns as a schema spells
them, a plan and all of its artifacts show soft deletion if, and only if, the table has the column for it.
No router calls an action, and no controller a method, that is not there. -/
theorem softDelete_consistent {σ : Type} [Journaled σ] {resolve : String → Action σ (Option Table)}
    {inv : σ → Prop} {text : String} {source : Option String} {table : Table} {plan : Plan}
    {st st' : σ} {settings : Settings} (hparse : Table.parse text source = .ok table)
    (hresolve : Answering resolve inv fun _ parent => ∀ t ∈ parent, ∀ column ∈ t.columns, Spelt column)
    (hst : inv st) (hbuild : (Plan.build table resolve).run st = (.ok plan, st'))
    (hnamespace : ∀ c ∈ settings.rootNamespace.toList, Text.isWord c = true ∨ c = '\\') :
    Shows (softDeleteColumn ∈ table.columns) settings plan ∧
    (∀ a ∈ artifacts Name.packaged settings plan, a.kind = "router" →
      ∃ c ∈ artifacts Name.packaged settings plan, c.kind = "controller" ∧
        called controllerLead a.content ⊆ methods c.content) ∧
    ∀ c ∈ artifacts Name.packaged settings plan, c.kind = "controller" →
      ∃ r ∈ artifacts Name.packaged settings plan, r.kind = "repository" ∧
        called ("$this->" ++ repositoryVariable plan ++ "->") c.content ⊆ methods r.content := by
  have hspelled := Plan.spelled_of_build ⟨text, source, hparse⟩ hresolve hst hbuild
  have hdecided : Decided table.softDelete plan := by
    rw [(Plan.build_ok hresolve hst hbuild).1]
    exact decided_planOf table _
  have hroot := over_rootNamespace hnamespace
  have hsoft : table.softDelete = true ↔ softDeleteColumn ∈ table.columns := List.contains_iff_mem
  refine ⟨?_, fun a ha hkind => ?_, fun c hc hkind => ?_⟩
  · rw [← hsoft]
    exact shows_of_decided hdecided hspelled hroot
  · obtain ⟨rfl, hcontroller⟩ := controller_mem_artifacts ha hkind
    exact ⟨_, hcontroller, rfl, called_router_subset hdecided hspelled hroot⟩
  · obtain ⟨rfl, hrepository⟩ := repository_mem_artifacts hc hkind
    exact ⟨_, hrepository, rfl, called_controller_subset hdecided hspelled hroot⟩

/-- Posts are restored by the repository, the controller and the router. -/
theorem posts_restore :
    ∃ st', Table.parse postsSchema = .ok posts ∧ Schema.KeepsRead usersBeside ∧
      (Plan.build posts Schema.Resolver.lookup).run usersBeside = (.ok postsPlan, st') ∧
      (∀ c ∈ wholeShop.rootNamespace.toList, Text.isWord c = true ∨ c = '\\') ∧
      softDeleteColumn ∈ posts.columns ∧
      restoreSignature.toList <:+: (repository Name.packaged wholeShop postsPlan).content.toList ∧
      restoreSignature.toList <:+: (controller Name.packaged wholeShop postsPlan).content.toList ∧
      routeText.toList <:+: (router Name.packaged wholeShop postsPlan).content.toList := by
  obtain ⟨st', hbuild⟩ := posts_built
  have hnamespace : ∀ c ∈ wholeShop.rootNamespace.toList, Text.isWord c = true ∨ c = '\\' :=
    Text.forall_mem_of_all (by decide)
  have hspelt := Schema.lookup_answering.mono fun _ _ hread t ht =>
    WasRead.over_columns (hread t ht) Php.ample_nameChar
  obtain ⟨hshows, -⟩ := softDelete_consistent posts_read hspelt keepsRead_usersBeside hbuild hnamespace
  have hsoft : softDeleteColumn ∈ posts.columns := by decide
  exact ⟨st', posts_read, keepsRead_usersBeside, hbuild, hnamespace, hsoft,
    hshows.repository.mpr hsoft, hshows.controller.mpr hsoft, hshows.router.mpr hsoft⟩

end Scaffold.Render
