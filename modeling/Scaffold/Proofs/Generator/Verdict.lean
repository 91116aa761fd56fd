import Scaffold.Proofs.Generator.Exporting
import Scaffold.Proofs.Generator.Faults
import Scaffold.Proofs.Schema.Refusals

/-!
# What a report says of its run

A report is filled step by step, and the exit code is read off it at the end. Every report that a
run returns agrees with itself.

* `Clean`: a report while nothing has gone wrong, after so many steps; every step that goes well
  keeps it.
* `Consistent`: what holds of every report that is returned, whichever way the run took.
* `Refused`: the schema that a schema error is about, among those that the run reads.
* `generate_consistent`: the report of a run is consistent, and its schema error is the one that
  reading came to; the exit code is 4 exactly if that file was missing or could not be read.
-/
namespace Scaffold

open Files (Path)

/-! ## Schemas that cannot be read -/

namespace Schema

/-- A schema that is no file, or whose text cannot be read. -/
def Unavailable (w : Workspace) (path : Path) : Prop :=
  w.files.isFile w.directory path = .ok false ∨
    w.files.isFile w.directory path = .ok true ∧
      ∃ failure, Workspace.textAt w.files w.directory path = .error failure

/-- What is wrong with the text of a schema is never that it cannot be read. -/
theorem input_of_parse {text : String} {source : Option String} {e : SchemaError}
    (h : Table.parse text source = .error e) : Report.isInputReason e.reason = false := by
  obtain ⟨reason, path, detail⟩ := e
  rcases (parse_eq_error_iff.mp h).2 with (_ | _ | _) | _ <;> rfl

theorem unavailable_of_textAt {w : Workspace} {path : Path} {e : SchemaError}
    (h : textAt w path = .error (.schema e)) :
    Report.isInputReason e.reason = true ∧ Unavailable w path := by
  unfold textAt at h
  rcases bind_eq_error.mp h with h | ⟨there, hthere, h⟩
  · obtain ⟨-, hfault⟩ := isFile_fault_iff.mp h
    cases hfault
  · have hfile := mapError_eq_ok.mp hthere
    cases there with
    | false =>
      cases h
      exact ⟨rfl, Or.inl hfile⟩
    | true =>
      rcases bind_eq_error.mp h with h | ⟨_, -, h⟩
      · obtain ⟨failure, hread, hfault⟩ := mapError_eq_error.mp h
        cases hfault
        exact ⟨rfl, Or.inr ⟨hfile, failure, hread⟩⟩
      · cases h

theorem available_of_textAt {w : Workspace} {path : Path} {text : String}
    (h : textAt w path = .ok text) : ¬ Unavailable w path := by
  unfold textAt at h
  obtain ⟨there, hthere, h⟩ := bind_eq_ok.mp h
  have hfile := mapError_eq_ok.mp hthere
  cases there with
  | false => cases h
  | true =>
    obtain ⟨_, hread, -⟩ := bind_eq_ok.mp h
    rintro (hfalse | ⟨-, failure, hfailure⟩)
    · rw [hfile] at hfalse
      cases hfalse
    · rw [mapError_eq_ok.mp hread] at hfailure
      cases hfailure

/-- The reason of a refused schema concerns its file exactly if the file is not there or cannot be
read. -/
theorem input_iff {w : Workspace} {path : Path} {e : SchemaError}
    (h : tableAt w path = .error (.schema e)) :
    Report.isInputReason e.reason = true ↔ Unavailable w path := by
  unfold tableAt at h
  rcases bind_eq_error.mp h with h | ⟨text, htext, h⟩
  · obtain ⟨hinput, hunavailable⟩ := unavailable_of_textAt h
    exact ⟨fun _ => hunavailable, fun _ => hinput⟩
  · obtain ⟨error, hparse, hfault⟩ := mapError_eq_error.mp h
    cases hfault
    rw [input_of_parse hparse]
    constructor
    · intro hinput
      cases hinput
    · intro hunavailable
      exact absurd hunavailable (available_of_textAt htext)

/-- A parent that is refused is a schema that is refused. -/
theorem tableAt_of_parentAt {w : Workspace} {directory : Path} {table : String} {e : SchemaError}
    (h : parentAt w directory table = .error (.schema e)) :
    tableAt w (directory.join (table ++ fileEnding)) = .error (.schema e) := by
  unfold parentAt at h
  rcases bind_eq_error.mp h with h | ⟨there, -, h⟩
  · obtain ⟨-, hfault⟩ := isFile_fault_iff.mp h
    cases hfault
  · cases there with
    | false => cases h
    | true =>
      rcases bind_eq_error.mp h with h | ⟨_, -, h⟩
      · exact h
      · cases h

end Schema

namespace Generator

/-- A schema that a run reads and refuses: its own, or that of a parent it names. -/
inductive Refused (g : Generator) (schema : Path) (w : Workspace) : Path → SchemaError → Prop where
  | own {e : SchemaError} :
      Schema.tableAt w (g.schemaPath schema) = .error (.schema e) →
      Refused g schema w (g.schemaPath schema) e
  | parent {table : Table} {fk : ForeignKey} {path : Path} {e : SchemaError} :
      Schema.tableAt w (g.schemaPath schema) = .ok table → fk ∈ table.foreignKeys →
      path = (g.schemaPath schema).parent.join (fk.parentTable ++ Schema.fileEnding) →
      Schema.tableAt w path = .error (.schema e) → Refused g schema w path e

theorem Refused.tableAt {g : Generator} {schema path : Path} {w : Workspace} {e : SchemaError}
    (h : Refused g schema w path e) : Schema.tableAt w path = .error (.schema e) := by
  cases h with
  | own ht => exact ht
  | parent _ _ _ ht => exact ht

/-- Planning is refused by the schema of a parent. -/
theorem refused_of_planAt {g : Generator} {schema : Path} {w : Workspace} {table : Table}
    {e : SchemaError} (ht : Schema.tableAt w (g.schemaPath schema) = .ok table)
    (h : Plan.planAt w (g.schemaPath schema) table = .error (.schema e)) :
    ∃ path, Refused g schema w path e := by
  unfold Plan.planAt at h
  rcases bind_eq_error.mp h with h | ⟨relations, -, h⟩
  · obtain ⟨before, fk, after, hsplit, -, h⟩ := mapM_error_iff.mp h
    have hmem : fk ∈ table.foreignKeys := by
      rw [hsplit]
      exact List.mem_append_right _ List.mem_cons_self
    unfold Plan.relationAt at h
    rcases bind_eq_error.mp h with h | ⟨parent, -, h⟩
    · exact ⟨_, .parent ht hmem rfl (Schema.tableAt_of_parentAt h)⟩
    · obtain ⟨_, -, hfault⟩ := mapError_eq_error.mp h
      cases hfault
  · obtain ⟨_, -, hfault⟩ := mapError_eq_error.mp h
    cases hfault

/-! ## Reports while nothing has gone wrong -/

/-- The names of the steps of a run, in their order. -/
def stepNames : List String :=
  ["Parse Schema", "Build Plan", "Render Templates", "Export Files", "Dependencies"]

/-- A report after so many steps that all went well. -/
structure Clean (r : Report) (n : Nat) : Prop where
  schemaErrors : r.schemaErrors = []
  generationErrors : r.generationErrors = []
  exportErrors : r.exportErrors = []
  reason : r.reason = none
  names : r.steps.map (·.name) = stepNames.take n
  went : ∀ step ∈ r.steps, step.success = true

theorem take_stepNames {n : Nat} {name : String} (h : stepNames[n]? = some name) :
    stepNames.take n ++ [name] = stepNames.take (n + 1) := by
  rw [List.take_add_one, h]
  rfl

/-- The step that comes next in their order is entered next. -/
theorem names_withStep {r : Report} {n : Nat} {name detail : String} {success : Bool}
    (h : r.steps.map (·.name) = stepNames.take n) (hname : stepNames[n]? = some name) :
    (withStep r name success detail).steps.map (·.name) = stepNames.take (n + 1) := by
  unfold withStep
  rw [List.map_append, h, ← take_stepNames hname]
  rfl

theorem Clean.withStep {r : Report} {n : Nat} {name detail : String} (h : Clean r n)
    (hname : stepNames[n]? = some name) : Clean (withStep r name true detail) (n + 1) := by
  refine ⟨h.schemaErrors, h.generationErrors, h.exportErrors, h.reason,
    names_withStep h.names hname, fun step hstep => ?_⟩
  rcases List.mem_append.mp hstep with hstep | hstep
  · exact h.went step hstep
  · rw [List.mem_singleton.mp hstep]

theorem clean_opening (g : Generator) (schema : Path) : Clean (g.opening schema) 0 :=
  ⟨rfl, rfl, rfl, rfl, rfl, fun _ h => (by cases h)⟩

theorem Clean.afterParse {r : Report} (h : Clean r 0) (table : Table) :
    Clean (afterParse r table) 1 :=
  Clean.withStep ⟨h.schemaErrors, h.generationErrors, h.exportErrors, h.reason, h.names, h.went⟩ rfl

theorem Clean.afterPlan {r : Report} (h : Clean r 1) (plan : Plan) : Clean (afterPlan r plan) 2 :=
  Clean.withStep ⟨h.schemaErrors, h.generationErrors, h.exportErrors, h.reason, h.names, h.went⟩ rfl

theorem Clean.afterRender {r : Report} (h : Clean r 2) (artifacts : List Artifact) :
    Clean (afterRender r artifacts) 3 :=
  h.withStep rfl

/-! ## Reports at the end of a run -/

/-- A report that agrees with itself, the exit code included. -/
structure Consistent (r : Report) : Prop where
  /-- At most one kind of error is entered. -/
  schema_or_generation : r.schemaErrors = [] ∨ r.generationErrors = []
  schema_or_export : r.schemaErrors = [] ∨ r.exportErrors = []
  generation_or_export : r.generationErrors = [] ∨ r.exportErrors = []
  schemaErrors_le : r.schemaErrors.length ≤ 1
  generationErrors_le : r.generationErrors.length ≤ 1
  success_iff : r.success = true ↔
    r.schemaErrors = [] ∧ r.generationErrors = [] ∧ r.exportErrors = []
  reason_iff : r.reason.isSome = true ↔ r.schemaErrors ≠ []
  steps_in_order : r.steps.map (·.name) <+: stepNames
  /-- A failed one of the first three steps is the last. -/
  failed_last : ∀ before step after, r.steps = before ++ step :: after → before.length < 3 →
    step.success = false → after = []
  exitCode_zero : r.exitCode = 0 ↔ r.success = true
  exitCode_schema : r.exitCode = 4 ∨ r.exitCode = 1 ↔ r.schemaErrors ≠ []
  exitCode_four : r.exitCode = 4 ↔
    r.reason = some .fileNotFound ∨ r.reason = some .fileUnreadable
  exitCode_two : r.exitCode = 2 ↔ r.generationErrors ≠ []
  exitCode_three : r.exitCode = 3 ↔ r.exportErrors ≠ []
  /-- The last resort of the exit code, a failure without an error, is never reached. -/
  no_last_resort : ¬ (r.success = false ∧
    r.schemaErrors = [] ∧ r.generationErrors = [] ∧ r.exportErrors = [])

/-- The steps of a report: in their order, and nothing after a failed one of the first three. -/
structure Ordered (steps : List StepRecord) : Prop where
  in_order : steps.map (·.name) <+: stepNames
  failed_last : ∀ before step after, steps = before ++ step :: after → before.length < 3 →
    step.success = false → after = []

/-- Behind steps that went well a failed step may be the last. -/
theorem Clean.ordered_withStep {r : Report} {n : Nat} {name detail : String} {success : Bool}
    (h : Clean r n) (hname : stepNames[n]? = some name) :
    Ordered (Generator.withStep r name success detail).steps := by
  constructor
  · rw [names_withStep h.names hname]
    exact List.take_prefix _ _
  · intro before step after hsplit _ hfailed
    rcases List.eq_nil_or_concat after with hnil | ⟨init, last, hafter⟩
    · exact hnil
    · -- A step with another behind it is one of those that went well.
      exfalso
      have hfront : r.steps = before ++ step :: init := by
        have hsplit' : r.steps ++ [({ name := name, success := success, detail := detail } :
            StepRecord)] = (before ++ step :: init) ++ [last] := by
          rw [List.append_assoc, List.cons_append]
          rw [List.concat_eq_append] at hafter
          rw [← hafter]
          exact hsplit
        exact (List.append_inj' hsplit' rfl).1
      have hmem : step ∈ r.steps := by
        rw [hfront]
        exact List.mem_append_right _ List.mem_cons_self
      rw [h.went step hmem] at hfailed
      cases hfailed

/-- Behind three steps that went well others may fail. -/
theorem Clean.ordered_append {r : Report} {rest : List StepRecord} (h : Clean r 3)
    (hnames : (r.steps ++ rest).map (·.name) <+: stepNames) : Ordered (r.steps ++ rest) := by
  refine ⟨hnames, fun before step after hsplit hshort hfailed => ?_⟩
  exfalso
  have hlength : r.steps.length = 3 := by
    rw [← List.length_map, h.names]
    rfl
  have hhere : (r.steps ++ rest)[before.length]? = some step := by
    rw [hsplit, List.getElem?_append_right (Nat.le_refl _), Nat.sub_self]
    rfl
  rw [List.getElem?_append_left (by omega)] at hhere
  rw [h.went step (List.mem_of_getElem? hhere)] at hfailed
  cases hfailed

/-- Which errors a report holds: none, or those of one kind. -/
inductive Ending (r : Report) : Prop where
  | flawless : r.schemaErrors = [] → r.generationErrors = [] → r.exportErrors = [] →
      r.reason = none → Ending r
  | schema {error : String} {reason : SchemaReason} : r.schemaErrors = [error] →
      r.generationErrors = [] → r.exportErrors = [] → r.reason = some reason → Ending r
  | generation {error : String} : r.schemaErrors = [] → r.generationErrors = [error] →
      r.exportErrors = [] → r.reason = none → Ending r
  | files : r.schemaErrors = [] → r.generationErrors = [] → r.exportErrors ≠ [] →
      r.reason = none → Ending r

theorem Ending.of_exportErrors {r : Report} (hschema : r.schemaErrors = [])
    (hgeneration : r.generationErrors = []) (hreason : r.reason = none) : Ending r := by
  by_cases hexport : r.exportErrors = []
  · exact .flawless hschema hgeneration hexport hreason
  · exact .files hschema hgeneration hexport hreason

theorem finished_success_iff (r : Report) : r.finished.success = true ↔
    r.schemaErrors = [] ∧ r.generationErrors = [] ∧ r.exportErrors = [] := by
  show r.errors.isEmpty = true ↔ _
  unfold Report.errors
  rw [List.isEmpty_iff, List.append_eq_nil_iff, List.append_eq_nil_iff, and_assoc]

/-- A failed report answers by the first kind of error that it holds. -/
theorem exitCode_of_failure {r : Report} (h : ¬ r.finished.success = true) :
    r.finished.exitCode =
      if r.schemaErrors ≠ [] then (if r.reason.any Report.isInputReason then 4 else 1)
      else if r.generationErrors ≠ [] then 2
      else 3 := by
  have hexport : r.schemaErrors = [] → r.generationErrors = [] → r.exportErrors ≠ [] :=
    fun hs hg he => h ((finished_success_iff r).mpr ⟨hs, hg, he⟩)
  have hfields : r.finished.schemaErrors = r.schemaErrors ∧
      r.finished.generationErrors = r.generationErrors ∧
      r.finished.exportErrors = r.exportErrors ∧ r.finished.reason = r.reason :=
    ⟨rfl, rfl, rfl, rfl⟩
  obtain ⟨hs, hg, he, hr⟩ := hfields
  unfold Report.exitCode
  rw [if_neg h, hs, hg, he, hr]
  cases hschema : r.schemaErrors with
  | cons error rest => rfl
  | nil =>
    cases hgeneration : r.generationErrors with
    | cons error rest => rfl
    | nil =>
      cases hexports : r.exportErrors with
      | nil => exact absurd hexports (hexport hschema hgeneration)
      | cons error rest => rfl

theorem any_isInputReason_iff (reason : Option SchemaReason) :
    reason.any Report.isInputReason = true ↔
      reason = some .fileNotFound ∨ reason = some .fileUnreadable := by
  cases reason with
  | none => simp
  | some reason => cases reason <;> simp [Report.isInputReason]

theorem Ending.exitCode {r : Report} (h : Ending r) :
    (r.finished.exitCode = 0 ↔ r.finished.success = true) ∧
      (r.finished.exitCode = 4 ∨ r.finished.exitCode = 1 ↔ r.schemaErrors ≠ []) ∧
      (r.finished.exitCode = 4 ↔ r.reason.any Report.isInputReason = true) ∧
      (r.finished.exitCode = 2 ↔ r.generationErrors ≠ []) ∧
      (r.finished.exitCode = 3 ↔ r.exportErrors ≠ []) := by
  by_cases hsuccess : r.finished.success = true
  · have hcode : r.finished.exitCode = 0 := if_pos hsuccess
    obtain ⟨hs, hg, he⟩ := (finished_success_iff r).mp hsuccess
    have hreason : r.reason = none := by
      cases h with
      | flawless _ _ _ hr => exact hr
      | schema hs' => rw [hs] at hs'; cases hs'
      | generation _ hg' => rw [hg] at hg'; cases hg'
      | files _ _ he' => exact absurd he he'
    rw [hcode, hs, hg, he, hreason]
    simp [hsuccess]
  · rw [exitCode_of_failure hsuccess]
    cases h with
    | flawless hs hg he _ => exact absurd ((finished_success_iff r).mpr ⟨hs, hg, he⟩) hsuccess
    | @schema _ reason hs hg he hr =>
      rw [hs, hg, he, hr]
      cases hinput : Report.isInputReason reason <;> simp [hsuccess, hinput]
    | generation hs hg he hr =>
      rw [hs, hg, he, hr]
      simp [hsuccess]
    | files hs hg he hr =>
      rw [hs, hg, hr]
      simp [hsuccess, he]

theorem Ending.consistent {r : Report} (h : Ending r) (hsteps : Ordered r.steps) :
    Consistent r.finished := by
  obtain ⟨hzero, hschema, hfour, htwo, hthree⟩ := h.exitCode
  refine
    { success_iff := finished_success_iff r
      steps_in_order := hsteps.in_order
      failed_last := hsteps.failed_last
      exitCode_zero := hzero
      exitCode_schema := hschema
      exitCode_four := hfour.trans (any_isInputReason_iff _)
      exitCode_two := htwo
      exitCode_three := hthree
      no_last_resort := fun ⟨hfailed, hempty⟩ => by
        rw [(finished_success_iff r).mpr hempty] at hfailed
        cases hfailed
      schema_or_generation := ?_
      schema_or_export := ?_
      generation_or_export := ?_
      schemaErrors_le := ?_
      generationErrors_le := ?_
      reason_iff := ?_ }
  all_goals
    cases h with
    | flawless hs hg he hr => simp [Report.finished, hs, hg, he, hr]
    | schema hs hg he hr => simp [Report.finished, hs, hg, he, hr]
    | generation hs hg he hr => simp [Report.finished, hs, hg, he, hr]
    | files hs hg he hr => simp [Report.finished, hs, hg, hr]

/-! ## Every way through a run -/

theorem Clean.withSchemaError {r : Report} {n : Nat} {name : String} (h : Clean r n)
    (hname : stepNames[n]? = some name) (e : SchemaError) :
    Ending (withSchemaError r name e) ∧ Ordered (withSchemaError r name e).steps := by
  refine ⟨@Ending.schema _ e.message e.reason ?_ h.generationErrors h.exportErrors rfl, ?_⟩
  · show r.schemaErrors ++ [e.message] = [e.message]
    rw [h.schemaErrors]
    rfl
  · exact h.ordered_withStep hname

theorem Clean.withRenderError {r : Report} (h : Clean r 2) (e : Fault) :
    Ending (withRenderError r e) ∧ Ordered (withRenderError r e).steps := by
  refine ⟨@Ending.generation _ (renderError e) h.schemaErrors ?_ h.exportErrors h.reason, ?_⟩
  · show r.generationErrors ++ [renderError e] = [renderError e]
    rw [h.generationErrors]
    rfl
  · exact h.ordered_withStep rfl

theorem Clean.afterExport {r : Report} (h : Clean r 3) (result : Export.Result) :
    Ending (afterExport r result) ∧ Ordered (afterExport r result).steps := by
  refine ⟨.of_exportErrors h.schemaErrors h.generationErrors h.reason, h.ordered_append ?_⟩
  rw [List.map_append, h.names]
  exact List.prefix_append _ ["Dependencies"]

/-- Seeing to the package adds a last step and no error. -/
theorem settle_inversion {g : Generator} {r r' : Report} {w w' : Workspace}
    (h : (g.settle r).run w = (.ok r', w')) :
    r' = r.finished ∨ ∃ status, r' = (withStep { r with
      dependency := some status
      warnings := r.warnings ++ dependencyWarnings status } "Dependencies" (isThere status)
      status.tag).finished := by
  unfold settle at h
  split at h
  · obtain ⟨r₁, w₁, hdependency, h⟩ := Action.of_run_bind h
    obtain ⟨status, w₂, -, hdependency⟩ := Action.of_run_bind hdependency
    cases hdependency
    cases h
    exact Or.inr ⟨status, rfl⟩
  · cases h
    exact Or.inl rfl

theorem conclude_consistent {g : Generator} {artifacts : List Artifact} {r r' : Report}
    {w w' : Workspace} (hclean : Clean r 3)
    (h : (g.conclude (.value artifacts r)).run w = (.ok r', w')) : Consistent r' := by
  cases hexport : (exportBy g.root g.settings.dryRun artifacts).run w with
  | mk outcome w₁ =>
    cases outcome with
    | error fault =>
      rw [conclude_of_error hexport] at h
      cases h
    | ok result =>
      rw [conclude_of_ok hexport] at h
      obtain ⟨hending, hordered⟩ := hclean.afterExport result
      rcases settle_inversion h with rfl | ⟨status, rfl⟩
      · exact hending.consistent hordered
      · apply Ending.consistent
        · exact .of_exportErrors hclean.schemaErrors hclean.generationErrors hclean.reason
        · show Ordered (r.steps ++ [_] ++ [_])
          rw [List.append_assoc]
          apply hclean.ordered_append
          rw [List.map_append, hclean.names]
          exact List.prefix_rfl

/-- A schema error in a report is that of a schema that the run reads, and the exit code is 4
exactly if the file of this schema is missing or cannot be read. -/
def Explained (g : Generator) (schema : Path) (w : Workspace) (r : Report) : Prop :=
  r.schemaErrors ≠ [] → ∃ path e, Refused g schema w path e ∧ r.schemaErrors = [e.message] ∧
    r.reason = some e.reason ∧ (r.exitCode = 4 ↔ Schema.Unavailable w path)

theorem Refused.explained {g : Generator} {schema path : Path} {w : Workspace} {e : SchemaError}
    (h : Refused g schema w path e) {r : Report} {n : Nat} {name : String} (hclean : Clean r n)
    (hname : stepNames[n]? = some name) :
    Consistent (withSchemaError r name e).finished ∧
      Explained g schema w (withSchemaError r name e).finished := by
  obtain ⟨hending, hordered⟩ := hclean.withSchemaError hname e
  refine ⟨hending.consistent hordered, fun _ => ⟨path, e, h, ?_, rfl, ?_⟩⟩
  · show r.schemaErrors ++ [e.message] = [e.message]
    rw [hclean.schemaErrors]
    rfl
  · exact hending.exitCode.2.2.1.trans (Schema.input_iff h.tableAt)

/-- Every report that a run returns agrees with itself, and its schema error is explained by a
schema that the run reads. -/
theorem generate_consistent {g : Generator} {schema : Path} {w w' : Workspace} {r : Report}
    (h : (g.generate schema).run w = (.ok r, w')) : Consistent r ∧ Explained g schema w r := by
  have hopening := clean_opening g schema
  have hprep := preparation g schema w
  cases hp : g.prepared schema w with
  | error e =>
    obtain ⟨notes, hr⟩ := generate_of_fault hp
    rw [hr] at h
    cases h
  | ok outcome =>
    rw [hp] at hprep
    obtain ⟨notes, -, hr⟩ := generate_of_outcome hp
    rw [hr] at h
    cases hprep with
    | schemaRefused ht =>
      cases h
      exact Refused.explained (.own ht) hopening rfl
    | @planRefused table _ ht hplan =>
      cases h
      obtain ⟨path, hpath⟩ := refused_of_planAt ht hplan
      exact hpath.explained (hopening.afterParse table) rfl
    | @stubRefused table plan e ht hplan ha he =>
      cases h
      have hclean := (hopening.afterParse table).afterPlan plan
      obtain ⟨hending, hordered⟩ := hclean.withRenderError e
      exact ⟨hending.consistent hordered, fun hne => absurd hclean.schemaErrors hne⟩
    | @rendered table plan artifacts ht hplan ha =>
      have hclean := ((hopening.afterParse table).afterPlan plan).afterRender artifacts
      refine ⟨conclude_consistent hclean h, fun hne => absurd ?_ hne⟩
      rw [(conclude_errors h).1]
      exact hclean.schemaErrors

/-- Whether a run came to a report of a schema error. -/
def endsInSchemaError : Except Fault Report → Bool
  | .ok r => !r.schemaErrors.isEmpty
  | .error _ => false

/-- A schema that is not there: the run returns, consistently, and the exit code is 4. -/
theorem missing_schema_answers_four :
    ∃ r w', ((smallGenerator {}).generate ⟨.relative, ["q.sql"]⟩).run (smallProject [] []) =
      (.ok r, w') ∧ Consistent r ∧ r.schemaErrors ≠ [] ∧ r.exitCode = 4 := by
  have hends : endsInSchemaError (((smallGenerator {}).generate ⟨.relative, ["q.sql"]⟩).run
      (smallProject [] [])).1 = true := by
    decide +kernel
  cases h : ((smallGenerator {}).generate ⟨.relative, ["q.sql"]⟩).run (smallProject [] []) with
  | mk outcome w' =>
    rw [h] at hends
    cases outcome with
    | error e => cases hends
    | ok r =>
      obtain ⟨hconsistent, hexplained⟩ := generate_consistent h
      have hne : r.schemaErrors ≠ [] := by
        intro hnil
        rw [endsInSchemaError, hnil] at hends
        cases hends
      refine ⟨r, w', rfl, hconsistent, hne, ?_⟩
      obtain ⟨path, e, hrefused, -, -, hfour⟩ := hexplained hne
      apply hfour.mpr
      have hread : Schema.tableAt (smallProject [] []) ((smallGenerator {}).schemaPath
          ⟨.relative, ["q.sql"]⟩) = .error (Schema.notFound ((smallGenerator {}).schemaPath
          ⟨.relative, ["q.sql"]⟩)) := by
        decide +kernel
      cases hrefused with
      | own _ => exact Or.inl (by decide +kernel)
      | parent ht => rw [hread] at ht; cases ht

end Generator

end Scaffold
