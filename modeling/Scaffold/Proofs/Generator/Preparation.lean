import Scaffold.Proofs.Generator.Reading

/-!
# Before anything is written

A run has two parts: reading, planning and rendering, which change nothing but the journal, and the
rest, which only begins when the first part has come to artifacts.

* `prepared`: what the first part comes to, as a function of the workspace.
* `generate_eq`: a run is its first part and then the rest.
* `failed_run_leaves_no_trace`: a report of a schema error or a generation error comes from the
  first part, whatever failed: no file, no command, nothing created, whoever the installer is.
-/
namespace Scaffold.Generator

open Files (Path)

/-! ## What the first part comes to -/

/-- The report that a run starts with. -/
def opening (g : Generator) (schema : Path) : Report where
  schemaFile := (g.schemaPath schema).text
  projectRoot := g.root.text
  dryRun := g.settings.dryRun

/-- The report after the schema was read. -/
def afterParse (r : Report) (table : Table) : Report :=
  withStep { r with tableName := table.name, modelName := table.modelName } "Parse Schema" true
    (toString table.columns.length ++ " columns, " ++ toString table.foreignKeys.length ++ " FKs")

/-- The report after the plan was made. -/
def afterPlan (r : Report) (plan : Plan) : Report :=
  withStep { r with
      plan := some plan
      warnings := r.warnings ++ plan.warnings.map (·.message) } "Build Plan" true
    (toString plan.fillableColumns.length ++ " fillable, " ++ toString plan.joinClauses.length ++
      "/" ++ toString plan.relations.length ++ " relations joined")

/-- The report after the artifacts were rendered. -/
def afterRender (r : Report) (artifacts : List Artifact) : Report :=
  withStep r "Render Templates" true (toString artifacts.length ++ " artifacts")

/-- The error of a stub that is missing or refused. -/
def renderError (e : Fault) : String := "Template rendering failed: " ++ e.message

/-- The report of a failed rendering. -/
def withRenderError (r : Report) (e : Fault) : Report :=
  withStep { r with generationErrors := r.generationErrors ++ [renderError e] } "Render Templates"
    false e.message

/-- What a step comes to that takes schema errors as its own. -/
def schemaStep {α : Type} (r : Report) (step : String) (ok : α → Report) :
    Except Fault α → Except Fault (Outcome α)
  | .ok a => .ok (.value a (ok a))
  | .error (.schema e) => .ok (.ended (withSchemaError r step e))
  | .error e => .error e

/-- What rendering comes to. -/
def stubStep (r : Report) : Except Fault (List Artifact) → Except Fault (Outcome (List Artifact))
  | .ok artifacts => .ok (.value artifacts (afterRender r artifacts))
  | .error e => if isStubFault e then .ok (.ended (withRenderError r e)) else .error e

/-- The next step after one that came to a value. -/
def Outcome.next {α β : Type} (f : α → Report → Except Fault (Outcome β)) :
    Outcome α → Except Fault (Outcome β)
  | .value a r => f a r
  | .ended r => .ok (.ended r)

/-- What planning and rendering come to. -/
def planned (g : Generator) (path : Path) (w : Workspace) (table : Table) (r : Report) :
    Except Fault (Outcome (List Artifact)) :=
  schemaStep r "Build Plan" (afterPlan r) (Plan.planAt w path table) >>=
    Outcome.next fun plan r => stubStep r (Render.artifactsAt g.settings plan w)

/-- What reading the schema, planning and rendering come to. -/
def prepared (g : Generator) (schema : Path) (w : Workspace) :
    Except Fault (Outcome (List Artifact)) :=
  schemaStep (g.opening schema) "Parse Schema" (afterParse (g.opening schema))
    (Schema.tableAt w (g.schemaPath schema)) >>= Outcome.next (g.planned (g.schemaPath schema) w)

/-- All that reading the schema, planning and rendering can come to. -/
inductive Preparation (g : Generator) (schema : Path) (w : Workspace) :
    Except Fault (Outcome (List Artifact)) → Prop where
  | schemaRefused {e : SchemaError} :
      Schema.tableAt w (g.schemaPath schema) = .error (.schema e) →
      Preparation g schema w (.ok (.ended (withSchemaError (g.opening schema) "Parse Schema" e)))
  | schemaFault {e : Fault} :
      Schema.tableAt w (g.schemaPath schema) = .error e → isSchemaFault e = false →
      Preparation g schema w (.error e)
  | planRefused {table : Table} {e : SchemaError} :
      Schema.tableAt w (g.schemaPath schema) = .ok table →
      Plan.planAt w (g.schemaPath schema) table = .error (.schema e) →
      Preparation g schema w
        (.ok (.ended (withSchemaError (afterParse (g.opening schema) table) "Build Plan" e)))
  | planFault {table : Table} {e : Fault} :
      Schema.tableAt w (g.schemaPath schema) = .ok table →
      Plan.planAt w (g.schemaPath schema) table = .error e → isSchemaFault e = false →
      Preparation g schema w (.error e)
  | stubRefused {table : Table} {plan : Plan} {e : Fault} :
      Schema.tableAt w (g.schemaPath schema) = .ok table →
      Plan.planAt w (g.schemaPath schema) table = .ok plan →
      Render.artifactsAt g.settings plan w = .error e → isStubFault e = true →
      Preparation g schema w
        (.ok (.ended (withRenderError (afterPlan (afterParse (g.opening schema) table) plan) e)))
  | stubFault {table : Table} {plan : Plan} {e : Fault} :
      Schema.tableAt w (g.schemaPath schema) = .ok table →
      Plan.planAt w (g.schemaPath schema) table = .ok plan →
      Render.artifactsAt g.settings plan w = .error e → isStubFault e = false →
      Preparation g schema w (.error e)
  | rendered {table : Table} {plan : Plan} {artifacts : List Artifact} :
      Schema.tableAt w (g.schemaPath schema) = .ok table →
      Plan.planAt w (g.schemaPath schema) table = .ok plan →
      Render.artifactsAt g.settings plan w = .ok artifacts →
      Preparation g schema w (.ok (.value artifacts
        (afterRender (afterPlan (afterParse (g.opening schema) table) plan) artifacts)))

theorem next_of_ok {α β : Type} (r : Report) (step : String) (ok : α → Report) (a : α)
    (f : α → Report → Except Fault (Outcome β)) :
    schemaStep r step ok (.ok a) >>= Outcome.next f = f a (ok a) := rfl

theorem next_of_fault {α β : Type} (r : Report) (step : String) (ok : α → Report) {e : Fault}
    (h : isSchemaFault e = false) (f : α → Report → Except Fault (Outcome β)) :
    schemaStep r step ok (.error e) >>= Outcome.next f = .error e := by
  cases e with
  | schema e => cases h
  | _ => rfl

theorem schema_of_isSchemaFault {e : Fault} (h : isSchemaFault e = true) : ∃ s, e = .schema s := by
  cases e with
  | schema e => exact ⟨e, rfl⟩
  | _ => cases h

theorem preparation (g : Generator) (schema : Path) (w : Workspace) :
    Preparation g schema w (g.prepared schema w) := by
  unfold prepared
  cases ht : Schema.tableAt w (g.schemaPath schema) with
  | error e =>
    cases hs : isSchemaFault e with
    | false => rw [next_of_fault _ _ _ hs]; exact .schemaFault ht hs
    | true =>
      obtain ⟨e, rfl⟩ := schema_of_isSchemaFault hs
      exact .schemaRefused ht
  | ok table =>
    rw [next_of_ok, planned]
    cases hp : Plan.planAt w (g.schemaPath schema) table with
    | error e =>
      cases hs : isSchemaFault e with
      | false => rw [next_of_fault _ _ _ hs]; exact .planFault ht hp hs
      | true =>
        obtain ⟨e, rfl⟩ := schema_of_isSchemaFault hs
        exact .planRefused ht hp
    | ok plan =>
      rw [next_of_ok]
      cases ha : Render.artifactsAt g.settings plan w with
      | ok artifacts => exact .rendered ht hp ha
      | error e =>
        unfold stubStep
        cases hs : isStubFault e with
        | true => simp only [hs, if_true]; exact .stubRefused ht hp ha hs
        | false => simp only [hs, Bool.false_eq_true, if_false]; exact .stubFault ht hp ha hs

/-! ## The first part -/

/-- Reading the schema, planning and rendering. -/
def prepare (g : Generator) (schema : Path) : Action Workspace (Outcome (List Artifact)) := do
  let path := g.schemaPath schema
  match ← parseStep path (g.opening schema) with
  | .ended r => return .ended r
  | .value table r =>
    match ← planStep path table r with
    | .ended r => return .ended r
    | .value plan r => g.renderStep plan r

/-- Writing, and seeing to the package, if the first part came to artifacts. -/
def conclude (g : Generator) : Outcome (List Artifact) → Action Workspace Report
  | .ended r => return r.finished
  | .value artifacts r => do
    let r ← g.exportStep artifacts r
    let r ← if g.installs then g.dependencyStep r else pure r
    return r.finished

/-- What becomes of an answer where some faults are taken as values. -/
def caught {α : Type} (own : Fault → Bool) : Except Fault α → Except Fault (Except Fault α)
  | .ok a => .ok (.ok a)
  | .error e => if own e then .ok (.error e) else .error e

theorem catching_answers {α : Type} {w : Workspace} {x : Action Workspace α}
    {answer : Except Fault α} (own : Fault → Bool) (label : String)
    (h : Action.Answers (Told w) x answer) :
    Action.Answers (Told w) (timed label (catching own x)) (caught own answer) := by
  refine timed_answers (fun n _ h => h.record n) label fun s hs => ?_
  obtain ⟨s', hr, hs'⟩ := h s hs
  refine ⟨s', ?_, hs'⟩
  unfold Action.run at hr ⊢
  cases answer with
  | ok a => simp only [catching, hr, caught]
  | error e => cases ho : own e <;> simp [catching, hr, caught, ho]

theorem schemaStep_answers {α : Type} {w : Workspace} {x : Action Workspace α}
    {answer : Except Fault α} (h : Action.Answers (Told w) x answer) (label : String) (r : Report)
    (step : String) (ok : α → Report) :
    Action.Answers (Told w)
      (timed label (catching isSchemaFault x) >>= fun outcome => schemaOutcome r step ok outcome)
      (schemaStep r step ok answer) := by
  have hcaught := catching_answers isSchemaFault label h
  cases answer with
  | ok a => exact hcaught.bind_ok (Action.Answers.pure _)
  | error e =>
    cases e with
    | schema e => exact hcaught.bind_ok ((told_note w _ _ _).bind_ok (Action.Answers.pure _))
    | _ => exact hcaught.bind_error

theorem renderStep_answers (g : Generator) (plan : Plan) (r : Report) (w : Workspace) :
    Action.Answers (Told w) (g.renderStep plan r)
      (stubStep r (Render.artifactsAt g.settings plan w)) := by
  unfold renderStep
  have hcaught := catching_answers isStubFault "render" (Render.produce_answers w g.settings plan)
  cases ha : Render.artifactsAt g.settings plan w with
  | ok artifacts =>
    rw [ha] at hcaught
    exact hcaught.bind_ok (Action.Answers.pure _)
  | error e =>
    rw [ha] at hcaught
    unfold stubStep
    cases hown : isStubFault e with
    | true =>
      simp only [caught, hown, if_true] at hcaught ⊢
      exact hcaught.bind_ok ((told_note w _ _ _).bind_ok (Action.Answers.pure _))
    | false =>
      simp only [caught, hown, Bool.false_eq_true, if_false] at hcaught ⊢
      exact hcaught.bind_error

/-- The first part of a run answers what it comes to and leaves everything but the journal. -/
theorem prepare_answers (g : Generator) (schema : Path) (w : Workspace) :
    Action.Answers (Told w) (g.prepare schema) (g.prepared schema w) := by
  unfold prepare prepared planned
  refine (schemaStep_answers (Schema.load_answers w _) _ _ _ _).bind fun outcome _ => ?_
  cases outcome with
  | ended r => exact Action.Answers.pure _
  | value table r =>
    refine (schemaStep_answers (planBeside_answers w _ table) _ _ _ _).bind fun outcome _ => ?_
    cases outcome with
    | ended r => exact Action.Answers.pure _
    | value plan r => exact renderStep_answers g plan r w

/-- A run is its first part and then the rest. -/
theorem generate_eq (g : Generator) (schema : Path) :
    g.generate schema = g.prepare schema >>= g.conclude := by
  unfold generate prepare
  rw [Action.bind_assoc]
  refine congrArg (parseStep (g.schemaPath schema) (g.opening schema) >>= ·)
    (funext fun outcome => ?_)
  cases outcome with
  | ended r => rfl
  | value table r =>
    simp only
    rw [Action.bind_assoc]
    refine congrArg (planStep (g.schemaPath schema) table r >>= ·) (funext fun outcome => ?_)
    cases outcome with
    | ended r => rfl
    | value plan r =>
      refine congrArg (g.renderStep plan r >>= ·) (funext fun outcome => ?_)
      cases outcome <;> rfl

theorem generate_of_fault {g : Generator} {schema : Path} {w : Workspace} {e : Fault}
    (h : g.prepared schema w = .error e) :
    ∃ notes, (g.generate schema).run w = (.error e, w.told notes) := by
  obtain ⟨_, hr, notes, rfl⟩ := prepare_answers g schema w w (Told.refl w)
  rw [h] at hr
  exact ⟨notes, by rw [generate_eq, Action.run_bind_error hr]⟩

theorem generate_of_outcome {g : Generator} {schema : Path} {w : Workspace}
    {outcome : Outcome (List Artifact)} (h : g.prepared schema w = .ok outcome) :
    ∃ notes, (g.prepare schema).run w = (.ok outcome, w.told notes) ∧
      (g.generate schema).run w = (g.conclude outcome).run (w.told notes) := by
  obtain ⟨_, hr, notes, rfl⟩ := prepare_answers g schema w w (Told.refl w)
  rw [h] at hr
  exact ⟨notes, hr, by rw [generate_eq, Action.run_bind_ok hr]⟩

/-! ## Runs that end in the first part -/

/-- A report of a run that wrote nothing and did not see to the package. -/
structure Unwritten (r : Report) : Prop where
  created : r.created = []
  skipped : r.skipped = []
  exportErrors : r.exportErrors = []
  dependency : r.dependency = none

theorem Preparation.unwritten {g : Generator} {schema : Path} {w : Workspace} {r : Report}
    (h : Preparation g schema w (.ok (.ended r))) : Unwritten r := by
  cases h <;> exact ⟨rfl, rfl, rfl, rfl⟩

theorem Preparation.flawless {g : Generator} {schema : Path} {w : Workspace} {r : Report}
    {artifacts : List Artifact} (h : Preparation g schema w (.ok (.value artifacts r))) :
    Unwritten r ∧ r.schemaErrors = [] ∧ r.generationErrors = [] := by
  cases h
  exact ⟨⟨rfl, rfl, rfl, rfl⟩, rfl, rfl⟩

/-- The second part of a run enters no schema error and no generation error. -/
theorem conclude_errors {g : Generator} {artifacts : List Artifact} {r r' : Report}
    {w w' : Workspace} (h : (g.conclude (.value artifacts r)).run w = (.ok r', w')) :
    r'.schemaErrors = r.schemaErrors ∧ r'.generationErrors = r.generationErrors := by
  obtain ⟨r₁, w₁, hexport, h⟩ := Action.of_run_bind h
  obtain ⟨result, w₀, -, hexport⟩ := Action.of_run_bind hexport
  cases hexport
  simp only at h
  split at h
  · obtain ⟨r₂, w₂, hdependency, h⟩ := Action.of_run_bind h
    obtain ⟨status, w₃, -, hdependency⟩ := Action.of_run_bind hdependency
    cases hdependency
    cases h
    exact ⟨rfl, rfl⟩
  · cases h
    exact ⟨rfl, rfl⟩

/-- A run that reports a schema error or a generation error leaves the workspace as it was, the
journal apart, has written nothing, and would have gone the same way with any other installer. -/
theorem failed_run_leaves_no_trace {g : Generator} {schema : Path} {w w' : Workspace} {r : Report}
    (h : (g.generate schema).run w = (.ok r, w'))
    (hfail : r.schemaErrors ≠ [] ∨ r.generationErrors ≠ []) :
    (∃ notes, w' = { w with journal := w.journal ++ notes }) ∧
      r.created = [] ∧ r.skipped = [] ∧ r.exportErrors = [] ∧ r.dependency = none ∧
      ∀ runner, (generate { g with runner := runner } schema).run w = (.ok r, w') := by
  have hprep := preparation g schema w
  cases hp : g.prepared schema w with
  | error e =>
    obtain ⟨notes, hr⟩ := generate_of_fault hp
    rw [hr] at h
    cases h
  | ok outcome =>
    rw [hp] at hprep
    obtain ⟨notes, hprepare, hr⟩ := generate_of_outcome hp
    rw [hr] at h
    cases outcome with
    | value artifacts r₀ =>
      obtain ⟨hs, hg⟩ := conclude_errors h
      obtain ⟨-, hnoSchema, hnoGeneration⟩ := hprep.flawless
      rw [hs, hg, hnoSchema, hnoGeneration] at hfail
      rcases hfail with hfail | hfail <;> exact absurd rfl hfail
    | ended r₀ =>
      cases h
      obtain ⟨hcreated, hskipped, herrors, hdependency⟩ := hprep.unwritten
      refine ⟨⟨notes, rfl⟩, hcreated, hskipped, herrors, hdependency, fun runner => ?_⟩
      -- The first part does not ask for the installer.
      have hsame : (prepare { g with runner := runner } schema).run w =
          (.ok (.ended r₀), w.told notes) := hprepare
      rw [generate_eq, Action.run_bind_ok hsame]
      rfl

/-- A project at `/p` with a schema of one table, stubs at `/s`, and something more. -/
def smallProject (stubs : List Stub.Name) (more : List (Files.Location × Files.Node)) :
    Workspace where
  files := ⟨[(["p"], .directory),
    (["p", "o.sql"], .file 0o644 "CREATE TABLE o (id INT)".toUTF8),
    (["s"], .directory), (["s", "setup"], .directory)] ++
    stubs.map (fun name => ("s" :: (Path.ofString name.fileName).names, .file 0o644 ⟨#[120]⟩)) ++
    more⟩
  directory := ["p"]
  stubs := ["s"]

/-- A generator for the small project. -/
def smallGenerator (settings : Settings) : Generator := ⟨settings, .ofLocation ["p"], none⟩

/-- The schema of the small project. -/
def smallSchema : Path := ⟨.relative, ["o.sql"]⟩

/-- Whether a run came to a report of a generation error. -/
def endsInGenerationError : Except Fault Report → Bool
  | .ok r => !r.generationErrors.isEmpty
  | .error _ => false

set_option maxRecDepth 10000 in
/-- Only the stub of the last of seven artifacts is missing, and nothing is written. -/
theorem missing_last_stub_leaves_no_trace :
    ∃ r w', ((smallGenerator { setupMode := some .nginx }).generate smallSchema).run
        (smallProject (Stub.Name.all.filter (· != .nginx)) []) = (.ok r, w') ∧
      r.generationErrors ≠ [] ∧ r.created = [] ∧
      w'.files = (smallProject (Stub.Name.all.filter (· != .nginx)) []).files := by
  have hends : endsInGenerationError
      (((smallGenerator { setupMode := some .nginx }).generate smallSchema).run
        (smallProject (Stub.Name.all.filter (· != .nginx)) [])).1 = true := by
    decide +kernel
  cases h : ((smallGenerator { setupMode := some .nginx }).generate smallSchema).run
      (smallProject (Stub.Name.all.filter (· != .nginx)) []) with
  | mk outcome w' =>
    rw [h] at hends
    cases outcome with
    | error e => cases hends
    | ok r =>
      have hfail : r.generationErrors ≠ [] := by
        intro hnil
        rw [endsInGenerationError, hnil] at hends
        cases hends
      obtain ⟨⟨notes, rfl⟩, hcreated, -⟩ := failed_run_leaves_no_trace h (Or.inr hfail)
      exact ⟨r, _, rfl, hfail, hcreated, rfl⟩

end Scaffold.Generator
