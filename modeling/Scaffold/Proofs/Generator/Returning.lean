import Scaffold.Proofs.Dependency
import Scaffold.Proofs.Generator.Exporting
import Scaffold.Proofs.Generator.Faults

/-!
# Which runs return a report

A run returns a report of all that went wrong in it, unless it comes to one of a few things that
none of its steps takes as its own.

* `Recorded`: what a report says, given what reading, planning and rendering came to.
* `Escapes`: the things that no report tells of, in the order in which a run can come to them.
* `generate_returns_iff`: a run returns, with everything recorded, unless it comes to one of them.
* `undecodable_stub_escapes`: a stub that is not UTF-8 is one, though a schema that is not is
  reported.
-/
namespace Scaffold.Generator

open Files (Path)
open Naming (Nameless)
open Export (Halts Accounted exported fates createdEntry skippedEntry errorEntry)

/-- What the report of a run says. -/
inductive Recorded (g : Generator) (schema : Path) (w : Workspace) (r : Report) : Prop where
  | schemaRefused {e : SchemaError} :
      Schema.tableAt w (g.schemaPath schema) = .error (.schema e) →
      r.schemaErrors = [e.message] → r.generationErrors = [] → r.exportErrors = [] →
      Recorded g schema w r
  | planRefused {table : Table} {e : SchemaError} :
      Schema.tableAt w (g.schemaPath schema) = .ok table →
      Plan.planAt w (g.schemaPath schema) table = .error (.schema e) →
      r.schemaErrors = [e.message] → r.generationErrors = [] → r.exportErrors = [] →
      Recorded g schema w r
  | stubRefused {table : Table} {plan : Plan} {e : Fault} :
      Schema.tableAt w (g.schemaPath schema) = .ok table →
      Plan.planAt w (g.schemaPath schema) table = .ok plan →
      Render.artifactsAt g.settings plan w = .error e →
      r.schemaErrors = [] → r.generationErrors = [renderError e] → r.exportErrors = [] →
      Recorded g schema w r
  | exported {table : Table} {plan : Plan} {artifacts : List Artifact} :
      Schema.tableAt w (g.schemaPath schema) = .ok table →
      Plan.planAt w (g.schemaPath schema) table = .ok plan →
      Render.artifactsAt g.settings plan w = .ok artifacts →
      r.schemaErrors = [] → r.generationErrors = [] →
      r.created = (artifacts.zip (fates (g.fresh w) artifacts)).filterMap createdEntry →
      r.skipped = (artifacts.zip (fates (g.fresh w) artifacts)).filterMap skippedEntry →
      r.exportErrors = (artifacts.zip (fates (g.fresh w) artifacts)).filterMap errorEntry →
      Recorded g schema w r

/-- What ends a run without a report. -/
inductive Escapes (g : Generator) (schema : Path) (w : Workspace) : Prop where
  /-- The system refuses the path of the schema. -/
  | schemaPath :
      w.files.TooLong w.directory (g.schemaPath schema) → Escapes g schema w
  /-- The system refuses the path of a parent, or a name of a parent has no letters. -/
  | relation {table : Table} {before after : List ForeignKey} {fk : ForeignKey} :
      Schema.tableAt w (g.schemaPath schema) = .ok table →
      table.foreignKeys = before ++ fk :: after →
      (∀ b ∈ before, ∃ r, Plan.relationAt w (g.schemaPath schema).parent table.name b = .ok r) →
      Plan.Unplannable w (g.schemaPath schema).parent fk → Escapes g schema w
  /-- The name of the table has no letters. -/
  | namelessTable {table : Table} :
      Schema.tableAt w (g.schemaPath schema) = .ok table →
      (∀ fk ∈ table.foreignKeys, ∃ r,
        Plan.relationAt w (g.schemaPath schema).parent table.name fk = .ok r) →
      Nameless (Naming.singular table.name) → Escapes g schema w
  /-- A stub is not UTF-8. -/
  | stub {table : Table} {plan : Plan} {before after : List Stub.Name} {name : Stub.Name} :
      Schema.tableAt w (g.schemaPath schema) = .ok table →
      Plan.planAt w (g.schemaPath schema) table = .ok plan →
      Render.stubsFor g.settings plan = before ++ name :: after →
      (∀ b ∈ before, ∃ text,
        Stub.stubAt w (Render.overridesOf g.settings) (Stub.Name.fileName b) = .ok text) →
      Stub.Undecodable w (Render.overridesOf g.settings) (Stub.Name.fileName name) →
      Escapes g schema w
  /-- The project root has a null character; a generator is not made for such a root. -/
  | nullRoot {artifacts : List Artifact} {r : Report} :
      g.prepared schema w = .ok (.value artifacts r) → g.root.hasNull = true →
      Escapes g schema w
  /-- The export comes to a turn that stops it. -/
  | turn {artifacts : List Artifact} {r : Report} :
      g.prepared schema w = .ok (.value artifacts r) → g.root.hasNull = false →
      Halts (g.fresh w) artifacts → Escapes g schema w
  /-- Seeing to the package has no status for what it finds. -/
  | package {artifacts : List Artifact} {r : Report} :
      g.prepared schema w = .ok (.value artifacts r) → g.root.hasNull = false →
      ¬ Halts (g.fresh w) artifacts → g.installs = true →
      Dependency.Blocked g.root g.runner (exported (g.fresh w) artifacts).2 →
      Escapes g schema w

/-! ## After the export -/

theorem dependencyStep_of_blocked {g : Generator} {r : Report} {w : Workspace}
    (h : Dependency.Blocked g.root g.runner w) :
    ∃ fault w', (g.dependencyStep r).run w = (.error fault, w') := by
  obtain ⟨fault, w', hr⟩ := Dependency.ensure_error_iff.mpr h
  exact ⟨fault, _, Action.run_bind_error (timed_run hr)⟩

theorem dependencyStep_of_clear {g : Generator} {r : Report} {w : Workspace}
    (h : ¬ Dependency.Blocked g.root g.runner w) :
    ∃ status w', (g.dependencyStep r).run w =
      (.ok (withStep { r with
        dependency := some status
        warnings := r.warnings ++ dependencyWarnings status } "Dependencies" (isThere status)
        status.tag), w') := by
  cases hr : (Dependency.ensure g.root g.runner).run w with
  | mk outcome w' =>
    cases outcome with
    | error fault => exact absurd (Dependency.ensure_error_iff.mp ⟨fault, w', hr⟩) h
    | ok status => exact ⟨status, _, Action.run_bind_ok (timed_run hr)⟩

/-- The reports that tell the same of schema, stubs and files. -/
structure SameErrors (r r' : Report) : Prop where
  schemaErrors : r'.schemaErrors = r.schemaErrors
  generationErrors : r'.generationErrors = r.generationErrors
  created : r'.created = r.created
  skipped : r'.skipped = r.skipped
  exportErrors : r'.exportErrors = r.exportErrors

theorem settle_returns {g : Generator} {r : Report} {w : Workspace}
    (h : g.installs = true → ¬ Dependency.Blocked g.root g.runner w) :
    ∃ r' w', (g.settle r).run w = (.ok r', w') ∧ SameErrors r r' := by
  unfold settle
  split
  · rename_i hinstalls
    obtain ⟨status, w', hr⟩ := @dependencyStep_of_clear g r w (h hinstalls)
    exact ⟨_, w', Action.run_bind_ok hr, rfl, rfl, rfl, rfl, rfl⟩
  · exact ⟨_, w, rfl, rfl, rfl, rfl, rfl, rfl⟩

theorem settle_of_blocked {g : Generator} {r : Report} {w : Workspace} (hinstalls : g.installs = true)
    (h : Dependency.Blocked g.root g.runner w) :
    ∃ fault w', (g.settle r).run w = (.error fault, w') := by
  unfold settle
  rw [if_pos hinstalls]
  obtain ⟨fault, w', hr⟩ := @dependencyStep_of_blocked g r w h
  exact ⟨fault, w', Action.run_bind_error hr⟩

/-! ## Runs without a report -/

theorem prepared_of_tableAt {g : Generator} {schema : Path} {w : Workspace} {e : Fault}
    (h : Schema.tableAt w (g.schemaPath schema) = .error e) (he : isSchemaFault e = false) :
    g.prepared schema w = .error e := by
  unfold prepared
  rw [h, next_of_fault _ _ _ he]

theorem prepared_of_planAt {g : Generator} {schema : Path} {w : Workspace} {table : Table}
    {e : Fault} (ht : Schema.tableAt w (g.schemaPath schema) = .ok table)
    (h : Plan.planAt w (g.schemaPath schema) table = .error e) (he : isSchemaFault e = false) :
    g.prepared schema w = .error e := by
  unfold prepared planned
  rw [ht, next_of_ok, h, next_of_fault _ _ _ he]

theorem prepared_of_artifactsAt {g : Generator} {schema : Path} {w : Workspace} {table : Table}
    {plan : Plan} {e : Fault} (ht : Schema.tableAt w (g.schemaPath schema) = .ok table)
    (hp : Plan.planAt w (g.schemaPath schema) table = .ok plan)
    (h : Render.artifactsAt g.settings plan w = .error e) (he : isStubFault e = false) :
    g.prepared schema w = .error e := by
  unfold prepared planned
  rw [ht, next_of_ok, hp, next_of_ok, h, stubStep, if_neg (by rw [he]; exact Bool.false_ne_true)]

theorem generate_of_escapes {g : Generator} {schema : Path} {w : Workspace}
    (h : Escapes g schema w) : ∃ fault w', (g.generate schema).run w = (.error fault, w') := by
  have hfault : ∀ e, g.prepared schema w = .error e →
      ∃ fault w', (g.generate schema).run w = (.error fault, w') := by
    intro e hp
    obtain ⟨notes, hr⟩ := generate_of_fault hp
    exact ⟨e, _, hr⟩
  cases h with
  | schemaPath hlong =>
    obtain ⟨e, h, he⟩ := Schema.tableAt_fault_iff.mpr hlong
    exact hfault e (prepared_of_tableAt h he)
  | relation ht hsplit hbefore hfk =>
    obtain ⟨e, h, he⟩ := Plan.planAt_fault_iff.mpr (Or.inl ⟨_, _, _, hsplit, hbefore, hfk⟩)
    exact hfault e (prepared_of_planAt ht h he)
  | namelessTable ht hall hname =>
    obtain ⟨e, h, he⟩ := Plan.planAt_fault_iff.mpr (Or.inr ⟨hall, hname⟩)
    exact hfault e (prepared_of_planAt ht h he)
  | stub ht hp hsplit hbefore hname =>
    obtain ⟨e, h, he⟩ := Render.artifactsAt_fault_iff.mpr ⟨_, _, _, hsplit, hbefore, hname⟩
    exact hfault e (prepared_of_artifactsAt ht hp h he)
  | nullRoot hp hnull =>
    obtain ⟨notes, -, hr⟩ := generate_of_outcome hp
    obtain ⟨fault, hexport⟩ := exportBy_of_null hnull
    exact ⟨fault, _, hr.trans (conclude_of_error hexport)⟩
  | turn hp hnull hhalts =>
    obtain ⟨notes, -, hr⟩ := generate_of_outcome hp
    obtain ⟨fault, journal, hexport⟩ := exportBy_halts hnull hhalts notes
    exact ⟨fault, _, hr.trans (conclude_of_error hexport)⟩
  | package hp hnull hhalts hinstalls hblocked =>
    obtain ⟨notes, -, hr⟩ := generate_of_outcome hp
    obtain ⟨result, journal, hexport, -⟩ := exportBy_returns hnull hhalts notes
    obtain ⟨fault, w', hsettle⟩ := settle_of_blocked hinstalls (Dependency.blocked_retold.mpr hblocked)
    exact ⟨fault, w', hr.trans ((conclude_of_ok hexport).trans hsettle)⟩

/-! ## Runs with a report -/

/-- The export of a run that is not stopped, and what comes after it. -/
theorem generate_of_rendered {g : Generator} {schema : Path} {w : Workspace}
    {artifacts : List Artifact} {r : Report} (hp : g.prepared schema w = .ok (.value artifacts r))
    (h : ¬ Escapes g schema w) :
    ∃ result r' w', (g.generate schema).run w = (.ok r', w') ∧
      Accounted (g.fresh w).1 artifacts (fates (g.fresh w) artifacts) result ∧
      SameErrors (afterExport r result) r' := by
  have hnull : g.root.hasNull = false := Bool.eq_false_iff.mpr fun hnull => h (.nullRoot hp hnull)
  have hhalts : ¬ Halts (g.fresh w) artifacts := fun hhalts => h (.turn hp hnull hhalts)
  obtain ⟨notes, -, hr⟩ := generate_of_outcome hp
  obtain ⟨result, journal, hexport, haccounted⟩ := exportBy_returns hnull hhalts notes
  have hclear : g.installs = true → ¬ Dependency.Blocked g.root g.runner
      { (exported (g.fresh w) artifacts).2 with journal := journal } := fun hinstalls hblocked =>
    h (.package hp hnull hhalts hinstalls (Dependency.blocked_retold.mp hblocked))
  obtain ⟨r', w', hsettle, hsame⟩ := settle_returns hclear
  exact ⟨result, r', w', hr.trans ((conclude_of_ok hexport).trans hsettle), haccounted, hsame⟩

/-- A run that comes to none of the things that escape returns, with everything recorded. -/
theorem generate_of_clear {g : Generator} {schema : Path} {w : Workspace}
    (h : ¬ Escapes g schema w) :
    ∃ r w', (g.generate schema).run w = (.ok r, w') ∧ Recorded g schema w r := by
  have hprep := preparation g schema w
  generalize hp : g.prepared schema w = prepared at hprep
  cases hprep with
  | schemaRefused ht =>
    obtain ⟨notes, -, hr⟩ := generate_of_outcome hp
    exact ⟨_, _, hr, .schemaRefused ht rfl rfl rfl⟩
  | schemaFault ht he => exact absurd (.schemaPath (Schema.tableAt_fault_iff.mp ⟨_, ht, he⟩)) h
  | planRefused ht hplan =>
    obtain ⟨notes, -, hr⟩ := generate_of_outcome hp
    exact ⟨_, _, hr, .planRefused ht hplan rfl rfl rfl⟩
  | planFault ht hplan he =>
    rcases Plan.planAt_fault_iff.mp ⟨_, hplan, he⟩ with
      ⟨before, fk, after, hsplit, hbefore, hfk⟩ | ⟨hall, hname⟩
    · exact absurd (.relation ht hsplit hbefore hfk) h
    · exact absurd (.namelessTable ht hall hname) h
  | stubRefused ht hplan ha he =>
    obtain ⟨notes, -, hr⟩ := generate_of_outcome hp
    exact ⟨_, _, hr, .stubRefused ht hplan ha rfl rfl rfl⟩
  | stubFault ht hplan ha he =>
    obtain ⟨before, name, after, hsplit, hbefore, hname⟩ :=
      Render.artifactsAt_fault_iff.mp ⟨_, ha, he⟩
    exact absurd (.stub ht hplan hsplit hbefore hname) h
  | rendered ht hplan ha =>
    obtain ⟨result, r', w', hr, haccounted, hsame⟩ := generate_of_rendered hp h
    refine ⟨r', w', hr, .exported ht hplan ha hsame.schemaErrors hsame.generationErrors ?_ ?_ ?_⟩
    · rw [hsame.created]
      exact haccounted.created
    · rw [hsame.skipped]
      exact haccounted.skipped
    · rw [hsame.exportErrors]
      exact haccounted.errors

/-- A run returns a report, with everything that went wrong recorded in it, unless it comes to one
of the things that no step takes as its own. -/
theorem generate_returns_iff (g : Generator) (schema : Path) (w : Workspace) :
    (∃ r w', (g.generate schema).run w = (.ok r, w') ∧ Recorded g schema w r) ↔
      ¬ Escapes g schema w := by
  refine ⟨fun ⟨r, w', hr, _⟩ hescapes => ?_, generate_of_clear⟩
  obtain ⟨fault, w'', hf⟩ := generate_of_escapes hescapes
  rw [hf] at hr
  cases hr

/-! ## A stub that is not UTF-8 -/

/-- The small project, the stub of its models being one byte that starts no character. -/
def projectWithByte : Workspace :=
  smallProject [.repository] [(["s", Stub.Name.model.fileName], .file 0o644 ⟨#[255]⟩)]

set_option maxRecDepth 10000 in
/-- The run ends without a report. -/
theorem undecodable_stub_escapes :
    ¬ ∃ r w', ((smallGenerator {}).generate smallSchema).run projectWithByte = (.ok r, w') := by
  intro ⟨r, w', hr⟩
  have hfault : (((smallGenerator {}).generate smallSchema).run projectWithByte).1.isOk = false := by
    decide +kernel
  rw [hr] at hfault
  cases hfault

end Scaffold.Generator
