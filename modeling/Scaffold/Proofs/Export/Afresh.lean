import Scaffold.Proofs.Export.Accounting

/-!
# An export by an exporter of its own

Whoever exports makes an exporter first, writes the artifacts with it, and drops it. What the export does
depends on the files, and not on what the journal says by then.

* `exportAfresh`: such an export.
* `beginning`: the state in which its turns begin.
* `exportAfresh_returns`, `exportAfresh_halts`: the export, said of the workspace before it.
* `exportAfresh_result`: its result, said of the state that its turns leave.
-/
namespace Scaffold.Export

open Files (Path)

variable {root : Path} {dryRun atomic : Bool} {as : List Artifact} {w : Workspace}

/-- Exports some artifacts by a new exporter. -/
def exportAfresh (root : Path) (dryRun atomic : Bool) (as : List Artifact) :
    Action Workspace Result := do
  let exporter ← Exporter.new root dryRun atomic
  fun w => match (exportAll as).run (exporter, w) with
    | (outcome, (_, w)) => (outcome, w)

/-- The state in which the turns of an export begin, the journal apart. -/
def beginning (root : Path) (dryRun atomic : Bool) (w : Workspace) : State :=
  ({ root := root.resolved w.directory, dryRun := dryRun, atomic := atomic }, w)

theorem resolve_of_null (h : root.hasNull = true) :
    (Workspace.resolve root).run w = (.error (.file ⟨.nullCharacter, root.text, none⟩), w) := by
  unfold Action.run Workspace.resolve
  rw [if_pos h]

theorem Exporter.new_run (dryRun atomic : Bool) (w : Workspace) (notes : List Note)
    (h : root.hasNull = false) :
    ∃ journal, (Exporter.new root dryRun atomic).run (w.told notes) =
      (.ok (beginning root dryRun atomic w).1, { w with journal := journal }) := by
  have hroot : (Workspace.resolve root).run (w.told notes) =
      (.ok (root.resolved w.directory), w.told notes) := by
    unfold Action.run Workspace.resolve
    rw [if_neg (by rw [h]; exact Bool.false_ne_true)]
    rfl
  unfold Exporter.new
  rw [Action.run_bind_ok hroot]
  exact ⟨_, rfl⟩

/-- A root with a null character ends the export before it begins. -/
theorem exportAfresh_of_null (h : root.hasNull = true) :
    ∃ fault, (exportAfresh root dryRun atomic as).run w = (.error fault, w) := by
  unfold exportAfresh Exporter.new
  exact ⟨_, Action.run_bind_error (Action.run_bind_error (resolve_of_null h))⟩

theorem exportAfresh_run {x x' : Exporter} {w' w'' : Workspace} {outcome : Except Fault Result}
    (hnew : (Exporter.new root dryRun atomic).run w = (.ok x, w'))
    (h : (exportAll as).run (x, w') = (outcome, (x', w''))) :
    (exportAfresh root dryRun atomic as).run w = (outcome, w'') := by
  refine (Action.run_bind_ok hnew).trans ?_
  unfold Action.run at h ⊢
  simp only [h]

/-- An export that comes to no turn that stops it returns. -/
theorem exportAfresh_returns (hnull : root.hasNull = false)
    (h : ¬ Halts (beginning root dryRun atomic w) as) (notes : List Note) :
    ∃ result journal, (exportAfresh root dryRun atomic as).run (w.told notes) =
        (.ok result, { (exported (beginning root dryRun atomic w) as).2 with journal := journal }) ∧
      Accounted (beginning root dryRun atomic w).1 as (fates (beginning root dryRun atomic w) as)
        result := by
  obtain ⟨journal, hnew⟩ := Exporter.new_run dryRun atomic w notes hnull
  obtain ⟨result, more, hr, haccounted⟩ :=
    exportAll_returns (s := retold (beginning root dryRun atomic w) journal) (mt halts_retold.mp h)
  obtain ⟨journal', hend⟩ := exported_retold (beginning root dryRun atomic w) journal as
  rw [fates_retold] at haccounted
  rw [hend] at hr
  exact ⟨result, journal' ++ more, exportAfresh_run hnew hr, haccounted⟩

/-- The result of an export is the result of the exporter that its turns leave. -/
theorem exportAfresh_result (hnull : root.hasNull = false)
    (h : ¬ Halts (beginning root dryRun atomic w) as) :
    ∃ journal, (exportAfresh root dryRun atomic as).run w =
      (.ok (as.foldl turn (beginning root dryRun atomic w)).1.result,
        { (as.foldl turn (beginning root dryRun atomic w)).2 with journal := journal }) := by
  obtain ⟨journal, hnew⟩ := Exporter.new_run dryRun atomic w [] hnull
  obtain ⟨journal', hend⟩ := exported_retold (beginning root dryRun atomic w) journal as
  have hturns := forEach_exportOne h
  have hretold := forEach_exportOne (mt (@halts_retold _ journal _).mp h)
  have hleft : as.foldl turn (retold (beginning root dryRun atomic w) journal) =
      retold (as.foldl turn (beginning root dryRun atomic w)) journal' := by
    unfold exported at hend
    rw [hretold, hturns] at hend
    exact hend
  rw [hleft] at hretold
  obtain ⟨notes, hr⟩ := exportAll_of_ok hretold
  rw [Workspace.told_nil] at hnew
  exact ⟨journal' ++ notes, exportAfresh_run hnew hr⟩

/-- An export that comes to a turn that stops it ends there. -/
theorem exportAfresh_halts (hnull : root.hasNull = false)
    (h : Halts (beginning root dryRun atomic w) as) (notes : List Note) :
    ∃ fault journal, (exportAfresh root dryRun atomic as).run (w.told notes) =
      (.error fault,
        { (exported (beginning root dryRun atomic w) as).2 with journal := journal }) := by
  obtain ⟨journal, hnew⟩ := Exporter.new_run dryRun atomic w notes hnull
  obtain ⟨fault, more, hr⟩ :=
    exportAll_halts (s := retold (beginning root dryRun atomic w) journal) (halts_retold.mpr h)
  obtain ⟨journal', hend⟩ := exported_retold (beginning root dryRun atomic w) journal as
  rw [hend] at hr
  exact ⟨fault, journal' ++ more, exportAfresh_run hnew hr⟩

/-- The workspace that an export leaves. -/
theorem exportAfresh_left (hnull : root.hasNull = false) (w : Workspace) :
    ∃ journal, ((exportAfresh root dryRun atomic as).run w).2 =
      { (exported (beginning root dryRun atomic w) as).2 with journal := journal } := by
  rcases Classical.em (Halts (beginning root dryRun atomic w) as) with h | h
  · obtain ⟨fault, journal, hr⟩ := exportAfresh_halts hnull h []
    rw [Workspace.told_nil] at hr
    exact ⟨journal, by rw [hr]⟩
  · obtain ⟨result, journal, hr, -⟩ := exportAfresh_returns hnull h []
    rw [Workspace.told_nil] at hr
    exact ⟨journal, by rw [hr]⟩

end Scaffold.Export
