import Scaffold.Proofs.Export.Afresh
import Scaffold.Proofs.Export.Overwriting
import Scaffold.Proofs.Generator.Preparation

/-!
# The export of a run

A run exports by an exporter that it makes for itself. What the export does depends on the files
before the run, and not on what the journal says by then.

* `fresh`: the state in which the export of a run begins.
* `exportBy_returns`, `exportBy_halts`: the export of a run, said of the workspace before the run.
* `generate_files`: the files that a run leaves, whether it returns or not.
* `files_kept_iff`: a run keeps all files exactly if the last artifact written to the place of a
  file says the same as the file; only a path that goes up by `..` can lead there.
* `detour_replaces_file`: a path behind a directory that is made on the way does.
-/
namespace Scaffold.Generator

open Files (Path Location Node)
open Export (Halts Accounted exported fates retold Keeps)

/-! ## The exporter of a run -/

/-- The state in which the export of a run begins, the journal apart. -/
def fresh (g : Generator) (w : Workspace) : Export.State :=
  ({ root := g.root.resolved w.directory, dryRun := g.settings.dryRun }, w)

/-- A root with a null character ends the export before it begins. -/
theorem exportBy_of_null {g : Generator} {artifacts : List Artifact} {w : Workspace}
    (h : g.root.hasNull = true) :
    ∃ fault, (exportBy g.root g.settings.dryRun artifacts).run w = (.error fault, w) :=
  Export.exportAfresh_of_null h

theorem exportBy_returns {g : Generator} {artifacts : List Artifact} {w : Workspace}
    (hnull : g.root.hasNull = false) (h : ¬ Halts (g.fresh w) artifacts) (notes : List Note) :
    ∃ result journal, (exportBy g.root g.settings.dryRun artifacts).run (w.told notes) =
        (.ok result, { (exported (g.fresh w) artifacts).2 with journal := journal }) ∧
      Accounted (g.fresh w).1 artifacts (fates (g.fresh w) artifacts) result :=
  Export.exportAfresh_returns hnull h notes

theorem exportBy_halts {g : Generator} {artifacts : List Artifact} {w : Workspace}
    (hnull : g.root.hasNull = false) (h : Halts (g.fresh w) artifacts) (notes : List Note) :
    ∃ fault journal, (exportBy g.root g.settings.dryRun artifacts).run (w.told notes) =
      (.error fault, { (exported (g.fresh w) artifacts).2 with journal := journal }) :=
  Export.exportAfresh_halts hnull h notes

/-! ## The end of a run -/

/-- The report after the export. -/
def afterExport (r : Report) (result : Export.Result) : Report :=
  withStep { r with
      created := r.created ++ result.created
      skipped := r.skipped ++ result.skipped
      exportErrors := r.exportErrors ++ result.errors
      manifest := some result.manifest } "Export Files" result.success
    (toString result.created.length ++ " created, " ++ toString result.skipped.length ++ " skipped")

/-- What a run does after the export. -/
def settle (g : Generator) (r : Report) : Action Workspace Report :=
  if g.installs then g.dependencyStep r >>= fun r => pure r.finished else pure r.finished

theorem conclude_of_error {g : Generator} {artifacts : List Artifact} {r : Report}
    {w w' : Workspace} {fault : Fault}
    (h : (exportBy g.root g.settings.dryRun artifacts).run w = (.error fault, w')) :
    (g.conclude (.value artifacts r)).run w = (.error fault, w') :=
  Action.run_bind_error (Action.run_bind_error h)

theorem conclude_of_ok {g : Generator} {artifacts : List Artifact} {r : Report}
    {w w' : Workspace} {result : Export.Result}
    (h : (exportBy g.root g.settings.dryRun artifacts).run w = (.ok result, w')) :
    (g.conclude (.value artifacts r)).run w = (g.settle (afterExport r result)).run w' := by
  have hexport : (g.exportStep artifacts r).run w = (.ok (afterExport r result), w') :=
    Action.run_bind_ok h
  refine (Action.run_bind_ok hexport).trans ?_
  unfold settle
  split <;> rfl

/-! ## The files that a run leaves -/

/-- The places that a run writes to, with what it writes there. -/
def writes (g : Generator) (schema : Path) (w : Workspace) : List (Location × Artifact) :=
  match g.prepared schema w with
  | .ok (.value artifacts _) =>
    if g.root.hasNull then [] else Export.writes (g.fresh w) artifacts
  | _ => []

/-- The files that the export of a run leaves. -/
def filesLeft (g : Generator) (schema : Path) (w : Workspace) : Files.Tree :=
  match g.prepared schema w with
  | .ok (.value artifacts _) =>
    if g.root.hasNull then w.files else (exported (g.fresh w) artifacts).2.files
  | _ => w.files

/-- A run that does not see to the package leaves what its export leaves. -/
theorem generate_files {g : Generator} {schema : Path} {w : Workspace} (hoff : g.installs = false) :
    ((g.generate schema).run w).2.files = g.filesLeft schema w := by
  unfold filesLeft
  cases hp : g.prepared schema w with
  | error e =>
    obtain ⟨notes, hr⟩ := generate_of_fault hp
    rw [hr]
    rfl
  | ok outcome =>
    obtain ⟨notes, -, hr⟩ := generate_of_outcome hp
    rw [hr]
    cases outcome with
    | ended r => rfl
    | value artifacts r =>
      cases hnull : g.root.hasNull with
      | true =>
        obtain ⟨fault, hexport⟩ := exportBy_of_null hnull
        rw [conclude_of_error hexport]
        simp only [if_true]
        rfl
      | false =>
        simp only [Bool.false_eq_true, if_false]
        rcases Classical.em (Halts (g.fresh w) artifacts) with h | h
        · obtain ⟨fault, journal, hexport⟩ := exportBy_halts hnull h notes
          rw [conclude_of_error hexport]
        · obtain ⟨result, journal, hexport, -⟩ := exportBy_returns hnull h notes
          rw [conclude_of_ok hexport, settle, if_neg (by rw [hoff]; exact Bool.false_ne_true)]
          rfl

/-- A run that does not see to the package keeps every file with its bytes and its mode exactly if
the last artifact written to the place of a file, if there is one, has these bytes and gives this
mode. Where everything stands in a directory, such an artifact has a path that goes up by `..`. -/
theorem files_kept_iff {g : Generator} {schema : Path} {w : Workspace} (hoff : g.installs = false) :
    (Keeps w.files ((g.generate schema).run w).2.files ↔
      ∀ l mode content, w.files.lookup l = some (.file mode content) →
        ∀ a, List.lookup l (g.writes schema w).reverse = some a →
          Files.Tree.newFileMode w.umask = mode ∧ Text.Utf8.encode a.content = content) ∧
    (w.files.WellFormed → ".." ∉ w.directory → ∀ l mode content a,
      w.files.lookup l = some (.file mode content) → (l, a) ∈ g.writes schema w →
        ".." ∈ (Path.ofString a.relativePath).names) := by
  rw [generate_files hoff]
  unfold filesLeft writes
  have hnone : Keeps w.files w.files ↔ ∀ l mode content,
      w.files.lookup l = some (.file mode content) →
        ∀ a, List.lookup l ([] : List (Location × Artifact)).reverse = some a →
          Files.Tree.newFileMode w.umask = mode ∧ Text.Utf8.encode a.content = content :=
    ⟨fun _ l mode content _ a ha => (by cases ha), fun _ l mode content h => h⟩
  cases g.prepared schema w with
  | error e => exact ⟨hnone, fun _ _ l mode content a _ ha => (by cases ha)⟩
  | ok outcome =>
    cases outcome with
    | ended r => exact ⟨hnone, fun _ _ l mode content a _ ha => (by cases ha)⟩
    | value artifacts r =>
      simp only
      split
      · exact ⟨hnone, fun _ _ l mode content a _ ha => (by cases ha)⟩
      · refine ⟨Export.keeps_iff (g.fresh w) artifacts, ?_⟩
        intro hshape hdots l mode content a hl ha
        have htarget := Export.dots_of_overwriting hshape rfl hl ha
        unfold Path.join Path.append at htarget
        split at htarget
        · exact htarget
        · simp only [List.mem_append] at htarget
          rcases htarget with hroot | hpath
          · exfalso
            have hstart : ".." ∉ (if g.root.isAbsolute then [] else w.directory) := by
              split
              · simp
              · exact hdots
            exact Files.Tree.dots_not_mem_follow hstart hroot
          · exact hpath

/-- The small project with a file where the model of its table goes. -/
def projectWithModel : Workspace :=
  smallProject Stub.Name.all [(["p", "src"], .directory), (["p", "src", "Models"], .directory),
    (["p", "src", "Models", "O.php"], .file 0o600 "mine".toUTF8)]

/-- A model that is there already is kept: only the repository is written. -/
theorem existing_model_kept :
    (smallGenerator {}).installs = false ∧
      Keeps projectWithModel.files
        (((smallGenerator {}).generate smallSchema).run projectWithModel).2.files := by
  refine ⟨rfl, (files_kept_iff rfl).1.mpr fun l mode content hl a ha => ?_⟩
  have hplaces : (((smallGenerator {}).writes smallSchema projectWithModel).reverse).map Prod.fst =
      [["p", "src", "Repositories", "ORepository.php"]] := by
    decide +kernel
  have hmem : l ∈ (((smallGenerator {}).writes smallSchema projectWithModel).reverse).map
      Prod.fst := by
    obtain ⟨before, after, heq, -⟩ := List.lookup_eq_some_iff.mp ha
    rw [heq]
    simp
  rw [hplaces, List.mem_singleton] at hmem
  subst hmem
  have habsent : (projectWithModel.files.lookup
      ["p", "src", "Repositories", "ORepository.php"]).isNone = true := by
    decide
  rw [hl] at habsent
  cases habsent

/-- The settings of a project whose models are reached by way of a directory that is not there. -/
def detourSettings : Settings := { modelsDir := "nope/../src/Models" }

/-- What a file holds. -/
def contentOf : Option Node → Option ByteArray
  | some (.file _ content) => some content
  | _ => none

/-- The model is looked up before the directory on the way to it is made, and written after. -/
theorem detour_replaces_file :
    ¬ Keeps projectWithModel.files
      (((smallGenerator detourSettings).generate smallSchema).run projectWithModel).2.files := by
  intro hkeeps
  have hbefore : projectWithModel.files.lookup ["p", "src", "Models", "O.php"] =
      some (.file 0o600 "mine".toUTF8) := rfl
  have hafter : contentOf ((((smallGenerator detourSettings).generate smallSchema).run
      projectWithModel).2.files.lookup ["p", "src", "Models", "O.php"]) = some "x".toUTF8 := by
    decide +kernel
  rw [hkeeps _ _ _ hbefore] at hafter
  revert hafter
  decide

end Scaffold.Generator
