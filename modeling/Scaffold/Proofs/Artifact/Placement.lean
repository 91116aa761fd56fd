import Scaffold.Artifact.Render
import Scaffold.Plan.Build
import Scaffold.Proofs.Export.Overwriting
import Scaffold.Proofs.Files.Beneath
import Scaffold.Proofs.Naming
import Scaffold.Proofs.Plan.Building
import Scaffold.Proofs.Settings

/-!
# Where artifacts are placed

An artifact is placed by a path that is put together from a directory of the settings and the name of a
class. It stays below the root of the project unless the directory is empty, in which case the path
starts with a slash, or something in it goes up.

* `inside_join_iff`: a file of a class in a trimmed directory.
* `artifacts_inside_iff`: when all artifacts of accepted settings stay below the root.
* `not_climbs_of_build`: the class of a plan goes up only if the name of its table has a slash.
* `slash_leaves_project`: a directory that is a slash is accepted, and its artifacts leave the project.
-/
namespace Scaffold.Render

open Files (Inside Climbs Location namesOf)
open Settings (Trimmed)
open Text (Outside isSlash)

/-! ## The path of a class -/

theorem class_path_toList (dir name : String) :
    (dir ++ "/" ++ name ++ ".php").toList = dir.toList ++ '/' :: (name ++ ".php").toList := by
  simp [String.toList_append]

theorem ending_no_slash : '/' ∉ ".php".toList := by decide

theorem ending_point : ∃ c ∈ ".php".toList, c ≠ '.' := ⟨'p', by decide, by decide⟩

/-- The path of a class in a trimmed directory starts with a slash exactly if the directory is empty. -/
theorem relative_class_iff {dir : String} (hdir : Trimmed dir) (name : String) :
    Outside isSlash (dir ++ "/" ++ name ++ ".php").toList ↔ dir ≠ "" := by
  rw [class_path_toList]
  constructor
  · rintro hstart rfl
    have hslash : isSlash '/' = false := hstart
    exact absurd hslash (by decide)
  · intro hne
    obtain ⟨c, cs, hcs⟩ := List.exists_cons_of_ne_nil (mt String.toList_eq_nil_iff.mp hne)
    have hfront := hdir.front
    rw [hcs] at hfront ⊢
    exact hfront

/-- The file of a class in a trimmed directory is inside the project exactly if the directory has a name
and neither it nor the class goes up. -/
theorem inside_class_iff {dir : String} (hdir : Trimmed dir) (hdots : ".." ∉ namesOf dir.toList)
    (name : String) :
    Inside (dir ++ "/" ++ name ++ ".php") ↔ dir ≠ "" ∧ ¬Climbs name := by
  have hclass : ".." ∈ namesOf (name ++ ".php").toList ↔ Climbs name :=
    Files.dots_mem_namesOf ending_no_slash ending_point
  have hnames : namesOf (dir ++ "/" ++ name ++ ".php").toList =
      namesOf dir.toList ++ namesOf (name ++ ".php").toList := by
    rw [class_path_toList, Files.namesOf_append]
  constructor
  · intro h
    refine ⟨(relative_class_iff hdir name).mp h.relative, fun hclimbs => h.level ?_⟩
    rw [hnames, List.mem_append]
    exact .inr (hclass.mpr hclimbs)
  · rintro ⟨hne, hclimbs⟩
    refine ⟨(relative_class_iff hdir name).mpr hne, ?_, ?_⟩
    · rw [hnames, List.mem_append]
      rintro (h | h)
      · exact hdots h
      · exact hclimbs (hclass.mp h)
    · rw [hnames]
      exact List.append_ne_nil_of_right_ne_nil _
        (Files.namesOf_ne_nil ending_no_slash ending_point)

/-! ## The artifacts of a plan -/

/-- The paths that do not depend on the settings. -/
def fixedPaths : List String :=
  ["bootstrap/database.php", ".env.example", "public/index.php", "public/.htaccess",
    "nginx.conf.example"]

theorem inside_of_fixed : ∀ path ∈ fixedPaths, Inside path := by
  have hall : ∀ path ∈ fixedPaths, Outside isSlash path.toList ∧ ".." ∉ namesOf path.toList ∧
      namesOf path.toList ≠ [] := by decide
  intro path hpath
  obtain ⟨hrelative, hlevel, hnamed⟩ := hall path hpath
  exact ⟨hrelative, hlevel, hnamed⟩

/-- An artifact is the model, the repository, the controller if there is one, or has a fixed path. -/
theorem forall_artifacts_iff {P : String → Prop} (hfixed : ∀ path ∈ fixedPaths, P path) (stubs : Stubs)
    (s : Settings) (plan : Plan) :
    (∀ a ∈ artifacts stubs s plan, P a.relativePath) ↔
      P (s.modelsDir ++ "/" ++ plan.modelName ++ ".php") ∧
      P (s.repositoriesDir ++ "/" ++ repositoryName plan ++ ".php") ∧
      (s.controllerEnabled = true → P (s.controllersDir ++ "/" ++ controllerName plan ++ ".php")) := by
  have hdatabase : P (databaseBootstrap stubs).relativePath :=
    hfixed "bootstrap/database.php" (by decide)
  have henvironment : P (environmentExample stubs).relativePath := hfixed ".env.example" (by decide)
  have hrouter : P (router stubs s plan).relativePath := hfixed "public/index.php" (by decide)
  have hserver : ∀ mode, P (serverConfig stubs mode).relativePath := by
    rintro (_ | _)
    · exact hfixed "public/.htaccess" (by decide)
    · exact hfixed "nginx.conf.example" (by decide)
  unfold artifacts controllerPart setupPart
  simp only [List.forall_mem_append, List.forall_mem_cons]
  constructor
  · rintro ⟨⟨⟨hmodel, hrepository, -⟩, hcontroller⟩, -⟩
    refine ⟨hmodel, hrepository, fun henabled => ?_⟩
    rw [if_pos henabled] at hcontroller
    exact hcontroller _ List.mem_cons_self
  · rintro ⟨hmodel, hrepository, hcontroller⟩
    refine ⟨⟨⟨hmodel, hrepository, by simp⟩, ?_⟩, ?_⟩
    · split
      · rename_i henabled
        simp only [List.forall_mem_cons]
        exact ⟨hcontroller henabled, hdatabase, henvironment, by simp⟩
      · simp
    · split
      · simp only [List.forall_mem_cons]
        exact ⟨hrouter, hserver _, by simp⟩
      · simp

/-- The directories of settings. -/
def directories (s : Settings) : List String := [s.modelsDir, s.repositoriesDir, s.controllersDir]

/-- No directory that is used is empty. -/
structure Named (s : Settings) : Prop where
  models : s.modelsDir ≠ ""
  repositories : s.repositoriesDir ≠ ""
  controllers : s.controllerEnabled = true → s.controllersDir ≠ ""

/-- No artifact of accepted settings has a path that starts with a slash exactly if no directory that is
used has come out empty. All of them are inside the project exactly if besides the class of the plan does
not go up. What is inside is written below the root. -/
theorem artifacts_inside_iff {s : Settings} (h : s.Accepted)
    (hdots : ∀ dir ∈ directories s, ".." ∉ namesOf dir.toList) (stubs : Stubs) (plan : Plan) :
    ((∀ a ∈ artifacts stubs s plan, Outside isSlash a.relativePath.toList) ↔ Named s) ∧
    ((∀ a ∈ artifacts stubs s plan, Inside a.relativePath) ↔ Named s ∧ ¬Climbs plan.modelName) ∧
    ∀ (st : Export.State) (l : Location) (a : Artifact),
      (l, a) ∈ Export.writes st (artifacts stubs s plan) → Inside a.relativePath →
        ∃ below, below ≠ [] ∧ l = st.1.root.place st.2.directory ++ below := by
  have htidy := h.tidy
  have hfixed : ∀ path ∈ fixedPaths, Outside isSlash path.toList := fun path hpath =>
    (inside_of_fixed path hpath).relative
  refine ⟨?_, ?_, ?_⟩
  · rw [forall_artifacts_iff hfixed, relative_class_iff htidy.models,
      relative_class_iff htidy.repositories, relative_class_iff htidy.controllers]
    exact ⟨fun ⟨hm, hr, hc⟩ => ⟨hm, hr, hc⟩, fun hnamed => ⟨hnamed.models, hnamed.repositories,
      hnamed.controllers⟩⟩
  · rw [forall_artifacts_iff inside_of_fixed,
      inside_class_iff htidy.models (hdots _ (by simp [directories])),
      inside_class_iff htidy.repositories (hdots _ (by simp [directories])),
      inside_class_iff htidy.controllers (hdots _ (by simp [directories]))]
    unfold repositoryName controllerName
    rw [Files.climbs_append (by decide), Files.climbs_append (by decide)]
    constructor
    · rintro ⟨⟨hm, hlevel⟩, ⟨hr, -⟩, hc⟩
      exact ⟨⟨hm, hr, fun henabled => (hc henabled).1⟩, hlevel⟩
    · rintro ⟨hnamed, hlevel⟩
      exact ⟨⟨hnamed.models, hlevel⟩, ⟨hnamed.repositories, hlevel⟩, fun henabled =>
        ⟨hnamed.controllers henabled, hlevel⟩⟩
  · intro st l a hwrites hinside
    obtain ⟨-, rfl⟩ := Export.mem_writes hwrites
    exact ⟨namesOf a.relativePath.toList, hinside.named, hinside.place_join st.1.root st.2.directory⟩

/-- Default settings keep everything in the project. -/
theorem default_artifacts_inside :
    Settings.Accepted {} ∧ (∀ dir ∈ directories {}, ".." ∉ namesOf dir.toList) ∧
      ∀ a ∈ artifacts (fun _ => "") {} { (default : Plan) with modelName := "Order" },
        Inside a.relativePath := by
  have haccepted : Settings.Accepted {} := .given (rfl : Settings.ofValue (.mapping []) = .ok {})
  have hdots : ∀ dir ∈ directories {}, ".." ∉ namesOf dir.toList := by decide
  have hclimbs : ¬Climbs "Order" := Files.not_climbs_of_no_slash (by decide)
  have hnamed : Named {} := ⟨by decide, by decide, fun _ => by decide⟩
  exact ⟨haccepted, hdots, (artifacts_inside_iff haccepted hdots _ _).2.1.mpr ⟨hnamed, hclimbs⟩⟩

/-- A directory that is a slash is accepted and comes out empty; the model is then written to the root of
the file system. -/
theorem slash_leaves_project :
    ∃ (s : Settings) (plan : Plan) (w : Workspace),
      Settings.ofValue (.mapping [(.text "models_dir", .text "/")]) = .ok s ∧
      (∀ dir ∈ directories s, ".." ∉ namesOf dir.toList) ∧
      ((Plan.build { name := "orders", columns := ["id"] } fun _ => pure none).run w).1 = .ok plan ∧
      ∀ stubs, ∃ a ∈ artifacts stubs s plan, a.relativePath = "/Order.php" ∧
        (Files.Path.ofString "/project").join a.relativePath = Files.Path.ofString "/Order.php" := by
  have hpath : "" ++ "/" ++ Naming.modelName "orders" ++ ".php" = "/Order.php" := by decide
  refine ⟨{ modelsDir := "" }, _, {}, rfl, by decide, rfl, fun stubs => ?_⟩
  refine ⟨_, List.mem_append_left _ (List.mem_append_left _ List.mem_cons_self), hpath, ?_⟩
  exact (congrArg (Files.Path.ofString "/project").join hpath).trans (by decide)

/-! ## The class of a plan -/

theorem modelName_of_build {σ : Type} [Journaled σ] {table : Table}
    {resolve : String → Action σ (Option Table)} {st st' : σ} {plan : Plan}
    (h : (Plan.build table resolve).run st = (.ok plan, st')) : plan.modelName = table.modelName := by
  rw [(Plan.built_of_build h).eq_planOf]
  rfl

/-- The class of a plan goes up only if the name of its table has a slash. -/
theorem not_climbs_of_build {σ : Type} [Journaled σ] {table : Table}
    {resolve : String → Action σ (Option Table)} {st st' : σ} {plan : Plan}
    (h : (Plan.build table resolve).run st = (.ok plan, st')) (hslash : '/' ∉ table.name.toList) :
    ¬Climbs plan.modelName := by
  rw [modelName_of_build h]
  exact Files.not_climbs_of_no_slash (mt Naming.slash_mem_modelName hslash)

end Scaffold.Render
