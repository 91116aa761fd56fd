import Mathlib.Data.List.Nodup
import Scaffold.Proofs.Artifact.Confinement

/-!
# Files of one run have names of their own

Settings can put models, repositories and controllers into one directory, and into one with the entry point
or the database connection. Their files are told apart by their names alone. Of the classes of a plan one
is named like the model and the others have an ending besides. The files with fixed names end in something
else than a class, or begin with a small letter; and a class does not, since its first letter comes from a
change to upper case, whatever script the table is named in.

* `fileName`: the name of the file of an artifact, the last name of its path.
* `paths_sublist`: the paths of the artifacts of a plan.
* `fileNames_sublist`: the names of their files, whatever the directories of the settings are.
* `FirstUpper`, `not_fixed_of_class`: what a class has and the fixed names have not.
* `artifacts_apart`: the files of a plan have names of their own, and so stand in places of their own.
-/
namespace Scaffold.Render

open Files (FileOf Location Path namesOf)
open Schema (WasRead)

/-- The name of the file of an artifact. -/
def fileName (a : Artifact) : String := (Path.ofString a.relativePath).name

/-- The names of the files that have fixed paths. -/
def fixedFiles : List String :=
  ["database.php", ".env.example", "index.php", ".htaccess", "nginx.conf.example"]

/-- The paths of the classes of a plan. -/
def classPaths (s : Settings) (plan : Plan) : List String :=
  [s.modelsDir ++ "/" ++ plan.modelName ++ ".php",
    s.repositoriesDir ++ "/" ++ repositoryName plan ++ ".php",
    s.controllersDir ++ "/" ++ controllerName plan ++ ".php"]

/-- The files of the classes of a plan. -/
def classFiles (plan : Plan) : List String := (classes plan).map (· ++ ".php")

/-! ## The names of the files of a plan -/

theorem name_fixedPaths : fixedPaths.map (fun path => (Path.ofString path).name) = fixedFiles := by
  decide +kernel

theorem name_class_path (dir : String) {name : String} (h : '/' ∉ name.toList) :
    (Path.ofString (dir ++ "/" ++ name ++ ".php")).name = name ++ ".php" := by
  unfold Path.name Path.ofString
  rw [namesOf_class_path dir h, List.getLast?_concat, Option.getD_some]

/-- The directories of the settings leave no trace in the names of the files. -/
theorem name_classPaths (s : Settings) {plan : Plan} (h : '/' ∉ plan.modelName.toList) :
    (classPaths s plan).map (fun path => (Path.ofString path).name) = classFiles plan := by
  have hending : ∀ ending : String, '/' ∉ ending.toList → '/' ∉ (plan.modelName ++ ending).toList := by
    intro ending hslash
    rw [String.toList_append, List.mem_append, not_or]
    exact ⟨h, hslash⟩
  simp only [classPaths, classFiles, classes, List.map_cons, List.map_nil, name_class_path _ h,
    repositoryName, controllerName, name_class_path _ (hending "Repository" (by decide)),
    name_class_path _ (hending "Controller" (by decide))]

/-- An artifact has the path of a class or a fixed path, and no two have one of them. -/
theorem paths_sublist (stubs : Stubs) (s : Settings) (plan : Plan) :
    ((artifacts stubs s plan).map (·.relativePath)).Sublist (classPaths s plan ++ fixedPaths) := by
  -- the paths in the order of the artifacts, those together that come together
  have hparts : classPaths s plan ++ fixedPaths =
      [(model stubs s plan).relativePath, (repository stubs s plan).relativePath] ++
        [(controller stubs s plan).relativePath, "bootstrap/database.php", ".env.example"] ++
        ["public/index.php", "public/.htaccess", "nginx.conf.example"] := rfl
  rw [hparts]
  unfold artifacts
  rw [List.map_append, List.map_append]
  refine (List.Sublist.append (List.Sublist.refl _) ?_).append ?_
  · unfold controllerPart
    split
    · exact List.Sublist.refl _
    · exact List.nil_sublist _
  · unfold setupPart
    split
    · rename_i mode _
      cases mode with
      | apache =>
        exact (List.nil_sublist ["nginx.conf.example"]).append_left ["public/index.php", "public/.htaccess"]
      | nginx => exact ((List.Sublist.refl ["nginx.conf.example"]).cons "public/.htaccess").cons_cons _
    · exact List.nil_sublist _

/-- The files of a plan are named like its classes or have fixed names. -/
theorem fileNames_sublist (stubs : Stubs) (s : Settings) {plan : Plan}
    (h : '/' ∉ plan.modelName.toList) :
    ((artifacts stubs s plan).map fileName).Sublist (classFiles plan ++ fixedFiles) := by
  have hnames := (paths_sublist stubs s plan).map fun path => (Path.ofString path).name
  rw [List.map_append, name_classPaths s h, name_fixedPaths, List.map_map] at hnames
  exact hnames

/-! ## Classes beside fixed names -/

/-- A text that does not begin with a small letter of ASCII. -/
def FirstUpper (s : String) : Prop := ∀ c ∈ s.toList.head?, c.isLower = false

theorem FirstUpper.append {s t : String} (hs : FirstUpper s) (ht : FirstUpper t) :
    FirstUpper (s ++ t) := by
  unfold FirstUpper at *
  rw [String.toList_append, List.head?_append]
  cases hhead : s.toList.head? with
  | none => exact ht
  | some c => rw [hhead] at hs; exact hs

theorem firstUpper_modelName (table : String) : FirstUpper (Naming.modelName table) := fun _ hc =>
  Naming.isLower_of_head_modelName hc

theorem firstUpper_classes {plan : Plan} (h : FirstUpper plan.modelName) :
    ∀ name ∈ classes plan, FirstUpper name := by
  simp only [classes, repositoryName, controllerName, List.forall_mem_cons]
  exact ⟨h, h.append (by simp [FirstUpper]), h.append (by simp [FirstUpper]), by simp⟩

theorem getLast?_class (name : String) : (name ++ ".php").toList.getLast? = some 'p' := by
  rw [String.toList_append]
  exact List.getLast?_append_of_ne_nil _ (by decide)

/-- No file with a fixed name is named like a class. -/
theorem not_fixed_of_class {name : String} (h : FirstUpper name) : name ++ ".php" ∉ fixedFiles := by
  have hfixed : ∀ file ∈ fixedFiles, ¬(FirstUpper file ∧ file.toList.getLast? = some 'p') := by
    simp [fixedFiles, FirstUpper]
  exact fun hmem => hfixed _ hmem ⟨h.append (by simp [FirstUpper]), getLast?_class name⟩

theorem nodup_classes (plan : Plan) : (classes plan).Nodup := by
  have hmodel : ∀ ending : String, ending ≠ "" → plan.modelName ≠ plan.modelName ++ ending := by
    intro ending hne heq
    exact hne (String.append_right_inj plan.modelName |>.mp (heq.symm.trans String.append_empty.symm))
  have hothers : repositoryName plan ≠ controllerName plan := fun heq =>
    absurd (String.append_right_inj plan.modelName |>.mp heq) (by decide)
  simp only [classes, List.nodup_cons, List.mem_cons, List.not_mem_nil, or_false, not_or]
  exact ⟨⟨hmodel _ (by decide), hmodel _ (by decide)⟩, hothers, by simp⟩

theorem nodup_files {plan : Plan} (h : FirstUpper plan.modelName) :
    (classFiles plan ++ fixedFiles).Nodup := by
  have hclasses : (classFiles plan).Nodup :=
    (nodup_classes plan).map fun _ _ heq => (String.append_left_inj ".php").mp heq
  refine List.nodup_append.mpr ⟨hclasses, by decide, ?_⟩
  rintro file hfile fixed hfixed rfl
  obtain ⟨name, hname, rfl⟩ := List.mem_map.mp hfile
  exact not_fixed_of_class (firstUpper_classes h name hname) hfixed

/-! ## Places -/

/-- A path that ends in the name of a file leads to a place of that name. -/
theorem getLast?_place_join {path : String} (hnamed : (Path.ofString path).name ≠ "")
    (hlevel : (Path.ofString path).name ≠ "..") (root : Path) (l : Location) :
    ((root.join path).place l).getLast? = some (Path.ofString path).name := by
  have hlast : (Path.ofString path).names.getLast? = some (Path.ofString path).name := by
    unfold Path.name at hnamed ⊢
    cases hnames : (Path.ofString path).names.getLast? with
    | none => rw [hnames] at hnamed; exact absurd rfl hnamed
    | some name => rfl
  have hjoin : (root.join path).names.getLast? = some (Path.ofString path).name := by
    unfold Path.join Path.append
    split
    · exact hlast
    · rw [List.getLast?_append, hlast, Option.some_or]
  have hfile : FileOf (root.join path) (root.join path).parent (Path.ofString path).name :=
    ⟨rfl, hjoin, hlevel⟩
  rw [hfile.place, List.getLast?_concat]

theorem getLast?_place_artifact {stubs : Stubs} {s : Settings} {plan : Plan}
    (h : '/' ∉ plan.modelName.toList) (root : Path) (l : Location) :
    ∀ a ∈ artifacts stubs s plan, ((root.join a.relativePath).place l).getLast? = some (fileName a) := by
  intro a ha
  have hmem : fileName a ∈ classFiles plan ++ fixedFiles :=
    (fileNames_sublist stubs s h).subset (List.mem_map_of_mem ha)
  have hfile : fileName a ≠ "" ∧ fileName a ≠ ".." := by
    rcases List.mem_append.mp hmem with hclass | hfixed
    · obtain ⟨name, -, heq⟩ := List.mem_map.mp hclass
      have hlast := getLast?_class name
      rw [heq] at hlast
      constructor <;> intro hbad <;> rw [hbad] at hlast <;> exact absurd hlast (by decide)
    · have hall : ∀ file ∈ fixedFiles, file ≠ "" ∧ file ≠ ".." := by decide
      exact hall _ hfixed
  exact getLast?_place_join hfile.1 hfile.2 root l

/-- The files of a plan have names of their own if the table was read, whatever directories the settings
name; so no two of them stand in one place, wherever the project is. -/
theorem artifacts_apart {σ : Type} [Journaled σ] {resolve : String → Action σ (Option Table)}
    {text : String} {source : Option String} {table : Table} {st st' : σ} {plan : Plan}
    (hparse : Table.parse text source = .ok table)
    (hbuild : (Plan.build table resolve).run st = (.ok plan, st')) (stubs : Stubs) (s : Settings) :
    ((artifacts stubs s plan).map fileName).Nodup ∧
    ∀ (root : Path) (l : Location),
      ((artifacts stubs s plan).map fun a => (root.join a.relativePath).place l).Nodup := by
  have hread : WasRead table := ⟨text, source, hparse⟩
  have hmodel : plan.modelName = Naming.modelName table.name := modelName_of_build hbuild
  have hslash : '/' ∉ plan.modelName.toList := by
    have htable : '/' ∉ table.name.toList :=
      (Naming.over_of_isName Naming.ample_confined hread.worded.name).not_mem (by decide)
    rw [hmodel]
    exact mt Naming.slash_mem_modelName htable
  have hupper : FirstUpper plan.modelName := by
    rw [hmodel]
    exact firstUpper_modelName table.name
  have hnames : ((artifacts stubs s plan).map fileName).Nodup :=
    (nodup_files hupper).sublist (fileNames_sublist stubs s hslash)
  refine ⟨hnames, fun root l => ?_⟩
  -- a place gives back the name of its file, so different names stand in different places
  have hlast : ((artifacts stubs s plan).map fun a => (root.join a.relativePath).place l).map
      (fun place => place.getLast?.getD "") = (artifacts stubs s plan).map fileName := by
    rw [List.map_map]
    refine List.map_congr_left fun a ha => ?_
    rw [Function.comp_apply, getLast?_place_artifact hslash root l a ha, Option.getD_some]
  rw [← hlast] at hnames
  exact hnames.of_map

/-- The schema of databases. -/
def databasesSchema : String := "CREATE TABLE databases (\n  id INT\n);"

/-- The databases. -/
def databases : Table where
  name := "databases"
  columns := ["id"]

theorem databases_read : Table.parse databasesSchema = .ok databases :=
  Schema.parse_of_letters rfl (by decide +kernel)

/-- Settings that put the classes beside the files with fixed names. -/
def besideFixed : Settings where
  modelsDir := "bootstrap"
  repositoriesDir := "public"
  controllersDir := "public"
  setupMode := some .apache

/-- The model of the databases stands beside the file that opens the connection. -/
theorem databases_apart :
    ∃ plan w, Table.parse databasesSchema = .ok databases ∧
      (Plan.build databases fun _ => pure none).run ({} : Workspace) = (.ok plan, w) ∧
      (artifacts (fun _ => "") besideFixed plan).map (·.relativePath) =
        ["bootstrap/Database.php", "public/DatabaseRepository.php", "public/DatabaseController.php",
          "bootstrap/database.php", ".env.example", "public/index.php", "public/.htaccess"] ∧
      ((artifacts (fun _ => "") besideFixed plan).map fileName).Nodup := by
  obtain ⟨w, hbuild⟩ : ∃ w, (Plan.build databases fun _ => pure none).run ({} : Workspace) =
      (.ok (Plan.planOf databases []), w) := Action.exists_run (by decide +kernel)
  exact ⟨_, w, databases_read, hbuild, by decide +kernel,
    (artifacts_apart databases_read hbuild (fun _ => "") besideFixed).1⟩

end Scaffold.Render
