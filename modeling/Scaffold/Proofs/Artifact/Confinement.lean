import Scaffold.Proofs.Artifact.Placement
import Scaffold.Proofs.Plan.Quoting

/-!
# Names stay where they are put

What a schema says becomes names of tables, columns, classes, properties and aliases. They are put into
SQL between backticks and into paths between slashes, without being looked at again. That is safe
because of the characters that a name can have.

* `path_of_class`: the path of an artifact that is a class, from its directory and its name.
* `DirectlyIn`, `directlyIn_class`: the file of a class stands in its directory, not below or beside it.
* `names_stay_in_place`: no name of a plan ends the place it is put in, be it a fragment of SQL, the path
  of a parent's schema or the path of an artifact.
-/
namespace Scaffold.Render

open Files (FileOf Filename Path namesOf)
open Naming (Confined)
open Plan (Answering Quoting)
open Schema (WasRead)
open Settings (Trimmed)

/-! ## File names -/

/-- A name without slashes is the name of a file once it has an ending. -/
theorem filename_append {name ending : String} (h : '/' ∉ name.toList) (hslash : '/' ∉ ending.toList)
    (hpoint : ∃ c ∈ ending.toList, c ≠ '.') : Filename (name ++ ending) := by
  obtain ⟨c, hc, hne⟩ := hpoint
  refine ⟨?_, c, ?_, hne⟩
  · rw [String.toList_append, List.mem_append, not_or]
    exact ⟨h, hslash⟩
  · rw [String.toList_append, List.mem_append]
    exact .inr hc

theorem filename_schema {table : String} (h : Confined table) : Filename (table ++ Schema.fileEnding) :=
  filename_append (h.not_mem (by decide)) (by decide) ⟨'s', by decide, by decide⟩

theorem filename_class {name : String} (h : '/' ∉ name.toList) : Filename (name ++ ".php") :=
  filename_append h ending_no_slash ending_point

/-- The path of a class has the names of its directory and then that of its file. -/
theorem namesOf_class_path (dir : String) {name : String} (h : '/' ∉ name.toList) :
    namesOf (dir ++ "/" ++ name ++ ".php").toList = namesOf dir.toList ++ [name ++ ".php"] := by
  rw [class_path_toList, Files.namesOf_append, (filename_class h).namesOf]

/-! ## Directories of the settings -/

/-- The directory that the settings name for a kind of artifact and the name of the class, if the
artifact is a class. -/
def class? (s : Settings) (plan : Plan) (kind : String) : Option (String × String) :=
  match kind with
  | "model" => some (s.modelsDir, plan.modelName)
  | "repository" => some (s.repositoriesDir, repositoryName plan)
  | "controller" => some (s.controllersDir, controllerName plan)
  | _ => none

/-- The classes of a plan. -/
def classes (plan : Plan) : List String :=
  [plan.modelName, repositoryName plan, controllerName plan]

/-- An artifact that is a class has its path from that directory and that name. -/
theorem path_of_class {stubs : Stubs} {s : Settings} {plan : Plan} {a : Artifact} {dir name : String}
    (ha : a ∈ artifacts stubs s plan) (hclass : class? s plan a.kind = some (dir, name)) :
    dir ∈ directories s ∧ name ∈ classes plan ∧ a.relativePath = dir ++ "/" ++ name ++ ".php" := by
  unfold artifacts controllerPart setupPart at ha
  simp only [List.mem_append, List.mem_cons, List.not_mem_nil, or_false] at ha
  rcases ha with ((rfl | rfl) | hcontroller) | hsetup
  · cases hclass
    exact ⟨by simp [directories], by simp [classes], rfl⟩
  · cases hclass
    exact ⟨by simp [directories], by simp [classes], rfl⟩
  · split at hcontroller
    · simp only [List.mem_cons, List.not_mem_nil, or_false] at hcontroller
      rcases hcontroller with rfl | rfl | rfl
      · cases hclass
        exact ⟨by simp [directories], by simp [classes], rfl⟩
      · cases hclass
      · cases hclass
    · cases hcontroller
  · split at hsetup
    · rename_i mode hmode
      simp only [List.mem_cons, List.not_mem_nil, or_false] at hsetup
      rcases hsetup with rfl | rfl
      · cases hclass
      · cases mode <;> cases hclass
    · cases hsetup

/-- A file that stands in a directory of the settings, as seen from the root of the project. Of a
directory that was nothing but slashes nothing is left; it is the root of the file system. -/
structure DirectlyIn (root : Path) (dir path file : String) : Prop where
  below : dir ≠ "" → FileOf (root.join path) (root.join dir) file
  top : dir = "" → FileOf (root.join path) (.ofLocation []) file

/-- The file of a class stands in its directory. -/
theorem directlyIn_class {dir name : String} (hdir : Trimmed dir) (h : Confined name) (root : Path) :
    DirectlyIn root dir (dir ++ "/" ++ name ++ ".php") (name ++ ".php") := by
  have hslash : '/' ∉ name.toList := h.not_mem (by decide)
  have hfile := filename_class hslash
  have hnames := namesOf_class_path dir hslash
  refine ⟨fun hne => ?_, ?_⟩
  · rw [Files.join_of_relative ((relative_class_iff hdir name).mpr hne),
      Files.join_of_relative hdir.front, hnames, ← List.append_assoc]
    exact hfile.fileOf { root with names := root.names ++ namesOf dir.toList }
  · rintro rfl
    have hanchor : Path.anchorOf ("" ++ "/" ++ name ++ ".php").toList = .root := by
      rw [class_path_toList]
      exact Files.anchorOf_slash hfile.relative
    have hpath : root.join ("" ++ "/" ++ name ++ ".php") = ⟨.root, [name ++ ".php"]⟩ := by
      unfold Path.join Path.ofString Path.append
      rw [hanchor, hnames]
      rfl
    rw [hpath]
    exact hfile.fileOf (.ofLocation [])

/-! ## Names -/

/-- No name that is read from a schema ends the place it is put in. The names of a plan that is built for
a table that was read, with parents that were read, are confined. So every fragment of SQL has its
backticks in pairs, with the names that were quoted between them; the schema of a parent is looked for
in the directory of the schemas itself, whatever becomes of the plan; and the file of a class stands in
its own directory. -/
theorem names_stay_in_place {σ : Type} [Journaled σ] {resolve : String → Action σ (Option Table)}
    {inv : σ → Prop} {text : String} {source : Option String} {table : Table} {st : σ}
    (hparse : Table.parse text source = .ok table)
    (hresolve : Answering resolve inv fun _ parent => ∀ t ∈ parent, WasRead t) (hst : inv st) :
    (∀ fk ∈ table.foreignKeys, ∀ r : Schema.Resolver,
      FileOf (r.pathOf fk.parentTable) r.directory (fk.parentTable ++ Schema.fileEnding)) ∧
    ∀ (plan : Plan) (st' : σ), (Plan.build table resolve).run st = (.ok plan, st') →
      (∀ name ∈ plan.names, Confined name) ∧ Quoting plan ∧
      ∀ (stubs : Stubs) (s : Settings) (root : Path), s.Accepted →
        ∀ a ∈ artifacts stubs s plan, ∀ dir name, class? s plan a.kind = some (dir, name) →
          DirectlyIn root dir a.relativePath (name ++ ".php") := by
  have hread : WasRead table := ⟨text, source, hparse⟩
  refine ⟨fun fk hfk r => ?_, fun plan st' hbuild => ?_⟩
  · have hparent : Confined fk.parentTable :=
      hread.worded.keys fk hfk _ (by simp [ForeignKey.names])
    exact Files.fileOf_join (filename_schema hparent) r.directory
  · have hnames := Plan.confined_names hread hresolve hst hbuild
    obtain ⟨hplan, -, hrelations⟩ := Plan.build_ok hresolve hst hbuild
    refine ⟨hnames, ?_, ?_⟩
    · have hquotable : ∀ name ∈ plan.names, Sql.Quotable name := fun name hname =>
        (hnames name hname).not_mem (by decide)
      rw [hplan] at hquotable ⊢
      exact Plan.quoting_planOf (fun r hr => (hrelations r hr).imp fun _ h => h.2) hquotable
    · intro stubs s root haccepted a ha dir name hclass
      obtain ⟨hdir, hname, hpath⟩ := path_of_class ha hclass
      have htidy := haccepted.tidy
      have htrimmed : ∀ d ∈ directories s, Trimmed d := by
        simp only [directories, List.forall_mem_cons]
        exact ⟨htidy.models, htidy.repositories, htidy.controllers, by simp⟩
      have hmodel : Confined plan.modelName := hnames _ (by simp [Plan.names])
      have hclasses : ∀ c ∈ classes plan, Confined c := by
        simp only [classes, List.forall_mem_cons]
        exact ⟨hmodel, hmodel.append (by decide), hmodel.append (by decide), by simp⟩
      rw [hpath]
      exact directlyIn_class (htrimmed dir hdir) (hclasses name hname) root

/-- A directory with the schema of the users, and a look-up in it that has found nothing yet. -/
def usersBeside : Schema.Resolver × Workspace :=
  ({ directory := .ofLocation ["db"] },
    { files := ⟨[(["db"], .directory),
        (["db", "users.sql"], .file 0o644 "CREATE TABLE users (\n  id INT\n);".toUTF8)]⟩ })

/-- The plan of orders, each with a user that is found beside them: what its join quotes, and where its
model stands. -/
theorem orders_stay_in_place :
    ∃ st', Table.parse Plan.ordersSchema = .ok Plan.orders ∧ Schema.KeepsRead usersBeside ∧
      (Plan.build Plan.orders Schema.Resolver.lookup).run usersBeside = (.ok Plan.ordersPlan, st') ∧
      (∀ name ∈ Plan.ordersPlan.names, Confined name) ∧
      Plan.ordersPlan.joinClauses.map Sql.quotedNames =
        [some ["users", "orders", "user_id", "users", "id"]] ∧
      FileOf (usersBeside.1.pathOf "users") (.ofLocation ["db"]) "users.sql" ∧
      DirectlyIn (.ofLocation ["shop"]) "src/Models"
        (model (fun _ => "") {} Plan.ordersPlan).relativePath "Order.php" := by
  have hkeeps : Schema.KeepsRead usersBeside := fun _ _ h => by cases h
  obtain ⟨st', hbuild⟩ : ∃ st', (Plan.build Plan.orders Schema.Resolver.lookup).run usersBeside =
      (.ok Plan.ordersPlan, st') := Action.exists_run (by decide +kernel)
  obtain ⟨hlookup, hplan⟩ := names_stay_in_place Plan.orders_read Schema.lookup_answering hkeeps
  obtain ⟨hnames, hquoting, hplaced⟩ := hplan _ _ hbuild
  have haccepted : Settings.Accepted {} := .given (rfl : Settings.ofValue (.mapping []) = .ok {})
  have hmodel := hplaced (fun _ => "") {} (.ofLocation ["shop"]) haccepted
    (model (fun _ => "") {} Plan.ordersPlan) (by simp [artifacts]) "src/Models" "Order"
    (by decide +kernel)
  refine ⟨st', Plan.orders_read, hkeeps, hbuild, hnames, ?_,
    hlookup ⟨"user_id", "users", "id"⟩ (by decide) usersBeside.1, hmodel⟩
  rw [hquoting.joins]
  decide +kernel

end Scaffold.Render
