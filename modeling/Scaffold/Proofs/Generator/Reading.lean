import Scaffold.Generator.Basic
import Scaffold.Proofs.Action

/-!
# What a run reads

The steps before the export answer from the files as they are, and leave everything but the journal
as it is. So what they answer is a function of the workspace.

* `tableAt`, `parentAt`, `planAt`, `stubAt`, `artifactsAt`: these functions.
* `load_answers`, `planBeside_answers`, `produce_answers`: the steps answer what the functions say.
  The resolver and the shelf keep what was read, and what they keep stays true.
-/
namespace Scaffold

open Files (Path)

/-! ## Files -/

theorem isFile_answers (w : Workspace) (p : Path) :
    Action.Answers (Told w) (Workspace.isFile p)
      ((w.files.isFile w.directory p).mapError Fault.file) := by
  rintro _ ⟨notes, rfl⟩
  exact ⟨_, rfl, notes, rfl⟩

theorem readText_answers (w : Workspace) (p : Path) :
    Action.Answers (Told w) (Workspace.readText p)
      (.ok (Workspace.textAt w.files w.directory p)) := by
  rintro _ ⟨notes, rfl⟩
  exact ⟨_, rfl, notes, rfl⟩

theorem told_note (w : Workspace) (level : Level) (source : Source) (message : String) :
    Action.Answers (Told w) (note level source message) (.ok ()) :=
  note_answers (fun n _ h => h.record n) level source message

/-- What is kept under names stays true when one more true answer is kept. -/
theorem lookup_kept {α : Type} {f : String → Except Fault α} {kept : List (String × α)}
    {name : String} {answer : α} (hnew : f name = .ok answer)
    (hkept : ∀ key found, List.lookup key kept = some found → f key = .ok found) (key : String)
    (found : α) (h : List.lookup key ((name, answer) :: kept) = some found) :
    f key = .ok found := by
  rw [List.lookup_cons] at h
  split at h
  · rename_i heq
    cases h
    rw [eq_of_beq heq]
    exact hnew
  · exact hkept key found h

/-! ## Tables -/

namespace Schema

/-- The failure of a schema that is not there. -/
def notFound (path : Path) : Fault := .schema { reason := .fileNotFound, path := some path.text }

/-- The failure of a schema that is there and cannot be read. -/
def unreadable (path : Path) (failure : ReadFailure) : Fault :=
  .schema {
    reason := .fileUnreadable
    path := some path.text
    detail := some (failure.kindName ++ ": " ++ failure.message) }

/-- The text of a schema file as it is now. -/
def textAt (w : Workspace) (path : Path) : Except Fault String := do
  let there ← (w.files.isFile w.directory path).mapError Fault.file
  if there then
    let text ← (Workspace.textAt w.files w.directory path).mapError (unreadable path)
    .ok (.ofList (Text.normaliseNewlines text.toList))
  else .error (notFound path)

/-- The table of a schema file as it is now. -/
def tableAt (w : Workspace) (path : Path) : Except Fault Table := do
  let text ← textAt w path
  (Table.parse text (some path.text)).mapError .schema

/-- The table of a parent as its file is now, or nothing if there is no such file. -/
def parentAt (w : Workspace) (directory : Path) (table : String) : Except Fault (Option Table) := do
  let path := directory.join (table ++ fileEnding)
  let there ← (w.files.isFile w.directory path).mapError Fault.file
  if there then
    let found ← tableAt w path
    .ok (some found)
  else .ok none

theorem fileText_answers (w : Workspace) (path : Path) :
    Action.Answers (Told w) (fileText path) (textAt w path) := by
  unfold fileText textAt
  refine (isFile_answers w path).bind fun there _ => ?_
  cases there with
  | false => exact (Action.Answers.fail _).bind_error
  | true =>
    simp only [Bool.not_true, Bool.false_eq_true, if_false, if_true]
    refine (readText_answers w path).bind_ok ?_
    cases Workspace.textAt w.files w.directory path with
    | error failure => exact Action.Answers.fail _
    | ok text => exact (told_note w _ _ _).bind_ok (Action.Answers.pure _)

theorem parse_answers {σ : Type} [Journaled σ] {R : σ → Prop}
    (hR : ∀ n s, R s → R (Journaled.record n s)) (text : String) (source : Option String) :
    Action.Answers R (parse text source : Action σ Table)
      ((Table.parse text source).mapError .schema) := by
  unfold parse
  refine (Action.Answers.forEach (fun _ => note_answers hR _ _ _) _).bind_ok ?_
  cases Table.parse text source with
  | error e => exact Action.Answers.fail _
  | ok table => exact (note_answers hR _ _ _).bind_ok (Action.Answers.pure _)

/-- Loading a schema answers with its table and leaves everything but the journal. -/
theorem load_answers (w : Workspace) (path : Path) :
    Action.Answers (Told w) (load path) (tableAt w path) :=
  (fileText_answers w path).bind fun text _ =>
    parse_answers (fun n _ h => h.record n) text (some path.text)

theorem lookUpNow_answers (w : Workspace) (directory : Path) (table : String) :
    Action.Answers (Told w) (lookUpNow table (directory.join (table ++ fileEnding)))
      (parentAt w directory table) := by
  unfold lookUpNow parentAt
  refine (isFile_answers w _).bind fun there _ => ?_
  cases there with
  | true => exact (load_answers w _).bind fun found _ => Action.Answers.pure _
  | false => exact (told_note w _ _ _).bind_ok (Action.Answers.pure _)

/-- A resolver for a directory that keeps nothing but what the files of a workspace say. -/
def Faithful (w : Workspace) (directory : Path) (s : Resolver × Workspace) : Prop :=
  s.1.directory = directory ∧
    (∀ table answer, List.lookup table s.1.found = some answer →
      parentAt w directory table = .ok answer) ∧ Told w s.2

theorem Faithful.record {w : Workspace} {directory : Path} (n : Note) (s : Resolver × Workspace)
    (h : Faithful w directory s) : Faithful w directory (Journaled.record n s) :=
  ⟨h.1, h.2.1, h.2.2.record n⟩

/-- Looking a parent up answers what its file says, whether it was looked up before or not. -/
theorem lookup_answers (w : Workspace) (directory : Path) (table : String) :
    Action.Answers (Faithful w directory) (Resolver.lookup table) (parentAt w directory table) := by
  -- Nothing but the journal changes between two look-ups, so what was kept is still so.
  rintro ⟨r, w'⟩ ⟨hd, hkept, htold⟩
  subst hd
  cases hl : List.lookup table r.found with
  | some answer =>
    refine ⟨(r, w'), ?_, rfl, hkept, htold⟩
    unfold Action.run Resolver.lookup
    simp only [hl]
    rw [hkept table answer hl]
  | none =>
    obtain ⟨w'', hr, htold'⟩ := lookUpNow_answers w r.directory table w' htold
    unfold Action.run Resolver.lookup
    simp only [hl]
    have hpath : r.pathOf table = r.directory.join (table ++ fileEnding) := rfl
    rw [hpath, hr]
    cases hp : parentAt w r.directory table with
    | error e => exact ⟨(r, w''), rfl, rfl, hkept, htold'⟩
    | ok answer => exact ⟨_, rfl, rfl, lookup_kept hp hkept, htold'⟩

end Schema

/-! ## Plans -/

namespace Plan

/-- The relation of a foreign key as the file of its parent is now. -/
def relationAt (w : Workspace) (directory : Path) (table : String) (fk : ForeignKey) :
    Except Fault Relation := do
  let parent ← Schema.parentAt w directory fk.parentTable
  (planRelation table fk parent).mapError .rejected

/-- The plan of a table as the files of its parents are now. -/
def planAt (w : Workspace) (path : Path) (table : Table) : Except Fault Plan := do
  let relations ← table.foreignKeys.mapM (relationAt w path.parent table.name)
  (assemble table relations).mapError .rejected

theorem buildRelation_answers (w : Workspace) (directory : Path) (table : String)
    (fk : ForeignKey) :
    Action.Answers (Schema.Faithful w directory)
      (buildRelation table Schema.Resolver.lookup fk) (relationAt w directory table fk) := by
  unfold buildRelation relationAt
  refine (Schema.lookup_answers w directory fk.parentTable).bind fun parent _ => ?_
  cases (planRelation table fk parent).mapError Fault.rejected with
  | error e => exact (Action.Answers.lift _).bind_error
  | ok relation =>
    refine (Action.Answers.lift _).bind_ok ?_
    cases warning? table relation <;>
      exact (note_answers Schema.Faithful.record _ _ _).bind_ok (Action.Answers.pure _)

theorem build_answers (w : Workspace) (directory : Path) (table : Table) :
    Action.Answers (Schema.Faithful w directory) (build table Schema.Resolver.lookup)
      (table.foreignKeys.mapM (relationAt w directory table.name) >>= fun relations =>
        (assemble table relations).mapError .rejected) := by
  unfold build
  refine (Action.Answers.collect (buildRelation_answers w directory table.name) _).bind
    fun relations _ => ?_
  cases (assemble table relations).mapError Fault.rejected with
  | error e => exact (Action.Answers.lift _).bind_error
  | ok plan =>
    exact (Action.Answers.lift _).bind_ok
      ((note_answers Schema.Faithful.record _ _ _).bind_ok (Action.Answers.pure _))

end Plan

/-- Planning answers with the plan and leaves everything but the journal. -/
theorem planBeside_answers (w : Workspace) (path : Path) (table : Table) :
    Action.Answers (Told w) (Generator.planBeside path table) (Plan.planAt w path table) := by
  intro w' htold
  obtain ⟨s, hr, hs⟩ := Plan.build_answers w path.parent table ({ directory := path.parent }, w')
    ⟨rfl, fun _ _ h => (by cases h), htold⟩
  refine ⟨s.2, ?_, hs.2.2⟩
  unfold Action.run Generator.planBeside
  rw [hr]
  rfl

/-! ## Stubs -/

namespace Stub

/-- The user's own file of a stub as things are now, if there is one. -/
def overridingAt (w : Workspace) (overrides : Option Path) (stub : String) :
    Except Fault (Option Path) :=
  match overrides with
  | none => .ok none
  | some directory => do
    let there ← (w.files.isFile w.directory (directory.join stub)).mapError Fault.file
    .ok (if there then some (directory.join stub) else none)

/-- The file of a stub as things are now. -/
def stubPathAt (w : Workspace) (overrides : Option Path) (stub : String) : Except Fault Path := do
  match ← overridingAt w overrides stub with
  | some path => .ok path
  | none =>
    let there ← (w.files.isFile w.directory (packagedPath w stub)).mapError Fault.file
    if there then .ok (packagedPath w stub)
    else .error (.stub ⟨stub, (overrides.getD (Path.ofLocation w.stubs)).text⟩)

/-- The text of a stub as its file is now. -/
def stubAt (w : Workspace) (overrides : Option Path) (stub : String) : Except Fault String := do
  let path ← stubPathAt w overrides stub
  (Workspace.textAt w.files w.directory path).mapError .read

theorem overriding_answers (w : Workspace) (overrides : Option Path) (stub : String) :
    Action.Answers (Told w) (overriding? overrides stub) (overridingAt w overrides stub) := by
  cases overrides with
  | none => exact Action.Answers.pure _
  | some directory =>
    refine (isFile_answers w _).bind fun there _ => ?_
    cases there with
    | true => exact Action.Answers.pure _
    | false => exact (told_note w _ _ _).bind_ok (Action.Answers.pure _)

theorem locate_answers (w : Workspace) (overrides : Option Path) (stub : String) :
    Action.Answers (Told w) (locate overrides stub) (stubPathAt w overrides stub) := by
  unfold locate stubPathAt
  refine (overriding_answers w overrides stub).bind fun found _ => ?_
  cases found with
  | some path => exact Action.Answers.pure _
  | none =>
    rintro _ ⟨notes, rfl⟩
    rw [Action.run_bind_ok (Action.run_get _)]
    have hpackaged : packagedPath (w.told notes) stub = packagedPath w stub := rfl
    have hstubs : (w.told notes).stubs = w.stubs := rfl
    simp only [hpackaged, hstubs]
    refine Action.Answers.bind (isFile_answers w _) (fun there _ => ?_) _ ⟨notes, rfl⟩
    cases there with
    | true => exact Action.Answers.pure _
    | false => exact Action.Answers.fail _

theorem readStub_answers (w : Workspace) (overrides : Option Path) (stub : String) :
    Action.Answers (Told w) (readStub overrides stub) (stubAt w overrides stub) := by
  unfold readStub stubAt
  refine (locate_answers w overrides stub).bind fun path _ => ?_
  refine (readText_answers w path).bind_ok ?_
  cases Workspace.textAt w.files w.directory path with
  | error failure => exact Action.Answers.fail _
  | ok text => exact (told_note w _ _ _).bind_ok (Action.Answers.pure _)

/-- A shelf that keeps nothing but what the files of a workspace say. -/
def Faithful (w : Workspace) (overrides : Option Path) (s : Shelf × Workspace) : Prop :=
  s.1.overrides = overrides ∧
    (∀ stub text, List.lookup stub s.1.texts = some text → stubAt w overrides stub = .ok text) ∧
    Told w s.2

/-- Reading a stub answers what its file says, whether it was read before or not. -/
theorem shelf_answers (w : Workspace) (overrides : Option Path) (stub : String) :
    Action.Answers (Faithful w overrides) (Shelf.load stub) (stubAt w overrides stub) := by
  rintro ⟨shelf, w'⟩ ⟨ho, hkept, htold⟩
  subst ho
  cases hl : List.lookup stub shelf.texts with
  | some text =>
    refine ⟨(shelf, w'), ?_, rfl, hkept, htold⟩
    unfold Action.run Shelf.load
    simp only [hl]
    rw [hkept stub text hl]
  | none =>
    obtain ⟨w'', hr, htold'⟩ := readStub_answers w shelf.overrides stub w' htold
    unfold Action.run Shelf.load
    simp only [hl]
    rw [hr]
    cases hs : stubAt w shelf.overrides stub with
    | error e => exact ⟨(shelf, w''), rfl, rfl, hkept, htold'⟩
    | ok text => exact ⟨_, rfl, rfl, lookup_kept hs hkept, htold'⟩

end Stub

/-! ## Artifacts -/

namespace Render

/-- The texts of some stubs as their files are now. -/
def textsAt (w : Workspace) (overrides : Option Path) (names : List Stub.Name) :
    Except Fault (List (Stub.Name × String)) :=
  names.mapM fun name => do
    let text ← Stub.stubAt w overrides name.fileName
    .ok (name, text)

/-- The files of a plan as the stubs are now. -/
def artifactsAt (settings : Settings) (plan : Plan) (w : Workspace) :
    Except Fault (List Artifact) := do
  let texts ← textsAt w (overridesOf settings) (stubsFor settings plan)
  .ok (artifacts (stubText texts) settings plan)

theorem readStubs_answers (w : Workspace) (overrides : Option Path) (names : List Stub.Name) :
    Action.Answers (Stub.Faithful w overrides) (readStubs names) (textsAt w overrides names) := by
  unfold readStubs textsAt
  refine Action.Answers.collect (fun name => ?_) names
  exact (Stub.shelf_answers w overrides name.fileName).bind
    fun text _ => Action.Answers.pure (name, text)

/-- Rendering answers with the artifacts and leaves everything but the journal. -/
theorem produce_answers (w : Workspace) (settings : Settings) (plan : Plan) :
    Action.Answers (Told w) (produce settings plan) (artifactsAt settings plan w) := by
  intro w' htold
  obtain ⟨⟨shelf, w''⟩, hr, -, -, htold'⟩ :=
    readStubs_answers w (overridesOf settings) (stubsFor settings plan)
      ({ overrides := overridesOf settings }, w') ⟨rfl, fun _ _ h => (by cases h), htold⟩
  unfold Action.run produce artifactsAt
  rw [hr]
  cases textsAt w (overridesOf settings) (stubsFor settings plan) with
  | error e => exact ⟨w'', rfl, htold'⟩
  | ok texts => exact ⟨_, rfl, htold'.record _⟩

end Render

end Scaffold
