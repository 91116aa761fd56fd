import Scaffold.Proofs.Files.Lookup
import Scaffold.Proofs.Generator.Preparation
import Scaffold.Proofs.Planning

/-!
# Faults that no step takes as its own

Reading the schema and planning take schema errors as their own, rendering takes missing stubs and
refused paths. What else can go wrong in these steps is told here from the files and the names.

* `tableAt_fault_iff`: a schema path that the system refuses.
* `planAt_fault_iff`: a parent path that it refuses, and names that leave nothing of themselves.
* `artifactsAt_error_iff`: rendering fails where the first stub fails that cannot be read.
* `artifactsAt_fault_iff`: a stub that is not UTF-8.
-/
namespace Scaffold

open Files (Path Tree)
open Generator (isSchemaFault isStubFault)
open Naming (Nameless)

/-! ## Schemas -/

namespace Schema

theorem isFile_fault_iff {w : Workspace} {path : Path} {e : Fault} :
    (w.files.isFile w.directory path).mapError Fault.file = .error e ↔
      w.files.TooLong w.directory path ∧ e = .file ⟨.nameTooLong, path.text, none⟩ := by
  rw [mapError_eq_error]
  constructor
  · rintro ⟨failure, h, rfl⟩
    obtain ⟨hlong, rfl⟩ := Tree.leadsTo_error_iff.mp h
    exact ⟨hlong, rfl⟩
  · rintro ⟨hlong, rfl⟩
    exact ⟨_, Tree.leadsTo_eq_error _ hlong, rfl⟩

/-- Reading a schema has a fault of another kind exactly if the system refuses its path. -/
theorem tableAt_fault_iff {w : Workspace} {path : Path} :
    (∃ e, tableAt w path = .error e ∧ isSchemaFault e = false) ↔
      w.files.TooLong w.directory path := by
  constructor
  · rintro ⟨e, h, he⟩
    unfold tableAt textAt at h
    rcases bind_eq_error.mp h with h | ⟨text, -, h⟩
    · rcases bind_eq_error.mp h with h | ⟨there, -, h⟩
      · exact (isFile_fault_iff.mp h).1
      · cases there with
        | false => cases h; cases he
        | true =>
          rcases bind_eq_error.mp h with h | ⟨_, -, h⟩
          · obtain ⟨failure, -, rfl⟩ := mapError_eq_error.mp h
            cases he
          · cases h
    · obtain ⟨error, -, rfl⟩ := mapError_eq_error.mp h
      cases he
  · intro hlong
    have hfile := isFile_fault_iff.mpr ⟨hlong, rfl⟩
    exact ⟨_, bind_eq_error.mpr (Or.inl (bind_eq_error.mpr (Or.inl hfile))), rfl⟩

/-- So has looking a parent up. -/
theorem parentAt_fault_iff {w : Workspace} {directory : Path} {table : String} :
    (∃ e, parentAt w directory table = .error e ∧ isSchemaFault e = false) ↔
      w.files.TooLong w.directory (directory.join (table ++ fileEnding)) := by
  constructor
  · rintro ⟨e, h, he⟩
    unfold parentAt at h
    rcases bind_eq_error.mp h with h | ⟨there, -, h⟩
    · exact (isFile_fault_iff.mp h).1
    · cases there with
      | false => cases h
      | true =>
        rcases bind_eq_error.mp h with h | ⟨_, -, h⟩
        · exact tableAt_fault_iff.mp ⟨e, h, he⟩
        · cases h
  · intro hlong
    have hfile := isFile_fault_iff.mpr ⟨hlong, rfl⟩
    exact ⟨_, bind_eq_error.mpr (Or.inl hfile), rfl⟩

end Schema

/-! ## Plans -/

namespace Plan

/-- The relations that planning cannot refuse in a report: the path of the parent is too long, or a
name of the parent leaves nothing of itself. -/
inductive Unplannable (w : Workspace) (directory : Path) (fk : ForeignKey) : Prop where
  | longPath :
      w.files.TooLong w.directory (directory.join (fk.parentTable ++ Schema.fileEnding)) →
      Unplannable w directory fk
  | namelessParent {parent : Option Table} :
      Schema.parentAt w directory fk.parentTable = .ok parent →
      Nameless (Naming.singular fk.parentTable) → Unplannable w directory fk
  | namelessColumn {parent : Table} {column : String} :
      Schema.parentAt w directory fk.parentTable = .ok (some parent) → column ∈ parent.columns →
      Nameless column → Unplannable w directory fk

theorem relationAt_fault_iff {w : Workspace} {directory : Path} {table : String}
    {fk : ForeignKey} :
    (∃ e, relationAt w directory table fk = .error e ∧ isSchemaFault e = false) ↔
      Unplannable w directory fk := by
  constructor
  · rintro ⟨e, h, he⟩
    rcases bind_eq_error.mp h with h | ⟨parent, hp, h⟩
    · exact .longPath (Schema.parentAt_fault_iff.mp ⟨e, h, he⟩)
    · obtain ⟨rejection, h, -⟩ := mapError_eq_error.mp h
      rcases planRelation_error_iff.mp ⟨rejection, h⟩ with hname | ⟨p, rfl, column, hmem, hname⟩
      · exact .namelessParent hp hname
      · exact .namelessColumn hp hmem hname
  · have hrefused : ∀ parent, Schema.parentAt w directory fk.parentTable = .ok parent →
        (∃ e, planRelation table fk parent = .error e) →
        ∃ e, relationAt w directory table fk = .error e ∧ isSchemaFault e = false := by
      rintro parent hp ⟨rejection, hr⟩
      have hmapped : (planRelation table fk parent).mapError Fault.rejected =
          .error (.rejected rejection) := mapError_eq_error.mpr ⟨rejection, hr, rfl⟩
      exact ⟨.rejected rejection, bind_eq_error.mpr (Or.inr ⟨parent, hp, hmapped⟩), rfl⟩
    rintro (hlong | ⟨hp, hname⟩ | ⟨hp, hmem, hname⟩)
    · obtain ⟨e, h, he⟩ := Schema.parentAt_fault_iff.mpr hlong
      exact ⟨e, bind_eq_error.mpr (Or.inl h), he⟩
    · exact hrefused _ hp (planRelation_error_iff.mpr (Or.inl hname))
    · exact hrefused _ hp (planRelation_error_iff.mpr (Or.inr ⟨_, rfl, _, hmem, hname⟩))

/-- Planning has a fault of another kind exactly if it comes to such a relation, or the name of the
table leaves nothing of itself. -/
theorem planAt_fault_iff {w : Workspace} {path : Path} {table : Table} :
    (∃ e, planAt w path table = .error e ∧ isSchemaFault e = false) ↔
      (∃ before fk after, table.foreignKeys = before ++ fk :: after ∧
        (∀ b ∈ before, ∃ r, relationAt w path.parent table.name b = .ok r) ∧
        Unplannable w path.parent fk) ∨
      ((∀ fk ∈ table.foreignKeys, ∃ r, relationAt w path.parent table.name fk = .ok r) ∧
        Nameless (Naming.singular table.name)) := by
  constructor
  · rintro ⟨e, h, he⟩
    rcases bind_eq_error.mp h with h | ⟨relations, hr, h⟩
    · obtain ⟨before, fk, after, hsplit, hbefore, h⟩ := mapM_error_iff.mp h
      exact Or.inl ⟨before, fk, after, hsplit, hbefore, relationAt_fault_iff.mp ⟨e, h, he⟩⟩
    · obtain ⟨rejection, h, -⟩ := mapError_eq_error.mp h
      exact Or.inr ⟨mapM_ok_iff.mp ⟨relations, hr⟩, assemble_error_iff.mp ⟨rejection, h⟩⟩
  · rintro (⟨before, fk, after, hsplit, hbefore, hfk⟩ | ⟨hall, hname⟩)
    · obtain ⟨e, h, he⟩ := relationAt_fault_iff.mpr hfk
      have hmapM := mapM_error_iff.mpr ⟨before, fk, after, hsplit, hbefore, h⟩
      exact ⟨e, bind_eq_error.mpr (Or.inl hmapM), he⟩
    · obtain ⟨relations, hr⟩ := mapM_ok_iff.mpr hall
      obtain ⟨rejection, h⟩ := (@assemble_error_iff table relations).mpr hname
      have hmapped : (assemble table relations).mapError Fault.rejected =
          .error (.rejected rejection) := mapError_eq_error.mpr ⟨rejection, h, rfl⟩
      exact ⟨.rejected rejection, bind_eq_error.mpr (Or.inr ⟨relations, hr, hmapped⟩), rfl⟩

end Plan

/-! ## Stubs -/

namespace Stub

/-- A stub whose file is not UTF-8. -/
def Undecodable (w : Workspace) (overrides : Option Path) (stub : String) : Prop :=
  ∃ path malformed, stubPathAt w overrides stub = .ok path ∧
    Workspace.textAt w.files w.directory path = .error (.undecodable malformed)

theorem contentAt_of_isFile {t : Tree} {directory : Files.Location} {path : Path}
    (h : t.isFile directory path = .ok true) : ∃ content, t.contentAt directory path = .ok content := by
  obtain ⟨-, hsome⟩ := Tree.isFile_ok_iff.mp h
  obtain ⟨content, hcontent⟩ := Option.isSome_iff_exists.mp hsome.symm
  exact ⟨content, Tree.contentAt_ok_iff.mpr hcontent⟩

/-- The file of a stub is a file. -/
theorem isFile_of_stubPathAt {w : Workspace} {overrides : Option Path} {stub : String} {path : Path}
    (h : stubPathAt w overrides stub = .ok path) :
    w.files.isFile w.directory path = .ok true := by
  unfold stubPathAt at h
  obtain ⟨found, hfound, h⟩ := bind_eq_ok.mp h
  cases found with
  | some candidate =>
    cases h
    cases overrides with
    | none => cases hfound
    | some directory =>
      obtain ⟨there, hthere, hfound⟩ := bind_eq_ok.mp hfound
      cases there with
      | false => cases hfound
      | true => cases hfound; exact mapError_eq_ok.mp hthere
  | none =>
    obtain ⟨there, hthere, h⟩ := bind_eq_ok.mp h
    cases there with
    | false => cases h
    | true => cases h; exact mapError_eq_ok.mp hthere

theorem stubPathAt_error {w : Workspace} {overrides : Option Path} {stub : String} {e : Fault}
    (h : stubPathAt w overrides stub = .error e) : isStubFault e = true := by
  unfold stubPathAt at h
  have hlong : ∀ {p : Path} {e : Fault},
      (w.files.isFile w.directory p).mapError Fault.file = .error e → isStubFault e = true := by
    intro p e h
    obtain ⟨-, rfl⟩ := Schema.isFile_fault_iff.mp h
    rfl
  rcases bind_eq_error.mp h with h | ⟨found, -, h⟩
  · cases overrides with
    | none => cases h
    | some directory =>
      rcases bind_eq_error.mp h with h | ⟨_, -, h⟩
      · exact hlong h
      · cases h
  · cases found with
    | some path => cases h
    | none =>
      rcases bind_eq_error.mp h with h | ⟨there, -, h⟩
      · exact hlong h
      · cases there <;> cases h
        rfl

/-- The file of a stub that was found fails to be read only by not being UTF-8. -/
theorem undecodable_of_textAt {w : Workspace} {overrides : Option Path} {stub : String} {path : Path}
    {failure : ReadFailure} (hp : stubPathAt w overrides stub = .ok path)
    (hread : Workspace.textAt w.files w.directory path = .error failure) :
    Undecodable w overrides stub := by
  cases failure with
  | undecodable malformed => exact ⟨path, malformed, hp, hread⟩
  | file failure =>
    obtain ⟨content, hc⟩ := contentAt_of_isFile (isFile_of_stubPathAt hp)
    unfold Workspace.textAt at hread
    rw [hc] at hread
    simp only at hread
    split at hread <;> cases hread

/-- Reading a stub has a fault of another kind exactly if its file is not UTF-8. -/
theorem stubAt_fault_iff {w : Workspace} {overrides : Option Path} {stub : String} :
    (∃ e, stubAt w overrides stub = .error e ∧ isStubFault e = false) ↔
      Undecodable w overrides stub := by
  constructor
  · rintro ⟨e, h, he⟩
    rcases bind_eq_error.mp h with h | ⟨path, hp, h⟩
    · rw [stubPathAt_error h] at he; cases he
    · obtain ⟨failure, hread, rfl⟩ := mapError_eq_error.mp h
      exact undecodable_of_textAt hp hread
  · rintro ⟨path, malformed, hp, h⟩
    have hread : (Workspace.textAt w.files w.directory path).mapError Fault.read =
        .error (.read (.undecodable malformed)) := mapError_eq_error.mpr ⟨_, h, rfl⟩
    exact ⟨_, bind_eq_error.mpr (Or.inr ⟨path, hp, hread⟩), rfl⟩

end Stub

namespace Render

theorem named_stub_ok {w : Workspace} {overrides : Option Path} {name : Stub.Name} :
    (∃ r, (Stub.stubAt w overrides name.fileName >>= fun text => Except.ok (name, text)) = .ok r) ↔
      ∃ text, Stub.stubAt w overrides name.fileName = .ok text := by
  constructor
  · rintro ⟨r, h⟩
    obtain ⟨text, ht, -⟩ := bind_eq_ok.mp h
    exact ⟨text, ht⟩
  · rintro ⟨text, ht⟩
    exact ⟨(name, text), bind_eq_ok.mpr ⟨text, ht, rfl⟩⟩

/-- Rendering fails where the first stub fails that cannot be read. -/
theorem artifactsAt_error_iff {settings : Settings} {plan : Plan} {w : Workspace} {e : Fault} :
    artifactsAt settings plan w = .error e ↔
      ∃ before name after, stubsFor settings plan = before ++ name :: after ∧
        (∀ b ∈ before, ∃ text,
          Stub.stubAt w (overridesOf settings) (Stub.Name.fileName b) = .ok text) ∧
        Stub.stubAt w (overridesOf settings) (Stub.Name.fileName name) = .error e := by
  constructor
  · intro h
    rcases bind_eq_error.mp h with h | ⟨_, -, h⟩
    · obtain ⟨before, name, after, hsplit, hbefore, h⟩ := mapM_error_iff.mp h
      rcases bind_eq_error.mp h with h | ⟨_, -, h⟩
      · exact ⟨before, name, after, hsplit, fun b hb => named_stub_ok.mp (hbefore b hb), h⟩
      · cases h
    · cases h
  · rintro ⟨before, name, after, hsplit, hbefore, hname⟩
    have hmapM : textsAt w (overridesOf settings) (stubsFor settings plan) = .error e :=
      mapM_error_iff.mpr ⟨before, name, after, hsplit, fun b hb => named_stub_ok.mpr (hbefore b hb),
        bind_eq_error.mpr (Or.inl hname)⟩
    exact bind_eq_error.mpr (Or.inl hmapM)

/-- Rendering has a fault of another kind exactly if the first stub that cannot be read is not
UTF-8. -/
theorem artifactsAt_fault_iff {settings : Settings} {plan : Plan} {w : Workspace} :
    (∃ e, artifactsAt settings plan w = .error e ∧ isStubFault e = false) ↔
      ∃ before name after, stubsFor settings plan = before ++ name :: after ∧
        (∀ b ∈ before, ∃ text,
          Stub.stubAt w (overridesOf settings) (Stub.Name.fileName b) = .ok text) ∧
        Stub.Undecodable w (overridesOf settings) (Stub.Name.fileName name) := by
  constructor
  · rintro ⟨e, h, he⟩
    obtain ⟨before, name, after, hsplit, hbefore, h⟩ := artifactsAt_error_iff.mp h
    exact ⟨before, name, after, hsplit, hbefore, Stub.stubAt_fault_iff.mp ⟨e, h, he⟩⟩
  · rintro ⟨before, name, after, hsplit, hbefore, hname⟩
    obtain ⟨e, h, he⟩ := Stub.stubAt_fault_iff.mpr hname
    exact ⟨e, artifactsAt_error_iff.mpr ⟨before, name, after, hsplit, hbefore, h⟩, he⟩

end Render

end Scaffold
