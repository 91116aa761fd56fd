import Scaffold.Dependency
import Scaffold.Proofs.Action
import Scaffold.Proofs.Files.Lookup

/-!
# When seeing to the package ends a run

Whatever the manifest of a project holds and however the installer ends, there is a status for it.
What has none is a manifest whose path the system refuses, and one that is nested too deep.

* `requiredAt`, `ensuredAt`: what seeing to the package makes of the files, without its journal.
* `ensure_run`: this is what it does.
* `Deep`, `Blocked`: the causes that end a run, before and after the installer ran.
* `ensure_error_iff`: these and no others end the run.
-/
namespace Scaffold.Dependency

open Files (Path Tree Location)

variable {root : Path} {runner : Option Runner} {w : Workspace} {files : Tree} {directory : Location}

/-! ## What it makes of the files -/

/-- Whether a project requires the package; there is no telling for a manifest that is nested too deep. -/
def requiredAt (files : Tree) (directory : Location) (root : Path) : Except Fault Bool :=
  match requirementsAt files directory (manifestPath root) with
  | .ok entries => .ok (holdsPackage entries)
  | .error unknown =>
    match unknown.fault? with
    | some fault => .error fault
    | none => .ok false

/-- What the look at the manifest that the installer left comes to. -/
def lookAt (files : Tree) (directory : Location) (root : Path) : Except Fault DependencyStatus :=
  match requiredAt files directory root with
  | .error fault => .error fault
  | .ok true => .ok .installed
  | .ok false => .ok .failed

/-- What running the installer comes to, and the files it leaves. -/
def installedAt (root : Path) (executable : String) (run : Runner) (files : Tree)
    (directory : Location) : Except Fault DependencyStatus × Tree :=
  match run (installCommand executable root) files with
  | (.error _, left) => (.ok .failed, left)
  | (.ok _, left) => (lookAt left directory root, left)

/-- What seeing to the package comes to, the files it leaves, and the commands it runs. -/
def ensuredAt (root : Path) (found : Option (String × Runner)) (files : Tree) (directory : Location) :
    Except Fault DependencyStatus × Tree × List (List String) :=
  match files.isFile directory (manifestPath root) with
  | .error failure => (.error (.file failure), files, [])
  | .ok false => (.ok .missingManifest, files, [])
  | .ok true =>
    match requiredAt files directory root with
    | .error fault => (.error fault, files, [])
    | .ok true => (.ok .alreadyInstalled, files, [])
    | .ok false =>
      match found with
      | none => (.ok .failed, files, [])
      | some (executable, run) =>
        ((installedAt root executable run files directory).1,
          (installedAt root executable run files directory).2, [installCommand executable root])

theorem isRequired_run (root : Path) (w : Workspace) :
    ∃ notes, (isRequired root).run w = (requiredAt w.files w.directory root, w.told notes) := by
  unfold isRequired requiredAt
  rw [Action.run_bind_ok (Action.run_get w)]
  simp only
  cases requirementsAt w.files w.directory (manifestPath root) with
  | ok entries => exact ⟨[], by rw [Workspace.told_nil]; rfl⟩
  | error unknown =>
    cases hf : unknown.fault? with
    | some fault => exact ⟨[], by rw [Workspace.told_nil]; simp only [hf]; rfl⟩
    | none =>
      simp only [hf]
      exact ⟨_, rfl⟩

theorem runCommand_run (run : Runner) (command : List String) (w : Workspace) :
    (runCommand run command).run w = (.ok (run command w.files).1,
      { w with files := (run command w.files).2, commands := w.commands ++ [command] }) := rfl

/-- The look at the manifest that the installer left. -/
def lookAgain (root : Path) : Action Workspace DependencyStatus := do
  if ← isRequired root then
    note .info .dependency (package ++ " installed.")
    return .installed
  else
    note .error .dependency ("Automatic install of " ++ package ++ " failed.")
    return .failed

theorem lookAgain_run (root : Path) (w : Workspace) :
    ∃ notes, (lookAgain root).run w = (lookAt w.files w.directory root, w.told notes) := by
  obtain ⟨notes, hr⟩ := isRequired_run root w
  unfold lookAgain lookAt
  cases hq : requiredAt w.files w.directory root with
  | error fault =>
    rw [hq] at hr
    exact ⟨notes, Action.run_bind_error hr⟩
  | ok required =>
    rw [hq] at hr
    rw [Action.run_bind_ok hr]
    cases required with
    | true => exact ⟨notes ++ [_], by rw [← Workspace.record_told]; rfl⟩
    | false => exact ⟨notes ++ [_], by rw [← Workspace.record_told]; rfl⟩

/-- A workspace with other files, after some more commands, and with another journal. -/
def leaving (w : Workspace) (files : Tree) (commands : List (List String)) (journal : List Note) :
    Workspace :=
  { w with files := files, commands := w.commands ++ commands, journal := journal }

theorem told_eq_leaving (w : Workspace) (notes : List Note) :
    w.told notes = leaving w w.files [] (w.journal ++ notes) := by
  unfold leaving Workspace.told
  rw [List.append_nil]

theorem install_run (executable : String) (run : Runner) (root : Path) (w : Workspace) :
    ∃ journal, (install executable run root).run w =
      ((installedAt root executable run w.files w.directory).1,
        leaving w (installedAt root executable run w.files w.directory).2
          [installCommand executable root] journal) := by
  unfold install installedAt
  simp only
  rw [Action.run_bind_ok (run_note _ _ _ w)]
  rw [Action.run_bind_ok (runCommand_run run _ _)]
  simp only [Workspace.record_files]
  cases run (installCommand executable root) w.files with
  | mk outcome files =>
    cases outcome with
    | error message => exact ⟨_, rfl⟩
    | ok completed =>
      simp only
      split
      · rw [Action.run_bind_ok (run_note _ _ _ _)]
        obtain ⟨notes, hr⟩ := lookAgain_run root _
        exact ⟨_, hr⟩
      · obtain ⟨notes, hr⟩ := lookAgain_run root _
        exact ⟨_, hr⟩

/-- This is what seeing to the package does, its journal apart. -/
theorem ensure_run (root : Path) (runner : Option Runner) (w : Workspace) :
    ∃ journal, (ensure root runner).run w =
      ((ensuredAt root (installerOf runner w) w.files w.directory).1,
        leaving w (ensuredAt root (installerOf runner w) w.files w.directory).2.1
          (ensuredAt root (installerOf runner w) w.files w.directory).2.2 journal) := by
  have hthere : (Workspace.isFile (manifestPath root)).run w =
      ((w.files.isFile w.directory (manifestPath root)).mapError Fault.file, w) := rfl
  have hhere : w = leaving w w.files [] w.journal := by
    have htold := told_eq_leaving w []
    rwa [Workspace.told_nil, List.append_nil] at htold
  unfold ensure ensuredAt
  cases hfile : w.files.isFile w.directory (manifestPath root) with
  | error failure =>
    rw [hfile] at hthere
    exact ⟨w.journal, by rw [← hhere]; exact Action.run_bind_error hthere⟩
  | ok there =>
    rw [hfile] at hthere
    rw [Action.run_bind_ok hthere]
    cases there with
    | false => exact ⟨_, by rw [← told_eq_leaving]; rfl⟩
    | true =>
      obtain ⟨notes, hr⟩ := isRequired_run root w
      simp only [Bool.not_true, Bool.false_eq_true, if_false]
      cases hq : requiredAt w.files w.directory root with
      | error fault =>
        rw [hq] at hr
        exact ⟨_, by rw [← told_eq_leaving w notes]; exact Action.run_bind_error hr⟩
      | ok required =>
        rw [hq] at hr
        rw [Action.run_bind_ok hr]
        cases required with
        | true =>
          exact ⟨_, by rw [← told_eq_leaving w (notes ++ [_]), ← Workspace.record_told]; rfl⟩
        | false =>
          simp only [Bool.false_eq_true, if_false]
          rw [Action.run_bind_ok (Action.run_get _)]
          have hfound : installerOf runner (w.told notes) = installerOf runner w := rfl
          rw [hfound]
          cases installerOf runner w with
          | none =>
            exact ⟨_, by rw [← told_eq_leaving w (notes ++ [_]), ← Workspace.record_told]; rfl⟩
          | some found =>
            obtain ⟨executable, run⟩ := found
            obtain ⟨journal, hi⟩ := install_run executable run root (w.told notes)
            exact ⟨journal, hi⟩

/-! ## The causes that end a run -/

/-- A manifest that is nested too deep to be looked at. -/
def Deep (files : Tree) (directory : Location) (root : Path) : Prop :=
  ∃ activity, requirementsAt files directory (manifestPath root) =
    .error (.malformed (.unreadable (.tooDeep activity)))

/-- Whether the manifest of a project requires the package; one that cannot be read does not. -/
def requires (files : Tree) (directory : Location) (root : Path) : Bool :=
  match requirementsAt files directory (manifestPath root) with
  | .ok entries => holdsPackage entries
  | .error _ => false

/-- The ways in which seeing to the package ends a run. -/
inductive Blocked (root : Path) (runner : Option Runner) (w : Workspace) : Prop where
  | longPath : w.files.TooLong w.directory (manifestPath root) → Blocked root runner w
  | deepManifest :
      w.files.isFile w.directory (manifestPath root) = .ok true →
      Deep w.files w.directory root → Blocked root runner w
  | deepAfterInstall {executable : String} {run : Runner} {completed : Completed} {files : Tree} :
      w.files.isFile w.directory (manifestPath root) = .ok true →
      ¬ Deep w.files w.directory root → requires w.files w.directory root = false →
      installerOf runner w = some (executable, run) →
      run (installCommand executable root) w.files = (.ok completed, files) →
      Deep files w.directory root → Blocked root runner w

theorem Blocked.retell {root : Path} {runner : Option Runner} {w : Workspace}
    (h : Blocked root runner w) (journal : List Note) :
    Blocked root runner { w with journal := journal } := by
  cases h with
  | longPath h => exact .longPath h
  | deepManifest h hdeep => exact .deepManifest h hdeep
  | deepAfterInstall h hdeep hq hi hrun hafter =>
    exact .deepAfterInstall h hdeep hq hi hrun hafter

/-- The journal has no part in it. -/
theorem blocked_retold {root : Path} {runner : Option Runner} {w : Workspace}
    {journal : List Note} :
    Blocked root runner { w with journal := journal } ↔ Blocked root runner w :=
  ⟨fun h => h.retell w.journal, fun h => h.retell journal⟩

/-- There is no telling what a manifest requires exactly where it is nested too deep. -/
theorem requiredAt_error_iff :
    (∃ fault, requiredAt files directory root = .error fault) ↔ Deep files directory root := by
  unfold requiredAt Deep
  cases requirementsAt files directory (manifestPath root) with
  | ok entries => simp
  | error unknown =>
    cases unknown with
    | unread failure => simp [Unknown.fault?]
    | malformed fault =>
      cases fault with
      | malformed detail => simp [Unknown.fault?]
      | unreadable flaw => cases flaw <;> simp [Unknown.fault?]

theorem requiredAt_eq_ok {required : Bool} (h : requiredAt files directory root = .ok required) :
    ¬ Deep files directory root ∧ requires files directory root = required := by
  refine ⟨fun hdeep => ?_, ?_⟩
  · obtain ⟨fault, hfault⟩ := requiredAt_error_iff.mpr hdeep
    rw [hfault] at h
    cases h
  · unfold requiredAt at h
    unfold requires
    cases hr : requirementsAt files directory (manifestPath root) with
    | ok entries =>
      rw [hr] at h
      cases h
      rfl
    | error unknown =>
      rw [hr] at h
      simp only at h
      split at h <;> cases h
      rfl

/-- Running the installer comes to a fault exactly if it leaves a manifest that is nested too deep. -/
theorem installedAt_error_iff {executable : String} {run : Runner} :
    (∃ fault, (installedAt root executable run files directory).1 = .error fault) ↔
      ∃ completed left, run (installCommand executable root) files = (.ok completed, left) ∧
        Deep left directory root := by
  unfold installedAt
  cases hrun : run (installCommand executable root) files with
  | mk outcome left =>
    cases outcome with
    | error message => simp
    | ok completed =>
      have hlook : (∃ fault, lookAt left directory root = .error fault) ↔
          Deep left directory root := by
        rw [← requiredAt_error_iff]
        unfold lookAt
        cases requiredAt left directory root with
        | error fault => exact iff_of_true ⟨_, rfl⟩ ⟨_, rfl⟩
        | ok required => cases required <;> simp
      simp only
      rw [hlook]
      constructor
      · exact fun hdeep => ⟨completed, left, rfl, hdeep⟩
      · rintro ⟨_, _, h, hdeep⟩
        cases h
        exact hdeep

/-- What seeing to the package makes of the files is a fault for these causes and no others. -/
theorem ensuredAt_error_iff :
    (∃ fault, (ensuredAt root (installerOf runner w) w.files w.directory).1 = .error fault) ↔
      Blocked root runner w := by
  unfold ensuredAt
  cases hfile : w.files.isFile w.directory (manifestPath root) with
  | error failure => exact iff_of_true ⟨_, rfl⟩ (.longPath (Tree.leadsTo_error_iff.mp hfile).1)
  | ok there =>
    have hshort := Tree.not_tooLong_of_isFile hfile
    cases there with
    | false =>
      refine iff_of_false (by simp) ?_
      rintro (hlong | ⟨h, -⟩ | ⟨h, -⟩)
      · exact absurd hlong hshort
      · rw [hfile] at h; cases h
      · rw [hfile] at h; cases h
    | true =>
      simp only
      cases hq : requiredAt w.files w.directory root with
      | error fault =>
        exact iff_of_true ⟨_, rfl⟩ (.deepManifest hfile (requiredAt_error_iff.mp ⟨fault, hq⟩))
      | ok required =>
        obtain ⟨hdeep, hrequires⟩ := requiredAt_eq_ok hq
        cases required with
        | true =>
          refine iff_of_false (by simp) ?_
          rintro (hlong | ⟨-, h⟩ | ⟨-, -, h, -⟩)
          · exact absurd hlong hshort
          · exact absurd h hdeep
          · rw [hrequires] at h; cases h
        | false =>
          simp only
          constructor
          · rintro ⟨fault, h⟩
            cases hi : installerOf runner w with
            | none => rw [hi] at h; cases h
            | some found =>
              rw [hi] at h
              obtain ⟨completed, left, hrun, hafter⟩ := installedAt_error_iff.mp ⟨fault, h⟩
              exact .deepAfterInstall hfile hdeep hrequires hi hrun hafter
          · rintro (hlong | ⟨-, h⟩ | ⟨-, -, -, hi, hrun, hafter⟩)
            · exact absurd hlong hshort
            · exact absurd h hdeep
            · rw [hi]
              exact installedAt_error_iff.mpr ⟨_, _, hrun, hafter⟩

/-- Seeing to the package ends a run for these causes and no others. -/
theorem ensure_error_iff {root : Path} {runner : Option Runner} {w : Workspace} :
    (∃ fault w', (ensure root runner).run w = (.error fault, w')) ↔ Blocked root runner w := by
  obtain ⟨journal, hr⟩ := ensure_run root runner w
  rw [hr, ← ensuredAt_error_iff]
  constructor
  · rintro ⟨fault, w', h⟩
    exact ⟨fault, congrArg Prod.fst h⟩
  · rintro ⟨fault, h⟩
    exact ⟨fault, _, by rw [h]⟩

end Scaffold.Dependency
