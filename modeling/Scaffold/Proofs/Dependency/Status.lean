import Scaffold.Proofs.Dependency

/-!
# What the status of the package says

A status is read off the manifest of the project, before and after the installer ran. How the installer
says that it ended has no part in it.

* `HasManifest`, `Requires`: what a project has and requires, said of its files.
* `Course`: the courses that seeing to the package can take.
* `Truthful`, `ensure_truthful`: when the installer is run, and what each status says of the manifest.
* `long_root_without_status`: a project below a name that is too long has no manifest, and gets no status.
-/
namespace Scaffold.Dependency

open Files (Path Tree Location Node)

variable {root : Path} {runner : Option Runner} {w : Workspace} {files : Tree} {directory : Location}
  {found found' : Option (String × Runner)}

/-- A project whose manifest is a file. -/
def HasManifest (files : Tree) (directory : Location) (root : Path) : Prop :=
  ∃ mode content, files.stat directory (manifestPath root) = .ok (.file mode content)

/-- A project whose manifest can be read, is a mapping, and has the package in its mapping of what is
required. -/
def Requires (files : Tree) (directory : Location) (root : Path) : Prop :=
  ∃ text entries required version,
    Workspace.textAt files directory (manifestPath root) = .ok text ∧
      Markup.Json.read text.toList = .ok (.mapping entries) ∧
      Entries.get? entries "require" = some (.mapping required) ∧
      Entries.get? required package = some version

theorem isFile_iff_hasManifest :
    files.isFile directory (manifestPath root) = .ok true ↔ HasManifest files directory root := by
  unfold HasManifest Tree.isFile Tree.leadsTo
  cases files.stat directory (manifestPath root) with
  | error problem => cases h : problem.meansAbsent <;> simp [h]
  | ok node => cases node <;> simp [Node.isDirectory]

theorem isFile_eq_false_iff :
    files.isFile directory (manifestPath root) = .ok false ↔
      ¬ HasManifest files directory root ∧ ¬ files.TooLong directory (manifestPath root) := by
  rw [← isFile_iff_hasManifest]
  cases h : files.isFile directory (manifestPath root) with
  | error failure => simp [(Tree.leadsTo_error_iff.mp h).1]
  | ok there => cases there <;> simp [Tree.not_tooLong_of_isFile h]

theorem holdsPackage_requirementsOf {value : Value} :
    holdsPackage (requirementsOf value) = true ↔
      ∃ entries required version, value = .mapping entries ∧
        Entries.get? entries "require" = some (.mapping required) ∧
        Entries.get? required package = some version := by
  unfold holdsPackage
  rw [Option.isSome_iff_exists]
  constructor
  · rintro ⟨version, h⟩
    unfold requirementsOf at h
    split at h
    · split at h
      · exact ⟨_, _, version, rfl, by assumption, h⟩
      · cases h
    · cases h
  · rintro ⟨entries, required, version, rfl, hentry, hversion⟩
    refine ⟨version, ?_⟩
    unfold requirementsOf
    simp only [hentry, hversion]

theorem requiredAt_eq_true_iff :
    requiredAt files directory root = .ok true ↔ Requires files directory root := by
  unfold requiredAt requirementsAt Requires
  cases Workspace.textAt files directory (manifestPath root) with
  | error failure => simp [Unknown.fault?]
  | ok text =>
    cases hread : Markup.Json.read text.toList with
    | error fault =>
      simp only [hread]
      cases (Unknown.malformed fault).fault? <;> simp [hread]
    | ok value => simp [hread, holdsPackage_requirementsOf]

theorem not_requires_of_requiredAt (h : requiredAt files directory root ≠ .ok true) :
    ¬ Requires files directory root := fun hrequires =>
  h (requiredAt_eq_true_iff.mpr hrequires)

/-! ## The courses it can take -/

/-- The courses that seeing to the package can take: what is said at the end, the files that are left,
and the commands that were run. -/
inductive Course (root : Path) (found : Option (String × Runner)) (files : Tree) (directory : Location) :
    Except Fault DependencyStatus × Tree × List (List String) → Prop where
  | refused {failure : Files.Failure} : files.TooLong directory (manifestPath root) →
      Course root found files directory (.error (.file failure), files, [])
  | absent : ¬ HasManifest files directory root → ¬ files.TooLong directory (manifestPath root) →
      Course root found files directory (.ok .missingManifest, files, [])
  | unknown {fault : Fault} : HasManifest files directory root → Deep files directory root →
      Course root found files directory (.error fault, files, [])
  | required : HasManifest files directory root → Requires files directory root →
      Course root found files directory (.ok .alreadyInstalled, files, [])
  | noInstaller : HasManifest files directory root → ¬ Requires files directory root → found = none →
      Course root found files directory (.ok .failed, files, [])
  | notStarted {executable : String} {run : Runner} {message : String} {left : Tree} :
      HasManifest files directory root → ¬ Requires files directory root →
      found = some (executable, run) →
      run (installCommand executable root) files = (.error message, left) →
      Course root found files directory (.ok .failed, left, [installCommand executable root])
  | ran {executable : String} {run : Runner} {completed : Completed} {left : Tree} :
      HasManifest files directory root → ¬ Requires files directory root →
      found = some (executable, run) →
      run (installCommand executable root) files = (.ok completed, left) →
      Course root found files directory
        (lookAt left directory root, left, [installCommand executable root])

theorem ensuredAt_course (root : Path) (found : Option (String × Runner)) (files : Tree)
    (directory : Location) :
    Course root found files directory (ensuredAt root found files directory) := by
  unfold ensuredAt
  cases hfile : files.isFile directory (manifestPath root) with
  | error failure => exact .refused (Tree.leadsTo_error_iff.mp hfile).1
  | ok there =>
    cases there with
    | false =>
      obtain ⟨hmanifest, hshort⟩ := isFile_eq_false_iff.mp hfile
      exact .absent hmanifest hshort
    | true =>
      have hmanifest := isFile_iff_hasManifest.mp hfile
      simp only
      cases hq : requiredAt files directory root with
      | error fault => exact .unknown hmanifest (requiredAt_error_iff.mp ⟨fault, hq⟩)
      | ok required =>
        cases required with
        | true => exact .required hmanifest (requiredAt_eq_true_iff.mp hq)
        | false =>
          have hrequires : ¬ Requires files directory root :=
            not_requires_of_requiredAt (by rw [hq]; simp)
          cases hfound : found with
          | none => exact .noInstaller hmanifest hrequires rfl
          | some pair =>
            obtain ⟨executable, run⟩ := pair
            simp only [installedAt]
            cases hrun : run (installCommand executable root) files with
            | mk outcome left =>
              cases outcome with
              | error message => exact .notStarted hmanifest hrequires rfl hrun
              | ok completed => exact .ran hmanifest hrequires rfl hrun

/-- The look at the manifest that the installer left says that the package is installed exactly if the
manifest requires it. -/
theorem lookAt_eq_installed_iff :
    lookAt files directory root = .ok .installed ↔ Requires files directory root := by
  rw [← requiredAt_eq_true_iff]
  unfold lookAt
  cases requiredAt files directory root with
  | error fault => simp
  | ok required => cases required <;> simp

theorem lookAt_eq_ok {status : DependencyStatus} (h : lookAt files directory root = .ok status) :
    status = .installed ∨ status = .failed := by
  unfold lookAt at h
  cases hq : requiredAt files directory root with
  | error fault => rw [hq] at h; cases h
  | ok required => cases required <;> rw [hq] at h <;> cases h <;> simp

namespace Course

variable {r : Except Fault DependencyStatus × Tree × List (List String)}

/-- The installer is run once, or nothing is done. -/
theorem once (h : Course root found files directory r) :
    (r.2.1 = files ∧ r.2.2 = []) ∨
      ∃ executable run, found = some (executable, run) ∧
        r.2.1 = (run (installCommand executable root) files).2 ∧
        r.2.2 = [installCommand executable root] := by
  cases h with
  | notStarted _ _ hfound hrun => exact .inr ⟨_, _, hfound, by rw [hrun], rfl⟩
  | ran _ _ hfound hrun => exact .inr ⟨_, _, hfound, by rw [hrun], rfl⟩
  | _ => exact .inl ⟨rfl, rfl⟩

theorem spared (h : Course root found files directory r)
    (hspare : ¬ HasManifest files directory root ∨ Requires files directory root) : r.2.2 = [] := by
  cases h with
  | notStarted hmanifest hrequires | ran hmanifest hrequires =>
    exact hspare.elim (absurd hmanifest) (absurd · hrequires)
  | _ => rfl

/-- A manifest that can be told not to require the package is a reason to run the installer. -/
theorem tried (h : Course root found files directory r) (hmanifest : HasManifest files directory root)
    (hdeep : ¬ Deep files directory root) (hrequires : ¬ Requires files directory root)
    {executable : String} {run : Runner} (hfound : found = some (executable, run)) :
    r.2.2 = [installCommand executable root] := by
  cases h with
  | refused hlong =>
    exact absurd hlong (Tree.not_tooLong_of_isFile (isFile_iff_hasManifest.mpr hmanifest))
  | absent h => exact absurd hmanifest h
  | unknown _ h => exact absurd h hdeep
  | required _ h => exact absurd h hrequires
  | noInstaller _ _ h =>
    rw [h] at hfound
    cases hfound
  | notStarted _ _ h | ran _ _ h =>
    rw [h] at hfound
    cases hfound
    rfl

theorem missing_iff (h : Course root found files directory r) :
    r.1 = .ok .missingManifest ↔
      ¬ HasManifest files directory root ∧ ¬ files.TooLong directory (manifestPath root) := by
  cases h with
  | refused hlong => exact iff_of_false (by simp) fun h => h.2 hlong
  | absent hmanifest hshort => exact iff_of_true rfl ⟨hmanifest, hshort⟩
  | unknown hmanifest | required hmanifest | noInstaller hmanifest | notStarted hmanifest =>
    exact iff_of_false (by simp) fun h => h.1 hmanifest
  | ran hmanifest =>
    refine iff_of_false (fun h => ?_) fun h => h.1 hmanifest
    rcases lookAt_eq_ok h with h | h <;> cases h

theorem requires_after (h : Course root found files directory r)
    (hstatus : r.1 = .ok .alreadyInstalled ∨ r.1 = .ok .installed) :
    Requires r.2.1 directory root := by
  cases h with
  | required _ hrequires => exact hrequires
  | ran =>
    rcases hstatus with h | h
    · rcases lookAt_eq_ok h with h | h <;> cases h
    · exact lookAt_eq_installed_iff.mp h
  | _ => simp at hstatus

/-- Unless the installer could not be started, a failure says that the package is not required. -/
theorem not_requires_after (h : Course root found files directory r) (hstatus : r.1 = .ok .failed) :
    (∃ executable run message, found = some (executable, run) ∧
      (run (installCommand executable root) files).1 = .error message) ∨
    ¬ Requires r.2.1 directory root := by
  cases h with
  | noInstaller _ hrequires => exact .inr hrequires
  | notStarted _ _ hfound hrun => exact .inl ⟨_, _, _, hfound, by rw [hrun]⟩
  | ran =>
    refine .inr fun hafter => ?_
    cases (lookAt_eq_installed_iff.mpr hafter).symm.trans hstatus
  | _ => simp at hstatus

end Course

/-! ## How the installer says that it ended -/

/-- Runners that do the same to the files and can be started for the same commands. What they say of how
they ended may differ. -/
def SameEffect (run run' : Runner) : Prop :=
  ∀ command files, (run command files).2 = (run' command files).2 ∧
    (run command files).1.isOk = (run' command files).1.isOk

/-- Two findings of an installer under one name that has the same effect. -/
def SameInstaller : Option (String × Runner) → Option (String × Runner) → Prop :=
  Option.Rel fun found found' => found.1 = found'.1 ∧ SameEffect found.2 found'.2

theorem installedAt_sameEffect {run run' : Runner} (h : SameEffect run run') (root : Path)
    (executable : String) (files : Tree) (directory : Location) :
    installedAt root executable run files directory =
      installedAt root executable run' files directory := by
  have hsame := h (installCommand executable root) files
  unfold installedAt
  cases hrun : run (installCommand executable root) files with
  | mk outcome left =>
    cases hrun' : run' (installCommand executable root) files with
    | mk outcome' left' =>
      rw [hrun, hrun'] at hsame
      obtain ⟨rfl, hok⟩ := hsame
      cases outcome <;> cases outcome' <;> first | rfl | cases hok

theorem ensuredAt_sameInstaller (h : SameInstaller found found') (root : Path) (files : Tree)
    (directory : Location) :
    ensuredAt root found files directory = ensuredAt root found' files directory := by
  cases h with
  | none => rfl
  | @some pair pair' hpair =>
    obtain ⟨executable, run⟩ := pair
    obtain ⟨executable', run'⟩ := pair'
    obtain ⟨rfl, heffect⟩ := hpair
    unfold ensuredAt
    simp only [installedAt_sameEffect heffect]

/-! ## What a status says -/

/-- Seeing to the package as it should be: when the installer is run, and what a status says. -/
structure Truthful (root : Path) (runner : Option Runner) (w : Workspace)
    (outcome : Except Fault DependencyStatus) (after : Workspace) : Prop where
  /-- There is a status, unless one of the causes that end a run is there. -/
  answers : (∃ status, outcome = .ok status) ↔ ¬ Blocked root runner w
  /-- The installer is run once, or nothing is done. -/
  once : (after.files = w.files ∧ after.commands = w.commands) ∨
    ∃ executable run, installerOf runner w = some (executable, run) ∧
      after.files = (run (installCommand executable root) w.files).2 ∧
      after.commands = w.commands ++ [installCommand executable root]
  /-- It is not run without a manifest, nor for a manifest that requires the package. -/
  spared : ¬ HasManifest w.files w.directory root ∨ Requires w.files w.directory root →
    after.commands = w.commands
  /-- It is run where there is one and the manifest can be told not to require the package. -/
  tried : HasManifest w.files w.directory root → ¬ Deep w.files w.directory root →
    ¬ Requires w.files w.directory root → ∀ executable run,
      installerOf runner w = some (executable, run) →
      after.commands = w.commands ++ [installCommand executable root]
  missing : outcome = .ok .missingManifest ↔
    ¬ HasManifest w.files w.directory root ∧ ¬ w.files.TooLong w.directory (manifestPath root)
  required : outcome = .ok .alreadyInstalled ∨ outcome = .ok .installed →
    Requires after.files w.directory root
  /-- Unless the installer could not be started, a failure says that the package is not required. -/
  failed : outcome = .ok .failed →
    (∃ executable run message, installerOf runner w = some (executable, run) ∧
      (run (installCommand executable root) w.files).1 = .error message) ∨
    ¬ Requires after.files w.directory root
  /-- What the installer says of how it ended does not count. -/
  exitCode : ∀ runner' (w' : Workspace), w'.files = w.files → w'.directory = w.directory →
    SameInstaller (installerOf runner w) (installerOf runner' w') →
    ((ensure root runner').run w').1 = outcome

/-- Seeing to the package is as it should be, whatever the files are and whatever the installer does. -/
theorem ensure_truthful (root : Path) (runner : Option Runner) (w : Workspace) :
    Truthful root runner w ((ensure root runner).run w).1 ((ensure root runner).run w).2 := by
  obtain ⟨journal, hr⟩ := ensure_run root runner w
  have hcourse := ensuredAt_course root (installerOf runner w) w.files w.directory
  rw [hr]
  exact {
    answers := by
      rw [← ensuredAt_error_iff]
      cases (ensuredAt root (installerOf runner w) w.files w.directory).1 <;> simp
    once := by
      rcases hcourse.once with ⟨hfiles, hcommands⟩ | ⟨executable, run, hfound, hfiles, hcommands⟩
      · exact .inl ⟨hfiles, by rw [hcommands]; exact List.append_nil _⟩
      · exact .inr ⟨executable, run, hfound, hfiles, by rw [hcommands]; rfl⟩
    spared := fun h => by rw [hcourse.spared h]; exact List.append_nil _
    tried := by
      intro hmanifest hdeep hrequires executable run hfound
      rw [← hcourse.tried hmanifest hdeep hrequires hfound]
      rfl
    missing := hcourse.missing_iff
    required := hcourse.requires_after
    failed := hcourse.not_requires_after
    exitCode := by
      intro runner' w' hfiles hdirectory hsame
      obtain ⟨journal', hr'⟩ := ensure_run root runner' w'
      rw [hr', hfiles, hdirectory, ← ensuredAt_sameInstaller hsame] }

/-! ## A project root that is too long -/

/-- A root of 300 letters. -/
def longRoot : Path := .ofLocation [String.ofList (List.replicate 300 'a')]

theorem longRoot_tooLong : ({} : Tree).TooLong [] (manifestPath longRoot) := by
  have hmanifest : manifestPath longRoot =
      .ofLocation [String.ofList (List.replicate 300 'a'), "composer.json"] := by
    decide +kernel
  have hnull : (Path.ofLocation
      [String.ofList (List.replicate 300 'a'), "composer.json"]).hasNull = false := by
    simp only [Path.hasNull, Path.ofLocation, List.any_cons, String.toList_ofList]
    decide +kernel
  rw [hmanifest]
  exact ⟨hnull, Or.inr ⟨[], _, ["composer.json"], [], rfl, rfl, rfl, by decide +kernel,
    by decide +kernel⟩⟩

/-- In an empty file system there is no manifest below a root with a long name, and still it is not said
to be missing: the look at it ends the run. -/
theorem long_root_without_status :
    ¬ HasManifest {} [] longRoot ∧
      ¬ ∃ status, ((ensure longRoot none).run {}).1 = .ok status := by
  constructor
  · rw [← isFile_iff_hasManifest]
    exact fun h => Tree.not_tooLong_of_isFile h longRoot_tooLong
  · rintro ⟨status, h⟩
    have hblocked : Blocked longRoot none {} := .longPath longRoot_tooLong
    obtain ⟨fault, w', hr⟩ := ensure_error_iff.mpr hblocked
    rw [hr] at h
    cases h

end Scaffold.Dependency
