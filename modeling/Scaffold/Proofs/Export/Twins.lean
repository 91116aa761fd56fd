import Scaffold.Proofs.Export.Idempotence

/-!
# Writing by way of a draft and in place

An exporter writes by way of a draft beside the target, or in place. Two exports that go the two ways
stay twins from turn to turn: the same files, the same entries, the texts of errors apart.

* `Writable`: the targets that a write in place can write to, and what each way does there.
* `Parts`: the turns at which the two ways part: no draft can be made for a target that can be written
  to, or a file of another mode is there by then.
* `Twins`: the states of two exports that go the two ways.
* `Twins.stops_iff`, `Twins.turn`: a turn stops both or neither, and one that does not part them leaves
  twins.
-/
namespace Scaffold.Export

open Files (Path Tree Location Node)

variable {s s' : State} {a : Artifact} {as : List Artifact} {x : Exporter} {w w' : Workspace}
  {made : Tree} {root : Path}

/-! ## One write -/

/-- A path at which a file can be written once the directories above it are made. -/
structure Writable (t : Tree) (directory : Location) (p : Path) (made : Tree) : Prop where
  making : t.makeDirectories directory p.parent = (.ok (), made)
  named : ∃ above name, made.parentAndName directory p = .ok (above, some name)
  notDirectory : made.lookup (p.place directory) ≠ some .directory

theorem Writable.no_null {t : Tree} {directory : Location} {p : Path}
    (h : Writable t directory p made) : p.hasNull = false := by
  obtain ⟨above, name, hp⟩ := h.named
  exact (Tree.checkPath_ok (Tree.parentAndName_checked hp)).1

theorem Writable.ne_root {t : Tree} {directory : Location} {p : Path}
    (h : Writable t directory p made) : p.place directory ≠ [] := by
  obtain ⟨above, name, hp⟩ := h.named
  rw [← Tree.place_of_parentAndName hp]
  simp

/-- Whatever is written, either way, is written to such a path. -/
theorem writable_of_ok (h : writeArtifact x w a = (.ok (), w')) :
    ∃ made, Writable w.files w.directory (x.target a) made := by
  cases hm : w.files.makeDirectories w.directory (x.target a).parent with
  | mk outcome t =>
    cases outcome with
    | error failure =>
      rw [writeArtifact_of_failed hm] at h
      cases h
    | ok u =>
      rw [writeArtifact_of_made hm] at h
      obtain ⟨hnamed, hplace, -⟩ := writeAt_ok h
      exact ⟨t, hm, hnamed, hplace⟩

/-- In place every such path is written to; a file that is there keeps its mode. -/
theorem Writable.written_in_place (h : Writable w.files w.directory (x.target a) made)
    (hway : x.atomic = false) :
    writeArtifact x w a = (.ok (), { w with
      files := made.set ((x.target a).place w.directory)
        (.file (Tree.keptMode w.umask (made.lookup ((x.target a).place w.directory)))
          (Text.Utf8.encode a.content)) }) := by
  obtain ⟨above, name, hp⟩ := h.named
  have hplace := Tree.place_of_parentAndName hp
  have hfile := h.notDirectory
  rw [← hplace] at hfile ⊢
  rw [writeArtifact_of_made h.making, writeAt, hway, if_neg Bool.false_ne_true]
  unfold Tree.write
  simp only [hp]
  cases hl : made.lookup (above ++ [name]) with
  | none => rfl
  | some node =>
    cases node with
    | directory => exact absurd hl hfile
    | file mode content => rfl

theorem Writable.replaced (h : Writable w.files w.directory (x.target a) made)
    (hway : x.atomic = true) :
    writeArtifact x w a =
      match made.makeDraft w.directory w.umask (x.target a) (w.draws (x.target a))
        Files.draftAttempts with
      | .error failure => (.error failure, { w with files := made })
      | .ok _ => (.ok (), { w with
          files := made.set ((x.target a).place w.directory)
            (.file (Tree.newFileMode w.umask) (Text.Utf8.encode a.content)) }) := by
  obtain ⟨above, name, hp⟩ := h.named
  have hplace := Tree.place_of_parentAndName hp
  have hfile := h.notDirectory
  rw [← hplace] at hfile ⊢
  rw [writeArtifact_of_made h.making, writeAt, hway, if_pos rfl]
  rw [Files.Process.replace_of_named (s := ⟨made, w.umask⟩) hp hfile]
  cases made.makeDraft w.directory w.umask (x.target a) (w.draws (x.target a))
    Files.draftAttempts <;> rfl

/-- By way of a draft such a path is not written to if no draft can be made; the directories above it
stay. -/
theorem Writable.unreplaced (h : Writable w.files w.directory (x.target a) made)
    (hway : x.atomic = true) (habs : (x.target a).isAbsolute = true)
    (hdraft : made.Undraftable w.directory (x.target a) (w.draws (x.target a))) :
    ∃ failure, writeArtifact x w a = (.error failure, { w with files := made }) := by
  obtain ⟨failure, hmake⟩ := (@Tree.makeDraft_error_iff _ _ _ w.umask _ habs h.no_null
    (Tree.isDirectory_of_makeDirectories h.making)).mpr hdraft
  refine ⟨failure, ?_⟩
  rw [h.replaced hway, hmake]

/-- If a draft can be made, it is written to, and has the mode of a new file. -/
theorem Writable.written_by_draft (h : Writable w.files w.directory (x.target a) made)
    (hway : x.atomic = true) (habs : (x.target a).isAbsolute = true)
    (hdraft : ¬ made.Undraftable w.directory (x.target a) (w.draws (x.target a))) :
    writeArtifact x w a = (.ok (), { w with
      files := made.set ((x.target a).place w.directory)
        (.file (Tree.newFileMode w.umask) (Text.Utf8.encode a.content)) }) := by
  rw [h.replaced hway]
  cases hmake : made.makeDraft w.directory w.umask (x.target a) (w.draws (x.target a))
      Files.draftAttempts with
  | ok drafted => rfl
  | error failure =>
    exact absurd ((Tree.makeDraft_error_iff habs h.no_null
      (Tree.isDirectory_of_makeDirectories h.making)).mp ⟨failure, hmake⟩) hdraft

/-- Every other path is not written to, either way, and the directories made for it stay. -/
theorem unwritten_of_not_writable
    (h : ¬ ∃ made, Writable w.files w.directory (x.target a) made) :
    ∃ failure, writeArtifact x w a = (.error failure, { w with
      files := (w.files.makeDirectories w.directory (x.target a).parent).2 }) := by
  cases hm : w.files.makeDirectories w.directory (x.target a).parent with
  | mk outcome t =>
    cases outcome with
    | error failure => exact ⟨failure, writeArtifact_of_failed hm⟩
    | ok u =>
      cases hw : writeArtifact x w a with
      | mk outcome w' =>
        cases outcome with
        | ok u => exact absurd (writable_of_ok hw) h
        | error failure =>
          rw [writeArtifact_of_made hm] at hw
          rw [writeAt_error (Tree.no_null_of_makeDirectories hm) hw]
          exact ⟨failure, rfl⟩

/-- Either way a write reports a null character for the same paths. -/
theorem null_failure_iff (habs : (x.target a).isAbsolute = true) :
    (∃ failure, (writeArtifact x w a).1 = .error failure ∧ failure.problem = .nullCharacter) ↔
      (x.target a).parent.hasNull = true ∨
        (w.files.makeDirectories w.directory (x.target a).parent).1 = .ok () ∧
          (x.target a).hasNull = true := by
  rw [writeArtifact_null_iff]
  cases hparent : (x.target a).parent.hasNull with
  | true => simp
  | false =>
    have hopened : (openedPath x w a).hasNull = true ↔ (x.target a).hasNull = true := by
      unfold openedPath
      split
      · exact ⟨Tree.hasNull_of_draftPath habs, Tree.hasNull_draftPath hparent⟩
      · exact Iff.rfl
    rw [hopened]

/-! ## Twins -/

/-- Two fates that differ at most in the text of an error. -/
inductive Fate.Alike : Fate → Fate → Prop where
  | created : Fate.Alike .created .created
  | skipped : Fate.Alike .skipped .skipped
  | failed {failure failure' : Files.Failure} : Fate.Alike (.failed failure) (.failed failure')

/-- The exporter that writes in place, with errors of its own. -/
def Exporter.inPlace (x : Exporter) (errors : List String) : Exporter :=
  { x with atomic := false, errors := errors }

/-- Two states of exports that go the two ways: they differ in the texts of their errors and in what
the journal says. -/
structure Twins (s s' : State) : Prop where
  byDraft : s.1.atomic = true
  exporter : ∃ errors, s'.1 = s.1.inPlace errors
  workspace : ∃ journal, s'.2 = { s.2 with journal := journal }

theorem Twins.inPlace (h : Twins s s') : s'.1.atomic = false := by
  obtain ⟨errors, hx⟩ := h.exporter
  rw [hx]
  rfl

theorem Twins.dryRun (h : Twins s s') : s'.1.dryRun = s.1.dryRun := by
  obtain ⟨errors, hx⟩ := h.exporter
  rw [hx]
  rfl

theorem Twins.target (h : Twins s s') (a : Artifact) : s'.1.target a = s.1.target a := by
  obtain ⟨errors, hx⟩ := h.exporter
  rw [hx]
  rfl

theorem Twins.files (h : Twins s s') : s'.2.files = s.2.files := by
  obtain ⟨journal, hw⟩ := h.workspace
  rw [hw]

theorem Twins.directory (h : Twins s s') : s'.2.directory = s.2.directory := by
  obtain ⟨journal, hw⟩ := h.workspace
  rw [hw]

theorem Twins.umask (h : Twins s s') : s'.2.umask = s.2.umask := by
  obtain ⟨journal, hw⟩ := h.workspace
  rw [hw]

/-- What is entered in one of twins, entered in the other, leaves twins. -/
theorem Twins.entered (h : Twins s s') {f f' : Fate} (hf : Fate.Alike f f') {t : Tree}
    {v v' : Workspace} (hv : ∃ journal, v = { s.2 with files := t, journal := journal })
    (hv' : ∃ journal, v' = { s'.2 with files := t, journal := journal }) :
    Twins (s.1.entered a f, v) (s'.1.entered a f', v') := by
  obtain ⟨hway, ⟨errors, hx⟩, ⟨j, hw⟩⟩ := h
  obtain ⟨journal, rfl⟩ := hv
  obtain ⟨journal', rfl⟩ := hv'
  have hatomic : (s.1.entered a f).atomic = true := by
    cases f <;> exact hway
  refine ⟨hatomic, ?_, journal', by rw [hw]⟩
  rw [hx]
  cases hf with
  | created => exact ⟨errors, rfl⟩
  | skipped => exact ⟨errors, rfl⟩
  | failed => exact ⟨_, rfl⟩

/-- The turns at which the two ways part: the target can be written to, and no draft can be made for
it, or a file of another mode is there by then. -/
structure Parts (s : State) (a : Artifact) : Prop where
  missing : s.2.files.exists? s.2.directory (s.1.target a) = .ok false
  real : s.1.dryRun = false
  differs : ∃ made, Writable s.2.files s.2.directory (s.1.target a) made ∧
    (made.Undraftable s.2.directory (s.1.target a) (s.2.draws (s.1.target a)) ∨
      ∃ mode content,
        made.lookup ((s.1.target a).place s.2.directory) = some (.file mode content) ∧
          mode ≠ Tree.newFileMode s.2.umask)

/-! ## What one turn leaves -/

theorem turn_of_tooLong (h : s.2.files.TooLong s.2.directory (s.1.target a)) : turn s a = s := by
  have hfailed := Tree.leadsTo_eq_error (fun _ => true) h
  unfold turn Action.run exportOne Tree.exists?
  rw [hfailed]

theorem turn_of_present (h : s.2.files.exists? s.2.directory (s.1.target a) = .ok true) :
    ∃ journal, turn s a = (s.1.entered a .skipped, { s.2 with journal := journal }) := by
  have hr : (exportOne a).run s = (skip a).run s := by
    unfold Action.run exportOne
    rw [h]
  obtain ⟨notes, hs⟩ := skip_run a s
  unfold turn
  rw [hr, hs]
  exact ⟨_, rfl⟩

theorem turn_of_dryRun (h : s.2.files.exists? s.2.directory (s.1.target a) = .ok false)
    (hdry : s.1.dryRun = true) :
    ∃ journal, turn s a = (s.1.entered a .created, { s.2 with journal := journal }) := by
  have hr : (exportOne a).run s = (accept a).run s := by
    unfold Action.run exportOne
    simp only [h, hdry, if_true]
  obtain ⟨notes, hs⟩ := accept_run a s
  unfold turn
  rw [hr, hs]
  exact ⟨_, rfl⟩

theorem turn_of_written (h : s.2.files.exists? s.2.directory (s.1.target a) = .ok false)
    (hreal : s.1.dryRun = false) (hw : writeArtifact s.1 s.2 a = (.ok (), w')) :
    ∃ journal, turn s a = (s.1.entered a .created, { w' with journal := journal }) := by
  have hr : (exportOne a).run s = (accept a).run (s.1, w') := by
    unfold Action.run exportOne
    simp only [h, hreal, Bool.false_eq_true, if_false, hw]
  obtain ⟨notes, hs⟩ := accept_run a (s.1, w')
  unfold turn
  rw [hr, hs]
  exact ⟨_, rfl⟩

/-- A failed write is entered, unless it reports a null character. -/
theorem turn_of_failed {failure : Files.Failure}
    (h : s.2.files.exists? s.2.directory (s.1.target a) = .ok false)
    (hreal : s.1.dryRun = false) (hw : writeArtifact s.1 s.2 a = (.error failure, w')) :
    ∃ journal, turn s a =
      (if failure.problem = .nullCharacter then s.1 else s.1.entered a (.failed failure),
        { w' with journal := journal }) := by
  have hr : (exportOne a).run s = (reject a failure).run (s.1, w') := by
    unfold Action.run exportOne
    simp only [h, hreal, Bool.false_eq_true, if_false, hw]
  unfold turn
  rw [hr]
  by_cases hnull : failure.problem = .nullCharacter
  · rw [reject_of_null a _ hnull, if_pos hnull]
    exact ⟨_, rfl⟩
  · obtain ⟨notes, hs⟩ := reject_run a (s.1, w') hnull
    rw [hs, if_neg hnull]
    exact ⟨_, rfl⟩

/-! ## One turn of twins -/

/-- The turns that stop an export, said of the target alone. -/
theorem stops_iff (habs : (s.1.target a).isAbsolute = true) :
    Stops s a ↔ s.2.files.TooLong s.2.directory (s.1.target a) ∨
      s.2.files.exists? s.2.directory (s.1.target a) = .ok false ∧ s.1.dryRun = false ∧
        ((s.1.target a).parent.hasNull = true ∨
          (s.2.files.makeDirectories s.2.directory (s.1.target a).parent).1 = .ok () ∧
            (s.1.target a).hasNull = true) := by
  rw [← null_failure_iff habs, writeArtifact_null_iff]
  constructor
  · rintro (hlong | ⟨hmiss, hreal, hnull⟩)
    · exact Or.inl hlong
    · exact Or.inr ⟨hmiss, hreal, hnull⟩
  · rintro (hlong | ⟨hmiss, hreal, hnull⟩)
    · exact .tooLong hlong
    · exact .nullCharacter hmiss hreal hnull

/-- A turn stops the one export exactly if it stops the other. -/
theorem Twins.stops_iff (h : Twins s s') (habs : s.1.root.isAbsolute = true) (a : Artifact) :
    Stops s' a ↔ Stops s a := by
  have htarget := target_isAbsolute habs a
  rw [Export.stops_iff htarget, Export.stops_iff (by rw [h.target]; exact htarget), h.target,
    h.files, h.directory, h.dryRun]

theorem Twins.exists? (h : Twins s s') (a : Artifact) :
    s'.2.files.exists? s'.2.directory (s'.1.target a) =
      s.2.files.exists? s.2.directory (s.1.target a) := by
  rw [h.files, h.directory, h.target]

theorem Twins.writable_iff (h : Twins s s') (a : Artifact) (made : Tree) :
    Writable s'.2.files s'.2.directory (s'.1.target a) made ↔
      Writable s.2.files s.2.directory (s.1.target a) made := by
  rw [h.files, h.directory, h.target]

/-- Twins that cannot write to a target fail alike. -/
theorem Twins.turn_of_unwritten (h : Twins s s') (habs : s.1.root.isAbsolute = true)
    (hmiss : s.2.files.exists? s.2.directory (s.1.target a) = .ok false)
    (hreal : s.1.dryRun = false)
    (hno : ¬ ∃ made, Writable s.2.files s.2.directory (s.1.target a) made) :
    Fate.Alike (fate s a) (fate s' a) ∧ Twins (turn s a) (turn s' a) := by
  have hmiss' := (h.exists? a).trans hmiss
  have hreal' := h.dryRun.trans hreal
  have hno' : ¬ ∃ made, Writable s'.2.files s'.2.directory (s'.1.target a) made :=
    fun ⟨made, hwritable⟩ => hno ⟨made, (h.writable_iff a made).mp hwritable⟩
  obtain ⟨failure, hw⟩ := unwritten_of_not_writable hno
  obtain ⟨failure', hw'⟩ := unwritten_of_not_writable hno'
  have htree : s'.2.files.makeDirectories s'.2.directory (s'.1.target a).parent =
      s.2.files.makeDirectories s.2.directory (s.1.target a).parent := by
    rw [h.files, h.directory, h.target]
  rw [htree] at hw'
  have hnull : failure.problem = .nullCharacter ↔ failure'.problem = .nullCharacter := by
    have htarget := target_isAbsolute habs a
    have hone := @null_failure_iff a s.1 s.2 htarget
    have hother := @null_failure_iff a s'.1 s'.2 (by rw [h.target]; exact htarget)
    rw [htree, h.target, ← hone, hw, hw'] at hother
    simpa [eq_comm] using hother.symm
  have hfate := fate_of_write hmiss hreal
  have hfate' := fate_of_write hmiss' hreal'
  rw [hw] at hfate
  rw [hw'] at hfate'
  obtain ⟨journal, hturn⟩ := turn_of_failed hmiss hreal hw
  obtain ⟨journal', hturn'⟩ := turn_of_failed hmiss' hreal' hw'
  rw [hfate, hfate', hturn, hturn']
  refine ⟨.failed, ?_⟩
  by_cases hp : failure.problem = .nullCharacter
  · rw [if_pos hp, if_pos (hnull.mp hp)]
    obtain ⟨hway, hexporter, ⟨j, hworkspace⟩⟩ := h
    exact ⟨hway, hexporter, journal', by rw [hworkspace]⟩
  · rw [if_neg hp, if_neg (mt hnull.mpr hp)]
    exact h.entered .failed ⟨journal, rfl⟩ ⟨journal', rfl⟩

/-- Twins that a turn does not part write the same. -/
theorem Twins.turn_of_writable (h : Twins s s') (habs : s.1.root.isAbsolute = true)
    (hmiss : s.2.files.exists? s.2.directory (s.1.target a) = .ok false)
    (hreal : s.1.dryRun = false) (hsame : ¬ Parts s a)
    (hwritable : Writable s.2.files s.2.directory (s.1.target a) made) :
    Fate.Alike (fate s a) (fate s' a) ∧ Twins (turn s a) (turn s' a) := by
  have hmiss' := (h.exists? a).trans hmiss
  have hreal' := h.dryRun.trans hreal
  have hdraft : ¬ made.Undraftable s.2.directory (s.1.target a) (s.2.draws (s.1.target a)) :=
    fun hnone => hsame ⟨hmiss, hreal, made, hwritable, Or.inl hnone⟩
  have hmode : Tree.keptMode s.2.umask (made.lookup ((s.1.target a).place s.2.directory)) =
      Tree.newFileMode s.2.umask := by
    cases hl : made.lookup ((s.1.target a).place s.2.directory) with
    | none => rfl
    | some node =>
      cases node with
      | directory => rfl
      | file mode content =>
        apply Classical.byContradiction
        intro hne
        exact hsame ⟨hmiss, hreal, made, hwritable, Or.inr ⟨mode, content, hl, hne⟩⟩
  have hw := hwritable.written_by_draft h.byDraft (target_isAbsolute habs a) hdraft
  have hw' := ((h.writable_iff a made).mpr hwritable).written_in_place h.inPlace
  have htree : made.set ((s'.1.target a).place s'.2.directory)
      (.file (Tree.keptMode s'.2.umask (made.lookup ((s'.1.target a).place s'.2.directory)))
        (Text.Utf8.encode a.content)) =
      made.set ((s.1.target a).place s.2.directory)
        (.file (Tree.newFileMode s.2.umask) (Text.Utf8.encode a.content)) := by
    rw [h.umask, h.target, h.directory, hmode]
  rw [htree] at hw'
  have hfate := fate_of_write hmiss hreal
  have hfate' := fate_of_write hmiss' hreal'
  rw [hw] at hfate
  rw [hw'] at hfate'
  obtain ⟨journal, hturn⟩ := turn_of_written hmiss hreal hw
  obtain ⟨journal', hturn'⟩ := turn_of_written hmiss' hreal' hw'
  rw [hfate, hfate', hturn, hturn']
  exact ⟨.created, h.entered .created ⟨journal, rfl⟩ ⟨journal', rfl⟩⟩

/-- A turn that does not part twins gives their artifacts fates alike, and leaves twins. -/
theorem Twins.turn (h : Twins s s') (habs : s.1.root.isAbsolute = true) (hsame : ¬ Parts s a) :
    Fate.Alike (fate s a) (fate s' a) ∧ Twins (turn s a) (turn s' a) := by
  have hthere := h.exists? a
  cases he : s.2.files.exists? s.2.directory (s.1.target a) with
  | error failure =>
    have hlong := (Tree.leadsTo_error_iff.mp he).1
    have hlong' := (Tree.leadsTo_error_iff.mp (hthere.trans he)).1
    have hskipped : fate s a = .skipped ∧ fate s' a = .skipped := by
      unfold fate
      rw [hthere, he]
      exact ⟨rfl, rfl⟩
    rw [hskipped.1, hskipped.2, turn_of_tooLong hlong, turn_of_tooLong hlong']
    exact ⟨.skipped, h⟩
  | ok found =>
    cases found with
    | true =>
      obtain ⟨journal, hturn⟩ := turn_of_present he
      obtain ⟨journal', hturn'⟩ := turn_of_present (hthere.trans he)
      rw [fate_of_present he, fate_of_present (hthere.trans he), hturn, hturn']
      exact ⟨.skipped, h.entered .skipped ⟨journal, rfl⟩ ⟨journal', by rw [← h.files]⟩⟩
    | false =>
      cases hdry : s.1.dryRun with
      | true =>
        have hdry' := h.dryRun.trans hdry
        obtain ⟨journal, hturn⟩ := turn_of_dryRun he hdry
        obtain ⟨journal', hturn'⟩ := turn_of_dryRun (hthere.trans he) hdry'
        rw [fate_of_dryRun he hdry, fate_of_dryRun (hthere.trans he) hdry', hturn, hturn']
        exact ⟨.created, h.entered .created ⟨journal, rfl⟩ ⟨journal', by rw [← h.files]⟩⟩
      | false =>
        by_cases hwritable : ∃ made, Writable s.2.files s.2.directory (s.1.target a) made
        · obtain ⟨made, hwritable⟩ := hwritable
          exact h.turn_of_writable habs he hdry hsame hwritable
        · exact h.turn_of_unwritten habs he hdry hwritable

end Scaffold.Export
