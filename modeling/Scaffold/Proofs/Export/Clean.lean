import Scaffold.Proofs.Export.Overwriting

/-!
# A clean export

An export that returns has put every created artifact where its path leads, and has changed nothing else:
a place that no turn writes to has the file that it had before the first turn.

* `Reaches`, `WrittenIn`: where the path of an artifact leads, and where the turns write.
* `fileAt_turns`: the files that no turn writes to are as before.
* `mode_turns`: a file that was not there has the mode of a new file.
* `exportAll_clean`: what an export that is no dry run leaves, its umask included.
* `mixed_export_clean`: an export in which one artifact is created, one is skipped and one fails.
-/
namespace Scaffold.Export

open Files (Path Tree Location Node)

variable {s s' : State} {a b : Artifact} {as : List Artifact} {l : Location}

/-! ## The setting of an export -/

theorem SameSetting.refl (s : State) : SameSetting s s := ⟨rfl, rfl, rfl, rfl, rfl⟩

theorem SameSetting.symm {s s' : State} (h : SameSetting s s') : SameSetting s' s :=
  ⟨h.root.symm, h.atomic.symm, h.dryRun.symm, h.umask.symm, h.directory.symm⟩

theorem SameSetting.trans {s s' s'' : State} (h : SameSetting s s') (h' : SameSetting s' s'') :
    SameSetting s s'' where
  root := h'.root.trans h.root
  atomic := h'.atomic.trans h.atomic
  dryRun := h'.dryRun.trans h.dryRun
  umask := h'.umask.trans h.umask
  directory := h'.directory.trans h.directory

theorem sameSetting_turns (s : State) (as : List Artifact) : SameSetting s (as.foldl turn s) := by
  induction as generalizing s with
  | nil => exact .refl s
  | cons a rest ih =>
    rw [List.foldl_cons]
    exact (turn_cases s a).1.trans (ih (turn s a))

/-! ## Where paths lead -/

/-- The path of an artifact leads to a place. -/
def Reaches (s : State) (a : Artifact) (l : Location) : Prop :=
  s.2.files.locate s.2.directory (s.1.target a) = .ok l

/-- No turn makes a path lead elsewhere: directories stay directories and files stay files. -/
theorem turn_upholds (s : State) (a : Artifact) :
    Tree.Upholds s.2.files (turn s a).2.files := by
  obtain ⟨-, ⟨-, hgrows, -⟩ | ⟨-, made, hwriting⟩⟩ := turn_cases s a
  · exact hgrows.upholds
  · rw [hwriting.set]
    exact hwriting.grows.upholds.trans (Tree.Upholds.set_file _ _ hwriting.notDirectory)

theorem Reaches.after_turn (h : Reaches s b l) (a : Artifact) : Reaches (turn s a) b l := by
  have hset := (turn_cases s a).1
  unfold Reaches at h ⊢
  rw [hset.directory, hset.target]
  exact (turn_upholds s a).locate h

theorem Reaches.after_turns (h : Reaches s b l) (as : List Artifact) :
    Reaches (as.foldl turn s) b l := by
  induction as generalizing s with
  | nil => exact h
  | cons a rest ih =>
    rw [List.foldl_cons]
    have hturn := h.after_turn a
    exact ih hturn

/-- The path of an artifact that has been written leads to the place that was written. -/
theorem reaches_of_written (h : written? s a = some l) : Reaches (turn s a) a l := by
  obtain ⟨hset, ⟨hn, -⟩ | ⟨hplace, made, hwriting⟩⟩ := turn_cases s a
  · rw [hn] at h; cases h
  · rw [hplace] at h
    cases h
    obtain ⟨above, name, hp⟩ := hwriting.named
    have hroot := hwriting.ne_root
    have hup := Tree.Upholds.set_file (writtenMode s.1.atomic s.2.umask
      (made.lookup ((s.1.target a).place s.2.directory))) (Text.Utf8.encode a.content)
      hwriting.notDirectory
    unfold Reaches
    rw [hset.directory, hset.target, hwriting.set]
    rw [← Tree.place_of_parentAndName hp] at hup hroot ⊢
    exact Tree.locate_named hp hup (by rw [Tree.lookup_set _ _ hroot, if_pos rfl]; simp)

/-! ## The places that are written to -/

/-- Some turn writes to a place. -/
def WrittenIn (s : State) (as : List Artifact) (l : Location) : Prop :=
  ∃ before a after, as = before ++ a :: after ∧ written? (before.foldl turn s) a = some l

theorem writtenIn_cons {rest : List Artifact} :
    WrittenIn s (a :: rest) l ↔ written? s a = some l ∨ WrittenIn (turn s a) rest l :=
  exists_turn_cons (P := fun s a => written? s a = some l)

/-- In the end the path of an artifact that was written leads where it was written. -/
theorem reaches_of_written_turn {before : List Artifact}
    (h : written? (before.foldl turn s) a = some l) (after : List Artifact) :
    Reaches ((before ++ a :: after).foldl turn s) a l := by
  rw [List.foldl_append, List.foldl_cons]
  exact (reaches_of_written h).after_turns after

/-- A place that no turn writes to has the file that it had before. -/
theorem fileAt_turns (h : ¬ WrittenIn s as l) :
    (as.foldl turn s).2.files.fileAt? l = s.2.files.fileAt? l := by
  induction as generalizing s with
  | nil => rfl
  | cons a rest ih =>
    rw [writtenIn_cons, not_or] at h
    rw [List.foldl_cons, ih h.2, fileAt_turn, if_neg h.1]

/-- A place that no artifact's path leads to in the end has the file that it had before. -/
theorem fileAt_turns_of_unreached (h : ∀ a ∈ as, ¬ Reaches (as.foldl turn s) a l) :
    (as.foldl turn s).2.files.fileAt? l = s.2.files.fileAt? l := by
  refine fileAt_turns ?_
  rintro ⟨before, a, after, rfl, hwritten⟩
  exact h a (by simp) (reaches_of_written_turn hwritten after)

/-! ## New files -/

/-- The file at a place, if there is one, has the mode of a new file. -/
def FreshAt (s : State) (l : Location) : Prop :=
  ∀ mode content, s.2.files.fileAt? l = some (mode, content) → mode = Tree.newFileMode s.2.umask

theorem FreshAt.after_turn (h : FreshAt s l) (a : Artifact) : FreshAt (turn s a) l := by
  intro mode content hl
  rw [(turn_cases s a).1.umask]
  rw [fileAt_turn] at hl
  split at hl
  · -- The mode before was that of a new file, or there was no file.
    have hbefore : ((s.2.files.fileAt? l).map Prod.fst).getD (Tree.newFileMode s.2.umask) =
        Tree.newFileMode s.2.umask := by
      cases hfound : s.2.files.fileAt? l with
      | none => rfl
      | some found => exact h found.1 found.2 hfound
    rw [hbefore] at hl
    cases hl
    unfold Exporter.modeOver
    split <;> rfl
  · exact h mode content hl

theorem FreshAt.after_turns (h : FreshAt s l) (as : List Artifact) :
    FreshAt (as.foldl turn s) l := by
  induction as generalizing s with
  | nil => exact h
  | cons a rest ih =>
    rw [List.foldl_cons]
    have hturn := h.after_turn a
    exact ih hturn

/-- A file that was not there before the turns has the mode of a new file. -/
theorem mode_turns {mode : Nat} {content : ByteArray} (hnew : s.2.files.fileAt? l = none)
    (h : (as.foldl turn s).2.files.fileAt? l = some (mode, content)) :
    mode = Tree.newFileMode s.2.umask := by
  have hfresh : FreshAt s l := by
    intro mode content hl
    rw [hnew] at hl
    cases hl
  rw [← (sameSetting_turns s as).umask]
  exact hfresh.after_turns as mode content h

/-- A place at which there is a file never is without one again. -/
theorem file_turns (h : s.2.files.fileAt? l ≠ none) (as : List Artifact) :
    (as.foldl turn s).2.files.fileAt? l ≠ none := by
  induction as generalizing s with
  | nil => exact h
  | cons a rest ih =>
    rw [List.foldl_cons]
    refine ih ?_
    rw [fileAt_turn]
    split
    · simp
    · exact h

/-- Where an artifact was written there is a file in the end, and it has the content of the artifact if no
later artifact's path leads there. -/
theorem file_of_written_turn {before : List Artifact}
    (h : written? (before.foldl turn s) a = some l) (after : List Artifact) :
    ∃ mode content,
      ((before ++ a :: after).foldl turn s).2.files.fileAt? l = some (mode, content) ∧
      ((∀ b ∈ after, ¬ Reaches ((before ++ a :: after).foldl turn s) b l) →
        content = Text.Utf8.encode a.content) := by
  have hturn := fileAt_turn (before.foldl turn s) a l
  rw [if_pos h] at hturn
  rw [List.foldl_append, List.foldl_cons]
  have hthere : (turn (before.foldl turn s) a).2.files.fileAt? l ≠ none := by rw [hturn]; simp
  obtain ⟨⟨mode, content⟩, hfile⟩ := Option.ne_none_iff_exists'.mp (file_turns hthere after)
  refine ⟨mode, content, hfile, fun hlater => ?_⟩
  have hlast := fileAt_turns_of_unreached hlater
  rw [hfile, hturn] at hlast
  exact (Prod.mk.inj (Option.some.inj hlast)).2

/-! ## The whole export -/

/-- What an export that is no dry run leaves of a state. -/
structure Clean (s : State) (as : List Artifact) (s' : State) : Prop where
  /-- The path of a created artifact leads to a file: with its content if no other artifact's path leads
  there, and with the mode of a new file if there was no file. -/
  created : ∀ before a after, as = before ++ a :: after →
    fate (before.foldl turn s) a = .created →
    ∃ l mode content, Reaches s' a l ∧ s'.2.files.lookup l = some (.file mode content) ∧
      ((∀ b ∈ before ++ after, ¬ Reaches s' b l) → content = Text.Utf8.encode a.content) ∧
      (s.2.files.fileAt? l = none → mode = Tree.newFileMode s.2.umask)
  /-- The path of a created artifact leads to every file that was not there: none of them is a draft
  that was left. -/
  added : ∀ l, s.2.files.fileAt? l = none → s'.2.files.fileAt? l ≠ none →
    ∃ before a after, as = before ++ a :: after ∧
      fate (before.foldl turn s) a = .created ∧ Reaches s' a l
  /-- A file to which no artifact's path leads is as before. -/
  kept : ∀ l mode content, s.2.files.lookup l = some (.file mode content) →
    (∀ a ∈ as, ¬ Reaches s' a l) → s'.2.files.lookup l = some (.file mode content)
  /-- The mask is as before. -/
  umask : s'.2.umask = s.2.umask

/-- A turn that creates its artifact writes it, unless the export is a dry run. -/
theorem written_iff (hdry : s.1.dryRun = false) :
    written? s a = some l ↔
      fate s a = .created ∧ l = (s.1.target a).place s.2.directory := by
  unfold written?
  split
  · rename_i h; simp [h.2, eq_comm]
  · rename_i h
    have hfate : fate s a ≠ .created := fun hf => h ⟨hdry, hf⟩
    simp [hfate]

theorem clean_turns (as : List Artifact) (hdry : s.1.dryRun = false) :
    Clean s as (as.foldl turn s) where
  created := by
    rintro before a after rfl hfate
    have hwritten := (written_iff ((sameSetting_turns s before).dryRun.trans hdry)).mpr ⟨hfate, rfl⟩
    obtain ⟨mode, content, hfile, hcontent⟩ := file_of_written_turn hwritten after
    refine ⟨_, mode, content, reaches_of_written_turn hwritten after,
      Tree.fileAt?_eq_some_iff.mp hfile, fun hothers => ?_, fun hnew => mode_turns hnew hfile⟩
    exact hcontent fun b hb => hothers b (List.mem_append_right before hb)
  added := by
    intro l hnone hfile
    apply Classical.byContradiction
    intro hno
    refine hfile ?_
    rw [fileAt_turns, hnone]
    rintro ⟨before, a, after, rfl, hwritten⟩
    have hfate := (written_iff ((sameSetting_turns s before).dryRun.trans hdry)).mp hwritten
    exact hno ⟨before, a, after, rfl, hfate.1, reaches_of_written_turn hwritten after⟩
  kept := by
    intro l mode content hl hothers
    rw [← Tree.fileAt?_eq_some_iff] at hl ⊢
    rw [fileAt_turns_of_unreached hothers, hl]
  umask := (sameSetting_turns s as).umask

/-- An export that is no dry run and returns has accounted for every artifact and is clean. -/
theorem exportAll_clean {r : Result} (hdry : s.1.dryRun = false)
    (h : (exportAll as).run s = (.ok r, s')) :
    Accounted s.1 as (fates s as) r ∧ Clean s as s' := by
  have hruns : ¬ Halts s as := by
    intro hhalts
    obtain ⟨fault, notes, hfault⟩ := exportAll_halts hhalts
    rw [hfault] at h
    cases h
  obtain ⟨r', notes, hreturns, haccounted⟩ := exportAll_returns hruns
  rw [hreturns] at h
  cases h
  have hend : exported s as = as.foldl turn s := by rw [exported, forEach_exportOne hruns]
  have hclean := clean_turns as hdry
  rw [← hend] at hclean
  exact ⟨haccounted, hclean.created, hclean.added, hclean.kept, hclean.umask⟩

/-- A project with one file. -/
def oneFile : State :=
  ({ root := .ofLocation [] }, { files := ⟨[(["keep.txt"], .file 0o600 "mine".toUTF8)]⟩ })

/-- An artifact that is there already, one that would go below a file, and a new one. -/
def mixedArtifacts : List Artifact :=
  [⟨"model", "keep.txt", "other", "There"⟩, ⟨"model", "keep.txt/b.php", "b", "Blocked"⟩,
    ⟨"model", "a/b.php", "c", "New"⟩]

/-- One artifact is created, one is skipped and one fails. -/
theorem mixed_export_clean :
    ∃ r s', (exportAll mixedArtifacts).run oneFile = (.ok r, s') ∧
      (r.created, r.skipped, r.errors.length) = (["a/b.php"], ["keep.txt"], 1) ∧
      Clean oneFile mixedArtifacts s' := by
  have hlists : ((exportAll mixedArtifacts).run oneFile).1.toOption.map
      (fun r => (r.created, r.skipped, r.errors.length)) =
        some (["a/b.php"], ["keep.txt"], 1) := by
    decide +kernel
  cases hrun : (exportAll mixedArtifacts).run oneFile with
  | mk outcome s' =>
    rw [hrun] at hlists
    cases outcome with
    | error fault => cases hlists
    | ok r => exact ⟨r, s', rfl, Option.some.inj hlists, (exportAll_clean rfl hrun).2⟩

end Scaffold.Export
