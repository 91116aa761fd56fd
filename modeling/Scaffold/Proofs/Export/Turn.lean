import Scaffold.Proofs.Action
import Scaffold.Proofs.Files.Drafting

/-!
# One artifact's turn

An export gives every artifact one turn. A turn ends in one of three entries, or it stops the export.

* `Fate`, `fate`: what a turn makes of its artifact.
* `Stops`: the two causes for which a turn stops the whole export, said of the path and the tree.
* `exportOne_run`: a turn that does not stop makes exactly the entry of its fate.
* `exportOne_error_iff`: a turn ends with a fault exactly where it stops.
-/
namespace Scaffold.Export

open Files (Path Tree)

/-- What a turn makes of its artifact. -/
inductive Fate where
  | created
  | skipped
  | failed (failure : Files.Failure)
  deriving Repr, DecidableEq

/-- What the turn of an artifact makes of it. -/
def fate (s : State) (a : Artifact) : Fate :=
  match s.2.files.exists? s.2.directory (s.1.target a) with
  | .ok false =>
    if s.1.dryRun then .created
    else match (writeArtifact s.1 s.2 a).1 with
      | .ok () => .created
      | .error failure => .failed failure
  | _ => .skipped

/-- The exporter with one more entry. -/
def Exporter.entered (x : Exporter) (a : Artifact) : Fate → Exporter
  | .created => { x with
      records := x.records ++ [x.recordOf a], created := x.created ++ [a.relativePath] }
  | .skipped => { x with skipped := x.skipped ++ [a.relativePath] }
  | .failed failure => { x with errors := x.errors ++ [writeError a failure] }

/-- The path that a write opens first: the draft beside the target, or the target itself. -/
def openedPath (x : Exporter) (w : Workspace) (a : Artifact) : Path :=
  if x.atomic then Tree.draftPath w.directory (x.target a) else x.target a

/-- The turns that stop an export: the target is too long to look up, or it is to be written and a
null character stands in its directory, or in the path that is opened once the directory is made. -/
inductive Stops (s : State) (a : Artifact) : Prop where
  | tooLong : s.2.files.TooLong s.2.directory (s.1.target a) → Stops s a
  | nullCharacter :
      s.2.files.exists? s.2.directory (s.1.target a) = .ok false → s.1.dryRun = false →
      ((s.1.target a).parent.hasNull = true ∨
        (s.2.files.makeDirectories s.2.directory (s.1.target a).parent).1 = .ok () ∧
          (openedPath s.1 s.2 a).hasNull = true) →
      Stops s a

/-- The state after the turn of an artifact. -/
def turn (s : State) (a : Artifact) : State := ((exportOne a).run s).2

/-! ## What a write reports -/

theorem write_null_iff {t : Tree} {directory : Files.Location} {umask : Nat} {p : Path}
    {content : ByteArray} :
    (∃ failure, t.write directory umask p content = .error failure ∧
      failure.problem = .nullCharacter) ↔ p.hasNull = true := by
  rw [← @Tree.parentAndName_null_iff t directory p]
  unfold Tree.write
  split
  · rename_i problem hp; rw [hp]; simp
  · rename_i hp; rw [hp]; simp
  · rename_i l name hp
    rw [hp]
    split <;> simp

theorem writeAt_null_iff {x : Exporter} {w : Workspace} {a : Artifact} {content : ByteArray}
    (hn : (x.target a).parent.hasNull = false) :
    (∃ failure, (writeAt x.atomic w (x.target a) content).1 = .error failure ∧
      failure.problem = .nullCharacter) ↔ (openedPath x w a).hasNull = true := by
  unfold writeAt openedPath
  cases x.atomic with
  | true =>
    simp only [if_true]
    exact Files.Process.replace_null_iff hn
  | false =>
    simp only [Bool.false_eq_true, if_false]
    rw [← @write_null_iff w.files w.directory w.umask (x.target a) content]
    cases w.files.write w.directory w.umask (x.target a) content with
    | error failure => simp
    | ok t => simp

theorem writeArtifact_of_failed {x : Exporter} {w : Workspace} {a : Artifact} {t : Tree}
    {failure : Files.Failure}
    (h : w.files.makeDirectories w.directory (x.target a).parent = (.error failure, t)) :
    writeArtifact x w a = (.error failure, { w with files := t }) := by
  unfold writeArtifact; simp only [h]

theorem writeArtifact_of_made {x : Exporter} {w : Workspace} {a : Artifact} {t : Tree}
    (h : w.files.makeDirectories w.directory (x.target a).parent = (.ok (), t)) :
    writeArtifact x w a =
      writeAt x.atomic { w with files := t } (x.target a) (Text.Utf8.encode a.content) := by
  unfold writeArtifact; simp only [h]

/-- A write that is tried reports a null character exactly where a turn stops for one. -/
theorem writeArtifact_null_iff {x : Exporter} {w : Workspace} {a : Artifact} :
    (∃ failure, (writeArtifact x w a).1 = .error failure ∧ failure.problem = .nullCharacter) ↔
      (x.target a).parent.hasNull = true ∨
        (w.files.makeDirectories w.directory (x.target a).parent).1 = .ok () ∧
          (openedPath x w a).hasNull = true := by
  have hmake := @Tree.makeDirectories_null_iff w.files w.directory (x.target a).parent
  cases hm : w.files.makeDirectories w.directory (x.target a).parent with
  | mk made t =>
    rw [hm] at hmake
    cases made with
    | error failure =>
      rw [writeArtifact_of_failed hm]
      simpa using hmake
    | ok u =>
      cases hn : (x.target a).parent.hasNull with
      | true => rw [hn] at hmake; simp at hmake
      | false =>
        have hwrite := @writeAt_null_iff x { w with files := t } a (Text.Utf8.encode a.content) hn
        simp only [Bool.false_eq_true, true_and, false_or]
        rw [writeArtifact_of_made hm]
        exact hwrite

/-! ## The turn -/

theorem tell_run (level : Level) (message : String) (x : Exporter) (w : Workspace) :
    (tell level message).run (x, w) = (.ok (), (x, w.told [⟨level, .exporter, message⟩])) := rfl

theorem skip_run (a : Artifact) (s : State) :
    ∃ notes, (skip a).run s = (.ok (), (s.1.entered a .skipped, s.2.told notes)) := by
  unfold skip
  rw [Action.run_bind_ok (Action.run_modify _ s), tell_run]
  exact ⟨_, rfl⟩

theorem accept_run (a : Artifact) (s : State) :
    ∃ notes, (accept a).run s = (.ok (), (s.1.entered a .created, s.2.told notes)) := by
  unfold accept
  rw [Action.run_bind_ok (Action.run_modify _ s), tell_run]
  exact ⟨_, rfl⟩

theorem reject_run (a : Artifact) (s : State) {failure : Files.Failure}
    (h : failure.problem ≠ .nullCharacter) :
    ∃ notes, (reject a failure).run s =
      (.ok (), (s.1.entered a (.failed failure), s.2.told notes)) := by
  unfold reject
  rw [if_neg h, Action.run_bind_ok (Action.run_modify _ s), tell_run]
  exact ⟨_, rfl⟩

theorem reject_of_null (a : Artifact) (s : State) {failure : Files.Failure}
    (h : failure.problem = .nullCharacter) :
    (reject a failure).run s = (.error (.file failure), s) := by
  unfold reject
  rw [if_pos h]
  rfl

/-- All that a turn can do. A write that fails leaves the directories made for it. -/
theorem exportOne_cases (s : State) (a : Artifact) :
    (s.2.files.TooLong s.2.directory (s.1.target a) ∧
      (exportOne a).run s =
        (.error (.file ⟨.nameTooLong, (s.1.target a).text, none⟩), s)) ∨
    (s.2.files.exists? s.2.directory (s.1.target a) = .ok true ∧ (exportOne a).run s = (skip a).run s) ∨
    (s.2.files.exists? s.2.directory (s.1.target a) = .ok false ∧ s.1.dryRun = true ∧
      (exportOne a).run s = (accept a).run s) ∨
    (s.2.files.exists? s.2.directory (s.1.target a) = .ok false ∧ s.1.dryRun = false ∧
      ∃ w', (writeArtifact s.1 s.2 a = (.ok (), w') ∧ (exportOne a).run s = (accept a).run (s.1, w')) ∨
        ∃ failure, writeArtifact s.1 s.2 a = (.error failure, w') ∧
          (exportOne a).run s = (reject a failure).run (s.1, w')) := by
  unfold Action.run exportOne
  cases he : s.2.files.exists? s.2.directory (s.1.target a) with
  | error failure =>
    obtain ⟨hlong, rfl⟩ := Tree.leadsTo_error_iff.mp he
    exact Or.inl ⟨hlong, rfl⟩
  | ok found =>
    right
    cases found with
    | true => exact Or.inl ⟨rfl, rfl⟩
    | false =>
      right
      cases hdry : s.1.dryRun with
      | true => exact Or.inl ⟨rfl, rfl, by simp only [if_true]⟩
      | false =>
        refine Or.inr ⟨rfl, rfl, ?_⟩
        simp only [Bool.false_eq_true, if_false]
        cases hw : writeArtifact s.1 s.2 a with
        | mk outcome w' =>
          refine ⟨w', ?_⟩
          cases outcome with
          | ok u => exact Or.inl ⟨rfl, rfl⟩
          | error failure => exact Or.inr ⟨failure, rfl, rfl⟩

theorem fate_of_present {s : State} {a : Artifact}
    (he : s.2.files.exists? s.2.directory (s.1.target a) = .ok true) : fate s a = .skipped := by
  unfold fate; rw [he]

theorem fate_of_dryRun {s : State} {a : Artifact}
    (he : s.2.files.exists? s.2.directory (s.1.target a) = .ok false) (hdry : s.1.dryRun = true) :
    fate s a = .created := by
  unfold fate; rw [he]; simp only [hdry, if_true]

theorem fate_of_write {s : State} {a : Artifact}
    (he : s.2.files.exists? s.2.directory (s.1.target a) = .ok false) (hdry : s.1.dryRun = false) :
    fate s a = match (writeArtifact s.1 s.2 a).1 with
      | .ok () => .created
      | .error failure => .failed failure := by
  unfold fate; rw [he]; simp only [hdry, Bool.false_eq_true, if_false]

/-- A turn that does not stop makes exactly the entry of its fate. -/
theorem exportOne_run {s : State} {a : Artifact} (h : ¬ Stops s a) :
    ∃ w', (exportOne a).run s = (.ok (), (s.1.entered a (fate s a), w')) := by
  rcases exportOne_cases s a with ⟨hlong, -⟩ | ⟨he, hr⟩ | ⟨he, hdry, hr⟩ | ⟨he, hdry, w', hw⟩
  · exact absurd (Stops.tooLong hlong) h
  · obtain ⟨notes, hs⟩ := skip_run a s
    rw [hr, hs, fate_of_present he]
    exact ⟨_, rfl⟩
  · obtain ⟨notes, hs⟩ := accept_run a s
    rw [hr, hs, fate_of_dryRun he hdry]
    exact ⟨_, rfl⟩
  · rw [fate_of_write he hdry]
    rcases hw with ⟨hw, hr⟩ | ⟨failure, hw, hr⟩
    · obtain ⟨notes, hs⟩ := accept_run a (s.1, w')
      rw [hr, hs, hw]
      exact ⟨_, rfl⟩
    · have hn : failure.problem ≠ .nullCharacter := fun hn =>
        h (Stops.nullCharacter he hdry (writeArtifact_null_iff.mp ⟨failure, by rw [hw], hn⟩))
      obtain ⟨notes, hs⟩ := reject_run a (s.1, w') hn
      rw [hr, hs, hw]
      exact ⟨_, rfl⟩

/-- A turn that stops ends with a fault. -/
theorem exportOne_of_stops {s : State} {a : Artifact} (h : Stops s a) :
    ∃ failure s', (exportOne a).run s = (.error (.file failure), s') := by
  rcases exportOne_cases s a with ⟨-, hr⟩ | ⟨he, -⟩ | ⟨he, hdry, -⟩ | ⟨he, hdry, w', hw⟩
  · exact ⟨_, _, hr⟩
  all_goals
    cases h with
    | tooLong hlong =>
      have := Tree.leadsTo_eq_error (fun _ => true) hlong
      rw [Tree.exists?, this] at he
      cases he
    | nullCharacter he' hdry' hnull => ?_
  · rw [he] at he'; cases he'
  · rw [hdry] at hdry'; cases hdry'
  · obtain ⟨failure, hf, hn⟩ := writeArtifact_null_iff.mpr hnull
    rcases hw with ⟨hw, -⟩ | ⟨failure', hw, hr⟩
    · rw [hw] at hf; cases hf
    · rw [hw] at hf; cases hf
      exact ⟨failure, (s.1, w'), by rw [hr, reject_of_null a _ hn]⟩

/-- A turn ends with a fault exactly where it stops. -/
theorem exportOne_error_iff {s : State} {a : Artifact} :
    (∃ fault s', (exportOne a).run s = (.error fault, s')) ↔ Stops s a := by
  constructor
  · rintro ⟨fault, s', hr⟩
    apply Classical.byContradiction
    intro h
    obtain ⟨w', hr'⟩ := exportOne_run h
    rw [hr'] at hr
    cases hr
  · intro h
    obtain ⟨failure, s', hr⟩ := exportOne_of_stops h
    exact ⟨_, s', hr⟩

/-! ## The journal does not count -/

/-- A state with another journal. -/
def retold (s : State) (journal : List Note) : State := (s.1, { s.2 with journal := journal })

@[simp] theorem retold_exporter (s : State) (journal : List Note) : (retold s journal).1 = s.1 := rfl

@[simp] theorem retold_files (s : State) (journal : List Note) :
    (retold s journal).2.files = s.2.files := rfl

@[simp] theorem retold_directory (s : State) (journal : List Note) :
    (retold s journal).2.directory = s.2.directory := rfl

theorem writeAt_retold (atomic : Bool) (w : Workspace) (journal : List Note) (p : Path)
    (content : ByteArray) :
    writeAt atomic { w with journal := journal } p content =
      ((writeAt atomic w p content).1,
        { (writeAt atomic w p content).2 with journal := journal }) := by
  unfold writeAt
  cases atomic with
  | true => rfl
  | false =>
    simp only [Bool.false_eq_true, if_false]
    cases w.files.write w.directory w.umask p content <;> rfl

theorem writeArtifact_retold (x : Exporter) (w : Workspace) (journal : List Note) (a : Artifact) :
    writeArtifact x { w with journal := journal } a =
      ((writeArtifact x w a).1, { (writeArtifact x w a).2 with journal := journal }) := by
  cases hm : w.files.makeDirectories w.directory (x.target a).parent with
  | mk made t =>
    cases made with
    | error failure =>
      rw [writeArtifact_of_failed hm, @writeArtifact_of_failed x { w with journal := journal } a t
        failure hm]
    | ok u =>
      rw [writeArtifact_of_made hm, @writeArtifact_of_made x { w with journal := journal } a t hm]
      exact writeAt_retold x.atomic { w with files := t } journal _ _

theorem skip_retold (s : State) (journal : List Note) (a : Artifact) :
    ∃ journal', (skip a).run (retold s journal) =
      (((skip a).run s).1, retold ((skip a).run s).2 journal') := ⟨_, rfl⟩

theorem accept_retold (s : State) (journal : List Note) (a : Artifact) :
    ∃ journal', (accept a).run (retold s journal) =
      (((accept a).run s).1, retold ((accept a).run s).2 journal') := ⟨_, rfl⟩

theorem reject_retold (s : State) (journal : List Note) (a : Artifact) (failure : Files.Failure) :
    ∃ journal', (reject a failure).run (retold s journal) =
      (((reject a failure).run s).1, retold ((reject a failure).run s).2 journal') := by
  unfold reject
  split
  · exact ⟨_, rfl⟩
  · exact ⟨_, rfl⟩

/-- A turn does the same whatever the journal says. -/
theorem exportOne_retold (s : State) (journal : List Note) (a : Artifact) :
    ∃ journal', (exportOne a).run (retold s journal) =
      (((exportOne a).run s).1, retold ((exportOne a).run s).2 journal') := by
  unfold Action.run exportOne
  rw [retold_files, retold_directory, retold_exporter]
  cases s.2.files.exists? s.2.directory (s.1.target a) with
  | error failure => exact ⟨journal, rfl⟩
  | ok found =>
    cases found with
    | true => exact skip_retold s journal a
    | false =>
      cases hdry : s.1.dryRun with
      | true => exact accept_retold s journal a
      | false =>
        simp only [Bool.false_eq_true, if_false]
        have hwrite : writeArtifact s.1 (retold s journal).2 a =
            ((writeArtifact s.1 s.2 a).1,
              { (writeArtifact s.1 s.2 a).2 with journal := journal }) :=
          writeArtifact_retold s.1 s.2 journal a
        rw [hwrite]
        cases writeArtifact s.1 s.2 a with
        | mk outcome w' =>
          cases outcome with
          | ok u => exact accept_retold (s.1, w') journal a
          | error failure => exact reject_retold (s.1, w') journal a failure

theorem turn_retold (s : State) (journal : List Note) (a : Artifact) :
    ∃ journal', turn (retold s journal) a = retold (turn s a) journal' := by
  obtain ⟨journal', h⟩ := exportOne_retold s journal a
  exact ⟨journal', by rw [turn, h, turn]⟩

theorem outcome_retold (s : State) (journal : List Note) (a : Artifact) :
    ((exportOne a).run (retold s journal)).1 = ((exportOne a).run s).1 := by
  obtain ⟨journal', h⟩ := exportOne_retold s journal a
  rw [h]

theorem fate_retold (s : State) (journal : List Note) (a : Artifact) :
    fate (retold s journal) a = fate s a := by
  have hwrite : writeArtifact s.1 (retold s journal).2 a =
      ((writeArtifact s.1 s.2 a).1, { (writeArtifact s.1 s.2 a).2 with journal := journal }) :=
    writeArtifact_retold s.1 s.2 journal a
  unfold fate
  rw [retold_exporter, retold_files, retold_directory, hwrite]

theorem stops_retold {s : State} {journal : List Note} {a : Artifact} :
    Stops (retold s journal) a ↔ Stops s a := by
  rw [← exportOne_error_iff, ← exportOne_error_iff]
  obtain ⟨journal', h⟩ := exportOne_retold s journal a
  rw [h]
  constructor
  · rintro ⟨fault, s', hr⟩
    exact ⟨fault, ((exportOne a).run s).2, by rw [← (Prod.mk.inj hr).1]⟩
  · rintro ⟨fault, s', hr⟩
    exact ⟨fault, retold s' journal', by rw [hr]⟩

end Scaffold.Export
