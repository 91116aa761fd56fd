import Scaffold.Proofs.Export.Afresh
import Scaffold.Proofs.Export.Clean
import Scaffold.Proofs.Files.Refusal

/-!
# Exporting twice

An export leaves a tree in which every one of its artifacts is either there or cannot be written, and
both stay so. A second export of the same artifacts finds them in this state and has nothing left to do.

* `files_turn`: a turn changes the files only by writing where its path leads nowhere.
* `idle_after`: once an artifact has had its turn, a later turn of it changes no file.
* `exported_of_idle`: an export of which every turn is idle changes no file.
* `exportAfresh_idempotent`: exporting the same artifacts again changes no file, and skips all of them
  if there was no error.
-/
namespace Scaffold.Export

open Files (Path Tree Location Node)

variable {s s' u v : State} {a : Artifact} {as : List Artifact} {root : Path} {atomic : Bool}

/-! ## What a turn changes of the files -/

theorem writeArtifact_draws (x : Exporter) (w : Workspace) (a : Artifact) :
    (writeArtifact x w a).2.draws = w.draws := by
  cases hm : w.files.makeDirectories w.directory (x.target a).parent with
  | mk made t =>
    cases made with
    | error failure => rw [writeArtifact_of_failed hm]
    | ok u =>
      rw [writeArtifact_of_made hm]
      unfold writeAt
      split
      · rfl
      · split <;> rfl

/-- What is drawn for drafts stays the same. -/
theorem draws_turn (s : State) (a : Artifact) : (turn s a).2.draws = s.2.draws := by
  have hdraws := writeArtifact_draws s.1 s.2 a
  unfold turn
  rcases exportOne_cases s a with ⟨-, hr⟩ | ⟨-, hr⟩ | ⟨-, -, hr⟩ | ⟨-, -, w', ⟨hw, hr⟩ | ⟨f, hw, hr⟩⟩
  · rw [hr]
  · rw [hr]; rfl
  · rw [hr]; rfl
  · rw [hw] at hdraws; rw [hr]; exact hdraws
  · rw [hw] at hdraws
    rw [hr]
    unfold reject
    split <;> exact hdraws

/-- A turn whose path leads somewhere, or is refused, changes no file. -/
theorem files_turn_of_found (h : s.2.files.exists? s.2.directory (s.1.target a) ≠ .ok false) :
    (turn s a).2.files = s.2.files := by
  obtain ⟨x, w⟩ := s
  unfold turn
  rcases exportOne_cases (x, w) a with ⟨-, hr⟩ | ⟨-, hr⟩ | ⟨he, -⟩ | ⟨he, -⟩
  · rw [hr]
  · rw [hr]; rfl
  · exact absurd he h
  · exact absurd he h

/-- A turn whose path leads nowhere leaves the files that the write leaves. -/
theorem files_turn_of_missing (hdry : s.1.dryRun = false)
    (h : s.2.files.exists? s.2.directory (s.1.target a) = .ok false) :
    (turn s a).2.files = (writeArtifact s.1 s.2 a).2.files := by
  obtain ⟨x, w⟩ := s
  unfold turn
  rcases exportOne_cases (x, w) a with ⟨hlong, -⟩ | ⟨he, -⟩ | ⟨-, hdry', -⟩ |
    ⟨he, -, w', ⟨hw, hr⟩ | ⟨f, hw, hr⟩⟩
  · rw [Tree.exists?, Tree.leadsTo_eq_error (fun _ => true) hlong] at h; cases h
  · rw [he] at h; cases h
  · rw [hdry] at hdry'; cases hdry'
  · rw [hr, hw]; rfl
  · rw [hr, hw]
    unfold reject
    split <;> rfl

/-! ## One artifact's second turn -/

/-- A skipped artifact is there. -/
theorem exists_of_skipped (hruns : ¬ Stops s a) (h : fate s a = .skipped) :
    s.2.files.exists? s.2.directory (s.1.target a) = .ok true := by
  rcases exportOne_cases s a with ⟨hlong, -⟩ | ⟨he, -⟩ | ⟨he, hdry, -⟩ |
    ⟨he, hdry, w', ⟨hw, -⟩ | ⟨f, hw, -⟩⟩
  · exact absurd (.tooLong hlong) hruns
  · exact he
  · rw [fate_of_dryRun he hdry] at h; cases h
  · have hfate := fate_of_write he hdry
    rw [hw, h] at hfate
    cases hfate
  · have hfate := fate_of_write he hdry
    rw [hw, h] at hfate
    cases hfate

/-- A created artifact is there after its turn. -/
theorem exists_of_created (hdry : s.1.dryRun = false) (h : fate s a = .created) :
    (turn s a).2.files.exists? s.2.directory (s.1.target a) = .ok true := by
  have hwritten := (written_iff hdry).mpr ⟨h, rfl⟩
  have hreaches := reaches_of_written hwritten
  have hfile := fileAt_turn s a ((s.1.target a).place s.2.directory)
  rw [if_pos hwritten] at hfile
  have hset := (turn_cases s a).1
  unfold Reaches at hreaches
  rw [hset.directory, hset.target] at hreaches
  exact Tree.exists_eq_true_iff.mpr ⟨_, hreaches, by rw [Tree.fileAt?_eq_some_iff.mp hfile]; simp⟩

/-- A write that failed at a place whose directory is there changes no file later either. -/
theorem writeAt_again {atomic : Bool} {w w' later : Workspace} {p : Path} {content : ByteArray}
    {failure : Files.Failure} (habs : p.isAbsolute = true) (hn : p.hasNull = false)
    (hparent : w.files.isDirectory w.directory p.parent = .ok true)
    (hup : Tree.Upholds w.files later.files) (hdirectory : later.directory = w.directory)
    (humask : later.umask = w.umask) (hmiss : later.files.exists? w.directory p = .ok false)
    (hdraws : failure.problem = .noFreeName → later.draws p = w.draws p)
    (h : writeAt atomic w p content = (.error failure, w')) :
    (writeAt atomic later p content).2.files = later.files := by
  unfold writeAt at h ⊢
  cases atomic with
  | true =>
    simp only [if_true] at h ⊢
    cases hr : Files.Process.replace ⟨w.files, w.umask⟩ w.directory (w.draws p) p content with
    | mk outcome left =>
      rw [hr] at h
      cases h
      obtain ⟨failure', hagain⟩ :=
        Files.Process.replace_again habs hn hparent hup hmiss hdraws hr
      rw [hdirectory, humask, hagain]
  | false =>
    obtain ⟨above, name, hp, hfree⟩ :=
      Tree.free_of_missing habs hn hparent (hup.exists_false hmiss)
    obtain ⟨t, hwrite⟩ : ∃ t, w.files.write w.directory w.umask p content = .ok t :=
      Tree.write_of_free hp hfree
    simp only [Bool.false_eq_true, if_false, hwrite] at h
    cases h

/-- No null character stands in the path of an artifact whose directory was made and whose write failed for
another cause. -/
theorem no_null_of_failed {x : Exporter} {w w' : Workspace} {t : Tree} {failure : Files.Failure}
    (hm : w.files.makeDirectories w.directory (x.target a).parent = (.ok (), t))
    (h : writeArtifact x w a = (.error failure, w')) (hp : failure.problem ≠ .nullCharacter) :
    (x.target a).hasNull = false := by
  have hnone : ¬ ((x.target a).parent.hasNull = true ∨
      (w.files.makeDirectories w.directory (x.target a).parent).1 = .ok () ∧
        (openedPath x w a).hasNull = true) := by
    rw [← writeArtifact_null_iff, h]
    rintro ⟨failure', hf, hnull⟩
    cases hf
    exact hp hnull
  rw [not_or, hm] at hnone
  obtain ⟨hparent, hopened⟩ := hnone
  rw [Bool.not_eq_true] at hparent
  cases hnull : (x.target a).hasNull with
  | false => rfl
  | true =>
    refine absurd ⟨rfl, ?_⟩ hopened
    unfold openedPath
    split
    · exact Tree.hasNull_draftPath hparent hnull
    · exact hnull

/-- A write that failed fails later too and changes no file: the directories that it made are there. -/
theorem writeArtifact_again {x y : Exporter} {w w' later : Workspace} {failure : Files.Failure}
    (habs : (x.target a).isAbsolute = true) (htarget : y.target a = x.target a)
    (hatomic : y.atomic = x.atomic) (hdirectory : later.directory = w.directory)
    (humask : later.umask = w.umask) (hup : Tree.Upholds w'.files later.files)
    (hmiss : later.files.exists? w.directory (x.target a) = .ok false)
    (hdraws : failure.problem = .noFreeName → later.draws = w.draws)
    (hp : failure.problem ≠ .nullCharacter) (h : writeArtifact x w a = (.error failure, w')) :
    (writeArtifact y later a).2.files = later.files := by
  cases hm : w.files.makeDirectories w.directory (x.target a).parent with
  | mk made t =>
    cases made with
    | error failure' =>
      rw [writeArtifact_of_failed hm] at h
      cases h
      obtain ⟨failure', hagain⟩ :=
        Tree.makeDirectories_again (Tree.isAbsolute_parent habs) hm hup
      rw [← hdirectory, ← htarget] at hagain
      rw [writeArtifact_of_failed hagain]
    | ok u =>
      have hn := no_null_of_failed hm h hp
      have hnparent := Tree.no_null_of_makeDirectories hm
      rw [writeArtifact_of_made hm] at h
      cases writeAt_error hnparent h
      have hparent := Tree.isDirectory_of_makeDirectories hm
      have hagain := writeAt_again (w := { w with files := t }) habs hn hparent hup hdirectory humask
        hmiss (fun hfree => congrFun (hdraws hfree) (x.target a)) h
      have hthere := Tree.makeDirectories_of_isDirectory (hup.isDirectory hparent)
      rw [← hdirectory, ← htarget] at hthere
      rw [← htarget, ← hatomic] at hagain
      rw [writeArtifact_of_made hthere, hagain]

/-- Once an artifact has had its turn, a later turn of it changes no file. -/
theorem idle_after (hdry : s.1.dryRun = false) (habs : (s.1.target a).isAbsolute = true)
    (hruns : ¬ Stops s a) (hset : SameSetting s u)
    (hup : Tree.Upholds (turn s a).2.files u.2.files)
    (hdraws : ∀ failure, fate s a = .failed failure → failure.problem = .noFreeName →
      u.2.draws = s.2.draws) :
    (turn u a).2.files = u.2.files := by
  by_cases hmiss : u.2.files.exists? u.2.directory (u.1.target a) = .ok false
  · rw [files_turn_of_missing (hset.dryRun.trans hdry) hmiss]
    rw [hset.directory, hset.target] at hmiss
    have hbefore := ((turn_upholds s a).trans hup).exists_false hmiss
    have hfate := fate_of_write hbefore hdry
    cases hw : writeArtifact s.1 s.2 a with
    | mk outcome w' =>
      rw [hw] at hfate
      cases outcome with
      | ok done =>
        rw [hup.exists_true (exists_of_created hdry hfate)] at hmiss
        cases hmiss
      | error failure =>
        have hp : failure.problem ≠ .nullCharacter := fun hnull => hruns
          (.nullCharacter hbefore hdry (writeArtifact_null_iff.mp ⟨failure, by rw [hw], hnull⟩))
        have hfiles := files_turn_of_missing hdry hbefore
        rw [hw] at hfiles
        rw [hfiles] at hup
        exact writeArtifact_again habs (hset.target a) hset.atomic hset.directory hset.umask hup
          hmiss (hdraws failure hfate) hp hw
  · exact files_turn_of_found hmiss

/-! ## An export of idle turns -/

/-- States from which turns do the same: the same files, and an exporter that writes to the same place in
the same way. What the exporters have entered and the journals say may differ. -/
structure SameWork (s s' : State) : Prop extends SameSetting s s' where
  files : s'.2.files = s.2.files
  draws : s'.2.draws = s.2.draws

theorem SameWork.turn (h : SameWork s u) (hidle : (turn u a).2.files = u.2.files) :
    SameWork s (turn u a) where
  toSameSetting := h.toSameSetting.trans (turn_cases u a).1
  files := hidle.trans h.files
  draws := (draws_turn u a).trans h.draws

/-- An export of which every turn is idle changes no file. -/
theorem exported_of_idle (hidle : ∀ v, SameWork s v → ∀ a ∈ as, (turn v a).2.files = v.2.files)
    (h : SameWork s u) : SameWork s (exported u as) := by
  induction as generalizing u with
  | nil => exact h
  | cons a rest ih =>
    have hturn := h.turn (hidle u h a List.mem_cons_self)
    rw [exported_cons]
    split
    · exact ih (fun v hv b hb => hidle v hv b (List.mem_cons_of_mem a hb)) hturn
    · exact hturn

theorem not_stops_of_present
    (h : s.2.files.exists? s.2.directory (s.1.target a) = .ok true) : ¬ Stops s a := by
  rintro (hlong | ⟨hmiss, -⟩)
  · rw [Tree.exists?, Tree.leadsTo_eq_error _ hlong] at h; cases h
  · rw [hmiss] at h; cases h

/-- An export of artifacts that are all there skips them all. -/
theorem fates_of_present
    (hthere : ∀ a ∈ as, s.2.files.exists? s.2.directory (s.1.target a) = .ok true)
    (h : SameWork s u) : ¬ Halts u as ∧ fates u as = as.map fun _ => .skipped := by
  induction as generalizing u with
  | nil => exact ⟨not_halts_nil u, rfl⟩
  | cons a rest ih =>
    have hpresent : u.2.files.exists? u.2.directory (u.1.target a) = .ok true := by
      rw [h.files, h.directory, h.target]
      exact hthere a List.mem_cons_self
    have hidle : (turn u a).2.files = u.2.files := files_turn_of_found (by rw [hpresent]; simp)
    obtain ⟨hruns, hfates⟩ := ih (fun b hb => hthere b (List.mem_cons_of_mem a hb)) (h.turn hidle)
    refine ⟨?_, ?_⟩
    · rw [halts_cons, not_or]
      exact ⟨not_stops_of_present hpresent, hruns⟩
    · rw [fates, fate_of_present hpresent, hfates, List.map_cons]

theorem entries_of_skipped (as : List Artifact) :
    (as.zip (as.map fun _ => Fate.skipped)).filterMap createdEntry = [] ∧
      (as.zip (as.map fun _ => Fate.skipped)).filterMap skippedEntry = as.map (·.relativePath) ∧
      (as.zip (as.map fun _ => Fate.skipped)).filterMap errorEntry = [] := by
  induction as with
  | nil => exact ⟨rfl, rfl, rfl⟩
  | cons a rest ih =>
    obtain ⟨hcreated, hskipped, herrors⟩ := ih
    have hentry : skippedEntry (a, .skipped) = some a.relativePath := rfl
    refine ⟨?_, ?_, ?_⟩
    · rw [List.map_cons, List.zip_cons_cons, List.filterMap_cons_none rfl, hcreated]
    · rw [List.map_cons, List.zip_cons_cons, List.filterMap_cons_some hentry, hskipped, List.map_cons]
    · rw [List.map_cons, List.zip_cons_cons, List.filterMap_cons_none rfl, herrors]

/-! ## The second export -/

theorem turns_uphold (s : State) (as : List Artifact) :
    Tree.Upholds s.2.files (as.foldl turn s).2.files := by
  induction as generalizing s with
  | nil => exact .refl _
  | cons a rest ih => rw [List.foldl_cons]; exact (turn_upholds s a).trans (ih (turn s a))

theorem draws_turns (s : State) (as : List Artifact) : (as.foldl turn s).2.draws = s.2.draws := by
  induction as generalizing s with
  | nil => rfl
  | cons a rest ih => rw [List.foldl_cons, ih, draws_turn]

/-- The fate of every artifact is among the fates, with its artifact. -/
theorem mem_zip_fates (s : State) (before : List Artifact) (a : Artifact) (after : List Artifact) :
    (a, fate (before.foldl turn s) a) ∈
      (before ++ a :: after).zip (fates s (before ++ a :: after)) := by
  induction before generalizing s with
  | nil => exact List.mem_cons_self
  | cons b before ih =>
    rw [List.cons_append, fates, List.zip_cons_cons, List.foldl_cons]
    exact List.mem_cons_of_mem _ (ih (turn s b))

theorem target_isAbsolute {x : Exporter} (h : x.root.isAbsolute = true) (a : Artifact) :
    (x.target a).isAbsolute = true := by
  unfold Exporter.target Path.join Path.append
  split
  · assumption
  · exact h

/-- After an export every later turn of its artifacts is idle. -/
theorem idle_after_turns (hdry : s.1.dryRun = false) (habs : s.1.root.isAbsolute = true)
    (hruns : ¬ Halts s as) (hset : SameSetting s u)
    (hfiles : u.2.files = (as.foldl turn s).2.files)
    (hdraws : ∀ failure, .failed failure ∈ fates s as → failure.problem = .noFreeName →
      u.2.draws = s.2.draws) :
    ∀ a ∈ as, (turn u a).2.files = u.2.files := by
  intro a ha
  obtain ⟨before, after, rfl⟩ := List.append_of_mem ha
  have hsofar := sameSetting_turns s before
  have hroot : (before.foldl turn s).1.root.isAbsolute = true := by rw [hsofar.root]; exact habs
  refine idle_after (hsofar.dryRun.trans hdry) (target_isAbsolute hroot a)
    (fun hstops => hruns ⟨before, a, after, rfl, hstops⟩) (hsofar.symm.trans hset) ?_ ?_
  · rw [hfiles, List.foldl_append, List.foldl_cons]
    exact turns_uphold _ after
  · intro failure hfate hfree
    have hmem := (List.of_mem_zip (mem_zip_fates s before a after)).2
    rw [hfate] at hmem
    rw [draws_turns, hdraws failure hmem hfree]

/-- After an export without errors every artifact is there. -/
theorem present_after_turns (hdry : s.1.dryRun = false) (hruns : ¬ Halts s as)
    (hclean : (as.zip (fates s as)).filterMap errorEntry = []) :
    ∀ a ∈ as, (as.foldl turn s).2.files.exists? s.2.directory (s.1.target a) = .ok true := by
  intro a ha
  obtain ⟨before, after, rfl⟩ := List.append_of_mem ha
  have hsofar := sameSetting_turns s before
  have hthere : (turn (before.foldl turn s) a).2.files.exists? s.2.directory (s.1.target a) =
      .ok true := by
    rw [← hsofar.directory, ← hsofar.target]
    cases hfate : fate (before.foldl turn s) a with
    | created => exact exists_of_created (hsofar.dryRun.trans hdry) hfate
    | skipped =>
      have hpresent := exists_of_skipped (fun hstops => hruns ⟨before, a, after, rfl, hstops⟩) hfate
      exact (turn_upholds _ a).exists_true hpresent
    | failed failure =>
      have hmem := mem_zip_fates s before a after
      rw [hfate] at hmem
      have hnone := List.filterMap_eq_nil_iff.mp hclean _ hmem
      cases hnone
  rw [List.foldl_append, List.foldl_cons]
  exact (turns_uphold _ after).exists_true hthere

/-- After an export another one of the same artifacts does no work, and skips all of them if there was no
error. -/
theorem exported_again (hdry : s.1.dryRun = false) (habs : s.1.root.isAbsolute = true)
    (hruns : ¬ Halts s as) (hset : SameSetting s u)
    (hfiles : u.2.files = (as.foldl turn s).2.files)
    (hdraws : ∀ failure, .failed failure ∈ fates s as → failure.problem = .noFreeName →
      u.2.draws = s.2.draws) :
    SameWork u (exported u as) ∧
      ((as.zip (fates s as)).filterMap errorEntry = [] →
        ¬ Halts u as ∧ fates u as = as.map fun _ => .skipped) := by
  have hrefl : SameWork u u := ⟨.refl u, rfl, rfl⟩
  constructor
  · refine exported_of_idle (fun v hv => ?_) hrefl
    refine idle_after_turns hdry habs hruns (hset.trans hv.toSameSetting) (hv.files.trans hfiles) ?_
    intro failure hfate hfree
    exact hv.draws.trans (hdraws failure hfate hfree)
  · intro hclean
    refine fates_of_present (fun a ha => ?_) hrefl
    rw [hfiles, hset.directory, hset.target]
    exact present_after_turns hdry hruns hclean a ha

/-- An export that returned came to no turn that stopped it, and left what its turns left. -/
theorem turns_of_exportAfresh {dryRun : Bool} {r : Result} {w w' : Workspace}
    (h : (exportAfresh root dryRun atomic as).run w = (.ok r, w')) :
    root.hasNull = false ∧ ¬ Halts (beginning root dryRun atomic w) as ∧
      r.errors = (as.zip (fates (beginning root dryRun atomic w) as)).filterMap errorEntry ∧
      ∃ journal,
        w' = { (as.foldl turn (beginning root dryRun atomic w)).2 with journal := journal } := by
  have hnull : root.hasNull = false := by
    cases hnull : root.hasNull with
    | false => rfl
    | true =>
      obtain ⟨fault, hfault⟩ := @exportAfresh_of_null root dryRun atomic as w hnull
      rw [hfault] at h
      cases h
  have hruns : ¬ Halts (beginning root dryRun atomic w) as := by
    intro hhalts
    obtain ⟨fault, journal, hfault⟩ := exportAfresh_halts hnull hhalts []
    rw [Workspace.told_nil, h] at hfault
    cases hfault
  obtain ⟨r', journal, hreturns, haccounted⟩ := exportAfresh_returns hnull hruns []
  rw [Workspace.told_nil, h, exported, forEach_exportOne hruns] at hreturns
  cases hreturns
  exact ⟨hnull, hruns, haccounted.errors, journal, rfl⟩

/-- Where an export that was no dry run returned, exporting the same artifacts again changes no file and not
the mask, whether it returns or not; and if the first export had no errors, the second returns and skips
every artifact. Other names may be drawn for drafts the second time, unless an artifact failed because
every name that was drawn for it was taken. -/
theorem exportAfresh_idempotent {r : Result} {w w' later : Workspace}
    (h : (exportAfresh root false atomic as).run w = (.ok r, w'))
    (hfiles : later.files = w'.files) (humask : later.umask = w'.umask)
    (hdirectory : later.directory = w'.directory)
    (hdraws : ∀ failure, .failed failure ∈ fates (beginning root false atomic w) as →
      failure.problem = .noFreeName → later.draws = w'.draws) :
    ((exportAfresh root false atomic as).run later).2.files = later.files ∧
      ((exportAfresh root false atomic as).run later).2.umask = later.umask ∧
      (r.errors = [] → ∃ r' left, (exportAfresh root false atomic as).run later = (.ok r', left) ∧
        r'.created = [] ∧ r'.errors = [] ∧ r'.skipped = as.map (·.relativePath)) := by
  obtain ⟨hnull, hruns, herrors, journal, rfl⟩ := turns_of_exportAfresh h
  have hturns := sameSetting_turns (beginning root false atomic w) as
  have hstart : later.directory = w.directory := hdirectory.trans hturns.directory
  have hset : SameSetting (beginning root false atomic w) (beginning root false atomic later) :=
    ⟨by rw [beginning, beginning, hstart], rfl, rfl, humask.trans hturns.umask, hstart⟩
  have hdrawn : ∀ failure, .failed failure ∈ fates (beginning root false atomic w) as →
      failure.problem = .noFreeName → later.draws = w.draws := fun failure hfate hfree =>
    (hdraws failure hfate hfree).trans (draws_turns (beginning root false atomic w) as)
  have habs : (beginning root false atomic w).1.root.isAbsolute = true := rfl
  obtain ⟨hleft, hskips⟩ := exported_again rfl habs hruns hset hfiles hdrawn
  obtain ⟨journal', hw⟩ := @exportAfresh_left root false atomic as hnull later
  rw [hw]
  refine ⟨hleft.files, hleft.umask, fun hnone => ?_⟩
  obtain ⟨hgoes, hfates⟩ := hskips (herrors.symm.trans hnone)
  obtain ⟨r', journal'', hreturns, haccounted⟩ := exportAfresh_returns hnull hgoes []
  obtain ⟨hcreated, hskipped, hfailed⟩ := entries_of_skipped as
  rw [Workspace.told_nil] at hreturns
  rw [hfates] at haccounted
  exact ⟨r', _, hreturns, haccounted.created.trans hcreated, haccounted.errors.trans hfailed,
    haccounted.skipped.trans hskipped⟩

/-- An artifact that is there already, a new one, and the new one once more. -/
def repeatedArtifacts : List Artifact :=
  [⟨"model", "keep.txt", "other", "There"⟩, ⟨"model", "a/b.php", "b", "New"⟩,
    ⟨"model", "a/../a/b.php", "c", "Again"⟩]

/-- The first export creates one artifact and skips the other two, and the second skips all three. -/
theorem repeated_export_idempotent :
    ∃ r w' r' left,
      (exportAfresh (.ofLocation []) false true repeatedArtifacts).run oneFile.2 = (.ok r, w') ∧
      (r.created, r.errors) = (["a/b.php"], []) ∧
      (exportAfresh (.ofLocation []) false true repeatedArtifacts).run w' = (.ok r', left) ∧
      r'.skipped = ["keep.txt", "a/b.php", "a/../a/b.php"] ∧ left.files = w'.files := by
  have hlists : ((exportAfresh (.ofLocation []) false true repeatedArtifacts).run
      oneFile.2).1.toOption.map (fun r => (r.created, r.errors)) = some (["a/b.php"], []) := by
    decide +kernel
  cases hrun : (exportAfresh (.ofLocation []) false true repeatedArtifacts).run oneFile.2 with
  | mk outcome w' =>
    rw [hrun] at hlists
    cases outcome with
    | error fault => cases hlists
    | ok r =>
      have hfirst := Option.some.inj hlists
      obtain ⟨hfiles, -, hagain⟩ :=
        exportAfresh_idempotent hrun rfl rfl rfl (fun _ _ _ => rfl)
      obtain ⟨r', left, hsecond, -, -, hskipped⟩ := hagain (Prod.mk.inj hfirst).2
      rw [hsecond] at hfiles
      exact ⟨r, w', r', left, rfl, hfirst, hsecond, hskipped, hfiles⟩

end Scaffold.Export
