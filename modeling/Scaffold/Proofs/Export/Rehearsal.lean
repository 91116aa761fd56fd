import Scaffold.Proofs.Export.Idempotence
import Scaffold.Proofs.Files.Beneath

/-!
# Exporting without writing

A dry run looks every artifact up and writes none. The real run makes directories and files that its
later turns see and those of the dry run do not; where no path is a part of another one, none of them
is what a later turn looks for.

* `told_turn`, `told_exported`: a dry run changes nothing but the journal.
* `added_turn`: a real turn adds nothing but what is on the way to its own path.
* `Apart`: artifacts below the root of which none is on the way to another.
* `Rehearses`: how a dry run keeps step with the real run; every turn without an error keeps it.
* `exportAfresh_rehearsed`: a real export without errors has the result that the dry run tells.
-/
namespace Scaffold.Export

open Files (Path Tree Location namesOf)

variable {s d : State} {a : Artifact} {as : List Artifact} {done : List Location} {root : Path}
  {atomic : Bool} {w w' : Workspace}

/-! ## The dry run -/

/-- A turn of a dry run changes nothing but the journal. -/
theorem told_turn (hdry : s.1.dryRun = true) (a : Artifact) : Told s.2 (turn s a).2 := by
  obtain ⟨x, w⟩ := s
  unfold turn
  rcases exportOne_cases (x, w) a with ⟨-, hr⟩ | ⟨-, hr⟩ | ⟨-, -, hr⟩ | ⟨-, hreal, -⟩
  · rw [hr]
    exact Told.refl w
  · obtain ⟨notes, hs⟩ := skip_run a (x, w)
    rw [hr, hs]
    exact ⟨notes, rfl⟩
  · obtain ⟨notes, hs⟩ := accept_run a (x, w)
    rw [hr, hs]
    exact ⟨notes, rfl⟩
  · rw [hdry] at hreal
    cases hreal

/-- A dry run changes nothing but the journal, whether it is stopped or not. -/
theorem told_exported (hdry : s.1.dryRun = true) (as : List Artifact) :
    Told s.2 (exported s as).2 := by
  induction as generalizing s with
  | nil => exact Told.refl s.2
  | cons a rest ih =>
    have hturn := told_turn hdry a
    rw [exported_cons]
    split
    · obtain ⟨notes, hnotes⟩ := hturn
      obtain ⟨more, hmore⟩ := ih ((turn_cases s a).1.dryRun.trans hdry)
      refine ⟨notes ++ more, ?_⟩
      rw [hmore, hnotes, Workspace.told_told]
    · exact hturn

/-! ## What a real turn adds -/

/-- A real turn adds nothing but what is on the way to its path. -/
theorem added_turn (hdry : s.1.dryRun = false) {l : Location} (hl : s.2.files.lookup l = none)
    (hnew : (turn s a).2.files.lookup l ≠ none) :
    ∃ above, above <+: (s.1.target a).names ∧
      l = Path.place ⟨(s.1.target a).anchor, above⟩ s.2.directory := by
  have hway : ∀ {above}, above <+: (s.1.target a).parent.names → above <+: (s.1.target a).names :=
    fun habove => habove.trans (List.dropLast_prefix _)
  by_cases hmiss : s.2.files.exists? s.2.directory (s.1.target a) = .ok false
  · rw [files_turn_of_missing hdry hmiss] at hnew
    have hadded := @Tree.added_of_makeDirectories s.2.files s.2.directory l (s.1.target a).parent hl
    cases hm : s.2.files.makeDirectories s.2.directory (s.1.target a).parent with
    | mk made t =>
      rw [hm] at hadded
      cases made with
      | error failure =>
        rw [writeArtifact_of_failed hm] at hnew
        obtain ⟨above, habove, hplace⟩ := hadded hnew
        exact ⟨above, hway habove, hplace⟩
      | ok u =>
        rw [writeArtifact_of_made hm] at hnew
        -- The write sets the place of the path, if it does not fail.
        by_cases hdirectory : t.lookup l = none
        · refine ⟨_, List.prefix_rfl, ?_⟩
          cases hw : writeAt s.1.atomic { s.2 with files := t } (s.1.target a)
              (Text.Utf8.encode a.content) with
          | mk outcome w' =>
            rw [hw] at hnew
            cases outcome with
            | error failure =>
              cases writeAt_error (Tree.no_null_of_makeDirectories hm) hw
              exact absurd hdirectory hnew
            | ok u =>
              obtain ⟨⟨above, name, hp⟩, -, rfl⟩ := writeAt_ok hw
              have hroot : (s.1.target a).place s.2.directory ≠ [] := by
                rw [← Tree.place_of_parentAndName hp]
                simp
              rw [Tree.lookup_set _ _ hroot] at hnew
              split at hnew
              · assumption
              · exact absurd hdirectory hnew
        · obtain ⟨above, habove, hplace⟩ := hadded hdirectory
          exact ⟨above, hway habove, hplace⟩
  · rw [files_turn_of_found hmiss] at hnew
    exact absurd hl hnew

/-! ## Keeping step -/

/-- How a dry run keeps step with the real run: what the real run has added is on the way to the
paths that were written. -/
structure Rehearses (done : List Location) (s d : State) : Prop where
  exporter : d.1 = { s.1 with dryRun := true }
  real : s.1.dryRun = false
  directory : d.2.directory = s.2.directory
  absolute : s.1.root.isAbsolute = true
  shape : d.2.files.WellFormed
  upholds : Tree.Upholds d.2.files s.2.files
  added : ∀ l, d.2.files.lookup l = none → s.2.files.lookup l ≠ none → ∃ q ∈ done, l <+: q

theorem Rehearses.dryRun (h : Rehearses done s d) : d.1.dryRun = true := by
  rw [h.exporter]

theorem Rehearses.target (h : Rehearses done s d) (a : Artifact) :
    d.1.target a = s.1.target a := by
  unfold Exporter.target
  rw [h.exporter]

/-- What the real run does not find, the dry run does not find. -/
theorem Rehearses.missing (h : Rehearses done s d)
    (hmiss : s.2.files.exists? s.2.directory (s.1.target a) = .ok false) :
    d.2.files.exists? d.2.directory (d.1.target a) = .ok false := by
  rw [h.target, h.directory]
  exact h.upholds.exists_false hmiss

/-- What the real run finds, the dry run finds, unless it is on the way to a path that was
written. -/
theorem Rehearses.present (h : Rehearses done s d) (hlevel : ".." ∉ (s.1.target a).names)
    (hapart : ∀ q ∈ done, ¬ (s.1.target a).names <+: q)
    (hthere : s.2.files.exists? s.2.directory (s.1.target a) = .ok true) :
    d.2.files.exists? d.2.directory (d.1.target a) = .ok true := by
  rw [h.target, h.directory]
  cases hd : d.2.files.exists? s.2.directory (s.1.target a) with
  | error failure =>
    -- A path that is too long stays too long.
    obtain ⟨hlong, -⟩ := Tree.leadsTo_error_iff.mp hd
    rw [Tree.exists?, Tree.leadsTo_eq_error _ (h.upholds.tooLong hlong)] at hthere
    cases hthere
  | ok found =>
    cases found with
    | true => rfl
    | false =>
      exfalso
      have habs := target_isAbsolute h.absolute a
      obtain ⟨l, hl, hnode⟩ := Tree.exists_eq_true_iff.mp hthere
      obtain ⟨hchecked, hwalk⟩ := Tree.walk_of_locate hl
      have hplace : l = (s.1.target a).names := by
        rw [Tree.start_absolute habs] at hwalk
        rw [Tree.eq_place_of_walk hwalk, Tree.foldl_follow hlevel]
        rfl
      have hnone := h.shape.lookup_of_missing habs hlevel (Tree.checkPath_ok hchecked).1 hd
      rw [← hplace] at hnone
      obtain ⟨q, hq, hprefix⟩ := h.added l hnone hnode
      rw [hplace] at hprefix
      exact hapart q hq hprefix

theorem not_stops_of_dryRun {found : Bool} (hdry : s.1.dryRun = true)
    (h : s.2.files.exists? s.2.directory (s.1.target a) = .ok found) : ¬ Stops s a := by
  rintro (hlong | ⟨-, hreal, -⟩)
  · rw [Tree.exists?, Tree.leadsTo_eq_error _ hlong] at h
    cases h
  · rw [hdry] at hreal
    cases hreal

/-- A turn of the real run that does not fail is told by the dry run. -/
theorem Rehearses.fate (h : Rehearses done s d) (hlevel : ".." ∉ (s.1.target a).names)
    (hapart : ∀ q ∈ done, ¬ (s.1.target a).names <+: q) (hruns : ¬ Stops s a)
    (hfate : ∀ failure, fate s a ≠ .failed failure) :
    ¬ Stops d a ∧ Export.fate d a = Export.fate s a := by
  rcases exportOne_cases s a with ⟨hlong, -⟩ | ⟨hthere, -⟩ | ⟨-, hdry, -⟩ | ⟨hmiss, hreal, w', hw⟩
  · exact absurd (.tooLong hlong) hruns
  · have hpresent := h.present hlevel hapart hthere
    exact ⟨not_stops_of_present hpresent, by rw [fate_of_present hpresent, fate_of_present hthere]⟩
  · rw [h.real] at hdry
    cases hdry
  · have hmissing := h.missing hmiss
    refine ⟨not_stops_of_dryRun h.dryRun hmissing, ?_⟩
    have hwrite := fate_of_write hmiss hreal
    rw [fate_of_dryRun hmissing h.dryRun]
    rcases hw with ⟨hw, -⟩ | ⟨failure, hw, -⟩
    · rw [hwrite, hw]
    · rw [hw] at hwrite
      exact absurd hwrite (hfate failure)

theorem entered_dryRun (x : Exporter) (a : Artifact) (f : Fate) :
    ({ x with dryRun := true } : Exporter).entered a f = { x.entered a f with dryRun := true } := by
  cases f <;> rfl

/-- A turn keeps step, its path being one more that was written. -/
theorem Rehearses.turn (h : Rehearses done s d) (hlevel : ".." ∉ (s.1.target a).names)
    (hruns : ¬ Stops s a) (hdry : ¬ Stops d a) (hfate : Export.fate d a = Export.fate s a) :
    Rehearses ((s.1.target a).names :: done) (turn s a) (turn d a) := by
  have hset := (turn_cases s a).1
  obtain ⟨notes, htold⟩ := told_turn h.dryRun a
  have hfiles : (Export.turn d a).2.files = d.2.files := by rw [htold]; rfl
  have hdirectory : (Export.turn d a).2.directory = d.2.directory := by rw [htold]; rfl
  refine ⟨?_, hset.dryRun.trans h.real, ?_, ?_, ?_, ?_, ?_⟩
  · obtain ⟨v, hr⟩ := exportOne_run hruns
    obtain ⟨v', hr'⟩ := exportOne_run hdry
    unfold Export.turn
    rw [hr, hr', hfate, h.exporter, entered_dryRun]
  · rw [hdirectory, hset.directory]
    exact h.directory
  · rw [hset.root]
    exact h.absolute
  · rw [hfiles]
    exact h.shape
  · rw [hfiles]
    exact h.upholds.trans (turn_upholds s a)
  · rw [hfiles]
    intro l hnone hnew
    by_cases hbefore : s.2.files.lookup l = none
    · obtain ⟨above, habove, hplace⟩ := added_turn h.real hbefore hnew
      refine ⟨_, List.mem_cons_self, ?_⟩
      have hdots : ".." ∉ above := fun hmem => hlevel (habove.subset hmem)
      have hstart : Tree.start s.2.directory ⟨(s.1.target a).anchor, above⟩ = [] :=
        Tree.start_absolute (target_isAbsolute h.absolute a)
      rw [hplace, Path.place, hstart, Tree.foldl_follow hdots]
      exact habove
    · obtain ⟨q, hq, hprefix⟩ := h.added l hnone hbefore
      exact ⟨q, List.mem_cons_of_mem _ hq, hprefix⟩

/-- A real run without errors is told by the dry run, entry by entry. -/
theorem rehearsed_turns (h : Rehearses done s d)
    (hlevel : ∀ a ∈ as, ".." ∉ (s.1.target a).names)
    (hapart : ∀ a ∈ as, ∀ q ∈ done, ¬ (s.1.target a).names <+: q)
    (hpairs : as.Pairwise fun a b => ¬ (s.1.target b).names <+: (s.1.target a).names)
    (hruns : ¬ Halts s as) (hclean : (as.zip (fates s as)).filterMap errorEntry = []) :
    ¬ Halts d as ∧ (as.foldl turn d).1 = { (as.foldl turn s).1 with dryRun := true } := by
  induction as generalizing s d done with
  | nil => exact ⟨not_halts_nil d, h.exporter⟩
  | cons a rest ih =>
    rw [halts_cons, not_or] at hruns
    rw [List.forall_mem_cons] at hlevel hapart
    rw [List.pairwise_cons] at hpairs
    rw [fates, List.zip_cons_cons] at hclean
    have hfate : ∀ failure, fate s a ≠ .failed failure := by
      intro failure hfailed
      have hentry : errorEntry (a, fate s a) = some (writeError a failure) := by
        rw [hfailed]
        rfl
      rw [List.filterMap_cons_some hentry] at hclean
      cases hclean
    have hrest : (rest.zip (fates (turn s a) rest)).filterMap errorEntry = [] := by
      have hentry : errorEntry (a, fate s a) = none := by
        cases hf : fate s a with
        | failed failure => exact absurd hf (hfate failure)
        | _ => rfl
      rw [List.filterMap_cons_none hentry] at hclean
      exact hclean
    obtain ⟨hdry, hsame⟩ := h.fate hlevel.1 hapart.1 hruns.1 hfate
    have htarget := (turn_cases s a).1.target
    have hnext := ih (h.turn hlevel.1 hruns.1 hdry hsame)
      (fun b hb => by rw [htarget]; exact hlevel.2 b hb)
      (fun b hb q hq => by
        rw [htarget]
        rcases List.mem_cons.mp hq with rfl | hq
        · exact hpairs.1 b hb
        · exact hapart.2 b hb q hq)
      (by simpa only [htarget] using hpairs.2) hruns.2 hrest
    rw [halts_cons, not_or, List.foldl_cons, List.foldl_cons]
    exact ⟨⟨hdry, hnext.1⟩, hnext.2⟩

/-! ## The two exports -/

/-- Artifacts below the root they are exported to, of which none is on the way to another. -/
structure Apart (as : List Artifact) : Prop where
  relative : ∀ a ∈ as, Text.Outside Text.isSlash a.relativePath.toList
  level : ∀ a ∈ as, ".." ∉ namesOf a.relativePath.toList
  apart : as.Pairwise fun a b =>
    ¬ namesOf a.relativePath.toList <+: namesOf b.relativePath.toList ∧
      ¬ namesOf b.relativePath.toList <+: namesOf a.relativePath.toList

theorem names_target {x : Exporter} (h : Text.Outside Text.isSlash a.relativePath.toList) :
    (x.target a).names = x.root.names ++ namesOf a.relativePath.toList := by
  unfold Exporter.target
  rw [Files.join_of_relative h]

/-- At their beginning the two runs are in step. -/
theorem rehearses_beginning (root : Path) (atomic : Bool) (hshape : w.files.WellFormed) :
    Rehearses [] (beginning root false atomic w) (beginning root true atomic w) where
  exporter := rfl
  real := rfl
  directory := rfl
  absolute := rfl
  shape := hshape
  upholds := .refl _
  added := fun _ hnone hsome => absurd hnone hsome

/-- A dry run changes nothing but the journal. What it tells is what the real export does: if this
returns without errors, the dry run returns the same result, its manifest marked as that of a dry
run. This holds in a file system in which everything stands in a directory, for artifacts of which
none is on the way to another. -/
theorem exportAfresh_rehearsed (root : Path) (atomic : Bool) (as : List Artifact) (w : Workspace) :
    (∃ journal, ((exportAfresh root true atomic as).run w).2 = { w with journal := journal }) ∧
      (w.files.WellFormed → ".." ∉ w.directory → Apart as → ∀ r w',
        (exportAfresh root false atomic as).run w = (.ok r, w') → r.errors = [] →
        ((exportAfresh root true atomic as).run w).1 =
          .ok { r with manifest := { r.manifest with dryRun := true } }) := by
  constructor
  · cases hnull : root.hasNull with
    | true =>
      obtain ⟨fault, hr⟩ := @exportAfresh_of_null root true atomic as w hnull
      exact ⟨w.journal, by rw [hr]⟩
    | false =>
      obtain ⟨journal, hleft⟩ := @exportAfresh_left root true atomic as hnull w
      obtain ⟨notes, htold⟩ := told_exported (s := beginning root true atomic w) rfl as
      exact ⟨journal, by rw [hleft, htold]; rfl⟩
  · intro hshape hdots hapart r w' hr herrors
    obtain ⟨hnull, hruns, herrors', -⟩ := turns_of_exportAfresh hr
    obtain ⟨journal, hresult⟩ := exportAfresh_result hnull hruns
    rw [hr] at hresult
    have hroot : ".." ∉ (root.resolved w.directory).names := by
      apply Tree.dots_not_mem_follow
      split
      · simp
      · exact hdots
    have hlevel : ∀ a ∈ as, ".." ∉ ((beginning root false atomic w).1.target a).names := by
      intro a ha
      rw [names_target (hapart.relative a ha), List.mem_append, not_or]
      exact ⟨hroot, hapart.level a ha⟩
    have hpairs : as.Pairwise fun a b =>
        ¬ ((beginning root false atomic w).1.target b).names <+:
          ((beginning root false atomic w).1.target a).names := by
      refine hapart.apart.imp_of_mem fun {a b} ha hb hab => ?_
      rw [names_target (hapart.relative a ha), names_target (hapart.relative b hb),
        List.prefix_append_right_inj]
      exact hab.2
    obtain ⟨hdry, hexporter⟩ := rehearsed_turns (rehearses_beginning root atomic hshape) hlevel
      (fun _ _ q hq => by cases hq) hpairs hruns (herrors'.symm.trans herrors)
    obtain ⟨journal', hdryResult⟩ := exportAfresh_result hnull hdry
    rw [hdryResult, hexporter]
    cases hresult
    rfl

/-- Artifacts of which one is there and the two others go to a directory that is not. -/
def plannedArtifacts : List Artifact :=
  [⟨"model", "keep.txt", "other", "There"⟩, ⟨"model", "a/b.php", "b", "New"⟩,
    ⟨"model", "a/c.php", "c", "Beside"⟩]

theorem oneFile_wellFormed : oneFile.2.files.WellFormed := by
  intro l name node h
  unfold Tree.lookup at h
  rw [if_neg (by simp)] at h
  simp only [oneFile, List.lookup_cons, List.lookup_nil] at h
  split at h
  · rename_i heq
    obtain ⟨rfl, -⟩ := List.append_inj' (eq_of_beq heq : l ++ [name] = [] ++ ["keep.txt"]) rfl
    rfl
  · cases h

/-- The real export skips one artifact and creates two, and so does the dry run. -/
theorem planned_export_rehearsed :
    ∃ r w', (exportAfresh (.ofLocation []) false true plannedArtifacts).run oneFile.2 = (.ok r, w') ∧
      (r.created, r.skipped) = (["a/b.php", "a/c.php"], ["keep.txt"]) ∧
      ((exportAfresh (.ofLocation []) true true plannedArtifacts).run oneFile.2).1 =
        .ok { r with manifest := { r.manifest with dryRun := true } } := by
  have hlists : ((exportAfresh (.ofLocation []) false true plannedArtifacts).run
      oneFile.2).1.toOption.map (fun r => ((r.created, r.skipped), r.errors)) =
        some ((["a/b.php", "a/c.php"], ["keep.txt"]), []) := by
    decide +kernel
  have hapart : Apart plannedArtifacts :=
    ⟨by decide +kernel, by decide +kernel, by decide +kernel⟩
  cases hrun : (exportAfresh (.ofLocation []) false true plannedArtifacts).run oneFile.2 with
  | mk outcome w' =>
    rw [hrun] at hlists
    cases outcome with
    | error fault => cases hlists
    | ok r =>
      obtain ⟨hentered, herrors⟩ := Prod.mk.inj (Option.some.inj hlists)
      have htold := (exportAfresh_rehearsed (.ofLocation []) true plannedArtifacts oneFile.2).2
        oneFile_wellFormed (by simp [oneFile]) hapart r w' hrun herrors
      exact ⟨r, w', rfl, hentered, htold⟩

end Scaffold.Export
