import Scaffold.Proofs.Export.Twins
import Scaffold.Proofs.Files.Beneath

/-!
# Two ways of writing

Seen from outside, writing by way of drafts and writing in place do the same until an artifact comes
that parts them.

* `undraftable_of_parts`: where no path goes up by `..`, the ways part only for want of a draft.
* `Twins.parted`: a turn that parts them leaves other entries or other files.
* `Agree`: what can be seen of two exports from outside, and that it is the same.
* `ways_agree_iff`: the two ways agree on a list of artifacts and all its beginnings exactly if no
  turn parts them.
* `parts_of_long_name`: every name of 242 to 255 bytes parts them.
* `long_name_parts_ways`: a name of 250 bytes is written in place and not by way of a draft.
-/
namespace Scaffold.Export

open Files (Filename Path Tree)

variable {s s' : State} {a : Artifact} {as : List Artifact} {w : Workspace} {root : Path}

/-! ## The turns that part twins -/

/-- Where everything stands in a directory and the path goes up nowhere, the ways part only because
no draft can be made: a file that is there is found before. -/
theorem undraftable_of_parts (h : Parts s a) (hshape : s.2.files.WellFormed)
    (habs : s.1.root.isAbsolute = true) (hlevel : ".." ∉ (s.1.target a).names) :
    ∃ made, Writable s.2.files s.2.directory (s.1.target a) made ∧
      made.Undraftable s.2.directory (s.1.target a) (s.2.draws (s.1.target a)) := by
  obtain ⟨made, hwritable, hdraft | ⟨mode, content, hfile, -⟩⟩ := h.differs
  · exact ⟨made, hwritable, hdraft⟩
  · exfalso
    have hgrows := Tree.makeDirectories_grows s.2.files s.2.directory (s.1.target a).parent
    rw [hwritable.making] at hgrows
    have hbefore := (hgrows.added hfile).resolve_right (by simp)
    exact hlevel (Tree.dots_of_hidden_file hshape (target_isAbsolute habs a) hwritable.no_null
      h.missing hbefore)

theorem Parts.not_stops (h : Parts s a) (habs : s.1.root.isAbsolute = true) : ¬ Stops s a := by
  obtain ⟨made, hwritable, -⟩ := h.differs
  have hn := hwritable.no_null
  have hparent := Tree.no_null_of_makeDirectories hwritable.making
  rw [stops_iff (target_isAbsolute habs a), hn, hparent]
  rintro (hlong | ⟨-, -, hnull | ⟨-, hnull⟩⟩)
  · have hmiss := h.missing
    rw [Tree.exists?, Tree.leadsTo_eq_error _ hlong] at hmiss
    cases hmiss
  · cases hnull
  · cases hnull

/-- A turn that parts twins leaves other entries or other files. -/
theorem Twins.parted (h : Twins s s') (habs : s.1.root.isAbsolute = true) (hparts : Parts s a) :
    (Export.turn s' a).1.created ≠ (Export.turn s a).1.created ∨
      (Export.turn s' a).2.files ≠ (Export.turn s a).2.files := by
  obtain ⟨made, hwritable, hdiffers⟩ := hparts.differs
  have hmiss := hparts.missing
  have hreal := hparts.real
  have htarget := target_isAbsolute habs a
  have hw' := ((h.writable_iff a made).mpr hwritable).written_in_place h.inPlace
  rw [h.umask, h.target, h.directory] at hw'
  obtain ⟨journal', hturn'⟩ :=
    turn_of_written ((h.exists? a).trans hmiss) (h.dryRun.trans hreal) hw'
  rw [hturn']
  by_cases hdraft : made.Undraftable s.2.directory (s.1.target a) (s.2.draws (s.1.target a))
  · -- One artifact more is created in place.
    left
    obtain ⟨failure, hw⟩ := hwritable.unreplaced h.byDraft htarget hdraft
    obtain ⟨journal, hturn⟩ := turn_of_failed hmiss hreal hw
    obtain ⟨errors, hexporter⟩ := h.exporter
    have hcreated : (Export.turn s a).1.created = s.1.created := by
      rw [hturn]
      by_cases hp : failure.problem = .nullCharacter
      · rw [if_pos hp]
      · rw [if_neg hp]
        rfl
    intro hsame
    rw [hcreated, hexporter] at hsame
    have hlength := congrArg List.length hsame
    simp [Exporter.entered, Exporter.inPlace] at hlength
  · -- The file that is there keeps its mode in place.
    right
    obtain ⟨mode, content, hfile, hmode⟩ := hdiffers.resolve_left hdraft
    have hw := hwritable.written_by_draft h.byDraft htarget hdraft
    obtain ⟨journal, hturn⟩ := turn_of_written hmiss hreal hw
    rw [hturn]
    intro hsame
    have hlookup := congrArg (fun t => Tree.lookup t ((s.1.target a).place s.2.directory)) hsame
    simp only [Tree.lookup_set _ _ hwritable.ne_root, if_true, hfile, Tree.keptMode] at hlookup
    cases hlookup
    exact hmode rfl

/-- The lists of artifacts of which one parts the two ways. -/
def PartsIn (s : State) (as : List Artifact) : Prop :=
  ∃ before a after, as = before ++ a :: after ∧ ¬ Halts s before ∧ Parts (before.foldl turn s) a

theorem not_partsIn_nil (s : State) : ¬ PartsIn s [] := by
  rintro ⟨before, a, after, h, -⟩
  cases before <;> cases h

theorem partsIn_cons {rest : List Artifact} :
    PartsIn s (a :: rest) ↔ Parts s a ∨ ¬ Stops s a ∧ PartsIn (turn s a) rest := by
  constructor
  · rintro ⟨before, b, after, hsplit, hruns, hparts⟩
    cases before with
    | nil =>
      cases hsplit
      exact Or.inl hparts
    | cons first before =>
      cases hsplit
      rw [halts_cons, not_or] at hruns
      exact Or.inr ⟨hruns.1, before, b, after, rfl, hruns.2, hparts⟩
  · rintro (hparts | ⟨hruns, before, b, after, rfl, hbefore, hparts⟩)
    · exact ⟨[], a, rest, rfl, not_halts_nil s, hparts⟩
    · exact ⟨a :: before, b, after, rfl, by rw [halts_cons, not_or]; exact ⟨hruns, hbefore⟩, hparts⟩

theorem PartsIn.append (h : PartsIn s as) (more : List Artifact) : PartsIn s (as ++ more) := by
  obtain ⟨before, a, after, rfl, hruns, hparts⟩ := h
  exact ⟨before, a, after ++ more, by rw [List.append_assoc, List.cons_append], hruns, hparts⟩

/-- The first turn that parts the two ways. -/
theorem PartsIn.first (h : PartsIn s as) : ∃ before a after, as = before ++ a :: after ∧
    ¬ Halts s before ∧ ¬ PartsIn s before ∧ Parts (before.foldl turn s) a := by
  induction as generalizing s with
  | nil => exact absurd h (not_partsIn_nil s)
  | cons a rest ih =>
    by_cases ha : Parts s a
    · exact ⟨[], a, rest, rfl, not_halts_nil s, not_partsIn_nil s, ha⟩
    · obtain ⟨hruns, hrest⟩ := (partsIn_cons.mp h).resolve_left ha
      obtain ⟨before, b, after, rfl, hbefore, hnone, hparts⟩ := ih hrest
      refine ⟨a :: before, b, after, rfl, ?_, ?_, hparts⟩
      · rw [halts_cons, not_or]
        exact ⟨hruns, hbefore⟩
      · rw [partsIn_cons, not_or]
        exact ⟨ha, fun hlater => hnone hlater.2⟩

/-! ## The run of twins -/

theorem exported_of_stops (h : Stops s a) (rest : List Artifact) :
    exported s (a :: rest) = turn s a := by
  obtain ⟨failure, left, hr⟩ := exportOne_of_stops h
  rw [exported_cons, hr]
  exact if_neg Bool.false_ne_true

theorem exported_of_runs (h : ¬ Stops s a) (rest : List Artifact) :
    exported s (a :: rest) = exported (turn s a) rest := by
  obtain ⟨left, hr⟩ := exportOne_run h
  rw [exported_cons, hr]
  exact if_pos rfl

theorem root_turn (habs : s.1.root.isAbsolute = true) (a : Artifact) :
    (turn s a).1.root.isAbsolute = true := by
  rw [(turn_cases s a).1.root]
  exact habs

/-- Exports that no turn parts are stopped at the same turn or at none, give every artifact fates
alike, and leave twins. -/
theorem Twins.exported (h : Twins s s') (habs : s.1.root.isAbsolute = true)
    (hsame : ¬ PartsIn s as) :
    (Halts s' as ↔ Halts s as) ∧ (¬ Halts s as → List.Forall₂ Fate.Alike (fates s as) (fates s' as)) ∧
      Twins (Export.exported s as) (Export.exported s' as) := by
  induction as generalizing s s' with
  | nil => exact ⟨iff_of_false (not_halts_nil s') (not_halts_nil s), fun _ => .nil, h⟩
  | cons a rest ih =>
    rw [partsIn_cons, not_or] at hsame
    obtain ⟨hfate, hturn⟩ := h.turn habs hsame.1
    have hstops := h.stops_iff habs a
    rw [halts_cons, halts_cons, hstops]
    by_cases hruns : Stops s a
    · rw [exported_of_stops hruns, exported_of_stops (hstops.mpr hruns)]
      exact ⟨iff_of_true (Or.inl hruns) (Or.inl hruns), fun hnone => absurd (Or.inl hruns) hnone,
        hturn⟩
    · obtain ⟨hhalts, hfates, hleft⟩ :=
        ih hturn (root_turn habs a) fun hrest => hsame.2 ⟨hruns, hrest⟩
      rw [exported_of_runs hruns, exported_of_runs (mt hstops.mp hruns), hhalts]
      refine ⟨Iff.rfl, fun hnone => ?_, hleft⟩
      rw [fates, fates]
      exact .cons hfate (hfates fun hrest => hnone (Or.inr hrest))

/-! ## Two exports -/

/-- The two ways of writing agree on a list of artifacts, seen from outside. -/
structure Agree (root : Path) (dryRun : Bool) (as : List Artifact) (w : Workspace) : Prop where
  /-- Both return, or neither does. -/
  outcome : ((exportAfresh root dryRun false as).run w).1.isOk =
    ((exportAfresh root dryRun true as).run w).1.isOk
  /-- Both tell the same, and the same artifacts fail, whatever the texts of their errors. -/
  result : ∀ r r', ((exportAfresh root dryRun true as).run w).1 = .ok r →
    ((exportAfresh root dryRun false as).run w).1 = .ok r' →
    r'.created = r.created ∧ r'.skipped = r.skipped ∧ r'.manifest = r.manifest ∧
      ∃ fs fs', List.Forall₂ Fate.Alike fs fs' ∧
        Accounted (beginning root dryRun true w).1 as fs r ∧
        Accounted (beginning root dryRun false w).1 as fs' r'
  /-- Both leave the same directories and the same files, with the same bytes and modes. -/
  files : ((exportAfresh root dryRun false as).run w).2.files =
    ((exportAfresh root dryRun true as).run w).2.files
  umask : ((exportAfresh root dryRun false as).run w).2.umask =
    ((exportAfresh root dryRun true as).run w).2.umask

variable {dryRun : Bool}

theorem twins_beginning (root : Path) (dryRun : Bool) (w : Workspace) :
    Twins (beginning root dryRun true w) (beginning root dryRun false w) :=
  ⟨rfl, ⟨[], rfl⟩, ⟨w.journal, rfl⟩⟩

theorem agree_of_null (hnull : root.hasNull = true) : Agree root dryRun as w := by
  obtain ⟨fault, hr⟩ := @exportAfresh_of_null root dryRun true as w hnull
  obtain ⟨fault', hr'⟩ := @exportAfresh_of_null root dryRun false as w hnull
  refine ⟨by rw [hr, hr']; rfl, fun r r' h => ?_, by rw [hr, hr'], by rw [hr, hr']⟩
  rw [hr] at h
  cases h

/-- The two ways agree on artifacts of which none parts them. -/
theorem agree_of_together (hnull : root.hasNull = false)
    (hsame : ¬ PartsIn (beginning root dryRun true w) as) : Agree root dryRun as w := by
  obtain ⟨hhalts, hfates, hleft⟩ := (twins_beginning root dryRun w).exported rfl hsame
  by_cases h : Halts (beginning root dryRun true w) as
  · obtain ⟨fault, j, hr⟩ := exportAfresh_halts hnull h []
    obtain ⟨fault', j', hr'⟩ := exportAfresh_halts hnull (hhalts.mpr h) []
    rw [Workspace.told_nil] at hr hr'
    refine ⟨by rw [hr, hr']; rfl, fun r r' hok => ?_, ?_, ?_⟩
    · rw [hr] at hok
      cases hok
    · rw [hr, hr']
      exact hleft.files
    · rw [hr, hr']
      exact hleft.umask
  · have h' := mt hhalts.mp h
    obtain ⟨j, hr⟩ := exportAfresh_result hnull h
    obtain ⟨j', hr'⟩ := exportAfresh_result hnull h'
    rw [exported, exported, forEach_exportOne h, forEach_exportOne h'] at hleft
    refine ⟨by rw [hr, hr']; rfl, fun r r' hok hok' => ?_, ?_, ?_⟩
    · rw [hr] at hok
      rw [hr'] at hok'
      cases hok
      cases hok'
      have haccounted' := accounted_turns h'
      obtain ⟨errors, hexporter⟩ := hleft.exporter
      rw [hexporter] at haccounted' ⊢
      exact ⟨rfl, rfl, rfl, _, _, hfates h, accounted_turns h, haccounted'⟩
    · rw [hr, hr']
      exact hleft.files
    · rw [hr, hr']
      exact hleft.umask

theorem halts_concat : Halts s (as ++ [a]) ↔ Halts s as ∨ Stops (as.foldl turn s) a := by
  induction as generalizing s with
  | nil =>
    rw [List.nil_append, halts_cons, List.foldl_nil]
    simp only [not_halts_nil, or_false, false_or]
  | cons b rest ih => rw [List.cons_append, halts_cons, halts_cons, ih, List.foldl_cons, or_assoc]

/-- The two ways do not agree on artifacts of which the last is the first to part them. -/
theorem not_agree_of_parts {before : List Artifact} (hnull : root.hasNull = false)
    (hruns : ¬ Halts (beginning root dryRun true w) before)
    (hsame : ¬ PartsIn (beginning root dryRun true w) before)
    (hparts : Parts (before.foldl turn (beginning root dryRun true w)) a) :
    ¬ Agree root dryRun (before ++ [a]) w := by
  intro hagree
  obtain ⟨hhalts, -, hleft⟩ := (twins_beginning root dryRun w).exported rfl hsame
  have hruns' := mt hhalts.mp hruns
  rw [exported, exported, forEach_exportOne hruns, forEach_exportOne hruns'] at hleft
  have habs : (before.foldl turn (beginning root dryRun true w)).1.root.isAbsolute = true := by
    rw [(sameSetting_turns _ before).root]
    rfl
  have hlast := hparts.not_stops habs
  have hruns₁ : ¬ Halts (beginning root dryRun true w) (before ++ [a]) := by
    rw [halts_concat, not_or]
    exact ⟨hruns, hlast⟩
  have hruns₂ : ¬ Halts (beginning root dryRun false w) (before ++ [a]) := by
    rw [halts_concat, not_or]
    exact ⟨hruns', mt (hleft.stops_iff habs a).mp hlast⟩
  obtain ⟨j, hend⟩ := exportAfresh_result hnull hruns₁
  obtain ⟨j', hend'⟩ := exportAfresh_result hnull hruns₂
  rw [List.foldl_append, List.foldl_cons, List.foldl_nil] at hend hend'
  rcases hleft.parted habs hparts with hcreated | hfiles
  · have hresult := hagree.result _ _ (congrArg Prod.fst hend) (congrArg Prod.fst hend')
    exact hcreated hresult.1
  · have hsameFiles := hagree.files
    rw [hend, hend'] at hsameFiles
    exact hfiles hsameFiles

/-- Writing by way of drafts and writing in place agree on a list of artifacts and all its beginnings
exactly if no turn parts them: none at which the target can be written to and either no draft can be
made for it, its name or its path being too long with the letters added or all drawn names taken, or
the directories made on the way have laid open a file of another mode than a new one. -/
theorem ways_agree_iff (root : Path) (dryRun : Bool) (as : List Artifact) (w : Workspace) :
    (∀ first, first <+: as → Agree root dryRun first w) ↔
      ¬ (root.hasNull = false ∧ PartsIn (beginning root dryRun true w) as) := by
  constructor
  · rintro hagree ⟨hnull, hparts⟩
    obtain ⟨before, a, after, rfl, hruns, hsame, hfirst⟩ := hparts.first
    have hbegins : before ++ [a] <+: before ++ a :: after :=
      ⟨after, by rw [List.append_assoc]; rfl⟩
    exact not_agree_of_parts hnull hruns hsame hfirst (hagree _ hbegins)
  · intro htogether first hfirst
    cases hnull : root.hasNull with
    | true => exact agree_of_null hnull
    | false =>
      refine agree_of_together hnull fun hparts => htogether ⟨hnull, ?_⟩
      obtain ⟨more, rfl⟩ := hfirst
      exact hparts.append more

/-- At the root of an empty file system the name of a file parts the ways if it has so many bytes that
those which a draft adds do not fit. -/
theorem parts_of_long_name {name : String} (hname : Filename name) (hnull : '\x00' ∉ name.toList)
    (hsize : name.utf8ByteSize ≤ Tree.nameLimit) (hlong : Tree.nameLimit < name.utf8ByteSize + 14)
    (kind content label : String) :
    Parts (beginning (.ofLocation []) false true {}) ⟨kind, name, content, label⟩ := by
  have htarget : (beginning (.ofLocation []) false true {}).1.target ⟨kind, name, content, label⟩ =
      .ofLocation [name] := by
    unfold Exporter.target
    rw [Files.join_of_relative hname.relative, hname.namesOf]
    rfl
  have hchecked : Tree.checkPath (.ofLocation [name]) = .ok () := by
    have hno : (Path.ofLocation [name]).hasNull = false := by
      simpa [Path.hasNull, Path.ofLocation] using hnull
    have htext : (Path.ofLocation [name]).text.utf8ByteSize = 1 + name.utf8ByteSize :=
      Tree.utf8ByteSize_text (by decide) [name]
    unfold Tree.checkPath
    rw [hno, htext]
    unfold Tree.nameLimit at hsize
    have hfits : ¬ 1 + name.utf8ByteSize > Tree.pathLimit := by
      unfold Tree.pathLimit
      omega
    rw [if_neg Bool.false_ne_true, if_neg hfits]
  have hplace : (Path.ofLocation [name]).place [] = [name] := by
    simp [Path.place, Path.ofLocation, Path.follow, hname.level, Tree.start, Path.isAbsolute]
  have hshort : ¬ Tree.nameLimit < name.utf8ByteSize := Nat.not_lt.mpr hsize
  refine ⟨?_, rfl, {}, ⟨?_, ⟨[], name, ?_⟩, ?_⟩, Or.inl (Or.inl ?_)⟩
  all_goals rw [htarget]
  · show Tree.exists? {} [] _ = _
    refine Tree.exists_eq_false_iff.mpr (Or.inl ?_)
    unfold Tree.locate
    rw [hchecked]
    simp [Path.ofLocation, Tree.walk, Tree.step, Tree.start, Path.isAbsolute, hname.level, hshort,
      Tree.lookup]
  · rfl
  · show Tree.parentAndName {} [] _ = _
    rw [Tree.parentAndName_of_walk hchecked rfl (Tree.lookup_root _)]
    simp [Path.ofLocation, Tree.start, Path.isAbsolute, hname.level, hshort]
  · show Tree.lookup {} ((Path.ofLocation [name]).place []) ≠ _
    rw [hplace]
    simp [Tree.lookup]
  · exact hlong

/-- A name of 250 bytes, to which a draft adds fourteen more. -/
def draftlessName : String := .ofList (List.replicate 250 'a')

/-- A file with this name. -/
def draftlessArtifact : Artifact := ⟨"model", draftlessName, "", "Long"⟩

theorem draftless_parts : Parts (beginning (.ofLocation []) false true {}) draftlessArtifact := by
  have hletters : ∀ c ∈ draftlessName.toList, c = 'a' := by
    unfold draftlessName
    rw [String.toList_ofList]
    exact fun c hc => (List.mem_replicate.mp hc).2
  have hno : ∀ c, c ≠ 'a' → c ∉ draftlessName.toList := fun c hne hc => hne (hletters c hc)
  have hfirst : 'a' ∈ draftlessName.toList := by
    unfold draftlessName
    rw [String.toList_ofList]
    exact List.mem_replicate.mpr ⟨by decide, rfl⟩
  exact parts_of_long_name ⟨hno '/' (by decide), 'a', hfirst, by decide⟩ (hno _ (by decide))
    (by decide +kernel) (by decide +kernel) _ _ _

/-- The file is created in place, and not by way of a draft. -/
theorem long_name_parts_ways : ¬ Agree (.ofLocation []) false [draftlessArtifact] {} :=
  @not_agree_of_parts draftlessArtifact {} (.ofLocation []) false [] rfl (not_halts_nil _)
    (not_partsIn_nil _) draftless_parts

end Scaffold.Export
