import Scaffold.Files.Draft
import Scaffold.Proofs.Files.Shape

/-!
# Replacing a file by way of a draft

A replacement takes many steps, and every one of them can be refused. Whatever is drawn and wherever it
ends, it comes to one change or to none: the place of the path holds the new file, or all is as before,
the mask and the places of drafts included.

* `Drafted`, `makeDraft_ok`: a draft that has been made stands at a place that was free.
* `locate_named`: a path with a directory and a last name leads there once something stands there.
* `parentAndName_of_set_file`: a file more does not help a path along.
* `publish_draft`, `discard_draft`: a draft is moved away or removed, and nothing else changes.
* `replace_ok`, `replace_error`, `replace_null_iff`: the whole replacement.
-/
namespace Scaffold.Files

namespace Tree

variable {t : Tree} {directory l : Location} {p draft : Path} {mode umask : Nat}
  {content : ByteArray}

/-! ## Names of drafts -/

theorem no_null_letters (letters : Letters) : '\x00' ∉ letters.text.toList := by
  have halphabet : '\x00' ∉ draftAlphabet := by decide
  rw [Letters.text, String.toList_ofList]
  intro hmem
  obtain ⟨i, hi⟩ := List.mem_ofFn.mp hmem
  rw [← hi] at halphabet
  exact halphabet (List.get_mem _ _)

theorem draftName_null {name letters : String} (h : '\x00' ∉ letters.toList) :
    '\x00' ∈ (draftName name letters).toList ↔ '\x00' ∈ name.toList := by
  have hpoint : '\x00' ∉ ".".toList := by decide
  have hend : '\x00' ∉ ".tmp".toList := by decide
  simp only [draftName, String.toList_append, List.mem_append, hpoint, hend, h, false_or, or_false]

theorem hasNull_iff : p.hasNull = true ↔ ∃ name ∈ p.names, '\x00' ∈ name.toList := by
  simp only [Path.hasNull, List.any_eq_true, List.contains_iff_mem]

/-- Which letters are drawn does not matter for null characters. -/
theorem hasNull_draftAt (letters : Letters) :
    (draftAt directory p letters.text).hasNull = true ↔ (draftPath directory p).hasNull = true := by
  have hplain : '\x00' ∉ "XXXXXXXX".toList := by decide
  unfold draftPath draftAt
  simp only [hasNull_iff, List.mem_append, List.mem_singleton, or_and_right, exists_or,
    exists_eq_left, draftName_null (no_null_letters letters), draftName_null hplain]

/-- A null character in the last name of a path stands in the name of its draft too. -/
theorem hasNull_draftPath (hn : p.parent.hasNull = false) (h : p.hasNull = true) :
    (draftPath directory p).hasNull = true := by
  have hplain : '\x00' ∉ "XXXXXXXX".toList := by decide
  obtain ⟨name, hname, hnull⟩ := hasNull_iff.mp h
  have hlast : p.name = name := by
    rcases List.eq_nil_or_concat p.names with hp | ⟨above, last, hp⟩
    · rw [hp] at hname; cases hname
    · rw [List.concat_eq_append] at hp
      rw [hp, List.mem_append, List.mem_singleton] at hname
      rcases hname with habove | rfl
      · have hparent : p.parent.hasNull = true :=
          hasNull_iff.mpr ⟨name, by rw [Path.parent, hp, List.dropLast_concat]; exact habove, hnull⟩
        rw [hn] at hparent; cases hparent
      · simp only [Path.name, hp, List.getLast?_concat, Option.getD_some]
  refine hasNull_iff.mpr ⟨draftName p.name "XXXXXXXX", ?_, ?_⟩
  · unfold draftPath draftAt; simp
  · rw [draftName_null hplain, hlast]; exact hnull

/-- Resolving a path adds no names. -/
theorem mem_foldl_follow {names : List String} {name : String} {start : Location}
    (h : name ∈ names.foldl Path.follow start) : name ∈ start ∨ name ∈ names := by
  induction names generalizing start with
  | nil => exact Or.inl h
  | cons first rest ih =>
    rw [List.foldl_cons] at h
    rcases ih h with hstart | hrest
    · unfold Path.follow at hstart
      split at hstart
      · exact Or.inl (List.dropLast_subset _ hstart)
      · rw [List.mem_append, List.mem_singleton] at hstart
        rcases hstart with hstart | rfl
        · exact Or.inl hstart
        · exact Or.inr List.mem_cons_self
    · exact Or.inr (List.mem_cons_of_mem _ hrest)

/-- A null character in the path of a draft stands in the path of its target too. -/
theorem hasNull_of_draftPath (habs : p.isAbsolute = true)
    (h : (draftPath directory p).hasNull = true) : p.hasNull = true := by
  have hplain : '\x00' ∉ "XXXXXXXX".toList := by decide
  obtain ⟨name, hname, hnull⟩ := hasNull_iff.mp h
  have habove : p.parent.isAbsolute = true := habs
  simp only [draftPath, draftAt, List.mem_append, List.mem_singleton] at hname
  rcases hname with hbeside | rfl
  · unfold Path.resolved Path.ofLocation at hbeside
    rw [if_pos habove] at hbeside
    rcases mem_foldl_follow hbeside with hroot | hparent
    · cases hroot
    · exact hasNull_iff.mpr ⟨name, List.dropLast_subset _ hparent, hnull⟩
  · rw [draftName_null hplain] at hnull
    unfold Path.name at hnull
    cases hlast : p.names.getLast? with
    | none => rw [hlast] at hnull; cases hnull
    | some last =>
      rw [hlast] at hnull
      exact hasNull_iff.mpr ⟨last, List.mem_of_getLast? hlast, hnull⟩

/-! ## One file more -/

theorem set_set (t : Tree) (l : Location) (node node' : Node) :
    (t.set l node).set l node' = t.set l node' := by
  unfold set
  simp [List.filter_append, List.filter_filter]

theorem filter_of_lookup_none {entries : List (Location × Node)} (h : List.lookup l entries = none) :
    entries.filter (fun entry => entry.1 != l) = entries := by
  rw [List.filter_eq_self]
  intro entry hentry
  rw [bne_comm]
  exact List.lookup_eq_none_iff.mp h entry hentry

theorem unset_set (h : t.lookup l = none) (node : Node) : (t.set l node).unset l = t := by
  have hroot : l ≠ [] := by rintro rfl; rw [lookup_root] at h; cases h
  unfold lookup at h
  rw [if_neg hroot] at h
  unfold set unset
  rw [List.filter_append, List.filter_filter]
  simp [filter_of_lookup_none h]

/-- A way to a directory does not lead over a file. -/
theorem walk_of_set_file {q q' : Location} {names : List String} (hl : l ≠ [])
    (hw : (t.set l (.file mode content)).walk q names = .ok q')
    (hd : (t.set l (.file mode content)).lookup q' = some .directory) :
    t.walk q names = .ok q' ∧ t.lookup q' = some .directory := by
  -- A directory in the tree with the file is at another place than the file.
  have hother : ∀ {q}, (t.set l (.file mode content)).lookup q = some .directory →
      q ≠ l ∧ t.lookup q = some .directory := by
    intro q hq
    rw [lookup_set _ _ hl] at hq
    split at hq
    · cases hq
    · rename_i hne; exact ⟨hne, hq⟩
  induction names generalizing q with
  | nil => cases hw; exact ⟨rfl, (hother hd).2⟩
  | cons name rest ih =>
    rw [walk_cons] at hw ⊢
    split at hw
    · rename_i next hs
      obtain ⟨hne, -⟩ := hother (directory_of_walk hw hd)
      have hstep : t.step q name = .ok next := by
        have hq := (step_ok hs).1
        unfold step at hs ⊢
        rw [hq] at hs
        rw [(hother hq).2]
        simp only at hs ⊢
        split at hs
        · rename_i hdots; rw [if_pos hdots]; exact hs
        · rename_i hdots
          rw [if_neg hdots]
          split at hs
          · cases hs
          · rename_i hshort
            rw [if_neg hshort]
            split at hs
            · cases hs
            · rename_i hfound
              cases hs
              rw [lookup_set _ _ hl, if_neg hne] at hfound
              rw [hfound]
      rw [hstep]
      exact ih hw
    · cases hw

theorem parentAndName_of_walk {above : Location} (hc : checkPath p = .ok ())
    (hw : t.walk (start directory p) p.names.dropLast = .ok above)
    (hd : t.lookup above = some .directory) :
    t.parentAndName directory p =
      match p.names.getLast? with
      | none => .ok (above, none)
      | some name =>
        if name = ".." then .ok (above, none)
        else if name.utf8ByteSize > nameLimit then .error .nameTooLong
        else .ok (above, some name) := by
  unfold parentAndName
  cases p.names.getLast? with
  | none => simp only [hc, hw, hd]
  | some name => simp only [hc, hw, hd]

/-- A file more does not help a path along. -/
theorem parentAndName_of_set_file {name : String} {above : Location} (hl : l ≠ [])
    (h : (t.set l (.file mode content)).parentAndName directory p = .ok (above, some name)) :
    t.parentAndName directory p = .ok (above, some name) := by
  obtain ⟨hw, hd, -, -⟩ := parentAndName_ok h
  obtain ⟨hw', hd'⟩ := walk_of_set_file hl hw hd
  have hc := parentAndName_checked h
  rw [parentAndName_of_walk hc hw hd] at h
  rw [parentAndName_of_walk hc hw' hd']
  exact h

/-- A path with a directory and a last name leads to its place once something stands there. -/
theorem locate_named {t' : Tree} {above : Location} {name : String}
    (h : t.parentAndName directory p = .ok (above, some name)) (hup : Upholds t t')
    (hthere : t'.lookup (above ++ [name]) ≠ none) :
    t'.locate directory p = .ok (above ++ [name]) := by
  obtain ⟨hw, hd, hnames, hdots⟩ := parentAndName_ok h
  have hshort : ¬ nameLimit < name.utf8ByteSize := by
    intro hlong
    have hlast : p.names.getLast? = some name := by rw [hnames, List.getLast?_concat]
    rw [parentAndName_of_walk (parentAndName_checked h) hw hd, hlast] at h
    simp only [if_neg hdots, gt_iff_lt, if_pos hlong] at h
    cases h
  rw [locate_ok (parentAndName_checked h), hnames, walk_append, hup.walk hw]
  obtain ⟨node, hnode⟩ := Option.ne_none_iff_exists'.mp hthere
  have hstep : t'.step above name = .ok (above ++ [name]) := by
    unfold step
    rw [hup.directories hd]
    simp only [if_neg hdots, if_neg hshort, hnode]
  simp only [walk_cons, hstep]
  rfl

/-! ## A draft -/

/-- A path has a place, and nothing stands there. -/
structure Drafted (t : Tree) (directory : Location) (draft : Path) (l : Location) : Prop where
  named : ∃ above name, t.parentAndName directory draft = .ok (above, some name) ∧
    l = above ++ [name]
  free : t.lookup l = none

theorem Drafted.ne_root (h : Drafted t directory draft l) : l ≠ [] := by
  obtain ⟨⟨above, name, -, rfl⟩, -⟩ := h
  simp

theorem Drafted.lookup (h : Drafted t directory draft l) (mode : Nat) (content : ByteArray) :
    (t.set l (.file mode content)).lookup l = some (.file mode content) := by
  rw [lookup_set _ _ h.ne_root, if_pos rfl]

theorem Drafted.locate (h : Drafted t directory draft l) (mode : Nat) (content : ByteArray) :
    (t.set l (.file mode content)).locate directory draft = .ok l := by
  have hthere := h.lookup mode content
  have hup := Upholds.set_file (t := t) mode content (l := l) (by rw [h.free]; simp)
  obtain ⟨⟨above, name, hp, rfl⟩, -⟩ := h
  exact locate_named hp hup (by rw [hthere]; simp)

theorem create_ok {t' : Tree} (h : t.create directory draft mode = .ok (l, t')) :
    Drafted t directory draft l ∧ t' = t.set l (.file mode .empty) := by
  unfold create at h
  split at h
  · cases h
  · cases h
  · rename_i above name hp
    split at h
    · cases h
    · rename_i hfree; cases h; exact ⟨⟨⟨above, name, hp, rfl⟩, hfree⟩, rfl⟩

theorem create_null_iff :
    t.create directory draft mode = .error .nullCharacter ↔ draft.hasNull = true := by
  rw [← @parentAndName_null_iff t directory draft]
  unfold create
  cases t.parentAndName directory draft with
  | error problem => simp
  | ok found =>
    obtain ⟨above, name⟩ := found
    cases name with
    | none => simp
    | some name =>
      cases h : t.lookup (above ++ [name]) with
      | none => simp [h]
      | some node => simp [h]

/-- A draft that has been made is an empty file at a place that was free. -/
theorem makeDraft_ok {draws : Nat → Letters} {attempts : Nat} {letters : Letters} {t' : Tree}
    (h : t.makeDraft directory umask p draws attempts = .ok (letters, l, t')) :
    Drafted t directory (draftAt directory p letters.text) l ∧
      t' = t.set l (.file (masked 0o600 umask) .empty) := by
  induction attempts generalizing draws with
  | zero => cases h
  | succ attempts ih =>
    unfold makeDraft at h
    split at h
    · rename_i hc; cases h; exact create_ok hc
    · exact ih h
    · cases h

/-- Making a draft reports a null character exactly where the path of the draft holds one. -/
theorem makeDraft_null_iff {draws : Nat → Letters} {attempts : Nat} (hsome : attempts ≠ 0) :
    (∃ failure, t.makeDraft directory umask p draws attempts = .error failure ∧
      failure.problem = .nullCharacter) ↔ (draftPath directory p).hasNull = true := by
  constructor
  · rintro ⟨failure, h, hnull⟩
    clear hsome
    induction attempts generalizing draws with
    | zero => cases h; cases hnull
    | succ attempts ih =>
      unfold makeDraft at h
      split at h
      · cases h
      · exact ih h
      · rename_i problem hc
        cases h
        simp only at hnull
        rw [hnull] at hc
        exact (hasNull_draftAt _).mp (create_null_iff.mp hc)
  · intro h
    have hc : t.create directory (draftAt directory p (draws 0).text) (masked 0o600 umask) =
        .error .nullCharacter := create_null_iff.mpr ((hasNull_draftAt (draws 0)).mpr h)
    obtain ⟨attempts, rfl⟩ := Nat.exists_eq_succ_of_ne_zero hsome
    unfold makeDraft
    simp only [hc]
    exact ⟨_, rfl, rfl⟩

/-! ## What is done to a draft -/

theorem setMode_draft (h : Drafted t directory draft l) (mode mode' : Nat) (content : ByteArray) :
    (t.set l (.file mode content)).setMode directory draft mode' =
      .ok (t.set l (.file mode' content)) := by
  unfold setMode
  rw [h.locate]
  simp only [h.lookup, set_set]

theorem fill_draft (h : Drafted t directory draft l) (mode : Nat) (content content' : ByteArray) :
    (t.set l (.file mode content)).fill l content' = t.set l (.file mode content') := by
  unfold fill
  rw [h.lookup]
  simp only [set_set]

theorem unlink_draft (h : Drafted t directory draft l) (mode : Nat) (content : ByteArray) :
    (t.set l (.file mode content)).unlink directory draft = .ok t := by
  unfold unlink
  rw [h.locate]
  simp only [h.lookup, unset_set h.free]

theorem exists_draft (h : Drafted t directory draft l) (mode : Nat) (content : ByteArray) :
    (t.set l (.file mode content)).exists? directory draft = .ok true := by
  unfold exists? leadsTo stat
  rw [h.locate]
  simp only [h.lookup]

/-- A draft that is moved leaves its place, and the place of the target holds its file. -/
theorem move_draft_ok {t' : Tree} (h : Drafted t directory draft l)
    (hm : (t.set l (.file mode content)).move directory draft p = .ok t') :
    (∃ above name, t.parentAndName directory p = .ok (above, some name)) ∧
      t.lookup (p.place directory) ≠ some .directory ∧
      t' = t.set (p.place directory) (.file mode content) := by
  unfold move at hm
  rw [h.locate] at hm
  simp only [h.lookup, unset_set h.free] at hm
  split at hm
  · cases hm
  · cases hm
  · rename_i above name hp
    rw [place_of_parentAndName hp] at hm
    refine ⟨⟨above, name, parentAndName_of_set_file h.ne_root hp⟩, ?_⟩
    split at hm
    · cases hm
    · rename_i hnot
      cases hm
      refine ⟨fun hd => hnot ?_, rfl⟩
      exact (Upholds.set_file mode content (by rw [h.free]; simp)).directories hd

/-- A null character is reported where the path of the target holds one. -/
theorem move_draft_null (h : Drafted t directory draft l)
    (hm : (t.set l (.file mode content)).move directory draft p = .error .nullCharacter) :
    p.hasNull = true := by
  unfold move at hm
  rw [h.locate] at hm
  simp only [h.lookup] at hm
  split at hm
  · rename_i problem hp; cases hm; exact parentAndName_null_iff.mp hp
  · cases hm
  · split at hm <;> cases hm

end Tree

/-! ## The replacement -/

namespace Process

open Scaffold.Files.Tree

variable {s s' : Process} {t : Tree} {directory l : Location} {p draft : Path} {mode umask : Nat}
  {content : ByteArray} {draws : Nat → Letters}

/-- The mask is read and set again. -/
theorem newFileMode_eq (s : Process) : s.newFileMode = (Tree.newFileMode s.umask, s) := rfl

/-- A draft gets its mode and its bytes, and then all turns on moving it. -/
theorem publish_draft (h : Drafted t directory draft l) (umask mode : Nat) (p : Path)
    (content : ByteArray) :
    publish ⟨t.set l (.file mode .empty), umask⟩ directory draft l p content =
      match (t.set l (.file (Tree.newFileMode umask) content)).move directory draft p with
      | .error problem =>
        (.error ⟨problem, (draftPath directory p).text, some p.text⟩,
          ⟨t.set l (.file (Tree.newFileMode umask) content), umask⟩)
      | .ok t' => (.ok (), ⟨t', umask⟩) := by
  unfold publish
  cases hmove : (t.set l (.file (Tree.newFileMode umask) content)).move directory draft p with
  | error problem => simp only [newFileMode_eq, setMode_draft h, fill_draft h, hmove]
  | ok t' => simp only [newFileMode_eq, setMode_draft h, fill_draft h, hmove]

/-- A draft that is discarded leaves all as it was before. -/
theorem discard_draft (h : Drafted t directory draft l) (umask mode : Nat) (content : ByteArray)
    (p : Path) :
    discard ⟨t.set l (.file mode content), umask⟩ directory draft p = (.ok (), ⟨t, umask⟩) := by
  unfold discard
  simp only [exists_draft h, unlink_draft h]

/-- How a replacement ends: no draft is made, or the draft is moved, or it cannot be. -/
inductive Ending (s : Process) (directory : Location) (p : Path) (content : ByteArray) :
    Except Failure Unit × Process → Prop
  | unmade {failure : Failure} {draws : Nat → Letters} :
      s.files.makeDraft directory s.umask p draws draftAttempts = .error failure →
      Ending s directory p content (.error failure, s)
  | moved {letters : Letters} {l : Location} {t : Tree} :
      Drafted s.files directory (draftAt directory p letters.text) l →
      (s.files.set l (.file (Tree.newFileMode s.umask) content)).move directory
        (draftAt directory p letters.text) p = .ok t →
      Ending s directory p content (.ok (), ⟨t, s.umask⟩)
  | unmoved {letters : Letters} {l : Location} {problem : Problem} {s' : Process} :
      Drafted s.files directory (draftAt directory p letters.text) l →
      (s.files.set l (.file (Tree.newFileMode s.umask) content)).move directory
        (draftAt directory p letters.text) p = .error problem →
      (problem ≠ .nullCharacter → s' = s) →
      Ending s directory p content
        (.error ⟨problem, (draftPath directory p).text, some p.text⟩, s')

theorem replace_ending (s : Process) (directory : Location) (draws : Nat → Letters) (p : Path)
    (content : ByteArray) : Ending s directory p content (s.replace directory draws p content) := by
  unfold replace
  cases hmake : s.files.makeDraft directory s.umask p draws draftAttempts with
  | error failure => exact .unmade hmake
  | ok made =>
    obtain ⟨letters, l, t⟩ := made
    obtain ⟨hdraft, rfl⟩ := makeDraft_ok hmake
    simp only [publish_draft hdraft]
    cases hmove : (s.files.set l (.file (Tree.newFileMode s.umask) content)).move directory
        (draftAt directory p letters.text) p with
    | ok t' => exact .moved hdraft hmove
    | error problem =>
      simp only
      by_cases hnull : problem = .nullCharacter
      · rw [if_pos hnull]; exact .unmoved hdraft hmove fun h => absurd hnull h
      · rw [if_neg hnull, discard_draft hdraft]; exact .unmoved hdraft hmove fun _ => rfl

/-- A replacement sets the place of its path, and that place alone; its mode is that of a new file. -/
theorem replace_ok (h : s.replace directory draws p content = (.ok (), s')) :
    (∃ above name, s.files.parentAndName directory p = .ok (above, some name)) ∧
      s.files.lookup (p.place directory) ≠ some .directory ∧
      s' = ⟨s.files.set (p.place directory) (.file (Tree.newFileMode s.umask) content), s.umask⟩ := by
  have hending := replace_ending s directory draws p content
  rw [h] at hending
  cases hending with
  | moved hdraft hmove =>
    obtain ⟨hp, hd, rfl⟩ := move_draft_ok hdraft hmove
    exact ⟨hp, hd, rfl⟩

/-- No null character stands in the path of a draft that has been made. -/
theorem no_null_of_draft {letters : Letters}
    (h : Drafted t directory (draftAt directory p letters.text) l) :
    (draftPath directory p).hasNull = false := by
  obtain ⟨⟨above, name, hp, -⟩, -⟩ := h
  cases hnull : (draftPath directory p).hasNull with
  | false => rfl
  | true =>
    rw [parentAndName_null_iff.mpr ((hasNull_draftAt letters).mpr hnull)] at hp
    cases hp

/-- Once a draft has been made, moving it meets no null character. -/
theorem move_draft_no_null {letters : Letters} {problem : Problem} (hn : p.parent.hasNull = false)
    (h : Drafted t directory (draftAt directory p letters.text) l)
    (hm : (t.set l (.file mode content)).move directory (draftAt directory p letters.text) p =
      .error problem) : problem ≠ .nullCharacter := by
  rintro rfl
  have hnull := no_null_of_draft h
  rw [hasNull_draftPath hn (move_draft_null h hm)] at hnull
  cases hnull

/-- A replacement that fails has changed nothing: no draft is left, and the mask is what it was. -/
theorem replace_error {failure : Failure} (hn : p.parent.hasNull = false)
    (h : s.replace directory draws p content = (.error failure, s')) : s' = s := by
  have hending := replace_ending s directory draws p content
  rw [h] at hending
  cases hending with
  | unmade hmake => rfl
  | unmoved hdraft hmove hsame => exact hsame (move_draft_no_null hn hdraft hmove)

/-- A replacement reports a null character exactly where the path of its draft holds one. -/
theorem replace_null_iff (hn : p.parent.hasNull = false) :
    (∃ failure, (s.replace directory draws p content).1 = .error failure ∧
      failure.problem = .nullCharacter) ↔ (draftPath directory p).hasNull = true := by
  have hending := replace_ending s directory draws p content
  generalize s.replace directory draws p content = result at hending
  cases hending with
  | unmade hmake =>
    rw [← makeDraft_null_iff (by decide : draftAttempts ≠ 0), hmake]
    simp
  | moved hdraft hmove => simp [no_null_of_draft hdraft]
  | unmoved hdraft hmove hsame =>
    simp [no_null_of_draft hdraft, move_draft_no_null hn hdraft hmove]

end Process

end Scaffold.Files
