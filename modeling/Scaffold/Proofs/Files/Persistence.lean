import Scaffold.Proofs.Files.Drafting

/-!
# What failed fails again

Directories stay directories and files stay files, so what keeps a path from being made or written keeps
it from that ever after. The one thing that can change about a path is that something is there by then.

* `Upholds.parentAndName`, `Upholds.tooLong`: how the parts of a path fare later on.
* `Rooted`: places that can be reached from the root by their own names; every absolute path leads to one.
* `makeDirectories_of_isDirectory`: a directory that is there is not made again.
* `makeDirectories_again`: directories that could not be made cannot be made later, and what was made on
  the way is there already.
-/
namespace Scaffold.Files

namespace Tree

variable {t u t' : Tree} {directory l : Location} {p : Path} {problem : Problem} {failure : Failure}

/-! ## Paths later on -/

theorem Upholds.walk_error {names : List String} (h : Upholds t u)
    (hw : t.walk l names = .error problem) (hp : problem ≠ .missing) :
    u.walk l names = .error problem := by
  obtain ⟨above, name, rest, q, rfl, habove, hstep⟩ := walk_stops hw
  have hlater : u.step q name = .error problem := by
    rcases step_error hstep with ⟨rfl, -⟩ | ⟨rfl, mode, content, hfile⟩ | ⟨rfl, hd, hdots, hlong⟩
    · exact absurd rfl hp
    · obtain ⟨mode', content', hfile'⟩ := h.files hfile
      unfold step
      rw [hfile']
    · unfold step
      rw [h.directories hd]
      simp only [if_neg hdots, gt_iff_lt, if_pos hlong]
  rw [walk_append, h.walk habove]
  simp only [walk_cons, hlater]

/-- What is found out of the directory and the last name of a path is found out later too, unless it was
that something is missing. -/
theorem Upholds.parentAndName {found : Except Problem (Location × Option String)} (h : Upholds t u)
    (hp : t.parentAndName directory p = found) (hfound : found ≠ .error .missing) :
    u.parentAndName directory p = found := by
  unfold Tree.parentAndName at hp ⊢
  cases hc : checkPath p with
  | error problem => simpa only [hc] using hp
  | ok checked =>
    simp only [hc] at hp ⊢
    cases hw : t.walk (start directory p) p.names.dropLast with
    | error problem =>
      simp only [hw] at hp
      rw [h.walk_error hw (by rintro rfl; exact hfound hp.symm)]
      exact hp
    | ok q =>
      simp only [hw] at hp
      simp only [h.walk hw]
      cases hq : t.lookup q with
      | none =>
        simp only [hq] at hp
        exact absurd hp.symm hfound
      | some node =>
        cases node with
        | directory => simpa only [hq, h.directories hq] using hp
        | file mode content =>
          obtain ⟨mode', content', hq'⟩ := h.files hq
          simpa only [hq, hq'] using hp

/-- A path that is refused for its length is refused later. -/
theorem Upholds.tooLong (h : Upholds t u) (hp : t.TooLong directory p) : u.TooLong directory p := by
  obtain ⟨hn, hlong | ⟨above, name, rest, q, hnames, hw, hd, hdots, hlong⟩⟩ := hp
  · exact ⟨hn, Or.inl hlong⟩
  · exact ⟨hn, Or.inr ⟨above, name, rest, q, hnames, h.walk hw, h.directories hd, hdots, hlong⟩⟩

/-- What a path leads to. -/
theorem exists_eq_true_iff :
    t.exists? directory p = .ok true ↔ ∃ l, t.locate directory p = .ok l ∧ t.lookup l ≠ none := by
  unfold exists? leadsTo stat
  cases hl : t.locate directory p with
  | error problem => cases problem <;> simp [Problem.meansAbsent]
  | ok l => cases hn : t.lookup l <;> simp [hn, Problem.meansAbsent]

theorem isDirectory_eq_true_iff :
    t.isDirectory directory p = .ok true ↔
      ∃ l, t.locate directory p = .ok l ∧ t.lookup l = some .directory := by
  unfold isDirectory leadsTo stat
  cases hl : t.locate directory p with
  | error problem => cases problem <;> simp [Problem.meansAbsent]
  | ok l =>
    cases hn : t.lookup l with
    | none => simp [hn, Problem.meansAbsent]
    | some node => cases node <;> simp [hn, Node.isDirectory]

theorem exists_of_isDirectory (h : t.isDirectory directory p = .ok true) :
    t.exists? directory p = .ok true := by
  obtain ⟨l, hl, hd⟩ := isDirectory_eq_true_iff.mp h
  exact exists_eq_true_iff.mpr ⟨l, hl, by rw [hd]; simp⟩

theorem Upholds.exists_true (h : Upholds t u) (hp : t.exists? directory p = .ok true) :
    u.exists? directory p = .ok true := by
  obtain ⟨l, hl, hn⟩ := exists_eq_true_iff.mp hp
  exact exists_eq_true_iff.mpr ⟨l, h.locate hl, h.there hn⟩

theorem Upholds.isDirectory (h : Upholds t u) (hp : t.isDirectory directory p = .ok true) :
    u.isDirectory directory p = .ok true := by
  obtain ⟨l, hl, hd⟩ := isDirectory_eq_true_iff.mp hp
  exact isDirectory_eq_true_iff.mpr ⟨l, h.locate hl, h.directories hd⟩

/-- What leads nowhere later led nowhere before. -/
theorem Upholds.exists_false (h : Upholds t u) (hp : u.exists? directory p = .ok false) :
    t.exists? directory p = .ok false := by
  cases ht : t.exists? directory p with
  | error failure =>
    rw [Tree.exists?, leadsTo_eq_error _ (h.tooLong (leadsTo_error_iff.mp ht).1)] at hp
    cases hp
  | ok found =>
    cases found with
    | false => rfl
    | true => rw [h.exists_true ht] at hp; cases hp

/-! ## Ways from the root -/

/-- A place to which its own names lead from the root. -/
def Rooted (t : Tree) (l : Location) : Prop := t.walk [] l = .ok l

theorem rooted_root (t : Tree) : t.Rooted [] := rfl

theorem Rooted.no_dots (h : t.Rooted l) : ".." ∉ l := by
  rw [eq_place_of_walk h]
  exact dots_not_mem_follow List.not_mem_nil

/-- The place above a rooted one is rooted, and a directory. -/
theorem Rooted.above {above : Location} {name : String} (h : t.Rooted (above ++ [name])) :
    t.Rooted above ∧ t.lookup above = some .directory := by
  have hdots := h.no_dots
  unfold Rooted at h ⊢
  rw [walk_append] at h
  split at h
  · rename_i q hw
    have hq : q = above := by
      rw [eq_place_of_walk hw, foldl_follow, List.nil_append]
      exact fun hmem => hdots (List.mem_append_left _ hmem)
    rw [walk_cons] at h
    split at h
    · rename_i next hs
      rw [← hq]
      exact ⟨by rw [hq] at hw ⊢; exact hw, (step_ok hs).1⟩
    · cases h
  · cases h

theorem Rooted.step {next : Location} {name : String} (h : t.Rooted l)
    (hs : t.step l name = .ok next) : t.Rooted next := by
  obtain ⟨-, hnext⟩ := step_ok hs
  unfold Path.follow at hnext
  split at hnext
  · rw [hnext]
    rcases List.eq_nil_or_concat l with rfl | ⟨above, last, rfl⟩
    · exact rooted_root t
    · rw [List.concat_eq_append] at h ⊢
      rw [List.dropLast_concat]
      exact h.above.1
  · unfold Rooted at h ⊢
    rw [hnext] at hs ⊢
    rw [walk_append, h]
    simp only [walk_cons, hs]
    rfl

theorem Rooted.walk {q : Location} {names : List String} (h : t.Rooted l)
    (hw : t.walk l names = .ok q) : t.Rooted q := by
  induction names generalizing l with
  | nil => cases hw; exact h
  | cons name rest ih =>
    rw [walk_cons] at hw
    split at hw
    · rename_i next hs; exact ih (h.step hs) hw
    · cases hw

/-- Above a directory that an absolute path leads to there is a directory. -/
theorem Rooted.dropLast (h : t.Rooted l) (hd : t.lookup l = some .directory) :
    t.lookup l.dropLast = some .directory := by
  rcases List.eq_nil_or_concat l with rfl | ⟨above, name, rfl⟩
  · exact hd
  · rw [List.concat_eq_append] at h ⊢
    rw [List.dropLast_concat]
    exact h.above.2

theorem isAbsolute_parent (habs : p.isAbsolute = true) : p.parent.isAbsolute = true := habs

theorem start_absolute (habs : p.isAbsolute = true) : start directory p = [] := if_pos habs

/-- An absolute path without a last name leads to a directory if the names before can be followed. -/
theorem isDirectory_of_unnamed (habs : p.isAbsolute = true)
    (hp : t.parentAndName directory p = .ok (l, none)) : t.isDirectory directory p = .ok true := by
  have hc := parentAndName_checked hp
  rw [isDirectory_eq_true_iff, locate_ok hc, start_absolute habs]
  unfold parentAndName at hp
  simp only [hc, start_absolute habs] at hp
  split at hp
  · cases hp
  · rename_i q hw
    split at hp
    · cases hp
    · cases hp
    · rename_i hd
      split at hp
      · rename_i hlast
        rw [List.getLast?_eq_none_iff.mp hlast]
        exact ⟨[], rfl, lookup_root t⟩
      · rename_i name hlast
        split at hp
        · rename_i hdots
          obtain ⟨above, habove⟩ := List.getLast?_eq_some_iff.mp hlast
          rw [habove, List.dropLast_concat] at hw
          have hrooted := (rooted_root t).walk hw
          refine ⟨q.dropLast, ?_, hrooted.dropLast hd⟩
          have hstep : t.step q name = .ok q.dropLast := by
            unfold step
            rw [hd]
            simp only [if_pos hdots]
          rw [habove, walk_append, hw]
          simp only [walk_cons, hstep]
          rfl
        · split at hp <;> cases hp

/-! ## Directories -/

/-- The bytes of an absolute path. -/
theorem utf8ByteSize_text {anchor : Anchor} (habs : anchor ≠ .relative) (names : List String) :
    (⟨anchor, names⟩ : Path).text.utf8ByteSize =
      anchor.text.utf8ByteSize + (String.intercalate "/" names).utf8ByteSize := by
  have hne : anchor.text ≠ "" := by cases anchor <;> simp_all [Anchor.text]
  unfold Path.text
  simp [hne]

theorem utf8ByteSize_intercalate_append (above : List String) (name : String) :
    (String.intercalate "/" (above ++ [name])).utf8ByteSize =
      (if above = [] then 0 else (String.intercalate "/" above).utf8ByteSize + 1) +
        name.utf8ByteSize := by
  cases above with
  | nil => simp
  | cons first rest =>
    rw [String.intercalate_append_of_ne_nil (by simp) (by simp), String.intercalate_singleton,
      String.utf8ByteSize_append, String.utf8ByteSize_append, if_neg (by simp)]
    rfl

/-- The part of an absolute path before its last name is no longer than the path. -/
theorem utf8ByteSize_above_le {anchor : Anchor} (habs : anchor ≠ .relative) (above : List String)
    (name : String) :
    (⟨anchor, above⟩ : Path).text.utf8ByteSize ≤
      (⟨anchor, above ++ [name]⟩ : Path).text.utf8ByteSize := by
  rw [utf8ByteSize_text habs, utf8ByteSize_text habs, utf8ByteSize_intercalate_append]
  split
  · rename_i hnil
    simp [hnil]
  · omega

/-- What an absolute path leads over can be used if the path can. -/
theorem checkPath_above {anchor : Anchor} {name : String} {above : List String}
    (habs : anchor ≠ .relative) (h : checkPath ⟨anchor, (name :: above).reverse⟩ = .ok ()) :
    checkPath ⟨anchor, above.reverse⟩ = .ok () := by
  obtain ⟨hn, hshort⟩ := checkPath_ok h
  have hle := utf8ByteSize_above_le habs above.reverse name
  rw [List.reverse_cons] at hshort
  unfold checkPath
  rw [if_neg (by rw [hasNull_above hn]; simp), if_neg (by omega)]

/-- A directory that an absolute path can name its last name in is there. -/
theorem isDirectory_of_parent {anchor : Anchor} {name : String} {above : List String}
    {found : Location × Option String} (habs : anchor ≠ .relative)
    (hp : t.parentAndName directory ⟨anchor, (name :: above).reverse⟩ = .ok found) :
    t.isDirectory directory ⟨anchor, above.reverse⟩ = .ok true := by
  have hc := parentAndName_checked hp
  rw [isDirectory_eq_true_iff, locate_ok (checkPath_above habs hc)]
  unfold parentAndName at hp
  rw [hc, List.reverse_cons] at hp
  simp only [List.dropLast_concat] at hp
  split at hp
  · cases hp
  · rename_i q hw
    refine ⟨q, hw, ?_⟩
    cases hq : t.lookup q with
    | none => simp only [hq] at hp; cases hp
    | some node =>
      cases node with
      | directory => rfl
      | file mode content => simp only [hq] at hp; cases hp

/-- Nothing is missing on the way to the last name of a path if the directory for it is there. -/
theorem parentAndName_of_above {anchor : Anchor} {name : String} {above : List String}
    (h : t.isDirectory directory ⟨anchor, above.reverse⟩ = .ok true) :
    t.parentAndName directory ⟨anchor, (name :: above).reverse⟩ ≠ .error .missing := by
  intro hp
  obtain ⟨q, hq, hd⟩ := isDirectory_eq_true_iff.mp h
  have hw : t.walk (start directory ⟨anchor, (name :: above).reverse⟩) above.reverse = .ok q := by
    unfold locate at hq
    split at hq
    · cases hq
    · exact hq
  cases hc : checkPath ⟨anchor, (name :: above).reverse⟩ with
  | error problem =>
    unfold parentAndName at hp
    rw [hc] at hp
    cases hp
    rcases checkPath_error hc with ⟨he, -⟩ | ⟨he, -⟩ <;> cases he
  | ok checked =>
    have hw' : t.walk (start directory ⟨anchor, (name :: above).reverse⟩)
        ((name :: above).reverse).dropLast = .ok q := by
      rw [List.reverse_cons, List.dropLast_concat]; exact hw
    rw [parentAndName_of_walk hc hw' hd] at hp
    split at hp
    · cases hp
    · split at hp
      · cases hp
      · split at hp <;> cases hp

/-- A path that leads somewhere names its last name, if it has one, in a directory. -/
theorem parentAndName_of_locate (h : t.locate directory p = .ok l)
    (hl : t.lookup l = some .directory) :
    ∃ above, t.parentAndName directory p = .ok (above, none) ∨
      ∃ name, t.parentAndName directory p = .ok (above, some name) ∧ l = above ++ [name] := by
  unfold locate at h
  split at h
  · cases h
  · rename_i hc
    rcases List.eq_nil_or_concat p.names with hnames | ⟨above, name, hnames⟩
    · rw [hnames] at h
      cases h
      have hw : t.walk (start directory p) p.names.dropLast = .ok (start directory p) := by
        rw [hnames]; rfl
      exact ⟨_, Or.inl (by rw [parentAndName_of_walk hc hw hl, hnames]; rfl)⟩
    · rw [List.concat_eq_append] at hnames
      rw [hnames, walk_append] at h
      split at h
      · rename_i q hw
        rw [walk_cons] at h
        split at h
        · rename_i next hs
          cases h
          have hw' : t.walk (start directory p) p.names.dropLast = .ok q := by
            rw [hnames, List.dropLast_concat]; exact hw
          have hlast : p.names.getLast? = some name := by rw [hnames, List.getLast?_concat]
          have hpath := parentAndName_of_walk hc hw' (step_ok hs).1
          rw [hlast] at hpath
          simp only at hpath
          by_cases hdots : name = ".."
          · rw [if_pos hdots] at hpath; exact ⟨q, Or.inl hpath⟩
          · have hnext := (step_ok hs).2
            rw [Path.follow, if_neg hdots] at hnext
            rw [if_neg hdots, if_neg] at hpath
            · exact ⟨q, Or.inr ⟨name, hpath, hnext⟩⟩
            · intro hlong
              unfold step at hs
              rw [(step_ok hs).1] at hs
              simp only [if_neg hdots, if_pos hlong] at hs
              cases hs
        · cases h
      · cases h

/-- A directory that is there cannot be made. -/
theorem makeDirectory_of_isDirectory (h : t.isDirectory directory p = .ok true) :
    t.makeDirectory directory p = .error .alreadyThere := by
  obtain ⟨l, hl, hd⟩ := isDirectory_eq_true_iff.mp h
  unfold makeDirectory
  obtain ⟨above, hp | ⟨name, hp, rfl⟩⟩ := parentAndName_of_locate hl hd
  · simp only [hp]
  · simp only [hp, hd]

theorem makeDirectory_of_above {anchor : Anchor} {name : String} {above : List String}
    (h : t.isDirectory directory ⟨anchor, above.reverse⟩ = .ok true) :
    t.makeDirectory directory ⟨anchor, (name :: above).reverse⟩ ≠ .error .missing := by
  intro hmake
  unfold makeDirectory at hmake
  split at hmake
  · rename_i problem hp
    cases hmake
    exact parentAndName_of_above h hp
  · cases hmake
  · split at hmake <;> cases hmake

theorem isDirectory_above_of_makeDirectory {anchor : Anchor} {name : String} {above : List String}
    (habs : anchor ≠ .relative)
    (h : t.makeDirectory directory ⟨anchor, (name :: above).reverse⟩ = .ok t') :
    t.isDirectory directory ⟨anchor, above.reverse⟩ = .ok true := by
  unfold makeDirectory at h
  split at h
  · cases h
  · cases h
  · rename_i hp; exact isDirectory_of_parent habs hp

/-- Above a directory that an absolute path leads to there is a directory. -/
theorem isDirectory_above {anchor : Anchor} {name : String} {above : List String}
    (habs : anchor ≠ .relative)
    (h : t.isDirectory directory ⟨anchor, (name :: above).reverse⟩ = .ok true) :
    t.isDirectory directory ⟨anchor, above.reverse⟩ = .ok true := by
  obtain ⟨l, hl, hd⟩ := isDirectory_eq_true_iff.mp h
  obtain ⟨q, hp | ⟨name', hp, -⟩⟩ := parentAndName_of_locate hl hd
  · exact isDirectory_of_parent habs hp
  · exact isDirectory_of_parent habs hp

theorem acceptExisting_of_isDirectory (h : t.isDirectory directory p = .ok true) :
    t.acceptExisting directory p .alreadyThere = .ok () := by
  unfold acceptExisting
  simp [h]

theorem acceptExisting_ok (h : t.acceptExisting directory p problem = .ok ()) :
    t.isDirectory directory p = .ok true := by
  unfold acceptExisting at h
  split at h
  · cases h
  · split at h
    · assumption
    · cases h
    · cases h

/-- A directory that is there is not made again. -/
theorem makeDirectoriesFrom_of_isDirectory {anchor : Anchor} {names : List String}
    (h : t.isDirectory directory ⟨anchor, names.reverse⟩ = .ok true) :
    t.makeDirectoriesFrom directory anchor names = (.ok (), t) := by
  have hmake := makeDirectory_of_isDirectory h
  have haccept := acceptExisting_of_isDirectory h
  cases names with
  | nil =>
    unfold makeDirectoriesFrom
    simp only [List.reverse_nil] at hmake haccept
    simp only [hmake, haccept]
  | cons name above =>
    unfold makeDirectoriesFrom
    simp only [hmake, haccept]

theorem makeDirectories_of_isDirectory (h : t.isDirectory directory p = .ok true) :
    t.makeDirectories directory p = (.ok (), t) :=
  makeDirectoriesFrom_of_isDirectory (by rw [List.reverse_reverse]; exact h)

/-- A directory that was made is there. -/
theorem isDirectory_of_makeDirectory (h : t.makeDirectory directory p = .ok t') :
    t'.isDirectory directory p = .ok true := by
  have hgrows := makeDirectory_grows h
  unfold makeDirectory at h
  split at h
  · cases h
  · cases h
  · rename_i q name hp
    split at h
    · cases h
    · cases h
      have hthere : (t.set (q ++ [name]) .directory).lookup (q ++ [name]) = some .directory := by
        rw [lookup_set _ _ (by simp), if_pos rfl]
      exact isDirectory_eq_true_iff.mpr
        ⟨_, locate_named hp hgrows.upholds (by rw [hthere]; simp), hthere⟩

/-- Directories that were made are there. -/
theorem isDirectory_of_makeDirectoriesFrom {anchor : Anchor} {names : List String}
    (h : t.makeDirectoriesFrom directory anchor names = (.ok (), t')) :
    t'.isDirectory directory ⟨anchor, names.reverse⟩ = .ok true := by
  cases names with
  | nil =>
    unfold makeDirectoriesFrom at h
    split at h
    · rename_i t'' hmake; cases h; exact isDirectory_of_makeDirectory hmake
    · obtain ⟨haccept, rfl⟩ := Prod.mk.inj h; exact acceptExisting_ok haccept
  | cons name above =>
    unfold makeDirectoriesFrom at h
    simp only at h
    split at h
    · rename_i t'' hmake; cases h; exact isDirectory_of_makeDirectory hmake
    · split at h
      · cases h
      · split at h
        · rename_i t'' hmake; cases h; exact isDirectory_of_makeDirectory hmake
        · cases h
        · obtain ⟨haccept, rfl⟩ := Prod.mk.inj h; exact acceptExisting_ok haccept
    · obtain ⟨haccept, rfl⟩ := Prod.mk.inj h; exact acceptExisting_ok haccept

theorem isDirectory_of_makeDirectories (h : t.makeDirectories directory p = (.ok (), t')) :
    t'.isDirectory directory p = .ok true := by
  have hmade := isDirectory_of_makeDirectoriesFrom h
  rw [List.reverse_reverse] at hmade
  exact hmade

/-! ## Directories that cannot be made -/

/-- A path at which no directory is and none can be made, for another cause than a missing directory
above it. -/
structure Barred (t : Tree) (directory : Location) (p : Path) (problem : Problem) : Prop where
  refused : t.makeDirectory directory p = .error problem
  notMissing : problem ≠ .missing
  absent : t.isDirectory directory p ≠ .ok true

theorem Barred.acceptExisting (h : Barred t directory p problem) :
    ∃ failure, t.acceptExisting directory p problem = .error failure := by
  cases ha : t.acceptExisting directory p problem with
  | error failure => exact ⟨failure, rfl⟩
  | ok u => exact absurd (acceptExisting_ok ha) h.absent

theorem Barred.makeDirectoriesFrom {anchor : Anchor} {name : String} {above : List String}
    (h : Barred t directory ⟨anchor, (name :: above).reverse⟩ problem) :
    ∃ failure, t.makeDirectoriesFrom directory anchor (name :: above) = (.error failure, t) := by
  obtain ⟨failure, hf⟩ := h.acceptExisting
  have hmissing := h.notMissing
  refine ⟨failure, ?_⟩
  unfold Tree.makeDirectoriesFrom
  simp only [h.refused]
  cases problem with
  | missing => exact absurd rfl hmissing
  | _ => simp only [hf]

theorem barred_of_accept (hmake : t.makeDirectory directory p = .error problem)
    (hp : problem ≠ .missing) (ha : t.acceptExisting directory p problem = .error failure) :
    Barred t directory p problem := by
  refine ⟨hmake, hp, fun hd => ?_⟩
  rw [makeDirectory_of_isDirectory hd] at hmake
  cases hmake
  rw [acceptExisting_of_isDirectory hd] at ha
  cases ha

/-- What keeps a directory from being made keeps it from that ever after. -/
theorem Barred.later (h : Barred t directory p problem) (habs : p.isAbsolute = true)
    (hup : Upholds t u) : Barred u directory p problem := by
  have hrefused := h.refused
  unfold makeDirectory at hrefused
  split at hrefused
  · rename_i problem' hp
    cases hrefused
    have hlater := hup.parentAndName hp (by simpa using h.notMissing)
    have hmake : u.makeDirectory directory p = .error problem := by
      unfold makeDirectory; rw [hlater]
    refine ⟨hmake, h.notMissing, fun hd => ?_⟩
    obtain ⟨l, hl, hl'⟩ := isDirectory_eq_true_iff.mp hd
    obtain ⟨above, hp' | ⟨name, hp', -⟩⟩ := parentAndName_of_locate hl hl' <;>
      rw [hlater] at hp' <;> cases hp'
  · rename_i hp; exact absurd (isDirectory_of_unnamed habs hp) h.absent
  · rename_i q name hp
    split at hrefused
    · rename_i node hnode
      cases hrefused
      cases node with
      | directory =>
        have hthere : t.locate directory p = .ok (q ++ [name]) :=
          locate_named hp (.refl t) (by rw [hnode]; simp)
        exact absurd (isDirectory_eq_true_iff.mpr ⟨_, hthere, hnode⟩) h.absent
      | file mode content =>
        obtain ⟨mode', content', hfile⟩ := hup.files hnode
        have hlater := hup.parentAndName hp (by simp)
        refine ⟨by unfold makeDirectory; simp only [hlater, hfile], by simp, fun hd => ?_⟩
        obtain ⟨l, hl, hl'⟩ := isDirectory_eq_true_iff.mp hd
        rw [locate_named hp hup (by rw [hfile]; simp)] at hl
        cases hl
        rw [hfile] at hl'
        cases hl'
    · cases hrefused

/-- Directories that could not be made cannot be made later, and what was made on the way is there. -/
theorem makeDirectoriesFrom_again {anchor : Anchor} {names : List String}
    (habs : anchor ≠ .relative)
    (h : t.makeDirectoriesFrom directory anchor names = (.error failure, t')) (hup : Upholds t' u) :
    ∃ failure', u.makeDirectoriesFrom directory anchor names = (.error failure', u) := by
  have habsolute : ∀ names, (⟨anchor, names⟩ : Path).isAbsolute = true := by
    intro names
    unfold Path.isAbsolute
    simpa using habs
  induction names generalizing t t' failure with
  | nil =>
    have hroot : t.isDirectory directory ⟨anchor, [].reverse⟩ = .ok true := by
      have hc : checkPath ⟨anchor, []⟩ = .ok () := by cases anchor <;> rfl
      rw [isDirectory_eq_true_iff, List.reverse_nil, locate_ok hc, start_absolute (habsolute [])]
      exact ⟨[], rfl, lookup_root t⟩
    rw [makeDirectoriesFrom_of_isDirectory hroot] at h
    cases h
  | cons name above ih =>
    unfold makeDirectoriesFrom at h
    simp only at h
    split at h
    · cases h
    · split at h
      · rename_i failure' t'' habove
        cases h
        obtain ⟨failure'', hagain⟩ := ih habove hup
        -- The directory above is not there, so the path can be refused for this alone.
        have hnone : u.isDirectory directory ⟨anchor, above.reverse⟩ ≠ .ok true := by
          intro hd
          rw [makeDirectoriesFrom_of_isDirectory hd] at hagain
          cases hagain
        have hrefused : u.makeDirectory directory ⟨anchor, (name :: above).reverse⟩ =
            .error .missing ∨
            ∃ problem, Barred u directory ⟨anchor, (name :: above).reverse⟩ problem := by
          cases hmake : u.makeDirectory directory ⟨anchor, (name :: above).reverse⟩ with
          | ok made => exact absurd (isDirectory_above_of_makeDirectory habs hmake) hnone
          | error problem =>
            by_cases hp : problem = .missing
            · rw [hp]; exact Or.inl rfl
            · exact Or.inr ⟨problem, hmake, hp, fun hd => hnone (isDirectory_above habs hd)⟩
        rcases hrefused with hmissing | ⟨problem, hbarred⟩
        · unfold makeDirectoriesFrom
          simp only [hmissing, hagain]
          exact ⟨_, rfl⟩
        · exact hbarred.makeDirectoriesFrom
      · rename_i t'' habove
        have hthere := isDirectory_of_makeDirectoriesFrom habove
        split at h
        · cases h
        · rename_i hmake; exact absurd hmake (makeDirectory_of_above hthere)
        · rename_i problem hmissing hmake
          obtain ⟨haccept, rfl⟩ := Prod.mk.inj h
          have hbarred := barred_of_accept hmake (by rintro rfl; exact hmissing rfl) haccept
          exact (hbarred.later (habsolute _) hup).makeDirectoriesFrom
    · rename_i problem hmissing hmake
      obtain ⟨haccept, rfl⟩ := Prod.mk.inj h
      have hbarred := barred_of_accept hmake (by rintro rfl; exact hmissing rfl) haccept
      exact (hbarred.later (habsolute _) hup).makeDirectoriesFrom

theorem makeDirectories_again (habs : p.isAbsolute = true)
    (h : t.makeDirectories directory p = (.error failure, t')) (hup : Upholds t' u) :
    ∃ failure', u.makeDirectories directory p = (.error failure', u) := by
  refine makeDirectoriesFrom_again ?_ h hup
  unfold Path.isAbsolute at habs
  simpa using habs

end Tree

end Scaffold.Files
