import Scaffold.Proofs.Files.Lookup

/-!
# Everything stands in a directory

In a file system as the system keeps it, whatever stands somewhere stands in a directory. Making
directories and writing files keep it so.

* `WellFormed`, `makeDirectories_wellFormed`, `WellFormed.set_place`: this shape, and that it is
  kept.
* `WellFormed.lookup_of_missing`: nothing stands at the place of a path that goes up nowhere and leads
  nowhere.
* `dots_of_hidden_file`: so a file at the place that a path names can be missed by looking the path up
  only if the path goes up again by `..`.
-/
namespace Scaffold.Files.Tree

/-- Whatever stands in a tree stands in a directory. -/
def WellFormed (t : Tree) : Prop :=
  ∀ l name node, t.lookup (l ++ [name]) = some node → t.lookup l = some .directory

theorem WellFormed.set {t : Tree} {l : Location} {name : String} {node : Node}
    (h : t.WellFormed) (hl : t.lookup l = some .directory)
    (hn : node = .directory ∨ t.lookup (l ++ [name]) ≠ some .directory) :
    (t.set (l ++ [name]) node).WellFormed := by
  intro q name' node' hq
  have hold : t.lookup q = some .directory := by
    rw [lookup_set _ _ (by simp)] at hq
    split at hq
    · rename_i heq
      obtain ⟨rfl, -⟩ := List.append_inj' heq rfl
      exact hl
    · exact h q name' node' hq
  rw [lookup_set _ _ (by simp)]
  split
  · rename_i heq
    rcases hn with rfl | hn
    · rfl
    · rw [← heq] at hn; exact absurd hold hn
  · exact hold

theorem makeDirectory_wellFormed {t t' : Tree} {directory : Location} {p : Path}
    (h : t.makeDirectory directory p = .ok t') (hw : t.WellFormed) : t'.WellFormed := by
  obtain ⟨l, name, hl, -, rfl⟩ := makeDirectory_ok h
  exact hw.set hl (Or.inl rfl)

theorem makeDirectories_wellFormed {t : Tree} (directory : Location) (p : Path)
    (h : t.WellFormed) : (t.makeDirectories directory p).2.WellFormed :=
  @makeDirectories_rel (fun t t' => t.WellFormed → t'.WellFormed) directory p (fun _ h => h)
    (fun h h' hw => h' (h hw)) (fun _ => makeDirectory_wellFormed) t h

/-- Setting the place of a path that has a directory and a last name keeps the shape. -/
theorem WellFormed.set_place {t : Tree} {directory : Location} {p : Path} {node : Node}
    (h : t.WellFormed) (hp : ∃ l name, t.parentAndName directory p = .ok (l, some name))
    (hd : t.lookup (p.place directory) ≠ some .directory) :
    (t.set (p.place directory) node).WellFormed := by
  obtain ⟨l, name, hp⟩ := hp
  rw [← place_of_parentAndName hp] at hd ⊢
  exact h.set (parentAndName_ok hp).2.1 (Or.inr hd)

/-- Nothing stands below a place at which nothing stands. -/
theorem WellFormed.below {t : Tree} (h : t.WellFormed) {l : Location}
    (hl : t.lookup l = none) (rest : List String) : t.lookup (l ++ rest) = none := by
  induction rest generalizing l with
  | nil => rw [List.append_nil]; exact hl
  | cons name rest ih =>
    have hnext : t.lookup (l ++ [name]) = none := by
      cases hn : t.lookup (l ++ [name]) with
      | none => rfl
      | some node => rw [h l name node hn] at hl; cases hl
    rw [List.append_cons]
    exact ih hnext

/-- Whatever stands below a place, a directory stands at it. -/
theorem WellFormed.above {t : Tree} (h : t.WellFormed) {l rest : List String} {name : String}
    (hl : t.lookup (l ++ name :: rest) ≠ none) : t.lookup l = some .directory := by
  cases hn : t.lookup (l ++ [name]) with
  | none =>
    rw [List.append_cons, h.below hn rest] at hl
    exact absurd rfl hl
  | some node => exact h l name node hn

/-! ## Paths that hide a file -/

theorem directory_of_walk {t : Tree} {q l : Location} {names : List String}
    (hw : t.walk q names = .ok l) (hl : t.lookup l = some .directory) :
    t.lookup q = some .directory := by
  cases names with
  | nil => cases hw; exact hl
  | cons name rest =>
    rw [walk_cons] at hw
    split at hw
    · rename_i next hs; exact (step_ok hs).1
    · cases hw

theorem foldl_follow {names : List String} (h : ".." ∉ names) (l : Location) :
    names.foldl Path.follow l = l ++ names := by
  induction names generalizing l with
  | nil => simp
  | cons name rest ih =>
    rw [List.mem_cons, not_or] at h
    rw [List.foldl_cons, ih h.2, Path.follow, if_neg (Ne.symm h.1), List.append_assoc]
    rfl

/-- A place that was reached by following names has no `..` among its own. -/
theorem dots_not_mem_follow {l : Location} {names : List String} (h : ".." ∉ l) :
    ".." ∉ names.foldl Path.follow l := by
  induction names generalizing l with
  | nil => exact h
  | cons name rest ih =>
    rw [List.foldl_cons]
    apply ih
    unfold Path.follow
    split
    · exact fun hmem => h (List.dropLast_subset _ hmem)
    · rename_i hdots
      rw [List.mem_append, List.mem_singleton, not_or]
      exact ⟨h, Ne.symm hdots⟩

theorem locate_ok {t : Tree} {directory : Location} {p : Path} (h : checkPath p = .ok ()) :
    t.locate directory p = t.walk (start directory p) p.names := by
  unfold locate; rw [h]

theorem walk_of_locate {t : Tree} {directory l : Location} {p : Path}
    (h : t.locate directory p = .ok l) :
    checkPath p = .ok () ∧ t.walk (start directory p) p.names = .ok l := by
  unfold locate at h
  split at h
  · cases h
  · rename_i hc; exact ⟨hc, h⟩

/-- A path that leads somewhere leads there also in a tree that upholds the one before. -/
theorem Upholds.locate {t t' : Tree} (h : Upholds t t') {directory l : Location} {p : Path}
    (hp : t.locate directory p = .ok l) : t'.locate directory p = .ok l := by
  unfold Tree.locate at hp ⊢
  split at hp
  · cases hp
  · exact h.walk hp

theorem parentAndName_checked {t : Tree} {directory : Location} {p : Path}
    {found : Location × Option String} (h : t.parentAndName directory p = .ok found) :
    checkPath p = .ok () := by
  unfold parentAndName at h
  split at h
  · cases h
  · rename_i hc; exact hc

/-- A path without a null character at which there is nothing is short enough to be looked up. -/
theorem checkPath_of_missing {t : Tree} {directory : Location} {p : Path} (hn : p.hasNull = false)
    (hmiss : t.exists? directory p = .ok false) : checkPath p = .ok () := by
  cases hc : checkPath p with
  | ok checked => rfl
  | error problem =>
    rcases checkPath_error hc with ⟨-, hnull⟩ | ⟨rfl, -, hlong⟩
    · rw [hn] at hnull; cases hnull
    · rw [exists?, leadsTo_eq_error _ ⟨hn, Or.inl hlong⟩] at hmiss; cases hmiss

/-- Where a look-up stops that finds nothing. -/
theorem walk_of_missing {t : Tree} {directory : Location} {p : Path} (hn : p.hasNull = false)
    (hmiss : t.exists? directory p = .ok false) :
    (∃ problem, t.walk (start directory p) p.names = .error problem ∧ problem ≠ .nameTooLong) ∨
      ∃ q, t.walk (start directory p) p.names = .ok q ∧ t.lookup q = none := by
  have hc := checkPath_of_missing hn hmiss
  rw [exists_eq_false_iff, locate_ok hc] at hmiss
  rcases hmiss with h | h | h | h
  · exact Or.inl ⟨_, h, by simp⟩
  · exact Or.inl ⟨_, h, by simp⟩
  · exact Or.inl ⟨_, h, by simp⟩
  · exact Or.inr h

/-- Nothing stands at the place of a path that goes up nowhere and leads nowhere. -/
theorem WellFormed.lookup_of_missing {t : Tree} {directory : Location} {p : Path}
    (h : t.WellFormed) (habs : p.isAbsolute = true) (hdots : ".." ∉ p.names)
    (hn : p.hasNull = false) (hmiss : t.exists? directory p = .ok false) :
    t.lookup p.names = none := by
  have hstart : start directory p = [] := if_pos habs
  apply Classical.byContradiction
  intro hthere
  rcases walk_of_missing hn hmiss with ⟨problem, hwalk, hshort⟩ | ⟨q, hwalk, hq⟩
  · rw [hstart] at hwalk
    obtain ⟨above, name, rest, q, hsplit, habove, hstep⟩ := walk_stops hwalk
    have hq : q = above := by
      rw [hsplit, List.mem_append, not_or] at hdots
      rw [eq_place_of_walk habove, foldl_follow hdots.1]
      rfl
    rw [hsplit] at hthere
    have hdirectory := h.above hthere
    rw [hq] at hstep
    rcases step_error hstep with ⟨-, hnone | ⟨-, -, hnext⟩⟩ | ⟨-, mode, content, hfile⟩ | ⟨rfl, -⟩
    · rw [hdirectory] at hnone; cases hnone
    · rw [List.append_cons, h.below hnext rest] at hthere
      exact hthere rfl
    · rw [hdirectory] at hfile; cases hfile
    · exact hshort rfl
  · rw [hstart] at hwalk
    rw [eq_place_of_walk hwalk, foldl_follow hdots] at hq
    exact hthere hq

/-- A file at the place of an absolute path that is not found there stands behind a `..`. -/
theorem dots_of_hidden_file {t : Tree} {directory : Location} {p : Path} {mode : Nat}
    {content : ByteArray} (hw : t.WellFormed) (habs : p.isAbsolute = true) (hn : p.hasNull = false)
    (hmiss : t.exists? directory p = .ok false)
    (hfile : t.lookup (p.place directory) = some (.file mode content)) : ".." ∈ p.names := by
  apply Classical.byContradiction
  intro hdots
  have hstart : start directory p = [] := if_pos habs
  rw [Path.place, hstart, foldl_follow hdots, List.nil_append,
    hw.lookup_of_missing habs hdots hn hmiss] at hfile
  cases hfile

end Scaffold.Files.Tree
