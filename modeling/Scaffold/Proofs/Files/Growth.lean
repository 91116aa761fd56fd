import Scaffold.Files.Tree

/-!
# How a file system changes

Every operation on a tree is described by the view `Tree.lookup`, and every path by the place it
names (`Path.place`), read off its names alone.

* `lookup_set`, `fileAt?_set_file`: what stands where after one place is set.
* `eq_place_of_walk`: following a path can only end at the place that it names.
* `Grows`, `makeDirectories_grows`: making directories adds directories and touches nothing else.
* `added_of_makeDirectories`: what it adds is on the way to the path.
* `Upholds`: directories stay directories and files stay files, so that paths lead where they led.
* `write_ok`: a write sets one place, the one that its path names.
-/
namespace Scaffold.Files

/-- The place that a path names, `..` taking back the name before it. -/
def Path.place (p : Path) (directory : Location) : Location :=
  p.names.foldl Path.follow (Tree.start directory p)

namespace Tree

/-! ## The view -/

@[simp] theorem lookup_root (t : Tree) : t.lookup [] = some .directory := by simp [lookup]

theorem lookup_filter_ne (l q : Location) (entries : List (Location × Node)) :
    List.lookup q (entries.filter fun entry => entry.1 != l) =
      if q = l then none else List.lookup q entries := by
  induction entries with
  | nil => simp
  | cons entry rest ih =>
    obtain ⟨k, node⟩ := entry
    rw [List.filter_cons, List.lookup_cons]
    by_cases hk : k = l
    · subst hk
      rw [if_neg (by simp), ih]
      by_cases hq : q = k
      · rw [if_pos hq, if_pos hq]
      · rw [if_neg hq, if_neg hq, beq_false_of_ne hq]
    · rw [if_pos (by simp [hk]), List.lookup_cons, ih]
      by_cases hq : q = k
      · subst hq; simp [hk]
      · rw [beq_false_of_ne hq]

/-- What stands where after one place other than the root is set. -/
theorem lookup_set {t : Tree} {l : Location} (q : Location) (node : Node) (h : l ≠ []) :
    (t.set l node).lookup q = if q = l then some node else t.lookup q := by
  unfold lookup set
  by_cases hq : q = []
  · subst hq; rw [if_pos rfl, if_neg (Ne.symm h), if_pos rfl]
  · rw [if_neg hq, if_neg hq, List.lookup_append, lookup_filter_ne]
    by_cases hl : q = l
    · simp [hl]
    · simp [hl, List.lookup_cons, beq_false_of_ne hl]

/-- The mode and the bytes of the file at a place, if there is one. -/
def fileAt? (t : Tree) (l : Location) : Option (Nat × ByteArray) :=
  match t.lookup l with
  | some (.file mode content) => some (mode, content)
  | _ => none

theorem fileAt?_eq_some_iff {t : Tree} {l : Location} {mode : Nat} {content : ByteArray} :
    t.fileAt? l = some (mode, content) ↔ t.lookup l = some (.file mode content) := by
  unfold fileAt?
  split
  · rename_i mode' content' h; rw [h]; simp
  · rename_i h; simpa using fun hl => h mode content hl

theorem fileAt?_set_file {t : Tree} {l : Location} (q : Location) (mode : Nat)
    (content : ByteArray) (h : l ≠ []) :
    (t.set l (.file mode content)).fileAt? q = if q = l then some (mode, content)
      else t.fileAt? q := by
  unfold fileAt?
  rw [lookup_set q _ h]
  by_cases hq : q = l
  · rw [if_pos hq, if_pos hq]
  · rw [if_neg hq, if_neg hq]

/-! ## Following a path -/

theorem step_ok {t : Tree} {l next : Location} {name : String} (h : t.step l name = .ok next) :
    t.lookup l = some .directory ∧ next = Path.follow l name := by
  unfold step at h
  split at h
  · cases h
  · cases h
  · rename_i hd
    refine ⟨hd, ?_⟩
    unfold Path.follow
    split at h
    · rename_i hn; cases h; rw [if_pos hn]
    · rename_i hn
      split at h
      · cases h
      · split at h
        · cases h
        · cases h; rw [if_neg hn]

theorem walk_cons (t : Tree) (l : Location) (name : String) (rest : List String) :
    t.walk l (name :: rest) =
      match t.step l name with
      | .ok next => t.walk next rest
      | .error problem => .error problem := rfl

theorem walk_append (t : Tree) (l : Location) (above rest : List String) :
    t.walk l (above ++ rest) =
      match t.walk l above with
      | .ok q => t.walk q rest
      | .error problem => .error problem := by
  induction above generalizing l with
  | nil => rfl
  | cons name above ih =>
    rw [List.cons_append, walk_cons, walk_cons]
    cases t.step l name with
    | ok next => exact ih next
    | error problem => rfl

/-- Following a path can only end at the place that it names. -/
theorem eq_place_of_walk {t : Tree} {l q : Location} {names : List String}
    (h : t.walk l names = .ok q) : q = names.foldl Path.follow l := by
  induction names generalizing l with
  | nil => cases h; rfl
  | cons name rest ih =>
    rw [walk_cons] at h
    split at h
    · rename_i next hs
      rw [List.foldl_cons, ← (step_ok hs).2]
      exact ih h
    · cases h

/-- A path that cannot be followed to its end stops at one of its names. -/
theorem walk_stops {t : Tree} {l : Location} {names : List String} {problem : Problem}
    (h : t.walk l names = .error problem) :
    ∃ above name rest q, names = above ++ name :: rest ∧ t.walk l above = .ok q ∧
      t.step q name = .error problem := by
  induction names generalizing l with
  | nil => cases h
  | cons name rest ih =>
    rw [walk_cons] at h
    split at h
    · rename_i next hs
      obtain ⟨above, name', rest', q, rfl, hw, hq⟩ := ih h
      exact ⟨name :: above, name', rest', q, rfl, by rw [walk_cons, hs]; exact hw, hq⟩
    · rename_i problem' hs
      cases h
      exact ⟨[], name, rest, l, rfl, rfl, hs⟩

/-! ## Making directories -/

/-- The second tree holds everything of the first, and beyond it only directories. -/
structure Grows (t t' : Tree) : Prop where
  kept : ∀ {l node}, t.lookup l = some node → t'.lookup l = some node
  added : ∀ {l node}, t'.lookup l = some node → t.lookup l = some node ∨ node = .directory

theorem Grows.refl (t : Tree) : Grows t t := ⟨id, Or.inl⟩

theorem Grows.trans {t t' t'' : Tree} (h : Grows t t') (h' : Grows t' t'') : Grows t t'' where
  kept hl := h'.kept (h.kept hl)
  added hl := by
    rcases h'.added hl with hl | hd
    · exact h.added hl
    · exact Or.inr hd

theorem Grows.set_directory {t : Tree} {l : Location} (hl : l ≠ []) (hn : t.lookup l = none) :
    Grows t (t.set l .directory) where
  kept {q node} h := by
    rw [lookup_set q _ hl, if_neg]
    · exact h
    · rintro rfl; rw [hn] at h; cases h
  added {q node} h := by
    rw [lookup_set q _ hl] at h
    split at h
    · cases h; exact Or.inr rfl
    · exact Or.inl h

/-- The files are the same in a tree that has grown. -/
theorem Grows.fileAt? {t t' : Tree} (h : Grows t t') (l : Location) : t'.fileAt? l = t.fileAt? l := by
  ext ⟨mode, content⟩
  rw [fileAt?_eq_some_iff, fileAt?_eq_some_iff]
  constructor
  · intro hl
    rcases h.added hl with hl | hd
    · exact hl
    · cases hd
  · exact h.kept

/-- The second tree has a directory wherever the first has one, and a file wherever the first has one. -/
structure Upholds (t t' : Tree) : Prop where
  directories : ∀ {l}, t.lookup l = some .directory → t'.lookup l = some .directory
  files : ∀ {l mode content}, t.lookup l = some (.file mode content) →
    ∃ mode' content', t'.lookup l = some (.file mode' content')

theorem Upholds.refl (t : Tree) : Upholds t t := ⟨id, fun h => ⟨_, _, h⟩⟩

theorem Upholds.trans {t t' t'' : Tree} (h : Upholds t t') (h' : Upholds t' t'') :
    Upholds t t'' where
  directories hl := h'.directories (h.directories hl)
  files hl := by
    obtain ⟨_, _, hl'⟩ := h.files hl
    exact h'.files hl'

theorem Upholds.there {t t' : Tree} (h : Upholds t t') {l : Location} (hl : t.lookup l ≠ none) :
    t'.lookup l ≠ none := by
  cases hn : t.lookup l with
  | none => exact absurd hn hl
  | some node =>
    cases node with
    | directory => rw [h.directories hn]; simp
    | file mode content =>
      obtain ⟨_, _, hn'⟩ := h.files hn
      rw [hn']; simp

theorem Grows.upholds {t t' : Tree} (h : Grows t t') : Upholds t t' :=
  ⟨h.kept, fun hl => ⟨_, _, h.kept hl⟩⟩

/-- A file where there was no directory. -/
theorem Upholds.set_file {t : Tree} {l : Location} (mode : Nat) (content : ByteArray)
    (hl : t.lookup l ≠ some .directory) : Upholds t (t.set l (.file mode content)) := by
  have hroot : l ≠ [] := by rintro rfl; exact hl (lookup_root t)
  constructor
  · intro q hq
    rw [lookup_set q _ hroot, if_neg]
    · exact hq
    · rintro rfl; exact hl hq
  · intro q mode' content' hq
    rw [lookup_set q _ hroot]
    split
    · exact ⟨_, _, rfl⟩
    · exact ⟨_, _, hq⟩

/-- A path that can be followed leads to the same place afterwards. -/
theorem Upholds.walk {t t' : Tree} (h : Upholds t t') {l q : Location} {names : List String}
    (hw : t.walk l names = .ok q) : t'.walk l names = .ok q := by
  induction names generalizing l with
  | nil => exact hw
  | cons name rest ih =>
    rw [walk_cons] at hw ⊢
    have hstep : ∀ next, t.step l name = .ok next → t'.step l name = .ok next := by
      intro next hs
      unfold step at hs ⊢
      rw [h.directories (step_ok hs).1]
      rw [(step_ok hs).1] at hs
      simp only at hs ⊢
      split at hs
      · rename_i hn; rw [if_pos hn]; exact hs
      · rename_i hn
        rw [if_neg hn]
        split at hs
        · cases hs
        · rename_i hlong
          rw [if_neg hlong]
          split at hs
          · cases hs
          · rename_i hfound
            obtain ⟨node', hfound'⟩ := Option.ne_none_iff_exists'.mp
              (h.there (by rw [hfound]; simp : t.lookup (l ++ [name]) ≠ none))
            rw [hfound']
            exact hs
    split at hw
    · rename_i next hs
      rw [hstep next hs]
      exact ih hw
    · cases hw

/-- The directory and the last name of a path, where both are found. -/
theorem parentAndName_ok {t : Tree} {directory l : Location} {p : Path} {name : String}
    (h : t.parentAndName directory p = .ok (l, some name)) :
    t.walk (start directory p) p.names.dropLast = .ok l ∧ t.lookup l = some .directory ∧
      p.names = p.names.dropLast ++ [name] ∧ name ≠ ".." := by
  unfold parentAndName at h
  split at h
  · cases h
  · split at h
    · cases h
    · rename_i l' hw
      split at h
      · cases h
      · cases h
      · rename_i hd
        split at h
        · cases h
        · rename_i name' hlast
          split at h
          · cases h
          · rename_i hdots
            split at h
            · cases h
            · cases h
              refine ⟨hw, hd, ?_, hdots⟩
              obtain ⟨above, habove⟩ := List.getLast?_eq_some_iff.mp hlast
              rw [habove, List.dropLast_concat]

/-- Where a path has a last name, that name stands at the place of the path. -/
theorem place_of_parentAndName {t : Tree} {directory l : Location} {p : Path} {name : String}
    (h : t.parentAndName directory p = .ok (l, some name)) : l ++ [name] = p.place directory := by
  obtain ⟨hw, -, hnames, hdots⟩ := parentAndName_ok h
  unfold Path.place
  rw [hnames, List.foldl_append, ← eq_place_of_walk hw, List.foldl_cons, List.foldl_nil,
    Path.follow, if_neg hdots]

theorem makeDirectory_ok {t t' : Tree} {directory : Location} {p : Path}
    (h : t.makeDirectory directory p = .ok t') :
    ∃ l name, t.lookup l = some .directory ∧ t.lookup (l ++ [name]) = none ∧
      t' = t.set (l ++ [name]) .directory := by
  unfold makeDirectory at h
  split at h
  · cases h
  · cases h
  · rename_i l name hp
    split at h
    · cases h
    · rename_i hn
      cases h
      exact ⟨l, name, (parentAndName_ok hp).2.1, hn, rfl⟩

/-- A new directory stands at the place of its path. -/
theorem makeDirectory_set {t t' : Tree} {directory : Location} {p : Path}
    (h : t.makeDirectory directory p = .ok t') :
    p.place directory ≠ [] ∧ t' = t.set (p.place directory) .directory := by
  unfold makeDirectory at h
  split at h
  · cases h
  · cases h
  · rename_i l name hp
    split at h
    · cases h
    · cases h
      rw [← place_of_parentAndName hp]
      exact ⟨by simp, rfl⟩

theorem makeDirectory_grows {t t' : Tree} {directory : Location} {p : Path}
    (h : t.makeDirectory directory p = .ok t') : Grows t t' := by
  obtain ⟨l, name, -, hn, rfl⟩ := makeDirectory_ok h
  exact Grows.set_directory (by simp) hn

/-- What holds from each new directory to the next holds from the tree before directories were made
to the tree after, whether all of them could be made or not. The directories made are those on the
way to the path. -/
theorem makeDirectoriesFrom_rel {R : Tree → Tree → Prop} {directory : Location} {anchor : Anchor}
    {names : List String} (refl : ∀ t, R t t)
    (trans : ∀ {t t' t''}, R t t' → R t' t'' → R t t'')
    (make : ∀ {t t' above}, above <+: names.reverse →
      t.makeDirectory directory ⟨anchor, above⟩ = .ok t' → R t t') (t : Tree) :
    R t (t.makeDirectoriesFrom directory anchor names).2 := by
  induction names generalizing t with
  | nil =>
    unfold makeDirectoriesFrom
    split
    · rename_i t' h; exact make List.prefix_rfl h
    · exact refl t
  | cons name above ih =>
    unfold makeDirectoriesFrom
    simp only
    split
    · rename_i t' h; exact make List.prefix_rfl h
    · have hup := ih (fun habove => make (habove.trans
        (by rw [List.reverse_cons]; exact List.prefix_append _ _))) t
      split
      · rename_i failure t' h; rw [h] at hup; exact hup
      · rename_i t' h
        rw [h] at hup
        split
        · rename_i t'' h'; exact trans hup (make List.prefix_rfl h')
        · exact hup
        · exact hup
    · exact refl t

theorem makeDirectories_rel {R : Tree → Tree → Prop} {directory : Location} {p : Path}
    (refl : ∀ t, R t t) (trans : ∀ {t t' t''}, R t t' → R t' t'' → R t t'')
    (make : ∀ {t t' above}, above <+: p.names →
      t.makeDirectory directory ⟨p.anchor, above⟩ = .ok t' → R t t') (t : Tree) :
    R t (t.makeDirectories directory p).2 :=
  makeDirectoriesFrom_rel refl trans
    (fun habove => make (by rw [List.reverse_reverse] at habove; exact habove)) t

/-- Making directories adds directories and touches nothing else. -/
theorem makeDirectories_grows (t : Tree) (directory : Location) (p : Path) :
    Grows t (t.makeDirectories directory p).2 :=
  makeDirectories_rel Grows.refl Grows.trans (fun _ => makeDirectory_grows) t

/-- Making directories adds nothing but what is on the way to the path. -/
theorem added_of_makeDirectories {t : Tree} {directory l : Location} {p : Path}
    (hl : t.lookup l = none) (hnew : (t.makeDirectories directory p).2.lookup l ≠ none) :
    ∃ above, above <+: p.names ∧ l = Path.place ⟨p.anchor, above⟩ directory := by
  have hadded : t.lookup l ≠ none ∨
      ∃ above, above <+: p.names ∧ l = Path.place ⟨p.anchor, above⟩ directory := by
    refine makeDirectories_rel (R := fun t t' => t'.lookup l ≠ none → t.lookup l ≠ none ∨
      ∃ above, above <+: p.names ∧ l = Path.place ⟨p.anchor, above⟩ directory)
      (fun _ => Or.inl) (fun h h' hl => (h' hl).elim h Or.inr) ?_ t hnew
    intro t t' above habove hmake hl
    obtain ⟨hroot, rfl⟩ := makeDirectory_set hmake
    rw [lookup_set _ _ hroot] at hl
    split at hl
    · rename_i heq; exact Or.inr ⟨above, habove, heq⟩
    · exact Or.inl hl
  exact hadded.resolve_left fun h => h hl

/-! ## Writing a file -/

/-- The mode of a file written in place over what stands there. -/
def keptMode (umask : Nat) : Option Node → Nat
  | some (.file mode _) => mode
  | _ => newFileMode umask

/-- A write in place sets the place of its path, and that place alone. -/
theorem write_ok {t t' : Tree} {directory : Location} {umask : Nat} {p : Path}
    {content : ByteArray} (h : t.write directory umask p content = .ok t') :
    (∃ l name, t.parentAndName directory p = .ok (l, some name)) ∧
      t.lookup (p.place directory) ≠ some .directory ∧
      t' = t.set (p.place directory)
        (.file (keptMode umask (t.lookup (p.place directory))) content) := by
  unfold write at h
  split at h
  · cases h
  · cases h
  · rename_i l name hp
    rw [place_of_parentAndName hp] at h
    refine ⟨⟨l, name, hp⟩, ?_⟩
    split at h
    · cases h
    · rename_i hf; cases h; rw [hf]; exact ⟨by simp, rfl⟩
    · rename_i hf; cases h; rw [hf]; exact ⟨by simp, rfl⟩

end Tree

end Scaffold.Files
