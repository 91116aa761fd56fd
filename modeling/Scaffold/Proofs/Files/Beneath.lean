import Mathlib.Data.List.Basic
import Scaffold.Proofs.Files.Shape
import Scaffold.Proofs.Text.Classes

/-!
# Places below a root

A path given as text is put below a root unless it starts with a slash, and it stays there unless it goes
up. Both are told from the pieces between its slashes.

* `namesOf_append`: the names of a text with a slash in it.
* `Climbs`: a name with a slash in it that goes up before its last piece.
* `Inside.place_join`: a path inside names a place below the root it is joined to.
* `fileOf_join`: a name without slashes is the name of a file of the directory it is joined to.
* `FileOf.place`: such a file is in the place of that directory.
-/
namespace Scaffold.Files

open Text (Outside isSlash)

/-! ## Pieces between slashes -/

theorem splitSlash_ne_nil (cs : List Char) : splitSlash cs ≠ [] := by
  cases cs with
  | nil => exact List.cons_ne_nil _ _
  | cons c cs =>
    rw [splitSlash]
    split
    · exact List.cons_ne_nil _ _
    · split <;> exact List.cons_ne_nil _ _

theorem splitSlash_cons_of_ne {c : Char} (hc : c ≠ '/') {cs piece : List Char}
    {rest : List (List Char)} (h : splitSlash cs = piece :: rest) :
    splitSlash (c :: cs) = (c :: piece) :: rest := by
  rw [splitSlash, if_neg hc, h]

theorem splitSlash_append (a b : List Char) :
    splitSlash (a ++ '/' :: b) = splitSlash a ++ splitSlash b := by
  induction a with
  | nil => rfl
  | cons c a ih =>
    by_cases hc : c = '/'
    · subst hc
      rw [List.cons_append, splitSlash, if_pos rfl, ih, splitSlash, if_pos rfl, List.cons_append]
    · obtain ⟨piece, rest, hpiece⟩ := List.exists_cons_of_ne_nil (splitSlash_ne_nil a)
      rw [hpiece, List.cons_append] at ih
      rw [List.cons_append, splitSlash_cons_of_ne hc ih, splitSlash_cons_of_ne hc hpiece,
        List.cons_append]

/-- A text without slashes behind a text goes to its last piece. -/
theorem exists_splitSlash_append (cs : List Char) {suffix : List Char} (h : '/' ∉ suffix) :
    ∃ front last, splitSlash cs = front ++ [last] ∧
      splitSlash (cs ++ suffix) = front ++ [last ++ suffix] := by
  induction cs with
  | nil =>
    refine ⟨[], [], rfl, ?_⟩
    induction suffix with
    | nil => rfl
    | cons c suffix ih =>
      have hc : c ≠ '/' := fun h' => h (by rw [h']; exact List.mem_cons_self)
      exact splitSlash_cons_of_ne hc (ih fun h' => h (List.mem_cons_of_mem _ h'))
  | cons c cs ih =>
    obtain ⟨front, last, hsplit, hsuffix⟩ := ih
    by_cases hc : c = '/'
    · subst hc
      refine ⟨[] :: front, last, ?_, ?_⟩
      · rw [splitSlash, if_pos rfl, hsplit, List.cons_append]
      · rw [List.cons_append, splitSlash, if_pos rfl, hsuffix, List.cons_append]
    · cases front with
      | nil => exact ⟨[], c :: last, splitSlash_cons_of_ne hc hsplit, splitSlash_cons_of_ne hc hsuffix⟩
      | cons piece front =>
        exact ⟨(c :: piece) :: front, last, splitSlash_cons_of_ne hc hsplit,
          splitSlash_cons_of_ne hc hsuffix⟩

/-! ## Names -/

theorem namesOf_append (a b : List Char) : namesOf (a ++ '/' :: b) = namesOf a ++ namesOf b := by
  unfold namesOf
  rw [splitSlash_append, List.filterMap_append]

theorem mem_namesOf {name cs : List Char} :
    String.ofList name ∈ namesOf cs ↔ name ∈ splitSlash cs ∧ name ≠ [] ∧ name ≠ ['.'] := by
  unfold namesOf
  simp only [List.mem_filterMap, List.isEmpty_iff]
  constructor
  · rintro ⟨piece, hpiece, heq⟩
    split at heq
    · cases heq
    · rename_i hne
      obtain rfl : piece = name := String.ofList_injective (Option.some.inj heq)
      exact ⟨hpiece, fun h => hne (.inl h), fun h => hne (.inr h)⟩
  · rintro ⟨hmem, hne, hdot⟩
    exact ⟨name, hmem, if_neg (by rintro (h | h); exacts [hne h, hdot h])⟩

/-- A name with slashes in it that goes up before its last piece. -/
def Climbs (name : String) : Prop := ['.', '.'] ∈ (splitSlash name.toList).dropLast

/-- An ending without slashes does not matter. -/
theorem climbs_append {name suffix : String} (h : '/' ∉ suffix.toList) :
    Climbs (name ++ suffix) ↔ Climbs name := by
  obtain ⟨front, last, hsplit, hsuffix⟩ := exists_splitSlash_append name.toList h
  unfold Climbs
  rw [String.toList_append, hsuffix, hsplit, List.dropLast_concat, List.dropLast_concat]

/-- With an ending that is not made of points alone, a name goes up where it climbs. -/
theorem dots_mem_namesOf {name suffix : String} (hslash : '/' ∉ suffix.toList)
    (hpoint : ∃ c ∈ suffix.toList, c ≠ '.') :
    ".." ∈ namesOf (name ++ suffix).toList ↔ Climbs name := by
  obtain ⟨front, last, hsplit, hsuffix⟩ := exists_splitSlash_append name.toList hslash
  obtain ⟨c, hc, hne⟩ := hpoint
  have hlast : last ++ suffix.toList ≠ ['.', '.'] := fun heq => by
    have hmem : c ∈ ['.', '.'] := by rw [← heq]; exact List.mem_append_right _ hc
    simp only [List.mem_cons, List.not_mem_nil, or_false, or_self] at hmem
    exact hne hmem
  have hdots : ".." = String.ofList ['.', '.'] := rfl
  unfold Climbs
  rw [hdots, mem_namesOf, String.toList_append, hsuffix, hsplit, List.dropLast_concat,
    List.mem_append, List.mem_singleton]
  constructor
  · rintro ⟨hmem | hmem, -⟩
    · exact hmem
    · exact absurd hmem.symm hlast
  · exact fun hmem => ⟨.inl hmem, by decide, by decide⟩

theorem namesOf_ne_nil {name suffix : String} (hslash : '/' ∉ suffix.toList)
    (hpoint : ∃ c ∈ suffix.toList, c ≠ '.') : namesOf (name ++ suffix).toList ≠ [] := by
  obtain ⟨front, last, -, hsuffix⟩ := exists_splitSlash_append name.toList hslash
  obtain ⟨c, hc, hne⟩ := hpoint
  have hmem : String.ofList (last ++ suffix.toList) ∈ namesOf (name ++ suffix).toList := by
    rw [mem_namesOf, String.toList_append, hsuffix]
    refine ⟨by simp, fun h => ?_, fun h => ?_⟩
    · rw [(List.append_eq_nil_iff.mp h).2] at hc
      cases hc
    · have hpt : c ∈ ['.'] := by rw [← h]; exact List.mem_append_right _ hc
      exact hne (List.mem_singleton.mp hpt)
  exact List.ne_nil_of_mem hmem

/-- A text without slashes is one piece. -/
theorem splitSlash_of_no_slash {cs : List Char} (h : '/' ∉ cs) : splitSlash cs = [cs] := by
  induction cs with
  | nil => rfl
  | cons c cs ih =>
    rw [List.mem_cons, not_or] at h
    exact splitSlash_cons_of_ne (Ne.symm h.1) (ih h.2)

/-- A name without slashes does not climb. -/
theorem not_climbs_of_no_slash {name : String} (h : '/' ∉ name.toList) : ¬Climbs name := by
  unfold Climbs
  rw [splitSlash_of_no_slash h]
  simp

/-! ## Paths inside -/

/-- The text of a path that is relative, goes up nowhere, and has a name. -/
structure Inside (path : String) : Prop where
  relative : Outside isSlash path.toList
  level : ".." ∉ namesOf path.toList
  named : namesOf path.toList ≠ []

theorem ofString_of_relative {path : String} (h : Outside isSlash path.toList) :
    Path.ofString path = ⟨.relative, namesOf path.toList⟩ := by
  have hnone : path.toList.takeWhile (· == '/') = [] := Text.takeWhile_of_outside h
  unfold Path.ofString Path.anchorOf
  rw [hnone]
  rfl

theorem join_of_relative {path : String} (h : Outside isSlash path.toList) (root : Path) :
    root.join path = { root with names := root.names ++ namesOf path.toList } := by
  unfold Path.join
  rw [ofString_of_relative h]
  rfl

/-- One slash in front starts a path at the root. -/
theorem anchorOf_slash {cs : List Char} (h : Outside isSlash cs) :
    Path.anchorOf ('/' :: cs) = .root := by
  have hnone : cs.takeWhile (· == '/') = [] := Text.takeWhile_of_outside h
  unfold Path.anchorOf
  rw [List.takeWhile_cons_of_pos rfl, hnone]
  rfl

/-- A path inside names a place below the root it is joined to. -/
theorem Inside.place_join {path : String} (h : Inside path) (root : Path) (directory : Location) :
    (root.join path).place directory = root.place directory ++ namesOf path.toList := by
  rw [join_of_relative h.relative]
  unfold Path.place
  rw [List.foldl_append, Tree.foldl_follow h.level]
  rfl

/-! ## Files of a directory -/

/-- The path of a file of a directory, under a name of its own. -/
structure FileOf (p directory : Path) (name : String) : Prop where
  parent : p.parent = directory
  last : p.names.getLast? = some name
  level : name ≠ ".."

/-- It leads to the place of that name in the directory. -/
theorem FileOf.place {p directory : Path} {name : String} (h : FileOf p directory name)
    (l : Location) : p.place l = directory.place l ++ [name] := by
  have hnames : p.names = directory.names ++ [name] := by
    rw [← h.parent]
    exact (List.dropLast_append_getLast? name h.last).symm
  have hstart : Tree.start l p = Tree.start l directory := by
    rw [← h.parent]
    rfl
  unfold Path.place
  rw [hnames, hstart, List.foldl_append, List.foldl_cons, List.foldl_nil, Path.follow,
    if_neg h.level]

/-- The name of a file without slashes that ends in something else than points. -/
structure Filename (file : String) : Prop where
  slash : '/' ∉ file.toList
  point : ∃ c ∈ file.toList, c ≠ '.'

theorem Filename.namesOf {file : String} (h : Filename file) : namesOf file.toList = [file] := by
  obtain ⟨c, hc, hne⟩ := h.point
  have hfilled : ¬(file.toList.isEmpty = true ∨ file.toList = ['.']) := by
    rintro (hempty | hpoint)
    · rw [List.isEmpty_iff.mp hempty] at hc
      cases hc
    · rw [hpoint] at hc
      exact hne (List.mem_singleton.mp hc)
  unfold Files.namesOf
  rw [splitSlash_of_no_slash h.slash, List.filterMap_cons, if_neg hfilled, String.ofList_toList]
  rfl

theorem Filename.level {file : String} (h : Filename file) : file ≠ ".." := by
  rintro rfl
  obtain ⟨c, hc, hne⟩ := h.point
  have hpoints : ∀ c ∈ "..".toList, c = '.' := Text.forall_mem_of_all (by decide)
  exact hne (hpoints c hc)

theorem Filename.relative {file : String} (h : Filename file) : Outside isSlash file.toList := by
  cases hcs : file.toList with
  | nil => exact Text.outside_nil _
  | cons c cs =>
    have hne : c ≠ '/' := by
      rintro rfl
      exact h.slash (by rw [hcs]; exact List.mem_cons_self)
    simpa [isSlash] using hne

/-- A path that ends in the name of a file is the path of a file of what comes before. -/
theorem Filename.fileOf {file : String} (h : Filename file) (directory : Path) :
    FileOf { directory with names := directory.names ++ [file] } directory file := by
  refine ⟨?_, by simp, h.level⟩
  unfold Path.parent
  simp

/-- A name without slashes is the name of a file of the directory it is joined to. -/
theorem fileOf_join {file : String} (h : Filename file) (directory : Path) :
    FileOf (directory.join file) directory file := by
  rw [join_of_relative h.relative, h.namesOf]
  exact h.fileOf directory

end Scaffold.Files
