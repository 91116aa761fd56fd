import Scaffold.Proofs.Files.Growth

/-!
# Looking a path up

Looking for something at a path ends with an answer in all cases but one: the system refuses a path
that is too long. A path that leads nowhere, through a file, or that holds a null character is
answered with "not there".

* `TooLong`: the refused paths, said without reference to the operation.
* `locate_eq_nameTooLong_iff`, `leadsTo_error_iff`: these and no others are refused.
* `bytesAt?`: the bytes of the file at a path; `isFile_ok_iff` and `contentAt_ok_iff` tell looking for
  a file and reading it from them.
* `acceptExisting_error`, `makeDirectories_null_iff`: a null character is the one cause that making
  directories reports under its own name.
-/
namespace Scaffold.Files.Tree

variable {t : Tree} {directory : Location} {p : Path}

/-! ## The causes -/

theorem step_error {l : Location} {name : String} {problem : Problem}
    (h : t.step l name = .error problem) :
    (problem = .missing ∧ (t.lookup l = none ∨
        t.lookup l = some .directory ∧ name ≠ ".." ∧ t.lookup (l ++ [name]) = none)) ∨
      (problem = .notDirectory ∧ ∃ mode content, t.lookup l = some (.file mode content)) ∨
      (problem = .nameTooLong ∧ t.lookup l = some .directory ∧ name ≠ ".." ∧
        nameLimit < name.utf8ByteSize) := by
  unfold step at h
  split at h
  · rename_i hl; cases h; exact Or.inl ⟨rfl, Or.inl hl⟩
  · rename_i mode content hl; cases h; exact Or.inr (Or.inl ⟨rfl, mode, content, hl⟩)
  · rename_i hl
    split at h
    · cases h
    · rename_i hdots
      split at h
      · rename_i hlong; cases h; exact Or.inr (Or.inr ⟨rfl, hl, hdots, hlong⟩)
      · split at h
        · rename_i hn; cases h; exact Or.inl ⟨rfl, Or.inr ⟨hl, hdots, hn⟩⟩
        · cases h

theorem walk_error {l : Location} {names : List String} {problem : Problem}
    (h : t.walk l names = .error problem) :
    problem = .missing ∨ problem = .notDirectory ∨ problem = .nameTooLong := by
  obtain ⟨_, name, _, q, -, -, hs⟩ := walk_stops h
  rcases step_error hs with ⟨rfl, -⟩ | ⟨rfl, -⟩ | ⟨rfl, -⟩ <;> simp

theorem checkPath_of_null (h : p.hasNull = true) : checkPath p = .error .nullCharacter := by
  unfold checkPath; rw [if_pos h]

theorem checkPath_error {problem : Problem} (h : checkPath p = .error problem) :
    (problem = .nullCharacter ∧ p.hasNull = true) ∨
      (problem = .nameTooLong ∧ p.hasNull = false ∧ pathLimit < p.text.utf8ByteSize) := by
  unfold checkPath at h
  split at h
  · rename_i hn; cases h; exact Or.inl ⟨rfl, hn⟩
  · rename_i hn
    split at h
    · rename_i hlong; cases h; exact Or.inr ⟨rfl, by simpa using hn, hlong⟩
    · cases h

theorem checkPath_ok (h : checkPath p = .ok ()) :
    p.hasNull = false ∧ ¬ pathLimit < p.text.utf8ByteSize := by
  unfold checkPath at h
  split at h
  · cases h
  · rename_i hn
    split at h
    · cases h
    · rename_i hlong; exact ⟨by simpa using hn, hlong⟩

/-! ## Paths that are refused -/

/-- A path that the system refuses to look up: it has too many bytes, or a name of it that is
reached has. -/
def TooLong (t : Tree) (directory : Location) (p : Path) : Prop :=
  p.hasNull = false ∧ (pathLimit < p.text.utf8ByteSize ∨
    ∃ above name rest q, p.names = above ++ name :: rest ∧
      t.walk (start directory p) above = .ok q ∧ t.lookup q = some .directory ∧
      name ≠ ".." ∧ nameLimit < name.utf8ByteSize)

theorem locate_eq_nameTooLong_iff :
    t.locate directory p = .error .nameTooLong ↔ t.TooLong directory p := by
  constructor
  · intro h
    unfold locate at h
    split at h
    · rename_i problem hc
      cases h
      rcases checkPath_error hc with ⟨he, -⟩ | ⟨-, hn, hlong⟩
      · cases he
      · exact ⟨hn, Or.inl hlong⟩
    · rename_i hc
      obtain ⟨above, name, rest, q, hnames, hw, hs⟩ := walk_stops h
      rcases step_error hs with ⟨he, -⟩ | ⟨he, -⟩ | ⟨-, hd, hdots, hlong⟩
      · cases he
      · cases he
      · exact ⟨(checkPath_ok hc).1, Or.inr ⟨above, name, rest, q, hnames, hw, hd, hdots, hlong⟩⟩
  · rintro ⟨hn, hlong⟩
    unfold locate
    split
    · rename_i problem hc
      rcases checkPath_error hc with ⟨-, hn'⟩ | ⟨rfl, -⟩
      · rw [hn] at hn'; cases hn'
      · rfl
    · rename_i hc
      rcases hlong with hlong | ⟨above, name, rest, q, hnames, hw, hd, hdots, hlong⟩
      · exact absurd hlong (checkPath_ok hc).2
      · have hs : t.step q name = .error .nameTooLong := by
          unfold step
          rw [hd]
          simp only
          rw [if_neg hdots, if_pos hlong]
        rw [hnames, walk_append, hw]
        simp only
        rw [walk_cons, hs]

theorem locate_error {problem : Problem} (h : t.locate directory p = .error problem) :
    problem = .missing ∨ problem = .notDirectory ∨ problem = .nameTooLong ∨
      problem = .nullCharacter := by
  unfold locate at h
  split at h
  · rename_i problem' hc
    cases h
    rcases checkPath_error hc with ⟨rfl, -⟩ | ⟨rfl, -⟩ <;> simp
  · rcases walk_error h with rfl | rfl | rfl <;> simp

/-- Looking for something at a path fails for the paths that are too long and for no others. -/
theorem leadsTo_error_iff {kind : Node → Bool} {failure : Failure} :
    t.leadsTo directory p kind = .error failure ↔
      t.TooLong directory p ∧ failure = ⟨.nameTooLong, p.text, none⟩ := by
  rw [← locate_eq_nameTooLong_iff]
  unfold leadsTo stat
  cases hl : t.locate directory p with
  | ok l =>
    cases hn : t.lookup l with
    | none => simp [hn, Problem.meansAbsent]
    | some node => simp [hn]
  | error problem =>
    rcases locate_error hl with rfl | rfl | rfl | rfl <;> simp [Problem.meansAbsent, eq_comm]

theorem leadsTo_eq_error (kind : Node → Bool) (h : t.TooLong directory p) :
    t.leadsTo directory p kind = .error ⟨.nameTooLong, p.text, none⟩ :=
  leadsTo_error_iff.mpr ⟨h, rfl⟩

/-- A path that is looked up is not refused. -/
theorem not_tooLong_of_isFile {there : Bool} (h : t.isFile directory p = .ok there) :
    ¬ t.TooLong directory p := by
  intro hlong
  rw [isFile, leadsTo_eq_error _ hlong] at h
  cases h

/-! ## Files -/

/-- The bytes of the file that a path leads to, if it leads to one. -/
def bytesAt? (t : Tree) (directory : Location) (p : Path) : Option ByteArray :=
  match t.stat directory p with
  | .ok (.file _ content) => some content
  | _ => none

theorem isFile_eq_isSome {there : Bool} (h : t.isFile directory p = .ok there) :
    there = (t.bytesAt? directory p).isSome := by
  unfold isFile leadsTo at h
  unfold bytesAt?
  split at h
  · rename_i node hs
    cases h
    rw [hs]
    cases node <;> rfl
  · rename_i problem hs
    split at h
    · cases h
      rw [hs]
      rfl
    · cases h

/-- Looking for a file at a path that is not refused tells whether it has bytes. -/
theorem isFile_ok_iff {there : Bool} :
    t.isFile directory p = .ok there ↔
      ¬ t.TooLong directory p ∧ there = (t.bytesAt? directory p).isSome := by
  constructor
  · exact fun h => ⟨not_tooLong_of_isFile h, isFile_eq_isSome h⟩
  · rintro ⟨hlong, rfl⟩
    cases hf : t.isFile directory p with
    | error failure => exact absurd (leadsTo_error_iff.mp hf).1 hlong
    | ok there => rw [isFile_eq_isSome hf]

/-- There is no file at a path that is refused. -/
theorem bytesAt?_of_tooLong (h : t.TooLong directory p) : t.bytesAt? directory p = none := by
  unfold bytesAt? stat
  rw [locate_eq_nameTooLong_iff.mpr h]

theorem contentAt_ok_iff {content : ByteArray} :
    t.contentAt directory p = .ok content ↔ t.bytesAt? directory p = some content := by
  unfold contentAt bytesAt?
  cases t.stat directory p with
  | error problem => simp
  | ok node => cases node <;> simp

/-- A path that is not refused, and at which there is nothing. -/
theorem exists_eq_false_iff :
    t.exists? directory p = .ok false ↔
      t.locate directory p = .error .missing ∨ t.locate directory p = .error .notDirectory ∨
        t.locate directory p = .error .nullCharacter ∨
        ∃ l, t.locate directory p = .ok l ∧ t.lookup l = none := by
  unfold exists? leadsTo stat
  cases hl : t.locate directory p with
  | ok l =>
    cases hn : t.lookup l with
    | none => simp [Problem.meansAbsent, hn]
    | some node => simp [hn]
  | error problem =>
    rcases locate_error hl with rfl | rfl | rfl | rfl <;> simp [Problem.meansAbsent]

/-! ## Null characters -/

theorem parentAndName_null_iff :
    t.parentAndName directory p = .error .nullCharacter ↔ p.hasNull = true := by
  constructor
  · intro h
    unfold parentAndName at h
    split at h
    · rename_i problem hc
      cases h
      rcases checkPath_error hc with ⟨-, hn⟩ | ⟨he, -⟩
      · exact hn
      · cases he
    · split at h
      · rename_i problem hw
        cases h
        rcases walk_error hw with he | he | he <;> cases he
      · split at h
        · cases h
        · cases h
        · split at h
          · cases h
          · split at h
            · cases h
            · split at h <;> cases h
  · intro h
    unfold parentAndName
    rw [checkPath_of_null h]

theorem makeDirectory_null_iff :
    t.makeDirectory directory p = .error .nullCharacter ↔ p.hasNull = true := by
  rw [← @parentAndName_null_iff t directory p]
  unfold makeDirectory
  cases t.parentAndName directory p with
  | error problem => simp
  | ok found =>
    obtain ⟨l, name⟩ := found
    cases name with
    | none => simp
    | some name =>
      cases h : t.lookup (l ++ [name]) with
      | none => simp [h]
      | some node => simp [h]

theorem acceptExisting_error {problem : Problem} {failure : Failure}
    (h : t.acceptExisting directory p problem = .error failure) :
    failure.problem = .nullCharacter ↔ problem = .nullCharacter := by
  unfold acceptExisting at h
  split at h
  · rename_i hp; cases h; simp [hp]
  · rename_i hp
    split at h
    · cases h
    · cases h; rfl
    · rename_i failure' hd
      cases h
      obtain ⟨-, rfl⟩ := leadsTo_error_iff.mp hd
      simp [hp]

theorem hasNull_above {anchor : Anchor} {name : String} {above : List String}
    (h : (⟨anchor, (name :: above).reverse⟩ : Path).hasNull = false) :
    (⟨anchor, above.reverse⟩ : Path).hasNull = false := by
  simp only [Path.hasNull, List.reverse_cons, List.any_append, Bool.or_eq_false_iff] at h ⊢
  exact h.1

theorem makeDirectoriesFrom_error {anchor : Anchor} {names : List String} {failure : Failure}
    (hn : (⟨anchor, names.reverse⟩ : Path).hasNull = false)
    (h : (t.makeDirectoriesFrom directory anchor names).1 = .error failure) :
    failure.problem ≠ .nullCharacter := by
  have hmake : ∀ (t : Tree) (q : Path), q.hasNull = false → ∀ problem,
      t.makeDirectory directory q = .error problem → problem ≠ .nullCharacter := by
    rintro t q hq problem hp rfl
    rw [makeDirectory_null_iff.mp hp] at hq
    cases hq
  induction names generalizing t with
  | nil =>
    unfold makeDirectoriesFrom at h
    split at h
    · cases h
    · rename_i problem hp
      exact fun he => hmake _ _ hn _ hp ((acceptExisting_error h).mp he)
  | cons name above ih =>
    unfold makeDirectoriesFrom at h
    simp only at h
    split at h
    · cases h
    · split at h
      · rename_i failure' t' hup
        cases h
        exact ih (hasNull_above hn) (by rw [hup])
      · split at h
        · cases h
        · cases h; simp
        · rename_i problem hp
          exact fun he => hmake _ _ hn _ hp ((acceptExisting_error h).mp he)
    · rename_i problem hp
      exact fun he => hmake _ _ hn _ hp ((acceptExisting_error h).mp he)

theorem makeDirectories_of_null (h : p.hasNull = true) :
    ∃ failure, (t.makeDirectories directory p).1 = .error failure ∧
      failure.problem = .nullCharacter := by
  have hp : (⟨p.anchor, p.names.reverse.reverse⟩ : Path) = p := by rw [List.reverse_reverse]
  unfold makeDirectories
  cases hr : p.names.reverse with
  | nil =>
    rw [List.reverse_eq_nil_iff] at hr
    simp [Path.hasNull, hr] at h
  | cons name above =>
    rw [hr] at hp
    unfold makeDirectoriesFrom
    simp only [hp]
    rw [makeDirectory_null_iff.mpr h]
    exact ⟨⟨.nullCharacter, p.text, none⟩, rfl, rfl⟩

/-- Making directories reports a null character exactly where the path holds one. -/
theorem makeDirectories_null_iff :
    (∃ failure, (t.makeDirectories directory p).1 = .error failure ∧
      failure.problem = .nullCharacter) ↔ p.hasNull = true := by
  refine ⟨?_, makeDirectories_of_null⟩
  rintro ⟨failure, h, hf⟩
  cases hn : p.hasNull with
  | true => rfl
  | false => exact absurd hf (makeDirectoriesFrom_error (by rw [List.reverse_reverse]; exact hn) h)

/-- No null character stands in the path of a directory that was made. -/
theorem no_null_of_makeDirectories {t' : Tree}
    (h : t.makeDirectories directory p = (.ok (), t')) : p.hasNull = false := by
  cases hn : p.hasNull with
  | false => rfl
  | true =>
    obtain ⟨failure, hf, -⟩ := @makeDirectories_of_null t directory p hn
    rw [h] at hf
    cases hf

end Scaffold.Files.Tree
