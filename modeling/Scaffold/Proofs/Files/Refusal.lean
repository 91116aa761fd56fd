import Scaffold.Proofs.Files.Persistence
import Scaffold.Proofs.Text.Classes

/-!
# Writing again where writing failed

Where the directory is there and a path leads nowhere, a write fails for one cause only: no draft can be
made, its name being too long or every name that is drawn being taken. This stays so.

* `free_of_missing`: a path that leads nowhere although its directory is there names a free place.
* `write_of_free`, `replace_of_named`: a free place is written to, unless no draft can be made.
* `parentAndName_draftAt`: whether the path of a draft is refused does not depend on its letters.
* `Undraftable`, `makeDraft_error_iff`: the targets for which no draft can be made.
* `makeDraft_again`, `replace_again`: a draft that could not be made cannot be made later.
-/
namespace Scaffold.Files

namespace Tree

variable {t u : Tree} {directory : Location} {p : Path} {problem : Problem} {failure : Failure}

/-! ## Free places -/

/-- A path that leads nowhere although its directory is there names a free place in it. -/
theorem free_of_missing (habs : p.isAbsolute = true) (hn : p.hasNull = false)
    (hparent : t.isDirectory directory p.parent = .ok true)
    (hmiss : t.exists? directory p = .ok false) :
    ∃ above name, t.parentAndName directory p = .ok (above, some name) ∧
      t.lookup (above ++ [name]) = none := by
  have hc := checkPath_of_missing hn hmiss
  obtain ⟨q, hq, hd⟩ := isDirectory_eq_true_iff.mp hparent
  have hw : t.walk (start directory p) p.names.dropLast = .ok q := by
    unfold locate at hq
    split at hq
    · cases hq
    · exact hq
  have hpath := parentAndName_of_walk hc hw hd
  split at hpath
  · rw [exists_of_isDirectory (isDirectory_of_unnamed habs hpath)] at hmiss; cases hmiss
  · rename_i name hlast
    obtain ⟨above, habove⟩ := List.getLast?_eq_some_iff.mp hlast
    split at hpath
    · rw [exists_of_isDirectory (isDirectory_of_unnamed habs hpath)] at hmiss; cases hmiss
    · rename_i hdots
      split at hpath
      · rename_i hlong
        rw [habove, List.dropLast_concat] at hw
        rw [exists?, leadsTo_eq_error _
          ⟨hn, Or.inr ⟨above, name, [], q, habove, hw, hd, hdots, hlong⟩⟩] at hmiss
        cases hmiss
      · refine ⟨q, name, hpath, ?_⟩
        cases hfound : t.lookup (q ++ [name]) with
        | none => rfl
        | some node =>
          have hthere : t.exists? directory p = .ok true := exists_eq_true_iff.mpr
            ⟨_, locate_named hpath (.refl t) (by rw [hfound]; simp), by rw [hfound]; simp⟩
          rw [hthere] at hmiss
          cases hmiss

/-- A free place is written to. -/
theorem write_of_free {umask : Nat} {content : ByteArray} {above : Location} {name : String}
    (hp : t.parentAndName directory p = .ok (above, some name))
    (hfree : t.lookup (above ++ [name]) = none) :
    ∃ t', t.write directory umask p content = .ok t' := by
  unfold write
  simp only [hp, hfree]
  exact ⟨_, rfl⟩

/-! ## Drafts that cannot be made -/

/-- However its letters are drawn, the name of a draft has as many bytes. -/
theorem utf8ByteSize_letters (letters : Letters) : letters.text.utf8ByteSize = 8 := by
  have hone : ∀ c ∈ draftAlphabet, c.utf8Size = 1 := Text.forall_mem_of_all (by decide)
  have hsum : ∀ cs : List Char, (∀ c ∈ cs, c.utf8Size = 1) →
      (String.ofList cs).utf8ByteSize = cs.length := by
    intro cs hcs
    induction cs with
    | nil => rfl
    | cons c rest ih =>
      rw [List.forall_mem_cons] at hcs
      rw [String.ofList_cons, String.utf8ByteSize_append, String.utf8ByteSize_singleton, hcs.1,
        ih hcs.2, List.length_cons, Nat.add_comm]
  unfold Letters.text
  rw [hsum, List.length_ofFn]
  intro c hc
  obtain ⟨i, rfl⟩ := List.mem_ofFn.mp hc
  exact hone _ (List.get_mem _ _)

theorem utf8ByteSize_draftName (name : String) (letters : Letters) :
    (draftName name letters.text).utf8ByteSize = name.utf8ByteSize + 14 := by
  unfold draftName
  simp only [String.utf8ByteSize_append, utf8ByteSize_letters]
  have hpoint : ".".utf8ByteSize = 1 := rfl
  have hend : ".tmp".utf8ByteSize = 4 := rfl
  omega

/-- Whether the path of a draft can be used does not depend on the letters that are drawn. -/
theorem checkPath_draftAt (letters letters' : Letters) :
    checkPath (draftAt directory p letters.text) = checkPath (draftAt directory p letters'.text) := by
  have hnull : (draftAt directory p letters.text).hasNull =
      (draftAt directory p letters'.text).hasNull := by
    rw [Bool.eq_iff_iff, hasNull_draftAt, hasNull_draftAt]
  have hsize : (draftAt directory p letters.text).text.utf8ByteSize =
      (draftAt directory p letters'.text).text.utf8ByteSize := by
    have habs : (if p.anchor = .doubleRoot then Anchor.doubleRoot else .root) ≠ .relative := by
      split <;> simp
    unfold draftAt
    simp only [utf8ByteSize_text habs, utf8ByteSize_intercalate_append, utf8ByteSize_draftName]
  unfold checkPath
  rw [hnull, hsize]

/-- The path of a draft names a place beside the target, or it is refused, whatever letters are drawn. -/
theorem parentAndName_draftAt (habs : p.isAbsolute = true)
    (hparent : t.isDirectory directory p.parent = .ok true) (letters : Letters) :
    t.parentAndName directory (draftAt directory p letters.text) =
      match checkPath (draftAt directory p letters.text) with
      | .error problem => .error problem
      | .ok () =>
        if p.name.utf8ByteSize + 14 > nameLimit then .error .nameTooLong
        else .ok (p.parent.place directory, some (draftName p.name letters.text)) := by
  cases hc : checkPath (draftAt directory p letters.text) with
  | error problem =>
    unfold parentAndName
    rw [hc]
  | ok checked =>
    obtain ⟨q, hq, hd⟩ := isDirectory_eq_true_iff.mp hparent
    have habove := isAbsolute_parent habs
    unfold locate at hq
    split at hq
    · cases hq
    · rw [start_absolute habove] at hq
      have hplace : q = p.parent.place directory := by
        rw [Path.place, start_absolute habove]
        exact eq_place_of_walk hq
      have hbeside : (p.parent.resolved directory).names = q := by
        unfold Path.resolved Path.ofLocation
        rw [if_pos habove]
        exact (eq_place_of_walk hq).symm
      have hrooted : t.walk [] q = .ok q := (rooted_root t).walk hq
      have hstart : start directory (draftAt directory p letters.text) = [] := by
        refine start_absolute ?_
        unfold draftAt Path.isAbsolute
        simp only
        split <;> rfl
      have hnames : (draftAt directory p letters.text).names =
          q ++ [draftName p.name letters.text] := by
        unfold draftAt
        simp only [hbeside]
      have hdots : draftName p.name letters.text ≠ ".." := by
        intro heq
        have hsize := congrArg String.utf8ByteSize heq
        rw [utf8ByteSize_draftName] at hsize
        have htwo : "..".utf8ByteSize = 2 := rfl
        omega
      have hwalk : t.walk (start directory (draftAt directory p letters.text))
          (draftAt directory p letters.text).names.dropLast = .ok q := by
        rw [hstart, hnames, List.dropLast_concat]
        exact hrooted
      rw [parentAndName_of_walk hc hwalk hd, hnames, List.getLast?_concat]
      simp only [if_neg hdots, utf8ByteSize_draftName, hplace]

/-- Where the paths of drafts name places, no draft can be made exactly if all places that are drawn are
taken. -/
theorem makeDraft_eq_error_iff {umask attempts : Nat} {draws : Nat → Letters} {beside : Location}
    (hnamed : ∀ letters : Letters, t.parentAndName directory (draftAt directory p letters.text) =
      .ok (beside, some (draftName p.name letters.text))) :
    t.makeDraft directory umask p draws attempts = .error failure ↔
      failure = ⟨.noFreeName, (draftPath directory p).text, none⟩ ∧
        ∀ i < attempts, t.lookup (beside ++ [draftName p.name (draws i).text]) ≠ none := by
  induction attempts generalizing draws with
  | zero => simp [makeDraft, eq_comm]
  | succ attempts ih =>
    unfold makeDraft create
    simp only [hnamed]
    cases hfirst : t.lookup (beside ++ [draftName p.name (draws 0).text]) with
    | none =>
      simp only [reduceCtorEq, false_iff, not_and]
      exact fun _ htaken => htaken 0 (Nat.succ_pos attempts) hfirst
    | some node =>
      simp only
      rw [ih]
      refine and_congr_right fun _ => ?_
      constructor
      · intro htaken i hi
        cases i with
        | zero => rw [hfirst]; simp
        | succ i => exact htaken i (Nat.lt_of_succ_lt_succ hi)
      · exact fun htaken i hi => htaken (i + 1) (Nat.succ_lt_succ hi)

theorem makeDraft_of_refused {umask attempts : Nat} {draws : Nat → Letters}
    (hrefused : t.parentAndName directory (draftAt directory p (draws 0).text) = .error problem)
    (hp : problem ≠ .alreadyThere) :
    ∃ failure, t.makeDraft directory umask p draws attempts = .error failure := by
  cases attempts with
  | zero => exact ⟨_, rfl⟩
  | succ attempts =>
    unfold makeDraft create
    simp only [hrefused]
    cases problem with
    | alreadyThere => exact absurd rfl hp
    | _ => exact ⟨_, rfl⟩

/-- However its letters are drawn, the path of a draft has as many bytes. -/
theorem utf8ByteSize_draftAt (letters : Letters) :
    (draftAt directory p letters.text).text.utf8ByteSize =
      (draftPath directory p).text.utf8ByteSize := by
  have habs : (if p.anchor = .doubleRoot then Anchor.doubleRoot else .root) ≠ .relative := by
    split <;> simp
  have htold : (draftName p.name "XXXXXXXX").utf8ByteSize = p.name.utf8ByteSize + 14 := by
    unfold draftName
    simp only [String.utf8ByteSize_append]
    have hpoint : ".".utf8ByteSize = 1 := rfl
    have hletters : "XXXXXXXX".utf8ByteSize = 8 := rfl
    have hend : ".tmp".utf8ByteSize = 4 := rfl
    omega
  unfold draftPath draftAt
  simp only [utf8ByteSize_text habs, utf8ByteSize_intercalate_append, utf8ByteSize_draftName, htold]

/-- The targets for which no draft can be made: its name or its path is too long, though those of
the target need not be, or every name that is drawn is taken. -/
def Undraftable (t : Tree) (directory : Location) (p : Path) (draws : Nat → Letters) : Prop :=
  nameLimit < p.name.utf8ByteSize + 14 ∨
    pathLimit < (draftPath directory p).text.utf8ByteSize ∨
    ∀ i < draftAttempts,
      t.lookup (p.parent.place directory ++ [draftName p.name (draws i).text]) ≠ none

/-- Where the directory is there, no draft can be made for these targets and for no others. -/
theorem makeDraft_error_iff {umask : Nat} {draws : Nat → Letters} (habs : p.isAbsolute = true)
    (hn : p.hasNull = false) (hparent : t.isDirectory directory p.parent = .ok true) :
    (∃ failure, t.makeDraft directory umask p draws draftAttempts = .error failure) ↔
      t.Undraftable directory p draws := by
  have hnamed := parentAndName_draftAt habs hparent
  have hnoNull : (draftAt directory p (draws 0).text).hasNull = false := by
    rw [Bool.eq_false_iff, Ne, hasNull_draftAt]
    exact fun hnull => Bool.eq_false_iff.mp hn (hasNull_of_draftPath habs hnull)
  unfold Undraftable
  cases hc : checkPath (draftAt directory p (draws 0).text) with
  | error problem =>
    rcases checkPath_error hc with ⟨-, hnull⟩ | ⟨rfl, -, hlong⟩
    · rw [hnoNull] at hnull
      cases hnull
    · rw [utf8ByteSize_draftAt] at hlong
      have hrefused := hnamed (draws 0)
      rw [hc] at hrefused
      exact ⟨fun _ => Or.inr (Or.inl hlong), fun _ => makeDraft_of_refused hrefused (by simp)⟩
  | ok checked =>
    have hshort : ¬ pathLimit < (draftPath directory p).text.utf8ByteSize := by
      rw [← utf8ByteSize_draftAt (draws 0)]
      exact (checkPath_ok hc).2
    have hcheck : ∀ letters : Letters, checkPath (draftAt directory p letters.text) = .ok () :=
      fun letters => by rw [checkPath_draftAt letters (draws 0), hc]
    by_cases hlong : p.name.utf8ByteSize + 14 > nameLimit
    · simp only [hcheck, if_pos hlong] at hnamed
      exact ⟨fun _ => Or.inl hlong, fun _ => makeDraft_of_refused (hnamed (draws 0)) (by simp)⟩
    · simp only [hcheck, if_neg hlong] at hnamed
      constructor
      · rintro ⟨failure, h⟩
        exact Or.inr (Or.inr ((makeDraft_eq_error_iff hnamed).mp h).2)
      · rintro (h | h | h)
        · exact absurd h hlong
        · exact absurd h hshort
        · exact ⟨_, (makeDraft_eq_error_iff hnamed).mpr ⟨rfl, h⟩⟩

/-- A draft that could not be made cannot be made later: its path is refused, or every name that is drawn
is taken. Only the second depends on the letters that are drawn. -/
theorem makeDraft_again {umask attempts : Nat} {draws draws' : Nat → Letters}
    (habs : p.isAbsolute = true) (hparent : t.isDirectory directory p.parent = .ok true)
    (hup : Upholds t u) (hdraws : failure.problem = .noFreeName → draws' = draws)
    (h : t.makeDraft directory umask p draws attempts = .error failure) :
    ∃ failure', u.makeDraft directory umask p draws' attempts = .error failure' := by
  have hbefore := parentAndName_draftAt habs hparent
  have hlater := parentAndName_draftAt habs (hup.isDirectory hparent)
  cases hc : checkPath (draftAt directory p (draws' 0).text) with
  | error problem =>
    have hrefused : u.parentAndName directory (draftAt directory p (draws' 0).text) =
        .error problem := by rw [hlater, hc]
    refine makeDraft_of_refused hrefused ?_
    rintro rfl
    rcases checkPath_error hc with ⟨he, -⟩ | ⟨he, -⟩ <;> cases he
  | ok checked =>
    have hcheck : ∀ letters : Letters, checkPath (draftAt directory p letters.text) = .ok () :=
      fun letters => by rw [checkPath_draftAt letters (draws' 0), hc]
    by_cases hlong : p.name.utf8ByteSize + 14 > nameLimit
    · have hrefused : u.parentAndName directory (draftAt directory p (draws' 0).text) =
          .error .nameTooLong := by
        rw [hlater, hcheck]
        simp only [if_pos hlong]
      exact makeDraft_of_refused hrefused (by simp)
    · simp only [hcheck, if_neg hlong] at hbefore hlater
      obtain ⟨rfl, htaken⟩ := (makeDraft_eq_error_iff hbefore).mp h
      rw [hdraws rfl]
      exact ⟨_, (makeDraft_eq_error_iff hlater).mpr ⟨rfl, fun i hi => hup.there (htaken i hi)⟩⟩

end Tree

namespace Process

open Scaffold.Files.Tree

variable {s s' : Process} {u : Tree} {directory : Location} {p : Path} {content : ByteArray}
  {draws draws' : Nat → Letters} {failure : Failure}

/-- A place that is no directory gets its file, unless no draft can be made. -/
theorem replace_of_named {above : Location} {name : String}
    (hp : s.files.parentAndName directory p = .ok (above, some name))
    (hplace : s.files.lookup (above ++ [name]) ≠ some .directory) :
    s.replace directory draws p content =
      match s.files.makeDraft directory s.umask p draws draftAttempts with
      | .error failure => (.error failure, s)
      | .ok _ => (.ok (), ⟨s.files.set (above ++ [name])
          (.file (Tree.newFileMode s.umask) content), s.umask⟩) := by
  unfold replace
  cases hmake : s.files.makeDraft directory s.umask p draws draftAttempts with
  | error failure => rfl
  | ok made =>
    obtain ⟨letters, l, t⟩ := made
    obtain ⟨hdraft, rfl⟩ := makeDraft_ok hmake
    simp only [publish_draft hdraft]
    have hmove : (s.files.set l (.file (Tree.newFileMode s.umask) content)).move directory
        (draftAt directory p letters.text) p =
          .ok (s.files.set (above ++ [name]) (.file (Tree.newFileMode s.umask) content)) := by
      have hup : Upholds s.files (s.files.set l (.file (Tree.newFileMode s.umask) content)) :=
        Upholds.set_file _ _ (by rw [hdraft.free]; simp)
      have hfile : (s.files.set l (.file (Tree.newFileMode s.umask) content)).lookup
          (above ++ [name]) ≠ some .directory := by
        rw [lookup_set _ _ hdraft.ne_root]
        split
        · simp
        · exact hplace
      unfold move
      rw [hdraft.locate]
      simp only [hdraft.lookup, hup.parentAndName hp (by simp), unset_set hdraft.free]
    simp only [hmove]

/-- A replacement that failed at a free place fails later too, and changes nothing. -/
theorem replace_again (habs : p.isAbsolute = true) (hn : p.hasNull = false)
    (hparent : s.files.isDirectory directory p.parent = .ok true) (hup : Upholds s.files u)
    (hmiss : u.exists? directory p = .ok false)
    (hdraws : failure.problem = .noFreeName → draws' = draws)
    (h : s.replace directory draws p content = (.error failure, s')) :
    ∃ failure', replace ⟨u, s.umask⟩ directory draws' p content = (.error failure', ⟨u, s.umask⟩) := by
  obtain ⟨above, name, hp, hfree⟩ := free_of_missing habs hn hparent (hup.exists_false hmiss)
  obtain ⟨above', name', hp', hfree'⟩ := free_of_missing habs hn (hup.isDirectory hparent) hmiss
  rw [replace_of_named hp (by rw [hfree]; simp)] at h
  cases hmake : s.files.makeDraft directory s.umask p draws draftAttempts with
  | ok made => rw [hmake] at h; cases h
  | error failure' =>
    rw [hmake] at h
    cases h
    obtain ⟨failure', hagain⟩ := makeDraft_again habs hparent hup hdraws hmake
    exact ⟨failure', by rw [replace_of_named hp' (by rw [hfree']; simp)]; simp only [hagain]⟩

end Process

end Scaffold.Files
