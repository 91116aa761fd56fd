import Scaffold.Proofs.Schema.Keys
import Scaffold.Proofs.Text.Lines

/-!
# Comments and foreign keys

Columns are read from the lines that are not comments, foreign keys from the whole text. A comment line
therefore counts in two ways: a clause may begin in it, and a clause that it stands in the midst of is
not read.

* `foreignKeys_deleted_iff`: when a comment line can be deleted without changing the foreign keys.
* `foreignKeys_deleted_between`: behind a comma that is the case exactly if no clause begins in it.
* `commented_key_is_read`: a key that is read from a comment line, which the columns leave out.
-/
namespace Scaffold.Schema

open Text

/-! ## The characters of a clause -/

/-- The characters that stand in clauses. -/
def isClauseChar (c : Char) : Bool := isWord c || isBlank c || ['(', ')', '`'].contains c

theorem Spelling.clauseChars {k : String}
    (hlower : (k.toList.map Char.toLower).all Char.isLower = true) (s : Spelling k) :
    ∀ c ∈ s.letters, isClauseChar c = true := by
  intro c hc
  simp [isClauseChar, s.word hlower c hc]

theorem Gap.clauseChars (g : Gap) : ∀ c ∈ g.chars, isClauseChar c = true := by
  intro c hc
  simp [isClauseChar, g.blank c hc]

theorem Ticked.clauseChars (t : Ticked) : ∀ c ∈ t.text, isClauseChar c = true := by
  have htick : ∀ written, ∀ c ∈ tick written, isClauseChar c = true := by
    rintro (_ | _) <;> exact forall_mem_of_all (by decide)
  have hname : ∀ c ∈ t.name.letters, isClauseChar c = true := fun c hc => by
    simp [isClauseChar, t.name.word c hc]
  unfold Ticked.text
  simp only [List.forall_mem_append]
  exact ⟨⟨htick t.left, hname⟩, htick t.right⟩

theorem Bracketed.clauseChars (b : Bracketed) : ∀ c ∈ b.text, isClauseChar c = true := by
  have hsigns : (∀ c ∈ ['('], isClauseChar c = true) ∧ ∀ c ∈ [')'], isClauseChar c = true :=
    ⟨forall_mem_of_all (by decide), forall_mem_of_all (by decide)⟩
  unfold Bracketed.text
  simp only [List.forall_mem_append]
  exact ⟨⟨⟨⟨hsigns.1, b.before.clauseChars⟩, b.ticked.clauseChars⟩, b.behind.clauseChars⟩, hsigns.2⟩

theorem Clause.clauseChars (c : Clause) : ∀ x ∈ c.text, isClauseChar x = true := by
  unfold Clause.text Clause.target Head.text
  simp only [List.forall_mem_append]
  exact ⟨⟨⟨c.head.foreign.clauseChars (by decide), c.head.space.clauseChars⟩,
      c.head.key.clauseChars (by decide)⟩,
    ⟨⟨⟨⟨⟨⟨c.keyGap.clauseChars, c.column.clauseChars⟩, c.columnGap.clauseChars⟩,
      c.references.clauseChars (by decide)⟩, c.referencesSpace.clauseChars⟩, c.table.clauseChars⟩,
      c.tableGap.clauseChars⟩, c.parentColumn.clauseChars⟩

/-! ## Cuts that no clause lies across -/

/-- No clause lies across the beginning of a comment. -/
theorem broken?_comment (g : Gap) (note cs : List Char) :
    broken? (g.chars ++ '-' :: note) cs = none := by
  cases hb : broken? (g.chars ++ '-' :: note) cs with
  | none => rfl
  | some fk =>
    obtain ⟨c, before, part, beyond, rest, -, -, hne, htext, hbehind⟩ := broken?_eq_some hb
    -- the clause would end in a blank or hold the sign of the comment
    have hparen := c.paren_mem_end htext hne
    have hsign : '-' ∉ beyond := fun hmem => by
      have hc := c.clauseChars '-' (by rw [htext]; exact List.mem_append_right _ hmem)
      revert hc
      decide
    have hblank : ')' ∈ g.chars := by
      rcases List.append_eq_append_iff.mp hbehind with ⟨inner, rfl, hinner⟩ | ⟨left, hleft, -⟩
      · cases inner with
        | nil => rwa [List.append_nil] at hparen
        | cons d inner =>
          rw [(List.cons_eq_cons.mp hinner).1] at hsign
          exact absurd (List.mem_append_right _ List.mem_cons_self) hsign
      · rw [hleft]
        exact List.mem_append_left _ hparen
    have hparenBlank := g.blank ')' hblank
    rw [(sign_outside ')' (by simp)).1] at hparenBlank
    cases hparenBlank

/-- No clause lies across the end of a text that closes with a comma and blanks. -/
theorem broken?_comma (g : Gap) (behind front : List Char) :
    broken? behind (front ++ ',' :: g.chars) = none := by
  cases hb : broken? behind (front ++ ',' :: g.chars) with
  | none => rfl
  | some fk =>
    obtain ⟨c, before, part, beyond, rest, hsplit, hne, -, htext, -⟩ := broken?_eq_some hb
    -- the clause would begin with a blank or hold the comma
    obtain ⟨first, more, hpart, hword⟩ := c.first_word htext hne
    have hsign : ',' ∉ part := fun hmem => by
      have hc := c.clauseChars ',' (by rw [htext]; exact List.mem_append_left _ hmem)
      revert hc
      decide
    have hblank : first ∈ g.chars := by
      rcases List.append_eq_append_iff.mp hsplit with ⟨inner, -, hinner⟩ | ⟨left, -, rfl⟩
      · cases inner with
        | nil =>
          rw [List.nil_append] at hinner
          exact absurd (by rw [← hinner]; exact List.mem_cons_self) hsign
        | cons d inner =>
          rw [(List.cons_eq_cons.mp hinner).2, hpart]
          simp
      · exact absurd (List.mem_append_right _ List.mem_cons_self) hsign
    rw [isWord_of_isBlank (g.blank first hblank)] at hword
    cases hword

/-! ## Deleting a comment line -/

/-- What a comment line holds behind its sign. -/
def commentText (line : List Char) : List Char := (line.dropWhile isBlank).drop 2

/-- A comment line is blanks, the sign of a comment, and a text. -/
theorem exists_comment {line : List Char} (h : isCommentLine line = true) :
    ∃ g : Gap, line = g.chars ++ '-' :: '-' :: commentText line := by
  refine ⟨⟨line.takeWhile isBlank, fun c hc => List.mem_takeWhile_imp hc⟩, ?_⟩
  unfold isCommentLine strip stripWhile at h
  obtain ⟨note, hnote⟩ := (startsWith_iff.mp h).trans (dropRightWhile_isPrefix isBlank _)
  unfold commentText
  rw [← hnote]
  simp only [List.cons_append, List.nil_append, List.drop_succ_cons, List.drop_zero]
  have hsplit := (List.takeWhile_append_dropWhile (p := isBlank) (l := line)).symm
  rwa [← hnote] at hsplit

theorem begun_comment {line : List Char} (h : isCommentLine line = true) (behind : List Char) :
    begun behind line = begun behind (commentText line) := by
  obtain ⟨g, hline⟩ := exists_comment h
  have hsign : ∀ c ∈ ['-', '-'], isWord c = false := forall_mem_of_all (by decide)
  have hsplit : line = g.chars ++ (['-', '-'] ++ commentText line) := hline
  rw [hsplit, begun_append, begun_append, begun_of_headless (g.headless _),
    begun_of_headless (headless_of_not_word hsign _), ← hsplit]
  rfl

/-- The keys of a text with a comment line: those before it, those that begin in it, those behind. -/
theorem foreignKeys_comment {before line after : List Char} (h : isCommentLine line = true) :
    foreignKeys (before ++ (line ++ after)) =
      foreignKeys before ++ (begun after (commentText line) ++ foreignKeys after) := by
  unfold foreignKeys
  have hnone : broken? (line ++ after) before = none := by
    obtain ⟨g, hline⟩ := exists_comment h
    rw [hline, List.append_assoc]
    exact broken?_comment g _ before
  rw [foreignKeysIn_append, foreignKeysIn_append, begun_eq_append_broken, hnone, begun_comment h,
    foreignKeysIn_eq_begun before, Option.toList_none, List.append_nil]

/-- A comment line can be deleted without changing the foreign keys exactly if the clauses that begin in
it, read on into what follows, declare the key of the clause that the deletion puts together; mostly
there is none of either. -/
theorem foreignKeys_deleted_iff {before line after : List Char} (h : isCommentLine line = true) :
    foreignKeys (before ++ (line ++ after)) = foreignKeys (before ++ after) ↔
      begun after (commentText line) = (broken? after before).toList := by
  rw [foreignKeys_comment h, foreignKeys_append, List.append_cancel_left_eq,
    List.append_cancel_right_eq]

/-- A remark above a column can be deleted. -/
theorem foreignKeys_remark_deleted :
    isCommentLine "  -- in cents\n".toList = true ∧
      foreignKeys ("CREATE TABLE bills (\n".toList ++ ("  -- in cents\n".toList ++ " price INT\n);".toList)) =
        foreignKeys ("CREATE TABLE bills (\n".toList ++ " price INT\n);".toList) := by
  have hline : isCommentLine "  -- in cents\n".toList = true := by decide
  exact ⟨hline, (foreignKeys_deleted_iff hline).mpr (by decide)⟩

/-- A key on a comment line in the column block is read, while the columns stay the same. -/
theorem commented_key_is_read :
    ∃ before line after block : List Char,
      columnBlock (before ++ (line ++ after)) = .ok block ∧ line <:+: block ∧
      isCommentLine line = true ∧
      columns (before ++ (line ++ after)) = columns (before ++ after) ∧
      foreignKeys (before ++ (line ++ after)) = [⟨"id", "users", "id"⟩] ∧
      foreignKeys (before ++ after) = [] := by
  refine ⟨"CREATE TABLE bills (\n".toList, "  -- FOREIGN KEY (id) REFERENCES users (id),\n".toList,
    "  id INT\n);".toList, "\n  -- FOREIGN KEY (id) REFERENCES users (id),\n  id INT\n".toList,
    by decide, ?_, by decide, by decide, by decide, by decide⟩
  exact ⟨['\n'], "  id INT\n".toList, by decide⟩

/-- Behind a comma a comment line can be deleted exactly if no clause begins in it. -/
theorem foreignKeys_deleted_between {front line after : List Char} (g : Gap)
    (h : isCommentLine line = true) :
    foreignKeys (front ++ ',' :: g.chars ++ (line ++ after)) =
        foreignKeys (front ++ ',' :: g.chars ++ after) ↔
      begun after (commentText line) = [] := by
  rw [foreignKeys_comment h, foreignKeys_append (front ++ ',' :: g.chars) after,
    List.append_cancel_left_eq, List.append_cancel_right_eq, broken?_comma, Option.toList_none]

end Scaffold.Schema
