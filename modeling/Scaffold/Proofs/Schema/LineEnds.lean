import Scaffold.Proofs.Schema.Keys
import Scaffold.Proofs.Schema.TableHead

/-!
# Line ends of a schema

A schema may be written with any line ends. To the readers a line end is a blank like others, so of a text
whose line ends are normalised they read the same, and leave the rest of it normalised.

* `tableHead?_lineEnds`, `bareForeignKey?_lineEnds`: the head of a table and the clause of a key.
* `firstTable?_lineEnds`, `begun_lineEnds`: the scans for them.
* `parts_lineEnds`: the name, the keys and the column block of a schema.
-/
namespace Scaffold.Schema

open Text

/-- What is left of a text from which something was read, its line ends normalised. -/
def normaliseRest {α : Type} (found : α × List Char) : α × List Char :=
  (found.1, normaliseNewlines found.2)

/-! ## Words, blanks and signs -/

/-- No line end counts as a letter of a keyword. -/
theorem keyword?_lineEnds {ks : List Char} (h : (ks.map Char.toLower).all Char.isLower = true) :
    Follows normaliseNewlines normaliseNewlines (keyword? ks) := by
  intro cs
  induction ks generalizing cs with
  | nil => rfl
  | cons k ks ih =>
    rw [List.map_cons, List.all_cons, Bool.and_eq_true] at h
    have hline : ∀ c, (foldChar c).isLower = false → foldChar c ≠ k.toLower := by
      intro c hc heq
      rw [heq, h.1] at hc
      cases hc
    cases cs with
    | nil => rfl
    | cons c cs =>
      by_cases hc : c = '\r'
      · rw [hc, normaliseNewlines_return, keyword?, keyword?, if_neg (hline '\r' (by decide)),
          if_neg (hline '\n' (by decide))]
        rfl
      · rw [normaliseNewlines_cons hc, keyword?, keyword?]
        split
        · exact ih h.2 cs
        · rfl

theorem keyword_lineEnds {k : String} (h : (k.toList.map Char.toLower).all Char.isLower = true) :
    Follows normaliseNewlines normaliseNewlines (keyword k) := keyword?_lineEnds h

theorem blanks_lineEnds (cs : List Char) :
    blanks (normaliseNewlines cs) = normaliseNewlines (blanks cs) :=
  dropWhile_normaliseNewlines (by decide) cs

theorem blanks1?_lineEnds : Follows normaliseNewlines normaliseNewlines blanks1? := by
  intro cs
  cases cs with
  | nil => rfl
  | cons c cs =>
    by_cases hc : c = '\r'
    · -- a line feed that belongs to the same line end is one more blank
      have hblank : isBlank '\r' = true ∧ isBlank '\n' = true := by decide
      have hbehind := blanks_lineEnds ('\r' :: cs)
      rw [normaliseNewlines_return] at hbehind
      unfold blanks at hbehind
      rw [List.dropWhile_cons_of_pos hblank.1, List.dropWhile_cons_of_pos hblank.2] at hbehind
      rw [hc, normaliseNewlines_return, blanks1?, blanks1?, if_pos hblank.1, if_pos hblank.2, hbehind]
      rfl
    · rw [normaliseNewlines_cons hc, blanks1?, blanks1?]
      split
      · exact congrArg some (blanks_lineEnds cs)
      · rfl

/-- A sign stands in no line end. -/
theorem char?_lineEnds {c : Char} (hreturn : c ≠ '\r') (hnewline : c ≠ '\n') :
    Follows normaliseNewlines normaliseNewlines (char? c) := by
  intro cs
  cases cs with
  | nil => rfl
  | cons d cs =>
    by_cases hd : d = '\r'
    · rw [hd, normaliseNewlines_return, char?, char?, if_neg hreturn.symm, if_neg hnewline.symm]
      rfl
    · rw [normaliseNewlines_cons hd, char?, char?]
      split <;> rfl

theorem optional_lineEnds (cs : List Char) :
    optional '`' (normaliseNewlines cs) = normaliseNewlines (optional '`' cs) := by
  unfold optional
  rw [char?_lineEnds (by decide) (by decide) cs]
  cases char? '`' cs <;> rfl

theorem word?_lineEnds : Follows normaliseNewlines normaliseRest word? := by
  intro cs
  unfold word? splitWord
  rw [List.span_eq_takeWhile_dropWhile, List.span_eq_takeWhile_dropWhile,
    takeWhile_normaliseNewlines (by decide) (by decide), dropWhile_normaliseNewlines (by decide)]
  cases cs.takeWhile isWord <;> rfl

theorem tickedWord?_lineEnds : Follows normaliseNewlines normaliseRest tickedWord? := by
  intro cs
  unfold tickedWord?
  rw [optional_lineEnds, word?_lineEnds]
  cases word? (optional '`' cs) with
  | none => rfl
  | some found => exact congrArg (fun rest => some (found.1, rest)) (optional_lineEnds found.2)

theorem quotedWord?_lineEnds : Follows normaliseNewlines normaliseRest quotedWord? := by
  intro cs
  cases cs with
  | nil => rfl
  | cons c cs =>
    by_cases hc : c = '\r'
    · rw [hc, normaliseNewlines_return, quotedWord?, quotedWord?, if_neg (by decide), if_neg (by decide),
        ← normaliseNewlines_return]
      exact word?_lineEnds ('\r' :: cs)
    · rw [normaliseNewlines_cons hc, quotedWord?, quotedWord?]
      split
      · rename_i hquote
        have hsign : c ≠ '\r' ∧ c ≠ '\n' := by rcases hquote with rfl | rfl <;> decide
        have hclose : Follows normaliseRest normaliseRest fun found : List Char × List Char =>
            (char? c found.2).bind fun rest => some (found.1, rest) := by
          intro found
          simp only [normaliseRest, char?_lineEnds hsign.1 hsign.2 found.2]
          cases char? c found.2 <;> rfl
        exact word?_lineEnds.bind hclose cs
      · rw [← normaliseNewlines_cons hc]
        exact word?_lineEnds (c :: cs)

/-- A reader that is told what was read before follows a change if it does for each of the answers. -/
theorem follows_rest {α β : Type} {read? : α → List Char → Option β} {after : β → β}
    (h : ∀ a, Follows normaliseNewlines after (read? a)) :
    Follows normaliseRest after fun found : α × List Char => read? found.1 found.2 :=
  fun found => h found.1 found.2

/-- Blanks may stand before what is read. -/
theorem follows_blanks {β : Type} {read? : List Char → Option β} {after : β → β}
    (h : Follows normaliseNewlines after read?) :
    Follows normaliseNewlines after fun cs => read? (blanks cs) := by
  intro cs
  simp only [blanks_lineEnds]
  exact h (blanks cs)

/-! ## The head of a table and the clause of a key -/

theorem ifNotExists?_lineEnds : Follows normaliseNewlines normaliseNewlines ifNotExists? :=
  (keyword_lineEnds (by decide)).bind (blanks1?_lineEnds.bind ((keyword_lineEnds (by decide)).bind
    (blanks1?_lineEnds.bind ((keyword_lineEnds (by decide)).bind blanks1?_lineEnds))))

theorem tableHead?_lineEnds : Follows normaliseNewlines normaliseRest tableHead? := by
  have hname : Follows normaliseNewlines normaliseRest fun cs =>
      ((ifNotExists? cs).bind quotedWord?).or (quotedWord? cs) :=
    (ifNotExists?_lineEnds.bind quotedWord?_lineEnds).or quotedWord?_lineEnds
  have hhead := (keyword_lineEnds (k := "CREATE") (by decide)).bind (blanks1?_lineEnds.bind
    ((keyword_lineEnds (k := "TABLE") (by decide)).bind (blanks1?_lineEnds.bind hname)))
  intro cs
  simpa only [tableHead?, Option.bind_eq_bind, Option.orElse_eq_orElse, Option.orElse_eq_or] using
    hhead cs

theorem parenthesised?_lineEnds : Follows normaliseNewlines normaliseRest parenthesised? := by
  have hclose : ∀ word : List Char, Follows normaliseNewlines normaliseRest fun cs =>
      (char? ')' (blanks cs)).bind fun rest => some (word, rest) := fun word =>
    (follows_blanks (char?_lineEnds (by decide) (by decide))).bind fun _ => rfl
  exact (char?_lineEnds (by decide) (by decide)).bind
    ((follows_blanks tickedWord?_lineEnds).bind (follows_rest hclose))

theorem bareForeignKey?_lineEnds : Follows normaliseNewlines normaliseRest bareForeignKey? := by
  have hparent : ∀ column table : List Char, Follows normaliseNewlines normaliseRest fun cs =>
      (parenthesised? (blanks cs)).bind fun found : List Char × List Char =>
        some ((⟨.ofList column, .ofList table, .ofList found.1⟩ : ForeignKey), found.2) :=
    fun column table => (follows_blanks parenthesised?_lineEnds).bind fun _ => rfl
  have hreferences : ∀ column : List Char, Follows normaliseNewlines normaliseRest fun cs =>
      (keyword "REFERENCES" (blanks cs)).bind fun cs => (blanks1? cs).bind fun cs =>
        (tickedWord? cs).bind fun found => (parenthesised? (blanks found.2)).bind fun parent =>
          some ((⟨.ofList column, .ofList found.1, .ofList parent.1⟩ : ForeignKey), parent.2) :=
    fun column => (follows_blanks (keyword_lineEnds (by decide))).bind (blanks1?_lineEnds.bind
      (tickedWord?_lineEnds.bind (follows_rest (hparent column))))
  exact (keyword_lineEnds (by decide)).bind (blanks1?_lineEnds.bind ((keyword_lineEnds (by decide)).bind
    ((follows_blanks parenthesised?_lineEnds).bind (follows_rest hreferences))))

/-! ## The scans -/

theorem firstTable?_cons_none {c : Char} (hc : foldChar c ≠ 'c') (cs : List Char) :
    firstTable? (c :: cs) = firstTable? cs := by
  rw [firstTable?_cons, tableHead?_of_no_opening fun o rest => not_opening_of_fold hc, Option.none_or]

theorem firstTable?_lineEnds : Follows normaliseNewlines normaliseRest firstTable? := by
  intro cs
  fun_induction normaliseNewlines cs with
  | case1 => rfl
  | case2 rest ih =>
    rw [firstTable?_cons_none (by decide), ih, firstTable?_cons_none (by decide),
      firstTable?_cons_none (by decide)]
  | case3 rest _ ih => rw [firstTable?_cons_none (by decide), ih, firstTable?_cons_none (by decide)]
  | case4 c rest _ hsingle ih =>
    have hhead := tableHead?_lineEnds (c :: rest)
    rw [normaliseNewlines_cons fun heq => hsingle heq] at hhead
    rw [firstTable?_cons, firstTable?_cons, hhead, ih]
    cases tableHead? (c :: rest) <;> rfl

/-- No clause begins at a line end. -/
theorem begun_cons_of_not_word {c : Char} (hc : isWord c = false) (cs : List Char) :
    begun [] (c :: cs) = begun [] cs := by
  rw [begun_cons_none]
  exact bareForeignKey?_of_not_headAt (not_headAt_of_outside hc)

theorem begun_lineEnds (cs : List Char) : begun [] (normaliseNewlines cs) = begun [] cs := by
  fun_induction normaliseNewlines cs with
  | case1 => rfl
  | case2 rest ih =>
    rw [begun_cons_of_not_word (by decide), ih, begun_cons_of_not_word (by decide),
      begun_cons_of_not_word (by decide)]
  | case3 rest _ ih => rw [begun_cons_of_not_word (by decide), ih, begun_cons_of_not_word (by decide)]
  | case4 c rest _ hsingle ih =>
    have hclause := bareForeignKey?_lineEnds (c :: rest)
    rw [normaliseNewlines_cons fun heq => hsingle heq] at hclause
    rw [begun, begun, List.append_nil, List.append_nil, hclause, ih]
    cases bareForeignKey? (c :: rest) <;> rfl

theorem afterFirst?_lineEnds {c : Char} (hreturn : c ≠ '\r') (hnewline : c ≠ '\n') :
    Follows normaliseNewlines normaliseNewlines (afterFirst? c) := by
  intro cs
  fun_induction normaliseNewlines cs with
  | case1 => rfl
  | case2 rest ih =>
    rw [afterFirst?, if_neg hnewline.symm, ih, afterFirst?, if_neg hreturn.symm, afterFirst?,
      if_neg hnewline.symm]
  | case3 rest _ ih => rw [afterFirst?, if_neg hnewline.symm, ih, afterFirst?, if_neg hreturn.symm]
  | case4 d rest _ _ ih =>
    rw [afterFirst?, afterFirst?, ih]
    split <;> rfl

theorem beforeLast?_lineEnds {c : Char} (hreturn : c ≠ '\r') (hnewline : c ≠ '\n') :
    Follows normaliseNewlines normaliseNewlines (beforeLast? c) := by
  intro cs
  have hnone : ∀ {rest : List Char}, c ∉ rest → c ∉ normaliseNewlines rest := fun h hmem =>
    (mem_normaliseNewlines hmem).elim hnewline h
  cases hlast : beforeLast? c cs with
  | none => exact beforeLast?_eq_none_iff.mpr (hnone (beforeLast?_eq_none_iff.mp hlast))
  | some before =>
    obtain ⟨after, hafter, rfl⟩ := beforeLast?_eq_some_iff.mp hlast
    refine beforeLast?_eq_some_iff.mpr ⟨normaliseNewlines after, hnone hafter, ?_⟩
    rw [normaliseNewlines_append before (by simpa using hnewline), normaliseNewlines_cons hreturn]

/-! ## The parts of a schema -/

theorem columnBlock_lineEnds (cs : List Char) :
    columnBlock (normaliseNewlines cs) = (columnBlock cs).map normaliseNewlines := by
  unfold columnBlock
  rw [firstTable?_lineEnds cs]
  cases firstTable? cs with
  | none => rfl
  | some found =>
    simp only [Option.map_some, normaliseRest]
    rw [afterFirst?_lineEnds (by decide) (by decide) found.2]
    cases afterFirst? '(' found.2 with
    | none => rfl
    | some block =>
      simp only [Option.map_some]
      rw [beforeLast?_lineEnds (by decide) (by decide) block]
      cases beforeLast? ')' block <;> rfl

theorem blockPieces_eq (cs : List Char) :
    blockPieces cs =
      (columnBlock cs).map fun block => (pieces (normaliseNewlines block)).map readPiece := by
  unfold blockPieces
  rw [columnBlock_lineEnds]
  cases columnBlock cs <;> rfl

theorem columns_lineEnds (cs : List Char) : columns (normaliseNewlines cs) = columns cs := by
  unfold columns blockPieces
  rw [normaliseNewlines_idem]

/-- Of a text with any line ends the same name and the same keys are read as of the text whose line ends are
normalised, or the same is wrong with it, and the column block is the same up to its own line ends. -/
theorem parts_lineEnds (cs : List Char) :
    tableName (normaliseNewlines cs) = tableName cs ∧
      foreignKeys (normaliseNewlines cs) = foreignKeys cs ∧
      columnBlock (normaliseNewlines cs) = (columnBlock cs).map normaliseNewlines := by
  refine ⟨?_, ?_, columnBlock_lineEnds cs⟩
  · unfold tableName
    rw [firstTable?_lineEnds cs]
    cases firstTable? cs <;> rfl
  · unfold foreignKeys
    rw [foreignKeysIn_eq_begun, foreignKeysIn_eq_begun, begun_lineEnds]

end Scaffold.Schema
