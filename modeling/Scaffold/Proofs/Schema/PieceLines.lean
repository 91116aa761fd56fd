import Scaffold.Proofs.Schema.Columns

/-!
# What a piece declares, line by line

Comment lines are left out of a piece, the rest is trimmed as a whole, and the column is read off its
beginning. This comes to the same as looking for the first line that is neither blank nor a comment and
reading the column off that line alone.

* `readPiece_eq_pieceColumn?`: a piece declares what its first telling line declares.
* `firstColumn?_newline`: the lines of a text in two parts.
* `pieceColumn?_blanks`, `pieceColumn?_comma`: blanks before a piece and a comma behind it tell nothing.
-/
namespace Scaffold.Schema

open Text

/-! ## The column of a line -/

/-- The column at the beginning of a text, unless a constraint begins there. -/
def startColumn? (start : List Char) : Option (List Char) :=
  if constraintHeads.any fun head => startsWith head.toList (upper start) then none
  else (word? (optional '`' start)).map Prod.fst

/-- The column that a line declares. -/
def lineColumn? (line : List Char) : Option (List Char) := startColumn? (blanks line)

/-- Whether a line is neither blank nor a comment. -/
def tells (line : List Char) : Bool := !isCommentLine line && !line.all isBlank

/-- The column that the first telling line declares. -/
def firstColumn? : List (List Char) → Option (List Char)
  | [] => none
  | line :: lines => if tells line then lineColumn? line else firstColumn? lines

/-- The column that a piece declares, read line by line. -/
def pieceColumn? (piece : List Char) : Option (List Char) := firstColumn? (lines piece)

theorem isCommentLine_iff {line : List Char} :
    isCommentLine line = true ↔ ['-', '-'] <+: blanks line := by
  unfold isCommentLine
  rw [startsWith_iff]
  constructor
  · exact fun h => h.trans (dropRightWhile_isPrefix isBlank _)
  · rintro ⟨note, hnote⟩
    have hsign : isBlank '-' = false := (sign_outside '-' (by simp)).1
    have hstrip : strip line = ['-'] ++ '-' :: dropRightWhile isBlank note := by
      rw [← dropRightWhile_append ['-'] hsign]
      exact congrArg (dropRightWhile isBlank) hnote.symm
    rw [hstrip]
    exact List.prefix_append ['-', '-'] _

theorem tells_iff {line : List Char} :
    tells line = true ↔ ¬['-', '-'] <+: blanks line ∧ blanks line ≠ [] := by
  have hblank : line.all isBlank = true ↔ blanks line = [] := by
    rw [List.all_eq_true]
    exact List.dropWhile_eq_nil_iff.symm
  unfold tells
  rw [Bool.and_eq_true, Bool.not_eq_true', Bool.not_eq_true', ← isCommentLine_iff, ne_eq, ← hblank,
    Bool.not_eq_true, Bool.not_eq_true]

/-- A line is read without the blanks before it. -/
theorem blanks_append {gap : List Char} (hgap : ∀ c ∈ gap, isBlank c = true) (line : List Char) :
    blanks (gap ++ line) = blanks line := List.dropWhile_append_of_pos hgap

theorem tells_lead {gap : List Char} (hgap : ∀ c ∈ gap, isBlank c = true) (line : List Char) :
    tells (gap ++ line) = tells line := by
  rw [Bool.eq_iff_iff, tells_iff, tells_iff, blanks_append hgap]

theorem lineColumn?_lead {gap : List Char} (hgap : ∀ c ∈ gap, isBlank c = true) (line : List Char) :
    lineColumn? (gap ++ line) = lineColumn? line := by
  unfold lineColumn?
  rw [blanks_append hgap]

/-! ## What stands behind the beginning -/

theorem optional_append {start rest : List Char} (h : Outside isEdge rest) :
    optional '`' (start ++ rest) = optional '`' start ++ rest := by
  cases start with
  | nil =>
    cases rest with
    | nil => rfl
    | cons c rest =>
      have hc : c ≠ '`' := by
        rintro rfl
        cases (show isEdge '`' = false from h)
      simp [optional, char?, hc]
  | cons c start =>
    unfold optional
    rw [List.cons_append, char?, char?]
    split <;> rfl

theorem map_fst_word? (cs : List Char) : (word? cs).map Prod.fst =
    if cs.takeWhile isWord = [] then none else some (cs.takeWhile isWord) := by
  unfold word? splitWord
  rw [List.span_eq_takeWhile_dropWhile]
  cases cs.takeWhile isWord <;> rfl

/-- The column at the beginning does not depend on what follows a word if no head of a constraint does. -/
theorem startColumn?_append {start rest : List Char} (h : Outside isEdge rest)
    (hheads : ∀ head ∈ constraintHeads, head.toList <+: upper (start ++ rest) →
      head.toList <+: upper start) : startColumn? (start ++ rest) = startColumn? start := by
  have hword : Outside isWord rest := by
    cases rest with
    | nil => trivial
    | cons c rest =>
      have hc : (isWord c || c == '`') = false := h
      exact (Bool.or_eq_false_iff.mp hc).1
  have hany : (constraintHeads.any fun head => startsWith head.toList (upper (start ++ rest))) =
      constraintHeads.any fun head => startsWith head.toList (upper start) := by
    rw [Bool.eq_iff_iff, List.any_eq_true, List.any_eq_true]
    refine exists_congr fun head => and_congr_right fun hhead => ?_
    rw [startsWith_iff, startsWith_iff]
    exact ⟨hheads head hhead, fun hstart => hstart.trans (upper_isPrefix (List.prefix_append _ _))⟩
  unfold startColumn?
  rw [hany, map_fst_word?, map_fst_word?, optional_append h, takeWhile_append_outside _ hword]

/-- A sign that no head holds ends the beginning of a line. -/
theorem startColumn?_sign (start : List Char) {c : Char} (hc : c ∈ ['\n', ',']) (rest : List Char) :
    startColumn? (start ++ c :: rest) = startColumn? start := by
  have hsign : ∀ c ∈ ['\n', ','], isEdge c = false ∧ upperChar c = [c] ∧
      constraintHeads.all (fun head => !head.toList.contains c) = true :=
    forall_mem_of_all (by decide)
  obtain ⟨hedge, hupper, hheads⟩ := hsign c hc
  refine startColumn?_append hedge fun head hhead hprefix => ?_
  have hcons : upper (c :: rest) = upperChar c ++ upper rest := rfl
  have hmem : c ∉ head.toList := by simpa using List.all_eq_true.mp hheads head hhead
  rw [upper_append, hcons, hupper, List.singleton_append] at hprefix
  exact prefix_of_not_mem hprefix hmem

/-- Blanks behind a line tell nothing: no head of a constraint ends in one. -/
theorem startColumn?_blanks (start : List Char) {gap : List Char}
    (hgap : ∀ c ∈ gap, isBlank c = true) : startColumn? (start ++ gap) = startColumn? start := by
  have houtside : Outside isEdge gap := by
    cases gap with
    | nil => trivial
    | cons c gap =>
      rw [outside_cons, Bool.eq_false_iff]
      intro hedge
      have hblank := hgap c List.mem_cons_self
      rw [isBlank_of_isEdge hedge] at hblank
      cases hblank
  have hlast : ∀ head ∈ constraintHeads, head.toList.getLast?.all (fun c => !isBlank c) = true :=
    forall_mem_of_all (by decide)
  refine startColumn?_append houtside fun head hhead hbegins => ?_
  rw [upper_append, upper_blank hgap] at hbegins
  rcases List.prefix_or_prefix_of_prefix hbegins (List.prefix_append (upper start) gap) with h | h
  · exact h
  · obtain ⟨beyond, hbeyond⟩ := h
    rw [← hbeyond, List.prefix_append_right_inj] at hbegins
    obtain rfl | ⟨front, last, rfl⟩ := List.eq_nil_or_concat beyond
    · exact ⟨[], by simpa using hbeyond.symm⟩
    · have hblank := hgap last (hbegins.subset (by simp))
      have hnone := hlast head hhead
      rw [← hbeyond] at hnone
      simp [hblank] at hnone

/-! ## From a piece to its first telling line -/

theorem firstColumn?_cons (line : List Char) (lines : List (List Char)) :
    firstColumn? (line :: lines) = if tells line then lineColumn? line else firstColumn? lines := rfl

theorem firstColumn?_append_silent {a : List (List Char)} (h : ∀ line ∈ a, tells line = false)
    (b : List (List Char)) : firstColumn? (a ++ b) = firstColumn? b := by
  induction a with
  | nil => rfl
  | cons line a ih =>
    obtain ⟨hline, ha⟩ := List.forall_mem_cons.mp h
    rw [List.cons_append, firstColumn?_cons, hline]
    exact ih ha

/-- The lines of a piece up to the first that tells. -/
theorem exists_telling (ls : List (List Char)) :
    (∀ line ∈ ls, tells line = false) ∨
      ∃ before line after, ls = before ++ line :: after ∧ (∀ l ∈ before, tells l = false) ∧
        tells line = true := by
  induction ls with
  | nil => exact .inl (by simp)
  | cons line ls ih =>
    cases hline : tells line with
    | true => exact .inr ⟨[], line, ls, rfl, by simp, hline⟩
    | false =>
      rcases ih with hall | ⟨before, telling, after, rfl, hbefore, htelling⟩
      · exact .inl (List.forall_mem_cons.mpr ⟨hline, hall⟩)
      · exact .inr ⟨line :: before, telling, after, rfl,
          List.forall_mem_cons.mpr ⟨hline, hbefore⟩, htelling⟩

/-- A line that does not tell and is kept is blank. -/
theorem blank_of_kept {line : List Char} (htells : tells line = false)
    (hkept : isCommentLine line = false) : ∀ c ∈ line, isBlank c = true := by
  unfold tells at htells
  rw [hkept, Bool.not_false, Bool.true_and, Bool.not_eq_false'] at htells
  exact List.all_eq_true.mp htells

theorem blank_of_silent {ls : List (List Char)} (h : ∀ line ∈ ls, tells line = false) :
    ∀ line ∈ ls.filter fun line => !isCommentLine line, ∀ c ∈ line, isBlank c = true := by
  intro line hline
  obtain ⟨hmem, hkept⟩ := List.mem_filter.mp hline
  exact blank_of_kept (h line hmem) (by simpa using hkept)

theorem joinWith_blank {ls : List (List Char)} (h : ∀ line ∈ ls, ∀ c ∈ line, isBlank c = true) :
    ∀ c ∈ joinWith ['\n'] ls, isBlank c = true := by
  fun_induction joinWith ['\n'] ls with
  | case1 => simp
  | case2 line => exact h line List.mem_cons_self
  | case3 line rest _ ih =>
    obtain ⟨hline, hrest⟩ := List.forall_mem_cons.mp h
    have hnewline : ∀ c ∈ ['\n'], isBlank c = true := forall_mem_of_all (by decide)
    exact List.forall_mem_append.mpr ⟨List.forall_mem_append.mpr ⟨hline, hnewline⟩, ih hrest⟩

theorem column?_readPiece (piece : List Char) :
    (readPiece piece).column? = if strip (withoutComments piece) = [] then none
      else startColumn? (strip (withoutComments piece)) := by
  generalize hline : strip (withoutComments piece) = line
  have hstrip : strip line = line := by rw [← hline, strip_strip]
  unfold readPiece startColumn? isColumnLine
  simp only [hline, hstrip]
  cases line with
  | nil => rfl
  | cons c line =>
    cases constraintHeads.any fun head => startsWith head.toList (upper (c :: line)) with
    | true => rfl
    | false =>
      simp only [List.isEmpty_cons, Bool.not_false, Bool.not_true, Bool.or_false, Bool.false_eq_true,
        if_false, reduceCtorEq]
      cases word? (optional '`' (c :: line)) <;> rfl

/-- The piece from its first telling line on: before the line stand blank lines, behind it the end or a
line feed. -/
theorem strip_telling {piece : List Char} {before after : List (List Char)} {line : List Char}
    (hlines : lines piece = before ++ line :: after) (hbefore : ∀ l ∈ before, tells l = false)
    (htells : tells line = true) :
    ∃ rest, (rest = [] ∨ ['\n'] <+: rest) ∧
      strip (withoutComments piece) = dropRightWhile isBlank (blanks line ++ rest) := by
  obtain ⟨hcomment, hne⟩ := tells_iff.mp htells
  have hkept : (!isCommentLine line) = true := by
    rw [Bool.not_eq_true', Bool.eq_false_iff]
    exact fun h => hcomment (isCommentLine_iff.mp h)
  obtain ⟨rest, hjoin, hrest⟩ := joinWith_cons ['\n'] line
    (after.filter fun line => !isCommentLine line)
  have hblank := blank_of_silent hbefore
  obtain ⟨⟨gap, hgap⟩, hout⟩ := blanks_eq_iff.mp (rfl : blanks line = _)
  have hlead : ∀ c ∈ (before.filter fun line => !isCommentLine line).flatMap (· ++ ['\n']) ++
      gap.chars, isBlank c = true := by
    simp only [List.forall_mem_append, List.mem_flatMap]
    refine ⟨?_, gap.blank⟩
    rintro c ⟨l, hl, hc⟩
    rcases List.mem_append.mp hc with hc | hc
    · exact hblank l hl c hc
    · rw [List.mem_singleton.mp hc]
      decide
  have houtside : Outside isBlank (blanks line ++ rest) := by
    obtain ⟨c, start, hstart⟩ := List.exists_cons_of_ne_nil hne
    rw [hstart] at hout ⊢
    exact hout
  refine ⟨rest, hrest, ?_⟩
  unfold withoutComments
  rw [hlines, List.filter_append, List.filter_cons_of_pos (by exact hkept), joinWith_append, hjoin]
  conv_lhs => rw [hgap, List.append_assoc, ← List.append_assoc]
  exact strip_lead hlead houtside

/-- A line is read as it stands at the beginning of a trimmed text. -/
theorem startColumn?_trimmed {start rest : List Char} (hrest : rest = [] ∨ ['\n'] <+: rest) :
    startColumn? (dropRightWhile isBlank (start ++ rest)) = startColumn? start := by
  obtain ⟨tail, htail, hblank⟩ := exists_dropRightWhile isBlank (start ++ rest)
  rw [← startColumn?_blanks _ hblank, ← htail]
  rcases hrest with rfl | ⟨more, rfl⟩
  · rw [List.append_nil]
  · exact startColumn?_sign start (by simp) more

/-- A piece declares what its first telling line declares. -/
theorem readPiece_eq_pieceColumn? (piece : List Char) :
    (readPiece piece).column? = pieceColumn? piece := by
  rw [column?_readPiece]
  unfold pieceColumn?
  rcases exists_telling (lines piece) with hsilent | ⟨before, line, after, hlines, hbefore, htells⟩
  · have hnone : strip (withoutComments piece) = [] := by
      have hstrip := strip_lead (joinWith_blank (blank_of_silent hsilent)) (outside_nil isBlank)
      rwa [List.append_nil] at hstrip
    have hfirst := firstColumn?_append_silent hsilent []
    rw [List.append_nil] at hfirst
    rw [if_pos hnone, hfirst]
    rfl
  · obtain ⟨rest, hrest, hstrip⟩ := strip_telling hlines hbefore htells
    have hcolumn : startColumn? (strip (withoutComments piece)) = lineColumn? line := by
      rw [hstrip]
      exact startColumn?_trimmed hrest
    have hfirst : firstColumn? (lines piece) = lineColumn? line := by
      rw [hlines, firstColumn?_append_silent hbefore, firstColumn?_cons, htells, if_pos rfl]
    rw [hcolumn, hfirst]
    split
    · rename_i hnil
      rw [← hcolumn, hnil]
      rfl
    · rfl

/-! ## The lines of a text in parts -/

/-- A line feed ends a line, and an empty one if it stands behind another line end. -/
theorem linesFrom_newline {part : List Char} (hreturn : '\r' ∉ part) (current rest : List Char) :
    ∃ empty, (empty = [] ∨ empty = [[]]) ∧
      linesFrom current (part ++ '\n' :: rest) = linesFrom current part ++ (empty ++ lines rest) := by
  induction part generalizing current with
  | nil =>
    have hbreak : linesFrom current ('\n' :: rest) = current.reverse :: lines rest :=
      (linesFrom_cons (by decide) current rest).trans (if_pos (by decide))
    rw [List.nil_append, hbreak, linesFrom]
    cases current with
    | nil => exact ⟨[[]], .inr rfl, rfl⟩
    | cons c current => exact ⟨[], .inl rfl, rfl⟩
  | cons c part ih =>
    have hc : c ≠ '\r' := fun h => hreturn (by rw [h]; exact List.mem_cons_self)
    have hpart : '\r' ∉ part := fun h => hreturn (List.mem_cons_of_mem _ h)
    rw [List.cons_append, linesFrom_cons hc, linesFrom_cons hc]
    split
    · obtain ⟨empty, hempty, heq⟩ := ih hpart []
      exact ⟨empty, hempty, by rw [heq, List.cons_append]⟩
    · exact ih hpart (c :: current)

/-- What stands before a text goes into its first line. -/
theorem exists_firstLine {cs : List Char} (hne : cs ≠ []) :
    ∃ first others, ∀ current, linesFrom current cs = (current.reverse ++ first) :: others := by
  induction cs with
  | nil => exact absurd rfl hne
  | cons c cs ih =>
    by_cases hc : c = '\r'
    · subst hc
      cases cs with
      | nil => exact ⟨[], [], fun current => by simp [linesFrom, isLineBreak, lineBreaks]⟩
      | cons d cs =>
        by_cases hd : d = '\n'
        · subst hd
          exact ⟨[], linesFrom [] cs, fun current => by rw [linesFrom, List.append_nil]⟩
        · refine ⟨[], linesFrom [] (d :: cs), fun current => ?_⟩
          rw [linesFrom, if_pos (by decide), List.append_nil]
          rintro rest - heq
          exact hd (List.cons_eq_cons.mp heq).1
    · by_cases hbreak : isLineBreak c = true
      · exact ⟨[], linesFrom [] cs, fun current => by
          rw [linesFrom_cons hc, if_pos hbreak, List.append_nil]⟩
      · cases cs with
        | nil => exact ⟨[c], [], fun current => by simp [linesFrom_cons hc, hbreak, linesFrom]⟩
        | cons d cs =>
          obtain ⟨first, others, heq⟩ := ih (List.cons_ne_nil _ _)
          exact ⟨c :: first, others, fun current => by
            rw [linesFrom_cons hc, if_neg hbreak, heq]; simp⟩

theorem tells_blank {line : List Char} (h : ∀ c ∈ line, isBlank c = true) : tells line = false := by
  unfold tells
  rw [List.all_eq_true.mpr h, Bool.not_true, Bool.and_false]

theorem tells_comment {gap : List Char} (hgap : ∀ c ∈ gap, isBlank c = true) (note : List Char) :
    tells (gap ++ '-' :: '-' :: note) = false := by
  rw [tells_lead hgap, Bool.eq_false_iff]
  exact fun h => (tells_iff.mp h).1 (List.prefix_append ['-', '-'] note)

theorem firstColumn?_append_none (a : List (List Char)) {b : List (List Char)}
    (h : firstColumn? b = none) : firstColumn? (a ++ b) = firstColumn? a := by
  induction a with
  | nil => exact h
  | cons line a ih => rw [List.cons_append, firstColumn?_cons, firstColumn?_cons, ih]

/-- The column of a piece that goes on behind a line feed. -/
theorem pieceColumn?_newline {part : List Char} (hreturn : '\r' ∉ part) (rest : List Char) :
    pieceColumn? (part ++ '\n' :: rest) = firstColumn? (lines part ++ lines rest) := by
  obtain ⟨empty, hempty, heq⟩ := linesFrom_newline hreturn [] rest
  have hsilent : firstColumn? (empty ++ lines rest) = firstColumn? (lines rest) := by
    refine firstColumn?_append_silent (fun line hline => ?_) _
    rcases hempty with rfl | rfl
    · cases hline
    · rw [List.mem_singleton.mp hline]
      exact tells_blank (by simp)
  unfold pieceColumn? lines at *
  rw [heq]
  clear heq
  induction linesFrom [] part with
  | nil => exact hsilent
  | cons line part ih => rw [List.cons_append, List.cons_append, firstColumn?_cons, firstColumn?_cons, ih]

/-- Blanks before a piece tell nothing. -/
theorem pieceColumn?_blanks {lead : List Char} (hlead : ∀ c ∈ lead, isBlank c = true)
    (hreturn : '\r' ∉ lead) (rest : List Char) : pieceColumn? (lead ++ rest) = pieceColumn? rest := by
  have hnil : ∀ c ∈ ([] : List Char), isBlank c = true := by simp
  obtain ⟨blank, gap, hblank, hgap, heq⟩ := linesFrom_lead hlead hreturn hnil rest
  have hgap' : ∀ c ∈ gap.reverse, isBlank c = true := fun c hc => hgap c (List.mem_reverse.mp hc)
  unfold pieceColumn? lines
  rw [heq, firstColumn?_append_silent fun line hline => tells_blank (hblank line hline)]
  cases rest with
  | nil =>
    rw [linesFrom, linesFrom]
    split
    · rfl
    · rw [firstColumn?_cons, tells_blank hgap']
      rfl
  | cons c rest =>
    obtain ⟨first, others, hfirst⟩ := exists_firstLine (List.cons_ne_nil c rest)
    rw [hfirst, hfirst, List.reverse_nil, List.nil_append, firstColumn?_cons, firstColumn?_cons,
      tells_lead hgap', lineColumn?_lead hgap']

/-- A comma behind a line tells nothing, nor does one on a line of its own. -/
theorem firstColumn?_comma (line gap : List Char) :
    firstColumn? [line ++ ',' :: gap] = firstColumn? [line] := by
  have hblanks : blanks (line ++ ',' :: gap) = blanks line ++ ',' :: gap :=
    dropWhile_append_cons line (sign_outside ',' (by simp)).1 gap
  have hcolumn : lineColumn? (line ++ ',' :: gap) = lineColumn? line := by
    unfold lineColumn?
    rw [hblanks]
    exact startColumn?_sign (blanks line) (by simp) gap
  rw [firstColumn?_cons, firstColumn?_cons, hcolumn]
  by_cases hblank : blanks line = []
  · have hnone : lineColumn? line = none := by
      unfold lineColumn?
      rw [hblank]
      rfl
    rw [hnone]
    split <;> split <;> rfl
  · have htells : tells (line ++ ',' :: gap) = tells line := by
      rw [Bool.eq_iff_iff, tells_iff, tells_iff, hblanks]
      refine and_congr (not_congr ⟨fun h => prefix_of_not_mem h (by decide), fun h => ?_⟩) ?_
      · exact h.trans (List.prefix_append _ _)
      · simp [hblank]
    rw [htells]

/-- Nor does a comma at the end of a piece, with blanks behind it. -/
theorem pieceColumn?_comma {kept gap : List Char} (hreturn : '\r' ∉ kept)
    (hgap : ∀ c ∈ gap, isInlineBlank c = true) :
    pieceColumn? (kept ++ ',' :: gap) = pieceColumn? kept := by
  have hunbroken : ∀ c ∈ ',' :: gap, isLineBreak c = false := by
    refine List.forall_mem_cons.mpr ⟨by decide, fun c hc => ?_⟩
    rcases Bool.or_eq_true _ _ |>.mp (hgap c hc) with h | h
    · rw [beq_iff_eq.mp h]
      decide
    · rw [beq_iff_eq.mp h]
      decide
  have hend : ∀ current, firstColumn? (linesFrom current (',' :: gap)) =
      firstColumn? (linesFrom current []) := by
    intro current
    have hline := linesFrom_line hunbroken current []
    rw [List.append_nil] at hline
    have hlast : linesFrom current (',' :: gap) = [current.reverse ++ ',' :: gap] := by
      rw [hline, linesFrom]
      simp
    rw [hlast, firstColumn?_comma, linesFrom]
    split
    · rename_i hempty
      rw [List.isEmpty_iff.mp hempty]
      rfl
    · rfl
  have hlines : ∀ current, firstColumn? (linesFrom current (kept ++ ',' :: gap)) =
      firstColumn? (linesFrom current kept) := by
    induction kept with
    | nil => exact hend
    | cons c kept ih =>
      intro current
      have hc : c ≠ '\r' := fun h => hreturn (by rw [h]; exact List.mem_cons_self)
      have ih' := ih fun h => hreturn (List.mem_cons_of_mem _ h)
      rw [List.cons_append, linesFrom_cons hc, linesFrom_cons hc]
      split
      · rw [firstColumn?_cons, firstColumn?_cons, ih']
      · exact ih' (c :: current)
  exact hlines []

end Scaffold.Schema
