import Scaffold.Proofs.Schema.Layout

/-!
# Reading the columns of a printed schema

The column block is cut at each comma that ends a line, comment lines are left out of each piece, and a
piece is a column unless it begins like a constraint. A printed definition is read for what it is.

* `strip_withoutComments`: a piece is read from the beginning of its definition.
* `readPiece_definition`: the column of a piece is the one its definition declares.
* `columns_of_pieces`: the columns of a printed block, in their order.
-/
namespace Scaffold.Schema

open Text

/-! ## The beginning of a definition -/

/-- Whether a character stands at either end of the beginning of a definition. -/
def isEdge (c : Char) : Bool := isWord c || c == '`'

theorem isBlank_of_isEdge {c : Char} (h : isEdge c = true) : isBlank c = false := by
  unfold isEdge at h
  rcases Bool.or_eq_true _ _ |>.mp h with h | h
  · exact isBlank_of_isWord h
  · rw [beq_iff_eq.mp h]
    decide

/-- The beginning of a definition: words and backticks, and single spaces between words. -/
structure Starts (start : List Char) : Prop where
  inner : ∀ c ∈ start, isEdge c = true ∨ c = ' '
  first : ∃ c rest, start = c :: rest ∧ isEdge c = true
  last : ∃ front c, start = front ++ [c] ∧ isEdge c = true

theorem Starts.unbroken {start : List Char} (h : Starts start) :
    ∀ c ∈ start, isLineBreak c = false := by
  intro c hc
  rw [Bool.eq_false_iff]
  intro hbreak
  rcases h.inner c hc with hedge | rfl
  · have hblank := isBlank_of_isLineBreak hbreak
    rw [isBlank_of_isEdge hedge] at hblank
    cases hblank
  · revert hbreak
    decide

theorem Starts.outside_blank {start : List Char} (h : Starts start) (rest : List Char) :
    Outside isBlank (start ++ rest) := by
  obtain ⟨c, more, rfl, hc⟩ := h.first
  exact isBlank_of_isEdge hc

theorem Starts.of_word {letters : List Char} (hne : letters ≠ [])
    (h : ∀ c ∈ letters, isEdge c = true) : Starts letters := by
  refine ⟨fun c hc => .inl (h c hc), ?_, ?_⟩
  · obtain ⟨c, rest, rfl⟩ := List.exists_cons_of_ne_nil hne
    exact ⟨c, rest, rfl, h c List.mem_cons_self⟩
  · obtain ⟨front, c, hconcat⟩ := List.eq_nil_or_concat letters |>.resolve_left hne
    rw [List.concat_eq_append] at hconcat
    exact ⟨front, c, hconcat, h c (by rw [hconcat]; simp)⟩

/-- The spelling of a head in ASCII letters. -/
theorem Cased.starts {k : String} (hk : k.toList.all (fun c => c.isUpper || c == ' ') = true)
    (hfirst : k.toList.head?.any Char.isUpper = true)
    (hlast : k.toList.getLast?.any Char.isUpper = true) {letters : List Char}
    (h : Cased k letters) : Starts letters := by
  unfold Cased at h
  have hedge : ∀ c : Char, c.toUpper.isUpper = true → isEdge c = true := fun c hc => by
    simp [isEdge, isWord_of_toUpper hc]
  refine ⟨fun c hc => ?_, ?_, ?_⟩
  · have hmem : c.toUpper ∈ k.toList := by
      rw [← h]
      exact List.mem_map_of_mem hc
    rcases Bool.or_eq_true _ _ |>.mp (List.all_eq_true.mp hk _ hmem) with hupper | hspace
    · exact .inl (hedge c hupper)
    · rw [beq_iff_eq] at hspace
      have hsmall : c.toUpper.toNat < 128 := by rw [hspace]; decide
      exact .inr (ascii_forall (fun c => c.toUpper = ' ' → c = ' ') (by decide)
        (toNat_of_toUpper hsmall) hspace)
  · rw [← h] at hfirst
    cases letters with
    | nil => cases hfirst
    | cons c rest => exact ⟨c, rest, rfl, hedge c hfirst⟩
  · rw [← h] at hlast
    obtain rfl | ⟨front, c, hconcat⟩ := List.eq_nil_or_concat letters
    · cases hlast
    · rw [List.concat_eq_append] at hconcat
      subst hconcat
      refine ⟨front, c, rfl, hedge c ?_⟩
      simpa using hlast

theorem Cased.upper {k : String} (hk : k.toList.all (fun c => decide (c.toNat < 128)) = true)
    {letters : List Char}
    (h : Cased k letters) : upper letters = k.toList := by
  unfold Cased at h
  have hsmall : ∀ c ∈ letters, upperChar c = [c.toUpper] := by
    intro c hc
    have hmem : c.toUpper ∈ k.toList := by rw [← h]; exact List.mem_map_of_mem hc
    have hc' := toNat_of_toUpper (forall_mem_of_all hk _ hmem)
    unfold upperChar
    rw [if_pos hc']
  unfold Text.upper
  rw [← h]
  clear h
  induction letters with
  | nil => rfl
  | cons c letters ih =>
    obtain ⟨hc, hrest⟩ := List.forall_mem_cons.mp hsmall
    rw [List.flatMap_cons, hc, ih hrest]
    rfl

theorem Definition.starts (d : Definition) : Starts d.start := by
  cases d with
  | column l =>
    have htick : ∀ written, ∀ c ∈ tick written, isEdge c = true := by
      rintro (_ | _) <;> exact forall_mem_of_all (by decide)
    refine Starts.of_word ?_ ?_
    · intro hnil
      unfold Definition.start at hnil
      simp only [List.append_eq_nil_iff] at hnil
      exact l.name.filled hnil.1.2
    · unfold Definition.start
      simp only [List.forall_mem_append]
      exact ⟨⟨htick _, fun c hc => by simp [isEdge, l.name.word c hc]⟩, htick _⟩
  | index l =>
    obtain ⟨head, known, letters, cased, more, keyless⟩ := l
    have hall : ∀ k ∈ indexHeads, k.toList.all (fun c => c.isUpper || c == ' ') = true ∧
        k.toList.head?.any Char.isUpper = true ∧ k.toList.getLast?.any Char.isUpper = true :=
      forall_mem_of_all (by decide)
    obtain ⟨hinner, hfirst, hlast⟩ := hall head known
    exact cased.starts hinner hfirst hlast
  | foreignKey l =>
    cases hc : l.constraint with
    | some p =>
      simp only [Definition.start, hc]
      exact (l.named p hc).starts (by decide) (by decide) (by decide)
    | none =>
      simp only [Definition.start, hc]
      exact (l.unnamed hc).starts (by decide) (by decide) (by decide)

/-! ## From a piece to its line -/

theorem linesFrom_current {current : List Char} (hne : current ≠ []) (cs : List Char) :
    ∃ more, linesFrom current cs =
      (current.reverse ++ cs.takeWhile fun c => !isLineBreak c) :: more := by
  fun_induction linesFrom current cs with
  | case1 current hempty => exact absurd (List.isEmpty_iff.mp hempty) hne
  | case2 current => exact ⟨[], by simp⟩
  | case3 current rest ih => exact ⟨linesFrom [] rest, by simp [isLineBreak, lineBreaks]⟩
  | case4 current c rest _ hbreak ih => exact ⟨linesFrom [] rest, by simp [hbreak]⟩
  | case5 current c rest _ hopen ih =>
    obtain ⟨more, hmore⟩ := ih (List.cons_ne_nil _ _)
    refine ⟨more, ?_⟩
    rw [hmore, List.takeWhile_cons_of_pos (by simp [hopen]), List.reverse_cons, List.append_assoc,
      List.singleton_append]

theorem isCommentLine_of_blank {line : List Char} (h : ∀ c ∈ line, isBlank c = true) :
    isCommentLine line = false := by
  have hstrip := strip_lead h (outside_nil isBlank)
  rw [List.append_nil] at hstrip
  unfold isCommentLine
  rw [hstrip]
  rfl

theorem isCommentLine_of_starts {gap start : List Char} (hgap : ∀ c ∈ gap, isBlank c = true)
    (hstart : Starts start) (rest : List Char) :
    isCommentLine (gap ++ (start ++ rest)) = false := by
  obtain ⟨c, more, rfl, hc⟩ := hstart.first
  unfold isCommentLine
  rw [strip_lead hgap (hstart.outside_blank rest), Bool.eq_false_iff]
  intro hcomment
  obtain ⟨note, hnote⟩ := (startsWith_iff.mp hcomment).trans (dropRightWhile_isPrefix isBlank _)
  have hsign : '-' = c := (List.cons_eq_cons.mp hnote).1
  rw [← hsign] at hc
  revert hc
  decide

theorem withoutComments_lead {lead start : List Char} (hlead : ∀ c ∈ lead, isBlank c = true)
    (hreturn : '\r' ∉ lead) (hstart : Starts start) (more : List Char) :
    ∃ before rest, (∀ c ∈ before, isBlank c = true) ∧ (rest = [] ∨ ['\n'] <+: rest) ∧
      withoutComments (lead ++ (start ++ more)) =
        before ++ (start ++ ((more.takeWhile fun c => !isLineBreak c) ++ rest)) := by
  have hnil : ∀ c ∈ ([] : List Char), isBlank c = true := by simp
  obtain ⟨blank, gap, hblank, hgap, hlines⟩ := linesFrom_lead hlead hreturn hnil (start ++ more)
  obtain ⟨first, front, hfirst, -⟩ := hstart.first
  have hopen : start.reverse ++ gap ≠ [] := by simp [hfirst]
  obtain ⟨later, hlater⟩ := linesFrom_current hopen more
  rw [linesFrom_line hstart.unbroken, hlater, List.reverse_append, List.reverse_reverse,
    List.append_assoc] at hlines
  have hgap' : ∀ c ∈ gap.reverse, isBlank c = true := fun c hc => hgap c (List.mem_reverse.mp hc)
  -- the blank lines and the line of the definition are no comments
  have hkept : blank.filter (fun line => !isCommentLine line) = blank :=
    List.filter_eq_self.mpr fun line hline => by simp [isCommentLine_of_blank (hblank line hline)]
  obtain ⟨rest, hjoin, hrest⟩ := joinWith_cons ['\n']
    (gap.reverse ++ (start ++ more.takeWhile fun c => !isLineBreak c))
    (later.filter fun line => !isCommentLine line)
  refine ⟨blank.flatMap (· ++ ['\n']) ++ gap.reverse, rest, ?_, hrest, ?_⟩
  · simp only [List.forall_mem_append, List.mem_flatMap]
    refine ⟨?_, hgap'⟩
    rintro c ⟨line, hline, hc⟩
    rcases List.mem_append.mp hc with hc | hc
    · exact hblank line hline c hc
    · rw [List.mem_singleton.mp hc]
      decide
  · unfold withoutComments lines
    rw [hlines, List.filter_append, hkept, List.filter_cons_of_pos
      (by simp [isCommentLine_of_starts hgap' hstart]), joinWith_append, hjoin]
    simp only [List.append_assoc]

theorem upper_append (a b : List Char) : upper (a ++ b) = upper a ++ upper b :=
  List.flatMap_append

theorem upper_isPrefix {a b : List Char} (h : a <+: b) : upper a <+: upper b := by
  obtain ⟨rest, rfl⟩ := h
  exact ⟨upper rest, (upper_append a rest).symm⟩

theorem upperChar_of_isBlank {c : Char} (h : isBlank c = true) : upperChar c = [c] := by
  refine Ranges.forall_of_covers (P := fun c => upperChar c = [c]) ?_ h
  exact forall_mem_of_all (by decide +kernel)

theorem upper_blank {cs : List Char} (h : ∀ c ∈ cs, isBlank c = true) : upper cs = cs := by
  induction cs with
  | nil => rfl
  | cons c cs ih =>
    obtain ⟨hc, hcs⟩ := List.forall_mem_cons.mp h
    have hrest : upper (c :: cs) = upperChar c ++ upper cs := rfl
    rw [hrest, upperChar_of_isBlank hc, ih hcs, List.singleton_append]

/-- A beginning without a character lies before the first place at which it stands. -/
theorem prefix_of_not_mem {c : Char} {head a b : List Char} (h : head <+: a ++ c :: b)
    (hc : c ∉ head) : head <+: a := by
  rcases List.prefix_or_prefix_of_prefix h (List.prefix_append a (c :: b)) with ha | ⟨beyond, rfl⟩
  · exact ha
  · cases beyond with
    | nil => exact ⟨[], by simp⟩
    | cons d beyond =>
      have hd : d = c := (List.cons_prefix_cons.mp ((List.prefix_append_right_inj a).mp h)).1
      rw [hd] at hc
      exact absurd (List.mem_append_right _ List.mem_cons_self) hc

/-- A piece is read from the beginning of its definition, and with no beginning of a constraint that the
piece itself has not. -/
theorem strip_withoutComments {lead start : List Char} (hlead : ∀ c ∈ lead, isBlank c = true)
    (hreturn : '\r' ∉ lead) (hstart : Starts start) (more : List Char) :
    ∃ tail, strip (withoutComments (lead ++ (start ++ more))) = start ++ tail ∧
      (Outside isWord more → Outside isWord tail) ∧
      ∀ head : List Char, '\n' ∉ head → head <+: upper (start ++ tail) →
        head <+: upper (start ++ more) := by
  obtain ⟨before, rest, hbefore, hrest, heq⟩ := withoutComments_lead hlead hreturn hstart more
  obtain ⟨front, last, hlast, hedge⟩ := hstart.last
  generalize hpart : (more.takeWhile fun c => !isLineBreak c) = part at heq
  have hprefix : part <+: more := hpart ▸ List.takeWhile_prefix _
  have htail : dropRightWhile isBlank (part ++ rest) <+: part ++ rest := dropRightWhile_isPrefix _ _
  refine ⟨dropRightWhile isBlank (part ++ rest), ?_, fun hmore => ?_, fun head hnewline hhead => ?_⟩
  · rw [heq, strip_lead hbefore (hstart.outside_blank _), hlast, List.append_assoc,
      List.singleton_append, dropRightWhile_append front (isBlank_of_isEdge hedge),
      List.append_assoc, List.singleton_append]
  · refine Outside.of_isPrefix ?_ htail
    cases part with
    | nil =>
      rcases hrest with rfl | ⟨later, rfl⟩
      · exact outside_nil isWord
      · exact (by decide : isWord '\n' = false)
    | cons c part => exact outside_cons.mpr (hmore.of_isPrefix hprefix)
  · have hwhole := hhead.trans (upper_isPrefix ((List.prefix_append_right_inj start).mpr htail))
    have hstartPart : head <+: upper (start ++ part) := by
      rw [← List.append_assoc, upper_append] at hwhole
      rcases hrest with rfl | ⟨later, rfl⟩
      · rwa [show upper ([] : List Char) = [] from rfl, List.append_nil] at hwhole
      · exact prefix_of_not_mem hwhole hnewline
    exact hstartPart.trans (upper_isPrefix ((List.prefix_append_right_inj start).mpr hprefix))

/-! ## Reading a piece -/

theorem readPiece_of_ignored {piece line : List Char} (h : strip (withoutComments piece) = line)
    (hline : isColumnLine line = false) : readPiece piece = .ignored := by
  unfold readPiece
  simp only [h, hline, Bool.not_false, Bool.or_true, if_true]

theorem readPiece_of_column {piece line name rest : List Char}
    (h : strip (withoutComments piece) = line) (hne : line ≠ []) (hline : isColumnLine line = true)
    (hname : word? (optional '`' line) = some (name, rest)) : readPiece piece = .column name := by
  unfold readPiece
  simp only [h, hline, List.isEmpty_eq_false_iff.mpr hne, hname, Bool.not_true, Bool.or_false,
    Bool.false_eq_true, if_false]

/-- What begins with the head of a constraint is no column. -/
theorem isColumnLine_of_head {k : String} (hk : k ∈ constraintHeads) {start tail : List Char}
    (hstart : upper start = k.toList) (hstrip : strip (start ++ tail) = start ++ tail) :
    isColumnLine (start ++ tail) = false := by
  unfold isColumnLine
  rw [hstrip, Bool.not_eq_false', List.any_eq_true]
  refine ⟨k, hk, startsWith_iff.mpr ?_⟩
  rw [upper_append, hstart]
  exact List.prefix_append _ _

theorem isColumnLine_of_no_head {line : List Char} (hstrip : strip line = line)
    (h : ∀ head ∈ constraintHeads, ¬head.toList <+: upper line) : isColumnLine line = true := by
  unfold isColumnLine
  rw [hstrip, Bool.not_eq_true', List.any_eq_false]
  exact fun head hhead => fun hstarts => h head hhead (startsWith_iff.mp hstarts)

theorem newline_not_mem_head : ∀ head ∈ constraintHeads, '\n' ∉ head.toList :=
  forall_mem_of_all (by decide)

/-- No head begins with a backtick. -/
theorem not_head_of_tick (rest : List Char) :
    ∀ head ∈ constraintHeads, ¬head.toList <+: upper ('`' :: rest) := by
  have hfirst : ∀ head ∈ constraintHeads, head.toList ≠ [] ∧ head.toList.head? ≠ some '`' :=
    forall_mem_of_all (by decide)
  intro head hhead hprefix
  obtain ⟨hne, htick⟩ := hfirst head hhead
  obtain ⟨c, letters, hletters⟩ := List.exists_cons_of_ne_nil hne
  have hupper : upper ('`' :: rest) = '`' :: upper rest := rfl
  rw [hletters, hupper] at hprefix
  rw [hletters, (List.cons_prefix_cons.mp hprefix).1] at htick
  exact htick rfl

/-- What begins with a constraint is passed over. -/
theorem readPiece_head {k : String} (hk : k ∈ constraintHeads) {start lead : List Char}
    (hupper : upper start = k.toList) (hstart : Starts start)
    (hlead : ∀ c ∈ lead, isBlank c = true) (hreturn : '\r' ∉ lead) (more : List Char) :
    readPiece (lead ++ (start ++ more)) = .ignored := by
  obtain ⟨tail, hline, -, -⟩ := strip_withoutComments hlead hreturn hstart more
  have hstrip : strip (start ++ tail) = start ++ tail := by rw [← hline, strip_strip]
  exact readPiece_of_ignored hline (isColumnLine_of_head hk hupper hstrip)

/-- A column is read from a piece that holds its name and goes on as its line does. -/
theorem readPiece_column (l : ColumnLine) {lead more : List Char}
    (hlead : ∀ c ∈ lead, isBlank c = true) (hreturn : '\r' ∉ lead)
    (hmore : more <+: l.more ++ ['\n']) :
    readPiece (lead ++ ((Definition.column l).start ++ more)) = .column l.name.letters := by
  obtain ⟨tail, hline, hword, hheads⟩ :=
    strip_withoutComments hlead hreturn (Definition.column l).starts more
  have hstrip := strip_strip (withoutComments (lead ++ ((Definition.column l).start ++ more)))
  rw [hline] at hstrip
  have hopen : Outside isWord tail := by
    obtain ⟨c, type, hspaced, hc⟩ := l.spaced
    refine hword (Outside.of_isPrefix ?_ hmore)
    rw [hspaced]
    exact isWord_of_isBlank hc
  cases hticked : l.ticked with
  | true =>
    have hshape : (Definition.column l).start ++ tail = '`' :: (l.name.letters ++ '`' :: tail) := by
      simp [Definition.start, hticked, tick]
    have hname : word? (l.name.letters ++ '`' :: tail) = some (l.name.letters, '`' :: tail) :=
      word?_name l.name (by decide : isWord '`' = false)
    rw [hshape] at hline hstrip
    exact readPiece_of_column hline (List.cons_ne_nil _ _)
      (isColumnLine_of_no_head hstrip (not_head_of_tick _)) hname
  | false =>
    have hshape : ∀ rest, (Definition.column l).start ++ rest = l.name.letters ++ rest := fun rest => by
      simp [Definition.start, hticked, tick]
    have hname : word? (optional '`' (l.name.letters ++ tail)) = some (l.name.letters, tail) := by
      rw [show l.name.letters ++ tail = tick false ++ (l.name.letters ++ tail) from rfl,
        optional_tick false fun _ => l.name.outside (fun _ => isTick_of_isWord) tail]
      exact word?_name l.name hopen
    have hnone : ∀ head ∈ constraintHeads, ¬head.toList <+: upper (l.name.letters ++ tail) := by
      intro head hhead hprefix
      rw [hshape, hshape] at hheads
      have hwhole := hheads head.toList (newline_not_mem_head head hhead) hprefix
      have hextended := hwhole.trans
        (upper_isPrefix ((List.prefix_append_right_inj l.name.letters).mpr hmore))
      rw [← List.append_assoc, upper_append] at hextended
      exact l.bare hticked head hhead
        (prefix_of_not_mem hextended (newline_not_mem_head head hhead))
    rw [hshape tail] at hline hstrip
    exact readPiece_of_column hline (by simp [l.name.filled])
      (isColumnLine_of_no_head hstrip hnone) hname

/-- The column of a piece is the one its definition declares. -/
theorem readPiece_definition (d : Definition) {lead more : List Char}
    (hlead : ∀ c ∈ lead, isBlank c = true) (hreturn : '\r' ∉ lead)
    (hmore : more <+: d.more ++ ['\n']) :
    (readPiece (lead ++ (d.start ++ more))).column? = d.column? := by
  have hstarts := d.starts
  cases d with
  | column l => rw [readPiece_column l hlead hreturn hmore]; rfl
  | index l =>
    obtain ⟨head, known, letters, cased, rest, keyless⟩ := l
    have hall : ∀ k ∈ indexHeads, k ∈ constraintHeads ∧
        k.toList.all (fun c => decide (c.toNat < 128)) = true := forall_mem_of_all (by decide)
    obtain ⟨hhead, hsmall⟩ := hall head known
    exact congrArg Piece.column?
      (readPiece_head hhead (cased.upper hsmall) hstarts hlead hreturn more)
  | foreignKey l =>
    have hall : ∀ k ∈ ["CONSTRAINT", "FOREIGN KEY"], k ∈ constraintHeads ∧
        k.toList.all (fun c => decide (c.toNat < 128)) = true := forall_mem_of_all (by decide)
    have hupper : ∃ k ∈ ["CONSTRAINT", "FOREIGN KEY"],
        upper (Definition.foreignKey l).start = k.toList := by
      cases hc : l.constraint with
      | some p =>
        refine ⟨"CONSTRAINT", by simp, ?_⟩
        simp only [Definition.start, hc]
        exact (l.named p hc).upper (hall _ (by simp)).2
      | none =>
        refine ⟨"FOREIGN KEY", by simp, ?_⟩
        simp only [Definition.start, hc]
        exact (l.unnamed hc).upper (hall _ (by simp)).2
    obtain ⟨k, hk, hupper⟩ := hupper
    exact congrArg Piece.column?
      (readPiece_head (hall k hk).1 hupper hstarts hlead hreturn more)

/-- The columns that the pieces of a block declare, in their order. -/
def declared (block : List Char) : List (List Char) :=
  (pieces block).filterMap fun piece => (readPiece piece).column?

/-- The columns of a schema are those that its block declares; there must be one. -/
theorem columns_of_block {cs block : List Char}
    (h : columnBlock (normaliseNewlines cs) = .ok block) :
    columns cs = if declared block = [] then .error { reason := .noColumns } else
      .ok (declared block) := by
  have hblock : blockPieces cs = .ok ((pieces block).map readPiece) := by
    unfold blockPieces
    rw [h]
    rfl
  have hdeclared : ((pieces block).map readPiece).filterMap Piece.column? = declared block :=
    List.filterMap_map
  unfold columns
  simp only [hblock, hdeclared]
  cases declared block with
  | nil => rfl
  | cons name names => rfl

/-! ## Cutting the block -/

theorem piecesFrom_open {c : Char} {cs : List Char} (h : separatorLength? (c :: cs) = none)
    (current : List Char) : piecesFrom current 0 (c :: cs) = piecesFrom (c :: current) 0 cs := by
  rw [piecesFrom, h]

theorem separatorLength?_of_ne {c : Char} (hc : c ≠ ',') (cs : List Char) :
    separatorLength? (c :: cs) = none := by
  unfold separatorLength?
  split
  · rename_i heq
    exact absurd (List.cons_eq_cons.mp heq).1 hc
  · rfl

/-- No separator begins where no comma stands. -/
theorem piecesFrom_plain {run : List Char} (h : ',' ∉ run) (current rest : List Char) :
    piecesFrom current 0 (run ++ rest) = piecesFrom (run.reverse ++ current) 0 rest := by
  induction run generalizing current with
  | nil => rfl
  | cons c run ih =>
    have hc : c ≠ ',' := fun h' => h (by rw [h']; exact List.mem_cons_self)
    rw [List.cons_append, piecesFrom_open (separatorLength?_of_ne hc _),
      ih fun h' => h (List.mem_cons_of_mem _ h'), List.reverse_cons, List.append_assoc,
      List.singleton_append]

theorem piecesFrom_skip (skipped current rest : List Char) :
    piecesFrom current skipped.length (skipped ++ rest) = piecesFrom current 0 rest := by
  induction skipped with
  | nil => rfl
  | cons c skipped ih =>
    rw [List.cons_append, List.length_cons, piecesFrom]
    exact ih

/-- A comma, blanks and the end of the line close a piece. -/
theorem piecesFrom_separator {gap : List Char} (hgap : ∀ c ∈ gap, isInlineBlank c = true)
    (current rest : List Char) :
    piecesFrom current 0 (',' :: (gap ++ '\n' :: rest)) = current.reverse :: piecesFrom [] 0 rest := by
  have hout : Outside isInlineBlank ('\n' :: rest) := rfl
  have hlength : separatorLength? (',' :: (gap ++ '\n' :: rest)) = some (gap.length + 2) := by
    simp only [separatorLength?, dropWhile_run hgap hout, takeWhile_run hgap hout]
  have hskip := piecesFrom_skip (gap ++ ['\n']) [] rest
  rw [List.length_append, List.append_assoc, List.singleton_append] at hskip
  rw [piecesFrom, hlength]
  exact congrArg (current.reverse :: ·) hskip

theorem separatorLength?_eq_none {cs : List Char} (h : ∀ rest, cs.dropWhile isInlineBlank ≠ '\n' :: rest)
    (c : Char) : separatorLength? (c :: cs) = none := by
  unfold separatorLength?
  split
  · rename_i heq
    obtain rfl := (List.cons_eq_cons.mp heq).2
    split
    · rename_i rest hdrop
      exact absurd hdrop (h rest)
    · rfl
  · rfl

/-- Where blanks reach the end of the line, they are all that is left of a text within it. -/
theorem inline_of_dropWhile {d rest more : List Char} (hd : '\n' ∉ d)
    (h : (d ++ rest).dropWhile isInlineBlank = '\n' :: more) :
    (∀ c ∈ d, isInlineBlank c = true) ∧ rest.dropWhile isInlineBlank = '\n' :: more := by
  rw [List.dropWhile_append] at h
  split at h
  · rename_i hall
    exact ⟨List.dropWhile_eq_nil_iff.mp (List.isEmpty_iff.mp hall), h⟩
  · rename_i hne
    obtain ⟨c, tail, htail⟩ := List.exists_cons_of_ne_nil fun hnil => hne (List.isEmpty_iff.mpr hnil)
    rw [htail, List.cons_append] at h
    have hmem : c ∈ d := (List.dropWhile_sublist isInlineBlank).mem (by rw [htail]; simp)
    rw [(List.cons_eq_cons.mp h).1] at hmem
    exact absurd hmem hd

/-- A piece that is not the last ends with its line. -/
theorem piecesFrom_line {d gap : List Char} (hd : '\n' ∉ d)
    (hgap : ∀ c ∈ gap, isInlineBlank c = true) (current rest : List Char) :
    piecesFrom current 0 (d ++ (',' :: (gap ++ '\n' :: rest))) =
      (current.reverse ++ d) :: piecesFrom [] 0 rest := by
  induction d generalizing current with
  | nil => rw [List.nil_append, piecesFrom_separator hgap, List.append_nil]
  | cons c d ih =>
    have hd' : '\n' ∉ d := fun h => hd (List.mem_cons_of_mem _ h)
    have hopen : ∀ more, (d ++ (',' :: (gap ++ '\n' :: rest))).dropWhile isInlineBlank ≠ '\n' :: more := by
      intro more heq
      have hcomma := (inline_of_dropWhile hd' heq).2
      rw [List.dropWhile_cons_of_neg (by decide)] at hcomma
      exact absurd (List.cons_eq_cons.mp hcomma).1 (by decide)
    rw [List.cons_append, piecesFrom_open (separatorLength?_eq_none hopen c), ih hd',
      List.reverse_cons, List.append_assoc, List.singleton_append]

/-- A line feed stays in its piece, or ends it with a comma and blanks before it. -/
theorem piecesFrom_newline {d : List Char} (hd : '\n' ∉ d) (current rest : List Char) :
    (∃ kept gap, d = kept ++ ',' :: gap ∧ (∀ c ∈ gap, isInlineBlank c = true) ∧
      piecesFrom current 0 (d ++ '\n' :: rest) = (current.reverse ++ kept) :: pieces rest) ∨
    piecesFrom current 0 (d ++ '\n' :: rest) = piecesFrom ('\n' :: (d.reverse ++ current)) 0 rest := by
  induction d generalizing current with
  | nil => exact .inr (piecesFrom_open (separatorLength?_of_ne (by decide) rest) current)
  | cons c d ih =>
    have hd' : '\n' ∉ d := fun h => hd (List.mem_cons_of_mem _ h)
    by_cases hsep : c = ',' ∧ ∀ e ∈ d, isInlineBlank e = true
    · obtain ⟨rfl, hgap⟩ := hsep
      refine .inl ⟨[], d, rfl, hgap, ?_⟩
      rw [List.cons_append, piecesFrom_separator hgap, List.append_nil]
      rfl
    · have hnone : separatorLength? (c :: (d ++ '\n' :: rest)) = none := by
        by_cases hc : c = ','
        · exact separatorLength?_eq_none
            (fun more heq => hsep ⟨hc, (inline_of_dropWhile hd' heq).1⟩) c
        · exact separatorLength?_of_ne hc _
      rw [List.cons_append, piecesFrom_open hnone]
      rcases ih hd' (c :: current) with ⟨kept, gap, rfl, hgap, heq⟩ | heq
      · exact .inl ⟨c :: kept, gap, rfl, hgap, by rw [heq]; simp⟩
      · exact .inr (by rw [heq]; simp)

/-- The last piece ends with the block, or with a comma at the end of its line. -/
theorem piecesFrom_last {d : List Char} (hd : '\n' ∉ d) (current : List Char) :
    ∃ kept empty, kept <+: d ++ ['\n'] ∧ (empty = [] ∨ empty = [[]]) ∧
      piecesFrom current 0 (d ++ ['\n']) = (current.reverse ++ kept) :: empty := by
  rcases piecesFrom_newline hd current [] with ⟨kept, gap, rfl, -, heq⟩ | heq
  · refine ⟨kept, [[]], ?_, .inr rfl, heq⟩
    rw [List.append_assoc]
    exact List.prefix_append _ _
  · refine ⟨d ++ ['\n'], [], List.prefix_refl _, .inl rfl, ?_⟩
    rw [heq, piecesFrom]
    simp

theorem Line.comma_not_mem_start (l : Line) : ',' ∉ l.lead.chars ++ l.definition.start := by
  rw [List.mem_append]
  rintro (hmem | hmem)
  · have hblank := l.lead.blank _ hmem
    rw [(sign_outside ',' (by simp)).1] at hblank
    cases hblank
  · rcases l.definition.starts.inner _ hmem with hedge | hspace
    · revert hedge
      decide
    · revert hspace
      decide

/-- A piece that holds a line, after blanks and up to some place, declares the column of the line. -/
theorem readPiece_line (l : Line) {before more : List Char} (hblank : ∀ c ∈ before, isBlank c = true)
    (hreturn : '\r' ∉ before) (hmore : more <+: l.definition.more ++ ['\n']) :
    (readPiece (before ++ (l.lead.chars ++ (l.definition.start ++ more)))).column? =
      l.definition.column? := by
  have hlead : ∀ c ∈ before ++ l.lead.chars, isBlank c = true :=
    List.forall_mem_append.mpr ⟨hblank, l.lead.blank⟩
  have hreturn' : '\r' ∉ before ++ l.lead.chars := by
    rw [List.mem_append]
    rintro (h | h)
    · exact hreturn h
    · exact (l.oneLine _ (List.mem_append_left _ h)).2 rfl
  rw [← List.append_assoc]
  exact readPiece_definition l.definition hlead hreturn' hmore

theorem filterMap_cons_toList {α β : Type} (f : α → Option β) (a : α) (as : List α) :
    (a :: as).filterMap f = (f a).toList ++ as.filterMap f := by
  rw [List.filterMap_cons]
  cases f a <;> rfl

/-- The columns of a printed block, in their order. -/
theorem columns_of_pieces (l : Line) (others : List NextLine) {current : List Char}
    (hblank : ∀ c ∈ current, isBlank c = true) (hreturn : '\r' ∉ current) :
    (piecesFrom current.reverse 0 (l.text ++ (others.flatMap NextLine.text ++ ['\n']))).filterMap
        (fun piece => (readPiece piece).column?) =
      (l.definition :: others.map fun n => n.line.definition).filterMap Definition.column? := by
  have hnewline : '\n' ∉ l.text := fun h => (mem_lineText h).1 rfl
  induction others generalizing l current with
  | nil =>
    have hmore : '\n' ∉ l.definition.more := fun h =>
      hnewline (List.mem_append_right _ (List.mem_append_right _ h))
    have hsplit : l.text ++ (List.flatMap NextLine.text [] ++ ['\n']) =
        (l.lead.chars ++ l.definition.start) ++ (l.definition.more ++ ['\n']) := by
      simp [Line.text, Definition.text]
    obtain ⟨kept, empty, hkept, hempty, hpieces⟩ := piecesFrom_last hmore
      ((l.lead.chars ++ l.definition.start).reverse ++ current.reverse)
    rw [hsplit, piecesFrom_plain l.comma_not_mem_start, hpieces]
    have hpiece : ((l.lead.chars ++ l.definition.start).reverse ++ current.reverse).reverse ++ kept =
        current ++ (l.lead.chars ++ (l.definition.start ++ kept)) := by simp
    have hread := readPiece_line l hblank hreturn hkept
    have hempty' : empty.filterMap (fun piece => (readPiece piece).column?) = [] := by
      rcases hempty with rfl | rfl <;> rfl
    rw [hpiece, filterMap_cons_toList, hread, hempty', List.append_nil, List.map_nil,
      filterMap_cons_toList, List.filterMap_nil, List.append_nil]
  | cons next others ih =>
    have hsplit : l.text ++ ((next :: others).flatMap NextLine.text ++ ['\n']) =
        l.text ++ (',' :: (next.gap ++ '\n' ::
          (next.line.text ++ (others.flatMap NextLine.text ++ ['\n'])))) := by
      simp [NextLine.text]
    have hread := readPiece_line l hblank hreturn (List.prefix_append l.definition.more ['\n'])
    have hnil : ∀ c ∈ ([] : List Char), isBlank c = true := by simp
    have hrest := ih next.line hnil (by simp) fun h => (mem_lineText h).1 rfl
    rw [hsplit, piecesFrom_line hnewline next.inline, List.reverse_reverse, filterMap_cons_toList,
      List.map_cons, filterMap_cons_toList, ← hrest]
    exact congrArg (fun column? => column?.toList ++ _) hread

end Scaffold.Schema
