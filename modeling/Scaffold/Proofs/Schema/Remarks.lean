import Scaffold.Proofs.Schema.PieceLines
import Scaffold.Proofs.Schema.TableHead

/-!
# Comment lines between the columns

The block is cut into pieces before the comments are left out, so a comment that ends in a comma moves the
cuts. That changes nothing: a comment that is cut off is a piece without a column, and one that is not
tells nothing of the piece it stands in.

* `Sheet`: a schema with one definition a line, and comment lines between the definitions.
* `declared_remark`, `declared_line`, `declared_last`: what each kind of line adds to the columns.
* `Sheet.declared_block`: the columns are those of the definitions.
* `columns_bare`: the columns stay the same without the comments.
-/
namespace Scaffold.Schema

open Text

/-! ## Schemas with comment lines -/

/-- Blanks whose line ends are line feeds. -/
structure Margin extends Gap where
  unreturned : '\r' ∉ chars

/-- A comment line: blanks, the sign of a comment, and any text that breaks into no lines. -/
structure Remark where
  lead : Gap
  note : List Char
  inline : ∀ c ∈ lead.chars, c ≠ '\n' ∧ c ≠ '\r'
  unbroken : ∀ c ∈ note, isLineBreak c = false

/-- The text of a comment line, but for the line feed. -/
def Remark.line (r : Remark) : List Char := r.lead.chars ++ '-' :: '-' :: r.note

/-- The text of comment lines. -/
def remarksText (remarks : List Remark) : List Char := remarks.flatMap fun r => r.line ++ ['\n']

/-- Any text on one line, with comment lines above it. -/
structure Entry where
  remarks : List Remark
  line : List Char
  oneLine : ∀ c ∈ line, c ≠ '\n' ∧ c ≠ '\r'

/-- The text of a line with its comment lines. -/
def Entry.text (e : Entry) : List Char := remarksText e.remarks ++ e.line

/-- A comma that ends a line, and what follows it. -/
structure NextEntry where
  gap : List Char
  inline : ∀ c ∈ gap, isInlineBlank c = true
  entry : Entry

/-- The text of a further line with the comma before it. -/
def NextEntry.text (n : NextEntry) : List Char := ',' :: (n.gap ++ '\n' :: n.entry.text)

/-- A schema with one definition a line: the head of a table, definitions with comment lines above each and
below the last, and a tail. The last line may end before the closing parenthesis. -/
structure Sheet where
  head : List Char
  named : ∃ name between, firstTable? (normaliseNewlines head) = some (name, between) ∧ '(' ∉ between
  lead : Margin
  first : Entry
  others : List NextEntry
  last : List Remark
  closing : Option Margin
  tail : List Char
  closed : ')' ∉ tail

/-- What stands between the last definition and the parenthesis. -/
def Sheet.ending (s : Sheet) : List Char :=
  match s.closing with
  | some margin => '\n' :: (remarksText s.last ++ margin.chars)
  | none => if s.last.isEmpty then [] else '\n' :: remarksText s.last

/-- The text of the column block. -/
def Sheet.block (s : Sheet) : List Char :=
  s.lead.chars ++ (s.first.text ++ (s.others.flatMap NextEntry.text ++ s.ending))

/-- The text of a schema. -/
def Sheet.text (s : Sheet) : List Char := s.head ++ '(' :: (s.block ++ ')' :: s.tail)

/-- The definitions of a schema. -/
def Sheet.definitions (s : Sheet) : List (List Char) :=
  s.first.line :: s.others.map fun n => n.entry.line

/-- A line without the comment lines above it. -/
def Entry.bare (e : Entry) : Entry := { e with remarks := [] }

/-- A further line without the comment lines above it. -/
def NextEntry.bare (n : NextEntry) : NextEntry := { n with entry := n.entry.bare }

/-- A schema without its comment lines. -/
def Sheet.bare (s : Sheet) : Sheet :=
  { s with first := s.first.bare, others := s.others.map NextEntry.bare, last := [] }

/-! ## The columns of a block, line by line -/

theorem declared_eq (cs : List Char) : declared cs = (pieces cs).filterMap pieceColumn? := by
  unfold declared
  exact congrArg (fun column? => (pieces cs).filterMap column?) (funext readPiece_eq_pieceColumn?)

/-- What stands before a text goes into its first piece. -/
theorem exists_firstPiece (cs : List Char) :
    ∃ first others, ∀ current, piecesFrom current 0 cs = (current.reverse ++ first) :: others := by
  induction cs with
  | nil => exact ⟨[], [], fun current => by rw [piecesFrom, List.append_nil]⟩
  | cons c cs ih =>
    cases hlength : separatorLength? (c :: cs) with
    | some length =>
      exact ⟨[], piecesFrom [] (length - 1) cs, fun current => by
        rw [piecesFrom, hlength, List.append_nil]⟩
    | none =>
      obtain ⟨first, others, heq⟩ := ih
      exact ⟨c :: first, others, fun current => by rw [piecesFrom_open hlength, heq]; simp⟩

/-- A part that goes into the first piece of a text and tells nothing of it adds no column. -/
theorem filterMap_piecesFrom {current : List Char}
    (h : ∀ rest, pieceColumn? (current.reverse ++ rest) = pieceColumn? rest) (cs : List Char) :
    (piecesFrom current 0 cs).filterMap pieceColumn? = declared cs := by
  obtain ⟨first, others, heq⟩ := exists_firstPiece cs
  have hpieces : pieces cs = first :: others := heq []
  rw [declared_eq, hpieces, heq, filterMap_cons_toList, filterMap_cons_toList, h]

/-- Blanks add no column. -/
theorem declared_margin (m : Margin) (cs : List Char) : declared (m.chars ++ cs) = declared cs := by
  have hcomma : ',' ∉ m.chars := fun h => by
    have hblank := m.blank _ h
    rw [(sign_outside ',' (by simp)).1] at hblank
    cases hblank
  have hsilent : ∀ rest, pieceColumn? ((m.chars.reverse ++ []).reverse ++ rest) = pieceColumn? rest := by
    intro rest
    rw [List.append_nil, List.reverse_reverse]
    exact pieceColumn?_blanks m.blank m.unreturned rest
  rw [declared_eq, pieces, piecesFrom_plain hcomma]
  exact filterMap_piecesFrom hsilent cs

theorem Remark.not_mem_line (r : Remark) : '\n' ∉ r.line ∧ '\r' ∉ r.line := by
  have hbreak : isLineBreak '\n' = true ∧ isLineBreak '\r' = true := by decide
  have hline : ∀ c ∈ r.line, c ≠ '\n' ∧ c ≠ '\r' := by
    unfold Remark.line
    intro c hc
    rcases List.mem_append.mp hc with hc | hc
    · exact r.inline c hc
    · have hsign : ∀ c ∈ ['-', '-'], c ≠ '\n' ∧ c ≠ '\r' := forall_mem_of_all (by decide)
      rcases List.mem_append.mp (show c ∈ ['-', '-'] ++ r.note from hc) with hc | hc
      · exact hsign c hc
      · have hnote := r.unbroken c hc
        refine ⟨?_, ?_⟩ <;> rintro rfl
        · rw [hbreak.1] at hnote
          cases hnote
        · rw [hbreak.2] at hnote
          cases hnote
  exact ⟨fun h => (hline _ h).1 rfl, fun h => (hline _ h).2 rfl⟩

/-- No line of a comment tells anything. -/
theorem Remark.tells_line (r : Remark) : ∀ line ∈ lines r.line, tells line = false := by
  have hnil : ∀ c ∈ ([] : List Char), isBlank c = true := by simp
  have hreturn : '\r' ∉ r.lead.chars := fun h => (r.inline _ h).2 rfl
  obtain ⟨blank, gap, hblank, hgap, heq⟩ := linesFrom_lead r.lead.blank hreturn hnil ('-' :: '-' :: r.note)
  have hunbroken : ∀ c ∈ '-' :: '-' :: r.note, isLineBreak c = false :=
    List.forall_mem_cons.mpr ⟨by decide, List.forall_mem_cons.mpr ⟨by decide, r.unbroken⟩⟩
  have hcomment := linesFrom_line hunbroken gap []
  rw [List.append_nil] at hcomment
  have hlast : linesFrom gap ('-' :: '-' :: r.note) = [gap.reverse ++ '-' :: '-' :: r.note] := by
    rw [hcomment, linesFrom]
    simp
  unfold lines Remark.line
  rw [heq, hlast]
  intro line hline
  rcases List.mem_append.mp hline with hline | hline
  · exact tells_blank (hblank line hline)
  · rw [List.mem_singleton.mp hline]
    exact tells_comment (fun c hc => hgap c (List.mem_reverse.mp hc)) r.note

theorem Remark.pieceColumn?_line (r : Remark) : pieceColumn? r.line = none := by
  have h := firstColumn?_append_silent r.tells_line []
  rwa [List.append_nil] at h

/-- A comment line adds no column, whether it ends a piece or stands within one. -/
theorem declared_remark (r : Remark) (cs : List Char) : declared (r.line ++ '\n' :: cs) = declared cs := by
  obtain ⟨hnewline, hreturn⟩ := r.not_mem_line
  rw [declared_eq, pieces]
  rcases piecesFrom_newline hnewline [] cs with ⟨kept, gap, hline, hgap, heq⟩ | heq
  · have hkept : pieceColumn? kept = none := by
      have hreturn' : '\r' ∉ kept := fun h => hreturn (by rw [hline]; exact List.mem_append_left _ h)
      rw [← pieceColumn?_comma hreturn' hgap, ← hline]
      exact r.pieceColumn?_line
    rw [heq, filterMap_cons_toList, List.reverse_nil, List.nil_append, hkept, ← declared_eq]
    rfl
  · rw [heq]
    refine filterMap_piecesFrom (fun rest => ?_) cs
    have hsplit : ('\n' :: (r.line.reverse ++ [])).reverse ++ rest = r.line ++ '\n' :: rest := by simp
    rw [hsplit, pieceColumn?_newline hreturn, firstColumn?_append_silent r.tells_line]
    rfl

theorem declared_remarks (remarks : List Remark) (cs : List Char) :
    declared (remarksText remarks ++ cs) = declared cs := by
  induction remarks with
  | nil => rfl
  | cons r remarks ih =>
    have hsplit : remarksText (r :: remarks) ++ cs = r.line ++ '\n' :: (remarksText remarks ++ cs) := by
      simp [remarksText]
    rw [hsplit, declared_remark, ih]

/-- A line that ends in a comma adds its column. -/
theorem declared_line {line gap : List Char} (hnewline : '\n' ∉ line)
    (hgap : ∀ c ∈ gap, isInlineBlank c = true) (cs : List Char) :
    declared (line ++ ',' :: (gap ++ '\n' :: cs)) = (pieceColumn? line).toList ++ declared cs := by
  rw [declared_eq, declared_eq, pieces, piecesFrom_line hnewline hgap, filterMap_cons_toList]
  rfl

/-- The last line adds its column, if nothing behind it does. -/
theorem declared_last {line rest : List Char} (hnewline : '\n' ∉ line) (hreturn : '\r' ∉ line)
    (hrest : declared rest = []) : declared (line ++ '\n' :: rest) = (pieceColumn? line).toList := by
  obtain ⟨first, others, hpieces⟩ := exists_firstPiece rest
  have hnone : pieceColumn? first = none ∧ others.filterMap pieceColumn? = [] := by
    have hfirst : pieces rest = first :: others := hpieces []
    rw [declared_eq, hfirst, filterMap_cons_toList, List.append_eq_nil_iff] at hrest
    exact ⟨Option.toList_eq_nil_iff.mp hrest.1, hrest.2⟩
  rw [declared_eq, pieces]
  rcases piecesFrom_newline hnewline [] rest with ⟨kept, gap, rfl, hgap, heq⟩ | heq
  · have hreturn' : '\r' ∉ kept := fun h => hreturn (List.mem_append_left _ h)
    rw [heq, filterMap_cons_toList, ← declared_eq, hrest, List.append_nil,
      pieceColumn?_comma hreturn' hgap]
    rfl
  · have hsplit : ('\n' :: (line.reverse ++ [])).reverse ++ first = line ++ '\n' :: first := by simp
    rw [heq, hpieces, filterMap_cons_toList, hnone.2, List.append_nil, hsplit,
      pieceColumn?_newline hreturn, firstColumn?_append_none _ hnone.1]
    rfl

theorem declared_single {line : List Char} (hnewline : '\n' ∉ line) :
    declared line = (pieceColumn? line).toList := by
  have hpieces : ∀ current, piecesFrom current 0 line = [current.reverse ++ line] := by
    induction line with
    | nil => intro current; rw [piecesFrom, List.append_nil]
    | cons c line ih =>
      intro current
      have hline : '\n' ∉ line := fun h => hnewline (List.mem_cons_of_mem _ h)
      have hnone : separatorLength? (c :: line) = none := by
        refine separatorLength?_eq_none (fun rest heq => hline ?_) c
        exact (List.dropWhile_sublist isInlineBlank).mem (by rw [heq]; exact List.mem_cons_self)
      rw [piecesFrom_open hnone, ih hline]
      simp
  rw [declared_eq, pieces, hpieces, List.reverse_nil, List.nil_append, filterMap_cons_toList,
    List.filterMap_nil, List.append_nil]

/-! ## The columns of a schema -/

/-- Nothing behind the last definition adds a column. -/
theorem Sheet.declared_ending (s : Sheet) :
    s.ending = [] ∨ ∃ rest, s.ending = '\n' :: rest ∧ declared rest = [] := by
  unfold Sheet.ending
  cases s.closing with
  | some margin =>
    have hmargin := declared_margin margin []
    rw [List.append_nil] at hmargin
    exact .inr ⟨_, rfl, by rw [declared_remarks, hmargin]; rfl⟩
  | none =>
    simp only
    split
    · exact .inl rfl
    · have hremarks := declared_remarks s.last []
      rw [List.append_nil] at hremarks
      exact .inr ⟨_, rfl, by rw [hremarks]; rfl⟩

theorem Entry.not_mem_line (e : Entry) : '\n' ∉ e.line ∧ '\r' ∉ e.line :=
  ⟨fun h => (e.oneLine _ h).1 rfl, fun h => (e.oneLine _ h).2 rfl⟩

/-- The columns of a block are those of the definitions, whatever comments stand between them. -/
theorem Sheet.declared_block (s : Sheet) :
    declared s.block = s.definitions.filterMap pieceColumn? := by
  have hbody : ∀ (others : List NextEntry) (e : Entry),
      declared (e.text ++ (others.flatMap NextEntry.text ++ s.ending)) =
        (e.line :: others.map fun n => n.entry.line).filterMap pieceColumn? := by
    intro others
    induction others with
    | nil =>
      intro e
      unfold Entry.text
      rw [List.append_assoc, declared_remarks, List.flatMap_nil, List.nil_append, List.map_nil,
        filterMap_cons_toList, List.filterMap_nil, List.append_nil]
      rcases s.declared_ending with hend | ⟨rest, hend, hrest⟩
      · rw [hend, List.append_nil]
        exact declared_single e.not_mem_line.1
      · rw [hend]
        exact declared_last e.not_mem_line.1 e.not_mem_line.2 hrest
    | cons n others ih =>
      intro e
      have hsplit : e.text ++ ((n :: others).flatMap NextEntry.text ++ s.ending) =
          remarksText e.remarks ++ (e.line ++ ',' :: (n.gap ++ '\n' ::
            (n.entry.text ++ (others.flatMap NextEntry.text ++ s.ending)))) := by
        simp [Entry.text, NextEntry.text]
      rw [hsplit, declared_remarks, declared_line e.not_mem_line.1 n.inline, ih n.entry, List.map_cons,
        filterMap_cons_toList _ e.line]
  unfold Sheet.block Sheet.definitions
  rw [declared_margin]
  exact hbody s.others s.first

theorem remarksText_not_return (remarks : List Remark) : '\r' ∉ remarksText remarks := by
  unfold remarksText
  rw [List.mem_flatMap]
  rintro ⟨r, -, h⟩
  rcases List.mem_append.mp h with h | h
  · exact r.not_mem_line.2 h
  · revert h
    decide

theorem Entry.text_not_return (e : Entry) : '\r' ∉ e.text := by
  unfold Entry.text
  rw [List.mem_append, not_or]
  exact ⟨remarksText_not_return e.remarks, e.not_mem_line.2⟩

theorem Sheet.block_not_return (s : Sheet) : '\r' ∉ s.block := by
  have hnext : ∀ n : NextEntry, '\r' ∉ n.text := by
    intro n h
    have hgap : '\r' ∉ n.gap := fun hmem => by
      have hinline := n.inline _ hmem
      revert hinline
      decide
    simp only [NextEntry.text, List.mem_cons, List.mem_append] at h
    rcases h with h | h | h | h
    · revert h; decide
    · exact hgap h
    · revert h; decide
    · exact n.entry.text_not_return h
  have hending : '\r' ∉ s.ending := by
    unfold Sheet.ending
    cases s.closing with
    | some margin => simp [remarksText_not_return, margin.unreturned]
    | none => simp only; split <;> simp [remarksText_not_return]
  unfold Sheet.block
  simp only [List.mem_append, List.mem_flatMap, not_or, not_exists, not_and]
  exact ⟨s.lead.unreturned, s.first.text_not_return, fun n _ => hnext n, hending⟩

/-- The block of a schema is read with all its comments. -/
theorem Sheet.columnBlock_text (s : Sheet) : columnBlock (normaliseNewlines s.text) = .ok s.block := by
  obtain ⟨name, between, hhead, hopen⟩ := s.named
  have houtside : Outside (· == '\n') ('(' :: (s.block ++ ')' :: s.tail)) := by simp
  have hclose : ')' ∉ normaliseNewlines s.tail := fun h => by
    rcases mem_normaliseNewlines h with h | h
    · revert h; decide
    · exact s.closed h
  unfold Sheet.text
  rw [normaliseNewlines_append _ houtside, normaliseNewlines_cons (by decide),
    normaliseNewlines_run s.block_not_return, normaliseNewlines_cons (by decide)]
  exact columnBlock_append hhead hopen hclose

/-- The columns stay the same without the comment lines, and so does the reason if there are none. -/
theorem columns_bare (s : Sheet) : columns s.text = columns s.bare.text := by
  have hdefinitions : s.bare.definitions = s.definitions := by
    simp [Sheet.definitions, Sheet.bare, Entry.bare, NextEntry.bare]
  rw [columns_of_block s.columnBlock_text, columns_of_block s.bare.columnBlock_text, s.declared_block,
    s.bare.declared_block, hdefinitions]

theorem blank_nil : ∀ c ∈ ([] : List Char), isBlank c = true := by simp

theorem blank_indent : ∀ c ∈ "  ".toList, isBlank c = true := forall_mem_of_all (by decide)

theorem semicolon_closes_nothing : ')' ∉ ";".toList := by decide

/-- A schema whose comments hold a parenthesis, end in a comma and look like a key. -/
def remarkedSheet : Sheet where
  head := "CREATE TABLE bills ".toList
  named := ⟨"bills".toList, " ".toList, by decide, by decide⟩
  lead := ⟨⟨"\n".toList, forall_mem_of_all (by decide)⟩, by decide⟩
  first :=
    { remarks := [⟨⟨"  ".toList, blank_indent⟩, " net (in cents),".toList,
        forall_mem_of_all (by decide), forall_mem_of_all (by decide)⟩]
      line := "  price INT".toList
      oneLine := forall_mem_of_all (by decide) }
  others :=
    [{ gap := " ".toList
       inline := forall_mem_of_all (by decide)
       entry :=
        { remarks := [⟨⟨[], blank_nil⟩, "FOREIGN KEY".toList, by simp, forall_mem_of_all (by decide)⟩]
          line := "  payer_id INT".toList
          oneLine := forall_mem_of_all (by decide) } }]
  last := [⟨⟨[], blank_nil⟩, " )".toList, by simp, forall_mem_of_all (by decide)⟩]
  closing := none
  tail := ";".toList
  closed := semicolon_closes_nothing

example : String.ofList remarkedSheet.text =
    "CREATE TABLE bills (\n  -- net (in cents),\n  price INT, \n--FOREIGN KEY\n  payer_id INT\n-- )\n);" := by
  decide

example : columns remarkedSheet.text = .ok ["price".toList, "payer_id".toList] := by decide +kernel

end Scaffold.Schema
