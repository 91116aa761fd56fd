import Scaffold.Proofs.Schema.Columns
import Scaffold.Proofs.Schema.TableHead
import Scaffold.Proofs.Schema.Words

/-!
# What stands around a table statement

A schema that is read may stand in a longer text: lines before it that mention neither of the words with
which the scanners begin, and anything behind it that holds no closing parenthesis. The same table is read.

* `begins_in_lines`: a keyword that begins in whole lines stands in them.
* `firstTable?_surrounded`, `columnBlock_surrounded`, `foreignKeys_surrounded`: each of the scans.
* `parse_surrounded`: all of them together.
-/
namespace Scaffold.Schema

open Text

/-- The letters of a keyword stand somewhere in a text, whatever their case. -/
def Mentions (k : String) (cs : List Char) : Prop := ∃ s : Spelling k, s.letters <:+: cs

/-- A text of whole lines: it is empty or ends with a line feed. -/
def WholeLines (cs : List Char) : Prop := cs = [] ∨ ∃ front, cs = front ++ ['\n']

/-! ## Keywords in whole lines -/

theorem Spelling.newline_not_mem {k : String}
    (hlower : (k.toList.map Char.toLower).all Char.isLower = true) (s : Spelling k) :
    '\n' ∉ s.letters := fun hmem => by
  have hword := s.word hlower '\n' hmem
  revert hword
  decide

/-- A keyword that begins in whole lines stands in them. -/
theorem begins_in_lines {k : String} (hlower : (k.toList.map Char.toLower).all Char.isLower = true)
    {front back rest more : List Char} (hlines : WholeLines (front ++ back)) (hne : back ≠ [])
    (s : Spelling k) (h : back ++ rest = s.letters ++ more) : Mentions k (front ++ back) := by
  obtain rfl | ⟨line, last, hback⟩ := List.eq_nil_or_concat back
  · exact absurd rfl hne
  · rw [List.concat_eq_append] at hback
    subst hback
    obtain rfl : last = '\n' := by
      rcases hlines with hnil | ⟨other, heq⟩
      · simp at hnil
      · rw [← List.append_assoc] at heq
        exact (List.cons_eq_cons.mp (List.append_inj' heq rfl).2).1
    have hbegins : s.letters <+: line ++ '\n' :: rest := ⟨more, by rw [← h]; simp⟩
    have hline := prefix_of_not_mem hbegins (s.newline_not_mem hlower)
    exact ⟨s, (hline.trans (List.prefix_append _ _)).isInfix.trans (List.suffix_append _ _).isInfix⟩

/-- Whole lines stay whole lines when line ends are normalised, and are normalised apart from the rest. -/
theorem WholeLines.normaliseNewlines {before : List Char} (h : WholeLines before) :
    WholeLines (normaliseNewlines before) ∧ ∀ rest, Text.normaliseNewlines (before ++ rest) =
      Text.normaliseNewlines before ++ Text.normaliseNewlines rest := by
  rcases h with rfl | ⟨front, rfl⟩
  · exact ⟨.inl rfl, fun rest => rfl⟩
  · obtain ⟨part, hpart⟩ := exists_normaliseNewlines_newline front
    have hself := hpart []
    refine ⟨.inr ⟨part, hself⟩, fun rest => ?_⟩
    rw [hself, List.append_assoc, List.singleton_append, hpart rest]
    simp

theorem Mentions.of_normaliseNewlines {k : String}
    (hlower : (k.toList.map Char.toLower).all Char.isLower = true) {cs : List Char}
    (h : Mentions k (normaliseNewlines cs)) : Mentions k cs := by
  obtain ⟨s, hs⟩ := h
  exact ⟨s, isInfix_of_normaliseNewlines (s.newline_not_mem hlower) hs⟩

/-- Where no letter counts as its first one a keyword is not mentioned. -/
theorem not_mentions_of_fold {k : String} {first : Char} {more cs : List Char}
    (hk : k.toList.map Char.toLower = first :: more) (h : ∀ c ∈ cs, foldChar c ≠ first) :
    ¬Mentions k cs := by
  rintro ⟨s, hs⟩
  obtain ⟨c, letters, hletters, hc, -⟩ := s.exists_cons hk
  rw [hletters] at hs
  exact h c (hs.subset List.mem_cons_self) hc

/-! ## The scans -/

section Scans

variable {before text behind : List Char}

/-- No head of a table begins in the lines before the text, and none is read differently for what stands
behind. -/
theorem firstTable?_surrounded {name rest : List Char} (hlines : WholeLines before)
    (hcreate : ¬Mentions "CREATE" before) (h : firstTable? text = some (name, rest))
    (hopen : '(' ∈ rest) (behind : List Char) :
    firstTable? (before ++ (text ++ behind)) = some (name, rest ++ behind) := by
  rw [firstTable?_append_none, firstTable?_append h hopen]
  rintro front back rfl hne
  refine tableHead?_of_no_opening fun o rest heq => hcreate ?_
  unfold Opening.text Spaced.text at heq
  simp only [List.append_assoc] at heq
  exact begins_in_lines (by decide) hlines hne o.create.keyword heq

theorem columnBlock_surrounded {block : List Char} (hlines : WholeLines before)
    (hcreate : ¬Mentions "CREATE" before) (hbehind : ')' ∉ behind) (h : columnBlock text = .ok block) :
    columnBlock (before ++ (text ++ behind)) = .ok block := by
  obtain ⟨name, between, tail, hfirst, hbetween, htail⟩ := columnBlock_eq_ok_iff.mp h
  refine columnBlock_eq_ok_iff.mpr ⟨name, between, tail ++ behind, ?_, hbetween, ?_⟩
  · rw [firstTable?_surrounded hlines hcreate hfirst (by simp)]
    simp
  · rw [List.mem_append, not_or]
    exact ⟨htail, hbehind⟩

/-- A clause that began in the text and ended behind it would have its last parenthesis there. -/
theorem broken?_of_no_paren (hbehind : ')' ∉ behind) : broken? behind text = none := by
  cases hread : broken? behind text with
  | none => rfl
  | some fk =>
    obtain ⟨c, before, part, beyond, rest, -, -, hne, htext, rfl⟩ := broken?_eq_some hread
    exact absurd (List.mem_append_left _ (c.paren_mem_end htext hne)) hbehind

theorem foreignKeys_surrounded (hlines : WholeLines before) (hforeign : ¬Mentions "FOREIGN" before)
    (hbehind : ')' ∉ behind) : foreignKeys (before ++ (text ++ behind)) = foreignKeys text := by
  have hbefore : Headless (text ++ behind) before := by
    refine headless_of_parts ?_
    rintro front back rfl hne ⟨head, rest, heq⟩
    unfold Head.text at heq
    rw [List.append_assoc, List.append_assoc] at heq
    exact hforeign (begins_in_lines (by decide) hlines hne head.foreign heq)
  have hnone : foreignKeys behind = [] := by
    unfold foreignKeys
    rw [foreignKeysIn_eq_begun, begun_of_no_paren hbehind]
  have hwhole : foreignKeys (before ++ (text ++ behind)) = foreignKeys (text ++ behind) := by
    unfold foreignKeys
    rw [foreignKeysIn_append, begun_of_headless hbefore, List.nil_append]
  rw [hwhole, foreignKeys_append, broken?_of_no_paren hbehind, hnone, Option.toList_none,
    List.append_nil, List.append_nil]

end Scans

/-! ## The table -/

theorem exists_block_of_columns {cs : List Char} {names : List (List Char)} (h : columns cs = .ok names) :
    ∃ block, columnBlock (normaliseNewlines cs) = .ok block := by
  cases hblock : columnBlock (normaliseNewlines cs) with
  | ok block => exact ⟨block, rfl⟩
  | error e =>
    have hpieces : blockPieces cs = .error e := by
      unfold blockPieces
      rw [hblock]
      rfl
    unfold columns at h
    rw [hpieces] at h
    cases h

/-- A table is read from a text whose line ends are normalised as from the text with lines before it and
with more behind it. -/
theorem readTable_surrounded {before text behind : List Char} {source : Option String} {table : Table}
    (hlines : WholeLines before) (hcreate : ¬Mentions "CREATE" before)
    (hforeign : ¬Mentions "FOREIGN" before) (hbehind : ')' ∉ behind)
    (htext : normaliseNewlines text = text)
    (hwhole : normaliseNewlines (before ++ (text ++ behind)) = before ++ (text ++ behind))
    (h : readTable text source = .ok table) :
    readTable (before ++ (text ++ behind)) source = .ok table := by
  unfold readTable at h
  obtain ⟨name, hname, h⟩ := bind_eq_ok.mp h
  obtain ⟨names, hnames, h⟩ := bind_eq_ok.mp h
  obtain ⟨block, hblock⟩ := exists_block_of_columns hnames
  have hblock' : columnBlock (normaliseNewlines (before ++ (text ++ behind))) = .ok block := by
    rw [htext] at hblock
    rw [hwhole]
    exact columnBlock_surrounded hlines hcreate hbehind hblock
  have hcolumns : columns (before ++ (text ++ behind)) = columns text := by
    rw [columns_of_block hblock, columns_of_block hblock']
  have htable : tableName (before ++ (text ++ behind)) = .ok name := by
    rw [htext] at hblock
    obtain ⟨found, between, tail, hfirst, -⟩ := columnBlock_eq_ok_iff.mp hblock
    have hfirst' := firstTable?_surrounded hlines hcreate hfirst (by simp) behind
    unfold tableName at hname ⊢
    rw [hfirst] at hname
    rw [hfirst']
    exact hname
  unfold readTable
  rw [htable, hcolumns, hnames, foreignKeys_surrounded hlines hforeign hbehind]
  exact h

/-- What stands around the statement of a table that is read does not matter: whole lines before it that
mention neither `CREATE` nor `FOREIGN`, and a text behind it without a closing parenthesis. -/
theorem parse_surrounded {before text behind : String} {source : Option String} {table : Table}
    (hlines : WholeLines before.toList) (hcreate : ¬Mentions "CREATE" before.toList)
    (hforeign : ¬Mentions "FOREIGN" before.toList) (hbehind : ')' ∉ behind.toList)
    (h : Table.parse text source = .ok table) :
    Table.parse (before ++ text ++ behind) source = .ok table := by
  obtain ⟨hlines', hbefore⟩ := hlines.normaliseNewlines
  -- a line feed at the seam may belong to the last line end of the text
  have hparen : ')' ∉ normaliseNewlines (behindReturn text.toList behind.toList) := fun h => by
    rcases mem_normaliseNewlines h with heq | hmem
    · revert heq
      decide
    · exact hbehind ((behindReturn_isSuffix _ _).mem hmem)
  have hwhole : normaliseNewlines (before ++ text ++ behind).toList =
      normaliseNewlines before.toList ++ (normaliseNewlines text.toList ++
        normaliseNewlines (behindReturn text.toList behind.toList)) := by
    rw [String.toList_append, String.toList_append, List.append_assoc, hbefore,
      normaliseNewlines_seam]
  have hread : readTable (normaliseNewlines text.toList) source = .ok table := by
    unfold Table.parse at h
    split at h
    · rename_i hread
      rw [hread, Except.ok.inj h]
    · cases h
  have hsurrounded := readTable_surrounded hlines'
    (fun hmention => hcreate (hmention.of_normaliseNewlines (by decide)))
    (fun hmention => hforeign (hmention.of_normaliseNewlines (by decide))) hparen
    (normaliseNewlines_idem text.toList) (by rw [← hwhole, normaliseNewlines_idem]) hread
  unfold Table.parse
  rw [hwhole, hsurrounded]

/-- A statement is read behind another one and with the options of its table. -/
theorem statement_among_others_read :
    WholeLines "DROP TABLE users;\n".toList ∧ ¬Mentions "CREATE" "DROP TABLE users;\n".toList ∧
      ¬Mentions "FOREIGN" "DROP TABLE users;\n".toList ∧ ')' ∉ " ENGINE=InnoDB;\n".toList ∧
      Table.parse "CREATE TABLE users (\n  id INT\n)" = .ok { name := "users", columns := ["id"] } ∧
      Table.parse ("DROP TABLE users;\n" ++ "CREATE TABLE users (\n  id INT\n)" ++ " ENGINE=InnoDB;\n") =
        .ok { name := "users", columns := ["id"] } := by
  have hlines : WholeLines "DROP TABLE users;\n".toList := .inr ⟨"DROP TABLE users;".toList, by decide⟩
  have hcreate : ¬Mentions "CREATE" "DROP TABLE users;\n".toList :=
    not_mentions_of_fold rfl (forall_mem_of_all (by decide))
  have hforeign : ¬Mentions "FOREIGN" "DROP TABLE users;\n".toList :=
    not_mentions_of_fold rfl (forall_mem_of_all (by decide))
  have hbehind : ')' ∉ " ENGINE=InnoDB;\n".toList := by decide
  have hread : Table.parse "CREATE TABLE users (\n  id INT\n)" =
      .ok { name := "users", columns := ["id"] } := parse_of_letters rfl (by decide +kernel)
  exact ⟨hlines, hcreate, hforeign, hbehind, hread,
    parse_surrounded hlines hcreate hforeign hbehind hread⟩

end Scaffold.Schema
