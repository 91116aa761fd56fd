import Scaffold.Proofs.Schema.Columns
import Scaffold.Proofs.Schema.Keys
import Scaffold.Proofs.Schema.TableHead

/-!
# Reading a printed schema

Four scans read a schema, independently of each other: for the name of the table, for the column block,
for the pieces of the block, and for foreign keys in the whole text. On a printed schema they agree with
what was printed.

* `tableHead?_layout`: the name of the table is found behind the words before it.
* `columnBlock_layout`: the block runs from the parenthesis behind the name to the last one.
* `foreignKeys_layout`: the foreign keys are those of the foreign-key lines, in their order.
* `Layout.parse_text`: reading undoes printing.
-/
namespace Scaffold.Schema

open Text

/-! ## The name of the table -/

theorem Layout.nameText_not_blank (l : Layout) (rest : List Char) :
    Outside isBlank (l.nameText ++ rest) :=
  l.nameText_outside (fun _ => isBlank_of_isWord) (sign_outside '`' (by simp)).1
    (sign_outside '"' (by simp)).1 rest

/-- A quoted name is read with its quotes. -/
theorem quotedWord?_layout (l : Layout) {rest : List Char} (h : Outside isWord rest) :
    quotedWord? (l.nameText ++ rest) = some (l.name.letters, rest) :=
  quotedWord?_eq_some_iff.mpr ⟨⟨l.quote, l.name⟩, rfl, rfl, fun _ => h⟩

/-- The text begins with a character of a word. -/
theorem Spelling.begins {k : String} {first : Char} {more : List Char}
    (hk : k.toList.map Char.toLower = first :: more) (hlower : first.isLower = true) (s : Spelling k)
    {c : Char} {cs rest : List Char} (h : c :: cs = s.letters ++ rest) : isWord c = true := by
  obtain ⟨d, letters, hletters, rfl, -⟩ := s.exists_cons hk
  rw [hletters, List.cons_append] at h
  rw [(List.cons_eq_cons.mp h).1]
  exact isWord_of_foldChar hlower

theorem ifNotExists?_sign {c : Char} (hc : isWord c = false) (cs : List Char) :
    ifNotExists? (c :: cs) = none := by
  cases hread : ifNotExists? (c :: cs) with
  | none => rfl
  | some rest =>
    obtain ⟨⟨condition, heq⟩, -⟩ := ifNotExists?_eq_some_iff.mp hread
    unfold Condition.text Spaced.text at heq
    simp only [List.append_assoc] at heq
    rw [condition.ifWord.keyword.begins rfl (by decide) heq] at hc
    cases hc

/-- A word with a parenthesis behind it is not taken for the words `IF NOT EXISTS`. -/
theorem ifNotExists?_word (n : Name) (rest : List Char) :
    ifNotExists? (n.letters ++ (' ' :: '(' :: rest)) = none := by
  cases hread : ifNotExists? (n.letters ++ (' ' :: '(' :: rest)) with
  | none => rfl
  | some later =>
    obtain ⟨⟨⟨⟨ifWord, space⟩, notSpaced, existsSpaced⟩, heq⟩, -⟩ := ifNotExists?_eq_some_iff.mp hread
    obtain ⟨notWord, notSpace⟩ := notSpaced
    unfold Condition.text Spaced.text at heq
    simp only [List.append_assoc] at heq
    have hend : Outside isWord (' ' :: '(' :: rest) := (by decide : isWord ' ' = false)
    have hword := congrArg (List.dropWhile isWord) heq
    rw [dropWhile_run n.word hend,
      dropWhile_run (ifWord.word (by decide)) (space.outside (fun _ => isWord_of_isBlank) _)] at hword
    have hblank := congrArg (List.dropWhile isBlank) hword
    rw [dropWhile_run space.blank (notWord.outside rfl (by decide) (fun _ => isBlank_of_isWord) _),
      List.dropWhile_cons_of_pos (by decide), List.dropWhile_cons_of_neg (by decide)] at hblank
    have hparen := notWord.begins rfl (by decide) hblank
    rw [(sign_outside '(' (by simp)).2] at hparen
    cases hparen

/-- The name of a table is not taken for the words `IF NOT EXISTS`. -/
theorem ifNotExists?_nameText (l : Layout) (rest : List Char) :
    ifNotExists? (l.nameText ++ (' ' :: '(' :: rest)) = none := by
  unfold Layout.nameText
  cases l.quote with
  | none =>
    simp only [Quote.text, List.nil_append, List.append_nil]
    exact ifNotExists?_word l.name rest
  | backtick => exact ifNotExists?_sign (sign_outside '`' (by simp)).2 _
  | double => exact ifNotExists?_sign (sign_outside '"' (by simp)).2 _

/-- The name of the table is found behind the words before it. -/
theorem tableHead?_layout (l : Layout) :
    tableHead? l.text = some (l.name.letters, l.behindName) := by
  have hname : Outside isBlank (l.nameText ++ l.behindName) := l.nameText_not_blank _
  have hcondition : Outside isBlank (conditionText l.condition ++ (l.nameText ++ l.behindName)) :=
    conditionText_outside (fun _ => isBlank_of_isWord) l.condition hname
  have hbehind : Outside isWord l.behindName := (by decide : isWord ' ' = false)
  have hquoted := quotedWord?_layout l hbehind
  have hsplit : l.text = (Opening.mk l.create l.table).text ++
      (conditionText l.condition ++ (l.nameText ++ l.behindName)) := by
    simp [Layout.text, Opening.text]
  rw [hsplit, tableHead?_opening _ hcondition]
  cases hc : l.condition with
  | none =>
    have hnone : ifNotExists? (l.nameText ++ l.behindName) = none := ifNotExists?_nameText l _
    simp only [conditionText, List.nil_append, hnone, Option.bind_none, Option.none_or, hquoted]
  | some c =>
    have hread := ifNotExists?_eq_some_iff.mpr ⟨⟨c, rfl⟩, hname⟩
    simp only [conditionText, hread, Option.bind_some, hquoted, Option.some_or]

theorem firstTable?_layout (l : Layout) :
    firstTable? l.text = some (l.name.letters, l.behindName) :=
  firstTable?_of_tableHead? (tableHead?_layout l)

theorem tableName_layout (l : Layout) : tableName l.text = .ok l.name.letters := by
  unfold tableName
  rw [firstTable?_layout]

/-! ## The column block -/

/-- The block runs from the parenthesis behind the name to the last one. -/
theorem columnBlock_layout (l : Layout) :
    columnBlock l.text = .ok ('\n' :: (l.body ++ ['\n'])) := by
  refine columnBlock_eq_ok_iff.mpr ⟨l.name.letters, [' '], l.tail, ?_, by decide, l.closed⟩
  rw [firstTable?_layout]
  simp [Layout.behindName]

theorem declared_layout (l : Layout) : declared ('\n' :: (l.body ++ ['\n'])) = l.columns := by
  have hnewline : ∀ c ∈ ['\n'], isBlank c = true := forall_mem_of_all (by decide)
  have hcut := columns_of_pieces l.first l.others hnewline (by decide)
  unfold declared pieces Layout.body
  rw [piecesFrom_open (separatorLength?_of_ne (by decide) _), List.append_assoc]
  exact hcut

theorem columns_layout (l : Layout) (h : l.columns ≠ []) : columns l.text = .ok l.columns := by
  have hblock : columnBlock (normaliseNewlines l.text) = .ok ('\n' :: (l.body ++ ['\n'])) := by
    rw [l.normaliseNewlines_text, columnBlock_layout]
    rfl
  rw [columns_of_block hblock, declared_layout, if_neg h]

/-! ## The foreign keys -/

/-- A definition gives the key it declares, if it declares one. -/
theorem begun_definition (d : Definition) {behind : List Char} (h : Closing behind) :
    begun behind d.text = d.foreignKey?.toList := by
  cases d with
  | column l =>
    exact begun_of_headless ((headless_of_headFree l.keyless).close h)
  | index l =>
    exact begun_of_headless ((headless_of_headFree l.keyless).close h)
  | foreignKey l =>
    have hmore : begun behind l.more = [] :=
      begun_of_headless ((headless_of_headFree l.keyless).close h)
    have hclause : begun behind (l.clause.text ++ l.more) = [l.clause.foreignKey] := by
      rw [begun_append, begun_clause, hmore]
      rfl
    cases hc : l.constraint with
    | some p =>
      have htext : (Definition.foreignKey l).text = p.text ++ (l.clause.text ++ l.more) := by
        simp [Definition.text, Definition.start, Definition.more, hc, ConstraintName.text]
      rw [htext, begun_append, hclause, List.append_assoc,
        begun_of_headless (p.headless l.clause (l.more ++ behind))]
      rfl
    | none =>
      have htext : (Definition.foreignKey l).text = l.clause.text ++ l.more := by
        simp [Definition.text, Definition.start, Definition.more, hc, Clause.text]
      rw [htext, hclause]
      rfl

theorem begun_line (l : Line) {behind : List Char} (h : Closing behind) :
    begun behind l.text = l.definition.foreignKey?.toList := by
  unfold Line.text
  rw [begun_append, begun_of_headless (l.lead.headless _), begun_definition l.definition h]
  rfl

theorem begun_nextLine (n : NextLine) {behind : List Char} (h : Closing behind) :
    begun behind n.text = n.line.definition.foreignKey?.toList := by
  have hinline : ∀ c, isInlineBlank c = true → isWord c = false := by
    intro c hc
    unfold isInlineBlank at hc
    rcases Bool.or_eq_true _ _ |>.mp hc with hc | hc
    · rw [beq_iff_eq.mp hc]; decide
    · rw [beq_iff_eq.mp hc]; decide
  have hsigns : ∀ c ∈ [','] ++ n.gap ++ ['\n'], isWord c = false := by
    simp only [List.forall_mem_append]
    exact ⟨⟨forall_mem_of_all (by decide), fun c hc => hinline c (n.inline c hc)⟩,
      forall_mem_of_all (by decide)⟩
  unfold NextLine.text
  rw [begun_append, begun_of_headless (headless_of_not_word hsigns _), begun_line n.line h]
  rfl

theorem closing_others (others : List NextLine) {behind : List Char} (h : Closing behind) :
    Closing (others.flatMap NextLine.text ++ behind) := by
  cases others with
  | nil => exact h
  | cons n others =>
    exact closing_sign (sign_outside ',' (by simp)).1 (sign_outside ',' (by simp)).2 _

theorem begun_others (others : List NextLine) {behind : List Char} (h : Closing behind) :
    begun behind (others.flatMap NextLine.text) =
      (others.map fun n => n.line.definition).filterMap Definition.foreignKey? := by
  induction others with
  | nil => rfl
  | cons n others ih =>
    rw [List.flatMap_cons, begun_append, begun_nextLine n (closing_others others h), ih,
      List.map_cons, filterMap_cons_toList]

theorem begun_body (l : Layout) {behind : List Char} (h : Closing behind) :
    begun behind l.body = l.foreignKeys := by
  unfold Layout.body Layout.foreignKeys Layout.definitions
  rw [begun_append, begun_line l.first (closing_others l.others h), begun_others l.others h,
    filterMap_cons_toList]

/-! ## The words before the definitions -/

theorem Spaced.headless {k : String} (hk : neverFits (k.toList.map Char.toLower) = true)
    (s : Spaced k) (behind : List Char) : Headless behind s.text := by
  unfold Spaced.text
  rw [headless_append]
  exact ⟨s.keyword.headless hk _, s.space.headless behind⟩

theorem conditionText_headless (condition : Option Condition) (behind : List Char) :
    Headless behind (conditionText condition) := by
  cases condition with
  | none => exact headless_nil behind
  | some c =>
    have hend : Closing (c.ifWord.space.chars ++ (c.notWord.text ++ (c.existsWord.text ++ behind))) := by
      refine c.ifWord.space.closing ?_ ?_ fun hnil => absurd hnil c.ifWord.space.filled
      · exact c.notWord.outside rfl (by decide) (fun _ => isBlank_of_isWord) _
      · obtain ⟨d, letters, hletters, hd, -⟩ := c.notWord.keyword.exists_cons rfl
        unfold Spaced.text
        rw [hletters]
        change (foldChar d == 'k') = false
        rw [hd]
        rfl
    unfold conditionText Condition.text
    simp only [headless_append, List.append_assoc]
    refine ⟨?_, c.notWord.headless (by decide) _, c.existsWord.headless (by decide) _⟩
    unfold Spaced.text at hend ⊢
    rw [headless_append]
    exact ⟨headless_word (c.ifWord.keyword.word (by decide)) hend, c.ifWord.space.headless _⟩

theorem Layout.nameText_headless (l : Layout) {behind : List Char} (h : Closing behind) :
    Headless behind l.nameText := by
  have hquote : ∀ q : Quote, q.text ⊆ ['(', ')', '`', '"', ',', '-'] := by
    rintro (_ | _ | _) <;> decide
  have hend : Closing (l.quote.text ++ behind) := by
    cases l.quote with
    | none => exact h
    | backtick => exact closing_sign (sign_outside '`' (by simp)).1 (sign_outside '`' (by simp)).2 _
    | double => exact closing_sign (sign_outside '"' (by simp)).1 (sign_outside '"' (by simp)).2 _
  unfold Layout.nameText
  simp only [headless_append]
  exact ⟨⟨signs_headless (hquote _) _, headless_word l.name.word hend⟩,
    signs_headless (hquote _) behind⟩

/-- The foreign keys are those of the foreign-key lines, in their order. -/
theorem foreignKeys_layout (l : Layout) : foreignKeys l.text = l.foreignKeys := by
  have hblank : ∀ c ∈ ['\n'], isBlank c = true := forall_mem_of_all (by decide)
  have hend : Closing (['\n', ')'] ++ l.tail) :=
    Gap.closing_sign ⟨['\n'], hblank⟩ (sign_outside ')' (by simp)).1 (sign_outside ')' (by simp)).2 _
  have hopen : ∀ c ∈ [' ', '(', '\n'], isWord c = false := forall_mem_of_all (by decide)
  have hclose : ∀ c ∈ ['\n', ')'], isWord c = false := forall_mem_of_all (by decide)
  have hspace : ∀ c ∈ [' '], isBlank c = true := forall_mem_of_all (by decide)
  have hbehind : Closing l.behindName :=
    Gap.closing_sign ⟨[' '], hspace⟩ (sign_outside '(' (by simp)).1 (sign_outside '(' (by simp)).2 _
  have hkeys : begun [] l.behindName = l.foreignKeys := by
    unfold Layout.behindName
    rw [begun_append, begun_of_headless (headless_of_not_word hopen _), begun_append, begun_append,
      begun_of_headless (headless_of_not_word hclose _), begun_of_no_paren l.closed, List.append_nil,
      begun_body l hend, List.append_nil, List.nil_append, List.append_nil]
  unfold foreignKeys Layout.text
  rw [foreignKeysIn_eq_begun, begun_append, begun_append, begun_append, begun_append, hkeys,
    begun_of_headless (l.create.headless (by decide) _),
    begun_of_headless (l.table.headless (by decide) _),
    begun_of_headless (conditionText_headless l.condition _), List.append_nil,
    begun_of_headless (l.nameText_headless hbehind)]
  simp only [List.nil_append]

/-! ## Reading undoes printing -/

/-- Reading a printed schema gives back the name of the table, the columns and the foreign keys, each in
the order in which they are printed. -/
theorem Layout.parse_text (l : Layout) (h : l.columns ≠ []) (source : Option String) :
    Table.parse (String.ofList l.text) source =
      .ok {
        name := String.ofList l.name.letters
        columns := l.columns.map String.ofList
        foreignKeys := l.foreignKeys
        sourceFile := source } := by
  have hname := tableName_layout l.normalised
  have hcolumns := columns_layout l.normalised h
  have hkeys := foreignKeys_layout l.normalised
  unfold Table.parse
  rw [String.toList_ofList, l.normaliseNewlines_text]
  unfold readTable
  rw [hname, hcolumns, hkeys]
  rfl

/-- A schema with a quoted column and a foreign key that refers to another table. -/
def ordersLayout : Layout where
  create := ⟨⟨"Create".toList, by decide⟩, oneSpace⟩
  table := ⟨⟨"TABLE".toList, by decide⟩, oneSpace⟩
  condition := none
  quote := .double
  name := ⟨"orders".toList, by decide, forall_mem_of_all (by decide)⟩
  first :=
    { lead := ⟨"  ".toList, forall_mem_of_all (by decide)⟩
      definition := .column
        { ticked := true
          name := ⟨"user_id".toList, by decide, forall_mem_of_all (by decide)⟩
          more := " DECIMAL(10,2)".toList
          spaced := ⟨' ', "DECIMAL(10,2)".toList, by decide, by decide⟩
          bare := fun h => by cases h
          keyless := headFree_of_headless (headless_of_neverFits (by decide) []) }
      oneLine := forall_mem_of_all (by decide) }
  others :=
    [{ gap := [' ']
       inline := forall_mem_of_all (by decide)
       line :=
        { lead := ⟨[], by simp⟩
          definition := .foreignKey
            { constraint := none
              clause :=
                { head := ⟨⟨"foreign".toList, by decide⟩, oneSpace, ⟨"key".toList, by decide⟩⟩
                  keyGap := ⟨[], by simp⟩
                  column := ⟨⟨[], by simp⟩, ⟨true, ⟨"user_id".toList, by decide, forall_mem_of_all (by decide)⟩, true⟩,
                    ⟨[], by simp⟩⟩
                  columnGap := ⟨[], by simp⟩
                  references := ⟨"references".toList, by decide⟩
                  referencesSpace := oneSpace
                  table := ⟨false, ⟨"users".toList, by decide, forall_mem_of_all (by decide)⟩, false⟩
                  tableGap := ⟨[], by simp⟩
                  parentColumn := ⟨⟨[], by simp⟩, ⟨false, ⟨"id".toList, by decide, forall_mem_of_all (by decide)⟩, false⟩,
                    ⟨[], by simp⟩⟩ }
              more := " ON DELETE CASCADE".toList
              named := fun p h => by cases h
              unnamed := fun _ => by decide
              keyless := headFree_of_headless (headless_of_neverFits (by decide) []) }
          oneLine := forall_mem_of_all (by decide) } }]
  tail := ";".toList
  closed := by decide

example : String.ofList ordersLayout.text =
    "Create TABLE \"orders\" (\n  `user_id` DECIMAL(10,2), \nforeign key(`user_id`)references users(id) ON DELETE CASCADE\n);" := by
  decide

/-- The schema is read as it was printed. -/
theorem ordersLayout_read :
    ordersLayout.columns ≠ [] ∧
      Table.parse (String.ofList ordersLayout.text) none =
        .ok { name := "orders", columns := ["user_id"], foreignKeys := [⟨"user_id", "users", "id"⟩] } := by
  have hcolumns : ordersLayout.columns ≠ [] := by decide
  exact ⟨hcolumns, ordersLayout.parse_text hcolumns none⟩

end Scaffold.Schema
