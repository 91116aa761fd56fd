import Scaffold.Proofs.Schema.Layout

/-!
# The head of a table statement

A schema declares the table whose name follows the first `CREATE TABLE`. The words `IF NOT EXISTS` may
stand between; if what follows them is no name, the scanner takes the first of them for the name.

* `quotedWord?_eq_some_iff`, `ifNotExists?_eq_some_iff`: a name in quotes, and the words before it.
* `TableAt`, `tableHead?_eq_some_iff`: the head of a table, as it is written.
* `firstTable?_eq_some_iff`, `firstTable?_eq_none_iff`: the first head of a text, if there is one.
* `firstTable?_skip`: the head is read where `CREATE TABLE` first stands.
* `tableName_condition_iff`: the name that is read behind `IF NOT EXISTS`.
* `condition_taken_for_name`: a table called `IF`, for a name that is not a word.
* `firstTable?_append`: nothing behind the parenthesis after the name is looked at.
* `columnBlock_eq_ok_iff`: where the column block begins and ends.
-/
namespace Scaffold.Schema

open Text

/-! ## The words before the name -/

/-- The words `CREATE TABLE`, with the blanks behind them. -/
structure Opening where
  create : Spaced "CREATE"
  table : Spaced "TABLE"

/-- The text of the two words. -/
def Opening.text (o : Opening) : List Char := o.create.text ++ o.table.text

theorem keyword_spaced {k : String} (s : Spaced k) (rest : List Char) :
    keyword k (s.text ++ rest) = some (s.space.chars ++ rest) :=
  keyword_eq_some_iff.mpr ⟨s.keyword, List.append_assoc ..⟩

/-- All the blanks of a run are passed over, however it is cut. -/
theorem blanks1?_append (s : Space) (rest : List Char) :
    blanks1? (s.chars ++ rest) = some (blanks rest) := by
  obtain ⟨⟨g, hg⟩, hout⟩ := blanks_eq_iff.mp (rfl : blanks rest = _)
  have hne : s.chars ++ g.chars ≠ [] := fun h => s.filled (List.append_eq_nil_iff.mp h).1
  refine blanks1?_eq_some_iff.mpr ⟨⟨⟨⟨s.chars ++ g.chars, ?_⟩, hne⟩, ?_⟩, hout⟩
  · exact List.forall_mem_append.mpr ⟨s.blank, g.blank⟩
  · rw [List.append_assoc, ← hg]

theorem blanks1?_space (s : Space) {rest : List Char} (h : Outside isBlank rest) :
    blanks1? (s.chars ++ rest) = some rest := by
  rw [blanks1?_append]
  exact congrArg some (dropWhile_of_outside h)

/-- A name is read with the quotes that stand around it. -/
theorem quotedWord?_eq_some_iff {cs word rest : List Char} :
    quotedWord? cs = some (word, rest) ↔ ∃ q : QuotedName, q.name.letters = word ∧
      cs = q.text ++ rest ∧ (q.quote = .none → Outside isWord rest) := by
  constructor
  · intro h
    cases cs with
    | nil => cases h
    | cons c cs =>
      rw [quotedWord?] at h
      split at h
      · rename_i hc
        obtain ⟨⟨letters, behind⟩, hread, hquote⟩ := Option.bind_eq_some_iff.mp h
        obtain ⟨beyond, hclose, hpair⟩ := Option.bind_eq_some_iff.mp hquote
        obtain ⟨rfl, hne, hword, -⟩ := word?_eq_some_iff.mp hread
        obtain rfl := char?_eq_some_iff.mp hclose
        cases hpair
        rcases hc with rfl | rfl
        · exact ⟨⟨.backtick, ⟨word, hne, hword⟩⟩, rfl, by simp [QuotedName.text, Quote.text],
            fun h => by cases h⟩
        · exact ⟨⟨.double, ⟨word, hne, hword⟩⟩, rfl, by simp [QuotedName.text, Quote.text],
            fun h => by cases h⟩
      · obtain ⟨hsplit, hne, hword, hout⟩ := word?_eq_some_iff.mp h
        exact ⟨⟨.none, ⟨word, hne, hword⟩⟩, rfl, by simpa [QuotedName.text, Quote.text] using hsplit,
          fun _ => hout⟩
  · rintro ⟨⟨quote, n⟩, rfl, rfl, hout⟩
    have hquoted : ∀ q ∈ ['`', '"'], quotedWord? ([q] ++ n.letters ++ [q] ++ rest) =
        some (n.letters, rest) := by
      intro q hq
      have hword : word? (n.letters ++ (q :: rest)) = some (n.letters, q :: rest) :=
        word?_name n (sign_outside q (by revert hq; simp; tauto)).2
      have hopen : q = '`' ∨ q = '"' := by simpa using hq
      simp only [List.cons_append, List.nil_append, List.append_assoc, quotedWord?, if_pos hopen,
        hword, Option.bind_eq_bind, Option.bind_some, char?_eq_some_iff.mpr rfl, Option.pure_def]
    cases quote with
    | none =>
      obtain ⟨c, letters, hletters, hc⟩ := n.exists_cons
      have hsign : ¬(c = '`' ∨ c = '"') := by
        rintro (rfl | rfl) <;> revert hc <;> decide
      have hword := word?_name n (hout rfl)
      simp only [QuotedName.text, Quote.text, List.nil_append, List.append_nil]
      rw [hletters] at hword ⊢
      rw [List.cons_append, quotedWord?, if_neg hsign]
      exact hword
    | backtick => exact hquoted '`' (by simp)
    | double => exact hquoted '"' (by simp)

/-- The condition is read with all the blanks behind it. -/
theorem ifNotExists?_append (c : Condition) (rest : List Char) :
    ifNotExists? (c.text ++ rest) = some (blanks rest) := by
  have hnot := c.notWord.outside rfl (by decide) (fun _ => isBlank_of_isWord) (c.existsWord.text ++ rest)
  have hexists := c.existsWord.outside rfl (by decide) (fun _ => isBlank_of_isWord) rest
  unfold ifNotExists? Condition.text
  simp only [List.append_assoc, keyword_spaced, blanks1?_space _ hnot, blanks1?_space _ hexists,
    blanks1?_append, Option.bind_eq_bind, Option.bind_some]

/-- The words `IF NOT EXISTS` are read exactly where they stand. -/
theorem ifNotExists?_eq_some_iff {cs rest : List Char} :
    ifNotExists? cs = some rest ↔ (∃ c : Condition, cs = c.text ++ rest) ∧ Outside isBlank rest := by
  constructor
  · intro h
    unfold ifNotExists? at h
    simp only [Option.bind_eq_bind, Option.bind_eq_some_iff, keyword_eq_some_iff,
      blanks1?_eq_some_iff] at h
    obtain ⟨-, ⟨ifWord, rfl⟩, -, ⟨⟨ifSpace, rfl⟩, -⟩, -, ⟨notWord, rfl⟩, -, ⟨⟨notSpace, rfl⟩, -⟩, -,
      ⟨existsWord, rfl⟩, ⟨existsSpace, rfl⟩, hout⟩ := h
    refine ⟨⟨⟨⟨ifWord, ifSpace⟩, ⟨notWord, notSpace⟩, ⟨existsWord, existsSpace⟩⟩, ?_⟩, hout⟩
    simp [Condition.text, Spaced.text]
  · rintro ⟨⟨c, rfl⟩, hout⟩
    rw [ifNotExists?_append]
    exact congrArg some (dropWhile_of_outside hout)

/-! ## Where the head stands -/

theorem tableHead?_opening (o : Opening) {rest : List Char} (h : Outside isBlank rest) :
    tableHead? (o.text ++ rest) = ((ifNotExists? rest).bind quotedWord?).or (quotedWord? rest) := by
  have htable := o.table.outside rfl (by decide) (fun _ => isBlank_of_isWord) rest
  unfold tableHead? Opening.text
  simp only [List.append_assoc, keyword_spaced, blanks1?_space _ htable, blanks1?_space _ h,
    Option.bind_eq_bind, Option.bind_some]
  exact Option.orElse_eq_or

/-- A name ends where a text goes on: behind its quote, or where the word ends. -/
def QuotedName.Ends (q : QuotedName) (rest : List Char) : Prop :=
  q.quote = .none → Outside isWord rest

theorem QuotedName.outside_blank (q : QuotedName) (rest : List Char) :
    Outside isBlank (q.text ++ rest) :=
  q.outside (fun _ => isBlank_of_isWord) (sign_outside '`' (by simp)).1
    (sign_outside '"' (by simp)).1 rest

theorem Condition.outside_blank (c : Condition) (rest : List Char) :
    Outside isBlank (c.text ++ rest) := by
  unfold Condition.text
  simp only [List.append_assoc]
  exact c.ifWord.outside rfl (by decide) (fun _ => isBlank_of_isWord) _

/-- The head of a table stands at the beginning of a text: the words `CREATE TABLE` and the name behind
`IF NOT EXISTS`, or if there is none, the name right behind them. -/
inductive TableAt : List Char → List Char → List Char → Prop where
  | conditional (o : Opening) (c : Condition) (q : QuotedName) {rest : List Char} (h : q.Ends rest) :
      TableAt (o.text ++ (c.text ++ (q.text ++ rest))) q.name.letters rest
  | plain (o : Opening) (q : QuotedName) {rest : List Char} (h : q.Ends rest)
      (hnone : ∀ (c : Condition) (other : QuotedName) (behind : List Char), other.Ends behind →
        q.text ++ rest ≠ c.text ++ (other.text ++ behind)) :
      TableAt (o.text ++ (q.text ++ rest)) q.name.letters rest

theorem ifNotExists?_bind_eq_some_iff {cs name rest : List Char} :
    (ifNotExists? cs).bind quotedWord? = some (name, rest) ↔ ∃ (c : Condition) (q : QuotedName),
      q.name.letters = name ∧ cs = c.text ++ (q.text ++ rest) ∧ q.Ends rest := by
  simp only [Option.bind_eq_some_iff, ifNotExists?_eq_some_iff, quotedWord?_eq_some_iff]
  constructor
  · rintro ⟨-, ⟨⟨c, rfl⟩, -⟩, q, hname, rfl, hends⟩
    exact ⟨c, q, hname, rfl, hends⟩
  · rintro ⟨c, q, hname, rfl, hends⟩
    exact ⟨_, ⟨⟨c, rfl⟩, q.outside_blank rest⟩, q, hname, rfl, hends⟩

/-- A head is read exactly where one stands. -/
theorem tableHead?_eq_some_iff {cs name rest : List Char} :
    tableHead? cs = some (name, rest) ↔ TableAt cs name rest := by
  constructor
  · intro h
    unfold tableHead? at h
    simp only [Option.bind_eq_bind, Option.bind_eq_some_iff, keyword_eq_some_iff,
      blanks1?_eq_some_iff, Option.orElse_eq_orElse, Option.orElse_eq_or] at h
    obtain ⟨-, ⟨create, rfl⟩, -, ⟨⟨createSpace, rfl⟩, -⟩, -, ⟨table, rfl⟩, behind,
      ⟨⟨tableSpace, rfl⟩, -⟩, h⟩ := h
    have htext : create.letters ++ (createSpace.chars ++ (table.letters ++ (tableSpace.chars ++ behind)))
        = Opening.text ⟨⟨create, createSpace⟩, ⟨table, tableSpace⟩⟩ ++ behind := by
      simp [Opening.text, Spaced.text]
    rw [htext]
    rcases Option.or_eq_some_iff.mp h with h | ⟨hnone, h⟩
    · obtain ⟨c, q, rfl, rfl, hends⟩ := ifNotExists?_bind_eq_some_iff.mp h
      exact .conditional _ c q hends
    · obtain ⟨q, rfl, rfl, hends⟩ := quotedWord?_eq_some_iff.mp h
      refine .plain _ q hends fun c other rest hother heq => ?_
      rw [ifNotExists?_bind_eq_some_iff.mpr ⟨c, other, rfl, heq, hother⟩] at hnone
      cases hnone
  · rintro (⟨o, c, q, hends⟩ | ⟨o, q, hends, hnone⟩)
    · rw [tableHead?_opening o (c.outside_blank _),
        ifNotExists?_bind_eq_some_iff.mpr ⟨c, q, rfl, rfl, hends⟩, Option.some_or]
    · have hcondition : (ifNotExists? (q.text ++ rest)).bind quotedWord? = none := by
        cases hread : (ifNotExists? (q.text ++ rest)).bind quotedWord? with
        | none => rfl
        | some found =>
          obtain ⟨c, other, -, heq, hother⟩ :=
            ifNotExists?_bind_eq_some_iff.mp (show _ = some (found.1, found.2) from hread)
          exact absurd heq (hnone c other _ hother)
      rw [tableHead?_opening o (q.outside_blank rest), hcondition, Option.none_or]
      exact quotedWord?_eq_some_iff.mpr ⟨q, rfl, rfl, hends⟩

theorem tableHead?_eq_none_iff {cs : List Char} :
    tableHead? cs = none ↔ ∀ name rest, ¬TableAt cs name rest := by
  simp only [← tableHead?_eq_some_iff]
  constructor
  · intro hnone name rest hsome
    rw [hnone] at hsome
    cases hsome
  · intro h
    cases hread : tableHead? cs with
    | none => rfl
    | some found => exact absurd hread (h found.1 found.2)

/-- A head begins with the words `CREATE TABLE`. -/
theorem TableAt.exists_opening {cs name rest : List Char} (h : TableAt cs name rest) :
    ∃ (o : Opening) (between : List Char), cs = o.text ++ (between ++ rest) := by
  rcases h with ⟨o, c, q, -⟩ | ⟨o, q, -, -⟩
  · exact ⟨o, c.text ++ q.text, by rw [List.append_assoc]⟩
  · exact ⟨o, q.text, rfl⟩

theorem tableHead?_of_no_opening {cs : List Char}
    (h : ∀ (o : Opening) (rest : List Char), cs ≠ o.text ++ rest) : tableHead? cs = none := by
  refine tableHead?_eq_none_iff.mpr fun name rest hhere => ?_
  obtain ⟨o, between, heq⟩ := hhere.exists_opening
  exact h o _ heq

theorem firstTable?_cons (c : Char) (cs : List Char) :
    firstTable? (c :: cs) = (tableHead? (c :: cs)).or (firstTable? cs) := Option.orElse_eq_or

theorem firstTable?_of_tableHead? {cs name rest : List Char} (h : tableHead? cs = some (name, rest)) :
    firstTable? cs = some (name, rest) := by
  cases cs with
  | nil => cases h
  | cons c cs => rw [firstTable?_cons, h, Option.some_or]

/-- What stands before the first head is passed over. -/
theorem firstTable?_append_none {before rest : List Char}
    (h : ∀ front back, before = front ++ back → back ≠ [] → tableHead? (back ++ rest) = none) :
    firstTable? (before ++ rest) = firstTable? rest := by
  induction before with
  | nil => rfl
  | cons c before ih =>
    rw [List.cons_append, firstTable?_cons, ← List.cons_append,
      h [] (c :: before) rfl (List.cons_ne_nil _ _), Option.none_or]
    exact ih fun front back hsplit => h (c :: front) back (by rw [hsplit, List.cons_append])

/-- The first head of a table that stands in a text, with its name and what stands behind it. -/
def FirstTable (cs name rest : List Char) : Prop :=
  ∃ before here, cs = before ++ here ∧ TableAt here name rest ∧
    ∀ front back, before = front ++ back → back ≠ [] →
      ∀ other behind, ¬TableAt (back ++ here) other behind

/-- No head of a table stands in a text. -/
def NoTable (cs : List Char) : Prop :=
  ∀ before here name rest, cs = before ++ here → ¬TableAt here name rest

theorem firstTable?_eq_some_iff {cs name rest : List Char} :
    firstTable? cs = some (name, rest) ↔ FirstTable cs name rest := by
  constructor
  · intro h
    induction cs with
    | nil => cases h
    | cons c cs ih =>
      rw [firstTable?_cons] at h
      rcases Option.or_eq_some_iff.mp h with h | ⟨hnone, h⟩
      · exact ⟨[], c :: cs, rfl, tableHead?_eq_some_iff.mp h, fun front back hsplit hne =>
          absurd (List.append_eq_nil_iff.mp hsplit.symm).2 hne⟩
      · obtain ⟨before, here, rfl, hhere, hfirst⟩ := ih h
        refine ⟨c :: before, here, rfl, hhere, fun front back hsplit hne => ?_⟩
        rcases List.cons_eq_append_iff.mp hsplit with ⟨-, rfl⟩ | ⟨front, -, hsplit⟩
        · exact tableHead?_eq_none_iff.mp hnone
        · exact hfirst front back hsplit hne
  · rintro ⟨before, here, rfl, hhere, hfirst⟩
    rw [firstTable?_append_none fun front back hsplit hne =>
      tableHead?_eq_none_iff.mpr (hfirst front back hsplit hne)]
    exact firstTable?_of_tableHead? (tableHead?_eq_some_iff.mpr hhere)

theorem firstTable?_eq_none_iff {cs : List Char} : firstTable? cs = none ↔ NoTable cs := by
  constructor
  · rintro hnone before here name rest rfl hhere
    have hread := firstTable?_of_tableHead? (tableHead?_eq_some_iff.mpr hhere)
    induction before with
    | nil => rw [List.nil_append, hread] at hnone; cases hnone
    | cons c before ih =>
      rw [List.cons_append, firstTable?_cons] at hnone
      exact ih (Option.or_eq_none_iff.mp hnone).2
  · intro h
    cases hread : firstTable? cs with
    | none => rfl
    | some found =>
      obtain ⟨before, here, hsplit, hhere, -⟩ :=
        firstTable?_eq_some_iff.mp (show _ = some (found.1, found.2) from hread)
      exact absurd hhere (h before here _ _ hsplit)

/-- The words `CREATE TABLE` stand nowhere before their place behind a text. -/
def FirstOpening (before : List Char) (o : Opening) (after : List Char) : Prop :=
  ∀ front back, before = front ++ back → back ≠ [] →
    ∀ (other : Opening) (rest : List Char), back ++ (o.text ++ after) ≠ other.text ++ rest

theorem firstTable?_skip {before after : List Char} {o : Opening} (h : FirstOpening before o after) :
    firstTable? (before ++ (o.text ++ after)) = firstTable? (o.text ++ after) :=
  firstTable?_append_none fun front back hsplit hne =>
    tableHead?_of_no_opening (h front back hsplit hne)

/-- Where no letter counts as a `c` no `CREATE` stands. -/
theorem not_opening_of_fold {c : Char} {cs rest : List Char} {o : Opening} (hc : foldChar c ≠ 'c') :
    c :: cs ≠ o.text ++ rest := by
  intro heq
  obtain ⟨d, letters, hletters, hd, -⟩ := o.create.keyword.exists_cons rfl
  unfold Opening.text Spaced.text at heq
  rw [hletters] at heq
  obtain rfl : c = d := (List.cons_eq_cons.mp heq).1
  exact hc hd

theorem firstOpening_of_fold {before : List Char} (h : ∀ c ∈ before, foldChar c ≠ 'c') (o : Opening)
    (after : List Char) : FirstOpening before o after := by
  rintro front back rfl hne other rest
  obtain ⟨c, back, rfl⟩ := List.exists_cons_of_ne_nil hne
  exact not_opening_of_fold (h c (List.mem_append_right _ List.mem_cons_self))

/-! ## The name behind the condition -/

/-- A name stands at the beginning of a text, blanks apart. -/
def NamedAt (cs name : List Char) : Prop :=
  ∃ (g : Gap) (q : QuotedName) (rest : List Char), q.name.letters = name ∧
    cs = g.chars ++ (q.text ++ rest) ∧ (q.quote = .none → Outside isWord rest)

theorem namedAt_iff {cs name : List Char} :
    NamedAt cs name ↔ ∃ rest, quotedWord? (blanks cs) = some (name, rest) := by
  constructor
  · rintro ⟨g, q, rest, hname, rfl, hout⟩
    rw [blanks_eq_iff.mpr ⟨⟨g, rfl⟩, q.outside_blank rest⟩]
    exact ⟨rest, quotedWord?_eq_some_iff.mpr ⟨q, hname, rfl, hout⟩⟩
  · rintro ⟨rest, h⟩
    obtain ⟨q, hname, hsplit, hout⟩ := quotedWord?_eq_some_iff.mp h
    obtain ⟨⟨g, hg⟩, -⟩ := blanks_eq_iff.mp (rfl : blanks cs = _)
    exact ⟨g, q, rest, hname, by rw [← hsplit, ← hg], hout⟩

/-- The first word of the condition is a name as well. -/
theorem quotedWord?_condition (c : Condition) (rest : List Char) :
    ∃ behind, quotedWord? (c.text ++ rest) = some (c.ifWord.keyword.letters, behind) := by
  obtain ⟨d, letters, hletters, -⟩ := c.ifWord.keyword.exists_cons rfl
  have hfilled : c.ifWord.keyword.letters ≠ [] := by
    rw [hletters]
    exact List.cons_ne_nil _ _
  refine ⟨c.ifWord.space.chars ++ (c.notWord.text ++ (c.existsWord.text ++ rest)),
    quotedWord?_eq_some_iff.mpr ⟨⟨.none, ⟨_, hfilled, c.ifWord.keyword.word (by decide)⟩⟩, rfl, ?_,
      fun _ => c.ifWord.space.outside (fun _ => isWord_of_isBlank) _⟩⟩
  simp [Condition.text, Spaced.text, QuotedName.text, Quote.text]

/-- Behind the first `CREATE TABLE` and `IF NOT EXISTS` the name that stands there is read, and if none
does, the word `IF`. -/
theorem tableName_condition_iff {before after name : List Char} {o : Opening} {c : Condition}
    (h : FirstOpening before o (c.text ++ after)) :
    tableName (before ++ (o.text ++ (c.text ++ after))) = .ok name ↔
      NamedAt after name ∨ (∀ other, ¬NamedAt after other) ∧ name = c.ifWord.keyword.letters := by
  have hcondition : Outside isBlank (c.text ++ after) := by
    unfold Condition.text
    simp only [List.append_assoc]
    exact c.ifWord.outside rfl (by decide) (fun _ => isBlank_of_isWord) _
  obtain ⟨behind, hword⟩ := quotedWord?_condition c after
  have hhead : tableHead? (o.text ++ (c.text ++ after)) =
      (quotedWord? (blanks after)).or (some (c.ifWord.keyword.letters, behind)) := by
    rw [tableHead?_opening o hcondition, ifNotExists?_append, hword, Option.bind_some]
  unfold tableName
  rw [firstTable?_skip h]
  simp only [namedAt_iff]
  cases hread : quotedWord? (blanks after) with
  | some found =>
    rw [hread, Option.some_or] at hhead
    rw [firstTable?_of_tableHead? (show _ = some (found.1, found.2) from hhead)]
    constructor
    · intro heq
      exact .inl ⟨found.2, by rw [← Except.ok.inj heq]⟩
    · rintro (⟨rest, heq⟩ | ⟨hnone, -⟩)
      · rw [Option.some.inj heq]
      · exact absurd rfl (not_exists.mp (hnone found.1) found.2)
  | none =>
    rw [hread, Option.none_or] at hhead
    rw [firstTable?_of_tableHead? hhead]
    constructor
    · intro heq
      exact .inr ⟨by simp, (Except.ok.inj heq).symm⟩
    · rintro (⟨rest, heq⟩ | ⟨-, rfl⟩)
      · cases heq
      · rfl

theorem spelled_table : "TABLE".toList.map foldChar = "TABLE".toList.map Char.toLower := by decide

/-- The words `CREATE TABLE` with single spaces. -/
def plainOpening : Opening :=
  ⟨⟨⟨"CREATE".toList, by decide⟩, oneSpace⟩, ⟨⟨"TABLE".toList, spelled_table⟩, oneSpace⟩⟩

/-- The words `IF NOT EXISTS` with single spaces. -/
def plainCondition : Condition :=
  ⟨⟨⟨"IF".toList, by decide⟩, oneSpace⟩, ⟨⟨"NOT".toList, by decide⟩, oneSpace⟩,
    ⟨⟨"EXISTS".toList, by decide⟩, oneSpace⟩⟩

/-- A quoted name of word characters is read. -/
theorem quoted_name_read :
    FirstOpening "-- all of them\n".toList plainOpening
        (plainCondition.text ++ " `orders` (\n  id INT\n);".toList) ∧
      tableName ("-- all of them\n".toList ++ (plainOpening.text ++
        (plainCondition.text ++ " `orders` (\n  id INT\n);".toList))) = .ok "orders".toList := by
  have hfold : ∀ c ∈ "-- all of them\n".toList, foldChar c ≠ 'c' := forall_mem_of_all (by decide)
  have hfirst := firstOpening_of_fold hfold plainOpening
    (plainCondition.text ++ " `orders` (\n  id INT\n);".toList)
  have hnamed : NamedAt " `orders` (\n  id INT\n);".toList "orders".toList :=
    ⟨oneSpace.toGap, ⟨.backtick, ⟨"orders".toList, by decide, forall_mem_of_all (by decide)⟩⟩,
      " (\n  id INT\n);".toList, rfl, by decide, fun h => by cases h⟩
  exact ⟨hfirst, (tableName_condition_iff hfirst).mpr (.inl hnamed)⟩

/-- Behind the only `CREATE TABLE` of a text a quoted name stands that is not a word, and the word `IF` is
read as the name. -/
theorem condition_taken_for_name :
    ∃ (o : Opening) (c : Condition) (after : List Char),
      o.text ++ (c.text ++ after) =
        "CREATE TABLE IF NOT EXISTS `my-table` (\n  id INT\n);".toList ∧
      (∀ (front : List Char) (other : Opening) (rest : List Char),
        c.text ++ after ≠ front ++ (other.text ++ rest)) ∧
      (∀ name, ¬NamedAt after name) ∧ c.ifWord.keyword.letters = "IF".toList ∧
      tableName "CREATE TABLE IF NOT EXISTS `my-table` (\n  id INT\n);".toList = .ok "IF".toList := by
  refine ⟨plainOpening, plainCondition, "`my-table` (\n  id INT\n);".toList, by decide, ?_, ?_, rfl,
    by decide⟩
  · intro front other rest heq
    have hfold : ∀ c ∈ plainCondition.text ++ "`my-table` (\n  id INT\n);".toList, foldChar c ≠ 'c' :=
      forall_mem_of_all (by decide)
    obtain ⟨c, letters, hletters, hc, -⟩ := other.create.keyword.exists_cons rfl
    refine hfold c ?_ hc
    rw [heq]
    unfold Opening.text Spaced.text
    rw [hletters]
    simp
  · intro name hname
    obtain ⟨rest, hread⟩ := namedAt_iff.mp hname
    have hnone : quotedWord? (blanks "`my-table` (\n  id INT\n);".toList) = none := by decide
    rw [hnone] at hread
    cases hread

/-! ## What stands behind a parenthesis -/

/-- No parenthesis is read: a reader finds the same whether the text ends before one or not, and `extend`
puts what follows behind what is left. -/
def Stops {α : Type} (extend : List Char → α → α) (read? : List Char → Option α) : Prop :=
  ∀ part behind, read? (part ++ '(' :: behind) = (read? part).map (extend ('(' :: behind))

/-- More text behind what is left of a text. -/
def behindRest (behind rest : List Char) : List Char := rest ++ behind

/-- More text behind what is left of a text from which a word was read. -/
def behindWord (behind : List Char) (found : List Char × List Char) : List Char × List Char :=
  (found.1, found.2 ++ behind)

theorem stops_iff {α : Type} {extend : List Char → α → α} {read? : List Char → Option α} :
    Stops extend read? ↔
      ∀ behind, Follows (behindRest ('(' :: behind)) (extend ('(' :: behind)) read? :=
  forall_comm

theorem Stops.bind {α : Type} {extend : List Char → α → α} {first? : List Char → Option (List Char)}
    {second? : List Char → Option α} (hfirst : Stops behindRest first?) (hsecond : Stops extend second?) :
    Stops extend fun cs => (first? cs).bind second? :=
  stops_iff.mpr fun behind => (stops_iff.mp hfirst behind).bind (stops_iff.mp hsecond behind)

theorem Stops.or {α : Type} {extend : List Char → α → α} {first? second? : List Char → Option α}
    (hfirst : Stops extend first?) (hsecond : Stops extend second?) :
    Stops extend fun cs => (first? cs).or (second? cs) :=
  stops_iff.mpr fun behind => (stops_iff.mp hfirst behind).or (stops_iff.mp hsecond behind)

theorem keyword?_stops {ks : List Char} (h : '(' ∉ ks.map Char.toLower) :
    Stops behindRest (keyword? ks) := by
  intro part behind
  induction ks generalizing part with
  | nil => rfl
  | cons k ks ih =>
    rw [List.map_cons, List.mem_cons, not_or] at h
    cases part with
    | nil => exact if_neg (show foldChar '(' ≠ k.toLower from h.1)
    | cons c part =>
      rw [List.cons_append, keyword?, keyword?]
      split
      · exact ih h.2 part
      · rfl

theorem keyword_stops {k : String} (h : '(' ∉ k.toList.map Char.toLower) :
    Stops behindRest (keyword k) := keyword?_stops h

theorem blanks1?_stops : Stops behindRest blanks1? := by
  intro part behind
  cases part with
  | nil => rfl
  | cons c part =>
    rw [List.cons_append, blanks1?, blanks1?]
    split
    · exact congrArg some (dropWhile_append_cons part (sign_outside '(' (by simp)).1 behind)
    · rfl

theorem word?_stops : Stops behindWord word? := by
  intro part behind
  unfold word? splitWord
  rw [List.span_eq_takeWhile_dropWhile, List.span_eq_takeWhile_dropWhile,
    takeWhile_append_outside part (outside_cons.mpr (sign_outside '(' (by simp)).2),
    dropWhile_append_cons part (sign_outside '(' (by simp)).2]
  cases part.takeWhile isWord <;> rfl

theorem char?_stops {c : Char} (hc : c ≠ '(') : Stops behindRest (char? c) := by
  intro part behind
  cases part with
  | nil => exact if_neg fun h => hc h.symm
  | cons d part =>
    rw [List.cons_append, char?, char?]
    split <;> rfl

theorem quotedWord?_stops : Stops behindWord quotedWord? := by
  intro part behind
  cases part with
  | nil => rfl
  | cons c part =>
    rw [List.cons_append, quotedWord?, quotedWord?]
    split
    · rename_i hc
      have hquote : c ≠ '(' := by rcases hc with rfl | rfl <;> decide
      rw [word?_stops part behind]
      cases word? part with
      | none => rfl
      | some found =>
        simp only [Option.map_some, Option.bind_eq_bind, Option.bind_some, behindWord,
          char?_stops hquote found.2 behind]
        cases char? c found.2 <;> rfl
    · exact word?_stops (c :: part) behind

theorem ifNotExists?_stops : Stops behindRest ifNotExists? :=
  (keyword_stops (by decide)).bind (blanks1?_stops.bind ((keyword_stops (by decide)).bind
    (blanks1?_stops.bind ((keyword_stops (by decide)).bind blanks1?_stops))))

theorem tableHead?_stops : Stops behindWord tableHead? := by
  have hname : Stops behindWord fun cs => ((ifNotExists? cs).bind quotedWord?).or (quotedWord? cs) :=
    (ifNotExists?_stops.bind quotedWord?_stops).or quotedWord?_stops
  have hhead := (keyword_stops (k := "CREATE") (by decide)).bind (blanks1?_stops.bind
    ((keyword_stops (k := "TABLE") (by decide)).bind (blanks1?_stops.bind hname)))
  intro part behind
  simpa only [tableHead?, Option.bind_eq_bind, Option.orElse_eq_orElse, Option.orElse_eq_or] using
    hhead part behind

/-- The first head of a text that is cut at a parenthesis lies before the cut or behind it. -/
theorem firstTable?_paren (part behind : List Char) :
    firstTable? (part ++ '(' :: behind) =
      ((firstTable? part).map (behindWord ('(' :: behind))).or (firstTable? ('(' :: behind)) := by
  induction part with
  | nil => rfl
  | cons c part ih =>
    rw [List.cons_append, firstTable?_cons, ← List.cons_append, tableHead?_stops, ih,
      firstTable?_cons c part]
    cases tableHead? (c :: part) <;> rfl

/-- What is left behind the first head is shorter than the text. -/
theorem exists_before_firstTable? {cs name rest : List Char} (h : firstTable? cs = some (name, rest)) :
    ∃ before, before ≠ [] ∧ cs = before ++ rest := by
  obtain ⟨front, here, rfl, hhere, -⟩ := firstTable?_eq_some_iff.mp h
  obtain ⟨o, between, rfl⟩ := hhere.exists_opening
  obtain ⟨d, letters, hletters, -⟩ := o.create.keyword.exists_cons rfl
  refine ⟨front ++ (o.text ++ between), ?_, by simp⟩
  unfold Opening.text Spaced.text
  rw [hletters]
  simp

/-- The first head of a text with a parenthesis behind it is the first head of every longer text. -/
theorem firstTable?_append {cs name rest : List Char} (h : firstTable? cs = some (name, rest))
    (hopen : '(' ∈ rest) (more : List Char) :
    firstTable? (cs ++ more) = some (name, rest ++ more) := by
  obtain ⟨between, block, rfl⟩ := List.append_of_mem hopen
  obtain ⟨before, -, rfl⟩ := exists_before_firstTable? h
  rw [← List.append_assoc, firstTable?_paren] at h
  rcases Option.or_eq_some_iff.mp h with hpart | ⟨-, hbehind⟩
  · have hsplit : before ++ (between ++ '(' :: block) ++ more =
        before ++ between ++ '(' :: (block ++ more) := by simp
    obtain ⟨⟨name', rest'⟩, hfirst, hfound⟩ := Option.map_eq_some_iff.mp hpart
    obtain ⟨rfl, hrest⟩ := Prod.mk.inj hfound
    obtain rfl := List.append_cancel_right hrest
    rw [hsplit, firstTable?_paren, hfirst, Option.map_some, Option.some_or]
    simp [behindWord]
  · -- the rest of a head behind the parenthesis would not hold it
    obtain ⟨front, hne, heq⟩ := exists_before_firstTable? hbehind
    have hlength := congrArg List.length heq
    have hfront : 0 < front.length := List.length_pos_iff.mpr hne
    simp only [List.length_append, List.length_cons] at hlength
    omega

/-! ## The column block -/

theorem afterFirst?_eq_some_iff {c : Char} {cs after : List Char} :
    afterFirst? c cs = some after ↔ ∃ before, c ∉ before ∧ cs = before ++ c :: after := by
  induction cs with
  | nil => simp [afterFirst?]
  | cons d cs ih =>
    rw [afterFirst?]
    constructor
    · intro h
      split at h
      · rename_i hd
        rw [← Option.some.inj h, hd]
        exact ⟨[], by simp, rfl⟩
      · rename_i hd
        obtain ⟨before, hbefore, rfl⟩ := ih.mp h
        exact ⟨d :: before, by simp [Ne.symm hd, hbefore], rfl⟩
    · rintro ⟨before, hbefore, heq⟩
      cases before with
      | nil =>
        obtain ⟨rfl, rfl⟩ := List.cons_eq_cons.mp heq
        exact if_pos rfl
      | cons e before =>
        obtain ⟨rfl, hrest⟩ := List.cons_eq_cons.mp heq
        rw [List.mem_cons, not_or] at hbefore
        rw [if_neg (Ne.symm hbefore.1)]
        exact ih.mpr ⟨before, hbefore.2, hrest⟩

theorem beforeLast?_eq_none_iff {c : Char} {cs : List Char} : beforeLast? c cs = none ↔ c ∉ cs := by
  induction cs with
  | nil => simp [beforeLast?]
  | cons d cs ih =>
    rw [beforeLast?, List.mem_cons, not_or, ← ih]
    cases beforeLast? c cs with
    | some before => simp
    | none => simp [eq_comm]

theorem beforeLast?_eq_some_iff {c : Char} {cs before : List Char} :
    beforeLast? c cs = some before ↔ ∃ after, c ∉ after ∧ cs = before ++ c :: after := by
  induction cs generalizing before with
  | nil => simp [beforeLast?]
  | cons d cs ih =>
    rw [beforeLast?]
    cases hlast : beforeLast? c cs with
    | some front =>
      obtain ⟨after, hafter, rfl⟩ := ih.mp hlast
      constructor
      · intro h
        rw [← Option.some.inj h]
        exact ⟨after, hafter, rfl⟩
      · rintro ⟨other, hother, heq⟩
        cases before with
        | nil =>
          obtain ⟨-, hrest⟩ := List.cons_eq_cons.mp heq
          exact absurd (by rw [← hrest]; simp) hother
        | cons e before =>
          obtain ⟨rfl, hrest⟩ := List.cons_eq_cons.mp heq
          have hbefore := ih.mpr ⟨other, hother, hrest⟩
          rw [hlast] at hbefore
          rw [Option.some.inj hbefore]
    | none =>
      dsimp only
      have hnone := beforeLast?_eq_none_iff.mp hlast
      constructor
      · intro h
        split at h
        · rename_i hd
          rw [← Option.some.inj h, hd]
          exact ⟨cs, hnone, rfl⟩
        · cases h
      · rintro ⟨after, hafter, heq⟩
        cases before with
        | nil => exact if_pos (List.cons_eq_cons.mp heq).1
        | cons e before =>
          obtain ⟨-, hrest⟩ := List.cons_eq_cons.mp heq
          exact absurd (by rw [hrest]; simp) hnone

/-- The block begins at the first parenthesis behind the name and ends at the last one. -/
theorem columnBlock_eq_ok_iff {cs block : List Char} :
    columnBlock cs = .ok block ↔ ∃ name between tail,
      firstTable? cs = some (name, between ++ '(' :: (block ++ ')' :: tail)) ∧ '(' ∉ between ∧
        ')' ∉ tail := by
  constructor
  · intro h
    unfold columnBlock at h
    split at h
    · cases h
    · rename_i name rest hfirst
      split at h
      · cases h
      · rename_i inner hopen
        split at h
        · cases h
        · rename_i found hclose
          obtain rfl := Except.ok.inj h
          obtain ⟨between, hbetween, rfl⟩ := afterFirst?_eq_some_iff.mp hopen
          obtain ⟨tail, htail, rfl⟩ := beforeLast?_eq_some_iff.mp hclose
          exact ⟨name, between, tail, hfirst, hbetween, htail⟩
  · rintro ⟨name, between, tail, hfirst, hbetween, htail⟩
    have hopen : afterFirst? '(' (between ++ '(' :: (block ++ ')' :: tail)) = some (block ++ ')' :: tail) :=
      afterFirst?_eq_some_iff.mpr ⟨between, hbetween, rfl⟩
    have hclose : beforeLast? ')' (block ++ ')' :: tail) = some block :=
      beforeLast?_eq_some_iff.mpr ⟨tail, htail, rfl⟩
    unfold columnBlock
    simp only [hfirst, hopen, hclose]

/-- Where the head of a table is given, the block is what stands between its parentheses. -/
theorem columnBlock_append {head name between block tail : List Char}
    (hhead : firstTable? head = some (name, between)) (hopen : '(' ∉ between) (hclose : ')' ∉ tail) :
    columnBlock (head ++ '(' :: (block ++ ')' :: tail)) = .ok block := by
  refine columnBlock_eq_ok_iff.mpr ⟨name, between, tail, ?_, hopen, hclose⟩
  rw [firstTable?_paren, hhead, Option.map_some, Option.some_or]
  rfl

end Scaffold.Schema
