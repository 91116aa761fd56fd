import Scaffold.Proofs.Schema.Heads
import Scaffold.Proofs.Text.Lines
import Scaffold.Schema.Reader

/-!
# The written form of a schema

A schema is printed as the head of its table statement, one definition a line, and a tail. Everything
that a writer may choose is part of the form: letter case, blanks, quotes, the kind and order of the
definitions, and the text behind what is read of each.

* `Definition`: a column, a constraint, or a foreign key, with or without the name of its constraint.
* `Layout`: a whole schema; `Layout.text` is its text, `columns` and `foreignKeys` what it declares.
* `Layout.normaliseNewlines_text`: a text with other line ends is the text of another layout.
-/
namespace Scaffold.Schema

open Text

/-! ## Definitions -/

/-- Whether letters spell a keyword of ASCII letters in some case. -/
def Cased (k : String) (letters : List Char) : Prop := letters.map Char.toUpper = k.toList

instance (k : String) (letters : List Char) : Decidable (Cased k letters) :=
  inferInstanceAs (Decidable (_ = _))

/-- A column: its name, bare or in backticks, a blank, and any text. A bare name is not taken for the
beginning of a constraint. -/
structure ColumnLine where
  ticked : Bool
  name : Name
  more : List Char
  spaced : ∃ c type, more = c :: type ∧ isBlank c = true
  bare : ticked = false → ∀ head ∈ constraintHeads, ¬head.toList <+: upper (name.letters ++ more)
  keyless : HeadFree (tick ticked ++ name.letters ++ tick ticked ++ more)

/-- The heads of constraints that declare no foreign key. -/
def indexHeads : List String := ["PRIMARY KEY", "UNIQUE KEY", "KEY", "INDEX"]

/-- A key or an index: its head and any text. -/
structure IndexLine where
  head : String
  known : head ∈ indexHeads
  letters : List Char
  cased : Cased head letters
  more : List Char
  keyless : HeadFree (letters ++ more)

/-- A foreign key: the name of its constraint if it has one, its clause, and any text. -/
structure ForeignKeyLine where
  constraint : Option ConstraintName
  clause : Clause
  more : List Char
  named : ∀ p, constraint = some p → Cased "CONSTRAINT" p.constraint.letters
  unnamed : constraint = none → Cased "FOREIGN KEY" clause.head.text
  keyless : HeadFree more

/-- What a line of the column block declares. -/
inductive Definition where
  | column (line : ColumnLine)
  | index (line : IndexLine)
  | foreignKey (line : ForeignKeyLine)

/-- The beginning of a definition, by which its kind is told. -/
def Definition.start : Definition → List Char
  | .column l => tick l.ticked ++ l.name.letters ++ tick l.ticked
  | .index l => l.letters
  | .foreignKey l =>
    match l.constraint with
    | some p => p.constraint.letters
    | none => l.clause.head.text

/-- What follows the beginning of a definition. -/
def Definition.more : Definition → List Char
  | .column l => l.more
  | .index l => l.more
  | .foreignKey l =>
    match l.constraint with
    | some p => p.constraintSpace.chars ++ p.name.text ++ p.nameSpace.chars ++ l.clause.text ++ l.more
    | none => l.clause.target ++ l.more

/-- The text of a definition. -/
def Definition.text (d : Definition) : List Char := d.start ++ d.more

/-- The name of the column that is declared, if one is. -/
def Definition.column? : Definition → Option (List Char)
  | .column l => some l.name.letters
  | .index _ | .foreignKey _ => none

/-- The foreign key that is declared, if one is. -/
def Definition.foreignKey? : Definition → Option ForeignKey
  | .foreignKey l => some l.clause.foreignKey
  | .column _ | .index _ => none

/-- A definition on a line of its own, with blanks before it. -/
structure Line where
  lead : Gap
  definition : Definition
  oneLine : ∀ c ∈ lead.chars ++ definition.text, c ≠ '\n' ∧ c ≠ '\r'

/-- The text of a line. -/
def Line.text (l : Line) : List Char := l.lead.chars ++ l.definition.text

/-- A comma that ends a line, and the next line. -/
structure NextLine where
  gap : List Char
  inline : ∀ c ∈ gap, isInlineBlank c = true
  line : Line

/-- The text of a further line with the comma before it. -/
def NextLine.text (n : NextLine) : List Char := [','] ++ n.gap ++ ['\n'] ++ n.line.text

/-! ## Schemas -/

/-- A keyword and the blanks behind it. -/
structure Spaced (k : String) where
  keyword : Spelling k
  space : Space

/-- The text of a keyword and the blanks behind it. -/
def Spaced.text {k : String} (s : Spaced k) : List Char := s.keyword.letters ++ s.space.chars

/-- The words `IF NOT EXISTS`. -/
structure Condition where
  ifWord : Spaced "IF"
  notWord : Spaced "NOT"
  existsWord : Spaced "EXISTS"

/-- The text of the condition. -/
def Condition.text (c : Condition) : List Char :=
  c.ifWord.text ++ c.notWord.text ++ c.existsWord.text

/-- The signs a table name may stand in. -/
inductive Quote where
  | none
  | backtick
  | double

/-- The text of a quote. -/
def Quote.text : Quote → List Char
  | .none => []
  | .backtick => ['`']
  | .double => ['"']

/-- A name in quotes, or bare. -/
structure QuotedName where
  quote : Quote
  name : Name

/-- The text of a name with its quotes. -/
def QuotedName.text (q : QuotedName) : List Char := q.quote.text ++ q.name.letters ++ q.quote.text

/-- A printed schema. -/
structure Layout where
  create : Spaced "CREATE"
  table : Spaced "TABLE"
  condition : Option Condition
  quote : Quote
  name : Name
  first : Line
  others : List NextLine
  tail : List Char
  closed : ')' ∉ tail

/-- The text of the condition if there is one. -/
def conditionText (condition : Option Condition) : List Char :=
  match condition with
  | some c => c.text
  | none => []

/-- The text of the table name. -/
def Layout.nameText (l : Layout) : List Char := l.quote.text ++ l.name.letters ++ l.quote.text

/-- The text of the definitions. -/
def Layout.body (l : Layout) : List Char := l.first.text ++ l.others.flatMap NextLine.text

/-- What stands behind the table name. -/
def Layout.behindName (l : Layout) : List Char :=
  [' ', '(', '\n'] ++ (l.body ++ (['\n', ')'] ++ l.tail))

/-- The text of a schema. -/
def Layout.text (l : Layout) : List Char :=
  l.create.text ++ (l.table.text ++ (conditionText l.condition ++ (l.nameText ++ l.behindName)))

/-- The definitions of a schema in their order. -/
def Layout.definitions (l : Layout) : List Definition :=
  l.first.definition :: l.others.map fun n => n.line.definition

/-- The names of the columns that a schema declares. -/
def Layout.columns (l : Layout) : List (List Char) := l.definitions.filterMap Definition.column?

/-- The foreign keys that a schema declares. -/
def Layout.foreignKeys (l : Layout) : List ForeignKey :=
  l.definitions.filterMap Definition.foreignKey?

/-! ## Other line ends -/

theorem mem_lineText {l : Line} {c : Char} (h : c ∈ l.text) : c ≠ '\n' ∧ c ≠ '\r' := l.oneLine c h

theorem not_return_of_isWord {letters : List Char} (h : ∀ c ∈ letters, isWord c = true) :
    '\r' ∉ letters := fun hmem => by
  have hc := h '\r' hmem
  revert hc
  decide

theorem not_newline_of_isWord {c : Char} (h : isWord c = true) : (c == '\n') = false := by
  have hne : c ≠ '\n' := by rintro rfl; revert h; decide
  simpa using hne

/-- The blanks with their line ends normalised. -/
def Space.normalised (s : Space) : Space where
  chars := normaliseNewlines s.chars
  blank := fun c hc => by
    rcases mem_normaliseNewlines hc with rfl | hc
    · decide
    · exact s.blank c hc
  filled := normaliseNewlines_ne_nil s.filled

/-- The keyword with the line ends behind it normalised. -/
def Spaced.normalised {k : String} (s : Spaced k) : Spaced k := ⟨s.keyword, s.space.normalised⟩

theorem Spaced.normaliseNewlines_text {k : String}
    (hlower : (k.toList.map Char.toLower).all Char.isLower = true) (s : Spaced k) {rest : List Char}
    (h : Outside (· == '\n') rest) :
    normaliseNewlines (s.text ++ rest) = s.normalised.text ++ normaliseNewlines rest := by
  unfold Spaced.text
  rw [List.append_assoc, normaliseNewlines_run (not_return_of_isWord (s.keyword.word hlower)),
    normaliseNewlines_append _ h, ← List.append_assoc]
  rfl

theorem Spaced.outside {k : String} {p : Char → Bool} {first : Char} {more : List Char}
    (hk : k.toList.map Char.toLower = first :: more) (hlower : first.isLower = true)
    (hp : ∀ c, isWord c = true → p c = false) (s : Spaced k) (rest : List Char) :
    Outside p (s.text ++ rest) := by
  unfold Spaced.text
  rw [List.append_assoc]
  exact s.keyword.outside hk hlower hp _

/-- The condition with its line ends normalised. -/
def Condition.normalised (c : Condition) : Condition :=
  ⟨c.ifWord.normalised, c.notWord.normalised, c.existsWord.normalised⟩

theorem conditionText_outside {p : Char → Bool} (hp : ∀ c, isWord c = true → p c = false)
    (condition : Option Condition) {rest : List Char} (h : Outside p rest) :
    Outside p (conditionText condition ++ rest) := by
  cases condition with
  | none => exact h
  | some c =>
    unfold conditionText Condition.text
    simp only [List.append_assoc]
    exact c.ifWord.outside rfl (by decide) hp _

theorem normaliseNewlines_conditionText (condition : Option Condition) {rest : List Char}
    (h : Outside (· == '\n') rest) :
    normaliseNewlines (conditionText condition ++ rest) =
      conditionText (condition.map Condition.normalised) ++ normaliseNewlines rest := by
  cases condition with
  | none => rfl
  | some c =>
    have hnot := c.notWord.outside rfl (by decide) (fun _ => not_newline_of_isWord)
      (c.existsWord.text ++ rest)
    have hexists := c.existsWord.outside rfl (by decide) (fun _ => not_newline_of_isWord) rest
    simp only [conditionText, Option.map_some, Condition.text, Condition.normalised,
      List.append_assoc]
    rw [c.ifWord.normaliseNewlines_text (by decide) hnot,
      c.notWord.normaliseNewlines_text (by decide) hexists,
      c.existsWord.normaliseNewlines_text (by decide) h]

/-- A name in quotes begins with a word or a quote. -/
theorem QuotedName.outside {p : Char → Bool} (hp : ∀ c, isWord c = true → p c = false)
    (htick : p '`' = false) (hdouble : p '"' = false) (q : QuotedName) (rest : List Char) :
    Outside p (q.text ++ rest) := by
  obtain ⟨quote, name⟩ := q
  cases quote with
  | none =>
    unfold QuotedName.text
    simp only [Quote.text, List.nil_append, List.append_nil]
    exact name.outside hp rest
  | backtick => exact htick
  | double => exact hdouble

theorem Layout.nameText_outside {p : Char → Bool} (hp : ∀ c, isWord c = true → p c = false)
    (htick : p '`' = false) (hdouble : p '"' = false) (l : Layout) (rest : List Char) :
    Outside p (l.nameText ++ rest) :=
  QuotedName.outside hp htick hdouble ⟨l.quote, l.name⟩ rest

theorem NextLine.mem_text {n : NextLine} {c : Char} (h : c ∈ n.text) : c ≠ '\r' := by
  unfold NextLine.text at h
  simp only [List.mem_append, List.mem_singleton] at h
  rcases h with ((rfl | h) | rfl) | h
  · decide
  · rintro rfl
    have hinline := n.inline _ h
    revert hinline
    decide
  · decide
  · exact (mem_lineText h).2

theorem Layout.not_return_mem_body (l : Layout) : '\r' ∉ l.body := by
  unfold Layout.body
  rw [List.mem_append, List.mem_flatMap]
  rintro (h | ⟨n, -, h⟩)
  · exact (mem_lineText h).2 rfl
  · exact n.mem_text h rfl

theorem Layout.not_return_mem_nameText (l : Layout) : '\r' ∉ l.nameText := by
  have hquote : ∀ q : Quote, '\r' ∉ q.text := by rintro (_ | _ | _) <;> decide
  unfold Layout.nameText
  simp only [List.mem_append, not_or]
  exact ⟨⟨hquote l.quote, not_return_of_isWord l.name.word⟩, hquote l.quote⟩

/-- The schema with its line ends normalised; the definitions hold none. -/
def Layout.normalised (l : Layout) : Layout :=
  { l with
    create := l.create.normalised
    table := l.table.normalised
    condition := l.condition.map Condition.normalised
    tail := normaliseNewlines l.tail
    closed := fun h => by
      rcases mem_normaliseNewlines h with h | h
      · revert h; decide
      · exact l.closed h }

/-- A text with other line ends is the text of another layout. -/
theorem Layout.normaliseNewlines_text (l : Layout) :
    normaliseNewlines l.text = l.normalised.text := by
  have hname : Outside (· == '\n') (l.nameText ++ l.behindName) :=
    l.nameText_outside (fun _ => not_newline_of_isWord) rfl rfl l.behindName
  have hcondition := conditionText_outside (fun _ => not_newline_of_isWord) l.condition hname
  have htable := l.table.outside rfl (by decide) (fun _ => not_newline_of_isWord)
    (conditionText l.condition ++ (l.nameText ++ l.behindName))
  have hbehind : normaliseNewlines l.behindName = l.normalised.behindName := by
    unfold Layout.behindName
    rw [normaliseNewlines_run (by decide), normaliseNewlines_run l.not_return_mem_body,
      normaliseNewlines_run (by decide)]
    rfl
  unfold Layout.text
  rw [l.create.normaliseNewlines_text (by decide) htable,
    l.table.normaliseNewlines_text (by decide) hcondition, normaliseNewlines_conditionText _ hname,
    normaliseNewlines_run l.not_return_mem_nameText, hbehind]
  rfl

end Scaffold.Schema
