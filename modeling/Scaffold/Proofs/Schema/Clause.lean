import Scaffold.Proofs.Text.Classes
import Scaffold.Schema.Scan

/-!
# The written form of a foreign key

A foreign-key clause is written with keywords in any case, blanks of any kind, and names with or
without backticks. `Clause` is such a written form; reading finds a clause exactly where one is
written, and stops right behind its last parenthesis.

* `tickedWord?_eq_some_iff`, `parenthesised?_eq_some_iff`: the same of the parts of a clause.
* `bareForeignKey?_eq_some_iff`: a clause is read off a text exactly if the text begins with one.
* `constraintName?_eq_some_iff`: what stands before a clause that has a name.
-/
namespace Scaffold.Schema

open Text

/-! ## Parts of a clause -/

/-- Letters that spell a keyword when case is ignored. -/
structure Spelling (k : String) where
  letters : List Char
  spelled : letters.map foldChar = k.toList.map Char.toLower

/-- A run of blanks, possibly of none. -/
structure Gap where
  chars : List Char
  blank : ∀ c ∈ chars, isBlank c = true

/-- A run of at least one blank. -/
structure Space extends Gap where
  filled : chars ≠ []

/-- One space. -/
def oneSpace : Space := ⟨⟨[' '], forall_mem_of_all (by decide)⟩, by decide⟩

/-- A name: a word of at least one character. -/
structure Name where
  letters : List Char
  filled : letters ≠ []
  word : ∀ c ∈ letters, isWord c = true

/-- A backtick, or nothing. -/
def tick (written : Bool) : List Char := if written then ['`'] else []

/-- A name with a backtick or none on either side. -/
structure Ticked where
  left : Bool
  name : Name
  right : Bool

/-- The text of a name with its backticks. -/
def Ticked.text (t : Ticked) : List Char := tick t.left ++ t.name.letters ++ tick t.right

/-- A name in parentheses. -/
structure Bracketed where
  before : Gap
  ticked : Ticked
  behind : Gap

/-- The text of a name in parentheses. -/
def Bracketed.text (b : Bracketed) : List Char :=
  ['('] ++ b.before.chars ++ b.ticked.text ++ b.behind.chars ++ [')']

/-- The first two words of a clause. -/
structure Head where
  foreign : Spelling "FOREIGN"
  space : Space
  key : Spelling "KEY"

/-- The text of the first two words. -/
def Head.text (h : Head) : List Char := h.foreign.letters ++ h.space.chars ++ h.key.letters

/-- A clause `FOREIGN KEY (column) REFERENCES table (column)`. -/
structure Clause where
  head : Head
  keyGap : Gap
  column : Bracketed
  columnGap : Gap
  references : Spelling "REFERENCES"
  referencesSpace : Space
  table : Ticked
  tableGap : Gap
  parentColumn : Bracketed

/-- The text of a clause behind its first two words. -/
def Clause.target (c : Clause) : List Char :=
  c.keyGap.chars ++ c.column.text ++ c.columnGap.chars ++ c.references.letters ++
    c.referencesSpace.chars ++ c.table.text ++ c.tableGap.chars ++ c.parentColumn.text

/-- The text of a clause. -/
def Clause.text (c : Clause) : List Char := c.head.text ++ c.target

/-- The foreign key that a clause declares. -/
def Clause.foreignKey (c : Clause) : ForeignKey where
  column := .ofList c.column.ticked.name.letters
  parentTable := .ofList c.table.name.letters
  parentColumn := .ofList c.parentColumn.ticked.name.letters

/-- The name of a constraint, written before its clause. -/
structure ConstraintName where
  constraint : Spelling "CONSTRAINT"
  constraintSpace : Space
  name : Ticked
  nameSpace : Space

/-- The text of the name of a constraint. -/
def ConstraintName.text (p : ConstraintName) : List Char :=
  p.constraint.letters ++ p.constraintSpace.chars ++ p.name.text ++ p.nameSpace.chars

/-! ## Where the parts begin and end -/

theorem Name.exists_cons (n : Name) : ∃ c rest, n.letters = c :: rest ∧ isWord c = true := by
  obtain ⟨c, rest, h⟩ := List.exists_cons_of_ne_nil n.filled
  exact ⟨c, rest, h, n.word c (by rw [h]; simp)⟩

/-- A name begins with neither a blank nor a sign. -/
theorem Name.outside {p : Char → Bool} (hp : ∀ c, isWord c = true → p c = false) (n : Name)
    (rest : List Char) : Outside p (n.letters ++ rest) := by
  obtain ⟨c, letters, h, hc⟩ := n.exists_cons
  rw [h]
  exact hp c hc

/-- The letters of a keyword one by one. -/
theorem Spelling.exists_cons {k : String} {first : Char} {more : List Char}
    (hk : k.toList.map Char.toLower = first :: more) (s : Spelling k) :
    ∃ c letters, s.letters = c :: letters ∧ foldChar c = first ∧ letters.map foldChar = more := by
  have hspelled := s.spelled
  rw [hk] at hspelled
  exact List.map_eq_cons_iff.mp hspelled

theorem Spelling.word {k : String} (hlower : (k.toList.map Char.toLower).all Char.isLower = true)
    (s : Spelling k) : ∀ c ∈ s.letters, isWord c = true := by
  intro c hc
  rw [← s.spelled, List.all_eq_true] at hlower
  exact isWord_of_foldChar (hlower _ (List.mem_map_of_mem hc))

/-- A keyword begins with neither a blank nor a sign. -/
theorem Spelling.outside {k : String} {p : Char → Bool} {first : Char} {more : List Char}
    (hk : k.toList.map Char.toLower = first :: more) (hlower : first.isLower = true)
    (hp : ∀ c, isWord c = true → p c = false) (s : Spelling k) (rest : List Char) :
    Outside p (s.letters ++ rest) := by
  obtain ⟨c, letters, h, rfl, -⟩ := s.exists_cons hk
  rw [h]
  exact hp c (isWord_of_foldChar hlower)

/-- Behind a run of blanks a text leaves a class of which no blank is, if it does so before. -/
theorem Gap.outside {p : Char → Bool} (hp : ∀ c, isBlank c = true → p c = false) (g : Gap)
    {rest : List Char} (h : Outside p rest) : Outside p (g.chars ++ rest) := by
  cases hg : g.chars with
  | nil => exact h
  | cons c chars => exact hp c (g.blank c (by rw [hg]; simp))

theorem Space.outside {p : Char → Bool} (hp : ∀ c, isBlank c = true → p c = false) (s : Space)
    (rest : List Char) : Outside p (s.chars ++ rest) := by
  obtain ⟨c, chars, h⟩ := List.exists_cons_of_ne_nil s.filled
  rw [h]
  exact hp c (s.blank c (by rw [h]; simp))

/-- The signs of a schema are neither blanks nor part of a word. -/
theorem sign_outside : ∀ c ∈ ['(', ')', '`', '"', ',', '-'], isBlank c = false ∧ isWord c = false :=
  forall_mem_of_all (by decide)

/-- Whether a character is a backtick. -/
def isTick (c : Char) : Bool := c == '`'

theorem isTick_of_isWord {c : Char} (h : isWord c = true) : isTick c = false := by
  have hne : c ≠ '`' := by rintro rfl; revert h; decide
  simpa [isTick] using hne

theorem isTick_of_isBlank {c : Char} (h : isBlank c = true) : isTick c = false := by
  have hne : c ≠ '`' := by rintro rfl; revert h; decide
  simpa [isTick] using hne

theorem Ticked.outside {p : Char → Bool} (hp : ∀ c, isWord c = true → p c = false)
    (htick : p '`' = false) (t : Ticked) (rest : List Char) : Outside p (t.text ++ rest) := by
  unfold Ticked.text tick
  cases t.left with
  | true => exact htick
  | false =>
    simp only [Bool.false_eq_true, if_false, List.nil_append, List.append_assoc]
    exact t.name.outside hp _

/-! ## Reading the parts -/

theorem word?_name (n : Name) {rest : List Char} (h : Outside isWord rest) :
    word? (n.letters ++ rest) = some (n.letters, rest) :=
  word?_eq_some_iff.mpr ⟨rfl, n.filled, n.word, h⟩

theorem keyword_eq_some_iff {k : String} {cs rest : List Char} :
    keyword k cs = some rest ↔ ∃ s : Spelling k, cs = s.letters ++ rest := by
  unfold keyword
  rw [keyword?_eq_some_iff]
  constructor
  · rintro ⟨letters, rfl, h⟩
    exact ⟨⟨letters, h⟩, rfl⟩
  · rintro ⟨s, rfl⟩
    exact ⟨s.letters, rfl, s.spelled⟩

theorem blanks_eq_iff {cs rest : List Char} :
    blanks cs = rest ↔ (∃ g : Gap, cs = g.chars ++ rest) ∧ Outside isBlank rest := by
  unfold blanks
  constructor
  · rintro rfl
    exact ⟨⟨⟨cs.takeWhile isBlank, fun c hc => List.mem_takeWhile_imp hc⟩,
      List.takeWhile_append_dropWhile.symm⟩, outside_dropWhile isBlank cs⟩
  · rintro ⟨⟨g, rfl⟩, h⟩
    exact dropWhile_run g.blank h

theorem blanks1?_eq_some_iff {cs rest : List Char} :
    blanks1? cs = some rest ↔ (∃ s : Space, cs = s.chars ++ rest) ∧ Outside isBlank rest := by
  cases cs with
  | nil => simp [blanks1?, Space.filled]
  | cons c cs =>
    simp only [blanks1?]
    constructor
    · intro h
      split at h
      · rename_i hc
        cases h
        obtain ⟨⟨g, hg⟩, hout⟩ := blanks_eq_iff.mp (rfl : blanks cs = _)
        refine ⟨⟨⟨⟨c :: g.chars, ?_⟩, by simp⟩, congrArg (c :: ·) hg⟩, hout⟩
        exact List.forall_mem_cons.mpr ⟨hc, g.blank⟩
      · cases h
    · rintro ⟨⟨s, hs⟩, hout⟩
      obtain ⟨d, chars, hchars⟩ := List.exists_cons_of_ne_nil s.filled
      have hblank := s.blank
      rw [hchars] at hs hblank
      cases hs
      obtain ⟨hd, hrest⟩ := List.forall_mem_cons.mp hblank
      rw [if_pos hd]
      exact congrArg some (dropWhile_run hrest hout)

theorem char?_eq_some_iff {c : Char} {cs rest : List Char} :
    char? c cs = some rest ↔ cs = c :: rest := by
  cases cs with
  | nil => simp [char?]
  | cons d cs =>
    unfold char?
    split
    · rename_i h; simp [h]
    · rename_i h; simp [h]

theorem optional_tick (written : Bool) {rest : List Char}
    (h : written = false → Outside isTick rest) : optional '`' (tick written ++ rest) = rest := by
  unfold optional tick
  cases written with
  | true => rfl
  | false =>
    simp only [Bool.false_eq_true, if_false, List.nil_append]
    cases rest with
    | nil => rfl
    | cons c rest =>
      have hc : c ≠ '`' := by simpa [isTick] using h rfl
      rw [char?, if_neg hc]
      rfl

theorem exists_tick (cs : List Char) :
    ∃ written, cs = tick written ++ optional '`' cs ∧
      (written = false → Outside isTick (optional '`' cs)) := by
  cases cs with
  | nil => exact ⟨false, rfl, fun _ => trivial⟩
  | cons c cs =>
    by_cases hc : c = '`'
    · subst hc
      exact ⟨true, rfl, fun h => by cases h⟩
    · have hopt : optional '`' (c :: cs) = c :: cs := by
        unfold optional
        rw [char?, if_neg hc]
        rfl
      rw [hopt]
      exact ⟨false, rfl, fun _ => by simpa [isTick] using hc⟩

/-- A name is read with the backticks that stand on either side. -/
theorem tickedWord?_eq_some_iff {cs word rest : List Char} :
    tickedWord? cs = some (word, rest) ↔ ∃ t : Ticked, t.name.letters = word ∧ cs = t.text ++ rest ∧
      (t.right = false → Outside isWord rest ∧ Outside isTick rest) := by
  unfold tickedWord?
  simp only [Option.bind_eq_bind, Option.bind_eq_some_iff, Option.pure_def, Option.some.injEq,
    Prod.mk.injEq, Prod.exists]
  constructor
  · rintro ⟨word', rest', h, rfl, rfl⟩
    obtain ⟨hsplit, hne, hword, hout⟩ := word?_eq_some_iff.mp h
    obtain ⟨left, hleft, -⟩ := exists_tick cs
    obtain ⟨right, hright, hopen⟩ := exists_tick rest'
    refine ⟨⟨left, ⟨word', hne, hword⟩, right⟩, rfl, ?_, ?_⟩
    · unfold Ticked.text
      rw [hleft, hsplit, List.append_assoc, List.append_assoc, ← hright]
    · intro hr
      subst hr
      rw [hright] at hout
      exact ⟨hout, hopen rfl⟩
  · rintro ⟨t, rfl, rfl, hopen⟩
    have hstart : optional '`' (t.text ++ rest) = t.name.letters ++ (tick t.right ++ rest) := by
      unfold Ticked.text
      rw [List.append_assoc, List.append_assoc]
      exact optional_tick t.left fun _ => t.name.outside (fun _ => isTick_of_isWord) _
    have hend : Outside isWord (tick t.right ++ rest) := by
      cases hr : t.right with
      | true => exact (sign_outside '`' (by simp)).2
      | false => exact (hopen hr).1
    rw [hstart]
    refine ⟨t.name.letters, _, word?_eq_some_iff.mpr ⟨rfl, t.name.filled, t.name.word, hend⟩, rfl, ?_⟩
    exact optional_tick t.right fun hr => (hopen hr).2

/-- A name is read off parentheses with blanks and backticks around it. -/
theorem parenthesised?_eq_some_iff {cs word rest : List Char} :
    parenthesised? cs = some (word, rest) ↔
      ∃ b : Bracketed, b.ticked.name.letters = word ∧ cs = b.text ++ rest := by
  unfold parenthesised?
  simp only [Option.bind_eq_bind, Option.bind_eq_some_iff, Option.pure_def, Option.some.injEq,
    Prod.mk.injEq, Prod.exists, char?_eq_some_iff]
  constructor
  · rintro ⟨inner, rfl, word', rest', hword, rest'', hclose, rfl, rfl⟩
    obtain ⟨⟨before, hbefore⟩, -⟩ := blanks_eq_iff.mp (rfl : blanks inner = _)
    obtain ⟨t, rfl, ht, -⟩ := tickedWord?_eq_some_iff.mp hword
    obtain ⟨⟨behind, hbehind⟩, -⟩ := blanks_eq_iff.mp (rfl : blanks rest' = _)
    refine ⟨⟨before, t, behind⟩, rfl, ?_⟩
    unfold Bracketed.text
    rw [hbefore, ht, hbehind, hclose]
    simp only [List.append_assoc, List.cons_append, List.nil_append]
  · rintro ⟨b, rfl, rfl⟩
    have hopen : blanks (b.before.chars ++ (b.ticked.text ++ (b.behind.chars ++ ')' :: rest))) =
        b.ticked.text ++ (b.behind.chars ++ ')' :: rest) :=
      blanks_eq_iff.mpr ⟨⟨b.before, rfl⟩,
        b.ticked.outside (fun _ => isBlank_of_isWord) (sign_outside '`' (by simp)).1 _⟩
    refine ⟨b.before.chars ++ (b.ticked.text ++ (b.behind.chars ++ ')' :: rest)), ?_,
      b.ticked.name.letters, b.behind.chars ++ ')' :: rest, ?_, rest, ?_, rfl, rfl⟩
    · unfold Bracketed.text
      simp only [List.append_assoc, List.cons_append, List.nil_append]
    · rw [hopen]
      refine tickedWord?_eq_some_iff.mpr ⟨b.ticked, rfl, rfl, fun _ => ⟨?_, ?_⟩⟩
      · exact b.behind.outside (fun _ => isWord_of_isBlank) (sign_outside ')' (by simp)).2
      · exact b.behind.outside (fun _ => isTick_of_isBlank) rfl
    · exact blanks_eq_iff.mpr ⟨⟨b.behind, rfl⟩, (sign_outside ')' (by simp)).1⟩

/-! ## Reading a clause -/

theorem Bracketed.outside {p : Char → Bool} (hp : p '(' = false) (b : Bracketed)
    (rest : List Char) : Outside p (b.text ++ rest) := hp

/-- A clause is read off a text exactly if the text begins with one. -/
theorem bareForeignKey?_eq_some_iff {cs rest : List Char} {fk : ForeignKey} :
    bareForeignKey? cs = some (fk, rest) ↔
      ∃ c : Clause, c.foreignKey = fk ∧ cs = c.text ++ rest := by
  unfold bareForeignKey?
  simp only [Option.bind_eq_bind, Option.bind_eq_some_iff, Option.pure_def, Option.some.injEq,
    Prod.mk.injEq, Prod.exists, keyword_eq_some_iff, parenthesised?_eq_some_iff,
    blanks1?_eq_some_iff, tickedWord?_eq_some_iff]
  constructor
  · rintro ⟨-, ⟨foreign, rfl⟩, -, ⟨⟨foreignSpace, rfl⟩, -⟩, afterKey, ⟨key, rfl⟩, -, afterColumn,
      ⟨column, rfl, hcolumn⟩, -, ⟨references, hreferences⟩, -, ⟨⟨referencesSpace, rfl⟩, -⟩, -,
      afterTable, ⟨table, rfl, rfl, -⟩, parent, behind, ⟨parentColumn, rfl, hparent⟩, rfl, rfl⟩
    obtain ⟨⟨keyGap, hkeyGap⟩, -⟩ := blanks_eq_iff.mp (rfl : blanks afterKey = _)
    obtain ⟨⟨columnGap, hcolumnGap⟩, -⟩ := blanks_eq_iff.mp (rfl : blanks afterColumn = _)
    obtain ⟨⟨tableGap, htableGap⟩, -⟩ := blanks_eq_iff.mp (rfl : blanks afterTable = _)
    refine ⟨⟨⟨foreign, foreignSpace, key⟩, keyGap, column, columnGap, references, referencesSpace,
      table, tableGap, parentColumn⟩, rfl, ?_⟩
    unfold Clause.text Clause.target Head.text
    rw [hkeyGap, hcolumn, hcolumnGap, hreferences, htableGap, hparent]
    simp only [List.append_assoc]
  · rintro ⟨c, rfl, rfl⟩
    unfold Clause.text Clause.target Head.text
    simp only [List.append_assoc]
    refine ⟨_, ⟨c.head.foreign, rfl⟩, _, ⟨⟨c.head.space, rfl⟩, ?_⟩, _, ⟨c.head.key, rfl⟩,
      c.column.ticked.name.letters,
      c.columnGap.chars ++ (c.references.letters ++ (c.referencesSpace.chars ++
        (c.table.text ++ (c.tableGap.chars ++ (c.parentColumn.text ++ rest))))),
      ⟨c.column, rfl, ?_⟩,
      c.referencesSpace.chars ++ (c.table.text ++ (c.tableGap.chars ++ (c.parentColumn.text ++ rest))),
      ⟨c.references, ?_⟩, _, ⟨⟨c.referencesSpace, rfl⟩, ?_⟩, c.table.name.letters,
      c.tableGap.chars ++ (c.parentColumn.text ++ rest), ⟨c.table, rfl, rfl, ?_⟩,
      c.parentColumn.ticked.name.letters, _, ⟨c.parentColumn, rfl, ?_⟩, rfl, rfl⟩
    · exact c.head.key.outside (by rfl) (by decide) (fun _ => isBlank_of_isWord) _
    · exact blanks_eq_iff.mpr ⟨⟨c.keyGap, rfl⟩, c.column.outside (sign_outside '(' (by simp)).1 _⟩
    · exact blanks_eq_iff.mpr ⟨⟨c.columnGap, rfl⟩,
        c.references.outside (by rfl) (by decide) (fun _ => isBlank_of_isWord) _⟩
    · exact c.table.outside (fun _ => isBlank_of_isWord) (sign_outside '`' (by simp)).1 _
    · exact fun _ => ⟨c.tableGap.outside (fun _ => isWord_of_isBlank)
          (c.parentColumn.outside (sign_outside '(' (by simp)).2 rest),
        c.tableGap.outside (fun _ => isTick_of_isBlank) (c.parentColumn.outside rfl rest)⟩
    · exact blanks_eq_iff.mpr ⟨⟨c.tableGap, rfl⟩, c.parentColumn.outside (sign_outside '(' (by simp)).1 _⟩

/-- What is read before a clause is the name of a constraint, with all the blanks behind it. -/
theorem constraintName?_eq_some_iff {cs rest : List Char} :
    constraintName? cs = some rest ↔
      (∃ p : ConstraintName, cs = p.text ++ rest) ∧ Outside isBlank rest := by
  unfold constraintName?
  simp only [Option.bind_eq_bind, Option.bind_eq_some_iff, Prod.exists, keyword_eq_some_iff,
    blanks1?_eq_some_iff, tickedWord?_eq_some_iff]
  constructor
  · rintro ⟨-, ⟨constraint, rfl⟩, -, ⟨⟨constraintSpace, rfl⟩, -⟩, -, -, ⟨name, -, rfl, -⟩,
      ⟨nameSpace, rfl⟩, hout⟩
    refine ⟨⟨⟨constraint, constraintSpace, name, nameSpace⟩, ?_⟩, hout⟩
    unfold ConstraintName.text
    simp only [List.append_assoc]
  · rintro ⟨⟨p, rfl⟩, hout⟩
    unfold ConstraintName.text
    simp only [List.append_assoc]
    refine ⟨_, ⟨p.constraint, rfl⟩, _, ⟨⟨p.constraintSpace, rfl⟩, ?_⟩, p.name.name.letters, _,
      ⟨p.name, rfl, rfl, ?_⟩, ⟨p.nameSpace, rfl⟩, hout⟩
    · exact p.name.outside (fun _ => isBlank_of_isWord) (sign_outside '`' (by simp)).1 _
    · exact fun _ => ⟨p.nameSpace.outside (fun _ => isWord_of_isBlank) _,
        p.nameSpace.outside (fun _ => isTick_of_isBlank) _⟩

/-! ## Where a clause begins and ends -/

theorem Clause.text_ne_nil (c : Clause) : c.text ≠ [] := by
  obtain ⟨first, letters, hletters, -⟩ := c.head.foreign.exists_cons rfl
  unfold Clause.text Head.text
  rw [hletters]
  exact List.cons_ne_nil _ _

/-- A clause begins with a word. -/
theorem Clause.first_word (c : Clause) {part beyond : List Char} (h : c.text = part ++ beyond)
    (hne : part ≠ []) : ∃ first rest, part = first :: rest ∧ isWord first = true := by
  obtain ⟨first, letters, hletters, -⟩ := c.head.foreign.exists_cons rfl
  obtain ⟨d, rest, rfl⟩ := List.exists_cons_of_ne_nil hne
  unfold Clause.text Head.text at h
  rw [hletters] at h
  obtain rfl : first = d := (List.cons_eq_cons.mp h).1
  exact ⟨first, rest, rfl,
    c.head.foreign.word (by decide) first (by rw [hletters]; exact List.mem_cons_self)⟩

/-- A clause ends with a parenthesis. -/
theorem Clause.paren_mem_end (c : Clause) {part beyond : List Char} (h : c.text = part ++ beyond)
    (hne : beyond ≠ []) : ')' ∈ beyond := by
  obtain ⟨front, hfront⟩ : ∃ front, c.text = front ++ [')'] := by
    unfold Clause.text Clause.target Bracketed.text
    exact ⟨_, by simp only [← List.append_assoc]; rfl⟩
  rw [hfront] at h
  rcases List.append_eq_append_iff.mp h with ⟨inner, -, hinner⟩ | ⟨left, -, rfl⟩
  · cases inner with
    | nil => rw [← List.nil_append beyond, ← hinner]; exact List.mem_singleton_self _
    | cons d inner =>
      have hnil := (List.cons_eq_cons.mp hinner).2
      exact absurd (List.append_eq_nil_iff.mp hnil.symm).2 hne
  · exact List.mem_append_right _ (List.mem_singleton_self _)

end Scaffold.Schema
