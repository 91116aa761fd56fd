import Scaffold.Proofs.Schema.Columns
import Scaffold.Proofs.Schema.Keys

/-!
# Foreign keys among the columns

A piece of the column block is a column unless its upper case begins with one of a few fixed words, while
a foreign key may be written with any blanks between its words and in any letter case. The two agree on a
key with a name, and on one whose first words stand a single space apart, but for two letters that are
their own upper case and yet count as an `i` and a `k` when case is ignored.

* `upper_spelled`: when the upper case of a keyword is the keyword.
* `KeyOpening`, `KeyOpening.plain`: a foreign key at the beginning of a piece, and how it is told.
* `key_columns`: a piece that begins with a foreign key is a column unless the key is plain.
* `spaced_key_is_column`: a column that is called `FOREIGN`.
-/
namespace Scaffold.Schema

open Text

/-! ## The upper case of a keyword -/

/-- Whether a letter is its own upper case but counts as another letter when case is ignored. -/
def isFalseCapital (c : Char) : Bool := c == '\u0130' || c == '\u212a'

theorem upperChar_of_foldChar {c k : Char} (hk : k.isLower = true) (h : foldChar c = k) :
    upperChar c = [if isFalseCapital c then c else k.toUpper] := by
  unfold foldChar at h
  cases hl : foldedLetters.lookup c with
  | some letter =>
    have hfolded : ∀ entry ∈ foldedLetters, upperChar entry.1 =
        [if isFalseCapital entry.1 then entry.1 else entry.2.toUpper] :=
      forall_mem_of_all (by decide +kernel)
    obtain ⟨before, after, heq, -⟩ := List.lookup_eq_some_iff.mp hl
    have hentry := hfolded (c, letter) (by rw [heq]; simp)
    rw [hl] at h
    rwa [show letter = k from h] at hentry
  | none =>
    rw [hl, Option.getD_none] at h
    subst h
    have hsmall := toNat_of_toLower hk
    have hascii := ascii_forall (fun c => c.toLower.isLower = true →
      isFalseCapital c = false ∧ c.toUpper = c.toLower.toUpper) (by decide) hsmall hk
    unfold upperChar
    rw [if_pos hsmall, hascii.1, hascii.2]
    rfl

/-- The upper case of letters that spell a keyword has the length of the keyword, and is the keyword
unless one of them is a false capital. -/
theorem upper_spelled {ks letters : List Char} (hks : ∀ k ∈ ks, k.isUpper = true)
    (h : letters.map foldChar = ks.map Char.toLower) :
    (upper letters).length = ks.length ∧
      (upper letters = ks ↔ letters.any isFalseCapital = false) := by
  induction letters generalizing ks with
  | nil =>
    obtain rfl := List.map_eq_nil_iff.mp h.symm
    exact ⟨rfl, by simp [upper]⟩
  | cons c letters ih =>
    cases ks with
    | nil => cases h
    | cons k ks =>
      obtain ⟨hk, hks⟩ := List.forall_mem_cons.mp hks
      rw [List.map_cons, List.map_cons, List.cons.injEq] at h
      have hascii := ascii_forall (fun k => k.isUpper = true → k.toLower.isLower = true ∧
        k.toLower.toUpper = k ∧ isFalseCapital k = false) (by decide) (toNat_of_isUpper hk) hk
      obtain ⟨hlength, hiff⟩ := ih hks h.2
      have hupper : upper (c :: letters) = (if isFalseCapital c then c else k) :: upper letters := by
        have hcons : upper (c :: letters) = upperChar c ++ upper letters := rfl
        rw [hcons, upperChar_of_foldChar hascii.1 h.1, hascii.2.1, List.singleton_append]
      rw [hupper, List.length_cons, hlength, List.any_cons]
      refine ⟨rfl, ?_⟩
      rw [List.cons.injEq, hiff]
      cases hc : isFalseCapital c with
      | false => simp
      | true =>
        have hne : c ≠ k := by
          rintro rfl
          rw [hascii.2.2] at hc
          cases hc
        simp [hne]

theorem Spelling.length_upper {k : String} (hk : k.toList.all Char.isUpper = true) (s : Spelling k) :
    (upper s.letters).length = k.toList.length :=
  (upper_spelled (List.all_eq_true.mp hk) s.spelled).1

theorem Spelling.upper_eq_iff {k : String} (hk : k.toList.all Char.isUpper = true) (s : Spelling k) :
    upper s.letters = k.toList ↔ s.letters.any isFalseCapital = false :=
  (upper_spelled (List.all_eq_true.mp hk) s.spelled).2

/-! ## A foreign key at the beginning of a piece -/

/-- A foreign key, with or without the name of its constraint. -/
structure KeyOpening where
  constraint : Option ConstraintName
  clause : Clause

/-- The text of a foreign key. -/
def KeyOpening.text (k : KeyOpening) : List Char :=
  match k.constraint with
  | some p => p.text ++ k.clause.text
  | none => k.clause.text

/-- The first word of a foreign key. -/
def KeyOpening.firstWord (k : KeyOpening) : List Char :=
  match k.constraint with
  | some p => p.constraint.letters
  | none => k.clause.head.foreign.letters

/-- Whether the words by which a foreign key is told from a column are themselves in upper case, and a
single space apart. -/
def KeyOpening.plain (k : KeyOpening) : Bool :=
  match k.constraint with
  | some p => !p.constraint.letters.any isFalseCapital
  | none => k.clause.head.space.chars == [' '] && !k.clause.head.foreign.letters.any isFalseCapital &&
      !k.clause.head.key.letters.any isFalseCapital

/-- What is read as a foreign key is one. -/
theorem exists_keyOpening {cs rest : List Char} {fk : ForeignKey}
    (h : foreignKey? cs = some (fk, rest)) :
    ∃ k : KeyOpening, k.clause.foreignKey = fk ∧ cs = k.text ++ rest := by
  rw [foreignKey?_eq_or] at h
  rcases Option.or_eq_some_iff.mp h with h | ⟨-, h⟩
  · obtain ⟨behind, hname, hclause⟩ := Option.bind_eq_some_iff.mp h
    obtain ⟨c, hfk, rfl⟩ := bareForeignKey?_eq_some_iff.mp hclause
    obtain ⟨⟨p, rfl⟩, -⟩ := constraintName?_eq_some_iff.mp hname
    exact ⟨⟨some p, c⟩, hfk, (List.append_assoc ..).symm⟩
  · obtain ⟨c, hfk, rfl⟩ := bareForeignKey?_eq_some_iff.mp h
    exact ⟨⟨none, c⟩, hfk, rfl⟩

/-- A foreign key begins with its first word, and a blank behind it. -/
theorem KeyOpening.exists_space (k : KeyOpening) (rest : List Char) :
    ∃ (space : Space) (more : List Char), k.text ++ rest = k.firstWord ++ (space.chars ++ more) := by
  obtain ⟨constraint, clause⟩ := k
  cases constraint with
  | some p =>
    refine ⟨p.constraintSpace, p.name.text ++ (p.nameSpace.chars ++ (clause.text ++ rest)), ?_⟩
    simp [KeyOpening.text, KeyOpening.firstWord, ConstraintName.text]
  | none =>
    refine ⟨clause.head.space, clause.head.key.letters ++ (clause.target ++ rest), ?_⟩
    simp [KeyOpening.text, KeyOpening.firstWord, Clause.text, Head.text]

theorem KeyOpening.exists_name (k : KeyOpening) : ∃ n : Name, n.letters = k.firstWord := by
  obtain ⟨constraint, clause⟩ := k
  cases constraint with
  | some p =>
    obtain ⟨c, letters, hletters, -⟩ := p.constraint.exists_cons rfl
    exact ⟨⟨p.constraint.letters, by rw [hletters]; exact List.cons_ne_nil _ _,
      p.constraint.word (by decide)⟩, rfl⟩
  | none =>
    obtain ⟨c, letters, hletters, -⟩ := clause.head.foreign.exists_cons rfl
    exact ⟨⟨clause.head.foreign.letters, by rw [hletters]; exact List.cons_ne_nil _ _,
      clause.head.foreign.word (by decide)⟩, rfl⟩

/-! ## How it is told from a column -/

/-- A text in two parts that begins as another one does, part by part. -/
theorem append_isPrefix_iff {a b x y : List Char} (h : x.length = a.length) :
    a ++ b <+: x ++ y ↔ x = a ∧ b <+: y := by
  constructor
  · intro hbegins
    have hx : a <+: x := List.prefix_of_prefix_length_le ((List.prefix_append a b).trans hbegins)
      (List.prefix_append x y) (by omega)
    obtain rfl := hx.eq_of_length h.symm
    exact ⟨rfl, (List.prefix_append_right_inj a).mp hbegins⟩
  · rintro ⟨rfl, hy⟩
    exact (List.prefix_append_right_inj x).mpr hy

/-- A false capital counts as an `i` or a `k`. -/
theorem foldChar_of_isFalseCapital {c : Char} (h : isFalseCapital c = true) :
    foldChar c ∈ ['i', 'k'] := by
  unfold isFalseCapital at h
  rcases Bool.or_eq_true _ _ |>.mp h with h | h
  · rw [beq_iff_eq.mp h]
    decide
  · rw [beq_iff_eq.mp h]
    decide

/-- A keyword begins with a capital in upper case, unless a false one may stand there. -/
theorem Spelling.upper_cons {k : String} {first : Char} {more : List Char}
    (hk : k.toList.map Char.toLower = first :: more) (hlower : first.isLower = true)
    (hfirst : first ∉ ['i', 'k']) (s : Spelling k) (rest : List Char) :
    ∃ letters, upper (s.letters ++ rest) = first.toUpper :: letters := by
  obtain ⟨c, letters, hletters, rfl, -⟩ := s.exists_cons hk
  have hc : ¬isFalseCapital c = true := fun h => hfirst (foldChar_of_isFalseCapital h)
  have hcons : upper (c :: (letters ++ rest)) = upperChar c ++ upper (letters ++ rest) := rfl
  rw [hletters, List.cons_append, hcons, upperChar_of_foldChar hlower rfl, if_neg hc]
  exact ⟨_, rfl⟩

/-- Where only one head begins with the first letter, no other one stands at the beginning of a line. -/
theorem not_head_of_first {line rest : List Char} {first : Char} {k : String}
    (hline : upper line = first :: rest)
    (honly : ∀ head ∈ constraintHeads, head.toList.head? = some first → head = k)
    (h : ¬k.toList <+: upper line) : ∀ head ∈ constraintHeads, ¬head.toList <+: upper line := by
  have hfilled : ∀ head ∈ constraintHeads, head.toList ≠ [] := forall_mem_of_all (by decide)
  intro head hhead hbegins
  obtain ⟨c, letters, hletters⟩ := List.exists_cons_of_ne_nil (hfilled head hhead)
  have hc : c = first := by
    rw [hletters, hline] at hbegins
    exact (List.cons_prefix_cons.mp hbegins).1
  have hk : head = k := honly head hhead (by rw [hletters, hc]; rfl)
  exact h (hk ▸ hbegins)

/-- Where one head alone can stand at the beginning, a line is taken for a constraint if it does. -/
theorem isColumnLine_of_first {line rest : List Char} {first : Char} {k : String} {plain : Bool}
    (hstrip : strip line = line) (hk : k ∈ constraintHeads) (hline : upper line = first :: rest)
    (honly : ∀ head ∈ constraintHeads, head.toList.head? = some first → head = k)
    (hbegins : k.toList <+: upper line ↔ plain = true) : isColumnLine line = !plain := by
  cases plain with
  | true =>
    unfold isColumnLine
    rw [hstrip, Bool.not_eq_eq_eq_not, Bool.not_not, List.any_eq_true]
    exact ⟨k, hk, startsWith_iff.mpr (hbegins.mpr rfl)⟩
  | false =>
    exact isColumnLine_of_no_head hstrip
      (not_head_of_first hline honly fun h => Bool.false_ne_true (hbegins.mp h))

/-- The beginning of a second word is found behind a single space only. -/
theorem space_key_isPrefix_iff (space : Space) (key : Spelling "KEY") (more : List Char) :
    ' ' :: "KEY".toList <+: space.chars ++ (upper key.letters ++ more) ↔
      space.chars = [' '] ∧ upper key.letters = "KEY".toList := by
  obtain ⟨d, tail, hchars⟩ := List.exists_cons_of_ne_nil space.filled
  have hblank := space.blank
  rw [hchars] at hblank ⊢
  rw [List.cons_append, List.cons_prefix_cons]
  cases tail with
  | nil =>
    have hkey := append_isPrefix_iff (b := []) (y := more) (key.length_upper (by decide))
    rw [List.append_nil] at hkey
    rw [List.nil_append, hkey]
    simp [eq_comm]
  | cons e tail =>
    have hk : 'K' ≠ e := by
      rintro rfl
      have he := hblank 'K' (by simp)
      revert he
      decide
    have hkey : ¬"KEY".toList <+: e :: tail ++ (upper key.letters ++ more) := fun hbegins =>
      hk (List.cons_prefix_cons.mp hbegins).1
    exact ⟨fun h => absurd h.2 hkey, fun h => by simp at h⟩

/-- A piece that begins with a foreign key is taken for a constraint if the key is plain. -/
theorem isColumnLine_key (k : KeyOpening) {rest : List Char}
    (hstrip : strip (k.text ++ rest) = k.text ++ rest) :
    isColumnLine (k.text ++ rest) = !k.plain := by
  obtain ⟨constraint, clause⟩ := k
  cases constraint with
  | some p =>
    have hsplit : (KeyOpening.mk (some p) clause).text ++ rest = p.constraint.letters ++
        (p.constraintSpace.chars ++ (p.name.text ++ (p.nameSpace.chars ++ (clause.text ++ rest)))) := by
      simp [KeyOpening.text, ConstraintName.text]
    have hbegins : "CONSTRAINT".toList <+: upper ((KeyOpening.mk (some p) clause).text ++ rest) ↔
        (KeyOpening.mk (some p) clause).plain = true := by
      have hword := append_isPrefix_iff (b := []) (y := upper (p.constraintSpace.chars ++
        (p.name.text ++ (p.nameSpace.chars ++ (clause.text ++ rest)))))
        (p.constraint.length_upper (by decide))
      rw [List.append_nil] at hword
      rw [hsplit, upper_append, hword, p.constraint.upper_eq_iff (by decide)]
      simp [KeyOpening.plain]
    obtain ⟨letters, hupper⟩ := p.constraint.upper_cons (show _ = 'c' :: _ from rfl) (by decide)
      (by decide)
      (p.constraintSpace.chars ++ (p.name.text ++ (p.nameSpace.chars ++ (clause.text ++ rest))))
    rw [← hsplit] at hupper
    exact isColumnLine_of_first hstrip (by decide) hupper (forall_mem_of_all (by decide)) hbegins
  | none =>
    have hsplit : (KeyOpening.mk none clause).text ++ rest = clause.head.foreign.letters ++
        (clause.head.space.chars ++ (clause.head.key.letters ++ (clause.target ++ rest))) := by
      simp [KeyOpening.text, Clause.text, Head.text]
    have hbegins : "FOREIGN KEY".toList <+: upper ((KeyOpening.mk none clause).text ++ rest) ↔
        (KeyOpening.mk none clause).plain = true := by
      have hword : "FOREIGN KEY".toList = "FOREIGN".toList ++ ' ' :: "KEY".toList := by decide
      rw [hsplit, upper_append, upper_append, upper_append, upper_blank clause.head.space.blank, hword,
        append_isPrefix_iff (clause.head.foreign.length_upper (by decide)), space_key_isPrefix_iff,
        clause.head.foreign.upper_eq_iff (by decide), clause.head.key.upper_eq_iff (by decide)]
      simp [KeyOpening.plain]
      tauto
    obtain ⟨letters, hupper⟩ := clause.head.foreign.upper_cons (show _ = 'f' :: _ from rfl) (by decide)
      (by decide)
      (clause.head.space.chars ++ (clause.head.key.letters ++ (clause.target ++ rest)))
    rw [← hsplit] at hupper
    exact isColumnLine_of_first hstrip (by decide) hupper (forall_mem_of_all (by decide)) hbegins

/-- A piece that begins with a foreign key is a column, called after the first word of the key, unless the
key is plain. -/
theorem column?_key (k : KeyOpening) {piece rest : List Char}
    (h : strip (withoutComments piece) = k.text ++ rest) :
    (readPiece piece).column? = if k.plain then none else some k.firstWord := by
  have hstrip : strip (k.text ++ rest) = k.text ++ rest := by rw [← h, strip_strip]
  have hline := isColumnLine_key k hstrip
  cases hplain : k.plain with
  | true =>
    rw [hplain] at hline
    rw [readPiece_of_ignored h hline]
    rfl
  | false =>
    rw [hplain] at hline
    obtain ⟨space, more, hsplit⟩ := k.exists_space rest
    obtain ⟨n, hn⟩ := k.exists_name
    have hbehind : Outside isWord (space.chars ++ more) := space.outside (fun _ => isWord_of_isBlank) more
    have hname : word? (optional '`' (n.letters ++ (space.chars ++ more))) =
        some (n.letters, space.chars ++ more) := by
      have hopen := optional_tick false fun _ => n.outside (fun _ => isTick_of_isWord)
        (space.chars ++ more)
      rw [show n.letters ++ (space.chars ++ more) = tick false ++ (n.letters ++ (space.chars ++ more))
        from rfl, hopen]
      exact word?_name n hbehind
    rw [hsplit, ← hn] at h hline
    rw [readPiece_of_column h (by simp [n.filled]) hline hname, hn]
    rfl

/-- The columns are what the pieces of the block declare, and a piece that begins with a foreign key
declares one exactly if the key is not plain. -/
theorem key_columns {cs block : List Char} (hblock : columnBlock (normaliseNewlines cs) = .ok block) :
    (columns cs).toOption.getD [] = declared block ∧
      ∀ piece ∈ pieces block, ∀ fk rest,
        foreignKey? (strip (withoutComments piece)) = some (fk, rest) →
          ∃ k : KeyOpening, k.clause.foreignKey = fk ∧ strip (withoutComments piece) = k.text ++ rest ∧
            (readPiece piece).column? = if k.plain then none else some k.firstWord := by
  refine ⟨?_, fun piece _ fk rest hread => ?_⟩
  · rw [columns_of_block hblock]
    split
    · rename_i hnone
      rw [hnone]
      rfl
    · rfl
  · obtain ⟨k, hfk, hsplit⟩ := exists_keyOpening hread
    exact ⟨k, hfk, hsplit, column?_key k hsplit⟩

/-- A foreign key with a name, written over two lines. -/
def namedKey : List Char := "constraint a foreign\n key (id) references users (id)".toList

/-- A foreign key whose words stand two spaces apart. -/
def spacedKey : List Char := "FOREIGN  KEY (id) REFERENCES users (id)".toList

/-- The schema of orders that are declared with a column and one more line. -/
def schemaWith (line : List Char) : List Char :=
  "CREATE TABLE orders (id INT,\n".toList ++ line ++ ")".toList

/-- The foreign key with a name is told from a column. -/
theorem named_key_told :
    columnBlock (normaliseNewlines (schemaWith namedKey)) = .ok ("id INT,\n".toList ++ namedKey) ∧
      ∃ k : KeyOpening, k.clause.foreignKey = ⟨"id", "users", "id"⟩ ∧ k.plain = true ∧
        (columns (schemaWith namedKey)).toOption.getD [] = ["id".toList] := by
  have hblock : columnBlock (normaliseNewlines (schemaWith namedKey)) =
      .ok ("id INT,\n".toList ++ namedKey) := by decide +kernel
  obtain ⟨hcolumns, hkeys⟩ := key_columns hblock
  have hread : foreignKey? (strip (withoutComments namedKey)) = some (⟨"id", "users", "id"⟩, []) := by
    decide +kernel
  obtain ⟨k, hfk, -, hcolumn⟩ := hkeys namedKey (by decide +kernel) _ _ hread
  have hnone : (readPiece namedKey).column? = none := by decide +kernel
  have hplain : k.plain = true := by
    rw [hnone] at hcolumn
    cases hk : k.plain with
    | true => rfl
    | false => rw [hk] at hcolumn; cases hcolumn
  refine ⟨hblock, k, hfk, hplain, ?_⟩
  rw [hcolumns]
  decide +kernel

/-- The words of a foreign key stand two spaces apart, and the first of them is read as a column. -/
theorem spaced_key_is_column :
    ∃ cs block piece rest : List Char, columnBlock (normaliseNewlines cs) = .ok block ∧
      piece ∈ pieces block ∧
      foreignKey? (strip (withoutComments piece)) = some (⟨"id", "users", "id"⟩, rest) ∧
      (readPiece piece).column? = some "FOREIGN".toList ∧
      columns cs = .ok ["id".toList, "FOREIGN".toList] := by
  refine ⟨schemaWith spacedKey, "id INT,\n".toList ++ spacedKey, spacedKey, [], ?_⟩
  decide +kernel

end Scaffold.Schema
