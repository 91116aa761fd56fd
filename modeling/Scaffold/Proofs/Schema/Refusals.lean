import Scaffold.Proofs.Generator.Reading
import Scaffold.Proofs.Schema.LineEnds
import Scaffold.Proofs.Schema.Words
import Scaffold.Proofs.Validation
import Scaffold.Schema.Record

/-!
# What is wrong with a schema

Every text either declares a table or is refused for one of four reasons, which are looked for in their
order. A table that is read passes every check of its record, so nothing else can go wrong with it.

* `Unparsable`: the four reasons, told of the text as it is given.
* `parse_eq_error_iff`: a text is refused exactly for one of them.
* `Accepted`: what holds of every table that is read.
* `parse_accepts_or_refuses`: one of the two, whatever the text and the source.
-/
namespace Scaffold

open Validation

/-! ## The data of a table -/

/-- The data from which the record of a table is made. -/
def Table.given (t : Table) : Value :=
  .record [("name", .text t.name), ("columns", .texts t.columns),
    ("foreign_keys", .list (t.foreignKeys.map ForeignKey.toValue)),
    ("source_file", .optionalText t.sourceFile)]

namespace Schema

open Text

theorem IsName.isEmpty {s : String} (h : IsName s) : s.isEmpty = false := by
  rw [Bool.eq_false_iff]
  intro hempty
  rw [String.isEmpty_iff] at hempty
  exact h.1 (by rw [hempty]; rfl)

theorem check_foreignKey {fk : ForeignKey} (hcolumn : IsName fk.column)
    (htable : IsName fk.parentTable) (hparent : IsName fk.parentColumn) :
    ForeignKey.check fk.toValue = .ok fk := by
  refine record_eq rfl rfl ?_
  -- the fields are checked side by side, so the check comes apart from its last field on
  refine Checked.and_eq_ok.mpr ⟨_, _, Checked.and_eq_ok.mpr ⟨_, _, Checked.and_eq_ok.mpr
    ⟨_, _, rfl, ?_, rfl⟩, ?_, rfl⟩, ?_, rfl⟩
  · exact required_ok rfl (filledText_ok hcolumn.isEmpty)
  · exact required_ok rfl (filledText_ok htable.isEmpty)
  · exact required_ok rfl (filledText_ok hparent.isEmpty)

theorem check_keys {t : Table} (h : Worded t) :
    ∀ fk ∈ t.foreignKeys, ForeignKey.check fk.toValue = .ok fk := fun fk hfk =>
  check_foreignKey (h.keyColumns fk hfk) (h.parentTables fk hfk) (h.parentColumns fk hfk)

/-- A table whose names are words, at least one column among them, passes the checks of its record. -/
theorem check_table {t : Table} (h : Worded t) (hcolumns : t.columns ≠ []) :
    Table.check t.given = .ok t := by
  refine record_eq rfl rfl ?_
  refine Checked.and_eq_ok.mpr ⟨_, _, Checked.and_eq_ok.mpr ⟨_, _, Checked.and_eq_ok.mpr
    ⟨_, _, Checked.and_eq_ok.mpr ⟨_, _, rfl, ?_, rfl⟩, ?_, rfl⟩, ?_, rfl⟩, ?_, rfl⟩
  · exact required_ok rfl (filledText_ok h.name.isEmpty)
  · exact required_ok rfl (filledTexts_ok hcolumns)
  · exact given_ok rfl (listOf_ok (check_keys h))
  · exact given_ok rfl (optional_text_ok t.sourceFile)

/-- What is promised of a table that is read: its names are words, it has a column, it knows its source,
and its data and that of its keys pass all the checks. -/
structure Accepted (source : Option String) (t : Table) : Prop where
  worded : Worded t
  columns : t.columns ≠ []
  source : t.sourceFile = source
  keys : ∀ fk ∈ t.foreignKeys, ForeignKey.check fk.toValue = .ok fk
  checked : Table.check t.given = .ok t

/-! ## Reasons for which a text is refused -/

/-- A text without a column block, for the first of three reasons. -/
inductive Blockless (cs : List Char) : SchemaReason → Option String → Prop where
  | nameless (h : NoTable cs) : Blockless cs .noTableName none
  | unopened {name rest : List Char} (h : FirstTable cs name rest) (hopen : '(' ∉ rest) :
      Blockless cs .invalidColumnBlock (some "no opening parenthesis")
  | unclosed {name between block : List Char} (h : FirstTable cs name (between ++ '(' :: block))
      (hopen : '(' ∉ between) (hclose : ')' ∉ block) :
      Blockless cs .invalidColumnBlock (some "no closing parenthesis")

/-- A text that declares no table: there is no column block, or no piece of it declares a column. -/
inductive Unparsable (cs : List Char) : SchemaReason → Option String → Prop where
  | blockless {reason : SchemaReason} {detail : Option String} (h : Blockless cs reason detail) :
      Unparsable cs reason detail
  | columnless {name between block tail : List Char}
      (h : FirstTable cs name (between ++ '(' :: (block ++ ')' :: tail))) (hopen : '(' ∉ between)
      (hclose : ')' ∉ tail)
      (hnone : ∀ piece ∈ pieces (normaliseNewlines block), (readPiece piece).column? = none) :
      Unparsable cs .noColumns none

theorem Unparsable.reason_mem {cs : List Char} {reason : SchemaReason} {detail : Option String}
    (h : Unparsable cs reason detail) :
    reason ∈ [.noTableName, .invalidColumnBlock, .noColumns] := by
  rcases h with (_ | _ | _) | _ <;> decide

theorem afterFirst?_eq_none_iff {c : Char} {cs : List Char} : afterFirst? c cs = none ↔ c ∉ cs := by
  induction cs with
  | nil => simp [afterFirst?]
  | cons d cs ih =>
    rw [afterFirst?, List.mem_cons, not_or, ← ih]
    split
    · rename_i heq
      simp [heq]
    · rename_i hne
      simp [Ne.symm hne]

theorem tableName_eq_error_iff {cs : List Char} {e : SchemaError} :
    tableName cs = .error e ↔ NoTable cs ∧ e = { reason := .noTableName } := by
  rw [← firstTable?_eq_none_iff]
  unfold tableName
  cases firstTable? cs with
  | none => simp [eq_comm]
  | some found => simp

theorem columnBlock_eq_error_iff {cs : List Char} {e : SchemaError} :
    columnBlock cs = .error e ↔ e.path = none ∧ Blockless cs e.reason e.detail := by
  constructor
  · intro h
    unfold columnBlock at h
    split at h
    · rename_i hnone
      cases h
      exact ⟨rfl, .nameless (firstTable?_eq_none_iff.mp hnone)⟩
    · rename_i name rest hfirst
      have hfirst := firstTable?_eq_some_iff.mp hfirst
      split at h
      · rename_i hopen
        cases h
        exact ⟨rfl, .unopened hfirst (afterFirst?_eq_none_iff.mp hopen)⟩
      · rename_i block hopen
        obtain ⟨between, hbetween, rfl⟩ := afterFirst?_eq_some_iff.mp hopen
        split at h
        · rename_i hclose
          cases h
          exact ⟨rfl, .unclosed hfirst hbetween (beforeLast?_eq_none_iff.mp hclose)⟩
        · cases h
  · obtain ⟨reason, path, detail⟩ := e
    rintro ⟨rfl, hblockless⟩
    unfold columnBlock
    cases hblockless with
    | nameless h => rw [firstTable?_eq_none_iff.mpr h]
    | unopened h hopen =>
      simp only [firstTable?_eq_some_iff.mpr h, afterFirst?_eq_none_iff.mpr hopen]
    | unclosed h hopen hclose =>
      simp only [firstTable?_eq_some_iff.mpr h, afterFirst?_eq_some_iff.mpr ⟨_, hopen, rfl⟩,
        beforeLast?_eq_none_iff.mpr hclose]

theorem columns_eq_error_iff {cs : List Char} {e : SchemaError} :
    columns cs = .error e ↔ e.path = none ∧ Unparsable cs e.reason e.detail := by
  constructor
  · intro h
    unfold columns at h
    rw [blockPieces_eq] at h
    cases hblock : columnBlock cs with
    | error e' =>
      rw [hblock] at h
      cases h
      obtain ⟨hpath, hblockless⟩ := columnBlock_eq_error_iff.mp hblock
      exact ⟨hpath, .blockless hblockless⟩
    | ok block =>
      rw [hblock] at h
      simp only [Except.map] at h
      split at h
      · rename_i hnone
        cases h
        obtain ⟨name, between, tail, hfirst, hbetween, htail⟩ := columnBlock_eq_ok_iff.mp hblock
        refine ⟨rfl, .columnless (firstTable?_eq_some_iff.mp hfirst) hbetween htail ?_⟩
        rw [List.filterMap_map, List.filterMap_eq_nil_iff] at hnone
        exact hnone
      · cases h
  · obtain ⟨reason, path, detail⟩ := e
    rintro ⟨rfl, hunparsable⟩
    unfold columns
    rw [blockPieces_eq]
    cases hunparsable with
    | blockless h => rw [columnBlock_eq_error_iff.mpr ⟨rfl, h⟩]; rfl
    | columnless h hopen hclose hnone =>
      rw [columnBlock_eq_ok_iff.mpr ⟨_, _, _, firstTable?_eq_some_iff.mpr h, hopen, hclose⟩]
      simp only [Except.map, List.filterMap_map, List.filterMap_eq_nil_iff.mpr hnone,
        Function.comp_def]

/-- A table has no name only if it has no column block, so its columns decide. -/
theorem readTable_eq_error_iff {cs : List Char} {source : Option String} {e : SchemaError} :
    readTable cs source = .error e ↔ columns cs = .error e := by
  have hnameless : ∀ {e : SchemaError}, tableName cs = .error e → columns cs = .error e := by
    intro e h
    obtain ⟨hnone, rfl⟩ := tableName_eq_error_iff.mp h
    exact columns_eq_error_iff.mpr ⟨rfl, .blockless (.nameless hnone)⟩
  unfold readTable
  rw [bind_eq_error]
  constructor
  · rintro (h | ⟨name, -, h⟩)
    · exact hnameless h
    · rcases bind_eq_error.mp h with h | ⟨names, -, h⟩
      · exact h
      · cases h
  · intro h
    cases hname : tableName cs with
    | error e' =>
      rw [hnameless hname] at h
      cases h
      exact .inl rfl
    | ok name => exact .inr ⟨name, rfl, bind_eq_error.mpr (.inl h)⟩

theorem parse_eq_error_iff {text : String} {source : Option String} {e : SchemaError} :
    Table.parse text source = .error e ↔
      e.path = source ∧ Unparsable text.toList e.reason e.detail := by
  -- before it is bound to its source, a refusal is that of the columns
  have hread : ∀ e', readTable (normaliseNewlines text.toList) source = .error e' ↔
      e'.path = none ∧ Unparsable text.toList e'.reason e'.detail := by
    intro e'
    rw [readTable_eq_error_iff, columns_lineEnds, columns_eq_error_iff]
  obtain ⟨reason, path, detail⟩ := e
  unfold Table.parse
  constructor
  · intro h
    split at h
    · cases h
    · rename_i e' herror
      obtain ⟨hpath, hunparsable⟩ := (hread e').mp herror
      obtain ⟨reason', path', detail'⟩ := e'
      obtain rfl : path' = none := hpath
      cases source <;> cases h <;> exact ⟨rfl, hunparsable⟩
  · rintro ⟨rfl, hunparsable⟩
    rw [(hread ⟨reason, none, detail⟩).mpr ⟨rfl, hunparsable⟩]
    cases path <;> rfl

/-! ## Tables that are read -/

theorem columns_ne_nil {cs : List Char} {names : List (List Char)} (h : columns cs = .ok names) :
    names ≠ [] := by
  unfold columns at h
  split at h
  · cases h
  · split at h
    · cases h
    · rename_i hne
      cases h
      exact hne

theorem accepted_of_parse {text : String} {source : Option String} {t : Table}
    (h : Table.parse text source = .ok t) : Accepted source t := by
  have hworded := worded_of_parse h
  unfold Table.parse at h
  split at h
  · rename_i read hread
    cases h
    unfold readTable at hread
    obtain ⟨name, -, hread⟩ := bind_eq_ok.mp hread
    obtain ⟨names, hnames, hread⟩ := bind_eq_ok.mp hread
    cases hread
    have hcolumns : names.map String.ofList ≠ [] := fun hnil =>
      columns_ne_nil hnames (List.map_eq_nil_iff.mp hnil)
    exact ⟨hworded, hcolumns, rfl, check_keys hworded, check_table hworded hcolumns⟩
  · cases h

/-- Whatever the text and the source, a table is read of which all is true that is promised, or the text is
refused for a reason that lies in it, and the refusal names the source. Which reason it is, and that there
is one, the text alone decides. Nothing else is raised, whatever is recorded on the way. -/
theorem parse_accepts_or_refuses (text : String) (source : Option String) :
    ((∃ t, Table.parse text source = .ok t ∧ Accepted source t) ∨
      ∃ e, Table.parse text source = .error e ∧ e.path = source ∧
        e.reason ∈ [.noTableName, .invalidColumnBlock, .noColumns]) ∧
    (∀ e, Table.parse text source = .error e ↔
      e.path = source ∧ Unparsable text.toList e.reason e.detail) ∧
    ∀ (σ : Type) [Journaled σ] (s : σ),
      ((parse text source : Action σ Table).run s).1 = (Table.parse text source).mapError .schema := by
  refine ⟨?_, fun e => parse_eq_error_iff, fun σ _ s => ?_⟩
  · cases hparse : Table.parse text source with
    | ok t => exact .inl ⟨t, rfl, accepted_of_parse hparse⟩
    | error e =>
      obtain ⟨hpath, hunparsable⟩ := parse_eq_error_iff.mp hparse
      exact .inr ⟨e, rfl, hpath, hunparsable.reason_mem⟩
  · obtain ⟨s', hrun, -⟩ :=
      parse_answers (σ := σ) (R := fun _ => True) (fun _ _ _ => trivial) text source s trivial
    rw [hrun]

end Schema

end Scaffold
