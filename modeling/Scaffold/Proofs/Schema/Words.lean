import Scaffold.Proofs.Action
import Scaffold.Proofs.Schema.Keys
import Scaffold.Proofs.Schema.TableHead

/-!
# The names of a table that was read

Whatever a schema text says, the names that are read from it are words: no sign, no quote and no blank
gets into a name.

* `IsName`, `Worded`: texts that are words, and tables all of whose names are.
* `worded_of_parse`: a table that was read is such a table.
* `parse_of_letters`: a text is read by its letters.
-/
namespace Scaffold.Schema

open Text

/-- A text that is a word. -/
def IsName (s : String) : Prop := s.toList ≠ [] ∧ ∀ c ∈ s.toList, isWord c = true

/-- A table whose names are words. -/
structure Worded (t : Table) : Prop where
  name : IsName t.name
  columns : ∀ column ∈ t.columns, IsName column
  keyColumns : ∀ fk ∈ t.foreignKeys, IsName fk.column
  parentTables : ∀ fk ∈ t.foreignKeys, IsName fk.parentTable
  parentColumns : ∀ fk ∈ t.foreignKeys, IsName fk.parentColumn

theorem IsName.not_mem {s : String} {c : Char} (h : IsName s) (hc : isWord c = false) :
    c ∉ s.toList := by
  intro hmem
  rw [h.2 c hmem] at hc
  cases hc

theorem Name.isName (n : Name) : IsName (.ofList n.letters) := by
  unfold IsName
  rw [String.toList_ofList]
  exact ⟨n.filled, n.word⟩

theorem isName_of_word? {cs word rest : List Char} (h : word? cs = some (word, rest)) :
    IsName (.ofList word) := by
  obtain ⟨-, hfilled, hword, -⟩ := word?_eq_some_iff.mp h
  exact (⟨word, hfilled, hword⟩ : Name).isName

/-! ## The name of the table -/

theorem TableAt.isName {cs name rest : List Char} (h : TableAt cs name rest) :
    IsName (.ofList name) := by
  rcases h with ⟨_, _, q, _⟩ | ⟨_, q, _, _⟩
  · exact q.name.isName
  · exact q.name.isName

theorem isName_of_tableName {cs name : List Char} (h : tableName cs = .ok name) :
    IsName (.ofList name) := by
  unfold tableName at h
  split at h
  · rename_i found rest hfound
    cases h
    obtain ⟨_, _, _, hhere, _⟩ := firstTable?_eq_some_iff.mp hfound
    exact hhere.isName
  · cases h

/-! ## The names of columns and keys -/

theorem isName_of_readPiece {piece name : List Char} (h : readPiece piece = .column name) :
    IsName (.ofList name) := by
  unfold readPiece at h
  dsimp only at h
  split at h
  · cases h
  · split at h
    · rename_i word rest hword
      cases h
      exact isName_of_word? hword
    · cases h

theorem exists_readPiece_of_mem {cs : List Char} {found : List Piece} {piece : Piece}
    (h : blockPieces cs = .ok found) (hpiece : piece ∈ found) : ∃ text, readPiece text = piece := by
  unfold blockPieces at h
  cases hblock : columnBlock (normaliseNewlines cs) with
  | error e => rw [hblock] at h; cases h
  | ok block =>
    rw [hblock] at h
    cases h
    obtain ⟨text, -, htext⟩ := List.mem_map.mp hpiece
    exact ⟨text, htext⟩

theorem isName_of_columns {cs : List Char} {names : List (List Char)} (h : columns cs = .ok names) :
    ∀ name ∈ names, IsName (.ofList name) := by
  unfold columns at h
  split at h
  · cases h
  · rename_i found hfound
    have hnames : names = found.filterMap Piece.column? := by
      split at h
      · cases h
      · rename_i hne; cases h; rfl
    rw [hnames]
    intro name hname
    obtain ⟨piece, hpiece, hcolumn⟩ := List.mem_filterMap.mp hname
    obtain ⟨text, rfl⟩ := exists_readPiece_of_mem hfound hpiece
    cases hread : readPiece text with
    | column word =>
      rw [hread] at hcolumn
      cases hcolumn
      exact isName_of_readPiece hread
    | ignored => rw [hread] at hcolumn; cases hcolumn
    | stray line => rw [hread] at hcolumn; cases hcolumn

/-- Every key that is read is one that a clause declares. -/
theorem exists_clause_of_mem_foreignKeys {cs : List Char} {fk : ForeignKey}
    (h : fk ∈ foreignKeys cs) : ∃ c : Clause, c.foreignKey = fk := by
  unfold foreignKeys at h
  rw [foreignKeysIn_eq_begun] at h
  induction cs with
  | nil => cases h
  | cons c cs ih =>
    rw [begun] at h
    split at h
    · rename_i found hfound
      rcases List.mem_cons.mp h with rfl | h
      · obtain ⟨clause, hclause, -⟩ := bareForeignKey?_eq_some_iff.mp hfound
        exact ⟨clause, hclause⟩
      · exact ih h
    · exact ih h

theorem worded_of_readTable {cs : List Char} {source : Option String} {t : Table}
    (h : readTable cs source = .ok t) : Worded t := by
  unfold readTable at h
  obtain ⟨name, hname, h⟩ := bind_eq_ok.mp h
  obtain ⟨names, hnames, h⟩ := bind_eq_ok.mp h
  cases h
  refine ⟨isName_of_tableName hname, ?_, ?_, ?_, ?_⟩
  · intro column hcolumn
    obtain ⟨letters, hletters, rfl⟩ := List.mem_map.mp hcolumn
    exact isName_of_columns hnames letters hletters
  · intro fk hfk
    obtain ⟨clause, rfl⟩ := exists_clause_of_mem_foreignKeys hfk
    exact clause.column.ticked.name.isName
  · intro fk hfk
    obtain ⟨clause, rfl⟩ := exists_clause_of_mem_foreignKeys hfk
    exact clause.table.name.isName
  · intro fk hfk
    obtain ⟨clause, rfl⟩ := exists_clause_of_mem_foreignKeys hfk
    exact clause.parentColumn.ticked.name.isName

/-- The names of a table that was read are words. -/
theorem worded_of_parse {text : String} {source : Option String} {t : Table}
    (h : Table.parse text source = .ok t) : Worded t := by
  unfold Table.parse at h
  split at h
  · rename_i read hread
    cases h
    exact worded_of_readTable hread
  · cases h

/-- A table is read off the letters of a text, which saves taking the text apart by computation. -/
theorem parse_of_letters {text : String} {letters : List Char} {t : Table}
    (htext : text = .ofList letters)
    (h : (readTable (normaliseNewlines letters) none).toOption = some t) :
    Table.parse text = .ok t := by
  unfold Table.parse
  rw [htext, String.toList_ofList, toOption_eq_some.mp h]

end Scaffold.Schema
