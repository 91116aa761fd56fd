import Scaffold.Plan.Basic
import Scaffold.Proofs.Action
import Scaffold.Proofs.Naming

/-!
# When planning refuses

The records of a plan refuse empty texts. A text comes out empty only where a name is made from one
that has no letters, so the refusals are told from the names in the schema.

* `planRelation_error_iff`: a relation is refused for its parent's name, or for a column of the
  parent.
* `assemble_error_iff`: a plan whose relations are there is refused for the name of the table.
-/
namespace Scaffold.Plan

open Naming (Nameless)
open Validation (Rejection)

theorem requireFilled_error_iff {record : String} {fields : List (String × String)} :
    (∃ e, requireFilled record fields = .error e) ↔ ∃ field ∈ fields, field.2.isEmpty = true := by
  unfold requireFilled
  split
  · rename_i h
    rw [List.filter_eq_nil_iff] at h
    constructor
    · rintro ⟨e, he⟩; cases he
    · rintro ⟨field, hmem, hempty⟩; exact absurd hempty (h field hmem)
  · rename_i h
    constructor
    · intro _
      obtain ⟨field, hfield⟩ := List.exists_mem_of_ne_nil _ h
      rw [List.mem_filter] at hfield
      exact ⟨field, hfield.1, hfield.2⟩
    · exact fun _ => ⟨_, rfl⟩

/-- A record that is made once its fields are checked is refused for its fields. -/
theorem checked_error_iff {α : Type} {record : String} {fields : List (String × String)} {a : α} :
    (∃ e, (requireFilled record fields >>= fun _ => Except.ok a) = .error e) ↔
      ∃ field ∈ fields, field.2.isEmpty = true := by
  rw [bind_error_iff, requireFilled_error_iff]
  constructor
  · rintro (h | ⟨_, _, e, h⟩)
    · exact h
    · cases h
  · exact Or.inl

theorem isEmpty_append_low (s t : String) : (s ++ "_" ++ t).isEmpty = false := by
  rw [Bool.eq_false_iff, ne_eq, String.isEmpty_iff]
  intro h
  have hlist := congrArg String.toList h
  simp [String.toList_append] at hlist

/-- A column is refused exactly if it has no letters: its alias always has a low line. -/
theorem planMapping_error_iff {relationName column : String} :
    (∃ e, planMapping relationName column = .error e) ↔ Nameless column := by
  have halias : (Sql.relationAlias relationName column).isEmpty = false :=
    isEmpty_append_low relationName column
  refine checked_error_iff.trans ?_
  simp only [List.mem_cons, List.not_mem_nil, or_false, exists_eq_or_imp, exists_eq_left, halias,
    Bool.false_eq_true, false_or]
  rw [Naming.camel_isEmpty_iff]
  constructor
  · rintro (h | h)
    · exact Naming.nameless_of_isEmpty h
    · exact h
  · exact Or.inr

theorem planMappings_error_iff {relationName : String} {columns : List String} :
    (∃ e, planMappings relationName columns = .error e) ↔ ∃ column ∈ columns, Nameless column := by
  induction columns with
  | nil =>
    constructor
    · rintro ⟨e, h⟩; cases h
    · rintro ⟨column, h, -⟩; cases h
  | cons column rest ih =>
    have hmem : (∃ c ∈ column :: rest, Nameless c) ↔ Nameless column ∨ ∃ c ∈ rest, Nameless c := by
      simp only [List.mem_cons, exists_eq_or_imp]
    rw [planMappings, bind_error_iff, planMapping_error_iff, hmem, ← ih]
    cases hm : planMapping relationName column with
    | error e =>
      have hc : Nameless column := planMapping_error_iff.mp ⟨e, hm⟩
      exact iff_of_true (Or.inl hc) (Or.inl hc)
    | ok m =>
      refine or_congr_right ?_
      constructor
      · rintro ⟨_, _, h⟩
        rcases bind_error_iff.mp h with h | ⟨_, _, e, h⟩
        · exact h
        · cases h
      · exact fun h => ⟨m, rfl, bind_error_iff.mpr (Or.inl h)⟩

/-- The texts of a relation, and of its rule, that can be refused. -/
def nameTexts (fk : ForeignKey) : List (String × String) :=
  [("relation_name", Naming.relationName fk.parentTable), ("parent_model", Naming.modelName fk.parentTable)]

theorem nameTexts_empty_iff {fk : ForeignKey} :
    (∃ field ∈ nameTexts fk, field.2.isEmpty = true) ↔ Nameless (Naming.singular fk.parentTable) := by
  simp only [nameTexts, List.mem_cons, List.not_mem_nil, or_false, exists_eq_or_imp, exists_eq_left]
  rw [Naming.relationName_isEmpty_iff, Naming.modelName_isEmpty_iff, or_self]

/-- A relation is refused exactly if the name of its parent has no letters, or a column of the parent
has none. -/
theorem planRelation_error_iff {table : String} {fk : ForeignKey} {parent : Option Table} :
    (∃ e, planRelation table fk parent = .error e) ↔
      Nameless (Naming.singular fk.parentTable) ∨
        ∃ p, parent = some p ∧ ∃ column ∈ p.columns, Nameless column := by
  unfold planRelation
  cases parent with
  | none =>
    refine (checked_error_iff.trans nameTexts_empty_iff).trans ?_
    simp
  | some p =>
    refine bind_error_iff.trans ?_
    rw [planMappings_error_iff]
    constructor
    · rintro (h | ⟨mappings, _, h⟩)
      · exact Or.inr ⟨p, rfl, h⟩
      · exact Or.inl (nameTexts_empty_iff.mp (checked_error_iff.mp h))
    · rintro (h | ⟨_, hp, h⟩)
      · cases hm : planMappings (Naming.relationName fk.parentTable) p.columns with
        | error e => exact Or.inl (planMappings_error_iff.mp ⟨e, hm⟩)
        | ok mappings => exact Or.inr ⟨mappings, rfl, checked_error_iff.mpr (nameTexts_empty_iff.mpr h)⟩
      · cases hp; exact Or.inl h

/-- A plan is refused exactly if the name of its table has no letters. -/
theorem assemble_error_iff {table : Table} {relations : List Relation} :
    (∃ e, assemble table relations = .error e) ↔ Nameless (Naming.singular table.name) := by
  refine checked_error_iff.trans ?_
  simp only [List.mem_cons, List.not_mem_nil, or_false, exists_eq_or_imp, exists_eq_left]
  rw [Table.modelName, Naming.modelName_isEmpty_iff]
  constructor
  · rintro (h | h)
    · exact Naming.nameless_singular (Naming.nameless_of_isEmpty h)
    · exact h
  · exact Or.inr

end Scaffold.Plan
