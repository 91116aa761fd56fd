import Scaffold.Proofs.Plan.Names
import Scaffold.Proofs.Plan.Query

/-!
# Aliases are told apart

A column of a parent comes out of a query under an alias: the name of the relation, a low line, the name of
the column. Columns have low lines of their own, so a text like this could be cut in several places. But
the name of a relation has none: it is joined from the words between the low lines of a table, and though a
change of case may make several letters of one, letters are all that it makes. So the first low line of an
alias is the one that was put there.

* `ample_unblank`, `over_separators`: what the name of a relation is made of, for any table.
* `aliasParts?_of_built`: each alias of a plan gives back its relation and its column.
* `aliases_decode`: two aliases are one exactly if their relations and their columns are.
-/
namespace Scaffold.Plan

open Naming (Ample isSeparator relationName)
open Sql (aliasParts? relationAlias)
open Text (Over isBlank isWord)

/-- Words and changes of case bring in no blank. -/
theorem ample_unblank : Ample fun c => isBlank c = false :=
  ⟨fun _ hword => Text.isBlank_of_isWord hword, fun _ hletter => hletter.2⟩

/-- The name of a relation has none of the characters that stand between words. -/
theorem over_separators (parent : String) : Over (isSeparator · = false) (relationName parent) := by
  intro c hc
  rw [← Bool.not_eq_true]
  exact fun hsep => Naming.separator_not_mem_relationName hsep hc

theorem low_not_mem_relationName (parent : String) : '_' ∉ (relationName parent).toList :=
  (over_separators parent).not_mem (by decide)

/-- Every alias that a plan selects or reads gives back the relation and the column that it stands for. -/
theorem aliasParts?_of_built {σ : Type} {resolve : String → Action σ (Option Table)} {table : Table}
    {plan : Plan} (h : Built resolve table plan) :
    ∀ r ∈ plan.relations, ∀ rule ∈ r.hydration, ∀ m ∈ rule.mappings,
      aliasParts? m.aliasName = some (r.relationName, m.column) := by
  intro r hr rule hrule m hm
  obtain ⟨parent, -, heq⟩ := h.planned r hr
  generalize r.foreignKey = fk at heq
  subst heq
  rw [relationOf_hydration] at hrule
  obtain ⟨known, -, rfl⟩ := Option.map_eq_some_iff.mp hrule
  obtain ⟨column, -, rfl⟩ := List.mem_map.mp hm
  rw [relationOf_relationName]
  exact Sql.aliasParts?_relationAlias (low_not_mem_relationName _) column

/-- Two aliases are one exactly if the relations have one name and the columns are the same, and an alias
gives both back; for the name of a relation has no low line, no hyphen and no space, whatever the name of
the parent is, and no blank of any kind if the parent is a word. -/
theorem aliases_decode (parent parent' column column' : String) :
    (relationAlias (relationName parent) column = relationAlias (relationName parent') column' ↔
      relationName parent = relationName parent' ∧ column = column') ∧
    aliasParts? (relationAlias (relationName parent) column) = some (relationName parent, column) ∧
    ('_' ∉ (relationName parent).toList ∧ '-' ∉ (relationName parent).toList ∧
      ' ' ∉ (relationName parent).toList) ∧
    (Over (isWord · = true) parent → Over (isBlank · = false) (relationName parent)) := by
  have hseparators := over_separators parent
  have hlow := low_not_mem_relationName parent
  refine ⟨Sql.relationAlias_inj hlow (low_not_mem_relationName parent'),
    Sql.aliasParts?_relationAlias hlow column,
    ⟨hlow, hseparators.not_mem (by decide), hseparators.not_mem (by decide)⟩, fun hwords => ?_⟩
  exact Naming.over_relationName ample_unblank
    (hwords.mono fun _ hword => Text.isBlank_of_isWord hword)

/-- Two parents whose relations come to one name, as a sharp s becomes two letters: their aliases of one
column are the same, and are cut before the column though it has a low line. -/
theorem sharp_aliases_decode :
    Over (isWord · = true) "ßale_ǰobs" ∧
      relationAlias (relationName "ßale_ǰobs") "unit_id" =
        relationAlias (relationName "sSale_ǰobs") "unit_id" ∧
      aliasParts? "sSaleJ̌ob_unit_id" = some ("sSaleJ̌ob", "unit_id") ∧
      Over (isBlank · = false) "sSaleJ̌ob" := by
  have hname : relationName "ßale_ǰobs" = "sSaleJ̌ob" := by decide +kernel
  have hname' : relationName "sSale_ǰobs" = "sSaleJ̌ob" := by decide +kernel
  have hwords : Over (isWord · = true) "ßale_ǰobs" := Text.forall_mem_of_all (by decide +kernel)
  obtain ⟨hsame, hparts, -, hblank⟩ := aliases_decode "ßale_ǰobs" "sSale_ǰobs" "unit_id" "unit_id"
  refine ⟨hwords, hsame.mpr ⟨hname.trans hname'.symm, rfl⟩, ?_, ?_⟩
  · rw [hname] at hparts
    exact hparts
  · rw [← hname]
    exact hblank hwords

end Scaffold.Plan
