import Scaffold.Hydration.Block
import Scaffold.Proofs.Stub.Substitution

/-!
# The lines of hydration code

The code that folds a row is written line by line, and each line is a fixed text with names in it. Seen
as templates, the lines are filled like any stub.

* `plainLines`, `mappingLines`: the lines that a rule has once, and those of each of its mappings.
* `lines_block`: the lines of a rule are these, filled with names of the rule.
* `forall_line`: what holds of every line that is filled so.
-/
namespace Scaffold.Hydration

open Stub (Filling Template)

/-- The lines that a rule has once. -/
def plainLines : List Template :=
  [[],
    [.lines ["        // "], .lines ["Hydrate "], .blank "model", .lines [" relation"]],
    [.lines ["        $"], .blank "relation", .lines [" = new "], .blank "model",
      .lines ["();"]],
    [.lines ["        $"], .blank "flag", .lines [" = false;"]],
    [.lines ["        if ("], .lines ["$"], .blank "flag", .lines [") \x7b"]],
    [.lines ["            "], .lines ["$model->"], .blank "relation", .lines [" = $"],
      .blank "relation", .lines [";"]],
    [.lines ["        "], .lines ["\x7d"]]]

/-- The lines of each mapping of a rule. -/
def mappingLines : List Template :=
  [[.lines ["        if ("], .lines ["isset($row['"], .blank "alias", .lines ["'])"],
      .lines [") \x7b"]],
    [.lines ["            "], .lines ["$"], .blank "relation", .lines ["->"], .blank "property",
      .lines [" = $row['"], .blank "alias", .lines ["'];"]],
    [.lines ["            "], .lines ["$"], .blank "flag", .lines [" = true;"]],
    [.lines ["            "], .lines ["unset($row['"], .blank "alias", .lines ["']);"]],
    [.lines ["        "], .lines ["\x7d"]]]

/-- The names in the lines of a rule. -/
def plainFilling (rule : Rule) : Filling :=
  [("relation", rule.relationName), ("model", rule.parentModel), ("flag", rule.flag)]

/-- The names in the lines of a mapping. -/
def mappingFilling (rule : Rule) (m : Mapping) : Filling :=
  plainFilling rule ++ [("alias", m.aliasName), ("property", m.property)]

/-- The lines of a mapping, filled. -/
theorem lines_mapping (rule : Rule) (m : Mapping) :
    (m.statement rule).lines = mappingLines.map (·.fill (mappingFilling rule m)) := by
  simp [Mapping.statement, Statement.lines, conditional, Simple.line, mappingLines, Template.fill,
    Template.text, Stub.Segment.fill, Stub.Segment.text, mappingFilling, plainFilling, List.lookup_cons,
    indent, innerIndent, String.append_assoc]

/-- The lines of a rule, filled. -/
theorem lines_block (rule : Rule) : rule.block.flatMap Statement.lines =
    (plainLines.take 4).map (·.fill (plainFilling rule)) ++
      rule.mappings.flatMap (fun m => mappingLines.map (·.fill (mappingFilling rule m))) ++
      (plainLines.drop 4).map (·.fill (plainFilling rule)) := by
  simp only [Rule.block, List.flatMap_append, List.flatMap_map, lines_mapping]
  simp [plainLines, Statement.lines, conditional, Simple.line, Template.fill, Template.text,
    Stub.Segment.fill, Stub.Segment.text, plainFilling, List.lookup_cons, indent, innerIndent,
    String.append_assoc]

/-- What holds of the filled lines holds of every line of a rule. -/
theorem forall_line {P : String → Prop} {rule : Rule}
    (hplain : ∀ t ∈ plainLines, P (t.fill (plainFilling rule)))
    (hmapping : ∀ m ∈ rule.mappings, ∀ t ∈ mappingLines, P (t.fill (mappingFilling rule m))) :
    ∀ line ∈ rule.block.flatMap Statement.lines, P line := by
  rw [lines_block]
  simp only [List.forall_mem_append, List.forall_mem_map, List.forall_mem_flatMap]
  exact ⟨⟨fun t ht => hplain t (List.mem_of_mem_take ht), hmapping⟩,
    fun t ht => hplain t (List.mem_of_mem_drop ht)⟩

end Scaffold.Hydration
