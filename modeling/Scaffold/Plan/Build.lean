import Scaffold.Plan.Basic
import Scaffold.Workspace

/-!
# Planning

* `Plan.build`: the plan of a table, given a way to look up its parents. Each foreign key asks once, in
  order; a failed look-up ends the planning.
-/
namespace Scaffold.Plan

variable {σ : Type} [Journaled σ]

/-- Looks up the parent of one foreign key and plans the relation. -/
def buildRelation (table : String) (resolve : String → Action σ (Option Table)) (fk : ForeignKey) :
    Action σ Relation := do
  let parent ← resolve fk.parentTable
  let relation ← Action.lift ((planRelation table fk parent).mapError .rejected)
  match warning? table relation with
  | some warning => note .warning .plan warning.message
  | none => note .debug .plan ("Relation " ++ relation.display ++ " planned.")
  return relation

/-- The plan of a table. -/
def build (table : Table) (resolve : String → Action σ (Option Table)) : Action σ Plan := do
  let relations ← Action.collect table.foreignKeys (buildRelation table.name resolve)
  let plan ← Action.lift ((assemble table relations).mapError .rejected)
  note .info .plan
    ("Planned " ++ plan.modelName ++ ": " ++ toString plan.fillableColumns.length ++
      " fillable columns, soft delete " ++ (if plan.hasSoftDelete then "on" else "off") ++ ", " ++
      toString plan.joinClauses.length ++ "/" ++ toString plan.relations.length ++
      " relations joined.")
  return plan

end Scaffold.Plan
