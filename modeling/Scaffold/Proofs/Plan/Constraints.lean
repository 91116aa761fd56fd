import Scaffold.Plan.Record
import Scaffold.Proofs.Plan.Building
import Scaffold.Proofs.Validation

/-!
# The constraints of a plan

The records of a plan constrain all of their fields. Planning looks only at the few texts that can come out
empty, and that is enough: checking every field of every record that it makes comes to the same, issue by
issue.

* `Rule.given`, `Relation.given`, `Plan.given`: the data from which the records are made.
* `Mapping.check_toValue`, `Rule.check_given`, `Relation.check_given`, `Plan.check_given`: of all fields of a
  record only texts can be refused.
* `makeRelation`, `makePlan`: planning with every field of every record checked.
* `planRelation_eq_make`, `assemble_eq_make`: planning is just that.
-/
namespace Scaffold

open Validation

/-! ## The data of the records -/

/-- The data from which a rule is made. -/
def Hydration.Rule.given (rule : Hydration.Rule) : Value :=
  .record [("relation_name", .text rule.relationName), ("parent_model", .text rule.parentModel),
    ("mappings", .list (rule.mappings.map Hydration.Mapping.toValue))]

/-- The data from which a relation is made. -/
def Relation.given (r : Relation) : Value :=
  .record [("foreign_key", r.foreignKey.toValue), ("relation_name", .text r.relationName),
    ("parent_model", .text r.parentModel), ("resolved", .bool r.resolved),
    ("join_clause", .optionalText r.joinClause), ("select_columns", .texts r.selectColumns),
    ("hydration", (r.hydration.map Hydration.Rule.given).getD .null)]

/-- The data from which a plan is made. -/
def Plan.given (p : Plan) : Value :=
  .record [("table_name", .text p.tableName), ("model_name", .text p.modelName),
    ("columns", .texts p.columns), ("has_soft_delete", .bool p.hasSoftDelete),
    ("fillable_columns", .texts p.fillableColumns), ("insert_column_list", .texts p.insertColumns),
    ("placeholder_list", .texts p.placeholders), ("update_assignment_list", .texts p.assignments),
    ("delete_statement", .text p.deleteStatement),
    ("restore_statement", .optionalText p.restoreStatement),
    ("soft_delete_where_clause", .text p.whereLive), ("soft_delete_and_where_clause", .text p.andLive),
    ("relations", .list (p.relations.map Relation.given)),
    ("warnings", .list (p.warnings.map RelationWarning.toValue))]

theorem Hydration.Mapping.check_toValue (m : Hydration.Mapping) : Mapping.check m.toValue =
    filled [("alias", m.aliasName), ("column", m.column), ("attribute", m.property)] m := by
  have hstart : Checked.ok Mapping.mk = filled [] Mapping.mk := rfl
  unfold Mapping.check
  refine record_eq rfl rfl ?_
  rw [hstart, filled_and_text rfl, filled_and_text rfl, filled_and_text rfl]
  rfl

theorem Hydration.Rule.check_given {rule : Hydration.Rule}
    (h : ∀ m ∈ rule.mappings, Mapping.check m.toValue = .ok m) : Rule.check rule.given =
      filled [("relation_name", rule.relationName), ("parent_model", rule.parentModel)] rule := by
  have hstart : Checked.ok Rule.mk = filled [] Rule.mk := rfl
  unfold Rule.check
  refine record_eq rfl rfl ?_
  rw [hstart, filled_and_text rfl, filled_and_text rfl,
    filled_and_ok (given_ok rfl (listOf_ok h))]
  rfl

theorem RelationWarning.check_toValue (w : RelationWarning) :
    RelationWarning.check w.toValue = .ok w := by
  unfold RelationWarning.check
  exact record_eq rfl rfl rfl

theorem Relation.check_given {r : Relation}
    (hkey : ForeignKey.check r.foreignKey.toValue = .ok r.foreignKey)
    (hrule : ∀ rule ∈ r.hydration, Hydration.Rule.check rule.given = .ok rule) :
    Relation.check r.given =
      filled [("relation_name", r.relationName), ("parent_model", r.parentModel)] r := by
  have hstart : Checked.ok Relation.mk = filled [] Relation.mk := rfl
  have hhydration : optional Hydration.Rule.check
      ((r.hydration.map Hydration.Rule.given).getD .null) = .ok r.hydration := by
    cases hr : r.hydration with
    | none => rfl
    | some rule =>
      have hfound : Hydration.Rule.check rule.given = .ok rule := hrule rule hr
      change (Hydration.Rule.check rule.given).map some = _
      rw [hfound]
      rfl
  unfold Relation.check
  refine record_eq rfl rfl ?_
  rw [hstart, filled_and_ok (required_ok rfl hkey), filled_and_text rfl,
    filled_and_text rfl, filled_and_ok (given_ok rfl (a := r.resolved) rfl),
    filled_and_ok (given_ok rfl (optional_text_ok r.joinClause)),
    filled_and_ok (given_ok rfl (texts_ok r.selectColumns)), filled_and_ok (given_ok rfl hhydration)]
  rfl

theorem Plan.check_given {p : Plan} (hcolumns : p.columns ≠ [])
    (hdelete : p.deleteStatement.isEmpty = false)
    (hrelations : ∀ r ∈ p.relations, Relation.check r.given = .ok r) : Plan.check p.given =
      filled [("table_name", p.tableName), ("model_name", p.modelName)] p := by
  have hstart : Checked.ok Plan.mk = filled [] Plan.mk := rfl
  have hwarnings : listOf RelationWarning.check (.list (p.warnings.map RelationWarning.toValue)) =
      .ok p.warnings := listOf_ok fun w _ => w.check_toValue
  unfold Plan.check
  refine record_eq rfl rfl ?_
  rw [hstart, filled_and_text rfl, filled_and_text rfl,
    filled_and_ok (required_ok rfl (filledTexts_ok hcolumns)),
    filled_and_ok (given_ok rfl (a := p.hasSoftDelete) rfl),
    filled_and_ok (given_ok rfl (texts_ok p.fillableColumns)),
    filled_and_ok (given_ok rfl (texts_ok p.insertColumns)),
    filled_and_ok (given_ok rfl (texts_ok p.placeholders)),
    filled_and_ok (given_ok rfl (texts_ok p.assignments)),
    filled_and_ok (required_ok rfl (filledText_ok hdelete)),
    filled_and_ok (given_ok rfl (optional_text_ok p.restoreStatement)),
    filled_and_ok (given_ok rfl (a := p.whereLive) rfl),
    filled_and_ok (given_ok rfl (a := p.andLive) rfl),
    filled_and_ok (given_ok rfl (listOf_ok hrelations)), filled_and_ok (given_ok rfl hwarnings)]
  rfl

namespace Plan

/-! ## Planning with all checks -/

theorem toExcept_filled {α : Type} (record : String) (texts : List (String × String)) (a : α) :
    (filled texts a).toExcept record = requireFilled record texts >>= fun _ => .ok a := by
  unfold filled requireFilled
  cases texts.filter fun field => field.2.isEmpty <;> rfl

/-- Texts that are not refused by one record are refused by none. -/
theorem filled_of_requireFilled {record : String} {texts : List (String × String)}
    (h : requireFilled record texts = .ok ()) {α : Type} (a : α) : filled texts a = .ok a := by
  unfold requireFilled at h
  unfold filled
  cases hempty : texts.filter fun field => field.2.isEmpty with
  | nil => rfl
  | cons field rest =>
    rw [hempty] at h
    cases h

/-- A mapping, its fields checked. -/
def makeMapping (m : Hydration.Mapping) : Except Rejection Hydration.Mapping :=
  (Hydration.Mapping.check m.toValue).toExcept Hydration.Mapping.record

/-- A rule, its fields checked. -/
def makeRule (rule : Hydration.Rule) : Except Rejection Hydration.Rule :=
  (Hydration.Rule.check rule.given).toExcept Hydration.Rule.record

/-- The warning of a relation, if there is one, its fields checked. -/
def makeWarning (table : String) (r : Relation) : Except Rejection (Option RelationWarning) :=
  match warning? table r with
  | some w => ((RelationWarning.check w.toValue).toExcept RelationWarning.record).map some
  | none => .ok none

/-- The rule of a parent that is known, with every field of its mappings and of its own checked. -/
def makeParts (fk : ForeignKey) : Option Table → Except Rejection Unit
  | none => return ()
  | some parent => do
    let mappings ← (mappingsOf fk.parentTable parent.columns).mapM makeMapping
    let _ ← makeRule ⟨Naming.relationName fk.parentTable, Naming.modelName fk.parentTable, mappings⟩
    return ()

/-- The relation of a key, every field of it and of its parts checked. -/
def makeRelation (table : String) (fk : ForeignKey) (parent : Option Table) :
    Except Rejection Relation := do
  makeParts fk parent
  let r ← (Relation.check (relationOf table fk parent).given).toExcept Relation.record
  let _ ← makeWarning table r
  return r

/-- The plan of a table, every field checked. -/
def makePlan (table : Table) (relations : List Relation) : Except Rejection Plan :=
  (Plan.check (planOf table relations).given).toExcept Plan.record

theorem planMapping_eq_make (relationName column : String) :
    planMapping relationName column = makeMapping (mappingOf relationName column) := by
  unfold makeMapping
  rw [Hydration.Mapping.check_toValue, toExcept_filled]
  rfl

theorem planMappings_eq_make (relationName : String) (columns : List String) :
    planMappings relationName columns = (columns.map (mappingOf relationName)).mapM makeMapping := by
  induction columns with
  | nil => rfl
  | cons column rest ih =>
    rw [planMappings, List.map_cons, List.mapM_cons, planMapping_eq_make, ih]

theorem check_of_makeMapping {m : Hydration.Mapping} (h : ∃ r, makeMapping m = .ok r) :
    Hydration.Mapping.check m.toValue = .ok m := by
  obtain ⟨r, h⟩ := h
  unfold makeMapping at h
  rw [Hydration.Mapping.check_toValue, toExcept_filled] at h
  obtain ⟨_, hfilled, -⟩ := bind_eq_ok.mp h
  rw [Hydration.Mapping.check_toValue]
  exact filled_of_requireFilled hfilled m

theorem makeWarning_eq (table : String) (r : Relation) :
    makeWarning table r = .ok (warning? table r) := by
  unfold makeWarning
  cases warning? table r with
  | none => rfl
  | some w =>
    dsimp only
    rw [w.check_toValue]
    rfl

section Relations

variable {table : String} {fk : ForeignKey} {parent : Option Table}

theorem check_ruleOf {parent : Table}
    (h : ∀ m ∈ mappingsOf fk.parentTable parent.columns, Hydration.Mapping.check m.toValue = .ok m) :
    Hydration.Rule.check (ruleOf fk.parentTable parent.columns).given =
      filled (nameTexts fk) (ruleOf fk.parentTable parent.columns) := Hydration.Rule.check_given h

theorem check_relationOf (hkey : ForeignKey.check fk.toValue = .ok fk)
    (hrule : ∀ t ∈ parent, Hydration.Rule.check (ruleOf fk.parentTable t.columns).given =
      .ok (ruleOf fk.parentTable t.columns)) :
    Relation.check (relationOf table fk parent).given =
      filled (nameTexts fk) (relationOf table fk parent) := by
  have hkey' : ForeignKey.check (relationOf table fk parent).foreignKey.toValue =
      .ok (relationOf table fk parent).foreignKey := by rwa [relationOf_foreignKey]
  have hrule' : ∀ rule ∈ (relationOf table fk parent).hydration,
      Hydration.Rule.check rule.given = .ok rule := by
    intro rule hrule'
    rw [relationOf_hydration] at hrule'
    obtain ⟨t, ht, rfl⟩ := Option.map_eq_some_iff.mp hrule'
    exact hrule t ht
  rw [Relation.check_given hkey' hrule', relationOf_relationName, relationOf_parentModel]
  rfl

theorem check_mappings {columns : List String} {mappings : List Hydration.Mapping}
    (h : planMappings (Naming.relationName fk.parentTable) columns = .ok mappings) :
    ∀ m ∈ mappingsOf fk.parentTable columns, Hydration.Mapping.check m.toValue = .ok m := by
  rw [planMappings_eq_make] at h
  exact fun m hm => check_of_makeMapping (mapM_ok_iff.mp ⟨mappings, h⟩ m hm)

theorem makeParts_unknown (fk : ForeignKey) : makeParts fk none = pure () := rfl

/-- The parts of a relation are refused for a mapping, or else for the names of the rule. -/
theorem makeParts_known (fk : ForeignKey) (parent : Table) : makeParts fk (some parent) =
    planMappings (Naming.relationName fk.parentTable) parent.columns >>= fun _ =>
      requireFilled "HydrationRule" (nameTexts fk) >>= fun _ => pure () := by
  unfold makeParts mappingsOf
  dsimp only
  rw [← planMappings_eq_make]
  refine bind_congr_ok fun mappings hmappings => ?_
  rw [planMappings_ok hmappings]
  have hrule : makeRule (ruleOf fk.parentTable parent.columns) =
      requireFilled "HydrationRule" (nameTexts fk) >>= fun _ =>
        .ok (ruleOf fk.parentTable parent.columns) := by
    unfold makeRule
    rw [check_ruleOf (check_mappings hmappings), toExcept_filled]
    rfl
  refine (congrArg (· >>= fun _ => pure ()) hrule).trans ?_
  rw [bind_assoc]
  rfl

/-- A relation whose key and parts are made is refused for its names alone, and its warning never. -/
theorem makeRelation_eq (table : String) (fk : ForeignKey) (parent : Option Table) :
    makeRelation table fk parent = makeParts fk parent >>= fun _ =>
      (Relation.check (relationOf table fk parent).given).toExcept Relation.record := by
  unfold makeRelation
  refine bind_congr_ok fun _ _ => ?_
  cases (Relation.check (relationOf table fk parent).given).toExcept Relation.record with
  | error e => rfl
  | ok r =>
    refine (congrArg (· >>= fun _ => Except.ok r) (makeWarning_eq table r)).trans ?_
    rfl

theorem planRelation_unknown (table : String) (fk : ForeignKey) : planRelation table fk none =
    requireFilled "RelationPlan" (nameTexts fk) >>= fun _ => .ok (relationOf table fk none) := by
  unfold planRelation nameTexts relationOf
  rfl

/-- A relation with a known parent is refused for a mapping, or else for the names of its rule. -/
theorem planRelation_known (table : String) (fk : ForeignKey) (parent : Table) :
    planRelation table fk (some parent) =
      planMappings (Naming.relationName fk.parentTable) parent.columns >>= fun _ =>
        requireFilled "HydrationRule" (nameTexts fk) >>= fun _ =>
          .ok (relationOf table fk (some parent)) := by
  unfold planRelation
  refine bind_congr_ok fun mappings hmappings => ?_
  rw [planMappings_ok hmappings]
  rfl

/-- Planning a relation comes to checking every field of it and of its parts. -/
theorem planRelation_eq_make (table : String) {fk : ForeignKey} (parent : Option Table)
    (hkey : ForeignKey.check fk.toValue = .ok fk) :
    planRelation table fk parent = makeRelation table fk parent := by
  rw [makeRelation_eq]
  cases parent with
  | none =>
    rw [planRelation_unknown, makeParts_unknown, pure_bind, check_relationOf hkey (by simp),
      toExcept_filled]
    rfl
  | some parent =>
    rw [planRelation_known, makeParts_known, bind_assoc]
    refine bind_congr_ok fun mappings hmappings => ?_
    rw [bind_assoc]
    refine bind_congr_ok fun _ hnames => ?_
    -- names that the rule has accepted are accepted by the relation
    have hfilled : ∀ {α : Type} (a : α), filled (nameTexts fk) a = .ok a :=
      filled_of_requireFilled hnames
    have hrule : Hydration.Rule.check (ruleOf fk.parentTable parent.columns).given =
        .ok (ruleOf fk.parentTable parent.columns) :=
      (check_ruleOf (check_mappings hmappings)).trans (hfilled _)
    have hcheck : Relation.check (relationOf table fk (some parent)).given =
        .ok (relationOf table fk (some parent)) :=
      (check_relationOf hkey fun t ht => by cases ht; exact hrule).trans (hfilled _)
    rw [pure_bind, Checked.toExcept_eq_ok.mpr hcheck]

/-- A relation that is planned passes all of its checks. -/
theorem check_of_planRelation {r : Relation} (hkey : ForeignKey.check fk.toValue = .ok fk)
    (h : planRelation table fk parent = .ok r) : Relation.check r.given = .ok r := by
  have heq : r = relationOf table fk parent := planRelation_ok h
  rw [planRelation_eq_make table parent hkey, makeRelation_eq] at h
  obtain ⟨_, -, hcheck⟩ := bind_eq_ok.mp h
  rw [heq] at hcheck ⊢
  exact Checked.toExcept_eq_ok.mp hcheck

end Relations

/-! ## The plan -/

/-- Planning a table whose relations are planned comes to checking every field of the plan. -/
theorem assemble_eq_make {table : Table} {relations : List Relation} (hcolumns : table.columns ≠ [])
    (hrelations : ∀ r ∈ relations, Relation.check r.given = .ok r) :
    assemble table relations = makePlan table relations := by
  have hcheck : Plan.check (planOf table relations).given =
      filled [("table_name", table.name), ("model_name", table.modelName)] (planOf table relations) :=
    Plan.check_given hcolumns (isEmpty_deleteStatement table.name table.softDelete) hrelations
  unfold makePlan
  rw [hcheck, toExcept_filled]
  rfl

end Plan

end Scaffold
