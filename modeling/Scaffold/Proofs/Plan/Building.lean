import Scaffold.Plan.Build
import Scaffold.Proofs.Planning

/-!
# What a plan is

Planning refuses some names, and otherwise the plan is a function of the table and of the parents that
were looked up, key by key.

* `relationOf`, `planOf`: the relation of a key and the plan of a table, nothing refused.
* `Answering`: a look-up of which something is known, as long as it is in states of some kind.
* `build_ok`: what such a look-up says of the relations of a plan.
* `Built`: what is known of a plan that was built.
* `built_of_build`: planning that returns a plan returns the plan of the table, with a relation for each
  key and its parent.
-/
namespace Scaffold.Plan

/-- The mapping of a column of a parent. -/
def mappingOf (relationName column : String) : Hydration.Mapping :=
  ⟨Sql.relationAlias relationName column, column, Naming.camel column⟩

/-- The mappings of the columns of a parent. -/
def mappingsOf (parentTable : String) (columns : List String) : List Hydration.Mapping :=
  columns.map (mappingOf (Naming.relationName parentTable))

/-- The rule of a parent. -/
def ruleOf (parentTable : String) (columns : List String) : Hydration.Rule :=
  ⟨Naming.relationName parentTable, Naming.modelName parentTable, mappingsOf parentTable columns⟩

/-- The columns selected of a parent. -/
def selectsOf (parentTable : String) (columns : List String) : List String :=
  (mappingsOf parentTable columns).map fun m => Sql.selectColumn parentTable m.column m.aliasName

/-- The relation of a key. -/
def relationOf (table : String) (fk : ForeignKey) : Option Table → Relation
  | none => {
      foreignKey := fk
      relationName := Naming.relationName fk.parentTable
      parentModel := Naming.modelName fk.parentTable }
  | some parent => {
      foreignKey := fk
      relationName := Naming.relationName fk.parentTable
      parentModel := Naming.modelName fk.parentTable
      resolved := true
      joinClause := some (Sql.joinClause table fk)
      selectColumns := selectsOf fk.parentTable parent.columns
      hydration := some (ruleOf fk.parentTable parent.columns) }

/-- The plan of a table whose relations are planned. -/
def planOf (table : Table) (relations : List Relation) : Plan :=
  let fillable := Sql.fillableColumns table.columns
  let live := Sql.liveCondition table.name
  let soft := table.softDelete
  { tableName := table.name
    modelName := table.modelName
    columns := table.columns
    hasSoftDelete := soft
    fillableColumns := fillable
    insertColumns := Sql.insertColumns fillable
    placeholders := Sql.placeholders fillable
    assignments := Sql.assignments fillable
    deleteStatement := Sql.deleteStatement table.name soft
    restoreStatement := if soft then some (Sql.restoreStatement table.name) else none
    whereLive := if soft then "WHERE " ++ live else ""
    andLive := if soft then "AND " ++ live else ""
    relations := relations
    warnings := relations.filterMap (warning? table.name) }

@[simp] theorem relationOf_foreignKey (table : String) (fk : ForeignKey) (parent : Option Table) :
    (relationOf table fk parent).foreignKey = fk := by
  cases parent <;> rfl

@[simp] theorem relationOf_relationName (table : String) (fk : ForeignKey) (parent : Option Table) :
    (relationOf table fk parent).relationName = Naming.relationName fk.parentTable := by
  cases parent <;> rfl

@[simp] theorem relationOf_parentModel (table : String) (fk : ForeignKey) (parent : Option Table) :
    (relationOf table fk parent).parentModel = Naming.modelName fk.parentTable := by
  cases parent <;> rfl

@[simp] theorem relationOf_joinClause (table : String) (fk : ForeignKey) (parent : Table) :
    (relationOf table fk (some parent)).joinClause = some (Sql.joinClause table fk) := rfl

@[simp] theorem relationOf_selectColumns (table : String) (fk : ForeignKey) (parent : Table) :
    (relationOf table fk (some parent)).selectColumns = selectsOf fk.parentTable parent.columns := rfl

@[simp] theorem relationOf_hydration (table : String) (fk : ForeignKey) (parent : Option Table) :
    (relationOf table fk parent).hydration =
      parent.map fun parent => ruleOf fk.parentTable parent.columns := by
  cases parent <;> rfl

theorem isEmpty_joinClause (table : String) (fk : ForeignKey) :
    (Sql.joinClause table fk).isEmpty = false := by
  rw [Bool.eq_false_iff, ne_eq, String.isEmpty_iff]
  intro hempty
  have hend : Naming.quoteIdentifier primaryKeyColumn = "" := (String.append_eq_empty_iff.mp hempty).2
  exact absurd hend (by decide)

theorem isEmpty_deleteStatement (table : String) (soft : Bool) :
    (Sql.deleteStatement table soft).isEmpty = false := by
  unfold Sql.deleteStatement
  split <;> simp

/-! ## What planning returns -/

theorem planMappings_ok {relationName : String} {columns : List String}
    {mappings : List Hydration.Mapping} (h : planMappings relationName columns = .ok mappings) :
    mappings = columns.map (mappingOf relationName) := by
  induction columns generalizing mappings with
  | nil => cases h; rfl
  | cons column rest ih =>
    rw [planMappings] at h
    obtain ⟨m, hm, h⟩ := bind_eq_ok.mp h
    obtain ⟨others, hothers, h⟩ := bind_eq_ok.mp h
    obtain ⟨-, -, hm⟩ := bind_eq_ok.mp hm
    cases hm
    cases h
    rw [ih hothers, List.map_cons, mappingOf]

theorem planRelation_ok {table : String} {fk : ForeignKey} {parent : Option Table} {r : Relation}
    (h : planRelation table fk parent = .ok r) : r = relationOf table fk parent := by
  unfold planRelation at h
  cases parent with
  | none =>
    obtain ⟨-, -, h⟩ := bind_eq_ok.mp h
    cases h
    rfl
  | some parent =>
    obtain ⟨mappings, hmappings, h⟩ := bind_eq_ok.mp h
    obtain ⟨-, -, h⟩ := bind_eq_ok.mp h
    cases h
    rw [planMappings_ok hmappings]
    rfl

/-- A relation that is planned has a name. -/
theorem planRelation_named {table : String} {fk : ForeignKey} {parent : Option Table} {r : Relation}
    (h : planRelation table fk parent = .ok r) : r.relationName ≠ "" := by
  intro hempty
  rw [planRelation_ok h, relationOf_relationName, ← String.isEmpty_iff,
    Naming.relationName_isEmpty_iff] at hempty
  obtain ⟨e, he⟩ := planRelation_error_iff.mpr (.inl hempty)
  rw [h] at he
  cases he

theorem assemble_ok {table : Table} {relations : List Relation} {plan : Plan}
    (h : assemble table relations = .ok plan) : plan = planOf table relations := by
  unfold assemble at h
  obtain ⟨-, -, h⟩ := bind_eq_ok.mp h
  cases h
  rfl

/-! ## Building -/

variable {σ : Type} {resolve : String → Action σ (Option Table)} {table : Table}

/-- A look-up of a table that gave an answer. -/
def Answered (resolve : String → Action σ (Option Table)) (name : String) (parent : Option Table) :
    Prop :=
  ∃ s s', (resolve name).run s = (.ok parent, s')

/-- The relation of a key and of a parent that was looked up for it. -/
def Planned (resolve : String → Action σ (Option Table)) (table : Table) (r : Relation) : Prop :=
  ∃ parent, Answered resolve r.foreignKey.parentTable parent ∧
    r = relationOf table.name r.foreignKey parent

/-- A plan that was built: the plan of the table with a relation for each key. -/
structure Built (resolve : String → Action σ (Option Table)) (table : Table) (plan : Plan) : Prop where
  eq_planOf : plan = planOf table plan.relations
  keys : plan.relations.map (·.foreignKey) = table.foreignKeys
  planned : ∀ r ∈ plan.relations, Planned resolve table r

/-- What the relations of a plan that was built have from their keys alone. -/
theorem Built.map_relations {β : Type} {plan : Plan} (h : Built resolve table plan)
    {ofRelation : Relation → β} {ofKey : ForeignKey → β}
    (hkey : ∀ fk parent, ofRelation (relationOf table.name fk parent) = ofKey fk) :
    plan.relations.map ofRelation = table.foreignKeys.map ofKey := by
  rw [← h.keys, List.map_map]
  refine List.map_congr_left fun r hr => ?_
  obtain ⟨parent, -, heq⟩ := h.planned r hr
  rw [heq, hkey, Function.comp_apply, relationOf_foreignKey]

/-- The relations of a plan that was built are named after the parents of the keys. -/
theorem Built.relationNames {plan : Plan} (h : Built resolve table plan) :
    plan.relations.map (·.relationName) =
      table.foreignKeys.map fun fk => Naming.relationName fk.parentTable :=
  h.map_relations (relationOf_relationName table.name)

theorem lift_ok {α : Type} {x : Except Validation.Rejection α} {a : α} {s s' : σ}
    (h : (Action.lift (x.mapError Fault.rejected) : Action σ α).run s = (.ok a, s')) :
    x = .ok a ∧ s' = s :=
  ⟨mapError_eq_ok.mp (congrArg Prod.fst h), (congrArg Prod.snd h).symm⟩

variable [Journaled σ]

/-- A look-up that answers as `Answer` says in the states of a kind, and that stays in that kind. -/
structure Answering (resolve : String → Action σ (Option Table)) (inv : σ → Prop)
    (Answer : String → Option Table → Prop) : Prop where
  answer : ∀ {name parent s s'}, inv s → (resolve name).run s = (.ok parent, s') →
    Answer name parent ∧ inv s'
  record : ∀ n s, inv s → inv (Journaled.record n s)

/-- Any look-up answers what it answers. -/
theorem answering_answered (resolve : String → Action σ (Option Table)) :
    Answering resolve (fun _ => True) (Answered resolve) :=
  ⟨fun _ h => ⟨⟨_, _, h⟩, trivial⟩, fun _ _ _ => trivial⟩

variable {inv : σ → Prop} {Answer Answer' : String → Option Table → Prop}

theorem Answering.mono (h : Answering resolve inv Answer)
    (hanswer : ∀ name parent, Answer name parent → Answer' name parent) :
    Answering resolve inv Answer' :=
  ⟨fun hs hrun => (h.answer hs hrun).imp_left (hanswer _ _), h.record⟩

/-- A relation is built in three steps: the parent is looked up, the relation is planned, and what came of
it is told. -/
theorem buildRelation_steps {name : String} {fk : ForeignKey} {r : Relation} {s s' : σ}
    (hrun : (buildRelation name resolve fk).run s = (.ok r, s')) :
    ∃ parent s₁ n, (resolve fk.parentTable).run s = (.ok parent, s₁) ∧
      planRelation name fk parent = .ok r ∧ s' = Journaled.record n s₁ := by
  unfold buildRelation at hrun
  obtain ⟨parent, s₁, hparent, hplanning⟩ := Action.of_run_bind hrun
  obtain ⟨relation, s₂, hrelation, htelling⟩ := Action.of_run_bind hplanning
  obtain ⟨hplan, hsame⟩ := lift_ok hrelation
  rw [hsame] at htelling
  dsimp only at htelling
  split at htelling <;>
  · obtain ⟨_, s₃, hnote, hend⟩ := Action.of_run_bind htelling
    cases hnote
    cases hend
    exact ⟨parent, s₁, _, hparent, hplan, rfl⟩

theorem buildRelation_ok (h : Answering resolve inv Answer) {name : String} {fk : ForeignKey}
    {r : Relation} {s s' : σ} (hs : inv s)
    (hrun : (buildRelation name resolve fk).run s = (.ok r, s')) :
    (∃ parent, Answer fk.parentTable parent ∧ r = relationOf name fk parent) ∧ inv s' := by
  obtain ⟨parent, s₁, n, hparent, hplan, rfl⟩ := buildRelation_steps hrun
  obtain ⟨hanswer, hs₁⟩ := h.answer hs hparent
  exact ⟨⟨parent, hanswer, planRelation_ok hplan⟩, h.record _ _ hs₁⟩

theorem collect_ok (h : Answering resolve inv Answer) {keys : List ForeignKey}
    {relations : List Relation} {s s' : σ} (hs : inv s)
    (hrun : (Action.collect keys (buildRelation table.name resolve)).run s = (.ok relations, s')) :
    relations.map (·.foreignKey) = keys ∧ ∀ r ∈ relations, ∃ parent,
      Answer r.foreignKey.parentTable parent ∧ r = relationOf table.name r.foreignKey parent := by
  induction keys generalizing relations s with
  | nil => cases hrun; exact ⟨rfl, by simp⟩
  | cons fk rest ih =>
    rw [Action.run_collect_cons] at hrun
    obtain ⟨r, s₁, hr, hrun⟩ := Action.of_run_bind hrun
    obtain ⟨others, s₂, hothers, hrun⟩ := Action.of_run_bind hrun
    cases hrun
    obtain ⟨⟨parent, hparent, rfl⟩, hs₁⟩ := buildRelation_ok h hs hr
    obtain ⟨hkeys, hplanned⟩ := ih hs₁ hothers
    refine ⟨by rw [List.map_cons, relationOf_foreignKey, hkeys], ?_⟩
    intro r hr
    rcases List.mem_cons.mp hr with rfl | hr
    · exact ⟨parent, by rw [relationOf_foreignKey]; exact hparent, by rw [relationOf_foreignKey]⟩
    · exact hplanned r hr

/-- Planning that returns a plan returns the plan of the table, with a relation for each key and for
the parent that the look-up answered. -/
theorem build_ok (h : Answering resolve inv Answer) {plan : Plan} {s s' : σ} (hs : inv s)
    (hrun : (build table resolve).run s = (.ok plan, s')) :
    plan = planOf table plan.relations ∧ plan.relations.map (·.foreignKey) = table.foreignKeys ∧
      ∀ r ∈ plan.relations, ∃ parent,
        Answer r.foreignKey.parentTable parent ∧ r = relationOf table.name r.foreignKey parent := by
  unfold build at hrun
  obtain ⟨relations, s₁, hrelations, hrun⟩ := Action.of_run_bind hrun
  obtain ⟨plan', s₂, hplan, hrun⟩ := Action.of_run_bind hrun
  obtain ⟨-, s₃, -, hrun⟩ := Action.of_run_bind hrun
  cases hrun
  obtain ⟨hkeys, hplanned⟩ := collect_ok h hs hrelations
  have heq := assemble_ok (lift_ok hplan).1
  have hsame : plan.relations = relations := by rw [heq]; rfl
  rw [← hsame] at heq hkeys hplanned
  exact ⟨heq, hkeys, hplanned⟩

/-- The relations of a plan have names. -/
theorem named_of_build {plan : Plan} {s s' : σ} (hrun : (build table resolve).run s = (.ok plan, s')) :
    ∀ r ∈ plan.relations, r.relationName ≠ "" := by
  unfold build at hrun
  obtain ⟨relations, s₁, hrelations, hrun⟩ := Action.of_run_bind hrun
  obtain ⟨plan', s₂, hplan, hrun⟩ := Action.of_run_bind hrun
  obtain ⟨-, s₃, -, hrun⟩ := Action.of_run_bind hrun
  cases hrun
  rw [assemble_ok (lift_ok hplan).1]
  intro r hr
  obtain ⟨fk, -, _, _, hrelation⟩ := Action.exists_run_of_collect hrelations r hr
  obtain ⟨parent, _, _, -, hplanned, -⟩ := buildRelation_steps hrelation
  exact planRelation_named hplanned

/-- Planning that returns a plan has built it. -/
theorem built_of_build {plan : Plan} {s s' : σ} (h : (build table resolve).run s = (.ok plan, s')) :
    Built resolve table plan := by
  obtain ⟨heq, hkeys, hplanned⟩ := build_ok (answering_answered resolve) trivial h
  exact ⟨heq, hkeys, hplanned⟩

end Scaffold.Plan
