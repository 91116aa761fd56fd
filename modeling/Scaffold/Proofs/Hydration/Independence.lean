import Scaffold.Proofs.Hydration.Folding
import Scaffold.Proofs.Plan.Query

/-!
# Rules that do not interfere

Each rule takes its values out of the row that the rules before it have left. The names of a rule begin with
its relation, and no relation has a low line in its name, so rules of different relations have no name in
common: each finds what it would find alone, and the order does not matter.

* `applyAll`: rules applied one after the other.
* `applyAll_row`: the row that is left has lost what any rule takes, in whatever order.
* `applyAll_objects`: rules without a name in common give what each gives alone.
* `applyAll_permuted`: the rules of a plan with different relations, in any order.
-/
namespace Scaffold.Hydration

variable {α : Type} {rule : Rule} {rules : List Rule} {row row' : Row α} {name : String}

/-- Applies rules one after the other, each to the row that the ones before it have left. -/
def applyAll : List Rule → Row α → List (Option (List (String × α))) × Row α
  | [], row => ([], row)
  | rule :: rest, row =>
    let (object, left) := rule.apply row
    let (objects, left) := applyAll rest left
    (object :: objects, left)

/-! ## One rule -/

/-- A rule gives the same object for rows with the same values under its names. -/
theorem apply_congr (h : ∀ name ∈ rule.aliases, row'.value? name = row.value? name) :
    (rule.apply row').1 = (rule.apply row).1 := by
  have hvalue : ∀ m ∈ firstUses rule.mappings, row'.value? m.aliasName = row.value? m.aliasName :=
    fun m hm => h _ (mem_firstUses.mp ⟨m, hm, rfl⟩)
  have hmovers : movers rule.mappings row' = movers rule.mappings row :=
    List.filter_congr fun m hm => by rw [hvalue m hm]
  have hmoved : moved rule.mappings row' = moved rule.mappings row := by
    unfold moved
    rw [hmovers]
    exact List.filterMap_congr fun m hm => by rw [hvalue m (List.mem_filter.mp hm).1]
  rw [apply_object, apply_object, hmovers, hmoved]

theorem value?_apply : (rule.apply row).2.value? name =
    if takes rule.mappings row name then none else row.value? name := by
  rw [apply_row, Row.value?_filter fun name => !takes rule.mappings row name]
  cases takes rule.mappings row name <;> rfl

/-- A rule leaves the values under names that are not its own. -/
theorem value?_apply_of_not_mem (h : name ∉ rule.aliases) :
    (rule.apply row).2.value? name = row.value? name := by
  have htakes : takes rule.mappings row name = false := by
    unfold takes
    rw [Bool.and_eq_false_iff]
    exact .inl (Bool.eq_false_iff.mpr fun hmem => h (List.contains_iff_mem.mp hmem))
  rw [value?_apply, htakes]
  rfl

/-! ## Rules one after the other -/

theorem applyAll_cons (rule : Rule) (rest : List Rule) (row : Row α) :
    applyAll (rule :: rest) row = ((rule.apply row).1 :: (applyAll rest (rule.apply row).2).1,
      (applyAll rest (rule.apply row).2).2) := rfl

/-- Rules take out of the row what any one of them takes from it as it was. -/
theorem applyAll_row (rules : List Rule) (row : Row α) : (applyAll rules row).2 =
    row.filter fun e => !rules.any fun rule => takes rule.mappings row e.1 := by
  induction rules generalizing row with
  | nil => exact (List.filter_eq_self.mpr fun e _ => rfl).symm
  | cons rule rest ih =>
    rw [applyAll_cons, ih]
    conv_lhs => arg 2; rw [apply_row]
    rw [List.filter_filter]
    refine List.filter_congr fun e _ => ?_
    rw [List.any_cons]
    cases htakes : takes rule.mappings row e.1 with
    | true => simp
    | false =>
      -- what the first rule leaves, the others find as it was
      have hsame : (rule.apply row).2.value? e.1 = row.value? e.1 := by
        rw [value?_apply, htakes]
        rfl
      have hlater : ∀ later : Rule, takes later.mappings (rule.apply row).2 e.1 =
          takes later.mappings row e.1 := by
        intro later
        unfold takes
        rw [hsame]
      simp [hlater]

/-- Two rules without a name in common. -/
def Apart (rule rule' : Rule) : Prop := ∀ name ∈ rule.aliases, name ∉ rule'.aliases

theorem Apart.symm {rule rule' : Rule} (h : Apart rule rule') : Apart rule' rule :=
  fun name hname' hname => h name hname hname'

/-- Rules without a name in common give what each of them gives alone. -/
theorem applyAll_objects (h : rules.Pairwise Apart) (row : Row α) :
    (applyAll rules row).1 = rules.map fun rule => (rule.apply row).1 := by
  induction rules generalizing row with
  | nil => rfl
  | cons rule rest ih =>
    obtain ⟨hfirst, hrest⟩ := List.pairwise_cons.mp h
    rw [applyAll_cons, ih hrest, List.map_cons]
    refine congrArg _ (List.map_congr_left fun later hlater => ?_)
    refine apply_congr fun name hname => value?_apply_of_not_mem ?_
    exact (hfirst later hlater).symm name hname

/-! ## The rules of a plan -/

theorem aliases_ruleOf (parentTable : String) (columns : List String) :
    (Plan.ruleOf parentTable columns).aliases =
      columns.map (Sql.relationAlias (Naming.relationName parentTable)) := by
  simp [Rule.aliases, Plan.ruleOf, Plan.mappingsOf, Plan.mappingOf, Function.comp_def]

/-- The rules of parents whose relations are named differently have no name in common. -/
theorem apart_ruleOf {parentTable parentTable' : String} {columns columns' : List String}
    (h : Naming.relationName parentTable ≠ Naming.relationName parentTable') :
    Apart (Plan.ruleOf parentTable columns) (Plan.ruleOf parentTable' columns') := by
  have hlow : ∀ table, '_' ∉ (Naming.relationName table).toList := fun _ =>
    Naming.separator_not_mem_relationName (by decide)
  intro name hname hname'
  rw [aliases_ruleOf] at hname hname'
  obtain ⟨column, -, rfl⟩ := List.mem_map.mp hname
  obtain ⟨column', -, heq⟩ := List.mem_map.mp hname'
  exact h ((Sql.relationAlias_inj (hlow _) (hlow _)).mp heq).1.symm

section Reading

variable {σ : Type} {resolve : String → Action σ (Option Table)} {table : Table} {plan : Plan}

/-- Only relations whose parents are known have rules. -/
theorem hydrationRules_resolved (h : Plan.Built resolve table plan) :
    plan.hydrationRules = plan.resolvedRelations.filterMap (·.hydration) := by
  unfold Plan.hydrationRules Plan.resolvedRelations
  rw [List.filterMap_filter]
  refine List.filterMap_congr fun r hr => ?_
  obtain ⟨parent, -, heq⟩ := h.planned r hr
  rw [heq]
  cases parent <;> rfl

theorem rule_of_resolved (h : Plan.Built resolve table plan) {r : Relation}
    (hr : r ∈ plan.resolvedRelations) {rule : Rule} (hrule : rule ∈ r.hydration) :
    ∃ columns, rule = Plan.ruleOf r.parentTable columns ∧
      r.relationName = Naming.relationName r.parentTable := by
  obtain ⟨-, parent, hknown⟩ := h.known hr
  rw [hknown.relation, Plan.relationOf_hydration] at hrule
  exact ⟨parent.columns, (Option.some.inj hrule).symm, hknown.relationName⟩

theorem pairwise_apart (h : Plan.Built resolve table plan)
    (hnames : (plan.resolvedRelations.map (·.relationName)).Nodup) :
    plan.hydrationRules.Pairwise Apart := by
  rw [hydrationRules_resolved h, List.pairwise_filterMap]
  refine (List.pairwise_map.mp hnames).imp_of_mem fun {r r'} hr hr' hne rule hrule rule' hrule' => ?_
  obtain ⟨columns, rfl, hname⟩ := rule_of_resolved h hr hrule
  obtain ⟨columns', rfl, hname'⟩ := rule_of_resolved h hr' hrule'
  rw [hname, hname'] at hne
  exact apart_ruleOf hne

end Reading

/-- Where the relations of a plan have different names, its rules give in any order what each of them gives
alone for the whole row, and leave the same row. -/
theorem applyAll_permuted {σ : Type} [Journaled σ] {resolve : String → Action σ (Option Table)}
    {table : Table} {plan : Plan} {s s' : σ}
    (hbuild : (Plan.build table resolve).run s = (.ok plan, s'))
    (hnames : (plan.resolvedRelations.map (·.relationName)).Nodup)
    (hperm : rules.Perm plan.hydrationRules) (row : Row α) :
    (applyAll rules row).1 = rules.map (fun rule => (rule.apply row).1) ∧
      (applyAll rules row).2 = (applyAll plan.hydrationRules row).2 := by
  have hapart : rules.Pairwise Apart :=
    (hperm.pairwise_iff Apart.symm).mpr (pairwise_apart (Plan.built_of_build hbuild) hnames)
  refine ⟨applyAll_objects hapart row, ?_⟩
  rw [applyAll_row, applyAll_row]
  refine List.filter_congr fun e _ => ?_
  rw [hperm.any_eq]

/-- A table of parcels, each from a user to a shop. -/
def parcels : Table where
  name := "parcels"
  columns := ["id", "user_id", "shop_id"]
  foreignKeys := [⟨"user_id", "users", "id"⟩, ⟨"shop_id", "shops", "id"⟩]

/-- A parcel with the columns of its user and its shop. -/
def parcelRow : Row Nat := [("id", some 1), ("user_id", some 7), ("shop_id", some 9)]

/-- The rules of the parcels, the last one first. -/
theorem parcels_permuted :
    ∃ plan w, (Plan.build parcels Plan.findUsers).run {} = (.ok plan, w) ∧
      (plan.resolvedRelations.map (·.relationName)).Nodup ∧
      plan.hydrationRules.reverse.Perm plan.hydrationRules ∧
      applyAll plan.hydrationRules.reverse parcelRow =
        ([some [("id", 9)], some [("id", 7)]], [("id", some 1)]) ∧
      (applyAll plan.hydrationRules.reverse parcelRow).1 =
        plan.hydrationRules.reverse.map (fun rule => (rule.apply parcelRow).1) ∧
      (applyAll plan.hydrationRules.reverse parcelRow).2 =
        (applyAll plan.hydrationRules parcelRow).2 := by
  obtain ⟨w, hbuild⟩ : ∃ w, (Plan.build parcels Plan.findUsers).run {} =
      (.ok (Plan.planOf parcels (parcels.foreignKeys.map fun fk =>
        Plan.relationOf "parcels" fk (some Plan.users))), w) :=
    Action.exists_run (by decide +kernel)
  have hnames : ((Plan.planOf parcels (parcels.foreignKeys.map fun fk =>
      Plan.relationOf "parcels" fk (some Plan.users))).resolvedRelations.map (·.relationName)).Nodup := by
    decide +kernel
  have hperm := List.reverse_perm (Plan.planOf parcels (parcels.foreignKeys.map fun fk =>
    Plan.relationOf "parcels" fk (some Plan.users))).hydrationRules
  exact ⟨_, w, hbuild, hnames, hperm, by decide +kernel, applyAll_permuted hbuild hnames hperm parcelRow⟩

end Scaffold.Hydration
