import Scaffold.Proofs.Plan.Building

/-!
# What planning asks, and what it makes of the answers

Planning looks up the parent of each key, once and in order. A look-up that keeps a record of what it was
asked shows this from the outside: planning by it goes just as without the record. From the keys and the
answers alone follows what a plan lists.

* `recorded`, `lookups`: a look-up with a record, and the record of a planning.
* `Keeps`, `build_keeps`: planning by a look-up with a record does what it does by the look-up itself.
* `collect_recorded`: the record and the relations of any number of keys, by induction on the keys.
* `Aligned`: all lists of a plan, told from the keys and their answers.
* `build_aligned`: a plan that is returned is aligned with the record of its planning.
-/
namespace Scaffold.Plan

variable {σ : Type} {table : Table} {resolve : String → Action σ (Option Table)}

/-- A look-up that also keeps what it was asked, with its answer. -/
def recorded (resolve : String → Action σ (Option Table)) (name : String) :
    Action (List (String × Option Table) × σ) (Option Table) := do
  let answer ← Action.onSecond (resolve name)
  Action.modify fun s => (s.1 ++ [(name, answer)], s.2)
  return answer

/-- What a planning asks, with the answers, in order. -/
def lookups [Journaled σ] (table : Table) (resolve : String → Action σ (Option Table)) (s : σ) :
    List (String × Option Table) :=
  ((build table (recorded resolve)).run ([], s)).2.1

/-! ## A record changes nothing -/

section Keeping

variable {α β γ : Type}

/-- An action that does what another one does, and besides adds to a list. -/
def Keeps (x' : Action (List γ × σ) α) (x : Action σ α) : Prop :=
  ∀ log s, ∃ more, x'.run (log, s) = ((x.run s).1, (log ++ more, (x.run s).2))

theorem Keeps.pure (a : α) : Keeps (γ := γ) (pure a : Action (List γ × σ) α) (pure a : Action σ α) :=
  fun log s => ⟨[], by rw [List.append_nil]; rfl⟩

theorem Keeps.lift (r : Except Fault α) :
    Keeps (γ := γ) (Action.lift r : Action (List γ × σ) α) (Action.lift r : Action σ α) :=
  fun log s => ⟨[], by rw [List.append_nil]; rfl⟩

theorem Keeps.note [Journaled σ] (level : Level) (source : Source) (message : String) :
    Keeps (γ := γ) (note level source message : Action (List γ × σ) Unit)
      (note level source message : Action σ Unit) :=
  fun log s => ⟨[], by rw [List.append_nil]; rfl⟩

theorem Keeps.bind {x' : Action (List γ × σ) α} {x : Action σ α} {f' : α → Action (List γ × σ) β}
    {f : α → Action σ β} (hx : Keeps x' x) (hf : ∀ a, Keeps (f' a) (f a)) :
    Keeps (x' >>= f') (x >>= f) := by
  intro log s
  obtain ⟨more, hx'⟩ := hx log s
  cases hrun : x.run s with
  | mk outcome s₁ =>
    rw [hrun] at hx'
    cases outcome with
    | error e => exact ⟨more, by rw [Action.run_bind_error hx', Action.run_bind_error hrun]⟩
    | ok a =>
      obtain ⟨later, hf'⟩ := hf a (log ++ more) s₁
      refine ⟨more ++ later, ?_⟩
      rw [Action.run_bind_ok hx', Action.run_bind_ok hrun, hf', List.append_assoc]

theorem Keeps.collect {g' : β → Action (List γ × σ) α} {g : β → Action σ α}
    (h : ∀ b, Keeps (g' b) (g b)) (items : List β) :
    Keeps (Action.collect items g') (Action.collect items g) := by
  induction items with
  | nil => exact Keeps.pure []
  | cons b rest ih =>
    rw [Action.run_collect_cons, Action.run_collect_cons]
    exact (h b).bind fun a => ih.bind fun others => Keeps.pure (a :: others)

theorem recorded_keeps (resolve : String → Action σ (Option Table)) (name : String) :
    Keeps (recorded resolve name) (resolve name) := by
  intro log s
  unfold recorded
  cases hrun : (resolve name).run s with
  | mk outcome s₁ =>
    have hsecond : (Action.onSecond (resolve name)).run (log, s) = (outcome, (log, s₁)) := by
      unfold Action.run at hrun ⊢
      simp only [Action.onSecond, hrun]
    cases outcome with
    | error e => exact ⟨[], by rw [Action.run_bind_error hsecond, List.append_nil]⟩
    | ok answer => exact ⟨[(name, answer)], by rw [Action.run_bind_ok hsecond]; rfl⟩

variable [Journaled σ]

theorem buildRelation_keeps (name : String) (fk : ForeignKey) :
    Keeps (buildRelation name (recorded resolve) fk) (buildRelation name resolve fk) := by
  refine (recorded_keeps resolve fk.parentTable).bind fun parent => ?_
  refine (Keeps.lift _).bind fun relation => ?_
  cases warning? name relation with
  | none => exact (Keeps.note _ _ _).bind fun _ => Keeps.pure relation
  | some warning => exact (Keeps.note _ _ _).bind fun _ => Keeps.pure relation

/-- Planning by a look-up with a record does what it does without one. -/
theorem build_keeps (table : Table) (resolve : String → Action σ (Option Table)) :
    Keeps (build table (recorded resolve)) (build table resolve) := by
  refine (Keeps.collect (buildRelation_keeps table.name) table.foreignKeys).bind fun relations => ?_
  refine (Keeps.lift _).bind fun plan => ?_
  exact (Keeps.note _ _ _).bind fun _ => Keeps.pure plan

theorem build_recorded (table : Table) (resolve : String → Action σ (Option Table)) (s : σ) :
    (build table (recorded resolve)).run ([], s) =
      (((build table resolve).run s).1, (lookups table resolve s, ((build table resolve).run s).2)) := by
  obtain ⟨more, h⟩ := build_keeps table resolve [] s
  unfold lookups
  rw [h]

end Keeping

/-! ## What the record holds -/

section Asking

theorem recorded_ok {name : String} {answer : Option Table} {s s' : List (String × Option Table) × σ}
    (h : (recorded resolve name).run s = (.ok answer, s')) : s'.1 = s.1 ++ [(name, answer)] := by
  unfold recorded at h
  obtain ⟨found, s₁, hfound, h⟩ := Action.of_run_bind h
  have hkept : s₁.1 = s.1 := congrArg (fun r => r.2.1) hfound.symm
  cases h
  rw [← hkept]

variable [Journaled σ]

/-- The entry of the record for a key and its answer. -/
def entry (a : ForeignKey × Option Table) : String × Option Table := (a.1.parentTable, a.2)

theorem buildRelation_recorded {name : String} {fk : ForeignKey} {r : Relation}
    {s s' : List (String × Option Table) × σ}
    (h : (buildRelation name (recorded resolve) fk).run s = (.ok r, s')) :
    ∃ parent, s'.1 = s.1 ++ [entry (fk, parent)] ∧ planRelation name fk parent = .ok r := by
  obtain ⟨parent, s₁, n, hparent, hplan, rfl⟩ := buildRelation_steps h
  have hlog := recorded_ok hparent
  exact ⟨parent, hlog, hplan⟩

/-- The keys are looked up one after the other, and each gives the relation of its answer. -/
theorem collect_recorded {name : String} {keys : List ForeignKey} {relations : List Relation}
    {s s' : List (String × Option Table) × σ}
    (h : (Action.collect keys (buildRelation name (recorded resolve))).run s = (.ok relations, s')) :
    ∃ asked : List (ForeignKey × Option Table), asked.map (·.1) = keys ∧
      s'.1 = s.1 ++ asked.map entry ∧ relations = asked.map (fun a => relationOf name a.1 a.2) ∧
      ∀ a ∈ asked, ∃ r, planRelation name a.1 a.2 = .ok r := by
  induction keys generalizing relations s with
  | nil =>
    cases h
    exact ⟨[], rfl, by rw [List.map_nil, List.append_nil], rfl, by simp⟩
  | cons fk rest ih =>
    rw [Action.run_collect_cons] at h
    obtain ⟨r, s₁, hr, h⟩ := Action.of_run_bind h
    obtain ⟨others, s₂, hothers, h⟩ := Action.of_run_bind h
    cases h
    obtain ⟨parent, hs₁, hplan⟩ := buildRelation_recorded hr
    obtain ⟨asked, hkeys, hs₂, hrelations, hplanned⟩ := ih hothers
    refine ⟨(fk, parent) :: asked, by rw [List.map_cons, hkeys], ?_, ?_, ?_⟩
    · rw [hs₂, hs₁, List.map_cons, List.append_assoc, List.singleton_append]
    · rw [List.map_cons, hrelations, planRelation_ok hplan]
    · exact List.forall_mem_cons.mpr ⟨⟨r, hplan⟩, hplanned⟩

/-- The keys of a plan that is returned, with the answers of the look-up. -/
theorem build_asked {plan : Plan} {s s' : σ} (h : (build table resolve).run s = (.ok plan, s')) :
    ∃ asked : List (ForeignKey × Option Table), asked.map (·.1) = table.foreignKeys ∧
      lookups table resolve s = asked.map entry ∧
      plan = planOf table (asked.map fun a => relationOf table.name a.1 a.2) ∧
      ∀ a ∈ asked, ∃ r, planRelation table.name a.1 a.2 = .ok r := by
  have hrun := build_recorded table resolve s
  rw [h] at hrun
  unfold build at hrun
  obtain ⟨relations, s₁, hrelations, hrun⟩ := Action.of_run_bind hrun
  obtain ⟨plan', s₂, hplan, hrun⟩ := Action.of_run_bind hrun
  obtain ⟨_, s₃, hnote, hrun⟩ := Action.of_run_bind hrun
  have hlog : lookups table resolve s = s₂.1 :=
    (congrArg (fun r => r.2.1) hrun).symm.trans (congrArg (fun r => r.2.1) hnote).symm
  cases hrun
  obtain ⟨hassemble, rfl⟩ := lift_ok hplan
  obtain ⟨asked, hkeys, hasked, rfl, hplanned⟩ := collect_recorded hrelations
  exact ⟨asked, hkeys, by rw [hlog, hasked, List.nil_append], assemble_ok hassemble, hplanned⟩

end Asking

/-! ## What a plan lists -/

/-- The keys whose parents the look-up knew, with these parents. -/
def known (asked : List (ForeignKey × Option Table)) : List (ForeignKey × Table) :=
  asked.filterMap fun a => a.2.map (a.1, ·)

/-- The keys whose parents the look-up did not know. -/
def unknown (asked : List (ForeignKey × Option Table)) : List ForeignKey :=
  (asked.filter (·.2.isNone)).map (·.1)

/-- A column of a parent, and the name under which it is selected. -/
structure Selection where
  parentTable : String
  column : String
  aliasName : String

/-- A selection as it stands in the query. -/
def Selection.text (x : Selection) : String := Sql.selectColumn x.parentTable x.column x.aliasName

/-- The columns of all known parents, key by key and column by column. -/
def selections (asked : List (ForeignKey × Option Table)) : List Selection :=
  (known asked).flatMap fun k => k.2.columns.map fun column =>
    ⟨k.1.parentTable, column, Sql.relationAlias (Naming.relationName k.1.parentTable) column⟩

/-- The lists of a plan follow the keys and the answers to them: a relation for each key, a warning for each
unknown parent, a join and a rule for each known one, and the columns that are selected under just the
names that the rules read. -/
structure Aligned (table : Table) (asked : List (ForeignKey × Option Table)) (plan : Plan) : Prop where
  keys : asked.map (·.1) = table.foreignKeys
  relations : plan.relations.map (fun r => (r.foreignKey, r.resolved)) =
    asked.map fun a => (a.1, a.2.isSome)
  resolved : plan.resolvedRelations.map (·.foreignKey) = (known asked).map (·.1)
  warnings : plan.warnings = (unknown asked).map (unresolvedWarning table.name)
  joins : plan.joinClauses = plan.resolvedRelations.map fun r => Sql.joinClause table.name r.foreignKey
  rules : plan.hydrationRules.map some = plan.resolvedRelations.map (·.hydration)
  selects : plan.selectColumns =
    (Naming.quoteIdentifier table.name ++ ".*") :: (selections asked).map Selection.text
  aliases : plan.hydrationRules.flatMap (·.aliases) = (selections asked).map (·.aliasName)

section Listing

variable (table : Table) (asked : List (ForeignKey × Option Table))

/-- The plan of a table for the answers to its keys. -/
def planFor : Plan := planOf table (asked.map fun a => relationOf table.name a.1 a.2)

theorem resolvedRelations_planFor : (planFor table asked).resolvedRelations =
    (known asked).map fun k => relationOf table.name k.1 (some k.2) := by
  unfold planFor resolvedRelations planOf known
  dsimp only
  induction asked with
  | nil => rfl
  | cons a rest ih =>
    obtain ⟨fk, parent⟩ := a
    cases parent with
    | none => exact ih
    | some parent => exact congrArg (relationOf table.name fk (some parent) :: ·) ih

theorem hydrationRules_planFor : (planFor table asked).hydrationRules =
    (known asked).map fun k => ruleOf k.1.parentTable k.2.columns := by
  unfold planFor hydrationRules planOf known
  dsimp only
  induction asked with
  | nil => rfl
  | cons a rest ih =>
    obtain ⟨fk, parent⟩ := a
    cases parent with
    | none => exact ih
    | some parent => exact congrArg (ruleOf fk.parentTable parent.columns :: ·) ih

theorem warnings_planFor : (planFor table asked).warnings =
    (unknown asked).map (unresolvedWarning table.name) := by
  unfold planFor planOf unknown
  dsimp only
  induction asked with
  | nil => rfl
  | cons a rest ih =>
    obtain ⟨fk, parent⟩ := a
    cases parent with
    | none => exact congrArg (unresolvedWarning table.name fk :: ·) ih
    | some parent => exact ih

theorem joinClauses_planFor : (planFor table asked).joinClauses =
    (known asked).map fun k => Sql.joinClause table.name k.1 := by
  unfold joinClauses
  rw [resolvedRelations_planFor, List.filterMap_map, ← List.filterMap_eq_map]
  refine congrArg (List.filterMap · _) (funext fun k => ?_)
  simp only [Function.comp_apply, relationOf_joinClause, Option.filter_some, isEmpty_joinClause,
    Bool.not_false, if_true]

theorem selectColumns_planFor : (planFor table asked).selectColumns =
    (Naming.quoteIdentifier table.name ++ ".*") :: (selections asked).map Selection.text := by
  unfold selectColumns
  rw [resolvedRelations_planFor, List.flatMap_map, selections, List.map_flatMap]
  simp [planFor, planOf, selectsOf, mappingsOf, mappingOf, Selection.text, Function.comp_def]

theorem aliases_planFor : (planFor table asked).hydrationRules.flatMap (·.aliases) =
    (selections asked).map (·.aliasName) := by
  rw [hydrationRules_planFor, List.flatMap_map, selections, List.map_flatMap]
  simp [ruleOf, Hydration.Rule.aliases, mappingsOf, mappingOf, Function.comp_def]

variable {table asked}

theorem aligned_planFor (hkeys : asked.map (·.1) = table.foreignKeys) :
    Aligned table asked (planFor table asked) where
  keys := hkeys
  relations := by
    unfold planFor planOf
    rw [List.map_map]
    refine List.map_congr_left fun a _ => ?_
    obtain ⟨fk, parent⟩ := a
    cases parent <;> rfl
  resolved := by
    rw [resolvedRelations_planFor, List.map_map]
    rfl
  warnings := warnings_planFor table asked
  joins := by
    rw [joinClauses_planFor, resolvedRelations_planFor, List.map_map]
    rfl
  rules := by
    rw [hydrationRules_planFor, resolvedRelations_planFor, List.map_map, List.map_map]
    rfl
  selects := selectColumns_planFor table asked
  aliases := aliases_planFor table asked

end Listing

/-- A plan that is returned is what the record of its planning makes of the table: the parent of each key
was looked up once, in the order of the keys, and the lists of the plan follow the answers. -/
theorem build_aligned [Journaled σ] {plan : Plan} {s s' : σ}
    (hbuild : (build table resolve).run s = (.ok plan, s')) :
    (build table (recorded resolve)).run ([], s) = (.ok plan, (lookups table resolve s, s')) ∧
      (lookups table resolve s).map (·.1) = table.foreignKeys.map (·.parentTable) ∧
      ∃ asked, lookups table resolve s = asked.map entry ∧ Aligned table asked plan := by
  have hrecorded := build_recorded table resolve s
  rw [hbuild] at hrecorded
  obtain ⟨asked, hkeys, hlookups, rfl, -⟩ := build_asked hbuild
  refine ⟨hrecorded, ?_, asked, hlookups, aligned_planFor hkeys⟩
  rw [hlookups, ← hkeys, List.map_map, List.map_map]
  rfl

/-- A table of tickets: two of its keys lead to users, one to shops. -/
def tickets : Table where
  name := "tickets"
  columns := ["id", "opener_id", "shop_id", "closer_id"]
  foreignKeys := [⟨"opener_id", "users", "id"⟩, ⟨"shop_id", "shops", "id"⟩, ⟨"closer_id", "users", "id"⟩]

/-- A table of users with names. -/
def namedUsers : Table where
  name := "users"
  columns := ["id", "first_name"]

/-- A look-up that knows the users and nothing else. -/
def findNamedUsers : String → Action Workspace (Option Table) := fun name =>
  pure (if name = "users" then some namedUsers else none)

/-- The users are asked for twice, and the query selects their columns for each of the two keys. -/
theorem tickets_aligned :
    ∃ plan w asked, (build tickets findNamedUsers).run {} = (.ok plan, w) ∧
      lookups tickets findNamedUsers {} =
        [("users", some namedUsers), ("shops", none), ("users", some namedUsers)] ∧
      lookups tickets findNamedUsers {} = asked.map entry ∧ Aligned tickets asked plan ∧
      plan.hydrationRules.flatMap (·.aliases) =
        ["user_id", "user_first_name", "user_id", "user_first_name"] := by
  obtain ⟨w, hbuild⟩ : ∃ w, (build tickets findNamedUsers).run {} =
      (.ok (planFor tickets [(⟨"opener_id", "users", "id"⟩, some namedUsers),
        (⟨"shop_id", "shops", "id"⟩, none), (⟨"closer_id", "users", "id"⟩, some namedUsers)]), w) :=
    Action.exists_run (by decide +kernel)
  obtain ⟨-, -, asked, hasked, haligned⟩ := build_aligned hbuild
  exact ⟨_, w, asked, hbuild, by decide +kernel, hasked, haligned, by decide +kernel⟩

end Scaffold.Plan
