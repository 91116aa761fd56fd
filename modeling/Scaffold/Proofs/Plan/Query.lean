import Scaffold.Proofs.Plan.Building
import Scaffold.Proofs.Schema.Words
import Scaffold.Proofs.Text.Lines

/-!
# The query of a plan

A repository selects the rows of its table together with the rows of every known parent, in one query.
A join has no name of its own for the table that it brings in, so the query is clear only if no table
comes twice; and a row of the result can hold only one value under a name.

The relations are planned key by key and none knows of the others. Two keys to one parent, or a key to
the table itself, bring the same table in twice.

* `joined?`, `output?`: what a join brings in and under which name a column is selected, read off the text.
* `aliasParts?`: the relation and the column of such a name, read off it.
* `Unambiguous`: no table and no name comes twice in the query of a plan.
* `unambiguous_iff`: that is so exactly if the keys do not clash.
* `gifts_join_twice`: a table with two keys to one parent.
-/
namespace Scaffold.Sql

open Naming (quoteIdentifier)

/-- Whether a character stands inside a name in backticks. -/
def isQuoted (c : Char) : Bool := c != '`'

/-- The name in backticks at the start of a text, and the rest. -/
def quoted? : List Char → Option (List Char × List Char)
  | [] => none
  | c :: cs =>
    if c = '`' then
      match cs.dropWhile isQuoted with
      | [] => none
      | _ :: rest => some (cs.takeWhile isQuoted, rest)
    else none

/-- The table that a join clause brings in. -/
def joined? (clause : String) : Option String := do
  let cs ← Text.dropStart? "LEFT JOIN ".toList clause.toList
  let (table, _) ← quoted? cs
  return .ofList table

/-- The name under which a column is selected, if it is given one. -/
def output? (item : String) : Option String := do
  let (_, cs) ← quoted? item.toList
  let cs ← Text.dropStart? ".".toList cs
  let (_, cs) ← quoted? cs
  let cs ← Text.dropStart? " as ".toList cs
  let (name, _) ← quoted? cs
  return .ofList name

/-- A name that can be put in backticks. -/
def Quotable (name : String) : Prop := '`' ∉ name.toList

theorem quoted?_quoteIdentifier {name : String} (h : Quotable name) (rest : List Char) :
    quoted? ((quoteIdentifier name).toList ++ rest) = some (name.toList, rest) := by
  have hinside : ∀ c ∈ name.toList, isQuoted c = true := by
    intro c hc
    have hne : c ≠ '`' := by rintro rfl; exact h hc
    simpa [isQuoted] using hne
  have hend : Text.Outside isQuoted ('`' :: rest) := rfl
  have htext : (quoteIdentifier name).toList ++ rest = '`' :: (name.toList ++ '`' :: rest) := by
    simp [quoteIdentifier, String.toList_append]
  rw [htext, quoted?, if_pos rfl, Text.dropWhile_run hinside hend, Text.takeWhile_run hinside hend]

theorem joined?_joinClause {table : String} {fk : ForeignKey} (h : Quotable fk.parentTable) :
    joined? (joinClause table fk) = some fk.parentTable := by
  have htext : ∃ rest, (joinClause table fk).toList =
      "LEFT JOIN ".toList ++ ((quoteIdentifier fk.parentTable).toList ++ rest) := by
    unfold joinClause
    simp only [String.toList_append, List.append_assoc]
    exact ⟨_, rfl⟩
  obtain ⟨rest, hrest⟩ := htext
  unfold joined?
  rw [hrest, Text.dropStart?_append]
  simp only [Option.bind_eq_bind, Option.bind_some, quoted?_quoteIdentifier h, Option.pure_def,
    String.ofList_toList]

theorem output?_selectColumn {parent column aliasName : String} (hparent : Quotable parent)
    (hcolumn : Quotable column) (halias : Quotable aliasName) :
    output? (selectColumn parent column aliasName) = some aliasName := by
  have htext : (selectColumn parent column aliasName).toList =
      (quoteIdentifier parent).toList ++ (".".toList ++ ((quoteIdentifier column).toList ++
        (" as ".toList ++ ((quoteIdentifier aliasName).toList ++ [])))) := by
    unfold selectColumn
    simp only [String.toList_append, List.append_assoc, List.append_nil]
  unfold output?
  rw [htext]
  simp only [Option.bind_eq_bind, Option.bind_some, quoted?_quoteIdentifier hparent,
    Text.dropStart?_append, quoted?_quoteIdentifier hcolumn, quoted?_quoteIdentifier halias,
    Option.pure_def, String.ofList_toList]

/-- All columns of a table are selected without names of their own. -/
theorem output?_all {table : String} (h : Quotable table) :
    output? (quoteIdentifier table ++ ".*") = none := by
  have htext : (quoteIdentifier table ++ ".*").toList =
      (quoteIdentifier table).toList ++ (".".toList ++ ['*']) := by
    simp [String.toList_append]
  unfold output?
  rw [htext]
  simp only [Option.bind_eq_bind, Option.bind_some, quoted?_quoteIdentifier h, Text.dropStart?_append]
  rfl

/-- The relation and the column of a result name, cut at its first low line. -/
def aliasParts? (aliasName : String) : Option (String × String) :=
  match aliasName.toList.dropWhile (· != '_') with
  | [] => none
  | _ :: column => some (.ofList (aliasName.toList.takeWhile (· != '_')), .ofList column)

/-- A result name is cut into the relation and the column that it is put together from, whatever low
lines the column has, if the relation has none. -/
theorem aliasParts?_eq_some_iff {aliasName relation column : String} :
    aliasParts? aliasName = some (relation, column) ↔
      aliasName = relationAlias relation column ∧ '_' ∉ relation.toList := by
  unfold aliasParts?
  constructor
  · intro h
    have hsplit := List.takeWhile_append_dropWhile (p := (· != '_')) (l := aliasName.toList)
    have hend := Text.outside_dropWhile (· != '_') aliasName.toList
    split at h
    · cases h
    · rename_i low rest hrest
      rw [hrest] at hsplit hend
      obtain rfl : low = '_' := by simpa using hend
      cases h
      refine ⟨String.toList_inj.mp ?_, fun hlow => ?_⟩
      · simpa [relationAlias, String.toList_append] using hsplit.symm
      · rw [String.toList_ofList] at hlow
        exact absurd (List.mem_takeWhile_imp hlow) (by decide)
  · rintro ⟨rfl, hlow⟩
    have hletters : ∀ c ∈ relation.toList, (c != '_') = true := by
      intro c hc
      have hne : c ≠ '_' := by rintro rfl; exact hlow hc
      simpa using hne
    have hend : Text.Outside (· != '_') ('_' :: column.toList) := rfl
    have htext : (relationAlias relation column).toList = relation.toList ++ '_' :: column.toList := by
      simp [relationAlias, String.toList_append]
    rw [htext, Text.dropWhile_run hletters hend, Text.takeWhile_run hletters hend]
    simp only [String.ofList_toList]

theorem aliasParts?_relationAlias {relation : String} (h : '_' ∉ relation.toList) (column : String) :
    aliasParts? (relationAlias relation column) = some (relation, column) :=
  aliasParts?_eq_some_iff.mpr ⟨rfl, h⟩

/-- The name of a parent's column in the result tells the relation and the column apart, as the name of
a relation has no low line. -/
theorem relationAlias_inj {relation relation' column column' : String} (h : '_' ∉ relation.toList)
    (h' : '_' ∉ relation'.toList) :
    relationAlias relation column = relationAlias relation' column' ↔
      relation = relation' ∧ column = column' := by
  constructor
  · intro heq
    have hparts := aliasParts?_relationAlias h column
    rw [heq, aliasParts?_relationAlias h' column'] at hparts
    cases hparts
    exact ⟨rfl, rfl⟩
  · rintro ⟨rfl, rfl⟩
    rfl

end Scaffold.Sql

namespace Scaffold.Plan

open Sql (joined? output? Quotable relationAlias)
open Schema (Worded)

/-! ## What a query names -/

/-- The tables that the query of a plan brings in: its own, then one for each join. -/
def tablesRead (p : Plan) : List String := p.tableName :: p.joinClauses.filterMap joined?

/-- The names under which the query of a plan selects the columns of parents. -/
def outputs (p : Plan) : List String := p.selectColumns.filterMap output?

/-- No table is brought in twice, and no name is given twice. -/
structure Unambiguous (p : Plan) : Prop where
  tables : p.tablesRead.Nodup
  outputs : p.outputs.Nodup

/-- The columns of the parent of a relation, if it is known. -/
def parentColumns (r : Relation) : List String :=
  match r.hydration with
  | some rule => rule.mappings.map (·.column)
  | none => []

/-- The keys whose parents are known do not clash: none of them leads to the table itself, no two of them to
one parent, no parent has a column twice, and where the relations of two parents have one name the
parents have no column in common. -/
structure Apart (p : Plan) : Prop where
  others : ∀ r ∈ p.resolvedRelations, r.parentTable ≠ p.tableName
  parents : (p.resolvedRelations.map (·.parentTable)).Nodup
  columns : ∀ r ∈ p.resolvedRelations, (parentColumns r).Nodup
  names : p.resolvedRelations.Pairwise fun r r' =>
    r.relationName = r'.relationName → ∀ column ∈ parentColumns r, column ∉ parentColumns r'

theorem filterMap_eq_map {α β : Type} {f : α → Option β} {g : α → β} {l : List α}
    (h : ∀ a ∈ l, f a = some (g a)) : l.filterMap f = l.map g := by
  induction l with
  | nil => rfl
  | cons a l ih =>
    rw [List.filterMap_cons_some (h a List.mem_cons_self), List.map_cons,
      ih fun b hb => h b (List.mem_cons_of_mem a hb)]

section Reading

variable {σ : Type} {resolve : String → Action σ (Option Table)} {table : Table} {plan : Plan}

/-- A relation whose parent is known. -/
structure Known (resolve : String → Action σ (Option Table)) (table : Table) (r : Relation)
    (parent : Table) : Prop where
  answered : Answered resolve r.parentTable (some parent)
  relation : r = relationOf table.name r.foreignKey (some parent)

theorem Built.known (h : Built resolve table plan) {r : Relation} (hr : r ∈ plan.resolvedRelations) :
    r.foreignKey ∈ table.foreignKeys ∧ ∃ parent, Known resolve table r parent := by
  obtain ⟨hmem, hresolved⟩ := List.mem_filter.mp hr
  refine ⟨by rw [← h.keys]; exact List.mem_map_of_mem hmem, ?_⟩
  obtain ⟨parent, hanswered, heq⟩ := h.planned r hmem
  cases parent with
  | none => rw [heq] at hresolved; cases hresolved
  | some parent => exact ⟨parent, hanswered, heq⟩

variable {r r' : Relation} {parent parent' : Table}

theorem Known.parentColumns (h : Known resolve table r parent) :
    parentColumns r = parent.columns := by
  rw [h.relation, Plan.parentColumns, relationOf_hydration]
  simp [ruleOf, mappingsOf, mappingOf, Function.comp_def]

theorem Known.relationName (h : Known resolve table r parent) :
    r.relationName = Naming.relationName r.parentTable := by
  rw [h.relation, relationOf_relationName]
  rfl

theorem Known.no_low_line (h : Known resolve table r parent) : '_' ∉ r.relationName.toList := by
  rw [h.relationName]
  exact Naming.separator_not_mem_relationName (by decide)

/-- The join of a known parent brings in the parent. -/
theorem Known.joined (h : Known resolve table r parent) (hquotable : Quotable r.parentTable) :
    (r.joinClause.filter fun clause => !clause.isEmpty).bind joined? = some r.parentTable := by
  have hjoin : r.joinClause = some (Sql.joinClause table.name r.foreignKey) := by
    rw [h.relation, relationOf_joinClause, relationOf_foreignKey]
  have hread : joined? (Sql.joinClause table.name r.foreignKey) = some r.foreignKey.parentTable :=
    Sql.joined?_joinClause hquotable
  rw [hjoin, Option.filter_some_pos (by rw [isEmpty_joinClause]; rfl), Option.bind_some, hread]
  rfl

/-- The columns of a known parent are selected under the names of the relation. -/
theorem Known.outputs (h : Known resolve table r parent) (hquotable : Quotable r.parentTable)
    (hcolumns : ∀ column ∈ parent.columns, Quotable column) :
    r.selectColumns.filterMap output? = parent.columns.map (relationAlias r.relationName) := by
  have hselects : r.selectColumns = parent.columns.map fun column =>
      Sql.selectColumn r.parentTable column (relationAlias r.relationName column) := by
    rw [h.relation, relationOf_selectColumns, relationOf_relationName]
    simp [selectsOf, mappingsOf, mappingOf, Function.comp_def, Relation.parentTable]
  rw [hselects, List.filterMap_map]
  refine filterMap_eq_map fun column hcolumn => ?_
  refine Sql.output?_selectColumn hquotable (hcolumns column hcolumn) ?_
  intro htick
  simp only [relationAlias, String.toList_append, List.mem_append] at htick
  rcases htick with (htick | htick) | htick
  · rw [h.relationName] at htick
    rcases Naming.mem_relationName htick with ⟨htick, -⟩ | hletter
    · exact hquotable htick
    · exact absurd hletter (by decide)
  · exact absurd htick (by decide)
  · exact hcolumns column hcolumn htick

/-- The names of a built plan can be put in backticks. -/
structure Readable (resolve : String → Action σ (Option Table)) (table : Table) (plan : Plan) : Prop
    extends Built resolve table plan where
  worded : Worded table
  columns : ∀ name parent, Answered resolve name (some parent) →
    ∀ column ∈ parent.columns, Quotable column

theorem Readable.quotable (h : Readable resolve table plan) (hr : r ∈ plan.resolvedRelations) :
    Quotable r.parentTable :=
  (h.worded.parentTables _ (h.known hr).1).not_mem (by decide)

theorem Readable.tablesRead (h : Readable resolve table plan) :
    plan.tablesRead = plan.tableName :: plan.resolvedRelations.map (·.parentTable) := by
  unfold Plan.tablesRead joinClauses
  rw [List.filterMap_filterMap]
  refine congrArg _ (filterMap_eq_map fun r hr => ?_)
  obtain ⟨parent, hknown⟩ := (h.known hr).2
  exact hknown.joined (h.quotable hr)

theorem Readable.outputs (h : Readable resolve table plan) :
    plan.outputs = plan.resolvedRelations.flatMap fun r =>
      (parentColumns r).map (relationAlias r.relationName) := by
  have hall : output? (Naming.quoteIdentifier plan.tableName ++ ".*") = none := by
    rw [h.eq_planOf]
    exact Sql.output?_all (h.worded.name.not_mem (by decide))
  unfold Plan.outputs selectColumns
  rw [List.filterMap_cons_none hall, List.filterMap_flatMap]
  rw [List.flatMap_def, List.flatMap_def]
  refine congrArg List.flatten (List.map_congr_left fun r hr => ?_)
  obtain ⟨parent, hknown⟩ := (h.known hr).2
  rw [hknown.parentColumns]
  exact hknown.outputs (h.quotable hr) (h.columns _ _ hknown.answered)

theorem Readable.nodup_outputs_iff (h : Readable resolve table plan) :
    plan.outputs.Nodup ↔ (∀ r ∈ plan.resolvedRelations, (parentColumns r).Nodup) ∧
      plan.resolvedRelations.Pairwise fun r r' => r.relationName = r'.relationName →
        ∀ column ∈ parentColumns r, column ∉ parentColumns r' := by
  have hlow : ∀ r ∈ plan.resolvedRelations, '_' ∉ r.relationName.toList := by
    intro r hr
    obtain ⟨parent, hknown⟩ := (h.known hr).2
    exact hknown.no_low_line
  rw [h.outputs]
  unfold List.Nodup
  rw [List.pairwise_flatMap]
  refine and_congr ?_ ?_
  · refine forall_congr' fun r => imp_congr_right fun hr => ?_
    rw [List.pairwise_map]
    refine List.Pairwise.iff fun {column column'} => ?_
    simp only [ne_eq, Sql.relationAlias_inj (hlow r hr) (hlow r hr), true_and]
  · refine List.Pairwise.iff_of_mem fun {r r'} hr hr' => ?_
    simp only [List.forall_mem_map, ne_eq, Sql.relationAlias_inj (hlow r hr) (hlow r' hr'), not_and]
    constructor
    · intro hne hname column hc hc'
      exact hne column hc column hc' hname rfl
    · rintro hname column hc column' hc' heq rfl
      exact hname heq column hc hc'

end Reading

/-- The query of a plan that is built for a table that was read is unambiguous exactly if the keys whose
parents are known do not clash. -/
theorem unambiguous_iff {σ : Type} [Journaled σ] {resolve : String → Action σ (Option Table)}
    {text : String} {source : Option String} {table : Table} {plan : Plan} {s s' : σ}
    (hparse : Table.parse text source = .ok table)
    (hbuild : (build table resolve).run s = (.ok plan, s'))
    (hcolumns : ∀ name parent, Answered resolve name (some parent) →
      ∀ column ∈ parent.columns, Quotable column) :
    Unambiguous plan ↔ Apart plan := by
  have hread : Readable resolve table plan :=
    ⟨built_of_build hbuild, Schema.worded_of_parse hparse, hcolumns⟩
  have htables : plan.tablesRead.Nodup ↔
      (∀ r ∈ plan.resolvedRelations, r.parentTable ≠ plan.tableName) ∧
        (plan.resolvedRelations.map (·.parentTable)).Nodup := by
    rw [hread.tablesRead, List.nodup_cons]
    simp [List.mem_map]
  constructor
  · intro h
    obtain ⟨hothers, hparents⟩ := htables.mp h.tables
    obtain ⟨hcolumns, hnames⟩ := hread.nodup_outputs_iff.mp h.outputs
    exact ⟨hothers, hparents, hcolumns, hnames⟩
  · intro h
    exact ⟨htables.mpr ⟨h.others, h.parents⟩, hread.nodup_outputs_iff.mpr ⟨h.columns, h.names⟩⟩

/-- A table of users. -/
def users : Table := { name := "users", columns := ["id"] }

/-- A look-up that finds the users under every name. -/
def findUsers : String → Action Workspace (Option Table) := fun _ => pure (some users)

theorem findUsers_quotable {name : String} {parent : Table} (h : Answered findUsers name (some parent)) :
    ∀ column ∈ parent.columns, Quotable column := by
  obtain ⟨s, s', h⟩ := h
  cases h
  intro column hcolumn
  rw [List.mem_singleton.mp hcolumn]
  unfold Quotable
  decide

/-- The schema of orders, each with one user. -/
def ordersSchema : String :=
  "CREATE TABLE orders (\n  id INT,\n  user_id INT,\n  FOREIGN KEY (user_id) REFERENCES users (id)\n);"

/-- The orders. -/
def orders : Table where
  name := "orders"
  columns := ["id", "user_id"]
  foreignKeys := [⟨"user_id", "users", "id"⟩]

theorem orders_read : Table.parse ordersSchema = .ok orders :=
  Schema.parse_of_letters rfl (by decide +kernel)

/-- The plan of the orders. -/
def ordersPlan : Plan :=
  planOf orders [relationOf "orders" ⟨"user_id", "users", "id"⟩ (some users)]

theorem orders_built : ∃ w, (build orders findUsers).run {} = (.ok ordersPlan, w) :=
  Action.exists_run (by decide +kernel)

/-- With one key the query names each table once. -/
theorem orders_unambiguous :
    ∃ plan w, Table.parse ordersSchema = .ok orders ∧
      (build orders findUsers).run {} = (.ok plan, w) ∧
      plan.tablesRead = ["orders", "users"] ∧ Unambiguous plan := by
  obtain ⟨w, hbuild⟩ := orders_built
  refine ⟨_, w, orders_read, hbuild, by decide +kernel, ?_⟩
  refine (unambiguous_iff orders_read hbuild fun name parent h => findUsers_quotable h).mpr ?_
  exact ⟨by decide +kernel, by decide +kernel, by decide +kernel, by decide +kernel⟩

/-- The schema of gifts, each from one user to another. -/
def giftsSchema : String :=
  "CREATE TABLE gifts (\n  a INT,\n  b INT,\n  FOREIGN KEY (a) REFERENCES users (id),\n" ++
    "  FOREIGN KEY (b) REFERENCES users (id)\n);"

/-- The gifts. -/
def gifts : Table where
  name := "gifts"
  columns := ["a", "b"]
  foreignKeys := [⟨"a", "users", "id"⟩, ⟨"b", "users", "id"⟩]

/-- With two keys to one parent the query brings the parent in twice, and gives a name twice. -/
theorem gifts_join_twice :
    ∃ plan w, Table.parse giftsSchema = .ok gifts ∧
      (build gifts findUsers).run {} = (.ok plan, w) ∧
      plan.tablesRead = ["gifts", "users", "users"] ∧ plan.outputs = ["user_id", "user_id"] ∧
      ¬Unambiguous plan := by
  have hparse : Table.parse giftsSchema = .ok gifts :=
    Schema.parse_of_letters String.ofList_append.symm (by decide +kernel)
  obtain ⟨w, hbuild⟩ : ∃ w, (build gifts findUsers).run {} =
      (.ok (planOf gifts (gifts.foreignKeys.map fun fk => relationOf "gifts" fk (some users))), w) :=
    Action.exists_run (by decide +kernel)
  have htables : (planOf gifts (gifts.foreignKeys.map fun fk =>
      relationOf "gifts" fk (some users))).tablesRead = ["gifts", "users", "users"] := by
    decide +kernel
  refine ⟨_, w, hparse, hbuild, htables, by decide +kernel, fun h => ?_⟩
  have hnodup := h.tables
  rw [htables] at hnodup
  exact absurd hnodup (by decide)

end Scaffold.Plan
