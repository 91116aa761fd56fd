import Scaffold.Proofs.Plan.Names
import Scaffold.Proofs.Plan.Query

/-!
# Names in backticks

A fragment of SQL is put together from names in backticks and from texts that have none. Read again
from left to right, it has its backticks in pairs, and between each two of them stands a name that was
quoted, whole and unchanged, as long as no name has a backtick of its own.

* `quotedNames`: the texts between backticks, if these pair up.
* `Quotes.append`: fragments that are put one after the other do not disturb each other.
* `Quoting`: every fragment of a plan with the names that are quoted in it.
* `quoting_planOf`: names without backticks are quoted as they are.
-/
namespace Scaffold.Sql

open Naming (quoteIdentifier)

/-! ## Reading what is quoted -/

/-- The texts between each backtick and the next, if the backticks pair up. What was read since the last
backtick that opened is given in reverse. -/
def quotedFrom : Option (List Char) → List Char → Option (List String)
  | none, [] => some []
  | some _, [] => none
  | none, c :: cs => if c = '`' then quotedFrom (some []) cs else quotedFrom none cs
  | some current, c :: cs =>
    if c = '`' then (quotedFrom none cs).map (String.ofList current.reverse :: ·)
    else quotedFrom (some (c :: current)) cs

/-- The texts that are quoted in a fragment, if its backticks pair up. -/
def quotedNames (s : String) : Option (List String) := quotedFrom none s.toList

/-- The backticks of a fragment pair up, and these are the texts between them. -/
def Quotes (s : String) (names : List String) : Prop := quotedNames s = some names

theorem quotedFrom_append {opened : Option (List Char)} {cs : List Char} {names : List String}
    (h : quotedFrom opened cs = some names) (rest : List Char) :
    quotedFrom opened (cs ++ rest) = (quotedFrom none rest).map (names ++ ·) := by
  induction cs generalizing opened names with
  | nil =>
    cases opened with
    | none => cases h; simp
    | some current => cases h
  | cons c cs ih =>
    cases opened with
    | none =>
      rw [List.cons_append, quotedFrom] at *
      split at h <;> rename_i hc
      · rw [if_pos hc]; exact ih h
      · rw [if_neg hc]; exact ih h
    | some current =>
      rw [List.cons_append, quotedFrom] at *
      split at h <;> rename_i hc
      · rw [if_pos hc]
        obtain ⟨others, hothers, rfl⟩ := Option.map_eq_some_iff.mp h
        rw [ih hothers, Option.map_map]
        rfl
      · rw [if_neg hc]; exact ih h

/-- Inside a pair of backticks everything else is read as part of the name. -/
theorem quotedFrom_name {name : List Char} (h : '`' ∉ name) (current rest : List Char) :
    quotedFrom (some current) (name ++ '`' :: rest) =
      (quotedFrom none rest).map (String.ofList (current.reverse ++ name) :: ·) := by
  induction name generalizing current with
  | nil => rw [List.nil_append, quotedFrom, if_pos rfl, List.append_nil]
  | cons c name ih =>
    rw [List.mem_cons, not_or] at h
    rw [List.cons_append, quotedFrom, if_neg (Ne.symm h.1), ih h.2, List.reverse_cons,
      List.append_assoc, List.singleton_append]

theorem Quotes.append {a b : String} {names others : List String} (ha : Quotes a names)
    (hb : Quotes b others) : Quotes (a ++ b) (names ++ others) := by
  unfold Quotes quotedNames at *
  rw [String.toList_append, quotedFrom_append ha, hb, Option.map_some]

/-- A text without backticks quotes nothing. -/
theorem quotes_nothing {s : String} (h : Quotable s) : Quotes s [] := by
  unfold Quotable at h
  unfold Quotes quotedNames
  generalize s.toList = cs at h ⊢
  induction cs with
  | nil => rfl
  | cons c cs ih =>
    rw [List.mem_cons, not_or] at h
    rw [quotedFrom, if_neg (Ne.symm h.1)]
    exact ih h.2

theorem quotes_quoteIdentifier {name : String} (h : Quotable name) :
    Quotes (quoteIdentifier name) [name] := by
  have htext : (quoteIdentifier name).toList = '`' :: (name.toList ++ '`' :: []) := by
    simp [quoteIdentifier, String.toList_append]
  unfold Quotes quotedNames
  rw [htext, quotedFrom, if_pos rfl, quotedFrom_name h, quotedFrom]
  simp

/-! ## Fragments, piece by piece -/

/-- Whether a text has no backticks. -/
def isPlain (s : String) : Bool := s.toList.all (· != '`')

theorem quotable_of_isPlain {s : String} (h : isPlain s = true) : Quotable s := by
  intro hmem
  exact absurd (List.all_eq_true.mp h _ hmem) (by decide)

theorem quotable_primaryKey : Quotable primaryKeyColumn := quotable_of_isPlain (by decide)

theorem quotable_softDelete : Quotable softDeleteColumn := quotable_of_isPlain (by decide)

variable {s piece name : String} {names : List String}

theorem quotes_plain (h : isPlain s = true) : Quotes s [] :=
  quotes_nothing (quotable_of_isPlain h)

theorem Quotes.plain (h : Quotes s names) (hpiece : isPlain piece = true := by decide) :
    Quotes (s ++ piece) names := by
  have happend := h.append (quotes_plain hpiece)
  rwa [List.append_nil] at happend

theorem Quotes.quoted (h : Quotes s names) (hname : Quotable name) :
    Quotes (s ++ quoteIdentifier name) (names ++ [name]) :=
  h.append (quotes_quoteIdentifier hname)

variable {table column parent aliasName : String}

theorem quotes_assignment (h : Quotable column) :
    Quotes (quoteIdentifier column ++ " = " ++ placeholder) [column] :=
  quotes_quoteIdentifier h |>.plain |>.plain

theorem quotes_byKey : Quotes byKey [primaryKeyColumn] := quotes_assignment quotable_primaryKey

theorem quotes_deleteStatement (h : Quotable table) (softDelete : Bool) :
    Quotes (deleteStatement table softDelete)
      (if softDelete then [table, softDeleteColumn, primaryKeyColumn]
        else [table, primaryKeyColumn]) := by
  cases softDelete with
  | true =>
    exact quotes_plain (by decide) |>.quoted h |>.plain |>.quoted quotable_softDelete |>.plain
      |>.append quotes_byKey
  | false => exact quotes_plain (by decide) |>.quoted h |>.plain |>.append quotes_byKey

theorem quotes_restoreStatement (h : Quotable table) :
    Quotes (restoreStatement table) [table, softDeleteColumn, primaryKeyColumn] :=
  quotes_plain (by decide) |>.quoted h |>.plain |>.quoted quotable_softDelete |>.plain
    |>.append quotes_byKey

theorem quotes_liveCondition (h : Quotable table) :
    Quotes (liveCondition table) [table, softDeleteColumn] :=
  quotes_quoteIdentifier h |>.plain |>.quoted quotable_softDelete |>.plain

/-- The condition behind a keyword, if rows are marked as deleted. -/
theorem quotes_liveClause (h : Quotable table) (softDelete : Bool) {keyword : String}
    (hkeyword : isPlain keyword = true) :
    Quotes (if softDelete then keyword ++ liveCondition table else "")
      (if softDelete then [table, softDeleteColumn] else []) := by
  cases softDelete with
  | true => exact (quotes_plain hkeyword).append (quotes_liveCondition h)
  | false => exact (quotes_plain (by decide) : Quotes "" [])

theorem quotes_joinClause {fk : ForeignKey} (htable : Quotable table) (hcolumn : Quotable fk.column)
    (hparent : Quotable fk.parentTable) :
    Quotes (joinClause table fk)
      [fk.parentTable, table, fk.column, fk.parentTable, primaryKeyColumn] :=
  quotes_plain (by decide) |>.quoted hparent |>.plain |>.quoted htable |>.plain |>.quoted hcolumn
    |>.plain |>.quoted hparent |>.plain |>.quoted quotable_primaryKey

theorem quotes_selectColumn (hparent : Quotable parent) (hcolumn : Quotable column)
    (halias : Quotable aliasName) :
    Quotes (selectColumn parent column aliasName) [parent, column, aliasName] :=
  quotes_quoteIdentifier hparent |>.plain |>.quoted hcolumn |>.plain |>.quoted halias

end Scaffold.Sql

namespace Scaffold.Plan

open Naming (Confined)
open Sql (Quotable Quotes quotedNames)

/-! ## Plans -/

/-- The mappings of a relation, if its parent is known. -/
def mappings (r : Relation) : List Hydration.Mapping :=
  match r.hydration with
  | some rule => rule.mappings
  | none => []

/-- Every fragment of a plan has its backticks in pairs, and between them the names that belong
there. -/
structure Quoting (p : Plan) : Prop where
  insertion : p.insertColumns.map quotedNames = p.fillableColumns.map fun column => some [column]
  values : ∀ value ∈ p.placeholders, Quotes value []
  assignments : p.assignments.map quotedNames = p.fillableColumns.map fun column => some [column]
  deletion : Quotes p.deleteStatement
    (if p.hasSoftDelete then [p.tableName, softDeleteColumn, primaryKeyColumn]
      else [p.tableName, primaryKeyColumn])
  restoring : ∀ statement ∈ p.restoreStatement,
    Quotes statement [p.tableName, softDeleteColumn, primaryKeyColumn]
  whereLive : Quotes p.whereLive (if p.hasSoftDelete then [p.tableName, softDeleteColumn] else [])
  andLive : Quotes p.andLive (if p.hasSoftDelete then [p.tableName, softDeleteColumn] else [])
  joins : p.joinClauses.map quotedNames = p.resolvedRelations.map fun r =>
    some [r.parentTable, p.tableName, r.foreignKey.column, r.parentTable, primaryKeyColumn]
  selects : p.selectColumns.map quotedNames = some [p.tableName] ::
    p.resolvedRelations.flatMap fun r => (mappings r).map fun m =>
      some [r.parentTable, m.column, m.aliasName]
  /-- A relation whose parent is not known has no fragments. -/
  unjoined : ∀ r ∈ p.relations, r.resolved = false → r.joinClause = none ∧ r.selectColumns = []

/-- The fragments of one relation. -/
structure QuotingRelation (table : String) (r : Relation) : Prop where
  joined : r.resolved = true → ∃ clause, r.joinClause = some clause ∧
    Quotes clause [r.parentTable, table, r.foreignKey.column, r.parentTable, primaryKeyColumn]
  selected : r.selectColumns.map quotedNames = (mappings r).map fun m =>
    some [r.parentTable, m.column, m.aliasName]
  unjoined : r.resolved = false → r.joinClause = none ∧ r.selectColumns = []

theorem quoting_relationOf {table : String} {fk : ForeignKey} {parent : Option Table}
    (htable : Quotable table) (hnames : ∀ name ∈ (relationOf table fk parent).names, Quotable name) :
    QuotingRelation table (relationOf table fk parent) := by
  have hcolumn : Quotable fk.column := hnames _ (by simp [Relation.names, ForeignKey.names])
  have hparent : Quotable fk.parentTable := hnames _ (by simp [Relation.names, ForeignKey.names])
  cases parent with
  | none => exact ⟨fun h => (by cases h), rfl, fun _ => ⟨rfl, rfl⟩⟩
  | some parent =>
    refine ⟨fun _ => ⟨_, rfl, Sql.quotes_joinClause htable hcolumn hparent⟩, ?_,
      fun h => (by cases h)⟩
    simp only [relationOf_selectColumns, selectsOf, mappings, relationOf_hydration, Option.map_some,
      ruleOf, List.map_map]
    refine List.map_congr_left fun m hm => ?_
    have hmapping : ∀ name ∈ m.names, Quotable name := by
      intro name hname
      have hrule : name ∈ (ruleOf fk.parentTable parent.columns).names :=
        List.mem_cons_of_mem _ (List.mem_cons_of_mem _ (List.mem_flatMap.mpr ⟨m, hm, hname⟩))
      exact hnames name (List.mem_append_right _ hrule)
    exact Sql.quotes_selectColumn hparent (hmapping _ (by simp [Hydration.Mapping.names]))
      (hmapping _ (by simp [Hydration.Mapping.names]))

/-- A plan none of whose names has a backtick quotes its names as they are. -/
theorem quoting_planOf {table : Table} {relations : List Relation}
    (hrelations : ∀ r ∈ relations, ∃ parent, r = relationOf table.name r.foreignKey parent)
    (hnames : ∀ name ∈ (planOf table relations).names, Quotable name) :
    Quoting (planOf table relations) := by
  have htable : Quotable table.name := hnames _ (by simp [names, planOf])
  have hfillable : ∀ column ∈ Sql.fillableColumns table.columns, Quotable column :=
    fun column hcolumn => hnames _ (by simp [names, planOf, hcolumn])
  have hrelation : ∀ r ∈ relations, QuotingRelation table.name r := by
    intro r hr
    obtain ⟨parent, heq⟩ := hrelations r hr
    have hquotable : ∀ name ∈ r.names, Quotable name := by
      intro name hname
      have hmem := List.mem_flatMap.mpr ⟨r, hr, hname⟩
      exact hnames name (List.mem_append_left _ (List.mem_append_right _ hmem))
    rw [heq] at hquotable ⊢
    exact quoting_relationOf htable hquotable
  have hresolved : ∀ r ∈ (planOf table relations).resolvedRelations,
      QuotingRelation table.name r ∧ r.resolved = true := fun r hr =>
    ⟨hrelation r (List.mem_filter.mp hr).1, (List.mem_filter.mp hr).2⟩
  refine ⟨?_, ?_, ?_, Sql.quotes_deleteStatement htable _, ?_,
    Sql.quotes_liveClause htable _ (by decide), Sql.quotes_liveClause htable _ (by decide), ?_, ?_,
    fun r hr => (hrelation r hr).unjoined⟩
  · simp only [planOf, Sql.insertColumns, List.map_map]
    exact List.map_congr_left fun column hcolumn =>
      Sql.quotes_quoteIdentifier (hfillable column hcolumn)
  · intro value hvalue
    obtain ⟨column, -, rfl⟩ := List.mem_map.mp hvalue
    exact Sql.quotes_plain (by decide)
  · simp only [planOf, Sql.assignments, List.map_map]
    exact List.map_congr_left fun column hcolumn => Sql.quotes_assignment (hfillable column hcolumn)
  · intro statement hstatement
    simp only [planOf] at hstatement
    split at hstatement
    · cases hstatement
      exact Sql.quotes_restoreStatement htable
    · cases hstatement
  · unfold joinClauses
    rw [List.map_filterMap]
    refine filterMap_eq_map fun r hr => ?_
    obtain ⟨hquoting, hknown⟩ := hresolved r hr
    obtain ⟨clause, hclause, hquotes⟩ := hquoting.joined hknown
    have hfilled : clause.isEmpty = false := by
      cases hempty : clause.isEmpty with
      | false => rfl
      | true => rw [String.isEmpty_iff.mp hempty] at hquotes; cases hquotes
    rw [hclause, Option.filter_some_pos (by rw [hfilled]; rfl), Option.map_some, hquotes]
    rfl
  · unfold selectColumns
    rw [List.map_cons, List.map_flatMap]
    refine congrArg₂ _ ((Sql.quotes_quoteIdentifier htable).plain) ?_
    rw [List.flatMap_def, List.flatMap_def]
    exact congrArg List.flatten (List.map_congr_left fun r hr => (hresolved r hr).1.selected)

end Scaffold.Plan
