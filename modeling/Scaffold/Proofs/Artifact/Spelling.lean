import Scaffold.Proofs.Artifact.Access
import Scaffold.Proofs.Artifact.Fragment
import Scaffold.Proofs.Hydration.Lines
import Scaffold.Proofs.Plan.Names
import Scaffold.Proofs.Text.Alphabet

/-!
# The characters of fragments

The fragments of a plan are put together from names and from a few literals. So of the characters that
mean something to a template or to PHP only those can be in a fragment that its literals bring.

* `Spelt`: names that are one word to PHP.
* `QueryText`, `StatementText`: texts of the characters of a query, or of a statement with calls.
* `Spelled`, `spelled_of_build`: all fragments of a plan that is built for a table that was read.
* `over_useLines`, `over_modelProperties`, `over_executeParams`: fragments of PHP.
* `spelt_plainFilling`, `spelt_mappingFilling`: the names in the code that folds a row.
-/
namespace Scaffold

open Text (Over IsLetter)

namespace Php

variable {name : String} {c : Char}

/-! ## Names -/

/-- A text that may be part of a name. -/
def Spelt (name : String) : Prop := Over (fun c => isNameChar c = true) name

theorem isNameChar_of_isWord (h : Text.isWord c = true) : isNameChar c = true := by
  unfold Text.isWord at h
  unfold isNameChar
  split at h
  · rw [h, Bool.true_or]
  · rename_i hc
    have hbeyond : 128 ≤ c.toNat := Nat.le_of_not_lt hc
    simp [hbeyond]

theorem isNameChar_of_isLetter (h : IsLetter c) : isNameChar c = true := by
  unfold isNameChar
  rcases h.1 with hletter | hbeyond
  · simp [Char.isAlphanum, hletter]
  · simp [hbeyond]

theorem ample_nameChar : Naming.Ample fun c => isNameChar c = true :=
  ⟨fun _ => isNameChar_of_isWord, fun _ => isNameChar_of_isLetter⟩

theorem Spelt.not_mem (h : Spelt name) (hc : isNameChar c = false) : c ∉ name.toList :=
  Over.not_mem h (by simp [hc])

/-! ## Classes of characters -/

/-- The characters of a query. -/
def isQueryChar (c : Char) : Bool :=
  isNameChar c || [' ', '\n', '`', '.', ',', '*', '=', '?'].contains c

/-- The characters of a statement, where functions may be called. -/
def isStatementChar (c : Char) : Bool := isQueryChar c || c == '(' || c == ')'

/-- The characters of imports, properties and values. -/
def isFragmentChar (c : Char) : Bool :=
  isNameChar c || [' ', '\n', '\\', ';', '?', '$', '=', '/', '*', '@', '|', '-', '>', ','].contains c

/-- A text of the characters of a query. -/
def QueryText (s : String) : Prop := Over (fun c => isQueryChar c = true) s

/-- A text of the characters of a statement. -/
def StatementText (s : String) : Prop := Over (fun c => isStatementChar c = true) s

instance (s : String) : Decidable (QueryText s) := inferInstanceAs (Decidable (Over _ s))

instance (s : String) : Decidable (StatementText s) := inferInstanceAs (Decidable (Over _ s))

theorem queryText_append {s t : String} : QueryText (s ++ t) ↔ QueryText s ∧ QueryText t :=
  Text.over_append

theorem statementText_append {s t : String} :
    StatementText (s ++ t) ↔ StatementText s ∧ StatementText t := Text.over_append

theorem isFragmentChar_of_isNameChar (h : isNameChar c = true) : isFragmentChar c = true := by
  rw [isFragmentChar, h, Bool.true_or]

theorem QueryText.statement {s : String} (h : QueryText s) : StatementText s :=
  Over.mono h fun c hc => by rw [isStatementChar, hc, Bool.true_or, Bool.true_or]

theorem Spelt.query (h : Spelt name) : QueryText name :=
  Over.mono h fun c hc => by rw [isQueryChar, hc, Bool.true_or]

end Php

/-! ## Queries and statements -/

namespace Sql

open Naming (quoteIdentifier)
open Php (Spelt QueryText StatementText queryText_append statementText_append)

variable {table column parent aliasName : String}

theorem queryText_quoteIdentifier {name : String} (h : Spelt name) :
    QueryText (quoteIdentifier name) := by
  simp only [quoteIdentifier, queryText_append, h.query]
  decide

theorem queryText_liveCondition (h : Spelt table) : QueryText (liveCondition table) := by
  simp only [liveCondition, queryText_append, queryText_quoteIdentifier h]
  decide

/-- The condition behind a keyword, if rows are marked as deleted. -/
theorem queryText_liveClause (h : Spelt table) (softDelete : Bool) {keyword : String}
    (hkeyword : QueryText keyword) :
    QueryText (if softDelete then keyword ++ liveCondition table else "") := by
  cases softDelete with
  | true => exact queryText_append.mpr ⟨hkeyword, queryText_liveCondition h⟩
  | false => exact (by decide : QueryText "")

theorem queryText_joinClause {fk : ForeignKey} (htable : Spelt table) (hcolumn : Spelt fk.column)
    (hparent : Spelt fk.parentTable) : QueryText (joinClause table fk) := by
  have hchild := queryText_quoteIdentifier htable
  have hforeign := queryText_quoteIdentifier hcolumn
  have hother := queryText_quoteIdentifier hparent
  unfold joinClause
  simp only [queryText_append, hchild, hforeign, hother]
  decide

theorem queryText_selectColumn (hparent : Spelt parent) (hcolumn : Spelt column)
    (halias : Spelt aliasName) : QueryText (selectColumn parent column aliasName) := by
  simp only [selectColumn, queryText_append, queryText_quoteIdentifier hparent,
    queryText_quoteIdentifier hcolumn, queryText_quoteIdentifier halias]
  decide

theorem queryText_assignment (h : Spelt column) :
    QueryText (quoteIdentifier column ++ " = " ++ placeholder) := by
  simp only [queryText_append, queryText_quoteIdentifier h]
  decide

/-- The statement that marks a row as deleted calls a function. -/
theorem statementText_deleteStatement (h : Spelt table) (softDelete : Bool) :
    StatementText (deleteStatement table softDelete) := by
  have htable := (queryText_quoteIdentifier h).statement
  cases softDelete with
  | true =>
    simp only [deleteStatement, if_true, statementText_append, htable]
    decide
  | false =>
    simp only [deleteStatement, Bool.false_eq_true, if_false, statementText_append, htable]
    decide

theorem queryText_restoreStatement (h : Spelt table) : QueryText (restoreStatement table) := by
  simp only [restoreStatement, queryText_append, queryText_quoteIdentifier h]
  decide

end Sql

/-! ## Plans -/

namespace Plan

open Php (Spelt QueryText StatementText queryText_append)

/-- A plan whose names are words and whose fragments have the characters of queries and statements. -/
structure Spelled (p : Plan) : Prop where
  names : ∀ name ∈ p.names, Spelt name
  selects : ∀ column ∈ p.selectColumns, QueryText column
  joins : ∀ clause ∈ p.joinClauses, QueryText clause
  whereLive : QueryText p.whereLive
  andLive : QueryText p.andLive
  insertion : ∀ column ∈ p.insertColumns, QueryText column
  values : ∀ value ∈ p.placeholders, QueryText value
  assignments : ∀ assignment ∈ p.assignments, QueryText assignment
  deletion : StatementText p.deleteStatement
  restoring : ∀ statement ∈ p.restoreStatement, QueryText statement

/-- The fragments of one relation. -/
structure SpelledRelation (r : Relation) : Prop where
  joined : ∀ clause ∈ r.joinClause, QueryText clause
  selected : ∀ column ∈ r.selectColumns, QueryText column

theorem spelled_relationOf {table : String} {fk : ForeignKey} {parent : Option Table}
    (htable : Spelt table) (hnames : ∀ name ∈ (relationOf table fk parent).names, Spelt name) :
    SpelledRelation (relationOf table fk parent) := by
  have hcolumn : Spelt fk.column := hnames _ (by simp [Relation.names, ForeignKey.names])
  have hparent : Spelt fk.parentTable := hnames _ (by simp [Relation.names, ForeignKey.names])
  cases parent with
  | none => exact ⟨by simp [relationOf], by simp [relationOf]⟩
  | some parent =>
    refine ⟨?_, ?_⟩
    · rw [relationOf_joinClause]
      rintro clause ⟨⟩
      exact Sql.queryText_joinClause htable hcolumn hparent
    · rw [relationOf_selectColumns]
      refine List.forall_mem_map.mpr fun m hm => ?_
      have hmapping : ∀ name ∈ m.names, Spelt name := by
        intro name hname
        have hrule : name ∈ (ruleOf fk.parentTable parent.columns).names :=
          List.mem_cons_of_mem _ (List.mem_cons_of_mem _ (List.mem_flatMap.mpr ⟨m, hm, hname⟩))
        exact hnames name (List.mem_append_right _ hrule)
      exact Sql.queryText_selectColumn hparent (hmapping _ (by simp [Hydration.Mapping.names]))
        (hmapping _ (by simp [Hydration.Mapping.names]))

theorem spelled_planOf {table : Table} {relations : List Relation}
    (hrelations : ∀ r ∈ relations, ∃ parent, r = relationOf table.name r.foreignKey parent)
    (hnames : ∀ name ∈ (planOf table relations).names, Spelt name) :
    Spelled (planOf table relations) := by
  have htable : Spelt table.name := hnames _ (by simp [names, planOf])
  have hfillable : ∀ column ∈ Sql.fillableColumns table.columns, Spelt column :=
    fun column hcolumn => hnames _ (by simp [names, planOf, hcolumn])
  have hrelation : ∀ r ∈ (planOf table relations).resolvedRelations, SpelledRelation r := by
    intro r hr
    have hmem : r ∈ relations := (List.mem_filter.mp hr).1
    obtain ⟨parent, heq⟩ := hrelations r hmem
    have hspelt : ∀ name ∈ r.names, Spelt name := fun name hname =>
      hnames name (List.mem_append_left _ (List.mem_append_right _
        (List.mem_flatMap.mpr ⟨r, hmem, hname⟩)))
    rw [heq] at hspelt ⊢
    exact spelled_relationOf htable hspelt
  refine ⟨hnames, ?_, ?_, ?_, ?_, ?_, ?_, ?_, Sql.statementText_deleteStatement htable _, ?_⟩
  · unfold selectColumns
    refine List.forall_mem_cons.mpr ⟨?_, List.forall_mem_flatMap.mpr fun r hr =>
      (hrelation r hr).selected⟩
    exact queryText_append.mpr ⟨Sql.queryText_quoteIdentifier htable, by decide⟩
  · intro clause hclause
    obtain ⟨r, hr, hclause⟩ := List.mem_filterMap.mp hclause
    exact (hrelation r hr).joined clause (Option.filter_eq_some_iff.mp hclause).1
  · exact Sql.queryText_liveClause htable _ (by decide)
  · exact Sql.queryText_liveClause htable _ (by decide)
  · exact List.forall_mem_map.mpr fun column hcolumn =>
      Sql.queryText_quoteIdentifier (hfillable column hcolumn)
  · exact List.forall_mem_map.mpr fun column _ => (by decide : QueryText Sql.placeholder)
  · exact List.forall_mem_map.mpr fun column hcolumn =>
      Sql.queryText_assignment (hfillable column hcolumn)
  · intro statement hstatement
    simp only [planOf] at hstatement
    split at hstatement
    · cases hstatement
      exact Sql.queryText_restoreStatement htable
    · cases hstatement

/-- A plan that is built for a table that was read, with parents whose columns are words. -/
theorem spelled_of_build {σ : Type} [Journaled σ] {resolve : String → Action σ (Option Table)}
    {inv : σ → Prop} {table : Table} {plan : Plan} {s s' : σ} (htable : Schema.WasRead table)
    (hresolve : Answering resolve inv fun _ parent => ∀ t ∈ parent, ∀ column ∈ t.columns, Spelt column)
    (hs : inv s) (hbuild : (build table resolve).run s = (.ok plan, s')) : Spelled plan := by
  have hnames := over_names Php.ample_nameChar htable hresolve hs hbuild
  obtain ⟨hplan, -, hrelations⟩ := build_ok hresolve hs hbuild
  rw [hplan] at hnames ⊢
  exact spelled_planOf (fun r hr => (hrelations r hr).imp fun _ h => h.2) hnames

variable {plan : Plan} {r : Relation} {rule : Hydration.Rule} {name : String}

theorem Spelled.tableName (h : Spelled plan) : Spelt plan.tableName :=
  h.names _ (by simp [Plan.names])

theorem Spelled.modelName (h : Spelled plan) : Spelt plan.modelName :=
  h.names _ (by simp [Plan.names])

theorem Spelled.column (h : Spelled plan) (hname : name ∈ plan.columns) : Spelt name :=
  h.names _ (by simp [Plan.names, hname])

theorem Spelled.fillable (h : Spelled plan) (hname : name ∈ plan.fillableColumns) : Spelt name :=
  h.names _ (by simp [Plan.names, hname])

theorem Spelled.relation (h : Spelled plan) (hr : r ∈ plan.relations) (hname : name ∈ r.names) :
    Spelt name :=
  h.names _ (List.mem_append_left _ (List.mem_append_right _ (List.mem_flatMap.mpr ⟨r, hr, hname⟩)))

theorem Spelled.ofRule (h : Spelled plan) (hrule : rule ∈ plan.hydrationRules) :
    ∀ name ∈ rule.names, Spelt name := by
  obtain ⟨r, hr, hrule⟩ := List.mem_filterMap.mp hrule
  intro name hname
  exact h.relation hr (by simp [Relation.names, hrule, hname])

end Plan

/-! ## Fragments of PHP -/

namespace Php

/-- Leaving out relations of a name that was seen brings in no relation. -/
theorem mem_firstRelations {seen : List String} {relations : List Relation} {r : Relation}
    (h : r ∈ firstRelations seen relations) : r ∈ relations := by
  induction relations generalizing seen with
  | nil => cases h
  | cons first rest ih =>
    rw [firstRelations] at h
    split at h
    · exact List.mem_cons_of_mem _ (ih h)
    · rcases List.mem_cons.mp h with rfl | h
      · exact List.mem_cons_self
      · exact List.mem_cons_of_mem _ (ih h)

section Fragments

variable {ok : Char → Prop} (hok : ∀ c, isFragmentChar c = true → ok c)
include hok

theorem over_literal {s : String} (h : Over (fun c => isFragmentChar c = true) s) : Over ok s :=
  h.mono hok

theorem Spelt.over {name : String} (h : Spelt name) : Over ok name :=
  Over.mono h fun c hc => hok c (isFragmentChar_of_isNameChar hc)

theorem over_useLines {parent : String} (hparent : Over ok parent) {classes : List String}
    (h : ∀ name ∈ classes, Spelt name) (excluded : List String) :
    ∀ line ∈ useLines parent classes excluded, Over ok line := by
  refine List.forall_mem_map.mpr fun name hname => ?_
  have hclass := (h name (mem_firstSeen hname)).over hok
  simp only [useLine, Text.over_append]
  exact ⟨⟨⟨⟨over_literal hok (by decide), hparent⟩, over_literal hok (by decide)⟩, hclass⟩,
    over_literal hok (by decide)⟩

theorem over_columnProperty {column : String} (h : Spelt column) : Over ok (columnProperty column) := by
  have hcamel := Spelt.over hok (Naming.over_camel ample_nameChar h)
  simp only [columnProperty, Text.over_append]
  exact ⟨⟨⟨over_literal hok (by decide), over_literal hok (by decide)⟩, hcamel⟩,
    over_literal hok (by decide)⟩

theorem over_relationProperty {parent : String} (hparent : Over ok parent) {r : Relation}
    (h : ∀ name ∈ r.names, Spelt name) : ∀ line ∈ relationProperty parent r, Over ok line := by
  have hname : Over ok r.relationName := Spelt.over hok (h _ (by simp [Relation.names]))
  have hmodel : Over ok r.parentModel := Spelt.over hok (h _ (by simp [Relation.names]))
  simp only [relationProperty, List.forall_mem_cons, Text.over_append, hparent, hname, hmodel]
  exact ⟨over_literal hok (by decide),
    ⟨⟨⟨⟨⟨over_literal hok (by decide), over_literal hok (by decide)⟩, trivial⟩,
      over_literal hok (by decide)⟩, trivial⟩, over_literal hok (by decide)⟩,
    ⟨⟨⟨over_literal hok (by decide), over_literal hok (by decide)⟩, trivial⟩,
      over_literal hok (by decide)⟩, by simp⟩

theorem over_modelProperties {plan : Plan} {modelsNamespace : String}
    (hnamespace : Over ok modelsNamespace) (hcolumns : ∀ column ∈ plan.columns, Spelt column)
    (hrelations : ∀ r ∈ plan.relations, ∀ name ∈ r.names, Spelt name) :
    Over ok (modelProperties plan modelsNamespace) := by
  refine Text.over_join (over_literal hok (by decide)) ?_
  simp only [List.forall_mem_append, List.forall_mem_map, List.forall_mem_flatMap]
  exact ⟨fun column hcolumn => over_columnProperty hok (hcolumns column hcolumn),
    fun r hr => over_relationProperty hok hnamespace (hrelations r (mem_firstRelations hr))⟩

theorem over_executeParams {columns : List String} (h : ∀ column ∈ columns, Spelt column) :
    Over ok (executeParams columns) := by
  refine Text.over_join (over_literal hok (by decide)) (List.forall_mem_map.mpr fun column hcolumn => ?_)
  have hcamel := Spelt.over hok (Naming.over_camel ample_nameChar (h column hcolumn))
  simp only [Text.over_append]
  exact ⟨⟨⟨over_literal hok (by decide), over_literal hok (by decide)⟩, hcamel⟩,
    over_literal hok (by decide)⟩

end Fragments

/-! ## Hydration code -/

/-- The names in the lines of a rule. -/
theorem spelt_plainFilling {rule : Hydration.Rule} (h : ∀ name ∈ rule.names, Spelt name) :
    ∀ entry ∈ Hydration.plainFilling rule, Spelt entry.2 := by
  simp only [Hydration.Rule.names, List.forall_mem_cons] at h
  obtain ⟨hrelation, hparent, -⟩ := h
  have hhas : Spelt "has" := Text.forall_mem_of_all (by decide)
  have hdata : Spelt "Data" := Text.forall_mem_of_all (by decide)
  simp only [Hydration.plainFilling, List.forall_mem_cons]
  exact ⟨hrelation, hparent, (hhas.append hparent).append hdata, by simp⟩

/-- The names in the lines of a mapping. -/
theorem spelt_mappingFilling {rule : Hydration.Rule} (h : ∀ name ∈ rule.names, Spelt name)
    {m : Hydration.Mapping} (hm : m ∈ rule.mappings) :
    ∀ entry ∈ Hydration.mappingFilling rule m, Spelt entry.2 := by
  have hnames : ∀ name ∈ m.names, Spelt name := fun name hname => h name
    (List.mem_cons_of_mem _ (List.mem_cons_of_mem _ (List.mem_flatMap.mpr ⟨m, hm, hname⟩)))
  simp only [Hydration.Mapping.names, List.forall_mem_cons] at hnames
  obtain ⟨halias, -, hproperty, -⟩ := hnames
  simp only [Hydration.mappingFilling, List.forall_mem_append, List.forall_mem_cons]
  exact ⟨spelt_plainFilling h, halias, hproperty, by simp⟩

end Php

end Scaffold
