import Mathlib.Data.List.Basic
import Scaffold.Artifact.Fragment
import Scaffold.Proofs.Artifact.Access
import Scaffold.Proofs.Naming
import Scaffold.Sql
import Scaffold.Hydration.Block

/-!
# What fragments access and declare

The varying parts of the generated classes, one by one: most begin no variable at all, the code for the
columns and relations accesses what these give, and the properties of the model declare it.

* `Compact`, `compact_of_kept`: names that can stand after a dollar sign.
* `closed_rule`, `closed_executeParams`: what the code of a rule and the values of a statement access.
* `dollarless_joinClause` and those after it: statements and queries begin no variable.
* `mem_declarations_of_column`, `mem_declarations_of_relation`: what a model declares.
-/
namespace Scaffold.Php

open Naming (Kept quoteIdentifier)

variable {names : List String}

/-! ## Names -/

/-- A name that can follow a dollar sign: it neither begins another variable nor ends this one. -/
structure Compact (name : String) : Prop where
  dollar : Dollarless name
  space : ' ' ∉ name.toList
  dash : '-' ∉ name.toList

theorem compact_of_kept {source name : String} (hsource : Dollarless source)
    (h : ∀ {c}, c ∈ name.toList → Kept source.toList c) : Compact name := by
  have hseparated : ∀ {c}, Naming.isSeparator c = true → ¬Text.IsLetter c → c ∉ name.toList := by
    intro c hseparator hletter hmem
    rcases h hmem with ⟨-, hkept⟩ | hkept
    · rw [hseparator] at hkept
      cases hkept
    · exact hletter hkept
  refine ⟨fun hmem => ?_, hseparated (by decide) (by decide), hseparated (by decide) (by decide)⟩
  rcases h hmem with ⟨hdollar, -⟩ | hletter
  · exact hsource hdollar
  · exact absurd hletter (by decide)

theorem compact_camel {column : String} (h : Dollarless column) : Compact (Naming.camel column) :=
  compact_of_kept h Naming.mem_camel

theorem compact_relationName {table : String} (h : Dollarless table) :
    Compact (Naming.relationName table) := compact_of_kept h Naming.mem_relationName

theorem compact_modelName {table : String} (h : Dollarless table) :
    Compact (Naming.modelName table) := compact_of_kept h Naming.mem_modelName

theorem Compact.property? {name : String} (h : Compact name) : property? name.toList = none :=
  property?_of_not_mem h.dash

/-- A variable whose property is accessed is told by the text before the arrow. -/
theorem property?_arrow {object property p : String} (hobject : '-' ∉ object.toList)
    (hproperty : '-' ∉ property.toList) (h : property? (object ++ "->" ++ property).toList = some p) :
    object = "model" ∧ nameAt? property.toList = some p := by
  have htext : (object ++ "->" ++ property).toList =
      object.toList ++ '-' :: ('>' :: property.toList) := by
    simp [String.toList_append]
  obtain ⟨rest, hrest, hname⟩ := Option.bind_eq_some_iff.mp h
  unfold Text.dropStart? at hrest
  split at hrest
  · rename_i hstarts
    obtain ⟨tail, htail⟩ := Text.startsWith_iff.mp hstarts
    have harrow : "model->".toList ++ tail = "model".toList ++ '-' :: ('>' :: tail) := by simp
    rw [← htail, List.drop_left] at hrest
    cases hrest
    have hdash : '-' ∉ '>' :: property.toList := by simpa using hproperty
    rw [htext, harrow] at htail
    obtain ⟨hmodel, -, hrest⟩ := (List.append_cons_inj_of_notMem hobject hdash).mp htail.symm
    cases hrest
    exact ⟨String.toList_inj.mp hmodel, hname⟩
  · cases hrest

/-! ## Hydration code -/

/-- A rule whose code accesses only the names. -/
structure Tame (names : List String) (rule : Hydration.Rule) : Prop where
  relation : Compact rule.relationName
  model : rule.relationName ≠ "model"
  parent : Compact rule.parentModel
  properties : ∀ m ∈ rule.mappings, Compact m.property
  aliases : ∀ m ∈ rule.mappings, Dollarless m.aliasName
  declared : ∀ p, nameAt? rule.relationName.toList = some p → p ∈ names

theorem closed_assign {object property key : String} (hobject : Compact object)
    (hmodel : object ≠ "model") (hproperty : Compact property) (hkey : Dollarless key) :
    Closed names (Hydration.Simple.assign object property key).line.toList := by
  have hline : (Hydration.Simple.assign object property key).line =
      "$" ++ (object ++ "->" ++ property) ++ " = $row['" ++ key ++ "'];" := by
    unfold Hydration.Simple.line
    simp only [String.append_assoc]
  rw [hline]
  refine closed_append (closed_append (closed_variable ?_ ?_ ?_ (by decide) (by decide))
    (closed_of_not_mem hkey)) (closed_plain (by decide))
  · simp [String.toList_append, hobject.space, hproperty.space]
  · simp only [dollarless_append, hobject.dollar, hproperty.dollar]
    simp [Dollarless]
  · intro p hp
    exact absurd (property?_arrow hobject.dash hproperty.dash hp).1 hmodel

theorem closed_attach {object property : String} (hobject : Compact object)
    (hproperty : Compact property) (hdeclared : ∀ p, nameAt? property.toList = some p → p ∈ names) :
    Closed names (Hydration.Simple.attach property object).line.toList := by
  have hline : (Hydration.Simple.attach property object).line =
      "$" ++ ("model" ++ "->" ++ property) ++ " = " ++ ("$" ++ object ++ ";") := by
    unfold Hydration.Simple.line
    simp only [String.append_assoc]
    rfl
  rw [hline]
  refine closed_append (closed_variable ?_ ?_ ?_ (by decide) (by decide))
    (closed_variable hobject.space hobject.dollar ?_ (by decide) (by decide))
  · simp [String.toList_append, hproperty.space]
  · simp only [dollarless_append, hproperty.dollar]
    simp [Dollarless]
  · intro p hp
    exact hdeclared p (property?_arrow (by decide) hproperty.dash hp).2
  · intro p hp
    rw [hobject.property?] at hp
    cases hp

theorem closed_named {name : String} (h : Compact name) {rest : List Char}
    (hstop : stopsSoon rest = true) (hrest : closes [] rest = true) :
    Closed names ("$" ++ name ++ String.ofList rest).toList := by
  refine closed_variable h.space h.dollar (fun p hp => ?_) hstop hrest
  rw [h.property?] at hp
  cases hp

theorem closed_unset {key : String} (hkey : Dollarless key) :
    Closed names (Hydration.Simple.unset key).line.toList :=
  closed_append (closed_append (closed_plain (by decide)) (closed_of_not_mem hkey))
    (closed_plain (by decide))

theorem closed_conditional {condition : String} {body : List Hydration.Simple}
    (hhead : Closed names (Hydration.indent ++ "if (" ++ condition ++ ") \x7b").toList)
    (hbody : ∀ s ∈ body, Closed names s.line.toList) :
    ∀ line ∈ Hydration.conditional condition body, Closed names line.toList := by
  unfold Hydration.conditional
  simp only [List.forall_mem_append, List.forall_mem_map, List.forall_mem_singleton]
  refine ⟨⟨hhead, fun s hs => closed_append (closed_plain (by decide)) (hbody s hs)⟩, ?_⟩
  exact closed_append (closed_plain (by decide)) (closed_plain (by decide))

theorem closed_move {rule : Hydration.Rule} (h : Tame names rule) (hflag : Compact rule.flag)
    {m : Hydration.Mapping} (hm : m ∈ rule.mappings) :
    ∀ line ∈ (m.statement rule).lines, Closed names line.toList := by
  have hkey : Closed names m.aliasName.toList := closed_of_not_mem (h.aliases m hm)
  unfold Hydration.Mapping.statement Hydration.Statement.lines
  refine closed_conditional ?_ ?_
  · refine closed_append (closed_append (closed_append (closed_plain (by decide))
      (closed_plain (by decide))) ?_) (closed_plain (by decide))
    exact closed_append (closed_append (closed_plain (by decide)) hkey) (closed_plain (by decide))
  · simp only [List.forall_mem_cons]
    refine ⟨closed_assign h.relation h.model (h.properties m hm) (h.aliases m hm), ?_,
      closed_unset (h.aliases m hm), by simp⟩
    exact closed_named hflag (by decide) (by decide)

theorem closed_block {rule : Hydration.Rule} (h : Tame names rule) :
    ∀ statement ∈ rule.block, ∀ line ∈ statement.lines, Closed names line.toList := by
  have hflag : Compact rule.flag := by
    unfold Hydration.Rule.flag
    refine ⟨?_, ?_, ?_⟩
    · simp only [dollarless_append, h.parent.dollar]
      simp [Dollarless]
    · simp [String.toList_append, h.parent.space]
    · simp [String.toList_append, h.parent.dash]
  have hindent : Closed names Hydration.indent.toList := closed_plain (by decide)
  have hparent : Closed names rule.parentModel.toList := closed_of_not_mem h.parent.dollar
  unfold Hydration.Rule.block
  simp only [List.forall_mem_append, List.forall_mem_cons, List.forall_mem_map]
  refine ⟨⟨⟨?empty, ?comment, ?create, ?lower, by simp⟩, ?move⟩, ?attach, by simp⟩
  case empty => simp [Hydration.Statement.lines, closed_nil]
  case comment =>
    simp only [Hydration.Statement.lines, List.forall_mem_singleton]
    refine closed_append (closed_append hindent (closed_plain (by decide))) ?_
    exact closed_append (closed_append (closed_plain (by decide)) hparent) (closed_plain (by decide))
  case create =>
    simp only [Hydration.Statement.lines, List.forall_mem_singleton]
    have hline : Hydration.indent ++ "$" ++ rule.relationName ++ " = new " ++ rule.parentModel ++
        "();" = Hydration.indent ++ ("$" ++ rule.relationName ++ " = new ") ++ rule.parentModel ++
        "();" := by simp only [String.append_assoc]
    rw [hline]
    refine closed_append (closed_append (closed_append hindent ?_) hparent) (closed_plain (by decide))
    exact closed_named h.relation (by decide) (by decide)
  case lower =>
    simp only [Hydration.Statement.lines, List.forall_mem_singleton]
    have hline : Hydration.indent ++ "$" ++ rule.flag ++ " = false;" =
        Hydration.indent ++ ("$" ++ rule.flag ++ " = false;") := by simp only [String.append_assoc]
    rw [hline]
    exact closed_append hindent (closed_named hflag (by decide) (by decide))
  case move => exact fun m hm => closed_move h hflag hm
  case attach =>
    refine closed_conditional ?_ ?_
    · have hline : Hydration.indent ++ "if (" ++ ("$" ++ rule.flag) ++ ") \x7b" =
          Hydration.indent ++ "if (" ++ ("$" ++ rule.flag ++ ") \x7b") := by
        simp only [String.append_assoc]
      rw [hline]
      exact closed_append (closed_append hindent (closed_plain (by decide)))
        (closed_named hflag (by decide) (by decide))
    · simp only [List.forall_mem_singleton]
      exact closed_attach h.relation h.relation h.declared

/-- The code of a tame rule. -/
theorem closed_rule {rule : Hydration.Rule} (h : Tame names rule) : Closed names rule.text.toList := by
  refine closed_join (closed_plain (by decide)) fun line hline => ?_
  obtain ⟨statement, hstatement, hline⟩ := List.mem_flatMap.mp hline
  exact closed_block h statement hstatement line hline

/-! ## Statements and queries -/

theorem dollarless_quoteIdentifier {name : String} (h : Dollarless name) :
    Dollarless (quoteIdentifier name) := by
  simp only [quoteIdentifier, dollarless_append, h]
  simp [Dollarless]

theorem dollarless_key : Dollarless (quoteIdentifier primaryKeyColumn) :=
  dollarless_quoteIdentifier (by simp [Dollarless, primaryKeyColumn])

theorem dollarless_mark : Dollarless (quoteIdentifier softDeleteColumn) :=
  dollarless_quoteIdentifier (by simp [Dollarless, softDeleteColumn])

theorem dollarless_byKey : Dollarless Sql.byKey := by
  simp only [Sql.byKey, Sql.placeholder, dollarless_append, dollarless_key]
  simp [Dollarless]

theorem dollarless_joinClause {table : String} {fk : ForeignKey} (htable : Dollarless table)
    (hcolumn : Dollarless fk.column) (hparent : Dollarless fk.parentTable) :
    Dollarless (Sql.joinClause table fk) := by
  have hchild := dollarless_quoteIdentifier htable
  have hforeign := dollarless_quoteIdentifier hcolumn
  have hother := dollarless_quoteIdentifier hparent
  have hkey := dollarless_key
  unfold Sql.joinClause
  simp only [dollarless_append, hchild, hforeign, hother, hkey]
  simp [Dollarless]

theorem dollarless_relationAlias {relation column : String} (hrelation : Dollarless relation)
    (hcolumn : Dollarless column) : Dollarless (Sql.relationAlias relation column) := by
  simp only [Sql.relationAlias, dollarless_append, hrelation, hcolumn]
  simp [Dollarless]

theorem dollarless_selectColumn {parent column aliasName : String} (hparent : Dollarless parent)
    (hcolumn : Dollarless column) (halias : Dollarless aliasName) :
    Dollarless (Sql.selectColumn parent column aliasName) := by
  have hother := dollarless_quoteIdentifier hparent
  have hselected := dollarless_quoteIdentifier hcolumn
  have hname := dollarless_quoteIdentifier halias
  simp only [Sql.selectColumn, dollarless_append, hother, hselected, hname]
  simp [Dollarless]

theorem dollarless_liveCondition {table : String} (h : Dollarless table) :
    Dollarless (Sql.liveCondition table) := by
  have htable := dollarless_quoteIdentifier h
  simp only [Sql.liveCondition, dollarless_append, htable, dollarless_mark]
  simp [Dollarless]

theorem dollarless_deleteStatement {table : String} (h : Dollarless table) (soft : Bool) :
    Dollarless (Sql.deleteStatement table soft) := by
  have htable := dollarless_quoteIdentifier h
  unfold Sql.deleteStatement
  split <;> simp only [dollarless_append, htable, dollarless_mark, dollarless_byKey] <;>
    simp [Dollarless]

theorem dollarless_restoreStatement {table : String} (h : Dollarless table) :
    Dollarless (Sql.restoreStatement table) := by
  have htable := dollarless_quoteIdentifier h
  simp only [Sql.restoreStatement, dollarless_append, htable, dollarless_mark, dollarless_byKey]
  simp [Dollarless]

theorem dollarless_insertColumns {columns : List String} (h : ∀ column ∈ columns, Dollarless column) :
    Dollarless (Text.join ", " (Sql.insertColumns columns)) := by
  refine dollarless_join (by simp [Dollarless]) (List.forall_mem_map.mpr fun column hcolumn => ?_)
  exact dollarless_quoteIdentifier (h column hcolumn)

theorem dollarless_placeholders (columns : List String) :
    Dollarless (Text.join ", " (Sql.placeholders columns)) := by
  refine dollarless_join (by simp [Dollarless]) (List.forall_mem_map.mpr fun column hcolumn => ?_)
  simp [Dollarless, Sql.placeholder]

theorem dollarless_assignments {columns : List String} (h : ∀ column ∈ columns, Dollarless column) :
    Dollarless (Text.join ", " (Sql.assignments columns)) := by
  refine dollarless_join (by simp [Dollarless]) (List.forall_mem_map.mpr fun column hcolumn => ?_)
  have hassigned := dollarless_quoteIdentifier (h column hcolumn)
  simp only [dollarless_append, hassigned]
  simp [Dollarless, Sql.placeholder]

/-- The values bound to a statement are properties of the columns. -/
theorem closed_executeParams {columns : List String} (h : ∀ column ∈ columns, Dollarless column)
    (hnames : ∀ column ∈ columns, ∀ p, nameAt? (Naming.camel column).toList = some p → p ∈ names) :
    Closed names (executeParams columns).toList := by
  refine closed_join (closed_plain (by decide)) (List.forall_mem_map.mpr fun column hcolumn => ?_)
  have hcamel := compact_camel (h column hcolumn)
  have hline : indent3 ++ "$model->" ++ Naming.camel column ++ "," =
      indent3 ++ ("$" ++ ("model" ++ "->" ++ Naming.camel column) ++ ",") := by
    simp only [String.append_assoc]
    rfl
  rw [hline]
  refine closed_append ?_ (closed_variable ?_ ?_ ?_ (by decide) (by decide))
  · refine Dollarless.closed ?_
    simp [Dollarless, indent3, indent2, indent]
  · simp [String.toList_append, hcamel.space]
  · simp only [dollarless_append, hcamel.dollar]
    simp [Dollarless]
  · intro p hp
    exact hnames column hcolumn p (property?_arrow (by decide) hcamel.dash hp).2

/-! ## Names seen once -/

/-- Every name that was not seen before is kept. -/
theorem mem_firstSeen_iff {seen l : List String} {name : String} :
    name ∈ firstSeen seen l ↔ name ∈ l ∧ name ∉ seen := by
  induction l generalizing seen with
  | nil => simp [firstSeen]
  | cons first rest ih =>
    rw [firstSeen]
    split
    · rename_i hseen
      rw [ih, List.mem_cons]
      refine ⟨fun h => ⟨.inr h.1, h.2⟩, fun ⟨hmem, hnew⟩ => ⟨hmem.resolve_left ?_, hnew⟩⟩
      rintro rfl
      exact hnew (List.contains_iff_mem.mp hseen)
    · rename_i hseen
      rw [List.mem_cons, ih, List.mem_cons, List.mem_cons]
      by_cases hfirst : name = first
      · rw [hfirst]
        simpa using hseen
      · simp [hfirst]

theorem mem_firstSeen {seen l : List String} {name : String} (h : name ∈ firstSeen seen l) : name ∈ l :=
  (mem_firstSeen_iff.mp h).1

/-- Every name is kept once. -/
theorem nodup_firstSeen (seen l : List String) : (firstSeen seen l).Nodup := by
  induction l generalizing seen with
  | nil => exact List.nodup_nil
  | cons first rest ih =>
    rw [firstSeen]
    split
    · exact ih seen
    · refine List.nodup_cons.mpr ⟨fun hmem => ?_, ih (first :: seen)⟩
      exact (mem_firstSeen_iff.mp hmem).2 List.mem_cons_self

/-- The names of the relations that are kept. -/
theorem map_firstRelations (seen : List String) (relations : List Relation) :
    (firstRelations seen relations).map (·.relationName) =
      firstSeen seen (relations.map (·.relationName)) := by
  induction relations generalizing seen with
  | nil => rfl
  | cons r rest ih =>
    rw [firstRelations, List.map_cons, firstSeen]
    split
    · exact ih seen
    · rw [List.map_cons, ih]

theorem dollarless_useLines {parent : String} (hparent : Dollarless parent) {classes : List String}
    (h : ∀ name ∈ classes, Dollarless name) (excluded : List String) :
    ∀ line ∈ useLines parent classes excluded, Dollarless line := by
  refine List.forall_mem_map.mpr fun name hname => ?_
  have hclass := h name (mem_firstSeen hname)
  simp only [useLine, dollarless_append, hparent, hclass]
  simp [Dollarless]

theorem dollarless_joinLines {clauses : List String} (h : ∀ clause ∈ clauses, Dollarless clause) :
    Dollarless (joinLines clauses) := by
  unfold joinLines
  induction clauses with
  | nil => simp [Dollarless]
  | cons clause rest ih =>
    obtain ⟨hclause, hrest⟩ := List.forall_mem_cons.mp h
    rw [List.map_cons, String.join_cons]
    simp only [dollarless_append, hclause, ih hrest]
    simp [Dollarless, indent2, indent]

/-! ## Properties -/

/-- Leaving out relations of a name that was seen loses no name. -/
theorem exists_firstRelations {relations : List Relation} {seen : List String} {r : Relation}
    (h : r ∈ relations) (hseen : r.relationName ∉ seen) :
    ∃ first ∈ firstRelations seen relations, first.relationName = r.relationName := by
  have hkept : r.relationName ∈ (firstRelations seen relations).map (·.relationName) := by
    rw [map_firstRelations]
    exact mem_firstSeen_iff.mpr ⟨List.mem_map_of_mem h, hseen⟩
  exact List.mem_map.mp hkept

/-- A text that has the properties of a model in it declares those of the columns. -/
theorem mem_declarations_of_column {plan : Plan} {modelsNamespace text column p : String}
    (htext : (modelProperties plan modelsNamespace).toList <:+: text.toList)
    (h : column ∈ plan.columns) (hp : nameAt? (Naming.camel column).toList = some p) :
    p ∈ declarations text := by
  have hline : columnProperty column =
      indent ++ ("public ?" ++ "string" ++ " $" ++ Naming.camel column ++ " " ++ "= null;") := by
    unfold columnProperty
    simp only [String.append_assoc]
    rfl
  have hmem : columnProperty column ∈ plan.columns.map columnProperty ++
      (firstRelations [] plan.relations).flatMap (relationProperty modelsNamespace) :=
    List.mem_append_left _ (List.mem_map_of_mem h)
  have hinside := (Text.isInfix_join "\n" hmem).trans htext
  rw [hline, String.toList_append] at hinside
  exact mem_declarations (Text.forall_mem_of_all (by decide))
    ((List.suffix_append _ _).isInfix.trans hinside) hp

/-- A text that has the properties of a model in it declares those of the relations. -/
theorem mem_declarations_of_relation {plan : Plan} {modelsNamespace text p : String} {r : Relation}
    (htext : (modelProperties plan modelsNamespace).toList <:+: text.toList)
    (h : r ∈ plan.relations) (hp : nameAt? r.relationName.toList = some p) :
    p ∈ declarations text := by
  obtain ⟨first, hfirst, hname⟩ := exists_firstRelations h (List.not_mem_nil (a := r.relationName))
  have hline : indent ++ "public ?object $" ++ first.relationName ++ " = null;" =
      indent ++ ("public ?" ++ "object" ++ " $" ++ first.relationName ++ " " ++ "= null;") := by
    simp only [String.append_assoc]
    rfl
  have hmem : indent ++ "public ?object $" ++ first.relationName ++ " = null;" ∈
      plan.columns.map columnProperty ++
        (firstRelations [] plan.relations).flatMap (relationProperty modelsNamespace) :=
    List.mem_append_right _ (List.mem_flatMap.mpr ⟨first, hfirst, by simp [relationProperty]⟩)
  have hinside := (Text.isInfix_join "\n" hmem).trans htext
  rw [hline, String.toList_append] at hinside
  rw [← hname] at hp
  exact mem_declarations (Text.forall_mem_of_all (by decide))
    ((List.suffix_append _ _).isInfix.trans hinside) hp

end Scaffold.Php
