import Scaffold.Proofs.Generator.Reading
import Scaffold.Proofs.Naming
import Scaffold.Proofs.Plan.Building
import Scaffold.Proofs.Schema.Words
import Scaffold.Proofs.Text.Alphabet

/-!
# The names of a plan

Every name of a plan is a word of a schema or is made from one by the rules for classes, properties
and aliases. A change of case may bring in other letters and more of them, but nothing by which a name
could end the place it is put in: no blank, no quote, no slash, no point, no brace.

* `Ample`, `over_of_kept`: a class of characters that has all that words and changes of case bring has
  those of every name made from a name.
* `Confined`: texts without the characters that could end their place.
* `Plan.names`: all names of a plan.
* `over_names`, `confined_names`: the names of a plan that is built from tables that were read.
* `lookup_answering`: the look-up beside a schema finds tables that were read.
-/
namespace Scaffold

namespace Naming

open Text (isBlank isWord IsLetter Over)

variable {ok : Char → Prop} {name source : String}

/-! ## Names made from names -/

/-- A class with every character that words have or that a change of case brings in. -/
structure Ample (ok : Char → Prop) : Prop where
  word : ∀ c, isWord c = true → ok c
  letter : ∀ c, IsLetter c → ok c

/-- A name that keeps characters of another one and has letters besides. -/
theorem over_of_kept (hok : Ample ok) (hsource : Over ok source)
    (h : ∀ {c}, c ∈ name.toList → Kept source.toList c) : Over ok name := by
  intro c hc
  rcases h hc with ⟨hkept, -⟩ | hletter
  · exact hsource c hkept
  · exact hok.letter c hletter

theorem over_of_isName (hok : Ample ok) (h : Schema.IsName name) : Over ok name := fun c hc =>
  hok.word c (h.2 c hc)

theorem over_modelName (hok : Ample ok) (h : Over ok source) : Over ok (modelName source) :=
  over_of_kept hok h mem_modelName

theorem over_relationName (hok : Ample ok) (h : Over ok source) : Over ok (relationName source) :=
  over_of_kept hok h mem_relationName

theorem over_camel (hok : Ample ok) (h : Over ok source) : Over ok (camel source) :=
  over_of_kept hok h mem_camel

theorem over_relationAlias {column : String} (hok : Ample ok) (h : Over ok name)
    (hcolumn : Over ok column) : Over ok (Sql.relationAlias name column) := by
  have hlow : Over ok "_" := by
    intro c hc
    rw [List.mem_singleton.mp hc]
    exact hok.word '_' (by decide)
  exact (h.append hlow).append hcolumn

/-! ## Confined texts -/

/-- Quotes of all kinds, and the characters that mean something else in strings, paths and templates. -/
def signs : List Char := ['`', '\'', '"', '\\', '$', '/', '.', '{', '}']

/-- A text that stays a name wherever it is put. -/
def Confined (name : String) : Prop := ∀ c ∈ name.toList, isBlank c = false ∧ c ∉ signs

instance (name : String) : Decidable (Confined name) :=
  List.decidableBAll _ name.toList

theorem Confined.not_mem (h : Confined name) {c : Char} (hc : c ∈ signs) : c ∉ name.toList :=
  fun hmem => (h c hmem).2 hc

theorem Confined.append {other : String} (h : Confined name) (hother : Confined other) :
    Confined (name ++ other) := by
  intro c hc
  rw [String.toList_append, List.mem_append] at hc
  exact hc.elim (h c) (hother c)

theorem not_isLetter_of_mem_signs : ∀ c ∈ signs, ¬IsLetter c :=
  Text.forall_mem_of_all (by decide)

theorem not_isWord_of_mem_signs : ∀ c ∈ signs, isWord c = false :=
  Text.forall_mem_of_all (by decide)

/-- No character of a name could end its place. -/
theorem ample_confined : Ample fun c => isBlank c = false ∧ c ∉ signs := by
  refine ⟨fun c hword => ⟨Text.isBlank_of_isWord hword, fun hsign => ?_⟩,
    fun c hletter => ⟨hletter.2, fun hsign => not_isLetter_of_mem_signs c hsign hletter⟩⟩
  rw [not_isWord_of_mem_signs c hsign] at hword
  cases hword

end Naming

open Naming (Ample Confined)
open Text (Over)

/-! ## The names of a plan -/

/-- The names of a foreign key. -/
def ForeignKey.names (fk : ForeignKey) : List String := [fk.column, fk.parentTable, fk.parentColumn]

/-- The names of a mapping. -/
def Hydration.Mapping.names (m : Hydration.Mapping) : List String := [m.aliasName, m.column, m.property]

/-- The names of a rule. -/
def Hydration.Rule.names (rule : Hydration.Rule) : List String :=
  rule.relationName :: rule.parentModel :: rule.mappings.flatMap Mapping.names

/-- The names of a relation. -/
def Relation.names (r : Relation) : List String :=
  r.foreignKey.names ++ [r.relationName, r.parentModel] ++ (r.hydration.map (·.names)).getD []

/-- The names of a warning. -/
def RelationWarning.names (w : RelationWarning) : List String := [w.parentTable, w.column]

namespace Plan

/-- All names of a plan. -/
def names (p : Plan) : List String :=
  p.tableName :: p.modelName :: (p.columns ++ p.fillableColumns) ++ p.relations.flatMap (·.names) ++
    p.warnings.flatMap (·.names)

section Parts

variable {ok : Char → Prop} (hok : Ample ok)
include hok

theorem over_mappingOf {relation column : String} (h : Over ok relation) (hcolumn : Over ok column) :
    ∀ name ∈ (mappingOf relation column).names, Over ok name := by
  simp only [Hydration.Mapping.names, mappingOf, List.forall_mem_cons]
  exact ⟨Naming.over_relationAlias hok h hcolumn, hcolumn, Naming.over_camel hok hcolumn, by simp⟩

theorem over_ruleOf {parent : String} {columns : List String} (h : Over ok parent)
    (hcolumns : ∀ column ∈ columns, Over ok column) :
    ∀ name ∈ (ruleOf parent columns).names, Over ok name := by
  have hrelation := Naming.over_relationName hok h
  simp only [Hydration.Rule.names, ruleOf, mappingsOf, List.forall_mem_cons]
  refine ⟨hrelation, Naming.over_modelName hok h, fun name hname => ?_⟩
  obtain ⟨m, hm, hname⟩ := List.mem_flatMap.mp hname
  obtain ⟨column, hcolumn, rfl⟩ := List.mem_map.mp hm
  exact over_mappingOf hok hrelation (hcolumns column hcolumn) name hname

theorem over_relationOf {table : String} {fk : ForeignKey} {parent : Option Table}
    (hfk : ∀ name ∈ fk.names, Over ok name)
    (hparent : ∀ t ∈ parent, ∀ column ∈ t.columns, Over ok column) :
    ∀ name ∈ (relationOf table fk parent).names, Over ok name := by
  have htable : Over ok fk.parentTable := hfk _ (by simp [ForeignKey.names])
  simp only [Relation.names, relationOf_foreignKey, relationOf_relationName, relationOf_parentModel,
    relationOf_hydration, List.forall_mem_append, List.forall_mem_cons]
  refine ⟨⟨hfk, Naming.over_relationName hok htable, Naming.over_modelName hok htable, by simp⟩, ?_⟩
  cases parent with
  | none => simp
  | some parent => exact over_ruleOf hok htable (hparent parent rfl)

theorem over_planOf {table : Table} {relations : List Relation} (hname : Over ok table.name)
    (hcolumns : ∀ column ∈ table.columns, Over ok column)
    (hrelations : ∀ r ∈ relations, ∀ name ∈ r.names, Over ok name) :
    ∀ name ∈ (planOf table relations).names, Over ok name := by
  simp only [names, planOf, List.forall_mem_append, List.forall_mem_cons, List.forall_mem_flatMap]
  refine ⟨⟨⟨hname, Naming.over_modelName hok hname, hcolumns, ?_⟩, hrelations⟩, ?_⟩
  · intro column hcolumn
    exact hcolumns column (List.mem_filter.mp hcolumn).1
  · intro warning hwarning
    obtain ⟨r, hr, hwarns⟩ := List.mem_filterMap.mp hwarning
    have hnames := hrelations r hr
    unfold warning? at hwarns
    split at hwarns
    · cases hwarns
    · cases hwarns
      simp only [RelationWarning.names, unresolvedWarning, List.forall_mem_cons]
      exact ⟨hnames _ (by simp [Relation.names, ForeignKey.names]),
        hnames _ (by simp [Relation.names, ForeignKey.names]), by simp⟩

end Parts

end Plan

/-! ## Tables that were read -/

namespace Schema

/-- A table that was read from some text. -/
def WasRead (t : Table) : Prop := ∃ text source, Table.parse text source = .ok t

theorem WasRead.worded {t : Table} (h : WasRead t) : Worded t := by
  obtain ⟨text, source, hparse⟩ := h
  exact worded_of_parse hparse

theorem WasRead.over_columns {ok : Char → Prop} {t : Table} (h : WasRead t) (hok : Ample ok) :
    ∀ column ∈ t.columns, Over ok column := fun column hcolumn =>
  Naming.over_of_isName hok (h.worded.columns column hcolumn)

theorem Worded.over_keys {ok : Char → Prop} {t : Table} (h : Worded t) (hok : Ample ok) :
    ∀ fk ∈ t.foreignKeys, ∀ name ∈ fk.names, Over ok name := by
  intro fk hfk
  simp only [ForeignKey.names, List.forall_mem_cons]
  exact ⟨Naming.over_of_isName hok (h.keyColumns fk hfk),
    Naming.over_of_isName hok (h.parentTables fk hfk),
    Naming.over_of_isName hok (h.parentColumns fk hfk), by simp⟩

theorem Worded.keys {t : Table} (h : Worded t) :
    ∀ fk ∈ t.foreignKeys, ∀ name ∈ fk.names, Confined name := h.over_keys Naming.ample_confined

/-- A look-up that keeps only tables that were read. -/
def KeepsRead (s : Resolver × Workspace) : Prop :=
  ∀ table answer, List.lookup table s.1.found = some answer → ∀ t ∈ answer, WasRead t

theorem parentAt_read {w : Workspace} {directory : Files.Path} {table : String} {answer : Option Table}
    (h : parentAt w directory table = .ok answer) : ∀ t ∈ answer, WasRead t := by
  unfold parentAt at h
  obtain ⟨there, -, h⟩ := bind_eq_ok.mp h
  cases there with
  | false => cases h; simp
  | true =>
    obtain ⟨found, hfound, h⟩ := bind_eq_ok.mp h
    cases h
    obtain ⟨text, -, hparse⟩ := bind_eq_ok.mp hfound
    rintro t ⟨⟩
    exact ⟨text, _, mapError_eq_ok.mp hparse⟩

/-- What is found beside a schema was read. -/
theorem lookup_answering : Plan.Answering Resolver.lookup KeepsRead
    fun _ parent => ∀ t ∈ parent, WasRead t := by
  refine ⟨?_, fun _ _ h => h⟩
  rintro name parent ⟨r, w⟩ s' hs hrun
  unfold Action.run Resolver.lookup at hrun
  cases hl : List.lookup name r.found with
  | some answer =>
    simp only [hl] at hrun
    cases hrun
    exact ⟨hs name parent hl, hs⟩
  | none =>
    obtain ⟨w', hnow, -⟩ := lookUpNow_answers w r.directory name w (Told.refl w)
    have hpath : r.pathOf name = r.directory.join (name ++ fileEnding) := rfl
    simp only [hl, hpath, hnow] at hrun
    cases hparent : parentAt w r.directory name with
    | error e => rw [hparent] at hrun; cases hrun
    | ok answer =>
      rw [hparent] at hrun
      cases hrun
      have hread := parentAt_read hparent
      refine ⟨hread, fun table found hfound => ?_⟩
      rw [List.lookup_cons] at hfound
      split at hfound
      · cases hfound
        exact hread
      · exact hs table found hfound

end Schema

namespace Plan

variable {σ : Type} [Journaled σ] {resolve : String → Action σ (Option Table)} {inv : σ → Prop}
  {table : Table} {plan : Plan} {s s' : σ}

/-- The names of a plan have only characters of an ample class if its table was read and the columns of
the parents that were looked up have only such characters. -/
theorem over_names {ok : Char → Prop} (hok : Ample ok) (htable : Schema.WasRead table)
    (hresolve : Answering resolve inv fun _ parent => ∀ t ∈ parent, ∀ column ∈ t.columns, Over ok column)
    (hs : inv s) (hbuild : (build table resolve).run s = (.ok plan, s')) : ∀ name ∈ plan.names, Over ok name := by
  obtain ⟨hplan, hkeys, hrelations⟩ := build_ok hresolve hs hbuild
  have hworded := htable.worded
  rw [hplan]
  refine over_planOf hok (Naming.over_of_isName hok hworded.name)
    (htable.over_columns hok) ?_
  intro r hr
  obtain ⟨parent, hparent, heq⟩ := hrelations r hr
  have hfk : r.foreignKey ∈ table.foreignKeys := by
    rw [← hkeys]
    exact List.mem_map_of_mem hr
  rw [heq]
  exact over_relationOf hok (hworded.over_keys hok _ hfk) hparent

/-- The names are confined if the parents were read, too. -/
theorem confined_names (htable : Schema.WasRead table)
    (hresolve : Answering resolve inv fun _ parent => ∀ t ∈ parent, Schema.WasRead t) (hs : inv s)
    (hbuild : (build table resolve).run s = (.ok plan, s')) : ∀ name ∈ plan.names, Confined name :=
  over_names Naming.ample_confined htable
    (hresolve.mono fun _ _ hread t ht => (hread t ht).over_columns Naming.ample_confined) hs hbuild

end Plan

end Scaffold
