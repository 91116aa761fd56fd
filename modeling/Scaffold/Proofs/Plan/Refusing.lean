import Scaffold.Proofs.Plan.Constraints
import Scaffold.Proofs.Plan.Lookups
import Scaffold.Proofs.Plan.Names
import Scaffold.Proofs.Schema.Refusals

/-!
# When planning refuses a table that was read

The names of a table that was read are words, so of the characters that a name loses on its way into a plan
they have low lines only. Planning refuses the table for a name that has nothing else, and for no other
reason, wherever its parents are looked up.

* `LowLines`, `nameless_iff_lowLines`: the words of which nothing is left.
* `collect_outcome`, `Course`, `build_course`: planning as the keys that were asked, their answers and what
  follows from these, by induction on the keys.
* `emptied`: all the ways in which a record of a plan is refused.
* `Collapses`: the names of which nothing is left.
* `build_refused_iff`: the exact condition, what is refused then, and that nothing else can be.
-/
namespace Scaffold.Plan

open Naming (Nameless)
open Validation (Rejection emptyIssue)

/-! ## Names of low lines -/

/-- A name of low lines alone, or of nothing. -/
def LowLines (name : String) : Prop := ∀ c ∈ name.toList, c = '_'

instance (name : String) : Decidable (LowLines name) := List.decidableBAll _ name.toList

/-- Of the characters between words only the low line is a letter of words. -/
theorem nameless_iff_lowLines {name : String} (h : Text.Over (Text.isWord · = true) name) :
    Nameless name ↔ LowLines name := by
  refine forall₂_congr fun c hc => ?_
  have hword : Text.isWord c = true := h c hc
  constructor
  · intro hseparator
    have hsign : c = '_' ∨ c = '-' ∨ c = ' ' := by
      simpa [Naming.isSeparator, or_assoc] using hseparator
    rcases hsign with hlow | rfl | rfl
    · exact hlow
    · exact absurd hword (by decide)
    · exact absurd hword (by decide)
  · rintro rfl
    rfl

theorem nameless_singular_iff {name : String} (h : Schema.IsName name) :
    Nameless (Naming.singular name) ↔ LowLines (Naming.singular name) :=
  nameless_iff_lowLines fun c hc => h.2 c (Naming.mem_singular hc)

/-! ## The outcome of planning -/

section Outcome

variable {σ : Type} {resolve : String → Action σ (Option Table)} {inv : σ → Prop}
  {Answer : String → Option Table → Prop}

/-- A look-up that gives an answer in every state of a kind. -/
def AnswersAll (resolve : String → Action σ (Option Table)) (inv : σ → Prop) : Prop :=
  ∀ name s, inv s → ∃ parent s', (resolve name).run s = (.ok parent, s')

theorem recorded_run {name : String} {parent : Option Table} {s s' : σ}
    (h : (resolve name).run s = (.ok parent, s')) (log : List (String × Option Table)) :
    (recorded resolve name).run (log, s) = (.ok parent, (log ++ [(name, parent)], s')) := by
  obtain ⟨more, hrun⟩ := recorded_keeps resolve name log s
  rw [h] at hrun
  have hlog : log ++ more = log ++ [(name, parent)] := recorded_ok hrun
  rw [hrun, hlog]

/-- Two actions one after the other that are refused as two computations are. -/
theorem run_bind_rejected {α β γ : Type} {x : Action (γ × σ) α} {f : α → Action (γ × σ) β}
    {outcome : Except Rejection α} {g : α → Except Rejection β} {start : γ × σ} {log : γ} {s : σ}
    (hx : x.run start = (outcome.mapError .rejected, (log, s)))
    (hf : ∀ a, ∃ s', (f a).run (log, s) = ((g a).mapError .rejected, (log, s'))) :
    ∃ s', (x >>= f).run start = ((outcome >>= g).mapError .rejected, (log, s')) := by
  cases outcome with
  | error e => exact ⟨s, Action.run_bind_error hx⟩
  | ok a =>
    obtain ⟨s', hrun⟩ := hf a
    exact ⟨s', (Action.run_bind_ok hx).trans hrun⟩

variable [Journaled σ] (h : Answering resolve inv Answer) (hall : AnswersAll resolve inv)
include h hall

/-- One key is looked up, and its answer alone decides what becomes of it. -/
theorem buildRelation_outcome (name : String) (fk : ForeignKey) {s : σ} (hs : inv s)
    (log : List (String × Option Table)) : ∃ parent s', Answer fk.parentTable parent ∧ inv s' ∧
      (buildRelation name (recorded resolve) fk).run (log, s) =
        ((planRelation name fk parent).mapError .rejected, (log ++ [entry (fk, parent)], s')) := by
  obtain ⟨parent, s₁, hrun⟩ := hall fk.parentTable s hs
  obtain ⟨hanswer, hs₁⟩ := h.answer hs hrun
  have hrecorded := recorded_run hrun log
  cases hplan : planRelation name fk parent with
  | error e =>
    refine ⟨parent, s₁, hanswer, hs₁, ?_⟩
    unfold buildRelation
    rw [Action.run_bind_ok hrecorded, hplan]
    rfl
  | ok r =>
    have hlift : ∀ s, (Action.lift ((Except.ok r).mapError .rejected) :
        Action (List (String × Option Table) × σ) Relation).run s = (.ok r, s) := fun _ => rfl
    -- which entry the journal gets depends on whether there is a warning
    obtain ⟨n, hn⟩ : ∃ n, (buildRelation name (recorded resolve) fk).run (log, s) =
        (.ok r, Journaled.record n (log ++ [entry (fk, parent)], s₁)) := by
      unfold buildRelation
      rw [Action.run_bind_ok hrecorded, hplan, Action.run_bind_ok (hlift _)]
      dsimp only
      split <;> exact ⟨_, rfl⟩
    exact ⟨parent, Journaled.record n s₁, hanswer, h.record n s₁ hs₁, by rw [hn, hplan]; rfl⟩

/-- The keys are asked one after the other up to the first that is refused, and the answers alone decide
what becomes of them. -/
theorem collect_outcome (name : String) (keys : List ForeignKey) {s : σ} (hs : inv s)
    (log : List (String × Option Table)) :
    ∃ (asked : List (ForeignKey × Option Table)) (s' : σ),
      (Action.collect keys (buildRelation name (recorded resolve))).run (log, s) =
        ((asked.mapM fun a => planRelation name a.1 a.2).mapError .rejected,
          (log ++ asked.map entry, s')) ∧
      asked.map (·.1) <+: keys ∧ (∀ a ∈ asked, Answer a.1.parentTable a.2) ∧
      ((∀ a ∈ asked, ∃ r, planRelation name a.1 a.2 = .ok r) → asked.map (·.1) = keys) := by
  induction keys generalizing s log with
  | nil => exact ⟨[], s, by rw [List.map_nil, List.append_nil]; rfl, List.prefix_rfl, by simp, fun _ => rfl⟩
  | cons fk rest ih =>
    obtain ⟨parent, s₁, hanswer, hs₁, hrun⟩ := buildRelation_outcome h hall name fk hs log
    rw [Action.run_collect_cons]
    cases hplan : planRelation name fk parent with
    | error e =>
      rw [hplan] at hrun
      refine ⟨[(fk, parent)], s₁, ?_, by simp, by simpa using hanswer, fun hok => ?_⟩
      · rw [Action.run_bind_error hrun, List.mapM_cons, hplan]
        rfl
      · obtain ⟨r, hr⟩ := hok (fk, parent) List.mem_cons_self
        rw [hplan] at hr
        cases hr
    | ok r =>
      rw [hplan] at hrun
      obtain ⟨asked, s₂, hrest, hkeys, hanswers, hasked⟩ := ih hs₁ (log ++ [entry (fk, parent)])
      obtain ⟨s₃, hboth⟩ := run_bind_rejected (f := fun others => pure (r :: others))
        (g := fun others => pure (r :: others)) hrest fun others => ⟨s₂, rfl⟩
      refine ⟨(fk, parent) :: asked, s₃, ?_, ?_, List.forall_mem_cons.mpr ⟨hanswer, hanswers⟩, ?_⟩
      · have hlog : log ++ ((fk, parent) :: asked).map entry =
            log ++ [entry (fk, parent)] ++ asked.map entry := List.append_cons _ _ _
        rw [Action.run_bind_ok hrun, hboth, List.mapM_cons, hplan, hlog]
        rfl
      · exact List.prefix_cons_inj _ |>.mpr hkeys
      · intro hok
        rw [List.map_cons, hasked fun a ha => hok a (List.mem_cons_of_mem _ ha)]

/-- The course of a planning: the keys that were asked with their answers, all of them unless one was
refused, and an outcome that follows from the answers. -/
structure Course (table : Table) (resolve : String → Action σ (Option Table)) (s : σ)
    (asked : List (ForeignKey × Option Table)) : Prop where
  log : lookups table resolve s = asked.map entry
  keys : asked.map (·.1) <+: table.foreignKeys
  complete : (∀ a ∈ asked, ∃ r, planRelation table.name a.1 a.2 = .ok r) →
    asked.map (·.1) = table.foreignKeys
  outcome : ((build table resolve).run s).1 =
    ((asked.mapM fun a => planRelation table.name a.1 a.2) >>= assemble table).mapError .rejected

/-- Planning by a look-up that answers takes its course. -/
theorem build_course (table : Table) {s : σ} (hs : inv s) : ∃ asked, Course table resolve s asked ∧
    ∀ a ∈ asked, Answer a.1.parentTable a.2 := by
  obtain ⟨asked, s₁, hcollect, hkeys, hanswers, hcomplete⟩ :=
    collect_outcome h hall table.name table.foreignKeys hs []
  obtain ⟨s₂, hrun⟩ : ∃ s₂, (build table (recorded resolve)).run ([], s) =
      (((asked.mapM fun a => planRelation table.name a.1 a.2) >>= assemble table).mapError .rejected,
        (asked.map entry, s₂)) := by
    refine run_bind_rejected hcollect fun relations => ?_
    cases assemble table relations with
    | error e => exact ⟨s₁, rfl⟩
    | ok plan => exact ⟨_, rfl⟩
  rw [build_recorded] at hrun
  have hlookups : lookups table resolve s = asked.map entry := congrArg (fun r => r.2.1) hrun
  exact ⟨asked, ⟨hlookups, hkeys, hcomplete, congrArg Prod.fst hrun⟩, hanswers⟩

end Outcome

/-! ## What is refused -/

/-- The ways in which a record of a plan is refused: texts that are made from names come out empty. -/
def emptied : List Rejection := [
  ⟨"HydrationMapping", [emptyIssue "attribute"]⟩,
  ⟨"HydrationRule", [emptyIssue "relation_name", emptyIssue "parent_model"]⟩,
  ⟨"RelationPlan", [emptyIssue "relation_name", emptyIssue "parent_model"]⟩,
  ⟨"GenerationPlan", [emptyIssue "model_name"]⟩]

section Refusals

variable {record : String} {texts : List (String × String)} {e : Rejection}

/-- What is refused for empty texts names them all. -/
theorem eq_of_requireFilled (h : requireFilled record texts = .error e) :
    e = ⟨record, (texts.filter fun field => field.2.isEmpty).map fun field => emptyIssue field.1⟩ := by
  unfold requireFilled at h
  split at h
  · cases h
  · cases h
    rfl

theorem eq_of_checked {α : Type} {a : α} (h : requireFilled record texts >>= (fun _ => .ok a) = .error e) :
    e = ⟨record, (texts.filter fun field => field.2.isEmpty).map fun field => emptyIssue field.1⟩ := by
  rcases bind_eq_error.mp h with h | ⟨_, _, h⟩
  · exact eq_of_requireFilled h
  · cases h

/-- A column that is a word is refused for the property alone. -/
theorem eq_of_planMapping {relationName column : String} (hcolumn : Schema.IsName column)
    (h : planMapping relationName column = .error e) :
    e = ⟨"HydrationMapping", [emptyIssue "attribute"]⟩ := by
  have halias : (Sql.relationAlias relationName column).isEmpty = false :=
    isEmpty_append_low relationName column
  have hproperty : (Naming.camel column).isEmpty = true :=
    Naming.camel_isEmpty_iff.mpr (planMapping_error_iff.mp ⟨e, h⟩)
  rw [eq_of_checked h]
  simp [halias, hcolumn.isEmpty, hproperty]

theorem eq_of_planMappings {relationName : String} {columns : List String}
    (hcolumns : ∀ column ∈ columns, Schema.IsName column)
    (h : planMappings relationName columns = .error e) :
    e = ⟨"HydrationMapping", [emptyIssue "attribute"]⟩ := by
  rw [planMappings_eq_make] at h
  obtain ⟨before, m, after, hsplit, -, hm⟩ := mapM_error_iff.mp h
  have hmem : m ∈ columns.map (mappingOf relationName) := by simp [hsplit]
  obtain ⟨column, hcolumn, rfl⟩ := List.mem_map.mp hmem
  rw [← planMapping_eq_make] at hm
  exact eq_of_planMapping (hcolumns column hcolumn) hm

/-- The two names that are made from the name of a parent come out empty together. -/
theorem eq_of_nameTexts {fk : ForeignKey} (h : requireFilled record (nameTexts fk) = .error e) :
    e = ⟨record, [emptyIssue "relation_name", emptyIssue "parent_model"]⟩ := by
  have hnameless : Nameless (Naming.singular fk.parentTable) :=
    nameTexts_empty_iff.mp (requireFilled_error_iff.mp ⟨e, h⟩)
  rw [eq_of_requireFilled h]
  simp [nameTexts, Naming.relationName_isEmpty_iff.mpr hnameless,
    Naming.modelName_isEmpty_iff.mpr hnameless]

theorem mem_emptied_of_planRelation {table : String} {fk : ForeignKey} {parent : Option Table}
    (hparent : ∀ t ∈ parent, ∀ column ∈ t.columns, Schema.IsName column)
    (h : planRelation table fk parent = .error e) : e ∈ emptied := by
  cases parent with
  | none =>
    rw [planRelation_unknown] at h
    rcases bind_eq_error.mp h with h | ⟨_, _, h⟩
    · rw [eq_of_nameTexts h]
      simp [emptied]
    · cases h
  | some parent =>
    rw [planRelation_known] at h
    rcases bind_eq_error.mp h with h | ⟨_, _, h⟩
    · rw [eq_of_planMappings (hparent parent rfl) h]
      simp [emptied]
    · rcases bind_eq_error.mp h with h | ⟨_, _, h⟩
      · rw [eq_of_nameTexts h]
        simp [emptied]
      · cases h

theorem mem_emptied_of_assemble {table : Table} {relations : List Relation}
    (hname : Schema.IsName table.name) (h : assemble table relations = .error e) : e ∈ emptied := by
  have hmodel : table.modelName.isEmpty = true :=
    Naming.modelName_isEmpty_iff.mpr (assemble_error_iff.mp ⟨e, h⟩)
  rw [eq_of_checked h]
  simp [hname.isEmpty, hmodel, emptied]

end Refusals

/-! ## The exact condition -/

section Condition

variable {σ : Type} (resolve : String → Action σ (Option Table)) (inv : σ → Prop)

/-- A parent that the look-up gives under a name in every state of a kind. -/
def Gives (name : String) (parent : Table) : Prop :=
  ∀ s, inv s → ∃ s', (resolve name).run s = (.ok (some parent), s')

variable [Journaled σ] (table : Table) (s : σ)

/-- The parent of a key: the one that the look-up gave in this planning, or gives whenever it is asked. The
second is for the keys behind one that is refused, which planning does not reach. -/
def ParentOf (fk : ForeignKey) (parent : Table) : Prop :=
  (fk.parentTable, some parent) ∈ lookups table resolve s ∨ Gives resolve inv fk.parentTable parent

/-- A name of which nothing is left in a plan: of the table, of the parent of a key, or of a column of that
parent. -/
def Collapses : Prop :=
  LowLines (Naming.singular table.name) ∨ ∃ fk ∈ table.foreignKeys,
    LowLines (Naming.singular fk.parentTable) ∨
      ∃ parent, ParentOf resolve inv table s fk parent ∧ ∃ column ∈ parent.columns, LowLines column

variable {resolve inv table s}

/-- A look-up of which it is known what it answers gives just that. -/
theorem answering_gives {Answer : String → Option Table → Prop} (h : Answering resolve inv Answer) :
    Answering resolve inv fun name answer =>
      Answer name answer ∧ ∀ parent, Gives resolve inv name parent → answer = some parent := by
  refine ⟨fun {name answer s s'} hs hrun => ?_, h.record⟩
  obtain ⟨hanswer, hs'⟩ := h.answer hs hrun
  refine ⟨⟨hanswer, fun parent hgives => ?_⟩, hs'⟩
  obtain ⟨_, hgiven⟩ := hgives s hs
  rw [hrun] at hgiven
  cases hgiven
  rfl

/-- The relation of a key is refused for low lines in the name of the parent or in one of its columns. -/
theorem refused_key_iff {name : String} {fk : ForeignKey} {answer : Option Table}
    (hfk : Schema.IsName fk.parentTable) (hanswer : ∀ t ∈ answer, Schema.WasRead t) :
    (∃ e, planRelation name fk answer = .error e) ↔ LowLines (Naming.singular fk.parentTable) ∨
      ∃ parent, answer = some parent ∧ ∃ column ∈ parent.columns, LowLines column := by
  rw [planRelation_error_iff, nameless_singular_iff hfk]
  refine or_congr_right (exists_congr fun parent => and_congr_right fun hparent =>
    exists_congr fun column => and_congr_right fun hcolumn => ?_)
  exact nameless_iff_lowLines ((hanswer parent hparent).worded.columns column hcolumn).2

namespace Course

variable {asked : List (ForeignKey × Option Table)}

theorem mem_keys (h : Course table resolve s asked) {a : ForeignKey × Option Table} (ha : a ∈ asked) :
    a.1 ∈ table.foreignKeys := h.keys.subset (List.mem_map_of_mem ha)

/-- Planning is refused for one of the keys it asked or, all keys being planned, for the table. -/
theorem rejected_iff (h : Course table resolve s asked) :
    (∃ e, ((build table resolve).run s).1 = .error (.rejected e)) ↔
      (∃ a ∈ asked, ∃ e, planRelation table.name a.1 a.2 = .error e) ∨
        (∀ a ∈ asked, ∃ r, planRelation table.name a.1 a.2 = .ok r) ∧
          Nameless (Naming.singular table.name) := by
  have hrejected : (∃ e, ((build table resolve).run s).1 = .error (.rejected e)) ↔
      ∃ e, ((asked.mapM fun a => planRelation table.name a.1 a.2) >>= assemble table) = .error e := by
    simp [h.outcome, mapError_eq_error]
  rw [hrejected, bind_error_iff, exists_mapM_error_iff, ← mapM_ok_iff]
  refine or_congr_right ?_
  constructor
  · rintro ⟨relations, hrelations, he⟩
    exact ⟨⟨relations, hrelations⟩, assemble_error_iff.mp he⟩
  · rintro ⟨⟨relations, hrelations⟩, hnameless⟩
    exact ⟨relations, hrelations, assemble_error_iff.mpr hnameless⟩

theorem planned_or_rejected (h : Course table resolve s asked) :
    (∃ plan, ((build table resolve).run s).1 = .ok plan) ∨
      ∃ e, ((build table resolve).run s).1 = .error (.rejected e) := by
  rw [h.outcome]
  cases (asked.mapM fun a => planRelation table.name a.1 a.2) >>= assemble table with
  | ok plan => exact .inl ⟨plan, rfl⟩
  | error e => exact .inr ⟨e, rfl⟩

/-- What is refused is one of the records whose texts come out empty. -/
theorem mem_emptied (h : Course table resolve s asked) (htable : Schema.IsName table.name)
    (hasked : ∀ a ∈ asked, ∀ t ∈ a.2, ∀ column ∈ t.columns, Schema.IsName column) {e : Rejection}
    (he : ((build table resolve).run s).1 = .error (.rejected e)) : e ∈ emptied := by
  rw [h.outcome, mapError_eq_error] at he
  obtain ⟨e', he, heq⟩ := he
  cases heq
  rcases bind_eq_error.mp he with hkey | ⟨relations, -, hplan⟩
  · obtain ⟨before, a, after, hsplit, -, ha⟩ := mapM_error_iff.mp hkey
    have hmem : a ∈ asked := by simp [hsplit]
    exact mem_emptied_of_planRelation (hasked a hmem) ha
  · exact mem_emptied_of_assemble htable hplan

/-- The parent of a key is among the answers, once all keys are asked. -/
theorem exists_answer (h : Course table resolve s asked)
    (hgives : ∀ a ∈ asked, ∀ parent, Gives resolve inv a.1.parentTable parent → a.2 = some parent)
    (hall : asked.map (·.1) = table.foreignKeys) {fk : ForeignKey} (hfk : fk ∈ table.foreignKeys)
    {parent : Table} (hparent : ParentOf resolve inv table s fk parent) :
    ∃ a ∈ asked, a.2 = some parent := by
  rcases hparent with hlookup | hgiven
  · rw [h.log] at hlookup
    obtain ⟨a, ha, hentry⟩ := List.mem_map.mp hlookup
    exact ⟨a, ha, congrArg Prod.snd hentry⟩
  · rw [← hall] at hfk
    obtain ⟨a, ha, rfl⟩ := List.mem_map.mp hfk
    exact ⟨a, ha, hgives a ha parent hgiven⟩

/-- Planning is refused exactly if nothing is left of a name. -/
theorem rejected_iff_collapses (h : Course table resolve s asked) (htable : Schema.Worded table)
    (hread : ∀ a ∈ asked, ∀ t ∈ a.2, Schema.WasRead t)
    (hgives : ∀ a ∈ asked, ∀ parent, Gives resolve inv a.1.parentTable parent → a.2 = some parent) :
    (∃ e, ((build table resolve).run s).1 = .error (.rejected e)) ↔ Collapses resolve inv table s := by
  have hrefused : ∀ a ∈ asked, (∃ e, planRelation table.name a.1 a.2 = .error e) ↔
      LowLines (Naming.singular a.1.parentTable) ∨
        ∃ parent, a.2 = some parent ∧ ∃ column ∈ parent.columns, LowLines column := fun a ha =>
    refused_key_iff (htable.parentTables a.1 (h.mem_keys ha)) (hread a ha)
  rw [h.rejected_iff, nameless_singular_iff htable.name]
  constructor
  · rintro (⟨a, ha, he⟩ | ⟨-, hname⟩)
    · refine .inr ⟨a.1, h.mem_keys ha, ?_⟩
      rcases (hrefused a ha).mp he with hname | ⟨parent, hparent, hcolumn⟩
      · exact .inl hname
      · have hlookup : (a.1.parentTable, some parent) ∈ lookups table resolve s := by
          rw [h.log, ← hparent]
          exact List.mem_map_of_mem ha
        exact .inr ⟨parent, .inl hlookup, hcolumn⟩
    · exact .inl hname
  · intro hcollapses
    cases houtcome : asked.mapM fun a => planRelation table.name a.1 a.2 with
    | error e => exact .inl (exists_mapM_error_iff.mp ⟨e, houtcome⟩)
    | ok relations =>
      -- no key was refused, so all of them were asked
      have hplanned := mapM_ok_iff.mp ⟨relations, houtcome⟩
      have hall : asked.map (·.1) = table.foreignKeys := h.complete hplanned
      rcases hcollapses with hname | ⟨fk, hfk, hname | ⟨parent, hparent, hcolumn⟩⟩
      · exact .inr ⟨hplanned, hname⟩
      · rw [← hall] at hfk
        obtain ⟨a, ha, rfl⟩ := List.mem_map.mp hfk
        exact .inl ⟨a, ha, (hrefused a ha).mpr (.inl hname)⟩
      · obtain ⟨a, ha, hanswer⟩ := h.exists_answer hgives hall hfk hparent
        exact .inl ⟨a, ha, (hrefused a ha).mpr (.inr ⟨parent, hanswer, hcolumn⟩)⟩

end Course

/-- Planning a table that was read, with parents that were read, is refused exactly if nothing is left of a
name of the table, of a parent or of a column of a parent; otherwise it returns a plan. What is refused are
texts made from these names, and no other check of any record could refuse anything. -/
theorem build_refused_iff (htable : Schema.WasRead table)
    (hread : Answering resolve inv fun _ parent => ∀ t ∈ parent, Schema.WasRead t)
    (hall : AnswersAll resolve inv) (hs : inv s) :
    ((∃ e, ((build table resolve).run s).1 = .error (.rejected e)) ↔ Collapses resolve inv table s) ∧
    (¬Collapses resolve inv table s → ∃ plan, ((build table resolve).run s).1 = .ok plan) ∧
    (∀ e, ((build table resolve).run s).1 = .error (.rejected e) → e ∈ emptied) ∧
    (∀ fk ∈ table.foreignKeys, ∀ parent,
      planRelation table.name fk parent = makeRelation table.name fk parent) ∧
    ∀ relations, (∀ r ∈ relations, ∃ fk ∈ table.foreignKeys, ∃ parent,
      planRelation table.name fk parent = .ok r) → assemble table relations = makePlan table relations := by
  obtain ⟨text, source, hparse⟩ := htable
  have haccepted : Schema.Accepted source table := Schema.accepted_of_parse hparse
  obtain ⟨asked, hcourse, hanswers⟩ := build_course (answering_gives hread) hall table hs
  have hrefused : (∃ e, ((build table resolve).run s).1 = .error (.rejected e)) ↔
      Collapses resolve inv table s :=
    hcourse.rejected_iff_collapses haccepted.worded (fun a ha => (hanswers a ha).1)
      fun a ha => (hanswers a ha).2
  refine ⟨hrefused, fun hkept => ?_, fun e he => ?_, fun fk hfk parent => ?_, fun relations hplanned => ?_⟩
  · exact hcourse.planned_or_rejected.resolve_right fun he => hkept (hrefused.mp he)
  · exact hcourse.mem_emptied haccepted.worded.name
      (fun a ha t ht => ((hanswers a ha).1 t ht).worded.columns) he
  · exact planRelation_eq_make table.name parent (haccepted.keys fk hfk)
  · refine assemble_eq_make haccepted.columns fun r hr => ?_
    obtain ⟨fk, hfk, parent, hr⟩ := hplanned r hr
    exact check_of_planRelation (haccepted.keys fk hfk) hr

end Condition

/-- The schema of visits, each by one guest. -/
def visitsSchema : String :=
  "CREATE TABLE visits (\n  id INT,\n  guest_id INT,\n  FOREIGN KEY (guest_id) REFERENCES guests (id)\n);"

/-- The visits. -/
def visits : Table where
  name := "visits"
  columns := ["id", "guest_id"]
  foreignKeys := [⟨"guest_id", "guests", "id"⟩]

/-- The schema of guests, with a column of low lines. -/
def guestsSchema : String := "CREATE TABLE guests (\n  id INT,\n  __ INT\n);"

/-- The guests. -/
def guests : Table where
  name := "guests"
  columns := ["id", "__"]

/-- A look-up that knows the guests and nothing else. -/
def findGuests : String → Action Workspace (Option Table) := fun name =>
  pure (if name = "guests" then some guests else none)

/-- The visits are refused for the column of their guests. -/
theorem visits_refused : Schema.WasRead visits ∧ Schema.WasRead guests ∧
    Collapses findGuests (fun _ => True) visits {} ∧
    ∃ e ∈ emptied, ((build visits findGuests).run {}).1 = .error (.rejected e) := by
  have hvisits : Schema.WasRead visits :=
    ⟨visitsSchema, none, Schema.parse_of_letters rfl (by decide +kernel)⟩
  have hguests : Schema.WasRead guests :=
    ⟨guestsSchema, none, Schema.parse_of_letters rfl (by decide +kernel)⟩
  have hread : Answering findGuests (fun _ => True) fun _ parent => ∀ t ∈ parent, Schema.WasRead t := by
    refine ⟨fun _ hrun => ⟨fun t ht => ?_, trivial⟩, fun _ _ _ => trivial⟩
    cases hrun
    split at ht
    · cases ht
      exact hguests
    · cases ht
  have hall : AnswersAll findGuests fun _ => True := fun name w _ => ⟨_, w, rfl⟩
  obtain ⟨hrefused, -, hemptied, -⟩ := build_refused_iff (s := {}) hvisits hread hall trivial
  have hcollapses : Collapses findGuests (fun _ => True) visits {} :=
    .inr ⟨⟨"guest_id", "guests", "id"⟩, List.mem_singleton_self _,
      .inr ⟨guests, .inr fun w _ => ⟨w, rfl⟩, "__", by decide, by decide⟩⟩
  obtain ⟨e, he⟩ := hrefused.mpr hcollapses
  exact ⟨hvisits, hguests, hcollapses, e, hemptied e he, he⟩

end Scaffold.Plan
