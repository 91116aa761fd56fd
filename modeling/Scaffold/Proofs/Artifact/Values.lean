import Scaffold.Artifact.Render
import Scaffold.Proofs.Artifact.Spelling

/-!
# What the stubs are filled with

Most holes of a stub are filled with names, queries and lists of both, so with few kinds of characters. The
others are filled with code: the code that folds a row, the statement that deletes one, and what is only
there for rows that are marked when they are deleted.

* `isValueChar`: the characters of names, queries and lists of them.
* `over_modelFilling`, `over_repositoryFilling`, `over_controllerFilling`, `over_routerFilling`: the values
  of each filling that are no code.
-/
namespace Scaffold

/-- The characters of names, of queries and of lists of them. -/
def Php.isValueChar (c : Char) : Bool := isFragmentChar c || isQueryChar c

namespace Render

open Php (Spelt QueryText isValueChar)
open Plan (Spelled)
open Text (Over)

/-! ## Names -/

section Names

variable {plan : Plan} (h : Spelled plan)
include h

theorem spelt_repositoryName : Spelt (repositoryName plan) :=
  h.modelName.append (Text.forall_mem_of_all (by decide))

theorem spelt_controllerName : Spelt (controllerName plan) :=
  h.modelName.append (Text.forall_mem_of_all (by decide))

theorem spelt_repositoryVariable : Spelt (repositoryVariable plan) := by
  intro c hc
  unfold repositoryVariable Naming.uncapitalise at hc
  rw [String.toList_ofList] at hc
  rcases Naming.mem_uncapitaliseChars hc with hc | hletter
  · exact spelt_repositoryName h c hc
  · exact Php.isNameChar_of_isLetter hletter

theorem spelt_parentModels : ∀ name ∈ plan.relations.map (·.parentModel), Spelt name :=
  List.forall_mem_map.mpr fun r hr => h.relation hr (by simp [Relation.names])

end Names

/-! ## Values -/

/-- A word and the separator of namespaces are characters of values. -/
theorem over_rootNamespace {root : String} (h : ∀ c ∈ root.toList, Text.isWord c = true ∨ c = '\\') :
    Over (fun c => Php.isValueChar c = true) root := by
  intro c hc
  rcases h c hc with hword | rfl
  · rw [Php.isValueChar, Php.isFragmentChar, Php.isNameChar_of_isWord hword, Bool.true_or, Bool.true_or]
  · decide

section Values

variable {ok : Char → Prop} (hok : ∀ c, isValueChar c = true → ok c)
include hok

theorem ok_of_isFragmentChar : ∀ c, Php.isFragmentChar c = true → ok c := fun c hc =>
  hok c (by rw [isValueChar, hc, Bool.true_or])

theorem over_of_queryText {s : String} (h : QueryText s) : Over ok s :=
  Over.mono h fun c hc => hok c (by rw [isValueChar, hc, Bool.or_true])

theorem over_of_spelt {s : String} (h : Spelt s) : Over ok s := h.over (ok_of_isFragmentChar hok)

theorem over_of_isValueText {s : String} (h : Over (fun c => isValueChar c = true) s) : Over ok s :=
  h.mono hok

variable {settings : Settings}

theorem over_namespaces (hnamespace : Over ok settings.rootNamespace) :
    Over ok settings.modelsNamespace ∧ Over ok settings.repositoriesNamespace ∧
      Over ok settings.controllersNamespace :=
  ⟨hnamespace.append (over_of_isValueText hok (by decide)),
    hnamespace.append (over_of_isValueText hok (by decide)),
    hnamespace.append (over_of_isValueText hok (by decide))⟩

/-- A class in a namespace. -/
theorem over_path {parent name : String} (hparent : Over ok parent) (hname : Spelt name) :
    Over ok (parent ++ "\\" ++ name) :=
  (hparent.append (over_of_isValueText hok (by decide))).append (over_of_spelt hok hname)

theorem over_uses (hnamespace : Over ok settings.rootNamespace) {classes : List String}
    (hclasses : ∀ name ∈ classes, Spelt name) (excluded : List String) :
    Over ok (Text.join "\n" (Php.useLines settings.modelsNamespace classes excluded)) :=
  Text.over_join (over_of_isValueText hok (by decide)) (Php.over_useLines (ok_of_isFragmentChar hok)
    (over_namespaces hok hnamespace).1 hclasses excluded)

variable {plan : Plan} (h : Spelled plan) (hnamespace : Over ok settings.rootNamespace)
include h hnamespace

theorem over_modelFilling : ∀ entry ∈ modelFilling settings plan, Over ok entry.2 := by
  obtain ⟨hmodels, -, -⟩ := over_namespaces hok hnamespace
  have hbreak : Over ok "\n\n" := over_of_isValueText hok (by decide)
  simp only [modelFilling, List.forall_mem_cons]
  refine ⟨hmodels, ?_, over_of_spelt hok h.modelName, ?_, by simp⟩
  · split
    · exact Text.over_empty
    · exact (over_uses hok hnamespace (spelt_parentModels h) [plan.modelName]).append hbreak
  · exact Php.over_modelProperties (ok_of_isFragmentChar hok) hmodels (fun _ => h.column)
      fun _ hr _ => h.relation hr

/-- The values of a repository that are code. -/
def codeValues (stubs : Stubs) (plan : Plan) : Stub.Filling :=
  [("hydrationLogic", String.join (plan.hydrationRules.map Hydration.Rule.text)),
    ("deleteStatement", plan.deleteStatement), ("restoreMethod", repositoryRestore stubs plan)]

theorem over_repositoryFilling (stubs : Stubs) : ∀ entry ∈ repositoryFilling stubs settings plan,
    entry ∈ codeValues stubs plan ∨ Over ok entry.2 := by
  have hjoin : ∀ {separator : String} {pieces : List String}, QueryText separator →
      (∀ piece ∈ pieces, QueryText piece) → Over ok (Text.join separator pieces) :=
    fun hseparator hpieces => over_of_queryText hok (Text.over_join hseparator hpieces)
  obtain ⟨-, hrepositories, -⟩ := over_namespaces hok hnamespace
  have hclasses : ∀ name ∈ plan.modelName :: plan.relations.map (·.parentModel), Spelt name :=
    List.forall_mem_cons.mpr ⟨h.modelName, spelt_parentModels h⟩
  have hjoins : QueryText (Php.joinLines plan.joinClauses) := by
    refine Text.over_concat (List.forall_mem_map.mpr fun clause hclause => ?_)
    exact Php.queryText_append.mpr ⟨by decide, h.joins clause hclause⟩
  have hparams : Over ok (Php.executeParams plan.fillableColumns) :=
    Php.over_executeParams (ok_of_isFragmentChar hok) fun _ => h.fillable
  simp only [repositoryFilling, List.forall_mem_cons]
  exact ⟨.inr hrepositories, .inr (over_of_spelt hok (spelt_repositoryName h)),
    .inr (over_uses hok hnamespace hclasses []), .inr (over_of_spelt hok h.modelName),
    .inr (over_of_spelt hok h.tableName), .inr (hjoin (by decide) h.selects),
    .inr (over_of_queryText hok hjoins), .inl (by simp [codeValues]),
    .inr (over_of_queryText hok h.whereLive), .inr (over_of_queryText hok h.andLive),
    .inr (hjoin (by decide) h.insertion), .inr (hjoin (by decide) h.values), .inr hparams,
    .inr (hjoin (by decide) h.assignments), .inr hparams, .inl (by simp [codeValues]),
    .inl (by simp [codeValues]), by simp⟩

theorem over_controllerFilling (stubs : Stubs) : ∀ entry ∈ controllerFilling stubs settings plan,
    entry = ("restoreMethod", controllerRestore stubs plan) ∨ Over ok entry.2 := by
  obtain ⟨hmodels, hrepositories, hcontrollers⟩ := over_namespaces hok hnamespace
  simp only [controllerFilling, List.forall_mem_cons]
  exact ⟨.inr hcontrollers, .inr (over_of_spelt hok (spelt_controllerName h)),
    .inr (over_of_spelt hok h.modelName), .inr (over_path hok hmodels h.modelName),
    .inr (over_of_spelt hok (spelt_repositoryName h)),
    .inr (over_path hok hrepositories (spelt_repositoryName h)),
    .inr (over_of_spelt hok (spelt_repositoryVariable h)), .inl trivial, by simp⟩

theorem over_routerFilling : ∀ entry ∈ routerFilling settings plan,
    entry = ("restoreRoute", restoreRoute plan) ∨ Over ok entry.2 := by
  obtain ⟨-, hrepositories, hcontrollers⟩ := over_namespaces hok hnamespace
  simp only [routerFilling, List.forall_mem_cons]
  exact ⟨.inr (over_of_spelt hok h.modelName), .inr (over_of_spelt hok (spelt_controllerName h)),
    .inr (over_path hok hcontrollers (spelt_controllerName h)),
    .inr (over_of_spelt hok (spelt_repositoryName h)),
    .inr (over_path hok hrepositories (spelt_repositoryName h)),
    .inr (over_of_spelt hok h.tableName), .inl trivial, by simp⟩

end Values

end Render

end Scaffold
