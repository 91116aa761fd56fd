import Scaffold.Proofs.Artifact.Filled
import Scaffold.Proofs.Artifact.Methods

/-!
# What generated classes offer and call

The entry point calls the actions of the controller, and the controller calls the methods of the
repository. Which methods a class offers and which it calls is the same for every plan but for one thing:
whether rows can be restored.

* `methods_repository`, `methods_controller`: the methods that the classes define.
* `called_router`, `called_controller`: the methods that are called on their objects.
-/
namespace Scaffold.Render

open Php (Quiet Sketch Sketched Spelt called methods quiet_of_not_mem survey)
open Plan (Spelled)
open Stub (Filling Name Template)
open Text (Over)

/-! ## Code that defines no method -/

/-- How a method begins that others may call. -/
def methodLead : List Char := "public function ".toList

/-- How a call of the controller begins. -/
def controllerLead : String := "$controller->"

/-- How a call of a repository begins, but for the start of the variable that holds it. -/
def repositoryLead : List Char := "epository->".toList

theorem ne_parenthesis_of_isValueChar : ∀ c, Php.isValueChar c = true → c ≠ '(' := by
  rintro c hc rfl
  exact absurd hc (by decide)

theorem quiet_of_over {lead : List Char} {s : String} (h : Over (· ≠ '(') s) : Quiet lead s :=
  quiet_of_not_mem (h.not_mem (by simp))

theorem quiet_of_spelt {lead : List Char} {s : String} (h : Spelt s) : Quiet lead s :=
  quiet_of_over (over_of_spelt ne_parenthesis_of_isValueChar h)

theorem quiet_of_queryText {lead : List Char} {s : String} (h : Php.QueryText s) : Quiet lead s :=
  quiet_of_over (over_of_queryText ne_parenthesis_of_isValueChar h)

theorem quiet_rule {rule : Hydration.Rule} (h : ∀ name ∈ rule.names, Spelt name) :
    Quiet methodLead rule.text := by
  have hmodel : Spelt rule.parentModel := h _ (by simp [Hydration.Rule.names])
  refine Php.quiet_join (Hydration.forall_line (fun t ht => ?_) fun m hm t ht => ?_)
  · have hlines : ∀ t ∈ Hydration.plainLines,
        survey methodLead [("model", .part)] [] t.pieces = some [] := by decide +kernel
    have hsketched : Sketched methodLead [("model", .part)] (Hydration.plainFilling rule) := by
      refine ⟨?_, fun entry hentry _ => quiet_of_spelt (Php.spelt_plainFilling h entry hentry)⟩
      simpa [Hydration.plainFilling] using hmodel
    exact Php.quiet_fill (fills_plainLine h ht).holes hsketched (hlines t ht)
  · have hlines : ∀ t ∈ Hydration.mappingLines, survey methodLead [] [] t.pieces = some [] := by
      decide +kernel
    have hsketched : Sketched methodLead [] (Hydration.mappingFilling rule m) :=
      ⟨by simp, fun entry hentry _ => quiet_of_spelt (Php.spelt_mappingFilling h hm entry hentry)⟩
    exact Php.quiet_fill (fills_mappingLine h hm ht).holes hsketched (hlines t ht)

theorem quiet_hydration {plan : Plan} (h : Spelled plan) :
    Quiet methodLead (String.join (plan.hydrationRules.map Hydration.Rule.text)) :=
  Php.quiet_concat (List.forall_mem_map.mpr fun _ hrule => quiet_rule (h.ofRule hrule))

theorem quiet_deleteStatement {table : String} (h : Spelt table) (soft : Bool) :
    Quiet methodLead (Sql.deleteStatement table soft) := by
  have hlive : Quiet methodLead (" = NOW() WHERE " ++ Sql.byKey) := fun before =>
    Php.surveyText_sound (Php.fits_nil before) (by decide +kernel)
  have htable : Quiet methodLead (Naming.quoteIdentifier table) :=
    quiet_of_queryText (Sql.queryText_quoteIdentifier h)
  unfold Sql.deleteStatement
  split
  · rw [String.append_assoc]
    refine Quiet.append ?_ hlive
    exact (((quiet_of_not_mem (by decide)).append htable).append (quiet_of_not_mem (by decide))).append
      (quiet_of_not_mem (by decide))
  · exact (((quiet_of_not_mem (by decide)).append htable).append (quiet_of_not_mem (by decide))).append
      (quiet_of_not_mem (by decide))

/-! ## Classes -/

/-- What is read off a packaged stub is read off the text that it is filled to. -/
theorem calledFrom_render {name : Name} {f : Filling} {lead : List Char}
    {sketches : List (String × Sketch)} {names : List String} (hfills : Fills name.template f)
    (hf : Sketched lead sketches f) (h : survey lead sketches [] name.letters.1 = some names)
    (before : List Char) :
    Php.calledFrom lead before (Stub.render name.packaged f).toList = names := by
  rw [hfills.render]
  refine Php.survey_sound hfills.holes hf (Php.fits_nil before) ?_
  rw [name.letters.2]
  exact h

/-- What is read off the packaged stubs by their letters. The restore method is a stub of its own, which
the stub of a class may take in. -/
structure Surveyed : Prop where
  repositoryRestore : survey methodLead [] [] Name.repositoryRestore.letters.1 = some ["restore"]
  controllerRestore : survey methodLead [] [] Name.controllerRestore.letters.1 = some ["restore"]
  repository (restores : Bool) :
    survey methodLead [("modelName", .part),
        ("restoreMethod", .text (if restores then ["restore"] else []) [])] []
      Name.repository.letters.1 =
        some (["__construct", "findAll", "findById", "create", "update", "delete"] ++
          if restores then ["restore"] else [])
  controller (restores : Bool) :
    survey methodLead [("modelName", .part),
        ("restoreMethod", .text (if restores then ["restore"] else []) [])] []
      Name.controller.letters.1 =
        some (["__construct", "index", "show", "store", "update", "destroy"] ++
          if restores then ["restore"] else [])
  restoreCalls : survey repositoryLead [("repositoryVariable", .text [] "epository".toList)] []
    Name.controllerRestore.letters.1 = some ["restore", "findById"]
  calls (restores : Bool) :
    survey repositoryLead [("modelName", .part), ("repositoryVariable", .text [] "epository".toList),
        ("restoreMethod", .text (if restores then ["restore", "findById"] else []) [])] []
      Name.controller.letters.1 =
        some (["findAll", "findById", "create", "findById", "findById", "update", "findById", "delete"] ++
          if restores then ["restore", "findById"] else [])

theorem surveyed : Surveyed where
  repositoryRestore := by decide +kernel
  controllerRestore := by decide +kernel
  repository restores := by cases restores <;> decide +kernel
  controller restores := by cases restores <;> decide +kernel
  restoreCalls := by decide +kernel
  calls restores := by cases restores <;> decide +kernel

/-- A variable that holds a repository ends like the class, but for its first letter. -/
theorem repositoryVariable_ending (plan : Plan) :
    "epository".toList <:+ (repositoryVariable plan).toList := by
  have hchars : (repositoryVariable plan).toList =
      Naming.uncapitaliseChars (plan.modelName.toList ++ "Repository".toList) := by
    unfold repositoryVariable repositoryName Naming.uncapitalise
    rw [String.toList_append]
    exact String.toList_ofList
  rw [hchars]
  cases plan.modelName.toList with
  | nil => exact List.suffix_append (Text.lowerChar 'R') "epository".toList
  | cons c cs =>
    have hname : "epository".toList <:+ "Repository".toList := ⟨['R'], by decide⟩
    exact hname.trans ((List.suffix_append cs _).trans (List.suffix_append (Text.lowerChar c) _))

section Classes

variable {settings : Settings} {plan : Plan} (h : Spelled plan)
include h

/-- The method that a repository has if rows can be restored. -/
theorem methods_repositoryRestore (before : List Char) :
    Php.calledFrom methodLead before (repositoryRestore Name.packaged plan).toList =
      if (restoring? plan).isSome then ["restore"] else [] := by
  unfold repositoryRestore
  cases hstatement : restoring? plan with
  | none => rfl
  | some statement =>
    have hsketched : Sketched methodLead []
        [("restoreStatement", statement), ("tableName", plan.tableName)] := by
      refine ⟨by simp, fun entry hentry _ => ?_⟩
      simp only [List.mem_cons, List.not_mem_nil, or_false] at hentry
      rcases hentry with rfl | rfl
      · exact quiet_of_queryText (queryText_restoring h hstatement)
      · exact quiet_of_spelt h.tableName
    exact calledFrom_render (fills_repositoryRestore h hstatement) hsketched
      surveyed.repositoryRestore before

theorem sketched_controllerRestore (lead : List Char) (sketches : List (String × Sketch))
    (htold : ∀ sketch ∈ sketches, ∀ value,
      (sketch.1, value) ∈ [("repositoryVariable", repositoryVariable plan)] →
        sketch.2.Suits lead value) :
    Sketched lead sketches [("repositoryVariable", repositoryVariable plan)] := by
  refine ⟨htold, fun entry hentry _ => ?_⟩
  rw [List.mem_singleton.mp hentry]
  exact quiet_of_spelt (spelt_repositoryVariable h)

/-- The action that a controller has if rows can be restored. -/
theorem methods_controllerRestore (before : List Char) :
    Php.calledFrom methodLead before (controllerRestore Name.packaged plan).toList =
      if plan.hasSoftDelete then ["restore"] else [] := by
  unfold controllerRestore
  cases plan.hasSoftDelete with
  | false => rfl
  | true =>
    exact calledFrom_render (fills_controllerRestore h) (sketched_controllerRestore h _ [] (by simp))
      surveyed.controllerRestore before

theorem suits_repositoryVariable : (Sketch.text [] "epository".toList).Suits repositoryLead
    (repositoryVariable plan) :=
  ⟨quiet_of_spelt (spelt_repositoryVariable h), repositoryVariable_ending plan⟩

/-- The calls that a controller makes if rows can be restored. -/
theorem called_controllerRestore (before : List Char) :
    Php.calledFrom repositoryLead before (controllerRestore Name.packaged plan).toList =
      if plan.hasSoftDelete then ["restore", "findById"] else [] := by
  unfold controllerRestore
  cases plan.hasSoftDelete with
  | false => rfl
  | true =>
    refine calledFrom_render (fills_controllerRestore h) (sketched_controllerRestore h _ _ ?_)
      surveyed.restoreCalls before
    simpa using suits_repositoryVariable h

variable (hnamespace : Over (fun c => Php.isValueChar c = true) settings.rootNamespace)
include hnamespace

/-- The methods of a repository. -/
theorem methods_repository (hdeletion : Quiet methodLead plan.deleteStatement) :
    methods (repository Name.packaged settings plan).content =
      ["__construct", "findAll", "findById", "create", "update", "delete"] ++
        if (restoring? plan).isSome then ["restore"] else [] := by
  have hsketched : Sketched methodLead [("modelName", .part),
      ("restoreMethod", .text (if (restoring? plan).isSome then ["restore"] else []) [])]
      (repositoryFilling Name.packaged settings plan) := by
    refine ⟨?_, fun entry hentry hname => ?_⟩
    · simp [repositoryFilling, h.modelName, methods_repositoryRestore h]
    · rcases over_repositoryFilling ne_parenthesis_of_isValueChar h
        (hnamespace.mono ne_parenthesis_of_isValueChar) _ entry hentry with hcode | hplain
      · simp only [codeValues, List.mem_cons, List.not_mem_nil, or_false] at hcode
        rcases hcode with rfl | rfl | rfl
        · exact quiet_hydration h
        · exact hdeletion
        · simp at hname
      · exact quiet_of_over hplain
  exact calledFrom_render (fills_repository h (hnamespace.mono ne_brace_of_isValueChar)) hsketched
    (surveyed.repository _) []

/-- What is known of the values of a controller, if it is known of its parts. -/
theorem sketched_controller {lead : List Char} {sketches : List (String × Sketch)}
    (hcode : "restoreMethod" ∈ sketches.map (·.1))
    (htold : ∀ sketch ∈ sketches, ∀ value,
      (sketch.1, value) ∈ controllerFilling Name.packaged settings plan → sketch.2.Suits lead value) :
    Sketched lead sketches (controllerFilling Name.packaged settings plan) := by
  refine ⟨htold, fun entry hentry hname => ?_⟩
  rcases over_controllerFilling ne_parenthesis_of_isValueChar h
    (hnamespace.mono ne_parenthesis_of_isValueChar) _ entry hentry with rfl | hplain
  · exact absurd hcode hname
  · exact quiet_of_over hplain

/-- The actions of a controller. -/
theorem methods_controller : methods (controller Name.packaged settings plan).content =
    ["__construct", "index", "show", "store", "update", "destroy"] ++
      if plan.hasSoftDelete then ["restore"] else [] := by
  have hsketched : Sketched methodLead [("modelName", .part),
      ("restoreMethod", .text (if plan.hasSoftDelete then ["restore"] else []) [])]
      (controllerFilling Name.packaged settings plan) := by
    refine sketched_controller h hnamespace (by simp) ?_
    simp [controllerFilling, h.modelName, methods_controllerRestore h]
  exact calledFrom_render (fills_controller h (hnamespace.mono ne_brace_of_isValueChar)) hsketched
    (surveyed.controller _) []

/-- What a controller calls on its repository. -/
theorem called_controller (before : List Char) :
    Php.calledFrom repositoryLead before (controller Name.packaged settings plan).content.toList =
    ["findAll", "findById", "create", "findById", "findById", "update", "findById", "delete"] ++
      if plan.hasSoftDelete then ["restore", "findById"] else [] := by
  have hsketched : Sketched repositoryLead [("modelName", .part),
      ("repositoryVariable", .text [] "epository".toList),
      ("restoreMethod", .text (if plan.hasSoftDelete then ["restore", "findById"] else []) [])]
      (controllerFilling Name.packaged settings plan) := by
    refine sketched_controller h hnamespace (by simp) ?_
    simpa [controllerFilling, h.modelName, called_controllerRestore h] using suits_repositoryVariable h
  exact calledFrom_render (fills_controller h (hnamespace.mono ne_brace_of_isValueChar)) hsketched
    (surveyed.calls _) before

/-- What the entry point calls on the controller. -/
theorem called_router : called controllerLead (router Name.packaged settings plan).content =
    ["index", "show", "store"] ++ (if plan.hasSoftDelete then ["restore"] else []) ++
      ["update", "destroy"] := by
  have hroute : ∀ before, Php.calledFrom controllerLead.toList before (restoreRoute plan).toList =
      if plan.hasSoftDelete then ["restore"] else [] := by
    intro before
    unfold restoreRoute
    cases plan.hasSoftDelete with
    | false => rfl
    | true => exact Php.surveyText_sound (Php.fits_nil before) (by decide +kernel)
  have hsketched : Sketched controllerLead.toList [("controllerName", .part), ("repositoryName", .part),
      ("restoreRoute", .text (if plan.hasSoftDelete then ["restore"] else []) [])]
      (routerFilling settings plan) := by
    refine ⟨?_, fun entry hentry hname => ?_⟩
    · simp [routerFilling, spelt_controllerName h, spelt_repositoryName h, hroute]
    · rcases over_routerFilling ne_parenthesis_of_isValueChar h
        (hnamespace.mono ne_parenthesis_of_isValueChar) entry hentry with rfl | hplain
      · simp at hname
      · exact quiet_of_over hplain
  refine calledFrom_render (fills_router h (hnamespace.mono ne_brace_of_isValueChar)) hsketched ?_ []
  cases plan.hasSoftDelete <;> decide +kernel

end Classes

end Scaffold.Render
