import Mathlib.Data.List.Nodup
import Scaffold.Proofs.Artifact.Declared
import Scaffold.Proofs.Artifact.Filled

/-!
# What a repository imports

A class is imported by a line above the body of the class that uses it, and code calls it by the last part of
its path. The lines of a repository import the class of its own rows and the classes of its relations, each
once, and the template imports the database connection.

* `imports`: the classes that a text imports.
* `importsOf`: those that go by a given name.
* `head_repository`: a repository down to the body of its class, line by line.
* `imports_repository`, `importsOf_repository`: the imports of a repository.
-/
namespace Scaffold

namespace Text

/-- Lines without line feeds, each ended by one, are split back into the same lines. -/
theorem splitOn_lines {lines : List String} (h : ∀ line ∈ lines, '\n' ∉ line.toList) (rest : List Char) :
    (lines.flatMap (fun line => line.toList ++ ['\n']) ++ rest).splitOn '\n' =
      lines.map String.toList ++ rest.splitOn '\n' := by
  induction lines with
  | nil => rfl
  | cons line lines ih =>
    obtain ⟨hline, hlines⟩ := List.forall_mem_cons.mp h
    rw [List.flatMap_cons, List.append_assoc, List.append_assoc, List.singleton_append,
      List.splitOn_append_cons_self_of_not_mem hline, List.map_cons, List.cons_append]
    exact congrArg _ (ih hlines)

/-- Joined lines and one more line feed are the lines, each ended by a line feed. -/
theorem toList_join_lines {lines : List String} (h : lines ≠ []) (rest : List Char) :
    (join "\n" lines).toList ++ '\n' :: rest =
      lines.flatMap (fun line => line.toList ++ ['\n']) ++ rest := by
  induction lines with
  | nil => exact absurd rfl h
  | cons line lines ih =>
    cases lines with
    | nil => simp
    | cons next lines =>
      have hlater := ih (List.cons_ne_nil next lines)
      rw [List.flatMap_cons, List.append_assoc, ← hlater]
      simp [join, String.toList_append]

end Text

namespace Php

/-! ## Reading imports -/

/-- The class that a line imports. -/
def used? (line : List Char) : Option String :=
  (Text.dropStart? "use ".toList line).bind fun path =>
    if path.getLast? = some ';' then some (.ofList path.dropLast) else none

/-- The classes that a text imports, above the brace that begins the body of its class. -/
def imports (text : String) : List String :=
  ((text.toList.splitOn '\n').takeWhile fun line => line != ['\x7b']).filterMap used?

/-- The name by which code calls a class: the last part of its path. -/
def shortName (path : String) : String :=
  .ofList (path.toList.reverse.takeWhile (· != '\\')).reverse

/-- The imports of a text that go by a name. -/
def importsOf (name text : String) : List String := (imports text).filter fun path => shortName path == name

example : imports "use A\\B;\nuse PDO;\nclass C\n\x7b\nuse D;\n\x7d" = ["A\\B", "PDO"] := by decide +kernel

variable {namespaceName name : String}

theorem used?_useLine (namespaceName name : String) :
    used? (useLine namespaceName name).toList = some (namespaceName ++ "\\" ++ name) := by
  have hline : (useLine namespaceName name).toList =
      "use ".toList ++ ((namespaceName ++ "\\" ++ name).toList ++ [';']) := by
    simp only [useLine, String.toList_append, List.append_assoc]
    rfl
  unfold used?
  rw [hline, Text.dropStart?_append, Option.bind_some, if_pos List.getLast?_concat,
    List.dropLast_concat, String.ofList_toList]

/-- A line that begins with another letter imports nothing. -/
theorem used?_of_head {line : List Char} (h : line.head? ≠ some 'u') : used? line = none := by
  unfold used? Text.dropStart?
  rw [if_neg]
  · rfl
  · intro hstarts
    obtain ⟨rest, rfl⟩ := Text.startsWith_iff.mp hstarts
    exact h rfl

theorem shortName_path (h : '\\' ∉ name.toList) : shortName (namespaceName ++ "\\" ++ name) = name := by
  have hpath : (namespaceName ++ "\\" ++ name).toList.reverse =
      name.toList.reverse ++ '\\' :: namespaceName.toList.reverse := by
    simp [String.toList_append]
  have hname : ∀ c ∈ name.toList.reverse, (c != '\\') = true := fun c hc =>
    bne_iff_ne.mpr fun heq => h (heq ▸ List.mem_reverse.mp hc)
  unfold shortName
  rw [hpath, List.takeWhile_append_of_pos hname, List.takeWhile_cons_of_neg (by decide),
    List.append_nil, List.reverse_reverse, String.ofList_toList]

/-- Of classes of one namespace the one that goes by a name is imported once. -/
theorem filter_shortName {classes : List String} (hclasses : ∀ other ∈ classes, Spelt other)
    (hname : name ∈ classes) :
    (((firstSeen [] classes).map (namespaceName ++ "\\" ++ ·)).filter fun path => shortName path == name) =
      [namespaceName ++ "\\" ++ name] := by
  have hkept : name ∈ firstSeen [] classes := mem_firstSeen_iff.mpr ⟨hname, by simp⟩
  have hshort : ∀ other ∈ firstSeen [] classes,
      (shortName (namespaceName ++ "\\" ++ other) == name) = (other == name) := by
    intro other hother
    rw [shortName_path ((hclasses other (mem_firstSeen hother)).not_mem (by decide))]
  have hone : (firstSeen [] classes).filter (· == name) = [name] := by
    rw [List.filter_beq, List.count_eq_one_of_mem (nodup_firstSeen [] classes) hkept]
    rfl
  rw [List.filter_map, Function.comp_def, List.filter_congr hshort, hone, List.map_singleton]

end Php

namespace Render

open Php (Spelt imports importsOf used? firstSeen useLine)
open Plan (Built)
open Stub (Filling Name Template)
open Text (Over)

/-! ## The head of a repository -/

/-- The template of a repository down to the body of its class. -/
def repositoryHead : Template := Stub.repositoryTemplate.take 6

/-- What fills the head of a repository. -/
def headFilling (settings : Settings) (plan : Plan) : Filling :=
  [("namespace", settings.repositoriesNamespace), ("repositoryName", repositoryName plan),
    ("useStatements", Text.join "\n" (Php.useLines settings.modelsNamespace
      (plan.modelName :: plan.relations.map (·.parentModel)) []))]

/-- The lines of a repository down to the body of its class. -/
def headLines (settings : Settings) (plan : Plan) : List String :=
  ["<?php", "", "namespace " ++ settings.repositoriesNamespace ++ ";", ""] ++
    (Php.useLines settings.modelsNamespace (plan.modelName :: plan.relations.map (·.parentModel)) [] ++
      ["use PDO;", "", "class " ++ repositoryName plan])

theorem fill_repositoryHead (settings : Settings) (plan : Plan) :
    repositoryHead.fill (headFilling settings plan) = Text.join "\n" (headLines settings plan) := by
  have huses : Php.useLines settings.modelsNamespace
      (plan.modelName :: plan.relations.map (·.parentModel)) [] ≠ [] := List.cons_ne_nil _ _
  have hhead : repositoryHead = [.lines ["<?php", "", "namespace "], .blank "namespace",
      .lines [";", "", ""], .blank "useStatements", .lines ["", "use PDO;", "", "class "],
      .blank "repositoryName"] := rfl
  have hnamespace : List.lookup "namespace" (headFilling settings plan) =
      some settings.repositoriesNamespace := rfl
  have hname : List.lookup "repositoryName" (headFilling settings plan) =
      some (repositoryName plan) := rfl
  have hlist : List.lookup "useStatements" (headFilling settings plan) =
      some (Text.join "\n" (Php.useLines settings.modelsNamespace
        (plan.modelName :: plan.relations.map (·.parentModel)) [])) := rfl
  unfold headLines
  rw [Text.join_append _ (by simp) (by simp), Text.join_append _ huses (by simp), hhead]
  simp only [Stub.fill_cons, Stub.fill_nil, Stub.text_fill_lines, Stub.text_fill_blank hnamespace,
    Stub.text_fill_blank hname, Stub.text_fill_blank hlist]
  simp only [Text.join, String.append_assoc, String.empty_append, String.append_empty]

section Head

variable {settings : Settings} {plan : Plan}
  (hclasses : ∀ name ∈ plan.modelName :: plan.relations.map (·.parentModel), Spelt name)
  (hnamespace : ∀ c ∈ settings.rootNamespace.toList, Text.isWord c = true ∨ c = '\\')
include hclasses hnamespace

theorem fills_repositoryHead : Fills repositoryHead (headFilling settings plan) := by
  have hroot := Over.mono (over_rootNamespace hnamespace) ne_brace_of_isValueChar
  have hname : Spelt (repositoryName plan) :=
    (hclasses _ List.mem_cons_self).append (Text.forall_mem_of_all (by decide))
  refine fills_of_names ["namespace", "repositoryName", "useStatements"] rfl
    (Text.forall_mem_of_all (by decide)) (by decide +kernel) ?_
  simp only [headFilling, List.forall_mem_cons]
  exact ⟨Unopened.bare (over_namespaces ne_brace_of_isValueChar hroot).2.1, bare_of_spelt hname,
    Unopened.bare (over_uses ne_brace_of_isValueChar hroot hclasses []), by simp⟩

/-- A repository begins with the lines of its head and the brace that begins the body of its class,
whatever is filled in after that. -/
theorem exists_toList_repository : ∃ rest, (repository Name.packaged settings plan).content.toList =
    (Text.join "\n" (headLines settings plan)).toList ++ '\n' :: '\x7b' :: '\n' :: rest := by
  have hlettered := lettered_repositoryFilling Name.packaged settings plan
  have hsound : repositoryHead.Sound := fun s hs =>
    Stub.sound_packaged .repository s (List.mem_of_mem_take hs)
  obtain ⟨next, more, t, htemplate⟩ : ∃ next more t, Stub.repositoryTemplate =
      repositoryHead ++ .lines ("" :: "\x7b" :: next :: more) :: t := ⟨_, _, _, rfl⟩
  have hbody : (Template.text (.lines ("" :: "\x7b" :: next :: more) :: t)).toList =
      '\n' :: (['\x7b'] ++ '\n' :: ((Text.join "\n" (next :: more)).toList ++ (Template.text t).toList)) := by
    simp [Stub.Segment.text, Text.join, String.toList_append]
  have htext : (Name.packaged .repository).toList = repositoryHead.text.toList ++
      '\n' :: (['\x7b'] ++ '\n' :: ((Text.join "\n" (next :: more)).toList ++ (Template.text t).toList)) := by
    rw [← hbody, ← Stub.toList_text_append, ← htemplate]
    rfl
  have hfilling : repositoryFilling Name.packaged settings plan =
      headFilling settings plan ++ (repositoryFilling Name.packaged settings plan).drop 3 := rfl
  have hhead : Stub.renderChars repositoryHead.text.toList (repositoryFilling Name.packaged settings plan) =
      (Text.join "\n" (headLines settings plan)).toList := by
    rw [hfilling, (fills_repositoryHead hclasses hnamespace).renderChars_append hsound,
      fill_repositoryHead]
  unfold repository Stub.render
  dsimp only
  rw [String.toList_ofList, htext, Stub.renderChars_append_cons hlettered (by decide),
    Stub.renderChars_append_cons hlettered (by decide), hhead,
    Stub.renderChars_of_unmarked (Stub.unmarked_of_count (by decide))]
  exact ⟨_, rfl⟩

omit hclasses hnamespace in
/-- No line of the head begins the body of a class. -/
theorem headLines_ne_brace : ∀ line ∈ headLines settings plan, line.toList ≠ ['\x7b'] := by
  have huses : ∀ line ∈ Php.useLines settings.modelsNamespace
      (plan.modelName :: plan.relations.map (·.parentModel)) [], line.toList ≠ ['\x7b'] :=
    List.forall_mem_map.mpr fun name _ => by simp [useLine, String.toList_append]
  simp only [headLines, List.forall_mem_append, List.forall_mem_cons]
  exact ⟨⟨by decide, by decide, by simp [String.toList_append], by decide, by simp⟩, huses,
    by decide, by decide, by simp [String.toList_append], by simp⟩

/-- The lines of the head have no line feeds. -/
theorem headLines_plain : ∀ line ∈ headLines settings plan, '\n' ∉ line.toList := by
  have hroot : Over (· ≠ '\n') settings.rootNamespace := by
    rintro c hc rfl
    rcases hnamespace _ hc with hword | hslash
    · exact absurd hword (by decide)
    · exact absurd hslash (by decide)
  have hmodels : Over (· ≠ '\n') settings.modelsNamespace := hroot.append (by decide)
  have hrepositories : Over (· ≠ '\n') settings.repositoriesNamespace := hroot.append (by decide)
  have hspelt : ∀ {name : String}, Spelt name → Over (· ≠ '\n') name := fun h =>
    Text.over_ne.mpr (h.not_mem (by decide))
  have hname : Spelt (repositoryName plan) :=
    (hclasses _ List.mem_cons_self).append (Text.forall_mem_of_all (by decide))
  have huses : ∀ line ∈ Php.useLines settings.modelsNamespace
      (plan.modelName :: plan.relations.map (·.parentModel)) [], Over (· ≠ '\n') line := by
    refine List.forall_mem_map.mpr fun name hname => ?_
    simp only [useLine, Text.over_append]
    exact ⟨⟨⟨⟨by decide, hmodels⟩, by decide⟩, hspelt (hclasses name (Php.mem_firstSeen hname))⟩,
      by decide⟩
  refine fun line hline => Text.over_ne.mp ?_
  revert line
  simp only [headLines, List.forall_mem_append, List.forall_mem_cons, Text.over_append]
  exact ⟨⟨by decide, by decide, ⟨⟨by decide, hrepositories⟩, by decide⟩, by decide, by simp⟩, huses,
    by decide, by decide, ⟨by decide, hspelt hname⟩, by simp⟩

omit hclasses hnamespace in
/-- The lines of the head that import a class. -/
theorem filterMap_headLines : ((headLines settings plan).map String.toList).filterMap used? =
    (firstSeen [] (plan.modelName :: plan.relations.map (·.parentModel))).map
      (settings.modelsNamespace ++ "\\" ++ ·) ++ ["PDO"] := by
  have hspace : used? ("namespace " ++ settings.repositoriesNamespace ++ ";").toList = none :=
    Php.used?_of_head (by simp [String.toList_append])
  have hclass : used? ("class " ++ repositoryName plan).toList = none :=
    Php.used?_of_head (by simp [String.toList_append])
  have hfixed : used? "<?php".toList = none ∧ used? "".toList = none ∧
      used? "use PDO;".toList = some "PDO" := by decide +kernel
  have huses : ((Php.useLines settings.modelsNamespace
      (plan.modelName :: plan.relations.map (·.parentModel)) []).map String.toList).filterMap used? =
        (firstSeen [] (plan.modelName :: plan.relations.map (·.parentModel))).map
          (settings.modelsNamespace ++ "\\" ++ ·) := by
    rw [Php.useLines, List.map_map, List.filterMap_map]
    exact Plan.filterMap_eq_map fun name _ => Php.used?_useLine _ name
  simp only [headLines, List.map_append, List.filterMap_append, huses, List.map_cons, List.map_nil,
    List.filterMap_cons, List.filterMap_nil, hspace, hclass, hfixed, List.nil_append]

/-- What a repository imports: the class of its rows and the classes of its relations, and what the template
says. -/
theorem imports_repository : imports (repository Name.packaged settings plan).content =
    (firstSeen [] (plan.modelName :: plan.relations.map (·.parentModel))).map
      (settings.modelsNamespace ++ "\\" ++ ·) ++ ["PDO"] := by
  obtain ⟨rest, htext⟩ := exists_toList_repository hclasses hnamespace
  have hplain : ∀ line ∈ headLines settings plan ++ ["\x7b"], '\n' ∉ line.toList :=
    List.forall_mem_append.mpr ⟨headLines_plain hclasses hnamespace, by simp⟩
  have hlines : (repository Name.packaged settings plan).content.toList =
      (headLines settings plan ++ ["\x7b"]).flatMap (fun line => line.toList ++ ['\n']) ++ rest := by
    rw [htext, Text.toList_join_lines (by simp [headLines]), List.flatMap_append, List.append_assoc]
    rfl
  have hhead : ∀ line ∈ (headLines settings plan).map String.toList, (line != ['\x7b']) = true :=
    List.forall_mem_map.mpr fun line hline => bne_iff_ne.mpr (headLines_ne_brace line hline)
  unfold Php.imports
  rw [hlines, Text.splitOn_lines hplain, List.map_append, List.append_assoc,
    List.takeWhile_append_of_pos hhead, List.map_singleton, List.singleton_append,
    List.takeWhile_cons_of_neg (by decide), List.append_nil, filterMap_headLines]

/-- The class of a relation is imported once, unless it has the name of the database connection. -/
theorem importsOf_repository {name : String} (hname : name ∈ plan.relations.map (·.parentModel)) :
    importsOf name (repository Name.packaged settings plan).content =
      (settings.modelsNamespace ++ "\\" ++ name) :: if name = "PDO" then ["PDO"] else [] := by
  unfold Php.importsOf
  rw [imports_repository hclasses hnamespace, List.filter_append,
    Php.filter_shortName hclasses (List.mem_cons_of_mem _ hname)]
  have hconnection : Php.shortName "PDO" = "PDO" := by decide +kernel
  by_cases h : name = "PDO"
  · rw [h, if_pos rfl, List.filter_cons_of_pos (by rw [hconnection]; exact beq_self_eq_true _)]
    rfl
  · rw [if_neg h, List.filter_cons_of_neg (by rw [hconnection]; simpa using Ne.symm h)]
    rfl

end Head

end Render

end Scaffold
