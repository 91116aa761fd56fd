import Scaffold.Proofs.Artifact.Filled

/-!
# The statements of a repository

The SQL of a repository stands in double quotes, and nothing else of it does. A query or a statement is put
together from a few holes of the stub, so which ones a repository has is read off the stub, with its holes
as signs among the characters.

* `strings`: the texts in double quotes.
* `Sign`, `toList_fill`: a template sign by sign.
* `between_flatMap`: what stands between marks can be read before or after the signs are replaced.
* `strings_repository`: the queries and statements of a repository.
-/
namespace Scaffold.Stub

variable {t : Template} {f : Filling}

/-! ## Signs -/

/-- A sign of a template: a character, or one of its holes. -/
inductive Sign where
  | char (c : Char)
  | hole (name : List Char)
  deriving DecidableEq

/-- The signs of a piece. -/
def Piece.signs : Piece → List Sign
  | .literal cs => cs.map .char
  | .blank name => [.hole name]

/-- The signs of a template, from its pieces. -/
def signs (pieces : List Piece) : List Sign := pieces.flatMap Piece.signs

/-- The characters in place of a sign, by those in place of the holes. -/
def Sign.chars (values : List Char → List Char) : Sign → List Char
  | .char c => [c]
  | .hole name => values name

/-- The characters in place of a hole. -/
def Filling.chars (f : Filling) (name : List Char) : List Char :=
  match List.lookup (String.ofList name) f with
  | some value => value.toList
  | none => []

theorem mem_chars {name : List Char} {c : Char} (h : c ∈ f.chars name) :
    ∃ value, (String.ofList name, value) ∈ f ∧ c ∈ value.toList := by
  unfold Filling.chars at h
  split at h
  · rename_i value hvalue
    exact ⟨value, mem_of_lookup hvalue, h⟩
  · cases h

theorem flatMap_chars (values : List Char → List Char) (cs : List Char) :
    (cs.map Sign.char).flatMap (Sign.chars values) = cs := by
  rw [List.flatMap_map]
  exact List.flatMap_singleton' cs

/-- A template is filled sign by sign. -/
theorem toList_fill (hholes : ∀ name, .blank name ∈ t → name ∈ f.map (·.1)) :
    (t.fill f).toList = (signs t.pieces).flatMap (Sign.chars f.chars) := by
  induction t with
  | nil => rfl
  | cons s t ih =>
    have hsigns : signs (Template.pieces (s :: t)) = s.piece.signs ++ signs (Template.pieces t) := rfl
    rw [fill_cons, String.toList_append, hsigns, List.flatMap_append,
      ih fun name hname => hholes name (List.mem_cons_of_mem s hname)]
    refine congrArg (· ++ _) ?_
    cases s with
    | lines texts => exact (flatMap_chars f.chars _).symm
    | blank name =>
      obtain ⟨value, hvalue⟩ := exists_lookup (hholes name List.mem_cons_self)
      have hchars : f.chars name.toList = value.toList := by
        unfold Filling.chars
        rw [String.ofList_toList, hvalue]
      rw [text_fill_blank hvalue, ← hchars]
      exact (List.append_nil _).symm

/-- A character that is neither in the text of a template nor in any value. -/
theorem not_mem_fill {c : Char} (hholes : ∀ name, .blank name ∈ t → name ∈ f.map (·.1))
    (htext : .char c ∉ signs t.pieces) (hvalues : ∀ entry ∈ f, c ∉ entry.2.toList) :
    c ∉ (t.fill f).toList := by
  rw [toList_fill hholes]
  intro hc
  obtain ⟨sign, hsign, hc⟩ := List.mem_flatMap.mp hc
  cases sign with
  | char d =>
    rw [← List.mem_singleton.mp hc] at hsign
    exact htext hsign
  | hole name =>
    obtain ⟨value, hentry, hc⟩ := mem_chars hc
    exact hvalues _ hentry hc

end Scaffold.Stub

namespace Scaffold.Php

/-! ## Between marks -/

section Between

variable {α β : Type} {isMark : β → Bool} {run rest read : List β}

/-- The parts between two marks each, where every other part is outside. What has been read of a part that
is open is given back to front. -/
def between (isMark : α → Bool) : Option (List α) → List α → List (List α)
  | _, [] => []
  | none, a :: rest => between isMark (if isMark a then some [] else none) rest
  | some read, a :: rest =>
    if isMark a then read.reverse :: between isMark none rest else between isMark (some (a :: read)) rest

theorem between_outside (h : ∀ b ∈ run, isMark b = false) (rest : List β) :
    between isMark none (run ++ rest) = between isMark none rest := by
  induction run with
  | nil => rfl
  | cons b run ih =>
    obtain ⟨hb, hrun⟩ := List.forall_mem_cons.mp h
    rw [List.cons_append, between, hb]
    exact ih hrun

theorem between_inside (h : ∀ b ∈ run, isMark b = false) (read rest : List β) :
    between isMark (some read) (run ++ rest) = between isMark (some (run.reverse ++ read)) rest := by
  induction run generalizing read with
  | nil => rfl
  | cons b run ih =>
    obtain ⟨hb, hrun⟩ := List.forall_mem_cons.mp h
    rw [List.cons_append, between, hb, if_neg Bool.false_ne_true, ih hrun, List.reverse_cons,
      List.append_assoc, List.singleton_append]

/-- The parts of a text in which signs are replaced are the parts with their signs replaced, if what takes
the place of a mark is a mark and nothing else brings one. -/
theorem between_flatMap {isSign : α → Bool} {put : α → List β} {l : List α}
    (hmark : ∀ a ∈ l, isSign a = true → ∃ b, put a = [b] ∧ isMark b = true)
    (hplain : ∀ a ∈ l, isSign a = false → ∀ b ∈ put a, isMark b = false) (read : Option (List α)) :
    between isMark (read.map fun r => (r.reverse.flatMap put).reverse) (l.flatMap put) =
      (between isSign read l).map (·.flatMap put) := by
  induction l generalizing read with
  | nil => cases read <;> rfl
  | cons a l ih =>
    obtain ⟨hhere, hlater⟩ := List.forall_mem_cons.mp hmark
    obtain ⟨hbare, hothers⟩ := List.forall_mem_cons.mp hplain
    have hrest := ih hlater hothers
    rw [List.flatMap_cons]
    cases hsign : isSign a with
    | true =>
      obtain ⟨b, hput, hb⟩ := hhere hsign
      rw [hput, List.singleton_append]
      cases read with
      | none =>
        rw [Option.map_none, between, between, hb, hsign, if_pos rfl, if_pos rfl]
        exact hrest (some [])
      | some read =>
        rw [Option.map_some, between, between, hb, hsign, if_pos rfl, if_pos rfl, List.map_cons,
          List.reverse_reverse]
        exact congrArg _ (hrest none)
    | false =>
      cases read with
      | none =>
        rw [Option.map_none, between_outside (hbare hsign), between, hsign, if_neg Bool.false_ne_true]
        exact hrest none
      | some read =>
        rw [Option.map_some, between_inside (hbare hsign), between, hsign, if_neg Bool.false_ne_true]
        have hread := hrest (some (a :: read))
        rw [Option.map_some, List.reverse_cons, List.flatMap_append, List.reverse_append,
          List.flatMap_singleton] at hread
        exact hread

end Between

/-- The texts in double quotes. -/
def strings (text : String) : List String := (between (· == '"') none text.toList).map .ofList

example : strings "f(\"a\", \"\") . \"b\";" = ["a", "", "b"] := by decide +kernel

end Scaffold.Php

namespace Scaffold.Render

open Plan (Spelled)
open Stub (Filling Name Sign Template signs)
open Text (Over)

/-! ## Queries and statements -/

/-- The query for all rows. -/
def allQuery (plan : Plan) : String :=
  "SELECT " ++ Text.join selectSeparator plan.selectColumns ++ "\n        FROM `" ++ plan.tableName ++
    "`" ++ Php.joinLines plan.joinClauses ++ "\n        " ++ plan.whereLive

/-- The query for one row. -/
def oneQuery (plan : Plan) : String :=
  "SELECT " ++ Text.join selectSeparator plan.selectColumns ++ "\n        FROM `" ++ plan.tableName ++
    "`" ++ Php.joinLines plan.joinClauses ++ "\n        WHERE `" ++ plan.tableName ++ "`.`id` = ? " ++
    plan.andLive

/-- The statement that inserts a row. -/
def insertStatement (plan : Plan) : String :=
  "INSERT INTO `" ++ plan.tableName ++ "` (" ++ Text.join ", " plan.insertColumns ++ ") VALUES (" ++
    Text.join ", " plan.placeholders ++ ")"

/-- The statement that updates a row. -/
def updateStatement (plan : Plan) : String :=
  "UPDATE `" ++ plan.tableName ++ "` SET " ++ Text.join ", " plan.assignments ++ " WHERE `id` = ?"

/-- The queries and statements of a repository as parts of its stub. -/
def statementTemplates (restores : Bool) : List Template :=
  [[.lines ["SELECT "], .blank "selectColumns", .lines ["", "        FROM `"], .blank "tableName",
      .lines ["`"], .blank "joinClause", .lines ["", "        "], .blank "softDeleteWhereClause"],
    [.lines ["SELECT "], .blank "selectColumns", .lines ["", "        FROM `"], .blank "tableName",
      .lines ["`"], .blank "joinClause", .lines ["", "        WHERE `"], .blank "tableName",
      .lines ["`.`id` = ? "], .blank "softDeleteAndWhereClause"],
    [.lines ["INSERT INTO `"], .blank "tableName", .lines ["` ("], .blank "insertColumns",
      .lines [") VALUES ("], .blank "insertPlaceholders", .lines [")"]],
    [.lines ["UPDATE `"], .blank "tableName", .lines ["` SET "], .blank "updateSetClause",
      .lines [" WHERE `id` = ?"]],
    [.blank "deleteStatement"]] ++ if restores then [[.blank "restoreStatement"]] else []

/-- The signs of a repository, with those of the restore method in place if there is one. -/
def repositorySigns (restores : Bool) : List Sign :=
  (signs Name.repository.letters.1).flatMap fun
    | .char c => [.char c]
    | .hole name =>
      if name = "restoreMethod".toList then
        if restores then signs Name.repositoryRestore.letters.1 else []
      else [.hole name]

/-- Whether a sign is a double quote. -/
def isQuoteSign (sign : Sign) : Bool := sign = .char '"'

theorem between_repositorySigns (restores : Bool) :
    Php.between isQuoteSign none (repositorySigns restores) =
      (statementTemplates restores).map fun t => signs t.pieces := by
  cases restores <;> decide +kernel

theorem ne_quote_of_isValueChar : ∀ c, Php.isValueChar c = true → c ≠ '"' := by
  rintro c hc rfl
  exact absurd hc (by decide)

theorem quoteless_rule {rule : Hydration.Rule} (h : ∀ name ∈ rule.names, Php.Spelt name) :
    Over (· ≠ '"') rule.text := by
  have hspelt : ∀ {name : String}, Php.Spelt name → '"' ∉ name.toList := fun hname =>
    Text.over_ne.mp (over_of_spelt ne_quote_of_isValueChar hname)
  refine Text.over_join (by decide) (Hydration.forall_line (fun t ht => ?_) fun m hm t ht => ?_)
  · have hlines : ∀ t ∈ Hydration.plainLines, Sign.char '"' ∉ signs t.pieces := by decide +kernel
    exact Text.over_ne.mpr (Stub.not_mem_fill (fills_plainLine h ht).holes (hlines t ht)
      fun entry hentry => hspelt (Php.spelt_plainFilling h entry hentry))
  · have hlines : ∀ t ∈ Hydration.mappingLines, Sign.char '"' ∉ signs t.pieces := by decide +kernel
    exact Text.over_ne.mpr (Stub.not_mem_fill (fills_mappingLine h hm ht).holes (hlines t ht)
      fun entry hentry => hspelt (Php.spelt_mappingFilling h hm entry hentry))

theorem quoteless_hydration {plan : Plan} (h : Spelled plan) :
    Over (· ≠ '"') (String.join (plan.hydrationRules.map Hydration.Rule.text)) :=
  Text.over_concat (List.forall_mem_map.mpr fun _ hrule => quoteless_rule (h.ofRule hrule))

/-- A packaged stub is filled sign by sign. -/
theorem toList_fill_packaged {name : Name} {f : Filling}
    (hholes : ∀ hole, .blank hole ∈ name.template → hole ∈ f.map (·.1)) :
    (name.template.fill f).toList = (signs name.letters.1).flatMap (Sign.chars f.chars) :=
  (Stub.toList_fill hholes).trans
    (congrArg (fun pieces => (signs pieces).flatMap (Sign.chars f.chars)) name.letters.2)

section Strings

variable {settings : Settings} {plan : Plan} (h : Spelled plan)

/-- What fills the statements: the values of the repository, and the statement of the restore method in
place of the method. -/
def statementFilling (settings : Settings) (plan : Plan) : Filling :=
  [("restoreMethod", ""), ("restoreStatement", (restoring? plan).getD "")] ++
    repositoryFilling Name.packaged settings plan

theorem chars_statementFilling {name : List Char} (hmethod : name ≠ "restoreMethod".toList)
    (hstatement : name ≠ "restoreStatement".toList) :
    (statementFilling settings plan).chars name =
      (repositoryFilling Name.packaged settings plan).chars name := by
  have hother : ∀ {s : String}, name ≠ s.toList → (String.ofList name == s) = false := by
    intro s hs
    refine beq_eq_false_iff_ne.mpr fun heq => hs ?_
    rw [← heq, String.toList_ofList]
  unfold statementFilling Stub.Filling.chars
  rw [List.cons_append, List.lookup_cons, hother hmethod, List.cons_append, List.lookup_cons,
    hother hstatement, List.nil_append]

theorem holes_statementTemplates (settings : Settings) {t : Template}
    (ht : t ∈ statementTemplates (restoring? plan).isSome) :
    ∀ name, .blank name ∈ t → name ∈ (statementFilling settings plan).map (·.1) := by
  have hnames : ∀ restores, ∀ t ∈ statementTemplates restores, ∀ name ∈ holes t,
      name ∈ ["restoreStatement", "tableName", "selectColumns", "joinClause", "softDeleteWhereClause",
        "softDeleteAndWhereClause", "insertColumns", "insertPlaceholders", "updateSetClause",
        "deleteStatement"] := by decide +kernel
  have hfilled : ["restoreStatement", "tableName", "selectColumns", "joinClause",
      "softDeleteWhereClause", "softDeleteAndWhereClause", "insertColumns", "insertPlaceholders",
      "updateSetClause", "deleteStatement"] ⊆ (statementFilling settings plan).map (·.1) := by
    simp [statementFilling, repositoryFilling]
  exact fun name hname => hfilled (hnames _ t ht name (List.mem_filterMap.mpr ⟨_, hname, rfl⟩))

theorem fill_statementTemplates (settings : Settings) (plan : Plan) :
    (statementTemplates (restoring? plan).isSome).map (·.fill (statementFilling settings plan)) =
      [allQuery plan, oneQuery plan, insertStatement plan, updateStatement plan, plan.deleteStatement] ++
        (restoring? plan).toList := by
  have hselect : List.lookup "selectColumns" (statementFilling settings plan) =
      some (Text.join selectSeparator plan.selectColumns) := rfl
  have htable : List.lookup "tableName" (statementFilling settings plan) = some plan.tableName := rfl
  have hjoin : List.lookup "joinClause" (statementFilling settings plan) =
      some (Php.joinLines plan.joinClauses) := rfl
  have hwhere : List.lookup "softDeleteWhereClause" (statementFilling settings plan) =
      some plan.whereLive := rfl
  have hand : List.lookup "softDeleteAndWhereClause" (statementFilling settings plan) =
      some plan.andLive := rfl
  have hinsert : List.lookup "insertColumns" (statementFilling settings plan) =
      some (Text.join ", " plan.insertColumns) := rfl
  have hvalues : List.lookup "insertPlaceholders" (statementFilling settings plan) =
      some (Text.join ", " plan.placeholders) := rfl
  have hset : List.lookup "updateSetClause" (statementFilling settings plan) =
      some (Text.join ", " plan.assignments) := rfl
  have hdelete : List.lookup "deleteStatement" (statementFilling settings plan) =
      some plan.deleteStatement := rfl
  have hrestore : List.lookup "restoreStatement" (statementFilling settings plan) =
      some ((restoring? plan).getD "") := rfl
  have hfrom : Text.join "\n" ["", "        FROM `"] = "\n        FROM `" := by decide +kernel
  have hindent : Text.join "\n" ["", "        "] = "\n        " := by decide +kernel
  have hkey : Text.join "\n" ["", "        WHERE `"] = "\n        WHERE `" := by decide +kernel
  -- the definitions are opened by delta, as their equations are slow to derive
  delta allQuery oneQuery insertStatement updateStatement
  cases hstatement : restoring? plan <;>
    simp only [hstatement, statementTemplates, List.cons_append, List.nil_append, List.append_nil,
      List.map_cons, List.map_nil, Option.isSome_none, Option.isSome_some, Option.toList_some,
      Option.toList_none, Option.getD_some, if_true, if_false, Bool.false_eq_true, Stub.fill_cons, Stub.fill_nil,
      Stub.text_fill_lines, Stub.text_fill_blank hselect, Stub.text_fill_blank htable,
      Stub.text_fill_blank hjoin, Stub.text_fill_blank hwhere, Stub.text_fill_blank hand,
      Stub.text_fill_blank hinsert, Stub.text_fill_blank hvalues, Stub.text_fill_blank hset,
      Stub.text_fill_blank hdelete, Stub.text_fill_blank hrestore, Text.join_singleton, hfrom, hindent,
      hkey, String.append_assoc, String.append_empty]

include h

/-- The restore method, filled with what fills the statements. -/
theorem toList_repositoryRestore : (repositoryRestore Name.packaged plan).toList =
    (if (restoring? plan).isSome then signs Name.repositoryRestore.letters.1 else []).flatMap
      (Sign.chars (statementFilling settings plan).chars) := by
  unfold repositoryRestore
  cases hstatement : restoring? plan with
  | none => rfl
  | some statement =>
    have hsame : Name.repositoryRestore.template.fill
        [("restoreStatement", statement), ("tableName", plan.tableName)] =
        Name.repositoryRestore.template.fill (statementFilling settings plan) := by
      simp [Name.template, Stub.repositoryRestoreTemplate, Template.fill, Stub.Segment.fill, List.lookup_cons,
        statementFilling, hstatement]
    have hholes : ∀ name, .blank name ∈ Name.repositoryRestore.template →
        name ∈ (statementFilling settings plan).map (·.1) := by
      simp [Name.template, Stub.repositoryRestoreTemplate, statementFilling]
    dsimp only
    rw [(fills_repositoryRestore h hstatement).render, hsame]
    exact toList_fill_packaged hholes

variable (hnamespace : Over (fun c => Php.isValueChar c = true) settings.rootNamespace)
include hnamespace

/-- The repository, with the restore method in place. -/
theorem toList_repository : (repository Name.packaged settings plan).content.toList =
    (repositorySigns (restoring? plan).isSome).flatMap
      (Sign.chars (statementFilling settings plan).chars) := by
  have hfills := fills_repository h (hnamespace.mono ne_brace_of_isValueChar)
  have hholes : ∀ sign ∈ signs Name.repository.letters.1,
      sign ≠ .hole "restoreStatement".toList := by decide +kernel
  unfold repository repositorySigns
  dsimp only
  rw [hfills.render, toList_fill_packaged hfills.holes, List.flatMap_assoc]
  refine List.flatMap_congr fun sign hsign => ?_
  cases sign with
  | char c => rfl
  | hole name =>
    dsimp only
    split
    · rename_i hname
      rw [hname, ← toList_repositoryRestore h]
      rfl
    · rename_i hname
      have hother : name ≠ "restoreStatement".toList := fun heq => hholes _ hsign (by rw [heq])
      rw [List.flatMap_singleton]
      exact (chars_statementFilling hname hother).symm

/-- No hole of a repository is filled with a double quote, but for the restore method. -/
theorem quoteless_chars {name : List Char} (hmethod : name ≠ "restoreMethod".toList) :
    '"' ∉ (statementFilling settings plan).chars name := by
  intro hc
  obtain ⟨value, hentry, hc⟩ := Stub.mem_chars hc
  have hother : String.ofList name ≠ "restoreMethod" := fun heq => hmethod (by
    rw [← heq, String.toList_ofList])
  unfold statementFilling at hentry
  rw [List.mem_append, List.mem_cons, List.mem_singleton] at hentry
  rcases hentry with (hentry | hentry) | hentry
  · exact hother (congrArg Prod.fst hentry)
  · rw [show value = (restoring? plan).getD "" from congrArg Prod.snd hentry] at hc
    cases hstatement : restoring? plan with
    | none => simp [hstatement] at hc
    | some statement =>
      rw [hstatement] at hc
      exact absurd (queryText_restoring h hstatement _ hc) (by decide)
  · rcases over_repositoryFilling ne_quote_of_isValueChar h (hnamespace.mono ne_quote_of_isValueChar) _ _
      hentry with hcode | hplain
    · simp only [codeValues, List.mem_cons, Prod.mk.injEq, List.not_mem_nil, or_false] at hcode
      rcases hcode with ⟨-, rfl⟩ | ⟨-, rfl⟩ | ⟨hname, -⟩
      · exact Text.over_ne.mp (quoteless_hydration h) hc
      · exact absurd (h.deletion _ hc) (by decide)
      · exact hother hname
    · exact Text.over_ne.mp hplain hc

/-- The queries and statements of a repository, in order. -/
theorem strings_repository : Php.strings (repository Name.packaged settings plan).content =
    [allQuery plan, oneQuery plan, insertStatement plan, updateStatement plan, plan.deleteStatement] ++
      (restoring? plan).toList := by
  have hmark : ∀ sign ∈ repositorySigns (restoring? plan).isSome, isQuoteSign sign = true →
      ∃ c, sign.chars (statementFilling settings plan).chars = [c] ∧ (c == '"') = true := by
    intro sign _ hsign
    rw [of_decide_eq_true hsign]
    exact ⟨'"', rfl, rfl⟩
  have hholes : ∀ restores, ∀ sign ∈ repositorySigns restores,
      sign ≠ .hole "restoreMethod".toList := by decide +kernel
  have hplain : ∀ sign ∈ repositorySigns (restoring? plan).isSome, isQuoteSign sign = false →
      ∀ c ∈ sign.chars (statementFilling settings plan).chars, (c == '"') = false := by
    intro sign hmem hsign c hc
    refine beq_eq_false_iff_ne.mpr ?_
    rintro rfl
    cases sign with
    | char d =>
      cases List.mem_singleton.mp hc
      exact absurd hsign (by decide)
    | hole name => exact quoteless_chars h hnamespace (fun heq => hholes _ _ hmem (by rw [heq])) hc
  have hread : Php.between (· == '"') none ((repositorySigns (restoring? plan).isSome).flatMap
      (Sign.chars (statementFilling settings plan).chars)) =
      ((statementTemplates (restoring? plan).isSome).map fun t => signs t.pieces).map
        (·.flatMap (Sign.chars (statementFilling settings plan).chars)) := by
    rw [← between_repositorySigns]
    exact Php.between_flatMap hmark hplain none
  have hfilled : ∀ t ∈ statementTemplates (restoring? plan).isSome,
      String.ofList ((signs t.pieces).flatMap (Sign.chars (statementFilling settings plan).chars)) =
        t.fill (statementFilling settings plan) := by
    intro t ht
    rw [← Stub.toList_fill (holes_statementTemplates settings ht), String.ofList_toList]
  unfold Php.strings
  rw [toList_repository h hnamespace, hread, List.map_map, List.map_map]
  exact (List.map_congr_left hfilled).trans (fill_statementTemplates settings plan)

end Strings

end Scaffold.Render
