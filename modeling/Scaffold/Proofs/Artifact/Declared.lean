import Scaffold.Proofs.Artifact.Properties
import Scaffold.Proofs.Artifact.Spelling

/-!
# Properties declared once

A model has one property for each column and one for each relation. No relation name is declared twice, and
no two columns are if their names differ in camel case, but nothing keeps a relation from having the name of
a column.

* `Declares`: a line off which some properties are read, whatever lines follow.
* `declarations_join`: the properties of lines are those of each line.
* `declarations_modelProperties`: the properties of a model, in order.
* `declared_once_iff`: they are pairwise distinct exactly if no relation is named as a column is.
* `customer_declared_twice`: a column next to the key that it stands for.
-/
namespace Scaffold.Php

open Text (Outside)

variable {p name line : String} {names : List String} {cs : List Char}

/-! ## Lines that declare properties -/

theorem property_of_declaration? (h : declaration? cs = some p) : "public ?".toList <+: cs := by
  unfold declaration? Text.dropStart? at h
  split at h
  · rename_i hstarts
    exact Text.startsWith_iff.mp hstarts
  · cases h

/-- No declaration begins in a text without its first letter. -/
theorem readAll_declaration_run {a : List Char} (ha : 'p' ∉ a) (b : List Char) :
    readAll declaration? (a ++ b) = readAll declaration? b := by
  induction a with
  | nil => rfl
  | cons c a ih =>
    have hnone : declaration? (c :: (a ++ b)) = none := by
      cases hread : declaration? (c :: (a ++ b)) with
      | none => rfl
      | some p =>
        have hfirst := (List.cons_prefix_cons.mp (property_of_declaration? hread)).1
        exact absurd (hfirst ▸ List.mem_cons_self) ha
    rw [List.cons_append, readAll, hnone]
    exact ih fun hmem => ha (List.mem_cons_of_mem c hmem)

/-- Nothing is declared by a text without a question mark, up to the end of its line. -/
theorem readAll_declaration_append {a b : List Char} (ha : '?' ∉ a) (hb : Outside (· != '\n') b) :
    readAll declaration? (a ++ b) = readAll declaration? b := by
  induction a with
  | nil => rfl
  | cons c a ih =>
    have hnone : declaration? (c :: (a ++ b)) = none := by
      cases hread : declaration? (c :: (a ++ b)) with
      | none => rfl
      | some p =>
        have hstart := property_of_declaration? hread
        rw [← List.cons_append] at hstart
        -- the start of a declaration has no line feed, so it is in the text itself
        have hinside : "public ?".toList <+: c :: a := by
          cases b with
          | nil => rwa [List.append_nil] at hstart
          | cons d b =>
            have hd : d = '\n' := by simpa using hb
            rw [hd] at hstart
            exact Stub.isPrefix_of_append_cons (by decide) hstart
        exact absurd (hinside.subset (by decide)) ha
    rw [List.cons_append, readAll, hnone]
    exact ih fun hmem => ha (List.mem_cons_of_mem c hmem)

/-- A line off which some properties are read, whatever lines follow. -/
def Declares (names : List String) (line : String) : Prop :=
  ∀ rest, Outside (· != '\n') rest →
    readAll declaration? (line.toList ++ rest) = names ++ readAll declaration? rest

theorem declares_nil (h : '?' ∉ line.toList) : Declares [] line := fun _ hrest =>
  readAll_declaration_append h hrest

/-- The line of a property. -/
def propertyLine (type name : String) : String :=
  indent ++ "public ?" ++ type ++ " $" ++ name ++ " = null;"

theorem declares_propertyLine {type : String} (htype : Spelt type) (hname : '?' ∉ name.toList) :
    Declares (nameAt? name.toList).toList (propertyLine type name) := by
  intro rest hrest
  have hplain : '?' ∉ type.toList ++ (" $".toList ++ (name.toList ++ " = null;".toList)) := by
    simp only [List.mem_append, not_or]
    exact ⟨htype.not_mem (by decide), by decide, hname, by decide⟩
  have hpublic : "public ?".toList = 'p' :: "ublic ?".toList := by decide
  have hline : (propertyLine type name).toList ++ rest = indent.toList ++ 'p' :: ("ublic ?".toList ++
      ((type.toList ++ (" $".toList ++ (name.toList ++ " = null;".toList))) ++ rest)) := by
    unfold propertyLine
    simp only [String.toList_append, List.append_assoc, hpublic, List.cons_append]
  have hread : declaration? ('p' :: ("ublic ?".toList ++
      ((type.toList ++ (" $".toList ++ (name.toList ++ " = null;".toList))) ++ rest))) =
        nameAt? name.toList := by
    rw [← List.cons_append, ← hpublic]
    simp only [List.append_assoc]
    exact declaration?_property htype name.toList _
  -- of the places up to the question mark only the one after the indentation begins a declaration
  rw [hline, readAll_declaration_run (by decide), readAll, hread, readAll_declaration_run (by decide),
    readAll_declaration_append hplain hrest]

/-- The properties of some lines are those of each line. -/
theorem declarations_join {lines : List (String × List String)}
    (h : ∀ line ∈ lines, Declares line.2 line.1) :
    declarations (Text.join "\n" (lines.map (·.1))) = lines.flatMap (·.2) := by
  unfold declarations
  induction lines with
  | nil => rfl
  | cons line lines ih =>
    obtain ⟨hline, hlines⟩ := List.forall_mem_cons.mp h
    cases lines with
    | nil =>
      have hlast := hline [] (Text.outside_nil _)
      rw [List.append_nil] at hlast
      exact hlast
    | cons next lines =>
      have hjoin : (Text.join "\n" ((line :: next :: lines).map (·.1))).toList =
          line.1.toList ++ '\n' :: (Text.join "\n" ((next :: lines).map (·.1))).toList := by
        simp [Text.join, String.toList_append]
      rw [hjoin, hline _ (by simp), List.flatMap_cons]
      exact congrArg (line.2 ++ ·) (ih hlines)

/-! ## The properties of a model -/

theorem firstRelations_subset (seen : List String) (relations : List Relation) :
    firstRelations seen relations ⊆ relations := by
  induction relations generalizing seen with
  | nil => exact List.Subset.refl _
  | cons r rest ih =>
    rw [firstRelations]
    split
    · exact List.subset_cons_of_subset r (ih seen)
    · exact List.cons_subset_cons r (ih _)

/-- The names that a model gives to its properties. -/
def propertyNames (plan : Plan) : List String :=
  plan.columns.map Naming.camel ++ firstSeen [] (plan.relations.map (·.relationName))

/-- The line of the property of a column, with what it declares. -/
def columnLine (column : String) : String × List String :=
  (propertyLine "string" (Naming.camel column), (nameAt? (Naming.camel column).toList).toList)

/-- The lines of the property of a relation, with what they declare. -/
def relationLines (modelsNamespace : String) (r : Relation) : List (String × List String) :=
  [("", []), (indent ++ "/** @var \\" ++ modelsNamespace ++ "\\" ++ r.parentModel ++ "|null */", []),
    (propertyLine "object" r.relationName, (nameAt? r.relationName.toList).toList)]

theorem propertyLine_string (name : String) :
    propertyLine "string" name = indent ++ "public ?string $" ++ name ++ " = null;" := by
  have hlead : indent ++ "public ?" ++ "string" ++ " $" = indent ++ "public ?string $" := by decide
  rw [propertyLine, hlead]

theorem propertyLine_object (name : String) :
    propertyLine "object" name = indent ++ "public ?object $" ++ name ++ " = null;" := by
  have hlead : indent ++ "public ?" ++ "object" ++ " $" = indent ++ "public ?object $" := by decide
  rw [propertyLine, hlead]

theorem modelProperties_eq (plan : Plan) (modelsNamespace : String) :
    modelProperties plan modelsNamespace = Text.join "\n" ((plan.columns.map columnLine ++
      (firstRelations [] plan.relations).flatMap (relationLines modelsNamespace)).map (·.1)) := by
  have hcolumns : (plan.columns.map columnLine).map (·.1) = plan.columns.map columnProperty := by
    rw [List.map_map]
    exact List.map_congr_left fun column _ => propertyLine_string _
  have hrelation : ∀ r, (relationLines modelsNamespace r).map (·.1) =
      relationProperty modelsNamespace r := by
    intro r
    rw [relationLines, propertyLine_object]
    rfl
  rw [modelProperties, List.map_append, hcolumns, List.map_flatMap]
  simp only [hrelation]

theorem declares_columnLine {column : String} (h : Spelt (Naming.camel column)) :
    Declares (columnLine column).2 (columnLine column).1 := by
  have htype : Spelt "string" := Text.forall_mem_of_all (by decide)
  unfold columnLine
  dsimp only
  exact declares_propertyLine htype (h.not_mem (by decide))

theorem declares_relationLines {modelsNamespace : String} {r : Relation}
    (hnamespace : '?' ∉ modelsNamespace.toList) (hname : Spelt r.relationName)
    (hparent : Spelt r.parentModel) :
    ∀ line ∈ relationLines modelsNamespace r, Declares line.2 line.1 := by
  have hcomment : '?' ∉
      (indent ++ "/** @var \\" ++ modelsNamespace ++ "\\" ++ r.parentModel ++ "|null */").toList := by
    simp only [String.toList_append, List.mem_append, not_or]
    exact ⟨⟨⟨⟨⟨by decide, by decide⟩, hnamespace⟩, by decide⟩, hparent.not_mem (by decide)⟩,
      by decide⟩
  simp only [relationLines, List.forall_mem_cons]
  exact ⟨declares_nil (by decide), declares_nil hcomment,
    declares_propertyLine (Text.forall_mem_of_all (by decide)) (hname.not_mem (by decide)), by simp⟩

/-- A model declares its properties in the order of its columns and relations. -/
theorem declarations_modelProperties {plan : Plan} {modelsNamespace : String}
    (hnamespace : '?' ∉ modelsNamespace.toList)
    (hcolumns : ∀ column ∈ plan.columns, Spelt (Naming.camel column))
    (hrelations : ∀ r ∈ plan.relations, Spelt r.relationName ∧ Spelt r.parentModel) :
    declarations (modelProperties plan modelsNamespace) =
      (propertyNames plan).filterMap fun name => nameAt? name.toList := by
  have hlines : ∀ line ∈ plan.columns.map columnLine ++
      (firstRelations [] plan.relations).flatMap (relationLines modelsNamespace),
        Declares line.2 line.1 := by
    refine List.forall_mem_append.mpr ⟨List.forall_mem_map.mpr fun column hcolumn =>
      declares_columnLine (hcolumns column hcolumn), fun line hline => ?_⟩
    obtain ⟨r, hr, hline⟩ := List.mem_flatMap.mp hline
    obtain ⟨hname, hparent⟩ := hrelations r (firstRelations_subset [] _ hr)
    exact declares_relationLines hnamespace hname hparent line hline
  rw [modelProperties_eq, declarations_join hlines, propertyNames, ← map_firstRelations,
    List.flatMap_append, List.filterMap_append, List.flatMap_map, List.flatMap_assoc,
    List.filterMap_eq_flatMap_toList, List.filterMap_eq_flatMap_toList, List.flatMap_map,
    List.flatMap_map]
  simp only [columnLine, relationLines, List.flatMap_cons, List.flatMap_nil, List.nil_append,
    List.append_nil]

/-- A name that is one word is read as a whole, unless it is empty. -/
theorem nameAt?_of_spelt (h : Spelt name) (hne : name ≠ "") : nameAt? name.toList = some name := by
  have hall : name.toList.takeWhile isNameChar = name.toList := List.takeWhile_eq_self_iff.mpr h
  unfold nameAt?
  rw [hall]
  split
  · rename_i hempty
    exact absurd (String.toList_eq_nil_iff.mp hempty) hne
  · exact congrArg some String.ofList_toList

theorem filterMap_nameAt? (h : ∀ name ∈ names, Spelt name) :
    (names.filterMap fun name => nameAt? name.toList) = names.filter (· ≠ "") := by
  induction names with
  | nil => rfl
  | cons name rest ih =>
    obtain ⟨hname, hrest⟩ := List.forall_mem_cons.mp h
    by_cases hempty : name = ""
    · have hnone : nameAt? name.toList = none := by
        rw [hempty]
        rfl
      rw [List.filterMap_cons_none (f := fun name : String => nameAt? name.toList) hnone,
        List.filter_cons_of_neg (by simpa using hempty), ih hrest]
    · rw [List.filterMap_cons_some (f := fun name : String => nameAt? name.toList)
        (nameAt?_of_spelt hname hempty), List.filter_cons_of_pos (by simpa using hempty), ih hrest]

/-! ## Models of tables that were read -/

section Built

variable {σ : Type} {resolve : String → Action σ (Option Table)} {table : Table} {plan : Plan}

/-- The names of the properties of a model are words, whatever the look-up of parents answers. -/
theorem spelt_propertyNames (hbuilt : Plan.Built resolve table plan) (hread : Schema.WasRead table) :
    (∀ column ∈ plan.columns, Spelt (Naming.camel column)) ∧
      ∀ r ∈ plan.relations, Spelt r.relationName ∧ Spelt r.parentModel := by
  refine ⟨fun column hcolumn => ?_, fun r hr => ?_⟩
  · rw [hbuilt.eq_planOf] at hcolumn
    exact Naming.over_camel ample_nameChar (hread.over_columns ample_nameChar column hcolumn)
  · have hfk : r.foreignKey ∈ table.foreignKeys := by
      rw [← hbuilt.keys]
      exact List.mem_map_of_mem hr
    have hparent := Naming.over_of_isName ample_nameChar (hread.worded.parentTables _ hfk)
    obtain ⟨parent, -, heq⟩ := hbuilt.planned r hr
    rw [heq, Plan.relationOf_relationName, Plan.relationOf_parentModel]
    exact ⟨Naming.over_relationName ample_nameChar hparent, Naming.over_modelName ample_nameChar hparent⟩

end Built

/-- The names that are left of two lists without repetitions are pairwise distinct if, and only if, the
lists have none of them in common. -/
theorem nodup_filter_append {l l' : List String} (hl : l.Nodup) (hl' : l'.Nodup)
    (hne : ∀ name ∈ l', name ≠ "") :
    ((l ++ l').filter (· ≠ "")).Nodup ↔ ∀ name ∈ l', name ∉ l := by
  rw [List.filter_append, List.nodup_append]
  constructor
  · rintro ⟨-, -, hdisjoint⟩ name hname hmem
    have hkept : ∀ {names : List String}, name ∈ names → name ∈ names.filter (· ≠ "") := fun h =>
      List.mem_filter.mpr ⟨h, by simpa using hne name hname⟩
    exact hdisjoint name (hkept hmem) name (hkept hname) rfl
  · intro hdisjoint
    refine ⟨hl.filter _, hl'.filter _, fun a ha b hb hsame => ?_⟩
    rw [hsame] at ha
    exact hdisjoint b (List.mem_of_mem_filter hb) (List.mem_of_mem_filter ha)

/-- A model of a table that was read, with columns that differ in camel case, declares no property twice
if, and only if, no relation is named as a column is. -/
theorem declared_once_iff {σ : Type} [Journaled σ] {resolve : String → Action σ (Option Table)}
    {text : String} {source : Option String} {table : Table} {plan : Plan} {st st' : σ}
    {modelsNamespace : String} (hparse : Table.parse text source = .ok table)
    (hbuild : (Plan.build table resolve).run st = (.ok plan, st'))
    (hcamel : (table.columns.map Naming.camel).Nodup) (hnamespace : '?' ∉ modelsNamespace.toList) :
    (declarations (modelProperties plan modelsNamespace)).Nodup ↔
      ∀ fk ∈ table.foreignKeys, ∀ column ∈ table.columns,
        Naming.relationName fk.parentTable ≠ Naming.camel column := by
  have hbuilt := Plan.built_of_build hbuild
  obtain ⟨hcolumns, hrelations⟩ := spelt_propertyNames hbuilt ⟨text, source, hparse⟩
  have hsame : plan.columns = table.columns := by
    rw [hbuilt.eq_planOf]
    rfl
  have hrelationNames : ∀ name ∈ firstSeen [] (plan.relations.map (·.relationName)),
      Spelt name ∧ name ≠ "" := by
    intro name hname
    obtain ⟨r, hr, rfl⟩ := List.mem_map.mp (mem_firstSeen hname)
    exact ⟨(hrelations r hr).1, Plan.named_of_build hbuild r hr⟩
  have hspelt : ∀ name ∈ propertyNames plan, Spelt name :=
    List.forall_mem_append.mpr ⟨List.forall_mem_map.mpr hcolumns, fun name hname =>
      (hrelationNames name hname).1⟩
  rw [declarations_modelProperties hnamespace hcolumns hrelations, filterMap_nameAt? hspelt,
    propertyNames, hsame, nodup_filter_append hcamel (nodup_firstSeen [] _) fun name hname =>
      (hrelationNames name hname).2]
  simp only [mem_firstSeen_iff, List.not_mem_nil, not_false_iff, and_true, hbuilt.relationNames,
    List.forall_mem_map]
  refine forall₂_congr fun fk _ => ?_
  rw [List.mem_map, not_exists]
  exact forall_congr' fun column => not_and.trans (forall_congr' fun _ => ne_comm)

/-- The orders have a column and a relation, each with a property of its own. -/
theorem orders_declared_once :
    ∃ w, Table.parse Plan.ordersSchema = .ok Plan.orders ∧
      (Plan.build Plan.orders Plan.findUsers).run {} = (.ok Plan.ordersPlan, w) ∧
      (Plan.orders.columns.map Naming.camel).Nodup ∧ '?' ∉ ("App\\Models" : String).toList ∧
      (declarations (modelProperties Plan.ordersPlan "App\\Models")).Nodup := by
  obtain ⟨w, hbuild⟩ := Plan.orders_built
  have hcamel : (Plan.orders.columns.map Naming.camel).Nodup := by decide +kernel
  have hnamespace : '?' ∉ ("App\\Models" : String).toList := by decide
  exact ⟨w, Plan.orders_read, hbuild, hcamel, hnamespace,
    (declared_once_iff Plan.orders_read hbuild hcamel hnamespace).mpr (by decide +kernel)⟩

/-- The schema of orders whose key to the customers is called after the customer. -/
def customerSchema : String :=
  "CREATE TABLE orders (\n  id INT,\n  customer INT,\n" ++
    "  FOREIGN KEY (customer) REFERENCES customers (id)\n);"

/-- The orders of customers. -/
def customerOrders : Table where
  name := "orders"
  columns := ["id", "customer"]
  foreignKeys := [⟨"customer", "customers", "id"⟩]

/-- A key that is called after the row it refers to has its property declared twice. -/
theorem customer_declared_twice :
    ∃ plan w, Table.parse customerSchema = .ok customerOrders ∧
      (Plan.build customerOrders Render.findNone).run {} = (.ok plan, w) ∧
      (customerOrders.columns.map Naming.camel).Nodup ∧
      declarations (modelProperties plan "App\\Models") = ["id", "customer", "customer"] ∧
      ¬(declarations (modelProperties plan "App\\Models")).Nodup := by
  have hbuild : ∃ w, (Plan.build customerOrders Render.findNone).run {} = (.ok (Plan.planOf customerOrders
      [Plan.relationOf "orders" ⟨"customer", "customers", "id"⟩ none]), w) :=
    Action.exists_run (by decide +kernel)
  obtain ⟨w, hbuild⟩ := hbuild
  have hdeclared : declarations (modelProperties (Plan.planOf customerOrders
      [Plan.relationOf "orders" ⟨"customer", "customers", "id"⟩ none]) "App\\Models") =
        ["id", "customer", "customer"] := by decide +kernel
  have hread : Table.parse customerSchema = .ok customerOrders :=
    Schema.parse_of_letters String.ofList_append.symm (by decide +kernel)
  exact ⟨_, w, hread, hbuild, by decide +kernel, hdeclared, by rw [hdeclared]; decide⟩

end Scaffold.Php
