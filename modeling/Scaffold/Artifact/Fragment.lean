import Scaffold.Plan.Basic

/-!
# PHP fragments

The parts of the generated classes that vary in number: properties, imports, bound values, joins.
-/
namespace Scaffold.Php

/-- One step of indentation. -/
def indent : String := "    "

/-- Two steps of indentation. -/
def indent2 : String := indent ++ indent

/-- Three steps of indentation. -/
def indent3 : String := indent2 ++ indent

/-- The names not seen before, each once and in the order of its first occurrence. -/
def firstSeen (seen : List String) : List String → List String
  | [] => []
  | name :: rest =>
    if seen.contains name then firstSeen seen rest else name :: firstSeen (name :: seen) rest

/-- Relations with distinct names, the first of each name. -/
def firstRelations (seen : List String) : List Relation → List Relation
  | [] => []
  | r :: rest =>
    if seen.contains r.relationName then firstRelations seen rest
    else r :: firstRelations (r.relationName :: seen) rest

/-- The property of a column. -/
def columnProperty (column : String) : String :=
  indent ++ "public ?string $" ++ Naming.camel column ++ " = null;"

/-- The lines of the property of a relation. -/
def relationProperty (modelsNamespace : String) (r : Relation) : List String :=
  ["", indent ++ "/** @var \\" ++ modelsNamespace ++ "\\" ++ r.parentModel ++ "|null */",
    indent ++ "public ?object $" ++ r.relationName ++ " = null;"]

/-- The properties of a model: one for each column, then one for each relation. -/
def modelProperties (plan : Plan) (modelsNamespace : String) : String :=
  Text.join "\n" (plan.columns.map columnProperty ++
    (firstRelations [] plan.relations).flatMap (relationProperty modelsNamespace))

/-- The import of a class. -/
def useLine (parent name : String) : String := "use " ++ parent ++ "\\" ++ name ++ ";"

/-- The imports of classes, each once, without the excluded ones. -/
def useLines (parent : String) (classes excluded : List String) : List String :=
  (firstSeen excluded classes).map (useLine parent)

/-- The values bound to the placeholders of a statement, in the order of the columns. -/
def executeParams (columns : List String) : String :=
  Text.join "\n" (columns.map fun column => indent3 ++ "$model->" ++ Naming.camel column ++ ",")

/-- The joins of a query, each on a line of its own. -/
def joinLines (clauses : List String) : String :=
  String.join (clauses.map fun clause => "\n" ++ indent2 ++ clause)

end Scaffold.Php
