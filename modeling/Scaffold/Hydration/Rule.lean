import Scaffold.Text.Blank

/-!
# Folding a joined row into nested objects

A query that joins a parent table selects the parent's columns under names of their own. A hydration
rule moves those values out of the result row into an object of their own.

* `Rule.apply`: the nested object, or nothing if the join found no parent, and the row that is left.
-/
namespace Scaffold.Hydration

/-- One selected parent column: its name in the result, its name in the parent table, and the property
that takes its value. -/
structure Mapping where
  aliasName : String
  column : String
  property : String
  deriving Repr, DecidableEq, Inhabited

/-- The relation to fill, the class of its object, and the values that belong to it. -/
structure Rule where
  relationName : String
  parentModel : String
  mappings : List Mapping := []
  deriving Repr, DecidableEq, Inhabited

/-- The result names that a rule reads. -/
def Rule.aliases (rule : Rule) : List String := rule.mappings.map (·.aliasName)

/-- A result row: names with their values, null being none. -/
abbrev Row (α : Type) := List (String × Option α)

/-- The value under a name, if there is one and it is not null. -/
def Row.value? {α : Type} (row : Row α) (name : String) : Option α :=
  (List.lookup name row).join

/-- The row without a name. -/
def Row.without {α : Type} (row : Row α) (name : String) : Row α :=
  row.filter fun entry => entry.1 != name

/-- A property set on an object: it keeps its place if it is there, else it comes last. -/
def setProperty {α : Type} (name : String) (value : α) : List (String × α) → List (String × α)
  | [] => [(name, value)]
  | (n, v) :: rest => if n = name then (n, value) :: rest else (n, v) :: setProperty name value rest

/-- A row from its entries; of several entries with one name the last value counts, in the first place. -/
def Row.ofEntries {α : Type} (entries : List (String × Option α)) : Row α :=
  entries.foldl (fun row entry => setProperty entry.1 entry.2 row) []

/-- The object so far, and the row that is left. -/
structure State (α : Type) where
  nested : List (String × α)
  row : Row α
  deriving Repr, DecidableEq

/-- Moves the value of one mapping, unless it is absent or null. -/
def Mapping.move {α : Type} (m : Mapping) (s : State α) : State α :=
  match s.row.value? m.aliasName with
  | some value => ⟨setProperty m.property value s.nested, s.row.without m.aliasName⟩
  | none => s

/-- Moves every value of a rule. Without any value there is no nested object. -/
def Rule.apply {α : Type} (rule : Rule) (row : Row α) : Option (List (String × α)) × Row α :=
  let s := rule.mappings.foldl (fun s m => m.move s) ⟨[], row⟩
  (if s.nested.isEmpty then none else some s.nested, s.row)

end Scaffold.Hydration
