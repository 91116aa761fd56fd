import Scaffold.Hydration.Rule

/-!
# The hydration code of a repository

The generated repository folds a joined row by a block of PHP statements, one block for each rule.

* `Rule.block`: the statements of a rule.
* `blockText`: their text.
-/
namespace Scaffold.Hydration

/-- Statements without a body. -/
inductive Simple where
  | assign (object property key : String)
  | raise (flag : String)
  | unset (key : String)
  | attach (property object : String)
  deriving Repr, DecidableEq

/-- The statements of a hydration block. -/
inductive Statement where
  | empty
  | comment (text : String)
  | create (object model : String)
  | lower (flag : String)
  | whenSet (key : String) (body : List Simple)
  | whenRaised (flag : String) (body : List Simple)
  deriving Repr, DecidableEq

/-- The flag that records whether a rule has moved a value. -/
def Rule.flag (rule : Rule) : String := "has" ++ rule.parentModel ++ "Data"

/-- The statement that moves the value of one mapping. -/
def Mapping.statement (rule : Rule) (m : Mapping) : Statement :=
  .whenSet m.aliasName
    [.assign rule.relationName m.property m.aliasName, .raise rule.flag, .unset m.aliasName]

/-- The statements of a rule. -/
def Rule.block (rule : Rule) : List Statement :=
  [.empty, .comment ("Hydrate " ++ rule.parentModel ++ " relation"),
    .create rule.relationName rule.parentModel, .lower rule.flag] ++
  rule.mappings.map (Mapping.statement rule) ++
  [.whenRaised rule.flag [.attach rule.relationName rule.relationName]]

/-- The indentation of a statement in a method. -/
def indent : String := "        "

/-- The indentation of a statement in a condition. -/
def innerIndent : String := "            "

/-- The line of a statement without a body. -/
def Simple.line : Simple → String
  | .assign object property key => "$" ++ object ++ "->" ++ property ++ " = $row['" ++ key ++ "'];"
  | .raise flag => "$" ++ flag ++ " = true;"
  | .unset key => "unset($row['" ++ key ++ "']);"
  | .attach property object => "$model->" ++ property ++ " = $" ++ object ++ ";"

/-- A condition and its body, one statement a line. -/
def conditional (condition : String) (body : List Simple) : List String :=
  [indent ++ "if (" ++ condition ++ ") \x7b"] ++ body.map (fun s => innerIndent ++ s.line) ++
    [indent ++ "\x7d"]

/-- The lines of a statement. -/
def Statement.lines : Statement → List String
  | .empty => [""]
  | .comment text => [indent ++ "// " ++ text]
  | .create object model => [indent ++ "$" ++ object ++ " = new " ++ model ++ "();"]
  | .lower flag => [indent ++ "$" ++ flag ++ " = false;"]
  | .whenSet key body => conditional ("isset($row['" ++ key ++ "'])") body
  | .whenRaised flag body => conditional ("$" ++ flag) body

/-- The text of some statements. -/
def blockText (statements : List Statement) : String :=
  Text.join "\n" (statements.flatMap Statement.lines)

/-- The text of the block of a rule. -/
def Rule.text (rule : Rule) : String := blockText rule.block

end Scaffold.Hydration
