import Scaffold.Text.Case

/-!
# Names of generated things

Class, property and relation names are all derived from table and column names by the same few rules.

* `studly`, `camel`: words joined without separators, each capitalised; the first one not in `camel`.
* `singular`, `plural`: one trailing `s` taken away or added; irregular plurals are not known.
* `modelName`, `relationName`: the studly and the camel form of the singular table name.
* `quoteIdentifier`: an SQL name in backticks.
-/
namespace Scaffold.Naming

open Text

/-- A text whose first letter is in upper case, the rest as it is. -/
def capitaliseChars : List Char → List Char
  | [] => []
  | c :: cs => upperChar c ++ cs

/-- A text whose first letter is in lower case, the rest as it is. -/
def uncapitaliseChars : List Char → List Char
  | [] => []
  | c :: cs => lowerChar c ++ cs

/-- The characters between the words of a name. -/
def isSeparator (c : Char) : Bool := c == '_' || c == '-' || c == ' '

/-- The pieces of a name between separators, empty ones included. -/
def words : List Char → List (List Char)
  | [] => [[]]
  | c :: cs =>
    if isSeparator c then [] :: words cs
    else match words cs with
      | [] => [[c]]
      | word :: rest => (c :: word) :: rest

/-- Every word capitalised, the separators dropped. -/
def studlyChars (cs : List Char) : List Char := (words cs).flatMap capitaliseChars

/-- Every word but the first capitalised, the separators dropped. -/
def camelChars (cs : List Char) : List Char := uncapitaliseChars (studlyChars cs)

/-- Without one trailing `s`. -/
def singularChars (cs : List Char) : List Char :=
  if cs.getLast? = some 's' then cs.dropLast else cs

/-- A text whose first letter is in upper case. -/
def capitalise (s : String) : String := .ofList (capitaliseChars s.toList)

/-- A text whose first letter is in lower case. -/
def uncapitalise (s : String) : String := .ofList (uncapitaliseChars s.toList)

/-- `order_items` becomes `OrderItems`. -/
def studly (s : String) : String := .ofList (studlyChars s.toList)

/-- `created_at` becomes `createdAt`. -/
def camel (s : String) : String := .ofList (camelChars s.toList)

/-- `customers` becomes `customer`, `address` becomes `addres`. -/
def singular (s : String) : String := .ofList (singularChars s.toList)

/-- One `s` appended. -/
def plural (s : String) : String := s ++ "s"

/-- The class that stands for a row of a table. -/
def modelName (table : String) : String := studly (singular table)

/-- The property that holds a row of a parent table. -/
def relationName (table : String) : String := camel (singular table)

/-- An SQL identifier in backticks. -/
def quoteIdentifier (name : String) : String := "`" ++ name ++ "`"

end Scaffold.Naming
