import Scaffold.Text.Blank
import Scaffold.Text.Case
import Scaffold.Text.Word
import Scaffold.Schema.Table

/-!
# Scanning schema text

A schema is read line by line and not as full SQL: the scanners below look for the few shapes that
matter. Each takes a text and answers with what it read and the rest, or with nothing.

* `tableHead?`: `CREATE TABLE`, with or without `IF NOT EXISTS`, and a name.
* `foreignKey?`: a `FOREIGN KEY` clause, with or without the name of its constraint.
* `foreignKeysIn`: every such clause of a text, from left to right and without overlap.
* `pieces`: a column block cut at each comma that ends a line.
-/
namespace Scaffold.Schema

open Text

/-- The rest after one or more blanks. -/
def blanks1? : List Char → Option (List Char)
  | [] => none
  | c :: cs => if isBlank c then some (cs.dropWhile isBlank) else none

/-- The rest after any number of blanks. -/
def blanks (cs : List Char) : List Char := cs.dropWhile isBlank

/-- The rest after a keyword, case ignored. -/
def keyword (k : String) (cs : List Char) : Option (List Char) := keyword? k.toList cs

/-- The rest after one given character. -/
def char? (c : Char) : List Char → Option (List Char)
  | [] => none
  | d :: cs => if d = c then some cs else none

/-- The rest after one given character, or everything if the text starts with another one. -/
def optional (c : Char) (cs : List Char) : List Char := (char? c cs).getD cs

/-- A word bare, in backticks or in double quotes; the quotes must be the same on both sides. -/
def quotedWord? : List Char → Option (List Char × List Char)
  | [] => none
  | c :: cs =>
    if c = '`' ∨ c = '"' then do
      let (word, rest) ← word? cs
      let rest ← char? c rest
      return (word, rest)
    else word? (c :: cs)

/-- A word with a backtick or none on either side. -/
def tickedWord? (cs : List Char) : Option (List Char × List Char) := do
  let (word, rest) ← word? (optional '`' cs)
  return (word, optional '`' rest)

/-- The rest after `IF NOT EXISTS` and the blanks that follow. -/
def ifNotExists? (cs : List Char) : Option (List Char) := do
  let cs ← keyword "IF" cs
  let cs ← blanks1? cs
  let cs ← keyword "NOT" cs
  let cs ← blanks1? cs
  let cs ← keyword "EXISTS" cs
  blanks1? cs

/-- The head of a table statement at the start of a text: its name and the rest. If no name follows
`IF NOT EXISTS`, the words are tried as a name themselves. -/
def tableHead? (cs : List Char) : Option (List Char × List Char) := do
  let cs ← keyword "CREATE" cs
  let cs ← blanks1? cs
  let cs ← keyword "TABLE" cs
  let cs ← blanks1? cs
  ((ifNotExists? cs).bind quotedWord?) <|> quotedWord? cs

/-- The first table head of a text: the name and everything after it. -/
def firstTable? : List Char → Option (List Char × List Char)
  | [] => none
  | c :: cs => (tableHead? (c :: cs)) <|> firstTable? cs

/-- A name in parentheses, blanks allowed inside, and the rest. -/
def parenthesised? (cs : List Char) : Option (List Char × List Char) := do
  let cs ← char? '(' cs
  let (word, cs) ← tickedWord? (blanks cs)
  let cs ← char? ')' (blanks cs)
  return (word, cs)

/-- The rest after `CONSTRAINT`, a name and blanks. -/
def constraintName? (cs : List Char) : Option (List Char) := do
  let cs ← keyword "CONSTRAINT" cs
  let cs ← blanks1? cs
  let (_, cs) ← tickedWord? cs
  blanks1? cs

/-- The clause `FOREIGN KEY (column) REFERENCES table (column)` at the start of a text. -/
def bareForeignKey? (cs : List Char) : Option (ForeignKey × List Char) := do
  let cs ← keyword "FOREIGN" cs
  let cs ← blanks1? cs
  let cs ← keyword "KEY" cs
  let (column, cs) ← parenthesised? (blanks cs)
  let cs ← keyword "REFERENCES" (blanks cs)
  let cs ← blanks1? cs
  let (parentTable, cs) ← tickedWord? cs
  let (parentColumn, cs) ← parenthesised? (blanks cs)
  return (⟨.ofList column, .ofList parentTable, .ofList parentColumn⟩, cs)

/-- A foreign-key clause, with or without the name of its constraint. -/
def foreignKey? (cs : List Char) : Option (ForeignKey × List Char) :=
  ((constraintName? cs).bind bareForeignKey?) <|> bareForeignKey? cs

/-- The clauses that `read?` finds in a text from left to right; `skip` characters belong to the clause
before. -/
def clausesFrom {α : Type} (read? : List Char → Option (α × List Char)) (skip : Nat) :
    List Char → List α
  | [] => []
  | c :: cs =>
    match skip with
    | n + 1 => clausesFrom read? n cs
    | 0 =>
      match read? (c :: cs) with
      | some (clause, rest) => clause :: clausesFrom read? (cs.length - rest.length) cs
      | none => clausesFrom read? 0 cs

/-- Every foreign-key clause of a text. -/
def foreignKeysIn (cs : List Char) : List ForeignKey := clausesFrom foreignKey? 0 cs

/-- Whether a character may stand between a comma and the end of its line. -/
def isInlineBlank (c : Char) : Bool := c == ' ' || c == '\t'

/-- The length of the separator at the start of a text: a comma, spaces or tabs, and a line feed. -/
def separatorLength? : List Char → Option Nat
  | ',' :: cs =>
    match cs.dropWhile isInlineBlank with
    | '\n' :: _ => some ((cs.takeWhile isInlineBlank).length + 2)
    | _ => none
  | _ => none

/-- The pieces of a block; `current` is the piece being read, in reverse, and `skip` characters belong
to the separator before it. -/
def piecesFrom (current : List Char) (skip : Nat) : List Char → List (List Char)
  | [] => [current.reverse]
  | c :: cs =>
    match skip with
    | n + 1 => piecesFrom current n cs
    | 0 =>
      match separatorLength? (c :: cs) with
      | some length => current.reverse :: piecesFrom [] (length - 1) cs
      | none => piecesFrom (c :: current) 0 cs

/-- A block cut at each comma that ends a line. -/
def pieces (cs : List Char) : List (List Char) := piecesFrom [] 0 cs

/-- Everything before the last occurrence of a character. -/
def beforeLast? (c : Char) : List Char → Option (List Char)
  | [] => none
  | d :: cs =>
    match beforeLast? c cs with
    | some before => some (d :: before)
    | none => if d = c then some [] else none

/-- Everything after the first occurrence of a character. -/
def afterFirst? (c : Char) : List Char → Option (List Char)
  | [] => none
  | d :: cs => if d = c then some cs else afterFirst? c cs

end Scaffold.Schema
