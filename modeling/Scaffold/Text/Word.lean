import Scaffold.Text.WordTable

/-!
# Word characters

A name is a run of word characters: letters, digits and other numerals of any script, and `_`.
-/
namespace Scaffold.Text

/-- Whether a character may stand in a word. ASCII is decided without the table. -/
def isWord (c : Char) : Bool :=
  if c.toNat < 0x80 then c.isAlphanum || c == '_' else wordRanges.covers c.toNat

/-- The longest run of word characters at the start of a text, and the rest. -/
def splitWord (cs : List Char) : List Char × List Char := cs.span isWord

/-- A non-empty word at the start of a text, and the rest. -/
def word? (cs : List Char) : Option (List Char × List Char) :=
  match splitWord cs with
  | ([], _) => none
  | (word, rest) => some (word, rest)

end Scaffold.Text
