import Scaffold.Text.Ranges

/-!
# Blanks and lines

Which characters count as blank, how a text is trimmed, and where it breaks into lines.

* `isBlank`: spaces, tabs, line ends and the Unicode separators.
* `strip`: a text without the blanks around it.
* `lines`: the pieces between line ends; a line end at the very end opens no further line.
* `normaliseNewlines`: every line end written as one line feed.
-/
namespace Scaffold.Text

/-- The blank code points. -/
def blankRanges : Ranges :=
  [(0x9, 0xd), (0x1c, 0x20), (0x85, 0x85), (0xa0, 0xa0), (0x1680, 0x1680), (0x2000, 0x200a),
   (0x2028, 0x2029), (0x202f, 0x202f), (0x205f, 0x205f), (0x3000, 0x3000)]

/-- Whether a character is a blank. -/
def isBlank (c : Char) : Bool := blankRanges.covers c.toNat

/-- A text without its trailing characters that satisfy `p`. -/
def dropRightWhile (p : Char → Bool) (cs : List Char) : List Char :=
  (cs.reverse.dropWhile p).reverse

/-- A text without the characters on either side that satisfy `p`. -/
def stripWhile (p : Char → Bool) (cs : List Char) : List Char :=
  dropRightWhile p (cs.dropWhile p)

/-- A text without the blanks on either side. -/
def strip (cs : List Char) : List Char := stripWhile isBlank cs

/-- Characters at which a text breaks into lines. -/
def lineBreaks : List Char :=
  ['\n', '\r', '\x0b', '\x0c', '\x1c', '\x1d', '\x1e', '\u0085', '\u2028', '\u2029']

/-- Whether a line ends at the character. -/
def isLineBreak (c : Char) : Bool := lineBreaks.contains c

/-- The lines of a text; `current` is the line being read, in reverse. -/
def linesFrom (current : List Char) : List Char → List (List Char)
  | [] => if current.isEmpty then [] else [current.reverse]
  | '\r' :: '\n' :: rest => current.reverse :: linesFrom [] rest
  | c :: rest =>
    if isLineBreak c then current.reverse :: linesFrom [] rest else linesFrom (c :: current) rest

/-- The lines of a text without their line ends; a carriage return and a line feed end one line
together. -/
def lines (cs : List Char) : List (List Char) := linesFrom [] cs

/-- Pieces joined with a separator between neighbours. -/
def joinWith (separator : List Char) : List (List Char) → List Char
  | [] => []
  | [piece] => piece
  | piece :: rest => piece ++ separator ++ joinWith separator rest

/-- Every line end, be it a carriage return, a line feed or both in this order, as one line feed. -/
def normaliseNewlines : List Char → List Char
  | [] => []
  | '\r' :: '\n' :: rest => '\n' :: normaliseNewlines rest
  | '\r' :: rest => '\n' :: normaliseNewlines rest
  | c :: rest => c :: normaliseNewlines rest

/-- Whether `start` is the beginning of the text. -/
def startsWith (start cs : List Char) : Bool := start.isPrefixOf cs

/-- What follows `start` in a text that begins with it. -/
def dropStart? (start : List Char) (cs : List Char) : Option (List Char) :=
  if startsWith start cs then some (cs.drop start.length) else none

/-- Strings joined with a separator between neighbours. -/
def join (separator : String) : List String → String
  | [] => ""
  | [piece] => piece
  | piece :: rest => piece ++ separator ++ join separator rest

/-- The same string `n` times. -/
def repeated (n : Nat) (piece : String) : String := String.join (List.replicate n piece)

end Scaffold.Text
