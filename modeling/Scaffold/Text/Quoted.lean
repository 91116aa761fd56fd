import Scaffold.Text.PrintableTable

/-!
# Quoted text in messages

Messages show file names and stray lines between quotes, with hidden characters escaped, so that a
reader sees exactly which characters are meant.

* `quoted`: the text between single quotes, or double quotes if it holds single ones only.
* `quotedBytes`: bytes in the same way, with a mark in front; only ASCII is shown as it is.
-/
namespace Scaffold.Text

/-- Whether a character has no visible form. -/
def isHidden (c : Char) : Bool :=
  if c.toNat < 0x7f then c.toNat < 0x20 else hiddenRanges.covers c.toNat

/-- A number in lower-case hexadecimal, padded with zeros to `width` digits. -/
def hex (width n : Nat) : String :=
  let digits := Nat.toDigits 16 n
  String.ofList (List.replicate (width - digits.length) '0' ++ digits)

/-- A character inside the given quotes. -/
def escapeChar (quote : Char) (c : Char) : String :=
  if c = quote ∨ c = '\\' then "\\" ++ c.toString
  else if c = '\n' then "\\n"
  else if c = '\r' then "\\r"
  else if c = '\t' then "\\t"
  else if isHidden c then
    if c.toNat < 0x100 then "\\x" ++ hex 2 c.toNat
    else if c.toNat < 0x10000 then "\\u" ++ hex 4 c.toNat
    else "\\U" ++ hex 8 c.toNat
  else c.toString

/-- The quotes around a text: single ones, unless it holds single ones and no double ones. -/
def quoteFor (cs : List Char) : Char := if cs.contains '\'' && !cs.contains '"' then '"' else '\''

/-- A text between quotes, hidden characters escaped. -/
def quoted (s : String) : String :=
  let cs := s.toList
  let quote := quoteFor cs
  quote.toString ++ String.join (cs.map (escapeChar quote)) ++ quote.toString

/-- A byte inside the given quotes. -/
def escapeByte (quote : Char) (c : Char) : String :=
  if c.toNat < 0x80 then escapeChar quote c else "\\x" ++ hex 2 c.toNat

/-- Bytes between quotes, all but visible ASCII escaped. -/
def quotedBytes (data : List UInt8) : String :=
  let cs := data.map fun b => Char.ofNat b.toNat
  let quote := quoteFor cs
  "b" ++ quote.toString ++ String.join (cs.map (escapeByte quote)) ++ quote.toString

end Scaffold.Text
