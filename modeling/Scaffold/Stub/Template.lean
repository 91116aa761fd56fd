import Scaffold.Text.Blank

/-!
# Templates

A template is text with holes, written as a name between doubled braces. Filling is plain replacement of
text, one name after the other.

* `render`: a template with its holes filled.
* `Template.text`: the text of a template that is given in pieces.
-/
namespace Scaffold.Stub

/-- The mark of a hole. -/
def hole (name : String) : String := "\x7b\x7b " ++ name ++ " \x7d\x7d"

/-- A text with every occurrence of `pattern` replaced, from left to right and without overlap; `skip`
characters belong to the occurrence before. -/
def replaceFrom (pattern value : List Char) (skip : Nat) : List Char → List Char
  | [] => []
  | c :: cs =>
    match skip with
    | n + 1 => replaceFrom pattern value n cs
    | 0 =>
      if Text.startsWith pattern (c :: cs) then
        value ++ replaceFrom pattern value (pattern.length - 1) cs
      else c :: replaceFrom pattern value 0 cs

/-- A text with every occurrence of a non-empty pattern replaced. -/
def replaceAll (pattern value : List Char) (cs : List Char) : List Char :=
  replaceFrom pattern value 0 cs

/-- Names of holes with the texts to put there. -/
abbrev Filling := List (String × String)

/-- The characters of a template filled name by name. -/
def renderChars (template : List Char) (filling : Filling) : List Char :=
  filling.foldl (fun text entry => replaceAll (hole entry.1).toList entry.2.toList text) template

/-- A template filled name by name, in the order given. A hole without a text stays. -/
def render (template : String) (filling : Filling) : String :=
  .ofList (renderChars template.toList filling)

/-- An entry of a filling: a name keeps its place if it is there, else it comes last. -/
def Filling.insert (name value : String) : Filling → Filling
  | [] => [(name, value)]
  | (n, v) :: rest => if n = name then (n, value) :: rest else (n, v) :: Filling.insert name value rest

/-- A filling from entries of which several may have one name. -/
def Filling.ofEntries (entries : List (String × String)) : Filling :=
  entries.foldl (fun filling entry => filling.insert entry.1 entry.2) []

/-- A piece of a template. -/
inductive Segment where
  | lines (texts : List String)
  | blank (name : String)
  deriving Repr, DecidableEq

/-- A template in pieces. -/
abbrev Template := List Segment

/-- The text of a piece: lines joined by line feeds, or the mark of a hole. -/
def Segment.text : Segment → String
  | .lines texts => Text.join "\n" texts
  | .blank name => hole name

/-- The text of a template. -/
def Template.text (t : Template) : String := String.join (t.map Segment.text)

end Scaffold.Stub
