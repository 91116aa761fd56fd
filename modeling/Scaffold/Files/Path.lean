/-!
# Paths

A path is a list of names, absolute or relative. Empty names and `.` are dropped when a path is read;
`..` is kept, because it can only be followed where the directory before it exists.

* `Path.ofString`, `Path.text`: reading and writing.
* `Path.join`: a path below another one; an absolute path stands for itself.
* `Path.resolved`: the absolute path without `..`.
-/
namespace Scaffold.Files

/-- Where a path starts. Two slashes in front are kept, one or more than two are written as one. -/
inductive Anchor where
  | relative
  | root
  | doubleRoot
  deriving Repr, DecidableEq

/-- The text of a start. -/
def Anchor.text : Anchor → String
  | .relative => ""
  | .root => "/"
  | .doubleRoot => "//"

/-- A path: where it starts and the names that follow. -/
structure Path where
  anchor : Anchor
  names : List String
  deriving Repr, DecidableEq

/-- A place in the file system: the names from the root on. -/
abbrev Location := List String

/-- The pieces of a text between slashes. -/
def splitSlash : List Char → List (List Char)
  | [] => [[]]
  | c :: cs =>
    if c = '/' then [] :: splitSlash cs
    else match splitSlash cs with
      | [] => [[c]]
      | piece :: rest => (c :: piece) :: rest

/-- The names of a path. -/
def namesOf (cs : List Char) : List String :=
  (splitSlash cs).filterMap fun piece =>
    if piece.isEmpty ∨ piece = ['.'] then none else some (.ofList piece)

namespace Path

/-- Where a path given as text starts. -/
def anchorOf (cs : List Char) : Anchor :=
  match (cs.takeWhile (· == '/')).length with
  | 0 => .relative
  | 2 => .doubleRoot
  | _ => .root

/-- The path of a text. -/
def ofString (s : String) : Path := ⟨anchorOf s.toList, namesOf s.toList⟩

/-- The path of a place. -/
def ofLocation (l : Location) : Path := ⟨.root, l⟩

/-- The text of a path; a relative path without names is written as a point. -/
def text (p : Path) : String :=
  let s := p.anchor.text ++ String.intercalate "/" p.names
  if s.isEmpty then "." else s

/-- Whether a path starts at the root. -/
def isAbsolute (p : Path) : Bool := p.anchor != .relative

/-- A path below another one; an absolute path stands for itself. -/
def append (base p : Path) : Path :=
  if p.isAbsolute then p else { base with names := base.names ++ p.names }

/-- A path, given as text, below another one. -/
def join (base : Path) (s : String) : Path := base.append (ofString s)

/-- The path without its last name. -/
def parent (p : Path) : Path := { p with names := p.names.dropLast }

/-- The last name, or nothing. -/
def name (p : Path) : String := p.names.getLast?.getD ""

/-- The last name from its last point on, if there is text on both sides of the point. -/
def extension (p : Path) : List Char :=
  let cs := p.name.toList
  let after := (cs.reverse.takeWhile (· != '.')).reverse
  if after.isEmpty ∨ cs.length ≤ after.length + 1 then [] else '.' :: after

/-- One name followed without looking at the file system. -/
def follow (l : Location) (name : String) : Location :=
  if name = ".." then l.dropLast else l ++ [name]

/-- The absolute path without `..`, as seen from a directory. -/
def resolved (p : Path) (directory : Location) : Path :=
  .ofLocation (p.names.foldl follow (if p.isAbsolute then [] else directory))

/-- Whether a path holds a null character, which no file name can. -/
def hasNull (p : Path) : Bool := p.names.any fun name => name.toList.contains '\x00'

end Path

end Scaffold.Files
