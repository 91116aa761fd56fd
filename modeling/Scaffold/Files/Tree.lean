import Scaffold.Files.Problem

/-!
# The file system

The file system is a value: for each place the directory or the file there. There are no links, and a
name has at most 255 bytes.

* `Tree.lookup`: the view through which every operation is described.
* `Tree.stat`: what a path leads to.
* `Tree.makeDirectory`, `Tree.makeDirectories`: new directories.
* `Tree.write`: a file written in place; an existing file keeps its mode.
-/
namespace Scaffold.Files

/-- What stands at a place. -/
inductive Node where
  | directory
  | file (mode : Nat) (content : ByteArray)

/-- Whether a node is a directory. -/
def Node.isDirectory : Node → Bool
  | .directory => true
  | .file _ _ => false

/-- A file system: places with what stands there. The root is always a directory. -/
structure Tree where
  entries : List (Location × Node) := []

namespace Tree

/-- What stands at a place. -/
def lookup (t : Tree) (l : Location) : Option Node :=
  if l = [] then some .directory else List.lookup l t.entries

/-- The file system with something else at a place. -/
def set (t : Tree) (l : Location) (node : Node) : Tree :=
  ⟨t.entries.filter (fun entry => entry.1 != l) ++ [(l, node)]⟩

/-- The file system without what stands at a place. -/
def unset (t : Tree) (l : Location) : Tree := ⟨t.entries.filter fun entry => entry.1 != l⟩

/-- The file system without a place and everything below it. -/
def remove (t : Tree) (l : Location) : Tree :=
  ⟨t.entries.filter fun entry => !l.isPrefixOf entry.1⟩

/-- The most bytes of a name. -/
def nameLimit : Nat := 255

/-- The most bytes of a path as a text. -/
def pathLimit : Nat := 4095

/-- Follows one name from a place. -/
def step (t : Tree) (l : Location) (name : String) : Except Problem Location :=
  match t.lookup l with
  | none => .error .missing
  | some (.file _ _) => .error .notDirectory
  | some .directory =>
    if name = ".." then .ok l.dropLast
    else if name.utf8ByteSize > nameLimit then .error .nameTooLong
    else
      match t.lookup (l ++ [name]) with
      | none => .error .missing
      | some _ => .ok (l ++ [name])

/-- Follows the names of a path from a place. -/
def walk (t : Tree) : Location → List String → Except Problem Location
  | l, [] => .ok l
  | l, name :: rest =>
    match t.step l name with
    | .ok next => t.walk next rest
    | .error problem => .error problem

/-- What any use of a path checks first. -/
def checkPath (p : Path) : Except Problem Unit :=
  if p.hasNull then .error .nullCharacter
  else if p.text.utf8ByteSize > pathLimit then .error .nameTooLong
  else .ok ()

/-- Where a path starts, as seen from a directory. -/
def start (directory : Location) (p : Path) : Location := if p.isAbsolute then [] else directory

/-- The place that a path leads to. -/
def locate (t : Tree) (directory : Location) (p : Path) : Except Problem Location :=
  match checkPath p with
  | .error problem => .error problem
  | .ok () => t.walk (start directory p) p.names

/-- What a path leads to. -/
def stat (t : Tree) (directory : Location) (p : Path) : Except Problem Node :=
  match t.locate directory p with
  | .error problem => .error problem
  | .ok l => match t.lookup l with
    | some node => .ok node
    | none => .error .missing

/-- Whether a path leads to a node of some kind; a path that leads nowhere does not. -/
def leadsTo (t : Tree) (directory : Location) (p : Path) (kind : Node → Bool) :
    Except Failure Bool :=
  match t.stat directory p with
  | .ok node => .ok (kind node)
  | .error problem => if problem.meansAbsent then .ok false else .error ⟨problem, p.text, none⟩

/-- Whether there is something at a path. -/
def exists? (t : Tree) (directory : Location) (p : Path) : Except Failure Bool :=
  t.leadsTo directory p fun _ => true

/-- Whether there is a file at a path. -/
def isFile (t : Tree) (directory : Location) (p : Path) : Except Failure Bool :=
  t.leadsTo directory p fun node => !node.isDirectory

/-- Whether there is a directory at a path. -/
def isDirectory (t : Tree) (directory : Location) (p : Path) : Except Failure Bool :=
  t.leadsTo directory p Node.isDirectory

/-- The bytes of the file at a path. -/
def contentAt (t : Tree) (directory : Location) (p : Path) : Except Failure ByteArray :=
  match t.stat directory p with
  | .ok (.file _ content) => .ok content
  | .ok .directory => .error ⟨.isDirectory, p.text, none⟩
  | .error problem => .error ⟨problem, p.text, none⟩

/-- The directory that a path names its last name in, and that name. There is no such name at the end of a
path that has none or ends in `..`. -/
def parentAndName (t : Tree) (directory : Location) (p : Path) :
    Except Problem (Location × Option String) :=
  match checkPath p with
  | .error problem => .error problem
  | .ok () =>
    match t.walk (start directory p) p.names.dropLast with
    | .error problem => .error problem
    | .ok l =>
      match t.lookup l with
      | none => .error .missing
      | some (.file _ _) => .error .notDirectory
      | some .directory =>
        match p.names.getLast? with
        | none => .ok (l, none)
        | some name =>
          if name = ".." then .ok (l, none)
          else if name.utf8ByteSize > nameLimit then .error .nameTooLong
          else .ok (l, some name)

/-- A new directory; its parent must exist. -/
def makeDirectory (t : Tree) (directory : Location) (p : Path) : Except Problem Tree :=
  match t.parentAndName directory p with
  | .error problem => .error problem
  | .ok (_, none) => .error .alreadyThere
  | .ok (l, some name) =>
    match t.lookup (l ++ [name]) with
    | some _ => .error .alreadyThere
    | none => .ok (t.set (l ++ [name]) .directory)

/-- A failed making of a directory is none if the directory is there. -/
def acceptExisting (t : Tree) (directory : Location) (p : Path) (problem : Problem) :
    Except Failure Unit :=
  if problem = .nullCharacter then .error ⟨problem, p.text, none⟩
  else match t.isDirectory directory p with
    | .ok true => .ok ()
    | .ok false => .error ⟨problem, p.text, none⟩
    | .error failure => .error failure

/-- The directory of a path, made if it is not there; `names` are the names of the path in reverse. The
directories above it are made first, and stay even if a later one fails. -/
def makeDirectoriesFrom (t : Tree) (directory : Location) (anchor : Anchor) :
    List String → Except Failure Unit × Tree
  | [] =>
    match t.makeDirectory directory ⟨anchor, []⟩ with
    | .ok t => (.ok (), t)
    | .error problem => (t.acceptExisting directory ⟨anchor, []⟩ problem, t)
  | name :: above =>
    let p : Path := ⟨anchor, (name :: above).reverse⟩
    match t.makeDirectory directory p with
    | .ok t => (.ok (), t)
    | .error .missing =>
      match t.makeDirectoriesFrom directory anchor above with
      | (.error failure, t) => (.error failure, t)
      | (.ok (), t) =>
        match t.makeDirectory directory p with
        | .ok t => (.ok (), t)
        | .error .missing => (.error ⟨.missing, p.text, none⟩, t)
        | .error problem => (t.acceptExisting directory p problem, t)
    | .error problem => (t.acceptExisting directory p problem, t)

/-- The directory of a path, made with the directories above it if they are not there. -/
def makeDirectories (t : Tree) (directory : Location) (p : Path) : Except Failure Unit × Tree :=
  t.makeDirectoriesFrom directory p.anchor p.names.reverse

/-- What a mask leaves of a mode. -/
def masked (mode umask : Nat) : Nat := mode - (mode &&& umask)

/-- The mode of a new file under a mask. -/
def newFileMode (umask : Nat) : Nat := masked 0o666 umask

/-- A file written in place; a file that is there keeps its mode. -/
def write (t : Tree) (directory : Location) (umask : Nat) (p : Path) (content : ByteArray) :
    Except Failure Tree :=
  match t.parentAndName directory p with
  | .error problem => .error ⟨problem, p.text, none⟩
  | .ok (_, none) => .error ⟨.isDirectory, p.text, none⟩
  | .ok (l, some name) =>
    match t.lookup (l ++ [name]) with
    | some .directory => .error ⟨.isDirectory, p.text, none⟩
    | some (.file mode _) => .ok (t.set (l ++ [name]) (.file mode content))
    | none => .ok (t.set (l ++ [name]) (.file (newFileMode umask) content))

end Tree

end Scaffold.Files
