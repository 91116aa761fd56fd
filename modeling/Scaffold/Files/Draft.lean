import Scaffold.Files.Tree

/-!
# Drafts

A file is replaced by way of a draft: a new file beside it that only its owner may use, which gets the
mode of a new file and the bytes, and is then moved onto the target. The system draws the letters in the
name of a draft until no file has that name. A draft that cannot be moved is removed again.

* `Letters`, `Tree.draftAt`: the names of drafts.
* `Tree.create`, `Tree.setMode`, `Tree.fill`, `Tree.move`, `Tree.unlink`: what is done to one file.
* `Tree.makeDraft`: the first draft whose name is free.
* `Process.newFileMode`: reading the mask, which can only be done by setting it.
* `Process.replace`: all steps in their order.
-/
namespace Scaffold.Files

/-- The letters that the system draws from. -/
def draftAlphabet : List Char :=
  ['a', 'b', 'c', 'd', 'e', 'f', 'g', 'h', 'i', 'j', 'k', 'l', 'm', 'n', 'o', 'p', 'q', 'r', 's', 't',
    'u', 'v', 'w', 'x', 'y', 'z', '0', '1', '2', '3', '4', '5', '6', '7', '8', '9', '_']

/-- Eight letters, as the system draws them for the name of a draft. -/
abbrev Letters := Fin 8 → Fin draftAlphabet.length

/-- The letters as a text. -/
def Letters.text (letters : Letters) : String :=
  .ofList (List.ofFn fun i => draftAlphabet.get (letters i))

/-- The letters of a number: its digits to the base of the alphabet, the last one first. -/
def Letters.ofNat (n : Nat) : Letters := fun i =>
  ⟨n / Nat.pow draftAlphabet.length i.val % draftAlphabet.length, Nat.mod_lt _ (by decide)⟩

/-- How many names are tried for a draft. -/
def draftAttempts : Nat := 10000

namespace Tree

/-- The name of the draft of a file. -/
def draftName (name letters : String) : String := "." ++ name ++ "." ++ letters ++ ".tmp"

/-- The path of the draft of a target with some letters: beside it, without `..`. -/
def draftAt (directory : Location) (p : Path) (letters : String) : Path :=
  let beside := p.parent.resolved directory
  ⟨if p.anchor = .doubleRoot then .doubleRoot else .root,
    beside.names ++ [draftName p.name letters]⟩

/-- The path of the draft of a target as messages tell it, without the letters. -/
def draftPath (directory : Location) (p : Path) : Path := draftAt directory p "XXXXXXXX"

/-- A new empty file, and the place of it; nothing may stand there. -/
def create (t : Tree) (directory : Location) (p : Path) (mode : Nat) :
    Except Problem (Location × Tree) :=
  match t.parentAndName directory p with
  | .error problem => .error problem
  | .ok (_, none) => .error .alreadyThere
  | .ok (l, some name) =>
    match t.lookup (l ++ [name]) with
    | some _ => .error .alreadyThere
    | none => .ok (l ++ [name], t.set (l ++ [name]) (.file mode .empty))

/-- The file at a path with another mode. The modes of directories are not kept. -/
def setMode (t : Tree) (directory : Location) (p : Path) (mode : Nat) : Except Problem Tree :=
  match t.locate directory p with
  | .error problem => .error problem
  | .ok l =>
    match t.lookup l with
    | none => .error .missing
    | some .directory => .ok t
    | some (.file _ content) => .ok (t.set l (.file mode content))

/-- The open file at a place with other bytes. -/
def fill (t : Tree) (l : Location) (content : ByteArray) : Tree :=
  match t.lookup l with
  | some (.file mode _) => t.set l (.file mode content)
  | _ => t

/-- A file moved onto a path; a file that is there is replaced. Directories are not moved. -/
def move (t : Tree) (directory : Location) (source target : Path) : Except Problem Tree :=
  match t.locate directory source with
  | .error problem => .error problem
  | .ok place =>
    match t.lookup place with
    | none => .error .missing
    | some .directory => .error .isDirectory
    | some node =>
      match t.parentAndName directory target with
      | .error problem => .error problem
      | .ok (_, none) => .error .busy
      | .ok (l, some name) =>
        match t.lookup (l ++ [name]) with
        | some .directory => .error .isDirectory
        | _ => .ok ((t.unset place).set (l ++ [name]) node)

/-- The file system without the file at a path. -/
def unlink (t : Tree) (directory : Location) (p : Path) : Except Problem Tree :=
  match t.locate directory p with
  | .error problem => .error problem
  | .ok l =>
    match t.lookup l with
    | none => .error .missing
    | some .directory => .error .isDirectory
    | some (.file _ _) => .ok (t.unset l)

/-- The first draft of a target whose name is free, among as many draws as there are attempts: its
letters, its place, and the file system with it. Only its owner may use it. -/
def makeDraft (t : Tree) (directory : Location) (umask : Nat) (p : Path) :
    (Nat → Letters) → Nat → Except Failure (Letters × Location × Tree)
  | _, 0 => .error ⟨.noFreeName, (draftPath directory p).text, none⟩
  | draws, attempts + 1 =>
    match t.create directory (draftAt directory p (draws 0).text) (masked 0o600 umask) with
    | .ok (l, t) => .ok (draws 0, l, t)
    | .error .alreadyThere => t.makeDraft directory umask p (fun n => draws (n + 1)) attempts
    | .error problem => .error ⟨problem, (draftPath directory p).text, none⟩

end Tree

/-- What a write works on: the files, and the mask that the process keeps for new ones. -/
structure Process where
  files : Tree
  umask : Nat

namespace Process

/-- Sets the mask, and tells the one before. -/
def setUmask (s : Process) (umask : Nat) : Nat × Process := (s.umask, { s with umask := umask })

/-- The mode of a new file. The mask can only be read by setting it, so it is taken off and set again. -/
def newFileMode (s : Process) : Nat × Process :=
  let (umask, s) := s.setUmask 0
  let (_, s) := s.setUmask umask
  (Tree.newFileMode umask, s)

/-- A draft with its place given mode and bytes, and moved onto its target. -/
def publish (s : Process) (directory : Location) (draft : Path) (l : Location) (p : Path)
    (content : ByteArray) : Except Failure Unit × Process :=
  let told := Tree.draftPath directory p
  let (mode, s) := s.newFileMode
  match s.files.setMode directory draft mode with
  | .error problem => (.error ⟨problem, told.text, none⟩, s)
  | .ok t =>
    let t := t.fill l content
    match t.move directory draft p with
    | .error problem => (.error ⟨problem, told.text, some p.text⟩, { s with files := t })
    | .ok t => (.ok (), { s with files := t })

/-- Removes a draft, if it is there. -/
def discard (s : Process) (directory : Location) (draft p : Path) : Except Failure Unit × Process :=
  match s.files.exists? directory draft with
  | .error failure => (.error failure, s)
  | .ok false => (.ok (), s)
  | .ok true =>
    match s.files.unlink directory draft with
    | .error problem => (.error ⟨problem, (Tree.draftPath directory p).text, none⟩, s)
    | .ok t => (.ok (), { s with files := t })

/-- A file written as a draft beside its target and then moved onto it. What the system refuses leaves no
draft; a null character is no refusal of the system, and nothing is removed for it. -/
def replace (s : Process) (directory : Location) (draws : Nat → Letters) (p : Path)
    (content : ByteArray) : Except Failure Unit × Process :=
  match s.files.makeDraft directory s.umask p draws draftAttempts with
  | .error failure => (.error failure, s)
  | .ok (letters, l, t) =>
    let draft := Tree.draftAt directory p letters.text
    match publish { s with files := t } directory draft l p content with
    | (.ok (), s) => (.ok (), s)
    | (.error failure, s) =>
      if failure.problem = .nullCharacter then (.error failure, s)
      else match s.discard directory draft p with
        | (.error failure, s) => (.error failure, s)
        | (.ok (), s) => (.error failure, s)

end Process

end Scaffold.Files
