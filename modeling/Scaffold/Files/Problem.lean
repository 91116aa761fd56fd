import Scaffold.Files.Path
import Scaffold.Text.Quoted

/-!
# What goes wrong with files

* `Problem`: the cause.
* `Failure`: the cause and the paths it concerns, with the wording of the operating system.
-/
namespace Scaffold.Files

/-- Why an operation on files fails. -/
inductive Problem where
  | missing
  | alreadyThere
  | notDirectory
  | isDirectory
  | nameTooLong
  | busy
  | notExecutable
  | nullCharacter
  | noFreeName
  deriving Repr, DecidableEq

/-- The number of the cause. -/
def Problem.number : Problem → Nat
  | .missing => 2
  | .alreadyThere => 17
  | .notDirectory => 20
  | .isDirectory => 21
  | .nameTooLong => 36
  | .busy => 16
  | .notExecutable => 8
  | .nullCharacter => 22
  | .noFreeName => 17

/-- The sentence of the operating system. -/
def Problem.sentence : Problem → String
  | .missing => "No such file or directory"
  | .alreadyThere => "File exists"
  | .notDirectory => "Not a directory"
  | .isDirectory => "Is a directory"
  | .nameTooLong => "File name too long"
  | .busy => "Device or resource busy"
  | .notExecutable => "Exec format error"
  | .nullCharacter => "embedded null byte"
  | .noFreeName => "No usable temporary file name found"

/-- The kind of failure as named in messages. -/
def Problem.kindName : Problem → String
  | .missing => "FileNotFoundError"
  | .alreadyThere => "FileExistsError"
  | .noFreeName => "FileExistsError"
  | .notDirectory => "NotADirectoryError"
  | .isDirectory => "IsADirectoryError"
  | .nullCharacter => "ValueError"
  | _ => "OSError"

/-- Whether a file simply is not there: looking for it is then no failure. -/
def Problem.meansAbsent : Problem → Bool
  | .missing => true
  | .notDirectory => true
  | .nullCharacter => true
  | _ => false

/-- A failed operation: the cause, the path, and the second path if there is one. -/
structure Failure where
  problem : Problem
  path : String
  target : Option String := none
  deriving Repr, DecidableEq

/-- The text shown to the user. -/
def Failure.message (f : Failure) : String :=
  match f.problem with
  | .nullCharacter => f.problem.sentence
  | .noFreeName => "[Errno " ++ toString f.problem.number ++ "] " ++ f.problem.sentence
  | problem =>
    "[Errno " ++ toString problem.number ++ "] " ++ problem.sentence ++ ": " ++ Text.quoted f.path ++
      (match f.target with
        | some target => " -> " ++ Text.quoted target
        | none => "")

end Scaffold.Files
