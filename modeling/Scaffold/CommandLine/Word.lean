import Scaffold.CommandLine.Switch
import Scaffold.Text.Digit

/-!
# Words of a command line

A word is an option, several options given by letters, or an operand. After the word `--` everything is an
operand. A long option may be cut short as long as only one option begins that way.

* `Word.ofString`: what a single word is.
* `words`: what all words are.
-/
namespace Scaffold.CommandLine

/-- A word of a command line. -/
inductive Word where
  /-- A file name or the argument of an option. -/
  | operand (text : String)
  /-- The word after which there are no options. -/
  | ending
  /-- A long option, with its argument if one was given in the same word. -/
  | option (switch : Switch) (argument : Option String)
  /-- A short option and the letters after it. -/
  | letters (switch : Switch) (rest : List Char)
  /-- A word that looks like an option and is none. -/
  | strange (text : String)
  deriving Repr, DecidableEq

/-- Whether a text is a negative number; a line feed at its end does not count. -/
def isNegativeNumber (cs : List Char) : Bool :=
  let cs := if cs.getLast? = some '\n' then cs.dropLast else cs
  match cs with
  | '-' :: number =>
    match number.dropWhile Text.isDigit with
    | [] => !number.isEmpty
    | '.' :: fraction => !fraction.isEmpty && fraction.all Text.isDigit
    | _ => false
  | _ => false

/-- A word that begins like an option and is none: a negative number and a text with a space are
operands. -/
def notOption (s : String) : Word :=
  if isNegativeNumber s.toList || s.toList.contains ' ' then .operand s else .strange s

/-- The spelling of a long option, and the argument given with it. -/
def splitArgument (s : String) : String × Option String :=
  match s.toList.span (· != '=') with
  | (name, '=' :: argument) => (.ofList name, some (.ofList argument))
  | _ => (s, none)

/-- A word that begins with two hyphens. -/
def Word.ofLong (s : String) : Except Misuse Word :=
  let (name, argument) := splitArgument s
  match Switch.ofName? name with
  | some switch => .ok (.option switch argument)
  | none =>
    match Switch.completions name with
    | [] => .ok (notOption s)
    | [(_, switch)] => .ok (.option switch argument)
    | candidates => .error (.ambiguous s (candidates.map Prod.fst))

/-- A word that begins with the letter of an option. An equals sign after the letter is dropped, unless
nothing follows it: then the option is given an empty argument. -/
def Word.ofLetters (switch : Switch) : List Char → Word
  | ['='] => .option switch (some "")
  | '=' :: rest => .letters switch rest
  | rest => .letters switch rest

/-- What a word is. -/
def Word.ofString (s : String) : Except Misuse Word :=
  match s.toList with
  | '-' :: '-' :: _ => Word.ofLong s
  | '-' :: c :: rest =>
    match Switch.ofName? (.ofList ['-', c]) with
    | some switch => .ok (.ofLetters switch rest)
    | none => .ok (notOption s)
  | _ => .ok (.operand s)

/-- What the words of a command line are. -/
def words : List String → Except Misuse (List Word)
  | [] => .ok []
  | s :: rest =>
    if s = "--" then .ok (.ending :: rest.map .operand)
    else do
      let word ← Word.ofString s
      return word :: (← words rest)

end Scaffold.CommandLine
