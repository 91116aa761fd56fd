import Scaffold.CommandLine.Word

/-!
# What a command line asks for

* `Choices.read`: the options and the schema file of a command line.

Options take effect in the order in which they are given. Help and version end the reading where they
stand, so that what follows is not looked at, except that no long option may be ambiguous.
-/
namespace Scaffold.CommandLine

/-- What was given to an option: a text, or nothing where `--` stood for it. -/
inductive Given where
  | text (s : String)
  | nothing
  deriving Repr, DecidableEq

/-- What an argument gives to its option. -/
def Given.ofArgument (argument : String) : Given := if argument = "--" then .nothing else .text argument

/-- The text that was given, if one was. -/
def Given.text? : Given → Option String
  | .text s => some s
  | .nothing => none

/-- What the options ask for. -/
structure Choices where
  controller : Bool := false
  setup : Option SetupMode := none
  projectRoot : Option String := none
  config : Option String := none
  stubs : Option Given := none
  rootNamespace : Option Given := none
  noInstall : Bool := false
  dryRun : Bool := false
  verbosity : Nat := 0
  quiet : Bool := false
  deriving Repr, DecidableEq

/-- What ends a run before it begins. -/
inductive Stop where
  | help
  | version
  | misuse (m : Misuse)
  deriving Repr, DecidableEq

/-- What has been read so far. -/
structure Reading where
  choices : Choices := {}
  schema : Option String := none
  leftOver : List String := []
  deriving Repr, DecidableEq

namespace Reading

/-- Changes the choices. -/
def choose (r : Reading) (f : Choices → Choices) : Reading := { r with choices := f r.choices }

/-- Leaves a word over. -/
def leave (r : Reading) (word : String) : Reading := { r with leftOver := r.leftOver ++ [word] }

/-- The effect of an option without an argument. -/
def takeBare (r : Reading) (switch : Switch) : Except Stop Reading :=
  match switch with
  | .help => .error .help
  | .version => .error .version
  | .controller => .ok (r.choose fun c => { c with controller := true })
  | .setup => .ok (r.choose fun c => { c with setup := some .apache })
  | .noInstall => .ok (r.choose fun c => { c with noInstall := true })
  | .dryRun => .ok (r.choose fun c => { c with dryRun := true })
  | .verbose => .ok (r.choose fun c => { c with verbosity := c.verbosity + 1 })
  | .quiet => .ok (r.choose fun c => { c with quiet := true })
  | _ => .error (.misuse (.needsArgument switch))

/-- The setup mode of an argument, the first one if nothing is given. -/
def setupMode : Given → Except Misuse SetupMode
  | .nothing => .ok .apache
  | .text name =>
    match SetupMode.ofName? name with
    | some mode => .ok mode
    | none => .error (.notSetupMode name)

/-- The effect of an option with an argument. -/
def takeWith (r : Reading) (switch : Switch) (argument : String) : Except Stop Reading :=
  let given := Given.ofArgument argument
  match switch with
  | .setup =>
    match setupMode given with
    | .ok mode => .ok (r.choose fun c => { c with setup := some mode })
    | .error m => .error (.misuse m)
  | .projectRoot => .ok (r.choose fun c => { c with projectRoot := given.text? })
  | .config => .ok (r.choose fun c => { c with config := given.text? })
  | .stubs => .ok (r.choose fun c => { c with stubs := some given })
  | .rootNamespace => .ok (r.choose fun c => { c with rootNamespace := some given })
  | _ => .error (.misuse (.takesNoArgument switch argument))

/-- The options of a word of letters. No letter takes an argument, so that what follows a letter must be
letters of options as well. -/
def lettersOf (switch : Switch) : List Char → Except Misuse (List Switch)
  | [] => .ok [switch]
  | c :: rest =>
    match Switch.ofName? (.ofList ['-', c]) with
    | some next => (lettersOf next rest).map (switch :: ·)
    | none => .error (.takesNoArgument switch (.ofList (c :: rest)))

/-- The effect of a word of letters: of none of them, unless all are letters of options. -/
def takeLetters (r : Reading) (switch : Switch) (rest : List Char) : Except Stop Reading :=
  match lettersOf switch rest with
  | .error m => .error (.misuse m)
  | .ok switches => switches.foldlM takeBare r

/-- Reads words. The first operand that belongs to no option is the schema file; `--` next to it is
dropped. -/
def readWords (r : Reading) : List Word → Except Stop Reading
  | [] => .ok r
  | .operand s :: rest =>
    match r.schema, rest with
    | none, .ending :: rest => readWords { r with schema := some s } rest
    | none, rest => readWords { r with schema := some s } rest
    | some _, rest => readWords (r.leave s) rest
  | .ending :: rest =>
    match r.schema, rest with
    | none, .operand s :: rest => readWords { r with schema := some s } rest
    | _, rest => readWords (r.leave "--") rest
  | .strange s :: rest => readWords (r.leave s) rest
  | .letters switch cs :: rest =>
    match r.takeLetters switch cs with
    | .ok r => readWords r rest
    | .error stop => .error stop
  | .option switch (some argument) :: rest =>
    match r.takeWith switch argument with
    | .ok r => readWords r rest
    | .error stop => .error stop
  | .option switch none :: rest =>
    match switch.arity, rest with
    | .optional, .operand s :: rest =>
      match r.takeWith switch s with
      | .ok r => readWords r rest
      | .error stop => .error stop
    | .one, .operand s :: rest =>
      match r.takeWith switch s with
      | .ok r => readWords r rest
      | .error stop => .error stop
    | _, rest =>
      match r.takeBare switch with
      | .ok r => readWords r rest
      | .error stop => .error stop

/-- The outcome of a reading: the schema file must be there, and nothing may be left over. -/
def outcome (r : Reading) : Except Stop (Choices × String) :=
  match r.schema, r.leftOver with
  | none, _ => .error (.misuse .noSchema)
  | some schema, [] => .ok (r.choices, schema)
  | some _, words => .error (.misuse (.leftOver words))

end Reading

/-- The options and the schema file of a command line. -/
def Choices.read (arguments : List String) : Except Stop (Choices × String) :=
  match words arguments with
  | .error m => .error (.misuse m)
  | .ok words =>
    match Reading.readWords {} words with
    | .error stop => .error stop
    | .ok r => r.outcome

end Scaffold.CommandLine
