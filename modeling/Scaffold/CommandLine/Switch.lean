import Scaffold.Settings.Basic
import Scaffold.Text.Quoted

/-!
# Options of the command line

* `Switch`: the options, their spellings, and whether an argument follows.
* `Misuse`: what can be wrong with a command line.
-/
namespace Scaffold.CommandLine

/-- The options. -/
inductive Switch where
  | help
  | version
  | controller
  | setup
  | projectRoot
  | config
  | stubs
  | rootNamespace
  | noInstall
  | dryRun
  | verbose
  | quiet
  deriving Repr, DecidableEq

/-- Whether an argument belongs to an option. -/
inductive Arity where
  | none
  | optional
  | one
  deriving Repr, DecidableEq

namespace Switch

/-- Every option, in the order of the help text. -/
def all : List Switch :=
  [.help, .version, .controller, .setup, .projectRoot, .config, .stubs, .rootNamespace, .noInstall,
    .dryRun, .verbose, .quiet]

/-- The spellings of an option. -/
def names : Switch → List String
  | .help => ["-h", "--help"]
  | .version => ["--version"]
  | .controller => ["--controller"]
  | .setup => ["--setup"]
  | .projectRoot => ["--project-root"]
  | .config => ["--config"]
  | .stubs => ["--stubs"]
  | .rootNamespace => ["--namespace"]
  | .noInstall => ["--no-install"]
  | .dryRun => ["--dry-run"]
  | .verbose => ["-v", "--verbose"]
  | .quiet => ["-q", "--quiet"]

/-- Whether an argument belongs to an option. -/
def arity : Switch → Arity
  | .setup => .optional
  | .projectRoot => .one
  | .config => .one
  | .stubs => .one
  | .rootNamespace => .one
  | _ => .none

/-- The option as named in messages. -/
def label (s : Switch) : String := String.intercalate "/" s.names

/-- Every spelling with its option. -/
def spellings : List (String × Switch) := all.flatMap fun s => s.names.map fun name => (name, s)

/-- The option of a spelling. -/
def ofName? (name : String) : Option Switch := List.lookup name spellings

/-- The spellings that begin with a text. -/
def completions (start : String) : List (String × Switch) :=
  spellings.filter fun entry => start.toList.isPrefixOf entry.1.toList

end Switch

/-- What can be wrong with a command line. -/
inductive Misuse where
  | ambiguous (given : String) (candidates : List String)
  | needsArgument (switch : Switch)
  | takesNoArgument (switch : Switch) (argument : String)
  | notSetupMode (argument : String)
  | noSchema
  | leftOver (words : List String)
  deriving Repr, DecidableEq

/-- The text shown to the user. -/
def Misuse.message : Misuse → String
  | .ambiguous given candidates =>
    "ambiguous option: " ++ given ++ " could match " ++ String.intercalate ", " candidates
  | .needsArgument switch => "argument " ++ switch.label ++ ": expected one argument"
  | .takesNoArgument switch argument =>
    "argument " ++ switch.label ++ ": ignored explicit argument " ++ Text.quoted argument
  | .notSetupMode argument =>
    "argument " ++ Switch.setup.label ++ ": invalid choice: " ++ Text.quoted argument ++
      " (choose from " ++ String.intercalate ", " (SetupMode.all.map fun mode => Text.quoted mode.name) ++
      ")"
  | .noSchema => "the following arguments are required: SQL_FILE"
  | .leftOver words => "unrecognized arguments: " ++ String.intercalate " " words

end Scaffold.CommandLine
