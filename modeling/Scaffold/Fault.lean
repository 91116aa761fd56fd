import Scaffold.Files.Problem
import Scaffold.Markup.Number
import Scaffold.Schema.Reason
import Scaffold.Text.Utf8
import Scaffold.Validation.Issue

/-!
# How a run can fail

The failures that end an operation, by cause, and their texts.
-/
namespace Scaffold

/-- The text of a malformed byte sequence. -/
def Text.Utf8.Malformed.message (m : Text.Utf8.Malformed) : String :=
  "'utf-8' codec can't decode " ++
    (if m.length = 1 then
      "byte 0x" ++ Text.hex 2 m.byte.toNat ++ " in position " ++ toString m.position
    else
      "bytes in position " ++ toString m.position ++ "-" ++ toString (m.position + m.length - 1)) ++
    ": " ++ m.flaw.reason

/-- Why a text file cannot be read. -/
inductive ReadFailure where
  | file (failure : Files.Failure)
  | undecodable (malformed : Text.Utf8.Malformed)
  deriving Repr, DecidableEq

/-- The text of a failed reading. -/
def ReadFailure.message : ReadFailure → String
  | .file failure => failure.message
  | .undecodable malformed => malformed.message

/-- The kind of a failed reading as named in messages. -/
def ReadFailure.kindName : ReadFailure → String
  | .file failure => failure.problem.kindName
  | .undecodable _ => "UnicodeDecodeError"

/-- The formats of configuration files. -/
inductive ConfigFormat where
  | json
  | yaml
  deriving Repr, DecidableEq

/-- The name of a format. -/
def ConfigFormat.name : ConfigFormat → String
  | .json => "JSON"
  | .yaml => "YAML"

/-- What a format calls a mapping. -/
def ConfigFormat.mappingName : ConfigFormat → String
  | .json => "object"
  | .yaml => "mapping"

/-- Why the settings cannot be put together. -/
inductive ConfigError where
  | notFound (path : String)
  | unreadable (path : String) (failure : ReadFailure)
  | malformed (format : ConfigFormat) (path detail : String)
  | notMapping (format : ConfigFormat) (path kind : String)
  | invalid (rejection : Validation.Rejection)
  deriving Repr, DecidableEq

/-- The text shown to the user. -/
def ConfigError.message : ConfigError → String
  | .notFound path => "Config file not found: " ++ path
  | .unreadable path failure => "Cannot read " ++ path ++ ": " ++ failure.message
  | .malformed format path detail => "Invalid " ++ format.name ++ " in " ++ path ++ ": " ++ detail
  | .notMapping format path kind =>
    "Expected a " ++ format.name ++ " " ++ format.mappingName ++ " at top level of " ++ path ++
      ", got " ++ kind ++ "."
  | .invalid rejection => "Invalid configuration: " ++ rejection.message

/-- A stub that is in neither place where it was looked for. -/
structure MissingStub where
  stub : String
  searched : String
  deriving Repr, DecidableEq

/-- The text shown to the user. -/
def MissingStub.message (m : MissingStub) : String :=
  "Template stub '" ++ m.stub ++ "' not found in " ++ m.searched

/-- The failures that end an operation. -/
inductive Fault where
  | schema (error : SchemaError)
  | stub (missing : MissingStub)
  | config (error : ConfigError)
  | rejected (rejection : Validation.Rejection)
  | read (failure : ReadFailure)
  | value (flaw : Markup.Unreadable)
  | noPath
  deriving Repr, DecidableEq

/-- The failure of an operation on files. -/
def Fault.file (failure : Files.Failure) : Fault := .read (.file failure)

/-- The text shown to the user. -/
def Fault.message : Fault → String
  | .schema error => error.message
  | .stub missing => missing.message
  | .config error => error.message
  | .rejected rejection => rejection.message
  | .read failure => failure.message
  | .value flaw => flaw.message
  | .noPath => "expected str, bytes or os.PathLike object, not list"

end Scaffold
