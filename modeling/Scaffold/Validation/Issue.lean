/-!
# What is wrong with given data

Data for a record is checked field by field, and all that is wrong is reported together.

* `Issue`: one thing that is wrong, and where.
* `Rejection`: the issues found in the data for one record.
-/
namespace Scaffold.Validation

/-- One step on the way to a part of the data: a field or the position in a list. -/
inductive Place where
  | field (name : String)
  | item (index : Int)
  deriving Repr, DecidableEq

/-- The kinds of issue. -/
inductive Flaw where
  | missing
  | notText
  | notUnicode
  | emptyText
  | notList
  | emptyList
  | notBool
  | unclearBool
  | notSetupMode
  | emptyNamespace
  | unknownField
  | notRecord (record : String)
  | noSuchField (name : String)
  | keyNotText
  deriving Repr, DecidableEq

/-- The tag of an issue. -/
def Flaw.tag : Flaw → String
  | .missing => "missing"
  | .notText => "string_type"
  | .notUnicode => "string_unicode"
  | .emptyText => "string_too_short"
  | .notList => "list_type"
  | .emptyList => "too_short"
  | .notBool => "bool_type"
  | .unclearBool => "bool_parsing"
  | .notSetupMode => "enum"
  | .emptyNamespace => "value_error"
  | .unknownField => "extra_forbidden"
  | .notRecord _ => "model_type"
  | .noSuchField _ => "no_such_attribute"
  | .keyNotText => "invalid_key"

/-- The sentence that explains an issue. -/
def Flaw.message : Flaw → String
  | .missing => "Field required"
  | .notText => "Input should be a valid string"
  | .notUnicode => "Input should be a valid string, unable to parse raw data as a unicode string"
  | .emptyText => "String should have at least 1 character"
  | .notList => "Input should be a valid list"
  | .emptyList => "List should have at least 1 item after validation, not 0"
  | .notBool => "Input should be a valid boolean"
  | .unclearBool => "Input should be a valid boolean, unable to interpret input"
  | .notSetupMode => "Input should be 'apache' or 'nginx'"
  | .emptyNamespace => "Value error, namespace must contain at least one segment."
  | .unknownField => "Extra inputs are not permitted"
  | .notRecord record => "Input should be a valid dictionary or instance of " ++ record
  | .noSuchField name => "Object has no attribute '" ++ name ++ "'"
  | .keyNotText => "Keys should be strings"

/-- One thing that is wrong, and the way to it. -/
structure Issue where
  flaw : Flaw
  location : List Place := []
  deriving Repr, DecidableEq

/-- The issue seen from one step further out. -/
def Issue.within (place : Place) (issue : Issue) : Issue :=
  { issue with location := place :: issue.location }

/-- Refused data for a record of the given name. -/
structure Rejection where
  record : String
  issues : List Issue
  deriving Repr, DecidableEq

/-- The text of a step. -/
def Place.text : Place → String
  | .field name => name
  | .item index => toString index

/-- The issues of a rejection, one after another. -/
def Rejection.message (r : Rejection) : String :=
  toString r.issues.length ++ " issue(s) for " ++ r.record ++ ": " ++
    String.intercalate "; " (r.issues.map fun issue =>
      String.intercalate "." (issue.location.map Place.text) ++ ": " ++ issue.flaw.message)

end Scaffold.Validation
