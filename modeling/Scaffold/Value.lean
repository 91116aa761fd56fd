import Scaffold.Calendar
import Scaffold.Decimal.Shortest
import Scaffold.Text.Quoted

/-!
# Values of configuration files

A configuration file holds nested values. Their keys are usually texts, but need not be.

* `Value`: a value as read from a file.
* `Value.insert`: an entry put into a mapping; a key that is there already keeps its place.
-/
namespace Scaffold

/-- A value read from a file. -/
inductive Value where
  | null
  | bool (b : Bool)
  | int (i : Int)
  | float (x : Float)
  | text (s : String)
  | bytes (data : List UInt8)
  | date (d : Calendar.Date)
  | moment (t : Calendar.Moment)
  | list (items : List Value)
  | set (items : List Value)
  | pair (first second : Value)
  | mapping (entries : List (Value × Value))
  deriving Inhabited

/-- The entries of a mapping. -/
abbrev Entries := List (Value × Value)

/-- The kind of a value as named in messages. -/
def Value.kindName : Value → String
  | .null => "NoneType"
  | .bool _ => "bool"
  | .int _ => "int"
  | .float _ => "float"
  | .text _ => "str"
  | .bytes _ => "bytes"
  | .date _ => "date"
  | .moment _ => "datetime"
  | .list _ => "list"
  | .set _ => "set"
  | .pair _ _ => "tuple"
  | .mapping _ => "dict"

/-- Whether a value is absent in meaning. -/
def Value.isNull : Value → Bool
  | .null => true
  | _ => false

/-- The whole number that a double is, if it is one. -/
def wholeNumber? (x : Float) : Option Int :=
  match Decimal.Binary.ofFloat x with
  | .finite negative m q =>
    let (num, den) := Decimal.scaled m q 0
    if num % den = 0 then
      let n : Int := Int.ofNat (num / den)
      some (if negative then -n else n)
    else none
  | _ => none

/-- The whole number that a value counts as when keys are compared. -/
def Value.asInt? : Value → Option Int
  | .bool b => some (if b then 1 else 0)
  | .int i => some i
  | .float x => wholeNumber? x
  | _ => none

/-- Whether two values are the same key: numbers compare by value, whatever their kind. -/
def Value.sameKey : Value → Value → Bool
  | .null, .null => true
  | .text a, .text b => a == b
  | .bytes a, .bytes b => a == b
  | .date a, .date b => a == b
  | .moment a, .moment b => a.same b
  | .pair a b, .pair c d => a.sameKey c && b.sameKey d
  | .float x, .float y => x == y
  | a, b =>
    match a.asInt?, b.asInt? with
    | some i, some j => i == j
    | _, _ => false

/-- The value at a key. -/
def Entries.at? (entries : Entries) (key : Value) : Option Value :=
  (List.find? (fun entry => entry.1.sameKey key) entries).map Prod.snd

/-- The value at a text key. -/
def Entries.get? (entries : Entries) (key : String) : Option Value :=
  Entries.at? entries (.text key)

/-- An entry put into a mapping: the key keeps its place if it is there, else it comes last. -/
def Entries.insert (key value : Value) : Entries → Entries
  | [] => [(key, value)]
  | (k, v) :: rest =>
    if k.sameKey key then (k, value) :: rest else (k, v) :: Entries.insert key value rest

/-- An entry with a text key put into a mapping. -/
def Entries.put (entries : Entries) (key : String) (value : Value) : Entries :=
  Entries.insert (.text key) value entries

/-- A mapping with text keys. -/
def Value.record (fields : List (String × Value)) : Value :=
  .mapping (fields.map fun field => (.text field.1, field.2))

/-- A list of texts. -/
def Value.texts (items : List String) : Value := .list (items.map .text)

/-- A text or null. -/
def Value.optionalText (s : Option String) : Value := (s.map Value.text).getD .null

end Scaffold
