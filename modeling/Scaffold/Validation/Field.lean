import Scaffold.Validation.Issue
import Scaffold.Value
import Scaffold.Text.Utf8

/-!
# Checking fields

A check turns a value into what a field holds, or into the issues found. Checks of several fields run
side by side, so that every issue is reported and not only the first.

* `Checked.and`: two checks side by side.
* `text`, `filledText`, `bool`, `listOf`, `optional`: the checks of single fields.
* `record`: the checks of all fields of a record, then the keys that no field has.
-/
namespace Scaffold.Validation

/-- A checked value, or everything that is wrong with it. -/
inductive Checked (α : Type) where
  | ok (value : α)
  | bad (issues : List Issue)
  deriving Repr, DecidableEq

/-- Both checks; the issues of the first come first. -/
def Checked.and {α β : Type} (f : Checked (α → β)) (x : Checked α) : Checked β :=
  match f, x with
  | .ok f, .ok a => .ok (f a)
  | .ok _, .bad later => .bad later
  | .bad first, .ok _ => .bad first
  | .bad first, .bad later => .bad (first ++ later)

/-- The checked value changed. -/
def Checked.map {α β : Type} (f : α → β) : Checked α → Checked β
  | .ok a => .ok (f a)
  | .bad issues => .bad issues

/-- A further check of the checked value. -/
def Checked.then {α β : Type} (x : Checked α) (f : α → Checked β) : Checked β :=
  match x with
  | .ok a => f a
  | .bad issues => .bad issues

/-- The same check, its issues seen from one step further out. -/
def Checked.within {α : Type} (place : Place) : Checked α → Checked α
  | .ok a => .ok a
  | .bad issues => .bad (issues.map (Issue.within place))

/-- A check that fails with one issue. -/
def Checked.flawed {α : Type} (flaw : Flaw) : Checked α := .bad [{ flaw := flaw }]

/-- A check of a value. -/
abbrev Check (α : Type) := Value → Checked α

/-- A text, or bytes that encode one. -/
def text : Check String
  | .text s => .ok s
  | .bytes data =>
    match Text.Utf8.decode data with
    | .ok cs => .ok (.ofList cs)
    | .error _ => .flawed .notUnicode
  | _ => .flawed .notText

/-- A text that is not empty. -/
def filledText : Check String := fun v =>
  (text v).then fun s => if s.isEmpty then .flawed .emptyText else .ok s

/-- What counts as false when written as a text. -/
def falseWords : List String := ["0", "off", "f", "false", "n", "no"]

/-- What counts as true when written as a text. -/
def trueWords : List String := ["1", "on", "t", "true", "y", "yes"]

/-- Whether a whole number has at most 64 bits, the sign among them. -/
def fitsWord (i : Int) : Bool := -9223372036854775808 ≤ i && i ≤ 9223372036854775807

/-- A truth value written as a whole number. -/
def boolOfInt (i : Int) : Checked Bool :=
  if i = 0 then .ok false
  else if i = 1 then .ok true
  else if fitsWord i then .flawed .unclearBool
  else .flawed .notBool

/-- A truth value written as a double: a whole one counts as the whole number, unless it is the least of
64 bits. -/
def boolOfDouble (x : Float) : Checked Bool :=
  match wholeNumber? x with
  | none => .flawed .notBool
  | some i => if i = -9223372036854775808 then .flawed .notBool else boolOfInt i

/-- A truth value written as a word, ASCII letters in either case. -/
def boolOfWord (s : String) : Checked Bool :=
  let word := s.map Char.toLower
  if falseWords.contains word then .ok false
  else if trueWords.contains word then .ok true
  else .flawed .unclearBool

/-- A truth value, or a number or a word that stands for one. -/
def bool : Check Bool
  | .bool b => .ok b
  | .int i => boolOfInt i
  | .float x => boolOfDouble x
  | .text s => boolOfWord s
  | .bytes data =>
    match Text.Utf8.decode data with
    | .ok cs => boolOfWord (.ofList cs)
    | .error _ => .flawed .unclearBool
  | _ => .flawed .notBool

/-- Every item checked, with its position. -/
def items {α : Type} (check : Check α) : Nat → List Value → Checked (List α)
  | _, [] => .ok []
  | i, v :: rest =>
    ((check v).within (.item i)).map List.cons |>.and (items check (i + 1) rest)

/-- A list of checked items. -/
def listOf {α : Type} (check : Check α) : Check (List α)
  | .list values => items check 0 values
  | _ => .flawed .notList

/-- A list of checked items that is not empty. -/
def filledListOf {α : Type} (check : Check α) : Check (List α) := fun v =>
  (listOf check v).then fun found => if found.isEmpty then .flawed .emptyList else .ok found

/-- A checked value or null. -/
def optional {α : Type} (check : Check α) : Check (Option α)
  | .null => .ok none
  | v => (check v).map some

/-- A field that must be given. -/
def required {α : Type} (name : String) (check : Check α) (entries : Entries) : Checked α :=
  match Entries.get? entries name with
  | some v => (check v).within (.field name)
  | none => (Checked.flawed .missing).within (.field name)

/-- A field with a default. -/
def given {α : Type} (name : String) (default : α) (check : Check α) (entries : Entries) :
    Checked α :=
  match Entries.get? entries name with
  | some v => (check v).within (.field name)
  | none => .ok default

/-- The step to an entry whose key is not a text: the place in a list for a whole number of at most 64 bits,
else the key as messages show it. -/
def keyPlace : Value → Place
  | .bool b => .item (if b then 1 else 0)
  | .int i => if fitsWord i then .item i else .field (toString i)
  | .null => .field "None"
  | .float x => .field (Decimal.shortest x)
  | .text s => .field s
  | .bytes data => .field (Text.quotedBytes data)
  | .date d => .field d.display
  | .moment t => .field t.display
  | v => .field v.kindName

/-- The issue of an entry that belongs to no field. -/
def entryIssue? (fields : List String) (entry : Value × Value) : Option Issue :=
  match entry.1 with
  | .text name =>
    if fields.contains name then none else some { flaw := .unknownField, location := [.field name] }
  | key => some { flaw := .keyNotText, location := [keyPlace key] }

/-- The entries that belong to no field. -/
def noStrangeEntries (fields : List String) (entries : Entries) : Checked Unit :=
  match entries.filterMap (entryIssue? fields) with
  | [] => .ok ()
  | issues => .bad issues

/-- A record: its fields from a mapping, and no other entries. -/
def record {α : Type} (name : String) (fields : List String) (check : Entries → Checked α) : Check α
  | .mapping entries =>
    ((check entries).map fun a _ => a).and (noStrangeEntries fields entries)
  | _ => .flawed (.notRecord name)

/-- The outcome of checking the data for a record. -/
def Checked.toExcept {α : Type} (name : String) : Checked α → Except Rejection α
  | .ok a => .ok a
  | .bad issues => .error ⟨name, issues⟩

/-- Why a field of a record cannot be set. -/
inductive Refusal where
  | rejected (r : Rejection)
  | readOnly (record field : String)
  deriving Repr, DecidableEq

/-- The new state of a record after a field has been set to a checked value. -/
def setField {α β : Type} (record field : String) (value : Checked α) (update : α → β) :
    Except Refusal β :=
  match value.within (.field field) with
  | .ok a => .ok (update a)
  | .bad issues => .error (.rejected ⟨record, issues⟩)

/-- The values that are derived for every record. -/
def commonDerived : List String := ["model_extra", "model_fields_set", "__fields_set__"]

/-- The refusal to set something that is not a field: derived values are read-only, and other names that
start with a low line are nobody's concern. -/
def setOther {β : Type} (record : String) (derived : List String) (state : β) (field : String) :
    Except Refusal β :=
  if (derived ++ commonDerived).contains field then .error (.readOnly record field)
  else if field.startsWith "_" then .ok state
  else .error (.rejected ⟨record, [{ flaw := .noSuchField field, location := [.field field] }]⟩)

end Scaffold.Validation
