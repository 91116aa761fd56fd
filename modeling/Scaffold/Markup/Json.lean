import Scaffold.Markup.Number

/-!
# JSON

* `Json.read`: the value of a JSON text. Of several members with one key the last counts.
* `quote`, `bracket`: the parts from which JSON text is written, indented or on one line.
-/
namespace Scaffold.Markup.Json

/-- What a reader answers: a result and the rest of the text. -/
abbrev Read (α : Type) := Except Fault (α × List Char)

/-- Refuses the text. -/
def refuse {α : Type} (detail : String) : Except Fault α := .error (.malformed detail)

/-- Whether a character may stand between values. -/
def isSpace (c : Char) : Bool := c == ' ' || c == '\t' || c == '\n' || c == '\r'

/-- The text without spaces at its start. -/
def skipSpaces (cs : List Char) : List Char := cs.dropWhile isSpace

/-- Four hexadecimal digits. -/
def hex4? : List Char → Option (Nat × List Char)
  | a :: b :: c :: d :: rest =>
    if [a, b, c, d].all fun x => digitValue x < 16 then some (natOfDigits 16 [a, b, c, d], rest)
    else none
  | _ => none

/-- The character that a short escape stands for. -/
def shortEscape? : Char → Option Char
  | '"' => some '"'
  | '\\' => some '\\'
  | '/' => some '/'
  | 'b' => some '\x08'
  | 'f' => some '\x0c'
  | 'n' => some '\n'
  | 'r' => some '\r'
  | 't' => some '\t'
  | _ => none

/-- The second half of a pair of escapes, if one follows. -/
def lowHalf? : List Char → Option (Nat × List Char)
  | '\\' :: 'u' :: rest =>
    match hex4? rest with
    | some (n, rest) => if 0xdc00 ≤ n ∧ n ≤ 0xdfff then some (n, rest) else none
    | none => none
  | _ => none

/-- The rest of a text in quotes; `done` holds the characters before, in reverse. -/
def readText (done : List Char) : Nat → List Char → Read String
  | 0, _ => refuse "unterminated string"
  | _, [] => refuse "unterminated string"
  | fuel + 1, c :: cs =>
    if c = '"' then .ok (.ofList done.reverse, cs)
    else if c = '\\' then
      match cs with
      | 'u' :: rest =>
        match hex4? rest with
        | none => refuse "invalid escape"
        | some (n, rest) =>
          if 0xd800 ≤ n ∧ n ≤ 0xdbff then
            match lowHalf? rest with
            | some (m, rest) =>
              readText (Char.ofNat (0x10000 + (n - 0xd800) * 0x400 + (m - 0xdc00)) :: done) fuel rest
            | none => readText ('\ufffd' :: done) fuel rest
          else if 0xdc00 ≤ n ∧ n ≤ 0xdfff then readText ('\ufffd' :: done) fuel rest
          else readText (Char.ofNat n :: done) fuel rest
      | e :: rest =>
        match shortEscape? e with
        | some d => readText (d :: done) fuel rest
        | none => refuse "invalid escape"
      | [] => refuse "unterminated string"
    else if c.toNat < 0x20 then refuse "control character in string"
    else readText (c :: done) fuel cs

/-- The exponent of a number, if one follows. -/
def exponent? : List Char → Option (Int × List Char)
  | e :: cs =>
    if e = 'e' ∨ e = 'E' then
      let (negative, cs) : Bool × List Char :=
        match cs with
        | '-' :: rest => (true, rest)
        | '+' :: rest => (false, rest)
        | _ => (false, cs)
      match cs.span Char.isDigit with
      | ([], _) => none
      | (digits, rest) =>
        let n := Int.ofNat (natOfDigits 10 (digits.dropWhile (· == '0') |>.take 20))
        some (if negative then -n else n, rest)
    else none
  | [] => none

/-- The fraction of a number, if one follows. -/
def fraction? : List Char → Option (List Char × List Char)
  | '.' :: cs =>
    match cs.span Char.isDigit with
    | ([], _) => none
    | found => some found
  | _ => none

/-- A number without its sign. -/
def readNumber (negative : Bool) (cs : List Char) : Read Value :=
  let (whole, rest) : List Char × List Char :=
    match cs with
    | '0' :: rest => (['0'], rest)
    | _ => cs.span Char.isDigit
  if whole.isEmpty then refuse "value expected"
  else
    match fraction? rest, exponent? ((fraction? rest).map Prod.snd |>.getD rest) with
    | none, none =>
      match decimal whole with
      | .ok n => .ok (.int (if negative then -(Int.ofNat n) else Int.ofNat n), rest)
      | .error flaw => .error (.unreadable flaw)
    | some (fraction, rest), none => .ok (.float (doubleOf negative whole fraction 0), rest)
    | some (fraction, _), some (e, rest) => .ok (.float (doubleOf negative whole fraction e), rest)
    | none, some (e, rest) => .ok (.float (doubleOf negative whole [] e), rest)

/-- The words that are values. -/
def words : List (String × Value) :=
  [("null", .null), ("true", .bool true), ("false", .bool false), ("NaN", .float (0.0 / 0.0)),
    ("Infinity", .float (1.0 / 0.0)), ("-Infinity", .float (-1.0 / 0.0))]

/-- A word at the start of a text. -/
def word? (cs : List Char) : Option (Value × List Char) :=
  words.findSome? fun entry =>
    if entry.1.toList.isPrefixOf cs then some (entry.2, cs.drop entry.1.length) else none

/-- A value that is not a list or mapping. -/
def readScalar (cs : List Char) : Read Value :=
  match word? cs with
  | some found => .ok found
  | none =>
    match cs with
    | '"' :: rest => (readText [] (rest.length + 1) rest).map fun (s, rest) => (.text s, rest)
    | '-' :: rest => readNumber true rest
    | _ => readNumber false cs

/-- How many collections may stand inside of each other. -/
def depthLimit : Nat := 988

/-- Refuses a collection inside of too many others. -/
def tooDeep {α : Type} (collection : String) : Except Fault α :=
  .error (.unreadable (.tooDeep (" while decoding a JSON " ++ collection ++ " from a unicode string")))

mutual

/-- A value inside of `depth` collections; spaces before it are not expected. -/
def readValue (depth : Nat) : Nat → List Char → Read Value
  | 0, _ => refuse "expected a value"
  | fuel + 1, cs =>
    match cs with
    | '[' :: rest =>
      if depthLimit ≤ depth then tooDeep "array"
      else
        match skipSpaces rest with
        | ']' :: rest => .ok (.list [], rest)
        | rest => (readItems (depth + 1) fuel rest).map fun (items, rest) => (.list items, rest)
    | '\x7b' :: rest =>
      if depthLimit ≤ depth then tooDeep "object"
      else
        match skipSpaces rest with
        | '\x7d' :: rest => .ok (.mapping [], rest)
        | rest =>
          (readMembers (depth + 1) fuel [] rest).map fun (entries, rest) => (.mapping entries, rest)
    | _ => readScalar cs

/-- The items of a list, at least one. -/
def readItems (depth : Nat) : Nat → List Char → Read (List Value)
  | 0, _ => refuse "expected a value"
  | fuel + 1, cs =>
    match readValue depth fuel cs with
    | .error e => .error e
    | .ok (item, rest) =>
      match skipSpaces rest with
      | ',' :: rest =>
        (readItems depth fuel (skipSpaces rest)).map fun (items, rest) => (item :: items, rest)
      | ']' :: rest => .ok ([item], rest)
      | _ => refuse "',' or ']' expected"

/-- The members of a mapping, at least one, added to those before. -/
def readMembers (depth : Nat) : Nat → Entries → List Char → Read Entries
  | 0, _, _ => refuse "expected a member"
  | fuel + 1, entries, cs =>
    match cs with
    | '"' :: rest =>
      match readText [] (rest.length + 1) rest with
      | .error e => .error e
      | .ok (key, rest) =>
        match skipSpaces rest with
        | ':' :: rest =>
          match readValue depth fuel (skipSpaces rest) with
          | .error e => .error e
          | .ok (value, rest) =>
            let entries := Entries.put entries key value
            match skipSpaces rest with
            | ',' :: rest => readMembers depth fuel entries (skipSpaces rest)
            | '\x7d' :: rest => .ok (entries, rest)
            | _ => refuse "',' or a closing brace expected"
        | _ => refuse "':' expected"
    | _ => refuse "a key in quotes expected"

end

/-- The value of a JSON text. -/
def read (cs : List Char) : Except Fault Value :=
  match readValue 0 (2 * cs.length + 2) (skipSpaces cs) with
  | .error e => .error e
  | .ok (value, rest) => if (skipSpaces rest).isEmpty then .ok value else refuse "text after the value"

/-- A character inside quotes. -/
def escapeChar (c : Char) : List Char :=
  if c = '"' then ['\\', '"']
  else if c = '\\' then ['\\', '\\']
  else if c = '\n' then ['\\', 'n']
  else if c = '\r' then ['\\', 'r']
  else if c = '\t' then ['\\', 't']
  else if c = '\x08' then ['\\', 'b']
  else if c = '\x0c' then ['\\', 'f']
  else if c.toNat < 0x20 then
    let digits := Nat.toDigits 16 c.toNat
    ['\\', 'u'] ++ List.replicate (4 - digits.length) '0' ++ digits
  else [c]

/-- A text in quotes. Only quotes, backslashes and control characters are escaped. -/
def quote (s : String) : String := "\"" ++ .ofList (s.toList.flatMap escapeChar) ++ "\""

/-- How a text is laid out: on one line, or with this many spaces for each level. -/
abbrev Indent := Option Nat

/-- What stands before an item at some level, and before the closing bracket. -/
def lineStart (indent : Indent) (level : Nat) : String :=
  match indent with
  | some n => "\n" ++ .ofList (List.replicate (n * level) ' ')
  | none => ""

/-- Written items between brackets. -/
def bracket (indent : Indent) (level : Nat) (opening closing : String) (items : List String) : String :=
  match items with
  | [] => opening ++ closing
  | _ =>
    let separator := if indent.isSome then "," ++ lineStart indent (level + 1) else ", "
    opening ++ lineStart indent (level + 1) ++ String.intercalate separator items ++
      lineStart indent level ++ closing

end Scaffold.Markup.Json
