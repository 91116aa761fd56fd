import Scaffold.Markup.Number

/-!
# The kinds of YAML nodes

A node has a kind: by its tag, or else by its form and its text. A scalar without quotes may be a null, a
truth value, a number or a time; everything else is a text.

* `Kind.ofTag`: the kind that a tag gives.
* `Kind.ofPlain`: the kind of a plain scalar.
* `timestamp?`: the parts of a point in time.
-/
namespace Scaffold.Markup.Yaml

/-- The kinds of node. A merge key stands for entries of other mappings, a default key for a scalar in
place of its mapping. -/
inductive Kind where
  | null
  | bool
  | int
  | float
  | bytes
  | timestamp
  | text
  | merge
  | default
  | list
  | pairs
  | mapping
  | set
  | unknown
  deriving Repr, DecidableEq, Inhabited

/-- The beginning of standard tags. -/
def standardTag : String := "tag:yaml.org,2002:"

/-- The kinds with a standard tag, by the end of that tag. -/
def standardKinds : List (String × Kind) :=
  [("null", .null), ("bool", .bool), ("int", .int), ("float", .float), ("binary", .bytes),
    ("timestamp", .timestamp), ("str", .text), ("merge", .merge), ("value", .default), ("seq", .list),
    ("omap", .pairs), ("pairs", .pairs), ("map", .mapping), ("set", .set)]

/-- The kind that a tag gives. -/
def Kind.ofTag (tag : String) : Kind :=
  match Text.dropStart? standardTag.toList tag.toList with
  | some name => (standardKinds.lookup (.ofList name)).getD .unknown
  | none => .unknown

/-- Whether a node of some kind holds others, so that its value cannot be a key. -/
def Kind.isCollection : Kind → Bool
  | .list => true
  | .pairs => true
  | .mapping => true
  | .set => true
  | _ => false

/-- The words for true. -/
def yesWords : List String := ["yes", "true", "on"]

/-- The words for false. -/
def noWords : List String := ["no", "false", "off"]

/-- The spellings of a word: in lower case, capitalised, in upper case. -/
def spellings (word : String) : List String := [word, word.capitalize, word.map Char.toUpper]

/-! ## Numbers -/

/-- Without a sign in front. -/
def unsigned (cs : List Char) : List Char := (splitSign cs).2

/-- Whether a character is a decimal digit or a low line. -/
def isDigitOrLine (c : Char) : Bool := c.isDigit || c == '_'

/-- Whether a text is one or two digits below sixty. -/
def isSixtieth : List Char → Bool
  | [a] => a.isDigit
  | [a, b] => '0' ≤ a && a ≤ '5' && b.isDigit
  | _ => false

/-- The pieces of a text between colons. -/
def splitColon : List Char → List (List Char)
  | [] => [[]]
  | c :: cs =>
    if c = ':' then [] :: splitColon cs
    else match splitColon cs with
      | [] => [[c]]
      | piece :: rest => (c :: piece) :: rest

/-- Whether a text is a digit and then digits and low lines. -/
def isDigits : List Char → Bool
  | c :: cs => c.isDigit && cs.all isDigitOrLine
  | [] => false

/-- Whether a plain scalar is a whole number: binary, octal, decimal, hexadecimal or of base sixty. -/
def isInt (cs : List Char) : Bool :=
  match unsigned cs with
  | '0' :: 'b' :: digits => !digits.isEmpty && digits.all fun c => c == '0' || c == '1' || c == '_'
  | '0' :: 'x' :: digits => !digits.isEmpty && digits.all fun c => digitValue c < 16 || c == '_'
  | '0' :: digits => digits.all fun c => '0' ≤ c && c ≤ '7' || c == '_'
  | c :: rest =>
    '1' ≤ c && c ≤ '9' &&
      match splitColon (c :: rest) with
      | [digits] => isDigits digits
      | digits :: sixtieths => isDigits digits && sixtieths.all isSixtieth
      | [] => false
  | [] => false

/-- Whether a text is nothing or an exponent with a sign. -/
def isExponent : List Char → Bool
  | [] => true
  | e :: sign :: digits =>
    (e == 'e' || e == 'E') && (sign == '-' || sign == '+') && !digits.isEmpty &&
      digits.all Char.isDigit
  | _ => false

/-- Whether a text is digits and low lines and then an exponent or nothing. -/
def isFraction (cs : List Char) : Bool := isExponent (cs.dropWhile isDigitOrLine)

/-- Whether a text is a number of base sixty with a point at the end of its last part. -/
def isSixtyFloat (cs : List Char) : Bool :=
  match splitColon cs with
  | digits :: second :: rest =>
    let sixtieths := second :: rest
    let last := sixtieths.getLast?.getD []
    isDigits digits && sixtieths.dropLast.all isSixtieth &&
      isSixtieth (last.takeWhile (· != '.')) &&
      (match last.dropWhile (· != '.') with
      | '.' :: digits => digits.all isDigitOrLine
      | _ => false)
  | _ => false

/-- Whether a plain scalar is a number with a point. -/
def isFloat (cs : List Char) : Bool :=
  let body := unsigned cs
  let word := String.ofList body
  [".inf", ".Inf", ".INF"].contains word ||
    [".nan", ".NaN", ".NAN"].contains (String.ofList cs) ||
    (match body.dropWhile isDigitOrLine with
      | '.' :: rest => isDigits (body.takeWhile isDigitOrLine) && isFraction rest
      | _ => false) ||
    (match cs with
      | '.' :: c :: rest => c.isDigit && isFraction rest
      | _ => false) ||
    isSixtyFloat body

/-! ## Points in time -/

/-- A time of day, with the digits after its point and the minutes that its clock is ahead. -/
structure Clock where
  hour : Nat
  minute : Nat
  second : Nat
  fraction : List Char
  offset : Option Int
  deriving Repr, DecidableEq

/-- The parts of a point in time, which may be a date alone. -/
structure Timestamp where
  year : Nat
  month : Nat
  day : Nat
  clock : Option Clock
  deriving Repr, DecidableEq

/-- Takes from `least` to `most` digits, as many as there are. -/
def digits? (least most : Nat) (cs : List Char) : Option (Nat × List Char) :=
  let found := (cs.take most).takeWhile Char.isDigit
  if found.length < least then none else some (natOfDigits 10 found, cs.drop found.length)

/-- Takes one character. -/
def sign? (c : Char) : List Char → Option (List Char)
  | d :: rest => if d = c then some rest else none
  | [] => none

/-- Whether a character is a space or a tab. -/
def isGap (c : Char) : Bool := c == ' ' || c == '\t'

/-- Takes the gap between a date and a time. -/
def dateGap? : List Char → Option (List Char)
  | [] => none
  | c :: rest =>
    if c = 'T' ∨ c = 't' then some rest
    else if isGap c then some (rest.dropWhile isGap)
    else none

/-- The digits after a point, if there is one, and the rest. -/
def fraction : List Char → List Char × List Char
  | '.' :: rest => rest.span Char.isDigit
  | cs => ([], cs)

/-- Takes the minutes of an offset up to the end. -/
def offsetMinutes? : List Char → Option Nat
  | [] => some 0
  | c :: rest =>
    match digits? 2 2 rest with
    | some (minutes, []) => if c = ':' then some minutes else none
    | _ => none

/-- The offset that a text is, none within if it is nothing. -/
def offset? (cs : List Char) : Option (Option Int) :=
  match cs.dropWhile isGap with
  | [] => if cs.isEmpty then some none else none
  | ['Z'] => some (some 0)
  | c :: rest =>
    if c = '-' ∨ c = '+' then do
      let (hours, rest) ← digits? 1 2 rest
      let minutes : Int := Int.ofNat (hours * 60 + (← offsetMinutes? rest))
      return some (if c = '-' then -minutes else minutes)
    else none

/-- The time of day that a text is. -/
def clock? (cs : List Char) : Option Clock := do
  let (hour, cs) ← digits? 1 2 cs
  let (minute, cs) ← digits? 2 2 (← sign? ':' cs)
  let (second, cs) ← digits? 2 2 (← sign? ':' cs)
  let (fraction, cs) := fraction cs
  return ⟨hour, minute, second, fraction, ← offset? cs⟩

/-- The point in time that a text gives. -/
def timestamp? (cs : List Char) : Option Timestamp := do
  let (year, cs) ← digits? 4 4 cs
  let (month, cs) ← digits? 1 2 (← sign? '-' cs)
  let (day, cs) ← digits? 1 2 (← sign? '-' cs)
  if cs.isEmpty then return ⟨year, month, day, none⟩
  else return ⟨year, month, day, some (← clock? (← dateGap? cs))⟩

/-- Whether a plain scalar is a point in time; the month and the day of a date alone have two digits. -/
def isTimestamp (cs : List Char) : Bool :=
  match timestamp? cs with
  | none => false
  | some t => t.clock.isSome || cs.length == 10

/-! ## Plain scalars -/

/-- A text without a line feed at its end. -/
def withoutLastNewline (cs : List Char) : List Char :=
  if cs.getLast? = some '\n' then cs.dropLast else cs

/-- The kind of a plain scalar. A line feed at its end does not count, unless it stands alone. -/
def Kind.ofPlain (text : String) : Kind :=
  let cs := withoutLastNewline text.toList
  let word := String.ofList cs
  if text = "" ∨ ["~", "null", "Null", "NULL"].contains word then .null
  else if (yesWords ++ noWords).any fun known => (spellings known).contains word then .bool
  else if isFloat cs then .float
  else if isInt cs then .int
  else if word = "<<" then .merge
  else if isTimestamp cs then .timestamp
  else if word = "=" then .default
  else if ["!", "&", "*"].contains word then .unknown
  else .text

end Scaffold.Markup.Yaml
