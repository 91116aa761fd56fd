import Scaffold.Calendar
import Scaffold.Text.Blank
import Scaffold.Text.Digit
import Scaffold.Text.Quoted
import Scaffold.Value

/-!
# Numbers in files

Texts turned into whole numbers and doubles, and why a text has no value although its place asks for one.

* `whole`: the whole number of a text, in some base.
* `double`: the double of a text.
-/
namespace Scaffold.Markup

/-- Why the text of a value has no meaning, although its shape is right. -/
inductive Unreadable where
  | tooManyDigits (digits : Nat)
  | notWhole (base : Nat) (written : String)
  | notDouble (written : String)
  | tooGreat
  | noDigits
  | notTruth (word : String)
  | notTime
  | noTimeText
  | noSuchTime (flaw : Calendar.Flaw)
  | noCodePoint
  | hugeCodePoint
  | tooDeep (activity : String)
  deriving Repr, DecidableEq

/-- The most decimal digits that are read into a whole number. -/
def digitLimit : Nat := 4300

/-- The longest quotation of a text that is no whole number. -/
def quotationLimit : Nat := 200

/-- The wording of an unreadable value. -/
def Unreadable.message : Unreadable → String
  | .tooManyDigits digits =>
    "Exceeds the limit (" ++ toString digitLimit ++
      " digits) for integer string conversion: value has " ++ toString digits ++
      " digits; use sys.set_int_max_str_digits() to increase the limit"
  | .notWhole base written =>
    "invalid literal for int() with base " ++ toString base ++ ": " ++
      .ofList ((Text.quoted written).toList.take quotationLimit)
  | .notDouble written => "could not convert string to float: " ++ Text.quoted written
  | .tooGreat => "int too large to convert to float"
  | .noDigits => "string index out of range"
  | .notTruth word => Text.quoted word
  | .notTime => "'NoneType' object has no attribute 'groupdict'"
  | .noTimeText => "expected string or bytes-like object, got 'list'"
  | .noSuchTime flaw => flaw.message
  | .noCodePoint => "chr() arg not in range(0x110000)"
  | .hugeCodePoint => "Python int too large to convert to C int"
  | .tooDeep activity => "maximum recursion depth exceeded" ++ activity

/-- The kind of an unreadable value as named in messages. -/
def Unreadable.kindName : Unreadable → String
  | .noDigits => "IndexError"
  | .notTruth _ => "KeyError"
  | .notTime => "AttributeError"
  | .noTimeText => "TypeError"
  | .tooGreat => "OverflowError"
  | .hugeCodePoint => "OverflowError"
  | .tooDeep _ => "RecursionError"
  | _ => "ValueError"

/-- Why a file is not read: it is not well-formed, or a value in it has no meaning. -/
inductive Fault where
  | malformed (detail : String)
  | unreadable (flaw : Unreadable)
  deriving Repr, DecidableEq

/-- The value of an ASCII digit, letters counting from ten. -/
def digitValue (c : Char) : Nat :=
  if c.isDigit then c.toNat - '0'.toNat
  else if 'a' ≤ c ∧ c ≤ 'z' then c.toNat - 'a'.toNat + 10
  else if 'A' ≤ c ∧ c ≤ 'Z' then c.toNat - 'A'.toNat + 10
  else 99

/-- Digits read in a base. -/
def natOfDigits (base : Nat) (digits : List Char) : Nat :=
  digits.foldl (fun n c => n * base + digitValue c) 0

/-- Decimal digits as a whole number, unless there are too many. -/
def decimal (digits : List Char) : Except Unreadable Nat :=
  if digits.length > digitLimit then .error (.tooManyDigits digits.length)
  else .ok (natOfDigits 10 digits)

/-! ## Numerals -/

/-- A digit or blank of any script as in ASCII, any other character as it is. -/
def plainChar (c : Char) : Char :=
  if c.toNat < 0x80 then c
  else if Text.isBlank c then ' '
  else
    match Text.digitOf? c with
    | some d => Char.ofNat ('0'.toNat + d)
    | none => c

/-- Whether a character may stand around a numeral. -/
def isMargin (c : Char) : Bool := c == ' ' || '\t' ≤ c && c ≤ '\r'

/-- A text that may be a numeral: in ASCII and without the blanks around it. -/
def numeral (cs : List Char) : List Char := Text.stripWhile isMargin (cs.map plainChar)

/-- Whether a minus stands in front, and what follows the sign. -/
def splitSign : List Char → Bool × List Char
  | '-' :: cs => (true, cs)
  | '+' :: cs => (false, cs)
  | cs => (false, cs)

/-- The letters that may stand between a zero and the digits of a base. -/
def baseLetters (base : Nat) : List Char :=
  if base = 2 then ['b', 'B']
  else if base = 8 then ['o', 'O']
  else if base = 16 then ['x', 'X']
  else []

/-- The digits of a numeral without the mark of its base. -/
def withoutBase (base : Nat) : List Char → List Char
  | [] => []
  | [c] => [c]
  | c :: d :: cs => if c = '0' ∧ (baseLetters base).contains d then cs else c :: d :: cs

/-- The whole number of a text in some base. -/
def whole (base : Nat) (cs : List Char) : Except Unreadable Int :=
  let (negative, body) := splitSign (numeral cs)
  let body := withoutBase base body
  let digits := body.takeWhile fun c => digitValue c < base
  if digits.isEmpty then .error (.notWhole base (.ofList cs))
  else if base = 10 ∧ digitLimit < digits.length then .error (.tooManyDigits digits.length)
  else if digits.length < body.length then .error (.notWhole base (.ofList cs))
  else
    let n := Int.ofNat (natOfDigits base digits)
    .ok (if negative then -n else n)

/-- The double nearest to `mantissa · 10 ^ exponent`. -/
def nearestDouble (negative : Bool) (mantissa : Nat) (exponent : Int) : Float :=
  let size : Int := (Nat.toDigits 10 mantissa).length + exponent
  let x : Float :=
    if mantissa = 0 ∨ size < -400 then 0
    else if size > 400 then 1.0 / 0.0
    else if exponent < 0 then Float.ofScientific mantissa true exponent.natAbs
    else Float.ofScientific mantissa false exponent.toNat
  if negative then -x else x

/-- The double of a number written with digits before and after the point and an exponent. -/
def doubleOf (negative : Bool) (whole fraction : List Char) (exponent : Int) : Float :=
  nearestDouble negative (natOfDigits 10 (whole ++ fraction)) (exponent - fraction.length)

/-- The exponent of a numeral, if the rest of it is one. -/
def exponent? : List Char → Option Int
  | [] => some 0
  | e :: cs =>
    let (negative, digits) := splitSign cs
    if (e = 'e' ∨ e = 'E') ∧ !digits.isEmpty ∧ digits.all Char.isDigit then
      let n := Int.ofNat (natOfDigits 10 ((digits.dropWhile (· == '0')).take 20))
      some (if negative then -n else n)
    else none

/-- The double of a numeral without its sign. -/
def unsignedDouble? (negative : Bool) (cs : List Char) : Option Float :=
  let word := String.ofList (cs.map Char.toLower)
  if word = "inf" ∨ word = "infinity" then some (if negative then -1.0 / 0.0 else 1.0 / 0.0)
  else if word = "nan" then some (0.0 / 0.0)
  else
    let (whole, rest) := cs.span Char.isDigit
    let (fraction, rest) :=
      match rest with
      | '.' :: more => more.span Char.isDigit
      | _ => ([], rest)
    if whole.isEmpty && fraction.isEmpty then none
    else (exponent? rest).map fun e => doubleOf negative whole fraction e

/-- The double of a text: digits with or without a point and an exponent, or a word. -/
def double (cs : List Char) : Except Unreadable Float :=
  let (negative, body) := splitSign (numeral cs)
  match unsignedDouble? negative body with
  | some x => .ok x
  | none => .error (.notDouble (.ofList cs))

/-- The double nearest to a whole number, unless that is too great. -/
def doubleOfNat (n : Nat) : Except Unreadable Float :=
  let x := nearestDouble false n 0
  if x.isInf then .error .tooGreat else .ok x

end Scaffold.Markup
