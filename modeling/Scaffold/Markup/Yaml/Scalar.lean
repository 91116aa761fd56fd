import Scaffold.Markup.Yaml.Kind
import Scaffold.Text.Base64
import Scaffold.Text.Case

/-!
# What scalars mean

* `Kind.value`: the value of a scalar of some kind.
-/
namespace Scaffold.Markup.Yaml

/-- A value, or why there is none. -/
abbrev Meaning := Except Unreadable Value

/-- Without low lines. -/
def withoutLines (cs : List Char) : List Char := cs.filter (· != '_')

/-- The parts of a number of base sixty put together. -/
def wholeOfSixtieths (parts : List (List Char)) : Except Unreadable Int :=
  parts.foldlM (fun n part => (whole 10 part).map fun d => n * 60 + d) 0

/-- The whole number of a scalar. -/
def intOf (cs : List Char) : Meaning := do
  let (negative, body) := splitSign (withoutLines cs)
  let n ←
    match body with
    | [] => .error .noDigits
    | ['0'] => pure 0
    | '0' :: 'b' :: digits => whole 2 digits
    | '0' :: 'x' :: digits => whole 16 digits
    | '0' :: _ => whole 8 body
    | _ =>
      match splitColon body with
      | [_] => whole 10 body
      | parts => wholeOfSixtieths parts
  return .int (if negative then -n else n)

/-- The parts of a number of base sixty, the last first, added up; `unit` is what the first counts. -/
def doubleOfSixtieths (sum : Float) (unit : Nat) : List Float → Except Unreadable Float
  | [] => .ok sum
  | d :: rest => do doubleOfSixtieths (sum + d * (← doubleOfNat unit)) (unit * 60) rest

/-- The text of a scalar that is not a number. -/
def nanText : List Char := ".nan".toList

/-- The double of a scalar. -/
def floatOf (cs : List Char) : Meaning := do
  let cs := Text.lower (withoutLines cs)
  let (negative, body) := splitSign cs
  let x ←
    if cs.isEmpty then .error .noDigits
    else if body = ".inf".toList then pure (1.0 / 0.0)
    else if body = nanText then pure (0.0 / 0.0)
    else if body.contains ':' then do
      let parts ← (splitColon body).mapM double
      doubleOfSixtieths 0 1 parts.reverse
    else double body
  return .float (if negative then -x else x)

/-- The microseconds that digits after a point give; further digits are dropped. -/
def microseconds (fraction : List Char) : Nat :=
  natOfDigits 10 (fraction.take 6 ++ List.replicate (6 - fraction.length) '0')

/-- The point in time with some parts. -/
def Timestamp.value (t : Timestamp) : Except Calendar.Flaw Value :=
  match t.clock with
  | none => (Calendar.Date.make t.year t.month t.day).map .date
  | some c =>
    (Calendar.Moment.make t.year t.month t.day c.hour c.minute c.second (microseconds c.fraction)
      c.offset).map .moment

/-- The point in time of a scalar. -/
def timeOf (cs : List Char) : Meaning :=
  match timestamp? (withoutLastNewline cs) with
  | none => .error .notTime
  | some t => t.value.mapError .noSuchTime

/-- The truth value of a scalar. -/
def boolOf (cs : List Char) : Meaning :=
  let word := String.ofList (Text.lower cs)
  if yesWords.contains word then .ok (.bool true)
  else if noWords.contains word then .ok (.bool false)
  else .error (.notTruth word)

/-- The bytes of a scalar. -/
def bytesOf (cs : List Char) : Except Fault Value :=
  if cs.any fun c => c.toNat ≥ 0x80 then .error (.malformed "expected base64 data in ASCII")
  else
    match Text.Base64.decode? cs with
    | some data => .ok (.bytes data)
    | none => .error (.malformed "failed to decode base64 data")

/-- The value of a scalar of some kind. Merge and default keys have no value of their own. -/
def Kind.value (kind : Kind) (text : String) : Except Fault Value :=
  let cs := text.toList
  match kind with
  | .null => .ok .null
  | .bool => (boolOf cs).mapError .unreadable
  | .int => (intOf cs).mapError .unreadable
  | .float => (floatOf cs).mapError .unreadable
  | .bytes => bytesOf cs
  | .timestamp => (timeOf cs).mapError .unreadable
  | .text => .ok (.text text)
  | _ => .error (.malformed "could not determine the value of a tag")

end Scaffold.Markup.Yaml
