/-!
# Base sixty-four

Bytes written with letters, digits and two signs, six bits each, filled up with equals signs.

* `Base64.decode?`: the bytes of such a text. Other characters are skipped, and so is whatever follows the
  sign that fills up a group.
-/
namespace Scaffold.Text.Base64

/-- The digits, by value. -/
def digits : List Char :=
  "ABCDEFGHIJKLMNOPQRSTUVWXYZabcdefghijklmnopqrstuvwxyz0123456789+/".toList

/-- The bytes of a group of at most four digits; bits that fill no byte are dropped. -/
def bytesOfGroup : List Nat → List UInt8
  | [a, b] => [UInt8.ofNat ((a * 64 + b) / 16)]
  | [a, b, c] =>
    let n := (a * 64 + b) * 64 + c
    [UInt8.ofNat (n / 1024), UInt8.ofNat (n / 4)]
  | [a, b, c, d] =>
    let n := ((a * 64 + b) * 64 + c) * 64 + d
    [UInt8.ofNat (n / 65536), UInt8.ofNat (n / 256), UInt8.ofNat n]
  | _ => []

/-- The bytes of what follows a group that is not full; `fill` counts the equals signs directly after its
last digit. -/
def decodeFrom (group : List Nat) (fill : Nat) : List Char → Option (List UInt8)
  | [] => if group.isEmpty then some [] else none
  | c :: cs =>
    if c = '=' then
      if group.length < 2 then decodeFrom group fill cs
      else if group.length + fill + 1 ≥ 4 then some (bytesOfGroup group)
      else decodeFrom group (fill + 1) cs
    else
      match digits.idxOf? c with
      | none => decodeFrom group fill cs
      | some d =>
        if group.length = 3 then (decodeFrom [] 0 cs).map (bytesOfGroup (group ++ [d]) ++ ·)
        else decodeFrom (group ++ [d]) 0 cs

/-- The bytes of a text, unless its last group is not full. -/
def decode? (cs : List Char) : Option (List UInt8) := decodeFrom [] 0 cs

end Scaffold.Text.Base64
