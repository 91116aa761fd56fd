/-!
# Binary fractions

A finite double is exactly `± m · 2 ^ q`. Decimal forms are computed from `m` and `q` in whole
numbers, so that rounding is exact.
-/
namespace Scaffold.Decimal

/-- The kinds of double. -/
inductive Binary where
  | nan
  | infinite (negative : Bool)
  | finite (negative : Bool) (mantissa : Nat) (exponent : Int)
  deriving Repr, DecidableEq

/-- The kind and parts of a double, from its bits. -/
def Binary.ofBits (bits : UInt64) : Binary :=
  let n : Nat := bits.toNat
  let negative : Bool := n / Nat.pow 2 63 == 1
  let field : Nat := n / Nat.pow 2 52 % 2048
  let fraction : Nat := n % Nat.pow 2 52
  if field = 2047 then if fraction = 0 then .infinite negative else .nan
  else if field = 0 then .finite negative fraction (-1074)
  else .finite negative (Nat.pow 2 52 + fraction) (Int.ofNat field - 1075)

/-- The kind and parts of a double. -/
def Binary.ofFloat (x : Float) : Binary := .ofBits x.toBits

/-- Whole numbers `(numerator, denominator)` of `m · 2 ^ q · 10 ^ k`. -/
def scaled (m : Nat) (q k : Int) : Nat × Nat :=
  (m * Nat.pow 2 q.toNat * Nat.pow 10 k.toNat, Nat.pow 2 (-q).toNat * Nat.pow 10 (-k).toNat)

/-- The whole number nearest to `num / den`; a half goes to the even neighbour. -/
def roundHalfEven (num den : Nat) : Nat :=
  let quotient := num / den
  let twice := 2 * (num % den)
  if twice < den then quotient
  else if den < twice then quotient + 1
  else if quotient % 2 = 0 then quotient else quotient + 1

end Scaffold.Decimal
