import Scaffold.Decimal.Binary

/-!
# The shortest decimal that reads back

A double stands for an interval of reals: those that are rounded to it. Its shortest decimal is the
one with the fewest digits inside that interval, and of those the one nearest to the double.

* `shortestDigits`: digits and decimal exponent of that decimal.
* `shortest`: its text, positional from `1e-4` up to `1e16` and with an exponent outside.
-/
namespace Scaffold.Decimal

/-- The interval of reals that round to `m · 2 ^ q`, as `(low, high)` in units of `2 ^ (q - 2)`. Below a
power of two the neighbour is half as far, except at the smallest exponent. -/
def halfway (m : Nat) (q : Int) : Nat × Nat :=
  (if m = Nat.pow 2 52 ∧ -1074 < q then 4 * m - 1 else 4 * m - 2, 4 * m + 2)

/-- Whether `n · 10 ^ e` rounds to `m · 2 ^ q`; the ends of the interval count if `m` is even. -/
def readsBack (m : Nat) (q : Int) (n : Nat) (e : Int) : Bool :=
  let (low, high) := halfway m q
  let (unitNum, unitDen) := scaled 1 (q - 2) (-e)
  let (below, value, above) := (low * unitNum, n * unitDen, high * unitNum)
  if m % 2 = 0 then below ≤ value && value ≤ above else below < value && value < above

/-- Of the two neighbours of `m · 2 ^ q` on the grid of multiples of `10 ^ e`, the one that reads back,
the nearer if both do, the even one if they are equally near. -/
def onGrid? (m : Nat) (q e : Int) : Option Nat :=
  let (num, den) := scaled m q (-e)
  let floor := num / den
  let near := roundHalfEven num den
  let far := if near = floor then floor + 1 else floor
  if readsBack m q near e then some near
  else if readsBack m q far e then some far
  else none

/-- The number of decimal digits before the point of `num / den`, negative for leading zeros after it:
the least `p` with `num / den < 10 ^ p`, searched downwards from `start`. -/
def magnitude (num den : Nat) : Nat → Int → Int
  | 0, p => p
  | fuel + 1, p =>
    if num * Nat.pow 10 (1 - p).toNat < den * Nat.pow 10 (p - 1).toNat then magnitude num den fuel (p - 1)
    else p

/-- The first grid with a decimal that reads back, from one digit up to seventeen. -/
def search (m : Nat) (q p : Int) : Nat → Nat → Nat × Int
  | 0, digits => ((onGrid? m q (p - digits)).getD 0, p - digits)
  | fuel + 1, digits =>
    match onGrid? m q (p - digits) with
    | some n => (n, p - digits)
    | none => search m q p fuel (digits + 1)

/-- Without trailing zeros; the exponent grows instead. -/
def trimZeros : Nat → Nat → Int → Nat × Int
  | 0, n, e => (n, e)
  | fuel + 1, n, e => if n % 10 = 0 ∧ n ≠ 0 then trimZeros fuel (n / 10) (e + 1) else (n, e)

/-- The digits `n` and exponent `e` of the shortest decimal `n · 10 ^ e` of `m · 2 ^ q`, for `0 < m`. -/
def shortestDigits (m : Nat) (q : Int) : Nat × Int :=
  let (num, den) := scaled m q 0
  let p := magnitude num den 700 310
  let (n, e) := search m q p 16 1
  trimZeros 20 n e

/-- The text of `n · 10 ^ e`, `n` without trailing zeros. -/
def layout (n : Nat) (e : Int) : String :=
  let digits := Nat.toDigits 10 n
  let point : Int := digits.length + e
  let text :=
    if -4 < point ∧ point ≤ 16 then
      if point ≤ 0 then "0.".toList ++ List.replicate (-point).toNat '0' ++ digits
      else if e ≥ 0 then digits ++ List.replicate e.toNat '0' ++ ".0".toList
      else digits.take point.toNat ++ ['.'] ++ digits.drop point.toNat
    else
      let power := point - 1
      let size := Nat.toDigits 10 power.natAbs
      digits.take 1 ++ (if digits.length = 1 then [] else '.' :: digits.drop 1) ++
        ['e', if power < 0 then '-' else '+'] ++
        List.replicate (2 - size.length) '0' ++ size
  String.ofList text

/-- The shortest text of a double that reads back as the same double. -/
def shortest (x : Float) : String :=
  match Binary.ofFloat x with
  | .nan => "nan"
  | .infinite negative => if negative then "-inf" else "inf"
  | .finite negative m q =>
    (if negative then "-" else "") ++
      (if m = 0 then "0.0" else let (n, e) := shortestDigits m q; layout n e)

end Scaffold.Decimal
