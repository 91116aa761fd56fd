import Scaffold.Decimal.Binary

/-!
# Decimals with a fixed number of places

Elapsed times are written with three or four places. The exact value of the double is rounded; a tie
goes to the even neighbour.
-/
namespace Scaffold.Decimal

/-- Digits padded with zeros on the left to at least `width`. -/
def zeroPadded (width n : Nat) : List Char :=
  let digits := Nat.toDigits 10 n
  List.replicate (width - digits.length) '0' ++ digits

/-- A number of `10 ^ (-places)` units, written with a point. -/
def pointed (places units : Nat) : String :=
  let digits := zeroPadded (places + 1) units
  let whole := digits.length - places
  String.ofList (digits.take whole ++ (if places = 0 then [] else '.' :: digits.drop whole))

/-- A double with a fixed number of places. -/
def fixed (places : Nat) (x : Float) : String :=
  match Binary.ofFloat x with
  | .nan => "nan"
  | .infinite negative => if negative then "-inf" else "inf"
  | .finite negative m q =>
    let (num, den) := scaled m q places
    (if negative then "-" else "") ++ pointed places (roundHalfEven num den)

end Scaffold.Decimal
