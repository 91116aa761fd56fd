/-!
# Ranges of code points

Character classes of the Unicode standard are given as lists of closed ranges.
-/
namespace Scaffold.Text

/-- Closed ranges of code points, `(first, last)` each. -/
abbrev Ranges := List (Nat × Nat)

/-- Whether a code point lies in one of the ranges. -/
def Ranges.covers (ranges : Ranges) (n : Nat) : Bool :=
  ranges.any fun range => range.1 ≤ n && n ≤ range.2

end Scaffold.Text
