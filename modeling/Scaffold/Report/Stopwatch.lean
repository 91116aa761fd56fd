import Scaffold.Decimal.Fixed

/-!
# Elapsed times

A stopwatch is labelled, started at one reading of a clock and stopped at another.
-/
namespace Scaffold

/-- A labelled measurement: the seconds from start to stop, zero while it runs. -/
structure Stopwatch where
  label : String := "operation"
  elapsed : Float := 0

/-- The stopwatch after a run between two readings of the clock. -/
def Stopwatch.stopped (w : Stopwatch) (start stop : Float) : Stopwatch :=
  { w with elapsed := stop - start }

/-- A stopwatch in one line. -/
def Stopwatch.display (w : Stopwatch) : String :=
  "<Timer " ++ w.label ++ ": " ++ Decimal.fixed 4 w.elapsed ++ "s>"

end Scaffold
