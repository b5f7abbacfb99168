import SeriesBench.Numeral.Floating

/-!
# Time spans

A length of time in whole seconds and nanoseconds, and the floating-point number of
seconds that stands for it in rates and latencies.
-/

namespace SeriesBench

/-- A length of time; the nanoseconds are those beyond the whole seconds. -/
structure Span where
  seconds : Nat
  nanos : Nat
deriving Repr, DecidableEq, Inhabited

namespace Span

open Numeral

/-- The span in nanoseconds. -/
def totalNanos (s : Span) : Nat :=
  s.seconds * 1000000000 + s.nanos

/-- The number of seconds in a span, in units of the double format. Seconds and fraction
are rounded on their own, then their sum is. -/
def toDouble (s : Span) : Nat :=
  Format.double.roundUnits
    (Format.double.nearest s.seconds 1 + Format.double.nearest s.nanos 1000000000) 1

end Span

end SeriesBench
