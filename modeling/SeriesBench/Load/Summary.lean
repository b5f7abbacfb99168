import SeriesBench.Numeral.Decimal
import SeriesBench.Scan
import SeriesBench.Time.Span
import SeriesBench.Worker.Ingest

/-!
# Load summaries

What a finished load reports: how much was written in which time, and what was dropped
on the way.
-/

namespace SeriesBench

/-- The report of a load. -/
structure Summary where
  outcome : Outcome
  scan : Tally
  workers : Nat
  elapsed : Span
deriving Repr, DecidableEq

namespace Summary

open Numeral

/-- How many of something there were in a second, in units of the double format; nothing
has a rate in no time. -/
def rate (count : Nat) (elapsed : Span) : Nat :=
  if elapsed.toDouble = 0 then 0
  else Format.double.nearest (Format.double.nearest count 1) elapsed.toDouble

/-- The rate of rows. -/
def rowRate (s : Summary) : Nat := rate s.outcome.rows s.elapsed

/-- The rate of metrics. -/
def metricRate (s : Summary) : Nat := rate s.outcome.metrics s.elapsed

/-- One line of the report: how many of a thing were loaded. -/
def line (s : Summary) (count units : Nat) (what : String) : String :=
  let seconds := fixedUnits .double 3 s.elapsed.toDouble
  let perSecond := fixedUnits .double 2 units
  s!"loaded {count} {what} in {seconds}sec with {s.workers} workers " ++
    s!"(mean rate {perSecond} {what}/sec)"

/-- The report as text, in three lines. -/
def text (s : Summary) : String :=
  s.line s.outcome.metrics s.metricRate "metrics" ++ "\n" ++
  s.line s.outcome.rows s.rowRate "rows" ++ "\n" ++
  s!"scanned {s.scan.lines} lines, dropped {s.scan.dropped} lines, " ++
  s!"{s.outcome.droppedItems} units, {s.outcome.droppedRows} rows, " ++
  s!"{s.outcome.transmitErrors} failed transmissions"

end Summary

end SeriesBench
