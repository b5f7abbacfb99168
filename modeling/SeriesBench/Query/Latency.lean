import SeriesBench.Numeral.Decimal
import SeriesBench.Time.Span

/-!
# Query latencies

What is kept of the times that queries took, label by label: how many there were, the
least, the greatest and the sum, in milliseconds. Statistics of several runners merge into
one. Times are numbers of double precision, counted in units, so that least and greatest
are those of the natural numbers.
-/

namespace SeriesBench

open Numeral

/-- A span in milliseconds. -/
def Span.millis (s : Span) : Nat :=
  Format.double.roundUnits (s.toDouble * 1000) 1

/-- The times of one label, in units of the double format. -/
structure LabelStats where
  count : Nat
  least : Nat
  greatest : Nat
  sum : Nat
deriving Repr, DecidableEq, Inhabited

namespace LabelStats

/-- The statistics of a single time. -/
def single (millis : Nat) : LabelStats :=
  ⟨1, millis, millis, millis⟩

/-- The statistics of two sets of times together. -/
def join (a b : LabelStats) : LabelStats where
  count := a.count + b.count
  least := min a.least b.least
  greatest := max a.greatest b.greatest
  sum := Format.double.roundUnits (a.sum + b.sum) 1

/-- The mean time; zero if there is none. -/
def mean (s : LabelStats) : Nat :=
  if s.count = 0 then 0 else Format.double.nearest s.sum (Format.double.nearest s.count 1)

/-- A time with two places in a field of eight characters. -/
def field (units : Nat) : String :=
  Text.padLeft 8 ' ' (fixedUnits .double 2 units)

/-- The statistics of a label as text. -/
def text (s : LabelStats) : String :=
  s!"min: {field s.least}ms, mean: {field s.mean}ms, max: {field s.greatest}ms, " ++
    s!"count: {s.count}"

end LabelStats

/-- The times of the queries that succeeded, by label in rising order, and the number of
those that failed. -/
structure Latencies where
  labels : List (String × LabelStats)
  failures : Nat
deriving Repr, DecidableEq, Inhabited

namespace Latencies

/-- Nothing has run. -/
def empty : Latencies := ⟨[], 0⟩

/-- Adds the times of a label to those that are there. -/
def add (label : String) (stats : LabelStats) :
    List (String × LabelStats) → List (String × LabelStats)
  | [] => [(label, stats)]
  | (other, known) :: rest =>
    if label = other then (other, known.join stats) :: rest
    else if label < other then (label, stats) :: (other, known) :: rest
    else (other, known) :: add label stats rest

/-- Records the time of a query. -/
def record (l : Latencies) (label : String) (elapsed : Span) : Latencies :=
  { l with labels := add label (.single elapsed.millis) l.labels }

/-- Records that a query failed. -/
def recordFailure (l : Latencies) : Latencies :=
  { l with failures := l.failures + 1 }

/-- The statistics of two runs together. -/
def merge (l other : Latencies) : Latencies where
  labels := other.labels.foldl (fun labels (label, stats) => add label stats labels) l.labels
  failures := l.failures + other.failures

/-- The statistics of a label. -/
def get? (l : Latencies) (label : String) : Option LabelStats :=
  l.labels.lookup label

/-- How many queries succeeded. -/
def count (l : Latencies) : Nat :=
  l.labels.foldl (fun sum (_, stats) => sum + stats.count) 0

/-- The last line of the report. -/
def closing (l : Latencies) : String :=
  s!"Run complete after {l.count + l.failures} queries, {l.failures} failed"

/-- The report: two lines for each label, and the closing line. -/
def text (l : Latencies) : String :=
  String.join (l.labels.map fun (label, stats) => s!"{label}:\n{stats.text}\n") ++ l.closing

end Latencies

end SeriesBench
