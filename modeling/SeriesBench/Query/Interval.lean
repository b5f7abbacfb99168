import SeriesBench.Fault
import SeriesBench.Random.Stream
import SeriesBench.Time.Instant
import SeriesBench.Time.SpanText

/-!
# Intervals and windows

An interval is a half-open range of time. A window is an interval of a given length inside
another, at a random place: its start is drawn to the nanosecond, so that it ends before
the whole interval does.
-/

namespace SeriesBench

/-- Why there is no answer: a fault, or a time or a difference of times that cannot be
represented at all. -/
inductive Stop where
  | fault (f : Fault)
  | overflow
deriving Repr, DecidableEq

/-- A range of time, its end excluded. -/
structure Interval where
  start : Instant
  stop : Instant
deriving Repr, DecidableEq

namespace Interval

/-- The interval between two instants, the first of which must come before the second. -/
def make (start stop : Instant) : Except Fault Interval :=
  if start.before stop then .ok ⟨start, stop⟩
  else .error (.query s!"interval start {start.text} is not before end {stop.text}")

/-- How long an interval is. -/
def length (i : Interval) : Span :=
  let nanos := (i.start.nanosFrom i.stop).toNat
  ⟨nanos / Instant.perSecond, nanos % Instant.perSecond⟩

/-- The longest span that a window can have: the milliseconds in a word of 64 bits. -/
def longestWindow : Span := ⟨9223372036854775, 807000000⟩

/-- Nanoseconds since the epoch, or the fault that they are no word. -/
def nanosOf (t : Instant) : Except Stop Int :=
  match t.word? with
  | some n => .ok n
  | none => .error (.fault (.query s!"{t.text} is outside the nanosecond range"))

/-- The least and the first excluded start of a window. -/
def bounds (i : Interval) (window : Span) : Except Stop (Int × Int) := do
  if longestWindow.totalNanos < window.totalNanos then
    throw (.fault (.query s!"window {window.secondsText} is out of range"))
  let lower ← nanosOf i.start
  let latest := i.stop.minus window
  if !latest.isRepresentable then throw .overflow
  let upper ← nanosOf latest
  if upper ≤ lower then
    throw (.fault (.query "random window equal to or bigger than interval"))
  if !Numeral.fitsWord 64 (upper - lower) then throw .overflow
  return (lower, upper)

/-- The window of a length that starts so many nanoseconds after the epoch. -/
def windowAt (start : Int) (window : Span) : Interval :=
  ⟨.ofTotal start, (Instant.ofTotal start).plus window⟩

/-- A window that starts at random between two bounds. Inside an interval that ends in the leap
second behind the last day it may end where no time can be represented. -/
def windowBetween (s : Random.Stream) (window : Span) (lower upper : Int) :
    Except Stop Interval × Random.Stream :=
  let (offset, s) := s.below .full (upper - lower).toNat
  let drawn := windowAt (lower + offset) window
  if drawn.stop.isRepresentable then (.ok drawn, s) else (.error .overflow, s)

/-- A window between bounds, if there are any. -/
def windowWithin (s : Random.Stream) (window : Span) :
    Except Stop (Int × Int) → Except Stop Interval × Random.Stream
  | .error stop => (.error stop, s)
  | .ok (lower, upper) => windowBetween s window lower upper

/-- A window at a random place of an interval. If there is none nothing is drawn. -/
def randomWindow (i : Interval) (s : Random.Stream) (window : Span) :
    Except Stop Interval × Random.Stream :=
  windowWithin s window (i.bounds window)

end Interval

end SeriesBench
