import SeriesBench.Text.Blank
import SeriesBench.Time.Span

/-!
# Time spans as text

A span is written with the largest unit that it reaches: nanoseconds, microseconds,
milliseconds, or hours, minutes and seconds together, where minutes and seconds are
always written after a larger unit. Fractions have no zeros at their end.
-/

namespace SeriesBench

namespace Span

/-- The decimals of a fraction of a unit that has `width` decimals, after a point; nothing
if the fraction is zero. -/
def fraction (width part : Nat) : String :=
  if part = 0 then ""
  else
    let digits := (Text.padLeft width '0' (toString part)).toList
    "." ++ String.ofList (Text.dropTail (· == '0') digits)

/-- A number of nanoseconds in a unit of ten to `width` of them. -/
def inUnit (width nanos : Nat) (name : String) : String :=
  toString (nanos / Nat.pow 10 width) ++ fraction width (nanos % Nat.pow 10 width) ++ name

/-- A span of a second or more. -/
def clockText (s : Span) : String :=
  let hours := s.seconds / 3600
  let minutes := s.seconds / 60 % 60
  (if 0 < hours then s!"{hours}h" else "") ++
  (if 0 < hours ∨ 0 < minutes then s!"{minutes}m" else "") ++
  toString (s.seconds % 60) ++ fraction 9 s.nanos ++ "s"

/-- A span as labels show it. -/
def text (s : Span) : String :=
  let total := s.totalNanos
  if total = 0 then "0s"
  else if total < 1000 then inUnit 0 total "ns"
  else if total < 1000000 then inUnit 3 total "µs"
  else if total < 1000000000 then inUnit 6 total "ms"
  else s.clockText

/-- A span in seconds. -/
def secondsText (s : Span) : String :=
  toString s.seconds ++ fraction 9 s.nanos ++ "s"

end Span

end SeriesBench
