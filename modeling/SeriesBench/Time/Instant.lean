import SeriesBench.Numeral.Integer
import SeriesBench.Text.Blank
import SeriesBench.Time.Civil
import SeriesBench.Time.Span

/-!
# Instants

Points in time, to the nanosecond, counted from the start of 1970 without leap seconds. A
leap second is written as an extension of the second before it: its nanoseconds run on
from one thousand million. Sums and differences treat it as the second that it is only
where they do not leave it.
-/

namespace SeriesBench

/-- A point in time. Nanoseconds from 10^9 on lie in a leap second. -/
structure Instant where
  seconds : Int
  nanos : Nat
deriving Repr, DecidableEq, Inhabited

namespace Instant

/-- Nanoseconds in a second. -/
def perSecond : Nat := 1000000000

/-- Whether the instant lies in a leap second. -/
def inLeapSecond (t : Instant) : Bool :=
  perSecond ≤ t.nanos

/-- Whether an instant comes before another. -/
def before (a b : Instant) : Bool :=
  a.seconds < b.seconds || (a.seconds == b.seconds && a.nanos < b.nanos)

/-- The day of an instant. -/
def day (t : Instant) : Int := t.seconds / 86400

/-- The second of the day. -/
def secondOfDay (t : Instant) : Nat := (t.seconds % 86400).toNat

/-- Nanoseconds since the epoch. -/
def total (t : Instant) : Int := t.seconds * perSecond + t.nanos

/-- The instant so many nanoseconds after the epoch. -/
def ofTotal (total : Int) : Instant :=
  ⟨total / perSecond, (total % perSecond).toNat⟩

/-- The first and the last day of the years that can be represented, from -262143 to
262142. -/
def firstDay : Int := Civil.toDays ⟨-262143, 1, 1⟩

@[inherit_doc firstDay]
def lastDay : Int := Civil.toDays ⟨262142, 12, 31⟩

/-- Whether the day of an instant can be represented. -/
def isRepresentable (t : Instant) : Bool :=
  firstDay ≤ t.day && t.day ≤ lastDay

/-- The instant a span earlier. Whoever leaves a leap second by whole seconds leaves it as
if from the second after it; less than a second is taken off its nanoseconds. -/
def minus (t : Instant) (span : Span) : Instant :=
  if t.inLeapSecond && span.seconds == 0 then ⟨t.seconds, t.nanos - span.nanos⟩
  else ofTotal (t.total - span.totalNanos)

/-- The instant a span later than one that lies in no leap second. -/
def plus (t : Instant) (span : Span) : Instant :=
  ofTotal (t.total + span.totalNanos)

/-- The nanoseconds from one instant to another. Of two instants on different seconds of the
day, one in a leap second that comes before the other counts it as passed, and one in a
leap second that comes after does not. -/
def nanosFrom (start stop : Instant) : Int :=
  let passed : Int :=
    if start.secondOfDay < stop.secondOfDay ∧ start.inLeapSecond then perSecond
    else if stop.secondOfDay < start.secondOfDay ∧ stop.inLeapSecond then -perSecond
    else 0
  stop.total - start.total + passed

/-- Nanoseconds since the epoch as a word of 64 bits, if the whole seconds, counted towards
the epoch, and the sum are in range. -/
def word? (t : Instant) : Option Int :=
  let whole := if t.seconds < 0 then (t.seconds + 1) * perSecond else t.seconds * perSecond
  if Numeral.fitsWord 64 whole && Numeral.fitsWord 64 t.total then some t.total else none

/-- Two digits. -/
def twoDigits (n : Nat) : String :=
  Text.padLeft 2 '0' (toString n)

/-- A year has four digits; one beyond them has a sign. -/
def yearText (year : Int) : String :=
  if 0 ≤ year ∧ year ≤ 9999 then Text.padLeft 4 '0' (toString year.toNat)
  else
    (if year < 0 then "-" else "+") ++ Text.padLeft 4 '0' (toString year.natAbs)

/-- The date of an instant. -/
def dateText (t : Instant) : String :=
  let date := Civil.ofDays t.day
  yearText date.year ++ "-" ++ twoDigits date.month ++ "-" ++ twoDigits date.day

/-- The time of day, to the second; a leap second is the sixtieth of its minute. -/
def clockText (t : Instant) : String :=
  let s := t.secondOfDay
  let second := s % 60 + (if t.inLeapSecond then 1 else 0)
  twoDigits (s / 3600) ++ ":" ++ twoDigits (s / 60 % 60) ++ ":" ++ twoDigits second

/-- The instant in the form of RFC 3339, rounded down to the second. -/
def rfc3339 (t : Instant) : String :=
  t.dateText ++ "T" ++ t.clockText ++ "Z"

/-- A fraction of a second, in as many groups of three digits as it takes. -/
def fractionText (nanos : Nat) : String :=
  if nanos = 0 then ""
  else if nanos % 1000000 = 0 then "." ++ Text.padLeft 3 '0' (toString (nanos / 1000000))
  else if nanos % 1000 = 0 then "." ++ Text.padLeft 6 '0' (toString (nanos / 1000))
  else "." ++ Text.padLeft 9 '0' (toString nanos)

/-- The instant as messages show it. -/
def text (t : Instant) : String :=
  t.dateText ++ " " ++ t.clockText ++ fractionText (t.nanos % perSecond) ++ " UTC"

end Instant

end SeriesBench
