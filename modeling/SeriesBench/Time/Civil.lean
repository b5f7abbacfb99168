/-!
# Civil dates

Days counted from the first of January 1970, and the dates of the Gregorian calendar,
extended to all years, that name them. The count goes by eras of 400 years, which all have
146097 days, and by years that begin in March, so that a leap day is the last of its year.
-/

namespace SeriesBench

/-- A date: year, month from 1 to 12, day from 1 on. -/
structure Civil where
  year : Int
  month : Nat
  day : Nat
deriving Repr, DecidableEq, Inhabited

namespace Civil

/-- From the first of March of year 0 to the first of January 1970. -/
def epochShift : Int := 719468

/-- The days of an era. -/
def eraDays : Int := 146097

/-- The days before the month of a year that begins in March, months counted from 0. -/
def daysBefore (month : Nat) : Nat :=
  (153 * month + 2) / 5

/-- The year of an era, from 0 to 399, and the day of that year, for a day of the era. -/
def yearOfEra (day : Nat) : Nat × Nat :=
  let century := min (day / 36524) 3
  let dayOfCentury := day - 36524 * century
  let cycle := dayOfCentury / 1461
  let dayOfCycle := dayOfCentury - 1461 * cycle
  let year := min (dayOfCycle / 365) 3
  (100 * century + 4 * cycle + year, dayOfCycle - 365 * year)

/-- The date of a day. -/
def ofDays (days : Int) : Civil :=
  let shifted := days + epochShift
  let era := shifted / eraDays
  let (year, day) := yearOfEra (shifted % eraDays).toNat
  let month := (5 * day + 2) / 153
  let dayOfMonth := day - daysBefore month + 1
  if month < 10 then ⟨400 * era + year, month + 3, dayOfMonth⟩
  else ⟨400 * era + year + 1, month - 9, dayOfMonth⟩

/-- The day of a date. -/
def toDays (date : Civil) : Int :=
  let (year, month) :=
    if 3 ≤ date.month then (date.year, date.month - 3) else (date.year - 1, date.month + 9)
  let era := year / 400
  let yearOfEra := year % 400
  eraDays * era + 365 * yearOfEra + yearOfEra / 4 - yearOfEra / 100 +
    daysBefore month + date.day - 1 - epochShift

/-- Whether a year has a leap day. -/
def isLeap (year : Int) : Bool :=
  year % 4 == 0 && (year % 100 != 0 || year % 400 == 0)

/-- The days of a month. -/
def daysIn (year : Int) (month : Nat) : Nat :=
  if month = 2 then (if isLeap year then 29 else 28)
  else if month = 4 ∨ month = 6 ∨ month = 9 ∨ month = 11 then 30
  else 31

/-- Whether the calendar has the date. -/
def isValid (date : Civil) : Bool :=
  1 ≤ date.month && date.month ≤ 12 && 1 ≤ date.day && date.day ≤ daysIn date.year date.month

end Civil

end SeriesBench
