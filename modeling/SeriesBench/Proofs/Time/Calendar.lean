import Mathlib.Tactic.IntervalCases
import SeriesBench.Time.Civil

/-!
# Dates of days

Every day has a date that the calendar has, and the date tells the day. A day is taken apart into
its era, the year of the era, which begins in March, the month of that year and the day of the
month; each step leaves a rest that the next one starts from, and none of them loses any days.

The leap day is the last of its year from March on. It is only left over in a year that is the last
of four, and of a century only if that is the last of the era; in the calendar year that has begun
by then there is such a day.
-/

namespace SeriesBench.Civil

/-- The days of an era before one of its years. -/
def daysBeforeYear (year : Nat) : Nat :=
  365 * year + year / 4 - year / 100

/-- A day of an era is the day `rest` of one of its years. Only a long year has a day 365. -/
structure InYear (day year rest : Nat) : Prop where
  year_lt : year < 400
  rest_le : rest ≤ 365
  day : day = daysBeforeYear year + rest
  long : rest = 365 → year % 4 = 3 ∧ (year % 100 = 99 → year = 399)

/-- The year of a day of an era, and its day in that year. A century lacks the last day of its last
cycle, unless it is the last of the era. -/
theorem inYear_yearOfEra {day : Nat} (inside : day < 146097) :
    InYear day (yearOfEra day).1 (yearOfEra day).2 := by
  simp only [yearOfEra]
  generalize century : min (day / 36524) 3 = c
  generalize cycle : (day - 36524 * c) / 1461 = y
  generalize within : min ((day - 36524 * c - 1461 * y) / 365) 3 = z
  have ofCentury : c ≤ 3 ∧ 36524 * c ≤ day ∧
      (day - 36524 * c < 36524 ∨ c = 3 ∧ day - 36524 * c = 36524) := by omega
  have ofCycle : y ≤ 24 ∧ 1461 * y ≤ day - 36524 * c ∧ day - 36524 * c - 1461 * y < 1461 := by
    omega
  have ofYear : z ≤ 3 ∧ 365 * z ≤ day - 36524 * c - 1461 * y ∧
      (day - 36524 * c - 1461 * y - 365 * z < 365 ∨
        z = 3 ∧ day - 36524 * c - 1461 * y - 365 * z = 365) := by omega
  have quarter : (100 * c + 4 * y + z) / 4 = 25 * c + y := by omega
  have hundredth : (100 * c + 4 * y + z) / 100 = c := by omega
  constructor
  · omega
  · omega
  · rw [daysBeforeYear, quarter, hundredth]
    omega
  · omega

/-- The calendar year that begins in a long year of an era is a leap year. -/
theorem isLeap_of_long {year : Nat} (quarter : year % 4 = 3)
    (century : year % 100 = 99 → year = 399) (era : Int) :
    isLeap (400 * era + year + 1) = true := by
  have fourth : (400 * era + year + 1) % 4 = 0 := by omega
  by_cases last : year % 100 = 99
  · have whole : (400 * era + year + 1) % 400 = 0 := by
      rw [century last]
      omega
    simp [isLeap, fourth, whole]
  · have between : (400 * era + year + 1) % 100 ≠ 0 := by omega
    simp [isLeap, fourth, between]

/-- A day of a year lies in a month that has begun and whose successor has not. -/
structure InMonth (rest month : Nat) : Prop where
  month_le : month ≤ 11
  begun : daysBefore month ≤ rest
  lasts : rest < daysBefore (month + 1)

/-- The month of a day of a year that begins in March. -/
theorem inMonth_of_le {rest : Nat} (inside : rest ≤ 365) : InMonth rest ((5 * rest + 2) / 153) := by
  refine ⟨by omega, ?_, ?_⟩ <;> simp only [daysBefore] <;> omega

/-- The date of a day of a year that begins in March. -/
def ofMarch (era : Int) (year rest month : Nat) : Civil :=
  if month < 10 then ⟨400 * era + year, month + 3, rest - daysBefore month + 1⟩
  else ⟨400 * era + year + 1, month - 9, rest - daysBefore month + 1⟩

/-- A day that was found in its year and month is one that the calendar has. -/
theorem isValid_ofMarch {day year rest month : Nat} (inYear : InYear day year rest)
    (inMonth : InMonth rest month) (era : Int) : (ofMarch era year rest month).isValid = true := by
  obtain ⟨last, begun, lasts⟩ := inMonth
  by_cases february : month = 11
  · subst february
    have days : rest - daysBefore 11 + 1 ≤ if isLeap (400 * era + year + 1) then 29 else 28 := by
      have rest_le := inYear.rest_le
      by_cases leapDay : rest = 365
      · obtain ⟨quarter, century⟩ := inYear.long leapDay
        rw [isLeap_of_long quarter century, leapDay]
        decide
      · simp only [daysBefore]
        split <;> omega
    simpa [ofMarch, isValid, daysIn] using days
  · simp only [daysBefore] at begun lasts
    interval_cases month <;> simp [ofMarch, isValid, daysIn, daysBefore] at february ⊢ <;> omega

/-- No month of a year from March on loses any days. -/
theorem toDays_ofMarch {day year rest month : Nat} (inYear : InYear day year rest)
    (inMonth : InMonth rest month) (era : Int) :
    (ofMarch era year rest month).toDays = 146097 * era + day - 719468 := by
  have inside := inYear.year_lt
  obtain ⟨last, begun, _⟩ := inMonth
  have eras : (400 * era + year) / 400 = era := by omega
  have years : (400 * era + year) % 400 = year := by omega
  have before : (daysBeforeYear year : Int) = 365 * year + year / 4 - year / 100 := by
    rw [daysBeforeYear]
    omega
  rw [inYear.day, Nat.cast_add, before]
  by_cases early : month < 10
  · have third : 3 ≤ month + 3 := by omega
    simp only [ofMarch, if_pos early, toDays, if_pos third, eras, years, eraDays, epochShift,
      Nat.add_sub_cancel]
    omega
  · have second : ¬ 3 ≤ month - 9 := by omega
    have back : month - 9 + 9 = month := by omega
    simp only [ofMarch, if_neg early, toDays, if_neg second, Int.add_sub_cancel, eras, years,
      eraDays, epochShift, back]
    omega

/-- The date of a day is found by its era, then by its year, then by its month. -/
theorem ofDays_eq (days : Int) :
    ∃ year rest month, InYear ((days + 719468) % 146097).toNat year rest ∧ InMonth rest month ∧
      ofDays days = ofMarch ((days + 719468) / 146097) year rest month := by
  have inside : ((days + 719468) % 146097).toNat < 146097 := by omega
  have inYear := inYear_yearOfEra inside
  exact ⟨_, _, _, inYear, inMonth_of_le inYear.rest_le, rfl⟩

/-- The calendar has the date of every day. -/
theorem isValid_ofDays (days : Int) : (ofDays days).isValid = true := by
  obtain ⟨year, rest, month, inYear, inMonth, date⟩ := ofDays_eq days
  rw [date]
  exact isValid_ofMarch inYear inMonth _

/-- The date of a day tells it. -/
theorem toDays_ofDays (days : Int) : (ofDays days).toDays = days := by
  obtain ⟨year, rest, month, inYear, inMonth, date⟩ := ofDays_eq days
  rw [date, toDays_ofMarch inYear inMonth]
  omega

/-- The year of a day is one of its era, or the first of the next. -/
theorem year_ofDays (days : Int) :
    400 * ((days + 719468) / 146097) ≤ (ofDays days).year ∧
      (ofDays days).year ≤ 400 * ((days + 719468) / 146097) + 400 := by
  obtain ⟨year, rest, month, inYear, _, date⟩ := ofDays_eq days
  have inside := inYear.year_lt
  rw [date, ofMarch]
  split <;> simp only <;> omega

end SeriesBench.Civil
