import SeriesBench.Proofs.Time.Calendar
import SeriesBench.Time.Rfc3339

/-!
# Instants that are read again

An instant that is written in the form of RFC 3339 is rounded down to its second, and that second is
what is read again, for all years that have four digits and outside of leap seconds.
-/

namespace SeriesBench

/-- A number in a field of digits: the field is as wide as it should be, and its digits are those of
the number. -/
structure Numeral.Fills (width n : Nat) (digits : List Char) : Prop where
  length : digits.length = width
  all : ∀ c ∈ digits, c.isDigit = true
  value : Nat.ofDigitChars 10 digits 0 = n

/-- A number that is filled up with zeros fills its field. -/
theorem Numeral.fills_padLeft {width n : Nat} (positive : 0 < width) (fits : n < 10 ^ width) :
    Fills width n (Text.padLeft width '0' (toString n)).toList := by
  have length : (toString n).length ≤ width := (Nat.length_repr_le_iff positive).mpr fits
  have field : (Text.padLeft width '0' (toString n)).toList =
      List.replicate (width - (toString n).length) '0' ++ Nat.toDigits 10 n := by
    rw [Text.padLeft, String.toList_append, String.toList_ofList]
    exact congrArg _ Nat.toList_repr
  rw [field]
  constructor
  · rw [List.length_append, List.length_replicate, ← Nat.toList_repr, String.length_toList]
    exact Nat.sub_add_cancel length
  · intro c member
    rcases List.mem_append.mp member with zero | digit
    · rw [List.eq_of_mem_replicate zero]
      rfl
    · exact Nat.isDigit_of_mem_toDigits (by decide) (by decide) digit
  · rw [Nat.ofDigitChars_append, Nat.ofDigitChars_replicate_zero, Nat.mul_zero,
      Nat.ofDigitChars_ten_toDigits]

namespace Rfc3339

/-- A number in a field of digits is read again. -/
theorem takeDigits_padLeft {width n : Nat} (positive : 0 < width) (fits : n < 10 ^ width)
    (rest : List Char) :
    takeDigits width ((Text.padLeft width '0' (toString n)).toList ++ rest) = some (n, rest) := by
  obtain ⟨length, all, value⟩ := Numeral.fills_padLeft positive fits
  generalize (Text.padLeft width '0' (toString n)).toList = digits at length all value
  have all' : digits.all Char.isDigit = true := List.all_eq_true.mpr all
  simp [takeDigits, ← length, all', value]

/-- Two digits are read as their number. -/
theorem takeDigits_twoDigits {n : Nat} (fits : n < 100) (rest : List Char) :
    takeDigits 2 ((Instant.twoDigits n).toList ++ rest) = some (n, rest) :=
  takeDigits_padLeft (by decide) fits rest

/-- A year of four digits is read as its number. -/
theorem takeDigits_yearText {year : Int} (least : 0 ≤ year) (most : year ≤ 9999)
    (rest : List Char) :
    takeDigits 4 ((Instant.yearText year).toList ++ rest) = some (year.toNat, rest) := by
  rw [Instant.yearText, if_pos ⟨least, most⟩]
  exact takeDigits_padLeft (by decide) (by omega) rest

/-- A date of a year with four digits is read again. -/
theorem takeDate_dateText {t : Instant} (least : 0 ≤ (Civil.ofDays t.day).year)
    (most : (Civil.ofDays t.day).year ≤ 9999) (rest : List Char) :
    takeDate (t.dateText.toList ++ rest) = some (Civil.ofDays t.day, rest) := by
  have valid := Civil.isValid_ofDays t.day
  obtain ⟨month, day⟩ : (Civil.ofDays t.day).month < 100 ∧ (Civil.ofDays t.day).day < 100 := by
    have days (year : Int) (month : Nat) : Civil.daysIn year month ≤ 31 := by
      unfold Civil.daysIn
      split_ifs <;> decide
    have bound := days (Civil.ofDays t.day).year (Civil.ofDays t.day).month
    simp only [Civil.isValid, Bool.and_eq_true, decide_eq_true_eq] at valid
    omega
  have year : ((Civil.ofDays t.day).year.toNat : Int) = (Civil.ofDays t.day).year :=
    Int.toNat_of_nonneg least
  simp [takeDate, Instant.dateText, takeDigits_yearText least most, takeDigits_twoDigits month,
    takeDigits_twoDigits day, takeOne, year, valid]

/-- A time of day outside of leap seconds is read again, if a universal time is meant. -/
theorem takeClock_clockText {t : Instant} (ordinary : t.nanos < Instant.perSecond)
    (rest : List Char) :
    takeClock (t.clockText.toList ++ 'Z' :: rest) = some (t.secondOfDay, 0, 'Z' :: rest) := by
  have inside : t.secondOfDay < 86400 := by
    unfold Instant.secondOfDay
    omega
  have leap : t.inLeapSecond = false := by
    simpa [Instant.inLeapSecond] using ordinary
  have hour : t.secondOfDay / 3600 < 100 := by omega
  have minute : t.secondOfDay / 60 % 60 < 100 := by omega
  have second : t.secondOfDay % 60 < 100 := by omega
  have proper : ¬ (24 ≤ t.secondOfDay / 3600 ∨ 60 ≤ t.secondOfDay / 60 % 60 ∨
      60 < t.secondOfDay % 60) := by omega
  have last : t.secondOfDay % 60 ≠ 60 := by omega
  have parts : 3600 * (t.secondOfDay / 3600) + 60 * (t.secondOfDay / 60 % 60) +
      t.secondOfDay % 60 = t.secondOfDay := by omega
  simp [takeClock, Instant.clockText, takeDigits_twoDigits hour, takeDigits_twoDigits minute,
    takeDigits_twoDigits second, takeOne, takeFraction, leap, proper, last, parts]

end Rfc3339

namespace Instant

/-- The second of an instant. -/
def wholeSecond (t : Instant) : Instant := ⟨t.seconds, 0⟩

/-- The second of an instant leaves out its part of a second. -/
theorem total_wholeSecond {t : Instant} (ordinary : t.nanos < perSecond) :
    t.wholeSecond.total = t.total / 1000000000 * 1000000000 := by
  simp only [wholeSecond, total, perSecond] at ordinary ⊢
  omega

/-- What is written of an instant is read as its second. -/
theorem ofRfc3339?_rfc3339 {t : Instant} (ordinary : t.nanos < perSecond)
    (least : 0 ≤ (Civil.ofDays t.day).year) (most : (Civil.ofDays t.day).year ≤ 9999) :
    ofRfc3339? t.rfc3339 = some t.wholeSecond := by
  have seconds : 86400 * t.day + t.secondOfDay = t.seconds := by
    unfold day secondOfDay
    omega
  have clock := Rfc3339.takeClock_clockText ordinary []
  simp [ofRfc3339?, rfc3339, Rfc3339.takeDate_dateText least most, Rfc3339.takeOne, clock,
    Rfc3339.takeOffset, Civil.toDays_ofDays, seconds, wholeSecond]

end Instant

end SeriesBench
