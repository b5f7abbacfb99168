import SeriesBench.Time.Instant

/-!
# Instants in the form of RFC 3339

The reader of the form that `Instant.rfc3339` writes and of all its variants: a fraction of
a second, of which the first nine digits count; an offset in place of the mark of universal
time; a blank or a small letter between date and time. A sixtieth second is a leap second
in any minute.
-/

namespace SeriesBench

namespace Rfc3339

/-- The number that so many digits denote, and what follows them. -/
def takeDigits (count : Nat) (s : List Char) : Option (Nat × List Char) :=
  let digits := s.take count
  if digits.length = count ∧ digits.all Char.isDigit then
    some (Nat.ofDigitChars 10 digits 0, s.drop count)
  else none

/-- What follows one of some characters. -/
def takeOne (choices : List Char) : List Char → Option (List Char)
  | [] => none
  | c :: rest => if choices.contains c then some rest else none

/-- A date that the calendar has, and what follows it. -/
def takeDate (s : List Char) : Option (Civil × List Char) := do
  let (year, s) ← takeDigits 4 s
  let s ← takeOne ['-'] s
  let (month, s) ← takeDigits 2 s
  let s ← takeOne ['-'] s
  let (day, s) ← takeDigits 2 s
  let date : Civil := ⟨year, month, day⟩
  if date.isValid then some (date, s) else none

/-- The nanoseconds of a fraction, if there is one, and what follows it. -/
def takeFraction : List Char → Option (Nat × List Char)
  | '.' :: rest =>
    let digits := rest.takeWhile Char.isDigit
    if digits.isEmpty then none
    else
      let nine := (digits ++ List.replicate 9 '0').take 9
      some (Nat.ofDigitChars 10 nine 0, rest.dropWhile Char.isDigit)
  | s => some (0, s)

/-- The second of the day and the nanoseconds of a time of day, and what follows it. -/
def takeClock (s : List Char) : Option (Nat × Nat × List Char) := do
  let (hour, s) ← takeDigits 2 s
  let s ← takeOne [':'] s
  let (minute, s) ← takeDigits 2 s
  let s ← takeOne [':'] s
  let (second, s) ← takeDigits 2 s
  let (nanos, s) ← takeFraction s
  if 24 ≤ hour ∨ 60 ≤ minute ∨ 60 < second then none
  else if second = 60 then some (3600 * hour + 60 * minute + 59, nanos + Instant.perSecond, s)
  else some (3600 * hour + 60 * minute + second, nanos, s)

/-- The hours and minutes of an offset, in seconds, and what follows them. -/
def takeDistance (s : List Char) : Option (Nat × List Char) := do
  let (hours, s) ← takeDigits 2 s
  let s ← takeOne [':'] s
  let (minutes, s) ← takeDigits 2 s
  if 24 ≤ hours ∨ 60 ≤ minutes then none else some (3600 * hours + 60 * minutes, s)

/-- The seconds by which local time is ahead, and what follows. The minus sign may be the
hyphen or the sign proper. -/
def takeOffset : List Char → Option (Int × List Char)
  | [] => none
  | c :: rest =>
    if c = 'Z' ∨ c = 'z' then some (0, rest)
    else if c = '+' then (takeDistance rest).map fun (ahead, s) => (Int.ofNat ahead, s)
    else if c = '-' ∨ c = '\u2212' then
      (takeDistance rest).map fun (behind, s) => (-Int.ofNat behind, s)
    else none

end Rfc3339

open Rfc3339 in
/-- The instant that a text denotes. -/
def Instant.ofRfc3339? (text : String) : Option Instant := do
  let (date, s) ← takeDate text.toList
  let s ← takeOne ['T', 't', ' '] s
  let (second, nanos, s) ← takeClock s
  let (ahead, s) ← takeOffset s
  if s.isEmpty then some ⟨86400 * date.toDays + second - ahead, nanos⟩ else none

end SeriesBench
