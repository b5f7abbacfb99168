import SeriesBench.Numeral.Floating
import SeriesBench.Numeral.Integer
import SeriesBench.Text.Blank

/-!
# Decimal numerals of floating-point numbers

The reader goes from text to an exact decimal, and from there in one rounding to
the format: no digit is dropped on the way. The words for infinity and for what
is not a number are read in any case; blanks are never skipped.

A number is written with a fixed number of decimal places, rounded to the nearest
numeral, a tie to the even last digit.
-/

namespace SeriesBench.Numeral

/-- What a numeral says, before any rounding: a special value, or an integer times
a power of ten. -/
inductive Decimal where
  | nan
  | infinite (negative : Bool)
  | scaled (negative : Bool) (digits : Nat) (exponent : Int)
deriving Repr, DecidableEq

namespace Decimal

/-- An optional sign and what follows it. -/
def readSign : List Char → Bool × List Char
  | '-' :: rest => (true, rest)
  | '+' :: rest => (false, rest)
  | rest => (false, rest)

/-- The exponent after the significand: nothing, or the mark with a signed run of
digits up to the end. -/
def readExponent : List Char → Option Int
  | [] => some 0
  | mark :: rest =>
    if mark = 'e' ∨ mark = 'E' then
      let (negative, digits) := readSign rest
      (readDigits digits).map fun n => if negative then -Int.ofNat n else Int.ofNat n
    else none

/-- A numeral in digits: a whole part and a fraction, one of which has a digit,
and an exponent. -/
def readScaled (negative : Bool) (s : List Char) : Option Decimal :=
  let whole := s.takeWhile Char.isDigit
  let afterWhole := s.dropWhile Char.isDigit
  let (fraction, afterFraction) := match afterWhole with
    | '.' :: rest => (rest.takeWhile Char.isDigit, rest.dropWhile Char.isDigit)
    | rest => ([], rest)
  match readDigits (whole ++ fraction) with
  | none => none
  | some digits =>
    (readExponent afterFraction).map fun exponent =>
      scaled negative digits (exponent - fraction.length)

/-- A numeral: a sign, then digits or one of the words `inf`, `infinity`, `nan`. -/
def read (s : String) : Option Decimal :=
  let (negative, rest) := readSign s.toList
  let word := String.ofList (rest.map Char.toLower)
  if word = "inf" ∨ word = "infinity" then some (infinite negative)
  else if word = "nan" then some nan
  else readScaled negative rest

/-- Decimal exponents beyond this bound on either side denote nothing but zero or
infinity in the formats of 32 and 64 bits. -/
def exponentBound : Int := 400

/-- The units of `digits` times ten to `exponent`, when that is in the range of the
formats: none if it is too large for any. -/
def units? (f : Format) (digits : Nat) (exponent : Int) : Option Nat :=
  let magnitude : Int := (Nat.toDigits 10 digits).length + exponent
  if digits = 0 then some 0
  else if exponentBound < magnitude then none
  else if magnitude < -exponentBound then some 0
  else if 0 ≤ exponent then some (f.nearest (digits * Nat.pow 10 exponent.toNat) 1)
  else some (f.nearest digits (Nat.pow 10 (-exponent).toNat))

/-- The number of the format nearest to the decimal. -/
def round (f : Format) : Decimal → Floating
  | nan => .nan
  | infinite negative => .infinite negative
  | scaled negative digits exponent =>
    match units? f digits exponent with
    | some units => .ofUnits f negative units
    | none => .infinite negative

end Decimal

/-- The number that a numeral denotes in a format. -/
def readFloating (f : Format) (s : String) : Option Floating :=
  (Decimal.read s).map (Decimal.round f)

/-- The quotient with `places` digits after the point. -/
def fixed (places num den : Nat) : String :=
  let scaled := roundDiv (num * Nat.pow 10 places) den
  if places = 0 then toString scaled
  else
    toString (scaled / Nat.pow 10 places) ++ "." ++
      Text.padLeft places '0' (toString (scaled % Nat.pow 10 places))

/-- A finite number of a format, given by its units, with `places` digits after
the point. -/
def fixedUnits (f : Format) (places units : Nat) : String :=
  fixed places units f.unitsPerOne

end SeriesBench.Numeral
