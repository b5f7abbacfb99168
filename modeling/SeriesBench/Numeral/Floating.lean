/-!
# Binary floating-point numbers

A finite number of a floating-point format is a whole number of units, the unit
being the least positive number of the format. This makes order and addition
those of the natural numbers; what remains of the format is which counts of units
it can represent, and that is one rounding function.

A result is always the representable number nearest to the exact one, a tie going
to the even neighbour. Rounding has no upper end here: a count that is too large
for the format is recognised by `Format.overflows`.
-/

namespace SeriesBench.Numeral

/-- The quotient rounded to the nearest whole number, a tie to the even one. -/
def roundDiv (num den : Nat) : Nat :=
  let whole := num / den
  let twice := 2 * (num % den)
  if den < twice then whole + 1
  else if twice = den ∧ whole % 2 = 1 then whole + 1
  else whole

/-- A binary interchange format: the bits of a significand, the leading one
included, and the bits of an exponent. -/
structure Format where
  precision : Nat
  exponentBits : Nat
deriving Repr, DecidableEq

namespace Format

/-- The format of 32 bits. -/
def single : Format := ⟨24, 8⟩

/-- The format of 64 bits. -/
def double : Format := ⟨53, 11⟩

/-- One is this power of two of units. -/
def unitBits (f : Format) : Nat :=
  Nat.pow 2 (f.exponentBits - 1) + f.precision - 3

/-- The units in one. -/
def unitsPerOne (f : Format) : Nat :=
  Nat.pow 2 f.unitBits

/-- By how many bits a count of units is too long for a significand. -/
def excess (f : Format) (units : Nat) : Nat :=
  units.log2 + 1 - f.precision

/-- The representable count of units nearest to a quotient of units. -/
def roundUnits (f : Format) (num den : Nat) : Nat :=
  let step := Nat.pow 2 (f.excess (num / den))
  roundDiv num (den * step) * step

/-- The units of the number nearest to a quotient. -/
def nearest (f : Format) (num den : Nat) : Nat :=
  f.roundUnits (num * f.unitsPerOne) den

/-- Whether a count of units lies beyond the largest finite number. -/
def overflows (f : Format) (units : Nat) : Bool :=
  Nat.pow 2 (Nat.pow 2 (f.exponentBits - 1) + f.unitBits) ≤ units

/-- The stored word of a representable count of units: exponent and significand
side by side, so that the words of larger numbers are larger. -/
def wordOfUnits (f : Format) (units : Nat) : Nat :=
  let shift := f.excess units
  shift * Nat.pow 2 (f.precision - 1) + units >>> shift

/-- The stored word of positive infinity. -/
def infinityWord (f : Format) : Nat :=
  (Nat.pow 2 f.exponentBits - 1) * Nat.pow 2 (f.precision - 1)

/-- The sign bit of a stored word. -/
def signWord (f : Format) : Nat :=
  Nat.pow 2 (f.precision - 1 + f.exponentBits)

end Format

/-- A number of some format: finite ones by sign and count of units. The zeros
of the two signs are different numbers; all that is not a number is one. -/
inductive Floating where
  | nan
  | infinite (negative : Bool)
  | finite (negative : Bool) (units : Nat)
deriving Repr, DecidableEq, Inhabited

namespace Floating

/-- The number of the given sign with this count of units, infinite where the
format has no finite one. -/
def ofUnits (f : Format) (negative : Bool) (units : Nat) : Floating :=
  if f.overflows units then .infinite negative else .finite negative units

/-- The stored word of a number, and none for what is not a number, whose word
is not determined. -/
def word? (f : Format) : Floating → Option Nat
  | nan => none
  | infinite negative => some ((if negative then f.signWord else 0) + f.infinityWord)
  | finite negative units => some ((if negative then f.signWord else 0) + f.wordOfUnits units)

end Floating

end SeriesBench.Numeral
