/-!
# Integer numerals

Readers of decimal integers. A numeral has at most one sign and at least one
digit, and nothing else: no blanks, no grouping, no other base. Leading zeros
are allowed. A numeral outside the range that is asked for is no numeral.
-/

namespace SeriesBench.Numeral

/-- The number that a non-empty run of decimal digits denotes. -/
def readDigits (s : List Char) : Option Nat :=
  if s.isEmpty then none
  else if s.all Char.isDigit then some (Nat.ofDigitChars 10 s 0)
  else none

/-- An unsigned numeral below `limit`; a plus sign may precede the digits. -/
def readUnsigned (limit : Nat) (s : String) : Option Nat :=
  let digits := match s.toList with
    | '+' :: rest => rest
    | whole => whole
  (readDigits digits).filter (· < limit)

/-- A numeral with an optional sign of either kind. -/
def readInteger (s : String) : Option Int :=
  match s.toList with
  | '+' :: rest => (readDigits rest).map Int.ofNat
  | '-' :: rest => (readDigits rest).map fun n => -Int.ofNat n
  | whole => (readDigits whole).map Int.ofNat

/-- Whether an integer is in the range of two's complement words of the given width. -/
def fitsWord (width : Nat) (n : Int) : Bool :=
  let limit := Int.ofNat (Nat.pow 2 (width - 1))
  decide (-limit ≤ n ∧ n < limit)

/-- A numeral in the range of two's complement words of the given width. -/
def readSigned (width : Nat) (s : String) : Option Int :=
  (readInteger s).filter (fitsWord width)

end SeriesBench.Numeral
