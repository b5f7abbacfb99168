/-!
# Blank characters, trimming and padding

The Unicode property White_Space as a predicate, and trimming by it. The set is
larger than the ASCII blanks: it has the vertical tab, the next-line control, the
no-break space and the spaces of the general punctuation block.

Padding brings a text to a least width by fill characters at one side. A text that is
already wide enough stays as it is.
-/

namespace SeriesBench.Text

/-- The property White_Space of the Unicode standard. -/
def isBlank (c : Char) : Bool :=
  let n := c.toNat
  (0x9 ≤ n && n ≤ 0xd) || n == 0x20 || n == 0x85 || n == 0xa0 || n == 0x1680 ||
    (0x2000 ≤ n && n ≤ 0x200a) || n == 0x2028 || n == 0x2029 || n == 0x202f ||
    n == 0x205f || n == 0x3000

/-- A list without its longest tail of elements that satisfy `drop`. -/
def dropTail (drop : α → Bool) (xs : List α) : List α :=
  (xs.reverse.dropWhile drop).reverse

/-- The text without the blanks at its two ends. -/
def trim (s : String) : String :=
  String.ofList (dropTail isBlank (s.toList.dropWhile isBlank))

/-- Whether a text has no character but blanks. -/
def isBlankText (s : String) : Bool :=
  s.toList.all isBlank

/-- The text moved to the right end of a field of at least `width` characters. -/
def padLeft (width : Nat) (fill : Char) (s : String) : String :=
  String.ofList (List.replicate (width - s.length) fill) ++ s

/-- The text followed by enough copies of `fill` to make up for a `width` of which
it takes `taken`. -/
def padRight (width taken : Nat) (fill : Char) (s : String) : String :=
  s ++ String.ofList (List.replicate (width - taken) fill)

end SeriesBench.Text
