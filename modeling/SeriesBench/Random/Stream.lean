import SeriesBench.Random.ChaCha

/-!
# Random draws

A random stream is a position in the word sequence of a key, and the key comes from a seed
of 64 bits. A draw takes words in sequence, one for 32 bits and two for 64, low word first.

A number below a bound is the high half of a product, with one more draw where the low half
leaves the last unit in doubt, so its distribution is uniform up to a negligible rest. In
`uniform` the draws that would make it uneven are refused instead.
-/

namespace SeriesBench.Random

/-- The state of the generator that turns a seed into a key. -/
def nextSeed (seed : UInt64) : UInt64 :=
  seed * 6364136223846793005 + 11634580027462260723

/-- The word that a state of that generator gives: its high bits folded and rotated. -/
def seedWord (state : UInt64) : UInt32 :=
  let folded := (((state >>> 18) ^^^ state) >>> 27).toUInt32
  let turn := (state >>> 59).toUInt32
  (folded >>> turn) ||| (folded <<< ((32 - turn) % 32))

/-- The key of a seed. -/
def Key.ofSeed (seed : UInt64) : Key :=
  let s0 := nextSeed seed
  let s1 := nextSeed s0
  let s2 := nextSeed s1
  let s3 := nextSeed s2
  let s4 := nextSeed s3
  let s5 := nextSeed s4
  let s6 := nextSeed s5
  let s7 := nextSeed s6
  ⟨⟨seedWord s0, seedWord s1, seedWord s2, seedWord s3⟩,
    ⟨seedWord s4, seedWord s5, seedWord s6, seedWord s7⟩⟩

/-- A position in the word sequence of a key. -/
structure Stream where
  key : Key
  position : Nat
deriving Repr, DecidableEq, Inhabited

/-- The width of a draw. -/
inductive Width where
  | half
  | full
deriving Repr, DecidableEq

/-- The number of values that a draw of the width can have. -/
def Width.size : Width → Nat
  | half => Nat.pow 2 32
  | full => Nat.pow 2 64

namespace Stream

/-- The stream of a seed, at its beginning. -/
def ofSeed (seed : UInt64) : Stream :=
  ⟨.ofSeed seed, 0⟩

/-- A number of the width, and the stream after it. -/
def draw (s : Stream) : Width → Nat × Stream
  | .half => ((s.key.word s.position).toNat, { s with position := s.position + 1 })
  | .full =>
    ((s.key.word s.position).toNat + Nat.pow 2 32 * (s.key.word (s.position + 1)).toNat,
      { s with position := s.position + 2 })

/-- A number below a bound that is not zero and no larger than the width allows. -/
def below (s : Stream) (width : Width) (bound : Nat) : Nat × Stream :=
  let size := width.size
  let (first, s) := s.draw width
  let low := first * bound % size
  let high := first * bound / size
  if size - bound < low then
    let (second, s) := s.draw width
    if size ≤ low + second * bound / size then (high + 1, s) else (high, s)
  else (high, s)

/-- One draw of a number below a bound, of which the values that would make some numbers
likelier than others are refused. -/
def uniform? (s : Stream) (width : Width) (bound : Nat) : Option Nat × Stream :=
  let size := width.size
  let (first, s) := s.draw width
  if (size - bound) % bound ≤ first * bound % size then (some (first * bound / size), s)
  else (none, s)

/-- A draw never leaves the range of its width. -/
theorem draw_lt (s : Stream) (width : Width) : (s.draw width).1 < width.size := by
  cases width with
  | half => exact (s.key.word s.position).toNat_lt
  | full =>
    have low := (s.key.word s.position).toNat_lt
    have high := (s.key.word (s.position + 1)).toNat_lt
    have half : Nat.pow 2 32 = 4294967296 := rfl
    have full : Nat.pow 2 64 = 18446744073709551616 := rfl
    simp only [draw, Width.size, half, full]
    omega

end Stream

end SeriesBench.Random
