/-!
# The ChaCha stream

A key determines an endless sequence of words of 32 bits, in blocks of sixteen. A block is
made from four rows of four words (constants, two rows of key, and the block's number) by
twelve rounds of mixing, after which the rows before the mixing are added. The rounds
alternate between columns and diagonals; a diagonal round is a column round between two
rotations of the rows.
-/

namespace SeriesBench.Random

/-- A row of four words. -/
structure Row where
  w0 : UInt32
  w1 : UInt32
  w2 : UInt32
  w3 : UInt32
deriving Repr, DecidableEq, Inhabited

namespace Row

/-- Combines two rows word by word. -/
def zip (f : UInt32 → UInt32 → UInt32) (a b : Row) : Row :=
  ⟨f a.w0 b.w0, f a.w1 b.w1, f a.w2 b.w2, f a.w3 b.w3⟩

/-- The bits of a word rotated to the left. -/
def rotateWord (bits : UInt32) (w : UInt32) : UInt32 :=
  (w <<< bits) ||| (w >>> (32 - bits))

/-- The bits of each word rotated to the left. -/
def rotateBits (bits : UInt32) (a : Row) : Row :=
  ⟨rotateWord bits a.w0, rotateWord bits a.w1, rotateWord bits a.w2, rotateWord bits a.w3⟩

/-- The words moved one place to the left, the first to the end. -/
def shift (a : Row) : Row :=
  ⟨a.w1, a.w2, a.w3, a.w0⟩

/-- The words of a row. -/
def toList (a : Row) : List UInt32 :=
  [a.w0, a.w1, a.w2, a.w3]

end Row

/-- Four rows. -/
structure Rows where
  a : Row
  b : Row
  c : Row
  d : Row
deriving Repr, DecidableEq, Inhabited

namespace Rows

/-- Mixes each of the four columns. -/
def columnRound (g : Rows) : Rows :=
  let a := g.a.zip (· + ·) g.b
  let d := (g.d.zip (· ^^^ ·) a).rotateBits 16
  let c := g.c.zip (· + ·) d
  let b := (g.b.zip (· ^^^ ·) c).rotateBits 12
  let a := a.zip (· + ·) b
  let d := (d.zip (· ^^^ ·) a).rotateBits 8
  let c := c.zip (· + ·) d
  let b := (b.zip (· ^^^ ·) c).rotateBits 7
  ⟨a, b, c, d⟩

/-- Mixes each of the four diagonals. -/
def diagonalRound (g : Rows) : Rows :=
  let turned : Rows := ⟨g.a, g.b.shift, g.c.shift.shift, g.d.shift.shift.shift⟩
  let mixed := turned.columnRound
  ⟨mixed.a, mixed.b.shift.shift.shift, mixed.c.shift.shift, mixed.d.shift⟩

/-- So many pairs of rounds. -/
def doubleRounds : Nat → Rows → Rows
  | 0, g => g
  | n + 1, g => doubleRounds n g.columnRound.diagonalRound

/-- The sum of four rows and four others, word by word. -/
def add (g h : Rows) : Rows :=
  ⟨g.a.zip (· + ·) h.a, g.b.zip (· + ·) h.b, g.c.zip (· + ·) h.c, g.d.zip (· + ·) h.d⟩

/-- The words of four rows, row by row. -/
def toList (g : Rows) : List UInt32 :=
  g.a.toList ++ g.b.toList ++ g.c.toList ++ g.d.toList

end Rows

/-- A key: eight words in two rows. -/
structure Key where
  low : Row
  high : Row
deriving Repr, DecidableEq, Inhabited

/-- The first row of every block. -/
def constants : Row :=
  ⟨0x61707865, 0x3320646e, 0x79622d32, 0x6b206574⟩

/-- The rows of a block before mixing. The block's number is one of 64 bits. -/
def Key.rows (key : Key) (block : Nat) : Rows :=
  ⟨constants, key.low, key.high,
    ⟨UInt32.ofNat block, UInt32.ofNat (block / Nat.pow 2 32), 0, 0⟩⟩

/-- The sixteen words of a block. -/
def Key.block (key : Key) (number : Nat) : List UInt32 :=
  let before := key.rows number
  ((Rows.doubleRounds 6 before).add before).toList

/-- The word at a position of the stream. -/
def Key.word (key : Key) (position : Nat) : UInt32 :=
  (key.block (position / 16)).getD (position % 16) 0

end SeriesBench.Random
