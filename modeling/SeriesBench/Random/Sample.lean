import Std.Data.HashSet
import SeriesBench.Numeral.Floating
import SeriesBench.Random.Stream

/-!
# Samples of distinct indices

Some different numbers below a length, drawn from a random stream. How they are drawn
depends on how many are wanted of how many there are; the limits between the methods are
comparisons of single-precision numbers. Few of many are drawn one by one, with a number
that comes up again giving way to the largest one allowed; a good part of the whole is
drawn by shuffling; the rest is drawn by refusing what has come up before.
-/

namespace SeriesBench.Random

open Numeral

/-- A drawn number joins the list; if it is there already, the greatest number allowed so
far takes its place there, and it is itself the last. -/
def joinDrawn (drawn : List Nat) (n greatest : Nat) : List Nat :=
  drawn.map (fun m => if m = n then greatest else m) ++ [n]

/-- Draws one number up to each of so many bounds, from `greatest` on. -/
def drawFew (s : Stream) (drawn : List Nat) (greatest : Nat) : Nat → List Nat × Stream
  | 0 => (drawn, s)
  | wanted + 1 =>
    let (n, s) := s.below .half (greatest + 1)
    drawFew s (joinDrawn drawn n greatest) (greatest + 1) wanted

/-- The array with the entries at two places exchanged. -/
def exchange (a : Array Nat) (i j : Nat) : Array Nat :=
  let x := a.getD i 0
  let y := a.getD j 0
  (a.setIfInBounds i y).setIfInBounds j x

/-- Exchanges each of so many places, from `place` on, with a random one not before it. -/
def shuffle (s : Stream) (a : Array Nat) (place : Nat) : Nat → Array Nat × Stream
  | 0 => (a, s)
  | wanted + 1 =>
    let (offset, s) := s.below .half (a.size - place)
    shuffle s (exchange a place (place + offset)) (place + 1) wanted

/-- The least number below a length that is not taken. -/
def leastFree (taken : Std.HashSet Nat) (length : Nat) : Nat :=
  ((List.range length).find? fun n => !taken.contains n).getD 0

/-- Draws until a number comes up that is not taken. The stream has no end, so a number
comes up sooner or later; after `patience` draws in vain it is the least one free. -/
def drawFree (width : Width) (length : Nat) (taken : Std.HashSet Nat) :
    Nat → Stream → Nat × Stream
  | 0, s => (leastFree taken length, s)
  | patience + 1, s =>
    match s.uniform? width length with
    | (some n, s) => if taken.contains n then drawFree width length taken patience s else (n, s)
    | (none, s) => drawFree width length taken patience s

/-- More draws than any run will see. -/
def patience : Nat := Nat.pow 2 64

/-- Draws so many numbers that are not taken. -/
def drawDistinct (width : Width) (length : Nat) (s : Stream) (taken : Std.HashSet Nat) :
    Nat → List Nat × Stream
  | 0 => ([], s)
  | wanted + 1 =>
    let (n, s) := drawFree width length taken patience s
    let (others, s) := drawDistinct width length s (taken.insert n) wanted
    (n :: others, s)

/-- Numbers of single precision in units. -/
def single (num den : Nat) : Nat := Format.single.nearest num den

/-- The sum of two, rounded. -/
def singleAdd (a b : Nat) : Nat := Format.single.roundUnits (a + b) 1

/-- The product of two, rounded. -/
def singleMul (a b : Nat) : Nat := Format.single.roundUnits (a * b) Format.single.unitsPerOne

/-- Lengths from here on weigh the methods differently. -/
def longLength : Nat := 500000

/-- Fewer indices than this are never drawn by refusal. -/
def fewIndices : Nat := 163

/-- Whether shuffling is the method for a small number of indices. -/
def shufflesFew (length amount : Nat) : Bool :=
  let long := longLength ≤ length
  let slope := if long then single 8 45 else single 16 10
  let base := if long then single 70 9 else single 10 1
  let count := single amount 1
  11 < amount &&
    single length 1 < singleMul (singleAdd base (singleMul slope count)) count

/-- Whether shuffling is the method for a larger number of indices. -/
def shufflesMany (length amount : Nat) : Bool :=
  let factor := if longLength ≤ length then single 330 9 else single 270 1
  single length 1 < singleMul factor (single amount 1)

/-- So many different numbers below a length, in the order they are drawn. -/
def sample (s : Stream) (length amount : Nat) : List Nat × Stream :=
  if Nat.pow 2 32 ≤ length then drawDistinct .full length s ∅ amount
  else if if amount < fewIndices then shufflesFew length amount else shufflesMany length amount then
    let (a, s) := shuffle s (Array.range length) 0 amount
    ((a.extract 0 amount).toList, s)
  else if amount < fewIndices then drawFew s [] (length - amount) amount
  else drawDistinct .half length s ∅ amount

end SeriesBench.Random
