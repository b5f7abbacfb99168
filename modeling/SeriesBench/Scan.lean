import SeriesBench.Line
import SeriesBench.Text.Blank

/-!
# Scanning

The input arrives in pieces of any size and is consumed line by line, forward only.
Blank lines are passed over, lines that are not valid UTF-8 are dropped, and the two
ways of asking for more differ only in how far a line is taken: as it stands, or
decoded into a point, where a line that describes none is dropped too.

How the input was cut into pieces never shows, except where a read fails: the part of
a line that was read before the failure is lost with it.
-/

namespace SeriesBench

/-- What one read of the input gives. -/
inductive Chunk where
  /-- Some bytes; no bytes mean that the input has ended for now. -/
  | bytes (data : List UInt8)
  /-- Nothing happened, and the read is to be repeated. -/
  | interrupted
  /-- The read failed. -/
  | failed
deriving Repr, DecidableEq

/-- What counts while scanning. -/
structure Tally where
  /-- Lines consumed, of any sort. -/
  lines : Nat
  /-- Lines dropped: not UTF-8 or, when points were asked for, not a point. -/
  dropped : Nat
deriving Repr, DecidableEq, Inhabited

/-- What asking for a line finds. -/
inductive Reading where
  /-- A line with the newline that ends it; the last line may lack it. -/
  | line (bytes : List UInt8)
  /-- No line, for the input had ended at this moment. -/
  | pause
  /-- No line, for a read failed on the way to it. -/
  | failed
deriving Repr, DecidableEq

/-- The byte that ends a line. -/
def newline : UInt8 := 10

/-- The complete lines at the front of some bytes, each with its newline. -/
def completeLines (data : List UInt8) : List (List UInt8) :=
  (data.splitOn newline).dropLast.map (· ++ [newline])

/-- The bytes after the last newline. -/
def openLine (data : List UInt8) : List UInt8 :=
  (data.splitOn newline).getLast (List.splitOn_ne_nil _ _)

/-- A line that ended without a newline, unless it has not even begun. -/
def unfinished (begun : List UInt8) (otherwise : List Reading) : List Reading :=
  if begun.isEmpty then otherwise else [.line begun]

/-- All that asking for lines finds, in order, when the reads give these pieces and
`begun` has been read of the current line. -/
def readings (begun : List UInt8) : List Chunk → List Reading
  | [] => unfinished begun []
  | .interrupted :: rest => readings begun rest
  | .failed :: rest => .failed :: readings [] rest
  | .bytes [] :: rest => unfinished begun [.pause] ++ readings [] rest
  | .bytes (b :: data) :: rest =>
    let known := begun ++ b :: data
    (completeLines known).map .line ++ readings (openLine known) rest

/-- The state of a scan: what is still to be found, and the counts so far. Once
nothing is left the input has ended for good. -/
structure Scanner where
  upcoming : List Reading
  tally : Tally
deriving Repr, DecidableEq

/-- What becomes of a line. -/
inductive Verdict (α : Type) where
  /-- It is what was asked for. -/
  | take (unit : α)
  /-- It is passed over silently. -/
  | skip
  /-- It is dropped and counted. -/
  | drop
deriving Repr, DecidableEq

namespace Scanner

/-- The scan of the input that the reads give. -/
def ofChunks (chunks : List Chunk) : Scanner :=
  ⟨readings [] chunks, ⟨0, 0⟩⟩

/-- The scan of an input that is at hand as a whole. -/
def ofBytes (data : List UInt8) : Scanner :=
  ofChunks [.bytes data]

/-- The text of a line's bytes, if they are UTF-8. -/
def textOf (bytes : List UInt8) : Option String :=
  String.fromUTF8? (ByteArray.mk bytes.toArray)

/-- The bytes of a text. -/
def bytesOfText (text : String) : List UInt8 :=
  text.toUTF8.data.toList

/-- A line without the line feeds and carriage returns at its end. -/
def bare (line : String) : String :=
  String.ofList (Text.dropTail (fun c => c == '\n' || c == '\r') line.toList)

/-- What becomes of the bytes of a line, when a text that is not blank is judged by
`judge` without its line end. -/
def verdictOf (judge : String → Verdict α) (bytes : List UInt8) : Verdict α :=
  match textOf bytes with
  | none => .drop
  | some text => if Text.isBlankText text then .skip else judge (bare text)

/-- The next line that is taken, from what is still to be found and the counts so far.
It consumes the lines before it, and counts all of them. -/
def seek (judge : String → Verdict α) :
    List Reading → Tally → Except Fault (Option α) × Scanner
  | [], tally => (.ok none, ⟨[], tally⟩)
  | .pause :: rest, tally => (.ok none, ⟨rest, tally⟩)
  | .failed :: rest, tally => (.error (.input tally.lines), ⟨rest, tally⟩)
  | .line bytes :: rest, tally =>
    let counted := { tally with lines := tally.lines + 1 }
    match verdictOf judge bytes with
    | .take unit => (.ok (some unit), ⟨rest, counted⟩)
    | .skip => seek judge rest counted
    | .drop => seek judge rest { counted with dropped := counted.dropped + 1 }

/-- The next line that is neither blank nor invalid, undecoded. -/
def nextLine (s : Scanner) : Except Fault (Option String) × Scanner :=
  seek .take s.upcoming s.tally

/-- A line that decodes is taken, unless its point has no columns; any other is dropped. -/
def judgePoint (line : String) : Verdict Point :=
  match Line.decode line with
  | .ok point => if point.isEmpty then .skip else .take point
  | .error _ => .drop

/-- The next line that decodes, as a point. -/
def nextPoint (s : Scanner) : Except Fault (Option Point) × Scanner :=
  seek judgePoint s.upcoming s.tally

end Scanner

end SeriesBench
