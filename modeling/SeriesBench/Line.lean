import SeriesBench.Point
import SeriesBench.Text.Split

/-!
# Lines

A point on one line: the measurement, the timestamp, each column as a name and a
value around an equals sign, and at the end the numbers of the columns' types
between commas. Blanks separate these words, so none of them may hold a blank;
a null is written as the word `nil`.

`encode` writes every point that has columns. `decode` reads the same form back,
with any run of blanks between words and any spelling of the type numbers, and
puts all columns among the fields. A `Scribe` writes the lines of many points, and
what it keeps of one line is gone before the next.
-/

namespace SeriesBench

/-- What stands for a null value. -/
def nullWord : String := "nil"

namespace Entry

/-- The value as it stands on a line. -/
def wireText (e : Entry) : String :=
  e.text.getD nullWord

/-- The column as one word. -/
def pair (e : Entry) : String :=
  e.name ++ "=" ++ e.wireText

/-- The column of a type that a word spells: the name ends at the first equals sign. -/
def read (type : TypeTag) (word : String) : Except Fault Entry :=
  match Text.cut '=' word with
  | some (name, text) => .ok ⟨name, type, if text = nullWord then none else some text⟩
  | none => .error (.line ("token " ++ Text.quoted word ++ " is not a key=value pair"))

end Entry

namespace Line

/-- The words of a point's line, in order. -/
def wordsOf (p : Point) : List String :=
  p.measurement :: p.timestamp :: (p.columns.map Entry.pair ++
    [String.intercalate "," (p.columns.map fun e => e.type.numeral)])

/-- The line of a point; a point without columns has none. -/
def encode (p : Point) : Option String :=
  if p.isEmpty then none else some (String.intercalate " " (wordsOf p))

/-- The columns that a list of words and the last word's type numbers describe. -/
def decodeColumns (pairs : List String) (tags : String) : Except Fault (List Entry) := do
  let types ← (Text.parts ',' tags).mapM TypeTag.read
  if types.length = pairs.length then
    (types.zip pairs).mapM fun (type, pair) => Entry.read type pair
  else
    .error (.tagCount types.length pairs.length)

/-- The point of a line given by its words. -/
def decodeWords : List String → Except Fault Point
  | measurement :: timestamp :: first :: rest =>
    (decodeColumns (first :: rest).dropLast ((first :: rest).getLast (by simp))).map
      fun columns => ⟨measurement, timestamp, [], columns⟩
  | words => .error (.line s!"expected at least 3 tokens, found {words.length}")

/-- The point of a line. -/
def decode (line : String) : Except Fault Point :=
  decodeWords (Text.words line)

end Line

/-- A writer of lines, which puts each of them together in the same buffer. -/
structure Scribe where
  buffer : String
deriving Repr, DecidableEq, Inhabited

namespace Scribe

/-- A writer that has written nothing. -/
def fresh : Scribe := ⟨""⟩

/-- Puts the line of a point in the buffer, in place of what was there, and says whether the
point has one. -/
def fill (s : Scribe) (p : Point) : Bool × Scribe :=
  let cleared := { s with buffer := "" }
  match Line.encode p with
  | none => (false, cleared)
  | some line => (true, { cleared with buffer := cleared.buffer ++ line })

/-- Writes the line of a point and a line feed; a point without columns leaves no trace. -/
def write (s : Scribe) (p : Point) : String × Scribe :=
  match s.fill p with
  | (false, filled) => ("", filled)
  | (true, filled) =>
    let ended := { filled with buffer := filled.buffer ++ "\n" }
    (ended.buffer, ended)

/-- Writes points one after the other. -/
def writeAll (s : Scribe) : List Point → String × Scribe
  | [] => ("", s)
  | p :: rest =>
    let (text, next) := s.write p
    let (texts, last) := next.writeAll rest
    (text ++ texts, last)

end Scribe

namespace Line

/-- The lines of points, each ended by a line feed. -/
def encodeAll (points : List Point) : String :=
  (Scribe.fresh.writeAll points).1

end Line

end SeriesBench
