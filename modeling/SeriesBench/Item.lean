import SeriesBench.Scan

/-!
# Items

What travels from the scanner to the workers: points already decoded, or lines still
to be decoded by the worker that takes them. Both know the table they belong to, so
they can be routed in either form.
-/

namespace SeriesBench

/-- A point, or the line of one. -/
inductive Item where
  | point (p : Point)
  | line (text : String)
deriving Repr, DecidableEq, Inhabited

namespace Item

/-- The table an item belongs to. For a line it is the first word, which is empty if
there is no word. -/
def measurement : Item → String
  | point p => p.measurement
  | line text => (Text.words text).headD ""

/-- A point that has columns. -/
def nonEmpty (p : Point) : Option Point :=
  if p.isEmpty then none else some p

/-- The point of an item: none if it has no columns, a fault if a line has none. -/
def point? : Item → Except Fault (Option Point)
  | point p => .ok (nonEmpty p)
  | line text => (Line.decode text).map nonEmpty

end Item

/-- Where lines are decoded. -/
inductive Intake where
  /-- While scanning; what travels are points. -/
  | points
  /-- By the workers; what travels are lines. -/
  | lines
deriving Repr, DecidableEq, Inhabited

namespace Intake

/-- The bytes that an item takes in a batch. A text or a list takes 24 beside what is in it;
a point has four of them, and a line is one. -/
def itemBytes : Intake → Nat
  | points => 96
  | lines => 24

/-- The name of an intake. -/
def name : Intake → String
  | points => "points"
  | lines => "lines"

/-- The intake of a name. -/
def read (text : String) : Except Fault Intake :=
  if text = "points" then .ok points
  else if text = "lines" then .ok lines
  else .error (.config
    ("unknown scan mode " ++ Text.quoted text ++ ", expected points or lines"))

end Intake

/-- The next item of a scan, in the form that the intake asks for. -/
def Scanner.nextItem (s : Scanner) : Intake → Except Fault (Option Item) × Scanner
  | .points =>
    let (found, s) := s.nextPoint
    (found.map (·.map .point), s)
  | .lines =>
    let (found, s) := s.nextLine
    (found.map (·.map .line), s)

end SeriesBench
