import SeriesBench.Fault
import SeriesBench.Numeral.Integer

/-!
# Points

A point is one row of a table that is named by the point's measurement: a
timestamp and typed columns, tags before fields. Values are kept as the text they
came in; they are converted only when a table takes them.
-/

namespace SeriesBench

/-- The type of a column as points carry it. -/
inductive TypeTag where
  | null | bool | int32 | int64 | float32 | float64 | binary | string
deriving Repr, DecidableEq, Inhabited

namespace TypeTag

/-- The number that stands for the type on a line. -/
def number : TypeTag → Nat
  | null => 0
  | bool => 1
  | int32 => 2
  | int64 => 3
  | float32 => 4
  | float64 => 5
  | binary => 6
  | string => 7

/-- The type with a number, if there is one. -/
def ofNumber? : Nat → Option TypeTag
  | 0 => some null
  | 1 => some bool
  | 2 => some int32
  | 3 => some int64
  | 4 => some float32
  | 5 => some float64
  | 6 => some binary
  | 7 => some string
  | _ => none

/-- The numeral of a type's number. -/
def numeral (type : TypeTag) : String :=
  toString type.number

/-- The type whose number a numeral of one byte denotes. -/
def ofNumeral? (text : String) : Option TypeTag :=
  (Numeral.readUnsigned 256 text).bind ofNumber?

/-- The type with this numeral, or the fault that there is none. -/
def read (text : String) : Except Fault TypeTag :=
  match ofNumeral? text with
  | some type => .ok type
  | none => .error (.unknownTag text)

/-- A type is found by its number. -/
theorem ofNumber?_number (type : TypeTag) : ofNumber? type.number = some type := by
  cases type <;> rfl

/-- A number that is found is the number of the type. -/
theorem ofNumber?_eq_some_iff {n : Nat} {type : TypeTag} :
    ofNumber? n = some type ↔ n = type.number := by
  constructor
  · intro found
    unfold ofNumber? at found
    split at found <;> simp_all <;> subst found <;> rfl
  · rintro rfl
    exact ofNumber?_number type

end TypeTag

/-- One column of a point: a name, a type, and the text of a value or none for null. -/
structure Entry where
  name : String
  type : TypeTag
  text : Option String
deriving Repr, DecidableEq, Inhabited

/-- A row: the table it belongs to, its time, and its columns. -/
structure Point where
  measurement : String
  timestamp : String
  tags : List Entry
  fields : List Entry
deriving Repr, DecidableEq, Inhabited

namespace Point

/-- A point without columns at a time given in nanoseconds since the epoch. -/
def empty (measurement : String) (timestamp : Int) : Point :=
  ⟨measurement, toString timestamp, [], []⟩

/-- All columns, tags before fields. -/
def columns (p : Point) : List Entry :=
  p.tags ++ p.fields

/-- How many columns a point has, the timestamp aside. -/
def width (p : Point) : Nat :=
  p.tags.length + p.fields.length

/-- A point without columns says nothing. -/
def isEmpty (p : Point) : Bool :=
  p.tags.isEmpty && p.fields.isEmpty

/-- The point with all its columns among the fields. -/
def flat (p : Point) : Point :=
  { p with tags := [], fields := p.columns }

/-- A point has as many columns as it is wide. -/
theorem length_columns (p : Point) : p.columns.length = p.width := by
  simp [columns, width]

/-- A point is empty if it has no columns. -/
theorem isEmpty_iff (p : Point) : p.isEmpty = true ↔ p.columns = [] := by
  simp [isEmpty, columns]

end Point

end SeriesBench
