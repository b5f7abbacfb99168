import SeriesBench.Numeral.Decimal
import SeriesBench.Point

/-!
# Column kinds and values

A table's column has a kind, fixed when the table is first seen. The kind decides
how a text is read into a value, how the column is stored, and how it is declared.
Two kinds may share one storage: a column of nulls is stored as text.
-/

namespace SeriesBench

/-- How the cells of a column are stored. -/
inductive Storage where
  | boolean | int32 | int64 | float32 | float64 | binary | text | timestamp
deriving Repr, DecidableEq, Inhabited

/-- The name of a storage in the columnar format. -/
def Storage.name : Storage → String
  | boolean => "Boolean"
  | int32 => "Int32"
  | int64 => "Int64"
  | float32 => "Float32"
  | float64 => "Float64"
  | binary => "Binary"
  | text => "Utf8"
  | timestamp => "Timestamp(Nanosecond, None)"

/-- A value in a cell. -/
inductive Value where
  | null
  | boolean (b : Bool)
  | int32 (n : Int32)
  | int64 (n : Int64)
  | float32 (x : Numeral.Floating)
  | float64 (x : Numeral.Floating)
  | binary (bytes : List UInt8)
  | text (s : String)
  | timestamp (nanoseconds : Int64)
deriving Repr, DecidableEq, Inhabited

/-- Whether a value can lie in a cell as something other than null. -/
def Storage.holds : Storage → Value → Bool
  | boolean, .boolean _ => true
  | int32, .int32 _ => true
  | int64, .int64 _ => true
  | float32, .float32 _ => true
  | float64, .float64 _ => true
  | binary, .binary _ => true
  | text, .text _ => true
  | timestamp, .timestamp _ => true
  | _, _ => false

/-- The kind of a table's column. -/
inductive ColumnKind where
  | null | boolean | int32 | int64 | float32 | float64 | binary | text | timestamp
deriving Repr, DecidableEq, Inhabited

namespace ColumnKind

/-- The kind of the column that a point's column of this type goes to. -/
def ofTag : TypeTag → ColumnKind
  | .null => null
  | .bool => boolean
  | .int32 => int32
  | .int64 => int64
  | .float32 => float32
  | .float64 => float64
  | .binary => binary
  | .string => text

/-- How a column of the kind is stored. -/
def storage : ColumnKind → Storage
  | boolean => .boolean
  | int32 => .int32
  | int64 => .int64
  | float32 => .float32
  | float64 => .float64
  | binary => .binary
  | null | text => .text
  | timestamp => .timestamp

/-- The type that declares a column of the kind. -/
def sqlType : ColumnKind → String
  | null | text => "STRING"
  | boolean => "BOOLEAN"
  | int32 => "INT32"
  | int64 => "INT64"
  | float32 => "FLOAT32"
  | float64 => "FLOAT64"
  | binary => "BINARY"
  | timestamp => "TIMESTAMP(9)"

/-- The name of the kind. -/
def name : ColumnKind → String
  | null => "Null"
  | boolean => "Boolean"
  | int32 => "Int32"
  | int64 => "Int64"
  | float32 => "Float32"
  | float64 => "Float64"
  | binary => "Binary"
  | text => "String"
  | timestamp => "TimestampNanosecond"

/-- The value that a text denotes in a column of the kind. A column of nulls takes any
text and keeps none; a boolean is true when the text is `true` and else false. -/
def read (kind : ColumnKind) (text : String) : Option Value :=
  match kind with
  | null => some .null
  | boolean => some (.boolean (text == "true"))
  | int32 => (Numeral.readSigned 32 text).map fun n => .int32 (Int32.ofInt n)
  | int64 => (Numeral.readSigned 64 text).map fun n => .int64 (Int64.ofInt n)
  | float32 => (Numeral.readFloating .single text).map .float32
  | float64 => (Numeral.readFloating .double text).map .float64
  | binary => some (.binary text.toUTF8.data.toList)
  | .text => some (.text text)
  | timestamp => (Numeral.readSigned 64 text).map fun n => .timestamp (Int64.ofInt n)

/-- What a kind reads its storage can hold, unless the kind is that of nulls. -/
theorem storage_holds_of_read {kind : ColumnKind} {text : String} {value : Value}
    (accepted : kind.read text = some value) (typed : kind ≠ null) :
    kind.storage.holds value = true := by
  cases kind <;> simp [read] at accepted typed <;>
    first
    | (subst accepted; rfl)
    | (obtain ⟨_, _, rfl⟩ := accepted; rfl)

end ColumnKind

end SeriesBench
