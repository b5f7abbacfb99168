import SeriesBench.Column.Kind

/-!
# Column builders

A builder collects the cells of one column in arrival order. Its storage never
changes; a value that the storage cannot hold leaves a null in its place, so every
append lengthens the column by exactly one cell.
-/

namespace SeriesBench

/-- A column under construction. -/
structure Builder where
  storage : Storage
  cells : Array Value
deriving Repr, DecidableEq

/-- The finished cells of one column. -/
structure Column where
  storage : Storage
  cells : List Value
deriving Repr, DecidableEq

namespace Builder

/-- The empty builder of a column of the kind. -/
def ofKind (kind : ColumnKind) : Builder :=
  ⟨kind.storage, #[]⟩

/-- How many cells there are. -/
def size (b : Builder) : Nat :=
  b.cells.size

/-- What a value, or the lack of one, leaves in a cell. -/
def cellOf (storage : Storage) : Option Value → Value
  | some value => if storage.holds value then value else .null
  | none => .null

/-- The builder with one more cell. -/
def append (b : Builder) (value : Option Value) : Builder :=
  { b with cells := b.cells.push (cellOf b.storage value) }

/-- The column that has been collected. -/
def column (b : Builder) : Column :=
  ⟨b.storage, b.cells.toList⟩

/-- The builder as it is once its column has been taken. -/
def reset (b : Builder) : Builder :=
  { b with cells := #[] }

end Builder

/-- How many cells of a column are null. -/
def Column.nullCount (c : Column) : Nat :=
  c.cells.count .null

end SeriesBench
