import SeriesBench.Column.Builder

/-!
# Records

A record is a batch of rows in columns under a fixed schema. `Record.make?` is the
only way to one: it accepts columns that match the schema in number and storage,
are equally long, and hold no null where the schema forbids it.
-/

namespace SeriesBench

/-- The declaration of a column of a record. -/
structure FieldDef where
  name : String
  storage : Storage
  nullable : Bool
deriving Repr, DecidableEq

/-- Whether a column fits its declaration in a record of the given length. -/
def FieldDef.fits (field : FieldDef) (rows : Nat) (column : Column) : Bool :=
  field.storage == column.storage && column.cells.length == rows &&
    (field.nullable || column.nullCount == 0)

/-- Whether columns make up a record: there is at least one, and each fits the
declaration in its place. -/
def fitsAll (fields : List FieldDef) (rows : Nat) (columns : List Column) : Bool :=
  !fields.isEmpty && fields.length == columns.length &&
    (fields.zip columns).all fun (field, column) => field.fits rows column

/-- Rows in columns under a schema. -/
structure Record where
  fields : List FieldDef
  rows : Nat
  columns : List Column
  fits : fitsAll fields rows columns = true
deriving Repr

instance : DecidableEq Record := fun a b =>
  decidable_of_iff (a.fields = b.fields ∧ a.rows = b.rows ∧ a.columns = b.columns) <| by
    cases a
    cases b
    simp

namespace Record

/-- The record of the given columns, as long as the first of them, if they make up one. -/
def make? (fields : List FieldDef) (columns : List Column) : Option Record :=
  let rows := (columns.head?.map fun column => column.cells.length).getD 0
  if fits : fitsAll fields rows columns = true then some ⟨fields, rows, columns, fits⟩ else none

/-- How many columns a record has. -/
def width (r : Record) : Nat :=
  r.columns.length

/-- The cells of a row, in column order. -/
def row (r : Record) (i : Nat) : List Value :=
  r.columns.map fun column => column.cells.getD i .null

/-- The rows of a record, in order. -/
def rowList (r : Record) : List (List Value) :=
  (List.range r.rows).map r.row

end Record

end SeriesBench
