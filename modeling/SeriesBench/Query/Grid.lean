import SeriesBench.Column.Record
import SeriesBench.Numeral.Decimal
import SeriesBench.Text.Quoted
import SeriesBench.Text.Width

/-!
# Results as grids

The records that answer a query are shown as one grid with ruled borders. The first record
names the columns; every column is as wide as its widest line, and a cell of several lines
makes its row that many lines high. A record of another width than the first widens the
grid or leaves cells blank.
-/

namespace SeriesBench

/-- Rows of cells, under a header if there is one. -/
structure Grid where
  header : Option (List String)
  rows : List (List String)
deriving Repr, DecidableEq

namespace Grid

open Text

/-- A floating-point number in a cell, with six places if it is finite. -/
def floatingCell (f : Numeral.Format) : Numeral.Floating → String
  | .nan => "NaN"
  | .infinite negative => if negative then "-inf" else "inf"
  | .finite negative units => (if negative then "-" else "") ++ Numeral.fixedUnits f 6 units

/-- A value in a cell; a null leaves it empty. -/
def cell : Value → String
  | .null => ""
  | .boolean b => if b then "true" else "false"
  | .int32 n => toString n.toInt
  | .int64 n => toString n.toInt
  | .float32 x => floatingCell .single x
  | .float64 x => floatingCell .double x
  | .binary bytes => String.join (bytes.map fun b => padLeft 2 '0' (hexadecimal b.toNat))
  | .text s => s
  | .timestamp n => toString n.toInt

/-- The grid of a result. -/
def ofRecords (records : List Record) : Grid where
  header := records.head?.map fun r => r.fields.map (·.name)
  rows := records.flatMap fun r => r.rowList.map fun row => row.map cell

/-- The header and the rows. -/
def allRows (g : Grid) : List (List String) :=
  g.header.toList ++ g.rows

/-- The number of columns: that of the longest row. -/
def width (g : Grid) : Nat :=
  ((g.allRows.map List.length).max?).getD 0

/-- The columns of the display that a cell takes. -/
def cellWidth (text : String) : Nat :=
  (((parts '\n' text).map displayWidth).max?).getD 0

/-- The columns of the display that a column of the grid takes, of which there is at
least one. -/
def columnWidth (g : Grid) (column : Nat) : Nat :=
  ((g.allRows.map fun row => cellWidth (row.getD column "")).max?).getD 0 |>.max 1

/-- The widths of all columns. -/
def columnWidths (g : Grid) : List Nat :=
  (List.range g.width).map g.columnWidth

/-- A border between rows. -/
def rule (widths : List Nat) : String :=
  "+" ++ String.intercalate "+"
    (widths.map fun width => String.ofList (List.replicate (width + 2) '-')) ++ "+"

/-- One line of a row, from the lines of its cells. -/
def rowLine (widths : List Nat) (row : List (List String)) (line : Nat) : String :=
  "|" ++ String.join (widths.zipIdx.map fun (width, column) =>
    let text := (row.getD column []).getD line ""
    " " ++ padRight width (displayWidth text) ' ' text ++ " |")

/-- The lines of a row: as many as its highest cell has. -/
def rowLines (widths : List Nat) (row : List String) : List String :=
  let cells := row.map (parts '\n')
  (List.range (((cells.map List.length).max?).getD 0)).map (rowLine widths cells)

/-- The lines of a grid. A header is ruled off from the rows. -/
def lines (g : Grid) : List String :=
  let widths := g.columnWidths
  let head := match g.header with
    | some names => rowLines widths names ++ [rule widths]
    | none => []
  rule widths :: head ++ g.rows.flatMap (rowLines widths) ++ [rule widths]

/-- A grid as text. -/
def text (g : Grid) : String :=
  String.intercalate "\n" g.lines

end Grid

end SeriesBench
