import SeriesBench.Layout
import SeriesBench.Remote.Link

/-!
# Table writers

A table writer takes the points of one table, collects them in columns and sends them
as records. Its schema is fixed by the first point that is seen for the table: the time
column, then the columns of that point in order. A point enters whole or not at all.

The remote side of a table, its definition and its prepared insert statement, is set up
when the first record is sent, and given up when the writer is closed.
-/

namespace SeriesBench

/-- The declaration of a column of a table. -/
structure ColumnDef where
  name : String
  kind : ColumnKind
  nullable : Bool
deriving Repr, DecidableEq

/-- The declaration of the column in a record. -/
def ColumnDef.field (column : ColumnDef) : FieldDef :=
  ⟨column.name, column.kind.storage, column.nullable⟩

/-- The name of the time column. -/
def timeColumn : String := "ts"

/-- The writer of one table. -/
structure TableWriter where
  table : String
  columns : List ColumnDef
  builders : List Builder
  /-- Rows taken since the last flush. -/
  rows : Nat
  rowCapacity : Nat
  partitionColumns : List String
  partitions : Nat
  statement : Option Statement
  closed : Bool
deriving Repr, DecidableEq

namespace TableWriter

/-- The columns of the table whose first point is `sample`. -/
def columnsOf (sample : Point) : List ColumnDef :=
  ⟨timeColumn, .timestamp, false⟩ ::
    sample.columns.map fun entry => ⟨entry.name, .ofTag entry.type, true⟩

/-- The writer of a table whose first point is `sample`. The sample itself is not taken. -/
def create (table : String) (sample : Point) (layout : Layout) : TableWriter where
  table
  columns := columnsOf sample
  builders := (columnsOf sample).map fun column => .ofKind column.kind
  rows := 0
  rowCapacity := layout.rowCapacity
  partitionColumns := layout.partitioning.columns table
  partitions := layout.partitions
  statement := none
  closed := false

/-- The definition of one column: a column with the name of the time column takes the
current time by default. -/
def columnSql (column : ColumnDef) : String :=
  if column.name = timeColumn then
    s!"{column.name} {column.kind.sqlType} NOT NULL DEFAULT CURRENT_TIMESTAMP"
  else s!"{column.name} {column.kind.sqlType}"

/-- The clause that partitions the table; empty without partition columns. -/
def partitionSql (w : TableWriter) : String :=
  if w.partitionColumns.isEmpty then ""
  else
    let names := String.intercalate ", " w.partitionColumns
    s!" PARTITION BY HASH({names}) PARTITIONS {w.partitions}"

/-- The statement that creates the table. -/
def createSql (w : TableWriter) : String :=
  let definitions :=
    String.intercalate ", " (w.columns.map columnSql ++ [s!"timestamp key({timeColumn})"])
  s!"CREATE TABLE IF NOT EXISTS {w.table} ({definitions})" ++ w.partitionSql ++
    " ENGINE=TimeSeries"

/-- The statement that inserts a row. -/
def insertSql (w : TableWriter) : String :=
  let names := String.intercalate ", " (w.columns.map (·.name))
  let places := String.intercalate ", " (w.columns.map fun _ => "?")
  s!"INSERT INTO {w.table} ({names}) VALUES ({places})"

/-- The value of a text in a column of a table. -/
def readValue (table : String) (column : ColumnDef) (text : String) : Except Fault Value :=
  match column.kind.read text with
  | some value => .ok value
  | none => .error (.value table column.name text column.kind.sqlType)

/-- The value of a text in a column, where no text is no value. -/
def readCell (table : String) (column : ColumnDef) : Option String → Except Fault (Option Value)
  | some text => (readValue table column text).map some
  | none => .ok none

/-- The texts of a point's row: the timestamp, then the columns. -/
def textsOf (p : Point) : List (Option String) :=
  some p.timestamp :: p.columns.map (·.text)

/-- The values of a point's row, or the fault of the first that does not convert. -/
def readRow (w : TableWriter) (p : Point) : Except Fault (List (Option Value)) :=
  (w.columns.zip (textsOf p)).mapM fun (column, text) => readCell w.table column text

/-- What a point's row is, if the writer takes it: the writer is open, the point has as
many columns as the table, and every value converts. -/
def accept (w : TableWriter) (p : Point) : Except Fault (List (Option Value)) :=
  if w.closed then
    .error (.illegalState s!"write context of table {w.table} is closed")
  else if p.width + 1 = w.columns.length then w.readRow p
  else .error (.width w.table w.columns.length (p.width + 1))

/-- The writer with one more row of values. -/
def push (w : TableWriter) (values : List (Option Value)) : TableWriter :=
  { w with
    builders := List.zipWith Builder.append w.builders values
    rows := w.rows + 1 }

/-- Takes a point, whole or not at all. -/
def append (w : TableWriter) (p : Point) : Except Fault Unit × TableWriter :=
  match w.accept p with
  | .ok values => (.ok (), w.push values)
  | .error fault => (.error fault, w)

/-- The schema of the writer's records. -/
def fields (w : TableWriter) : List FieldDef :=
  w.columns.map ColumnDef.field

/-- The rows taken since the last flush as one record, if there are any; the writer is
empty afterwards. -/
def flush (w : TableWriter) : Except Fault (Option Record) × TableWriter :=
  if w.rows = 0 then (.ok none, w)
  else
    let emptied := { w with builders := w.builders.map Builder.reset, rows := 0 }
    match Record.make? w.fields (w.builders.map Builder.column) with
    | some record => (.ok (some record), emptied)
    | none => (.error .record, emptied)

/-- Creates the table and prepares the insert statement, unless that is done. -/
def ensureRemote (w : TableWriter) (link : Link) : Except Fault Unit × TableWriter × Link :=
  match w.statement with
  | some _ => (.ok (), w, link)
  | none =>
    match link.define w.createSql with
    | (.error fault, link) => (.error fault, w, link)
    | (.ok (), link) =>
      match link.prepare w.insertSql with
      | (.error fault, link) => (.error fault, w, link)
      | (.ok statement, link) => (.ok (), { w with statement := some statement }, link)

/-- Sends a record through the prepared insert statement, which is prepared if need be. -/
def transmit (w : TableWriter) (link : Link) (record : Record) :
    Except Fault Nat × TableWriter × Link :=
  match w.ensureRemote link with
  | (.error fault, w, link) => (.error fault, w, link)
  | (.ok (), w, link) =>
    match w.statement with
    | none => (.error (.illegalState s!"no prepared statement for table {w.table}"), w, link)
    | some statement =>
      let (answer, link) := link.insert statement record
      (answer, w, link)

/-- Drops the rows that were not flushed and gives up the prepared statement. Closing
again does nothing. -/
def close (w : TableWriter) (link : Link) : Except Fault Unit × TableWriter × Link :=
  if w.closed then (.ok (), w, link)
  else
    let shut := { w with builders := [], rows := 0, statement := none, closed := true }
    match w.statement with
    | none => (.ok (), shut, link)
    | some statement =>
      let (answer, link) := link.close statement
      (answer, shut, link)

end TableWriter

end SeriesBench
