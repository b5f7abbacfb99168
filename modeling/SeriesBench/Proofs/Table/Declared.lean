import SeriesBench.Proofs.Table.Closing
import SeriesBench.Proofs.Table.Positions

/-!
# How a table is declared

The shape of a table is told three times: in the statement that creates it, in the statement that
inserts a row, and in the schema of its records. The three agree on how many columns there are, on
their names and on their types.

They need not agree on which columns may be null. A record says so by a flag that only the time
column lacks, while the definition of a table goes by the name of a column, and a point may bring a
column of its own with the name of the time column. The main statement says exactly when the
definition is that of the records.
-/

namespace SeriesBench

namespace TableWriter

/-- The definition of a column of some name and kind, which may be one that requires a value. -/
def definition (name : String) (kind : ColumnKind) (required : Bool) : String :=
  s!"{name} {kind.sqlType}" ++ if required then " NOT NULL DEFAULT CURRENT_TIMESTAMP" else ""

/-- Whether a value is required can be told from a definition. -/
theorem definition_inj {name : String} {kind : ColumnKind} {one other : Bool} :
    definition name kind one = definition name kind other ↔ one = other := by
  rw [definition, definition, String.append_right_inj]
  cases one <;> cases other <;> decide

/-- A column is required when it has the name of the time column. -/
theorem columnSql_eq (column : ColumnDef) :
    columnSql column = definition column.name column.kind (column.name = timeColumn) := by
  by_cases named : column.name = timeColumn
  · simp only [columnSql, definition, named, if_true, decide_true]
    simp [String.append_assoc]
    rfl
  · simp [columnSql, definition, named]

/-- The statement that creates a table, by the definitions of its columns. -/
theorem createSql_eq (w : TableWriter) :
    w.createSql = "CREATE TABLE IF NOT EXISTS " ++ w.table ++ " (" ++
      String.intercalate ", "
        (w.columns.map columnSql ++ ["timestamp key(" ++ timeColumn ++ ")"]) ++ ")" ++
      w.partitionSql ++ " ENGINE=TimeSeries" :=
  rfl

/-- The statement that inserts a row, by the names of the columns. -/
theorem insertSql_names (w : TableWriter) :
    w.insertSql = "INSERT INTO " ++ w.table ++ " (" ++
      String.intercalate ", " (w.columns.map ColumnDef.name) ++ ") VALUES (" ++
      String.intercalate ", " (List.replicate w.columns.length "?") ++ ")" := by
  rw [← List.map_const']
  rfl

end TableWriter

/-- A record has a column for each of its fields. -/
theorem Record.width_eq (record : Record) : record.width = record.fields.length := by
  have fits := record.fits
  simp only [fitsAll, Bool.and_eq_true, beq_iff_eq] at fits
  exact fits.1.2.symm

namespace Ledger

open TableWriter

/-- The kinds of the columns of the table that began with `sample`. -/
def kindsOf (sample : Point) : List ColumnKind :=
  .timestamp :: sample.columns.map fun entry => .ofTag entry.type

/-- The kinds of a table's columns are those that its sample tells. -/
theorem kindsOf_eq (sample : Point) : kindsOf sample = (columnsOf sample).map ColumnDef.kind := by
  simp [kindsOf, columnsOf, Function.comp_def]

/-- The definitions of the columns if they were drawn up from the schema of the records. -/
def definitionsOf (sample : Point) : List String :=
  List.zipWith (fun kind field => definition field.name kind !field.nullable)
    (kindsOf sample) (fieldsOf sample)

/-- The definitions are those of the schema exactly when no column of the sample has the name of
the time column. -/
theorem definitionsOf_eq_iff (sample : Point) :
    (columnsOf sample).map columnSql = definitionsOf sample ↔ timeColumn ∉ sample.names := by
  have schema : definitionsOf sample =
      (columnsOf sample).map fun column => definition column.name column.kind !column.nullable := by
    rw [definitionsOf, kindsOf_eq, fieldsOf, List.zipWith_map, List.zipWith_self]
    rfl
  rw [schema, List.map_inj_left]
  simp only [columnSql_eq, definition_inj, columnsOf, List.forall_mem_cons, List.forall_mem_map]
  simp [Point.names, eq_comm]

/-- A table is declared as its records are, but for the columns that require a value. After any
calls on a writer that was created from `sample`, with any answers of the service:

* the statement that creates the table lists one definition for each field of the records, in their
  order: the definition has the name of the field, and the type of the kind that the field stores;
* the definitions require a value of the fields with the name of the time column, and the records
  of the time column only, so that the two agree exactly when the sample brings no column of that
  name;
* the insert statement lists the names of the fields in their order, and has as many places as each
  record has columns.

Proof: neither statement of a writer changes, and all records have the fields of its columns. So
both are told of the columns that the sample makes, and the two lists differ only where a name is
that of the time column. -/
theorem tables_are_declared_as_recorded (table : String) (sample : Point) (layout : Layout)
    (service : Service) (calls : List WriterCall) :
    let l := (opened table sample layout service).afterAll calls
    let fields := fieldsOf sample
    let definitions := (columnsOf sample).map columnSql
    l.writer.createSql = "CREATE TABLE IF NOT EXISTS " ++ table ++ " (" ++
      String.intercalate ", " (definitions ++ ["timestamp key(" ++ timeColumn ++ ")"]) ++ ")" ++
      (TableWriter.create table sample layout).partitionSql ++ " ENGINE=TimeSeries" ∧
    (definitions.length = fields.length ∧
      fields.map FieldDef.storage = (kindsOf sample).map ColumnKind.storage ∧
      definitions = List.zipWith
        (fun kind field => definition field.name kind (field.name = timeColumn))
        (kindsOf sample) fields) ∧
    (definitions = definitionsOf sample ↔ timeColumn ∉ sample.names) ∧
    l.writer.insertSql = "INSERT INTO " ++ table ++ " (" ++
      String.intercalate ", " (fields.map FieldDef.name) ++ ") VALUES (" ++
      String.intercalate ", " (List.replicate fields.length "?") ++ ")" ∧
    ∀ record ∈ l.records, record.fields = fields ∧ record.width = fields.length := by
  intro l fields definitions
  obtain ⟨create, insert⟩ := (opened table sample layout service).statements_afterAll calls
  have labelled : ∀ record ∈ l.records, record.fields = fields :=
    fields_afterAll (balanced_opened table sample layout service)
      (fun _ member => absurd member List.not_mem_nil) calls
  refine ⟨?_, ⟨?_, ?_, ?_⟩, definitionsOf_eq_iff sample, ?_, ?_⟩
  · rw [create, createSql_eq]
    rfl
  · simp [definitions, fields, fieldsOf]
  · simp [fields, fieldsOf, kindsOf_eq, ColumnDef.field, Function.comp_def]
  · simp only [definitions, fields, fieldsOf, kindsOf_eq, List.zipWith_map, List.zipWith_self]
    exact List.map_congr_left fun column _ => columnSql_eq column
  · have names : fields.map FieldDef.name = (columnsOf sample).map ColumnDef.name :=
      List.map_map
    have width : fields.length = (columnsOf sample).length := List.length_map _
    rw [insert, insertSql_names, names, width]
    rfl
  · intro record member
    exact ⟨labelled record member, by rw [record.width_eq, labelled record member]⟩

/-- A point with a column of its own under the name of the time column. -/
def timed : Point :=
  ⟨"cpu", "1", [], [⟨"ts", .int64, some "7"⟩]⟩

/-- The column of the point may be null in a record, and its definition requires a value. -/
theorem timed_is_required :
    (fieldsOf timed).map FieldDef.nullable = [false, true] ∧
      definitionsOf timed =
        ["ts TIMESTAMP(9) NOT NULL DEFAULT CURRENT_TIMESTAMP", "ts INT64"] ∧
      (columnsOf timed).map columnSql =
        ["ts TIMESTAMP(9) NOT NULL DEFAULT CURRENT_TIMESTAMP",
          "ts INT64 NOT NULL DEFAULT CURRENT_TIMESTAMP"] := by
  decide +kernel

end Ledger

end SeriesBench
