import SeriesBench.Table.Writer

/-!
# The buffer of a table writer

A writer keeps its rows by column, one builder for each. `Holds` says which rows those
columns are, so that a writer can be thought of as a list of typed rows: an accepted point
adds its row at the end, a rejected one adds nothing, and a flush turns the whole list
into one record and leaves the empty list behind.

What a row is under a schema is said by `typedRow`, without builders and without a writer:
one value for the timestamp and one for each column of the point, all converted or none.
The remote side never touches the buffer, whatever the service answers.
-/

namespace SeriesBench

/-- The value in a cell of a column of this kind: null where there is no text, else what
the text denotes. There is none when the text does not convert. -/
def ColumnKind.cell (kind : ColumnKind) : Option String → Option Value
  | none => some .null
  | some given => kind.read given

/-- A cell is null exactly when there is no text for it or its column is one of nulls. -/
theorem ColumnKind.cell_null_iff {kind : ColumnKind} {text : Option String} {value : Value}
    (converted : kind.cell text = some value) : value = .null ↔ text = none ∨ kind = .null := by
  cases text with
  | none =>
    have empty : value = .null := (Option.some.inj converted).symm
    simp [empty]
  | some given =>
    by_cases nulls : kind = .null
    · subst nulls
      have empty : value = .null := (Option.some.inj converted).symm
      simp [empty]
    · have stored : kind.storage.holds value = true := storage_holds_of_read converted nulls
      have present : value ≠ .null := by
        rintro rfl
        cases kind <;> simp [storage, Storage.holds] at stored
      simp [nulls, present]

namespace TableWriter

/-- The row of a point under some columns: the timestamp and each column of the point, every
one converted. There is none when the widths differ or a value does not convert. -/
def typedRow (columns : List ColumnDef) (p : Point) : Option (List Value) :=
  if p.width + 1 = columns.length then
    (columns.zip (textsOf p)).mapM fun (column, text) => column.kind.cell text
  else none

/-- What the builders of some columns keep of a row of values. -/
def stored (columns : List ColumnDef) (values : List (Option Value)) : List Value :=
  List.zipWith (fun column value => Builder.cellOf column.kind.storage value) columns values

/-- Reading a cell gives what a builder of its column keeps as the cell, or a fault in the
value. The branch of a builder that leaves a null never swallows a value that was read. -/
theorem readCell_cases (table : String) (column : ColumnDef) (text : Option String) :
    (∃ value, readCell table column text = .ok value ∧
      column.kind.cell text = some (Builder.cellOf column.kind.storage value)) ∨
    (∃ fault, readCell table column text = .error fault ∧ fault.isValue = true ∧
      column.kind.cell text = none) := by
  cases text with
  | none => exact Or.inl ⟨none, rfl, rfl⟩
  | some text =>
    cases accepted : column.kind.read text with
    | none =>
      refine Or.inr ⟨.value table column.name text column.kind.sqlType, ?_, rfl, accepted⟩
      simp [readCell, readValue, accepted, Except.map]
    | some value =>
      refine Or.inl ⟨some value, by simp [readCell, readValue, accepted, Except.map], ?_⟩
      have kept : Builder.cellOf column.kind.storage (some value) = value := by
        by_cases nulls : column.kind = .null
        · have empty : value = .null := by
            rw [nulls] at accepted
            exact (Option.some.inj accepted).symm
          simp [Builder.cellOf, empty]
        · simp [Builder.cellOf, ColumnKind.storage_holds_of_read accepted nulls]
      rw [kept]
      exact accepted

/-- Reading the cells of a row succeeds exactly when the row converts, and then gives values
of which the builders keep just the converted row. -/
theorem readCells_cases (table : String) (columns : List ColumnDef)
    (texts : List (Option String)) (width : texts.length = columns.length) :
    (∃ values,
      (columns.zip texts).mapM (fun (column, text) => readCell table column text) = .ok values ∧
      values.length = columns.length ∧
      (columns.zip texts).mapM (fun (column, text) => column.kind.cell text) =
        some (stored columns values)) ∨
    (∃ fault,
      (columns.zip texts).mapM (fun (column, text) => readCell table column text) =
        .error fault ∧
      fault.isValue = true ∧
      (columns.zip texts).mapM (fun (column, text) => column.kind.cell text) = none) := by
  induction columns generalizing texts with
  | nil => exact Or.inl ⟨[], by simp [pure, Except.pure], rfl, by simp [stored]⟩
  | cons column rest ih =>
    cases texts with
    | nil => simp at width
    | cons text texts =>
      have restWidth : texts.length = rest.length := Nat.succ.inj width
      rcases readCell_cases table column text with ⟨value, read, cell⟩ | ⟨fault, read, inValue, cell⟩
      · rcases ih texts restWidth with ⟨values, readRest, length, cells⟩ |
          ⟨fault, readRest, inValue, cells⟩
        · refine Or.inl ⟨value :: values, ?_, by simp [length], ?_⟩
          · simp [read, readRest, bind, Except.bind, pure, Except.pure]
          · simp [cell, cells, stored]
        · refine Or.inr ⟨fault, ?_, inValue, ?_⟩
          · simp [read, readRest, bind, Except.bind]
          · simp [cell, cells]
      · refine Or.inr ⟨fault, ?_, inValue, ?_⟩
        · simp [read, bind, Except.bind]
        · simp [cell]

/-- A point has one text for each of its columns and one for its time. -/
theorem length_textsOf (p : Point) : (textsOf p).length = p.width + 1 := by
  simp [textsOf, Point.length_columns]

/-- A table has one column for each column of its first point and one for the time. -/
theorem length_columnsOf (sample : Point) : (columnsOf sample).length = sample.width + 1 := by
  simp [columnsOf, Point.length_columns]

/-- An open writer takes a point whose row converts, and its builders keep that row. -/
theorem append_of_typedRow {w : TableWriter} {p : Point} {row : List Value}
    (opened : w.closed = false) (typed : typedRow w.columns p = some row) :
    ∃ values, w.append p = (.ok (), w.push values) ∧ values.length = w.columns.length ∧
      stored w.columns values = row := by
  unfold typedRow at typed
  split at typed
  · rename_i width
    have texts : (textsOf p).length = w.columns.length := (length_textsOf p).trans width
    rcases readCells_cases w.table w.columns (textsOf p) texts with
      ⟨values, read, length, cells⟩ | ⟨_, _, _, cells⟩
    · refine ⟨values, ?_, length, ?_⟩
      · simp [append, accept, opened, width, readRow, read]
      · exact Option.some.inj (cells.symm.trans typed)
    · rw [cells] at typed
      contradiction
  · contradiction

/-- An open writer drops a point of its width whose row does not convert, for a fault in a
value, and is not changed by it. -/
theorem append_of_unconverted {w : TableWriter} {p : Point} (opened : w.closed = false)
    (width : p.width + 1 = w.columns.length) (untyped : typedRow w.columns p = none) :
    ∃ fault, w.append p = (.error fault, w) ∧ fault.isValue = true := by
  have texts : (textsOf p).length = w.columns.length := (length_textsOf p).trans width
  simp only [typedRow, width, if_true] at untyped
  rcases readCells_cases w.table w.columns (textsOf p) texts with
    ⟨_, _, _, cells⟩ | ⟨fault, read, inValue, _⟩
  · rw [untyped] at cells
    contradiction
  · exact ⟨fault, by simp [append, accept, opened, width, readRow, read], inValue⟩

/-- An open writer refuses a point of another width, and is not changed by it. -/
theorem append_of_width {w : TableWriter} {p : Point} (opened : w.closed = false)
    (width : p.width + 1 ≠ w.columns.length) :
    w.append p = (.error (.width w.table w.columns.length (p.width + 1)), w) := by
  simp [append, accept, opened, width]

/-- A writer takes a point or is not changed by it. -/
theorem append_cases (w : TableWriter) (p : Point) :
    (∃ values, w.append p = (.ok (), w.push values)) ∨
      ∃ fault, w.append p = (.error fault, w) := by
  unfold append
  split
  · exact Or.inl ⟨_, rfl⟩
  · exact Or.inr ⟨_, rfl⟩

/-- The builder of the column at a position when the writer holds these rows. -/
def builderAt (rows : List (List Value)) (i : Nat) (column : ColumnDef) : Builder :=
  ⟨column.kind.storage, (rows.map fun row => row.getD i .null).toArray⟩

/-- A row that a record under these columns can have: as wide as the columns, with a value
wherever a column takes no nulls. -/
structure RowFits (columns : List ColumnDef) (row : List Value) : Prop where
  width : row.length = columns.length
  present : ∀ (i : Nat) (column : ColumnDef), columns[i]? = some column →
    column.nullable = false → row.getD i .null ≠ .null

/-- The writer holds exactly these rows, in order: its columns are those of some first
point, its count is that of the rows, and each builder has the cells of its column. -/
structure Holds (w : TableWriter) (rows : List (List Value)) : Prop where
  schema : ∃ sample, w.columns = columnsOf sample
  counted : w.rows = rows.length
  built : w.builders = w.columns.mapIdx (builderAt rows)
  fitting : ∀ row ∈ rows, RowFits w.columns row

/-- Only the time column takes no nulls. -/
theorem columnsOf_required {sample : Point} {i : Nat} {column : ColumnDef}
    (declared : (columnsOf sample)[i]? = some column) (required : column.nullable = false) :
    i = 0 ∧ column.kind = .timestamp := by
  cases i with
  | zero =>
    have time : column = ⟨timeColumn, .timestamp, false⟩ := by
      simpa [columnsOf, eq_comm] using declared
    exact ⟨rfl, by rw [time]⟩
  | succ i =>
    simp only [columnsOf, List.getElem?_cons_succ, List.getElem?_map,
      Option.map_eq_some_iff] at declared
    obtain ⟨entry, _, rfl⟩ := declared
    contradiction

/-- Converting all elements of a list converts each one in its place. -/
theorem mapM_some {f : α → Option β} {xs : List α} {ys : List β} (converted : xs.mapM f = some ys) :
    ys.length = xs.length ∧ ∀ i : Nat, ys[i]? = xs[i]?.bind f := by
  induction xs generalizing ys with
  | nil =>
    obtain rfl : ys = [] := by simpa [eq_comm] using converted
    simp
  | cons x rest ih =>
    simp only [List.mapM_cons, Option.bind_eq_bind, Option.bind_eq_some_iff, Option.pure_def,
      Option.some.injEq] at converted
    obtain ⟨y, first, others, convertedRest, rfl⟩ := converted
    obtain ⟨length, inside⟩ := ih convertedRest
    refine ⟨by simp [length], ?_⟩
    intro i
    cases i with
    | zero => simp [first]
    | succ i => simpa using inside i

/-- The cells of a converted row, one by one. -/
theorem typedRow_cell {columns : List ColumnDef} {p : Point} {row : List Value}
    (typed : typedRow columns p = some row) :
    row.length = columns.length ∧ (textsOf p).length = columns.length ∧
      ∀ (i : Nat) (column : ColumnDef) (text : Option String),
        columns[i]? = some column → (textsOf p)[i]? = some text →
        ∃ value, row[i]? = some value ∧ column.kind.cell text = some value := by
  unfold typedRow at typed
  split at typed
  · rename_i width
    have texts : (textsOf p).length = columns.length := (length_textsOf p).trans width
    obtain ⟨length, inside⟩ := mapM_some typed
    refine ⟨by simpa [texts] using length, texts, ?_⟩
    intro i column text declared given
    have paired : (columns.zip (textsOf p))[i]? = some (column, text) :=
      List.getElem?_zip_eq_some.mpr ⟨declared, given⟩
    have cell : row[i]? = column.kind.cell text := by
      rw [inside i, paired]
      rfl
    have inRow : i < row.length := by
      rw [length, List.length_zip, texts, Nat.min_self]
      exact (List.getElem?_eq_some_iff.mp declared).1
    obtain ⟨value, stands⟩ : ∃ value, row[i]? = some value := ⟨row[i], List.getElem?_eq_getElem inRow⟩
    exact ⟨value, stands, cell.symm.trans stands⟩
  · contradiction

/-- A row that converts under the columns of a table can stand in its records: the time of a
point is always given, and a time that converts is no null. -/
theorem rowFits_of_typedRow {columns : List ColumnDef} (schema : ∃ sample, columns = columnsOf sample)
    {p : Point} {row : List Value} (typed : typedRow columns p = some row) :
    RowFits columns row := by
  obtain ⟨sample, rfl⟩ := schema
  obtain ⟨width, texts, cells⟩ := typedRow_cell typed
  refine ⟨width, ?_⟩
  intro i column declared required absent
  obtain ⟨rfl, kind⟩ := columnsOf_required declared required
  obtain ⟨value, stands, cell⟩ := cells 0 column (some p.timestamp) declared (by simp [textsOf])
  have isNull : value = .null := by simpa [List.getD, stands] using absent
  have missing := (ColumnKind.cell_null_iff cell).mp isNull
  simp [kind] at missing

/-- A writer that was just created holds nothing. -/
theorem holds_create (table : String) (sample : Point) (layout : Layout) :
    (create table sample layout).Holds [] where
  schema := ⟨sample, rfl⟩
  counted := rfl
  built := by
    apply List.ext_getElem <;> simp [create, builderAt, Builder.ofKind]
  fitting := by simp

/-- Taking a point whose row converts adds that row at the end. -/
theorem holds_push {w : TableWriter} {rows : List (List Value)} (held : w.Holds rows)
    {p : Point} {row : List Value} (typed : typedRow w.columns p = some row)
    {values : List (Option Value)} (length : values.length = w.columns.length)
    (kept : stored w.columns values = row) : (w.push values).Holds (rows ++ [row]) where
  schema := held.schema
  counted := by simp [push, held.counted]
  built := by
    subst kept
    apply List.ext_getElem
    · simp [push, held.built, length]
    · intro i inBuilders inColumns
      have inside : i < w.columns.length := by simpa [push] using inColumns
      simp [push, held.built, builderAt, Builder.append, stored, List.getD, inside, length]
  fitting := by
    intro other member
    rcases List.mem_append.mp member with old | new
    · exact held.fitting other old
    · obtain rfl : other = row := by simpa using new
      exact rowFits_of_typedRow held.schema typed

/-- The writer after a flush. -/
def emptied (w : TableWriter) : TableWriter :=
  { w with builders := w.builders.map Builder.reset, rows := 0 }

/-- After a flush a writer holds nothing. -/
theorem holds_emptied {w : TableWriter} {rows : List (List Value)} (held : w.Holds rows) :
    w.emptied.Holds [] where
  schema := held.schema
  counted := rfl
  built := by
    apply List.ext_getElem <;> simp [emptied, held.built, builderAt, Builder.reset]
  fitting := by simp

/-- The columns of the record that a flush makes. -/
theorem columns_of_holds {w : TableWriter} {rows : List (List Value)} (held : w.Holds rows) :
    w.builders.map Builder.column = w.columns.mapIdx fun i column =>
      ⟨column.kind.storage, rows.map fun row => row.getD i .null⟩ := by
  apply List.ext_getElem <;> simp [held.built, builderAt, Builder.column]

/-- The columns of a writer always make up a record of its rows: they match the schema in
number, in storage and in length, and the time column has no nulls. -/
theorem fitsAll_of_holds {w : TableWriter} {rows : List (List Value)} (held : w.Holds rows) :
    fitsAll w.fields rows.length (w.builders.map Builder.column) = true := by
  have declares : w.fields.isEmpty = false := by
    obtain ⟨sample, schema⟩ := held.schema
    simp [fields, schema, columnsOf]
  have lengths : w.fields.length = (w.builders.map Builder.column).length := by
    simp [fields, held.built]
  simp only [fitsAll, declares, lengths, Bool.not_false, beq_self_eq_true, Bool.and_self,
    Bool.true_and, List.all_eq_true]
  rw [columns_of_holds held, fields]
  rintro ⟨field, column⟩ member
  obtain ⟨i, found⟩ := List.mem_iff_getElem?.mp member
  obtain ⟨declared, collected⟩ := List.getElem?_zip_eq_some.mp found
  simp only [List.getElem?_map, Option.map_eq_some_iff, List.getElem?_mapIdx] at declared collected
  obtain ⟨definition, atIndex, rfl⟩ := declared
  obtain ⟨definition', atIndex', rfl⟩ := collected
  obtain rfl : definition' = definition := Option.some.inj (atIndex'.symm.trans atIndex)
  have noNulls : definition'.nullable = true ∨
      (rows.map fun row => row.getD i .null).count .null = 0 := by
    by_cases nullable : definition'.nullable = true
    · exact Or.inl nullable
    · refine Or.inr (List.count_eq_zero.mpr ?_)
      intro null
      obtain ⟨row, inRows, isNull⟩ := List.mem_map.mp null
      exact (held.fitting row inRows).present i definition' atIndex (by simpa using nullable) isNull
  simpa [FieldDef.fits, ColumnDef.field, Column.nullCount] using noNulls

/-- A writer that holds nothing flushes nothing. -/
theorem flush_of_holds_nil {w : TableWriter} (held : w.Holds []) : w.flush = (.ok none, w) := by
  simp [flush, held.counted]

/-- A flush never fails: the rows that a writer holds come out as one record under its
schema, in order, and the writer is empty afterwards. -/
theorem flush_of_holds {w : TableWriter} {rows : List (List Value)} (held : w.Holds rows)
    (nonempty : rows ≠ []) :
    ∃ record, w.flush = (.ok (some record), w.emptied) ∧ record.fields = w.fields ∧
      record.rows = rows.length ∧ record.width = w.columns.length ∧ record.rowList = rows := by
  have counted : w.rows ≠ 0 := by
    rw [held.counted]
    exact fun none => nonempty (List.eq_nil_of_length_eq_zero none)
  have fits := fitsAll_of_holds held
  have first : ((w.builders.map Builder.column).head?.map fun column => column.cells.length).getD 0 =
      rows.length := by
    obtain ⟨sample, schema⟩ := held.schema
    rw [columns_of_holds held, schema]
    simp [columnsOf, List.mapIdx_cons]
  have made : Record.make? w.fields (w.builders.map Builder.column) =
      some ⟨w.fields, rows.length, w.builders.map Builder.column, fits⟩ := by
    simp only [Record.make?, first, fits, dite_true]
  refine ⟨⟨w.fields, rows.length, w.builders.map Builder.column, fits⟩, ?_, rfl, rfl, ?_, ?_⟩
  · simp only [flush, counted, if_false, made]
    rfl
  · simp [Record.width, held.built]
  · apply List.ext_getElem
    · simp [Record.rowList]
    · intro i inList inRows
      have width := (held.fitting rows[i] (List.getElem_mem inRows)).width
      simp only [Record.rowList, Record.row, columns_of_holds held, List.getElem_map,
        List.getElem_range]
      apply List.ext_getElem
      · simp [width]
      · intro j inColumns inRow
        simp [List.getD, inRows, inRow]

end TableWriter

end SeriesBench
