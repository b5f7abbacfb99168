import Mathlib.Data.List.Forall2
import SeriesBench.Proofs.Table.Buffer

/-!
# A ledger of what a writer took and gave

An open writer may be asked in any order to take a point, to flush, to set up its remote side
and to send a record. The ledger runs such calls and writes down, from their answers alone,
which points were accepted, which of them since the last flush, and which records came out.

The main statement is that the buffer loses nothing and makes nothing up: after any calls,
with any answers of the service, the records that came out hold exactly the points accepted
before the last flush, in order and each once, and a further flush would give exactly the
points accepted since. `RowOf` says value by value what holding a point means. How long texts
may be, and whether room can be made for the rows, is a limit of memory and not part of this.
-/

namespace SeriesBench

/-- What an open writer can be asked. -/
inductive WriterCall where
  | append (p : Point)
  | flush
  | ensureRemote
  | transmit (record : Record)

/-- A writer and its link, with the points that it accepted, those it accepted since it was
last flushed, and the records that it was flushed into. -/
structure Ledger where
  writer : TableWriter
  link : Link
  accepted : List Point
  buffered : List Point
  records : List Record

namespace Ledger

open TableWriter

/-- The ledger of a writer that was just created. -/
def opened (table : String) (sample : Point) (layout : Layout) (service : Service) : Ledger :=
  ⟨.create table sample layout, .fresh service, [], [], []⟩

/-- The ledger after a call. A point counts as accepted when the writer says so, and a flush
that succeeds ends the points buffered before it. -/
def after (l : Ledger) : WriterCall → Ledger
  | .append p =>
    match l.writer.append p with
    | (.ok (), w) =>
      { l with writer := w, accepted := l.accepted ++ [p], buffered := l.buffered ++ [p] }
    | (.error _, w) => { l with writer := w }
  | .flush =>
    match l.writer.flush with
    | (.ok none, w) => { l with writer := w, buffered := [] }
    | (.ok (some record), w) =>
      { l with writer := w, buffered := [], records := l.records ++ [record] }
    | (.error _, w) => { l with writer := w }
  | .ensureRemote =>
    let (_, writer, link) := l.writer.ensureRemote l.link
    { l with writer, link }
  | .transmit record =>
    let (_, writer, link) := l.writer.transmit l.link record
    { l with writer, link }

/-- The ledger after some calls in turn. -/
def afterAll (l : Ledger) (calls : List WriterCall) : Ledger :=
  calls.foldl after l

/-- The row of a point in a record under some columns. The first value is the timestamp; each
other value is what the text in its place denotes in its column, and null exactly when there
is no text or the column is one of nulls. -/
structure RowOf (columns : List ColumnDef) (p : Point) (row : List Value) : Prop where
  widths : row.length = columns.length ∧ columns.length = p.width + 1
  time : ∃ time, row[0]? = some time ∧ ColumnKind.timestamp.read p.timestamp = some time
  value : ∀ (j : Nat) (column : ColumnDef) (entry : Entry),
    columns[j + 1]? = some column → p.columns[j]? = some entry →
    ∃ value, row[j + 1]? = some value ∧
      (value = .null ↔ entry.text = none ∨ column.kind = .null) ∧
      ∀ text, entry.text = some text → column.kind.read text = some value

/-- A point whose row converts under the columns of a first point has that row. -/
theorem rowOf_of_typedRow {sample p : Point} {row : List Value}
    (typed : typedRow (columnsOf sample) p = some row) : RowOf (columnsOf sample) p row := by
  obtain ⟨width, texts, cells⟩ := typedRow_cell typed
  refine ⟨⟨width, texts.symm.trans (length_textsOf p)⟩, ?_, ?_⟩
  · exact cells 0 ⟨timeColumn, .timestamp, false⟩ (some p.timestamp)
      (by simp [columnsOf]) (by simp [textsOf])
  · intro j column entry declared given
    obtain ⟨value, stands, cell⟩ :=
      cells (j + 1) column entry.text declared (by simp [textsOf, given])
    refine ⟨value, stands, ColumnKind.cell_null_iff cell, ?_⟩
    intro text present
    rw [present] at cell
    exact cell

/-- Setting up the remote side changes nothing of a writer but its statement. -/
theorem ensureRemote_writer (w : TableWriter) (link : Link) :
    ∃ statement, (w.ensureRemote link).2.1 = { w with statement } := by
  unfold ensureRemote
  split
  · exact ⟨w.statement, rfl⟩
  · split
    · exact ⟨w.statement, rfl⟩
    · split
      · exact ⟨w.statement, rfl⟩
      · exact ⟨_, rfl⟩

/-- Sending a record changes nothing of a writer but its statement. -/
theorem transmit_writer (w : TableWriter) (link : Link) (record : Record) :
    ∃ statement, (w.transmit link record).2.1 = { w with statement } := by
  obtain ⟨statement, same⟩ := ensureRemote_writer w link
  refine ⟨statement, ?_⟩
  unfold transmit
  split
  · rename_i ensured
    simpa [ensured] using same
  · rename_i ensured
    rw [ensured] at same
    split <;> exact same

/-- Which rows a writer holds does not depend on its statement. -/
theorem holds_statement {w : TableWriter} {rows : List (List Value)} (held : w.Holds rows)
    (statement : Option Statement) : { w with statement }.Holds rows :=
  ⟨held.schema, held.counted, held.built, held.fitting⟩

/-- A ledger in balance: its writer is open under the columns of the first point, and holds
the rows of the buffered points; the accepted points are those in the records followed by the
buffered ones. -/
structure Balanced (sample : Point) (l : Ledger) : Prop where
  schema : l.writer.columns = columnsOf sample
  opened : l.writer.closed = false
  held : ∃ rows, l.writer.Holds rows ∧ l.buffered.map (typedRow (columnsOf sample)) = rows.map some
  settled : ∃ sent, l.accepted = sent ++ l.buffered ∧
    sent.map (typedRow (columnsOf sample)) = (l.records.flatMap Record.rowList).map some

/-- The ledger of a new writer is balanced. -/
theorem balanced_opened (table : String) (sample : Point) (layout : Layout) (service : Service) :
    Balanced sample (opened table sample layout service) where
  schema := rfl
  opened := rfl
  held := ⟨[], holds_create table sample layout, rfl⟩
  settled := ⟨[], rfl, rfl⟩

/-- A call whose only effect is on the remote side keeps the balance. -/
theorem balanced_statement {sample : Point} {l : Ledger} (balanced : Balanced sample l)
    (statement : Option Statement) (link : Link) :
    Balanced sample { l with writer := { l.writer with statement }, link } where
  schema := balanced.schema
  opened := balanced.opened
  held := by
    obtain ⟨rows, held, typed⟩ := balanced.held
    exact ⟨rows, holds_statement held statement, typed⟩
  settled := balanced.settled

/-- Taking a point keeps the balance: an accepted one adds its row, any other changes
nothing. -/
theorem balanced_append {sample : Point} {l : Ledger} (balanced : Balanced sample l) (p : Point) :
    Balanced sample (l.after (.append p)) := by
  obtain ⟨rows, held, typed⟩ := balanced.held
  cases converted : typedRow l.writer.columns p with
  | some row =>
    obtain ⟨values, answer, length, kept⟩ := append_of_typedRow balanced.opened converted
    simp only [after, answer]
    refine ⟨balanced.schema, balanced.opened, ⟨rows ++ [row], ?_, ?_⟩, ?_⟩
    · exact holds_push held converted length kept
    · rw [balanced.schema] at converted
      simp [typed, converted]
    · obtain ⟨sent, accepted, rowsSent⟩ := balanced.settled
      exact ⟨sent, by simp [accepted], rowsSent⟩
  | none =>
    have refused : ∃ fault, l.writer.append p = (.error fault, l.writer) := by
      by_cases width : p.width + 1 = l.writer.columns.length
      · obtain ⟨fault, answer, _⟩ := append_of_unconverted balanced.opened width converted
        exact ⟨fault, answer⟩
      · exact ⟨_, append_of_width balanced.opened width⟩
    obtain ⟨fault, answer⟩ := refused
    simpa only [after, answer] using balanced

/-- A flush keeps the balance: the buffered rows move into a record. -/
theorem balanced_flush {sample : Point} {l : Ledger} (balanced : Balanced sample l) :
    Balanced sample (l.after .flush) := by
  obtain ⟨rows, held, typed⟩ := balanced.held
  obtain ⟨sent, accepted, rowsSent⟩ := balanced.settled
  by_cases empty : rows = []
  · subst empty
    have none : l.buffered = [] := by simpa using typed
    simp only [after, flush_of_holds_nil held]
    exact ⟨balanced.schema, balanced.opened, ⟨[], held, rfl⟩, sent, by simp [accepted, none],
      rowsSent⟩
  · obtain ⟨record, answer, _, _, _, rowList⟩ := flush_of_holds held empty
    simp only [after, answer]
    refine ⟨balanced.schema, balanced.opened, ⟨[], holds_emptied held, rfl⟩,
      sent ++ l.buffered, by simp [accepted], ?_⟩
    simp [rowsSent, typed, rowList]

/-- Every call keeps the balance. -/
theorem balanced_after {sample : Point} {l : Ledger} (balanced : Balanced sample l)
    (call : WriterCall) : Balanced sample (l.after call) := by
  cases call with
  | append p => exact balanced_append balanced p
  | flush => exact balanced_flush balanced
  | ensureRemote =>
    obtain ⟨statement, same⟩ := ensureRemote_writer l.writer l.link
    simp only [after, same]
    exact balanced_statement balanced statement _
  | transmit record =>
    obtain ⟨statement, same⟩ := transmit_writer l.writer l.link record
    simp only [after, same]
    exact balanced_statement balanced statement _

/-- Any calls in turn keep the balance. -/
theorem balanced_afterAll {sample : Point} {l : Ledger} (balanced : Balanced sample l)
    (calls : List WriterCall) : Balanced sample (l.afterAll calls) := by
  induction calls generalizing l with
  | nil => exact balanced
  | cons call rest ih => exact ih (balanced_after balanced call)

/-- Points whose rows convert to these rows have these rows. -/
theorem rowOf_of_map {sample : Point} {points : List Point} {rows : List (List Value)}
    (typed : points.map (typedRow (columnsOf sample)) = rows.map some) :
    List.Forall₂ (RowOf (columnsOf sample)) points rows := by
  induction points generalizing rows with
  | nil =>
    obtain rfl : rows = [] := by simpa using typed.symm
    exact .nil
  | cons p rest ih =>
    cases rows with
    | nil => simp at typed
    | cons row rows =>
      obtain ⟨first, others⟩ := List.cons.inj typed
      exact .cons (rowOf_of_typedRow first) (ih others)

/-- The buffer of a writer loses nothing. After any calls on a writer that was created from
`sample`, with any answers of the service:

* its columns are still those of the sample, there is one builder for each of them, and every
  builder has as many cells as the writer counts rows, one for each buffered point;
* a point that it does not accept leaves it as it was;
* it flushes to nothing exactly when no point was accepted since the last flush;
* otherwise it flushes to one record under the sample's schema, of which row `i` is that of
  the `i`-th point accepted since;
* the records so far, one after the other, are the points accepted before the last flush, so
  that with those buffered they are all that were accepted, in order and each once.

Proof: every call keeps the ledger `Balanced`: the builders hold the rows of the points that were
accepted since the last flush, and the records have those of the points before, so each part is read
off the invariant. -/
theorem flushes_are_lossless (table : String) (sample : Point) (layout : Layout)
    (service : Service) (calls : List WriterCall) :
    let l := (opened table sample layout service).afterAll calls
    let columns := columnsOf sample
    (l.writer.columns = columns ∧ l.writer.builders.length = columns.length ∧
      l.writer.rows = l.buffered.length ∧
      ∀ builder ∈ l.writer.builders, builder.size = l.writer.rows) ∧
    (∀ p fault, (l.writer.append p).1 = .error fault → (l.writer.append p).2 = l.writer) ∧
    ((l.writer.flush).1 = .ok none ↔ l.buffered = []) ∧
    (l.buffered ≠ [] → ∃ record, (l.writer.flush).1 = .ok (some record) ∧
      record.fields = columns.map ColumnDef.field ∧ record.rows = l.buffered.length ∧
      ∀ (i : Nat) (p : Point), l.buffered[i]? = some p → RowOf columns p (record.row i)) ∧
    ∃ sent, l.accepted = sent ++ l.buffered ∧
      List.Forall₂ (RowOf columns) sent (l.records.flatMap Record.rowList) := by
  intro l columns
  have balanced : Balanced sample l :=
    balanced_afterAll (balanced_opened table sample layout service) calls
  obtain ⟨rows, held, typed⟩ := balanced.held
  have length : rows.length = l.buffered.length := by
    simpa using (congrArg List.length typed).symm
  have rowOf := rowOf_of_map typed
  refine ⟨⟨balanced.schema, ?_, held.counted.trans length, ?_⟩, ?_, ?_, ?_, ?_⟩
  · simp [held.built, balanced.schema, columns]
  · intro builder member
    rw [held.built] at member
    obtain ⟨i, inside, rfl⟩ := List.mem_mapIdx.mp member
    simp [builderAt, Builder.size, held.counted]
  · intro p fault refused
    rcases append_cases l.writer p with ⟨values, answer⟩ | ⟨_, answer⟩
    · simp [answer] at refused
    · rw [answer]
  · constructor
    · intro nothing
      by_cases empty : rows = []
      · simpa [empty] using typed
      · obtain ⟨record, answer, _⟩ := flush_of_holds held empty
        simp [answer] at nothing
    · intro none
      have empty : rows = [] := by simpa [none] using typed.symm
      subst empty
      simp [flush_of_holds_nil held]
  · intro some
    have nonempty : rows ≠ [] := by
      rintro rfl
      exact some (by simpa using typed)
    obtain ⟨record, answer, fields, counted, _, rowList⟩ := flush_of_holds held nonempty
    refine ⟨record, by simp [answer], ?_, counted.trans length, ?_⟩
    · rw [fields, TableWriter.fields, balanced.schema]
    · intro i p present
      obtain ⟨inside, rfl⟩ := List.getElem?_eq_some_iff.mp present
      have inRows : i < rows.length := length ▸ inside
      have stands : record.row i = rows[i] := by
        simp [← rowList, Record.rowList]
      rw [stands]
      exact rowOf.get inside inRows
  · obtain ⟨sent, accepted, rowsSent⟩ := balanced.settled
    exact ⟨sent, accepted, rowOf_of_map rowsSent⟩

end Ledger

end SeriesBench
