import SeriesBench.Remote.Script
import SeriesBench.Proofs.Table.Ledger

/-!
# Values stand by position

A writer counts the columns of a point and looks at nothing else of them but their texts. So a
value goes to the column that has its position in the schema, under whatever name and type the
first point of the table gave to that position, and the name that the value had in its own point
is lost. It is kept exactly when the point has the names of the first point in the same order.

The main statement says this of every row of every record that any calls bring about. The last
one shows a point with two names exchanged, whose values both land under the name of the other.
-/

namespace SeriesBench

namespace Point

/-- The names of a point's columns, in order. -/
def names (p : Point) : List String :=
  p.columns.map (·.name)

/-- The point without the names and types of its columns: the texts are left, in their
positions. -/
def nameless (p : Point) : Point :=
  let blank (e : Entry) : Entry := { e with name := "", type := .null }
  { p with tags := p.tags.map blank, fields := p.fields.map blank }

/-- A point without names is as wide as with them. -/
theorem width_nameless (p : Point) : p.nameless.width = p.width := by
  simp [nameless, width]

/-- A point without names has the same texts. -/
theorem textsOf_nameless (p : Point) :
    TableWriter.textsOf p.nameless = TableWriter.textsOf p := by
  simp [TableWriter.textsOf, nameless, columns, Function.comp_def]

end Point

/-- A writer answers a point as it answers the point without names and types. -/
theorem TableWriter.append_nameless (w : TableWriter) (p : Point) :
    w.append p.nameless = w.append p := by
  simp [append, accept, readRow, p.width_nameless, p.textsOf_nameless]

namespace Ledger

open TableWriter

/-- Where the values of a point stand in a record whose table began with `sample`: the time under
the name of the time column, and each other value under the name that the sample has at its
position, as what its text denotes for the type that the sample has there. -/
structure Filed (sample : Point) (fields : List FieldDef) (p : Point) (row : List Value) :
    Prop where
  widths : row.length = fields.length ∧ fields.length = p.width + 1
  time : (fields[0]?.map FieldDef.name) = some timeColumn ∧
    ∃ time, row[0]? = some time ∧ ColumnKind.timestamp.read p.timestamp = some time
  value : ∀ (j : Nat) (first entry : Entry),
    sample.columns[j]? = some first → p.columns[j]? = some entry →
    fields[j + 1]?.map FieldDef.name = some first.name ∧
    ∃ value, row[j + 1]? = some value ∧
      (value = .null ↔ entry.text = none ∨ ColumnKind.ofTag first.type = .null) ∧
      ∀ text, entry.text = some text → (ColumnKind.ofTag first.type).read text = some value

/-- Every value of a point stands under the name that it has in the point. -/
def KeepsNames (fields : List FieldDef) (p : Point) : Prop :=
  ∀ (j : Nat) (entry : Entry), p.columns[j]? = some entry →
    fields[j + 1]?.map FieldDef.name = some entry.name

/-- The fields of the records of the table that began with `sample`. -/
def fieldsOf (sample : Point) : List FieldDef :=
  (columnsOf sample).map ColumnDef.field

/-- Behind the time, the fields have the names of the sample. -/
theorem name_fieldsOf (sample : Point) (j : Nat) :
    (fieldsOf sample)[j + 1]?.map FieldDef.name = sample.names[j]? := by
  simp [fieldsOf, columnsOf, ColumnDef.field, Point.names, Function.comp_def]

/-- The row of a point in a record is filed by position. -/
theorem filed_of_rowOf {sample p : Point} {row : List Value}
    (rowOf : RowOf (columnsOf sample) p row) : Filed sample (fieldsOf sample) p row where
  widths := by simpa [fieldsOf] using rowOf.widths
  time := ⟨by simp [fieldsOf, columnsOf, ColumnDef.field], rowOf.time⟩
  value := by
    intro j first entry inSample inPoint
    have column : (columnsOf sample)[j + 1]? = some ⟨first.name, .ofTag first.type, true⟩ := by
      simp [columnsOf, inSample]
    exact ⟨by simp [name_fieldsOf, Point.names, inSample], rowOf.value j _ entry column inPoint⟩

/-- A point of the sample's width keeps its names exactly if they are the sample's, in order. -/
theorem keepsNames_iff {sample p : Point} (width : p.width = sample.width) :
    KeepsNames (fieldsOf sample) p ↔ p.names = sample.names := by
  have lengths : p.names.length = sample.names.length := by
    simpa [Point.names, Point.length_columns] using width
  simp only [KeepsNames, name_fieldsOf]
  constructor
  · intro kept
    refine List.ext_getElem lengths fun j inPoint inSample => ?_
    have inColumns : j < p.columns.length := by simpa [Point.names] using inPoint
    have same := kept j _ (List.getElem?_eq_getElem inColumns)
    rw [List.getElem?_eq_getElem inSample, Option.some.injEq] at same
    simpa [Point.names] using same.symm
  · intro same j entry present
    rw [← same]
    simp [Point.names, present]

/-- The records of a ledger whose writer is in balance are all under the fields of its sample. -/
theorem fields_after {sample : Point} {l : Ledger} (balanced : Balanced sample l)
    (labelled : ∀ record ∈ l.records, record.fields = fieldsOf sample) (call : WriterCall) :
    ∀ record ∈ (l.after call).records, record.fields = fieldsOf sample := by
  cases call with
  | append p =>
    simp only [after]
    split <;> exact labelled
  | flush =>
    obtain ⟨rows, held, _⟩ := balanced.held
    by_cases empty : rows = []
    · subst empty
      simpa only [after, flush_of_holds_nil held] using labelled
    · obtain ⟨flushed, answer, fields, _⟩ := flush_of_holds held empty
      simp only [after, answer]
      intro record member
      rcases List.mem_append.mp member with old | new
      · exact labelled record old
      · obtain rfl : record = flushed := by simpa using new
        rw [fields, TableWriter.fields, balanced.schema, fieldsOf]
  | ensureRemote => exact labelled
  | transmit record => exact labelled

/-- The fields of all records are those of the sample, by induction on the calls. -/
theorem fields_afterAll {sample : Point} {l : Ledger} (balanced : Balanced sample l)
    (labelled : ∀ record ∈ l.records, record.fields = fieldsOf sample) (calls : List WriterCall) :
    ∀ record ∈ (l.afterAll calls).records, record.fields = fieldsOf sample := by
  induction calls generalizing l with
  | nil => exact labelled
  | cons call rest ih =>
    exact ih (balanced_after balanced call) (fields_after balanced labelled call)

/-- Points whose rows make up some records one after the other fall apart into the points of each
record. -/
theorem groups_of_flatMap {sample : Point} {points : List Point} {records : List Record}
    (labelled : ∀ record ∈ records, record.fields = fieldsOf sample)
    (typed : points.map (typedRow (columnsOf sample)) =
      (records.flatMap Record.rowList).map some) :
    ∃ groups : List (List Point), points = groups.flatten ∧
      List.Forall₂ (fun group record => record.fields = fieldsOf sample ∧
        List.Forall₂ (RowOf (columnsOf sample)) group record.rowList) groups records := by
  induction records generalizing points with
  | nil => exact ⟨[], by simpa using typed, .nil⟩
  | cons record rest ih =>
    obtain ⟨label, labels⟩ := List.forall_mem_cons.mp labelled
    rw [List.flatMap_cons, List.map_append] at typed
    obtain ⟨first, others, rfl, here, later⟩ := List.map_eq_append_iff.mp typed
    obtain ⟨groups, rfl, apart⟩ := ih labels later
    exact ⟨first :: groups, rfl, .cons ⟨label, rowOf_of_map here⟩ apart⟩

/-- A point that has a row in the records of a table has as many columns as its sample. -/
theorem RowOf.width_eq {sample p : Point} {row : List Value}
    (rowOf : RowOf (columnsOf sample) p row) : p.width = sample.width := by
  have columns := rowOf.widths.2
  rw [length_columnsOf] at columns
  omega

/-- Points that have rows in the records of a table have as many columns as its sample. -/
theorem widths_of_map {sample : Point} {points : List Point} {rows : List (List Value)}
    (typed : points.map (typedRow (columnsOf sample)) = rows.map some) :
    ∀ p ∈ points, p.width = sample.width := by
  intro p member
  have converted : typedRow (columnsOf sample) p ∈ rows.map some :=
    typed ▸ List.mem_map_of_mem member
  obtain ⟨row, -, same⟩ := List.mem_map.mp converted
  exact (rowOf_of_typedRow same.symm).width_eq

/-- Values stand by position. After any calls on a writer that was created from `sample`, with any
answers of the service:

* the writer answers a point in the same way whatever the names and types of its columns are;
* the accepted points have as many columns as the sample;
* in every record that was flushed, row by row, each value stands under the name that the sample
  has at its position, and all values of a point stand under the names that they have in the point
  exactly if these are the names of the sample, in the same order.

Proof: the ledger is balanced, and every record has the fields of the sample. So its rows can be cut
into those of the single records, and in each the values of a point stand in the order of the point,
under the names of the sample. -/
theorem values_stand_by_position (table : String) (sample : Point) (layout : Layout)
    (service : Service) (calls : List WriterCall) :
    let l := (opened table sample layout service).afterAll calls
    (∀ p, l.writer.append p.nameless = l.writer.append p) ∧
    (∀ p ∈ l.accepted, p.width = sample.width) ∧
    ∃ groups : List (List Point), l.accepted = groups.flatten ++ l.buffered ∧
      List.Forall₂ (fun points record => List.Forall₂ (fun p row =>
          Filed sample record.fields p row ∧
            (KeepsNames record.fields p ↔ p.names = sample.names)) points record.rowList)
        groups l.records := by
  intro l
  have balanced : Balanced sample l :=
    balanced_afterAll (balanced_opened table sample layout service) calls
  have labelled : ∀ record ∈ l.records, record.fields = fieldsOf sample :=
    fields_afterAll (balanced_opened table sample layout service)
      (fun _ member => absurd member List.not_mem_nil) calls
  obtain ⟨rows, _, typed⟩ := balanced.held
  obtain ⟨sent, accepted, rowsSent⟩ := balanced.settled
  obtain ⟨groups, rfl, apart⟩ := groups_of_flatMap labelled rowsSent
  refine ⟨l.writer.append_nameless, ?_, groups, accepted, ?_⟩
  · intro p member
    rw [accepted] at member
    rcases List.mem_append.mp member with inRecords | inBuffer
    · exact widths_of_map rowsSent p inRecords
    · exact widths_of_map typed p inBuffer
  · refine apart.imp fun points record each => ?_
    obtain ⟨label, filed⟩ := each
    rw [label]
    exact filed.imp fun p row rowOf => ⟨filed_of_rowOf rowOf, keepsNames_iff rowOf.width_eq⟩

/-- The first point of a table. -/
def userFirst : Point :=
  ⟨"cpu", "1", [], [⟨"user", .int64, some "7"⟩, ⟨"system", .int64, some "8"⟩]⟩

/-- A point with the same columns in another order. -/
def systemFirst : Point :=
  ⟨"cpu", "2", [], [⟨"system", .int64, some "5"⟩, ⟨"user", .int64, some "6"⟩]⟩

/-- The second point is accepted although its names are not those of the first in their order,
and in the record its values stand under each other's name. -/
theorem systemFirst_stands_under_user :
    let l := (opened "cpu" userFirst {} Script.empty.service).afterAll [.append systemFirst, .flush]
    l.accepted = [systemFirst] ∧ systemFirst.names ≠ userFirst.names ∧
      l.records.map (fun record => (record.fields.map FieldDef.name, record.rowList)) =
        [(["ts", "user", "system"], [[.timestamp 2, .int64 5, .int64 6]])] := by
  decide +kernel

end Ledger

end SeriesBench
