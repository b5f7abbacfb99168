import SeriesBench.Worker.Ingest
import SeriesBench.Proofs.Table.Ledger

/-!
# Writing to a table

Points that are written to a table are all taken or counted as dropped, and the rows of those
that were taken come out as one record. A writer whose buffer was empty has an empty buffer
again, so what one call leaves behind is the state that the next call expects.

A point of another width than the table's stops the writing. That is the only thing that
does: the service may answer what it likes.
-/

namespace SeriesBench

namespace TableWriter

/-- The rows that points have under some columns, those that convert. -/
def typedRows (columns : List ColumnDef) (points : List Point) : List (List Value) :=
  points.filterMap (typedRow columns)

/-- The rows of points in two parts are those of both. -/
@[simp] theorem typedRows_append (columns : List ColumnDef) (xs ys : List Point) :
    typedRows columns (xs ++ ys) = typedRows columns xs ++ typedRows columns ys :=
  List.filterMap_append

/-- A writer that differs from another one in its buffer only. -/
def Rebuffered (w other : TableWriter) : Prop :=
  ∃ builders rows, other = { w with builders, rows }

/-- A writer that nothing happened to has its own buffer. -/
theorem Rebuffered.refl (w : TableWriter) : Rebuffered w w :=
  ⟨w.builders, w.rows, rfl⟩

/-- What differs in the buffer twice differs in the buffer. -/
theorem Rebuffered.trans {a b c : TableWriter} (first : Rebuffered a b) (second : Rebuffered b c) :
    Rebuffered a c := by
  obtain ⟨_, _, rfl⟩ := first
  obtain ⟨builders, rows, rfl⟩ := second
  exact ⟨builders, rows, rfl⟩

/-- Appending a point touches the buffer only. -/
theorem rebuffered_append (w : TableWriter) (p : Point) : Rebuffered w (w.append p).2 := by
  rcases append_cases w p with ⟨values, taken⟩ | ⟨fault, refused⟩
  · rw [taken]
    exact ⟨_, _, rfl⟩
  · rw [refused]
    exact .refl w

/-- Flushing touches the buffer only. -/
theorem rebuffered_flush (w : TableWriter) : Rebuffered w w.flush.2 := by
  unfold flush
  split
  · exact .refl w
  · split <;> exact ⟨_, _, rfl⟩

/-- A record that a flush gives is under the schema of the writer. -/
theorem fields_of_flush {w other : TableWriter} {record : Record}
    (flushed : w.flush = (.ok (some record), other)) : record.fields = w.fields := by
  unfold flush at flushed
  split at flushed
  · simp at flushed
  · simp only at flushed
    split at flushed
    · rename_i made
      simp only [Prod.mk.injEq, Except.ok.injEq, Option.some.injEq] at flushed
      unfold Record.make? at made
      simp only at made
      split at made
      · rw [← flushed.1, ← Option.some.inj made]
      · contradiction
    · simp at flushed

end TableWriter

namespace Ingest

open TableWriter

/-- Taking points touches the buffer only, by induction on the points. -/
theorem rebuffered_takeAll (w : TableWriter) (dropped : Nat) (points : List Point) :
    Rebuffered w (takeAll w dropped points).2 := by
  induction points generalizing w dropped with
  | nil => exact .refl w
  | cons p rest ih =>
    have first := rebuffered_append w p
    unfold takeAll
    split
    · rename_i next answer
      rw [answer] at first
      exact first.trans (ih next dropped)
    · rename_i fault next answer
      rw [answer] at first
      split
      · exact first.trans (ih next (dropped + 1))
      · exact first

/-- When an open writer has taken some points, it holds the rows of those that convert, and
the others were counted. -/
theorem takeAll_ok {w other : TableWriter} {rows : List (List Value)} (held : w.Holds rows)
    (opened : w.closed = false) {dropped total : Nat} {points : List Point}
    (answer : takeAll w dropped points = (.ok total, other)) :
    other.Holds (rows ++ typedRows w.columns points) ∧
      total + (typedRows w.columns points).length = dropped + points.length := by
  induction points generalizing w rows dropped with
  | nil =>
    obtain ⟨same, rfl⟩ := Prod.mk.inj answer
    obtain rfl := Except.ok.inj same
    simpa [typedRows] using held
  | cons p rest ih =>
    cases typed : typedRow w.columns p with
    | some row =>
      obtain ⟨values, taken, length, kept⟩ := append_of_typedRow opened typed
      have later : takeAll (w.push values) dropped rest = (.ok total, other) := by
        simpa [takeAll, taken] using answer
      obtain ⟨holds, counted⟩ := ih (holds_push held typed length kept) opened later
      have columns : (w.push values).columns = w.columns := rfl
      rw [columns] at holds counted
      have apart : typedRows w.columns (p :: rest) = row :: typedRows w.columns rest := by
        simp [typedRows, typed]
      rw [apart]
      refine ⟨by simpa using holds, ?_⟩
      simp only [List.length_cons]
      omega
    | none =>
      have apart : typedRows w.columns (p :: rest) = typedRows w.columns rest := by
        simp [typedRows, typed]
      rw [apart]
      by_cases width : p.width + 1 = w.columns.length
      · obtain ⟨fault, refused, inValue⟩ := append_of_unconverted opened width typed
        have later : takeAll w (dropped + 1) rest = (.ok total, other) := by
          simpa [takeAll, refused, inValue] using answer
        obtain ⟨holds, counted⟩ := ih held opened later
        refine ⟨holds, ?_⟩
        simp only [List.length_cons]
        omega
      · simp [takeAll, append_of_width opened width, Fault.isValue] at answer

/-- Points of the width of the table are all taken or dropped. -/
theorem takeAll_of_width {w : TableWriter} (opened : w.closed = false) (dropped : Nat)
    {points : List Point} (widths : ∀ p ∈ points, p.width + 1 = w.columns.length) :
    ∃ total other, takeAll w dropped points = (.ok total, other) := by
  induction points generalizing w dropped with
  | nil => exact ⟨dropped, w, rfl⟩
  | cons p rest ih =>
    have restWidths : ∀ q ∈ rest, q.width + 1 = w.columns.length := fun q member =>
      widths q (List.mem_cons_of_mem _ member)
    cases typed : typedRow w.columns p with
    | some row =>
      obtain ⟨values, taken, _, _⟩ := append_of_typedRow opened typed
      have pushed : (w.push values).closed = false := opened
      obtain ⟨total, other, later⟩ := ih pushed dropped restWidths
      exact ⟨total, other, by simpa [takeAll, taken] using later⟩
    | none =>
      obtain ⟨fault, refused, inValue⟩ :=
        append_of_unconverted opened (widths p List.mem_cons_self) typed
      obtain ⟨total, other, later⟩ := ih opened (dropped + 1) restWidths
      exact ⟨total, other, by simpa [takeAll, refused, inValue] using later⟩

/-- Only points of the width of the table are all taken or dropped. -/
theorem widths_of_takeAll {w other : TableWriter} (opened : w.closed = false) {dropped total : Nat}
    {points : List Point} (answer : takeAll w dropped points = (.ok total, other)) :
    ∀ p ∈ points, p.width + 1 = w.columns.length := by
  induction points generalizing w dropped with
  | nil => simp
  | cons p rest ih =>
    by_cases width : p.width + 1 = w.columns.length
    · refine List.forall_mem_cons.mpr ⟨width, ?_⟩
      cases typed : typedRow w.columns p with
      | some row =>
        obtain ⟨values, taken, _, _⟩ := append_of_typedRow opened typed
        have later : takeAll (w.push values) dropped rest = (.ok total, other) := by
          simpa [takeAll, taken] using answer
        exact ih (w := w.push values) opened later
      | none =>
        obtain ⟨fault, refused, inValue⟩ := append_of_unconverted opened width typed
        exact ih opened (by simpa [takeAll, refused, inValue] using answer)
    · simp [takeAll, append_of_width opened width, Fault.isValue] at answer

/-- What writing does to a writer and its link: nothing but to the buffer, or a record under the
schema of the writer is transmitted. -/
inductive Talk (w : TableWriter) (link : Link) : TableWriter → Link → Prop where
  | silent {other : TableWriter} (same : Rebuffered w other) : Talk w link other link
  | transmitted {ready : TableWriter} (same : Rebuffered w ready) (record : Record)
      (fields : record.fields = w.fields) :
      Talk w link (ready.transmit link record).2.1 (ready.transmit link record).2.2

/-- Writing changes nothing of a writer but its buffer and its statement. -/
theorem Talk.unchanged {w other : TableWriter} {link after : Link} (talk : Talk w link other after) :
    ∃ builders rows statement, other = { w with builders, rows, statement } := by
  cases talk with
  | silent same =>
    obtain ⟨builders, rows, rfl⟩ := same
    exact ⟨builders, rows, w.statement, rfl⟩
  | @transmitted ready same record =>
    obtain ⟨statement, changed⟩ := Ledger.transmit_writer ready link record
    obtain ⟨builders, rows, rfl⟩ := same
    exact ⟨builders, rows, statement, changed⟩

/-- Writing does not close a writer. -/
theorem Talk.closed {w other : TableWriter} {link after : Link} (talk : Talk w link other after) :
    other.closed = w.closed := by
  obtain ⟨_, _, _, rfl⟩ := talk.unchanged
  rfl

/-- A writer stays with its table. -/
theorem Talk.table {w other : TableWriter} {link after : Link} (talk : Talk w link other after) :
    other.table = w.table := by
  obtain ⟨_, _, _, rfl⟩ := talk.unchanged
  rfl

/-- Sending a record is transmitting it, or nothing. -/
theorem send_eq (transmit : Bool) (w : TableWriter) (link : Link) (record : Record) :
    (send transmit w link record).2 =
      if transmit then (w.transmit link record).2 else (w, link) := by
  unfold send
  split
  · split <;> rename_i answer <;> rw [answer]
  · rfl

/-- Sending a record leaves the buffer as it is. -/
theorem holds_send {w : TableWriter} {rows : List (List Value)} (held : w.Holds rows)
    (transmit : Bool) (link : Link) (record : Record) :
    (send transmit w link record).2.1.Holds rows := by
  rw [send_eq]
  cases transmit with
  | false => exact held
  | true =>
    obtain ⟨statement, same⟩ := Ledger.transmit_writer w link record
    simpa [same] using Ledger.holds_statement held statement

/-- Whatever writing comes to, that is all it does. -/
theorem talk_writeTable (transmit : Bool) (w : TableWriter) (link : Link) (points : List Point) :
    Talk w link (writeTable transmit w link points).2.1 (writeTable transmit w link points).2.2 := by
  have first := rebuffered_takeAll w 0 points
  unfold writeTable
  split
  · rename_i fault next answer
    rw [answer] at first
    exact .silent first
  · rename_i droppedRows next answer
    rw [answer] at first
    have second := rebuffered_flush next
    split
    · rename_i fault last flushed
      rw [flushed] at second
      exact .silent (first.trans second)
    · rename_i last flushed
      rw [flushed] at second
      exact .silent (first.trans second)
    · rename_i record last flushed
      rw [flushed] at second
      have fields : record.fields = w.fields := by
        rw [fields_of_flush flushed]
        obtain ⟨_, _, rfl⟩ := first
        rfl
      change Talk w link (send transmit last link record).2.1 (send transmit last link record).2.2
      rw [send_eq]
      split
      · exact .transmitted (first.trans second) record fields
      · exact .silent (first.trans second)

/-- What writing points to an open writer with an empty buffer comes to, when it succeeds. -/
structure Written (transmit : Bool) (w : TableWriter) (link : Link) (points : List Point)
    (outcome : Outcome) (other : TableWriter) (after : Link) : Prop where
  rows : outcome.rows = (typedRows w.columns points).length
  metrics : outcome.metrics = (typedRows w.columns points).length * w.columns.length
  droppedItems : outcome.droppedItems = 0
  droppedRows : outcome.droppedRows + (typedRows w.columns points).length = points.length
  empty : other.Holds []
  sent : (typedRows w.columns points = [] ∨ transmit = false) ∧ Rebuffered w other ∧ after = link ∨
    transmit = true ∧ ∃ ready record, Rebuffered w ready ∧ record.fields = w.fields ∧
      record.rowList = typedRows w.columns points ∧
      (other, after) = (ready.transmit link record).2

/-- The last part of writing, once the points are taken: what is flushed is all that the writer
holds by then, and that may be more than the rows of these points. -/
theorem written_of_flush {transmit : Bool} {w ready other : TableWriter} {link after : Link}
    {points all : List Point} {droppedRows : Nat} {outcome : Outcome}
    (same : Rebuffered w ready) (held : ready.Holds (typedRows w.columns all))
    (counted : droppedRows + (typedRows w.columns all).length = all.length)
    (taken : takeAll w 0 points = (.ok droppedRows, ready))
    (answer : writeTable transmit w link points = (.ok outcome, other, after)) :
    Written transmit w link all outcome other after := by
  by_cases none : typedRows w.columns all = []
  · rw [none] at held counted
    simp only [writeTable, taken, flush_of_holds_nil held, Prod.mk.injEq, Except.ok.injEq] at answer
    obtain ⟨rfl, rfl, rfl⟩ := answer
    exact
      { rows := by simp [none]
        metrics := by simp [none]
        droppedItems := rfl
        droppedRows := by simpa [none] using counted
        empty := held
        sent := Or.inl ⟨Or.inl none, same, rfl⟩ }
  · obtain ⟨record, flushed, fields, rows, width, rowList⟩ := flush_of_holds held none
    have columns : ready.columns = w.columns ∧ ready.fields = w.fields := by
      obtain ⟨_, _, rfl⟩ := same
      exact ⟨rfl, rfl⟩
    have emptied : Rebuffered w ready.emptied := same.trans ⟨_, _, rfl⟩
    have both := send_eq transmit ready.emptied link record
    simp only [writeTable, taken, flushed, Prod.mk.injEq, Except.ok.injEq] at answer
    obtain ⟨rfl, writer, link'⟩ := answer
    have pair : (other, after) = (send transmit ready.emptied link record).2 := by
      rw [← writer, ← link']
    rw [both] at pair
    refine
      { rows
        metrics := by simp [rows, width, columns.1]
        droppedItems := rfl
        droppedRows := counted
        empty := ?_
        sent := ?_ }
    · have sent := holds_send (holds_emptied held) transmit link record
      rwa [both, ← pair] at sent
    · cases transmit with
      | false =>
        obtain ⟨rfl, rfl⟩ := Prod.mk.inj pair
        exact Or.inl ⟨Or.inr rfl, emptied, rfl⟩
      | true =>
        exact Or.inr ⟨rfl, ready.emptied, record, emptied, fields.trans columns.2, rowList, pair⟩

/-- When writing succeeds, each point is in the record or was counted as dropped, and the
writer's buffer is empty again. -/
theorem writeTable_ok {transmit : Bool} {w other : TableWriter} {link after : Link}
    {points : List Point} {outcome : Outcome} (held : w.Holds []) (opened : w.closed = false)
    (answer : writeTable transmit w link points = (.ok outcome, other, after)) :
    Written transmit w link points outcome other after := by
  cases taken : takeAll w 0 points with
  | mk result ready =>
    cases result with
    | error fault => simp [writeTable, taken] at answer
    | ok droppedRows =>
      obtain ⟨holds, counted⟩ := takeAll_ok held opened taken
      have same := rebuffered_takeAll w 0 points
      rw [taken] at same
      exact written_of_flush same (by simpa using holds) (by simpa using counted) taken answer

/-- Writing succeeds only for points of the width of the table. -/
theorem widths_of_writeTable {transmit : Bool} {w other : TableWriter} {link after : Link}
    {points : List Point} {outcome : Outcome} (opened : w.closed = false)
    (answer : writeTable transmit w link points = (.ok outcome, other, after)) :
    ∀ p ∈ points, p.width + 1 = w.columns.length := by
  rcases taken : takeAll w 0 points with ⟨fault | dropped, ready⟩
  · simp [writeTable, taken] at answer
  · exact widths_of_takeAll opened taken

/-- Writing points of the width of the table succeeds. -/
theorem writeTable_of_width (transmit : Bool) {w : TableWriter} (link : Link) {points : List Point}
    (held : w.Holds []) (opened : w.closed = false)
    (widths : ∀ p ∈ points, p.width + 1 = w.columns.length) :
    ∃ outcome other after, writeTable transmit w link points = (.ok outcome, other, after) := by
  obtain ⟨droppedRows, ready, taken⟩ := takeAll_of_width opened 0 widths
  have holds := (takeAll_ok held opened taken).1
  by_cases none : typedRows w.columns points = []
  · rw [none] at holds
    exact ⟨_, _, _, by simp only [writeTable, taken, flush_of_holds_nil holds]; rfl⟩
  · obtain ⟨record, flushed, _⟩ := flush_of_holds holds (by simpa using none)
    exact ⟨_, _, _, by simp only [writeTable, taken, flushed]; rfl⟩

end Ingest

end SeriesBench
