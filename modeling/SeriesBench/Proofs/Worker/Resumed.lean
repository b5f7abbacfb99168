import Mathlib.Algebra.GroupWithZero.Nat
import SeriesBench.Proofs.Worker.Writing
import SeriesBench.Proofs.Remote.Obliging

/-!
# Writing over what was left behind

A point of the wrong width stops the writing to its table. The points before it were taken, and
their rows stay in the buffer: nothing gives them back, and nothing was flushed. A later writing
that succeeds flushes them in front of its own rows, as if it had been given their points as well.

So a writer is described by the points that it `Keeps`: those it took since it was last flushed.
A writing that succeeds leaves none, one that fails leaves some more.
-/

namespace SeriesBench

namespace TableWriter

/-- The points whose rows convert under some columns. -/
def converting (columns : List ColumnDef) (points : List Point) : List Point :=
  points.filter fun p => (typedRow columns p).isSome

/-- Points that do not convert have no rows, so they may be left out. -/
theorem typedRows_converting (columns : List ColumnDef) (points : List Point) :
    typedRows columns (converting columns points) = typedRows columns points := by
  simp only [typedRows, converting, List.filterMap_filter]
  refine List.filterMap_congr fun p _ => ?_
  cases typedRow columns p <;> rfl

/-- As many points convert as there are rows of them. -/
theorem length_converting (columns : List ColumnDef) (points : List Point) :
    (converting columns points).length = (typedRows columns points).length := by
  rw [converting, ← List.countP_eq_length_filter, typedRows, List.length_filterMap_eq_countP]

/-- The writer holds the rows of these points, all of which convert. -/
structure Keeps (w : TableWriter) (points : List Point) : Prop where
  held : w.Holds (typedRows w.columns points)
  converts : (typedRows w.columns points).length = points.length

/-- A writer with an empty buffer keeps no points. -/
theorem keeps_nil {w : TableWriter} (held : w.Holds []) : w.Keeps [] :=
  ⟨held, rfl⟩

/-- The rows that a writer took and has not flushed, which are those that a flush would give. -/
def unflushed (w : TableWriter) : List (List Value) :=
  match w.flush.1 with
  | .ok (some record) => record.rowList
  | .ok none | .error _ => []

/-- The rows that a writer has not flushed are those that it holds. -/
theorem unflushed_of_holds {w : TableWriter} {rows : List (List Value)} (held : w.Holds rows) :
    w.unflushed = rows := by
  by_cases none : rows = []
  · subst none
    simp [unflushed, flush_of_holds_nil held]
  · obtain ⟨record, flushed, _, _, _, rowList⟩ := flush_of_holds held none
    simp [unflushed, flushed, rowList]

end TableWriter

/-- An event that inserts, if anything, one of these records. -/
def Event.InsertsOne (records : List Record) (event : Event) : Prop :=
  ∀ statement record, event.call = .insert statement record → record ∈ records

/-- The link goes on, and what is inserted is one of these records. -/
def Link.Inserts (link after : Link) (records : List Record) : Prop :=
  link.Only (Event.InsertsOne records) after

namespace Link.Inserts

/-- A link that nothing happened to has inserted nothing. -/
theorem refl (link : Link) (records : List Record) : link.Inserts link records :=
  Link.Only.refl link

/-- What is inserted is also one of more records. -/
theorem mono {link after : Link} {xs ys : List Record} (inserts : link.Inserts after xs)
    (more : xs ⊆ ys) : link.Inserts after ys :=
  Link.Only.mono inserts fun _ among statement record call => more (among statement record call)

/-- What is inserted in two parts is of the records of both. -/
theorem trans {first second third : Link} {xs ys : List Record} (one : first.Inserts second xs)
    (two : second.Inserts third ys) : first.Inserts third (xs ++ ys) :=
  Link.Only.trans (one.mono (List.subset_append_left xs ys))
    (two.mono (List.subset_append_right xs ys))

end Link.Inserts

/-- Transmitting a record inserts no other one. -/
theorem TableWriter.inserts_transmit (w : TableWriter) (link : Link) (record : Record) :
    link.Inserts (w.transmit link record).2.2 [record] := by
  cases held : w.statement with
  | some statement =>
    rw [transmit_of_some held]
    exact ⟨_, ⟨rfl, rfl⟩, by simp [Event.InsertsOne]⟩
  | none =>
    obtain ⟨defined, failed | failed | ⟨sent, done⟩⟩ := transmit_of_none held link record
    · rw [failed]
      exact ⟨_, ⟨rfl, rfl⟩, by simp [Event.InsertsOne]⟩
    · rw [failed]
      exact ⟨_, ⟨rfl, List.append_assoc _ _ _⟩, by simp [Event.InsertsOne]⟩
    · rw [done]
      exact ⟨_, ⟨rfl, by simp only [entered, List.append_assoc]; rfl⟩, by simp [Event.InsertsOne]⟩

namespace Ingest

open TableWriter

/-- The points before the first that is not as wide as a table with these columns. -/
def beforeMisfit (columns : List ColumnDef) (points : List Point) : List Point :=
  points.takeWhile fun p => p.width + 1 = columns.length

/-- When an open writer stops at a point, it holds the rows of the points before that one as
well: it stopped because of the width. -/
theorem takeAll_error {w other : TableWriter} {rows : List (List Value)} (held : w.Holds rows)
    (opened : w.closed = false) {dropped : Nat} {points : List Point} {fault : Fault}
    (answer : takeAll w dropped points = (.error fault, other)) :
    other.Holds (rows ++ typedRows w.columns (beforeMisfit w.columns points)) := by
  induction points generalizing w rows dropped with
  | nil => simp [takeAll] at answer
  | cons p rest ih =>
    by_cases width : p.width + 1 = w.columns.length
    · have before : beforeMisfit w.columns (p :: rest) = p :: beforeMisfit w.columns rest := by
        simp [beforeMisfit, width]
      cases typed : typedRow w.columns p with
      | some row =>
        obtain ⟨values, taken, length, kept⟩ := append_of_typedRow opened typed
        have later : takeAll (w.push values) dropped rest = (.error fault, other) := by
          simpa [takeAll, taken] using answer
        have columns : (w.push values).columns = w.columns := rfl
        have holds := ih (holds_push held typed length kept) opened later
        rw [columns] at holds
        simpa [before, typedRows, typed] using holds
      | none =>
        obtain ⟨refusal, refused, inValue⟩ := append_of_unconverted opened width typed
        have later : takeAll w (dropped + 1) rest = (.error fault, other) := by
          simpa [takeAll, refused, inValue] using answer
        simpa [before, typedRows, typed] using ih held opened later
    · have before : beforeMisfit w.columns (p :: rest) = [] := by simp [beforeMisfit, width]
      have same : w = other := by
        have refused := append_of_width opened width
        simp only [takeAll, refused, Fault.isValue] at answer
        exact (Prod.mk.inj answer).2
      subst same
      simpa [before, typedRows] using held

/-- What stops an open writer from taking points is the first of them that is not as wide as its
table. As long as points are as wide as the table they are taken or dropped, and what stops the
writer comes after them. -/
theorem takeAll_misfit {w other : TableWriter} (opened : w.closed = false) {dropped : Nat}
    {points : List Point} {fault : Fault}
    (answer : takeAll w dropped points = (.error fault, other)) :
    ∃ p, points.find? (fun p => p.width + 1 ≠ w.columns.length) = some p ∧
      fault = .width w.table w.columns.length (p.width + 1) := by
  induction points generalizing w dropped with
  | nil => simp [takeAll] at answer
  | cons p rest ih =>
    by_cases width : p.width + 1 = w.columns.length
    · have later : ∃ next dropped, takeAll next dropped rest = (.error fault, other) ∧
          next.closed = false ∧ next.table = w.table ∧ next.columns = w.columns := by
        cases typed : TableWriter.typedRow w.columns p with
        | some row =>
          obtain ⟨values, taken, _, _⟩ := TableWriter.append_of_typedRow opened typed
          exact ⟨w.push values, dropped, by simpa [takeAll, taken] using answer, opened, rfl, rfl⟩
        | none =>
          obtain ⟨refusal, refused, inValue⟩ :=
            TableWriter.append_of_unconverted opened width typed
          exact ⟨w, dropped + 1, by simpa [takeAll, refused, inValue] using answer, opened, rfl, rfl⟩
      obtain ⟨next, dropped, answer, opened, table, columns⟩ := later
      obtain ⟨q, first, same⟩ := ih opened answer
      rw [table, columns] at same
      rw [columns] at first
      exact ⟨q, by simpa [width] using first, same⟩
    · have refused := TableWriter.append_of_width opened width
      simp only [takeAll, refused, Fault.isValue] at answer
      exact ⟨p, by simp [width], (Except.error.inj (Prod.mk.inj answer).1).symm⟩

/-- The record that writing points to a table flushes, if it flushes one. -/
def flushedBy (w : TableWriter) (points : List Point) : Option Record :=
  match takeAll w 0 points with
  | (.error _, _) => none
  | (.ok _, w) =>
    match w.flush.1 with
    | .ok record => record
    | .error _ => none

/-- What is inserted while points are written is the record that is flushed. -/
theorem inserts_writeTable (transmit : Bool) (w : TableWriter) (link : Link) (points : List Point) :
    link.Inserts (writeTable transmit w link points).2.2 (flushedBy w points).toList := by
  rcases taken : takeAll w 0 points with ⟨fault | droppedRows, ready⟩
  · simpa [writeTable, flushedBy, taken] using Link.Inserts.refl link []
  · rcases flushed : ready.flush with ⟨fault | none | record, last⟩
    · simpa [writeTable, flushedBy, taken, flushed] using Link.Inserts.refl link []
    · simpa [writeTable, flushedBy, taken, flushed] using Link.Inserts.refl link []
    · have one : (flushedBy w points).toList = [record] := by simp [flushedBy, taken, flushed]
      have sends : (writeTable transmit w link points).2.2 =
          (send transmit last link record).2.2 := by
        simp [writeTable, taken, flushed]
      rw [one, sends, send_eq]
      split
      · exact inserts_transmit last link record
      · exact .refl link _

/-- A writer that keeps some points and takes more of them flushes the rows of all, if there are
any. -/
theorem flushedBy_cases {w ready : TableWriter} {points all : List Point} {droppedRows : Nat}
    (same : Rebuffered w ready) (held : ready.Holds (typedRows w.columns all))
    (taken : takeAll w 0 points = (.ok droppedRows, ready)) :
    typedRows w.columns all = [] ∧ flushedBy w points = none ∨
      ∃ record, flushedBy w points = some record ∧ record.fields = w.fields ∧
        record.rows = (typedRows w.columns all).length ∧
        record.rowList = typedRows w.columns all := by
  by_cases none : typedRows w.columns all = []
  · rw [none] at held
    exact Or.inl ⟨none, by simp [flushedBy, taken, flush_of_holds_nil held]⟩
  · obtain ⟨record, flushed, fields, rows, _, rowList⟩ := flush_of_holds held none
    have columns : ready.fields = w.fields := by
      obtain ⟨_, _, rfl⟩ := same
      rfl
    exact Or.inr ⟨record, by simp [flushedBy, taken, flushed], fields.trans columns, rows, rowList⟩

/-- What writing points to an open writer that keeps others comes to, when it succeeds: as if all
of them had been written to an empty buffer. -/
structure Resumed (transmit : Bool) (w : TableWriter) (link : Link) (kept points : List Point)
    (outcome : Outcome) (other : TableWriter) (after : Link) : Prop where
  written : Written transmit w link (kept ++ points) outcome other after
  rows : outcome.rows = ((flushedBy w points).toList.map Record.rows).sum
  record : ∀ record, flushedBy w points = some record →
    record.fields = w.fields ∧ record.rowList = typedRows w.columns (kept ++ points)

/-- What writing to a writer that keeps some points comes to, when it succeeds. Proof: the rows in
the buffer are those of the points kept and then those of the points given, which is what the buffer
would hold if all of them had been written at once. -/
theorem writeTable_resumed {transmit : Bool} {w other : TableWriter} {link after : Link}
    {kept points : List Point} {outcome : Outcome} (keeps : w.Keeps kept)
    (opened : w.closed = false)
    (answer : writeTable transmit w link points = (.ok outcome, other, after)) :
    Resumed transmit w link kept points outcome other after := by
  cases taken : takeAll w 0 points with
  | mk result ready =>
    cases result with
    | error fault => simp [writeTable, taken] at answer
    | ok droppedRows =>
      obtain ⟨holds, counted⟩ := takeAll_ok keeps.held opened taken
      have same := rebuffered_takeAll w 0 points
      rw [taken] at same
      rw [← typedRows_append] at holds
      have all : droppedRows + (typedRows w.columns (kept ++ points)).length =
          (kept ++ points).length := by
        have converts := keeps.converts
        simp only [typedRows_append, List.length_append]
        omega
      have written := written_of_flush same holds all taken answer
      refine ⟨written, ?_, ?_⟩
      · rcases flushedBy_cases same holds taken with ⟨none, nothing⟩ | ⟨record, flushed, _, rows, _⟩
        · simp [nothing, written.rows, none]
        · simp [flushed, written.rows, rows]
      · intro record flushed
        rcases flushedBy_cases same holds taken with ⟨_, nothing⟩ | ⟨other, this, fields, _, rowList⟩
        · simp [nothing] at flushed
        · obtain rfl : other = record := Option.some.inj (this.symm.trans flushed)
          exact ⟨fields, rowList⟩

/-- Writing fails only while points are taken: a flush of what a writer holds does not. -/
theorem takeAll_of_failed {transmit : Bool} {w other : TableWriter} {link after : Link}
    {kept points : List Point} {fault : Fault} (keeps : w.Keeps kept) (opened : w.closed = false)
    (answer : writeTable transmit w link points = (.error fault, other, after)) :
    takeAll w 0 points = (.error fault, other) ∧ after = link := by
  rcases taken : takeAll w 0 points with ⟨stopped | droppedRows, ready⟩
  · simp only [writeTable, taken, Prod.mk.injEq, Except.error.injEq] at answer
    obtain ⟨rfl, rfl, rfl⟩ := answer
    exact ⟨rfl, rfl⟩
  · obtain ⟨holds, _⟩ := takeAll_ok keeps.held opened taken
    by_cases none : typedRows w.columns kept ++ typedRows w.columns points = []
    · rw [none] at holds
      simp [writeTable, taken, flush_of_holds_nil holds] at answer
    · obtain ⟨record, flushed, _⟩ := flush_of_holds holds none
      simp [writeTable, taken, flushed] at answer

/-- When writing fails, nothing is said to the service, and the writer keeps the points before the
one that it stopped at, those of them that convert. -/
theorem writeTable_failed {transmit : Bool} {w other : TableWriter} {link after : Link}
    {kept points : List Point} {fault : Fault} (keeps : w.Keeps kept) (opened : w.closed = false)
    (answer : writeTable transmit w link points = (.error fault, other, after)) :
    other.Keeps (kept ++ converting w.columns (beforeMisfit w.columns points)) ∧ after = link := by
  obtain ⟨taken, same⟩ := takeAll_of_failed keeps opened answer
  have holds := takeAll_error keeps.held opened taken
  have columns : other.columns = w.columns := by
    have rebuffered := rebuffered_takeAll w 0 points
    rw [taken] at rebuffered
    obtain ⟨_, _, rfl⟩ := rebuffered
    rfl
  refine ⟨⟨?_, ?_⟩, same⟩
  · simpa [columns, typedRows_converting] using holds
  · simp [columns, typedRows_converting, keeps.converts, length_converting]

end Ingest

end SeriesBench
