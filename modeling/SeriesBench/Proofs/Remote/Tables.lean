import SeriesBench.Proofs.Remote.Obliging

/-!
# What a journal says about a table

The text of an insert statement names its table, so the rows that went into a table and the
statements that were prepared for it can be read off a journal without knowing the columns that
the table was given. As long as the books are in order this is what one writer did: no other
has a statement that names its table.
-/

namespace SeriesBench

/-- Whether a statement inserts into a table. -/
def Statement.namesTable (table : String) (statement : Statement) : Bool :=
  tableIn statement.sql = table.toList

/-- The rows that an event inserts into a table. -/
def Event.rowsOfTable (table : String) (event : Event) : List (List Value) :=
  match event.call with
  | .insert statement record => if statement.namesTable table then record.rowList else []
  | .execute _ | .prepare _ | .close _ => []

namespace Journal

/-- The rows that were inserted into a table, in order. -/
def rowsOfTable (table : String) (journal : Journal) : List (List Value) :=
  journal.flatMap (Event.rowsOfTable table)

/-- How many statements were prepared for a table. -/
def preparedFor (table : String) (journal : Journal) : Nat :=
  journal.statements.countP (Statement.namesTable table)

end Journal

namespace Books

variable {writers : List TableWriter} {journal : Journal} {w v : TableWriter}

/-- Only the statement of its own writer names a table. -/
theorem namesTable_iff (books : Books writers journal) (member : w ∈ writers) (other : v ∈ writers)
    {statement : Statement} (text : statement.sql = v.insertSql) :
    statement.namesTable w.table = true ↔ statement.sql = w.insertSql := by
  rw [Statement.namesTable, decide_eq_true_eq, text, books.tableIn_insertSql other,
    String.toList_inj]
  constructor
  · intro table
    rw [List.inj_on_of_nodup_map books.distinct other member table]
  · intro same
    by_contra apart
    exact Books.insertSql_ne (books.plain v other) (books.plain w member) apart same

/-- What went into a table went through the statement of its writer. -/
theorem rowsOfTable_eq (books : Books writers journal) (member : w ∈ writers) :
    journal.rowsOfTable w.table = journal.rowsInto w.insertSql := by
  apply List.flatMap_congr
  intro event inJournal
  unfold Event.rowsOfTable Event.rowsInto
  cases call : event.call with
  | insert statement record =>
    obtain ⟨_, v, other, text, _⟩ := books.insert_fits inJournal call
    simp only [books.namesTable_iff member other text]
  | execute sql => rfl
  | prepare sql => rfl
  | close statement => rfl

/-- Nothing went into a table that has no writer. -/
theorem rowsOfTable_nil (books : Books writers journal) {table : String}
    (unknown : table ∉ writers.map TableWriter.table) : journal.rowsOfTable table = [] := by
  apply List.flatMap_eq_nil_iff.mpr
  intro event inJournal
  unfold Event.rowsOfTable
  cases call : event.call with
  | insert statement record =>
    obtain ⟨_, v, inWriters, text, _⟩ := books.insert_fits inJournal call
    have apart : v.table ≠ table := fun same => unknown (same ▸ List.mem_map_of_mem inWriters)
    have other : statement.namesTable table = false := by
      simpa [Statement.namesTable, text, books.tableIn_insertSql inWriters, String.toList_inj]
        using apart
    simp [other]
  | execute sql => rfl
  | prepare sql => rfl
  | close statement => rfl

/-- A table into which rows went has exactly one statement. -/
theorem preparedFor_eq_one (books : Books writers journal) (member : w ∈ writers)
    (some : journal.rowsInto w.insertSql ≠ []) : journal.preparedFor w.table = 1 := by
  apply Nat.le_antisymm
  · have once := List.nodup_iff_count_le_one.mp books.tables_nodup w.table.toList
    rw [List.count, List.countP_map] at once
    refine (List.countP_mono_left ?_).trans once
    intro statement _ names
    simpa [Statement.namesTable] using names
  · obtain ⟨row, inRows⟩ := List.exists_mem_of_ne_nil _ some
    obtain ⟨event, inJournal, inserted⟩ := List.mem_flatMap.mp inRows
    apply List.countP_pos_iff.mpr
    unfold Event.rowsInto at inserted
    cases call : event.call with
    | insert statement record =>
      obtain ⟨prepared, v, other, text, _⟩ := books.insert_fits inJournal call
      refine ⟨statement, prepared, (books.namesTable_iff member other text).mpr ?_⟩
      by_contra apart
      simp [call, apart] at inserted
    | execute sql => simp [call] at inserted
    | prepare sql => simp [call] at inserted
    | close statement => simp [call] at inserted

end Books

namespace Link.Closes

variable {link after : Link}

/-- Closing inserts nothing into a table. -/
theorem rowsOfTable (closes : link.Closes after) (table : String) :
    after.journal.rowsOfTable table = link.journal.rowsOfTable table := by
  obtain ⟨events, ⟨_, journal⟩, closing⟩ := closes
  have none : Journal.rowsOfTable table events = [] := by
    apply List.flatMap_eq_nil_iff.mpr
    intro event member
    obtain ⟨statement, call⟩ := closing event member
    simp [Event.rowsOfTable, call]
  rw [journal, Journal.rowsOfTable, List.flatMap_append]
  exact (congrArg (_ ++ ·) none).trans (List.append_nil _)

/-- Closing prepares no statement. -/
theorem statements (closes : link.Closes after) :
    after.journal.statements = link.journal.statements := by
  obtain ⟨events, ⟨_, journal⟩, closing⟩ := closes
  have none : events.filterMap Event.prepared? = [] := by
    apply List.filterMap_eq_nil_iff.mpr
    intro event member
    obtain ⟨statement, call⟩ := closing event member
    cases event
    subst call
    rfl
  rw [journal, Journal.statements_append, none]
  simp

end Link.Closes

end SeriesBench
