import SeriesBench.Proofs.Load.Exact
import SeriesBench.Proofs.Remote.Tables

/-!
# Loads of tables whose points are alike

When the points of a table all have columns of the same types, it does not matter which of them
comes first: their names may differ, but each fixes columns that take the same rows. So whoever
meets a table first, and in whatever order its points arrive, the table gets the rows that the
input has for it. This holds for either routing. With a shared registry any worker may make the
writer of a table and any may write to it; between two writes its buffer is empty, and no two
writers of a load are for the same table.
-/

namespace SeriesBench

/-- Points of one table have columns of the same types, in the same order. -/
def Alike (points : List Point) : Prop :=
  ∀ p ∈ points, ∀ q ∈ points, p.measurement = q.measurement →
    p.columns.map Entry.type = q.columns.map Entry.type

instance (points : List Point) : Decidable (Alike points) :=
  inferInstanceAs (Decidable (∀ p ∈ points, ∀ q ∈ points, p.measurement = q.measurement →
    p.columns.map Entry.type = q.columns.map Entry.type))

namespace TableWriter

/-- The cells of a row are converted by the kinds of their columns. -/
theorem cells_eq (columns : List ColumnDef) (texts : List (Option String)) :
    (columns.zip texts).mapM (fun (column, text) => column.kind.cell text) =
      ((columns.map ColumnDef.kind).zip texts).mapM fun (kind, text) => kind.cell text := by
  induction columns generalizing texts with
  | nil => rfl
  | cons column rest ih =>
    cases texts with
    | nil => rfl
    | cons text texts => simp [ih texts]

/-- Rows depend on the kinds of the columns only. -/
theorem typedRow_congr {columns others : List ColumnDef}
    (kinds : columns.map ColumnDef.kind = others.map ColumnDef.kind) :
    typedRow columns = typedRow others := by
  have length : columns.length = others.length := by
    simpa using congrArg List.length kinds
  funext p
  rw [typedRow, typedRow, length, cells_eq columns, cells_eq others, kinds]

/-- The kinds of a table's columns are those of the types that its first point has. -/
theorem kinds_columnsOf (sample : Point) : (columnsOf sample).map ColumnDef.kind =
    .timestamp :: (sample.columns.map Entry.type).map .ofTag := by
  simp [columnsOf]

end TableWriter

/-- Any point of a table fixes columns of the kinds that the first one does. -/
theorem Alike.kinds {points : List Point} (alike : Alike points) {sample : Point}
    (member : sample ∈ points) :
    (schemaOf points sample.measurement).map ColumnDef.kind =
      (TableWriter.columnsOf sample).map ColumnDef.kind := by
  unfold schemaOf
  cases head : (ofTable sample.measurement points).head? with
  | none =>
    rw [List.head?_eq_none_iff] at head
    exact absurd (mem_ofTable.mpr ⟨member, rfl⟩) (by simp [head])
  | some first =>
    obtain ⟨inPoints, table⟩ := mem_ofTable.mp (List.mem_of_mem_head? head)
    rw [TableWriter.kinds_columnsOf, TableWriter.kinds_columnsOf,
      alike first inPoints sample member table]

/-- A table without points has no rows. -/
theorem rowsFor_nil {points : List Point} {table : String} (missing : table ∉ tablesOf points) :
    rowsFor points table = [] := by
  have none : ofTable table points = [] := ofTable_none fun p member same =>
    missing (mem_tablesOf.mpr ⟨p, member, same⟩)
  simp [rowsFor, none, TableWriter.typedRows]

namespace Pipeline

variable {s next : Pipeline} {actor : Actor} {all : List Item} {points done : List Point}

/-- Every writer has the columns that some point of its table fixes. -/
def Sampled (points : List Point) (s : Pipeline) : Prop :=
  ∀ w ∈ s.crew.writers, ∃ sample ∈ points, sample.measurement = w.table ∧
    w.columns = TableWriter.columnsOf sample

/-- A move keeps every writer with a sample among the points, whichever worker makes a new one. -/
theorem sampled_move (decoded : all.filterMap Item.decoded = points) (carried : Carried all s)
    (sampled : Sampled points s) (change : Change s next actor) : Sampled points next := by
  cases change with
  | counted writers => exact fun w member => sampled w (writers ▸ member)
  | enrolled index group rest layout before behind front was now =>
    intro w member
    rw [now] at member
    rcases mem_cut.mp member with rfl | old
    · obtain ⟨_, _, origins⟩ := carried.groups index group (front ▸ List.mem_cons_self)
      obtain ⟨item, inAll, decodes⟩ := origins group.first List.mem_cons_self
      exact ⟨group.first, decoded ▸ List.mem_filterMap.mpr ⟨item, inAll, decodes⟩, rfl, rfl⟩
    · exact sampled w (was ▸ old)
  | wrote w other before behind gain was now its opened written =>
    intro v member
    rw [now] at member
    rcases mem_cut.mp member with rfl | old
    · obtain ⟨table, columns⟩ := written.same
      rw [table, columns]
      exact sampled w (was ▸ mem_cut.mpr (Or.inl rfl))
    · exact sampled v (was ▸ mem_cut.mpr (Or.inr old))

/-- What a writer of alike points takes is what the input has for its table. -/
theorem Sampled.schema (alike : Alike points) (sampled : Sampled points s) {w : TableWriter}
    (member : w ∈ s.crew.writers) :
    w.table ∈ tablesOf points ∧ w.columns.length = (schemaOf points w.table).length ∧
      TableWriter.typedRow w.columns = TableWriter.typedRow (schemaOf points w.table) := by
  obtain ⟨sample, inPoints, table, columns⟩ := sampled w member
  have kinds := alike.kinds inPoints
  rw [table, ← columns] at kinds
  refine ⟨mem_tablesOf.mpr ⟨sample, inPoints, table⟩, ?_, (TableWriter.typedRow_congr kinds).symm⟩
  simpa using (congrArg List.length kinds).symm

/-- Alike points have the width that the writer of their table expects. -/
theorem Sampled.widths (alike : Alike points) (sampled : Sampled points s) :
    ∀ w ∈ s.crew.writers, ∀ p ∈ points, p.measurement = w.table →
      p.width + 1 = w.columns.length := by
  intro w member p inPoints table
  obtain ⟨sample, inSamples, same, columns⟩ := sampled w member
  have types := congrArg List.length (alike p inPoints sample inSamples (table.trans same.symm))
  rw [List.length_map, List.length_map, Point.length_columns, Point.length_columns] at types
  rw [columns, TableWriter.length_columnsOf, types]

/-- All that holds of a load of alike points in which nothing goes wrong. -/
structure Even (plan : LoadPlan) (all : List Item) (total : Tally) (points done : List Point)
    (s : Pipeline) : Prop where
  same : s.plan = plan
  carried : Carried all s
  staffed : s.Staffed
  lossless : s.Lossless
  readable : .failed ∉ s.scanner.upcoming
  accounts : Accounts all total done s
  sampled : Sampled points s
  inserted : ∀ w ∈ s.crew.writers,
    s.link.journal.rowsInto w.insertSql = sentOf s.plan.transmit (w.rowsOf done)
  obliging : s.link.service.Obliging

/-- Every move of a load of alike points keeps it even. Nobody fails in it, because no point has
another width than its table. -/
theorem even_move {plan : LoadPlan} (alike : Alike points) (proper : ∀ item ∈ all, item.Proper)
    (decoded : all.filterMap Item.decoded = points) {total : Tally} (formed : s.Formed)
    (even : Even plan all total points done s) (moved : Move s actor next) :
    Even plan all total points (done ++ s.written actor) next := by
  obtain ⟨rfl, carried, staffed, lossless, readable, accounts, sampled, inserted, obliging⟩ := even
  have booked := accounts.booked
  have plan := plan_move moved
  have staffedNext := staffed_move proper formed carried staffed moved
  obtain ⟨unfailed, stillReadable⟩ := lossless_move lossless readable
    (sure_of_widths decoded carried staffed booked.empty (sampled.widths alike)) moved
  have change := change_of_move formed carried staffed booked.empty moved unfailed
  obtain ⟨insertedNext, stillObliging⟩ :=
    inserted_move staffed staffedNext booked inserted obliging change
  exact
    { same := plan
      carried := carried_move proper formed carried moved
      staffed := staffedNext
      lossless := unfailed
      readable := stillReadable
      accounts := accounts_move proper formed carried staffed accounts moved unfailed
      sampled := sampled_move decoded carried sampled change
      inserted := plan ▸ insertedNext
      obliging := stillObliging }

/-- At first nothing has gone wrong. -/
theorem even_start {plan : LoadPlan} {router : Router} {scanner : Scanner} {service : Service}
    (readable : .failed ∉ scanner.upcoming) (obliging : service.Obliging) :
    Even plan (Load.itemsOf plan scanner) (scanner.tallyAhead plan.intake) points []
      (start plan router scanner (.fresh service)) := by
  have none : (start plan router scanner (.fresh service)).crew.writers = [] := by
    rw [start_eq]
    exact Crew.writers_make plan.routing plan.workers plan.layout
  obtain ⟨same, carried, staffed, lossless, readable, accounts, faithful⟩ :=
    @smooth_start _ plan router scanner service readable obliging rfl
  exact ⟨same, carried, staffed, lossless, readable, accounts, by simp [Sampled, none],
    by simp [none], faithful.obliging⟩

end Pipeline

namespace Load

open Pipeline

/-- A load did what its input says, whoever did it and in whatever order: the scan has seen all
lines, each item is dropped, dropped as a row or a row, each table got its rows, and it got them
through one statement. -/
structure LoadedEvenly (plan : LoadPlan) (lines : List (List UInt8)) (summary : Summary)
    (journal : Journal) : Prop where
  scan : summary.scan = ⟨lines.length, Scanner.droppedOf plan.intake lines⟩
  items : summary.outcome.droppedItems =
    (Scanner.itemsOf plan.intake lines).countP Item.undecodable
  rows : summary.outcome.rows = ((tablesOf (Scanner.pointsOf lines)).map fun table =>
    (rowsFor (Scanner.pointsOf lines) table).length).sum
  metrics : summary.outcome.metrics = ((tablesOf (Scanner.pointsOf lines)).map fun table =>
    (rowsFor (Scanner.pointsOf lines) table).length *
      (schemaOf (Scanner.pointsOf lines) table).length).sum
  droppedRows : summary.outcome.droppedRows + summary.outcome.rows =
    (Scanner.pointsOf lines).length
  sent : ∀ table, (journal.rowsOfTable table).Perm
    (sentOf plan.transmit (rowsFor (Scanner.pointsOf lines) table))
  prepared : ∀ table, sentOf plan.transmit (rowsFor (Scanner.pointsOf lines) table) ≠ [] →
    journal.preparedFor table = 1

/-- What a load of alike points has done when it ends. -/
theorem loaded_of_even {plan : LoadPlan} {lines : List (List UInt8)} {done : List Point}
    {s : Pipeline} (formed : s.Formed) (alike : Alike (Scanner.pointsOf lines))
    (even : Even plan (Scanner.itemsOf plan.intake lines)
      ⟨lines.length, Scanner.droppedOf plan.intake lines⟩ (Scanner.pointsOf lines) done s)
    (finished : s.isOver = true) :
    ∃ summary link, result s = (.ok summary, link) ∧
      LoadedEvenly plan lines summary link.journal := by
  obtain ⟨rfl, carried, staffed, lossless, readable, accounts, sampled, inserted, obliging⟩ := even
  obtain ⟨located, booked, scan⟩ := accounts
  obtain ⟨⟨tally, producer⟩, ended, ahead, flight⟩ := flight_over formed lossless finished
  obtain ⟨closed, closes⟩ := closeAll_obliging obliging
  obtain ⟨summary, ok, outcome⟩ := result_of_lossless lossless producer closed
  obtain ⟨_, tallied, _⟩ := lossless_of_result finished ok
  obtain ⟨perm, undecoded⟩ := located.at_end ahead flight
  rw [Scanner.decoded_itemsOf] at perm
  let points := Scanner.pointsOf lines
  have known : ∀ p ∈ points, p.measurement ∈ s.crew.made := fun p member =>
    booked.known p (perm.mem_iff.mpr member)
  have rowsOf {w : TableWriter} (member : w ∈ s.crew.writers) :
      (w.rowsOf done).Perm (rowsFor points w.table) := by
    obtain ⟨_, _, row⟩ := sampled.schema alike member
    rw [TableWriter.rowsOf, rowsFor, TableWriter.typedRows, TableWriter.typedRows, row]
    exact (perm.filter _).filterMap _
  have each (weight : List ColumnDef → Nat)
      (byLength : ∀ columns others, columns.length = others.length →
        weight columns = weight others) : ∀ w ∈ s.crew.writers, w.table ∈ tablesOf points ∧
        (w.rowsOf done).length = (rowsFor points w.table).length ∧
        weight w.columns = weight (schemaOf points w.table) := by
    intro w member
    obtain ⟨inTables, width, _⟩ := sampled.schema alike member
    exact ⟨inTables, (rowsOf member).length_eq, byLength _ _ width⟩
  have unmade {table : String} (missing : table ∉ s.crew.writers.map TableWriter.table) :
      table ∉ tablesOf points := by
    intro member
    obtain ⟨p, inPoints, rfl⟩ := mem_tablesOf.mp member
    rw [Crew.made_eq] at missing
    exact missing (known p inPoints)
  have counted {count : Outcome → Nat} (additive : Outcome.Additive count) :
      count summary.outcome = s.counted count := by
    rw [outcome, count_total additive ended]
  refine ⟨summary, (closeAll s).2.2, ok, ?_⟩
  exact
    { scan := by
        rw [← scan, tallyAtEnd, tallied]
      items := by rw [counted Outcome.additive_droppedItems, undecoded]
      rows := by
        rw [counted Outcome.additive_rows, booked.rows,
          weighRows_over _ staffed known (each _ fun _ _ _ => rfl)]
        simp [points]
      metrics := by
        rw [counted Outcome.additive_metrics, booked.metrics,
          weighRows_over _ staffed known (each _ fun _ _ same => same)]
      droppedRows := by
        rw [counted Outcome.additive_droppedRows, counted Outcome.additive_rows,
          booked.droppedRows, perm.length_eq]
      sent := by
        intro table
        rw [closes.rowsOfTable]
        by_cases member : table ∈ s.crew.writers.map TableWriter.table
        · obtain ⟨w, inWriters, rfl⟩ := List.mem_map.mp member
          rw [staffed.books.rowsOfTable_eq inWriters, inserted w inWriters]
          exact sentOf_perm (rowsOf inWriters)
        · rw [staffed.books.rowsOfTable_nil member, rowsFor_nil (unmade member), sentOf_nil]
      prepared := by
        intro table some
        by_cases member : table ∈ s.crew.writers.map TableWriter.table
        · obtain ⟨w, inWriters, rfl⟩ := List.mem_map.mp member
          rw [Journal.preparedFor, closes.statements]
          refine staffed.books.preparedFor_eq_one inWriters ?_
          rw [inserted w inWriters]
          intro none
          have perm := @sentOf_perm s.plan.transmit _ _ (rowsOf inWriters)
          exact some (List.nil_perm.mp (none ▸ perm))
        · exact absurd (by rw [rowsFor_nil (unmade member), sentOf_nil]) some }

end Load

end SeriesBench
