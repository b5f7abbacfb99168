import SeriesBench.Proofs.Load.Conservation
import SeriesBench.Proofs.Load.Steady

/-!
# Loading exactly the input

A load that routes tables by their name puts into every table exactly the rows that the input
has for it, in the order of the input, whatever the schedule of its actors and the sizes of its
plan are, as long as the reads and the calls of the service succeed and the points of a table
are all as wide as the first one. It never gets stuck and always ends well.

What a table gets is said here without a load: the first point of the table fixes its columns,
and each of its points that converts under these is a row.
-/

namespace SeriesBench

/-- The columns of a table: those that its first point fixes. -/
def schemaOf (points : List Point) (table : String) : List ColumnDef :=
  match (ofTable table points).head? with
  | some first => TableWriter.columnsOf first
  | none => []

/-- The rows that some points have for a table, in order. -/
def rowsFor (points : List Point) (table : String) : List (List Value) :=
  TableWriter.typedRows (schemaOf points table) (ofTable table points)

/-- The text that inserts a row of some points into their table. -/
def insertTextFor (points : List Point) (table : String) : String :=
  insertText table ((schemaOf points table).map ColumnDef.name)

/-- A load of some points did exactly what it should: every table has a text of its own, through
which exactly its rows went in, nothing was inserted through any other text, and the report
counts the rows, and as metrics the rows times the columns. -/
structure LoadedExactly (points : List Point) (summary : Summary) (journal : Journal) : Prop where
  apart : ∀ first ∈ tablesOf points, ∀ second ∈ tablesOf points,
    insertTextFor points first = insertTextFor points second → first = second
  rows : ∀ table ∈ tablesOf points,
    journal.rowsInto (insertTextFor points table) = rowsFor points table
  only : ∀ event ∈ journal, ∀ statement record, event.call = .insert statement record →
    ∃ table ∈ tablesOf points, statement.sql = insertTextFor points table
  counted : summary.outcome.rows =
    ((tablesOf points).map fun table => (rowsFor points table).length).sum
  metrics : summary.outcome.metrics =
    ((tablesOf points).map fun table =>
      (rowsFor points table).length * (schemaOf points table).length).sum

/-- The points that lines describe have plain tables, so their texts differ. -/
theorem insertTextFor_inj {lines : List (List UInt8)} {first second : String}
    (inFirst : first ∈ tablesOf (Scanner.pointsOf lines))
    (inSecond : second ∈ tablesOf (Scanner.pointsOf lines))
    (same : insertTextFor (Scanner.pointsOf lines) first =
      insertTextFor (Scanner.pointsOf lines) second) : first = second := by
  have plain {table : String} (member : table ∈ tablesOf (Scanner.pointsOf lines)) :
      ∀ c ∈ table.toList, Text.isAsciiBlank c = false := by
    obtain ⟨p, inPoints, rfl⟩ := mem_tablesOf.mp member
    obtain ⟨bytes, _, described⟩ := List.mem_filterMap.mp inPoints
    obtain ⟨text, read⟩ := Scanner.read_of_pointOf described
    exact Line.decode_plain read
  exact table_of_insertText same (plain inFirst) (plain inSecond)

namespace Pipeline

variable {s : Pipeline} {points done : List Point} {all : List Item}

/-- All that holds of a load in which nothing goes wrong. -/
structure Smooth (plan : LoadPlan) (all : List Item) (total : Tally) (points done : List Point)
    (s : Pipeline) : Prop where
  same : s.plan = plan
  carried : Carried all s
  staffed : s.Staffed
  lossless : s.Lossless
  readable : .failed ∉ s.scanner.upcoming
  accounts : Accounts all total done s
  faithful : Faithful points done s

/-- Every move of a smooth load keeps it smooth. Nobody fails in it, because no point has another
width than its table, and each part then has its own lemma. -/
theorem smooth_move {plan : LoadPlan} (byName : plan.routing = .byMeasurement)
    (sends : plan.transmit = true) (steady : Steady points) (proper : ∀ item ∈ all, item.Proper)
    (decoded : all.filterMap Item.decoded = points) {total : Tally} {next : Pipeline}
    {actor : Actor} (formed : s.Formed) (smooth : Smooth plan all total points done s)
    (moved : Move s actor next) : Smooth plan all total points (done ++ s.written actor) next := by
  obtain ⟨rfl, carried, staffed, lossless, readable, accounts, faithful⟩ := smooth
  have booked := accounts.booked
  have plan := plan_move moved
  have staffedNext := staffed_move proper formed carried staffed moved
  obtain ⟨unfailed, stillReadable⟩ := lossless_move lossless readable
    (sure_of_widths decoded carried staffed booked.empty (widths_of_steady steady faithful)) moved
  have change := change_of_move formed carried staffed booked.empty moved unfailed
  obtain ⟨inserted, obliging⟩ := inserted_move staffed staffedNext booked
    (by simpa [sends, sentOf] using faithful.inserted) faithful.obliging change
  exact
    { same := plan
      carried := carried_move proper formed carried moved
      staffed := staffedNext
      lossless := unfailed
      readable := stillReadable
      accounts := accounts_move proper formed carried staffed accounts moved unfailed
      faithful :=
        { order := order_move byName faithful
            (shift_of_move proper formed carried moved unfailed) plan
          columns := columns_move byName carried booked faithful change
          inserted := by simpa [sends, sentOf] using inserted
          obliging } }

/-- At first everything is smooth. -/
theorem smooth_start {plan : LoadPlan} {router : Router} {scanner : Scanner} {service : Service}
    (readable : .failed ∉ scanner.upcoming) (obliging : service.Obliging)
    (decoded : (Load.itemsOf plan scanner).filterMap Item.decoded = points) :
    Smooth plan (Load.itemsOf plan scanner) (scanner.tallyAhead plan.intake) points []
      (start plan router scanner (.fresh service)) := by
  have flight := flight_start plan router scanner (.fresh service)
  have none : (start plan router scanner (.fresh service)).crew.writers = [] := by
    rw [start_eq]
    exact Crew.writers_make plan.routing plan.workers plan.layout
  refine ⟨by simp [start_eq], carried_start plan router scanner (.fresh service),
    staffed_start plan router scanner service, ?_, by simpa [start_eq] using readable, ?_, ?_⟩
  · rw [start_eq]
    refine ⟨?_, by simp⟩
    intro i worker member
    simp only [Array.getElem?_replicate, Option.ite_none_right_eq_some] at member
    rw [← Option.some.inj member.2]
    rfl
  · exact ⟨located_start plan router scanner (.fresh service),
      booked_start plan router scanner service, by rw [start_eq]; rfl⟩
  · refine ⟨?_, by simp [none], by simp [none], by rw [start_eq]; exact obliging⟩
    intro table
    rw [← decoded]
    simp [pointsAt, flight, pointsAhead, Ingest.pointsIn, Load.itemsOf]

/-- Writers that have the rows and the widths that the input gives their tables count what the
input has for all tables. -/
theorem weighRows_over (weight : List ColumnDef → Nat) (staffed : s.Staffed)
    (known : ∀ p ∈ points, p.measurement ∈ s.crew.made)
    (each : ∀ w ∈ s.crew.writers, w.table ∈ tablesOf points ∧
      (w.rowsOf done).length = (rowsFor points w.table).length ∧
      weight w.columns = weight (schemaOf points w.table)) :
    weighRows weight s.crew.writers done =
      ((tablesOf points).map fun table =>
        (rowsFor points table).length * weight (schemaOf points table)).sum := by
  have same (w : TableWriter) (member : w ∈ s.crew.writers) :
      (w.rowsOf done).length * weight w.columns =
        (rowsFor points w.table).length * weight (schemaOf points w.table) := by
    obtain ⟨_, rows, weights⟩ := each w member
    rw [rows, weights]
  have tables : (s.crew.writers.map TableWriter.table).Perm (tablesOf points) := by
    refine (List.perm_ext_iff_of_nodup staffed.books.distinct (List.nodup_dedup _)).mpr ?_
    intro table
    constructor
    · intro member
      obtain ⟨w, inWriters, rfl⟩ := List.mem_map.mp member
      exact (each w inWriters).1
    · intro member
      obtain ⟨p, inPoints, rfl⟩ := mem_tablesOf.mp member
      rw [Crew.made_eq]
      exact known p inPoints
  rw [weighRows, List.map_congr_left same, ← (tables.map _).sum_eq, List.map_map]
  rfl

end Pipeline

namespace Load

open Pipeline

/-- Closing what some workers own succeeds with an obliging service. -/
theorem closeWorkers_obliging (indices : List Nat) (crew : Crew) {link : Link}
    (obliging : link.service.Obliging) :
    (closeWorkers crew link indices).1 = .ok () ∧
      link.Closes (closeWorkers crew link indices).2.2 := by
  induction indices generalizing crew link with
  | nil => exact ⟨rfl, .refl link⟩
  | cons index rest ih =>
    obtain ⟨succeeded, first⟩ := crew.closeWorker_obliging index obliging
    obtain ⟨later, more⟩ := ih (crew.closeWorker index link).2.1 (first.obliging obliging)
    refine ⟨?_, first.trans more⟩
    have parts : (closeWorkers crew link (index :: rest)).1 =
        firstFault (crew.closeWorker index link).1
          (closeWorkers (crew.closeWorker index link).2.1
            (crew.closeWorker index link).2.2 rest).1 := rfl
    rw [parts, succeeded, later]
    rfl

/-- Closing everything that is left succeeds with an obliging service. -/
theorem closeAll_obliging {s : Pipeline} (obliging : s.link.service.Obliging) :
    (closeAll s).1 = .ok () ∧ s.link.Closes (closeAll s).2.2 := by
  obtain ⟨workers, first⟩ := closeWorkers_obliging (survivors s) s.crew obliging
  obtain ⟨shared, more⟩ :=
    (closeWorkers s.crew s.link (survivors s)).2.1.closeShared_obliging (first.obliging obliging)
  refine ⟨?_, first.trans more⟩
  have parts : (closeAll s).1 = firstFault (closeWorkers s.crew s.link (survivors s)).1
      (Crew.closeShared (closeWorkers s.crew s.link (survivors s)).2.1
        (closeWorkers s.crew s.link (survivors s)).2.2).1 := rfl
  rw [parts, workers, shared]
  rfl

/-- A load in which nobody has failed and everything could be closed ends well. -/
theorem result_of_lossless {s : Pipeline} (lossless : s.Lossless) {tally : Tally}
    (producer : s.producer = .ended (.ok tally)) (closed : (closeAll s).1 = .ok ()) :
    ∃ summary, result s = (.ok summary, (closeAll s).2.2) ∧ summary.outcome = total s := by
  have unfailed : workerFault s = none := by
    rw [workerFault, List.findSome?_eq_none_iff]
    intro worker member
    obtain ⟨i, found⟩ := List.mem_iff_getElem?.mp member
    rw [Array.getElem?_toList] at found
    exact lossless.workers i worker found
  have scan : scanned s = .ok tally := by simp [scanned, producer]
  rcases closing : closeAll s with ⟨answer, crew, link⟩
  rw [closing] at closed
  simp only at closed
  subst closed
  exact ⟨_, by simp only [result, closing, unfailed, scan]; rfl, rfl⟩

/-- What a smooth load has done when it ends. -/
theorem exact_of_smooth {plan : LoadPlan} {lines : List (List UInt8)} {all : List Item}
    {total : Tally} {done : List Point} {s : Pipeline} (formed : s.Formed)
    (smooth : Smooth plan all total (Scanner.pointsOf lines) done s) (finished : s.isOver = true) :
    ∃ summary link, result s = (.ok summary, link) ∧
      LoadedExactly (Scanner.pointsOf lines) summary link.journal := by
  obtain ⟨rfl, carried, staffed, lossless, readable, accounts, faithful⟩ := smooth
  obtain ⟨⟨tally, producer⟩, ended, ahead, flight⟩ := flight_over formed lossless finished
  obtain ⟨closed, closes⟩ := closeAll_obliging faithful.obliging
  obtain ⟨summary, ok, outcome⟩ := result_of_lossless lossless producer closed
  have written (table : String) : ofTable table done = ofTable table (Scanner.pointsOf lines) := by
    rw [← faithful.order table]
    simp [pointsAt, flight, pointsAhead, ahead, Ingest.pointsIn]
  have known : ∀ p ∈ Scanner.pointsOf lines, p.measurement ∈ s.crew.made := by
    intro p member
    have inTable : p ∈ ofTable p.measurement done :=
      written p.measurement ▸ mem_ofTable.mpr ⟨member, rfl⟩
    exact accounts.booked.known p (mem_ofTable.mp inTable).1
  have schema {w : TableWriter} (inWriters : w ∈ s.crew.writers) :
      w.table ∈ tablesOf (Scanner.pointsOf lines) ∧
        schemaOf (Scanner.pointsOf lines) w.table = w.columns := by
    obtain ⟨first, head, columns⟩ := faithful.columns w inWriters
    refine ⟨mem_tablesOf.mpr ⟨first, mem_ofTable.mp (List.mem_of_mem_head? head)⟩, ?_⟩
    rw [schemaOf, head, columns]
  have each (weight : List ColumnDef → Nat) : ∀ w ∈ s.crew.writers,
      w.table ∈ tablesOf (Scanner.pointsOf lines) ∧
        (w.rowsOf done).length = (rowsFor (Scanner.pointsOf lines) w.table).length ∧
        weight w.columns = weight (schemaOf (Scanner.pointsOf lines) w.table) := by
    intro w inWriters
    obtain ⟨inTables, same⟩ := schema inWriters
    exact ⟨inTables, by rw [TableWriter.rowsOf, written, rowsFor, same], by rw [same]⟩
  refine ⟨summary, (closeAll s).2.2, ok, ?_⟩
  exact
    { apart := fun first inFirst second inSecond => insertTextFor_inj inFirst inSecond
      rows := by
        intro table member
        obtain ⟨p, inPoints, rfl⟩ := mem_tablesOf.mp member
        have made := known p inPoints
        rw [← Crew.made_eq] at made
        obtain ⟨w, inWriters, table⟩ := List.mem_map.mp made
        obtain ⟨_, same⟩ := schema inWriters
        rw [← table, insertTextFor, same, ← w.insertSql_eq, closes.rowsInto,
          faithful.inserted w inWriters, TableWriter.rowsOf, written, rowsFor, same]
      only := by
        intro event member statement record call
        obtain ⟨_, w, inWriters, text, _⟩ :=
          staffed.books.insert_fits (closes.inserted member call) call
        obtain ⟨inTables, same⟩ := schema inWriters
        exact ⟨w.table, inTables, by rw [text, w.insertSql_eq, insertTextFor, same]⟩
      counted := by
        rw [outcome, count_total Outcome.additive_rows ended, accounts.booked.rows,
          weighRows_over _ staffed known (each _)]
        simp
      metrics := by
        rw [outcome, count_total Outcome.additive_metrics ended, accounts.booked.metrics,
          weighRows_over _ staffed known (each _)] }

/-- Loading an input, with any sizes and either intake, if tables are routed by their name,
records are sent, the input arrives whole, every call succeeds, and every point is as wide as
the first of its table:

* a schedule never gets stuck before everybody is done, and there are no endless ones;
* whichever schedule it was, the load ends well, and into every table went exactly the rows of
  its points, in the order of the input;
* so it is, in particular, when the load is run.

Proof: every step keeps the load `Smooth`, which says of each table that the points written so far,
those on their way to its worker and those still to be scanned are together its points, in order,
and that what was inserted are the rows of those written. At the end none are on their way. That a
run ends is told by its potential, which each step lowers, and that it never gets stuck by looking
at who can still move. -/
theorem rows_are_exact {plan : LoadPlan} (sound : plan.Sound) (makeable : Makeable plan)
    (byName : plan.routing = .byMeasurement) (sends : plan.transmit = true) {chunks : List Chunk}
    (whole : ∀ chunk ∈ chunks, chunk.Whole) {service : Service} (obliging : service.Obliging)
    (steady : Steady (Scanner.pointsOf (linesOf (Chunk.bytesOf chunks)))) :
    let lines := linesOf (Chunk.bytesOf chunks)
    (∀ router schedule s, Router.make plan.routing plan.workers = .ok router →
      (start plan router (.ofChunks chunks) (.fresh service)).run schedule = some s →
      schedule.length ≤ 6 * lines.length + 2 * plan.workers + 2 ∧
      (s.isOver = true ∨ ∃ actor next, s.step actor = some next)) ∧
    (∀ s, Ends plan (.ofChunks chunks) (.fresh service) s →
      ∃ summary link, result s = (.ok summary, link) ∧
        LoadedExactly (Scanner.pointsOf lines) summary link.journal) ∧
    ∃ summary link,
      Load.run plan (.ofChunks chunks) (.fresh service) = some (.ok summary, link) ∧
        LoadedExactly (Scanner.pointsOf lines) summary link.journal := by
  intro lines
  have upcoming : (Scanner.ofChunks chunks).upcoming = lines.map .line := upcoming_ofChunks whole
  have readable : .failed ∉ (Scanner.ofChunks chunks).upcoming := by simp [upcoming]
  have decoded : (itemsOf plan (.ofChunks chunks)).filterMap Item.decoded =
      Scanner.pointsOf lines := by
    rw [itemsOf, Scanner.decoded_itemsOf, upcoming, Scanner.linesAhead_lines]
  have proper : ∀ item ∈ itemsOf plan (.ofChunks chunks), item.Proper := fun item member =>
    Scanner.proper_itemsOf member
  have smooth {router : Router} {schedule : List Actor} {s : Pipeline}
      (made : Router.make plan.routing plan.workers = .ok router)
      (ran : (start plan router (.ofChunks chunks) (.fresh service)).run schedule = some s) :=
    run_accounts
      (fun done s actor next formed kept moved =>
        smooth_move byName sends steady proper decoded formed kept moved)
      (formed_start sound made (.ofChunks chunks) (.fresh service)) []
      (smooth_start readable obliging decoded) ran
  have exact (s : Pipeline) (ends : Ends plan (.ofChunks chunks) (.fresh service) s) :
      ∃ summary link, result s = (.ok summary, link) ∧
        LoadedExactly (Scanner.pointsOf lines) summary link.journal := by
    obtain ⟨router, schedule, made, ran, finished⟩ := ends
    obtain ⟨formedAtEnd, smoothAtEnd⟩ := smooth made ran
    exact exact_of_smooth formedAtEnd smoothAtEnd finished
  refine ⟨?_, exact, ?_⟩
  · intro router schedule s made ran
    have formed := formed_start sound made (.ofChunks chunks) (.fresh service)
    obtain ⟨formedHere, smoothHere⟩ := smooth made ran
    have length := length_le_of_lossless formed ran formedHere smoothHere.same smoothHere.lossless
    rw [upcoming, List.length_map] at length
    refine ⟨length, ?_⟩
    by_cases finished : s.isOver = true
    · exact Or.inl finished
    · exact Or.inr (exists_step formedHere (by simpa using finished))
  · obtain ⟨s, ends, ran⟩ := run_ends sound makeable (.ofChunks chunks) (.fresh service)
    obtain ⟨summary, link, ok, done⟩ := exact s ends
    exact ⟨summary, link, ran.trans (congrArg some ok), done⟩

/-- Three workers load the small input: into `cpu` go the two of its points that convert, the
second under the names of the first, and into `mem` goes its one point. -/
theorem smallLoad_inserts_its_rows :
    ∃ summary link,
      Load.run smallRouted (.ofChunks smallInput) (.fresh .agreeable) = some (.ok summary, link) ∧
        LoadedExactly (Scanner.pointsOf (linesOf (Chunk.bytesOf smallInput))) summary
          link.journal ∧
        (link.journal.rowsInto "INSERT INTO cpu (ts, a) VALUES (?, ?)").length = 2 ∧
        (link.journal.rowsInto "INSERT INTO mem (ts, b) VALUES (?, ?)").length = 1 := by
  have whole : ∀ chunk ∈ smallInput, chunk.Whole := by decide +kernel
  have steady : Steady (Scanner.pointsOf (linesOf (Chunk.bytesOf smallInput))) := by
    decide +kernel
  obtain ⟨_, _, summary, link, ran, exact⟩ := rows_are_exact smallRouted_sound
    smallRouted_makeable rfl rfl whole Service.agreeable_obliging steady
  have rows : (Load.run smallRouted (.ofChunks smallInput) (.fresh .agreeable)).map
      (fun report =>
        ((report.2.journal.rowsInto "INSERT INTO cpu (ts, a) VALUES (?, ?)").length,
          (report.2.journal.rowsInto "INSERT INTO mem (ts, b) VALUES (?, ?)").length)) =
        some (2, 1) := by
    decide +kernel
  rw [ran, Option.map_some, Option.some_inj, Prod.mk.injEq] at rows
  exact ⟨summary, link, ran, exact, rows⟩

end Load

end SeriesBench
