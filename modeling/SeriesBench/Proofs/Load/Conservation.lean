import SeriesBench.Proofs.Load.Accounts
import SeriesBench.Proofs.Load.Progress
import SeriesBench.Proofs.Remote.Obliging

/-!
# No line is lost

A load that ends well accounts for every line of its input, in whatever order its actors moved
and whatever calls of the service failed: the line was blank, dropped by the scan, dropped by a
worker because it did not decode, dropped as a row because a value did not convert, or it is a
row of its table. The counts are kept by different actors and added up at the end, and yet no
line is missed or counted twice.

A load can only end well if no actor has failed. So it is enough to keep the accounts along runs
in which nobody fails.
-/

namespace SeriesBench

namespace Pipeline

/-- All accounts of a load whose scan comes to a total. -/
structure Accounts (all : List Item) (total : Tally) (done : List Point) (s : Pipeline) :
    Prop where
  located : Located all done s
  booked : Booked done s
  scan : s.tallyAtEnd = total

/-- A move without faults keeps the accounts: what was scanned is in flight or written, what was
written is in the books, and the scan still ends with the same tally. -/
theorem accounts_move {s next : Pipeline} {actor : Actor} {all : List Item} {total : Tally}
    {done : List Point} (proper : ∀ item ∈ all, item.Proper) (formed : s.Formed)
    (carried : Carried all s) (staffed : s.Staffed) (accounts : Accounts all total done s)
    (moved : Move s actor next) (lossless : next.Lossless) :
    Accounts all total (done ++ s.written actor) next := by
  have plan := plan_move moved
  have change := change_of_move formed carried staffed accounts.booked.empty moved lossless
  exact
    { located :=
        { points := points_move accounts.located
            (shift_of_move proper formed carried moved lossless) plan
          items := items_move formed accounts.located (flow_of_move formed moved) change plan
            lossless }
      booked := booked_move staffed accounts.booked change
      scan := (tallyAtEnd_move moved lossless).trans accounts.scan }

/-- While nobody has failed, a load keeps its accounts. -/
theorem accounts_run {plan : LoadPlan} (sound : plan.Sound) {router : Router}
    (made : Router.make plan.routing plan.workers = .ok router) (scanner : Scanner)
    (service : Service) {schedule : List Actor} {s : Pipeline}
    (ran : (start plan router scanner (.fresh service)).run schedule = some s)
    (lossless : s.Lossless) :
    Accounts (Load.itemsOf plan scanner) (scanner.tallyAhead plan.intake)
      ((start plan router scanner (.fresh service)).output schedule) s := by
  have formed := formed_start sound made scanner (.fresh service)
  have proper : ∀ item ∈ Load.itemsOf plan scanner, item.Proper := fun item member =>
    Scanner.proper_itemsOf member
  let Kept (done : List Point) (s : Pipeline) : Prop :=
    Carried (Load.itemsOf plan scanner) s ∧ s.Staffed ∧
      (s.Lossless → Accounts (Load.itemsOf plan scanner) (scanner.tallyAhead plan.intake) done s)
  have move (done : List Point) (s : Pipeline) (actor : Actor) (next : Pipeline) (formed : s.Formed)
      (kept : Kept done s) (moved : Move s actor next) : Kept (done ++ s.written actor) next := by
    obtain ⟨carried, staffed, accounts⟩ := kept
    refine ⟨carried_move proper formed carried moved,
      staffed_move proper formed carried staffed moved, ?_⟩
    intro unfailed
    exact accounts_move proper formed carried staffed (accounts (unfailed.before moved)) moved
      unfailed
  have first : Kept [] (start plan router scanner (.fresh service)) := by
    refine ⟨carried_start plan router scanner (.fresh service),
      staffed_start plan router scanner service, ?_⟩
    intro _
    exact ⟨located_start plan router scanner (.fresh service),
      booked_start plan router scanner service, by rw [start_eq]; rfl⟩
  exact (run_accounts move formed [] first ran).2.2.2 lossless

/-- At the end of a load without faults everything was written. -/
theorem Located.at_end {s : Pipeline} {all : List Item} {done : List Point}
    (located : Located all done s) (ahead : s.ahead = [])
    (flight : ∀ i, s.itemsAt i = [] ∧ s.groupsAt i = []) :
    done.Perm (all.filterMap Item.decoded) ∧
      s.counted Outcome.droppedItems = all.countP Item.undecodable := by
  refine ⟨?_, ?_⟩
  · rw [List.perm_iff_count]
    intro p
    have whole := located.points p
    simpa [pointsAt, flight, pointsAhead, ahead, Ingest.pointsIn] using whole
  · have whole := located.items
    simpa [flight, ahead] using whole

end Pipeline

namespace Load

open Pipeline

/-- The lines of a load that ends well: the scan counts all of them up to the end of the input,
and each is blank, dropped as a line, dropped as an item, dropped as a row, or a row. If the scan
decodes, no item is dropped. Every table that the input has a point for has one writer; the rows
are those of the points that convert under its columns, and the metrics are these rows times
the columns, the time column included.

Proof: every step keeps `Accounts`: each item that was scanned is in flight or written, the books of
the writers have the points that were written, and the tally that the scan will end with does not
change. At the end nothing is in flight, so the points written are those of the lines, in some
order, and the five counts of the report are told one by one. -/
theorem lines_are_conserved {plan : LoadPlan} (sound : plan.Sound) (chunks : List Chunk)
    (service : Service) {s : Pipeline} (ends : Ends plan (.ofChunks chunks) (.fresh service) s)
    {summary : Summary} {link : Link} (ok : result s = (.ok summary, link)) :
    let lines := Scanner.linesAhead (Scanner.ofChunks chunks).upcoming
    let points := Scanner.pointsOf lines
    summary.scan.lines = lines.length ∧
    summary.scan.lines = lines.countP Scanner.isBlankLine + summary.scan.dropped +
      summary.outcome.droppedItems + summary.outcome.droppedRows + summary.outcome.rows ∧
    (plan.intake = .points → summary.outcome.droppedItems = 0) ∧
    (s.crew.writers.map TableWriter.table).Nodup ∧
    (∀ p ∈ points, p.measurement ∈ s.crew.writers.map TableWriter.table) ∧
    summary.outcome.rows = (s.crew.writers.map fun w => (w.rowsOf points).length).sum ∧
    summary.outcome.metrics =
      (s.crew.writers.map fun w => (w.rowsOf points).length * w.columns.length).sum := by
  intro lines points
  obtain ⟨router, schedule, made, ran, finished⟩ := ends
  obtain ⟨lossless, producer, outcome⟩ := lossless_of_result finished ok
  obtain ⟨formed, _, staffed⟩ := reached sound made (.ofChunks chunks) service ran
  obtain ⟨located, booked, scan⟩ := accounts_run sound made (.ofChunks chunks) service ran lossless
  obtain ⟨_, ended, ahead, flight⟩ := flight_over formed lossless finished
  obtain ⟨perm, undecoded⟩ := located.at_end ahead flight
  have decoded : (itemsOf plan (.ofChunks chunks)).filterMap Item.decoded = points :=
    Scanner.decoded_itemsOf plan.intake lines
  rw [decoded] at perm
  have tally : summary.scan = (Scanner.ofChunks chunks).tallyAhead plan.intake := by
    rw [← scan, tallyAtEnd, producer]
  have scanned : summary.scan.lines = lines.length := by
    rw [tally]
    exact Nat.zero_add _
  have dropped : summary.scan.dropped = Scanner.droppedOf plan.intake lines := by
    rw [tally]
    exact Nat.zero_add _
  have items : summary.outcome.droppedItems =
      (Scanner.itemsOf plan.intake lines).countP Item.undecodable := by
    rw [outcome, count_total Outcome.additive_droppedItems ended, undecoded]
    rfl
  have rows : summary.outcome.rows =
      (s.crew.writers.map fun w => (w.rowsOf points).length).sum := by
    rw [outcome, count_total Outcome.additive_rows ended, booked.rows]
    simp [weighRows, TableWriter.length_rowsOf_perm _ perm]
  have both : summary.outcome.droppedRows + summary.outcome.rows = points.length := by
    rw [outcome, count_total Outcome.additive_rows ended,
      count_total Outcome.additive_droppedRows ended, booked.droppedRows, perm.length_eq]
  refine ⟨scanned, ?_, ?_, staffed.books.distinct, ?_, rows, ?_⟩
  · have parts := Scanner.length_of_lines plan.intake lines
    have proper : ∀ item ∈ Scanner.itemsOf plan.intake lines, item.Proper := fun item member =>
      Scanner.proper_itemsOf member
    have split := Scanner.length_of_items proper
    rw [Scanner.decoded_itemsOf] at split
    have same : (Scanner.pointsOf lines).length = points.length := rfl
    omega
  · intro decodes
    rw [items, decodes, Scanner.undecodable_points]
  · intro p member
    rw [Crew.made_eq]
    exact booked.known p (perm.mem_iff.mpr member)
  · rw [outcome, count_total Outcome.additive_metrics ended, booked.metrics]
    simp [weighRows, TableWriter.length_rowsOf_perm _ perm]

/-- Of the six lines of the small input one is blank, one is dropped by the scan, one is dropped
because it does not convert, and three are rows. -/
theorem smallLoad_accounts_for_its_lines :
    ∃ s summary link, Ends smallDealt (.ofChunks smallInput) (.fresh .agreeable) s ∧
      result s = (.ok summary, link) ∧ summary.scan = ⟨6, 1⟩ ∧
      summary.outcome.droppedRows = 1 ∧ summary.outcome.rows = 3 ∧
      summary.scan.lines =
        (Scanner.linesAhead (Scanner.ofChunks smallInput).upcoming).countP Scanner.isBlankLine +
        summary.scan.dropped + summary.outcome.droppedItems + summary.outcome.droppedRows +
        summary.outcome.rows := by
  obtain ⟨s, ends, ran⟩ := run_ends smallDealt_sound smallDealt_makeable (.ofChunks smallInput)
    (.fresh .agreeable)
  have counts : (Load.run smallDealt (.ofChunks smallInput) (.fresh .agreeable)).map
      (fun report => report.1.toOption.map fun summary =>
        (summary.scan, summary.outcome.droppedRows, summary.outcome.rows)) =
        some (some (⟨6, 1⟩, 1, 3)) := by
    decide +kernel
  rw [ran, Option.map_some, Option.some_inj] at counts
  cases report : result s with
  | mk answer link =>
    rw [report] at counts
    cases answer with
    | error fault => simp [Except.toOption] at counts
    | ok summary =>
      simp only [Except.toOption, Option.map_some, Option.some_inj, Prod.mk.injEq] at counts
      obtain ⟨scan, droppedRows, rows⟩ := counts
      refine ⟨s, summary, link, ends, report, scan, droppedRows, rows, ?_⟩
      exact (lines_are_conserved smallDealt_sound smallInput .agreeable ends report).2.1

end Load

end SeriesBench
