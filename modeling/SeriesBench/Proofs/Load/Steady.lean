import SeriesBench.Proofs.Load.Accounts
import SeriesBench.Proofs.Remote.Obliging

/-!
# A load in which nothing goes wrong

If tables are routed by their name, no read fails, the service does what it is asked, and all
points of a table are as wide as its first one, then nobody ever fails: writing stops at
nothing but the width of a point. Each table then gets its points in the order of the input,
because each of the places where they wait passes them on in order, and a table has the same
worker throughout. So the first point that a writer is made from is the first one of its table
in the input, and the rows inserted so far are those of the points written so far.
-/

namespace SeriesBench

/-- All points of a table are as wide as its first one. -/
def Steady (points : List Point) : Prop :=
  ∀ p ∈ points, ∀ first, (ofTable p.measurement points).head? = some first → p.width = first.width

instance (points : List Point) : Decidable (Steady points) :=
  inferInstanceAs (Decidable (∀ p ∈ points, ∀ first,
    first ∈ (ofTable p.measurement points).head? → p.width = first.width))

namespace Pipeline

variable {s next : Pipeline} {actor : Actor} {all : List Item} {points done : List Point}

/-- Nobody has failed if nobody had and the workers are the same, unless the producer fails. -/
theorem lossless_of_workers (lossless : s.Lossless) (workers : next.workers = s.workers)
    (running : ∀ fault, next.producer ≠ .ended (.error fault)) : next.Lossless :=
  ⟨fun i worker member => lossless.workers i worker (workers ▸ member), running⟩

/-- Nobody has failed if nobody had and no fault has stopped the worker that was replaced. -/
theorem lossless_put (lossless : s.Lossless) {index : Nat} {worker : Worker}
    (put : next.workers = s.workers.setIfInBounds index worker)
    (unstopped : worker.duty.fault? = none)
    (running : ∀ fault, next.producer ≠ .ended (.error fault)) : next.Lossless := by
  refine ⟨?_, running⟩
  intro i other member
  rw [put] at member
  rcases member_of_put member with ⟨_, rfl⟩ | ⟨_, before⟩
  · exact unstopped
  · exact lossless.workers i other before

/-- Every worker that is about to write will succeed. -/
def Sure (s : Pipeline) : Prop :=
  ∀ {index : Nat} {worker : Worker} {job : Job} {group : Ingest.Group} {rest : List Ingest.Group}
    {handle : Nat} {r : Registry}, Works s index worker job → job.groups = group :: rest →
    job.handle = some handle → s.crew.registryOf index = some r →
    ∃ outcome written link,
      Ingest.writeAt s.plan.transmit r s.link handle group.points = (.ok outcome, written, link)

/-- If no read can fail and no worker either, nobody fails. -/
theorem lossless_move (lossless : s.Lossless) (readable : .failed ∉ s.scanner.upcoming)
    (sure : s.Sure) (moved : Move s actor next) :
    next.Lossless ∧ .failed ∉ next.scanner.upcoming := by
  have found {answer : Except Fault (Option Item)} {scanner : Scanner}
      (asked : s.scanner.nextItem s.plan.intake = (answer, scanner)) :
      Scanner.Found s.scanner s.plan.intake (answer, scanner) :=
    asked ▸ Scanner.nextItem_found s.scanner s.plan.intake
  cases moved with
  | broke doing asked =>
    cases found asked with
    | failed tail failing => exact absurd failing readable
  | usedUp doing asked =>
    cases found asked with
    | usedUp items counts tail =>
      exact ⟨lossless_of_workers lossless rfl (by simp),
        fun member => readable (tail.subset member)⟩
  | collected doing asked =>
    cases found asked with
    | item items counts tail =>
      exact ⟨lossless_of_workers lossless rfl (by simp [doing]),
        fun member => readable (tail.subset member)⟩
  | filled doing asked =>
    cases found asked with
    | item items counts tail =>
      exact ⟨lossless_of_workers lossless rfl (by simp),
        fun member => readable (tail.subset member)⟩
  | @stopped index batch doing worker fault sends member failed =>
    exact absurd (lossless.workers index worker member) (by simp [failed, Duty.fault?])
  | sent sends member =>
    have unstopped := lossless.workers _ _ member
    refine ⟨lossless_put lossless rfl unstopped ?_, readable⟩
    cases sends <;> simp
  | skipped => exact ⟨lossless_of_workers lossless rfl (by simp), readable⟩
  | finished => exact ⟨lossless_of_workers lossless rfl (by simp), readable⟩
  | took => exact ⟨lossless_put lossless rfl rfl lossless.producer, readable⟩
  | ended => exact ⟨lossless_put lossless rfl rfl lossless.producer, readable⟩
  | gaveBack => exact ⟨lossless_put lossless rfl rfl lossless.producer, readable⟩
  | obtained => exact ⟨lossless_put lossless rfl rfl lossless.producer, readable⟩
  | wrote => exact ⟨lossless_put lossless rfl rfl lossless.producer, readable⟩
  | failed works groups asked owner answer =>
    obtain ⟨outcome, written, link, succeeds⟩ := sure works groups asked owner
    simp [answer] at succeeds
  | gaveUp member stopping =>
    exact absurd (lossless.workers _ _ member) (by simp [stopping, Duty.fault?])
  | closed member closing =>
    exact absurd (lossless.workers _ _ member) (by simp [closing, Duty.fault?])
  | gone member leaving =>
    exact absurd (lossless.workers _ _ member) (by simp [leaving, Duty.fault?])

/-- What a faithful load has done so far: of every table a first part of its points is written,
and the others wait in order. Every writer has the columns of the first point of its table, and
what was inserted through its statement are the rows of the points written. -/
structure Faithful (points done : List Point) (s : Pipeline) : Prop where
  order : ∀ table, ofTable table done ++
    ofTable table (s.pointsAt (Router.partitionOf s.plan.workers table)) ++
    ofTable table s.pointsAhead = ofTable table points
  columns : ∀ w ∈ s.crew.writers, ∃ first, (ofTable w.table points).head? = some first ∧
    w.columns = TableWriter.columnsOf first
  inserted : ∀ w ∈ s.crew.writers, s.link.journal.rowsInto w.insertSql = w.rowsOf done
  obliging : s.link.service.Obliging

/-- Points that are at the home of their table only are, as far as the table goes, at its home. -/
theorem ofTable_onlyAt (byName : s.plan.routing = .byMeasurement) {place : Nat}
    {points : List Point} (home : ∀ p ∈ points, Home s.plan p.measurement place) (table : String) :
    ofTable table (onlyAt place points (Router.partitionOf s.plan.workers table)) =
      ofTable table points := by
  by_cases here : Router.partitionOf s.plan.workers table = place
  · rw [here, onlyAt_self]
  · rw [onlyAt_other here, ofTable_nil]
    refine (ofTable_none ?_).symm
    rintro p member rfl
    exact here (home p member byName)

/-- A move keeps the order of every table. -/
theorem order_move (byName : s.plan.routing = .byMeasurement) (faithful : Faithful points done s)
    (shift : ∃ entry exit arrived, Shift s next actor entry exit arrived)
    (plan : next.plan = s.plan) (table : String) :
    ofTable table (done ++ s.written actor) ++
      ofTable table (next.pointsAt (Router.partitionOf next.plan.workers table)) ++
      ofTable table next.pointsAhead = ofTable table points := by
  obtain ⟨entry, exit, arrived, shift⟩ := shift
  have passed := shift.points (Router.partitionOf s.plan.workers table) table
  rw [ofTable_append, ofTable_append, ofTable_onlyAt byName shift.entryHome,
    ofTable_onlyAt byName shift.exitHome] at passed
  rw [plan, ← faithful.order table, shift.ahead]
  simp only [ofTable_append, List.append_assoc]
  rw [← List.append_assoc (ofTable table (s.written actor)), ← passed]
  simp

/-- The first point of a table that is not written yet is the first one that its worker has. -/
theorem head_of_front (byName : s.plan.routing = .byMeasurement) (carried : Carried all s)
    (faithful : Faithful points done s) {index : Nat} {group : Ingest.Group}
    {rest : List Ingest.Group} (front : s.groupsAt index = group :: rest)
    (unwritten : ∀ p ∈ done, p.measurement ≠ group.table) :
    (ofTable group.table points).head? = some group.first := by
  obtain ⟨uniform, home, _⟩ := carried.groups index group (front ▸ List.mem_cons_self)
  have whole := faithful.order group.table
  rw [ofTable_none unwritten, List.nil_append, home byName, pointsAt, front] at whole
  have parts : Ingest.pointsIn (group :: rest) = group.points ++ Ingest.pointsIn rest := rfl
  rw [parts, List.append_assoc, ofTable_append, ofTable_all uniform] at whole
  rw [← whole]
  rfl

/-- A writer has the columns of the first point of its table in the input, because that is the one
it is made from. -/
theorem columns_move (byName : s.plan.routing = .byMeasurement) (carried : Carried all s)
    (booked : Booked done s) (faithful : Faithful points done s) (change : Change s next actor) :
    ∀ w ∈ next.crew.writers, ∃ first, (ofTable w.table points).head? = some first ∧
      w.columns = TableWriter.columnsOf first := by
  cases change with
  | counted writers => exact writers ▸ faithful.columns
  | enrolled index group rest layout before behind front was now new =>
    intro w member
    rw [now] at member
    rcases mem_cut.mp member with rfl | old
    · refine ⟨group.first, head_of_front byName carried faithful front ?_, rfl⟩
      intro p inDone same
      exact new (same ▸ booked.known p inDone)
    · exact faithful.columns w (was ▸ old)
  | wrote w other before behind gain was now its opened written =>
    intro v member
    rw [now] at member
    rcases mem_cut.mp member with rfl | old
    · obtain ⟨table, columns⟩ := written.same
      rw [table, columns]
      exact faithful.columns w (was ▸ mem_cut.mpr (Or.inl rfl))
    · exact faithful.columns v (was ▸ mem_cut.mpr (Or.inr old))

/-- The rows that go out, if records are sent at all. -/
def sentOf (transmit : Bool) (rows : List (List Value)) : List (List Value) :=
  if transmit then rows else []

/-- What goes out of two parts goes out of each. -/
theorem sentOf_append (transmit : Bool) (xs ys : List (List Value)) :
    sentOf transmit (xs ++ ys) = sentOf transmit xs ++ sentOf transmit ys := by
  cases transmit <;> rfl

/-- Of no rows nothing goes out. -/
theorem sentOf_nil (transmit : Bool) : sentOf transmit [] = [] := by
  cases transmit <;> rfl

/-- In another order the same rows go out. -/
theorem sentOf_perm {transmit : Bool} {xs ys : List (List Value)} (perm : xs.Perm ys) :
    (sentOf transmit xs).Perm (sentOf transmit ys) := by
  cases transmit with
  | false => exact .nil
  | true => exact perm

/-- What writing to one table inserts, if every call succeeds: the rows of the points, through
the statement of that table, or nothing if records are not sent. -/
theorem inserted_of_written {transmit : Bool} {w other : TableWriter} {link after : Link}
    {outcome : Outcome} (obliging : link.service.Obliging) (told : w.Told link.journal)
    (written : Ingest.Written transmit w link points outcome other after) :
    ∃ events, link.Continues after events ∧
      events.rowsInto w.insertSql = sentOf transmit (TableWriter.typedRows w.columns points) ∧
      ∀ sql, sql ≠ w.insertSql → events.rowsInto sql = [] := by
  rcases written.sent with ⟨none | unsent, _, rfl⟩ | ⟨sends, ready, record, same, _, rows, pair⟩
  · exact ⟨[], ⟨rfl, by simp⟩, by rw [none, sentOf_nil]; rfl, fun _ _ => rfl⟩
  · exact ⟨[], ⟨rfl, by simp⟩, by rw [unsent]; rfl, fun _ _ => rfl⟩
  · obtain ⟨builders, held, rfl⟩ := same
    obtain rfl : after = _ := congrArg Prod.snd pair
    have ready : TableWriter.Told { w with builders, rows := held } link.journal := told
    rw [sends, ← rows]
    exact TableWriter.transmit_obliging obliging ready record

/-- A writer that has no story has nothing inserted. -/
theorem rowsInto_of_new {w : TableWriter} {journal : Journal} (told : w.Told journal)
    (statement : w.statement = none) (opened : w.closed = false) :
    journal.rowsInto w.insertSql = [] := by
  unfold TableWriter.Told at told
  rw [statement, opened] at told
  refine Journal.rowsInto_nil ?_
  intro event member
  rw [told.events_of_none event member]
  rfl

/-- What was inserted stays what the points written so far have, if every call succeeds. -/
theorem inserted_move (staffed : s.Staffed) (staffedNext : next.Staffed) (booked : Booked done s)
    (inserted : ∀ w ∈ s.crew.writers,
      s.link.journal.rowsInto w.insertSql = sentOf s.plan.transmit (w.rowsOf done))
    (obliging : s.link.service.Obliging) (change : Change s next actor) :
    (∀ w ∈ next.crew.writers, next.link.journal.rowsInto w.insertSql =
      sentOf s.plan.transmit (w.rowsOf (done ++ s.written actor))) ∧
      next.link.service.Obliging := by
  cases change with
  | counted writers link writes =>
    rw [writers, link, writes, List.append_nil]
    exact ⟨inserted, obliging⟩
  | enrolled index group rest layout before behind front was now new link writes =>
    rw [writes, List.append_nil]
    refine ⟨?_, link ▸ obliging⟩
    intro w member
    have told := staffedNext.books.told w member
    rw [link] at told ⊢
    rw [now] at member
    rcases mem_cut.mp member with rfl | old
    · rw [rowsInto_of_new told rfl rfl, TableWriter.rowsOf_other, sentOf_nil]
      intro p inDone same
      have table : p.measurement = group.table := same
      exact new (table ▸ booked.known p inDone)
    · exact inserted w (was ▸ old)
  | wrote w other before behind gain was now its opened written =>
    have books := staffed.books
    rw [was] at books
    obtain ⟨events, ⟨service, journal⟩, here, elsewhere⟩ :=
      inserted_of_written obliging (books.told w (by simp)) written
    obtain ⟨table, columns⟩ := written.same
    refine ⟨?_, service ▸ obliging⟩
    intro v member
    rw [journal, Journal.rowsInto_append]
    rw [now] at member
    rcases mem_cut.mp member with rfl | others
    · have text : v.insertSql = w.insertSql := by
        rw [v.insertSql_eq, w.insertSql_eq, table, columns]
      have rows : v.rowsOf (done ++ s.written actor) = w.rowsOf (done ++ s.written actor) := by
        rw [TableWriter.rowsOf, TableWriter.rowsOf, table, columns]
      rw [text, here, rows, TableWriter.rowsOf_append, TableWriter.rowsOf_its its, sentOf_append,
        inserted w (was ▸ mem_cut.mpr (Or.inl rfl))]
    · have inWriters : v ∈ before ++ w :: behind := mem_cut.mpr (Or.inr others)
      have apart := table_ne_of_distinct books.distinct others
      have text := Books.insertSql_ne (books.plain v inWriters) (books.plain w (by simp)) apart
      have none : v.rowsOf (s.written actor) = [] :=
        TableWriter.rowsOf_other fun p inside same => apart (same.symm.trans (its p inside))
      rw [elsewhere _ text, TableWriter.rowsOf_append, none, List.append_nil, List.append_nil,
        inserted v (was ▸ inWriters)]

/-- If no point is wider or narrower than the writer of its table, every write succeeds. -/
theorem sure_of_widths (decoded : all.filterMap Item.decoded = points) (carried : Carried all s)
    (staffed : s.Staffed) (empty : ∀ w ∈ s.crew.writers, w.Holds [])
    (widths : ∀ w ∈ s.crew.writers, ∀ p ∈ points, p.measurement = w.table →
      p.width + 1 = w.columns.length) : s.Sure := by
  intro index worker job group rest handle r works groups asked owner
  obtain ⟨w, member, table, opened⟩ := staffed.writer works groups asked owner
  have front : s.groupsAt index = group :: rest := by
    simp [groupsAt_of_member works.member, works.busy, Duty.groups, groups]
  obtain ⟨uniform, _, origins⟩ := carried.groups index group (front ▸ List.mem_cons_self)
  obtain ⟨before, behind, cut, _⟩ := Crew.writers_put owner
  have inWriters : w ∈ s.crew.writers := by
    have inRegistry : w ∈ r.writers.toList :=
      Array.mem_toList_iff.mpr (Array.mem_of_getElem? member)
    simp [cut, inRegistry]
  have its : ∀ p ∈ group.points, p.width + 1 = w.columns.length := by
    intro p inside
    obtain ⟨item, inAll, decodes⟩ := origins p inside
    have inPoints : p ∈ points := decoded ▸ List.mem_filterMap.mpr ⟨item, inAll, decodes⟩
    exact widths w inWriters p inPoints ((uniform p inside).trans table.symm)
  obtain ⟨outcome, other, after, succeeds⟩ :=
    Ingest.writeTable_of_width s.plan.transmit s.link (empty w inWriters) opened its
  rw [Ingest.writeAt_eq s.link group.points member, succeeds]
  exact ⟨_, _, _, rfl⟩

/-- Points of a steady input never have another width than the writer of their table. -/
theorem widths_of_steady (steady : Steady points) (faithful : Faithful points done s) :
    ∀ w ∈ s.crew.writers, ∀ p ∈ points, p.measurement = w.table →
      p.width + 1 = w.columns.length := by
  intro w inWriters p inPoints table
  obtain ⟨first, head, columns⟩ := faithful.columns w inWriters
  rw [← table] at head
  rw [steady p inPoints first head, columns, TableWriter.length_columnsOf]

end Pipeline

end SeriesBench
