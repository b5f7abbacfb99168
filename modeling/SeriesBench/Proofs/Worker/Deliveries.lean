import Mathlib.Data.List.Flatten
import SeriesBench.Proofs.Worker.Holdings
import SeriesBench.Proofs.Worker.Visits

/-!
# What becomes of the rows of a table

A row that a table takes waits in the buffer until the table is flushed, and a flush is handed to
the service or lost. It is lost when it was not to be sent or the remote side could not be set up,
and it is not kept for another try; it is handed over once, whatever the service answers. So what
went through the statement of a table are whole flushes, in order, and the rows that were taken are
those of all flushes and then those that still wait.

This is an invariant of one visit. `Followed` says it of a writer and the visits to its table, and
`Tracked` of all writers of a registry, which have different statements. It is kept by a batch that
fails as well.
-/

namespace SeriesBench

open TableWriter

namespace Ingest

/-- The points that are taken are some of those given, in order. -/
theorem taken_sublist (w : TableWriter) (points : List Point) :
    (taken w points).Sublist points := by
  induction points generalizing w with
  | nil => exact .slnil
  | cons p rest ih =>
    unfold taken
    split
    · exact (ih _).cons_cons p
    · split
      · exact (ih _).cons p
      · exact List.nil_sublist _

/-- The points that an open writer takes have rows, and it holds these as well afterwards, whether
or not it stopped at another one. -/
theorem holds_takeAll {w : TableWriter} {rows : List (List Value)} (held : w.Holds rows)
    (opened : w.closed = false) (dropped : Nat) (points : List Point) :
    ∃ new, (taken w points).map (typedRow w.columns) = new.map some ∧
      (takeAll w dropped points).2.Holds (rows ++ new) := by
  induction points generalizing w rows dropped with
  | nil => exact ⟨[], rfl, by simpa [takeAll] using held⟩
  | cons p rest ih =>
    cases typed : typedRow w.columns p with
    | some row =>
      obtain ⟨values, answer, length, kept⟩ := append_of_typedRow opened typed
      obtain ⟨new, rowsOf, holds⟩ := ih (holds_push held typed length kept) opened dropped
      have columns : (w.push values).columns = w.columns := rfl
      rw [columns] at rowsOf
      refine ⟨row :: new, ?_, ?_⟩
      · simp [taken, answer, typed, rowsOf]
      · simpa [takeAll, answer] using holds
    | none =>
      by_cases width : p.width + 1 = w.columns.length
      · obtain ⟨fault, answer, inValue⟩ := append_of_unconverted opened width typed
        obtain ⟨new, rowsOf, holds⟩ := ih held opened (dropped + 1)
        exact ⟨new, by simpa [taken, answer, inValue] using rowsOf,
          by simpa [takeAll, answer, inValue] using holds⟩
      · have answer := append_of_width opened width
        exact ⟨[], by simp [taken, answer, Fault.isValue], by
          simpa [takeAll, answer, Fault.isValue] using held⟩

/-- What a visit does to an open writer that holds some rows: the rows of the points that it takes
come behind them, and of all these the first go into the flush, if there is one, and the others
stay. The record of the flush is handed over, or nothing is. -/
structure Visited (w : TableWriter) (link : Link) (rows : List (List Value)) (visit : Visit)
    (other : TableWriter) (after : Link) : Prop where
  rows : ∃ new left, visit.taken.map (typedRow w.columns) = new.map some ∧ other.Holds left ∧
    rows ++ new = visit.flush.toList.flatMap (fun flush => flush.record.rowList) ++ left
  fields : ∀ flush ∈ visit.flush, flush.record.fields = w.fields
  handed : Handed w link visit.delivered other after

/-- Sending a record hands it over when it is to be sent and the remote side is set up. -/
theorem handed_send (transmit : Bool) (w : TableWriter) (link : Link) (record : Record) :
    Handed w link (if (Flush.of transmit w link record).delivered then some record else none)
      (send transmit w link record).2.1 (send transmit w link record).2.2 := by
  rw [send_eq]
  cases transmit with
  | false => exact .refl w link
  | true => simpa [Flush.of, Flush.delivered] using handed_transmit w link record

/-- A visit that flushes nothing leaves everything that the writer holds by then in the buffer. -/
theorem visited_of_unflushed {transmit : Bool} {link : Link} {points : List Point}
    {w ready : TableWriter} {rows new : List (List Value)}
    (rowsOf : (taken w points).map (typedRow w.columns) = new.map some)
    (holds : ready.Holds (rows ++ new)) (same : Rebuffered w ready)
    (none : flushOf transmit w link points = none) :
    Visited w link rows (visit transmit link points w) ready link where
  rows := ⟨new, rows ++ new, rowsOf, holds, by simp [visit, none]⟩
  fields := by simp [visit, none]
  handed := by
    rw [Visit.delivered_of_none none]
    exact (Handed.refl ready link).rebuffered same

/-- Every visit does what `Visited` says, whether it is stopped by a point or not. -/
theorem visited_writeTable {w : TableWriter} {rows : List (List Value)} (held : w.Holds rows)
    (opened : w.closed = false) (transmit : Bool) (link : Link) (points : List Point) :
    Visited w link rows (visit transmit link points w) (writeTable transmit w link points).2.1
      (writeTable transmit w link points).2.2 := by
  obtain ⟨new, rowsOf, holds⟩ := holds_takeAll held opened 0 points
  have same := rebuffered_takeAll w 0 points
  rcases answer : takeAll w 0 points with ⟨fault | dropped, ready⟩ <;>
    rw [answer] at holds same
  · have wrote : (writeTable transmit w link points).2 = (ready, link) := by
      simp [writeTable, answer]
    rw [wrote]
    exact visited_of_unflushed rowsOf holds same (by simp [flushOf, answer])
  · by_cases none : rows ++ new = []
    · have flushed := flush_of_holds_nil (none ▸ holds)
      have wrote : (writeTable transmit w link points).2 = (ready, link) := by
        simp [writeTable, answer, flushed]
      rw [wrote]
      exact visited_of_unflushed rowsOf holds same (by simp [flushOf, answer, flushed])
    · obtain ⟨record, flushed, fields, _, _, rowList⟩ := flush_of_holds holds none
      have flush : (visit transmit link points w).flush =
          some (.of transmit ready.emptied link record) := by
        simp [visit, flushOf, answer, flushed]
      have wrote : (writeTable transmit w link points).2 =
          (send transmit ready.emptied link record).2 := by
        simp [writeTable, answer, flushed]
      have columns : ready.fields = w.fields := by
        obtain ⟨_, _, rfl⟩ := same
        rfl
      rw [wrote]
      refine ⟨⟨new, [], rowsOf, ?_, ?_⟩, ?_, ?_⟩
      · exact holds_send (holds_emptied holds) transmit link record
      · simp [flush, Flush.of, rowList]
      · simpa [flush, Flush.of] using fields.trans columns
      · rw [Visit.delivered_of_some flush]
        have emptied : Rebuffered w ready.emptied := same.trans ⟨_, _, rfl⟩
        exact (handed_send transmit ready.emptied link record).rebuffered emptied

end Ingest

/-- One more element of a list adds what the function gives for it. -/
theorem filterMap_snoc (f : α → Option β) (xs : List α) (x : α) :
    (xs ++ [x]).filterMap f = xs.filterMap f ++ (f x).toList := by
  simp [List.filterMap_eq_flatMap_toList]

/-- The visits to a table. -/
def visitsTo (table : String) (visits : List Visit) : List Visit :=
  visits.filter fun visit => visit.table = table

section VisitsTo

variable {table : String} {visits : List Visit} {visit : Visit}

/-- Where no visit is to the table there are no visits to it. -/
theorem visitsTo_none (other : ∀ visit ∈ visits, visit.table ≠ table) : visitsTo table visits = [] :=
  List.filter_eq_nil_iff.mpr fun visit member => by simpa using other visit member

/-- A visit to the table comes behind the others to it. -/
theorem visitsTo_snoc_its (its : visit.table = table) :
    visitsTo table (visits ++ [visit]) = visitsTo table visits ++ [visit] := by
  simp [visitsTo, its]

/-- A visit to another table is none to this one. -/
theorem visitsTo_snoc_other (apart : visit.table ≠ table) :
    visitsTo table (visits ++ [visit]) = visitsTo table visits := by
  simp [visitsTo, apart]

end VisitsTo

namespace TableWriter

/-- What a writer, its journal and the visits to its table have to do with each other:

* the points that were taken have rows under the writer's columns, which are those of the flushes
  and then those that the writer holds;
* the records of the flushes have the writer's columns;
* the statement that the writer holds was prepared, and what went through it are the records that
  were delivered. -/
structure Followed (w : TableWriter) (journal : Journal) (visits : List Visit) : Prop where
  rows : ∃ left, w.Holds left ∧ (visits.flatMap Visit.taken).map (typedRow w.columns) =
    ((visits.filterMap Visit.flush).flatMap (fun flush => flush.record.rowList) ++ left).map some
  fields : ∀ flush ∈ visits.filterMap Visit.flush, flush.record.fields = w.fields
  prepared : ∀ statement, w.statement = some statement → statement ∈ journal.statements
  through : journal.through w.statement = visits.filterMap Visit.delivered

variable {w v other : TableWriter} {link after : Link} {record : Option Record} {visits : List Visit}

/-- A new writer has had no visits. -/
theorem followed_create (table : String) (sample : Point) (layout : Layout) (journal : Journal) :
    (create table sample layout).Followed journal [] where
  rows := ⟨[], holds_create table sample layout, rfl⟩
  fields := by simp
  prepared := by simp [create]
  through := Journal.through_none journal

/-- A visit is followed by the writer that it is paid to. -/
theorem Followed.visit (followed : w.Followed link.journal visits) (opened : w.closed = false)
    (sound : link.journal.Sound) (transmit : Bool) (points : List Point) :
    let wrote := Ingest.writeTable transmit w link points
    wrote.2.1.Followed wrote.2.2.journal (visits ++ [Ingest.visit transmit link points w]) := by
  intro wrote
  obtain ⟨rows, held, rowsOf⟩ := followed.rows
  have visited := Ingest.visited_writeTable held opened transmit link points
  obtain ⟨new, left, newRows, holds, moved⟩ := visited.rows
  obtain ⟨_, _, _, same⟩ := (Ingest.talk_writeTable transmit w link points).unchanged
  have columns : wrote.2.1.columns = w.columns := by rw [same]
  have fields : wrote.2.1.fields = w.fields := by rw [TableWriter.fields, columns]; rfl
  refine ⟨⟨left, holds, ?_⟩, ?_, visited.handed.prepared followed.prepared, ?_⟩
  · rw [columns, List.flatMap_append, List.flatMap_singleton, List.map_append, rowsOf, newRows,
      ← List.map_append, List.append_assoc, moved, filterMap_snoc, List.flatMap_append,
      List.append_assoc]
  · intro flush member
    rw [filterMap_snoc, List.mem_append] at member
    rw [fields]
    rcases member with old | new
    · exact followed.fields flush old
    · exact visited.fields flush (Option.mem_toList.mp new)
  · rw [visited.handed.through sound, followed.through, filterMap_snoc]

/-- What another writer hands over does not matter to a writer, if they have different
statements. -/
theorem Followed.frame (followed : v.Followed link.journal visits)
    (handed : Handed w link record other after)
    (apart : ∀ statement, other.statement = some statement → v.statement ≠ some statement) :
    v.Followed after.journal visits := by
  obtain ⟨events, journal, _, through⟩ := handed.more
  have nothing : events.through v.statement = [] :=
    Journal.through_of_other fun entry member => apart entry.1 (through entry member)
  rw [journal]
  refine ⟨followed.rows, followed.fields, ?_, ?_⟩
  · exact fun statement holds => Journal.mem_statements_append (followed.prepared statement holds) _
  · rw [Journal.through_append, nothing, List.append_nil, followed.through]

end TableWriter

namespace Registry

/-- A registry in use and everything that happened to it, where `points` are those that it was
given and `visits` those that were paid to its tables: every writer follows the visits to its table,
no two have the same statement, and what was inserted are the records that were delivered. -/
structure Tracked (r : Registry) (journal : Journal) (points : List Point) (visits : List Visit) :
    Prop where
  live : r.Live
  known : ∀ visit ∈ visits, visit.table ∈ r.made
  followed : ∀ w ∈ r.writers.toList, w.Followed journal (visitsTo w.table visits)
  apart : ∀ w ∈ r.writers.toList, ∀ v ∈ r.writers.toList, w.table ≠ v.table →
    ∀ statement, w.statement = some statement → v.statement ≠ some statement
  sound : journal.Sound
  sent : journal.inserted.map Prod.snd = visits.filterMap Visit.delivered
  taken : ∀ table, ((visitsTo table visits).flatMap Visit.taken).Sublist (ofTable table points)

variable {r : Registry} {journal : Journal} {points : List Point} {past : List Visit}

/-- A registry that is tracked has statements of its own. -/
theorem Tracked.prepared (tracked : r.Tracked journal points past) : r.Prepared journal :=
  ⟨tracked.live, fun w member => (tracked.followed w member).prepared, tracked.apart, tracked.sound⟩

/-- Nothing has happened to a new registry. -/
theorem tracked_empty (layout : Layout) : (empty layout).Tracked [] [] [] :=
  ⟨live_empty layout, by simp, by simp [empty], by simp [empty], by simp [Journal.Sound, Journal.inserted],
    rfl, fun _ => .slnil⟩

/-- Points that were given and not taken do not matter. -/
theorem Tracked.more (tracked : r.Tracked journal points past) (others : List Point) :
    r.Tracked journal (points ++ others) past :=
  { tracked with
    taken := fun table => by
      rw [ofTable_append]
      exact (tracked.taken table).trans (List.sublist_append_left _ _) }

/-- Asking for a table pays no visit. A table that had no writer was never visited. -/
theorem Tracked.obtain (tracked : r.Tracked journal points past) (sample : Point) :
    (r.obtain sample).2.Tracked journal points past := by
  obtain ⟨live, _, apart, _⟩ := tracked.prepared.obtain sample
  rcases obtain_cases tracked.live sample with ⟨same, _⟩ | ⟨new, grown⟩
  · rwa [same]
  · rw [grown] at live apart ⊢
    refine { tracked with
      live
      known := fun visit member => ?_
      followed := fun w member => ?_
      apart }
    · rw [made_enlarge]
      exact List.mem_append_left _ (tracked.known visit member)
    · rcases mem_enlarge.mp member with old | rfl
      · exact tracked.followed w old
      · have unvisited : visitsTo sample.measurement past = [] :=
          visitsTo_none fun visit member same => new (same ▸ tracked.known visit member)
        rw [show (create sample.measurement sample r.layout).table = sample.measurement from rfl,
          unvisited]
        exact followed_create _ _ _ _

/-- Writing points to a table is one visit more. -/
theorem Tracked.write {handle : Nat} {w : TableWriter} {link : Link}
    (tracked : r.Tracked link.journal points past) (member : r.writers[handle]? = some w)
    (transmit : Bool) {given : List Point} (its : ∀ p ∈ given, p.measurement = w.table) :
    let wrote := Ingest.writeTable transmit w link given
    (r.put handle wrote.2.1).Tracked wrote.2.2.journal (points ++ given)
      (past ++ [Ingest.visit transmit link given w]) := by
  intro wrote
  obtain ⟨before, behind, cut, put⟩ := put_cut member
  have inside : w ∈ r.writers.toList := by simp [cut]
  have opened := tracked.live.opened w inside
  have followed := tracked.followed w inside
  obtain ⟨rows, held, _⟩ := followed.rows
  have handed := (Ingest.visited_writeTable held opened transmit link given).handed
  have talk := Ingest.talk_writeTable transmit w link given
  have table : (Ingest.visit transmit link given w).table = w.table := rfl
  obtain ⟨live, _, apart, sound⟩ := tracked.prepared.put member talk.table talk.closed handed
  have distinct := tracked.live.distinct
  rw [made, cut] at distinct
  refine ⟨live, ?_, ?_, apart, sound, ?_, ?_⟩
  · intro visit paid
    rw [made_put member talk.table]
    rcases List.mem_append.mp paid with old | new
    · exact tracked.known visit old
    · obtain rfl := List.mem_singleton.mp new
      exact List.mem_map_of_mem inside
  · intro v inWriters
    rw [put] at inWriters
    rcases mem_cut.mp inWriters with rfl | old
    · rw [talk.table, visitsTo_snoc_its table]
      exact followed.visit opened tracked.sound transmit given
    · have kept : v ∈ r.writers.toList := cut ▸ mem_cut.mpr (Or.inr old)
      have other : v.table ≠ w.table := table_ne_of_distinct distinct old
      rw [visitsTo_snoc_other (table ▸ other.symm)]
      exact (tracked.followed v kept).frame handed
        (tracked.prepared.apart_of_handed inside kept other handed)
  · obtain ⟨events, journal, records, _⟩ := handed.more
    rw [journal, Journal.inserted_append, List.map_append, tracked.sent, records, filterMap_snoc]
  · intro asked
    rw [ofTable_append]
    by_cases same : w.table = asked
    · subst same
      rw [visitsTo_snoc_its table, List.flatMap_append, List.flatMap_singleton, ofTable_all its]
      exact (tracked.taken w.table).append (Ingest.taken_sublist w given)
    · rw [visitsTo_snoc_other same]
      exact (tracked.taken asked).trans (List.sublist_append_left _ _)

end Registry

namespace Ingest

/-- The visits of some groups begin with that to the table of the first. -/
theorem visits_cons {r : Registry} {group : Group} {w : TableWriter}
    (found : (r.obtain group.first).2.writers[(r.obtain group.first).1]? = some w)
    (transmit : Bool) (link : Link) (rest : List Group) :
    visits transmit r link (group :: rest) = visit transmit link group.points w ::
      match writeTable transmit w link group.points with
      | (.error _, _, _) => []
      | (.ok _, other, link) => visits transmit (r.restock group.first other) link rest := by
  rcases wrote : writeTable transmit w link group.points with ⟨fault | outcome, other, between⟩ <;>
    simp [visits, writeAt_eq link group.points found, found, wrote, Registry.restock]

/-- Writing groups, whatever comes of it, is the visits to their tables. -/
theorem tracked_writeGroups {r : Registry} {link : Link} {points : List Point} {past : List Visit}
    (tracked : r.Tracked link.journal points past) (transmit : Bool) (sum : Outcome)
    {groups : List Group} (uniform : ∀ group ∈ groups, group.Uniform) :
    let wrote := writeGroups transmit r link sum groups
    wrote.2.1.Tracked wrote.2.2.journal (points ++ pointsIn groups)
      (past ++ visits transmit r link groups) := by
  induction groups generalizing r link points past sum with
  | nil => simpa [writeGroups, visits, pointsIn] using tracked
  | cons group rest ih =>
    obtain ⟨w, found, table⟩ := Registry.found_of_obtain tracked.live group.first
    have its : ∀ p ∈ group.points, p.measurement = w.table := by
      rw [table]
      exact uniform group List.mem_cons_self
    have visited := (tracked.obtain group.first).write found transmit its
    have given : pointsIn (group :: rest) = group.points ++ pointsIn rest := rfl
    rw [writeGroups_cons found, visits_cons found, given, ← List.append_assoc]
    rcases wrote : writeTable transmit w link group.points with ⟨fault | outcome, other, between⟩ <;>
      simp only [wrote] at visited ⊢
    · exact visited.more (pointsIn rest)
    · have later := ih visited (sum + outcome) fun other member =>
        uniform other (List.mem_cons_of_mem _ member)
      simpa [Registry.restock] using later

/-- A batch keeps a registry tracked, with its points and the visits that were paid for it, also if
it fails. -/
theorem tracked_run {r : Registry} {link : Link} {points : List Point} {past : List Visit}
    (tracked : r.Tracked link.journal points past) (transmit : Bool) (items : List Item) :
    let ran := run transmit r link items
    ran.2.1.Tracked ran.2.2.journal (points ++ items.filterMap Item.decoded)
      (past ++ visits transmit r link (sort items ([], 0)).1) := by
  intro ran
  have written := tracked_writeGroups tracked transmit { droppedItems := (sort items ([], 0)).2 }
    (sort_spec items sorted_nil 0).1.uniform
  refine { written with taken := fun table => ?_ }
  have sorted := written.taken table
  rw [ofTable_append, ofTable_sort, ← ofTable_append] at sorted
  exact sorted

end Ingest

namespace Crew

/-- A crew of one worker, with its registry. -/
def alone (r : Registry) : Crew :=
  ⟨#[r], none⟩

variable {r : Registry} {link : Link} {points : List Point} {past : List Visit}

/-- A turn of the one worker is a batch for its registry; there is no other worker to take one. -/
theorem tracked_serve (tracked : r.Tracked link.journal points past) (turn : Turn) :
    ∃ next, ((alone r).serve link turn).2.2.1 = alone next ∧
      next.Tracked ((alone r).serve link turn).2.2.2.journal (points ++ turn.points)
        (past ++ (alone r).visits link turn) := by
  by_cases first : turn.worker = 0
  · have owner : (alone r).registryOf turn.worker = some r := by simp [registryOf, alone, first]
    have ran := Ingest.tracked_run tracked turn.transmit turn.items
    rw [serve_eq owner]
    refine ⟨(Ingest.run turn.transmit r link turn.items).2.1, ?_, ?_⟩
    · simp [put, alone, first]
    · simpa [visits, owner, Turn.points] using ran
  · have none : (alone r).registryOf turn.worker = none := by
      simp [registryOf, alone, first]
    rw [serve_of_none none]
    refine ⟨r, rfl, ?_⟩
    simpa [visits, none] using tracked.more turn.points

/-- Turns keep the registry of a lone worker tracked, by induction on the turns. -/
theorem tracked_turns (tracked : r.Tracked link.journal points past) (turns : List Turn) :
    ∃ last, ((alone r).afterTurns link turns).1 = alone last ∧
      last.Tracked ((alone r).afterTurns link turns).2.journal
        (points ++ turns.flatMap Turn.points)
        (past ++ ((alone r).served link turns).flatMap Served.visits) := by
  induction turns generalizing r link points past with
  | nil => exact ⟨r, rfl, by simpa [afterTurns, served] using tracked⟩
  | cons turn rest ih =>
    obtain ⟨next, same, turned⟩ := tracked_serve tracked turn
    obtain ⟨last, reached, later⟩ := ih turned
    refine ⟨last, ?_, ?_⟩
    · simpa [afterTurns, same] using reached
    · simpa [afterTurns, served, same] using later

end Crew

/-- What became of the rows of one table, where `visits` are those to the table, `given` the points
for it, `left` the rows in its buffer and `sent` the records that went through its statement:

* the points that were taken are some of those given, in order;
* there are columns under which each of them has a row, and these rows are those of the flushes, one
  after the other, and then those in the buffer;
* the records that were sent are those of the flushes that were delivered, in order, each once;
* so the rows that were sent are some of the rows that were taken, in order. -/
structure Delivered (visits : List Visit) (given : List Point) (left : List (List Value))
    (sent : List Record) : Prop where
  taken : (visits.flatMap Visit.taken).Sublist given
  rows : ∃ columns : List ColumnDef,
    (∀ flush ∈ visits.filterMap Visit.flush,
      flush.record.fields = columns.map ColumnDef.field) ∧
    (visits.flatMap Visit.taken).map (typedRow columns) =
      ((visits.filterMap Visit.flush).flatMap (fun flush => flush.record.rowList) ++ left).map some ∧
    ((sent.flatMap Record.rowList).map some).Sublist
      ((visits.flatMap Visit.taken).map (typedRow columns))
  sent : sent = ((visits.filterMap Visit.flush).filter Flush.delivered).map Flush.record

/-- The records that some visits delivered are those of the flushes that were delivered. -/
theorem filterMap_delivered (visits : List Visit) :
    visits.filterMap Visit.delivered =
      ((visits.filterMap Visit.flush).filter Flush.delivered).map Flush.record := by
  rw [List.filter_filterMap, List.map_filterMap]
  rfl

/-- Every table of a registry is accounted for by the visits to it. -/
theorem Registry.Tracked.delivered {r : Registry} {journal : Journal} {points : List Point}
    {visits : List Visit} (tracked : r.Tracked journal points visits) (table : String) :
    Delivered (visitsTo table visits) (ofTable table points) (r.leftFor table)
      (journal.through (r.statementOf table)) := by
  by_cases known : table ∈ r.made
  · obtain ⟨w, member, rfl⟩ := List.mem_map.mp known
    obtain ⟨before, behind, cut⟩ := List.append_of_mem member
    have followed := tracked.followed w member
    obtain ⟨left, held, rowsOf⟩ := followed.rows
    have sent : journal.through w.statement =
        (((visitsTo w.table visits).filterMap Visit.flush).filter Flush.delivered).map Flush.record :=
      followed.through.trans (filterMap_delivered _)
    rw [leftFor_of_cut tracked.live.distinct cut, unflushed_of_holds held,
      statementOf_of_mem tracked.live.distinct member]
    refine ⟨tracked.taken w.table, ⟨w.columns, followed.fields, rowsOf, ?_⟩, sent⟩
    rw [rowsOf, sent, List.flatMap_map]
    refine (List.Sublist.trans ?_ (List.sublist_append_left _ left)).map some
    exact List.filter_sublist.flatMap fun flush : Flush => flush.record.rowList
  · have unvisited : visitsTo table visits = [] :=
      visitsTo_none fun visit member same => known (same ▸ tracked.known visit member)
    rw [unvisited, leftFor_of_absent known, statementOf_of_absent known, Journal.through_none]
    exact ⟨List.nil_sublist _, ⟨[], by simp, rfl, .slnil⟩, rfl⟩

/-- A record is handed over at most once, and in order, whatever fails. After any turns of one
worker with tables of its own, over any service:

* the records that were inserted, one after the other, are those of the flushes that were delivered,
  which is those that were to be sent and whose table could be set up;
* `Delivered` holds of every table: what went through its statement are whole flushes, and the rows
  that were not sent are those of the other flushes and those still in the buffer.

Proof: turns keep the registry of the worker `Tracked`, by induction over the turns, the groups of a
batch and the points of a group. What is claimed of a table is what `Followed` says of its writer,
and a table that was never visited has nothing to be told. -/
theorem deliveries_are_ordered_and_unrepeated (layout : Layout) (service : Service)
    (turns : List Turn) :
    let crew := Crew.make .byMeasurement 1 layout
    let last := crew.afterTurns (.fresh service) turns
    let visits := (crew.served (.fresh service) turns).flatMap Served.visits
    last.2.journal.inserted.map Prod.snd =
      ((visits.filterMap Visit.flush).filter Flush.delivered).map Flush.record ∧
    ∀ table, Delivered (visitsTo table visits) (ofTable table (turns.flatMap Turn.points))
      (last.1.leftFor 0 table) (last.2.journal.through (last.1.statementOf 0 table)) := by
  intro crew last visits
  have bare : (Registry.empty layout).Tracked (Link.fresh service).journal [] [] :=
    Registry.tracked_empty layout
  obtain ⟨r, reached, tracked⟩ := Crew.tracked_turns bare turns
  rw [List.nil_append, List.nil_append] at tracked
  have crewed : last.1 = Crew.alone r := reached
  have owner : last.1.registryOf 0 = some r := by rw [crewed]; rfl
  refine ⟨tracked.sent.trans (filterMap_delivered visits), fun table => ?_⟩
  have left : last.1.leftFor 0 table = r.leftFor table := by simp [Crew.leftFor, owner]
  have statement : last.1.statementOf 0 table = r.statementOf table := by
    simp [Crew.statementOf, owner]
  rw [left, statement]
  exact tracked.delivered table

/-- A service that fails to prepare its first statement. -/
def Service.reluctant : Service :=
  { agreeable with
    prepare := fun journal _ => if journal.length = 1 then .error (.stream "not yet") else .ok () }

/-- Of three rows the first is lost because its table could not be set up, and the second because it
was not to be sent; the third is sent alone. -/
example :
    let turns := [Turn.ofColumns [("1", ["user"])],
      { Turn.ofColumns [("2", ["user"])] with transmit := false }, .ofColumns [("3", ["user"])]]
    (((Crew.make .byMeasurement 1 {}).afterTurns (.fresh .reluctant) turns).2.journal.inserted.map
      fun entry => entry.2.rowList) = [[[.timestamp 3, .int64 7]]] := by
  decide +kernel

end SeriesBench
