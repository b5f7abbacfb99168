import SeriesBench.Proofs.Remote.Replies
import SeriesBench.Proofs.Worker.InUse

/-!
# The passages of a batch through its tables

A batch passes through its tables in the order in which they first appear. A passage flushes one
record, if there is any row to flush, and says to the service what sending that record takes, if it
is to be sent. Whatever the service answers, the next table has its turn; only a point that is not
as wide as its table stops the batch, and then the tables behind are not touched.

How wide a table is was decided before the batch, or is decided by its first point in the batch.
-/

namespace SeriesBench

open TableWriter

/-- What became of a table in a batch: the record that was flushed, if there was one, and what was
said between the worker and the service. -/
structure Passage where
  table : String
  record : Option Record
  replies : List Response
deriving Repr, DecidableEq

/-- What a passage flushes and says when these are the rows for it: nothing if there are none, else
one record of them, and if it is to be sent what sending it takes. -/
inductive Passes (transmit : Bool) (w : TableWriter) (rows : List (List Value)) :
    Option Record → List Response → Prop where
  | nothing (empty : rows = []) : Passes transmit w rows none []
  | flushed {record : Record} {replies : List Response} (filled : rows ≠ [])
      (fields : record.fields = w.fields) (rowList : record.rowList = rows)
      (said : if transmit then ∃ answer held, w.Sends record replies answer held
        else replies = []) :
      Passes transmit w rows (some record) replies

/-- The rows of the records that were flushed. -/
def rowsIn (passages : List Passage) : Nat :=
  ((passages.filterMap Passage.record).map Record.rows).sum

/-- The rows of the records that were flushed, times their columns. -/
def metricsIn (passages : List Passage) : Nat :=
  ((passages.filterMap Passage.record).map fun record => record.rows * record.width).sum

/-- The first passage gives the rows of its record. -/
theorem rowsIn_cons (passage : Passage) (rest : List Passage) :
    rowsIn (passage :: rest) = (passage.record.elim 0 Record.rows) + rowsIn rest := by
  cases record : passage.record <;> simp [rowsIn, record]

/-- The first passage gives the rows of its record times its columns. -/
theorem metricsIn_cons (passage : Passage) (rest : List Passage) :
    metricsIn (passage :: rest) =
      (passage.record.elim 0 fun record => record.rows * record.width) + metricsIn rest := by
  cases record : passage.record <;> simp [metricsIn, record]

/-- A passage flushes as many rows as there are for it. -/
theorem Passes.rows_eq {transmit : Bool} {w : TableWriter} {rows : List (List Value)}
    {record : Option Record} {replies : List Response}
    (passes : Passes transmit w rows record replies) :
    record.elim 0 Record.rows = rows.length := by
  cases passes with
  | nothing empty => simp [empty]
  | flushed filled fields rowList said => simp [← rowList, Record.rowList]

namespace TableWriter

variable {w : TableWriter} {builders : List Builder} {rows : Nat} {replies : List Response}
  {record : Record} {answer : Except Fault Unit} {held : Option Statement}

/-- What is said to set up the remote side does not depend on the buffer. -/
theorem SetsUp.of_buffer (setsUp : SetsUp { w with builders, rows } replies answer held) :
    w.SetsUp replies answer held := by
  cases setsUp with
  | held held => exact .held held
  | failed unset fails => exact SetsUp.failed (w := w) unset fails
  | prepared unset works => exact SetsUp.prepared (w := w) unset works

/-- Nor does what is said to send a record. -/
theorem Sends.of_buffer (sends : Sends { w with builders, rows } record replies answer held) :
    w.Sends record replies answer held := by
  cases sends with
  | refused setsUp => exact .refused setsUp.of_buffer
  | inserted setsUp answer => exact .inserted setsUp.of_buffer answer

end TableWriter

namespace Ingest

variable {transmit : Bool} {link : Link}

/-- Sending a record that was flushed, or not, says what sending it takes. -/
theorem said_send (transmit : Bool) {w ready : TableWriter} (same : Rebuffered w ready)
    (link : Link) (record : Record) :
    ∃ replies, link.Hears replies (send transmit ready link record).2.2 ∧
      if transmit then ∃ answer held, w.Sends record replies answer held else replies = [] := by
  rw [send_eq]
  cases transmit with
  | false => exact ⟨[], .refl link, rfl⟩
  | true =>
    obtain ⟨replies, hears, sends⟩ := sends_transmit ready link record
    obtain ⟨builders, rows, rfl⟩ := same
    exact ⟨replies, hears, _, _, sends.of_buffer⟩

/-- What writing points to a table comes to when all of them are as wide as it. -/
structure Fitting (transmit : Bool) (w : TableWriter) (link : Link) (points : List Point)
    (outcome : Outcome) (other : TableWriter) (after : Link) (passage : Passage) : Prop where
  wrote : writeTable transmit w link points = (.ok outcome, other, after)
  passes : Passes transmit w (w.unflushed ++ typedRows w.columns points) passage.record
    passage.replies
  hears : link.Hears passage.replies after
  rows : outcome.rows = passage.record.elim 0 Record.rows
  metrics : outcome.metrics = passage.record.elim 0 fun record => record.rows * record.width
  empty : other.Holds []

/-- Points as wide as their table are written, and the table is empty afterwards. -/
theorem writeTable_fitting {w : TableWriter} {table : String} (ready : w.Ready table)
    {points : List Point} (widths : ∀ p ∈ points, p.width + 1 = w.columns.length)
    (transmit : Bool) (link : Link) :
    ∃ outcome other after passage, passage.table = table ∧
      Fitting transmit w link points outcome other after passage := by
  obtain ⟨droppedRows, full, taken⟩ := takeAll_of_width ready.opened 0 widths
  obtain ⟨holds, _⟩ := takeAll_ok ready.unflushed ready.opened taken
  have same := rebuffered_takeAll w 0 points
  rw [taken] at same
  by_cases none : w.unflushed ++ typedRows w.columns points = []
  · rw [none] at holds
    have wrote : writeTable transmit w link points = (.ok { droppedRows }, full, link) := by
      simp only [writeTable, taken, flush_of_holds_nil holds]
    exact ⟨_, _, _, ⟨table, .none, []⟩, rfl, wrote, .nothing none, .refl link, rfl, rfl, holds⟩
  · obtain ⟨record, flushed, fields, _, _, rowList⟩ := flush_of_holds holds none
    have emptied : Rebuffered w full.emptied := same.trans ⟨_, _, rfl⟩
    obtain ⟨replies, hears, said⟩ := said_send transmit emptied link record
    have schema : record.fields = w.fields := by
      obtain ⟨_, _, rfl⟩ := same
      exact fields
    have wrote : writeTable transmit w link points =
        (.ok ⟨record.rows, record.rows * record.width, 0, droppedRows,
            (send transmit full.emptied link record).1⟩,
          (send transmit full.emptied link record).2.1,
          (send transmit full.emptied link record).2.2) := by
      simp only [writeTable, taken, flushed]
    refine ⟨_, _, _, ⟨table, some record, replies⟩, rfl, wrote,
      .flushed none schema rowList said, hears, rfl, rfl, ?_⟩
    exact holds_send (holds_emptied holds) transmit link record

/-- A point that is not as wide as its table stops the writing, before anything is said. -/
theorem writeTable_misfit {w : TableWriter} {table : String} (ready : w.Ready table)
    {points : List Point} (misfit : ¬ ∀ p ∈ points, p.width + 1 = w.columns.length)
    (transmit : Bool) (link : Link) :
    ∃ p other, points.find? (fun p => p.width + 1 ≠ w.columns.length) = some p ∧
      writeTable transmit w link points =
        (.error (.width table w.columns.length (p.width + 1)), other, link) ∧
      other.Ready table := by
  rcases taken : takeAll w 0 points with ⟨fault | droppedRows, other⟩
  · obtain ⟨p, first, rfl⟩ := takeAll_misfit ready.opened taken
    have holds := takeAll_error ready.unflushed ready.opened taken
    have wrote : writeTable transmit w link points =
        (.error (.width w.table w.columns.length (p.width + 1)), other, link) := by
      simp only [writeTable, taken]
    have talk := talk_writeTable transmit w link points
    rw [wrote] at talk
    rw [ready.table] at wrote
    exact ⟨p, other, first, wrote, talk.table.trans ready.table, talk.closed.trans ready.opened, _,
      holds⟩
  · exact absurd (widths_of_takeAll ready.opened taken) misfit

end Ingest

namespace Registry

/-- The writer that some points find for a table: the one in use, or else the one that the first of
them makes, if any of them is of the table. -/
def met (r : Registry) (points : List Point) (table : String) : Option TableWriter :=
  (r.inUse? table).or ((ofTable table points).head?.map fun sample => .create table sample r.layout)

/-- How many columns a table has, as it was decided before or is decided by these points. -/
def widthFor (r : Registry) (points : List Point) (table : String) : Option Nat :=
  (r.met points table).map fun w => w.columns.length

/-- The point, one of these points, is as wide as its table. -/
def Fits (r : Registry) (points : List Point) (p : Point) : Prop :=
  r.widthFor points p.measurement = some (p.width + 1)

instance (r : Registry) (points : List Point) (p : Point) : Decidable (r.Fits points p) :=
  inferInstanceAs (Decidable (_ = _))

/-- What a registry is after these tables were written: they have empty buffers, and the others the
same writers in use as before. -/
structure Written (r : Registry) (tables : List String) (after : Registry) : Prop where
  orderly : after.Orderly
  layout : after.layout = r.layout
  emptied : ∀ table ∈ tables, after.heldFor table = []
  others : ∀ table, table ∉ tables → after.inUse? table = r.inUse? table

/-- The passages of some points through these tables. -/
structure Passed (transmit : Bool) (r : Registry) (link : Link) (points : List Point)
    (held : String → List (List Value)) (tables : List String) (passages : List Passage)
    (after : Link) : Prop where
  tables : passages.map Passage.table = tables
  each : ∀ passage ∈ passages, ∃ w, r.met points passage.table = some w ∧
    Passes transmit w (held passage.table ++ typedRows w.columns (ofTable passage.table points))
      passage.record passage.replies
  hears : link.Hears (passages.flatMap Passage.replies) after

variable {r next after : Registry} {points : List Point} {table : String}

/-- The writer that points find depends on what the table has in use, and on the layout. -/
theorem met_congr (inUse : next.inUse? table = r.inUse? table) (layout : next.layout = r.layout) :
    next.met points table = r.met points table := by
  rw [met, met, inUse, layout]

/-- The rows that a table holds depend on what it has in use. -/
theorem heldFor_congr (inUse : next.inUse? table = r.inUse? table) :
    next.heldFor table = r.heldFor table := by
  rw [heldFor, heldFor, inUse]

/-- A group that has all points of its table finds the writer that its first point finds. -/
theorem met_group {group : Ingest.Group} (whole : ofTable group.table points = group.points) :
    r.met points group.table = some (r.writerFor group.first) := by
  rw [met, whole, Ingest.Group.points, List.head?_cons, Option.map_some, writerFor]
  cases found : r.inUse? group.table with
  | some w => simp [show r.inUse? group.first.measurement = some w from found]
  | none =>
    simp [show r.inUse? group.first.measurement = none from found]
    rfl

/-- Where no table is written, nothing changes. -/
theorem Written.refl (orderly : r.Orderly) : r.Written [] r :=
  ⟨orderly, rfl, by simp, fun _ _ => rfl⟩

/-- Through no tables nothing passes. -/
theorem Passed.refl (transmit : Bool) (r : Registry) (link : Link) (points : List Point)
    (held : String → List (List Value)) : Passed transmit r link points held [] [] link :=
  ⟨rfl, by simp, .refl link⟩

variable {transmit : Bool} {link between later : Link} {group : Ingest.Group} {w : TableWriter}
  {rest : List String} {passages : List Passage}

/-- One more table in front of those that are written. -/
theorem Written.cons (back : Orderly.Back r group.first w) (empty : w.Holds [])
    (new : group.table ∉ rest) (written : (r.restock group.first w).Written rest after) :
    r.Written (group.table :: rest) after where
  orderly := written.orderly
  layout := written.layout.trans back.layout
  emptied := by
    refine List.forall_mem_cons.mpr ⟨?_, written.emptied⟩
    have used : after.inUse? group.table = some w := (written.others _ new).trans back.its
    rw [heldFor_of_inUse used, unflushed_of_holds empty]
  others table missed := by
    obtain ⟨apart, unwritten⟩ := not_or.mp (List.mem_cons.not.mp missed)
    exact (written.others table unwritten).trans (back.others table apart)

/-- One more passage in front of those through the other tables. -/
theorem Passed.cons {outcome : Outcome} {passage : Passage}
    (whole : ofTable group.table points = group.points) (its : passage.table = group.table)
    (fitting : Ingest.Fitting transmit (r.writerFor group.first) link group.points outcome w between
      passage)
    (back : Orderly.Back r group.first w) (new : group.table ∉ rest)
    (passed : Passed transmit (r.restock group.first w) between points
      (r.restock group.first w).heldFor rest passages later) :
    Passed transmit r link points r.heldFor (group.table :: rest) (passage :: passages) later where
  tables := by rw [List.map_cons, its, passed.tables]
  each := by
    refine List.forall_mem_cons.mpr ⟨?_, fun other member => ?_⟩
    · rw [its, whole]
      have held := Orderly.heldFor_writerFor (r := r) group.first
      refine ⟨_, met_group whole, ?_⟩
      rw [Ingest.Group.table, ← held]
      exact fitting.passes
    · obtain ⟨v, met, passes⟩ := passed.each other member
      have apart : other.table ≠ group.table := fun same =>
        new (same ▸ passed.tables ▸ List.mem_map_of_mem member)
      have inUse := back.others other.table apart
      rw [met_congr inUse back.layout] at met
      rw [heldFor_congr inUse] at passes
      exact ⟨v, met, passes⟩
  hears := by
    rw [List.flatMap_cons]
    exact fitting.hears.trans passed.hears

end Registry

namespace Ingest

variable {transmit : Bool} {r : Registry} {link : Link} {points : List Point}

/-- Groups whose points are as wide as their tables are written one after the other, and the batch
goes on with the groups behind them. -/
theorem writeGroups_fitting {groups : List Group} (orderly : r.Orderly)
    (distinct : (groups.map Group.table).Nodup)
    (whole : ∀ group ∈ groups, ofTable group.table points = group.points)
    (widths : ∀ group ∈ groups, ∀ p ∈ group.points,
      r.widthFor points group.table = some (p.width + 1))
    (transmit : Bool) (link : Link) (sum : Outcome) :
    ∃ passages total after later,
      Registry.Passed transmit r link points r.heldFor (groups.map Group.table) passages later ∧
      r.Written (groups.map Group.table) after ∧
      total.rows = sum.rows + rowsIn passages ∧ total.metrics = sum.metrics + metricsIn passages ∧
      ∀ behind, writeGroups transmit r link sum (groups ++ behind) =
        writeGroups transmit after later total behind := by
  induction groups generalizing r link sum with
  | nil => exact ⟨[], sum, r, link, .refl _ _ _ _ _, .refl orderly, rfl, rfl, fun _ => rfl⟩
  | cons group rest ih =>
    obtain ⟨new, distinct⟩ := List.nodup_cons.mp distinct
    obtain ⟨here, whole⟩ := List.forall_mem_cons.mp whole
    obtain ⟨fits, widths⟩ := List.forall_mem_cons.mp widths
    have width : r.widthFor points group.table =
        some (r.writerFor group.first).columns.length := by
      rw [Registry.widthFor, Registry.met_group here, Option.map_some]
    have ready := orderly.ready_writerFor group.first
    obtain ⟨outcome, w, between, passage, its, fitting⟩ := writeTable_fitting ready
      (fun p member => (Option.some.inj (width.symm.trans (fits p member))).symm) transmit link
    have talk := talk_writeTable transmit (r.writerFor group.first) link group.points
    rw [fitting.wrote] at talk
    have back := orderly.back group.first
      ⟨talk.table.trans ready.table, talk.closed.trans ready.opened, [], fitting.empty⟩
    have same : ∀ other ∈ rest, ∀ p ∈ other.points,
        (r.restock group.first w).widthFor points other.table = some (p.width + 1) := by
      intro other member p inside
      have apart : other.table ≠ group.table := fun same =>
        new (same ▸ List.mem_map_of_mem member)
      rw [Registry.widthFor, Registry.met_congr (back.others other.table apart) back.layout]
      exact widths other member p inside
    obtain ⟨passages, total, after, later, passed, written, rows, metrics, goesOn⟩ :=
      ih back.orderly distinct whole same between (sum + outcome)
    refine ⟨passage :: passages, total, after, later, passed.cons here its fitting back new,
      written.cons back fitting.empty new, ?_, ?_, fun behind => ?_⟩
    · have added : (sum + outcome).rows = sum.rows + outcome.rows := rfl
      rw [rows, rowsIn_cons, added, fitting.rows, Nat.add_assoc]
    · have added : (sum + outcome).metrics = sum.metrics + outcome.metrics := rfl
      rw [metrics, metricsIn_cons, added, fitting.metrics, Nat.add_assoc]
    · have found := (orderly.given group.first).found
      rw [List.cons_append, writeGroups_cons found, fitting.wrote]
      exact goesOn behind

/-- A group with a point that is not as wide as its table stops the batch. -/
theorem writeGroups_misfit {group : Group} (orderly : r.Orderly)
    (whole : ofTable group.table points = group.points) {p : Point} (member : p ∈ group.points)
    (misfit : r.widthFor points group.table ≠ some (p.width + 1)) (transmit : Bool) (link : Link)
    (sum : Outcome) (behind : List Group) :
    ∃ w first after, r.met points group.table = some w ∧
      group.points.find? (fun p => p.width + 1 ≠ w.columns.length) = some first ∧
      writeGroups transmit r link sum (group :: behind) =
        (.error (.width group.table w.columns.length (first.width + 1)), after, link) ∧
      after.Orderly ∧ after.layout = r.layout ∧
      ∀ table, table ≠ group.table → after.inUse? table = r.inUse? table := by
  have met := Registry.met_group (r := r) whole
  have ready := orderly.ready_writerFor group.first
  have some : ¬ ∀ q ∈ group.points, q.width + 1 = (r.writerFor group.first).columns.length := by
    intro all
    rw [Registry.widthFor, met, Option.map_some, ← all p member] at misfit
    exact misfit rfl
  obtain ⟨first, w, stops, wrote, left⟩ := writeTable_misfit ready some transmit link
  have back := orderly.back group.first left
  refine ⟨_, first, _, met, stops, ?_, back.orderly, back.layout, back.others⟩
  rw [writeGroups_cons (orderly.given group.first).found, wrote]
  rfl

/-- Some groups are those of these points: one for each table, in the order of the tables, with all
points of the table. -/
structure GroupsOf (points : List Point) (groups : List Group) : Prop where
  sorted : Sorted groups
  order : groups.map Group.table = firstSeen points
  whole : ∀ group ∈ groups, ofTable group.table points = group.points
  covers : ∀ p ∈ points, ∃ group ∈ groups, p ∈ group.points

/-- Sorting the items of a batch gives the groups of its points. -/
theorem groupsOf_sort (items : List Item) :
    GroupsOf (items.filterMap Item.decoded) (sort items ([], 0)).1 where
  sorted := (sort_spec items sorted_nil 0).1
  order := firstSeen_sort items
  whole group member :=
    (ofTable_sort items group.table).symm.trans
      ((sort_spec items sorted_nil 0).1.ofTable_mem member)
  covers _ member := List.mem_flatMap.mp ((perm_sort items).mem_iff.mpr member)

/-- A batch of which all points are as wide as their tables is taken in: it passes through its
tables in their order, and its counts are those of the records that were flushed. -/
structure Completed (transmit : Bool) (r : Registry) (link : Link) (points : List Point)
    (passages : List Passage) (outcome : Outcome) (after : Registry) (later : Link) : Prop where
  fits : ∀ p ∈ points, r.Fits points p
  passed : Registry.Passed transmit r link points r.heldFor (firstSeen points) passages later
  written : r.Written (firstSeen points) after
  rows : outcome.rows = rowsIn passages
  metrics : outcome.metrics = metricsIn passages

/-- A batch stops at the first table with a point that is not as wide as the table, and its fault
tells of the first of these points. It has passed through the tables before that one, and the tables
behind it are as they were. -/
structure Halted (transmit : Bool) (r : Registry) (link : Link) (points : List Point)
    (done : List String) (table : String) (behind : List String) (passages : List Passage)
    (fault : Fault) (after : Registry) (later : Link) : Prop where
  order : firstSeen points = done ++ table :: behind
  fits : ∀ p ∈ points, p.measurement ∈ done → r.Fits points p
  misfit : ∃ w p, r.met points table = some w ∧
    (ofTable table points).find? (fun p => p.width + 1 ≠ w.columns.length) = some p ∧
    fault = .width table w.columns.length (p.width + 1)
  passed : Registry.Passed transmit r link points r.heldFor done passages later
  emptied : ∀ other ∈ done, after.heldFor other = []
  untouched : ∀ other, other ∉ done ++ [table] → after.inUse? other = r.inUse? other
  orderly : after.Orderly
  layout : after.layout = r.layout

/-- A batch that stops has a point that is not as wide as its table. -/
theorem Halted.exists_misfit {done behind : List String} {table : String}
    {passages : List Passage} {fault : Fault} {after : Registry} {later : Link}
    (halted : Halted transmit r link points done table behind passages fault after later) :
    ∃ p ∈ points, ¬ r.Fits points p := by
  obtain ⟨w, p, met, first, _⟩ := halted.misfit
  obtain ⟨member, its⟩ := mem_ofTable.mp (List.mem_of_find?_eq_some first)
  have differs : p.width + 1 ≠ w.columns.length := by simpa using List.find?_some first
  refine ⟨p, member, fun fits => differs ?_⟩
  rw [Registry.Fits, Registry.widthFor, its, met] at fits
  exact (Option.some.inj fits).symm

/-- If all points are as wide as their tables, the batch is taken in. -/
theorem completed_of_widths {groups : List Group} (orderly : r.Orderly)
    (grouped : GroupsOf points groups)
    (widths : ∀ group ∈ groups, ∀ p ∈ group.points,
      r.widthFor points group.table = some (p.width + 1))
    (transmit : Bool) (link : Link) (droppedItems : Nat) :
    ∃ passages outcome after later,
      writeGroups transmit r link { droppedItems } groups = (.ok outcome, after, later) ∧
      Completed transmit r link points passages outcome after later := by
  obtain ⟨passages, total, after, later, passed, written, rows, metrics, goesOn⟩ :=
    writeGroups_fitting orderly grouped.sorted.distinct grouped.whole widths transmit link
      { droppedItems }
  rw [grouped.order] at passed written
  refine ⟨passages, total, after, later, ?_, ?_, passed, written, ?_, ?_⟩
  · rw [← groups.append_nil, goesOn]
    rfl
  · intro p member
    obtain ⟨group, inGroups, inGroup⟩ := grouped.covers p member
    rw [Registry.Fits, grouped.sorted.uniform group inGroups p inGroup]
    exact widths group inGroups p inGroup
  · simpa using rows
  · simpa using metrics

/-- If a point of some group is not as wide as its table, and all points of the groups before are,
the batch stops at this group. -/
theorem halted_of_misfit {before behind : List Group} {group : Group} (orderly : r.Orderly)
    (grouped : GroupsOf points (before ++ group :: behind))
    (widths : ∀ group ∈ before, ∀ p ∈ group.points,
      r.widthFor points group.table = some (p.width + 1))
    {p : Point} (inGroup : p ∈ group.points)
    (differs : r.widthFor points group.table ≠ some (p.width + 1)) (transmit : Bool) (link : Link)
    (sum : Outcome) :
    ∃ passages fault after later,
      writeGroups transmit r link sum (before ++ group :: behind) = (.error fault, after, later) ∧
      Halted transmit r link points (before.map Group.table) group.table (behind.map Group.table)
        passages fault after later := by
  have distinct := grouped.sorted.distinct
  have order := grouped.order
  rw [List.map_append, List.map_cons] at distinct order
  have whole (other : Group) (member : other ∈ before) :
      ofTable other.table points = other.points :=
    grouped.whole other (List.mem_append_left _ member)
  have itsPoints := grouped.whole group (by simp)
  have new : group.table ∉ before.map Group.table := fun old =>
    (List.nodup_append.mp distinct).2.2 _ old _ List.mem_cons_self rfl
  obtain ⟨passages, total, between, later, passed, written, _, _, goesOn⟩ :=
    writeGroups_fitting orderly (List.nodup_append.mp distinct).1 whole widths transmit link sum
  have met : between.met points group.table = r.met points group.table :=
    Registry.met_congr (written.others _ new) written.layout
  obtain ⟨w, first, after, writer, stops, wrote, left, layout, others⟩ :=
    writeGroups_misfit written.orderly itsPoints inGroup (by rwa [Registry.widthFor, met]) transmit
      later total behind
  refine ⟨passages, _, after, later, by rw [goesOn, wrote], order.symm, ?_,
    ⟨w, first, met ▸ writer, itsPoints ▸ stops, rfl⟩, passed, ?_, ?_, left,
    layout.trans written.layout⟩
  · intro q member known
    obtain ⟨other, inBefore, its⟩ := List.mem_map.mp known
    have inOther : q ∈ other.points := by
      rw [← whole other inBefore]
      exact mem_ofTable.mpr ⟨member, its.symm⟩
    rw [Registry.Fits, ← its]
    exact widths other inBefore q inOther
  · intro other member
    have apart : other ≠ group.table := fun same => new (same ▸ member)
    rw [Registry.heldFor_congr (others other apart), written.emptied other member]
  · intro other missed
    simp only [List.mem_append, List.mem_singleton, not_or] at missed
    rw [others other missed.2, written.others other missed.1]

/-- Whatever the service answers, a batch is taken in or stops at a point of the wrong width. It is
written up to the first group that does not fit. -/
theorem run_completed_or_halted (orderly : r.Orderly) (transmit : Bool) (link : Link)
    (items : List Item) :
    (∃ passages outcome after later, run transmit r link items = (.ok outcome, after, later) ∧
      Completed transmit r link (items.filterMap Item.decoded) passages outcome after later) ∨
    ∃ done table behind passages fault after later,
      run transmit r link items = (.error fault, after, later) ∧
      Halted transmit r link (items.filterMap Item.decoded) done table behind passages fault after
        later := by
  have grouped := groupsOf_sort items
  rcases found : (sort items ([], 0)).1.find? fun group => ¬ ∀ p ∈ group.points,
      r.widthFor (items.filterMap Item.decoded) group.table = some (p.width + 1) with _ | group
  · exact Or.inl (completed_of_widths orderly grouped (by simpa using List.find?_eq_none.mp found)
      transmit link _)
  · obtain ⟨misfit, before, behind, cut, fitting⟩ := List.find?_eq_some_iff_append.mp found
    obtain ⟨p, inGroup, differs⟩ : ∃ p ∈ group.points,
        r.widthFor (items.filterMap Item.decoded) group.table ≠ some (p.width + 1) := by
      simpa using misfit
    rw [cut] at grouped
    obtain ⟨passages, fault, after, later, wrote, halted⟩ := halted_of_misfit orderly grouped
      (by simpa using fitting) inGroup differs transmit link
      { droppedItems := (sort items ([], 0)).2 }
    rw [← cut] at wrote
    exact Or.inr ⟨_, _, _, passages, fault, after, later, wrote, halted⟩

end Ingest

end SeriesBench
