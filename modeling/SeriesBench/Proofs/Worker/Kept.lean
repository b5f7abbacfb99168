import Mathlib.Algebra.BigOperators.Group.List.Basic
import Mathlib.Algebra.GroupWithZero.Nat
import Mathlib.Logic.Function.Basic
import SeriesBench.Proofs.Table.Live
import SeriesBench.Proofs.Worker.Crews
import SeriesBench.Proofs.Worker.Resumed
import SeriesBench.Proofs.Worker.Sorting

/-!
# What a registry keeps from batches that failed

A batch is written table by table, and it stops at the first point of the wrong width. The tables
before that one are flushed, those behind it are not touched, and the one in which it stopped is
left with rows in its buffer. So a registry is described by the points that it keeps for each
table, and taking in a batch changes these in two ways only: a batch that succeeds leaves none in
its tables, and a batch that fails leaves some of its own in one of them.

The records that a batch flushes are listed by `flushedIn`, which follows the writing of the
groups. A record holds the points that were kept for its table, then those of its group.
-/

namespace SeriesBench

open TableWriter

namespace Registry

/-- A registry in use whose writers keep these points, given by table. -/
structure Keeps (r : Registry) (kept : String → List Point) : Prop where
  live : r.Live
  held : ∀ w ∈ r.writers.toList, w.Keeps (kept w.table)
  absent : ∀ table, table ∉ r.made → kept table = []

/-- The rows for a table that were taken and not flushed. -/
def leftFor (r : Registry) (table : String) : List (List Value) :=
  (r.writers.toList.filter fun w => w.table = table).flatMap unflushed

variable {r : Registry} {kept : String → List Point}

/-- A registry without tables keeps no points. -/
theorem keeps_empty (layout : Layout) : (empty layout).Keeps fun _ => [] :=
  ⟨live_empty layout, by simp [empty], fun _ _ => rfl⟩

/-- A table without a writer has no rows left. -/
theorem leftFor_of_absent {table : String} (absent : table ∉ r.made) : r.leftFor table = [] := by
  have none : (r.writers.toList.filter fun w => w.table = table) = [] := by
    rw [List.filter_eq_nil_iff]
    intro w member
    have apart : w.table ≠ table := fun same => absent (same ▸ List.mem_map_of_mem member)
    simpa using apart
  rw [leftFor, none, List.flatMap_nil]

/-- The rows left for a table are those that its one writer holds. -/
theorem leftFor_of_cut {before behind : List TableWriter} {w : TableWriter}
    (distinct : r.made.Nodup) (cut : r.writers.toList = before ++ w :: behind) :
    r.leftFor w.table = w.unflushed := by
  rw [made, cut] at distinct
  have apart (part : List TableWriter) (inside : part ⊆ before ++ behind) :
      (part.filter fun v => v.table = w.table) = [] := by
    rw [List.filter_eq_nil_iff]
    intro v member
    simpa using table_ne_of_distinct distinct (inside member)
  rw [leftFor, cut, List.filter_append, List.filter_cons_of_pos (by simp),
    apart before (by simp), apart behind (by simp)]
  simp

/-- The rows left for a table are those of the points that are kept for it, one for each. -/
theorem Keeps.leftFor (keeps : r.Keeps kept) (table : String) :
    (r.leftFor table).length = (kept table).length ∧
      ∃ columns, r.leftFor table = typedRows columns (kept table) := by
  by_cases known : table ∈ r.made
  · obtain ⟨w, member, rfl⟩ := List.mem_map.mp known
    obtain ⟨before, behind, cut⟩ := List.append_of_mem member
    have held := keeps.held w member
    rw [leftFor_of_cut keeps.live.distinct cut, unflushed_of_holds held.held]
    exact ⟨held.converts, w.columns, rfl⟩
  · rw [leftFor_of_absent known, keeps.absent table known]
    exact ⟨rfl, [], rfl⟩

/-- Asking for a table changes nothing of what is kept, and there is an open writer for it
afterwards. -/
theorem keeps_obtain (keeps : r.Keeps kept) (sample : Point) :
    (r.obtain sample).2.Keeps kept ∧
      ∃ w, (r.obtain sample).2.writers[(r.obtain sample).1]? = some w ∧
        w.table = sample.measurement := by
  refine ⟨?_, found_of_obtain keeps.live sample⟩
  rcases obtain_cases keeps.live sample with ⟨same, _⟩ | ⟨new, grown⟩
  · rwa [same]
  · rw [grown]
    refine ⟨live_enlarge keeps.live new, ?_, ?_⟩
    · intro w member
      rcases mem_enlarge.mp member with old | rfl
      · exact keeps.held w old
      · have none : kept (create sample.measurement sample r.layout).table = [] :=
          keeps.absent _ new
        rw [none]
        exact keeps_nil (holds_create _ _ _)
    · intro table missing
      rw [made_enlarge] at missing
      exact keeps.absent table fun old => missing (List.mem_append_left _ old)

/-- Asking for a table leaves the rows of every table as they are. -/
theorem leftFor_obtain (live : r.Live) (sample : Point) (table : String) :
    (r.obtain sample).2.leftFor table = r.leftFor table := by
  rcases obtain_cases live sample with ⟨same, _⟩ | ⟨_, grown⟩
  · rw [same]
  · have new : (create sample.measurement sample r.layout).unflushed = [] :=
      unflushed_of_holds (holds_create _ _ _)
    rw [grown]
    simp only [leftFor, enlarge, Array.toList_push, List.filter_append, List.flatMap_append]
    by_cases its : (create sample.measurement sample r.layout).table = table <;> simp [its, new]

variable {handle : Nat} {w other : TableWriter}

/-- Putting back a writer changes what is kept for its table. -/
theorem keeps_put {points : List Point} (keeps : r.Keeps kept)
    (member : r.writers[handle]? = some w) (table : other.table = w.table)
    (opened : other.closed = false) (held : other.Keeps points) :
    (r.put handle other).Keeps (Function.update kept w.table points) := by
  obtain ⟨before, behind, cut, put⟩ := put_cut member
  have distinct := keeps.live.distinct
  rw [made, cut] at distinct
  refine ⟨live_put keeps.live member table opened, ?_, ?_⟩
  · intro v inWriters
    rw [put] at inWriters
    rcases mem_cut.mp inWriters with rfl | old
    · rw [table, Function.update_self]
      exact held
    · rw [Function.update_of_ne (table_ne_of_distinct distinct old)]
      exact keeps.held v (cut ▸ mem_cut.mpr (Or.inr old))
  · intro missed missing
    rw [made_put member table] at missing
    have apart : missed ≠ w.table := by
      rintro rfl
      exact missing (by simp [made, cut])
    rw [Function.update_of_ne apart]
    exact keeps.absent missed missing

/-- Putting back a writer leaves the rows of the other tables as they are. -/
theorem leftFor_put (member : r.writers[handle]? = some w) (table : other.table = w.table)
    {missed : String} (apart : missed ≠ w.table) :
    (r.put handle other).leftFor missed = r.leftFor missed := by
  obtain ⟨before, behind, cut, put⟩ := put_cut member
  have first : ¬ w.table = missed := fun same => apart same.symm
  simp [leftFor, cut, put, table, first]

/-- The registry after a writer was put back for the table that a sample asks for. -/
def restock (r : Registry) (sample : Point) (w : TableWriter) : Registry :=
  (r.obtain sample).2.put (r.obtain sample).1 w

/-- A registry that is asked for a table by a sample has the writer `w` for it. It is open and
keeps what the registry keeps for the table, and putting it back changes nothing else. -/
structure Asked (r : Registry) (kept : String → List Point) (sample : Point) (table : String)
    (w : TableWriter) : Prop where
  found : (r.obtain sample).2.writers[(r.obtain sample).1]? = some w
  opened : w.closed = false
  keeps : w.Keeps (kept table)
  left : r.leftFor table = typedRows w.columns (kept table)
  back : ∀ {other points}, other.table = w.table → other.closed = w.closed → other.Keeps points →
    (r.restock sample other).Keeps (Function.update kept table points)
  others : ∀ {other missed}, other.table = w.table → missed ≠ table →
    (r.restock sample other).leftFor missed = r.leftFor missed

/-- A registry that is asked for a table has a writer for it, which keeps the points that the table
keeps. -/
theorem Keeps.asked (keeps : r.Keeps kept) (sample : Point) (table : String)
    (its : sample.measurement = table) : ∃ w, r.Asked kept sample table w := by
  obtain ⟨obtained, w, member, same⟩ := keeps_obtain keeps sample
  obtain ⟨before, behind, cut, _⟩ := put_cut member
  obtain rfl : w.table = table := same.trans its
  have inWriters : w ∈ (r.obtain sample).2.writers.toList := by simp [cut]
  have opened := obtained.live.opened w inWriters
  have held := obtained.held w inWriters
  refine ⟨w, member, opened, held, ?_, ?_, ?_⟩
  · rw [← leftFor_obtain keeps.live sample, leftFor_of_cut obtained.live.distinct cut,
      unflushed_of_holds held.held]
  · intro other points same still
    exact keeps_put obtained member same (still.trans opened)
  · intro other missed same apart
    rw [restock, leftFor_put member same apart, leftFor_obtain keeps.live]

end Registry

namespace Ingest

/-- The records that writing some groups flushes, each with its table. -/
def flushedIn (transmit : Bool) (registry : Registry) (link : Link) :
    List Group → List (String × Record)
  | [] => []
  | g :: rest =>
    let (handle, registry) := registry.obtain g.first
    let flushed := (registry.writers[handle]?.bind (flushedBy · g.points)).toList.map (g.table, ·)
    match writeAt transmit registry link handle g.points with
    | (.error _, _, _) => flushed
    | (.ok _, registry, link) => flushed ++ flushedIn transmit registry link rest

variable {transmit : Bool} {r after : Registry} {link link' : Link} {kept : String → List Point}

/-- Writing the first group is writing to the writer of its table, which is put back. -/
theorem writeGroups_cons {group : Group} {w : TableWriter}
    (found : (r.obtain group.first).2.writers[(r.obtain group.first).1]? = some w)
    (transmit : Bool) (link : Link) (sum : Outcome) (rest : List Group) :
    writeGroups transmit r link sum (group :: rest) =
      match writeTable transmit w link group.points with
      | (.error fault, other, link) => (.error fault, r.restock group.first other, link)
      | (.ok outcome, other, link) =>
        writeGroups transmit (r.restock group.first other) link (sum + outcome) rest := by
  rcases wrote : writeTable transmit w link group.points with ⟨fault | outcome, other, between⟩ <;>
    simp [writeGroups, writeAt_eq link group.points found, wrote, Registry.restock]

/-- It flushes what writing to that writer flushes. -/
theorem flushedIn_cons {group : Group} {w : TableWriter}
    (found : (r.obtain group.first).2.writers[(r.obtain group.first).1]? = some w)
    (transmit : Bool) (link : Link) (rest : List Group) :
    flushedIn transmit r link (group :: rest) =
      (flushedBy w group.points).toList.map (group.table, ·) ++
        match writeTable transmit w link group.points with
        | (.error _, _, _) => []
        | (.ok _, other, link) =>
          flushedIn transmit (r.restock group.first other) link rest := by
  rcases wrote : writeTable transmit w link group.points with ⟨fault | outcome, other, between⟩ <;>
    simp [flushedIn, writeAt_eq link group.points found, found, wrote, Registry.restock]

/-- What came of some groups that were written without a fault, beside what came of the batch
before: all their points, and all that were kept for their tables, are flushed or dropped, and a
record holds the points that were kept for its table and then those of its group. -/
structure Settled (r : Registry) (kept : String → List Point) (groups : List Group)
    (sum outcome : Outcome) (flushed : List (String × Record)) : Prop where
  droppedItems : outcome.droppedItems = sum.droppedItems
  points : outcome.rows + outcome.droppedRows = sum.rows + sum.droppedRows +
    (groups.map fun group => (kept group.table).length + group.points.length).sum
  rows : outcome.rows = sum.rows + (flushed.map fun entry => entry.2.rows).sum
  tables : (flushed.map Prod.fst).Sublist (groups.map Group.table)
  records : ∀ table record, (table, record) ∈ flushed → ∃ columns : List ColumnDef,
    r.leftFor table = typedRows columns (kept table) ∧
    record.fields = columns.map ColumnDef.field ∧
    record.rowList = typedRows columns (kept table ++ ofTable table (pointsIn groups))

/-- What is kept for the table of the first group does not matter for the others. -/
theorem Sorted.update_rest {group : Group} {rest : List Group} (sorted : Sorted (group :: rest))
    (kept : String → List Point) (points : List Point) {table : String}
    (member : table ∈ rest.map Group.table) :
    table ≠ group.table ∧ Function.update kept group.table points table = kept table := by
  have apart : table ≠ group.table := by
    rintro rfl
    exact (List.nodup_cons.mp sorted.distinct).1 member
  exact ⟨apart, Function.update_of_ne apart _ _⟩

/-- One more group in front of those that are settled. -/
theorem Settled.cons {group : Group} {rest : List Group} {sum first outcome : Outcome}
    {w other : TableWriter} {written : Registry} {flushed : List (String × Record)}
    (sorted : Sorted (group :: rest)) (asked : r.Asked kept group.first group.table w)
    (resumed : Resumed transmit w link (kept group.table) group.points first other link')
    (others : ∀ table, table ≠ group.table → written.leftFor table = r.leftFor table)
    (settled : Settled written (Function.update kept group.table []) rest (sum + first) outcome
      flushed) :
    Settled r kept (group :: rest) sum outcome
      ((flushedBy w group.points).toList.map (group.table, ·) ++ flushed) where
  droppedItems := by
    have none : first.droppedItems = 0 := resumed.written.droppedItems
    have total : outcome.droppedItems = sum.droppedItems + first.droppedItems :=
      settled.droppedItems
    omega
  points := by
    have counts : outcome.rows + outcome.droppedRows =
        (sum.rows + first.rows) + (sum.droppedRows + first.droppedRows) +
          (rest.map fun other => (Function.update kept group.table [] other.table).length +
            other.points.length).sum := settled.points
    have same : (rest.map fun other => (Function.update kept group.table [] other.table).length +
          other.points.length) =
        rest.map fun other => (kept other.table).length + other.points.length :=
      List.map_congr_left fun other member => by
        rw [(sorted.update_rest kept [] (List.mem_map_of_mem member)).2]
    have here := resumed.written.droppedRows
    have rows := resumed.written.rows
    rw [List.length_append] at here
    rw [counts, same, List.map_cons, List.sum_cons]
    omega
  rows := by
    have total : outcome.rows = sum.rows + first.rows + (flushed.map fun entry => entry.2.rows).sum :=
      settled.rows
    have here : first.rows = ((flushedBy w group.points).toList.map fun record => record.rows).sum :=
      resumed.rows
    simp only [List.map_append, List.map_map, List.sum_append, Function.comp_def]
    omega
  tables := by
    simp only [List.map_append, List.map_map, List.map_cons, Function.comp_def]
    cases flushedBy w group.points with
    | none => exact settled.tables.cons _
    | some record => exact settled.tables.cons_cons _
  records := by
    intro table record member
    rcases List.mem_append.mp member with here | later
    · obtain ⟨_, found, same⟩ := List.mem_map.mp here
      obtain ⟨rfl, rfl⟩ := Prod.mk.inj same
      obtain ⟨fields, rowList⟩ := resumed.record _ (Option.mem_toList.mp found)
      rw [sorted.ofTable_first]
      exact ⟨w.columns, asked.left, fields, rowList⟩
    · have inRest : table ∈ rest.map Group.table :=
        settled.tables.subset (List.mem_map.mpr ⟨_, later, rfl⟩)
      obtain ⟨apart, same⟩ := sorted.update_rest kept [] inRest
      obtain ⟨columns, left, fields, rowList⟩ := settled.records table record later
      rw [others table apart, same] at left
      rw [same] at rowList
      rw [sorted.ofTable_rest apart]
      exact ⟨columns, left, fields, rowList⟩

/-- Groups that are written without a fault are settled, nothing is kept for their tables any more,
and what was inserted are the records that were flushed. The first of them leaves nothing for its
table, and the others do not ask for it. -/
theorem writeGroups_ok {groups : List Group} {sum outcome : Outcome} (keeps : r.Keeps kept)
    (sorted : Sorted groups)
    (answer : writeGroups transmit r link sum groups = (.ok outcome, after, link')) :
    after.Keeps (fun table => if table ∈ groups.map Group.table then [] else kept table) ∧
      Settled r kept groups sum outcome (flushedIn transmit r link groups) ∧
      link.Inserts link' ((flushedIn transmit r link groups).map Prod.snd) := by
  induction groups generalizing r link sum kept with
  | nil =>
    simp only [writeGroups, Prod.mk.injEq, Except.ok.injEq] at answer
    obtain ⟨rfl, rfl, rfl⟩ := answer
    exact ⟨by simpa using keeps, ⟨rfl, rfl, rfl, .slnil, by simp [flushedIn]⟩, .refl link _⟩
  | cons group rest ih =>
    obtain ⟨w, asked⟩ := keeps.asked group.first group.table rfl
    have talk := talk_writeTable transmit w link group.points
    have inserts := inserts_writeTable transmit w link group.points
    rw [writeGroups_cons asked.found] at answer
    rw [flushedIn_cons asked.found]
    rcases wrote : writeTable transmit w link group.points with ⟨fault | first, other, between⟩
    · simp [wrote] at answer
    · simp only [wrote] at answer talk inserts ⊢
      have resumed := writeTable_resumed asked.keeps asked.opened wrote
      have back := asked.back talk.table talk.closed (keeps_nil resumed.written.empty)
      obtain ⟨left, settled, more⟩ := ih back sorted.tail answer
      refine ⟨?_, Settled.cons sorted asked resumed (fun _ => asked.others talk.table) settled, ?_⟩
      · convert left using 2 with table
        by_cases its : table = group.table <;> simp [its]
      · simpa [Function.comp_def] using inserts.trans more

/-- Groups that could not all be written leave for each table some of the points that were kept
for it and of those that the groups have for it, and no others. -/
theorem writeGroups_error {groups : List Group} {sum : Outcome} {fault : Fault}
    (keeps : r.Keeps kept) (sorted : Sorted groups)
    (answer : writeGroups transmit r link sum groups = (.error fault, after, link')) :
    ∃ left, after.Keeps left ∧
      ∀ table, (left table).Sublist (kept table ++ ofTable table (pointsIn groups)) := by
  induction groups generalizing r link sum kept with
  | nil => simp [writeGroups] at answer
  | cons group rest ih =>
    obtain ⟨w, asked⟩ := keeps.asked group.first group.table rfl
    have talk := talk_writeTable transmit w link group.points
    rw [writeGroups_cons asked.found] at answer
    rcases wrote : writeTable transmit w link group.points with ⟨stopped | first, other, between⟩
    · obtain ⟨held, _⟩ := writeTable_failed asked.keeps asked.opened wrote
      simp only [wrote, Prod.mk.injEq] at answer talk
      obtain ⟨_, rfl, _⟩ := answer
      refine ⟨_, asked.back talk.table talk.closed held, ?_⟩
      intro table
      by_cases its : table = group.table
      · subst its
        rw [sorted.ofTable_first, Function.update_self]
        exact (List.Sublist.refl _).append (List.filter_sublist.trans (List.takeWhile_sublist _))
      · rw [Function.update_of_ne its]
        exact List.sublist_append_left _ _
    · simp only [wrote] at answer talk
      have resumed := writeTable_resumed asked.keeps asked.opened wrote
      have back := asked.back talk.table talk.closed (keeps_nil resumed.written.empty)
      obtain ⟨left, held, among⟩ := ih back sorted.tail answer
      refine ⟨left, held, fun table => (among table).trans ?_⟩
      by_cases its : table = group.table
      · subst its
        rw [Function.update_self, List.nil_append, sorted.others]
        exact List.nil_sublist _
      · rw [Function.update_of_ne its, sorted.ofTable_rest its]

/-- The points of a batch together with those that are kept for its tables, counted by group and
by table. -/
theorem sum_sort (kept : String → List Point) (items : List Item) :
    ((sort items ([], 0)).1.map fun group => (kept group.table).length + group.points.length).sum =
      ((tablesOf (items.filterMap Item.decoded)).map fun table => (kept table).length).sum +
        (items.filterMap Item.decoded).length := by
  have points := (perm_sort items).length_eq
  have tables := ((tables_sort items).map fun table => (kept table).length).sum_eq
  rw [pointsIn, List.length_flatMap] at points
  rw [List.map_map] at tables
  rw [List.sum_map_add, points, ← tables]
  rfl

/-- A batch that is taken in without a fault leaves nothing for its tables, and is settled. -/
theorem run_ok {items : List Item} {outcome : Outcome} (keeps : r.Keeps kept)
    (answer : run transmit r link items = (.ok outcome, after, link')) :
    let groups := (sort items ([], 0)).1
    after.Keeps (fun table =>
        if table ∈ tablesOf (items.filterMap Item.decoded) then [] else kept table) ∧
      Settled r kept groups { droppedItems := items.countP Item.undecodable } outcome
        (flushedIn transmit r link groups) ∧
      link.Inserts link' ((flushedIn transmit r link groups).map Prod.snd) := by
  intro groups
  obtain ⟨sorted, counted, _⟩ := sort_spec items sorted_nil 0
  have wrote : writeGroups transmit r link { droppedItems := (sort items ([], 0)).2 } groups =
      (.ok outcome, after, link') := answer
  rw [counted, Nat.zero_add] at wrote
  obtain ⟨left, settled, inserts⟩ := writeGroups_ok keeps sorted wrote
  have tables (table : String) := (tables_sort items).mem_iff (a := table)
  simp only [tables] at left
  exact ⟨left, settled, inserts⟩

/-- A batch that fails leaves for each table some of the points that were kept for it and of its
own, and no others. -/
theorem run_error {items : List Item} {fault : Fault} (keeps : r.Keeps kept)
    (answer : run transmit r link items = (.error fault, after, link')) :
    ∃ left, after.Keeps left ∧ ∀ table,
      (left table).Sublist (kept table ++ ofTable table (items.filterMap Item.decoded)) := by
  obtain ⟨left, held, among⟩ :=
    writeGroups_error keeps (sort_spec items sorted_nil 0).1 answer
  refine ⟨left, held, fun table => ?_⟩
  rw [← ofTable_sort]
  exact among table

end Ingest

end SeriesBench
