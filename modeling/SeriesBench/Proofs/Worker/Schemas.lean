import SeriesBench.Proofs.Worker.Kept

/-!
# What a worker's tables look like after some points

The first point of a table fixes its columns, and no later one changes them. So the columns that
hold after some points were seen can be told from the points alone, one after the other, and so can
the rows and the counts that come of them. These do not depend on how the points were sorted into
groups, and what some points give does not change when others are seen behind them: of points in two
parts the second adds its own to what the first gave.
-/

namespace SeriesBench

open TableWriter

/-- Tables with their columns, in the order in which they were first seen. -/
abbrev Schemas := List (String × List ColumnDef)

namespace Schemas

/-- The tables that were seen. -/
def tables (schemas : Schemas) : List String :=
  schemas.map Prod.fst

/-- The columns of a table, if it was seen. -/
def columns (schemas : Schemas) (table : String) : List ColumnDef :=
  (schemas.lookup table).getD []

/-- A point is seen: if it is the first of its table, the table has its columns from then on. -/
def see (schemas : Schemas) (p : Point) : Schemas :=
  if p.measurement ∈ schemas.tables then schemas
  else schemas ++ [(p.measurement, columnsOf p)]

/-- Points are seen one after the other. -/
def seeAll (schemas : Schemas) (points : List Point) : Schemas :=
  points.foldl see schemas

/-- The point is as wide as its table. -/
def Fits (schemas : Schemas) (p : Point) : Prop :=
  p.width + 1 = (schemas.columns p.measurement).length

/-- The row of a point in its table, if it converts. -/
def row (schemas : Schemas) (p : Point) : Option (List Value) :=
  typedRow (schemas.columns p.measurement) p

/-- The rows of some points in their tables, those that convert. -/
def rows (schemas : Schemas) (points : List Point) : List (List Value) :=
  points.filterMap schemas.row

/-- The counts for some points that all fit, and for so many items that do not decode. -/
def outcome (schemas : Schemas) (droppedItems : Nat) (points : List Point) : Outcome where
  rows := (schemas.rows points).length
  metrics := ((schemas.rows points).map List.length).sum
  droppedItems
  droppedRows := points.countP fun p => (schemas.row p).isNone

variable {schemas : Schemas} {points others : List Point} {table : String} {p : Point}

/-- Where nothing is seen nothing is fixed. -/
@[simp] theorem seeAll_nil (schemas : Schemas) : schemas.seeAll [] = schemas := rfl

/-- Points are seen from the first one on. -/
@[simp] theorem seeAll_cons (schemas : Schemas) (p : Point) (points : List Point) :
    schemas.seeAll (p :: points) = (schemas.see p).seeAll points := rfl

/-- Points in two parts are seen part by part. -/
@[simp] theorem seeAll_append (schemas : Schemas) (points others : List Point) :
    schemas.seeAll (points ++ others) = (schemas.seeAll points).seeAll others :=
  List.foldl_append

/-- A point of a table that was seen fixes nothing. -/
theorem see_of_known (known : p.measurement ∈ schemas.tables) : schemas.see p = schemas :=
  if_pos known

/-- The table of a point that is seen is known. -/
theorem known_see (schemas : Schemas) (p : Point) : p.measurement ∈ (schemas.see p).tables := by
  by_cases known : p.measurement ∈ schemas.tables
  · rwa [see_of_known known]
  · rw [see, if_neg known]
    simp [tables]

/-- Seeing points only adds tables, behind those that are there. -/
theorem seeAll_grows (schemas : Schemas) (points : List Point) :
    ∃ more, schemas.seeAll points = schemas ++ more := by
  induction points generalizing schemas with
  | nil => exact ⟨[], by simp⟩
  | cons p rest ih =>
    obtain ⟨more, grown⟩ := ih (schemas.see p)
    rw [seeAll_cons, grown]
    by_cases known : p.measurement ∈ schemas.tables
    · exact ⟨more, by rw [see_of_known known]⟩
    · exact ⟨(p.measurement, columnsOf p) :: more, by simp [see, known]⟩

/-- A table that was seen stays so. -/
theorem known_seeAll (known : table ∈ schemas.tables) (points : List Point) :
    table ∈ (schemas.seeAll points).tables := by
  obtain ⟨more, grown⟩ := schemas.seeAll_grows points
  rw [grown, tables, List.map_append]
  exact List.mem_append_left _ known

/-- The table of a point that was seen is known. -/
theorem known_of_mem (schemas : Schemas) (member : p ∈ points) :
    p.measurement ∈ (schemas.seeAll points).tables := by
  obtain ⟨before, behind, rfl⟩ := List.append_of_mem member
  rw [seeAll_append, seeAll_cons]
  exact known_seeAll (known_see _ p) behind

/-- The columns of a known table stay. -/
theorem columns_seeAll (known : table ∈ schemas.tables) (points : List Point) :
    (schemas.seeAll points).columns table = schemas.columns table := by
  obtain ⟨more, grown⟩ := schemas.seeAll_grows points
  obtain ⟨entry, member, rfl⟩ := List.mem_map.mp known
  have found : (schemas.lookup entry.1).isSome := by
    rw [List.lookup_isSome_iff]
    exact ⟨entry, member, by simp⟩
  obtain ⟨columns, found⟩ := Option.isSome_iff_exists.mp found
  rw [grown, Schemas.columns, Schemas.columns, List.lookup_append, found]
  rfl

/-- What was seen of a point's table does not change when others are seen behind it. -/
theorem columns_of_mem (schemas : Schemas) (member : p ∈ points) (others : List Point) :
    (schemas.seeAll (points ++ others)).columns p.measurement =
      (schemas.seeAll points).columns p.measurement := by
  rw [seeAll_append]
  exact columns_seeAll (schemas.known_of_mem member) others

/-- Of two parts the second has to fit what was seen by then. -/
theorem fits_append (schemas : Schemas) (points others : List Point) :
    (∀ p ∈ points ++ others, (schemas.seeAll (points ++ others)).Fits p) ↔
      (∀ p ∈ points, (schemas.seeAll points).Fits p) ∧
        ∀ p ∈ others, ((schemas.seeAll points).seeAll others).Fits p := by
  have before (p : Point) (member : p ∈ points) :
      (schemas.seeAll (points ++ others)).Fits p ↔ (schemas.seeAll points).Fits p := by
    rw [Fits, Fits, columns_of_mem schemas member]
  rw [List.forall_mem_append, forall₂_congr before, seeAll_append]

/-- The row of a point that was seen does not depend on what is seen behind it. -/
theorem row_of_mem (schemas : Schemas) (member : p ∈ points) (others : List Point) :
    (schemas.seeAll (points ++ others)).row p = (schemas.seeAll points).row p := by
  rw [row, row, columns_of_mem schemas member]

/-- The rows of some of the points are still the same when others were seen. -/
theorem rows_of_subset (schemas : Schemas) {some : List Point} (inside : some ⊆ points)
    (others : List Point) :
    (schemas.seeAll (points ++ others)).rows some = (schemas.seeAll points).rows some :=
  List.filterMap_congr fun _ member => row_of_mem schemas (inside member) others

/-- The rows of two parts come one after the other. -/
@[simp] theorem rows_append (schemas : Schemas) (points others : List Point) :
    schemas.rows (points ++ others) = schemas.rows points ++ schemas.rows others :=
  List.filterMap_append

/-- The counts of two parts add up. -/
theorem outcome_append (schemas : Schemas) (dropped more : Nat) (points others : List Point) :
    (schemas.seeAll (points ++ others)).outcome (dropped + more) (points ++ others) =
      (schemas.seeAll points).outcome dropped points +
        ((schemas.seeAll points).seeAll others).outcome more others := by
  have rows := rows_of_subset schemas (List.Subset.refl points) others
  have unconverted : (points.countP fun p => ((schemas.seeAll (points ++ others)).row p).isNone) =
      points.countP fun p => ((schemas.seeAll points).row p).isNone :=
    List.countP_congr fun p member => by rw [row_of_mem schemas member others]
  rw [seeAll_append] at rows unconverted ⊢
  simp only [outcome, rows_append, List.length_append, List.map_append, List.sum_append,
    List.countP_append, rows, unconverted]
  rfl

/-- Items that do not decode count beside the points. -/
theorem outcome_dropped (schemas : Schemas) (droppedItems : Nat) (points : List Point) :
    { droppedItems } + schemas.outcome 0 points = schemas.outcome droppedItems points := by
  show Outcome.add _ _ = _
  simp [Outcome.add, outcome]

open Ingest

/-- Of the points of a group the first is all there is to see. -/
theorem seeAll_group (schemas : Schemas) {group : Group} (uniform : group.Uniform) :
    schemas.seeAll group.points = schemas.see group.first := by
  have others : ∀ p ∈ group.others.toList, p.measurement = group.first.measurement :=
    fun p member => uniform p (List.mem_cons_of_mem _ member)
  have known : group.first.measurement ∈ (schemas.see group.first).tables :=
    schemas.known_see group.first
  rw [Group.points, seeAll_cons]
  generalize group.others.toList = rest at others ⊢
  induction rest with
  | nil => rfl
  | cons p rest ih =>
    have same : p.measurement ∈ (schemas.see group.first).tables := by
      rwa [others p List.mem_cons_self]
    rw [seeAll_cons, see_of_known same]
    exact ih fun q member => others q (List.mem_cons_of_mem _ member)

/-- Adding a point to the groups is seeing it behind them, although it may come to stand in front of
points of other tables. The table of such a point is known, because its group has shown it. -/
theorem seeAll_addPoint (schemas : Schemas) (p : Point) (groups : List Group) :
    schemas.seeAll (pointsIn (addPoint p groups)) = schemas.seeAll (pointsIn groups ++ [p]) := by
  induction groups generalizing schemas with
  | nil => rfl
  | cons group rest ih =>
    have before : pointsIn (group :: rest) = group.points ++ pointsIn rest := rfl
    by_cases same : group.first.measurement = p.measurement
    · have grown : pointsIn (addPoint p (group :: rest)) =
          (group.points ++ [p]) ++ pointsIn rest := by
        simp [addPoint, same, pointsIn, Group.points]
      have known : p.measurement ∈ (schemas.seeAll group.points).tables := by
        rw [← same]
        exact schemas.known_of_mem List.mem_cons_self
      rw [grown, before]
      simp only [seeAll_append, seeAll_cons, seeAll_nil]
      rw [see_of_known known, see_of_known (known_seeAll known (pointsIn rest))]
    · have grown : pointsIn (addPoint p (group :: rest)) =
          group.points ++ pointsIn (addPoint p rest) := by
        simp [addPoint, same, pointsIn]
      rw [grown, before, seeAll_append, ih, List.append_assoc, seeAll_append schemas]

/-- Sorting the points of a batch does not matter for what is seen. -/
theorem seeAll_sort (schemas : Schemas) (items : List Item) (groups : List Group) (dropped : Nat) :
    schemas.seeAll (pointsIn (sort items (groups, dropped)).1) =
      schemas.seeAll (pointsIn groups ++ items.filterMap Item.decoded) := by
  induction items generalizing groups dropped with
  | nil => simp [sort]
  | cons item rest ih =>
    rcases given : item.point? with fault | none | p
    · simpa [sort, given, Item.decoded] using ih groups (dropped + 1)
    · simpa [sort, given, Item.decoded] using ih groups dropped
    · have later := ih (addPoint p groups) dropped
      rw [seeAll_append, seeAll_addPoint, ← seeAll_append] at later
      simpa [sort, given, Item.decoded] using later

/-- Nor does it matter for the counts. -/
theorem outcome_sort (schemas : Schemas) (dropped : Nat) (items : List Item) :
    schemas.outcome dropped (pointsIn (sort items ([], 0)).1) =
      schemas.outcome dropped (items.filterMap Item.decoded) := by
  have perm := perm_sort items
  have rows := perm.filterMap schemas.row
  simp only [outcome, Schemas.rows, rows.length_eq, (rows.map List.length).sum_eq, perm.countP_eq]

end Schemas

namespace Registry

/-- The tables of a registry with their columns, oldest first. -/
def schemas (r : Registry) : Schemas :=
  r.writers.toList.map fun w => (w.table, w.columns)

variable {r : Registry}

/-- The tables of a registry are those that it made writers for. -/
theorem tables_schemas (r : Registry) : r.schemas.tables = r.made := by
  simp [schemas, Schemas.tables, made]

/-- In a registry in use every table that was seen is in use. -/
theorem tables_of_live (live : r.Live) : r.tables = r.schemas.tables := by
  rw [tables, live.active, List.zipIdx_map_fst, tables_schemas]

/-- A registry that is asked for a table by a point has seen the point. -/
theorem schemas_obtain (live : r.Live) (sample : Point) :
    (r.obtain sample).2.schemas = r.schemas.see sample := by
  rcases obtain_cases live sample with ⟨same, found⟩ | ⟨new, grown⟩
  · have known : sample.measurement ∈ r.schemas.tables := by
      rw [tables_schemas]
      exact List.mem_of_getElem? found
    rw [same, Schemas.see_of_known known]
  · have missing : sample.measurement ∉ r.schemas.tables := by rwa [tables_schemas]
    rw [grown, Schemas.see, if_neg missing]
    simp [schemas, enlarge, create]

/-- Putting back a writer leaves the tables and columns as they are. -/
theorem schemas_put {handle : Nat} {w other : TableWriter} (member : r.writers[handle]? = some w)
    (table : other.table = w.table) (columns : other.columns = w.columns) :
    (r.put handle other).schemas = r.schemas := by
  obtain ⟨before, behind, cut, put⟩ := put_cut member
  simp [schemas, cut, put, table, columns]

/-- The columns of a table are those of its one writer. -/
theorem columns_of_mem (distinct : r.made.Nodup) {w : TableWriter}
    (member : w ∈ r.writers.toList) : r.schemas.columns w.table = w.columns := by
  obtain ⟨before, behind, cut⟩ := List.append_of_mem member
  rw [made, cut] at distinct
  have first : r.schemas.lookup w.table = some w.columns := by
    rw [List.lookup_eq_some_iff]
    refine ⟨before.map fun v => (v.table, v.columns), behind.map fun v => (v.table, v.columns),
      by simp [schemas, cut], fun entry old => ?_⟩
    obtain ⟨v, inside, rfl⟩ := List.mem_map.mp old
    have apart := table_ne_of_distinct distinct (List.mem_append_left behind inside)
    simpa using Ne.symm apart
  rw [Schemas.columns, first]
  rfl

/-- The writer that a point asks for is that of its table, and has the columns that the table has
once the point was seen. -/
theorem columns_of_obtain (live : r.Live) {sample : Point} {w : TableWriter}
    (found : (r.obtain sample).2.writers[(r.obtain sample).1]? = some w) :
    w.table = sample.measurement ∧
      (r.schemas.see sample).columns sample.measurement = w.columns := by
  obtain ⟨v, member, table⟩ := found_of_obtain live sample
  obtain rfl : v = w := Option.some.inj (member.symm.trans found)
  refine ⟨table, ?_⟩
  rw [← schemas_obtain live, ← table]
  exact columns_of_mem (live_obtain live sample).distinct (mem_of_found found)

end Registry

end SeriesBench
