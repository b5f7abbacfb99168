import Mathlib.Data.List.Dedup
import SeriesBench.Worker.Ingest
import SeriesBench.Proofs.Scan.Found

/-!
# Sorting a batch by table

The points of a batch may come from many tables. Sorting them makes one group for each table
and keeps, for each table, its points in order: no point is lost, doubled or moved to another
table, and the items that do not decode are counted. The order among different tables is the
one thing that sorting changes.
-/

namespace SeriesBench

/-- The points of one table, in order. -/
def ofTable (table : String) (points : List Point) : List Point :=
  points.filter fun p => p.measurement = table

/-- No points are of a table where there are none. -/
@[simp] theorem ofTable_nil (table : String) : ofTable table [] = [] := rfl

/-- The points of a table in two parts are those of both. -/
@[simp] theorem ofTable_append (table : String) (xs ys : List Point) :
    ofTable table (xs ++ ys) = ofTable table xs ++ ofTable table ys :=
  List.filter_append xs ys

/-- Where all points are of one table, all of them are its points. -/
theorem ofTable_all {table : String} {points : List Point}
    (same : ∀ p ∈ points, p.measurement = table) : ofTable table points = points :=
  List.filter_eq_self.mpr fun p member => by simpa using same p member

/-- Where no point is of the table, it has none. -/
theorem ofTable_none {table : String} {points : List Point}
    (other : ∀ p ∈ points, p.measurement ≠ table) : ofTable table points = [] :=
  List.filter_eq_nil_iff.mpr fun p member => by simpa using other p member

/-- The points of a table are those that name it. -/
theorem mem_ofTable {table : String} {points : List Point} {p : Point} :
    p ∈ ofTable table points ↔ p ∈ points ∧ p.measurement = table := by
  simp [ofTable]

/-- The tables of some points, each once. -/
def tablesOf (points : List Point) : List String :=
  (points.map Point.measurement).dedup

/-- The tables of some points are those that one of them names. -/
theorem mem_tablesOf {points : List Point} {table : String} :
    table ∈ tablesOf points ↔ ∃ p ∈ points, p.measurement = table := by
  simp [tablesOf]

/-- The tables of some points, each once, in the order in which they first appear. -/
def firstSeen (points : List Point) : List String :=
  (points.map Point.measurement).eraseDups

/-- A point is as often among all points as among those of its table. -/
theorem count_eq_ofTable (p : Point) (points : List Point) :
    points.count p = (ofTable p.measurement points).count p :=
  (List.count_filter (by simp)).symm

namespace Ingest

/-- The table of a group. -/
def Group.table (group : Group) : String :=
  group.first.measurement

/-- All points of a group are of its table. -/
def Group.Uniform (group : Group) : Prop :=
  ∀ p ∈ group.points, p.measurement = group.table

/-- The points of some groups, one group after the other. -/
def pointsIn (groups : List Group) : List Point :=
  groups.flatMap Group.points

/-- Groups of different tables, each with points of its table only. -/
structure Sorted (groups : List Group) : Prop where
  uniform : ∀ group ∈ groups, group.Uniform
  distinct : (groups.map Group.table).Nodup

/-- No groups are sorted. -/
theorem sorted_nil : Sorted [] :=
  ⟨by simp, by simp⟩

/-- The points of the groups behind the first are of other tables than its own. -/
theorem Sorted.others {group : Group} {rest : List Group} (sorted : Sorted (group :: rest)) :
    ofTable group.table (pointsIn rest) = [] := by
  apply ofTable_none
  intro p member same
  obtain ⟨other, inRest, inOther⟩ := List.mem_flatMap.mp member
  have itsTable := sorted.uniform other (List.mem_cons_of_mem _ inRest) p inOther
  have apart := (List.nodup_cons.mp sorted.distinct).1
  exact apart (List.mem_map.mpr ⟨other, inRest, itsTable.symm.trans same⟩)

/-- Behind the first of sorted groups the others are sorted. -/
theorem Sorted.tail {group : Group} {rest : List Group} (sorted : Sorted (group :: rest)) :
    Sorted rest where
  uniform other member := sorted.uniform other (List.mem_cons_of_mem _ member)
  distinct := (List.nodup_cons.mp sorted.distinct).2

/-- The points of the first table are those of the first group. -/
theorem Sorted.ofTable_first {group : Group} {rest : List Group}
    (sorted : Sorted (group :: rest)) :
    ofTable group.table (pointsIn (group :: rest)) = group.points := by
  have parts : pointsIn (group :: rest) = group.points ++ pointsIn rest := rfl
  rw [parts, ofTable_append, sorted.others, List.append_nil]
  exact ofTable_all (sorted.uniform group List.mem_cons_self)

/-- The points of any other table are in the groups behind the first. -/
theorem Sorted.ofTable_rest {group : Group} {rest : List Group} (sorted : Sorted (group :: rest))
    {table : String} (apart : table ≠ group.table) :
    ofTable table (pointsIn (group :: rest)) = ofTable table (pointsIn rest) := by
  have parts : pointsIn (group :: rest) = group.points ++ pointsIn rest := rfl
  have none : ofTable table group.points = [] :=
    ofTable_none fun p member same =>
      apart (same.symm.trans (sorted.uniform group List.mem_cons_self p member))
  rw [parts, ofTable_append, none, List.nil_append]

/-- A group of sorted groups has all points of its table. -/
theorem Sorted.ofTable_mem {groups : List Group} (sorted : Sorted groups) {group : Group}
    (member : group ∈ groups) : ofTable group.table (pointsIn groups) = group.points := by
  induction groups with
  | nil => simp at member
  | cons head rest ih =>
    rcases List.mem_cons.mp member with rfl | inRest
    · exact sorted.ofTable_first
    · have apart : group.table ≠ head.table := fun same =>
        (List.nodup_cons.mp sorted.distinct).1 (same ▸ List.mem_map_of_mem inRest)
      rw [sorted.ofTable_rest apart, ih sorted.tail inRest]

/-- Adding a point adds its table to the tables if it is new. -/
theorem tables_addPoint (p : Point) (groups : List Group) :
    (addPoint p groups).map Group.table =
      if p.measurement ∈ groups.map Group.table then groups.map Group.table
      else groups.map Group.table ++ [p.measurement] := by
  induction groups with
  | nil => rfl
  | cons group rest ih =>
    by_cases same : group.first.measurement = p.measurement
    · simp [addPoint, same, Group.table]
    · have apart : ¬ p.measurement = group.table := fun equal => same equal.symm
      simp only [addPoint, same, if_false, List.map_cons, ih, List.mem_cons, apart, false_or]
      split <;> simp

/-- A point goes to the group of its table, or begins one if there is none, so groups stay sorted.
-/
theorem sorted_addPoint (p : Point) {groups : List Group} (sorted : Sorted groups) :
    Sorted (addPoint p groups) where
  uniform := by
    induction groups with
    | nil =>
      intro group member q inside
      obtain rfl : group = ⟨p, #[]⟩ := by simpa [addPoint] using member
      obtain rfl : q = p := by simpa [Group.points] using inside
      rfl
    | cons head rest ih =>
      intro group member
      simp only [addPoint] at member
      split at member
      · rename_i same
        rcases List.mem_cons.mp member with rfl | inRest
        · intro q inside
          rcases List.mem_cons.mp inside with rfl | later
          · rfl
          · rcases Array.mem_push.mp (Array.mem_toList_iff.mp later) with old | rfl
            · exact sorted.uniform head List.mem_cons_self q
                (List.mem_cons_of_mem _ (Array.mem_toList_iff.mpr old))
            · exact same.symm
        · exact sorted.uniform group (List.mem_cons_of_mem _ inRest)
      · rcases List.mem_cons.mp member with rfl | inRest
        · exact sorted.uniform _ List.mem_cons_self
        · exact ih sorted.tail group inRest
  distinct := by
    rw [tables_addPoint]
    split
    · exact sorted.distinct
    · rename_i new
      rw [List.nodup_append]
      refine ⟨sorted.distinct, by simp, ?_⟩
      rintro table old other single rfl
      exact new ((List.mem_singleton.mp single) ▸ old)

/-- For each table, adding a point adds it behind the table's points. -/
theorem ofTable_addPoint (p : Point) {groups : List Group} (sorted : Sorted groups)
    (table : String) :
    ofTable table (pointsIn (addPoint p groups)) = ofTable table (pointsIn groups ++ [p]) := by
  induction groups with
  | nil => rfl
  | cons group rest ih =>
    by_cases same : group.first.measurement = p.measurement
    · have grown : pointsIn (addPoint p (group :: rest)) = group.points ++ [p] ++ pointsIn rest := by
        simp [addPoint, same, pointsIn, Group.points]
      have before : pointsIn (group :: rest) = group.points ++ pointsIn rest := rfl
      rw [grown, before]
      simp only [ofTable_append, List.append_assoc]
      by_cases its : group.table = table
      · subst its
        simp [sorted.others]
      · have apart : ofTable table [p] = [] := by
          apply ofTable_none
          intro q single
          obtain rfl := List.mem_singleton.mp single
          exact fun equal => its (same.trans equal)
        simp [apart]
    · have grown : pointsIn (addPoint p (group :: rest)) =
          group.points ++ pointsIn (addPoint p rest) := by
        simp [addPoint, same, pointsIn]
      have before : pointsIn (group :: rest) = group.points ++ pointsIn rest := rfl
      rw [grown, before, ofTable_append, ih sorted.tail]
      simp

/-- What sorting some items gives, beside the groups and the count that are there already. -/
theorem sort_spec (items : List Item) {groups : List Group} (sorted : Sorted groups)
    (dropped : Nat) :
    Sorted (sort items (groups, dropped)).1 ∧
      (sort items (groups, dropped)).2 = dropped + items.countP Item.undecodable ∧
      ∀ table, ofTable table (pointsIn (sort items (groups, dropped)).1) =
        ofTable table (pointsIn groups ++ items.filterMap Item.decoded) := by
  induction items generalizing groups dropped with
  | nil => simp [sort, sorted]
  | cons item rest ih =>
    cases given : item.point? with
    | error fault =>
      have step : sort (item :: rest) (groups, dropped) = sort rest (groups, dropped + 1) := by
        simp [sort, given]
      obtain ⟨kept, counted, points⟩ := ih sorted (dropped + 1)
      rw [step]
      refine ⟨kept, ?_, ?_⟩
      · simp only [counted, List.countP_cons, Item.undecodable, given, if_true]
        omega
      · simpa [Item.decoded, given] using points
    | ok found =>
      cases found with
      | none =>
        have step : sort (item :: rest) (groups, dropped) = sort rest (groups, dropped) := by
          simp [sort, given]
        obtain ⟨kept, counted, points⟩ := ih sorted dropped
        rw [step]
        exact ⟨kept, by simp [counted, Item.undecodable, given],
          by simpa [Item.decoded, given] using points⟩
      | some p =>
        have step : sort (item :: rest) (groups, dropped) =
            sort rest (addPoint p groups, dropped) := by
          simp [sort, given]
        obtain ⟨kept, counted, points⟩ := ih (sorted_addPoint p sorted) dropped
        rw [step]
        refine ⟨kept, by simp [counted, Item.undecodable, given], ?_⟩
        intro table
        have apart : (item :: rest).filterMap Item.decoded =
            [p] ++ rest.filterMap Item.decoded := by
          simp [Item.decoded, given]
        rw [points, apart, ofTable_append, ofTable_addPoint p sorted]
        simp only [ofTable_append, List.append_assoc]

/-- Sorting a batch keeps the points of each table in order. -/
theorem ofTable_sort (items : List Item) (table : String) :
    ofTable table (pointsIn (sort items ([], 0)).1) =
      ofTable table (items.filterMap Item.decoded) := by
  have none : pointsIn ([] : List Group) = [] := rfl
  have points := (sort_spec items sorted_nil 0).2.2 table
  rwa [none, List.nil_append] at points

/-- Sorting a batch loses no point and makes none up. -/
theorem perm_sort (items : List Item) :
    (pointsIn (sort items ([], 0)).1).Perm (items.filterMap Item.decoded) := by
  rw [List.perm_iff_count]
  intro p
  rw [count_eq_ofTable, ofTable_sort, ← count_eq_ofTable]

/-- The groups of a batch are of the tables of its points, one for each. -/
theorem tables_sort (items : List Item) :
    ((sort items ([], 0)).1.map Group.table).Perm (tablesOf (items.filterMap Item.decoded)) := by
  have sorted := (sort_spec items sorted_nil 0).1
  have points (p : Point) : p ∈ pointsIn (sort items ([], 0)).1 ↔ p ∈ items.filterMap Item.decoded :=
    (perm_sort items).mem_iff
  refine (List.perm_ext_iff_of_nodup sorted.distinct (List.nodup_dedup _)).mpr fun table => ?_
  rw [List.mem_map, ← tablesOf, mem_tablesOf]
  constructor
  · rintro ⟨group, member, rfl⟩
    exact ⟨group.first, (points _).mp (List.mem_flatMap.mpr ⟨group, member, List.mem_cons_self⟩), rfl⟩
  · rintro ⟨p, inPoints, rfl⟩
    obtain ⟨group, member, inGroup⟩ := List.mem_flatMap.mp ((points p).mpr inPoints)
    exact ⟨group, member, (sorted.uniform group member p inGroup).symm⟩

/-- A table that was seen does not come again. -/
theorem eraseDups_seen {tables : List String} {table : String} (seen : table ∈ tables)
    (more : List String) : (tables ++ table :: more).eraseDups = (tables ++ more).eraseDups := by
  rw [List.eraseDups_append, List.eraseDups_append]
  simp [List.removeAll, seen]

/-- A table that was not seen comes last. -/
theorem eraseDups_new {tables : List String} {table : String}
    (once : tables.eraseDups = tables) (new : table ∉ tables) :
    (tables ++ [table]).eraseDups = tables ++ [table] := by
  rw [List.eraseDups_append, once]
  simp [List.removeAll, new, List.eraseDups_cons]

/-- Sorting items behind some groups is seeing their tables behind those of the groups. -/
theorem eraseDups_sort (items : List Item) (groups : List Group) (dropped : Nat)
    (once : (groups.map Group.table).eraseDups = groups.map Group.table) :
    (sort items (groups, dropped)).1.map Group.table =
      (groups.map Group.table ++
        (items.filterMap Item.decoded).map Point.measurement).eraseDups := by
  induction items generalizing groups dropped with
  | nil => simpa [sort] using once.symm
  | cons item rest ih =>
    rcases given : item.point? with fault | none | p
    · simpa [sort, given, Item.decoded] using ih groups (dropped + 1) once
    · simpa [sort, given, Item.decoded] using ih groups dropped once
    · have step : sort (item :: rest) (groups, dropped) =
          sort rest (addPoint p groups, dropped) := by
        simp [sort, given]
      have points : (item :: rest).filterMap Item.decoded = p :: rest.filterMap Item.decoded := by
        simp [Item.decoded, given]
      have tables := tables_addPoint p groups
      rw [step, points, List.map_cons]
      by_cases seen : p.measurement ∈ groups.map Group.table
      · rw [if_pos seen] at tables
        rw [ih (addPoint p groups) dropped (by rw [tables, once]), tables, eraseDups_seen seen]
      · rw [if_neg seen] at tables
        rw [ih (addPoint p groups) dropped (by rw [tables, eraseDups_new once seen]), tables,
          List.append_assoc]
        rfl

/-- The groups of a batch are in the order in which its tables first appear. -/
theorem firstSeen_sort (items : List Item) :
    (sort items ([], 0)).1.map Group.table = firstSeen (items.filterMap Item.decoded) :=
  eraseDups_sort items [] 0 rfl

/-- There are no more groups than items. -/
theorem length_sort (items : List Item) (groups : List Group) (dropped : Nat) :
    (sort items (groups, dropped)).1.length ≤ groups.length + items.length := by
  have longer (p : Point) (groups : List Group) :
      (addPoint p groups).length ≤ groups.length + 1 := by
    have tables := congrArg List.length (tables_addPoint p groups)
    split at tables <;> simp at tables <;> omega
  induction items generalizing groups dropped with
  | nil => simp [sort]
  | cons item rest ih =>
    simp only [sort, List.length_cons]
    split
    · rename_i p _
      have later := ih (addPoint p groups) dropped
      have here := longer p groups
      omega
    · have later := ih groups dropped
      omega
    · have later := ih groups (dropped + 1)
      omega

end Ingest

end SeriesBench
