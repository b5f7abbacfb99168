import Mathlib.Data.Int.CardIntervalMod
import SeriesBench.Proofs.Worker.Errands

/-!
# Where items are routed to, and who holds their tables

A router that deals items out in turn goes through the partitions again and again, so no partition
gets more than one item more than another. A router by measurement has no memory: it gives an item
the partition of its table's name, whatever was routed before.

If every batch that a worker takes in holds only items that a router by measurement gave to it, a
worker only ever has writers for the tables of its own partition. So no two workers have a writer
for the same table, neither at the same time nor one after the other, and nobody else need be kept
from using it.
-/

namespace SeriesBench

namespace Router

/-- The partitions of some items that are routed one after the other. -/
def places : Router → List Item → List Nat
  | _, [] => []
  | router, item :: rest => (router.route item).1 :: (router.route item).2.places rest

/-- Every item gets one of the partitions. -/
theorem places_lt (router : Router) (items : List Item) :
    ∀ place ∈ router.places items, place < router.partitions := by
  induction items generalizing router with
  | nil => simp [places]
  | cons item rest ih =>
    have later := ih (router.route item).2
    rw [partitions_route] at later
    simpa [places, router.route_lt item] using later

/-- Routing by measurement looks at the name of the table and at nothing else. -/
theorem places_byMeasurement (router : Router) (byName : router.routing = .byMeasurement)
    (items : List Item) :
    router.places items =
      items.map fun item => partitionOf router.partitions item.measurement := by
  induction items with
  | nil => rfl
  | cons item rest ih =>
    have same : router.route item = (partitionOf router.partitions item.measurement, router) := by
      simp [route, byName]
    rw [places, same, ih, List.map_cons]

/-- Dealing out in turn goes around the partitions, from the cursor on. -/
theorem places_inTurn (router : Router) (inTurn : router.routing = .inTurn) (items : List Item) :
    router.places items =
      (List.range items.length).map fun i => (router.cursor + i) % router.partitions := by
  induction items generalizing router with
  | nil => rfl
  | cons item rest ih =>
    have place : (router.route item).1 = router.cursor := by simp [route, inTurn]
    have cursor : (router.route item).2.cursor = (router.cursor + 1) % router.partitions := by
      simp [route, inTurn]
    rw [places, ih _ (by simp [inTurn]), place, cursor, partitions_route, List.length_cons,
      List.range_succ_eq_map, List.map_cons, List.map_map]
    congr 1
    · exact (Nat.mod_eq_of_lt router.cursor_lt).symm
    · refine List.map_congr_left fun i _ => ?_
      rw [Nat.mod_add_mod, Function.comp, Nat.succ_eq_add_one, Nat.add_assoc, Nat.add_comm 1]

/-- How many of the first numbers leave a remainder. -/
theorem count_range_mod {partitions place : Nat} (inside : place < partitions) (n : Nat) :
    ((List.range n).map (· % partitions)).count place =
      n / partitions + if place < n % partitions then 1 else 0 := by
  have counted := Nat.count_modEq_card (b := n) (Nat.zero_lt_of_lt inside) place
  rw [Nat.mod_eq_of_lt inside] at counted
  rw [← counted, Nat.count, List.count, List.countP_map]
  refine List.countP_congr fun i _ => ?_
  simp [Nat.ModEq, Nat.mod_eq_of_lt inside]

/-- A router that is new deals items out evenly. -/
theorem even_places (router : Router) (inTurn : router.routing = .inTurn)
    (fresh : router.cursor = 0) (items : List Item) {one other : Nat}
    (inside : one < router.partitions) (inside' : other < router.partitions) :
    (router.places items).count one ≤ (router.places items).count other + 1 := by
  simp only [places_inTurn router inTurn, fresh, Nat.zero_add]
  rw [count_range_mod inside, count_range_mod inside']
  split <;> split <;> omega

end Router

/-- An item is routed by the table of the point that it decodes to. -/
theorem Item.measurement_decoded {item : Item} {p : Point} (decodes : item.decoded = some p) :
    item.measurement = p.measurement := by
  cases item with
  | line text => exact (proper_line text).routed p decodes
  | point q =>
    simp only [decoded, point?, nonEmpty, Option.ite_none_left_eq_some, Option.some.injEq]
      at decodes
    rw [measurement, decodes.2]

namespace Ingest

/-- Writing at a handle puts no table into use. -/
theorem tables_writeAt (transmit : Bool) (r : Registry) (link : Link) (handle : Nat)
    (points : List Point) : (writeAt transmit r link handle points).2.1.tables = r.tables := by
  unfold writeAt
  split <;> rfl

/-- Writing groups brings only their tables into a registry, whatever comes of it. -/
theorem tables_writeGroups (transmit : Bool) (r : Registry) (link : Link) (sum : Outcome)
    (groups : List Group) {table : String}
    (holds : table ∈ (writeGroups transmit r link sum groups).2.1.tables) :
    table ∈ r.tables ∨ ∃ group ∈ groups, group.table = table := by
  induction groups generalizing r link sum with
  | nil => exact .inl holds
  | cons group rest ih =>
    have obtained (held : table ∈ (r.obtain group.first).2.tables) :
        table ∈ r.tables ∨ group.table = table := by
      rcases r.obtain_active group.first with ⟨_, _, same⟩ | ⟨_, new⟩
      · exact .inl (by simpa [same] using held)
      · rw [new] at held
        simpa [Registry.tables, Registry.enlarge, Group.table, eq_comm] using held
    have written := tables_writeAt transmit (r.obtain group.first).2 link
      (r.obtain group.first).1 group.points
    have held : table ∈ (r.obtain group.first).2.tables ∨ ∃ g ∈ rest, g.table = table := by
      simp only [writeGroups] at holds
      split at holds
      · rename_i answer
        rw [answer] at written
        exact .inl (written ▸ holds)
      · rename_i answer
        rw [answer] at written
        exact written ▸ ih _ _ _ holds
    rcases held with here | ⟨g, member, same⟩
    · exact (obtained here).imp_right fun same => ⟨group, List.mem_cons_self, same⟩
    · exact .inr ⟨g, List.mem_cons_of_mem _ member, same⟩

/-- Taking in a batch brings only the tables of its items into a registry. -/
theorem tables_run (transmit : Bool) (r : Registry) (link : Link) (items : List Item)
    {table : String} (holds : table ∈ (run transmit r link items).2.1.tables) :
    table ∈ r.tables ∨ ∃ item ∈ items, item.measurement = table := by
  refine (tables_writeGroups transmit r link _ _ holds).imp_right ?_
  rintro ⟨group, member, rfl⟩
  have first : group.first ∈ pointsIn (sort items ([], 0)).1 :=
    List.mem_flatMap.mpr ⟨group, member, List.mem_cons_self⟩
  obtain ⟨item, inItems, decodes⟩ := List.mem_filterMap.mp ((perm_sort items).mem_iff.mp first)
  exact ⟨item, inItems, Item.measurement_decoded decodes⟩

end Ingest

/-- Whether a batch that is taken in is one of items that a router gave to its worker. -/
def Errand.RoutedBy (router : Router) : Errand → Prop
  | .serve turn => ∀ item ∈ turn.items, (router.route item).1 = turn.worker
  | .close _ _ | .closeShared _ => True

namespace Crew

/-- A worker has a writer in use for a table, in the registry that it writes to. -/
def Holds (crew : Crew) (worker : Nat) (table : String) : Prop :=
  ∃ r, crew.registryOf worker = some r ∧ table ∈ r.tables

/-- The tables are divided among the workers by their names: a table is with nobody but the worker
that its name is routed to. -/
structure Divided (crew : Crew) (partitions : Nat) : Prop where
  home : ∀ worker table, crew.Holds worker table →
    (fnv1a table.toUTF8.data.toList).toNat % partitions = worker
  apart : ∀ one other table, crew.Holds one table → crew.Holds other table → one = other

/-- If every table in use is where its name is routed to, no two workers have the same one. -/
theorem divided_of_home {crew : Crew} {partitions : Nat}
    (home : ∀ worker table, crew.Holds worker table →
      Router.partitionOf partitions table = worker) :
    crew.Divided partitions := by
  refine ⟨home, fun one other table first second => ?_⟩
  rw [← home one table first, home other table second]

/-- Each worker has a registry to itself, with tables of its own partition. -/
structure Housed (crew : Crew) (partitions : Nat) : Prop where
  lone : crew.shared = none
  home : ∀ worker table, crew.Holds worker table → Router.partitionOf partitions table = worker

/-- In a new crew no table is in use. -/
theorem housed_make (workers : Nat) (layout : Layout) (partitions : Nat) :
    (make .byMeasurement workers layout).Housed partitions := by
  refine ⟨rfl, ?_⟩
  rintro worker table ⟨r, owner, member⟩
  simp only [make, registryOf, Array.getElem?_replicate, Option.ite_none_right_eq_some,
    Option.some.injEq] at owner
  obtain ⟨_, rfl⟩ := owner
  simp [Registry.tables, Registry.empty] at member

/-- Tables stay with their workers when a worker puts back a registry with tables of its own. -/
theorem Housed.put {crew : Crew} {partitions index : Nat} {r other : Registry}
    (housed : crew.Housed partitions) (owner : crew.registryOf index = some r)
    (home : ∀ table ∈ other.tables, Router.partitionOf partitions table = index) :
    (crew.put index other).Housed partitions := by
  refine ⟨by simp [shared_put, housed.lone], ?_⟩
  rintro worker table ⟨v, found, member⟩
  rcases registryOf_put_cases owner found with ⟨same, rfl⟩ | ⟨_, before⟩
  · obtain rfl : index = worker := by simpa [sharing, housed.lone] using same
    exact home table member
  · exact housed.home worker table ⟨v, before, member⟩

/-- An errand keeps every table where its name is routed to, because a batch that is routed by name
brings no other. -/
theorem Housed.afterErrand {crew : Crew} {router : Router}
    (byName : router.routing = .byMeasurement) (housed : crew.Housed router.partitions)
    (link : Link) {errand : Errand} (routed : errand.RoutedBy router) :
    (crew.afterErrand link errand).1.Housed router.partitions := by
  obtain same | ⟨worker, r, after, owner, closed, same⟩ | ⟨turn, r, rfl, owner, same⟩ :=
    crew.afterErrand_cases link errand
  · rwa [same]
  · rw [same]
    refine housed.put owner fun table member => ?_
    simp [Registry.tables, closed.none] at member
  · rw [same]
    refine housed.put owner fun table member => ?_
    rcases Ingest.tables_run turn.transmit r link turn.items member with old | ⟨item, inItems, rfl⟩
    · exact housed.home turn.worker table ⟨r, owner, old⟩
    · simpa [Router.route, byName] using routed item inItems

/-- Whatever comes of the batches, and whatever is closed between them. -/
theorem Housed.afterErrands {crew : Crew} {router : Router}
    (byName : router.routing = .byMeasurement) (housed : crew.Housed router.partitions)
    (link : Link) {errands : List Errand} (routed : ∀ errand ∈ errands, errand.RoutedBy router) :
    (crew.afterErrands link errands).1.Housed router.partitions := by
  induction errands generalizing crew link with
  | nil => exact housed
  | cons errand rest ih =>
    obtain ⟨first, later⟩ := List.forall_mem_cons.mp routed
    exact ih (housed.afterErrand byName link first) _ later

end Crew

end SeriesBench
