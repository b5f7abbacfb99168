import SeriesBench.Item

/-!
# Routing

Items are spread over a fixed number of partitions, one for each worker: in turn,
whatever they are, or by a hash of their table's name, so that a table always has the
same worker.
-/

namespace SeriesBench

/-- How items are spread over partitions. -/
inductive Routing where
  /-- In turn. -/
  | inTurn
  /-- By the hash of the measurement. -/
  | byMeasurement
deriving Repr, DecidableEq, Inhabited

namespace Routing

/-- The name of a routing. -/
def name : Routing → String
  | inTurn => "round-robin"
  | byMeasurement => "hash"

/-- The routing of a name; routing by measurement has two. -/
def read (text : String) : Except Fault Routing :=
  if text = "round-robin" then .ok inTurn
  else if text = "hash" ∨ text = "measurement-hash" then .ok byMeasurement
  else .error (.config
    ("unknown routing policy " ++ Text.quoted text ++ ", expected round-robin or hash"))

end Routing

/-- The hash FNV-1a of 32 bits: each byte is xored in, then the sum is multiplied by the
prime of the hash. -/
def fnv1a (bytes : List UInt8) : UInt32 :=
  bytes.foldl (fun hash byte => (hash ^^^ byte.toUInt32) * 0x01000193) 0x811c9dc5

/-- A routing at work. The cursor names the partition whose turn is next; it is one of
the partitions, so there is at least one. -/
structure Router where
  routing : Routing
  partitions : Nat
  cursor : Nat
  cursor_lt : cursor < partitions
deriving Repr

namespace Router

/-- A router at its first turn; there must be a partition. -/
def make (routing : Routing) (partitions : Nat) : Except Fault Router :=
  if positive : 0 < partitions then .ok ⟨routing, partitions, 0, positive⟩
  else .error (.config "partition count must be at least 1")

/-- The partition that the hash of a table's name gives. -/
def partitionOf (partitions : Nat) (measurement : String) : Nat :=
  (fnv1a measurement.toUTF8.data.toList).toNat % partitions

/-- The partition of an item, and the router afterwards. -/
def route (router : Router) (item : Item) : Nat × Router :=
  match router.routing with
  | .inTurn =>
    (router.cursor,
      { router with
        cursor := (router.cursor + 1) % router.partitions
        cursor_lt := Nat.mod_lt _ (Nat.zero_lt_of_lt router.cursor_lt) })
  | .byMeasurement => (partitionOf router.partitions item.measurement, router)

/-- An item is never routed beyond the partitions. -/
theorem route_lt (router : Router) (item : Item) :
    (router.route item).1 < router.partitions := by
  unfold route
  split
  · exact router.cursor_lt
  · exact Nat.mod_lt _ (Nat.zero_lt_of_lt router.cursor_lt)

/-- Routing an item leaves the number of partitions. -/
@[simp] theorem partitions_route (router : Router) (item : Item) :
    (router.route item).2.partitions = router.partitions := by
  unfold route
  split <;> rfl

/-- Routing an item leaves the way of routing. -/
@[simp] theorem routing_route (router : Router) (item : Item) :
    (router.route item).2.routing = router.routing := by
  unfold route
  split <;> rfl

end Router

end SeriesBench
