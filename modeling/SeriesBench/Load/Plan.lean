import SeriesBench.Batch
import SeriesBench.Layout
import SeriesBench.Route

/-!
# Load plans

The settings of a load, each with its default. A plan is sound when the three sizes
that must not be zero are positive; `LoadPlan.complaint` names the first that is not.
-/

namespace SeriesBench

/-- Whether room can be made for the rows of a table: the time of each takes eight bytes, and
the times come first. -/
def Layout.hasRoom (layout : Layout) : Bool :=
  Memory.holds layout.rowCapacity 8

/-- The settings of a load. -/
structure LoadPlan where
  /-- Items that are sent to a worker at a time. -/
  batchSize : Nat := 1250
  /-- Workers, which is also the number of partitions. -/
  workers : Nat := 32
  routing : Routing := .byMeasurement
  intake : Intake := .points
  partitioning : Partitioning := .empty
  tablePartitions : Nat := 8
  /-- Whether rows are sent; otherwise they are only encoded. -/
  transmit : Bool := true
  /-- Batches a worker may have waiting before the producer pauses. -/
  queueCapacity : Nat := 4
deriving Repr, DecidableEq

namespace LoadPlan

/-- What is wrong with the sizes of a plan, if anything. -/
def complaint (plan : LoadPlan) : Option String :=
  if plan.batchSize = 0 then some "batch size must be at least 1"
  else if plan.workers = 0 then some "worker count must be at least 1"
  else if plan.queueCapacity = 0 then some "channel capacity must be at least 1"
  else none

/-- The most batches that a queue can be made for: three bits of a word of 64 are taken. -/
def queueLimit : Nat := 0x1fffffffffffffff

/-- Whether the queues of the workers can be made. -/
def hasQueues (plan : LoadPlan) : Bool :=
  0 < plan.queueCapacity && plan.queueCapacity ≤ queueLimit

/-- How many idle batches a load keeps: two for each worker. -/
def maxIdle (plan : LoadPlan) : Nat :=
  plan.workers * 2

/-- A plan nothing is wrong with. -/
def Sound (plan : LoadPlan) : Prop :=
  0 < plan.batchSize ∧ 0 < plan.workers ∧ 0 < plan.queueCapacity

/-- The layout of the tables of a load: room is made for one batch of rows. -/
def layout (plan : LoadPlan) : Layout where
  partitioning := plan.partitioning
  partitions := plan.tablePartitions
  rowCapacity := plan.batchSize

/-- There is nothing to complain about exactly if the plan is sound. -/
theorem complaint_eq_none_iff (plan : LoadPlan) : plan.complaint = none ↔ plan.Sound := by
  unfold complaint Sound
  split
  · simp_all
  · split
    · simp_all
    · split
      · simp_all
      · simp_all
        omega

end LoadPlan

end SeriesBench
