import SeriesBench.Batch
import SeriesBench.Route
import SeriesBench.Worker.Ingest

/-!
# Crews

Who owns the table writers of a load. When tables are routed by measurement a table has
one worker, and each worker has a registry to itself; when items are dealt out in turn
any worker may meet any table, and all share one registry.
-/

namespace SeriesBench

/-- The registries of some workers: one each, and the shared one if there is one, which
then takes their place. -/
structure Crew where
  own : Array Registry
  shared : Option Registry
deriving Repr

namespace Crew

/-- The registries for a routing, all empty. -/
def make (routing : Routing) (workers : Nat) (layout : Layout) : Crew where
  own := Array.replicate workers (.empty layout)
  shared := match routing with
    | .inTurn => some (.empty layout)
    | .byMeasurement => none

/-- The registry that a worker writes to. -/
def registryOf (crew : Crew) (worker : Nat) : Option Registry :=
  match crew.shared with
  | some registry => some registry
  | none => crew.own[worker]?

/-- Puts back the registry that a worker writes to. -/
def put (crew : Crew) (worker : Nat) (registry : Registry) : Crew :=
  match crew.shared with
  | some _ => { crew with shared := some registry }
  | none => { crew with own := crew.own.setIfInBounds worker registry }

/-- Lets a worker take in a batch, which is empty afterwards. -/
def ingest (crew : Crew) (worker : Nat) (transmit : Bool) (link : Link) (batch : Batch Item) :
    Except Fault Outcome × Batch Item × Crew × Link :=
  let (items, emptied) := batch.drain
  match crew.registryOf worker with
  | none => (.ok {}, emptied, crew, link)
  | some registry =>
    let (answer, registry, link) := Ingest.run transmit registry link items
    (answer, emptied, crew.put worker registry, link)

/-- Closes what a worker owns; of a shared registry it owns nothing. -/
def closeWorker (crew : Crew) (worker : Nat) (link : Link) : Except Fault Unit × Crew × Link :=
  match crew.shared, crew.own[worker]? with
  | none, some registry =>
    let (answer, registry, link) := registry.close link
    (answer, { crew with own := crew.own.setIfInBounds worker registry }, link)
  | _, _ => (.ok (), crew, link)

/-- Closes the shared registry, if there is one. -/
def closeShared (crew : Crew) (link : Link) : Except Fault Unit × Crew × Link :=
  match crew.shared with
  | none => (.ok (), crew, link)
  | some registry =>
    let (answer, registry, link) := registry.close link
    (answer, { crew with shared := some registry }, link)

/-- The tables that a worker owns. -/
def tablesOf (crew : Crew) (worker : Nat) : List String :=
  match crew.shared with
  | some _ => []
  | none => (crew.own[worker]?.map Registry.tables).getD []

end Crew

end SeriesBench
