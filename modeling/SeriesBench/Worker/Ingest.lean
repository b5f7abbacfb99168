import SeriesBench.Item
import SeriesBench.Table.Registry

/-!
# Taking in a batch

A worker takes the items of a batch, decodes what is still to be decoded, sorts the
points by table in the order in which the tables first appear, and writes one table after
the other: all points of the table are taken, then one record is flushed and, if that is
wanted, sent.

An item that does not decode and a row that does not convert are counted and passed over,
and so is a failure of the service. Only a point of the wrong width stops the batch.
-/

namespace SeriesBench

/-- What came of some batches. -/
structure Outcome where
  /-- Rows flushed. -/
  rows : Nat := 0
  /-- Rows times columns, the time column included. -/
  metrics : Nat := 0
  /-- Items that did not decode. -/
  droppedItems : Nat := 0
  /-- Rows with a value that did not convert. -/
  droppedRows : Nat := 0
  /-- Flushes that could not be sent. -/
  transmitErrors : Nat := 0
deriving Repr, DecidableEq, Inhabited

/-- The sum of two outcomes. -/
def Outcome.add (a b : Outcome) : Outcome where
  rows := a.rows + b.rows
  metrics := a.metrics + b.metrics
  droppedItems := a.droppedItems + b.droppedItems
  droppedRows := a.droppedRows + b.droppedRows
  transmitErrors := a.transmitErrors + b.transmitErrors

instance : Add Outcome := ⟨Outcome.add⟩

namespace Ingest

/-- The points of one table in a batch: at least one, in arrival order. -/
structure Group where
  first : Point
  others : Array Point
deriving Repr, DecidableEq

/-- All points of a group, in order. -/
def Group.points (g : Group) : List Point :=
  g.first :: g.others.toList

/-- The groups with one more point, which goes to the group of its table; a new table
comes last. -/
def addPoint (p : Point) : List Group → List Group
  | [] => [⟨p, #[]⟩]
  | g :: rest =>
    if g.first.measurement = p.measurement then { g with others := g.others.push p } :: rest
    else g :: addPoint p rest

/-- The points of some items, sorted by table, and how many items did not decode. -/
def sort : List Item → List Group × Nat → List Group × Nat
  | [], sorted => sorted
  | item :: rest, (groups, dropped) =>
    match item.point? with
    | .ok (some p) => sort rest (addPoint p groups, dropped)
    | .ok none => sort rest (groups, dropped)
    | .error _ => sort rest (groups, dropped + 1)

/-- Takes points in order, and counts those with a value that does not convert. Any other
fault stops at its point. -/
def takeAll (w : TableWriter) (dropped : Nat) : List Point → Except Fault Nat × TableWriter
  | [] => (.ok dropped, w)
  | p :: rest =>
    match w.append p with
    | (.ok (), w) => takeAll w dropped rest
    | (.error fault, w) =>
      if fault.isValue then takeAll w (dropped + 1) rest else (.error fault, w)

/-- Sends a record, if that is wanted; the answer is how many transmissions failed. -/
def send (transmit : Bool) (w : TableWriter) (link : Link) (record : Record) :
    Nat × TableWriter × Link :=
  if transmit then
    match w.transmit link record with
    | (.ok _, w, link) => (0, w, link)
    | (.error _, w, link) => (1, w, link)
  else (0, w, link)

/-- Writes points to their table. -/
def writeTable (transmit : Bool) (w : TableWriter) (link : Link) (points : List Point) :
    Except Fault Outcome × TableWriter × Link :=
  match takeAll w 0 points with
  | (.error fault, w) => (.error fault, w, link)
  | (.ok droppedRows, w) =>
    match w.flush with
    | (.error fault, w) => (.error fault, w, link)
    | (.ok none, w) => (.ok { droppedRows }, w, link)
    | (.ok (some record), w) =>
      let (transmitErrors, w, link) := send transmit w link record
      (.ok
        { rows := record.rows
          metrics := record.rows * record.width
          droppedRows, transmitErrors }, w, link)

/-- Writes points to the table at a handle. -/
def writeAt (transmit : Bool) (registry : Registry) (link : Link) (handle : Nat)
    (points : List Point) : Except Fault Outcome × Registry × Link :=
  match registry.writers[handle]? with
  | none => (.ok {}, registry, link)
  | some w =>
    let (answer, w, link) := writeTable transmit w link points
    (answer, registry.put handle w, link)

/-- Writes the groups in turn, adding to what came of the batch so far. -/
def writeGroups (transmit : Bool) (registry : Registry) (link : Link) (sum : Outcome) :
    List Group → Except Fault Outcome × Registry × Link
  | [] => (.ok sum, registry, link)
  | g :: rest =>
    let (handle, registry) := registry.obtain g.first
    match writeAt transmit registry link handle g.points with
    | (.error fault, registry, link) => (.error fault, registry, link)
    | (.ok outcome, registry, link) => writeGroups transmit registry link (sum + outcome) rest

/-- Takes in a batch. -/
def run (transmit : Bool) (registry : Registry) (link : Link) (items : List Item) :
    Except Fault Outcome × Registry × Link :=
  let (groups, droppedItems) := sort items ([], 0)
  writeGroups transmit registry link { droppedItems } groups

end Ingest

end SeriesBench
