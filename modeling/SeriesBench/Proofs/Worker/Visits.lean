import SeriesBench.Proofs.Remote.Setup
import SeriesBench.Proofs.Worker.Turns

/-!
# The visits of a batch to its tables

A batch visits its tables one after the other. A visit takes points; unless it stops at one of
them it flushes what the table holds by then, and a flush may be sent. What became of each of these
is written down here from the answers of the writer and the service, without a look at the counts
that the worker keeps, nor at the journal. A visit that stopped is the last of its batch.

The count of transmission errors of a batch that succeeds is the number of its flushes that could
not be sent, whatever the tables held before.
-/

namespace SeriesBench

/-- A record that was flushed and, if it was to be sent, the answers of setting up the remote side
and of sending it. -/
structure Flush where
  record : Record
  setUp : Option (Except Fault Unit)
  sent : Option (Except Fault Nat)
deriving Repr, DecidableEq

namespace Flush

/-- What becomes of a record that a writer was flushed into. -/
def of (transmit : Bool) (w : TableWriter) (link : Link) (record : Record) : Flush where
  record
  setUp := if transmit then some (w.ensureRemote link).1 else none
  sent := if transmit then some (w.transmit link record).1 else none

/-- Whether the record was to be sent and sending it failed, at whichever call. -/
def failed (flush : Flush) : Bool :=
  flush.sent.any fun answer => !Link.isOk answer

/-- Whether the record was handed to the service: it was to be sent, and the remote side of its
table was set up. -/
def delivered (flush : Flush) : Bool :=
  flush.setUp.any Link.isOk

end Flush

/-- A visit of a batch to a table: the points that were taken, in order, and what was flushed. -/
structure Visit where
  table : String
  taken : List Point
  flush : Option Flush
deriving Repr, DecidableEq

namespace Visit

/-- Whether a flush could not be sent. -/
def failed (visit : Visit) : Bool :=
  visit.flush.any Flush.failed

/-- The record of the visit that was handed to the service. -/
def delivered (visit : Visit) : Option Record :=
  (visit.flush.filter Flush.delivered).map Flush.record

/-- A visit that flushes nothing delivers nothing. -/
theorem delivered_of_none {visit : Visit} (unflushed : visit.flush = none) :
    visit.delivered = none := by
  simp [delivered, unflushed]

/-- A visit that flushes a record delivers it, or it is lost. -/
theorem delivered_of_some {visit : Visit} {flush : Flush} (flushed : visit.flush = some flush) :
    visit.delivered = if flush.delivered then some flush.record else none := by
  rw [delivered, flushed, Option.filter_some]
  split <;> rfl

end Visit

namespace Ingest

/-- Those of some points that a writer takes before it stops. -/
def taken (w : TableWriter) : List Point → List Point
  | [] => []
  | p :: rest =>
    match w.append p with
    | (.ok (), w) => p :: taken w rest
    | (.error fault, w) => if fault.isValue then taken w rest else []

/-- What becomes of the record that writing points to a table flushes, if it flushes one. -/
def flushOf (transmit : Bool) (w : TableWriter) (link : Link) (points : List Point) :
    Option Flush :=
  match takeAll w 0 points with
  | (.error _, _) => none
  | (.ok _, w) =>
    match w.flush with
    | (.ok (some record), w) => some (.of transmit w link record)
    | (.ok none, _) | (.error _, _) => none

/-- The visit of writing points to a table. -/
def visit (transmit : Bool) (link : Link) (points : List Point) (w : TableWriter) : Visit :=
  ⟨w.table, taken w points, flushOf transmit w link points⟩

/-- The visits of writing some groups. -/
def visits (transmit : Bool) (registry : Registry) (link : Link) : List Group → List Visit
  | [] => []
  | g :: rest =>
    let (handle, registry) := registry.obtain g.first
    let here := (registry.writers[handle]?.map (visit transmit link g.points)).toList
    match writeAt transmit registry link handle g.points with
    | (.error _, _, _) => here
    | (.ok _, registry, link) => here ++ visits transmit registry link rest

end Ingest

/-- What came of a turn: the answer, the visits of its batch, and the crew afterwards. -/
structure Served where
  answer : Except Fault Outcome
  visits : List Visit
  crew : Crew

namespace Crew

/-- The visits of a turn. -/
def visits (crew : Crew) (link : Link) (turn : Turn) : List Visit :=
  match crew.registryOf turn.worker with
  | none => []
  | some registry => Ingest.visits turn.transmit registry link (Ingest.sort turn.items ([], 0)).1

/-- What came of some turns, one after the other. -/
def served (crew : Crew) (link : Link) : List Turn → List Served
  | [] => []
  | turn :: rest =>
    let (answer, _, next, link') := crew.serve link turn
    ⟨answer, crew.visits link turn, next⟩ :: next.served link' rest

end Crew

namespace Ingest

variable {transmit : Bool} {link link' : Link}

/-- A record counts as a transmission error exactly when sending it fails. -/
theorem send_count (transmit : Bool) (w : TableWriter) (link : Link) (record : Record) :
    (send transmit w link record).1 = if (Flush.of transmit w link record).failed then 1 else 0 := by
  cases transmit with
  | false => rfl
  | true =>
    rcases sent : w.transmit link record with ⟨fault | affected, other, after⟩ <;>
      simp [send, Flush.of, Flush.failed, sent, Link.isOk]

/-- Writing a table counts a transmission error exactly when its visit has one. -/
theorem transmitErrors_writeTable {w other : TableWriter} {points : List Point} {outcome : Outcome}
    (wrote : writeTable transmit w link points = (.ok outcome, other, link')) :
    outcome.transmitErrors = if (visit transmit link points w).failed then 1 else 0 := by
  rcases taken : takeAll w 0 points with ⟨fault | dropped, ready⟩
  · simp [writeTable, taken] at wrote
  · rcases flushed : ready.flush with ⟨fault | none | record, last⟩
    · simp [writeTable, taken, flushed] at wrote
    · simp only [writeTable, taken, flushed, Prod.mk.injEq, Except.ok.injEq] at wrote
      obtain ⟨rfl, _⟩ := wrote
      simp [Visit.failed, visit, flushOf, taken, flushed]
    · simp only [writeTable, taken, flushed, Prod.mk.injEq, Except.ok.injEq] at wrote
      obtain ⟨rfl, _⟩ := wrote
      simpa [Visit.failed, visit, flushOf, taken, flushed] using send_count transmit last link record

/-- Writing at a handle that has no writer counts nothing. -/
theorem transmitErrors_writeAt {r after : Registry} {handle : Nat} {points : List Point}
    {outcome : Outcome} (wrote : writeAt transmit r link handle points = (.ok outcome, after, link')) :
    outcome.transmitErrors =
      (r.writers[handle]?.map (visit transmit link points)).toList.countP Visit.failed := by
  cases found : r.writers[handle]? with
  | none =>
    simp only [writeAt, found, Prod.mk.injEq, Except.ok.injEq] at wrote
    obtain ⟨rfl, _⟩ := wrote
    rfl
  | some w =>
    rw [writeAt_eq link points found] at wrote
    obtain ⟨answer, _⟩ := Prod.mk.inj wrote
    rw [transmitErrors_writeTable (Prod.ext answer rfl)]
    simp [List.countP_cons]

/-- Writing some groups counts the visits with a transmission error. -/
theorem transmitErrors_writeGroups {groups : List Group} {r after : Registry} {sum outcome : Outcome}
    (wrote : writeGroups transmit r link sum groups = (.ok outcome, after, link')) :
    outcome.transmitErrors =
      sum.transmitErrors + (visits transmit r link groups).countP Visit.failed := by
  induction groups generalizing r link sum with
  | nil =>
    simp only [writeGroups, Prod.mk.injEq, Except.ok.injEq] at wrote
    obtain ⟨rfl, _⟩ := wrote
    simp [visits]
  | cons group rest ih =>
    rcases asked : r.obtain group.first with ⟨handle, obtained⟩
    rcases first : writeAt transmit obtained link handle group.points with
      ⟨fault | here, written, between⟩
    · simp [writeGroups, asked, first] at wrote
    · have later : writeGroups transmit written between (sum + here) rest =
          (.ok outcome, after, link') := by
        simpa [writeGroups, asked, first] using wrote
      have added : (sum + here).transmitErrors = sum.transmitErrors + here.transmitErrors := rfl
      have counted := ih later
      have count := transmitErrors_writeAt first
      simp only [visits, asked, first, List.countP_append]
      omega

end Ingest

namespace Crew

/-- A turn that succeeds counts those of its flushes that could not be sent. -/
theorem transmitErrors_serve {crew : Crew} {link : Link} {turn : Turn} {outcome : Outcome}
    (answer : (crew.serve link turn).1 = .ok outcome) :
    outcome.transmitErrors = (crew.visits link turn).countP Visit.failed := by
  cases owner : crew.registryOf turn.worker with
  | none =>
    rw [serve_of_none owner] at answer
    obtain rfl := Except.ok.inj answer
    simp [visits, owner]
  | some r =>
    rw [serve_eq owner] at answer
    have count := Ingest.transmitErrors_writeGroups (Prod.ext answer rfl)
    simpa [visits, owner] using count

/-- So does every turn of a history. -/
theorem transmitErrors_served {crew : Crew} {link : Link} {turns : List Turn} {served : Served}
    (member : served ∈ crew.served link turns) {outcome : Outcome}
    (answer : served.answer = .ok outcome) :
    outcome.transmitErrors = served.visits.countP Visit.failed := by
  induction turns generalizing crew link with
  | nil => simp [Crew.served] at member
  | cons turn rest ih =>
    rcases List.mem_cons.mp member with rfl | later
    · exact transmitErrors_serve answer
    · exact ih later

end Crew

end SeriesBench
