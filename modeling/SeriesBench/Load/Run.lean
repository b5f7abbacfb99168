import SeriesBench.Load.Pipeline
import SeriesBench.Load.Summary

/-!
# Running a load

When all actors of the pipeline are done, the writers that are left are closed, and the
load has a result. Of several faults the first in this order is reported: that of the
failed worker with the smallest number, that of the scan, that of the first writer that
could not be closed. A producer that found a worker stopped has nothing to report of its
own, for then that worker has.

`Load.run` runs a load to its end along one particular order of steps: the producer moves
whenever it need not wait, and workers with smaller numbers move before those with larger
ones.
-/

namespace SeriesBench

namespace Load

/-- The fault of the first worker that failed. -/
def workerFault (s : Pipeline) : Option Fault :=
  s.workers.toList.findSome? fun worker => worker.duty.fault?

/-- What came of all batches that the workers are done with. -/
def total (s : Pipeline) : Outcome :=
  s.workers.toList.foldl (fun sum worker => sum + worker.total) {}

/-- The first of two faults in turn. -/
def firstFault : Except Fault Unit → Except Fault Unit → Except Fault Unit
  | .ok (), later => later
  | .error fault, _ => .error fault

/-- Closes what some workers own, each in turn. -/
def closeWorkers (crew : Crew) (link : Link) : List Nat → Except Fault Unit × Crew × Link
  | [] => (.ok (), crew, link)
  | worker :: rest =>
    let (first, crew, link) := crew.closeWorker worker link
    let (later, crew, link) := closeWorkers crew link rest
    (firstFault first later, crew, link)

/-- The workers that have not failed. -/
def survivors (s : Pipeline) : List Nat :=
  (List.range s.workers.size).filter fun index =>
    match s.workers[index]? with
    | some worker => worker.duty.fault?.isNone
    | none => true

/-- Closes all that is left: what the survivors own, then what is shared. -/
def closeAll (s : Pipeline) : Except Fault Unit × Crew × Link :=
  let (first, crew, link) := closeWorkers s.crew s.link (survivors s)
  let (later, crew, link) := crew.closeShared link
  (firstFault first later, crew, link)

/-- What the producer ended with. -/
def scanned (s : Pipeline) : Except Fault Tally :=
  match s.producer with
  | .ended result => result
  | _ => .ok s.scanner.tally

/-- The result of a load whose actors are all done: its summary, without the time it took,
or the fault to be reported; and the link after everything is closed. -/
def result (s : Pipeline) : Except Fault Summary × Link :=
  let (closed, _, link) := closeAll s
  match workerFault s, scanned s, closed with
  | some fault, _, _ => (.error fault, link)
  | none, .error fault, _ => (.error fault, link)
  | none, .ok _, .error fault => (.error fault, link)
  | none, .ok tally, .ok () => (.ok ⟨total s, tally, s.plan.workers, ⟨0, 0⟩⟩, link)

/-- The first step that a worker can take, of those from an index on. -/
def stepSomeWorker (s : Pipeline) (index : Nat) : Nat → Option Pipeline
  | 0 => none
  | n + 1 =>
    match s.stepWorker index with
    | some next => some next
    | none => stepSomeWorker s (index + 1) n

/-- A step of the producer, or else of the first worker that has one. -/
def advance (s : Pipeline) : Option Pipeline :=
  match s.stepProducer with
  | some next => some next
  | none => stepSomeWorker s 0 s.workers.size

/-- Steps on until nobody can move, for at most so many steps. -/
def drive : Nat → Pipeline → Pipeline
  | 0, s => s
  | fuel + 1, s =>
    match advance s with
    | some next => drive fuel next
    | none => s

/-- More steps than a load can take: each item is read, written to a table in two steps, and
shares with its batch the steps to send, take and give it back; the rest are the steps by
which the actors end, for a worker one or, after a fault, two. -/
def stepBound (s : Pipeline) : Nat :=
  8 * s.scanner.upcoming.length + 4 * s.workers.size + 8

/-- Runs a load from its first step to its result. There is none when the pool or the queues
cannot be made. The producer makes the first batches, and a load whose batches cannot be made
ends with the fault of a task, before anything is sent. -/
def run (plan : LoadPlan) (scanner : Scanner) (link : Link) :
    Option (Except Fault Summary × Link) :=
  if !Pool.canBeMade plan.maxIdle then none
  else match Router.make plan.routing plan.workers with
  | .error fault => some (.error fault, link)
  | .ok router =>
    if !plan.hasQueues then none
    else if !Batch.canBeMade plan.intake.itemBytes plan.batchSize then
      some (.error .task, link)
    else
      let s := Pipeline.start plan router scanner link
      some (result (drive (stepBound s) s))

end Load

end SeriesBench
