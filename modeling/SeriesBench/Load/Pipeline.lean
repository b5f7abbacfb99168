import SeriesBench.Load.Plan
import SeriesBench.Worker.Crew

/-!
# The pipeline of a load

One producer scans the input, routes the items and sends them in batches to the workers;
every worker takes its batches in the order they were sent. A worker's queue is bounded,
so the producer may have to wait.

The pipeline is a machine: each actor has at most one next step in a state, `step` gives
the state after it, and there is none when the actor has to wait or is done. A run is any
order of steps. A worker takes a batch, then for each table of the batch asks for its
writer and writes to it, each in one step, and gives the batch back; between the steps of
one worker any other actor may move. A table is written in one step because its writer is
held for that long, and calls for different tables concern different writers.

A worker that a fault stops gives its batch back, closes what it owns and then is gone, each
in one step. Until it is gone its queue is open, and the producer may go on sending to it.
-/

namespace SeriesBench

/-- What the producer is about. -/
inductive Producer where
  /-- Scanning for the next item. -/
  | reading
  /-- Waiting to send a full batch to a worker. -/
  | sending (worker : Nat) (full : Batch Item)
  /-- The input is used up, and the batches begun for the workers from this one on are
  still to be sent. -/
  | finishing (worker : Nat)
  /-- Done, with the counts of the scan or the fault that ended it. -/
  | ended (result : Except Fault Tally)

/-- A batch in work: the groups still to be written, the handle of the first one's writer
once it is asked for, and what came of the groups before. -/
structure Job where
  batch : Batch Item
  groups : List Ingest.Group
  handle : Option Nat
  sum : Outcome

/-- What a worker is about. -/
inductive Duty where
  /-- Waiting for a batch. -/
  | idle
  /-- At work on one. -/
  | busy (job : Job)
  /-- Done: there are no more batches. -/
  | ended
  /-- Stopped by a fault, with the batch it was at work on still in hand. -/
  | stopping (batch : Batch Item) (fault : Fault)
  /-- Stopped by a fault, with what it owns still to be closed. -/
  | closing (fault : Fault)
  /-- Stopped by a fault, with only its queue still open. -/
  | leaving (fault : Fault)
  /-- Gone after a fault. -/
  | failed (fault : Fault)

/-- The fault that has stopped a worker, if one has. -/
def Duty.fault? : Duty → Option Fault
  | idle | busy _ | ended => none
  | stopping _ fault | closing fault | leaving fault | failed fault => some fault

/-- Whether a worker has nothing left to do, for whatever reason. -/
def Duty.isOver : Duty → Bool
  | ended | failed _ => true
  | idle | busy _ | stopping _ _ | closing _ | leaving _ => false

/-- A worker: the batches sent to it and not yet taken, and what came of those it is done
with. -/
structure Worker where
  queue : List (Batch Item)
  duty : Duty
  total : Outcome

/-- The state of a load. -/
structure Pipeline where
  plan : LoadPlan
  scanner : Scanner
  router : Router
  pool : Pool Item
  /-- The batch begun for each worker. -/
  pending : Array (Batch Item)
  producer : Producer
  workers : Array Worker
  crew : Crew
  link : Link

/-- Who can move. -/
inductive Actor where
  | producer
  | worker (index : Nat)
deriving Repr, DecidableEq

namespace Pipeline

/-- Takes one batch out of the pool for each worker. -/
def acquireAll : Nat → Pool Item → Array (Batch Item) → Pool Item × Array (Batch Item)
  | 0, pool, batches => (pool, batches)
  | n + 1, pool, batches =>
    let (batch, pool) := pool.acquire
    acquireAll n pool (batches.push batch)

/-- The state before the first step. -/
def start (plan : LoadPlan) (router : Router) (scanner : Scanner) (link : Link) : Pipeline :=
  let (pool, pending) := acquireAll plan.workers (.make plan.batchSize plan.maxIdle) #[]
  { plan, scanner, router, pool, pending, link
    producer := .reading
    workers := Array.replicate plan.workers ⟨[], .idle, {}⟩
    crew := .make plan.routing plan.workers plan.layout }

/-- The item goes to the batch begun for its worker; a batch that is full by that is to be
sent, and a new one begun. -/
def addItem (s : Pipeline) (item : Item) : Pipeline :=
  let (worker, router) := s.router.route item
  match s.pending[worker]? with
  | none => { s with router }
  | some batch =>
    let grown := batch.push item
    if s.plan.batchSize ≤ grown.size then
      let (next, pool) := s.pool.acquire
      { s with
        router, pool
        pending := s.pending.setIfInBounds worker next
        producer := .sending worker grown }
    else { s with router, pending := s.pending.setIfInBounds worker grown }

/-- Looks for the next item. -/
def read (s : Pipeline) : Pipeline :=
  match s.scanner.nextItem s.plan.intake with
  | (.error fault, scanner) => { s with scanner, producer := .ended (.error fault) }
  | (.ok none, scanner) => { s with scanner, producer := .finishing 0 }
  | (.ok (some item), scanner) => addItem { s with scanner } item

/-- Sends a batch to a worker, after which the producer goes on as `next` says. There is no
step while the queue is full; a worker that is gone takes nothing, and the producer ends. -/
def send (s : Pipeline) (index : Nat) (batch : Batch Item) (next : Producer) : Option Pipeline :=
  match s.workers[index]? with
  | none => none
  | some worker =>
    match worker.duty with
    | .failed _ => some { s with producer := .ended (.error (.workerStopped index)) }
    | _ =>
      if worker.queue.length < s.plan.queueCapacity then
        some { s with
          producer := next
          workers := s.workers.setIfInBounds index
            { worker with queue := worker.queue ++ [batch] } }
      else none

/-- Sends the batch begun for a worker, or gives it back if nothing is in it. -/
def finish (s : Pipeline) (index : Nat) : Option Pipeline :=
  match s.pending[index]? with
  | none => some { s with producer := .ended (.ok s.scanner.tally) }
  | some batch =>
    if batch.size = 0 then
      some { s with pool := s.pool.release batch, producer := .finishing (index + 1) }
    else s.send index batch (.finishing (index + 1))

/-- The producer's next step. -/
def stepProducer (s : Pipeline) : Option Pipeline :=
  match s.producer with
  | .reading => some s.read
  | .sending worker full => s.send worker full .reading
  | .finishing worker => s.finish worker
  | .ended _ => none

/-- The state with a worker replaced. -/
def putWorker (s : Pipeline) (index : Nat) (worker : Worker) : Pipeline :=
  { s with workers := s.workers.setIfInBounds index worker }

/-- An idle worker takes the first batch of its queue, or ends when the queue is empty and
the producer is done. -/
def take (s : Pipeline) (index : Nat) (worker : Worker) : Option Pipeline :=
  match worker.queue with
  | batch :: rest =>
    let (items, emptied) := batch.drain
    let (groups, droppedItems) := Ingest.sort items ([], 0)
    some (s.putWorker index
      { worker with
        queue := rest
        duty := .busy ⟨emptied, groups, none, { droppedItems }⟩ })
  | [] =>
    match s.producer with
    | .ended _ => some (s.putWorker index { worker with duty := .ended })
    | _ => none

/-- A worker that a fault has stopped gives back its batch. -/
def giveUp (s : Pipeline) (index : Nat) (worker : Worker) (batch : Batch Item)
    (fault : Fault) : Pipeline :=
  { s.putWorker index { worker with duty := .closing fault } with
    pool := s.pool.release batch }

/-- A worker that a fault has stopped closes what it owns, whatever comes of that. -/
def closeOwn (s : Pipeline) (index : Nat) (worker : Worker) (fault : Fault) : Pipeline :=
  let (_, crew, link) := s.crew.closeWorker index s.link
  { s.putWorker index { worker with duty := .leaving fault } with crew, link }

/-- A worker that a fault has stopped drops what was sent to it and is gone. -/
def leave (s : Pipeline) (index : Nat) (worker : Worker) (fault : Fault) : Pipeline :=
  s.putWorker index { worker with queue := [], duty := .failed fault }

/-- A worker's next step at a batch. -/
def work (s : Pipeline) (index : Nat) (worker : Worker) (job : Job) : Option Pipeline :=
  match job.groups with
  | [] =>
    some { s.putWorker index
        { worker with duty := .idle, total := worker.total + job.sum } with
      pool := s.pool.release job.batch }
  | group :: rest =>
    match s.crew.registryOf index with
    | none => none
    | some registry =>
      match job.handle with
      | none =>
        let (handle, registry) := registry.obtain group.first
        some { s.putWorker index
            { worker with duty := .busy { job with handle := some handle } } with
          crew := s.crew.put index registry }
      | some handle =>
        match Ingest.writeAt s.plan.transmit registry s.link handle group.points with
        | (.ok outcome, registry, link) =>
          some { s.putWorker index
              { worker with
                duty := .busy { job with
                  groups := rest, handle := none, sum := job.sum + outcome } } with
            crew := s.crew.put index registry, link }
        | (.error fault, registry, link) =>
          some { s.putWorker index { worker with duty := .stopping job.batch fault } with
            crew := s.crew.put index registry, link }

/-- A worker's next step. -/
def stepWorker (s : Pipeline) (index : Nat) : Option Pipeline :=
  match s.workers[index]? with
  | none => none
  | some worker =>
    match worker.duty with
    | .idle => s.take index worker
    | .busy job => s.work index worker job
    | .stopping batch fault => some (s.giveUp index worker batch fault)
    | .closing fault => some (s.closeOwn index worker fault)
    | .leaving fault => some (s.leave index worker fault)
    | .ended | .failed _ => none

/-- An actor's next step, if it has one in this state. -/
def step (s : Pipeline) : Actor → Option Pipeline
  | .producer => s.stepProducer
  | .worker index => s.stepWorker index

/-- The state after the steps of some actors in turn, if each had one. -/
def run (s : Pipeline) : List Actor → Option Pipeline
  | [] => some s
  | actor :: rest => (s.step actor).bind fun s => s.run rest

/-- Whether nobody has anything left to do. -/
def isOver (s : Pipeline) : Bool :=
  (match s.producer with
    | .ended _ => true
    | _ => false) &&
  s.workers.all fun worker => worker.duty.isOver

end Pipeline

end SeriesBench
