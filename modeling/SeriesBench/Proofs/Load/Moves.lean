import SeriesBench.Load.Run

/-!
# Moves of the pipeline

What one step of the pipeline can do, as a relation with one case for each thing that an
actor does. Every invariant of a load is derived from these cases; none of them opens the
step function again.

The producer sends in two situations, with the batch that is full and with one that is left
at the end, and the two differ only in what the producer does next: `Sends` is the situation.
An item always finds the batch begun for its worker, because there is one for each partition
of the router.
-/

namespace SeriesBench

namespace Pipeline

/-- The producer is about to send a batch to a worker, and goes on with `next` after that. -/
inductive Sends (s : Pipeline) : Nat → Batch Item → Producer → Prop where
  | full {index : Nat} {batch : Batch Item} (doing : s.producer = .sending index batch) :
      Sends s index batch .reading
  | left {index : Nat} {batch : Batch Item} (doing : s.producer = .finishing index)
      (begun : s.pending[index]? = some batch) (nonempty : batch.size ≠ 0) :
      Sends s index batch (.finishing (index + 1))

/-- The worker at an index is at work on a batch. -/
structure Works (s : Pipeline) (index : Nat) (worker : Worker) (job : Job) : Prop where
  member : s.workers[index]? = some worker
  busy : worker.duty = .busy job

/-- What a worker that takes a batch is about next. -/
def jobOf (batch : Batch Item) : Job :=
  ⟨batch.clear, (Ingest.sort batch.items.toList ([], 0)).1, none,
    { droppedItems := (Ingest.sort batch.items.toList ([], 0)).2 }⟩

/-- One step of an actor. -/
inductive Move (s : Pipeline) : Actor → Pipeline → Prop where
  /-- A read fails. -/
  | broke {fault : Fault} {scanner : Scanner} (doing : s.producer = .reading)
      (found : s.scanner.nextItem s.plan.intake = (.error fault, scanner)) :
      Move s .producer { s with scanner, producer := .ended (.error fault) }
  /-- The input is used up. -/
  | usedUp {scanner : Scanner} (doing : s.producer = .reading)
      (found : s.scanner.nextItem s.plan.intake = (.ok none, scanner)) :
      Move s .producer { s with scanner, producer := .finishing 0 }
  /-- An item is added to the batch begun for its worker. -/
  | collected {item : Item} {scanner : Scanner} {batch : Batch Item}
      (doing : s.producer = .reading)
      (found : s.scanner.nextItem s.plan.intake = (.ok (some item), scanner))
      (begun : s.pending[(s.router.route item).1]? = some batch) :
      Move s .producer { s with
        scanner
        router := (s.router.route item).2
        pending := s.pending.setIfInBounds (s.router.route item).1 (batch.push item) }
  /-- An item fills the batch begun for its worker, which is to be sent. -/
  | filled {item : Item} {scanner : Scanner} {batch : Batch Item}
      (doing : s.producer = .reading)
      (found : s.scanner.nextItem s.plan.intake = (.ok (some item), scanner))
      (begun : s.pending[(s.router.route item).1]? = some batch) :
      Move s .producer { s with
        scanner
        router := (s.router.route item).2
        pool := s.pool.acquire.2
        pending := s.pending.setIfInBounds (s.router.route item).1 s.pool.acquire.1
        producer := .sending (s.router.route item).1 (batch.push item) }
  /-- The worker that a batch is for is gone. -/
  | stopped {index : Nat} {batch : Batch Item} {next : Producer} {worker : Worker} {fault : Fault}
      (sends : Sends s index batch next) (member : s.workers[index]? = some worker)
      (failed : worker.duty = .failed fault) :
      Move s .producer { s with producer := .ended (.error (.workerStopped index)) }
  /-- A batch is sent. -/
  | sent {index : Nat} {batch : Batch Item} {next : Producer} {worker : Worker}
      (sends : Sends s index batch next) (member : s.workers[index]? = some worker)
      (alive : ∀ fault, worker.duty ≠ .failed fault)
      (room : worker.queue.length < s.plan.queueCapacity) :
      Move s .producer { s with
        producer := next
        workers := s.workers.setIfInBounds index { worker with queue := worker.queue ++ [batch] } }
  /-- A batch that was begun has nothing in it. -/
  | skipped {index : Nat} {batch : Batch Item} (doing : s.producer = .finishing index)
      (begun : s.pending[index]? = some batch) (empty : batch.size = 0) :
      Move s .producer { s with
        pool := s.pool.release batch, producer := .finishing (index + 1) }
  /-- All batches are sent. -/
  | finished {index : Nat} (doing : s.producer = .finishing index)
      (beyond : s.pending[index]? = none) :
      Move s .producer { s with producer := .ended (.ok s.scanner.tally) }
  /-- A worker takes a batch. -/
  | took {index : Nat} {worker : Worker} {batch : Batch Item} {rest : List (Batch Item)}
      (member : s.workers[index]? = some worker) (idle : worker.duty = .idle)
      (queued : worker.queue = batch :: rest) :
      Move s (.worker index)
        (s.putWorker index { worker with queue := rest, duty := .busy (jobOf batch) })
  /-- A worker ends, for nothing more will come. -/
  | ended {index : Nat} {worker : Worker} {result : Except Fault Tally}
      (member : s.workers[index]? = some worker) (idle : worker.duty = .idle)
      (queued : worker.queue = []) (finished : s.producer = .ended result) :
      Move s (.worker index) (s.putWorker index { worker with duty := .ended })
  /-- A worker is done with its batch. -/
  | gaveBack {index : Nat} {worker : Worker} {job : Job} (works : Works s index worker job)
      (done : job.groups = []) :
      Move s (.worker index)
        { s.putWorker index { worker with duty := .idle, total := worker.total + job.sum } with
          pool := s.pool.release job.batch }
  /-- A worker asks for the writer of its next table. -/
  | obtained {index : Nat} {worker : Worker} {job : Job} {group : Ingest.Group}
      {rest : List Ingest.Group} {registry : Registry} (works : Works s index worker job)
      (groups : job.groups = group :: rest) (unasked : job.handle = none)
      (owner : s.crew.registryOf index = some registry) :
      Move s (.worker index)
        { s.putWorker index { worker with
            duty := .busy { job with handle := some (registry.obtain group.first).1 } } with
          crew := s.crew.put index (registry.obtain group.first).2 }
  /-- A worker writes to its table. -/
  | wrote {index : Nat} {worker : Worker} {job : Job} {group : Ingest.Group}
      {rest : List Ingest.Group} {registry written : Registry} {handle : Nat} {outcome : Outcome}
      {link : Link} (works : Works s index worker job) (groups : job.groups = group :: rest)
      (asked : job.handle = some handle) (owner : s.crew.registryOf index = some registry)
      (answer : Ingest.writeAt s.plan.transmit registry s.link handle group.points =
        (.ok outcome, written, link)) :
      Move s (.worker index)
        { s.putWorker index { worker with
            duty := .busy { job with
              groups := rest, handle := none, sum := job.sum + outcome } } with
          crew := s.crew.put index written, link }
  /-- A worker fails at its table. -/
  | failed {index : Nat} {worker : Worker} {job : Job} {group : Ingest.Group}
      {rest : List Ingest.Group} {registry written : Registry} {handle : Nat} {fault : Fault}
      {link : Link} (works : Works s index worker job) (groups : job.groups = group :: rest)
      (asked : job.handle = some handle) (owner : s.crew.registryOf index = some registry)
      (answer : Ingest.writeAt s.plan.transmit registry s.link handle group.points =
        (.error fault, written, link)) :
      Move s (.worker index)
        { s.putWorker index { worker with duty := .stopping job.batch fault } with
          crew := s.crew.put index written, link }
  /-- A worker that has failed gives back its batch. -/
  | gaveUp {index : Nat} {worker : Worker} {batch : Batch Item} {fault : Fault}
      (member : s.workers[index]? = some worker) (stopping : worker.duty = .stopping batch fault) :
      Move s (.worker index)
        { s.putWorker index { worker with duty := .closing fault } with
          pool := s.pool.release batch }
  /-- A worker that has failed closes what it owns. -/
  | closed {index : Nat} {worker : Worker} {fault : Fault}
      (member : s.workers[index]? = some worker) (closing : worker.duty = .closing fault) :
      Move s (.worker index)
        { s.putWorker index { worker with duty := .leaving fault } with
          crew := (s.crew.closeWorker index s.link).2.1
          link := (s.crew.closeWorker index s.link).2.2 }
  /-- A worker that has failed drops what was sent to it and is gone. -/
  | gone {index : Nat} {worker : Worker} {fault : Fault}
      (member : s.workers[index]? = some worker) (leaving : worker.duty = .leaving fault) :
      Move s (.worker index)
        (s.putWorker index { worker with queue := [], duty := .failed fault })

/-- To look for the next item is one of four moves. An item always finds the batch begun for its
worker. -/
theorem move_of_read {s : Pipeline} (covered : s.pending.size = s.router.partitions)
    (doing : s.producer = .reading) : Move s .producer s.read := by
  unfold read
  split
  · rename_i fault scanner found
    exact .broke doing found
  · rename_i scanner found
    exact .usedUp doing found
  · rename_i item scanner found
    have inside : (s.router.route item).1 < s.pending.size := by
      rw [covered]
      exact s.router.route_lt item
    have begun : s.pending[(s.router.route item).1]? =
        some s.pending[(s.router.route item).1] := Array.getElem?_eq_getElem inside
    simp only [addItem, begun]
    split
    · exact .filled doing found begun
    · exact .collected doing found begun

/-- To send is one of two moves: a worker that is gone ends the producer, any other takes the batch,
if there is room for it. -/
theorem move_of_send {s next : Pipeline} {index : Nat} {batch : Batch Item} {doing : Producer}
    (sends : Sends s index batch doing) (moved : s.send index batch doing = some next) :
    Move s .producer next := by
  unfold send at moved
  split at moved
  · contradiction
  · rename_i worker member
    split at moved
    · rename_i fault failed
      obtain rfl := Option.some.inj moved
      exact .stopped sends member failed
    · rename_i alive
      split at moved
      · rename_i room
        obtain rfl := Option.some.inj moved
        exact .sent sends member alive room
      · contradiction

/-- What the producer does is a move. -/
theorem move_of_stepProducer {s next : Pipeline} (covered : s.pending.size = s.router.partitions)
    (moved : s.stepProducer = some next) : Move s .producer next := by
  unfold stepProducer at moved
  split at moved
  · rename_i doing
    obtain rfl := Option.some.inj moved
    exact move_of_read covered doing
  · rename_i index full doing
    exact move_of_send (.full doing) moved
  · rename_i index doing
    unfold finish at moved
    split at moved
    · rename_i beyond
      obtain rfl := Option.some.inj moved
      exact .finished doing beyond
    · rename_i batch begun
      split at moved
      · rename_i empty
        obtain rfl := Option.some.inj moved
        exact .skipped doing begun empty
      · rename_i nonempty
        exact move_of_send (.left doing begun nonempty) moved
  · contradiction

/-- An idle worker that does something takes a batch or ends. -/
theorem move_of_take {s next : Pipeline} {index : Nat} {worker : Worker}
    (member : s.workers[index]? = some worker) (idle : worker.duty = .idle)
    (moved : s.take index worker = some next) : Move s (.worker index) next := by
  unfold take at moved
  split at moved
  · rename_i batch rest queued
    obtain rfl := Option.some.inj moved
    exact .took member idle queued
  · rename_i queued
    split at moved
    · rename_i result finished
      obtain rfl := Option.some.inj moved
      exact .ended member idle queued finished
    · contradiction

/-- What a worker does at a batch is a move. -/
theorem move_of_work {s next : Pipeline} {index : Nat} {worker : Worker} {job : Job}
    (works : Works s index worker job) (moved : s.work index worker job = some next) :
    Move s (.worker index) next := by
  unfold work at moved
  split at moved
  · rename_i done
    obtain rfl := Option.some.inj moved
    exact .gaveBack works done
  · rename_i group rest groups
    split at moved
    · contradiction
    · rename_i registry owner
      split at moved
      · rename_i unasked
        obtain rfl := Option.some.inj moved
        exact .obtained works groups unasked owner
      · rename_i handle asked
        split at moved
        · rename_i outcome written link answer
          obtain rfl := Option.some.inj moved
          exact .wrote works groups asked owner answer
        · rename_i fault written link answer
          obtain rfl := Option.some.inj moved
          exact .failed works groups asked owner answer

/-- What a worker does is a move. -/
theorem move_of_stepWorker {s next : Pipeline} {index : Nat}
    (moved : s.stepWorker index = some next) : Move s (.worker index) next := by
  unfold stepWorker at moved
  split at moved
  · contradiction
  · rename_i worker member
    split at moved
    · rename_i idle
      exact move_of_take member idle moved
    · rename_i job busy
      exact move_of_work ⟨member, busy⟩ moved
    · rename_i batch fault stopping
      obtain rfl := Option.some.inj moved
      exact .gaveUp member stopping
    · rename_i fault closing
      obtain rfl := Option.some.inj moved
      exact .closed member closing
    · rename_i fault leaving
      obtain rfl := Option.some.inj moved
      exact .gone member leaving
    · contradiction
    · contradiction

/-- Every step of the pipeline is one of the moves. -/
theorem move_of_step {s next : Pipeline} {actor : Actor}
    (covered : s.pending.size = s.router.partitions) (moved : s.step actor = some next) :
    Move s actor next := by
  cases actor with
  | producer => exact move_of_stepProducer covered moved
  | worker index => exact move_of_stepWorker moved

end Pipeline

end SeriesBench
