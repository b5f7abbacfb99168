import SeriesBench.Proofs.Load.Shape
import SeriesBench.Proofs.Worker.Sorting

/-!
# Items in flight

An item that was scanned is, until its table is written, in one of four places, which belong
to the worker it was routed to: in the batch begun for the worker, in the batch about to be
sent to it, in its queue, or among the groups that it has still to write. Listed from the
groups to the begun batch, the points of a worker are in the order in which they were scanned,
as far as one table is concerned.

`Flow` says what each move does to these lists: an item arrives at the end of one of them, a
batch is sorted, a group leaves from the front, or nothing changes. Only where an actor fails
something is lost.
-/

namespace SeriesBench

/-- A list at one place, and nothing at the others. -/
def onlyAt (place : Nat) (xs : List α) (index : Nat) : List α :=
  if index = place then xs else []

/-- At its own place a list is whole. -/
@[simp] theorem onlyAt_self (place : Nat) (xs : List α) : onlyAt place xs place = xs :=
  if_pos rfl

/-- At another place there is nothing. -/
theorem onlyAt_other {place index : Nat} (other : index ≠ place) (xs : List α) :
    onlyAt place xs index = [] :=
  if_neg other

/-- Nothing is nothing at every place. -/
@[simp] theorem onlyAt_nil (place index : Nat) : onlyAt place ([] : List α) index = [] := by
  simp [onlyAt]

/-- The items in the batch at an index. -/
def itemsIn (batches : Array (Batch Item)) (index : Nat) : List Item :=
  match batches[index]? with
  | some batch => batch.items.toList
  | none => []

/-- The items that the producer has still to send to a worker, given the begun batches: those
of the full batch, if it is for this worker, and those of the batch begun for it, if that is not
sent yet. -/
def Producer.unsent (pending : Array (Batch Item)) (index : Nat) : Producer → List Item
  | .reading => itemsIn pending index
  | .sending target full => onlyAt target full.items.toList index ++ itemsIn pending index
  | .finishing first => if first ≤ index then itemsIn pending index else []
  | .ended _ => []

/-- The groups that a worker at this duty has still to write. -/
def Duty.groups : Duty → List Ingest.Group
  | .busy job => job.groups
  | .idle | .ended | .stopping _ _ | .closing _ | .leaving _ | .failed _ => []

/-- The points that a worker at this duty writes in its next step. -/
def Duty.writes : Duty → List Point
  | .busy ⟨_, group :: _, some _, _⟩ => group.points
  | _ => []

/-- The items that a worker takes in its next step. -/
def Worker.takes : Worker → List Item
  | ⟨batch :: _, .idle, _⟩ => batch.items.toList
  | _ => []

namespace Pipeline

/-- The items in the queue of a worker. -/
def queued (s : Pipeline) (index : Nat) : List Item :=
  match s.workers[index]? with
  | some worker => worker.queue.flatMap fun batch => batch.items.toList
  | none => []

/-- All items of a worker that it has not taken. -/
def itemsAt (s : Pipeline) (index : Nat) : List Item :=
  s.queued index ++ s.producer.unsent s.pending index

/-- The groups that a worker has still to write. -/
def groupsAt (s : Pipeline) (index : Nat) : List Ingest.Group :=
  match s.workers[index]? with
  | some worker => worker.duty.groups
  | none => []

/-- All points of a worker that it has not written. -/
def pointsAt (s : Pipeline) (index : Nat) : List Point :=
  Ingest.pointsIn (s.groupsAt index) ++ (s.itemsAt index).filterMap Item.decoded

/-- The items that are still to be scanned. -/
def ahead (s : Pipeline) : List Item :=
  match s.producer with
  | .reading | .sending _ _ => Scanner.itemsOf s.plan.intake (Scanner.linesAhead s.scanner.upcoming)
  | .finishing _ | .ended _ => []

/-- The points that an actor writes in its next step. -/
def written (s : Pipeline) : Actor → List Point
  | .producer => []
  | .worker index =>
    match s.workers[index]? with
    | some worker => worker.duty.writes
    | none => []

/-- The items that an actor takes in its next step. -/
def taken (s : Pipeline) : Actor → List Item
  | .producer => []
  | .worker index =>
    match s.workers[index]? with
    | some worker => worker.takes
    | none => []

/-- Nobody has failed. -/
structure Lossless (s : Pipeline) : Prop where
  workers : ∀ (i : Nat) (worker : Worker), s.workers[i]? = some worker →
    worker.duty.fault? = none
  producer : ∀ fault, s.producer ≠ .ended (.error fault)

/-- The effect of one move on what is in flight. -/
inductive Flow (s next : Pipeline) (actor : Actor) : Prop where
  /-- An item is scanned and comes last at its worker. -/
  | arrived (item : Item) (ahead : s.ahead = item :: next.ahead)
      (items : ∀ i, next.itemsAt i = s.itemsAt i ++ onlyAt (s.router.route item).1 [item] i)
      (groups : ∀ i, next.groupsAt i = s.groupsAt i)
      (takes : s.taken actor = []) (writes : s.written actor = [])
  /-- A worker takes the first of its items and sorts them. -/
  | sorted (place : Nat) (ahead : next.ahead = s.ahead)
      (items : ∀ i, s.itemsAt i = onlyAt place (s.taken actor) i ++ next.itemsAt i)
      (free : s.groupsAt place = [])
      (groups : ∀ i, next.groupsAt i =
        if i = place then (Ingest.sort (s.taken actor) ([], 0)).1 else s.groupsAt i)
      (inside : place < s.workers.size) (writes : s.written actor = [])
  /-- A worker writes the first of its groups. -/
  | left (place : Nat) (group : Ingest.Group) (ahead : next.ahead = s.ahead)
      (items : ∀ i, next.itemsAt i = s.itemsAt i)
      (groups : ∀ i, s.groupsAt i = onlyAt place [group] i ++ next.groupsAt i)
      (inside : place < s.workers.size) (takes : s.taken actor = [])
      (writes : s.written actor = group.points)
  /-- Everything stays at its worker. -/
  | still (ahead : next.ahead = s.ahead) (items : ∀ i, next.itemsAt i = s.itemsAt i)
      (groups : ∀ i, next.groupsAt i = s.groupsAt i) (takes : s.taken actor = [])
      (writes : s.written actor = [])
  /-- An actor fails, and some items are lost. -/
  | lost (ahead : next.ahead ⊆ s.ahead) (items : ∀ i, next.itemsAt i ⊆ s.itemsAt i)
      (groups : ∀ i, next.groupsAt i ⊆ s.groupsAt i) (failed : ¬ next.Lossless)

section Parts

variable {s next : Pipeline} {index : Nat} {worker : Worker}

/-- What is queued at an index is what the worker there has in its queue. -/
theorem queued_of_member (member : s.workers[index]? = some worker) :
    s.queued index = worker.queue.flatMap fun batch => batch.items.toList := by
  simp [queued, member]

/-- The groups at an index are those of the worker there. -/
theorem groupsAt_of_member (member : s.workers[index]? = some worker) :
    s.groupsAt index = worker.duty.groups := by
  simp [groupsAt, member]

/-- What a worker writes is told by its duty. -/
theorem written_of_member (member : s.workers[index]? = some worker) :
    s.written (.worker index) = worker.duty.writes := by
  simp [written, member]

/-- What a worker takes is told by the worker. -/
theorem taken_of_member (member : s.workers[index]? = some worker) :
    s.taken (.worker index) = worker.takes := by
  simp [taken, member]

/-- A worker that is at work takes nothing. -/
theorem takes_of_busy {job : Job} (busy : worker.duty = .busy job) : worker.takes = [] := by
  cases worker
  simp only at busy
  simp [Worker.takes, busy]

/-- The queues after a worker was replaced. -/
theorem queued_put {old : Worker} (member : s.workers[index]? = some old)
    (put : next.workers = s.workers.setIfInBounds index worker) (i : Nat) :
    next.queued i =
      if i = index then worker.queue.flatMap fun batch => batch.items.toList else s.queued i := by
  rw [queued, put, getElem?_put member]
  by_cases here : i = index
  · rw [if_pos here, if_pos here]
  · rw [if_neg here, if_neg here, queued]

/-- The groups after a worker was replaced. -/
theorem groupsAt_put {old : Worker} (member : s.workers[index]? = some old)
    (put : next.workers = s.workers.setIfInBounds index worker) (i : Nat) :
    next.groupsAt i = if i = index then worker.duty.groups else s.groupsAt i := by
  rw [groupsAt, put, getElem?_put member]
  by_cases here : i = index
  · rw [if_pos here, if_pos here]
  · rw [if_neg here, if_neg here, groupsAt]

/-- A state differs from another one in a worker, and perhaps in the crew, the pool and the
link: so it is after every step of a worker. -/
structure Replaces (s next : Pipeline) (index : Nat) (old worker : Worker) : Prop where
  member : s.workers[index]? = some old
  workers : next.workers = s.workers.setIfInBounds index worker
  plan : next.plan = s.plan
  scanner : next.scanner = s.scanner
  producer : next.producer = s.producer
  pending : next.pending = s.pending

variable {old : Worker}

/-- Putting a worker in its place replaces the one that was there. -/
theorem Replaces.put {crew : Crew} {pool : Pool Item} {link : Link}
    (member : s.workers[index]? = some old) :
    Replaces s { s.putWorker index worker with crew, pool, link } index old worker :=
  ⟨member, rfl, rfl, rfl, rfl, rfl⟩

/-- A worker can only be replaced where there is one. -/
theorem Replaces.inside (replaces : Replaces s next index old worker) :
    index < s.workers.size :=
  (Array.getElem?_eq_some_iff.mp replaces.member).1

/-- A step of a worker leaves what is still to be scanned. -/
theorem Replaces.ahead (replaces : Replaces s next index old worker) : next.ahead = s.ahead := by
  simp only [Pipeline.ahead, replaces.producer, replaces.plan, replaces.scanner]

/-- A step of a worker leaves what the producer has to send. -/
theorem Replaces.itemsAt (replaces : Replaces s next index old worker) (i : Nat) :
    next.itemsAt i =
      (if i = index then worker.queue.flatMap fun batch => batch.items.toList else s.queued i) ++
        s.producer.unsent s.pending i := by
  rw [Pipeline.itemsAt, queued_put replaces.member replaces.workers, replaces.producer,
    replaces.pending]

/-- A step that keeps the queue keeps the items that are not taken. -/
theorem Replaces.itemsAt_same (replaces : Replaces s next index old worker)
    (same : worker.queue = old.queue) (i : Nat) : next.itemsAt i = s.itemsAt i := by
  rw [replaces.itemsAt, Pipeline.itemsAt]
  split
  · rename_i here
    rw [here, queued_of_member replaces.member, same]
  · rfl

end Parts

section Unsent

variable {pending : Array (Batch Item)} {index : Nat} {batch : Batch Item}

/-- The items begun for an index are those of the batch there. -/
theorem itemsIn_of_begun (begun : pending[index]? = some batch) :
    itemsIn pending index = batch.items.toList := by
  simp [itemsIn, begun]

/-- A batch that is replaced holds the other items at its index, and all others hold theirs. -/
theorem itemsIn_put (begun : pending[index]? = some batch) (other : Batch Item) (i : Nat) :
    itemsIn (pending.setIfInBounds index other) i =
      if i = index then other.items.toList else itemsIn pending i := by
  rw [itemsIn, getElem?_put begun]
  by_cases here : i = index
  · rw [if_pos here, if_pos here]
  · rw [if_neg here, if_neg here, itemsIn]

/-- An item that is added to a begun batch is the last one to be sent to its worker. -/
theorem unsent_collected (begun : pending[index]? = some batch) (item : Item) (i : Nat) :
    Producer.unsent (pending.setIfInBounds index (batch.push item)) i .reading =
      Producer.unsent pending i .reading ++ onlyAt index [item] i := by
  simp only [Producer.unsent, itemsIn_put begun]
  split
  · rename_i here
    simp [here, itemsIn_of_begun begun, Batch.push]
  · rename_i other
    simp [onlyAt_other other]

/-- So is an item that fills a batch, whose place an empty one takes. -/
theorem unsent_filled (begun : pending[index]? = some batch) (item : Item)
    {empty : Batch Item} (none : empty.size = 0) (i : Nat) :
    Producer.unsent (pending.setIfInBounds index empty) i (.sending index (batch.push item)) =
      Producer.unsent pending i .reading ++ onlyAt index [item] i := by
  have noItems : empty.items = #[] := Array.size_eq_zero_iff.mp none
  simp only [Producer.unsent, itemsIn_put begun]
  split
  · rename_i here
    simp [here, itemsIn_of_begun begun, Batch.push, noItems]
  · rename_i other
    simp [onlyAt_other other]

/-- A batch that is sent comes before all that is to be sent to its worker after it. -/
theorem Sends.unsent {s : Pipeline} {next : Producer} (sends : Sends s index batch next) (i : Nat) :
    s.producer.unsent s.pending i =
      onlyAt index batch.items.toList i ++ next.unsent s.pending i := by
  cases sends with
  | full doing => simp only [doing, Producer.unsent]
  | left doing begun =>
    by_cases here : i = index
    · subst here
      simp only [doing, Producer.unsent, onlyAt_self, itemsIn_of_begun begun, Nat.le_refl, if_true,
        if_neg (Nat.not_succ_le_self i), List.append_nil]
    · have beyond : index + 1 ≤ i ↔ index ≤ i := by omega
      simp [doing, Producer.unsent, onlyAt_other here, beyond]

/-- Passing over an empty batch leaves all that is to be sent. -/
theorem unsent_skipped (begun : pending[index]? = some batch) (empty : batch.size = 0) (i : Nat) :
    Producer.unsent pending i (.finishing (index + 1)) =
      Producer.unsent pending i (.finishing index) := by
  have none : batch.items = #[] := Array.size_eq_zero_iff.mp empty
  by_cases here : i = index
  · subst here
    simp [Producer.unsent, itemsIn_of_begun begun, none]
  · have beyond : index + 1 ≤ i ↔ index ≤ i := by omega
    simp [Producer.unsent, beyond]

/-- Beyond the begun batches nothing is to be sent. -/
theorem unsent_beyond (beyond : pending[index]? = none) (i : Nat) :
    Producer.unsent pending i (.finishing index) = [] := by
  simp only [Producer.unsent, ite_eq_right_iff]
  intro later
  have outside : pending[i]? = none := by
    rw [Array.getElem?_eq_none_iff] at beyond ⊢
    omega
  simp [itemsIn, outside]

end Unsent

section Moves

variable {s : Pipeline}

/-- An item that is found comes last at its worker. -/
theorem flow_found {next : Pipeline} {item : Item} {scanner : Scanner}
    (doing : s.producer = .reading)
    (found : s.scanner.nextItem s.plan.intake = (.ok (some item), scanner))
    (ahead : next.ahead = Scanner.itemsOf s.plan.intake (Scanner.linesAhead scanner.upcoming))
    (workers : next.workers = s.workers)
    (unsent : ∀ i, next.producer.unsent next.pending i =
      s.producer.unsent s.pending i ++ onlyAt (s.router.route item).1 [item] i) :
    Flow s next .producer := by
  have scan := Scanner.nextItem_found s.scanner s.plan.intake
  rw [found] at scan
  cases scan with
  | item items =>
    refine .arrived item ?_ ?_ ?_ rfl rfl
    · rw [ahead]
      simpa [Pipeline.ahead, doing] using items
    · intro i
      simp only [itemsAt, queued, workers, unsent, List.append_assoc]
    · simp [groupsAt, workers]

/-- A batch that is sent goes from the producer's side to the queue, in its place behind the
batches sent before. -/
theorem flow_sent {index : Nat} {batch : Batch Item} {next : Producer} {worker : Worker}
    (sends : Sends s index batch next) (member : s.workers[index]? = some worker) :
    Flow s { s with
      producer := next
      workers := s.workers.setIfInBounds index
        { worker with queue := worker.queue ++ [batch] } } .producer := by
  refine .still ?_ ?_ ?_ rfl rfl
  · cases sends with
    | full doing => simp [ahead, doing]
    | left doing => simp [ahead, doing]
  · intro i
    rw [itemsAt, queued_put member rfl, itemsAt, sends.unsent]
    by_cases here : i = index
    · subst here
      simp [queued_of_member member]
    · simp [here, onlyAt_other here]
  · intro i
    rw [groupsAt_put member rfl]
    split
    · rename_i here
      rw [here, groupsAt_of_member member]
    · rfl

/-- What the producer does without finding or sending an item. -/
theorem flow_idle {next : Pipeline} (ahead : next.ahead = s.ahead)
    (workers : next.workers = s.workers)
    (unsent : ∀ i, next.producer.unsent next.pending i = s.producer.unsent s.pending i) :
    Flow s next .producer := by
  refine .still ahead ?_ ?_ rfl rfl
  · simp [itemsAt, queued, workers, unsent]
  · simp [groupsAt, workers]

/-- When the producer ends with a fault, what it has not sent is lost. -/
theorem flow_broken {next : Pipeline} {fault : Fault}
    (finished : next.producer = .ended (.error fault)) (workers : next.workers = s.workers) :
    Flow s next .producer := by
  refine .lost (by simp [ahead, finished]) ?_ ?_ (fun lossless => lossless.producer fault finished)
  · intro i
    simp [itemsAt, queued, workers, finished, Producer.unsent]
  · simp [groupsAt, workers]

/-- A worker that takes a batch sorts what comes first of its items. -/
theorem flow_took {next : Pipeline} {index : Nat} {worker : Worker} {batch : Batch Item}
    {rest : List (Batch Item)} (idle : worker.duty = .idle) (queued : worker.queue = batch :: rest)
    (replaces : Replaces s next index worker
      { worker with queue := rest, duty := .busy (jobOf batch) }) :
    Flow s next (.worker index) := by
  have takes : s.taken (.worker index) = batch.items.toList := by
    rw [taken_of_member replaces.member]
    cases worker
    simp only at idle queued
    simp [Worker.takes, idle, queued]
  refine .sorted index replaces.ahead ?_ ?_ ?_ replaces.inside ?_
  · intro i
    rw [takes]
    rw [replaces.itemsAt, itemsAt]
    by_cases here : i = index
    · subst here
      simp [onlyAt, queued_of_member replaces.member, queued]
    · simp [onlyAt, here]
  · simp [groupsAt_of_member replaces.member, idle, Duty.groups]
  · rw [takes]
    exact groupsAt_put replaces.member replaces.workers
  · simp [written_of_member replaces.member, idle, Duty.writes]

/-- A worker that neither takes nor writes leaves everything where it is. -/
theorem flow_still {next : Pipeline} {index : Nat} {worker new : Worker}
    (replaces : Replaces s next index worker new) (same : new.queue = worker.queue)
    (groups : new.duty.groups = worker.duty.groups) (takes : worker.takes = [])
    (writes : worker.duty.writes = []) : Flow s next (.worker index) := by
  refine .still replaces.ahead (replaces.itemsAt_same same) ?_ ?_ ?_
  · intro i
    rw [groupsAt_put replaces.member replaces.workers]
    split
    · rename_i here
      rw [here, groupsAt_of_member replaces.member, groups]
    · rfl
  · rw [taken_of_member replaces.member, takes]
  · rw [written_of_member replaces.member, writes]

/-- A worker that writes is done with its first group. -/
theorem flow_wrote {next : Pipeline} {index : Nat} {worker : Worker} {job : Job}
    {group : Ingest.Group} {rest : List Ingest.Group} {handle : Nat} {sum : Outcome}
    (busy : worker.duty = .busy job) (groups : job.groups = group :: rest)
    (asked : job.handle = some handle)
    (replaces : Replaces s next index worker
      { worker with duty := .busy { job with groups := rest, handle := none, sum } }) :
    Flow s next (.worker index) := by
  refine .left index group replaces.ahead (replaces.itemsAt_same rfl) ?_ replaces.inside ?_ ?_
  · intro i
    rw [groupsAt_put replaces.member replaces.workers]
    by_cases here : i = index
    · subst here
      simp [groupsAt_of_member replaces.member, busy, Duty.groups, groups, onlyAt]
    · simp [here, onlyAt]
  · rw [taken_of_member replaces.member, takes_of_busy busy]
  · cases job
    simp only at groups asked
    simp [written_of_member replaces.member, busy, Duty.writes, groups, asked]

/-- Once a fault has stopped a worker, somebody has failed. -/
theorem not_lossless {next : Pipeline} {index : Nat} {worker new : Worker} {fault : Fault}
    (replaces : Replaces s next index worker new) (stopped : new.duty.fault? = some fault) :
    ¬ next.Lossless := by
  intro lossless
  have member : next.workers[index]? = some new := by
    rw [replaces.workers]
    exact member_put replaces.member new
  simp [lossless.workers index new member] at stopped

/-- A worker that a fault has stopped loses items of its own only: its groups when it fails, and
its queue when it is gone. -/
theorem flow_failed {next : Pipeline} {index : Nat} {worker new : Worker} {fault : Fault}
    (replaces : Replaces s next index worker new) (stopped : new.duty.fault? = some fault)
    (none : new.duty.groups = []) (queue : new.queue ⊆ worker.queue) :
    Flow s next (.worker index) := by
  refine .lost (by simp [replaces.ahead]) ?_ ?_ (not_lossless replaces stopped)
  · intro i
    rw [replaces.itemsAt, itemsAt]
    refine List.append_subset.mpr ⟨fun item member => ?_, List.subset_append_right _ _⟩
    refine List.mem_append_left _ ?_
    split at member
    · rename_i here
      rw [here, queued_of_member replaces.member]
      obtain ⟨batch, inQueue, inBatch⟩ := List.mem_flatMap.mp member
      exact List.mem_flatMap.mpr ⟨batch, queue inQueue, inBatch⟩
    · exact member
  · intro i
    rw [groupsAt_put replaces.member replaces.workers]
    split
    · simp [none]
    · exact List.Subset.refl _

/-- Every move has one of the effects. -/
theorem flow_of_move {next : Pipeline} {actor : Actor} (formed : s.Formed)
    (moved : Move s actor next) : Flow s next actor := by
  cases moved with
  | broke => exact flow_broken rfl rfl
  | @usedUp scanner doing found =>
    have scan := Scanner.nextItem_found s.scanner s.plan.intake
    rw [found] at scan
    cases scan with
    | usedUp items =>
      refine flow_idle (by simp [ahead, doing, items]) rfl ?_
      simp [doing, Producer.unsent]
  | @collected item scanner batch doing found begun =>
    refine flow_found doing found (by simp [ahead, doing]) rfl ?_
    simpa only [doing] using unsent_collected begun item
  | @filled item scanner batch doing found begun =>
    refine flow_found doing found (by simp [ahead]) rfl ?_
    simpa only [doing] using unsent_filled begun item (Pool.acquire_idle formed.idle).1
  | stopped => exact flow_broken rfl rfl
  | sent sends member => exact flow_sent sends member
  | skipped doing begun empty =>
    refine flow_idle (by simp [ahead, doing]) rfl ?_
    simpa only [doing] using unsent_skipped begun empty
  | finished doing beyond =>
    refine flow_idle (by simp [ahead, doing]) rfl ?_
    intro i
    rw [doing, unsent_beyond beyond]
    rfl
  | took member idle queued => exact flow_took idle queued (.put member)
  | @ended index worker result member idle queued finished =>
    have takes : worker.takes = [] := by
      cases worker
      simp only at queued
      simp [Worker.takes, queued]
    exact flow_still (.put member) rfl (by simp [idle, Duty.groups]) takes
      (by simp [idle, Duty.writes])
  | @gaveBack index worker job works done =>
    obtain ⟨member, busy⟩ := works
    have takes := takes_of_busy busy
    cases job
    simp only at done
    exact flow_still (.put member) rfl (by simp [busy, Duty.groups, done])
      takes (by simp [busy, Duty.writes, done])
  | @obtained index worker job group rest registry works groups unasked owner =>
    obtain ⟨member, busy⟩ := works
    have takes := takes_of_busy busy
    cases job
    simp only at unasked
    exact flow_still (.put member) rfl (by simp [busy, Duty.groups]) takes
      (by simp [busy, Duty.writes, unasked])
  | wrote works groups asked =>
    exact flow_wrote works.busy groups asked (.put works.member)
  | failed works => exact flow_failed (.put works.member) rfl rfl (List.Subset.refl _)
  | gaveUp member => exact flow_failed (.put member) rfl rfl (List.Subset.refl _)
  | closed member => exact flow_failed (.put member) rfl rfl (List.Subset.refl _)
  | gone member => exact flow_failed (.put member) rfl rfl (List.nil_subset _)

end Moves

end Pipeline

end SeriesBench
