import Mathlib.Algebra.BigOperators.Fin
import Mathlib.Algebra.Order.BigOperators.Group.Finset
import SeriesBench.Proofs.Load.Flight

/-!
# Every load ends

As long as not everybody is done, somebody has a step, so no load gets stuck; and every step
lowers a potential, so no schedule is longer than the potential of its first state. Hence every
schedule that goes on as long as it can ends with everybody done, and `Load.run`, which follows
one of them within `Load.stepBound` steps, gets to the end.

An item weighs most while it is still to be scanned and less with each place it comes to; what
weighs something in a batch besides its items are the steps to take it and to give it back. A
worker weighs one step more than it takes when nothing goes wrong, because a fault costs it that
much.
-/

namespace SeriesBench

/-- The steps that a worker at this duty may still take, without its queue. One of them is spared
by a worker that no fault stops. -/
def Duty.weight : Duty → Nat
  | .idle => 2
  | .busy job => 2 * job.groups.length + if job.handle.isSome then 2 else 3
  | .ended => 1
  | .stopping _ _ => 3
  | .closing _ => 2
  | .leaving _ => 1
  | .failed _ => 0

/-- A worker that no fault has stopped has not spent the step that it is to spare. -/
theorem Duty.weight_pos {duty : Duty} (unstopped : duty.fault? = none) : 1 ≤ duty.weight := by
  cases duty with
  | idle | ended => simp [weight]
  | busy job =>
    simp only [weight]
    split <;> omega
  | stopping | closing | leaving | failed => simp [fault?] at unstopped

/-- The steps that a worker may still take. -/
def Worker.weight (worker : Worker) : Nat :=
  (worker.queue.map fun batch => 2 * batch.size + 2).sum + worker.duty.weight

namespace Pipeline

/-- A worker that is not done has a step, unless it is idle and has nothing to take. -/
theorem step_of_member {s : Pipeline} (formed : s.Formed) {index : Nat} {worker : Worker}
    (member : s.workers[index]? = some worker) (working : worker.duty.isOver = false)
    (due : worker.duty = .idle → worker.queue ≠ []) :
    ∃ next, s.step (.worker index) = some next := by
  cases duty : worker.duty with
  | idle =>
    obtain ⟨batch, rest, queued⟩ := List.exists_cons_of_ne_nil (due duty)
    simp [step, stepWorker, member, duty, take, queued]
  | busy job =>
    obtain ⟨registry, owner⟩ := formed.owner member
    simp only [step, stepWorker, member, duty, work, owner]
    split
    · exact ⟨_, rfl⟩
    · split
      · exact ⟨_, rfl⟩
      · split <;> exact ⟨_, rfl⟩
  | stopping | closing | leaving => simp [step, stepWorker, member, duty]
  | ended | failed => simp [duty, Duty.isOver] at working

/-- A batch that is to be sent is sent, or its worker has a step: the worker is gone, or it has
room, or it has something to take, or it is about to go. -/
theorem step_of_send {s : Pipeline} (formed : s.Formed) (index : Nat) (batch : Batch Item)
    (next : Producer) (inside : index < s.plan.workers)
    (same : s.stepProducer = s.send index batch next) :
    ∃ actor next, s.step actor = some next := by
  rw [← formed.workers] at inside
  have member : s.workers[index]? = some s.workers[index] := Array.getElem?_eq_getElem inside
  have itsShape := formed.each index _ member
  by_cases room : s.workers[index].queue.length < s.plan.queueCapacity
  · refine ⟨.producer, ?_⟩
    simp only [step, same, send, member]
    split
    · exact ⟨_, rfl⟩
    · simp [room]
  · have full : s.workers[index].queue ≠ [] := by
      intro empty
      have positive := formed.sound.2.2
      rw [empty] at room
      exact room positive
    refine ⟨.worker index, step_of_member formed member ?_ fun _ => full⟩
    cases duty : s.workers[index].duty with
    | idle | busy | stopping | closing | leaving => rfl
    | ended => exact absurd (itsShape.ended duty).1 full
    | failed fault => exact absurd (itsShape.failed fault duty) full

/-- A load that is not over is never stuck. -/
theorem exists_step {s : Pipeline} (formed : s.Formed) (going : s.isOver = false) :
    ∃ actor next, s.step actor = some next := by
  cases doing : s.producer with
  | reading => exact ⟨.producer, s.read, by simp [step, stepProducer, doing]⟩
  | sending index full =>
    exact step_of_send formed index full .reading (formed.sending index full doing).1
      (by simp [stepProducer, doing])
  | finishing index =>
    cases begun : s.pending[index]? with
    | none => exact ⟨.producer, _, by simp [step, stepProducer, doing, finish, begun]; rfl⟩
    | some batch =>
      by_cases empty : batch.size = 0
      · exact ⟨.producer, _, by simp [step, stepProducer, doing, finish, begun, empty]; rfl⟩
      · have inside := (Array.getElem?_eq_some_iff.mp begun).1
        rw [formed.pending] at inside
        exact step_of_send formed index batch (.finishing (index + 1)) inside
          (by simp [stepProducer, doing, finish, begun, empty])
  | ended result =>
    obtain ⟨index, inside, working⟩ : ∃ index, ∃ inside : index < s.workers.size,
        s.workers[index].duty.isOver = false := by
      simpa [isOver, doing] using going
    have member : s.workers[index]? = some s.workers[index] := Array.getElem?_eq_getElem inside
    refine ⟨.worker index, ?_⟩
    by_cases nothing : s.workers[index].duty = .idle ∧ s.workers[index].queue = []
    · obtain ⟨idle, empty⟩ := nothing
      simp [step, stepWorker, member, idle, take, empty, doing]
    · exact step_of_member formed member working fun idle empty => nothing ⟨idle, empty⟩

/-- The steps that the producer may still take, without those for items that it has read. -/
def producerWeight (s : Pipeline) : Nat :=
  match s.producer with
  | .reading | .sending _ _ => 6 * s.scanner.upcoming.length + s.plan.workers + 2
  | .finishing index => s.plan.workers - index + 1
  | .ended _ => 0

/-- The steps that a worker may still take for what was sent to it. -/
def effortAt (s : Pipeline) (index : Nat) : Nat :=
  match s.workers[index]? with
  | some worker => worker.weight
  | none => 0

/-- The steps that may still be taken for what was routed to a worker. -/
def weightAt (s : Pipeline) (index : Nat) : Nat :=
  5 * (s.producer.unsent s.pending index).length + s.effortAt index

/-- A bound of the steps that can still be taken. -/
def potential (s : Pipeline) : Nat :=
  s.producerWeight + ∑ index ∈ Finset.range s.plan.workers, s.weightAt index

/-- A sum changes at most by what it changes at the one place where it may grow. -/
theorem sum_le_of_place {n place : Nat} (inside : place < n) {before after : Nat → Nat}
    (others : ∀ i, i ≠ place → after i ≤ before i) {lost gained : Nat}
    (here : after place + lost ≤ before place + gained) :
    ∑ i ∈ Finset.range n, after i + lost ≤ ∑ i ∈ Finset.range n, before i + gained := by
  have member : place ∈ Finset.range n := Finset.mem_range.mpr inside
  have rest : ∑ i ∈ (Finset.range n).erase place, after i ≤
      ∑ i ∈ (Finset.range n).erase place, before i :=
    Finset.sum_le_sum fun i inErased => others i (Finset.ne_of_mem_erase inErased)
  rw [← Finset.add_sum_erase _ _ member, ← Finset.add_sum_erase _ _ member]
  omega

section Cheaper

variable {s next : Pipeline}

/-- A move that may make one worker's part dearer, but the producer's part cheaper by more,
makes the whole cheaper. -/
theorem potential_lt {place : Nat} (inside : place < s.plan.workers) (plan : next.plan = s.plan)
    (others : ∀ i, i ≠ place → next.weightAt i ≤ s.weightAt i)
    (cheaper : next.weightAt place + next.producerWeight < s.weightAt place + s.producerWeight) :
    next.potential < s.potential := by
  have sums : ∑ i ∈ Finset.range s.plan.workers, next.weightAt i + (next.producerWeight + 1) ≤
      ∑ i ∈ Finset.range s.plan.workers, s.weightAt i + s.producerWeight :=
    sum_le_of_place inside others (by omega)
  simp only [potential, plan]
  omega

/-- A move of the producer that leaves the workers and sends nothing more. -/
theorem potential_of_idle (formed : s.Formed) (plan : next.plan = s.plan)
    (workers : next.workers = s.workers)
    (unsent : ∀ i, (next.producer.unsent next.pending i).length ≤
      (s.producer.unsent s.pending i).length)
    (cheaper : next.producerWeight < s.producerWeight) : next.potential < s.potential := by
  have each (i : Nat) : next.weightAt i ≤ s.weightAt i := by
    have fewer := unsent i
    simp only [weightAt, effortAt, workers]
    omega
  exact potential_lt formed.sound.2.1 plan (fun i _ => each i) (Nat.add_lt_add_of_le_of_lt
    (each 0) cheaper)

/-- A move of the producer that finds an item. -/
theorem potential_of_found (formed : s.Formed) {item : Item} {scanner : Scanner}
    (doing : s.producer = .reading)
    (found : s.scanner.nextItem s.plan.intake = (.ok (some item), scanner))
    (plan : next.plan = s.plan) (workers : next.workers = s.workers)
    (unsent : ∀ i, next.producer.unsent next.pending i =
      s.producer.unsent s.pending i ++ onlyAt (s.router.route item).1 [item] i)
    (weight : next.producerWeight = 6 * scanner.upcoming.length + s.plan.workers + 2) :
    next.potential < s.potential := by
  have scan := Scanner.nextItem_found s.scanner s.plan.intake
  rw [found] at scan
  have inside : (s.router.route item).1 < s.plan.workers :=
    formed.partitions ▸ s.router.route_lt item
  cases scan with
  | item items counts tail shorter =>
    refine potential_lt inside plan ?_ ?_
    · intro i other
      simp [weightAt, effortAt, workers, unsent, onlyAt_other other]
    · simp only [weightAt, effortAt, workers, unsent, onlyAt_self, weight, List.length_append,
        List.length_singleton]
      simp only [producerWeight, doing]
      omega

/-- A move of a worker that makes the worker's part cheaper. -/
theorem potential_of_replaces (formed : s.Formed) {index : Nat} {old worker : Worker}
    (replaces : Replaces s next index old worker) (cheaper : worker.weight < old.weight) :
    next.potential < s.potential := by
  have inside : index < s.plan.workers := formed.workers ▸ replaces.inside
  have same : next.producerWeight = s.producerWeight := by
    simp only [producerWeight, replaces.producer, replaces.scanner, replaces.plan]
  refine potential_lt inside replaces.plan ?_ ?_
  · intro i other
    simp [weightAt, effortAt, replaces.producer, replaces.pending, replaces.workers,
      getElem?_put replaces.member, other]
  · simp only [weightAt, effortAt, replaces.producer, replaces.pending, replaces.workers,
      member_put replaces.member, replaces.member, same]
    omega

/-- Sending a batch, which is cheaper in a queue than before. -/
theorem potential_of_sent (formed : s.Formed) {index : Nat} {batch : Batch Item} {doing : Producer}
    {worker : Worker} (sends : Sends s index batch doing)
    (member : s.workers[index]? = some worker) :
    potential { s with
      producer := doing
      workers := s.workers.setIfInBounds index { worker with queue := worker.queue ++ [batch] } } <
      s.potential := by
  have inside : index < s.plan.workers := formed.workers ▸ (Array.getElem?_eq_some_iff.mp member).1
  have nonempty : batch.items.toList.length ≠ 0 := by
    cases sends with
    | full busy => exact (formed.sending index batch busy).2
    | left _ _ nonempty => exact nonempty
  have weight : producerWeight { s with producer := doing } ≤ s.producerWeight := by
    cases sends with
    | full busy => simp [producerWeight, busy]
    | left busy =>
      simp only [producerWeight, busy]
      omega
  refine potential_lt inside rfl ?_ ?_
  · intro i other
    simp [weightAt, effortAt, sends.unsent, onlyAt_other other, getElem?_put member, other]
  · have size : batch.size = batch.items.toList.length := rfl
    simp only [weightAt, effortAt, sends.unsent, onlyAt_self, member_put member, member,
      Worker.weight, List.map_append, List.sum_append, List.map_singleton, List.sum_singleton,
      List.length_append, size]
    simp only [producerWeight] at weight ⊢
    omega

/-- Every move lowers the potential. -/
theorem potential_move {actor : Actor} (formed : s.Formed) (moved : Move s actor next) :
    next.potential < s.potential := by
  cases moved with
  | broke doing =>
    exact potential_of_idle formed rfl rfl (by simp [Producer.unsent])
      (by simp [producerWeight, doing])
  | usedUp doing =>
    refine potential_of_idle formed rfl rfl (by simp [doing, Producer.unsent]) ?_
    simp only [producerWeight, doing]
    omega
  | @collected item scanner batch doing found begun =>
    refine potential_of_found formed doing found rfl rfl ?_ (by simp [producerWeight, doing])
    simpa only [doing] using unsent_collected begun item
  | @filled item scanner batch doing found begun =>
    refine potential_of_found formed doing found rfl rfl ?_ (by simp [producerWeight])
    simpa only [doing] using unsent_filled begun item (Pool.acquire_idle formed.idle).1
  | stopped sends =>
    refine potential_of_idle formed rfl rfl (by simp [Producer.unsent]) ?_
    cases sends with
    | full doing => simp [producerWeight, doing]
    | left doing => simp [producerWeight, doing]
  | sent sends member => exact potential_of_sent formed sends member
  | @skipped index batch doing begun empty =>
    have inside := (Array.getElem?_eq_some_iff.mp begun).1
    rw [formed.pending] at inside
    refine potential_of_idle formed rfl rfl ?_ ?_
    · intro i
      rw [doing, unsent_skipped begun empty]
    · simp only [producerWeight, doing]
      omega
  | finished doing beyond =>
    refine potential_of_idle formed rfl rfl (by simp [Producer.unsent]) ?_
    simp [producerWeight, doing]
  | @took index worker batch rest member idle queued =>
    refine potential_of_replaces formed (.put member) ?_
    have fewer := Ingest.length_sort batch.items.toList [] 0
    have size : batch.size = batch.items.toList.length := rfl
    simp only [List.length_nil, ← size] at fewer
    simp only [Worker.weight, queued, idle, jobOf, Duty.weight, List.map_cons, List.sum_cons,
      Option.isSome_none, Bool.false_eq_true, if_false]
    omega
  | ended member idle =>
    refine potential_of_replaces formed (.put member) ?_
    simp [Worker.weight, idle, Duty.weight]
  | @gaveBack index worker job works done =>
    refine potential_of_replaces formed (.put works.member) ?_
    have unasked : job.handle = none := by
      cases asked : job.handle with
      | none => rfl
      | some handle =>
        exact absurd done ((formed.each index worker works.member).asked job handle works.busy asked)
    simp [Worker.weight, works.busy, Duty.weight, done, unasked]
  | obtained works groups unasked =>
    refine potential_of_replaces formed (.put works.member) ?_
    simp [Worker.weight, works.busy, Duty.weight, unasked]
  | wrote works groups asked =>
    refine potential_of_replaces formed (.put works.member) ?_
    simp [Worker.weight, works.busy, Duty.weight, groups, asked]
    omega
  | @failed index worker job group rest registry written handle fault link works groups asked =>
    refine potential_of_replaces formed (.put works.member) ?_
    simp only [Worker.weight, works.busy, Duty.weight, groups, List.length_cons]
    split <;> omega
  | gaveUp member stopping =>
    refine potential_of_replaces formed (.put member) ?_
    simp [Worker.weight, stopping, Duty.weight]
  | closed member closing =>
    refine potential_of_replaces formed (.put member) ?_
    simp [Worker.weight, closing, Duty.weight]
  | gone member leaving =>
    refine potential_of_replaces formed (.put member) ?_
    simp only [Worker.weight, leaving, Duty.weight, List.map_nil, List.sum_nil]
    omega

end Cheaper

/-- A run is never longer than what the potential of its first state allows. -/
theorem length_le_of_run {s last : Pipeline} {schedule : List Actor} (formed : s.Formed)
    (ran : s.run schedule = some last) : schedule.length + last.potential ≤ s.potential := by
  induction schedule generalizing s with
  | nil =>
    obtain rfl := Option.some.inj ran
    simp
  | cons actor rest ih =>
    obtain ⟨next, moved, ran⟩ := Option.bind_eq_some_iff.mp ran
    have moved := move_of_step formed.covered moved
    have later := ih (formed_move formed moved) ran
    have lower := potential_move formed moved
    simp only [List.length_cons]
    omega

/-- While nobody has failed, each worker has a step to spare. -/
theorem workers_le_potential {s : Pipeline} (formed : s.Formed) (lossless : s.Lossless) :
    s.plan.workers ≤ s.potential := by
  have each (i : Nat) (member : i ∈ Finset.range s.plan.workers) : 1 ≤ s.weightAt i := by
    have inside := Finset.mem_range.mp member
    rw [← formed.workers] at inside
    have holder : s.workers[i]? = some s.workers[i] := Array.getElem?_eq_getElem inside
    have spare := Duty.weight_pos (lossless.workers i _ holder)
    simp only [weightAt, effortAt, holder, Worker.weight]
    omega
  have sum : s.plan.workers ≤ ∑ index ∈ Finset.range s.plan.workers, s.weightAt index := by
    simpa using Finset.card_nsmul_le_sum _ _ 1 each
  rw [potential]
  omega

/-- What the first state may cost: six steps for each line, three for each worker, of which one
is for a fault, and two at the end of the input. -/
theorem potential_start {plan : LoadPlan} (router : Router) (scanner : Scanner) (link : Link) :
    (start plan router scanner link).potential =
      6 * scanner.upcoming.length + 3 * plan.workers + 2 := by
  have each (i : Nat) (member : i ∈ Finset.range plan.workers) :
      (start plan router scanner link).weightAt i = 2 := by
    have inside := Finset.mem_range.mp member
    simp [start_eq, weightAt, effortAt, Producer.unsent, itemsIn, inside, Batch.withRoom,
      Worker.weight, Duty.weight]
  have own : (start plan router scanner link).producerWeight =
      6 * scanner.upcoming.length + plan.workers + 2 := by
    simp [start_eq, producerWeight]
  have workers : (start plan router scanner link).plan.workers = plan.workers := by
    simp [start_eq]
  rw [potential, own, workers, Finset.sum_congr rfl each]
  simp
  omega

/-- While nobody has failed, a run has not taken the steps that are there for faults. -/
theorem length_le_of_lossless {plan : LoadPlan} {router : Router} {scanner : Scanner} {link : Link}
    {schedule : List Actor} {s : Pipeline} (formed : (start plan router scanner link).Formed)
    (ran : (start plan router scanner link).run schedule = some s) (formedHere : s.Formed)
    (same : s.plan = plan) (lossless : s.Lossless) :
    schedule.length ≤ 6 * scanner.upcoming.length + 2 * plan.workers + 2 := by
  have length := length_le_of_run formed ran
  have spare := workers_le_potential formedHere lossless
  rw [potential_start] at length
  rw [same] at spare
  omega

end Pipeline

namespace Load

open Pipeline

/-- A state in which a load can end: some schedule leads to it from the first state, and
everybody is done in it. -/
def Ends (plan : LoadPlan) (scanner : Scanner) (link : Link) (last : Pipeline) : Prop :=
  ∃ router schedule, Router.make plan.routing plan.workers = .ok router ∧
    (Pipeline.start plan router scanner link).run schedule = some last ∧ last.isOver = true

/-- A step of some worker is a step. -/
theorem step_of_stepSomeWorker {s next : Pipeline} {index n : Nat}
    (moved : stepSomeWorker s index n = some next) : ∃ actor, s.step actor = some next := by
  induction n generalizing index with
  | zero => simp [stepSomeWorker] at moved
  | succ n ih =>
    unfold stepSomeWorker at moved
    split at moved
    · rename_i found moves
      obtain rfl := Option.some.inj moved
      exact ⟨.worker index, moves⟩
    · exact ih moved

/-- To advance is to take a step. -/
theorem step_of_advance {s next : Pipeline} (moved : advance s = some next) :
    ∃ actor, s.step actor = some next := by
  unfold advance at moved
  split at moved
  · rename_i found moves
    obtain rfl := Option.some.inj moved
    exact ⟨.producer, moves⟩
  · exact step_of_stepSomeWorker moved

/-- If no worker has a step, each of them has none. -/
theorem stepWorker_of_stepSomeWorker {s : Pipeline} {index n : Nat}
    (stuck : stepSomeWorker s index n = none) {i : Nat} (least : index ≤ i)
    (below : i < index + n) :
    s.stepWorker i = none := by
  induction n generalizing index with
  | zero => omega
  | succ n ih =>
    unfold stepSomeWorker at stuck
    split at stuck
    · contradiction
    · rename_i here
      by_cases first : i = index
      · rw [first, here]
      · exact ih stuck (by omega) (by omega)

/-- Nobody has a step when there is none to advance by. -/
theorem stuck_of_advance {s : Pipeline} (stuck : advance s = none) (actor : Actor) :
    s.step actor = none := by
  unfold advance at stuck
  split at stuck
  · contradiction
  · rename_i producer
    cases actor with
    | producer => exact producer
    | worker index =>
      by_cases inside : index < s.workers.size
      · exact stepWorker_of_stepSomeWorker stuck (Nat.zero_le index) (by omega)
      · simp [step, stepWorker, Array.getElem?_eq_none (Nat.le_of_not_lt inside)]

/-- With as many steps as its potential, driving a load gets to a state in which everybody is
done, along some schedule. -/
theorem drive_ends {s : Pipeline} (formed : s.Formed) {fuel : Nat} (enough : s.potential ≤ fuel) :
    (∃ schedule, s.run schedule = some (drive fuel s)) ∧ (drive fuel s).isOver = true := by
  induction fuel generalizing s with
  | zero =>
    refine ⟨⟨[], rfl⟩, ?_⟩
    by_contra going
    obtain ⟨actor, next, moved⟩ := exists_step formed (Bool.eq_false_iff.mpr going)
    have lower := potential_move formed (move_of_step formed.covered moved)
    omega
  | succ fuel ih =>
    unfold drive
    cases moved : advance s with
    | none =>
      refine ⟨⟨[], rfl⟩, ?_⟩
      by_contra going
      obtain ⟨actor, next, moves⟩ := exists_step formed (Bool.eq_false_iff.mpr going)
      simp [stuck_of_advance moved actor] at moves
    | some next =>
      obtain ⟨actor, step⟩ := step_of_advance moved
      have move := move_of_step formed.covered step
      have lower := potential_move formed move
      obtain ⟨⟨schedule, ran⟩, finished⟩ := ih (formed_move formed move) (by omega)
      exact ⟨⟨actor :: schedule, by simp [Pipeline.run, step, ran]⟩, finished⟩

/-- Whether the pool, the queues and the batches of a plan can be made. -/
def Makeable (plan : LoadPlan) : Prop :=
  Pool.canBeMade plan.maxIdle = true ∧ plan.hasQueues = true ∧
    Batch.canBeMade plan.intake.itemBytes plan.batchSize = true

/-- Running a load gives the result of a state in which it can end. -/
theorem run_ends {plan : LoadPlan} (sound : plan.Sound) (makeable : Makeable plan)
    (scanner : Scanner) (link : Link) :
    ∃ last, Ends plan scanner link last ∧ Load.run plan scanner link = some (result last) := by
  obtain ⟨pool, queues, batches⟩ := makeable
  have made : Router.make plan.routing plan.workers =
      .ok ⟨plan.routing, plan.workers, 0, sound.2.1⟩ := by
    simp [Router.make, sound.2.1]
  let router : Router := ⟨plan.routing, plan.workers, 0, sound.2.1⟩
  let s := Pipeline.start plan router scanner link
  have bound : s.potential ≤ stepBound s := by
    have upcoming : s.scanner.upcoming = scanner.upcoming := by simp [s, start_eq]
    have workers : s.workers.size = plan.workers := by simp [s, start_eq]
    rw [stepBound, upcoming, workers, potential_start]
    omega
  obtain ⟨⟨schedule, ran⟩, finished⟩ := drive_ends (formed_start sound made scanner link) bound
  refine ⟨drive (stepBound s) s, ⟨router, schedule, made, ran, finished⟩, ?_⟩
  simp [Load.run, pool, queues, batches, made, s, router]

/-- Two workers take the items of an input one by one, in turn. -/
def smallDealt : LoadPlan where
  batchSize := 1
  workers := 2
  routing := .inTurn

/-- Three workers take the items of an input three by three, each those of its tables. -/
def smallRouted : LoadPlan where
  batchSize := 3
  workers := 3

/-- Points of two tables, of which those of one have different names and one does not convert,
with a blank line between them, and at the end a line that is no point. -/
def smallInput : List Chunk :=
  [.bytes "cpu 1 a=1 3\nmem 2 b=x 7\n\ncpu 3 c=5 3\ncpu 4 c=x 3\ncpu\n".toUTF8.data.toList]

/-- The load in turn has sizes that a load can have. -/
theorem smallDealt_sound : smallDealt.Sound :=
  ⟨by decide, by decide, by decide⟩

/-- Everything that the load in turn takes can be made. -/
theorem smallDealt_makeable : Makeable smallDealt :=
  ⟨by decide, by decide, by decide⟩

/-- The load by name has sizes that a load can have. -/
theorem smallRouted_sound : smallRouted.Sound :=
  ⟨by decide, by decide, by decide⟩

/-- Everything that the load by name takes can be made. -/
theorem smallRouted_makeable : Makeable smallRouted :=
  ⟨by decide, by decide, by decide⟩

end Load

end SeriesBench
