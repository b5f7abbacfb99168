import Mathlib.Data.List.Infix
import Mathlib.Data.List.Perm.Basic
import Mathlib.Logic.Relation
import SeriesBench.Proofs.Load.Carriage

/-!
# Dealing out items

The producer of a load is here given its items one after another, whatever they are, instead of
scanning for them; it adds and sends them as in a load, and the workers take their steps between
its own in any order. A dealing records what the steps of the producer put into the queues, which
the workers empty.

Of each worker, what was sent to it, what is begun for it and what of the items to come will be
routed to it are together all that is routed to it, in order. For that the batches that the pool
hands out must be empty, whatever the workers have given back. Before the input is used up only
full batches are sent, so at most the last one that a worker gets has fewer items.
-/

namespace SeriesBench

/-- The items of a list that a router routes to a worker, in order. -/
def Router.share : Router → List Item → Nat → List Item
  | _, [], _ => []
  | router, item :: rest, index =>
    onlyAt (router.route item).1 [item] index ++ (router.route item).2.share rest index

/-- The items of some batches in turn. -/
def contents (batches : List (Batch Item)) : List Item :=
  batches.flatMap fun batch => batch.items.toList

/-- Batches of the same size, of which the last one may have fewer items, but not none. -/
structure Portions (size : Nat) (batches : List (Batch Item)) : Prop where
  each : ∀ batch ∈ batches, 0 < batch.size ∧ batch.size ≤ size
  whole : ∀ batch ∈ batches.dropLast, batch.size = size

namespace Pipeline

/-- The queue of a worker. -/
def queueAt (s : Pipeline) (index : Nat) : List (Batch Item) :=
  match s.workers[index]? with
  | some worker => worker.queue
  | none => []

/-- What is at the end of the queue of a worker in a state, and was not there in the state
before. -/
def added (s next : Pipeline) (index : Nat) : List (Batch Item) :=
  (next.queueAt index).drop (s.queueAt index).length

end Pipeline

/-- A load that is given its items, and what it has sent. -/
structure Dealing where
  load : Pipeline
  /-- The items that are still to come. -/
  ahead : List Item
  /-- The batches that were sent to each worker, in order. -/
  sent : Nat → List (Batch Item)

/-- A dealing of some items before its first step. -/
def Dealing.start (plan : LoadPlan) (router : Router) (scanner : Scanner) (link : Link)
    (items : List Item) : Dealing :=
  ⟨.start plan router scanner link, items, fun _ => []⟩

/-- A step of a dealing. What a scanner has become by then does not matter. -/
inductive Deal (d : Dealing) : Dealing → Prop where
  /-- The producer is given the next item. -/
  | given {item : Item} {rest : List Item} (reading : d.load.producer = .reading)
      (due : d.ahead = item :: rest) (scanner : Scanner) :
      Deal d { d with load := { d.load with scanner }.addItem item, ahead := rest }
  /-- There are no more items. -/
  | usedUp (reading : d.load.producer = .reading) (none : d.ahead = []) (scanner : Scanner) :
      Deal d { d with load := { d.load with scanner, producer := .finishing 0 } }
  /-- The producer does what it does in a load after that. -/
  | produced {next : Pipeline} (busy : d.load.producer ≠ .reading)
      (moved : d.load.step .producer = some next) :
      Deal d { d with load := next, sent := fun index => d.sent index ++ d.load.added next index }
  /-- A worker does what it does in a load. -/
  | worked {index : Nat} {next : Pipeline} (moved : d.load.step (.worker index) = some next) :
      Deal d { d with load := next }

/-- The items of batches in two parts are those of both. -/
theorem contents_append (batches others : List (Batch Item)) :
    contents (batches ++ others) = contents batches ++ contents others :=
  List.flatMap_append

/-- A batch at one place has its items there. -/
theorem contents_onlyAt (place : Nat) (batch : Batch Item) (index : Nat) :
    contents (onlyAt place [batch] index) = onlyAt place batch.items.toList index := by
  unfold onlyAt contents
  split <;> simp

/-- A list at one place is all that is found at all places. -/
theorem flatMap_onlyAt {n place : Nat} (inside : place < n) (xs : List α) :
    (List.range n).flatMap (onlyAt place xs) = xs := by
  induction n with
  | zero => exact absurd inside (Nat.not_lt_zero place)
  | succ n ih =>
    rw [List.range_succ, List.flatMap_append]
    rcases Nat.lt_or_eq_of_le (Nat.le_of_lt_succ inside) with earlier | here
    · simp [ih earlier, onlyAt_other (Nat.ne_of_gt earlier)]
    · subst here
      have none : (List.range place).flatMap (onlyAt place xs) = [] := by
        rw [List.flatMap_eq_nil_iff]
        intro index member
        exact onlyAt_other (Nat.ne_of_lt (List.mem_range.mp member)) xs
      simp [none]

/-- Every item is in the share of exactly one of the partitions. -/
theorem Router.share_perm (router : Router) (items : List Item) :
    ((List.range router.partitions).flatMap (router.share items)).Perm items := by
  induction items generalizing router with
  | nil => simp [share]
  | cons item rest ih =>
    have others := ih (router.route item).2
    rw [Router.partitions_route] at others
    refine (List.flatMap_append_perm _ _ _).symm.trans ?_
    rw [flatMap_onlyAt (router.route_lt item)]
    exact others.cons item

/-- A router has the partitions that it was made with. -/
theorem Router.partitions_of_make {routing : Routing} {partitions : Nat} {router : Router}
    (made : Router.make routing partitions = .ok router) : router.partitions = partitions := by
  unfold Router.make at made
  split at made
  · obtain rfl := Except.ok.inj made
    rfl
  · contradiction

/-- Full batches and one more are portions. -/
theorem portions_append {size : Nat} {batches : List (Batch Item)} {last : Batch Item}
    (full : ∀ batch ∈ batches, batch.size = size) (nonempty : 0 < last.size)
    (fits : last.size ≤ size) : Portions size (batches ++ [last]) where
  each batch member := by
    rcases List.mem_append.mp member with earlier | final
    · rw [full batch earlier]
      exact ⟨Nat.lt_of_lt_of_le nonempty fits, Nat.le_refl size⟩
    · obtain rfl := List.mem_singleton.mp final
      exact ⟨nonempty, fits⟩
  whole batch member := full batch (by simpa using member)

namespace Pipeline

variable {s next : Pipeline}

/-- A state that a step of a worker leads to, as far as the producer is concerned: batches may be
given back to the pool. -/
structure Beside (s next : Pipeline) : Prop where
  plan : next.plan = s.plan
  scanner : next.scanner = s.scanner
  router : next.router = s.router
  pending : next.pending = s.pending
  producer : next.producer = s.producer
  pool : next.pool = s.pool ∨ ∃ batch, next.pool = s.pool.release batch

/-- A step of a worker is beside the dealing: it leaves what the producer has begun and what was
sent. -/
theorem beside_move {index : Nat} (moved : Move s (.worker index) next) : Beside s next := by
  cases moved with
  | took | ended | obtained | wrote | failed | closed | gone =>
    exact ⟨rfl, rfl, rfl, rfl, rfl, .inl rfl⟩
  | gaveBack | gaveUp => exact ⟨rfl, rfl, rfl, rfl, rfl, .inr ⟨_, rfl⟩⟩

/-- There stays one begun batch for each partition. -/
theorem covered_move {actor : Actor} (covered : s.pending.size = s.router.partitions)
    (moved : Move s actor next) : next.pending.size = next.router.partitions := by
  cases actor with
  | producer => cases moved <;> simpa using covered
  | worker index =>
    have beside := beside_move moved
    rw [beside.pending, beside.router, covered]

/-- What the producer has ended with stays. -/
theorem ended_move {actor : Actor} {result : Except Fault Tally}
    (finished : s.producer = .ended result) (moved : Move s actor next) :
    next.producer = .ended result := by
  cases actor with
  | producer =>
    cases moved with
    | broke doing | usedUp doing | collected doing | filled doing | skipped doing
    | finished doing => simp [doing] at finished
    | stopped sends | sent sends => exact absurd finished (sends.running result)
  | worker index => exact (beside_move moved).producer.trans finished

/-- An item is added to the batch begun for its worker, which is begun anew if it is full by
that. -/
theorem addItem_cases {item : Item} {batch : Batch Item}
    (begun : s.pending[(s.router.route item).1]? = some batch) :
    (batch.size + 1 < s.plan.batchSize ∧ s.addItem item =
      { s with
        router := (s.router.route item).2
        pending := s.pending.setIfInBounds (s.router.route item).1 (batch.push item) }) ∨
    (s.plan.batchSize ≤ batch.size + 1 ∧ s.addItem item =
      { s with
        router := (s.router.route item).2
        pool := s.pool.acquire.2
        pending := s.pending.setIfInBounds (s.router.route item).1 s.pool.acquire.1
        producer := .sending (s.router.route item).1 (batch.push item) }) := by
  simp only [addItem, begun, Batch.size_push]
  split
  · rename_i full
    exact .inr ⟨full, rfl⟩
  · rename_i room
    exact .inl ⟨Nat.lt_of_not_le room, rfl⟩

/-- The queue of a worker that a batch is sent to. -/
theorem added_sent {index : Nat} {worker : Worker} (member : s.workers[index]? = some worker)
    {batch : Batch Item} (workers : next.workers =
      s.workers.setIfInBounds index { worker with queue := worker.queue ++ [batch] }) (i : Nat) :
    s.added next i = onlyAt index [batch] i := by
  by_cases here : i = index
  · subst here
    simp [added, queueAt, workers, member, member_put member]
  · simp [added, queueAt, workers, getElem?_put member, here, onlyAt_other here]

/-- Where no queue has changed, nothing was added to one. -/
theorem added_of_workers (workers : next.workers = s.workers) (i : Nat) : s.added next i = [] := by
  simp [added, queueAt, workers]

end Pipeline

/-- Whether the producer may still be given items. -/
def Producer.Gathers : Producer → Prop
  | .reading | .sending _ _ => True
  | .finishing _ | .ended _ => False

/-- Whether the producer is done with the batch begun for a worker. -/
def Producer.Flushed (index : Nat) : Producer → Prop
  | .reading | .sending _ _ => False
  | .finishing first => index < first
  | .ended _ => True

namespace Dealing

/-- What holds while some items are dealt out by a router in batches of a size. -/
structure Orderly (size : Nat) (router : Router) (items : List Item) (d : Dealing) : Prop where
  sized : d.load.plan.batchSize = size
  covered : d.load.pending.size = d.load.router.partitions
  idle : ∀ batch ∈ d.load.pool.idle, batch.size = 0
  begun : ∀ (index : Nat) (batch : Batch Item), d.load.pending[index]? = some batch →
    batch.size < size
  full : ∀ index batch, d.load.producer = .sending index batch → batch.size = size
  gathers : d.load.producer.Gathers ∨ d.ahead = []
  /-- No item of a worker is lost, repeated or overtaken. -/
  share : ∀ index, contents (d.sent index) ++ d.load.producer.unsent d.load.pending index ++
    d.load.router.share d.ahead index = router.share items index
  portions : ∀ index, Portions size (d.sent index)
  /-- As long as a worker may be sent more, it was sent full batches only. -/
  whole : ∀ index, ¬ d.load.producer.Flushed index → ∀ batch ∈ d.sent index, batch.size = size

variable {size : Nat} {router : Router} {items : List Item} {d next : Dealing}

open Pipeline

/-- Before the first step nothing is dealt, and each worker has begun an empty batch. -/
theorem orderly_start {plan : LoadPlan} (sized : 0 < plan.batchSize)
    (made : Router.make plan.routing plan.workers = .ok router) (scanner : Scanner) (link : Link)
    (items : List Item) :
    (start plan router scanner link items).Orderly plan.batchSize router items := by
  rw [start, start_eq]
  exact
    { sized := rfl
      covered := by simp [Router.partitions_of_make made]
      idle := by simp [Pool.make]
      begun := by
        intro index batch begun
        simp only [Array.getElem?_replicate, Option.ite_none_right_eq_some] at begun
        obtain ⟨_, same⟩ := begun
        obtain rfl := Option.some.inj same
        exact sized
      full := by simp
      gathers := .inl trivial
      share := by
        intro index
        have nothing := ((flight_start plan router scanner link).2 index).1
        rw [itemsAt, List.append_eq_nil_iff, start_eq] at nothing
        simp [contents, nothing.2]
      portions := fun _ => ⟨by simp, by simp⟩
      whole := by simp }

/-- Begun batches stay short when one is replaced by a short one. -/
theorem Orderly.begun_put (orderly : d.Orderly size router items) {place : Nat}
    {other : Batch Item} (fits : other.size < size) (index : Nat) (batch : Batch Item)
    (member : (d.load.pending.setIfInBounds place other)[index]? = some batch) :
    batch.size < size := by
  rw [Array.getElem?_setIfInBounds] at member
  split at member
  · simp only [Option.ite_none_right_eq_some] at member
    obtain ⟨_, same⟩ := member
    obtain rfl := Option.some.inj same
    exact fits
  · exact orderly.begun index batch member

/-- A producer that is given an item. -/
theorem Orderly.given (positive : 0 < size) (orderly : d.Orderly size router items) {item : Item}
    {rest : List Item} (reading : d.load.producer = .reading) (due : d.ahead = item :: rest) :
    Orderly size router items { d with load := d.load.addItem item, ahead := rest } := by
  obtain ⟨batch, begun⟩ : ∃ batch, d.load.pending[(d.load.router.route item).1]? = some batch :=
    ⟨_, Array.getElem?_eq_getElem (orderly.covered ▸ d.load.router.route_lt item)⟩
  have small := orderly.begun _ batch begun
  have share := orderly.share
  simp only [due, Router.share, reading] at share
  rcases addItem_cases begun with ⟨room, added⟩ | ⟨filled, added⟩
  · rw [orderly.sized] at room
    rw [added]
    exact
      { orderly with
        covered := by simpa using orderly.covered
        begun := orderly.begun_put (by simpa using room)
        gathers := .inl (by simp [reading, Producer.Gathers])
        share := by
          intro index
          simp only [reading, unsent_collected begun]
          simpa using share index }
  · rw [orderly.sized] at filled
    rw [added]
    have empty := Pool.acquire_idle orderly.idle
    exact
      { orderly with
        covered := by simpa using orderly.covered
        idle := empty.2
        begun := orderly.begun_put (empty.1 ▸ positive)
        full := by
          rintro index full same
          cases same
          rw [Batch.size_push]
          omega
        gathers := .inl trivial
        share := by
          intro index
          simp only [unsent_filled begun item empty.1]
          simpa using share index
        whole := fun index _ => orderly.whole index (by simp [reading, Producer.Flushed]) }

/-- A producer that is given nothing more. -/
theorem Orderly.usedUp (orderly : d.Orderly size router items)
    (reading : d.load.producer = .reading) (none : d.ahead = []) :
    Orderly size router items { d with load := { d.load with producer := .finishing 0 } } :=
  { orderly with
    full := by simp
    gathers := .inr none
    share := by
      intro index
      have share := orderly.share index
      simpa [reading, Producer.unsent] using share
    whole := fun index _ => orderly.whole index (by simp [reading, Producer.Flushed]) }

/-- A batch that is sent is full, or it is the last one that its worker gets. -/
theorem Orderly.sends (orderly : d.Orderly size router items) (positive : 0 < size) {place : Nat}
    {batch : Batch Item} {following : Producer} (sends : Sends d.load place batch following) :
    0 < batch.size ∧ batch.size ≤ size ∧ ¬ d.load.producer.Flushed place ∧
      (following.Flushed place ∨ batch.size = size) ∧
      ∀ index, index ≠ place → ¬ following.Flushed index → ¬ d.load.producer.Flushed index := by
  cases sends with
  | full doing =>
    have full := orderly.full place batch doing
    simp [doing, Producer.Flushed, full, positive]
  | left doing begun nonempty =>
    have small := orderly.begun place batch begun
    refine ⟨Nat.pos_of_ne_zero nonempty, Nat.le_of_lt small, by simp [doing, Producer.Flushed],
      .inl (Nat.lt_succ_self place), ?_⟩
    simp only [doing, Producer.Flushed]
    omega

/-- A producer that sends a batch. The worker got full batches only until now, so this one may be
short if it is the last. -/
theorem Orderly.sent (positive : 0 < size) (orderly : d.Orderly size router items) {place : Nat}
    {batch : Batch Item} {following : Producer} (sends : Sends d.load place batch following)
    (workers : Array Worker) {sent : Nat → List (Batch Item)}
    (added : ∀ index, sent index = d.sent index ++ onlyAt place [batch] index) :
    Orderly size router items
      ⟨{ d.load with producer := following, workers }, d.ahead, sent⟩ := by
  obtain rfl : sent = fun index => d.sent index ++ onlyAt place [batch] index := funext added
  obtain ⟨nonempty, fits, early, last, others⟩ := orderly.sends positive sends
  have full := orderly.whole place early
  exact
    { orderly with
      full := by
        intro index full same
        cases sends <;> cases same
      gathers := by
        cases sends with
        | full => exact .inl trivial
        | left doing => simpa [doing, Producer.Gathers] using orderly.gathers
      share := by
        intro index
        have share := orderly.share index
        rw [sends.unsent] at share
        simpa [contents_append, contents_onlyAt] using share
      portions := by
        intro index
        by_cases here : index = place
        · subst here
          simpa using portions_append full nonempty fits
        · simpa [onlyAt_other here] using orderly.portions index
      whole := by
        intro index early
        by_cases here : index = place
        · subst here
          have whole := last.resolve_left early
          simpa [or_imp, forall_and, whole] using full
        · simpa [onlyAt_other here] using orderly.whole index (others index here early) }

/-- A producer that passes over an empty batch. -/
theorem Orderly.skipped (orderly : d.Orderly size router items) {place : Nat}
    {batch : Batch Item} (doing : d.load.producer = .finishing place)
    (begun : d.load.pending[place]? = some batch) (empty : batch.size = 0) :
    Orderly size router items { d with load := { d.load with
      pool := d.load.pool.release batch, producer := .finishing (place + 1) } } :=
  { orderly with
    idle := Pool.release_idle orderly.idle batch
    full := by simp
    gathers := by simpa [doing, Producer.Gathers] using orderly.gathers
    share := by
      intro index
      have share := orderly.share index
      rwa [doing, ← unsent_skipped begun empty] at share
    whole := by
      intro index early
      refine orderly.whole index ?_
      simp only [doing, Producer.Flushed] at early ⊢
      omega }

/-- A producer that has sent everything. -/
theorem Orderly.finished (orderly : d.Orderly size router items) {place : Nat}
    (doing : d.load.producer = .finishing place) (beyond : d.load.pending[place]? = none)
    (result : Except Fault Tally) :
    Orderly size router items { d with load := { d.load with producer := .ended result } } :=
  { orderly with
    full := by simp
    gathers := by simpa [doing, Producer.Gathers] using orderly.gathers
    share := by
      intro index
      have share := orderly.share index
      rwa [doing, unsent_beyond beyond] at share
    whole := by simp [Producer.Flushed] }

/-- A worker that takes a step. -/
theorem Orderly.worked (orderly : d.Orderly size router items) {next : Pipeline}
    (beside : Beside d.load next) : Orderly size router items { d with load := next } where
  sized := by simpa [beside.plan] using orderly.sized
  covered := by simpa [beside.pending, beside.router] using orderly.covered
  idle := by
    rcases beside.pool with same | ⟨batch, given⟩
    · simpa [same] using orderly.idle
    · rw [given]
      exact Pool.release_idle orderly.idle batch
  begun := by simpa [beside.pending] using orderly.begun
  full := by simpa [beside.producer] using orderly.full
  gathers := by simpa [beside.producer] using orderly.gathers
  share := by simpa [beside.pending, beside.router, beside.producer] using orderly.share
  portions := orderly.portions
  whole := by simpa [beside.producer] using orderly.whole

/-- Every step keeps the order, unless a batch could not be sent. -/
theorem orderly_deal (positive : 0 < size) (orderly : d.Orderly size router items)
    (deal : Deal d next) (unbroken : ∀ fault, next.load.producer ≠ .ended (.error fault)) :
    next.Orderly size router items := by
  cases deal with
  | given reading due scanner =>
    have freed : Orderly size router items { d with load := { d.load with scanner } } :=
      { orderly with }
    exact freed.given positive reading due
  | usedUp reading none scanner =>
    have freed : Orderly size router items { d with load := { d.load with scanner } } :=
      { orderly with }
    exact freed.usedUp reading none
  | produced busy moved =>
    have still {next : Pipeline} (workers : next.workers = d.load.workers)
        (kept : Orderly size router items { d with load := next }) : Orderly size router items
          { d with load := next, sent := fun index => d.sent index ++ d.load.added next index } := by
      simpa [added_of_workers workers] using kept
    cases move_of_step orderly.covered moved with
    | broke doing | usedUp doing | collected doing | filled doing => exact absurd doing busy
    | stopped => exact absurd rfl (unbroken _)
    | sent sends member =>
      refine orderly.sent positive sends _ ?_
      intro index
      rw [added_sent member rfl]
    | skipped doing begun empty =>
      exact still rfl (orderly.skipped doing begun empty)
    | finished doing beyond =>
      exact still rfl (orderly.finished doing beyond _)
  | worked moved => exact orderly.worked (beside_move (move_of_stepWorker moved))

/-- A fault stays: when the producer is not at one after a step, it was not before. -/
theorem unbroken_before (deal : Deal d next)
    (unbroken : ∀ fault, next.load.producer ≠ .ended (.error fault)) (fault : Fault) :
    d.load.producer ≠ .ended (.error fault) := by
  intro broken
  cases deal with
  | given reading | usedUp reading => simp [reading] at broken
  | produced _ moved => simp [step, stepProducer, broken] at moved
  | worked moved => exact unbroken fault (ended_move broken (move_of_stepWorker moved))

/-- Every dealing in which no batch failed to be sent is in order. The induction is on the last
step, for a fault stays: where there is none at the end there was none before. -/
theorem orderly_of_deals {first last : Dealing} (positive : 0 < size)
    (orderly : first.Orderly size router items) (dealt : Relation.ReflTransGen Deal first last)
    (unbroken : ∀ fault, last.load.producer ≠ .ended (.error fault)) :
    last.Orderly size router items := by
  induction dealt with
  | refl => exact orderly
  | tail _ deal ih => exact orderly_deal positive (ih (unbroken_before deal unbroken)) deal unbroken

/-- When the producer is done, every worker was sent its share. -/
theorem Orderly.shares (orderly : d.Orderly size router items) {tally : Tally}
    (finished : d.load.producer = .ended (.ok tally)) (index : Nat) :
    contents (d.sent index) = router.share items index := by
  have none : d.ahead = [] := by simpa [finished, Producer.Gathers] using orderly.gathers
  simpa [finished, none, Producer.unsent, Router.share] using orderly.share index

end Dealing

end SeriesBench
