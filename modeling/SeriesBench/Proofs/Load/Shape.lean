import SeriesBench.Proofs.Load.Moves
import SeriesBench.Proofs.Pool.Reuse

/-!
# The shape of a running load

What holds in every state that a load reaches, whatever it loads: there is one worker, one
registry and one begun batch for each partition, idle batches are empty, a batch that is sent
is not, a worker that is gone has nothing left to take, and a worker that has ended was told so
by the producer.
-/

namespace SeriesBench

/-- What holds of a worker, given what the producer is about. -/
structure Worker.Formed (worker : Worker) (producer : Producer) : Prop where
  ended : worker.duty = .ended → worker.queue = [] ∧ ∃ result, producer = .ended result
  failed : ∀ fault, worker.duty = .failed fault → worker.queue = []
  asked : ∀ job handle, worker.duty = .busy job → job.handle = some handle → job.groups ≠ []

/-- While the producer is not done, no worker has ended, so the producer may go on with
anything. -/
theorem Worker.Formed.of_running {worker : Worker} {producer : Producer}
    (formed : worker.Formed producer) (running : ∀ result, producer ≠ .ended result)
    (next : Producer) : worker.Formed next where
  ended := by
    intro finished
    obtain ⟨_, result, done⟩ := formed.ended finished
    exact absurd done (running result)
  failed := formed.failed
  asked := formed.asked

namespace Pipeline

/-- A worker after one was replaced is the new one, at its place, or one from before. -/
theorem member_of_put {workers : Array Worker} {index i : Nat} {worker other : Worker}
    (member : (workers.setIfInBounds index worker)[i]? = some other) :
    (i = index ∧ other = worker) ∨ (i ≠ index ∧ workers[i]? = some other) := by
  rw [Array.getElem?_setIfInBounds] at member
  split at member
  · rename_i same
    split at member
    · exact Or.inl ⟨same.symm, (Option.some.inj member).symm⟩
    · contradiction
  · rename_i other
    exact Or.inr ⟨Ne.symm other, member⟩

/-- At its place stands the new entry, and all others stand where they stood. -/
theorem getElem?_put {α : Type} {entries : Array α} {index : Nat} {old : α}
    (member : entries[index]? = some old) (entry : α) (i : Nat) :
    (entries.setIfInBounds index entry)[i]? = if i = index then some entry else entries[i]? := by
  obtain ⟨inside, _⟩ := Array.getElem?_eq_some_iff.mp member
  rw [Array.getElem?_setIfInBounds]
  by_cases here : i = index
  · simp [here, inside]
  · simp [here, Ne.symm here]

/-- The worker that a worker was replaced by stands at its place. -/
theorem member_put {workers : Array Worker} {index : Nat} {old : Worker}
    (member : workers[index]? = some old) (worker : Worker) :
    (workers.setIfInBounds index worker)[index]? = some worker := by
  rw [getElem?_put member, if_pos rfl]

/-- The shape of a state. -/
structure Formed (s : Pipeline) : Prop where
  sound : s.plan.Sound
  pending : s.pending.size = s.plan.workers
  partitions : s.router.partitions = s.plan.workers
  routing : s.router.routing = s.plan.routing
  workers : s.workers.size = s.plan.workers
  own : s.crew.own.size = s.plan.workers
  shared : s.crew.shared.isSome ↔ s.plan.routing = .inTurn
  idle : ∀ batch ∈ s.pool.idle, batch.size = 0
  sending : ∀ index full, s.producer = .sending index full →
    index < s.plan.workers ∧ full.size ≠ 0
  each : ∀ (i : Nat) (worker : Worker), s.workers[i]? = some worker → worker.Formed s.producer

/-- Every registry keeps its place when one is put back. -/
theorem own_put (crew : Crew) (index : Nat) (registry : Registry) :
    (crew.put index registry).own.size = crew.own.size ∧
      (crew.put index registry).shared.isSome = crew.shared.isSome := by
  unfold Crew.put
  split
  · rename_i shared
    simp [shared]
  · rename_i shared
    simp [shared]

/-- Closing what a worker owns leaves as many registries as there were, and a shared one if there
was one. -/
theorem own_closeWorker (crew : Crew) (index : Nat) (link : Link) :
    (crew.closeWorker index link).2.1.own.size = crew.own.size ∧
      (crew.closeWorker index link).2.1.shared.isSome = crew.shared.isSome := by
  unfold Crew.closeWorker
  split
  · rename_i shared _
    simp [shared]
  · simp

/-- A batch is never empty when it is about to be sent, and the producer is not done. -/
theorem Sends.running {s : Pipeline} {index : Nat} {batch : Batch Item} {next : Producer}
    (sends : Sends s index batch next) : ∀ result, s.producer ≠ .ended result := by
  intro result finished
  cases sends with
  | full doing => simp [doing] at finished
  | left doing => simp [doing] at finished

/-- All workers stay formed when one of them is replaced by a formed one. -/
theorem Formed.each_put {s : Pipeline} (formed : s.Formed) (index : Nat) {worker : Worker}
    (new : worker.Formed s.producer) (i : Nat) (other : Worker)
    (member : (s.workers.setIfInBounds index worker)[i]? = some other) :
    other.Formed s.producer := by
  rcases member_of_put member with ⟨_, rfl⟩ | ⟨_, old⟩
  · exact new
  · exact formed.each i other old

/-- Every worker has a registry to write to. -/
theorem Formed.owner {s : Pipeline} (formed : s.Formed) {index : Nat} {worker : Worker}
    (member : s.workers[index]? = some worker) :
    ∃ registry, s.crew.registryOf index = some registry := by
  have inside : index < s.crew.own.size := by
    rw [formed.own, ← formed.workers]
    exact (Array.getElem?_eq_some_iff.mp member).1
  unfold Crew.registryOf
  split
  · exact ⟨_, rfl⟩
  · exact ⟨_, Array.getElem?_eq_getElem inside⟩

/-- Every move keeps the shape. -/
theorem formed_move {s next : Pipeline} {actor : Actor} (formed : s.Formed)
    (moved : Move s actor next) : next.Formed := by
  have reading (doing : s.producer = .reading) : ∀ result, s.producer ≠ .ended result := by
    simp [doing]
  have finishing {index : Nat} (doing : s.producer = .finishing index) :
      ∀ result, s.producer ≠ .ended result := by
    simp [doing]
  cases moved with
  | broke doing =>
    exact { formed with
      sending := by simp
      each := fun i worker member => (formed.each i worker member).of_running (reading doing) _ }
  | usedUp doing =>
    exact { formed with
      sending := by simp
      each := fun i worker member => (formed.each i worker member).of_running (reading doing) _ }
  | @collected item scanner batch doing found begun =>
    exact { formed with
      pending := by simpa using formed.pending
      partitions := by simpa using formed.partitions
      routing := by simpa using formed.routing }
  | @filled item scanner batch doing found begun =>
    have inside := s.router.route_lt item
    rw [formed.partitions] at inside
    exact { formed with
      pending := by simpa using formed.pending
      partitions := by simpa using formed.partitions
      routing := by simpa using formed.routing
      idle := (Pool.acquire_idle formed.idle).2
      sending := by
        rintro index full same
        cases same
        exact ⟨inside, by simp⟩
      each := fun i worker member => (formed.each i worker member).of_running (reading doing) _ }
  | stopped sends =>
    exact { formed with
      sending := by simp
      each := fun i worker member => (formed.each i worker member).of_running sends.running _ }
  | @sent index batch next worker sends member alive room =>
    exact { formed with
      workers := by simpa using formed.workers
      sending := by
        intro index full same
        cases sends <;> simp at same
      each := by
        have old := formed.each index worker member
        have new : { worker with queue := worker.queue ++ [batch] }.Formed s.producer :=
          { ended := fun finished => by
              obtain ⟨_, result, done⟩ := old.ended finished
              exact absurd done (sends.running result)
            failed := fun fault failed => absurd failed (alive fault)
            asked := old.asked }
        intro i other inside
        exact (formed.each_put index new i other inside).of_running sends.running _ }
  | skipped doing =>
    exact { formed with
      idle := Pool.release_idle formed.idle _
      sending := by simp
      each := fun i worker member => (formed.each i worker member).of_running (finishing doing) _ }
  | finished doing =>
    exact { formed with
      sending := by simp
      each := fun i worker member => (formed.each i worker member).of_running (finishing doing) _ }
  | @took index worker batch rest member idle queued =>
    exact { formed with
      workers := by simpa [putWorker] using formed.workers
      each := formed.each_put index
        { ended := by simp
          failed := by simp
          asked := by
            rintro job handle same asked
            cases same
            simp [jobOf] at asked } }
  | @ended index worker result member idle queued finished =>
    exact { formed with
      workers := by simpa [putWorker] using formed.workers
      each := formed.each_put index
        { ended := fun _ => ⟨queued, result, finished⟩
          failed := by simp
          asked := by simp } }
  | @gaveBack index worker job works done =>
    exact { formed with
      workers := by simpa [putWorker] using formed.workers
      idle := Pool.release_idle formed.idle _
      each := formed.each_put index { ended := by simp, failed := by simp, asked := by simp } }
  | @obtained index worker job group rest registry works groups unasked owner =>
    have kept := own_put s.crew index (registry.obtain group.first).2
    exact { formed with
      workers := by simpa [putWorker] using formed.workers
      own := kept.1.trans formed.own
      shared := by simpa [putWorker, kept.2] using formed.shared
      each := formed.each_put index
        { ended := by simp
          failed := by simp
          asked := by
            rintro job handle same _
            cases same
            simp [groups] } }
  | @wrote index worker job group rest registry written handle outcome link works groups asked
      owner answer =>
    have kept := own_put s.crew index written
    exact { formed with
      workers := by simpa [putWorker] using formed.workers
      own := kept.1.trans formed.own
      shared := by simpa [putWorker, kept.2] using formed.shared
      each := formed.each_put index
        { ended := by simp
          failed := by simp
          asked := by
            rintro job handle same asked
            cases same
            simp at asked } }
  | @failed index worker job group rest registry written handle fault link works groups asked
      owner answer =>
    have kept := own_put s.crew index written
    exact { formed with
      workers := by simpa [putWorker] using formed.workers
      own := kept.1.trans formed.own
      shared := by simpa [putWorker, kept.2] using formed.shared
      each := formed.each_put index { ended := by simp, failed := by simp, asked := by simp } }
  | @gaveUp index =>
    exact { formed with
      workers := by simpa [putWorker] using formed.workers
      idle := Pool.release_idle formed.idle _
      each := formed.each_put index { ended := by simp, failed := by simp, asked := by simp } }
  | @closed index worker fault member closing =>
    have kept := own_closeWorker s.crew index s.link
    exact { formed with
      workers := by simpa [putWorker] using formed.workers
      own := kept.1.trans formed.own
      shared := by simpa [putWorker, kept.2] using formed.shared
      each := formed.each_put index { ended := by simp, failed := by simp, asked := by simp } }
  | @gone index =>
    exact { formed with
      workers := by simpa [putWorker] using formed.workers
      each := formed.each_put index { ended := by simp, failed := by simp, asked := by simp } }

/-- When everybody is done, a worker has ended or is gone after a fault. -/
theorem duty_of_over {s : Pipeline} (finished : s.isOver = true) {i : Nat} {worker : Worker}
    (member : s.workers[i]? = some worker) :
    worker.duty = .ended ∨ ∃ fault, worker.duty = .failed fault := by
  obtain ⟨_, all⟩ := Bool.and_eq_true_iff.mp finished
  obtain ⟨inside, rfl⟩ := Array.getElem?_eq_some_iff.mp member
  have done := Array.all_eq_true.mp all i inside
  cases duty : s.workers[i].duty with
  | ended => exact .inl rfl
  | failed fault => exact .inr ⟨fault, rfl⟩
  | idle | busy | stopping | closing | leaving => simp [duty, Duty.isOver] at done

/-- A pool without idle batches hands out new ones only. -/
theorem acquireAll_fresh {pool : Pool Item} (fresh : pool.idle = []) (n : Nat)
    (batches : Array (Batch Item)) :
    acquireAll n pool batches = (pool, batches ++ Array.replicate n (.withRoom pool.freshRoom)) := by
  induction n generalizing batches with
  | zero => simp [acquireAll]
  | succ n ih =>
    have same : pool.acquire = (.withRoom pool.freshRoom, pool) := by simp [Pool.acquire, fresh]
    simp [acquireAll, same, ih, Array.replicate_succ']

/-- The first state, written out. -/
theorem start_eq (plan : LoadPlan) (router : Router) (scanner : Scanner) (link : Link) :
    start plan router scanner link =
      { plan, scanner, router, link
        pool := .make plan.batchSize plan.maxIdle
        pending := Array.replicate plan.workers (.withRoom plan.batchSize)
        producer := .reading
        workers := Array.replicate plan.workers ⟨[], .idle, {}⟩
        crew := .make plan.routing plan.workers plan.layout } := by
  have fresh : (Pool.make plan.batchSize plan.maxIdle : Pool Item).idle = [] := rfl
  simp only [start, acquireAll_fresh fresh, Array.empty_append]
  rfl

/-- The state before the first step has its shape. -/
theorem formed_start {plan : LoadPlan} {router : Router} (sound : plan.Sound)
    (made : Router.make plan.routing plan.workers = .ok router) (scanner : Scanner) (link : Link) :
    (start plan router scanner link).Formed := by
  simp only [Router.make, sound.2.1, dif_pos, Except.ok.injEq] at made
  subst made
  rw [start_eq]
  exact
    { sound
      pending := by simp
      partitions := rfl
      routing := rfl
      workers := by simp
      own := by simp [Crew.make]
      shared := by cases plan.routing <;> simp [Crew.make]
      idle := by simp [Pool.make]
      sending := by simp
      each := by
        intro i worker member
        simp only [Array.getElem?_replicate, Option.ite_none_right_eq_some] at member
        obtain ⟨_, same⟩ := member
        obtain rfl := Option.some.inj same
        exact { ended := by simp, failed := by simp, asked := by simp } }

/-- There is a batch begun for every partition of the router. -/
theorem Formed.covered {s : Pipeline} (formed : s.Formed) :
    s.pending.size = s.router.partitions :=
  formed.pending.trans formed.partitions.symm

end Pipeline

end SeriesBench
