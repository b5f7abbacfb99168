import Mathlib.Algebra.BigOperators.Group.Finset.Basic
import Mathlib.Algebra.GroupWithZero.Nat
import SeriesBench.Proofs.Load.Staff

/-!
# The counts of a running load

Counts are kept in several places: by the scan, by each worker for the batches it is done with,
and for the batch that it is at work on. `counted` adds up the last two, for any count of an
outcome that can be added up, and only the moves that take a batch and that write a table make
it larger.

The sums over the workers are sums over their numbers. What is at one place only is counted once
in them.
-/

namespace SeriesBench

/-- A count of outcomes: what came of two batches counts as much as they count together. -/
structure Outcome.Additive (count : Outcome → Nat) : Prop where
  empty : count {} = 0
  sum : ∀ first second, count (first + second) = count first + count second

namespace Outcome

/-- Rows are counted by adding up. -/
theorem additive_rows : Additive Outcome.rows := ⟨rfl, fun _ _ => rfl⟩

/-- Metrics are counted by adding up. -/
theorem additive_metrics : Additive Outcome.metrics := ⟨rfl, fun _ _ => rfl⟩

/-- Dropped items are counted by adding up. -/
theorem additive_droppedItems : Additive Outcome.droppedItems := ⟨rfl, fun _ _ => rfl⟩

/-- Dropped rows are counted by adding up. -/
theorem additive_droppedRows : Additive Outcome.droppedRows := ⟨rfl, fun _ _ => rfl⟩

end Outcome

/-- What came so far of the batch that a worker at this duty has in work. -/
def Duty.sum : Duty → Outcome
  | .busy job => job.sum
  | .idle | .ended | .stopping _ _ | .closing _ | .leaving _ | .failed _ => {}

/-- What a worker has counted, its batch in work included. -/
def Worker.counted (count : Outcome → Nat) (worker : Worker) : Nat :=
  count worker.total + count worker.duty.sum

/-- What is at one place counts once in the sum over all places. -/
theorem sum_onlyAt {place n : Nat} (inside : place < n) (count : List α → Nat)
    (empty : count [] = 0) (xs : List α) :
    ∑ i ∈ Finset.range n, count (onlyAt place xs i) = count xs := by
  rw [Finset.sum_eq_single place]
  · rw [onlyAt_self]
  · intro i _ apart
    rw [onlyAt_other apart, empty]
  · intro outside
    exact absurd (Finset.mem_range.mpr inside) outside

namespace Pipeline

/-- What all workers have counted. -/
def counted (count : Outcome → Nat) (s : Pipeline) : Nat :=
  (s.workers.toList.map (Worker.counted count)).sum

variable {s next : Pipeline} {count : Outcome → Nat}

/-- What workers have counted is told by the workers alone. -/
theorem counted_of_workers (workers : next.workers = s.workers) :
    next.counted count = s.counted count := by
  rw [counted, workers, counted]

/-- All workers have counted more by what the one that moved has. -/
theorem counted_put {index gain : Nat} {old worker : Worker}
    (member : s.workers[index]? = some old)
    (put : next.workers = s.workers.setIfInBounds index worker)
    (more : worker.counted count = old.counted count + gain) :
    next.counted count = s.counted count + gain := by
  obtain ⟨before, behind, cut, set⟩ := set_cut member
  rw [counted, counted, put, set, cut]
  simp only [List.map_append, List.map_cons, List.sum_append, List.sum_cons, more]
  omega

/-- When all workers have ended, what they have counted is what they report. -/
theorem count_total (additive : Outcome.Additive count)
    (ended : ∀ worker ∈ s.workers.toList, worker.duty = .ended) :
    count (Load.total s) = s.counted count := by
  have fold (workers : List Worker) (sum : Outcome)
      (ended : ∀ worker ∈ workers, worker.duty = .ended) :
      count (workers.foldl (fun sum worker => sum + worker.total) sum) =
        count sum + (workers.map (Worker.counted count)).sum := by
    induction workers generalizing sum with
    | nil => rfl
    | cons worker rest ih =>
      have finished := ended worker List.mem_cons_self
      have its : worker.counted count = count worker.total := by
        simp [Worker.counted, finished, Duty.sum, additive.empty]
      rw [List.foldl_cons, ih _ fun other member => ended other (List.mem_cons_of_mem _ member),
        additive.sum, List.map_cons, List.sum_cons, its]
      omega
  rw [Load.total, fold _ _ ended, additive.empty, Nat.zero_add]
  rfl

/-- What the scan of a state has counted once it comes to an end. -/
def tallyAtEnd (s : Pipeline) : Tally :=
  match s.producer with
  | .reading | .sending _ _ => s.scanner.tallyAhead s.plan.intake
  | .finishing _ | .ended (.error _) => s.scanner.tally
  | .ended (.ok tally) => tally

/-- Sending a batch leaves the tally that the scan ends with. -/
theorem Sends.tallyAtEnd {index : Nat} {batch : Batch Item} {doing : Producer}
    (sends : Sends s index batch doing) (producer : next.producer = doing)
    (scanner : next.scanner = s.scanner) (plan : next.plan = s.plan) :
    next.tallyAtEnd = s.tallyAtEnd := by
  cases sends with
  | full was => simp [Pipeline.tallyAtEnd, was, producer, scanner, plan]
  | left was => simp [Pipeline.tallyAtEnd, was, producer, scanner]

/-- No move without a fault changes what the scan comes to. -/
theorem tallyAtEnd_move {actor : Actor} (moved : Move s actor next) (lossless : next.Lossless) :
    next.tallyAtEnd = s.tallyAtEnd := by
  have found {answer : Except Fault (Option Item)} {scanner : Scanner}
      (asked : s.scanner.nextItem s.plan.intake = (answer, scanner)) :
      Scanner.Found s.scanner s.plan.intake (answer, scanner) :=
    asked ▸ Scanner.nextItem_found s.scanner s.plan.intake
  cases moved with
  | broke => exact absurd rfl (lossless.producer _)
  | usedUp doing asked =>
    cases found asked with
    | usedUp items counts => simp [tallyAtEnd, doing, counts]
  | collected doing asked =>
    cases found asked with
    | item items counts => simp [tallyAtEnd, doing, counts]
  | filled doing asked =>
    cases found asked with
    | item items counts => simp [tallyAtEnd, doing, counts]
  | stopped => exact absurd rfl (lossless.producer _)
  | sent sends => exact sends.tallyAtEnd rfl rfl rfl
  | skipped doing => simp [tallyAtEnd, doing]
  | finished doing => simp [tallyAtEnd, doing]
  | took => rfl
  | ended => rfl
  | gaveBack => rfl
  | obtained => rfl
  | wrote => rfl
  | failed => rfl
  | gaveUp => rfl
  | closed => rfl
  | gone => rfl

/-- When everybody is done and nobody has failed, nothing is in flight any more. -/
theorem flight_over (formed : s.Formed) (lossless : s.Lossless) (finished : s.isOver = true) :
    (∃ tally, s.producer = .ended (.ok tally)) ∧
      (∀ worker ∈ s.workers.toList, worker.duty = .ended) ∧
      s.ahead = [] ∧ ∀ i, s.itemsAt i = [] ∧ s.groupsAt i = [] := by
  obtain ⟨stopped, _⟩ := Bool.and_eq_true_iff.mp finished
  have ended (i : Nat) (worker : Worker) (member : s.workers[i]? = some worker) :
      worker.duty = .ended := by
    refine (duty_of_over finished member).resolve_right ?_
    rintro ⟨fault, failed⟩
    have unstopped := lossless.workers i worker member
    simp [failed, Duty.fault?] at unstopped
  have producer : ∃ tally, s.producer = .ended (.ok tally) := by
    cases doing : s.producer with
    | ended result =>
      cases result with
      | ok tally => exact ⟨tally, rfl⟩
      | error fault => exact absurd doing (lossless.producer fault)
    | reading => simp [doing] at stopped
    | sending index full => simp [doing] at stopped
    | finishing index => simp [doing] at stopped
  obtain ⟨tally, doing⟩ := producer
  refine ⟨⟨tally, doing⟩, ?_, by simp [ahead, doing], ?_⟩
  · intro worker member
    obtain ⟨i, found⟩ := List.mem_iff_getElem?.mp member
    rw [Array.getElem?_toList] at found
    exact ended i worker found
  · intro i
    cases member : s.workers[i]? with
    | none => simp [itemsAt, queued, groupsAt, member, doing, Producer.unsent]
    | some worker =>
      have duty := ended i worker member
      have queue := (formed.each i worker member).ended duty
      simp [itemsAt, queued, groupsAt, member, doing, Producer.unsent, duty, queue.1, Duty.groups]

/-- Nobody has failed in a load that ends well. -/
theorem lossless_of_result {summary : Summary} {link : Link} (finished : s.isOver = true)
    (ok : Load.result s = (.ok summary, link)) :
    s.Lossless ∧ s.producer = .ended (.ok summary.scan) ∧ summary.outcome = Load.total s := by
  obtain ⟨stopped, _⟩ := Bool.and_eq_true_iff.mp finished
  unfold Load.result at ok
  rcases closing : Load.closeAll s with ⟨closed, crew, after⟩
  rw [closing] at ok
  dsimp only at ok
  split at ok
  · simp at ok
  · simp at ok
  · simp at ok
  · rename_i tally unfailed scanned
    obtain ⟨same, _⟩ := Prod.mk.inj ok
    obtain rfl := Except.ok.inj same
    have producer : s.producer = .ended (.ok tally) := by
      unfold Load.scanned at scanned
      cases doing : s.producer with
      | ended result =>
        simp only [doing] at scanned
        rw [scanned]
      | reading => simp [doing] at stopped
      | sending index full => simp [doing] at stopped
      | finishing index => simp [doing] at stopped
    refine ⟨⟨?_, by simp [producer]⟩, producer, rfl⟩
    intro i worker member
    have inList : worker ∈ s.workers.toList :=
      Array.mem_toList_iff.mpr (Array.mem_of_getElem? member)
    exact List.findSome?_eq_none_iff.mp unfailed worker inList

end Pipeline

end SeriesBench
