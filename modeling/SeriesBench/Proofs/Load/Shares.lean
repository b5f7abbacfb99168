import SeriesBench.Proofs.Load.Dealings
import SeriesBench.Proofs.Remote.Obliging

/-!
# Every worker is sent its share

When a producer is done and no batch failed to be sent, every worker was sent the items that were
routed to it, in order and in batches that are full but for the last one. That holds of any
dealing, whatever the items are and however the steps of the workers fall between those of the
producer; and a load is a dealing of the items that its scanner finds, so it holds of loads.
-/

namespace SeriesBench

namespace Pipeline

/-- What a step of an actor sends to a worker. -/
def sentBy (s next : Pipeline) : Actor → Nat → List (Batch Item)
  | .producer, index => s.added next index
  | .worker _, _ => []

/-- What the steps of a schedule send to a worker, in the order of the steps. -/
def sentIn (s : Pipeline) : List Actor → Nat → List (Batch Item)
  | [], _ => []
  | actor :: rest, index =>
    match s.step actor with
    | some next => s.sentBy next actor index ++ next.sentIn rest index
    | none => []

variable {s next : Pipeline}

/-- Looking for an item does not concern the workers. -/
theorem workers_move (reading : s.producer = .reading) (moved : Move s .producer next) :
    next.workers = s.workers := by
  cases moved with
  | broke | usedUp | collected | filled => rfl
  | stopped sends | sent sends => cases sends with
    | full doing | left doing => simp [reading] at doing
  | skipped doing | finished doing => simp [reading] at doing

/-- Adding an item leaves what is still to be scanned. -/
theorem ahead_addItem (covered : s.pending.size = s.router.partitions)
    (reading : s.producer = .reading) (item : Item) : (s.addItem item).ahead = s.ahead := by
  have begun := Array.getElem?_eq_getElem (covered ▸ s.router.route_lt item)
  rcases addItem_cases begun with ⟨_, added⟩ | ⟨_, added⟩ <;> rw [added] <;> simp [ahead, reading]

/-- A look for the next item is a step of a dealing of the items that are found, unless the
input breaks off. -/
theorem deal_read (covered : s.pending.size = s.router.partitions) (reading : s.producer = .reading)
    (unbroken : ∀ fault, s.read.producer ≠ .ended (.error fault)) (sent : Nat → List (Batch Item)) :
    Deal ⟨s, s.ahead, sent⟩ ⟨s.read, s.read.ahead, sent⟩ := by
  have scan := Scanner.nextItem_found s.scanner s.plan.intake
  rcases found : s.scanner.nextItem s.plan.intake with ⟨answer, scanner⟩
  rw [found] at scan
  cases scan with
  | @item item _ items =>
    have read : s.read = { s with scanner }.addItem item := by simp only [Pipeline.read, found]
    have kept : s.read.ahead =
        Scanner.itemsOf s.plan.intake (Scanner.linesAhead scanner.upcoming) := by
      rw [read, ahead_addItem (s := { s with scanner }) covered reading]
      simp [ahead, reading]
    have due : s.ahead = item :: s.read.ahead := by
      rw [kept, ← items]
      simp [ahead, reading]
    have given := Deal.given (d := ⟨s, s.ahead, sent⟩) reading due scanner
    rwa [← read] at given
  | usedUp items =>
    have read : s.read = { s with scanner, producer := .finishing 0 } := by
      simp only [Pipeline.read, found]
    have none : s.ahead = [] := by simpa [ahead, reading] using items
    have usedUp := Deal.usedUp (d := ⟨s, s.ahead, sent⟩) reading none scanner
    rw [← read] at usedUp
    have kept : s.read.ahead = s.ahead := by
      rw [none, read]
      rfl
    rwa [kept]
  | failed =>
    have read : s.read.producer = .ended (.error (.input scanner.tally.lines)) := by
      simp only [Pipeline.read, found]
    exact absurd read (unbroken _)

/-- What the producer does without looking for an item leaves what is still to be scanned, unless
it breaks off. -/
theorem ahead_move (busy : s.producer ≠ .reading) (moved : Move s .producer next)
    (unbroken : ∀ fault, next.producer ≠ .ended (.error fault)) : next.ahead = s.ahead := by
  cases moved with
  | broke doing | usedUp doing | collected doing | filled doing => exact absurd doing busy
  | stopped => exact absurd rfl (unbroken _)
  | sent sends => cases sends with
    | full doing | left doing => simp [ahead, doing]
  | skipped doing | finished doing => simp [ahead, doing]

/-- A step of a load is a step of a dealing, unless it breaks off. -/
theorem deal_step {actor : Actor} (covered : s.pending.size = s.router.partitions)
    (moved : s.step actor = some next) (unbroken : ∀ fault, next.producer ≠ .ended (.error fault))
    (sent : Nat → List (Batch Item)) :
    Deal ⟨s, s.ahead, sent⟩
      ⟨next, next.ahead, fun index => sent index ++ s.sentBy next actor index⟩ := by
  cases actor with
  | producer =>
    by_cases reading : s.producer = .reading
    · simp only [step, stepProducer, reading, Option.some.injEq] at moved
      subst moved
      have workers := workers_move reading (move_of_read covered reading)
      simpa [sentBy, added_of_workers workers] using deal_read covered reading unbroken sent
    · rw [ahead_move reading (move_of_step covered moved) unbroken]
      exact .produced reading moved
  | worker index =>
    have beside := beside_move (move_of_stepWorker moved)
    have kept : next.ahead = s.ahead := by
      simp only [ahead, beside.producer, beside.plan, beside.scanner]
    have worked := Deal.worked (d := ⟨s, s.ahead, sent⟩) moved
    simpa [sentBy, kept] using worked

/-- A producer that is done stays done, by induction on the schedule. -/
theorem ended_run {last : Pipeline} {schedule : List Actor} {result : Except Fault Tally}
    (covered : s.pending.size = s.router.partitions) (finished : s.producer = .ended result)
    (ran : s.run schedule = some last) : last.producer = .ended result := by
  induction schedule generalizing s with
  | nil =>
    obtain rfl := Option.some.inj ran
    exact finished
  | cons actor rest ih =>
    obtain ⟨next, step, ran⟩ := Option.bind_eq_some_iff.mp ran
    have moved := move_of_step covered step
    exact ih (covered_move covered moved) (ended_move finished moved) ran

/-- A load whose producer does not break off is a dealing of the items that are still to be scanned.
A producer that had broken off on the way would have done so at the end. -/
theorem deals_of_run {last : Pipeline} {schedule : List Actor}
    (covered : s.pending.size = s.router.partitions) (ran : s.run schedule = some last)
    (unbroken : ∀ fault, last.producer ≠ .ended (.error fault)) (sent : Nat → List (Batch Item)) :
    Relation.ReflTransGen Deal ⟨s, s.ahead, sent⟩
      ⟨last, last.ahead, fun index => sent index ++ s.sentIn schedule index⟩ := by
  induction schedule generalizing s sent with
  | nil =>
    obtain rfl := Option.some.inj ran
    simpa [sentIn] using Relation.ReflTransGen.refl
  | cons actor rest ih =>
    obtain ⟨next, moved, ran⟩ := Option.bind_eq_some_iff.mp ran
    have coveredNext := covered_move covered (move_of_step covered moved)
    have unbrokenNext (fault : Fault) (broken : next.producer = .ended (.error fault)) : False :=
      unbroken fault (ended_run coveredNext broken ran)
    have later := ih coveredNext ran fun index => sent index ++ s.sentBy next actor index
    simp only [List.append_assoc] at later
    simpa only [sentIn, moved] using later.head (deal_step covered moved unbrokenNext sent)

end Pipeline

/-- What the steps of a load send, if no batch fails to be sent and the input does not break off:
to every worker its share of the items that were scanned. -/
theorem Pipeline.loads_send_shares {plan : LoadPlan} {router : Router} (sized : 0 < plan.batchSize)
    (made : Router.make plan.routing plan.workers = .ok router) {scanner : Scanner} {link : Link}
    {schedule : List Actor} {last : Pipeline} {tally : Tally}
    (ran : (start plan router scanner link).run schedule = some last)
    (finished : last.producer = .ended (.ok tally)) (index : Nat) :
    contents ((start plan router scanner link).sentIn schedule index) =
        router.share (Scanner.itemsOf plan.intake (Scanner.linesAhead scanner.upcoming)) index ∧
      Portions plan.batchSize ((start plan router scanner link).sentIn schedule index) := by
  have first := Dealing.orderly_start sized made scanner link (start plan router scanner link).ahead
  have dealt := deals_of_run first.covered ran (by simp [finished]) fun _ => []
  have orderly := Dealing.orderly_of_deals sized first dealt (by simp [finished])
  have shares := orderly.shares finished index
  rw [(flight_start plan router scanner link).1] at shares
  exact ⟨shares, orderly.portions index⟩

/-- What a worker is sent, if no batch fails to be sent, whatever the workers do meanwhile: its
share of the items, in order, in batches that are full but for the last one. The shares are
together all items.

Proof: every step keeps the dealing `Orderly`: what was sent to a worker, what is about to be sent
and what is begun for it are together its share of the items dealt so far, and all batches sent
before the end are full. When the producer is done, nothing is begun any more. -/
theorem Dealing.sends_every_share {plan : LoadPlan} {router : Router} (sized : 0 < plan.batchSize)
    (made : Router.make plan.routing plan.workers = .ok router) {scanner : Scanner} {link : Link}
    {items : List Item} {last : Dealing} {tally : Tally}
    (dealt : Relation.ReflTransGen Deal (start plan router scanner link items) last)
    (finished : last.load.producer = .ended (.ok tally)) :
    (∀ index, contents (last.sent index) = router.share items index ∧
      Portions plan.batchSize (last.sent index)) ∧
    ((List.range plan.workers).flatMap fun index => contents (last.sent index)).Perm items := by
  have orderly := orderly_of_deals sized (orderly_start sized made scanner link items) dealt
    (by simp [finished])
  have shares := orderly.shares finished
  refine ⟨fun index => ⟨shares index, orderly.portions index⟩, ?_⟩
  simp only [shares, ← Router.partitions_of_make made]
  exact router.share_perm items

/-- The counts of a producer that is done and met no fault. -/
def Producer.counts : Producer → Option Tally
  | .ended result => result.toOption
  | .reading | .sending _ _ | .finishing _ => none

/-- A producer with counts is done, and nothing went wrong. -/
theorem Producer.ended_of_counts {producer : Producer} {tally : Tally}
    (counts : producer.counts = some tally) : producer = .ended (.ok tally) := by
  cases producer with
  | ended result =>
    cases result with
    | ok counted => exact congrArg _ (congrArg Except.ok (Option.some.inj counts))
    | error => contradiction
  | reading | sending | finishing => contradiction

/-- Two workers take lines in turn, two at a time. -/
def dealtPlan : LoadPlan where
  batchSize := 2
  workers := 2
  routing := .inTurn
  intake := .lines

/-- The router of that plan. -/
def dealtRouter : Router := ⟨.inTurn, 2, 0, by decide⟩

/-- An input of five lines. -/
def dealtInput : List Chunk :=
  [.bytes "a\nb\nc\nd\ne\n".toUTF8.data.toList]

/-- The first worker takes a batch and gives it back before the producer needs one. -/
def dealtSchedule : List Actor :=
  [.producer, .producer, .producer, .producer, .worker 0, .worker 0, .producer, .producer,
    .producer, .producer, .producer, .producer, .producer]

/-- Five items are dealt out to two workers, who get three and two of them, in batches of at most
two. -/
theorem Dealing.dealtInput_is_shared :
    ∃ last : Dealing,
      Relation.ReflTransGen Deal
        (start dealtPlan dealtRouter (.ofChunks dealtInput) (.fresh .agreeable)
          [.line "a", .line "b", .line "c", .line "d", .line "e"]) last ∧
      last.load.producer = .ended (.ok ⟨5, 0⟩) ∧
      contents (last.sent 0) = [.line "a", .line "c", .line "e"] ∧
      contents (last.sent 1) = [.line "b", .line "d"] ∧
      Portions 2 (last.sent 0) ∧ Portions 2 (last.sent 1) := by
  let first := Pipeline.start dealtPlan dealtRouter (.ofChunks dealtInput) (.fresh .agreeable)
  have counted : (first.run dealtSchedule).bind (·.producer.counts) = some ⟨5, 0⟩ := by
    decide +kernel
  have found : first.ahead = [.line "a", .line "b", .line "c", .line "d", .line "e"] := by
    decide +kernel
  have made : Router.make dealtPlan.routing dealtPlan.workers = .ok dealtRouter := rfl
  obtain ⟨s, ran, done⟩ := Option.bind_eq_some_iff.mp counted
  have finished : s.producer = .ended (.ok ⟨5, 0⟩) := Producer.ended_of_counts done
  have dealt := Pipeline.deals_of_run (by decide +kernel) ran (by simp [finished]) fun _ => []
  rw [found] at dealt
  obtain ⟨shares, _⟩ := sends_every_share (by decide) made dealt finished
  exact ⟨_, dealt, finished, (shares 0).1.trans (by decide +kernel),
    (shares 1).1.trans (by decide +kernel), (shares 0).2, (shares 1).2⟩

end SeriesBench
