import SeriesBench.Proofs.Load.Flight

/-!
# What arrives and what is written

Everything in flight was scanned, and is at the worker that it was routed to. In a load in
which nobody fails nothing is lost: the points that were written, those in flight and those
still to be scanned are together the points of the input, and for a table that always has the
same worker they are so in order.

What was written is not kept in the state. It is read off the steps: `Pipeline.output` lists
the points that the steps of a schedule write, in the order of the steps.
-/

namespace SeriesBench

namespace Pipeline

/-- The plan never changes. -/
theorem plan_move {s next : Pipeline} {actor : Actor} (moved : Move s actor next) :
    next.plan = s.plan := by
  cases moved <;> rfl

/-- A fault stays: when nobody has failed after a move, nobody had before. For a move replaces at
most one worker, by one that a fault has stopped if one had before, and a producer that is not
done. -/
theorem Lossless.before {s next : Pipeline} {actor : Actor} (lossless : next.Lossless)
    (moved : Move s actor next) : s.Lossless := by
  have kept (workers : next.workers = s.workers) (running : ∀ result, s.producer ≠ .ended result) :
      s.Lossless :=
    ⟨fun i worker member => lossless.workers i worker (workers ▸ member),
      fun fault => running (.error fault)⟩
  have replaced {index : Nat} {old worker : Worker} (member : s.workers[index]? = some old)
      (put : next.workers = s.workers.setIfInBounds index worker)
      (running : ∀ fault, s.producer ≠ .ended (.error fault))
      (stays : worker.duty.fault? = none → old.duty.fault? = none) : s.Lossless := by
    refine ⟨?_, running⟩
    intro i other inWorkers
    by_cases here : i = index
    · subst here
      obtain rfl : old = other := Option.some.inj (member.symm.trans inWorkers)
      exact stays (lossless.workers i worker (put ▸ member_put member worker))
    · refine lossless.workers i other ?_
      rw [put, getElem?_put member, if_neg here]
      exact inWorkers
  cases moved with
  | broke doing => exact kept rfl (by simp [doing])
  | usedUp doing => exact kept rfl (by simp [doing])
  | collected doing => exact kept rfl (by simp [doing])
  | filled doing => exact kept rfl (by simp [doing])
  | stopped sends => exact kept rfl sends.running
  | sent sends member => exact replaced member rfl (fun fault => sends.running (.error fault)) id
  | skipped doing => exact kept rfl (by simp [doing])
  | finished doing => exact kept rfl (by simp [doing])
  | took member idle => exact replaced member rfl lossless.producer (by simp [idle, Duty.fault?])
  | ended member idle => exact replaced member rfl lossless.producer (by simp [idle, Duty.fault?])
  | gaveBack works | obtained works | wrote works | failed works =>
    exact replaced works.member rfl lossless.producer (by simp [works.busy, Duty.fault?])
  | gaveUp member | closed member | gone member =>
    exact replaced member rfl lossless.producer (by simp [Duty.fault?])

/-- The worker that a table always has, if tables are routed by their name. -/
def Home (plan : LoadPlan) (table : String) (index : Nat) : Prop :=
  plan.routing = .byMeasurement → Router.partitionOf plan.workers table = index

/-- What is in flight are items of a scan that gave `all` of them, each at its home. -/
structure Carried (all : List Item) (s : Pipeline) : Prop where
  ahead : s.ahead ⊆ all
  items : ∀ i, ∀ item ∈ s.itemsAt i, item ∈ all ∧ Home s.plan item.measurement i
  groups : ∀ i, ∀ group ∈ s.groupsAt i, group.Uniform ∧ Home s.plan group.table i ∧
    ∀ p ∈ group.points, ∃ item ∈ all, item.decoded = some p

/-- What is found at an index of a list at one place is of that list. -/
theorem mem_onlyAt {place index : Nat} {xs : List α} {x : α} :
    x ∈ onlyAt place xs index ↔ index = place ∧ x ∈ xs := by
  unfold onlyAt
  split <;> simp_all

/-- An item is routed to its home. -/
theorem home_route {s : Pipeline} (formed : s.Formed) (item : Item) :
    Home s.plan item.measurement (s.router.route item).1 := by
  intro byName
  have routing : s.router.routing = .byMeasurement := formed.routing.trans byName
  simp [Router.route, routing, formed.partitions]

/-- The points that sorting gives were among the items, so they keep their home. -/
theorem carried_sort {all items : List Item} {plan : LoadPlan} {i : Nat}
    (proper : ∀ item ∈ all, item.Proper)
    (given : ∀ item ∈ items, item ∈ all ∧ Home plan item.measurement i) :
    ∀ group ∈ (Ingest.sort items ([], 0)).1, group.Uniform ∧ Home plan group.table i ∧
      ∀ p ∈ group.points, ∃ item ∈ all, item.decoded = some p := by
  intro group member
  have sorted := (Ingest.sort_spec items Ingest.sorted_nil 0).1
  have origin (p : Point) (inside : p ∈ group.points) :
      ∃ item ∈ items, item.decoded = some p := by
    have inPoints : p ∈ ofTable p.measurement (Ingest.pointsIn (Ingest.sort items ([], 0)).1) :=
      mem_ofTable.mpr ⟨List.mem_flatMap.mpr ⟨group, member, inside⟩, rfl⟩
    rw [Ingest.ofTable_sort] at inPoints
    exact List.mem_filterMap.mp (mem_ofTable.mp inPoints).1
  refine ⟨sorted.uniform group member, ?_, ?_⟩
  · obtain ⟨item, inItems, decodes⟩ := origin group.first List.mem_cons_self
    obtain ⟨inAll, home⟩ := given item inItems
    rwa [(proper item inAll).routed _ decodes] at home
  · intro p inside
    obtain ⟨item, inItems, decodes⟩ := origin p inside
    exact ⟨item, (given item inItems).1, decodes⟩

/-- Every move carries on only what was carried before. -/
theorem carried_move {all : List Item} (proper : ∀ item ∈ all, item.Proper) {s next : Pipeline}
    {actor : Actor} (formed : s.Formed) (carried : Carried all s) (moved : Move s actor next) :
    Carried all next := by
  have plan := plan_move moved
  cases flow_of_move formed moved with
  | arrived item ahead items groups =>
    refine ⟨?_, ?_, ?_⟩
    · exact fun other member => carried.ahead (ahead ▸ List.mem_cons_of_mem _ member)
    · intro i other member
      rw [plan]
      rw [items] at member
      rcases List.mem_append.mp member with old | new
      · exact carried.items i other old
      · obtain ⟨rfl, single⟩ := mem_onlyAt.mp new
        obtain rfl := List.mem_singleton.mp single
        exact ⟨carried.ahead (ahead ▸ List.mem_cons_self), home_route formed other⟩
    · simpa only [groups, plan] using carried.groups
  | sorted place ahead items free groups =>
    refine ⟨ahead ▸ carried.ahead, ?_, ?_⟩
    · intro i other member
      rw [plan]
      refine carried.items i other ?_
      rw [items]
      exact List.mem_append_right _ member
    · intro i group member
      rw [plan]
      rw [groups] at member
      split at member
      · rename_i here
        refine carried_sort proper ?_ group member
        intro item inTaken
        refine carried.items i item ?_
        rw [items]
        exact List.mem_append_left _ (mem_onlyAt.mpr ⟨here, inTaken⟩)
      · exact carried.groups i group member
  | left place group ahead items groups =>
    refine ⟨ahead ▸ carried.ahead, by simpa only [items, plan] using carried.items, ?_⟩
    intro i other member
    rw [plan]
    refine carried.groups i other ?_
    rw [groups]
    exact List.mem_append_right _ member
  | still ahead items groups =>
    exact ⟨ahead ▸ carried.ahead, by simpa only [items, plan] using carried.items,
      by simpa only [groups, plan] using carried.groups⟩
  | lost ahead items groups =>
    refine ⟨fun _ member => carried.ahead (ahead member), ?_, ?_⟩
    · intro i item member
      rw [plan]
      exact carried.items i item (items i member)
    · intro i group member
      rw [plan]
      exact carried.groups i group (groups i member)

/-- At first everything is still to be scanned. -/
theorem flight_start (plan : LoadPlan) (router : Router) (scanner : Scanner) (link : Link) :
    (start plan router scanner link).ahead =
        Scanner.itemsOf plan.intake (Scanner.linesAhead scanner.upcoming) ∧
      ∀ i, (start plan router scanner link).itemsAt i = [] ∧
        (start plan router scanner link).groupsAt i = [] := by
  rw [start_eq]
  refine ⟨rfl, fun i => ?_⟩
  by_cases inside : i < plan.workers
  · simp [itemsAt, queued, groupsAt, Producer.unsent, itemsIn, inside, Batch.withRoom, Duty.groups]
  · simp [itemsAt, queued, groupsAt, Producer.unsent, itemsIn, inside]

/-- Before the first step, everything that will be carried is still to be scanned. -/
theorem carried_start (plan : LoadPlan) (router : Router) (scanner : Scanner) (link : Link) :
    Carried (Scanner.itemsOf plan.intake (Scanner.linesAhead scanner.upcoming))
      (start plan router scanner link) := by
  obtain ⟨ahead, flight⟩ := flight_start plan router scanner link
  refine ⟨?_, by simp [flight], by simp [flight]⟩
  rw [ahead]
  exact List.Subset.refl _

/-- The points that are still to be scanned. -/
def pointsAhead (s : Pipeline) : List Point :=
  s.ahead.filterMap Item.decoded

/-- A move of a load without faults takes points from what is still to be scanned to one
worker, and from one worker to what is written; for each table they go in order. -/
structure Shift (s next : Pipeline) (actor : Actor) (entry exit : Nat) (arrived : List Point) :
    Prop where
  entryInside : entry < s.plan.workers
  exitInside : exit < s.plan.workers
  ahead : s.pointsAhead = arrived ++ next.pointsAhead
  entryHome : ∀ p ∈ arrived, Home s.plan p.measurement entry
  exitHome : ∀ p ∈ s.written actor, Home s.plan p.measurement exit
  points : ∀ i table, ofTable table (s.pointsAt i ++ onlyAt entry arrived i) =
    ofTable table (onlyAt exit (s.written actor) i ++ next.pointsAt i)

/-- Every move of a load without faults is a shift, which for most moves is of no points at all. -/
theorem shift_of_move {all : List Item} (proper : ∀ item ∈ all, item.Proper) {s next : Pipeline}
    {actor : Actor} (formed : s.Formed) (carried : Carried all s) (moved : Move s actor next)
    (lossless : next.Lossless) : ∃ entry exit arrived, Shift s next actor entry exit arrived := by
  have worker := formed.sound.2.1
  cases flow_of_move formed moved with
  | arrived item ahead items groups takes writes =>
    refine ⟨(s.router.route item).1, 0, item.decoded.toList, ?_, worker, ?_, ?_, by simp [writes],
      ?_⟩
    · exact formed.partitions ▸ s.router.route_lt item
    · cases decodes : item.decoded <;> simp [pointsAhead, ahead, decodes]
    · intro p member
      have decodes : item.decoded = some p := by simpa using member
      have inAll : item ∈ all := carried.ahead (ahead ▸ List.mem_cons_self)
      rw [← (proper item inAll).routed p decodes]
      exact home_route formed item
    · intro i table
      have new : (onlyAt (s.router.route item).1 [item] i).filterMap Item.decoded =
          onlyAt (s.router.route item).1 item.decoded.toList i := by
        unfold onlyAt
        split
        · cases decodes : item.decoded <;> simp [decodes]
        · rfl
      simp [pointsAt, items, groups, writes, new]
  | sorted place ahead items free groups inside writes =>
    refine ⟨0, 0, [], worker, worker, by simp [pointsAhead, ahead], by simp, by simp [writes], ?_⟩
    intro i table
    simp only [pointsAt, groups, writes, items i, List.filterMap_append, ofTable_append]
    by_cases here : i = place
    · subst here
      simp [free, Ingest.pointsIn, onlyAt, ← Ingest.ofTable_sort (s.taken actor) table]
    · simp [here, onlyAt]
  | left place group ahead items groups inside takes writes =>
    have inGroups : group ∈ s.groupsAt place := by simp [groups]
    obtain ⟨uniform, home, _⟩ := carried.groups place group inGroups
    refine ⟨0, place, [], worker, formed.workers ▸ inside, by simp [pointsAhead, ahead], by simp,
      ?_, ?_⟩
    · intro p member
      rw [writes] at member
      rw [uniform p member]
      exact home
    · intro i table
      have apart : Ingest.pointsIn (onlyAt place [group] i) = onlyAt place group.points i := by
        unfold onlyAt
        split <;> simp [Ingest.pointsIn]
      have joined (xs ys : List Ingest.Group) :
          Ingest.pointsIn (xs ++ ys) = Ingest.pointsIn xs ++ Ingest.pointsIn ys := by
        simp [Ingest.pointsIn]
      simp [pointsAt, groups i, items, joined, apart, writes]
  | still ahead items groups takes writes =>
    refine ⟨0, 0, [], worker, worker, by simp [pointsAhead, ahead], by simp, by simp [writes], ?_⟩
    intro i table
    simp [pointsAt, items, groups, writes]
  | lost ahead items groups failed => exact absurd lossless failed

/-- The points that the steps of a schedule write, in the order of the steps. -/
def output (s : Pipeline) : List Actor → List Point
  | [] => []
  | actor :: rest => s.written actor ++
    match s.step actor with
    | some next => next.output rest
    | none => []

/-- What the moves of a load keep, given what was written before them, holds at the end of a run
for all that was written. So does the shape. -/
theorem run_accounts {Kept : List Point → Pipeline → Prop}
    (move : ∀ done s actor next, s.Formed → Kept done s → Move s actor next →
      Kept (done ++ s.written actor) next)
    {s last : Pipeline} {schedule : List Actor} (formed : s.Formed) (done : List Point)
    (kept : Kept done s) (ran : s.run schedule = some last) :
    last.Formed ∧ Kept (done ++ s.output schedule) last := by
  induction schedule generalizing s done with
  | nil =>
    obtain rfl := Option.some.inj ran
    exact ⟨formed, by simpa [output] using kept⟩
  | cons actor rest ih =>
    obtain ⟨next, step, ran⟩ := Option.bind_eq_some_iff.mp ran
    have moved := move_of_step formed.covered step
    have later := ih (formed_move formed moved) (done ++ s.written actor)
      (move done s actor next formed kept moved) ran
    simpa [output, step] using later

end Pipeline

end SeriesBench
