import SeriesBench.Proofs.Load.Counts

/-!
# What a move does to the writers

In a load without faults there are three kinds of moves, as far as writers and counts are
concerned. A move may leave the writers alone; then nothing is counted but the items of a batch
that was taken and do not decode. It may add a writer for a table that had none, made from the
first point of the table that its worker has. Or it writes to one writer, whose buffer is empty
before and after, and counts what came of that.
-/

namespace SeriesBench

namespace Pipeline

variable {s next : Pipeline}

/-- The effect of one move on the writers and the counts. -/
inductive Change (s next : Pipeline) (actor : Actor) : Prop where
  /-- No writer is touched. -/
  | counted (writers : next.crew.writers = s.crew.writers) (link : next.link = s.link)
      (writes : s.written actor = [])
      (counts : ∀ count, Outcome.Additive count → next.counted count = s.counted count +
        count { droppedItems := (s.taken actor).countP Item.undecodable })
  /-- A table gets its writer. -/
  | enrolled (index : Nat) (group : Ingest.Group) (rest : List Ingest.Group) (layout : Layout)
      (before behind : List TableWriter) (front : s.groupsAt index = group :: rest)
      (was : s.crew.writers = before ++ behind)
      (now : next.crew.writers =
        before ++ .create group.table group.first layout :: behind)
      (new : group.table ∉ s.crew.made) (link : next.link = s.link)
      (writes : s.written actor = []) (takes : s.taken actor = [])
      (counts : ∀ count, Outcome.Additive count → next.counted count = s.counted count)
  /-- A table is written. -/
  | wrote (w other : TableWriter) (before behind : List TableWriter) (gain : Outcome)
      (was : s.crew.writers = before ++ w :: behind)
      (now : next.crew.writers = before ++ other :: behind)
      (its : ∀ p ∈ s.written actor, p.measurement = w.table) (opened : w.closed = false)
      (written : Ingest.Written s.plan.transmit w s.link (s.written actor) gain other next.link)
      (takes : s.taken actor = [])
      (counts : ∀ count, Outcome.Additive count → next.counted count = s.counted count + count gain)

/-- A move that touches neither writers nor workers counts nothing. -/
theorem change_of_same {actor : Actor} (workers : next.workers = s.workers)
    (crew : next.crew = s.crew) (link : next.link = s.link) (writes : s.written actor = [])
    (takes : s.taken actor = []) : Change s next actor := by
  refine .counted (by rw [crew]) link writes ?_
  intro count additive
  rw [takes, counted_of_workers workers]
  exact (congrArg (s.counted count + ·) additive.empty).symm

/-- A worker that neither takes nor writes and has counted as much as before. -/
theorem change_of_worker {index : Nat} {old worker : Worker}
    (replaces : Replaces s next index old worker) (crew : next.crew = s.crew)
    (link : next.link = s.link) (writes : old.duty.writes = []) (takes : old.takes = [])
    (same : ∀ count, Outcome.Additive count → worker.counted count = old.counted count) :
    Change s next (.worker index) := by
  refine .counted (by rw [crew]) link ?_ ?_
  · rw [written_of_member replaces.member, writes]
  · intro count additive
    rw [taken_of_member replaces.member, takes]
    refine counted_put replaces.member replaces.workers ?_
    rw [same count additive]
    exact (congrArg (old.counted count + ·) additive.empty).symm

/-- A worker that takes a batch counts the items that do not decode. -/
theorem change_took {index : Nat} {worker : Worker} {batch : Batch Item}
    {rest : List (Batch Item)} (idle : worker.duty = .idle) (queued : worker.queue = batch :: rest)
    (replaces : Replaces s next index worker
      { worker with queue := rest, duty := .busy (jobOf batch) })
    (crew : next.crew = s.crew) (link : next.link = s.link) : Change s next (.worker index) := by
  refine .counted (by rw [crew]) link ?_ ?_
  · simp [written_of_member replaces.member, idle, Duty.writes]
  · intro count additive
    have takes : s.taken (.worker index) = batch.items.toList := by
      rw [taken_of_member replaces.member]
      cases worker
      simp only at idle queued
      simp [Worker.takes, idle, queued]
    have undecoded := (Ingest.sort_spec batch.items.toList Ingest.sorted_nil 0).2.1
    rw [takes]
    refine counted_put replaces.member replaces.workers ?_
    simp only [Worker.counted, idle, Duty.sum, jobOf, undecoded, Nat.zero_add, additive.empty]
    omega

/-- A worker that asks for a writer adds at most the one of its next table. -/
theorem change_obtained (staffed : s.Staffed) (formed : s.Formed) {all : List Item}
    (carried : Carried all s) {index : Nat} {worker : Worker} {job : Job} {group : Ingest.Group}
    {rest : List Ingest.Group} {r : Registry} (works : Works s index worker job)
    (groups : job.groups = group :: rest) (unasked : job.handle = none)
    (owner : s.crew.registryOf index = some r)
    (replaces : Replaces s next index worker { worker with
      duty := .busy { job with handle := some (r.obtain group.first).1 } })
    (crew : next.crew = s.crew.put index (r.obtain group.first).2) (link : next.link = s.link) :
    Change s next (.worker index) := by
  have working : ¬ worker.duty.HasClosed := by simp [Duty.HasClosed, works.busy]
  have live := staffed.owner_live works.member working owner
  have front : s.groupsAt index = group :: rest := by
    simp [groupsAt_of_member works.member, works.busy, Duty.groups, groups]
  obtain ⟨_, home, _⟩ := carried.groups index group (front ▸ List.mem_cons_self)
  obtain ⟨before, behind, cut, writers⟩ := Crew.writers_put owner
  have takes : s.taken (.worker index) = [] := by
    rw [taken_of_member works.member, takes_of_busy works.busy]
  have writes : s.written (.worker index) = [] := by
    cases job
    simp only at unasked
    simp [written_of_member works.member, works.busy, Duty.writes, unasked]
  have counts (count : Outcome → Nat) (_ : Outcome.Additive count) :
      next.counted count = s.counted count := by
    have more : Worker.counted count { worker with
        duty := .busy { job with handle := some (r.obtain group.first).1 } } =
          worker.counted count + 0 := by
      simp [Worker.counted, works.busy, Duty.sum]
    exact counted_put replaces.member replaces.workers more
  rcases Registry.obtain_cases live group.first with ⟨same, _⟩ | ⟨new, grown⟩
  · refine .counted ?_ link writes ?_
    · rw [crew, same, writers, ← cut]
    · intro count additive
      rw [takes, counts count additive]
      exact (congrArg (s.counted count + ·) additive.empty).symm
  · refine .enrolled index group rest r.layout (before ++ r.writers.toList) behind front cut ?_
      (staffed.new_of_home formed owner home new) link writes takes counts
    rw [crew, writers, grown]
    simp [Registry.enlarge, Ingest.Group.table]

/-- A worker that writes finds the open writer of its table, and puts it back. -/
theorem change_wrote (staffed : s.Staffed) {all : List Item} (carried : Carried all s)
    (empty : ∀ w ∈ s.crew.writers, w.Holds []) {index : Nat} {worker : Worker} {job : Job}
    {group : Ingest.Group} {rest : List Ingest.Group} {handle : Nat} {r written : Registry}
    {link : Link} {outcome : Outcome} (works : Works s index worker job)
    (groups : job.groups = group :: rest) (asked : job.handle = some handle)
    (owner : s.crew.registryOf index = some r)
    (answer : Ingest.writeAt s.plan.transmit r s.link handle group.points =
      (.ok outcome, written, link))
    (replaces : Replaces s next index worker { worker with
      duty := .busy { job with groups := rest, handle := none, sum := job.sum + outcome } })
    (crew : next.crew = s.crew.put index written) (after : next.link = link) :
    Change s next (.worker index) := by
  obtain ⟨w, member, table, opened⟩ := staffed.writer works groups asked owner
  have front : s.groupsAt index = group :: rest := by
    simp [groupsAt_of_member works.member, works.busy, Duty.groups, groups]
  obtain ⟨uniform, _, _⟩ := carried.groups index group (front ▸ List.mem_cons_self)
  obtain ⟨before, behind, cut, writers⟩ := Crew.writers_put owner
  obtain ⟨left, right, inside, put⟩ := Registry.put_cut member
  have writes : s.written (.worker index) = group.points := by
    cases job
    simp only at groups asked
    simp [written_of_member works.member, works.busy, Duty.writes, groups, asked]
  have was : s.crew.writers = (before ++ left) ++ w :: (right ++ behind) := by
    simp [cut, inside]
  rw [Ingest.writeAt_eq s.link group.points member] at answer
  obtain ⟨succeeded, back⟩ := Prod.mk.inj answer
  obtain ⟨registry, same⟩ := Prod.mk.inj back
  subst registry same
  let other := (Ingest.writeTable s.plan.transmit w s.link group.points).2.1
  refine .wrote w other (before ++ left) (right ++ behind) outcome was ?_ ?_ opened ?_ ?_ ?_
  · rw [crew, writers, put]
    simp [other]
  · intro p inPoints
    rw [writes] at inPoints
    exact (uniform p inPoints).trans table.symm
  · rw [writes, after]
    refine Ingest.writeTable_ok (empty w (by simp [was])) opened ?_
    rw [← succeeded]
  · rw [taken_of_member works.member, takes_of_busy works.busy]
  · intro count additive
    refine counted_put replaces.member replaces.workers ?_
    simp only [Worker.counted, works.busy, Duty.sum, additive.sum]
    omega

/-- Every move of a load without faults has one of the effects, as long as all buffers are
empty. -/
theorem change_of_move {all : List Item} {actor : Actor} (formed : s.Formed)
    (carried : Carried all s) (staffed : s.Staffed) (empty : ∀ w ∈ s.crew.writers, w.Holds [])
    (moved : Move s actor next) (lossless : next.Lossless) : Change s next actor := by
  cases moved with
  | broke => exact change_of_same rfl rfl rfl rfl rfl
  | usedUp => exact change_of_same rfl rfl rfl rfl rfl
  | collected => exact change_of_same rfl rfl rfl rfl rfl
  | filled => exact change_of_same rfl rfl rfl rfl rfl
  | stopped => exact change_of_same rfl rfl rfl rfl rfl
  | sent sends member =>
    refine .counted rfl rfl rfl ?_
    intro count additive
    refine counted_put member rfl ?_
    exact (congrArg (Worker.counted count _ + ·) additive.empty).symm
  | skipped => exact change_of_same rfl rfl rfl rfl rfl
  | finished => exact change_of_same rfl rfl rfl rfl rfl
  | took member idle queued =>
    exact change_took idle queued (.put member) rfl rfl
  | @ended index worker result member idle queued =>
    refine change_of_worker (.put member) rfl rfl (by simp [idle, Duty.writes])
      ?_ ?_
    · cases worker
      simp only at queued
      simp [Worker.takes, queued]
    · simp [Worker.counted, idle, Duty.sum]
  | @gaveBack index worker job works done =>
    refine change_of_worker (.put works.member) rfl rfl ?_
      (takes_of_busy works.busy) ?_
    · obtain ⟨member, busy⟩ := works
      cases job
      simp only at done
      simp [busy, Duty.writes, done]
    · intro count additive
      simp [Worker.counted, works.busy, Duty.sum, additive.sum, additive.empty]
  | obtained works groups unasked owner =>
    exact change_obtained staffed formed carried works groups unasked owner
      (.put works.member) rfl rfl
  | wrote works groups asked owner answer =>
    exact change_wrote staffed carried empty works groups asked owner answer
      (.put works.member) rfl rfl
  | failed works => exact absurd lossless (not_lossless (.put works.member) rfl)
  | gaveUp member => exact absurd lossless (not_lossless (.put member) rfl)
  | closed member => exact absurd lossless (not_lossless (.put member) rfl)
  | gone member => exact absurd lossless (not_lossless (.put member) rfl)

end Pipeline

end SeriesBench
