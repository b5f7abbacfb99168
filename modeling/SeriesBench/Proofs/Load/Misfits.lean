import SeriesBench.Proofs.Load.Staff
import SeriesBench.Proofs.Worker.Resumed

/-!
# Why a worker fails

Nothing but the input makes a worker fail: some point has not the width that another point has
fixed for its table. The service may answer what it likes, and values that do not convert are
counted and passed over.

For this it has to be known of every writer of a load, in every state, that its columns are those
of some point of its table and that its buffer can be flushed. A load in which a worker has
already failed is no exception: what the others own is untouched by it, and a shared writer only
keeps some rows more.
-/

namespace SeriesBench

/-- A fault that two points of a table bring about: the first fixes the width of the table, and
the second has another one. -/
def Misfit (points : List Point) (fault : Fault) : Prop :=
  ∃ sample ∈ points, ∃ p ∈ points, p.measurement = sample.measurement ∧
    p.width ≠ sample.width ∧
    fault = .width sample.measurement (sample.width + 1) (p.width + 1)

namespace Ingest

/-- What stops an open writer from taking points is a point of another width. -/
theorem takeAll_fault {w other : TableWriter} (opened : w.closed = false) {dropped : Nat}
    {points : List Point} {fault : Fault}
    (answer : takeAll w dropped points = (.error fault, other)) :
    ∃ p ∈ points, p.width + 1 ≠ w.columns.length ∧
      fault = .width w.table w.columns.length (p.width + 1) := by
  obtain ⟨p, first, same⟩ := takeAll_misfit opened answer
  exact ⟨p, List.mem_of_find?_eq_some first, by simpa using List.find?_some first, same⟩

end Ingest

namespace TableWriter

/-- A writer of a load of these points: its columns are those of a point of its table, and as
long as it is open it holds the rows of some points. -/
structure Stocked (points : List Point) (w : TableWriter) : Prop where
  sample : ∃ sample ∈ points, sample.measurement = w.table ∧ w.columns = columnsOf sample
  keeps : w.closed = false → ∃ kept, w.Keeps kept

variable {points : List Point} {w : TableWriter}

/-- A writer that is made from one of the points is stocked. -/
theorem stocked_create {sample : Point} (member : sample ∈ points) (layout : Layout) :
    (create sample.measurement sample layout).Stocked points where
  sample := ⟨sample, member, rfl, rfl⟩
  keeps := fun _ => ⟨[], keeps_nil (holds_create sample.measurement sample layout)⟩

/-- Closing a writer changes neither its table nor its columns. -/
theorem Stocked.close (stocked : w.Stocked points) (link : Link) :
    (w.close link).2.1.Stocked points := by
  unfold TableWriter.close
  split
  · exact stocked
  · split <;> exact ⟨stocked.sample, by simp⟩

/-- Whether writing succeeds or not, there are rows in the buffer afterwards, perhaps none. -/
theorem Stocked.write (stocked : w.Stocked points) (opened : w.closed = false) (transmit : Bool)
    (link : Link) (given : List Point) :
    (Ingest.writeTable transmit w link given).2.1.Stocked points := by
  obtain ⟨kept, keeps⟩ := stocked.keeps opened
  have sample : ∃ sample ∈ points,
      sample.measurement = (Ingest.writeTable transmit w link given).2.1.table ∧
        (Ingest.writeTable transmit w link given).2.1.columns = columnsOf sample := by
    obtain ⟨_, _, _, same⟩ := (Ingest.talk_writeTable transmit w link given).unchanged
    rw [same]
    exact stocked.sample
  refine ⟨sample, fun _ => ?_⟩
  rcases answer : Ingest.writeTable transmit w link given with ⟨fault | outcome, other, after⟩
  · exact ⟨_, (Ingest.writeTable_failed keeps opened answer).1⟩
  · exact ⟨[], keeps_nil (Ingest.writeTable_resumed keeps opened answer).written.empty⟩

/-- Writing fails for a misfit among the points. -/
theorem Stocked.misfit (stocked : w.Stocked points) (opened : w.closed = false) {given : List Point}
    (known : ∀ p ∈ given, p ∈ points ∧ p.measurement = w.table) {transmit : Bool}
    {other : TableWriter} {link after : Link} {fault : Fault}
    (answer : Ingest.writeTable transmit w link given = (.error fault, other, after)) :
    Misfit points fault := by
  obtain ⟨kept, keeps⟩ := stocked.keeps opened
  obtain ⟨sample, inPoints, table, columns⟩ := stocked.sample
  obtain ⟨taken, _⟩ := Ingest.takeAll_of_failed keeps opened answer
  obtain ⟨p, member, width, same⟩ := Ingest.takeAll_fault opened taken
  obtain ⟨pInPoints, measured⟩ := known p member
  rw [columns, length_columnsOf] at width same
  rw [← table] at same measured
  exact ⟨sample, inPoints, p, pInPoints, measured, by omega, same⟩

end TableWriter

namespace Registry

/-- All writers of a registry are stocked. -/
def Stocked (points : List Point) (r : Registry) : Prop :=
  ∀ w ∈ r.writers.toList, w.Stocked points

variable {points : List Point} {r : Registry}

/-- A registry that is asked for a point's table stays stocked, for a new writer is made from that
point. -/
theorem Stocked.obtain (stocked : r.Stocked points) {sample : Point} (member : sample ∈ points) :
    (r.obtain sample).2.Stocked points := by
  unfold Registry.obtain
  split
  · exact stocked
  · intro w inWriters
    rcases (mem_enlarge (r := r)).mp inWriters with old | rfl
    · exact stocked w old
    · exact TableWriter.stocked_create member r.layout

/-- A stocked writer may be put back. -/
theorem Stocked.put (stocked : r.Stocked points) {handle : Nat} {w other : TableWriter}
    (member : r.writers[handle]? = some w) (new : other.Stocked points) :
    (r.put handle other).Stocked points := by
  obtain ⟨before, behind, cut, put⟩ := put_cut member
  intro v inWriters
  rw [put] at inWriters
  rcases mem_cut.mp inWriters with rfl | old
  · exact new
  · exact stocked v (cut ▸ mem_cut.mpr (Or.inr old))

/-- Closing some writers keeps a registry stocked, by induction on their handles. -/
theorem Stocked.closeAt (handles : List Nat) (stocked : r.Stocked points) (link : Link) :
    (r.closeAt link handles).2.1.Stocked points := by
  induction handles generalizing r link with
  | nil => exact stocked
  | cons handle rest ih =>
    unfold Registry.closeAt
    cases found : r.writers[handle]? with
    | none => exact ih stocked link
    | some w =>
      exact ih (stocked.put found ((stocked w (mem_of_found found)).close link)) (w.close link).2.2

/-- Closing a registry keeps it stocked. -/
theorem Stocked.close (stocked : r.Stocked points) (link : Link) :
    (r.close link).2.1.Stocked points :=
  stocked.closeAt _ link

end Registry

namespace Crew

/-- All writers of a crew are stocked. -/
def Stocked (points : List Point) (crew : Crew) : Prop :=
  ∀ w ∈ crew.writers, w.Stocked points

variable {points : List Point} {crew : Crew} {index : Nat} {r : Registry}

/-- The registry that a worker of a stocked crew writes to is stocked. -/
theorem Stocked.registry (stocked : crew.Stocked points) (owner : crew.registryOf index = some r) :
    r.Stocked points := by
  obtain ⟨before, behind, cut, _⟩ := writers_put owner
  exact fun w member => stocked w (by simp [cut, Array.mem_toList_iff.mp member])

/-- A stocked registry may be put back into a crew. -/
theorem Stocked.put (stocked : crew.Stocked points) (owner : crew.registryOf index = some r)
    {other : Registry} (new : other.Stocked points) : (crew.put index other).Stocked points := by
  obtain ⟨before, behind, cut, put⟩ := writers_put owner
  intro w member
  rw [put, List.mem_append, List.mem_append] at member
  rcases member with (front | its) | rear
  · exact stocked w (by simp [cut, front])
  · exact new w its
  · exact stocked w (by simp [cut, rear])

/-- Closing what a worker owns keeps a crew stocked. -/
theorem Stocked.closeWorker (stocked : crew.Stocked points) (index : Nat) (link : Link) :
    (crew.closeWorker index link).2.1.Stocked points := by
  rcases closeWorker_cases crew index link with ⟨_, same⟩ | ⟨r, _, owner, closed⟩
  · rw [same]
    exact stocked
  · rw [closed]
    exact stocked.put owner ((stocked.registry owner).close link)

end Crew

namespace Pipeline

variable {s next : Pipeline} {all : List Item} {points : List Point}

/-- The fault that has stopped the worker at an index, if one has. -/
def faultAt (s : Pipeline) (index : Nat) : Option Fault :=
  s.workers[index]?.bind fun worker => worker.duty.fault?

/-- The fault at the index of a worker is that of its duty. -/
theorem faultAt_of_member {index : Nat} {worker : Worker}
    (member : s.workers[index]? = some worker) : s.faultAt index = worker.duty.fault? := by
  rw [faultAt, member, Option.bind_some]

/-- The points of a group in work are points of the input, and of the group's table. -/
theorem Carried.known (decoded : all.filterMap Item.decoded = points) (carried : Carried all s)
    {index : Nat} {worker : Worker} {job : Job} {group : Ingest.Group} {rest : List Ingest.Group}
    (works : Works s index worker job) (groups : job.groups = group :: rest) :
    ∀ p ∈ group.points, p ∈ points ∧ p.measurement = group.table := by
  have inGroups : group ∈ s.groupsAt index := by
    simp [groupsAt_of_member works.member, works.busy, Duty.groups, groups]
  obtain ⟨uniform, _, origins⟩ := carried.groups index group inGroups
  intro p member
  obtain ⟨item, inAll, decodes⟩ := origins p member
  exact ⟨decoded ▸ List.mem_filterMap.mpr ⟨item, inAll, decodes⟩, uniform p member⟩

/-- What a worker that writes puts back is stocked, and it fails only for a misfit. -/
theorem Staffed.stocked_writeAt (staffed : s.Staffed)
    (decoded : all.filterMap Item.decoded = points) (carried : Carried all s)
    (stocked : s.crew.Stocked points) {index : Nat} {worker : Worker} {job : Job}
    {group : Ingest.Group} {rest : List Ingest.Group} {handle : Nat} {r written : Registry}
    {link : Link} {answer : Except Fault Outcome} (works : Works s index worker job)
    (groups : job.groups = group :: rest) (asked : job.handle = some handle)
    (owner : s.crew.registryOf index = some r)
    (writes : Ingest.writeAt s.plan.transmit r s.link handle group.points =
      (answer, written, link)) :
    (s.crew.put index written).Stocked points ∧
      ∀ fault, answer = .error fault → Misfit points fault := by
  obtain ⟨w, member, table, opened⟩ := staffed.writer works groups asked owner
  have its := stocked.registry owner w (Registry.mem_of_found member)
  have known := carried.known decoded works groups
  rw [← table] at known
  rw [Ingest.writeAt_eq s.link group.points member] at writes
  obtain ⟨answered, back⟩ := Prod.mk.inj writes
  obtain ⟨rfl, -⟩ := Prod.mk.inj back
  refine ⟨stocked.put owner ((stocked.registry owner).put member (its.write opened _ _ _)), ?_⟩
  rintro fault rfl
  exact its.misfit opened known (Prod.ext answered rfl)

/-- Every move keeps the writers stocked. -/
theorem stocked_move (decoded : all.filterMap Item.decoded = points) (carried : Carried all s)
    (staffed : s.Staffed) (stocked : s.crew.Stocked points) {actor : Actor}
    (moved : Move s actor next) : next.crew.Stocked points := by
  cases moved with
  | obtained works groups unasked owner =>
    have known := carried.known decoded works groups _ List.mem_cons_self
    exact stocked.put owner ((stocked.registry owner).obtain known.1)
  | wrote works groups asked owner answer =>
    exact (staffed.stocked_writeAt decoded carried stocked works groups asked owner answer).1
  | failed works groups asked owner answer =>
    exact (staffed.stocked_writeAt decoded carried stocked works groups asked owner answer).1
  | closed => exact stocked.closeWorker _ _
  | _ => exact stocked

/-- At first there are no writers. -/
theorem stocked_start (plan : LoadPlan) (router : Router) (scanner : Scanner) (link : Link) :
    (start plan router scanner link).crew.Stocked points := by
  have none : (start plan router scanner link).crew.writers = [] := by
    rw [start_eq]
    exact Crew.writers_make plan.routing plan.workers plan.layout
  simp [Crew.Stocked, none]

/-- What a move does to the faults of the workers: it leaves all workers as they are, or it puts one
in the place of another. That one has the same fault, if any, or a misfit has just stopped it. -/
inductive Failing (points : List Point) (s next : Pipeline) : Prop where
  /-- No worker is changed. -/
  | left (workers : next.workers = s.workers) : Failing points s next
  /-- A worker goes on, and keeps its fault if it has one. -/
  | kept {index : Nat} {old worker : Worker} (member : s.workers[index]? = some old)
      (put : next.workers = s.workers.setIfInBounds index worker)
      (same : worker.duty.fault? = old.duty.fault?) : Failing points s next
  /-- A worker that has had no fault is stopped by a misfit. -/
  | stopped {index : Nat} {old worker : Worker} {fault : Fault}
      (member : s.workers[index]? = some old)
      (put : next.workers = s.workers.setIfInBounds index worker)
      (none : old.duty.fault? = none) (failed : worker.duty.fault? = some fault)
      (misfit : Misfit points fault) : Failing points s next

/-- Only a write that fails stops a worker, and it fails for a misfit. -/
theorem failing_of_move (decoded : all.filterMap Item.decoded = points) (carried : Carried all s)
    (staffed : s.Staffed) (stocked : s.crew.Stocked points) {actor : Actor}
    (moved : Move s actor next) : Failing points s next := by
  cases moved with
  | broke | usedUp | collected | filled | stopped | skipped | finished => exact .left rfl
  | sent sends member => exact .kept member rfl rfl
  | took member idle => exact .kept member rfl (by rw [idle]; rfl)
  | ended member idle => exact .kept member rfl (by rw [idle]; rfl)
  | gaveBack works => exact .kept works.member rfl (by rw [works.busy]; rfl)
  | obtained works => exact .kept works.member rfl (by rw [works.busy]; rfl)
  | wrote works => exact .kept works.member rfl (by rw [works.busy]; rfl)
  | failed works groups asked owner answer =>
    have misfit := (staffed.stocked_writeAt decoded carried stocked works groups asked owner
      answer).2
    exact .stopped works.member rfl (by rw [works.busy]; rfl) rfl (misfit _ rfl)
  | gaveUp member stopping => exact .kept member rfl (by rw [stopping]; rfl)
  | closed member closing => exact .kept member rfl (by rw [closing]; rfl)
  | gone member leaving => exact .kept member rfl (by rw [leaving]; rfl)

/-- The fault of a worker that is put in the place of another. -/
theorem faultAt_put {index : Nat} {old worker : Worker} (member : s.workers[index]? = some old)
    (put : next.workers = s.workers.setIfInBounds index worker) (i : Nat) :
    next.faultAt i = if i = index then worker.duty.fault? else s.faultAt i := by
  rw [faultAt, put, getElem?_put member]
  by_cases here : i = index
  · rw [if_pos here, if_pos here, Option.bind_some]
  · rw [if_neg here, if_neg here, faultAt]

/-- Whatever a move does, the fault of a worker is the one that it has had, or it has had none and
this one is a misfit. -/
theorem Failing.faultAt (failing : Failing points s next) (i : Nat) :
    next.faultAt i = s.faultAt i ∨
      s.faultAt i = none ∧ ∃ fault, next.faultAt i = some fault ∧ Misfit points fault := by
  cases failing with
  | left workers =>
    left
    rw [Pipeline.faultAt, Pipeline.faultAt, workers]
  | kept member put same =>
    left
    rw [faultAt_put member put, same]
    split
    · rename_i here
      rw [here, faultAt_of_member member]
    · rfl
  | @stopped index old worker fault member put none failed misfit =>
    rw [faultAt_put member put]
    split
    · rename_i here
      rw [here, faultAt_of_member member]
      exact .inr ⟨none, fault, failed, misfit⟩
    · exact .inl rfl

/-- The fault that has stopped a worker stays its fault. -/
theorem fault_stays (decoded : all.filterMap Item.decoded = points) (carried : Carried all s)
    (staffed : s.Staffed) (stocked : s.crew.Stocked points) {actor : Actor}
    (moved : Move s actor next) {i : Nat} {fault : Fault} (stopped : s.faultAt i = some fault) :
    next.faultAt i = some fault := by
  rcases (failing_of_move decoded carried staffed stocked moved).faultAt i with same | ⟨none, _⟩
  · exact same.trans stopped
  · rw [stopped] at none
    contradiction

/-- Every worker that has failed did so for a misfit. -/
def MisfitsOnly (points : List Point) (s : Pipeline) : Prop :=
  ∀ i fault, s.faultAt i = some fault → Misfit points fault

/-- A move stops workers for misfits only. -/
theorem misfitsOnly_move (decoded : all.filterMap Item.decoded = points) (carried : Carried all s)
    (staffed : s.Staffed) (stocked : s.crew.Stocked points) (misfits : MisfitsOnly points s)
    {actor : Actor} (moved : Move s actor next) : MisfitsOnly points next := by
  intro i fault stopped
  rcases (failing_of_move decoded carried staffed stocked moved).faultAt i with
    same | ⟨_, other, failed, misfit⟩
  · exact misfits i fault (same.symm.trans stopped)
  · obtain rfl : other = fault := Option.some.inj (failed.symm.trans stopped)
    exact misfit

end Pipeline

end SeriesBench
