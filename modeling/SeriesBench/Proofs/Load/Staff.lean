import SeriesBench.Proofs.Load.Carriage
import SeriesBench.Proofs.Worker.Crews

/-!
# The writers of a running load

A load keeps its books: in every state that it reaches, whatever fails, the journal tells the
story of each writer, the writers of a worker that has closed what it owns are closed, all others
are open, and a worker that has asked for a writer holds the handle of the writer of its next table.

Writers are touched in three moves only, when a worker asks for one, when it writes, whether it
fails at that or not, and when it closes what it owns; `Staffed` is kept by all others because they
leave crew and journal alone.
-/

namespace SeriesBench

/-- The duties of a worker that has failed and closed what it owns. -/
def Duty.HasClosed : Duty → Prop
  | leaving _ | failed _ => True
  | idle | busy _ | ended | stopping _ _ | closing _ => False

namespace Pipeline

/-- A worker's handle is that of the next table. -/
def Handles (s : Pipeline) (index : Nat) (duty : Duty) : Prop :=
  ∀ job group rest handle, duty = .busy job → job.groups = group :: rest →
    job.handle = some handle →
    ∃ r, s.crew.registryOf index = some r ∧ r.made[handle]? = some group.table

/-- The crew of a state is as it should be, and so is the journal. -/
structure Staffed (s : Pipeline) : Prop where
  books : Books s.crew.writers s.link.journal
  shared : ∀ r, s.crew.shared = some r → r.Live
  spare : s.crew.shared.isSome → ∀ (i : Nat) (r : Registry), s.crew.own[i]? = some r →
    r.writers = #[] ∧ r.active = []
  live : ∀ (i : Nat) (r : Registry) (worker : Worker), s.crew.own[i]? = some r →
    s.workers[i]? = some worker → ¬ worker.duty.HasClosed → r.Live
  shut : ∀ (i : Nat) (r : Registry) (worker : Worker), s.crew.own[i]? = some r →
    s.workers[i]? = some worker → worker.duty.HasClosed → r.Shut
  homes : ∀ (i : Nat) (r : Registry), s.crew.own[i]? = some r →
    ∀ table ∈ r.made, Home s.plan table i
  handles : ∀ (i : Nat) (worker : Worker), s.workers[i]? = some worker →
    Handles s i worker.duty

variable {s next : Pipeline}

/-- The registry of a worker that has not closed what it owns is live. -/
theorem Staffed.owner_live (staffed : s.Staffed) {index : Nat} {worker : Worker} {r : Registry}
    (member : s.workers[index]? = some worker) (working : ¬ worker.duty.HasClosed)
    (owner : s.crew.registryOf index = some r) : r.Live := by
  unfold Crew.registryOf at owner
  cases shared : s.crew.shared with
  | some own =>
    simp only [shared, Option.some.injEq] at owner
    exact staffed.shared r (owner ▸ shared)
  | none =>
    simp only [shared] at owner
    exact staffed.live index r worker owner member working

/-- A table that the registry of its home does not have is new to the whole crew. -/
theorem Staffed.new_of_home (staffed : s.Staffed) (formed : s.Formed) {index : Nat} {r : Registry}
    {table : String} (owner : s.crew.registryOf index = some r) (home : Home s.plan table index)
    (new : table ∉ r.made) : table ∉ s.crew.made := by
  intro member
  obtain ⟨other, inRegistries, made⟩ := List.mem_flatMap.mp member
  unfold Crew.registryOf at owner
  rcases List.mem_append.mp inRegistries with inOwn | inShared
  · obtain ⟨i, found⟩ := List.mem_iff_getElem?.mp inOwn
    rw [Array.getElem?_toList] at found
    cases shared : s.crew.shared with
    | some own =>
      have bare := (staffed.spare (by simp [shared]) i other found).1
      simp [Registry.made, bare] at made
    | none =>
      simp only [shared] at owner
      have byName : s.plan.routing = .byMeasurement := by
        cases routing : s.plan.routing with
        | byMeasurement => rfl
        | inTurn => simpa [shared] using formed.shared.mpr routing
      have same : i = index :=
        (staffed.homes i other found table made byName).symm.trans (home byName)
      subst same
      obtain rfl : r = other := Option.some.inj (owner.symm.trans found)
      exact new made
  · have shared : s.crew.shared = some other := by simpa using inShared
    simp only [shared, Option.some.injEq] at owner
    exact new (owner ▸ made)

/-- Every worker of a state is one of the state before, or has the same duty, or is one that has
no handle and has closed what it owns if it had before. -/
def SameStaff (s next : Pipeline) : Prop :=
  ∀ (i : Nat) (worker : Worker), next.workers[i]? = some worker →
    ∃ old, s.workers[i]? = some old ∧ (worker.duty.HasClosed ↔ old.duty.HasClosed) ∧
      (worker.duty = old.duty ∨
        ∀ job handle, worker.duty = .busy job → job.handle ≠ some handle)

/-- The same workers are the same staff. -/
theorem sameStaff_of_workers (workers : next.workers = s.workers) : SameStaff s next := by
  intro i worker member
  exact ⟨worker, workers ▸ member, Iff.rfl, Or.inl rfl⟩

/-- A worker that is replaced is the same staff if it is closed as before and has no new handle. -/
theorem sameStaff_put {index : Nat} {old worker : Worker} (member : s.workers[index]? = some old)
    (put : next.workers = s.workers.setIfInBounds index worker)
    (failed : worker.duty.HasClosed ↔ old.duty.HasClosed)
    (handles : worker.duty = old.duty ∨
      ∀ job handle, worker.duty = .busy job → job.handle ≠ some handle) : SameStaff s next := by
  intro i other inWorkers
  rw [put] at inWorkers
  rcases member_of_put inWorkers with ⟨rfl, rfl⟩ | ⟨_, before⟩
  · exact ⟨old, member, failed, handles⟩
  · exact ⟨other, before, Iff.rfl, Or.inl rfl⟩

/-- The same staff with the same crew is staffed as before. -/
theorem staffed_of_same (staffed : s.Staffed) (plan : next.plan = s.plan)
    (crew : next.crew = s.crew) (link : next.link = s.link) (staff : SameStaff s next) :
    next.Staffed where
  books := by rw [crew, link]; exact staffed.books
  shared := by rw [crew]; exact staffed.shared
  spare := by rw [crew]; exact staffed.spare
  live := by
    intro i r worker own member working
    obtain ⟨old, before, failed, _⟩ := staff i worker member
    exact staffed.live i r old (crew ▸ own) before (fun finished => working (failed.mpr finished))
  shut := by
    intro i r worker own member finished
    obtain ⟨old, before, failed, _⟩ := staff i worker member
    exact staffed.shut i r old (crew ▸ own) before (failed.mp finished)
  homes := by rw [crew, plan]; exact staffed.homes
  handles := by
    intro i worker member job group rest handle busy groups asked
    obtain ⟨old, before, _, same | unasked⟩ := staff i worker member
    · rw [crew]
      exact staffed.handles i old before job group rest handle (same ▸ busy) groups asked
    · exact absurd asked (unasked job handle busy)

/-- What becomes of the crew when one worker puts back its registry, with perhaps more tables
than before. -/
theorem staffed_put (staffed : s.Staffed) {index : Nat} {old worker : Worker} {r other : Registry}
    (replaces : Replaces s next index old worker) (working : ¬ old.duty.HasClosed)
    (owner : s.crew.registryOf index = some r) (crew : next.crew = s.crew.put index other)
    (books : Books next.crew.writers next.link.journal) (grown : r.made <+: other.made)
    (live : s.crew.shared.isSome ∨ ¬ worker.duty.HasClosed → other.Live)
    (shut : s.crew.shared = none → worker.duty.HasClosed → other.Shut)
    (homes : s.crew.shared = none → ∀ table ∈ other.made, Home s.plan table index)
    (handles : Handles next index worker.duty) : next.Staffed where
  books := books
  shared := by
    intro registry shared
    rw [crew, Crew.shared_put] at shared
    split at shared
    · rename_i common
      obtain rfl := Option.some.inj shared
      exact live (Or.inl common)
    · contradiction
  spare := by
    intro common i registry own
    rw [crew, Crew.shared_put] at common
    have was : s.crew.shared.isSome := by
      split at common
      · assumption
      · contradiction
    rw [crew] at own
    rcases Crew.own_of_put own with before | ⟨lone, _⟩
    · exact staffed.spare was i registry before
    · simp [lone] at was
  live := by
    intro i registry holder own member alive
    rw [crew] at own
    rw [replaces.workers] at member
    rcases member_of_put member with ⟨rfl, rfl⟩ | ⟨apart, before⟩
    · rcases Crew.own_of_put own with same | ⟨_, _, rfl⟩
      · exact staffed.live i registry old same replaces.member working
      · exact live (Or.inr alive)
    · rcases Crew.own_of_put own with same | ⟨_, here, _⟩
      · exact staffed.live i registry holder same before alive
      · exact absurd here apart
  shut := by
    intro i registry holder own member finished
    rw [crew] at own
    rw [replaces.workers] at member
    rcases member_of_put member with ⟨rfl, rfl⟩ | ⟨apart, before⟩
    · rcases Crew.own_of_put own with same | ⟨lone, _, rfl⟩
      · by_cases common : s.crew.shared.isSome
        · obtain ⟨writers, active⟩ := staffed.spare common i registry same
          exact ⟨active, by simp [writers]⟩
        · have lone : s.crew.shared = none := by simpa using common
          have put : (s.crew.put i other).own[i]? = some other := Crew.own_of_put_self owner lone
          obtain rfl : other = registry := Option.some.inj (put.symm.trans own)
          exact shut lone finished
      · exact shut lone finished
    · rcases Crew.own_of_put own with same | ⟨_, here, _⟩
      · exact staffed.shut i registry holder same before finished
      · exact absurd here apart
  homes := by
    intro i registry own
    rw [replaces.plan]
    rw [crew] at own
    rcases Crew.own_of_put own with same | ⟨lone, rfl, rfl⟩
    · exact staffed.homes i registry same
    · exact homes lone
  handles := by
    intro i holder member
    rw [replaces.workers] at member
    rcases member_of_put member with ⟨rfl, rfl⟩ | ⟨apart, before⟩
    · exact handles
    · intro job group rest handle busy groups asked
      obtain ⟨found, its, made⟩ := staffed.handles i holder before job group rest handle busy groups
        asked
      rw [crew, Crew.registryOf_put_other apart]
      cases shared : s.crew.shared with
      | none => exact ⟨found, its, made⟩
      | some common =>
        have same : r = found := by
          simp only [Crew.registryOf, shared, Option.some.injEq] at owner its
          exact owner.symm.trans its
        obtain ⟨tail, same'⟩ := grown
        refine ⟨other, rfl, ?_⟩
        rw [← same', same, List.getElem?_append_left (List.getElem?_eq_some_iff.mp made).1]
        exact made

/-- A worker that asks for a writer gets a handle of its table. -/
theorem staffed_obtained (formed : s.Formed) {all : List Item} (proper : ∀ item ∈ all, item.Proper)
    (carried : Carried all s) (staffed : s.Staffed) {index : Nat} {worker : Worker} {job : Job}
    {group : Ingest.Group} {rest : List Ingest.Group} {r : Registry}
    (works : Works s index worker job) (groups : job.groups = group :: rest)
    (owner : s.crew.registryOf index = some r)
    (replaces : Replaces s next index worker { worker with
      duty := .busy { job with handle := some (r.obtain group.first).1 } })
    (crew : next.crew = s.crew.put index (r.obtain group.first).2) (link : next.link = s.link) :
    next.Staffed := by
  have working : ¬ worker.duty.HasClosed := by simp [Duty.HasClosed, works.busy]
  have still : ¬ ({ worker with duty := .busy { job with
      handle := some (r.obtain group.first).1 } } : Worker).duty.HasClosed := by
    simp [Duty.HasClosed]
  have live := staffed.owner_live works.member working owner
  have inGroups : group ∈ s.groupsAt index := by
    simp [groupsAt_of_member works.member, works.busy, Duty.groups, groups]
  obtain ⟨uniform, home, origins⟩ := carried.groups index group inGroups
  have homes (lone : s.crew.shared = none) : ∀ table ∈ r.made, Home s.plan table index := by
    simp only [Crew.registryOf, lone] at owner
    exact staffed.homes index r owner
  have put := Crew.registryOf_put owner (r.obtain group.first).2
  have handles (made : (r.obtain group.first).2.made[(r.obtain group.first).1]? =
      some group.table) : Handles next index (.busy { job with
        handle := some (r.obtain group.first).1 }) := by
    rintro other first others handle same first' asked
    cases same
    obtain rfl : group = first := (List.cons.inj (groups.symm.trans first')).1
    obtain rfl := Option.some.inj asked
    exact ⟨_, crew ▸ put, made⟩
  rcases Registry.obtain_cases live group.first with ⟨same, made⟩ | ⟨new, grown⟩
  · obtain ⟨before, behind, cut, writers⟩ := Crew.writers_put owner
    refine staffed_put staffed replaces working owner crew ?_ ?_ ?_ ?_ ?_ (handles ?_)
    · rw [crew, link, same, writers, ← cut]
      exact staffed.books
    · exact ⟨[], by rw [same, List.append_nil]⟩
    · intro _
      rw [same]
      exact live
    · exact fun _ finished => absurd finished still
    · rw [same]
      exact homes
    · rw [same]
      exact made
  · obtain ⟨before, behind, cut, writers⟩ := Crew.writers_put owner
    have enlarged : (r.obtain group.first).2 = r.enlarge group.first := by rw [grown]
    refine staffed_put staffed replaces working owner crew ?_ ?_ ?_ ?_ ?_ (handles ?_)
    · have toList : (r.enlarge group.first).writers.toList =
          r.writers.toList ++ [.create group.table group.first r.layout] := by
        simp [Registry.enlarge, Ingest.Group.table]
      have plain : ∀ c ∈ group.table.toList, Text.isAsciiBlank c = false := by
        obtain ⟨item, inAll, decodes⟩ := origins group.first List.mem_cons_self
        exact (proper item inAll).plain _ decodes
      have books : Books ((before ++ r.writers.toList) ++ behind) s.link.journal := by
        rw [← cut]
        exact staffed.books
      have absent : group.table ∉
          ((before ++ r.writers.toList) ++ behind).map TableWriter.table := by
        rw [← cut, Crew.made_eq]
        exact staffed.new_of_home formed owner home new
      have created : Books ((before ++ r.writers.toList) ++
          .create group.table group.first r.layout :: behind) s.link.journal :=
        books.create plain absent
      rw [crew, link, enlarged, writers, toList]
      simpa using created
    · rw [enlarged, Registry.made_enlarge]
      exact List.prefix_append _ _
    · exact fun _ => enlarged ▸ Registry.live_enlarge live new
    · exact fun _ finished => absurd finished still
    · intro lone table member
      rw [enlarged, Registry.made_enlarge] at member
      rcases List.mem_append.mp member with old | single
      · exact homes lone table old
      · rw [List.mem_singleton.mp single]
        exact home
    · have size : r.made.length = r.writers.size := by simp [Registry.made]
      rw [grown, Registry.made_enlarge, ← size]
      simp [Ingest.Group.table]

/-- A worker that writes finds the open writer of its table. -/
theorem Staffed.writer (staffed : s.Staffed) {index : Nat} {worker : Worker} {job : Job}
    {group : Ingest.Group} {rest : List Ingest.Group} {handle : Nat} {r : Registry}
    (works : Works s index worker job) (groups : job.groups = group :: rest)
    (asked : job.handle = some handle) (owner : s.crew.registryOf index = some r) :
    ∃ w, r.writers[handle]? = some w ∧ w.table = group.table ∧ w.closed = false := by
  obtain ⟨other, its, made⟩ := staffed.handles index worker works.member job group rest handle
    works.busy groups asked
  obtain rfl : r = other := Option.some.inj (owner.symm.trans its)
  simp only [Registry.made, List.getElem?_map, Option.map_eq_some_iff, Array.getElem?_toList] at made
  obtain ⟨w, member, table⟩ := made
  have live := staffed.owner_live works.member (by simp [Duty.HasClosed, works.busy]) owner
  refine ⟨w, member, table, live.opened w ?_⟩
  exact Array.mem_toList_iff.mpr (Array.mem_of_getElem? member)

/-- What a worker leaves behind when it has written, whether it fails or not. -/
structure Leaves (s : Pipeline) (index : Nat) (r written : Registry) (link : Link) : Prop where
  live : written.Live
  made : written.made = r.made
  books : Books (s.crew.put index written).writers link.journal

/-- What writing leaves: a registry in use with the same tables, and books that are kept. -/
theorem Staffed.leaves (staffed : s.Staffed) {index : Nat} {worker : Worker} {job : Job}
    {group : Ingest.Group} {rest : List Ingest.Group} {handle : Nat} {r written : Registry}
    {link : Link} {answer : Except Fault Outcome}
    (works : Works s index worker job) (groups : job.groups = group :: rest)
    (asked : job.handle = some handle) (owner : s.crew.registryOf index = some r)
    (writes : Ingest.writeAt s.plan.transmit r s.link handle group.points =
      (answer, written, link)) : Leaves s index r written link := by
  obtain ⟨w, member, table, opened⟩ := staffed.writer works groups asked owner
  have live := staffed.owner_live works.member (by simp [Duty.HasClosed, works.busy]) owner
  rw [Ingest.writeAt_eq s.link group.points member] at writes
  have talk := Ingest.talk_writeTable s.plan.transmit w s.link group.points
  obtain ⟨_, back⟩ := Prod.mk.inj writes
  obtain ⟨rfl, rfl⟩ := Prod.mk.inj back
  obtain ⟨before, behind, cut, writers⟩ := Crew.writers_put owner
  obtain ⟨front, rear, inside, put⟩ := Registry.put_cut member
  have books : Books ((before ++ front) ++ w :: (rear ++ behind)) s.link.journal := by
    have kept := staffed.books
    rw [cut, inside] at kept
    simpa using kept
  have spoke := TableWriter.spoke_of_talk (books.told w (by simp)) opened talk
  refine ⟨Registry.live_put live member spoke.table (talk.closed.trans opened),
    Registry.made_put member spoke.table, ?_⟩
  rw [writers, put]
  simpa using books.speak spoke

/-- A worker that writes keeps the books, whether it fails or not. -/
theorem staffed_wrote (staffed : s.Staffed) {index : Nat} {worker new : Worker} {job : Job}
    {group : Ingest.Group} {rest : List Ingest.Group} {handle : Nat} {r written : Registry}
    {link : Link} {answer : Except Fault Outcome}
    (works : Works s index worker job) (groups : job.groups = group :: rest)
    (asked : job.handle = some handle) (owner : s.crew.registryOf index = some r)
    (writes : Ingest.writeAt s.plan.transmit r s.link handle group.points = (answer, written, link))
    (replaces : Replaces s next index worker new) (unclosed : ¬ new.duty.HasClosed)
    (unasked : ∀ job handle, new.duty = .busy job → job.handle ≠ some handle)
    (crew : next.crew = s.crew.put index written) (after : next.link = link) : next.Staffed := by
  obtain ⟨live, made, books⟩ := staffed.leaves works groups asked owner writes
  refine staffed_put staffed replaces (by simp [Duty.HasClosed, works.busy]) owner crew ?_ ?_ ?_ ?_
    ?_ ?_
  · rw [crew, after]
    exact books
  · exact ⟨[], by rw [made, List.append_nil]⟩
  · exact fun _ => live
  · exact fun _ finished => absurd finished unclosed
  · intro lone
    rw [made]
    simp only [Crew.registryOf, lone] at owner
    exact staffed.homes index r owner
  · intro other first others handle same _ asked
    exact absurd asked (unasked other handle same)

/-- A worker that closes what it owns shuts its registry. One that is shared stays open for the
others. -/
theorem staffed_closed (formed : s.Formed) (staffed : s.Staffed) {index : Nat} {worker : Worker}
    {fault : Fault} (member : s.workers[index]? = some worker)
    (closing : worker.duty = .closing fault)
    (replaces : Replaces s next index worker { worker with duty := .leaving fault })
    (crew : next.crew = (s.crew.closeWorker index s.link).2.1)
    (after : next.link = (s.crew.closeWorker index s.link).2.2) : next.Staffed := by
  have working : ¬ worker.duty.HasClosed := by simp [Duty.HasClosed, closing]
  have handles : Handles next index (.leaving fault) := by
    intro other first others handle same
    cases same
  obtain ⟨r, owner⟩ := formed.owner member
  have live := staffed.owner_live member working owner
  have homes (lone : s.crew.shared = none) : ∀ table ∈ r.made, Home s.plan table index := by
    simp only [Crew.registryOf, lone] at owner
    exact staffed.homes index r owner
  rcases Crew.closeWorker_cases s.crew index s.link with ⟨common, same⟩ | ⟨own, lone, its, closed⟩
  · rw [same] at crew after
    have back : s.crew.put index r = s.crew := Crew.put_self owner
    refine staffed_put staffed replaces working owner (crew.trans back.symm) ?_ ?_ (fun _ => live) ?_
      homes handles
    · rw [crew, after]
      exact staffed.books
    · exact List.prefix_refl _
    · intro lone
      have absent : s.crew.own[index]? = none := common.resolve_left (by simp [lone])
      simp [Crew.registryOf, lone, absent] at owner
  · obtain rfl : r = own := Option.some.inj (owner.symm.trans its)
    rw [closed] at crew after
    obtain ⟨shut, same, books⟩ := Crew.books_close live owner staffed.books
    refine staffed_put staffed replaces working owner crew ?_ ?_ ?_ (fun _ _ => shut) ?_ handles
    · rw [crew, after]
      exact books
    · exact ⟨[], by rw [same, List.append_nil]⟩
    · rintro (common | still)
      · simp [lone] at common
      · exact absurd trivial still
    · rw [same]
      exact homes

/-- Every move keeps a load staffed. Proof: where it leaves the crew alone the staff is the same;
asking for a writer, writing and closing each change the registry of one worker, in the way that its
lemma says. -/
theorem staffed_move {all : List Item} (proper : ∀ item ∈ all, item.Proper) {actor : Actor}
    (formed : s.Formed) (carried : Carried all s) (staffed : s.Staffed)
    (moved : Move s actor next) : next.Staffed := by
  cases moved with
  | broke => exact staffed_of_same staffed rfl rfl rfl (sameStaff_of_workers rfl)
  | usedUp => exact staffed_of_same staffed rfl rfl rfl (sameStaff_of_workers rfl)
  | collected => exact staffed_of_same staffed rfl rfl rfl (sameStaff_of_workers rfl)
  | filled => exact staffed_of_same staffed rfl rfl rfl (sameStaff_of_workers rfl)
  | stopped => exact staffed_of_same staffed rfl rfl rfl (sameStaff_of_workers rfl)
  | sent sends member =>
    exact staffed_of_same staffed rfl rfl rfl (sameStaff_put member rfl Iff.rfl (Or.inl rfl))
  | skipped => exact staffed_of_same staffed rfl rfl rfl (sameStaff_of_workers rfl)
  | finished => exact staffed_of_same staffed rfl rfl rfl (sameStaff_of_workers rfl)
  | took member idle =>
    refine staffed_of_same staffed rfl rfl rfl (sameStaff_put member rfl ?_ (Or.inr ?_))
    · simp [Duty.HasClosed, idle]
    · rintro job handle same asked
      cases same
      simp [jobOf] at asked
  | ended member idle =>
    refine staffed_of_same staffed rfl rfl rfl (sameStaff_put member rfl ?_ (Or.inr (by simp)))
    simp [Duty.HasClosed, idle]
  | gaveBack works =>
    refine staffed_of_same staffed rfl rfl rfl (sameStaff_put works.member rfl ?_ (Or.inr (by simp)))
    simp [Duty.HasClosed, works.busy]
  | obtained works groups unasked owner =>
    exact staffed_obtained formed proper carried staffed works groups owner
      (.put works.member) rfl rfl
  | wrote works groups asked owner answer =>
    refine staffed_wrote staffed works groups asked owner answer (.put works.member)
      (by simp [Duty.HasClosed]) ?_ rfl rfl
    rintro other handle same asked
    cases same
    contradiction
  | failed works groups asked owner answer =>
    exact staffed_wrote staffed works groups asked owner answer (.put works.member)
      (by simp [Duty.HasClosed]) (by simp) rfl rfl
  | gaveUp member stopping =>
    refine staffed_of_same staffed rfl rfl rfl (sameStaff_put member rfl ?_ (Or.inr (by simp)))
    simp [Duty.HasClosed, stopping]
  | closed member closing => exact staffed_closed formed staffed member closing (.put member) rfl rfl
  | gone member leaving =>
    refine staffed_of_same staffed rfl rfl rfl (sameStaff_put member rfl ?_ (Or.inr (by simp)))
    simp [Duty.HasClosed, leaving]

/-- At first there are no writers, and nothing was asked. -/
theorem staffed_start (plan : LoadPlan) (router : Router) (scanner : Scanner) (service : Service) :
    (start plan router scanner (.fresh service)).Staffed := by
  have bare (i : Nat) (r : Registry)
      (own : (Crew.make plan.routing plan.workers plan.layout).own[i]? = some r) :
      r = .empty plan.layout := by
    have inOwn := Array.mem_toList_iff.mpr (Array.mem_of_getElem? own)
    exact Crew.registries_make (List.mem_append_left _ inOwn)
  have common (r : Registry)
      (shared : (Crew.make plan.routing plan.workers plan.layout).shared = some r) :
      r = .empty plan.layout := by
    have inShared : r ∈ (Crew.make plan.routing plan.workers plan.layout).shared.toList := by
      simp [shared]
    exact Crew.registries_make (List.mem_append_right _ inShared)
  have idle (i : Nat) (worker : Worker)
      (member : (Array.replicate plan.workers (⟨[], .idle, {}⟩ : Worker))[i]? = some worker) :
      worker.duty = .idle := by
    simp only [Array.getElem?_replicate, Option.ite_none_right_eq_some] at member
    rw [← Option.some.inj member.2]
  rw [start_eq]
  exact
    { books := by
        rw [Crew.writers_make]
        exact Books.empty
      shared := fun r shared => common r shared ▸ Registry.live_empty plan.layout
      spare := fun _ i r own => by simp [bare i r own, Registry.empty]
      live := fun i r _ own _ _ => bare i r own ▸ Registry.live_empty plan.layout
      shut := fun i r _ own _ _ => bare i r own ▸ Registry.shut_empty plan.layout
      homes := fun i r own => by simp [bare i r own, Registry.empty, Registry.made]
      handles := by
        intro i worker member job group rest handle busy
        rw [idle i worker member] at busy
        contradiction }

end Pipeline

namespace Load

open Pipeline

/-- The items that a scan gives up to its first stop. -/
def itemsOf (plan : LoadPlan) (scanner : Scanner) : List Item :=
  Scanner.itemsOf plan.intake (Scanner.linesAhead scanner.upcoming)

/-- What holds in a state that a load reaches, if nothing was asked of the service before. -/
theorem reached {plan : LoadPlan} (sound : plan.Sound) {router : Router}
    (made : Router.make plan.routing plan.workers = .ok router) (scanner : Scanner)
    (service : Service) {schedule : List Actor} {s : Pipeline}
    (ran : (Pipeline.start plan router scanner (.fresh service)).run schedule = some s) :
    s.Formed ∧ Carried (itemsOf plan scanner) s ∧ s.Staffed := by
  have formed := formed_start sound made scanner (.fresh service)
  have proper : ∀ item ∈ itemsOf plan scanner, item.Proper := fun item member =>
    Scanner.proper_itemsOf member
  let Kept (_ : List Point) (s : Pipeline) : Prop := Carried (itemsOf plan scanner) s ∧ s.Staffed
  have move (done : List Point) (s : Pipeline) (actor : Actor) (next : Pipeline) (formed : s.Formed)
      (kept : Kept done s) (moved : Move s actor next) : Kept (done ++ s.written actor) next :=
    ⟨carried_move proper formed kept.1 moved, staffed_move proper formed kept.1 kept.2 moved⟩
  have first : Kept [] (Pipeline.start plan router scanner (.fresh service)) :=
    ⟨carried_start plan router scanner (.fresh service), staffed_start plan router scanner service⟩
  exact run_accounts move formed [] first ran

end Load

end SeriesBench
