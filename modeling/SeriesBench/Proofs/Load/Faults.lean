import SeriesBench.Proofs.Load.Endings
import SeriesBench.Proofs.Load.Misfits
import SeriesBench.Proofs.Load.Routings
import SeriesBench.Proofs.Scan.Intakes

/-!
# Which fault a load reports

A load can go wrong in three ways: a worker meets a point of the wrong width, a read fails, or a
statement cannot be closed at the end. Of several faults one is reported, and which one does not
depend on the order of steps except through which workers have failed: that of the failed worker
with the smallest number, else that of the scan, else that of the first close that failed.

The producer also stops when it finds a worker stopped, which is a fault of its own. It is never
reported, because then a worker has failed. As long as no worker has, the producer goes on to the
end of the input, so that what ends the scan can be read off the input alone.
-/

namespace SeriesBench

namespace Pipeline

/-- No worker has failed. -/
def Unfailed (s : Pipeline) : Prop :=
  ∀ i, s.faultAt i = none

/-- The producer is on its way to how the scan stops, or has got there, unless it has found a
worker stopped. -/
def Heads (stop : Except Fault Unit) (s : Pipeline) : Prop :=
  match s.producer with
  | .reading | .sending _ _ => Scanner.stopOf s.scanner.tally.lines s.scanner.upcoming = stop
  | .finishing _ | .ended (.ok _) => stop = .ok ()
  | .ended (.error fault) => stop = .error fault ∨
      ∃ i first, fault = .workerStopped i ∧ s.faultAt i = some first

variable {s next : Pipeline} {all : List Item} {points : List Point} {stop : Except Fault Unit}

/-- A step that leaves producer and scan alone leaves where the producer heads to. -/
theorem heads_of_same (heads : Heads stop s) (producer : next.producer = s.producer)
    (scanner : next.scanner = s.scanner)
    (stays : ∀ i fault, s.faultAt i = some fault → next.faultAt i = some fault) :
    Heads stop next := by
  unfold Heads at heads ⊢
  rw [producer, scanner]
  cases doing : s.producer with
  | ended result =>
    cases result with
    | ok tally => simpa only [doing] using heads
    | error fault =>
      simp only [doing] at heads ⊢
      rcases heads with stopped | ⟨i, first, same, failed⟩
      · exact .inl stopped
      · exact .inr ⟨i, first, same, stays i first failed⟩
  | _ => simpa only [doing] using heads

/-- A move leaves where the producer heads to. While the producer reads, the answer of the scan
tells how it will stop; a producer that finds a worker stopped has one to blame. -/
theorem heads_move (heads : Heads stop s) {actor : Actor} (moved : Move s actor next)
    (stays : ∀ i fault, s.faultAt i = some fault → next.faultAt i = some fault) :
    Heads stop next := by
  have reads {answer : Except Fault (Option Item)} {scanner : Scanner}
      (doing : s.producer = .reading)
      (found : s.scanner.nextItem s.plan.intake = (answer, scanner)) :
      Scanner.stopAfter scanner answer = stop := by
    have after := s.scanner.stopOf_nextItem s.plan.intake
    rw [found] at after
    simp only [Heads, doing] at heads
    exact after.symm.trans heads
  cases moved with
  | broke doing found => exact .inl (reads doing found).symm
  | usedUp doing found => exact (reads doing found).symm
  | collected doing found =>
    have after := reads doing found
    simpa only [Heads, doing, Scanner.stopAfter] using after
  | filled doing found => exact reads doing found
  | @stopped index batch doing worker fault sends member failed =>
    have its : s.faultAt index = some fault := by
      rw [faultAt_of_member member, failed]
      rfl
    exact .inr ⟨index, fault, rfl, its⟩
  | sent sends =>
    cases sends with
    | full doing => simpa only [Heads, doing] using heads
    | left doing => simpa only [Heads, doing] using heads
  | skipped doing => simpa only [Heads, doing] using heads
  | finished doing => simpa only [Heads, doing] using heads
  | _ => exact heads_of_same heads rfl rfl stays

/-- A move talks to the same service, and no close fails by it unless a worker has failed. -/
theorem link_of_move {actor : Actor} (moved : Move s actor next) :
    next.link.service = s.link.service ∧
      (¬ s.Unfailed ∨ s.link.Unbroken next.link) := by
  have wrote {link : Link} (unbroken : s.link.Unbroken link) :
      link.service = s.link.service := by
    obtain ⟨_, ⟨service, _⟩, _⟩ := unbroken
    exact service
  cases moved with
  | @wrote index worker job group rest registry written handle outcome link works groups asked
      owner answer =>
    have unbroken := Ingest.writeAt_unbroken s.plan.transmit registry s.link handle group.points
    rw [answer] at unbroken
    exact ⟨wrote unbroken, .inr unbroken⟩
  | @failed index worker job group rest registry written handle fault link works groups asked
      owner answer =>
    have unbroken := Ingest.writeAt_unbroken s.plan.transmit registry s.link handle group.points
    rw [answer] at unbroken
    exact ⟨wrote unbroken, .inr unbroken⟩
  | @closed index worker fault member closing =>
    refine ⟨(s.crew.closeWorker_givesUp index s.link).service, .inl fun unfailed => ?_⟩
    have none := unfailed index
    rw [faultAt_of_member member, closing] at none
    contradiction
  | _ => exact ⟨rfl, .inr (Link.Only.refl s.link)⟩

/-- What holds in every state of a load of some points whose scan will stop in this way. -/
structure Answerable (service : Service) (all : List Item) (points : List Point)
    (stop : Except Fault Unit) (s : Pipeline) : Prop where
  carried : Carried all s
  staffed : s.Staffed
  stocked : s.crew.Stocked points
  misfits : MisfitsOnly points s
  heads : Heads stop s
  service : s.link.service = service
  unbroken : s.Unfailed → ∀ event ∈ s.link.journal, event.failsToClose = false

/-- What is answerable stays so in every move, each part by its own lemma. -/
theorem answerable_move {service : Service} (proper : ∀ item ∈ all, item.Proper)
    (decoded : all.filterMap Item.decoded = points) {actor : Actor} (formed : s.Formed)
    (answerable : Answerable service all points stop s) (moved : Move s actor next) :
    Answerable service all points stop next := by
  obtain ⟨carried, staffed, stocked, misfits, heads, service, unbroken⟩ := answerable
  have stays (i : Nat) (fault : Fault) (stopped : s.faultAt i = some fault) :
      next.faultAt i = some fault :=
    fault_stays decoded carried staffed stocked moved stopped
  have link := link_of_move moved
  exact
    { carried := carried_move proper formed carried moved
      staffed := staffed_move proper formed carried staffed moved
      stocked := stocked_move decoded carried staffed stocked moved
      misfits := misfitsOnly_move decoded carried staffed stocked misfits moved
      heads := heads_move heads moved stays
      service := link.1.trans service
      unbroken := by
        intro unfailed
        have before : s.Unfailed := by
          intro i
          by_contra failed
          obtain ⟨fault, stopped⟩ := Option.ne_none_iff_exists'.mp failed
          have kept := stays i fault stopped
          rw [unfailed i] at kept
          contradiction
        obtain ⟨events, ⟨_, journal⟩, every⟩ := link.2.resolve_left (not_not.mpr before)
        intro event member
        rw [journal] at member
        rcases List.mem_append.mp member with old | new
        · exact unbroken before event old
        · exact every event new }

/-- A load is answerable before its first step: nothing has failed, and nothing was asked. -/
theorem answerable_start (plan : LoadPlan) (router : Router) (scanner : Scanner)
    (service : Service) :
    Answerable service (Load.itemsOf plan scanner) points
      (Scanner.stopOf scanner.tally.lines scanner.upcoming)
      (start plan router scanner (.fresh service)) where
  carried := carried_start plan router scanner (.fresh service)
  staffed := staffed_start plan router scanner service
  stocked := stocked_start plan router scanner (.fresh service)
  misfits := by
    intro i fault stopped
    obtain ⟨worker, member, failed⟩ := Option.bind_eq_some_iff.mp stopped
    rw [start_eq] at member
    simp only [Array.getElem?_replicate, Option.ite_none_right_eq_some] at member
    rw [← Option.some.inj member.2] at failed
    contradiction
  heads := by rw [start_eq]; rfl
  service := by rw [start_eq]; rfl
  unbroken := by
    intro _ event member
    rw [start_eq] at member
    simp [Link.fresh] at member

end Pipeline

namespace Load

open Pipeline

/-- What a load reports whose workers are done like this, for the points of its input, the way its
scan stops and the journal of its service. Of the four cases just one applies. -/
inductive Reports (service : Service) (points : List Point) (stop : Except Fault Unit)
    (s : Pipeline) (journal : Journal) : Except Fault Summary → Prop where
  /-- Workers have failed: the fault is that of the first of them, and it is a misfit. -/
  | worker {index : Nat} {worker : Worker} {fault : Fault}
      (member : s.workers[index]? = some worker) (failed : worker.duty = .failed fault)
      (first : ∀ i < index, s.faultAt i = none)
      (misfit : Misfit points fault) : Reports service points stop s journal (.error fault)
  /-- No worker has failed, but a read has. -/
  | scan {lines : Nat} (unfailed : s.Unfailed) (stopped : stop = .error (.input lines)) :
      Reports service points stop s journal (.error (.input lines))
  /-- Nothing else has failed, but a close has: the fault is that of the first. -/
  | close {fault : Fault} (unfailed : s.Unfailed) (stopped : stop = .ok ())
      (closing : journal.Closing service (.error fault)) :
      Reports service points stop s journal (.error fault)
  /-- Neither a worker nor a read nor a close has failed. -/
  | success {summary : Summary} (unfailed : s.Unfailed) (stopped : stop = .ok ())
      (closing : journal.Closing service (.ok ())) :
      Reports service points stop s journal (.ok summary)

/-- There is no worker fault only if no worker has failed. -/
theorem workerFault_none {s : Pipeline} (none : workerFault s = none) : s.Unfailed := by
  intro i
  rw [workerFault, List.findSome?_eq_none_iff] at none
  rw [faultAt, Option.bind_eq_none_iff]
  intro worker member
  exact none worker (Array.mem_toList_iff.mpr (Array.mem_of_getElem? member))

/-- The worker fault is that of the first worker that has failed. -/
theorem workerFault_some {s : Pipeline} {fault : Fault} (some : workerFault s = some fault) :
    ∃ index, s.faultAt index = .some fault ∧ ∀ i < index, s.faultAt i = none := by
  rw [workerFault, List.findSome?_eq_some_iff] at some
  obtain ⟨before, worker, after, cut, found, none⟩ := some
  have place (i : Nat) : s.workers[i]? = (before ++ worker :: after)[i]? := by
    rw [← cut, Array.getElem?_toList]
  refine ⟨before.length, by simp [faultAt, place, found], ?_⟩
  intro i inside
  rw [faultAt, place, List.getElem?_append_left inside, Option.bind_eq_none_iff]
  exact fun other member => none other (List.mem_of_getElem? member)

/-- A worker that has failed is gone when everybody is done. -/
theorem gone_of_over {s : Pipeline} (finished : s.isOver = true) {index : Nat} {fault : Fault}
    (stopped : s.faultAt index = some fault) :
    ∃ worker, s.workers[index]? = some worker ∧ worker.duty = .failed fault := by
  obtain ⟨worker, member, failed⟩ := Option.bind_eq_some_iff.mp stopped
  refine ⟨worker, member, ?_⟩
  rcases duty_of_over finished member with ended | ⟨other, gone⟩
  · rw [ended] at failed
    contradiction
  · rw [gone] at failed ⊢
    rw [Option.some.inj failed]

/-- A scan stops with success or with a read that failed. -/
theorem stopOf_cases (lines : Nat) (upcoming : List Reading) :
    Scanner.stopOf lines upcoming = .ok () ∨
      ∃ count, Scanner.stopOf lines upcoming = .error (.input count) := by
  induction upcoming generalizing lines with
  | nil => exact .inl rfl
  | cons reading rest ih =>
    cases reading with
    | line bytes => exact ih (lines + 1)
    | pause => exact .inl rfl
    | failed => exact .inr ⟨lines, rfl⟩

/-- The fault of a worker goes before all others. -/
theorem result_of_workerFault {s : Pipeline} {fault : Fault} (some : workerFault s = some fault) :
    (result s).1 = .error fault := by
  rcases closes : closeAll s with ⟨closed, crew, link⟩
  simp [result, closes, some]

/-- The fault of the scan goes before that of a close. -/
theorem result_of_scanned {s : Pipeline} {fault : Fault} (none : workerFault s = none)
    (scanned : scanned s = .error fault) : (result s).1 = .error fault := by
  rcases closes : closeAll s with ⟨closed, crew, link⟩
  simp [result, closes, none, scanned]

/-- Without another fault a load reports what closing everything answered. -/
theorem result_of_closed {s : Pipeline} {tally : Tally} (none : workerFault s = none)
    (scanned : scanned s = .ok tally) :
    (∃ fault, (closeAll s).1 = .error fault ∧ (result s).1 = .error fault) ∨
      (closeAll s).1 = .ok () ∧ ∃ summary, (result s).1 = .ok summary := by
  rcases closes : closeAll s with ⟨fault | done, crew, link⟩
  · exact .inl ⟨fault, rfl, by simp [result, closes, none, scanned]⟩
  · exact .inr ⟨rfl, _, by simp only [result, closes, none, scanned]; rfl⟩

/-- What a load reports whose actors are all done. -/
theorem reports_of_over {service : Service} {all : List Item} {points : List Point}
    {lines : Nat} {upcoming : List Reading} {s : Pipeline}
    (answerable : Answerable service all points (Scanner.stopOf lines upcoming) s)
    (finished : s.isOver = true) :
    Reports service points (Scanner.stopOf lines upcoming) s (result s).2.journal
      (result s).1 := by
  obtain ⟨_, _, _, misfits, heads, rfl, unbroken⟩ := answerable
  cases failure : workerFault s with
  | some fault =>
    obtain ⟨index, stopped, first⟩ := workerFault_some failure
    obtain ⟨worker, member, failed⟩ := gone_of_over finished stopped
    rw [result_of_workerFault failure]
    exact .worker member failed first (misfits index fault stopped)
  | none =>
    have unfailed := workerFault_none failure
    have done : ∃ result, s.producer = .ended result := by
      unfold isOver at finished
      split at finished
      · rename_i result doing
        exact ⟨result, doing⟩
      · simp at finished
    obtain ⟨scan, doing⟩ := done
    have scanned : scanned s = scan := by simp [scanned, doing]
    cases scan with
    | error fault =>
      have stopped : Scanner.stopOf lines upcoming = .error fault := by
        simp only [Heads, doing] at heads
        rcases heads with stopped | ⟨i, first, _, failed⟩
        · exact stopped
        · simp [unfailed i] at failed
      obtain ⟨count, rfl⟩ : ∃ count, fault = .input count := by
        rcases stopOf_cases lines upcoming with none | ⟨count, same⟩
        · simp [none] at stopped
        · exact ⟨count, Except.error.inj (stopped.symm.trans same)⟩
      rw [result_of_scanned failure scanned]
      exact .scan unfailed stopped
    | ok tally =>
      have stopped : Scanner.stopOf lines upcoming = .ok () := by
        simpa only [Heads, doing] using heads
      have closing := closeAll_closing (unbroken unfailed)
      rw [link_result]
      rcases result_of_closed failure scanned with ⟨fault, closed, same⟩ | ⟨closed, summary, same⟩
      · rw [same]
        rw [closed] at closing
        exact .close unfailed stopped closing
      · rw [same]
        rw [closed] at closing
        exact .success unfailed stopped closing

/-- The points of an input, up to the place where its scan stops. -/
def pointsOf (chunks : List Chunk) : List Point :=
  Scanner.pointsOf (Scanner.linesAhead (Scanner.ofChunks chunks).upcoming)

/-- Which fault a load reports, whatever its input, its plan, the order of its steps and the answers
of the service are. No schedule gets stuck or goes on for ever, and at the end of each:

* the report is the fault of the first failed worker, which is a misfit; if none has failed, it is
  that of the read that failed; if none has, that of the first close that failed; else it is a
  success;
* it is never that a worker has stopped, unless the service says so itself when it closes;
* if the points of a table all have one width, no read fails and every close succeeds, it is a
  success, whatever else the service fails at.

Proof: every step keeps the load `Answerable`: whoever has failed did so for a misfit, the producer
heads to the stop that the input has or has found a worker stopped, and as long as nobody has failed
no close has. At the end the report is told case by case, in the order of precedence. -/
theorem faults_are_ranked {plan : LoadPlan} (sound : plan.Sound) (chunks : List Chunk)
    (service : Service) :
    NeverStuck plan (.ofChunks chunks) (.fresh service) 3 ∧
    ∀ s, Ends plan (.ofChunks chunks) (.fresh service) s →
      Reports service (pointsOf chunks) (Scanner.stopOf 0 (Scanner.ofChunks chunks).upcoming) s
        (result s).2.journal (result s).1 ∧
      (∀ index, (∀ journal statement,
          service.close journal statement ≠ .error (.workerStopped index)) →
        (result s).1 ≠ .error (.workerStopped index)) ∧
      ((∀ p ∈ pointsOf chunks, ∀ q ∈ pointsOf chunks, p.measurement = q.measurement →
          p.width = q.width) →
        .failed ∉ chunks →
        (∀ journal statement, service.close journal statement = .ok ()) →
        ∃ summary, (result s).1 = .ok summary) := by
  refine ⟨neverStuck_of_sound sound (.ofChunks chunks) service, ?_⟩
  rintro s ⟨router, schedule, made, ran, finished⟩
  have formed := formed_start sound made (.ofChunks chunks) (.fresh service)
  have decoded : (itemsOf plan (.ofChunks chunks)).filterMap Item.decoded = pointsOf chunks :=
    Scanner.decoded_itemsOf plan.intake _
  let Kept (_ : List Point) (s : Pipeline) : Prop :=
    Answerable service (itemsOf plan (.ofChunks chunks)) (pointsOf chunks)
      (Scanner.stopOf 0 (Scanner.ofChunks chunks).upcoming) s
  have move (done : List Point) (s : Pipeline) (actor : Actor) (next : Pipeline) (formed : s.Formed)
      (kept : Kept done s) (moved : Move s actor next) : Kept (done ++ s.written actor) next :=
    answerable_move (fun item member => Scanner.proper_itemsOf member) decoded formed kept moved
  have first : Kept [] (start plan router (.ofChunks chunks) (.fresh service)) :=
    answerable_start plan router (.ofChunks chunks) service
  obtain ⟨_, answerable⟩ := run_accounts move formed [] first ran
  have reports := reports_of_over answerable finished
  refine ⟨reports, ?_, ?_⟩
  · intro index never stopped
    rw [stopped] at reports
    cases reports with
    | worker _ _ _ misfit =>
      obtain ⟨_, _, _, _, _, _, same⟩ := misfit
      cases same
    | close _ _ closing =>
      cases closing with
      | broken cut first answer => exact never _ _ answer
  · intro widths readable closes
    cases report : (result s).1 with
    | ok summary => exact ⟨summary, rfl⟩
    | error fault =>
      rw [report] at reports
      cases reports with
      | worker _ _ _ misfit =>
        obtain ⟨sample, inPoints, p, member, table, width, _⟩ := misfit
        exact absurd (widths p member sample inPoints table) width
      | scan _ stopped =>
        have sound : .failed ∉ (Scanner.ofChunks chunks).upcoming := fun found =>
          readable (Scanner.failed_mem_of_readings found)
        rw [Scanner.stopOf_of_sound sound] at stopped
        cases stopped
      | close _ _ closing =>
        cases closing with
        | broken cut first answer =>
          rw [closes] at answer
          cases answer

/-- Three points of which the last one is not as wide as the first, whose table is its own: a load
stops there. -/
def misfitInput : List Chunk :=
  [.bytes "cpu 1 a=1 4\nmem 2 b=x 7\ncpu 2 a=1 b=2 4,4\n".toUTF8.data.toList]

/-- Two workers share a table of which one of them has a point that is too wide: the load reports
that worker's fault. -/
theorem smallLoad_reports_its_misfit :
    ∃ s, Ends smallDealt (.ofChunks misfitInput) (.fresh .agreeable) s ∧
      (result s).1 = .error (.width "cpu" 2 3) ∧ ¬ s.Unfailed ∧
      Misfit (pointsOf misfitInput) (.width "cpu" 2 3) := by
  obtain ⟨s, ends, ran⟩ := run_ends smallDealt_sound smallDealt_makeable (.ofChunks misfitInput)
    (.fresh .agreeable)
  have failed : (Load.run smallDealt (.ofChunks misfitInput) (.fresh .agreeable)).map
      (fun report => match report.1 with
        | .error fault => some fault
        | .ok _ => none) = some (some (.width "cpu" 2 3)) := by
    decide +kernel
  rw [ran, Option.map_some, Option.some_inj] at failed
  have report : (result s).1 = .error (.width "cpu" 2 3) := by
    cases answer : (result s).1 with
    | error fault => simpa [answer] using failed
    | ok summary => simp [answer] at failed
  have reports := ((faults_are_ranked smallDealt_sound misfitInput .agreeable).2 s ends).1
  rw [report] at reports
  refine ⟨s, ends, report, ?_⟩
  cases reports with
  | @worker index _ _ member failed _ misfit =>
    refine ⟨fun unfailed => ?_, misfit⟩
    have none := unfailed index
    rw [faultAt_of_member member, failed] at none
    contradiction
  | close _ _ closing =>
    cases closing with
    | broken cut first answer => exact absurd answer (by simp [Service.agreeable])

end Load

end SeriesBench
