import SeriesBench.Proofs.Load.Staff
import SeriesBench.Proofs.Remote.Obliging
import SeriesBench.Proofs.Worker.Placement

/-!
# Workers that own their tables

A load that routes its items by table divides the tables among its workers, whatever is scanned,
whatever the service answers and in whichever order producer and workers take their steps: in every
state that is reached, only the worker that a table's name is routed to has a writer for it. That
is why such a load can do without a registry that all workers share.
-/

namespace SeriesBench

namespace Pipeline

/-- A registry of a load has tables in use only among those that it made writers for. -/
theorem Staffed.made_of_holds {s : Pipeline} (staffed : s.Staffed) (formed : s.Formed)
    (byName : s.plan.routing = .byMeasurement) {index : Nat} {table : String}
    (holds : s.crew.Holds index table) :
    ∃ r, s.crew.own[index]? = some r ∧ table ∈ r.made := by
  obtain ⟨r, owner, member⟩ := holds
  have lone : s.crew.shared = none := by
    simpa [byName] using mt formed.shared.mp
  have owned : s.crew.own[index]? = some r := by simpa [Crew.registryOf, lone] using owner
  have inside : index < s.workers.size := by
    rw [formed.workers, ← formed.own]
    exact (Array.getElem?_eq_some_iff.mp owned).1
  have worker := Array.getElem?_eq_getElem inside
  refine ⟨r, owned, ?_⟩
  by_cases closed : s.workers[index].duty.HasClosed
  · have none := (staffed.shut index r _ owned worker closed).active
    simp [Registry.tables, none] at member
  · have live := (staffed.live index r _ owned worker closed).active
    simpa [Registry.tables, live] using member

/-- The plan is the same after any steps. -/
theorem plan_run {s last : Pipeline} {schedule : List Actor} (formed : s.Formed)
    (ran : s.run schedule = some last) : last.plan = s.plan := by
  let Kept (_ : List Point) (t : Pipeline) : Prop := t.plan = s.plan
  have move (done : List Point) (t : Pipeline) (actor : Actor) (next : Pipeline) (_ : t.Formed)
      (same : Kept done t) (moved : Move t actor next) : Kept (done ++ t.written actor) next :=
    (plan_move moved).trans same
  exact (run_accounts move formed [] rfl ran).2

end Pipeline

namespace Load

/-- In every state of a load that routes by table, the tables are divided among its workers. -/
theorem divided_of_run {plan : LoadPlan} (sound : plan.Sound)
    (byName : plan.routing = .byMeasurement) {router : Router}
    (made : Router.make plan.routing plan.workers = .ok router) (scanner : Scanner)
    (service : Service) {schedule : List Actor} {s : Pipeline}
    (ran : (Pipeline.start plan router scanner (.fresh service)).run schedule = some s) :
    s.crew.Divided plan.workers := by
  obtain ⟨formed, _, staffed⟩ := reached sound made scanner service ran
  have plan : s.plan = plan := by
    rw [Pipeline.plan_run (Pipeline.formed_start sound made scanner (.fresh service)) ran,
      Pipeline.start_eq]
  have routed : s.plan.routing = .byMeasurement := plan ▸ byName
  refine Crew.divided_of_home fun worker table holds => ?_
  obtain ⟨r, owned, member⟩ := staffed.made_of_holds formed routed holds
  have home := staffed.homes worker r owned table member routed
  rwa [plan] at home

/-- Where items are routed to, with at least one partition:

* Dealing out in turn, the item with number `i`, counted from 0, gets the partition `i` modulo the
  number of partitions; so no partition ever has more than one item more than another.
* By measurement, an item gets a partition that is told by the bytes of its table's name and the
  number of partitions, whatever was routed before.
* So the tables are divided among the workers whose batches are routed by measurement, whatever
  comes of the batches and of closes between them.
* So are they in every state of a load that is routed by measurement.

Proof: where an item goes is computed in closed form for either routing. Every errand, and every
step of a load, keeps each table in use where its name is routed to; and two workers to whom the
same name is routed are the same. -/
theorem routing_is_even_and_sticky {partitions : Nat} (positive : 0 < partitions) :
    (∃ router, Router.make .inTurn partitions = .ok router ∧ ∀ items,
      router.places items = (List.range items.length).map (· % partitions) ∧
        ∀ one other, one < partitions → other < partitions →
          (router.places items).count one ≤ (router.places items).count other + 1) ∧
    (∃ router, Router.make .byMeasurement partitions = .ok router ∧
      (∀ items, (∀ place ∈ router.places items, place < partitions) ∧ router.places items =
        items.map fun item => (fnv1a item.measurement.toUTF8.data.toList).toNat % partitions) ∧
      ∀ layout link errands, (∀ errand ∈ errands, Errand.RoutedBy router errand) →
        ((Crew.make .byMeasurement partitions layout).afterErrands link errands).1.Divided
          partitions) ∧
    ∀ plan router scanner service schedule s, LoadPlan.Sound plan →
      plan.routing = .byMeasurement → plan.workers = partitions →
      Router.make plan.routing plan.workers = .ok router →
      (Pipeline.start plan router scanner (.fresh service)).run schedule = some s →
      s.crew.Divided partitions := by
  let fresh (routing : Routing) : Router := ⟨routing, partitions, 0, positive⟩
  have made (routing : Routing) : Router.make routing partitions = .ok (fresh routing) :=
    dif_pos positive
  refine ⟨⟨fresh .inTurn, made .inTurn, fun items => ⟨?_, fun one other => ?_⟩⟩,
    ⟨fresh .byMeasurement, made .byMeasurement, fun items => ⟨?_, ?_⟩,
      fun layout link errands routed => ?_⟩, ?_⟩
  · have around := (fresh .inTurn).places_inTurn rfl items
    simpa [fresh] using around
  · exact (fresh .inTurn).even_places rfl rfl items
  · exact (fresh .byMeasurement).places_lt items
  · exact (fresh .byMeasurement).places_byMeasurement rfl items
  · have housed := Crew.housed_make partitions layout (fresh .byMeasurement).partitions
    exact Crew.divided_of_home (housed.afterErrands rfl link routed).home
  · rintro plan router scanner service schedule s sound byName rfl made ran
    exact divided_of_run sound byName made scanner service ran

/-- Two workers have taken in a line each of three, and the third waits for the worker that has its
table already. Served one batch after the other, they have the same tables. -/
theorem two_workers_have_tables_of_their_own :
    let lines : List Item :=
      [.line "cpu 1 a=1 3", .line "mem 2 b=7 3", .line "mem 2 b=8 4"]
    let batches : List Errand :=
      [.serve ⟨1, true, ⟨(lines.take 1).toArray, 1⟩⟩, .serve ⟨0, true, ⟨(lines.drop 1).toArray, 2⟩⟩]
    let chunk : Chunk := .bytes "cpu 1 a=1 3\nmem 2 b=7 3\nmem 2 b=8 4\n".toUTF8.data.toList
    let plan : LoadPlan := { batchSize := 1, workers := 2 }
    let served := (Crew.make .byMeasurement 2 plan.layout).afterErrands (.fresh .agreeable) batches
    let schedule : List Actor :=
      List.replicate 6 .producer ++ [.worker 0, .worker 0, .worker 1, .worker 1]
    (∃ router, Router.make .inTurn 2 = .ok router ∧ router.places lines = [0, 1, 0]) ∧
      (∃ router, Router.make .byMeasurement 2 = .ok router ∧ router.places lines = [1, 0, 0]) ∧
      (served.1.tablesOf 0 = ["mem"] ∧ served.1.tablesOf 1 = ["cpu"] ∧ served.1.Divided 2) ∧
      ∃ router s, Router.make .byMeasurement 2 = .ok router ∧
        (Pipeline.start plan router (.ofChunks [chunk]) (.fresh .agreeable)).run schedule =
          some s ∧
        s.crew.tablesOf 0 = ["mem"] ∧ s.crew.tablesOf 1 = ["cpu"] ∧ s.crew.Divided 2 := by
  intro lines batches chunk plan served schedule
  obtain ⟨⟨around, madeAround, even⟩, ⟨sticky, madeSticky, told, apart⟩, divided⟩ :=
    routing_is_even_and_sticky (show 0 < 2 by decide)
  let router : Router := ⟨.byMeasurement, 2, 0, by decide⟩
  have made : Router.make .byMeasurement 2 = .ok router := rfl
  obtain rfl : router = sticky := Except.ok.inj (made.symm.trans madeSticky)
  refine ⟨⟨around, madeAround, ?_⟩, ⟨router, made, ?_⟩, ⟨?_, ?_, ?_⟩, ?_⟩
  · rw [(even lines).1]
    decide
  · rw [(told lines).2]
    decide +kernel
  · decide +kernel
  · decide +kernel
  · refine apart plan.layout (.fresh .agreeable) batches ?_
    simp only [batches, List.forall_mem_cons]
    exact ⟨show ∀ item ∈ lines.take 1, (router.route item).1 = 1 by decide +kernel,
      show ∀ item ∈ lines.drop 1, (router.route item).1 = 0 by decide +kernel, by simp⟩
  · have answer : ((Pipeline.start plan router (.ofChunks [chunk]) (.fresh .agreeable)).run
        schedule).map (fun s => (s.crew.tablesOf 0, s.crew.tablesOf 1)) =
          some (["mem"], ["cpu"]) := by
      decide +kernel
    obtain ⟨s, ran, tables⟩ := Option.map_eq_some_iff.mp answer
    rw [Prod.mk.injEq] at tables
    have sound : plan.Sound := ⟨by decide, by decide, by decide⟩
    exact ⟨router, s, made, ran, tables.1, tables.2,
      divided plan router _ _ schedule s sound rfl rfl made ran⟩

end Load

end SeriesBench
