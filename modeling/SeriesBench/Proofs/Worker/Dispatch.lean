import SeriesBench.Proofs.Worker.Errands

/-!
# What a batch sends

A batch that succeeds flushes one record for each of its tables that has any rows, in the order in
which the tables first appear in it, and says to the service what sending these records takes and
nothing else. A table that cannot be set up, and a record that cannot be sent, do not keep the later
tables from their turn.

The rows of a record are those of the batch's own points of the table, unless a batch that failed
left rows of it behind. A worker that shares its registry may find rows that another worker left,
although none of its own batches failed.
-/

namespace SeriesBench

open TableWriter

/-- What a batch that succeeded has sent, where `held` are the rows that its tables held before:
each table had its passage, in the order in which the tables first appear, all that was said to the
service was said in these passages, and the counts are those of the records. -/
structure Turn.Sent (turn : Turn) (r : Registry) (held : String → List (List Value)) (link : Link)
    (outcome : Outcome) (later : Link) : Prop where
  passed : ∃ passages,
    Registry.Passed turn.transmit r link turn.points held (firstSeen turn.points) passages later ∧
    outcome.rows = rowsIn passages ∧ outcome.metrics = metricsIn passages

namespace Crew

variable {crew : Crew} {link : Link} {layout : Layout} {worker : Nat}

/-- No table of a worker's registry holds any rows. -/
def Clear (crew : Crew) (worker : Nat) : Prop :=
  ∀ r, crew.registryOf worker = some r → ∀ table, r.heldFor table = []

/-- In a new crew every worker is clear. -/
theorem clear_make (routing : Routing) (workers : Nat) (layout : Layout) (worker : Nat) :
    (make routing workers layout).Clear worker := by
  intro r owner table
  obtain ⟨before, behind, cut, _⟩ := registries_put owner
  have member : r ∈ (make routing workers layout).registries := by simp [cut]
  rw [registries_make member]
  exact Registry.heldFor_of_none rfl table

/-- A registry that is put back leaves a worker clear if it holds no rows itself, should the worker
share it. -/
theorem Clear.put (clear : crew.Clear worker) {index : Nat} {r other : Registry}
    (owner : crew.registryOf index = some r)
    (empty : crew.sharing index worker = true → ∀ table, other.heldFor table = []) :
    (crew.put index other).Clear worker := by
  intro v found
  obtain ⟨same, rfl⟩ | ⟨_, before⟩ := registryOf_put_cases owner found
  · exact empty same
  · exact clear v before

/-- Only a batch that fails leaves rows behind. -/
theorem Clear.afterErrand (clear : crew.Clear worker) (orderly : crew.Orderly layout)
    {errand : Errand} (fine : crew.fails link worker errand = false) :
    (crew.afterErrand link errand).1.Clear worker := by
  obtain same | ⟨index, r, after, owner, closed, same⟩ | ⟨turn, r, rfl, owner, same⟩ :=
    crew.afterErrand_cases link errand
  · rwa [same]
  · rw [same]
    exact clear.put owner fun _ => Registry.heldFor_of_none closed.none
  · rw [same]
    refine clear.put owner fun sharing table => ?_
    have none := clear r ((registryOf_of_sharing sharing).trans owner) table
    have answered : crew.serve link turn = _ := serve_eq owner
    obtain ⟨_, _, _, _, ran, completed⟩ | ⟨_, _, _, _, _, _, _, ran, _⟩ :=
      Ingest.run_completed_or_halted (orderly turn.worker r owner).1 turn.transmit link turn.items
    · rw [ran]
      by_cases visited : table ∈ firstSeen turn.points
      · exact completed.written.emptied table visited
      · rwa [Registry.heldFor_congr (completed.written.others table visited)]
    · rw [ran] at answered
      simp [fails, sharing, answered, Link.isOk] at fine

/-- Errands of which none fails leave a worker clear, by induction on the errands. -/
theorem Clear.afterErrands (clear : crew.Clear worker) (orderly : crew.Orderly layout)
    {errands : List Errand} (fine : crew.noneFails link worker errands = true) :
    (crew.afterErrands link errands).1.Clear worker := by
  induction errands generalizing crew link with
  | nil => exact clear
  | cons errand rest ih =>
    simp only [noneFails, Bool.and_eq_true, Bool.not_eq_true'] at fine
    exact ih (clear.afterErrand orderly fine.1) (orderly.afterErrand link errand) fine.2

end Crew

/-- A batch sends what its tables hold. After any batches, whatever came of them, and any closes
between them, with any answers of the service, a batch that succeeds has sent the rows that its
tables held and then its own, and is empty. If no batch before failed in the registry that its
worker writes to, it has sent its own rows and no others.

Proof: any errands leave every table in use with a writer to itself, so the batch is completed or
halted, and a batch that succeeds was completed. If no errand failed in the registry, its tables
hold nothing. -/
theorem batches_are_sent_in_order (routing : Routing) {workers : Nat} (layout : Layout)
    (start : Link) (errands : List Errand) {before : Crew} {link : Link}
    (reached : (Crew.make routing workers layout).afterErrands start errands = (before, link))
    {turn : Turn} (employed : turn.worker < workers) {outcome : Outcome} {emptied : Batch Item}
    {after : Crew} {later : Link}
    (answer : before.serve link turn = (.ok outcome, emptied, after, later)) :
    ∃ r, before.registryOf turn.worker = some r ∧ r.layout = layout ∧ emptied.items = #[] ∧
      turn.Sent r r.heldFor link outcome later ∧
      ((Crew.make routing workers layout).noneFails start turn.worker errands = true →
        turn.Sent r (fun _ => []) link outcome later) := by
  obtain ⟨r, owner, orderly, made⟩ :=
    Crew.registry_afterErrands routing layout employed start errands
  rw [reached] at owner
  have answered := (Crew.serve_eq owner).symm.trans answer
  obtain ⟨passages, sum, written, last, ran, completed⟩ | ⟨_, _, _, _, _, _, _, ran, _⟩ :=
    Ingest.run_completed_or_halted orderly turn.transmit link turn.items
  · rw [ran] at answered
    simp only [Prod.mk.injEq, Except.ok.injEq] at answered
    obtain ⟨rfl, rfl, rfl, rfl⟩ := answered
    have sent : turn.Sent r r.heldFor link sum last :=
      ⟨passages, completed.passed, completed.rows, completed.metrics⟩
    refine ⟨r, owner, made, rfl, sent, fun fine => ?_⟩
    have clear := (Crew.clear_make routing workers layout turn.worker).afterErrands
      (Crew.orderly_make routing workers layout) fine
    rw [reached] at clear
    rwa [← funext (clear r owner)]
  · simp [ran] at answered

/-- The failing turn, taken by another worker. -/
def neighboursTurn : Turn := { failingTurn with worker := 1 }

/-- A crew of two workers with a shared registry, and its link, after that turn. -/
def afterNeighbour : Crew × Link :=
  (Crew.make .inTurn 2 {}).afterErrands (.fresh .agreeable) [.serve neighboursTurn]

/-- The first worker has taken no turn before. Its batch of one point succeeds and sends two rows,
which are not those of the batch alone. -/
theorem nextTurn_sends_a_row_of_its_neighbour :
    neighboursTurn.worker ≠ nextTurn.worker ∧ nextTurn.transmit = true ∧
      nextTurn.points.length = 1 ∧
      ∃ outcome emptied after later,
        afterNeighbour.1.serve afterNeighbour.2 nextTurn = (.ok outcome, emptied, after, later) ∧
        outcome.rows = 2 ∧ ∀ r, ¬ nextTurn.Sent r (fun _ => []) afterNeighbour.2 outcome later := by
  have answer : (afterNeighbour.1.serve afterNeighbour.2 nextTurn).1 =
      .ok { rows := 2, metrics := 6 } := by decide +kernel
  refine ⟨by decide, rfl, by decide +kernel, _, _, _, _, Prod.ext answer rfl, rfl, ?_⟩
  intro r sent
  obtain ⟨passages, passed, rows, _⟩ := sent.passed
  have tables : passages.map Passage.table = ["cpu"] :=
    passed.tables.trans (by decide +kernel)
  obtain ⟨passage, rfl, its⟩ : ∃ passage, passages = [passage] ∧ passage.table = "cpu" := by
    simpa [List.map_eq_cons_iff] using tables
  obtain ⟨w, _, passes⟩ := passed.each passage List.mem_cons_self
  have one : (ofTable "cpu" nextTurn.points).length = 1 := by decide +kernel
  have few := List.length_filterMap_le (typedRow w.columns) (ofTable "cpu" nextTurn.points)
  have counted := passes.rows_eq
  rw [its, List.nil_append, typedRows] at counted
  have total : 2 = rowsIn [passage] := rows
  have nothing : rowsIn [] = 0 := rfl
  rw [rowsIn_cons, counted] at total
  omega

/-- The other worker has set up one of the two shared tables, and its batch did not fail. A batch
with points of both tables in alternation, and a line that is no point, sends two records with its
own three rows. -/
theorem mixedTurn_sends_its_rows :
    let errands : List Errand := [.serve { Turn.ofColumns [("1", ["user"])] with worker := 1 }]
    let reached := (Crew.make .inTurn 2 {}).afterErrands (.fresh .agreeable) errands
    mixedTurn.worker < 2 ∧ firstSeen mixedTurn.points = ["cpu", "mem"] ∧
      (Crew.make .inTurn 2 {}).noneFails (.fresh .agreeable) mixedTurn.worker errands = true ∧
      ∃ r emptied after later,
        reached.1.serve reached.2 mixedTurn =
          (.ok { rows := 3, metrics := 6, droppedItems := 1 }, emptied, after, later) ∧
        emptied.items = #[] ∧
        mixedTurn.Sent r (fun _ => []) reached.2
          { rows := 3, metrics := 6, droppedItems := 1 } later := by
  intro errands reached
  have employed : mixedTurn.worker < 2 := by decide
  have fine : (Crew.make .inTurn 2 {}).noneFails (.fresh .agreeable) mixedTurn.worker errands =
      true := by decide +kernel
  have outcome : (reached.1.serve reached.2 mixedTurn).1 =
      .ok { rows := 3, metrics := 6, droppedItems := 1 } := by decide +kernel
  have answer : reached.1.serve reached.2 mixedTurn =
      (.ok { rows := 3, metrics := 6, droppedItems := 1 },
        (reached.1.serve reached.2 mixedTurn).2) :=
    Prod.ext outcome rfl
  obtain ⟨r, _, _, emptied, _, sent⟩ := batches_are_sent_in_order .inTurn {} (.fresh .agreeable)
    errands rfl employed answer
  exact ⟨employed, by decide +kernel, fine, r, _, _, _, answer, emptied, sent fine⟩

end SeriesBench
