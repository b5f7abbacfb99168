import SeriesBench.Proofs.Worker.Kept

/-!
# Batches after batches that failed

Workers take in batches one after the other, each with its own registry or all with the one they
share, and some of the batches may fail. A batch that succeeds is accounted for in full, but not by
itself: it also flushes and counts the rows that failed batches left behind in its tables.

There is no way to give those rows back, because a fault of this kind ends the load that it
happens in. They are flushed once, in front of the batch's own rows of the table, and only if a
later batch has a point for that table. Without failed batches nothing is left behind, and every
batch is accounted for by itself.
-/

namespace SeriesBench

open TableWriter

/-- A turn of a worker: it takes in a batch. -/
structure Turn where
  worker : Nat
  transmit : Bool
  batch : Batch Item

namespace Turn

/-- The items of the batch. -/
def items (turn : Turn) : List Item :=
  turn.batch.items.toList

/-- The points of the batch. -/
def points (turn : Turn) : List Point :=
  turn.items.filterMap Item.decoded

/-- The batch is accounted for by itself: each of its items is in one of the counts or has no
columns, and each record that was flushed has the rows of its points of one table. -/
structure ByItself (turn : Turn) (outcome : Outcome) (flushed : List (String × Record)) :
    Prop where
  items : outcome.rows + outcome.droppedRows + outcome.droppedItems +
    turn.items.countP Item.columnless = turn.items.length
  records : ∀ table record, (table, record) ∈ flushed → ∃ columns : List ColumnDef,
    record.fields = columns.map ColumnDef.field ∧
    record.rowList = typedRows columns (ofTable table turn.points)

end Turn

namespace Crew

/-- A worker takes its turn. -/
def serve (crew : Crew) (link : Link) (turn : Turn) :
    Except Fault Outcome × Batch Item × Crew × Link :=
  crew.ingest turn.worker turn.transmit link turn.batch

/-- The crew and its link after some turns, one after the other, whatever came of them. -/
def afterTurns (crew : Crew) (link : Link) : List Turn → Crew × Link
  | [] => (crew, link)
  | turn :: rest =>
    let (_, _, crew, link) := crew.serve link turn
    crew.afterTurns link rest

/-- The records that a turn flushes, each with its table. -/
def flushed (crew : Crew) (link : Link) (turn : Turn) : List (String × Record) :=
  match crew.registryOf turn.worker with
  | none => []
  | some registry =>
    Ingest.flushedIn turn.transmit registry link (Ingest.sort turn.items ([], 0)).1

/-- The rows for a table that are still in the buffers that a worker writes to. -/
def leftFor (crew : Crew) (worker : Nat) (table : String) : List (List Value) :=
  match crew.registryOf worker with
  | none => []
  | some registry => registry.leftFor table

/-- Whether two workers write to the same registry. -/
def sharing (crew : Crew) (one other : Nat) : Bool :=
  crew.shared.isSome || one == other

/-- The points of a turn, if it fails and is in the registry that a worker writes to. -/
def failedOf (crew : Crew) (link : Link) (worker : Nat) (turn : Turn) : List Point :=
  match (crew.serve link turn).1 with
  | .ok _ => []
  | .error _ => if crew.sharing turn.worker worker then turn.points else []

/-- The points of those among some turns that failed, in the registry that a worker writes to. -/
def failedPoints (crew : Crew) (link : Link) (worker : Nat) : List Turn → List Point
  | [] => []
  | turn :: rest =>
    let (_, _, next, link') := crew.serve link turn
    crew.failedOf link worker turn ++ next.failedPoints link' worker rest

variable {crew : Crew} {link : Link} {past : Nat → List Point}

/-- Workers that share a registry have the same one. -/
theorem registryOf_of_sharing {one other : Nat} (same : crew.sharing one other = true) :
    crew.registryOf other = crew.registryOf one := by
  cases shared : crew.shared with
  | some registry => simp [registryOf, shared]
  | none =>
    obtain rfl : one = other := by simpa [sharing, shared] using same
    rfl

/-- A registry that is put back is that of all workers that share it. -/
theorem registryOf_put_sharing {index : Nat} {r : Registry}
    (owner : crew.registryOf index = some r) (other : Registry) (worker : Nat) :
    (crew.put index other).registryOf worker =
      if crew.sharing index worker then some other else crew.registryOf worker := by
  by_cases same : worker = index
  · subst same
    simp [sharing, registryOf_put owner]
  · rw [registryOf_put_other same]
    simp [sharing, Ne.symm same]

/-- After a registry was put back, a worker that shares it writes to it, and any other to the one
from before. -/
theorem registryOf_put_cases {index worker : Nat} {r other v : Registry}
    (owner : crew.registryOf index = some r)
    (found : (crew.put index other).registryOf worker = some v) :
    crew.sharing index worker = true ∧ v = other ∨
      crew.sharing index worker = false ∧ crew.registryOf worker = some v := by
  rw [registryOf_put_sharing owner] at found
  cases same : crew.sharing index worker with
  | true => exact Or.inl ⟨rfl, by simpa [same, eq_comm] using found⟩
  | false => exact Or.inr ⟨rfl, by simpa [same] using found⟩

/-- A worker does not lose its registry when one is put back. -/
theorem employed_put {index worker : Nat} {r : Registry} (owner : crew.registryOf index = some r)
    (other : Registry) (employed : (crew.registryOf worker).isSome) :
    ((crew.put index other).registryOf worker).isSome := by
  rw [registryOf_put_sharing owner]
  split
  · rfl
  · exact employed

/-- A turn is taken in the registry that its worker writes to. -/
theorem serve_eq {turn : Turn} {r : Registry} (owner : crew.registryOf turn.worker = some r) :
    crew.serve link turn =
      ((Ingest.run turn.transmit r link turn.items).1, turn.batch.clear,
        crew.put turn.worker (Ingest.run turn.transmit r link turn.items).2.1,
        (Ingest.run turn.transmit r link turn.items).2.2) := by
  simp only [serve, ingest, owner]
  rfl

/-- A turn of somebody who is no worker comes to nothing. -/
theorem serve_of_none {turn : Turn} (none : crew.registryOf turn.worker = none) :
    crew.serve link turn = (.ok {}, turn.batch.clear, crew, link) := by
  simp only [serve, ingest, none]
  rfl

/-- A crew keeps only points of these, given for each worker. -/
def Owes (crew : Crew) (past : Nat → List Point) : Prop :=
  ∀ worker r, crew.registryOf worker = some r → ∃ kept, r.Keeps kept ∧
    ∀ table, (kept table).Sublist (ofTable table (past worker))

/-- Nothing is owed in a new crew. -/
theorem owes_make (routing : Routing) (workers : Nat) (layout : Layout) :
    (make routing workers layout).Owes fun _ => [] := by
  intro worker r owner
  obtain ⟨before, behind, cut, _⟩ := registries_put owner
  have member : r ∈ (make routing workers layout).registries := by simp [cut]
  rw [registries_make member]
  exact ⟨_, Registry.keeps_empty layout, fun _ => List.Sublist.refl _⟩

/-- After a turn a crew keeps only points that it kept before, and those of the turn if it failed.
Workers that share the registry keep them as well. -/
theorem owes_serve (owes : crew.Owes past) (link : Link) (turn : Turn) :
    (crew.serve link turn).2.2.1.Owes fun worker =>
      past worker ++ crew.failedOf link worker turn := by
  intro worker found owner
  cases asked : crew.registryOf turn.worker with
  | none =>
    rw [serve_of_none asked] at owner
    simpa [failedOf, serve_of_none asked] using owes worker found owner
  | some r =>
    rw [serve_eq asked, registryOf_put_sharing asked] at owner
    by_cases same : crew.sharing turn.worker worker = true
    · obtain ⟨kept, keeps, among⟩ := owes worker r (by rw [registryOf_of_sharing same, asked])
      simp only [same, if_true, Option.some.injEq] at owner
      subst owner
      rcases ran : Ingest.run turn.transmit r link turn.items with ⟨fault | outcome, written, after⟩
      · obtain ⟨left, held, inside⟩ := Ingest.run_error keeps ran
        refine ⟨left, held, fun table => (inside table).trans ?_⟩
        simp only [failedOf, serve_eq asked, ran, same, if_true, ofTable_append]
        exact (among table).append (List.Sublist.refl _)
      · obtain ⟨held, _⟩ := Ingest.run_ok keeps ran
        refine ⟨_, held, fun table => ?_⟩
        simp only [failedOf, serve_eq asked, ran, List.append_nil]
        split
        · exact List.nil_sublist _
        · exact among table
    · simp only [same] at owner
      obtain ⟨kept, keeps, among⟩ := owes worker found owner
      refine ⟨kept, keeps, fun table => (among table).trans ?_⟩
      rw [ofTable_append]
      exact List.sublist_append_left _ _

/-- After some turns a crew keeps only points of those that failed. -/
theorem owes_afterTurns (owes : crew.Owes past) (link : Link) (turns : List Turn) :
    (crew.afterTurns link turns).1.Owes fun worker =>
      past worker ++ crew.failedPoints link worker turns := by
  induction turns generalizing crew link past with
  | nil => simpa [afterTurns, failedPoints] using owes
  | cons turn rest ih =>
    let served := crew.serve link turn
    have later := ih (owes_serve owes link turn) served.2.2.2
    simpa [afterTurns, failedPoints, List.append_assoc] using later

/-- A worker does not lose its registry. -/
theorem employed_afterTurns {worker : Nat} (employed : (crew.registryOf worker).isSome)
    (link : Link) (turns : List Turn) : ((crew.afterTurns link turns).1.registryOf worker).isSome := by
  induction turns generalizing crew link with
  | nil => exact employed
  | cons turn rest ih =>
    have still : ((crew.serve link turn).2.2.1.registryOf worker).isSome := by
      cases asked : crew.registryOf turn.worker with
      | none => rwa [serve_of_none asked]
      | some r =>
        rw [serve_eq asked]
        exact employed_put asked _ employed
    exact ih still (crew.serve link turn).2.2.2

/-- Every worker of a new crew has a registry to write to. -/
theorem employed_make (routing : Routing) {workers worker : Nat} (layout : Layout)
    (inside : worker < workers) : ((make routing workers layout).registryOf worker).isSome := by
  cases routing <;> simp [make, registryOf, inside]

end Crew

/-- The rows are those of some of these points, one for each. -/
def RowsAmong (points : List Point) (columns : List ColumnDef) (rows : List (List Value)) : Prop :=
  ∃ chosen, chosen.Sublist points ∧ rows = typedRows columns chosen ∧
    rows.length = chosen.length

/-- The account of a turn that succeeded, where `failed` are the points of failed batches:

* its items and the rows that were left for its tables are each in one of the counts, or without
  columns;
* what is counted as rows was flushed, into at most one record for each of its tables;
* a record holds the rows that were left for its table, then those of the batch's points;
* what was left for a table are rows of points of failed batches;
* what was inserted are records that were flushed;
* afterwards nothing is left for the tables of the batch. -/
structure Accounted (before : Crew) (link : Link) (turn : Turn) (failed : List Point)
    (outcome : Outcome) (after : Crew) (link' : Link) : Prop where
  items : outcome.rows + outcome.droppedRows + outcome.droppedItems +
    turn.items.countP Item.columnless = turn.items.length +
      ((tablesOf turn.points).map fun table => (before.leftFor turn.worker table).length).sum
  rows : outcome.rows = ((before.flushed link turn).map fun entry => entry.2.rows).sum
  tables : ((before.flushed link turn).map Prod.fst).Nodup ∧
    ∀ table ∈ (before.flushed link turn).map Prod.fst, table ∈ tablesOf turn.points
  records : ∀ table record, (table, record) ∈ before.flushed link turn →
    ∃ columns : List ColumnDef,
      RowsAmong (ofTable table failed) columns (before.leftFor turn.worker table) ∧
      record.fields = columns.map ColumnDef.field ∧
      record.rowList = before.leftFor turn.worker table ++
        typedRows columns (ofTable table turn.points)
  left : ∀ table, ∃ columns,
    RowsAmong (ofTable table failed) columns (before.leftFor turn.worker table)
  sent : link.Inserts link' ((before.flushed link turn).map Prod.snd)
  settled : ∀ table ∈ tablesOf turn.points, after.leftFor turn.worker table = []

/-- A turn that succeeds is accounted for, if the crew keeps only points of failed batches. -/
theorem accounted_of_owes {before after : Crew} {past : Nat → List Point} (owes : before.Owes past)
    {turn : Turn} (employed : (before.registryOf turn.worker).isSome) {outcome : Outcome}
    {emptied : Batch Item} {link link' : Link}
    (answer : before.serve link turn = (.ok outcome, emptied, after, link')) :
    Accounted before link turn (past turn.worker) outcome after link' := by
  obtain ⟨r, owner⟩ := Option.isSome_iff_exists.mp employed
  obtain ⟨kept, keeps, among⟩ := owes turn.worker r owner
  rcases ran : Ingest.run turn.transmit r link turn.items with ⟨result, written, link''⟩
  rw [Crew.serve_eq owner, ran] at answer
  simp only [Prod.mk.injEq] at answer
  obtain ⟨rfl, _, rfl, rfl⟩ := answer
  obtain ⟨held, settled, inserts⟩ := Ingest.run_ok keeps ran
  have lefts (table : String) : before.leftFor turn.worker table = r.leftFor table := by
    simp [Crew.leftFor, owner]
  have flushes : before.flushed link turn =
      Ingest.flushedIn turn.transmit r link (Ingest.sort turn.items ([], 0)).1 := by
    simp [Crew.flushed, owner]
  have sorted := (Ingest.sort_spec turn.items Ingest.sorted_nil 0).1
  have tables := Ingest.tables_sort turn.items
  refine ⟨?_, ?_, ?_, ?_, ?_, ?_, ?_⟩
  · have points := settled.points
    have undecodable := settled.droppedItems
    have whole := Item.length_eq_decoded turn.items
    rw [Ingest.sum_sort] at points
    simp only [lefts, (keeps.leftFor _).1, Turn.points]
    simp only at points undecodable
    omega
  · simpa [flushes] using settled.rows
  · rw [flushes]
    exact ⟨settled.tables.nodup sorted.distinct, fun table member =>
      tables.mem_iff.mp (settled.tables.subset member)⟩
  · intro table record member
    rw [flushes] at member
    obtain ⟨columns, left, fields, rowList⟩ := settled.records table record member
    rw [Ingest.ofTable_sort, typedRows_append, ← left] at rowList
    rw [lefts]
    exact ⟨columns, ⟨_, among table, left, (keeps.leftFor table).1⟩, fields, rowList⟩
  · intro table
    obtain ⟨length, columns, left⟩ := keeps.leftFor table
    rw [lefts]
    exact ⟨columns, _, among table, left, length⟩
  · rwa [flushes]
  · intro table member
    have none := (held.leftFor table).1
    have inBatch : table ∈ tablesOf (turn.items.filterMap Item.decoded) := member
    rw [if_pos inBatch] at none
    simpa [Crew.leftFor, Crew.registryOf_put owner] using none

/-- When no batch failed before, a turn that succeeds is accounted for by itself. -/
theorem Accounted.byItself {before after : Crew} {link link' : Link} {turn : Turn}
    {failed : List Point} {outcome : Outcome}
    (accounted : Accounted before link turn failed outcome after link')
    (none : ∀ table, ofTable table failed = []) : turn.ByItself outcome (before.flushed link turn) := by
  have nothing (table : String) : before.leftFor turn.worker table = [] := by
    obtain ⟨columns, points, among, rows, _⟩ := accounted.left table
    rw [none, List.sublist_nil] at among
    simp [rows, among, typedRows]
  refine ⟨?_, ?_⟩
  · simpa [nothing] using accounted.items
  · intro table record member
    obtain ⟨columns, _, fields, rowList⟩ := accounted.records table record member
    rw [nothing, List.nil_append] at rowList
    exact ⟨columns, fields, rowList⟩

/-- After any turns, of which any may have failed, a turn that succeeds is accounted for together
with what failed turns left in the registry that its worker writes to. If none of them failed in
that registry, it is accounted for by itself.

Proof: after any turns every registry owes the rows of some points, which are among those of the
turns that failed in it: induction on the turns, with one batch as the step. A turn that succeeds
flushes what was owed and its own, and counts both. -/
theorem turns_are_accounted_for (routing : Routing) {workers : Nat} (layout : Layout) (start : Link)
    (turns : List Turn) {before after : Crew} {link link' : Link}
    (reached : (Crew.make routing workers layout).afterTurns start turns = (before, link))
    {turn : Turn} (employed : turn.worker < workers) {outcome : Outcome} {emptied : Batch Item}
    (answer : before.serve link turn = (.ok outcome, emptied, after, link')) :
    let failed := (Crew.make routing workers layout).failedPoints start turn.worker turns
    Accounted before link turn failed outcome after link' ∧
      (failed = [] → turn.ByItself outcome (before.flushed link turn)) := by
  intro failed
  have owes := Crew.owes_afterTurns (Crew.owes_make routing workers layout) start turns
  have registry := Crew.employed_afterTurns (Crew.employed_make routing layout employed) start turns
  rw [reached] at owes registry
  have accounted := accounted_of_owes owes registry answer
  rw [List.nil_append] at accounted
  exact ⟨accounted, fun none => accounted.byItself fun table => congrArg (ofTable table) none⟩

/-- A turn of the first worker, with points of one table at these times and with these columns. -/
def Turn.ofColumns (points : List (String × List String)) : Turn where
  worker := 0
  transmit := true
  batch := ⟨(points.map fun (time, names) =>
    .point ⟨"cpu", time, [], names.map fun name => ⟨name, .int64, some "7"⟩⟩).toArray, points.length⟩

/-- A turn that fails at its second point, when the first has been taken. -/
def failingTurn : Turn := .ofColumns [("1", ["user", "system"]), ("2", ["user"])]

/-- A turn with one point, as wide as the first point of the failing turn. -/
def nextTurn : Turn := .ofColumns [("3", ["user", "system"])]

/-- A turn whose points are of two tables in alternation, with one line that is no point. -/
def mixedTurn : Turn where
  worker := 0
  transmit := true
  batch := ⟨#[.point ⟨"cpu", "2", [], [⟨"user", .int64, some "7"⟩]⟩,
    .point ⟨"mem", "3", [], [⟨"free", .int64, some "8"⟩]⟩,
    .line "cpu",
    .point ⟨"cpu", "4", [], [⟨"idle", .int64, some "9"⟩]⟩], 4⟩

/-- The crew of one worker and its link after the failing turn. -/
def afterFailing : Crew × Link :=
  (Crew.make .byMeasurement 1 {}).afterTurns (.fresh .agreeable) [failingTurn]

/-- After the failing turn the next one has one item, and flushes and counts two rows. -/
theorem nextTurn_counts_a_row_too_many :
    ((Crew.make .byMeasurement 1 {}).serve (.fresh .agreeable) failingTurn).1 =
        .error (.width "cpu" 3 2) ∧
    ∃ outcome emptied after link',
      afterFailing.1.serve afterFailing.2 nextTurn = (.ok outcome, emptied, after, link') ∧
      nextTurn.items.length = 1 ∧ outcome.rows = 2 ∧
      (afterFailing.1.flushed afterFailing.2 nextTurn).map (fun entry => entry.2.rows) = [2] ∧
      ¬ nextTurn.ByItself outcome (afterFailing.1.flushed afterFailing.2 nextTurn) := by
  have answer : (afterFailing.1.serve afterFailing.2 nextTurn).1 = .ok { rows := 2, metrics := 6 } := by
    decide +kernel
  refine ⟨by decide +kernel, _, _, _, _, Prod.ext answer rfl, by decide +kernel, rfl,
    by decide +kernel, ?_⟩
  intro byItself
  exact absurd byItself.items (by decide +kernel)

/-- The row that the failing turn left makes up the difference. -/
theorem nextTurn_is_accounted_for :
    ∃ emptied after link', nextTurn.worker < 1 ∧
      (Crew.make .byMeasurement 1 {}).afterTurns (.fresh .agreeable) [failingTurn] = afterFailing ∧
      afterFailing.1.serve afterFailing.2 nextTurn =
        (.ok { rows := 2, metrics := 6 }, emptied, after, link') ∧
      Accounted afterFailing.1 afterFailing.2 nextTurn failingTurn.points
        { rows := 2, metrics := 6 } after link' := by
  have employed : nextTurn.worker < 1 := by decide
  have reached : (Crew.make .byMeasurement 1 {}).afterTurns (.fresh .agreeable) [failingTurn] =
      (afterFailing.1, afterFailing.2) := rfl
  have outcome : (afterFailing.1.serve afterFailing.2 nextTurn).1 =
      .ok { rows := 2, metrics := 6 } := by decide +kernel
  have answer : afterFailing.1.serve afterFailing.2 nextTurn =
      (.ok { rows := 2, metrics := 6 }, (afterFailing.1.serve afterFailing.2 nextTurn).2) :=
    Prod.ext outcome rfl
  have failed : (Crew.make .byMeasurement 1 {}).failedPoints (.fresh .agreeable) nextTurn.worker
      [failingTurn] = failingTurn.points := by decide +kernel
  refine ⟨_, _, _, employed, reached, answer, ?_⟩
  rw [← failed]
  exact (turns_are_accounted_for .byMeasurement {} (.fresh .agreeable) [failingTurn] reached employed
    answer).1

end SeriesBench
