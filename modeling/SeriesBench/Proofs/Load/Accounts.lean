import SeriesBench.Proofs.Load.Changes

/-!
# The accounts of a load

Every point of the input is at one place: written, in flight, or still to be scanned. Every item
that does not decode is in flight, still to be scanned, or counted. And what was written is
counted table by table: each point has a row under the columns of its table or was dropped.
`Accounts` says all of this at once, and it stays true through every move of a load without
faults.
-/

namespace SeriesBench

namespace TableWriter

/-- The rows of a writer's table among some points. -/
def rowsOf (w : TableWriter) (points : List Point) : List (List Value) :=
  typedRows w.columns (ofTable w.table points)

/-- The rows of points in two parts are those of both. -/
theorem rowsOf_append (w : TableWriter) (xs ys : List Point) :
    w.rowsOf (xs ++ ys) = w.rowsOf xs ++ w.rowsOf ys := by
  simp [rowsOf]

/-- Points of other tables give no rows. -/
theorem rowsOf_other {w : TableWriter} {points : List Point}
    (other : ∀ p ∈ points, p.measurement ≠ w.table) : w.rowsOf points = [] := by
  simp [rowsOf, ofTable_none other, typedRows]

/-- Points of the table give rows under its columns. -/
theorem rowsOf_its {w : TableWriter} {points : List Point}
    (its : ∀ p ∈ points, p.measurement = w.table) :
    w.rowsOf points = typedRows w.columns points := by
  rw [rowsOf, ofTable_all its]

/-- In whatever order the points come, there are as many rows. -/
theorem length_rowsOf_perm (w : TableWriter) {xs ys : List Point} (perm : xs.Perm ys) :
    (w.rowsOf xs).length = (w.rowsOf ys).length :=
  ((perm.filter _).filterMap _).length_eq

end TableWriter

namespace Ingest

/-- Writing keeps the table and the columns of a writer. -/
theorem Written.same {transmit : Bool} {w other : TableWriter} {link after : Link}
    {points : List Point} {outcome : Outcome}
    (written : Written transmit w link points outcome other after) :
    other.table = w.table ∧ other.columns = w.columns := by
  rcases written.sent with ⟨_, ⟨_, _, rfl⟩, _⟩ | ⟨_, ready, record, same, _, _, pair⟩
  · exact ⟨rfl, rfl⟩
  · obtain ⟨statement, changed⟩ := Ledger.transmit_writer ready link record
    obtain ⟨_, _, rfl⟩ := same
    have writer : other = _ := congrArg Prod.fst pair
    rw [writer, changed]
    exact ⟨rfl, rfl⟩

end Ingest

/-- The rows of all tables among some points, each weighed by the columns of its table. -/
def weighRows (weight : List ColumnDef → Nat) (writers : List TableWriter)
    (points : List Point) : Nat :=
  (writers.map fun w => (w.rowsOf points).length * weight w.columns).sum

namespace Pipeline

variable {s next : Pipeline} {actor : Actor} {all : List Item} {done : List Point}

/-- Where the points and the items of a load are. -/
structure Located (all : List Item) (done : List Point) (s : Pipeline) : Prop where
  points : ∀ p, done.count p + ∑ i ∈ Finset.range s.plan.workers, (s.pointsAt i).count p +
    s.pointsAhead.count p = (all.filterMap Item.decoded).count p
  items : s.counted Outcome.droppedItems +
    ∑ i ∈ Finset.range s.plan.workers, (s.itemsAt i).countP Item.undecodable +
    s.ahead.countP Item.undecodable = all.countP Item.undecodable

/-- A move takes points from one place to another. -/
theorem points_move (located : Located all done s)
    (shift : ∃ entry exit arrived, Shift s next actor entry exit arrived)
    (plan : next.plan = s.plan) (p : Point) :
    (done ++ s.written actor).count p +
      ∑ i ∈ Finset.range next.plan.workers, (next.pointsAt i).count p +
      next.pointsAhead.count p = (all.filterMap Item.decoded).count p := by
  obtain ⟨entry, exit, arrived, shift⟩ := shift
  have each (i : Nat) : (s.pointsAt i).count p + (onlyAt entry arrived i).count p =
      (onlyAt exit (s.written actor) i).count p + (next.pointsAt i).count p := by
    rw [← List.count_append, ← List.count_append, count_eq_ofTable, shift.points,
      ← count_eq_ofTable]
  have sum : ∑ i ∈ Finset.range s.plan.workers, (s.pointsAt i).count p + arrived.count p =
      (s.written actor).count p + ∑ i ∈ Finset.range s.plan.workers, (next.pointsAt i).count p := by
    rw [← sum_onlyAt shift.entryInside (List.count p) List.count_nil arrived,
      ← sum_onlyAt shift.exitInside (List.count p) List.count_nil (s.written actor),
      ← Finset.sum_add_distrib, ← Finset.sum_add_distrib]
    exact Finset.sum_congr rfl fun i _ => each i
  have before := located.points p
  rw [shift.ahead, List.count_append] at before
  rw [plan, List.count_append]
  omega

/-- However a move changes the writers, it counts the items that it takes and that do not
decode. -/
theorem Change.droppedItems (change : Change s next actor) :
    next.counted Outcome.droppedItems = s.counted Outcome.droppedItems +
      (s.taken actor).countP Item.undecodable := by
  cases change with
  | counted writers link writes counts => exact counts _ Outcome.additive_droppedItems
  | enrolled index group rest layout before behind front was now new link writes takes counts =>
    rw [takes, counts _ Outcome.additive_droppedItems]
    rfl
  | wrote w other before behind gain was now its opened written takes counts =>
    rw [takes, counts _ Outcome.additive_droppedItems, written.droppedItems]
    rfl

/-- A move takes items from one place to another, or counts them. -/
theorem items_move (formed : s.Formed) (located : Located all done s) (flow : Flow s next actor)
    (change : Change s next actor) (plan : next.plan = s.plan) (lossless : next.Lossless) :
    next.counted Outcome.droppedItems +
      ∑ i ∈ Finset.range next.plan.workers, (next.itemsAt i).countP Item.undecodable +
      next.ahead.countP Item.undecodable = all.countP Item.undecodable := by
  have before := located.items
  rw [change.droppedItems, plan]
  cases flow with
  | arrived item ahead items groups takes =>
    have inside : (s.router.route item).1 < s.plan.workers :=
      formed.partitions ▸ s.router.route_lt item
    have sum := sum_onlyAt inside (List.countP Item.undecodable) List.countP_nil [item]
    have apart : item :: next.ahead = [item] ++ next.ahead := rfl
    rw [ahead, apart, List.countP_append] at before
    simp only [items, List.countP_append, Finset.sum_add_distrib, takes, List.countP_nil]
    omega
  | sorted place ahead items free groups inside =>
    rw [formed.workers] at inside
    have sum := sum_onlyAt inside (List.countP Item.undecodable) List.countP_nil
      (s.taken actor)
    have whole (i : Nat) : (s.itemsAt i).countP Item.undecodable =
        (onlyAt place (s.taken actor) i).countP Item.undecodable +
          (next.itemsAt i).countP Item.undecodable := by
      rw [items, List.countP_append]
    simp only [whole, Finset.sum_add_distrib] at before
    rw [ahead]
    omega
  | left place group ahead items groups inside takes =>
    simp only [ahead, items, takes, List.countP_nil]
    omega
  | still ahead items groups takes =>
    simp only [ahead, items, takes, List.countP_nil]
    omega
  | lost ahead items groups failed => exact absurd lossless failed

/-- At first everything is still to be scanned. -/
theorem located_start (plan : LoadPlan) (router : Router) (scanner : Scanner) (link : Link) :
    Located (Scanner.itemsOf plan.intake (Scanner.linesAhead scanner.upcoming)) []
      (start plan router scanner link) := by
  obtain ⟨ahead, flight⟩ := flight_start plan router scanner link
  have none : (start plan router scanner link).counted Outcome.droppedItems = 0 := by
    simp [start_eq, counted, Worker.counted, Duty.sum]
  refine ⟨?_, ?_⟩
  · intro p
    simp [pointsAt, flight, pointsAhead, ahead, Ingest.pointsIn]
  · simp [none, flight, ahead]

/-- What was written is counted, table by table. -/
structure Booked (done : List Point) (s : Pipeline) : Prop where
  empty : ∀ w ∈ s.crew.writers, w.Holds []
  known : ∀ p ∈ done, p.measurement ∈ s.crew.made
  rows : s.counted Outcome.rows = weighRows (fun _ => 1) s.crew.writers done
  metrics : s.counted Outcome.metrics = weighRows List.length s.crew.writers done
  droppedRows : s.counted Outcome.droppedRows + s.counted Outcome.rows = done.length

/-- A table to which nothing was written yet adds nothing. -/
theorem weighRows_create (weight : List ColumnDef → Nat) {w : TableWriter}
    {before behind : List TableWriter} (unwritten : ∀ p ∈ done, p.measurement ≠ w.table) :
    weighRows weight (before ++ w :: behind) done = weighRows weight (before ++ behind) done := by
  simp [weighRows, TableWriter.rowsOf_other unwritten]

/-- Points of one table add their rows to it alone. -/
theorem weighRows_write (weight : List ColumnDef → Nat) {w other : TableWriter}
    {before behind : List TableWriter} {points : List Point}
    (distinct : ((before ++ w :: behind).map TableWriter.table).Nodup)
    (table : other.table = w.table) (columns : other.columns = w.columns)
    (its : ∀ p ∈ points, p.measurement = w.table) :
    weighRows weight (before ++ other :: behind) (done ++ points) =
      weighRows weight (before ++ w :: behind) done +
        (TableWriter.typedRows w.columns points).length * weight w.columns := by
  have elsewhere (v : TableWriter) (member : v ∈ before ++ behind) :
      v.rowsOf (done ++ points) = v.rowsOf done := by
    have apart := table_ne_of_distinct distinct member
    have none : v.rowsOf points = [] :=
      TableWriter.rowsOf_other fun p inside same => apart (same.symm.trans (its p inside))
    rw [TableWriter.rowsOf_append, none, List.append_nil]
  have here : other.rowsOf (done ++ points) =
      w.rowsOf done ++ TableWriter.typedRows w.columns points := by
    have same : other.rowsOf (done ++ points) = w.rowsOf (done ++ points) := by
      rw [TableWriter.rowsOf, TableWriter.rowsOf, table, columns]
    rw [same, TableWriter.rowsOf_append, TableWriter.rowsOf_its its]
  have kept (writers : List TableWriter) (inside : ∀ v ∈ writers, v ∈ before ++ behind) :
      writers.map (fun v => (v.rowsOf (done ++ points)).length * weight v.columns) =
        writers.map (fun v => (v.rowsOf done).length * weight v.columns) :=
    List.map_congr_left fun v member => by rw [elsewhere v (inside v member)]
  simp only [weighRows, List.map_append, List.map_cons, List.sum_append, List.sum_cons, here,
    columns, List.length_append, Nat.add_mul]
  rw [kept before fun v member => List.mem_append_left _ member,
    kept behind fun v member => List.mem_append_right _ member]
  omega

/-- A move keeps the books of a load: each of its effects on the writers goes with what it counts.
-/
theorem booked_move (staffed : s.Staffed) (booked : Booked done s) (change : Change s next actor) :
    Booked (done ++ s.written actor) next := by
  cases change with
  | counted writers link writes counts =>
    have rows := counts _ Outcome.additive_rows
    have metrics := counts _ Outcome.additive_metrics
    have dropped := counts _ Outcome.additive_droppedRows
    simp only [Nat.add_zero] at rows metrics dropped
    have made : next.crew.made = s.crew.made := by
      rw [← Crew.made_eq, writers, Crew.made_eq]
    rw [writes, List.append_nil]
    exact ⟨writers ▸ booked.empty, made ▸ booked.known, by rw [rows, booked.rows, writers],
      by rw [metrics, booked.metrics, writers], by rw [rows, dropped, booked.droppedRows]⟩
  | enrolled index group rest layout before behind front was now new link writes takes counts =>
    have rows := counts _ Outcome.additive_rows
    have metrics := counts _ Outcome.additive_metrics
    have dropped := counts _ Outcome.additive_droppedRows
    have unwritten : ∀ p ∈ done, p.measurement ≠
        (TableWriter.create group.table group.first layout).table := by
      intro p member same
      have table : p.measurement = group.table := same
      exact new (table ▸ booked.known p member)
    rw [writes, List.append_nil]
    refine ⟨?_, ?_, ?_, ?_, by rw [rows, dropped, booked.droppedRows]⟩
    · intro w member
      rw [now] at member
      rcases mem_cut.mp member with rfl | old
      · exact TableWriter.holds_create _ _ _
      · exact booked.empty w (was ▸ old)
    · intro p member
      have old := booked.known p member
      rw [← Crew.made_eq, was, List.map_append] at old
      rw [← Crew.made_eq, now, List.map_append, List.map_cons]
      exact mem_cut.mpr (Or.inr old)
    · rw [rows, booked.rows, now, was, weighRows_create _ unwritten]
    · rw [metrics, booked.metrics, now, was, weighRows_create _ unwritten]
  | wrote w other before behind gain was now its opened written takes counts =>
    obtain ⟨table, columns⟩ := written.same
    have distinct := staffed.books.distinct
    rw [was] at distinct
    have rows := counts _ Outcome.additive_rows
    have metrics := counts _ Outcome.additive_metrics
    have dropped := counts _ Outcome.additive_droppedRows
    have made : next.crew.made = s.crew.made := by
      rw [← Crew.made_eq, ← Crew.made_eq, now, was]
      simp [table]
    refine ⟨?_, ?_, ?_, ?_, ?_⟩
    · intro v member
      rw [now] at member
      rcases mem_cut.mp member with rfl | old
      · exact written.empty
      · exact booked.empty v (was ▸ mem_cut.mpr (Or.inr old))
    · intro p member
      rw [made]
      rcases List.mem_append.mp member with old | new
      · exact booked.known p old
      · rw [its p new, ← Crew.made_eq, was]
        simp
    · rw [rows, booked.rows, now, was, weighRows_write _ distinct table columns its, written.rows]
      simp
    · rw [metrics, booked.metrics, now, was, weighRows_write _ distinct table columns its,
        written.metrics]
    · have before := booked.droppedRows
      have both := written.droppedRows
      rw [rows, dropped, List.length_append, written.rows]
      omega

/-- At first there are no writers, and nothing is counted. -/
theorem booked_start (plan : LoadPlan) (router : Router) (scanner : Scanner) (service : Service) :
    Booked [] (start plan router scanner (.fresh service)) := by
  have none : (start plan router scanner (.fresh service)).crew.writers = [] := by
    rw [start_eq]
    exact Crew.writers_make plan.routing plan.workers plan.layout
  have nothing (count : Outcome → Nat) (additive : Outcome.Additive count) :
      (start plan router scanner (.fresh service)).counted count = 0 := by
    simp [start_eq, counted, Worker.counted, Duty.sum, additive.empty]
  exact
    { empty := by simp [none]
      known := by simp
      rows := by rw [nothing _ Outcome.additive_rows, none]; rfl
      metrics := by rw [nothing _ Outcome.additive_metrics, none]; rfl
      droppedRows := by
        rw [nothing _ Outcome.additive_rows, nothing _ Outcome.additive_droppedRows]
        rfl }

end Pipeline

end SeriesBench
