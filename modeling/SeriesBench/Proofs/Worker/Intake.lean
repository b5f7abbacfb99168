import SeriesBench.Proofs.Remote.Obliging
import SeriesBench.Proofs.Worker.Holdings
import SeriesBench.Proofs.Worker.Schemas
import SeriesBench.Proofs.Worker.Visits

/-!
# What comes of items, told item by item

A batch is sorted by table and written group by group. What comes of it can be told from its items
alone, one after the other, without a look at the groups: whether it fails, the counts, the tables
with their columns, and which rows go into a table, in which order.

`TookIn` says this of the points of some items, for a registry whose buffers are empty and a service
whose calls succeed, and `Comes` adds when there is a fault. What comes of two parts is put together
from what comes of each, be the parts groups of one batch or batches of one worker.
-/

namespace SeriesBench

open TableWriter

/-- What three outcomes add up to does not depend on how they are grouped. -/
theorem Outcome.add_assoc (a b c : Outcome) : a + b + c = a + (b + c) := by
  show Outcome.add (Outcome.add a b) c = Outcome.add a (Outcome.add b c)
  simp [Outcome.add, Nat.add_assoc]

namespace Ingest

/-- What came of some points and so many items that did not decode: a registry with empty buffers
took them in over a service whose calls succeed. -/
structure TookIn (transmit : Bool) (r : Registry) (link : Link) (dropped : Nat)
    (points : List Point) (outcome : Outcome) (other : Registry) (after : Link) : Prop where
  outcome : outcome = (r.schemas.seeAll points).outcome dropped points
  schemas : other.schemas = r.schemas.seeAll points
  keeps : other.Keeps fun _ => []
  prepared : other.Prepared after.journal
  service : after.service = link.service
  handed : ∃ sent, r.Handed link sent other after ∧ ∀ table,
    (sent table).flatMap Record.rowList =
      if transmit then (r.schemas.seeAll points).rows (ofTable table points) else []

/-- What comes of some points: they are taken in if all of them fit their tables, and there is a
fault if one does not. -/
inductive Comes (transmit : Bool) (r : Registry) (link : Link) (dropped : Nat)
    (points : List Point) : Except Fault Outcome → Registry → Link → Prop where
  | took {outcome : Outcome} {other : Registry} {after : Link}
      (fits : ∀ p ∈ points, (r.schemas.seeAll points).Fits p)
      (took : TookIn transmit r link dropped points outcome other after) :
      Comes transmit r link dropped points (.ok outcome) other after
  | stopped {fault : Fault} {other : Registry} {after : Link}
      (misfit : ¬ ∀ p ∈ points, (r.schemas.seeAll points).Fits p) :
      Comes transmit r link dropped points (.error fault) other after

variable {transmit : Bool} {r middle last : Registry} {link between after : Link}
  {points others : List Point} {dropped more : Nat} {outcome total : Outcome}

/-- Points in two parts: the second adds its own to what the first gave. -/
theorem TookIn.append (one : TookIn transmit r link dropped points outcome middle between)
    (two : TookIn transmit middle between more others total last after) :
    TookIn transmit r link (dropped + more) (points ++ others) (outcome + total) last after where
  outcome := by
    rw [one.outcome, two.outcome, one.schemas, Schemas.outcome_append]
  schemas := by rw [two.schemas, one.schemas, Schemas.seeAll_append]
  keeps := two.keeps
  prepared := two.prepared
  service := two.service.trans one.service
  handed := by
    obtain ⟨sent, first, rows⟩ := one.handed
    obtain ⟨later, second, rows'⟩ := two.handed
    refine ⟨_, first.trans second one.prepared.sound, fun table => ?_⟩
    have inside : ofTable table points ⊆ points := fun _ member => (mem_ofTable.mp member).1
    rw [List.flatMap_append, rows, rows', one.schemas, ofTable_append, Schemas.rows_append,
      Schemas.rows_of_subset _ inside, Schemas.seeAll_append]
    cases transmit <;> rfl

/-- What is taken in first and what comes of more points come in all of the points of both. The
schemas that the first points fixed hold for the others. -/
theorem Comes.append {answer : Except Fault Outcome}
    (fits : ∀ p ∈ points, (r.schemas.seeAll points).Fits p)
    (one : TookIn transmit r link dropped points outcome middle between)
    (two : Comes transmit middle between more others answer last after) :
    Comes transmit r link (dropped + more) (points ++ others) (answer.map (outcome + ·)) last
      after := by
  have both := r.schemas.fits_append points others
  cases two with
  | took fits' two =>
    rw [one.schemas] at fits'
    exact .took (both.mpr ⟨fits, fits'⟩) (one.append two)
  | stopped misfit =>
    rw [one.schemas] at misfit
    exact .stopped fun all => misfit (both.mp all).2

/-- What stops at the first part stops at both. -/
theorem Comes.stop {fault : Fault}
    (stopped : Comes transmit r link dropped points (.error fault) middle between)
    (more : Nat) (others : List Point) :
    Comes transmit r link more (points ++ others) (.error fault) middle between := by
  cases stopped with
  | stopped misfit => exact .stopped fun all => misfit ((r.schemas.fits_append points others).mp all).1

/-- Nothing comes of no points. -/
theorem Comes.refl (keeps : r.Keeps fun _ => []) (prepared : r.Prepared link.journal) :
    Comes transmit r link 0 [] (.ok {}) r link :=
  .took (by simp) ⟨rfl, rfl, keeps, prepared, rfl, _, .refl r link, fun _ => by cases transmit <;> rfl⟩

/-- No visit has a transmission error. -/
theorem unfailed_visit (obliging : link.service.Obliging) (transmit : Bool) (points : List Point)
    (w : TableWriter) : (visit transmit link points w).failed = false := by
  have sends (w : TableWriter) (record : Record) :
      (Flush.of transmit w link record).failed = false := by
    cases transmit <;> simp [Flush.of, Flush.failed, w.transmits_obliging obliging record]
  simp only [Visit.failed, visit, flushOf]
  split
  · rfl
  · split <;> simp [sends]

/-- The counts of a writing that succeeded are told by its points, if the table's columns are those
of the writer. -/
theorem Written.told {w other : TableWriter}
    (written : Written transmit w link points outcome other after)
    (sent : outcome.transmitErrors = 0) {schemas : Schemas}
    (rowOf : ∀ p ∈ points, schemas.row p = typedRow w.columns p) :
    outcome = schemas.outcome 0 points ∧ schemas.rows points = typedRows w.columns points := by
  have rows : schemas.rows points = typedRows w.columns points := List.filterMap_congr rowOf
  have wide : ∀ row ∈ typedRows w.columns points, row.length = w.columns.length := by
    intro row member
    obtain ⟨p, _, typed⟩ := List.mem_filterMap.mp member
    exact (typedRow_cell typed).1
  have metrics : ((typedRows w.columns points).map List.length).sum =
      (typedRows w.columns points).length * w.columns.length := by
    rw [List.map_congr_left wide]
    simp
  have unconverted : (points.countP fun p => (schemas.row p).isNone) = outcome.droppedRows := by
    have all := List.length_eq_countP_add_countP (l := points) fun p => (schemas.row p).isSome
    have converted : (points.countP fun p => (schemas.row p).isSome) =
        (typedRows w.columns points).length := by
      rw [← rows, Schemas.rows, List.length_filterMap_eq_countP]
    have counted := written.droppedRows
    simp only [Bool.not_eq_true, Option.isSome_eq_false_iff, Bool.decide_eq_true] at all
    omega
  refine ⟨?_, rows⟩
  obtain ⟨rowCount, metricCount, droppedItems, droppedRows, transmitErrors⟩ := outcome
  obtain ⟨rowCount', metricCount', droppedItems', _⟩ := written
  simp only at rowCount' metricCount' droppedItems' sent unconverted
  simp [Schemas.outcome, rows, metrics, unconverted, rowCount', metricCount', droppedItems', sent]

/-- The records that a writing hands over have the rows of its points. -/
theorem Written.handed {w other : TableWriter} (obliging : link.service.Obliging)
    (written : Written transmit w link points outcome other after) :
    ∃ record, Handed w link record other after ∧
      record.toList.flatMap Record.rowList =
        if transmit then typedRows w.columns points else [] := by
  rcases written.sent with ⟨nothing, same, rfl⟩ | ⟨loud, ready, record, same, _, rowList, sent⟩
  · refine ⟨none, (Handed.refl other after).rebuffered same, ?_⟩
    rcases nothing with empty | silent
    · simp [empty]
    · simp [silent]
  · obtain ⟨set, began, setUp, _⟩ := ready.ensureRemote_obliging obliging
    have handed := (handed_transmit ready link record).rebuffered same
    rw [setUp] at handed
    obtain ⟨rfl, rfl⟩ := Prod.mk.inj sent
    exact ⟨some record, handed, by simp [loud, rowList]⟩

/-- What comes of the points of a group: they are written to the writer that its first point asks
for, which is put back. -/
theorem comes_group (keeps : r.Keeps fun _ => []) (prepared : r.Prepared link.journal)
    (obliging : link.service.Obliging) (transmit : Bool) {group : Group} (uniform : group.Uniform) :
    ∃ w, (r.obtain group.first).2.writers[(r.obtain group.first).1]? = some w ∧
      let wrote := writeTable transmit w link group.points
      Comes transmit r link 0 group.points wrote.1 (r.restock group.first wrote.2.1) wrote.2.2 := by
  obtain ⟨w, asked⟩ := keeps.asked group.first group.table rfl
  refine ⟨w, asked.found, ?_⟩
  have seen := r.schemas.seeAll_group uniform
  obtain ⟨table, its⟩ := Registry.columns_of_obtain keeps.live asked.found
  have columns : ∀ p ∈ group.points,
      (r.schemas.seeAll group.points).columns p.measurement = w.columns := by
    intro p member
    rw [seen, uniform p member]
    exact its
  have talk := talk_writeTable transmit w link group.points
  have service := inserts_writeTable transmit w link group.points
  have counted (outcome : Outcome) (other : TableWriter) (after : Link)
      (answer : writeTable transmit w link group.points = (.ok outcome, other, after)) :
      outcome.transmitErrors = 0 := by
    simp [transmitErrors_writeTable answer, unfailed_visit obliging]
  rcases wrote : writeTable transmit w link group.points with ⟨fault | outcome, other, after⟩ <;>
    simp only [wrote] at talk service ⊢
  · obtain ⟨stopped, _⟩ := takeAll_of_failed asked.keeps asked.opened wrote
    refine .stopped fun fits => ?_
    obtain ⟨_, _, taken⟩ := takeAll_of_width asked.opened 0 fun p member => by
      rw [← columns p member]
      exact fits p member
    simp [stopped] at taken
  · have written := writeTable_ok asked.keeps.held asked.opened wrote
    have rowOf : ∀ p ∈ group.points,
        (r.schemas.seeAll group.points).row p = typedRow w.columns p :=
      fun p member => by rw [Schemas.row, columns p member]
    obtain ⟨outcomes, rows⟩ := written.told (counted outcome other after wrote) rowOf
    obtain ⟨record, handed, rowList⟩ := written.handed obliging
    obtain ⟨back, sent⟩ := prepared.restock asked.found talk.table talk.closed handed
    have same : other.columns = w.columns := by
      obtain ⟨_, _, _, rfl⟩ := talk.unchanged
      rfl
    obtain ⟨_, ⟨stays, _⟩, _⟩ := service
    refine .took ?_ ⟨outcomes, ?_, ?_, back, stays, _, sent, ?_⟩
    · intro p member
      rw [Schemas.Fits, columns p member]
      exact widths_of_writeTable asked.opened wrote p member
    · rw [seen, Registry.restock, Registry.schemas_put asked.found talk.table same,
        Registry.schemas_obtain keeps.live]
    · have empty := asked.back talk.table talk.closed (keeps_nil written.empty)
      simpa using empty
    · have belongs : ∀ p ∈ group.points, p.measurement = w.table :=
        fun p member => (uniform p member).trans table.symm
      intro missed
      by_cases its : missed = w.table
      · rw [if_pos its, rowList, its, ofTable_all belongs, rows]
      · have none : ofTable missed group.points = [] :=
          ofTable_none fun p member same => its (same.symm.trans (belongs p member))
        rw [if_neg its, none]
        cases transmit <;> rfl

/-- Writing groups comes to what their points come to, one group after the other: by induction on
the groups, of which the first is taken in or stops everything. -/
theorem comes_writeGroups (keeps : r.Keeps fun _ => []) (prepared : r.Prepared link.journal)
    (obliging : link.service.Obliging) (transmit : Bool) (sum : Outcome) {groups : List Group}
    (uniform : ∀ group ∈ groups, group.Uniform) :
    ∃ answer, (writeGroups transmit r link sum groups).1 = answer.map (sum + ·) ∧
      Comes transmit r link 0 (pointsIn groups) answer (writeGroups transmit r link sum groups).2.1
        (writeGroups transmit r link sum groups).2.2 := by
  induction groups generalizing r link sum with
  | nil => exact ⟨.ok {}, rfl, .refl keeps prepared⟩
  | cons group rest ih =>
    obtain ⟨w, found, comes⟩ :=
      comes_group keeps prepared obliging transmit (uniform group List.mem_cons_self)
    have apart : pointsIn (group :: rest) = group.points ++ pointsIn rest := rfl
    rw [writeGroups_cons found, apart]
    rcases wrote : writeTable transmit w link group.points with ⟨fault | outcome, other, between⟩ <;>
      simp only [wrote] at comes ⊢
    · exact ⟨.error fault, rfl, comes.stop 0 (pointsIn rest)⟩
    · cases comes with
      | took fits took =>
        obtain ⟨answer, same, later⟩ := ih took.keeps took.prepared (took.service ▸ obliging)
          (sum + outcome) fun other member => uniform other (List.mem_cons_of_mem _ member)
        refine ⟨answer.map (outcome + ·), ?_, .append fits took later⟩
        rw [same]
        cases answer <;> simp [Except.map, Outcome.add_assoc]

/-- What comes of a batch can be told from its items, however it sorts them. -/
theorem comes_run (keeps : r.Keeps fun _ => []) (prepared : r.Prepared link.journal)
    (obliging : link.service.Obliging) (transmit : Bool) (items : List Item) :
    let ran := run transmit r link items
    Comes transmit r link (items.countP Item.undecodable) (items.filterMap Item.decoded) ran.1
      ran.2.1 ran.2.2 := by
  obtain ⟨sorted, counted, _⟩ := sort_spec items sorted_nil 0
  have seen := r.schemas.seeAll_sort items [] 0
  have inside (p : Point) : p ∈ pointsIn (sort items ([], 0)).1 ↔ p ∈ items.filterMap Item.decoded :=
    (perm_sort items).mem_iff
  obtain ⟨answer, same, comes⟩ := comes_writeGroups keeps prepared obliging transmit
    { droppedItems := (sort items ([], 0)).2 } sorted.uniform
  have pointless : pointsIn ([] : List Group) = [] := rfl
  rw [pointless, List.nil_append] at seen
  rw [Nat.zero_add] at counted
  show Comes transmit r link _ _ (writeGroups transmit r link _ _).1
    (writeGroups transmit r link _ _).2.1 (writeGroups transmit r link _ _).2.2
  rw [same]
  generalize (writeGroups transmit r link _ _).2.1 = other,
    (writeGroups transmit r link _ _).2.2 = after at comes ⊢
  cases comes with
  | stopped misfit =>
    refine .stopped fun fits => misfit fun p member => ?_
    rw [seen]
    exact fits p ((inside p).mp member)
  | took fits took =>
    refine .took (fun p member => seen ▸ fits p ((inside p).mpr member))
      { took with outcome := ?_, schemas := seen ▸ took.schemas, handed := ?_ }
    · rw [took.outcome, seen, counted, Schemas.outcome_sort]
      exact Schemas.outcome_dropped _ _ _
    · obtain ⟨sent, handed, rows⟩ := took.handed
      exact ⟨sent, handed, fun table => by rw [rows, seen, ofTable_sort]⟩

end Ingest

end SeriesBench
