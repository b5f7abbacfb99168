import SeriesBench.Proofs.Table.Custody
import SeriesBench.Proofs.Worker.Kept

/-!
# The writers in use

A registry that was closed and is used again has writers of the time before, which are closed and
of tables that may have a new writer by now. Nobody finds them any more: a registry finds the writer
that a table has in use, and each table in use has one to itself, open and with some rows in its
buffer. This holds whatever is written and however often the registry is closed in between, and
writing to one table does not touch what the others have in use.
-/

namespace SeriesBench

open TableWriter

/-- The writer may be asked to write points to a table. -/
structure TableWriter.Ready (w : TableWriter) (table : String) : Prop where
  table : w.table = table
  opened : w.closed = false
  held : ∃ rows, w.Holds rows

/-- A new writer is ready for its table. -/
theorem TableWriter.ready_create (table : String) (sample : Point) (layout : Layout) :
    (create table sample layout).Ready table :=
  ⟨rfl, rfl, [], holds_create table sample layout⟩

/-- What a writer that is ready would flush is what it holds. -/
theorem TableWriter.Ready.unflushed {w : TableWriter} {table : String} (ready : w.Ready table) :
    w.Holds w.unflushed := by
  obtain ⟨rows, held⟩ := ready.held
  rwa [unflushed_of_holds held]

namespace Registry

/-- The writer that a table has in use, if it is in use. -/
def inUse? (r : Registry) (table : String) : Option TableWriter :=
  (r.active.lookup table).bind fun handle => r.writers[handle]?

/-- The writer that a sample finds or makes. -/
def writerFor (r : Registry) (sample : Point) : TableWriter :=
  (r.inUse? sample.measurement).getD (.create sample.measurement sample r.layout)

/-- The rows that the writer in use for a table took and has not flushed. -/
def heldFor (r : Registry) (table : String) : List (List Value) :=
  ((r.inUse? table).map unflushed).getD []

/-- Every table in use has a writer to itself, and it is ready. -/
structure Orderly (r : Registry) : Prop where
  distinct : r.tables.Nodup
  ready : ∀ table handle, (table, handle) ∈ r.active →
    ∃ w, r.writers[handle]? = some w ∧ w.Ready table

variable {r : Registry} {table : String} {w other : TableWriter} {handle : Nat}

/-- A registry without tables in use is in order, whatever writers are left in it. -/
theorem orderly_of_none (none : r.active = []) : r.Orderly where
  distinct := by simp [tables, none]
  ready := by simp [none]

/-- A registry without tables is in order. -/
theorem orderly_empty (layout : Layout) : (empty layout).Orderly :=
  orderly_of_none rfl

/-- A table that is not in use holds no rows. -/
theorem heldFor_of_none (none : r.active = []) (table : String) : r.heldFor table = [] := by
  simp [heldFor, inUse?, none]

/-- A table in use holds the rows that its writer has not flushed. -/
theorem heldFor_of_inUse (found : r.inUse? table = some w) : r.heldFor table = w.unflushed := by
  simp [heldFor, found]

/-- A handle that is found is in use for the table. -/
theorem mem_of_lookup (found : r.active.lookup table = some handle) :
    (table, handle) ∈ r.active := by
  obtain ⟨before, behind, cut, _⟩ := List.lookup_eq_some_iff.mp found
  simp [cut]

namespace Orderly

/-- A table in use is found under its handle. -/
theorem lookup (orderly : r.Orderly) (member : (table, handle) ∈ r.active) :
    r.active.lookup table = some handle := by
  obtain ⟨before, behind, cut⟩ := List.append_of_mem member
  refine List.lookup_eq_some_iff.mpr ⟨before, behind, cut, fun entry earlier => ?_⟩
  have distinct := orderly.distinct
  rw [tables, cut, List.map_append, List.map_cons, List.nodup_append] at distinct
  have apart : entry.1 ≠ table :=
    distinct.2.2 entry.1 (List.mem_map_of_mem earlier) table List.mem_cons_self
  simpa using apart.symm

/-- The writer that a table has in use is the one at its handle. -/
theorem inUse (orderly : r.Orderly) (member : (table, handle) ∈ r.active) :
    r.inUse? table = r.writers[handle]? := by
  rw [inUse?, orderly.lookup member, Option.bind_some]

/-- The writer that a table has in use may be asked to write to it. -/
theorem ready_inUse (orderly : r.Orderly) (found : r.inUse? table = some w) : w.Ready table := by
  obtain ⟨handle, looked, here⟩ := Option.bind_eq_some_iff.mp found
  obtain ⟨other, there, ready⟩ := orderly.ready table handle (mem_of_lookup looked)
  obtain rfl : other = w := Option.some.inj (there.symm.trans here)
  exact ready

/-- The writer that a sample finds or makes is ready. -/
theorem ready_writerFor (orderly : r.Orderly) (sample : Point) :
    (r.writerFor sample).Ready sample.measurement := by
  cases found : r.inUse? sample.measurement with
  | some w => simpa [writerFor, found] using orderly.ready_inUse found
  | none => simpa [writerFor, found] using ready_create _ sample r.layout

/-- It has what is held for the table, which is nothing if it is new. -/
theorem heldFor_writerFor (sample : Point) :
    (r.writerFor sample).unflushed = r.heldFor sample.measurement := by
  cases found : r.inUse? sample.measurement with
  | some w => simp [writerFor, heldFor, found]
  | none =>
    have new : (create sample.measurement sample r.layout).unflushed = [] :=
      unflushed_of_holds (holds_create _ _ _)
    simp [writerFor, heldFor, found, new]

/-- What a registry has after it was asked for a table: the table is found under the handle that
was given, and the others as before. -/
structure Given (r : Registry) (sample : Point) : Prop where
  orderly : (r.obtain sample).2.Orderly
  active : (sample.measurement, (r.obtain sample).1) ∈ (r.obtain sample).2.active
  found : (r.obtain sample).2.writers[(r.obtain sample).1]? = some (r.writerFor sample)
  others : ∀ table, table ≠ sample.measurement →
    (r.obtain sample).2.inUse? table = r.inUse? table
  layout : (r.obtain sample).2.layout = r.layout

/-- What a registry has after it was asked for a table: the writer that was in use for it, or a new
one if there was none. -/
theorem given (orderly : r.Orderly) (sample : Point) : Given r sample := by
  rcases obtain_active r sample with ⟨handle, member, same⟩ | ⟨new, grown⟩
  · obtain ⟨w, found, _⟩ := orderly.ready _ _ member
    have used : r.inUse? sample.measurement = some w := (orderly.inUse member).trans found
    constructor <;> rw [same]
    · exact orderly
    · exact member
    · simp [found, writerFor, used]
    · exact fun _ _ => rfl
  · have unused : r.active.lookup sample.measurement = none := by
      refine List.lookup_eq_none_iff.mpr fun entry member => ?_
      have apart : sample.measurement ≠ entry.1 := fun same =>
        new (same ▸ List.mem_map_of_mem member)
      simpa using apart
    have old (table : String) (handle : Nat) (member : (table, handle) ∈ r.active) :
        (r.enlarge sample).writers[handle]? = r.writers[handle]? := by
      obtain ⟨w, found, _⟩ := orderly.ready _ _ member
      obtain ⟨inside, _⟩ := Array.getElem?_eq_some_iff.mp found
      simp [enlarge, Array.getElem?_push, Nat.ne_of_lt inside]
    constructor <;> rw [grown]
    · constructor
      · rw [tables, enlarge, List.map_append, List.nodup_append]
        refine ⟨orderly.distinct, by simp, ?_⟩
        rintro table earlier other single rfl
        obtain rfl : table = sample.measurement := by simpa using single
        exact new earlier
      · intro table handle member
        rcases List.mem_append.mp member with earlier | last
        · rw [old table handle earlier]
          exact orderly.ready table handle earlier
        · obtain ⟨rfl, rfl⟩ : table = sample.measurement ∧ handle = r.writers.size := by
            simpa using last
          exact ⟨_, by simp [enlarge], ready_create _ sample r.layout⟩
    · simp [enlarge]
    · simp [enlarge, writerFor, inUse?, unused]
    · intro table apart
      have later : ([(sample.measurement, r.writers.size)] : List (String × Nat)).lookup table =
          none := by simp [apart]
      have same : (r.enlarge sample).active.lookup table = r.active.lookup table := by
        rw [enlarge, List.lookup_append, later, Option.or_none]
      rw [inUse?, inUse?, same]
      cases looked : r.active.lookup table with
      | none => rfl
      | some handle => exact old table handle (mem_of_lookup looked)
    · rfl

/-- A writer that is put back is the one in use for its table, and the other tables have the same
writers in use as before. -/
theorem inUse_put (orderly : r.Orderly) (member : (table, handle) ∈ r.active) (missed : String) :
    (r.put handle w).inUse? missed = if missed = table then some w else r.inUse? missed := by
  obtain ⟨old, found, ready⟩ := orderly.ready table handle member
  by_cases its : missed = table
  · subst its
    have looked : (r.put handle w).active.lookup missed = some handle := orderly.lookup member
    rw [inUse?, looked, Option.bind_some, getElem?_put]
    simp [found]
  · rw [if_neg its, inUse?, inUse?]
    have same : (r.put handle w).active.lookup missed = r.active.lookup missed := rfl
    rw [same]
    cases looked : r.active.lookup missed with
    | none => rfl
    | some other =>
      have apart : other ≠ handle := by
        rintro rfl
        obtain ⟨own, there, readyOwn⟩ := orderly.ready missed other (mem_of_lookup looked)
        obtain rfl : own = old := Option.some.inj (there.symm.trans found)
        exact its (readyOwn.table.symm.trans ready.table)
      rw [Option.bind_some, Option.bind_some, getElem?_put, if_neg apart]

/-- A writer that is put back at a handle in use keeps the registry in order, if it is ready for the
table. -/
theorem put (orderly : r.Orderly) (member : (table, handle) ∈ r.active) (ready : w.Ready table) :
    (r.put handle w).Orderly where
  distinct := orderly.distinct
  ready missed other inUse := by
    have still : (missed, other) ∈ r.active := inUse
    have used := orderly.inUse_put (w := w) member missed
    rw [inUse?, show (r.put handle w).active.lookup missed = some other from orderly.lookup still,
      Option.bind_some] at used
    rw [used]
    split
    · rename_i its
      exact ⟨w, rfl, its ▸ ready⟩
    · rw [orderly.inUse still]
      exact orderly.ready missed other still

/-- What a registry is after a writer was put back for the table that a sample asks for: the table
has this writer in use, and the others the same as before. -/
structure Back (r : Registry) (sample : Point) (w : TableWriter) : Prop where
  orderly : (r.restock sample w).Orderly
  its : (r.restock sample w).inUse? sample.measurement = some w
  others : ∀ table, table ≠ sample.measurement →
    (r.restock sample w).inUse? table = r.inUse? table
  layout : (r.restock sample w).layout = r.layout

/-- What a registry is after the writer of a sample's table was asked for and another one put back
in its place. -/
theorem back (orderly : r.Orderly) (sample : Point) (ready : w.Ready sample.measurement) :
    Back r sample w := by
  have given := orderly.given sample
  refine ⟨given.orderly.put given.active ready, ?_, fun table apart => ?_, given.layout⟩
  · rw [restock, given.orderly.inUse_put given.active, if_pos rfl]
  · rw [restock, given.orderly.inUse_put given.active, if_neg apart]
    exact given.others table apart

end Orderly

end Registry

end SeriesBench
