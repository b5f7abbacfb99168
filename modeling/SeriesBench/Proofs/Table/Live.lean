import SeriesBench.Table.Registry
import SeriesBench.Proofs.Remote.Books

/-!
# Registries in use

A registry in use has one open writer for each table that was asked for, and finds it again by
the name of the table. A handle that it gave stays that of the same table, whatever else is
asked. Closing it closes every writer that it ever made, so that nothing is left behind.
-/

namespace SeriesBench

/-- An element of an array among the others, and what the list is when it is replaced. -/
theorem set_cut {xs : Array α} {i : Nat} {x : α} (member : xs[i]? = some x) :
    ∃ before behind, xs.toList = before ++ x :: behind ∧
      ∀ other, (xs.setIfInBounds i other).toList = before ++ other :: behind := by
  obtain ⟨inside, rfl⟩ := Array.getElem?_eq_some_iff.mp member
  have inList : i < xs.toList.length := by simpa using inside
  refine ⟨xs.toList.take i, xs.toList.drop (i + 1), ?_, ?_⟩
  · rw [← Array.getElem_toList, ← List.drop_eq_getElem_cons inList, List.take_append_drop]
  · intro other
    rw [Array.toList_setIfInBounds, List.set_eq_take_append_cons_drop, if_pos inList]

namespace Registry

/-- The tables of the writers that were ever made, by their handles. -/
def made (r : Registry) : List String :=
  r.writers.toList.map TableWriter.table

/-- A registry in use: all its writers are open, each is active under its table, and no table has
two of them. -/
structure Live (r : Registry) : Prop where
  active : r.active = r.made.zipIdx
  opened : ∀ w ∈ r.writers.toList, w.closed = false
  distinct : r.made.Nodup

/-- A registry that was closed: all its writers are closed, and none is active. -/
structure Shut (r : Registry) : Prop where
  active : r.active = []
  closed : ∀ w ∈ r.writers.toList, w.closed = true

/-- A registry without tables may be used. -/
theorem live_empty (layout : Layout) : (empty layout).Live :=
  ⟨rfl, by simp [empty], by simp [empty, made]⟩

/-- A registry without tables has nothing to be closed. -/
theorem shut_empty (layout : Layout) : (empty layout).Shut :=
  ⟨rfl, by simp [empty]⟩

/-- A handle that is found is that of the table. -/
theorem made_of_lookup {r : Registry} (live : r.Live) {table : String} {handle : Nat}
    (found : r.active.lookup table = some handle) : r.made[handle]? = some table := by
  rw [live.active, List.lookup_eq_some_iff] at found
  obtain ⟨before, behind, cut, _⟩ := found
  have member : (table, handle) ∈ r.made.zipIdx := by simp [cut]
  exact List.mem_zipIdx_iff_getElem?.mp member

/-- A table that is not found has no writer. -/
theorem not_made_of_lookup {r : Registry} (live : r.Live) {table : String}
    (missing : r.active.lookup table = none) : table ∉ r.made := by
  intro member
  obtain ⟨handle, found⟩ := List.mem_iff_getElem?.mp member
  have pair : (table, handle) ∈ r.made.zipIdx := List.mem_zipIdx_iff_getElem?.mpr found
  rw [live.active, List.lookup_eq_none_iff] at missing
  simpa using missing _ pair

/-- The registry with one more table, whose writer has the sample's columns. -/
def enlarge (r : Registry) (sample : Point) : Registry :=
  { r with
    writers := r.writers.push (.create sample.measurement sample r.layout)
    active := r.active ++ [(sample.measurement, r.writers.size)] }

/-- The new table comes last. -/
theorem made_enlarge (r : Registry) (sample : Point) :
    (r.enlarge sample).made = r.made ++ [sample.measurement] := by
  simp [enlarge, made, TableWriter.create]

/-- Asking for a table finds its writer, or makes one. -/
theorem obtain_cases {r : Registry} (live : r.Live) (sample : Point) :
    ((r.obtain sample).2 = r ∧ r.made[(r.obtain sample).1]? = some sample.measurement) ∨
      (sample.measurement ∉ r.made ∧ r.obtain sample = (r.writers.size, r.enlarge sample)) := by
  unfold Registry.obtain
  cases found : r.active.lookup sample.measurement with
  | some handle => exact Or.inl ⟨rfl, made_of_lookup live found⟩
  | none => exact Or.inr ⟨not_made_of_lookup live found, rfl⟩

/-- The handle for a table is that of a writer of the table. -/
theorem found_of_obtain {r : Registry} (live : r.Live) (sample : Point) :
    ∃ w, (r.obtain sample).2.writers[(r.obtain sample).1]? = some w ∧
      w.table = sample.measurement := by
  rcases obtain_cases live sample with ⟨same, found⟩ | ⟨_, grown⟩
  · rw [same]
    simpa [made] using found
  · rw [grown]
    exact ⟨.create sample.measurement sample r.layout, by simp [enlarge], rfl⟩

/-- The writers of a larger registry are those of before and the new one. -/
theorem mem_enlarge {r : Registry} {sample : Point} {w : TableWriter} :
    w ∈ (r.enlarge sample).writers.toList ↔
      w ∈ r.writers.toList ∨ w = .create sample.measurement sample r.layout := by
  simp [enlarge]

/-- A new table is active like the others. -/
theorem live_enlarge {r : Registry} (live : r.Live) {sample : Point}
    (new : sample.measurement ∉ r.made) : (r.enlarge sample).Live where
  active := by
    have size : r.made.length = r.writers.size := by simp [made]
    rw [made_enlarge, List.zipIdx_append]
    simp [enlarge, live.active, size]
  opened := by
    intro w member
    rcases mem_enlarge.mp member with old | rfl
    · exact live.opened w old
    · rfl
  distinct := by
    rw [made_enlarge, List.nodup_append]
    refine ⟨live.distinct, by simp, ?_⟩
    rintro table old other single rfl
    exact new (List.mem_singleton.mp single ▸ old)

/-- A registry stays in use when it is asked for a table. -/
theorem live_obtain {r : Registry} (live : r.Live) (sample : Point) :
    (r.obtain sample).2.Live := by
  rcases obtain_cases live sample with ⟨same, _⟩ | ⟨new, grown⟩
  · rwa [same]
  · rw [grown]
    exact live_enlarge live new

/-- Asking for a table keeps all writers. -/
theorem mem_obtain {r : Registry} (live : r.Live) (sample : Point) {w : TableWriter}
    (member : w ∈ r.writers.toList) : w ∈ (r.obtain sample).2.writers.toList := by
  rcases obtain_cases live sample with ⟨same, _⟩ | ⟨_, grown⟩
  · rwa [same]
  · rw [grown]
    exact mem_enlarge.mpr (Or.inl member)

/-- A writer that is found at a handle is one of the registry. -/
theorem mem_of_found {r : Registry} {handle : Nat} {w : TableWriter}
    (found : r.writers[handle]? = some w) : w ∈ r.writers.toList :=
  Array.mem_toList_iff.mpr (Array.mem_of_getElem? found)

/-- A writer among the others, and what the list is when it is put back as another. -/
theorem put_cut {r : Registry} {handle : Nat} {w : TableWriter}
    (member : r.writers[handle]? = some w) :
    ∃ before behind, r.writers.toList = before ++ w :: behind ∧
      ∀ other, (r.put handle other).writers.toList = before ++ other :: behind :=
  set_cut member

/-- Putting back a writer of the same table leaves the tables as they are. -/
theorem made_put {r : Registry} {handle : Nat} {w other : TableWriter}
    (member : r.writers[handle]? = some w) (table : other.table = w.table) :
    (r.put handle other).made = r.made := by
  obtain ⟨before, behind, cut, put⟩ := put_cut member
  simp [made, cut, put, table]

/-- A registry stays in use when an open writer is put back for the same table. -/
theorem live_put {r : Registry} (live : r.Live) {handle : Nat} {w other : TableWriter}
    (member : r.writers[handle]? = some w) (table : other.table = w.table)
    (opened : other.closed = false) : (r.put handle other).Live where
  active := by
    rw [made_put member table]
    exact live.active
  opened := by
    obtain ⟨before, behind, cut, put⟩ := put_cut member
    intro v inWriters
    rw [put] at inWriters
    rcases mem_cut.mp inWriters with rfl | old
    · exact opened
    · exact live.opened v (cut ▸ mem_cut.mpr (Or.inr old))
  distinct := by
    rw [made_put member table]
    exact live.distinct

/-- Closing some writers of a registry keeps the books, and closes them. A handle without a writer
has had none before either. -/
theorem closeAt_books {before behind : List TableWriter} (handles : List Nat) {r : Registry}
    {link : Link} (books : Books (before ++ r.writers.toList ++ behind) link.journal) :
    Books (before ++ (r.closeAt link handles).2.1.writers.toList ++ behind)
        (r.closeAt link handles).2.2.journal ∧
      (r.closeAt link handles).2.1.made = r.made ∧
      ∀ (handle : Nat) (w : TableWriter),
        (r.closeAt link handles).2.1.writers[handle]? = some w →
        handle ∈ handles ∨ (∃ old, r.writers[handle]? = some old ∧ old.closed = true) →
        w.closed = true := by
  induction handles generalizing r link with
  | nil =>
    refine ⟨books, rfl, ?_⟩
    rintro handle w member (none | ⟨old, was, finished⟩)
    · simp at none
    · obtain rfl : old = w := Option.some.inj (was.symm.trans member)
      exact finished
  | cons first rest ih =>
    cases found : r.writers[first]? with
    | none =>
      have same : r.closeAt link (first :: rest) = r.closeAt link rest := by
        simp [closeAt, found]
      rw [same]
      obtain ⟨books, made, closed⟩ := ih books
      refine ⟨books, made, ?_⟩
      intro handle w member reason
      refine closed handle w member ?_
      rcases reason with inHandles | finished
      · rcases List.mem_cons.mp inHandles with rfl | later
        · have size := congrArg List.length made
          simp only [Registry.made, List.length_map, Array.length_toList] at size
          have inside := (Array.getElem?_eq_some_iff.mp member).1
          rw [Array.getElem?_eq_none_iff] at found
          omega
        · exact Or.inl later
      · exact Or.inr finished
    | some v =>
      have same : (r.closeAt link (first :: rest)).2 =
          ((r.put first (v.close link).2.1).closeAt (v.close link).2.2 rest).2 := by
        simp [closeAt, found]
      rw [same]
      obtain ⟨front, back, cut, put⟩ := put_cut found
      have told : v.Told link.journal := books.told v (by simp [cut])
      obtain ⟨spoke, finished⟩ := TableWriter.spoke_close told
      have next : Books (before ++ (r.put first (v.close link).2.1).writers.toList ++ behind)
          (v.close link).2.2.journal := by
        have asked : Books ((before ++ front) ++ v :: (back ++ behind)) link.journal := by
          simpa [cut] using books
        simpa [put] using asked.speak spoke
      obtain ⟨books, made, closed⟩ := ih next
      refine ⟨books, made.trans (made_put found spoke.table), ?_⟩
      intro handle w member reason
      refine closed handle w member ?_
      obtain ⟨inside, _⟩ := Array.getElem?_eq_some_iff.mp found
      by_cases here : handle = first
      · subst here
        exact Or.inr ⟨(v.close link).2.1, by simp [Registry.put, inside], finished⟩
      · rcases reason with inHandles | ⟨old, was, finished⟩
        · exact Or.inl ((List.mem_cons.mp inHandles).resolve_left here)
        · refine Or.inr ⟨old, ?_, finished⟩
          rw [Registry.put, Array.getElem?_setIfInBounds_ne (Ne.symm here)]
          exact was

/-- Closing a registry in use shuts it, and keeps the books. -/
theorem close_books {before behind : List TableWriter} {r : Registry} (live : r.Live) {link : Link}
    (books : Books (before ++ r.writers.toList ++ behind) link.journal) :
    (r.close link).2.1.Shut ∧ (r.close link).2.1.made = r.made ∧
      Books (before ++ (r.close link).2.1.writers.toList ++ behind)
        (r.close link).2.2.journal := by
  obtain ⟨books, made, closed⟩ := closeAt_books (r.active.map (·.2)) books
  refine ⟨⟨rfl, ?_⟩, made, books⟩
  intro w member
  obtain ⟨handle, inside, rfl⟩ := List.mem_iff_getElem.mp member
  have bound : handle < (r.closeAt link (r.active.map (·.2))).2.1.writers.size := by
    rw [← Array.length_toList]
    exact inside
  refine closed handle _ (Array.getElem?_eq_getElem bound) (Or.inl ?_)
  have size := congrArg List.length made
  simp only [Registry.made, List.length_map, Array.length_toList] at size
  have handles : r.active.map (·.2) = List.range r.made.length := by
    rw [live.active]
    simp [List.zipIdx_map_snd, List.range_eq_range']
  rw [handles, List.mem_range]
  simp only [Registry.made, List.length_map, Array.length_toList]
  omega

end Registry

end SeriesBench
