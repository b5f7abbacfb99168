import SeriesBench.Worker.Crew
import SeriesBench.Proofs.Table.Live

/-!
# The writers of a crew

However the registries are owned, the writers of all of them are one list, in which putting
back a registry changes one part. A crew with a shared registry has no writers elsewhere, and
without a shared one each table is only in the registry of its home.
-/

namespace SeriesBench

namespace Crew

/-- All registries, those that workers own and then the shared one. -/
def registries (crew : Crew) : List Registry :=
  crew.own.toList ++ crew.shared.toList

/-- All writers that were ever made. -/
def writers (crew : Crew) : List TableWriter :=
  crew.registries.flatMap fun r => r.writers.toList

/-- The tables of all writers. -/
def made (crew : Crew) : List String :=
  crew.registries.flatMap Registry.made

/-- A new crew has empty registries. -/
theorem registries_make {routing : Routing} {workers : Nat} {layout : Layout} {r : Registry}
    (member : r ∈ (make routing workers layout).registries) : r = .empty layout := by
  rcases List.mem_append.mp member with own | shared
  · simp only [make, Array.toList_replicate] at own
    exact List.eq_of_mem_replicate own
  · cases routing with
    | inTurn => simpa [make] using shared
    | byMeasurement => simp [make] at shared

/-- A new crew has no writers. -/
theorem writers_make (routing : Routing) (workers : Nat) (layout : Layout) :
    (make routing workers layout).writers = [] := by
  simp only [writers, List.flatMap_eq_nil_iff]
  intro r member
  simp [registries_make member, Registry.empty]

/-- The tables of a crew's writers are those that its registries made writers for. -/
theorem made_eq (crew : Crew) : crew.writers.map TableWriter.table = crew.made := by
  simp only [writers, made, List.map_flatMap]
  rfl

/-- A registry among the others, and what the list is when another one is put in its place. -/
theorem registries_put {crew : Crew} {index : Nat} {r : Registry}
    (owner : crew.registryOf index = some r) :
    ∃ before behind, crew.registries = before ++ r :: behind ∧
      ∀ other, (crew.put index other).registries = before ++ other :: behind := by
  unfold registryOf at owner
  cases shared : crew.shared with
  | some own =>
    simp only [shared, Option.some.injEq] at owner
    subst owner
    exact ⟨crew.own.toList, [], by simp [registries, shared], by simp [registries, put, shared]⟩
  | none =>
    simp only [shared] at owner
    obtain ⟨before, behind, cut, set⟩ := set_cut owner
    exact ⟨before, behind, by simp [registries, shared, cut], fun other => by
      simp [registries, put, shared, ← set other]⟩

/-- The writers of a crew around those of one registry. -/
theorem writers_put {crew : Crew} {index : Nat} {r : Registry}
    (owner : crew.registryOf index = some r) :
    ∃ before behind, crew.writers = before ++ r.writers.toList ++ behind ∧
      ∀ other, (crew.put index other).writers = before ++ other.writers.toList ++ behind := by
  obtain ⟨before, behind, cut, put⟩ := registries_put owner
  refine ⟨before.flatMap fun r => r.writers.toList, behind.flatMap fun r => r.writers.toList,
    ?_, ?_⟩
  · simp [writers, cut]
  · intro other
    simp [writers, put]

/-- A registry that is put back is there. -/
theorem registryOf_put {crew : Crew} {index : Nat} {r : Registry}
    (owner : crew.registryOf index = some r) (other : Registry) :
    (crew.put index other).registryOf index = some other := by
  unfold registryOf at owner
  cases shared : crew.shared with
  | some own => simp [put, registryOf, shared]
  | none =>
    simp only [shared] at owner
    obtain ⟨inside, _⟩ := Array.getElem?_eq_some_iff.mp owner
    simp [put, registryOf, shared, inside]

/-- A registry of another worker after one was put back: the one from before, or the shared
one. -/
theorem registryOf_put_other {crew : Crew} {index i : Nat} (apart : i ≠ index) (other : Registry) :
    (crew.put index other).registryOf i =
      if crew.shared.isSome then some other else crew.registryOf i := by
  cases shared : crew.shared with
  | some own => simp [put, registryOf, shared]
  | none => simp [put, registryOf, shared, Array.getElem?_setIfInBounds_ne (Ne.symm apart)]

/-- What a worker owns after a registry was put back. -/
theorem own_of_put {crew : Crew} {index i : Nat} {r other : Registry}
    (member : (crew.put index other).own[i]? = some r) :
    crew.own[i]? = some r ∨ crew.shared = none ∧ i = index ∧ r = other := by
  cases shared : crew.shared with
  | some own =>
    simp only [put, shared] at member
    exact Or.inl member
  | none =>
    simp only [put, shared] at member
    rw [Array.getElem?_setIfInBounds] at member
    split at member
    · rename_i same
      split at member
      · exact Or.inr ⟨rfl, same.symm, (Option.some.inj member).symm⟩
      · contradiction
    · exact Or.inl member

/-- Without a shared registry, what is put back is what its worker owns. -/
theorem own_of_put_self {crew : Crew} {index : Nat} {r other : Registry}
    (owner : crew.registryOf index = some r) (lone : crew.shared = none) :
    (crew.put index other).own[index]? = some other := by
  have back := registryOf_put owner other
  have still : (crew.put index other).shared = none := by simp [put, lone]
  simpa [registryOf, still] using back

/-- A registry that is put back takes the place of the shared one, if there is one. -/
theorem shared_put (crew : Crew) (index : Nat) (other : Registry) :
    (crew.put index other).shared = if crew.shared.isSome then some other else none := by
  cases shared : crew.shared <;> simp [put, shared]

/-- Of two registries that are put back the second counts. -/
theorem put_put (crew : Crew) (index : Nat) (first second : Registry) :
    (crew.put index first).put index second = crew.put index second := by
  cases shared : crew.shared <;> simp [put, shared]

/-- Putting back a registry as it is changes nothing. -/
theorem put_self {crew : Crew} {index : Nat} {r : Registry}
    (owner : crew.registryOf index = some r) : crew.put index r = crew := by
  obtain ⟨own, _ | common⟩ := crew
  · obtain ⟨inside, rfl⟩ := Array.getElem?_eq_some_iff.mp owner
    simp [put, Array.setIfInBounds_def, inside]
  · obtain rfl : common = r := Option.some.inj owner
    rfl

/-- Closing what a worker owns is closing its registry, if it has one to itself. -/
theorem closeWorker_cases (crew : Crew) (index : Nat) (link : Link) :
    (crew.shared.isSome ∨ crew.own[index]? = none) ∧
        (crew.closeWorker index link).2 = (crew, link) ∨
      ∃ r, crew.shared = none ∧ crew.registryOf index = some r ∧
        (crew.closeWorker index link).2 =
          (crew.put index (r.close link).2.1, (r.close link).2.2) := by
  unfold closeWorker
  cases shared : crew.shared with
  | some own => exact Or.inl ⟨by simp, rfl⟩
  | none =>
    cases owned : crew.own[index]? with
    | none => exact Or.inl ⟨by simp, rfl⟩
    | some r => exact Or.inr ⟨r, rfl, by simp [registryOf, shared, owned], by simp [put, shared]⟩

/-- Closing a live registry of a crew keeps the books. -/
theorem books_close {crew : Crew} {index : Nat} {r : Registry} {link : Link} (live : r.Live)
    (owner : crew.registryOf index = some r) (books : Books crew.writers link.journal) :
    (r.close link).2.1.Shut ∧ (r.close link).2.1.made = r.made ∧
      Books (crew.put index (r.close link).2.1).writers (r.close link).2.2.journal := by
  obtain ⟨before, behind, cut, put⟩ := writers_put owner
  rw [cut] at books
  rw [put]
  exact Registry.close_books live books

end Crew

namespace Ingest

/-- Writing at a handle is writing to its writer, which is put back. -/
theorem writeAt_eq {transmit : Bool} {r : Registry} {handle : Nat} {w : TableWriter} (link : Link)
    (points : List Point) (member : r.writers[handle]? = some w) :
    writeAt transmit r link handle points =
      ((writeTable transmit w link points).1,
        r.put handle (writeTable transmit w link points).2.1,
        (writeTable transmit w link points).2.2) := by
  simp [writeAt, member]

end Ingest

end SeriesBench
