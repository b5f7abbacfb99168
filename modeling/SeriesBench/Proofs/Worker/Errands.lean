import SeriesBench.Proofs.Worker.Passages
import SeriesBench.Proofs.Worker.Turns

/-!
# Batches and closes in any order

Workers take in batches, close what they own and are given more batches, and the registry that they
share may be closed between two batches, in whichever order the tables of a registry are gone
through. None of this brings a worker to a writer that is closed: a registry that was closed makes
new writers, and their tables get their columns anew.

So the answer to a batch can be told from what its tables have in use. It is a fault exactly when a
point of the batch is not as wide as its table, and nothing that the service answers, now or before,
changes that.
-/

namespace SeriesBench

/-- What a crew is asked: a worker takes its turn, a worker closes what it owns, or the registry
that they share is closed. -/
inductive Errand where
  | serve (turn : Turn)
  | close (worker : Nat) (order : Arrangement)
  | closeShared (order : Arrangement)

namespace Crew

/-- Closes what a worker owns, in some order; of a shared registry it owns nothing. -/
def closeWorkerIn (crew : Crew) (worker : Nat) (order : Arrangement) (link : Link) :
    Except Fault Unit × Crew × Link :=
  match crew.shared, crew.own[worker]? with
  | none, some registry =>
    let (answer, registry, link) := registry.closeIn order link
    (answer, { crew with own := crew.own.setIfInBounds worker registry }, link)
  | _, _ => (.ok (), crew, link)

/-- Closes the shared registry in some order, if there is one. -/
def closeSharedIn (crew : Crew) (order : Arrangement) (link : Link) :
    Except Fault Unit × Crew × Link :=
  match crew.shared with
  | none => (.ok (), crew, link)
  | some registry =>
    let (answer, registry, link) := registry.closeIn order link
    (answer, { crew with shared := some registry }, link)

/-- Closing in the order in which the tables came into use is one of the ways to close. -/
theorem closeIn_straight (crew : Crew) (worker : Nat) (link : Link) :
    crew.closeWorkerIn worker .straight link = crew.closeWorker worker link ∧
      crew.closeSharedIn .straight link = crew.closeShared link :=
  ⟨rfl, rfl⟩

/-- The crew and its link after an errand, whatever came of it. -/
def afterErrand (crew : Crew) (link : Link) : Errand → Crew × Link
  | .serve turn => (crew.serve link turn).2.2
  | .close worker order => (crew.closeWorkerIn worker order link).2
  | .closeShared order => (crew.closeSharedIn order link).2

/-- The crew and its link after some errands, one after the other. -/
def afterErrands (crew : Crew) (link : Link) : List Errand → Crew × Link
  | [] => (crew, link)
  | errand :: rest =>
    (crew.afterErrand link errand).1.afterErrands (crew.afterErrand link errand).2 rest

/-- Whether an errand is a batch that fails in the registry that a worker writes to. -/
def fails (crew : Crew) (link : Link) (worker : Nat) : Errand → Bool
  | .serve turn => crew.sharing turn.worker worker && !Link.isOk (crew.serve link turn).1
  | .close _ _ | .closeShared _ => false

/-- Whether no batch fails in the registry that a worker writes to. -/
def noneFails (crew : Crew) (link : Link) (worker : Nat) : List Errand → Bool
  | [] => true
  | errand :: rest =>
    !crew.fails link worker errand &&
      (crew.afterErrand link errand).1.noneFails (crew.afterErrand link errand).2 worker rest

variable {crew : Crew} {link : Link} {layout : Layout}

/-- The registry after it was closed. -/
structure Closed (r after : Registry) : Prop where
  none : after.active = []
  layout : after.layout = r.layout

/-- To close a registry in some order leaves it closed, with the writers that it had. -/
theorem closed_closeIn (r : Registry) (order : Arrangement) (link : Link) :
    Closed r (r.closeIn order link).2.1 := by
  rw [Registry.closeIn_registry]
  exact ⟨rfl, rfl⟩

/-- An errand leaves all registries as they are, or one of them is closed, or a batch is taken in
by one of them. -/
theorem afterErrand_cases (crew : Crew) (link : Link) (errand : Errand) :
    (crew.afterErrand link errand).1 = crew ∨
      (∃ worker r after, crew.registryOf worker = some r ∧ Closed r after ∧
        (crew.afterErrand link errand).1 = crew.put worker after) ∨
      ∃ turn r, errand = .serve turn ∧ crew.registryOf turn.worker = some r ∧
        (crew.afterErrand link errand).1 =
          crew.put turn.worker (Ingest.run turn.transmit r link turn.items).2.1 := by
  cases errand with
  | serve turn =>
    cases owner : crew.registryOf turn.worker with
    | none => exact Or.inl (by rw [afterErrand, serve_of_none owner])
    | some r => exact Or.inr (Or.inr ⟨turn, r, rfl, owner, by rw [afterErrand, serve_eq owner]⟩)
  | close worker order =>
    cases shared : crew.shared with
    | some common => exact Or.inl (by simp [afterErrand, closeWorkerIn, shared])
    | none =>
      cases owned : crew.own[worker]? with
      | none => exact Or.inl (by simp [afterErrand, closeWorkerIn, shared, owned])
      | some r =>
        refine Or.inr (Or.inl ⟨worker, r, _, ?_, closed_closeIn r order link, ?_⟩)
        · simp [registryOf, shared, owned]
        · simp [afterErrand, closeWorkerIn, put, shared, owned]
  | closeShared order =>
    cases shared : crew.shared with
    | none => exact Or.inl (by simp [afterErrand, closeSharedIn, shared])
    | some r =>
      refine Or.inr (Or.inl ⟨0, r, _, ?_, closed_closeIn r order link, ?_⟩)
      · simp [registryOf, shared]
      · simp [afterErrand, closeSharedIn, put, shared]

/-- All registries are orderly, and make tables under the same layout. -/
def Orderly (crew : Crew) (layout : Layout) : Prop :=
  ∀ worker r, crew.registryOf worker = some r → r.Orderly ∧ r.layout = layout

/-- A new crew is in order. -/
theorem orderly_make (routing : Routing) (workers : Nat) (layout : Layout) :
    (make routing workers layout).Orderly layout := by
  intro worker r owner
  obtain ⟨before, behind, cut, _⟩ := registries_put owner
  have member : r ∈ (make routing workers layout).registries := by simp [cut]
  rw [registries_make member]
  exact ⟨Registry.orderly_empty layout, rfl⟩

/-- A registry that is in order may be put back into a crew. -/
theorem Orderly.put (orderly : crew.Orderly layout) {worker : Nat} {r other : Registry}
    (owner : crew.registryOf worker = some r) (back : other.Orderly ∧ other.layout = layout) :
    (crew.put worker other).Orderly layout := by
  intro missed v found
  obtain ⟨_, rfl⟩ | ⟨_, before⟩ := registryOf_put_cases owner found
  · exact back
  · exact orderly missed v before

/-- Every errand leaves the registries orderly. -/
theorem Orderly.afterErrand (orderly : crew.Orderly layout) (link : Link) (errand : Errand) :
    (crew.afterErrand link errand).1.Orderly layout := by
  obtain same | ⟨worker, r, after, owner, closed, same⟩ | ⟨turn, r, rfl, owner, same⟩ :=
    crew.afterErrand_cases link errand
  · rwa [same]
  · rw [same]
    exact orderly.put owner
      ⟨Registry.orderly_of_none closed.none, closed.layout.trans (orderly worker r owner).2⟩
  · obtain ⟨order, made⟩ := orderly turn.worker r owner
    rw [same]
    refine orderly.put owner ?_
    obtain ⟨_, _, _, _, ran, completed⟩ | ⟨_, _, _, _, _, _, _, ran, halted⟩ :=
      Ingest.run_completed_or_halted order turn.transmit link turn.items
    · rw [ran]
      exact ⟨completed.written.orderly, completed.written.layout.trans made⟩
    · rw [ran]
      exact ⟨halted.orderly, halted.layout.trans made⟩

/-- Errands keep a crew in order, by induction on the errands. -/
theorem Orderly.afterErrands (orderly : crew.Orderly layout) (link : Link)
    (errands : List Errand) : (crew.afterErrands link errands).1.Orderly layout := by
  induction errands generalizing crew link with
  | nil => exact orderly
  | cons errand rest ih => exact ih (orderly.afterErrand link errand) _

/-- A worker does not lose its registry. -/
theorem employed_afterErrand {worker : Nat} (employed : (crew.registryOf worker).isSome)
    (link : Link) (errand : Errand) :
    ((crew.afterErrand link errand).1.registryOf worker).isSome := by
  obtain same | ⟨_, _, _, owner, _, same⟩ | ⟨_, _, _, owner, same⟩ :=
    crew.afterErrand_cases link errand
  · rwa [same]
  · rw [same]
    exact employed_put owner _ employed
  · rw [same]
    exact employed_put owner _ employed

/-- A worker that has a registry to write to has one after any errands. -/
theorem employed_afterErrands {worker : Nat} (employed : (crew.registryOf worker).isSome)
    (link : Link) (errands : List Errand) :
    ((crew.afterErrands link errands).1.registryOf worker).isSome := by
  induction errands generalizing crew link with
  | nil => exact employed
  | cons errand rest ih => exact ih (employed_afterErrand employed link errand) _

/-- After any errands a worker that was there from the start has a registry, which is orderly. -/
theorem registry_afterErrands (routing : Routing) {workers worker : Nat} (layout : Layout)
    (inside : worker < workers) (start : Link) (errands : List Errand) :
    ∃ r, ((make routing workers layout).afterErrands start errands).1.registryOf worker = some r ∧
      r.Orderly ∧ r.layout = layout := by
  obtain ⟨r, owner⟩ := Option.isSome_iff_exists.mp
    (employed_afterErrands (employed_make routing layout inside) start errands)
  exact ⟨r, owner, (orderly_make routing workers layout).afterErrands start errands worker r owner⟩

end Crew

/-- Only a point of the wrong width stops a batch, and only from its table on. After any batches,
whatever came of them, and any closes between them, with any answers of the service:

* the answer to a batch is a fault exactly when some point of the batch is not as wide as its table,
  which is as wide as the writer that it has in use, or else as its first point in the batch;
* the fault is then that of the first such table, in the order in which the tables first appear in
  the batch, and tells the widths of that table and of its first such point;
* the batch has passed through the tables before that one, as a batch that succeeds does, nothing
  else was said to the service, and every table behind has the same writer in use as before, if it
  has one;
* the batch is empty afterwards, in any case.

Proof: any errands leave every table in use with a writer to itself. From there the groups of the
batch are written one after the other, by induction: either all points fit and it is completed, or
it is halted at the first group with a point that does not. -/
theorem only_widths_stop_a_batch (routing : Routing) {workers : Nat} (layout : Layout)
    (start : Link) (errands : List Errand) {before : Crew} {link : Link}
    (reached : (Crew.make routing workers layout).afterErrands start errands = (before, link))
    {turn : Turn} (employed : turn.worker < workers) :
    let served := before.serve link turn
    ∃ r after, before.registryOf turn.worker = some r ∧ r.layout = layout ∧
      served.2.2.1 = before.put turn.worker after ∧ served.2.1.items = #[] ∧
      ((∃ fault, served.1 = .error fault) ↔ ∃ p ∈ turn.points, ¬ r.Fits turn.points p) ∧
      ((∃ outcome passages, served.1 = .ok outcome ∧
          Ingest.Completed turn.transmit r link turn.points passages outcome after served.2.2.2) ∨
        ∃ fault done table behind passages, served.1 = .error fault ∧
          Ingest.Halted turn.transmit r link turn.points done table behind passages fault after
            served.2.2.2) := by
  intro served
  obtain ⟨r, owner, orderly, made⟩ :=
    Crew.registry_afterErrands routing layout employed start errands
  rw [reached] at owner
  have answered : before.serve link turn = _ := Crew.serve_eq owner
  refine ⟨r, _, owner, made, congrArg (·.2.2.1) answered, ?_⟩
  obtain ⟨passages, outcome, after, later, ran, completed⟩ |
      ⟨done, table, behind, passages, fault, after, later, ran, halted⟩ :=
    Ingest.run_completed_or_halted orderly turn.transmit link turn.items
  · rw [ran] at answered ⊢
    have batch : served = (.ok outcome, turn.batch.clear, before.put turn.worker after, later) :=
      answered
    rw [batch]
    refine ⟨rfl, ⟨by simp, ?_⟩, Or.inl ⟨outcome, passages, rfl, completed⟩⟩
    rintro ⟨p, member, misfit⟩
    exact absurd (completed.fits p member) misfit
  · rw [ran] at answered ⊢
    have batch : served = (.error fault, turn.batch.clear, before.put turn.worker after, later) :=
      answered
    rw [batch]
    refine ⟨rfl, ⟨fun _ => halted.exists_misfit, fun _ => ⟨fault, rfl⟩⟩,
      Or.inr ⟨fault, done, table, behind, passages, rfl, halted⟩⟩

/-- A turn whose second table has a point that is too narrow. -/
def middleTurn : Turn where
  worker := 0
  transmit := true
  batch := ⟨#[
    .point ⟨"mem", "1", [], [⟨"free", .int64, some "7"⟩]⟩,
    .point ⟨"cpu", "2", [], [⟨"user", .int64, some "7"⟩, ⟨"system", .int64, some "7"⟩]⟩,
    .point ⟨"cpu", "3", [], [⟨"user", .int64, some "7"⟩]⟩,
    .point ⟨"disk", "4", [], [⟨"free", .int64, some "7"⟩]⟩], 4⟩

/-- After a turn that failed and a close it stops at its second table, between one that it has
passed and one that it has not. -/
theorem middleTurn_stops_at_its_second_table :
    let errands : List Errand := [.serve failingTurn, .close 0 .straight]
    let reached := (Crew.make .byMeasurement 1 {}).afterErrands (.fresh .agreeable) errands
    middleTurn.worker < 1 ∧
      (reached.1.serve reached.2 middleTurn).1 = .error (.width "cpu" 3 2) ∧
      firstSeen middleTurn.points = ["mem", "cpu", "disk"] ∧
      ∃ r after done behind passages, r.layout = {} ∧
        Ingest.Halted true r reached.2 middleTurn.points done "cpu" behind passages
          (.width "cpu" 3 2) after (reached.1.serve reached.2 middleTurn).2.2.2 := by
  intro errands reached
  have employed : middleTurn.worker < 1 := by decide
  have answer : (reached.1.serve reached.2 middleTurn).1 = .error (.width "cpu" 3 2) := by
    decide +kernel
  refine ⟨employed, answer, by decide +kernel, ?_⟩
  obtain ⟨r, after, _, made, _, _, _, either⟩ := only_widths_stop_a_batch .byMeasurement {}
    (.fresh .agreeable) errands rfl employed
  obtain ⟨_, _, fine, _⟩ | ⟨fault, done, table, behind, passages, stopped, halted⟩ := either
  · exact absurd (answer.symm.trans fine) (by simp)
  · obtain rfl := Except.error.inj (answer.symm.trans stopped)
    obtain ⟨w, p, _, _, told⟩ := halted.misfit
    obtain ⟨rfl, _⟩ := Fault.width.inj told
    exact ⟨r, after, done, behind, passages, made, halted⟩

end SeriesBench
