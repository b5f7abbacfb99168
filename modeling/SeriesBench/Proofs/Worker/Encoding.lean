import SeriesBench.Load.Run
import SeriesBench.Remote.Script
import SeriesBench.Proofs.Worker.Visits

/-!
# Encoding does not depend on the service

What the service answers can change the statements that writers hold and the count of transmission
errors, and nothing else. So every turn is, but for these two, the same turn taken in silence: with
nothing to be sent and no statements about. Two histories of the same batches therefore agree turn
by turn, because each agrees with the silent one.

A silent turn asks nothing, and closing writers without statements asks nothing either.
-/

namespace SeriesBench

/-- A writer without its statement. -/
def TableWriter.unbound (w : TableWriter) : TableWriter :=
  { w with statement := none }

/-- A registry whose writers have no statements. -/
def Registry.unbound (r : Registry) : Registry :=
  { r with writers := r.writers.map TableWriter.unbound }

/-- A crew whose writers have no statements. -/
def Crew.unbound (crew : Crew) : Crew :=
  ⟨crew.own.map Registry.unbound, crew.shared.map Registry.unbound⟩

/-- An outcome without the count of transmission errors. -/
def Outcome.encoded (outcome : Outcome) : Outcome :=
  { outcome with transmitErrors := 0 }

/-- The turn with nothing to be sent. -/
def Turn.silent (turn : Turn) : Turn :=
  { turn with transmit := false }

/-- What encoding came to in a visit: the points that were taken, and the record. -/
def Visit.encoding (visit : Visit) : String × List Point × Option Record :=
  (visit.table, visit.taken, visit.flush.map Flush.record)

/-- What encoding came to in a turn: the answer but for the transmission errors, the points and
records of its visits, and the crew afterwards but for the statements. -/
def Served.encoding (served : Served) :
    Except Fault Outcome × List (String × List Point × Option Record) × Crew :=
  (served.answer.map Outcome.encoded, served.visits.map Visit.encoding, served.crew.unbound)

namespace TableWriter

/-- Which statement a writer has makes no difference to the writer without it. -/
@[simp] theorem unbound_statement (w : TableWriter) (statement : Option Statement) :
    { w with statement }.unbound = w.unbound := rfl

/-- A writer without its statement appends the same points, with the same answers. -/
theorem append_unbound (w : TableWriter) (p : Point) :
    w.unbound.append p = ((w.append p).1, (w.append p).2.unbound) := by
  have same : w.unbound.accept p = w.accept p := rfl
  rcases taken : w.accept p with fault | values
  · simp [append, same, taken]
  · simp only [append, same, taken]
    rfl

/-- A writer without its statement flushes the same record. -/
theorem flush_unbound (w : TableWriter) :
    w.unbound.flush = (w.flush.1, w.flush.2.unbound) := by
  have rows : w.unbound.rows = w.rows := rfl
  have fields : w.unbound.fields = w.fields := rfl
  have builders : w.unbound.builders = w.builders := rfl
  simp only [flush, rows, fields, builders]
  split
  · rfl
  · split <;> rfl

/-- Sending a record changes nothing but the statement. -/
theorem transmit_unbound (w : TableWriter) (link : Link) (record : Record) :
    (w.transmit link record).2.1.unbound = w.unbound := by
  obtain ⟨statement, same⟩ := Ledger.transmit_writer w link record
  rw [same, unbound_statement]

/-- Closing a writer without a statement asks nothing. -/
theorem close_unbound (w : TableWriter) (link quiet : Link) :
    w.unbound.close quiet = (.ok (), (w.close link).2.1.unbound, quiet) := by
  have closed : w.unbound.closed = w.closed := rfl
  have none : w.unbound.statement = none := rfl
  by_cases finished : w.closed = true
  · simp [close, closed, finished]
  · cases held : w.statement <;> simp [close, closed, none, finished, held] <;> rfl

end TableWriter

namespace Registry

/-- The writers of a registry without statements stand at the same handles. -/
theorem getElem?_unbound (r : Registry) (handle : Nat) :
    r.unbound.writers[handle]? = r.writers[handle]?.map TableWriter.unbound := by
  simp [unbound]

/-- A registry without statements hands out the same handles and makes the same writers. -/
theorem obtain_unbound (r : Registry) (sample : Point) :
    r.unbound.obtain sample = ((r.obtain sample).1, (r.obtain sample).2.unbound) := by
  have active : r.unbound.active = r.active := rfl
  unfold Registry.obtain
  rw [active]
  cases r.active.lookup sample.measurement with
  | some handle => rfl
  | none => simp [unbound, TableWriter.unbound, TableWriter.create]

/-- A writer that is put back leaves its statement outside. -/
theorem put_unbound (r : Registry) (handle : Nat) (w : TableWriter) :
    (r.put handle w).unbound = r.unbound.put handle w.unbound := by
  simp [unbound, put, Array.map_setIfInBounds]

/-- Closing writers without statements asks nothing. -/
theorem closeAt_unbound (handles : List Nat) (r : Registry) (link quiet : Link) :
    r.unbound.closeAt quiet handles = (.ok (), (r.closeAt link handles).2.1.unbound, quiet) := by
  induction handles generalizing r link with
  | nil => rfl
  | cons handle rest ih =>
    cases found : r.writers[handle]? with
    | none => simpa [closeAt, getElem?_unbound, found] using ih r link
    | some w =>
      have later := ih (r.put handle (w.close link).2.1) (w.close link).2.2
      rw [put_unbound] at later
      simp [closeAt, getElem?_unbound, found, w.close_unbound link quiet, later]

/-- Closing a registry without statements asks nothing and succeeds, and it is closed as the
registry is that asks. -/
theorem close_unbound (r : Registry) (link quiet : Link) :
    r.unbound.close quiet = (.ok (), (r.close link).2.1.unbound, quiet) := by
  have active : r.unbound.active = r.active := rfl
  simp only [close, active, closeAt_unbound _ r link quiet]
  rfl

end Registry

namespace Ingest

/-- A writer without its statement takes the same of some points. -/
theorem taken_unbound (w : TableWriter) (points : List Point) :
    taken w.unbound points = taken w points := by
  induction points generalizing w with
  | nil => rfl
  | cons p rest ih =>
    rcases answer : w.append p with ⟨fault | done, other⟩ <;>
      simp [taken, w.append_unbound, answer, ih]

/-- A writer without its statement drops as many points, and is stopped by the same one. -/
theorem takeAll_unbound (w : TableWriter) (dropped : Nat) (points : List Point) :
    takeAll w.unbound dropped points =
      ((takeAll w dropped points).1, (takeAll w dropped points).2.unbound) := by
  induction points generalizing w dropped with
  | nil => rfl
  | cons p rest ih =>
    rcases answer : w.append p with ⟨fault | done, other⟩
    · by_cases inValue : fault.isValue = true
      · simp [takeAll, w.append_unbound, answer, inValue, ih]
      · simp [takeAll, w.append_unbound, answer, inValue]
    · simp [takeAll, w.append_unbound, answer, ih]

/-- Sending a record, or not, changes nothing of a writer but its statement. -/
theorem send_unbound (transmit : Bool) (w : TableWriter) (link : Link) (record : Record) :
    (send transmit w link record).2.1.unbound = w.unbound := by
  rw [send_eq]
  split
  · exact w.transmit_unbound link record
  · rfl

variable (transmit : Bool) (link quiet : Link)

/-- A visit in silence takes the same points and flushes the same record. -/
theorem visit_unbound (points : List Point) (w : TableWriter) :
    (visit false quiet points w.unbound).encoding = (visit transmit link points w).encoding := by
  have table : w.unbound.table = w.table := rfl
  have flushed : (flushOf false w.unbound quiet points).map Flush.record =
      (flushOf transmit w link points).map Flush.record := by
    rcases answer : takeAll w 0 points with ⟨fault | dropped, ready⟩
    · simp [flushOf, takeAll_unbound, answer]
    · rcases flushed : ready.flush with ⟨fault | none | record, last⟩ <;>
        simp [flushOf, takeAll_unbound, answer, ready.flush_unbound, flushed, Flush.of]
  simp [Visit.encoding, visit, table, taken_unbound, flushed]

/-- Writing a table in silence comes to the same, but for the transmission errors and the
statement. -/
theorem writeTable_unbound (w : TableWriter) (points : List Point) :
    writeTable false w.unbound quiet points =
      ((writeTable transmit w link points).1.map Outcome.encoded,
        (writeTable transmit w link points).2.1.unbound, quiet) := by
  rcases taken : takeAll w 0 points with ⟨fault | dropped, ready⟩
  · simp [writeTable, takeAll_unbound, taken, Except.map]
  · rcases flushed : ready.flush with ⟨fault | none | record, last⟩
    · simp [writeTable, takeAll_unbound, taken, ready.flush_unbound, flushed, Except.map]
    · simp [writeTable, takeAll_unbound, taken, ready.flush_unbound, flushed, Except.map,
        Outcome.encoded]
    · have same := send_unbound transmit last link record
      have silent : send false last.unbound quiet record = (0, last.unbound, quiet) := rfl
      simp [writeTable, takeAll_unbound, taken, ready.flush_unbound, flushed, Except.map,
        Outcome.encoded, same, silent]

/-- Writing at a handle in silence comes to the same, but for the transmission errors and the
statement. -/
theorem writeAt_unbound (r : Registry) (handle : Nat) (points : List Point) :
    writeAt false r.unbound quiet handle points =
      ((writeAt transmit r link handle points).1.map Outcome.encoded,
        (writeAt transmit r link handle points).2.1.unbound, quiet) := by
  cases found : r.writers[handle]? with
  | none => simp [writeAt, r.getElem?_unbound, found, Except.map, Outcome.encoded]
  | some w =>
    have quietly : r.unbound.writers[handle]? = some w.unbound := by
      simp [r.getElem?_unbound, found]
    rw [writeAt_eq link points found, writeAt_eq quiet points quietly,
      writeTable_unbound transmit link quiet w points, r.put_unbound]

/-- Writing groups in silence comes to the same: induction on the groups, for a failed group ends
both runs with the same fault. -/
theorem writeGroups_unbound (r : Registry) (sum : Outcome) (groups : List Group) :
    writeGroups false r.unbound quiet sum.encoded groups =
      ((writeGroups transmit r link sum groups).1.map Outcome.encoded,
        (writeGroups transmit r link sum groups).2.1.unbound, quiet) := by
  induction groups generalizing r link sum with
  | nil => rfl
  | cons group rest ih =>
    have here := writeAt_unbound transmit link quiet (r.obtain group.first).2
      (r.obtain group.first).1 group.points
    rcases wrote : writeAt transmit (r.obtain group.first).2 link (r.obtain group.first).1
      group.points with ⟨fault | outcome, written, between⟩
    · simp [writeGroups, r.obtain_unbound, here, wrote, Except.map]
    · have later := ih between written (sum + outcome)
      have added : sum.encoded + outcome.encoded = (sum + outcome).encoded := rfl
      simp [writeGroups, r.obtain_unbound, here, wrote, Except.map, added, later]

/-- The visits for some groups encode the same in silence. -/
theorem visits_unbound (r : Registry) (groups : List Group) :
    (visits false r.unbound quiet groups).map Visit.encoding =
      (visits transmit r link groups).map Visit.encoding := by
  induction groups generalizing r link with
  | nil => rfl
  | cons group rest ih =>
    have wrote := writeAt_unbound transmit link quiet (r.obtain group.first).2
      (r.obtain group.first).1 group.points
    have here : ((r.obtain group.first).2.unbound.writers[(r.obtain group.first).1]?.map
          (visit false quiet group.points)).toList.map Visit.encoding =
        ((r.obtain group.first).2.writers[(r.obtain group.first).1]?.map
          (visit transmit link group.points)).toList.map Visit.encoding := by
      rw [Registry.getElem?_unbound]
      cases (r.obtain group.first).2.writers[(r.obtain group.first).1]? with
      | none => rfl
      | some w => simp [visit_unbound transmit link quiet]
    rcases answer : writeAt transmit (r.obtain group.first).2 link (r.obtain group.first).1
      group.points with ⟨fault | outcome, written, between⟩
    · simp [visits, r.obtain_unbound, wrote, answer, Except.map, here]
    · simp [visits, r.obtain_unbound, wrote, answer, Except.map, here, ih between written]

/-- A batch of items in silence comes to the same, but for the transmission errors and the
statements. -/
theorem run_unbound (r : Registry) (items : List Item) :
    run false r.unbound quiet items =
      ((run transmit r link items).1.map Outcome.encoded,
        (run transmit r link items).2.1.unbound, quiet) :=
  writeGroups_unbound transmit link quiet r { droppedItems := (sort items ([], 0)).2 }
    (sort items ([], 0)).1

end Ingest

namespace Crew

/-- A crew without statements has the same registries, without statements. -/
theorem registryOf_unbound (crew : Crew) (worker : Nat) :
    crew.unbound.registryOf worker = (crew.registryOf worker).map Registry.unbound := by
  cases shared : crew.shared <;> simp [registryOf, unbound, shared]

/-- A registry that is put back into a crew leaves its statements outside. -/
theorem put_unbound (crew : Crew) (worker : Nat) (r : Registry) :
    (crew.put worker r).unbound = crew.unbound.put worker r.unbound := by
  cases shared : crew.shared <;> simp [put, unbound, shared, Array.map_setIfInBounds]

/-- A new crew has no statements. -/
theorem unbound_make (routing : Routing) (workers : Nat) (layout : Layout) :
    (make routing workers layout).unbound = make routing workers layout := by
  cases routing <;> simp [make, unbound, Registry.unbound, Registry.empty]

/-- There are no statements to be taken away twice. -/
@[simp] theorem unbound_unbound (crew : Crew) : crew.unbound.unbound = crew.unbound := by
  have writers : TableWriter.unbound ∘ TableWriter.unbound = TableWriter.unbound := rfl
  have registries : Registry.unbound ∘ Registry.unbound = Registry.unbound := by
    funext r
    simp [Registry.unbound, writers]
  simp [unbound, registries]

variable (crew : Crew) (link quiet : Link)

/-- A turn in silence comes to the same as the turn, but for the transmission errors and the
statements, and it asks nothing. -/
theorem serve_unbound (turn : Turn) :
    crew.unbound.serve quiet turn.silent =
      ((crew.serve link turn).1.map Outcome.encoded, (crew.serve link turn).2.1,
        (crew.serve link turn).2.2.1.unbound, quiet) := by
  have quietly : crew.unbound.registryOf turn.silent.worker =
      (crew.registryOf turn.worker).map Registry.unbound := registryOf_unbound crew turn.worker
  cases owner : crew.registryOf turn.worker with
  | none =>
    rw [owner] at quietly
    rw [serve_of_none owner, serve_of_none quietly]
    rfl
  | some r =>
    rw [owner] at quietly
    have same := Ingest.run_unbound turn.transmit link quiet r turn.items
    rw [serve_eq owner, serve_eq quietly, put_unbound]
    simp only [Turn.silent, Turn.items] at same ⊢
    rw [same]

/-- After a history in silence the crew is the one of the history itself, without statements, and
nothing was asked. -/
theorem afterTurns_unbound (turns : List Turn) :
    crew.unbound.afterTurns quiet (turns.map Turn.silent) =
      ((crew.afterTurns link turns).1.unbound, quiet) := by
  induction turns generalizing crew link with
  | nil => rfl
  | cons turn rest ih =>
    have later := ih (crew.serve link turn).2.2.1 (crew.serve link turn).2.2.2
    simpa [afterTurns, serve_unbound crew link quiet turn] using later

/-- There are no transmission errors to be taken away twice. -/
@[simp] theorem encoded_idem (answer : Except Fault Outcome) :
    (answer.map Outcome.encoded).map Outcome.encoded = answer.map Outcome.encoded := by
  cases answer <;> rfl

/-- The visits of a turn encode the same in silence. -/
theorem visits_unbound (turn : Turn) :
    (crew.unbound.visits quiet turn.silent).map Visit.encoding =
      (crew.visits link turn).map Visit.encoding := by
  have quietly : crew.unbound.registryOf turn.silent.worker =
      (crew.registryOf turn.worker).map Registry.unbound := registryOf_unbound crew turn.worker
  simp only [visits, quietly]
  cases crew.registryOf turn.worker with
  | none => rfl
  | some r => exact Ingest.visits_unbound turn.transmit link quiet r _

/-- A history in silence encodes the same, turn by turn. -/
theorem served_unbound (turns : List Turn) :
    (crew.unbound.served quiet (turns.map Turn.silent)).map Served.encoding =
      (crew.served link turns).map Served.encoding := by
  induction turns generalizing crew link with
  | nil => rfl
  | cons turn rest ih =>
    have later := ih (crew.serve link turn).2.2.1 (crew.serve link turn).2.2.2
    simp [served, serve_unbound crew link quiet turn, Served.encoding,
      visits_unbound crew link quiet turn, later]

/-- Closing what a worker owns succeeds and asks nothing if there are no statements. -/
theorem closeWorker_unbound (worker : Nat) :
    crew.unbound.closeWorker worker quiet =
      (.ok (), (crew.closeWorker worker link).2.1.unbound, quiet) := by
  cases shared : crew.shared with
  | some r => simp [closeWorker, unbound, shared]
  | none =>
    cases owned : crew.own[worker]? with
    | none => simp [closeWorker, unbound, shared, owned]
    | some r =>
      simp [closeWorker, unbound, shared, owned, r.close_unbound link quiet,
        Array.map_setIfInBounds]

/-- Closing what some workers own succeeds and asks nothing if there are no statements. -/
theorem closeWorkers_unbound (workers : List Nat) :
    Load.closeWorkers crew.unbound quiet workers =
      (.ok (), (Load.closeWorkers crew link workers).2.1.unbound, quiet) := by
  induction workers generalizing crew link with
  | nil => rfl
  | cons worker rest ih =>
    have later := ih (crew.closeWorker worker link).2.1 (crew.closeWorker worker link).2.2
    simp [Load.closeWorkers, closeWorker_unbound crew link quiet worker, later, Load.firstFault]

/-- Closing what is shared succeeds and asks nothing if there are no statements. -/
theorem closeShared_unbound :
    crew.unbound.closeShared quiet = (.ok (), (crew.closeShared link).2.1.unbound, quiet) := by
  cases shared : crew.shared with
  | none => simp [closeShared, unbound, shared]
  | some r => simp [closeShared, unbound, shared, r.close_unbound link quiet]

/-- When nothing is to be sent, nothing is asked, whatever is closed in the end. -/
theorem silence {crew : Crew} (bare : crew.unbound = crew) (link : Link) {turns : List Turn}
    (unsent : ∀ turn ∈ turns, turn.transmit = false) (closing : List Nat) :
    let turned := crew.afterTurns link turns
    let closed := Load.closeWorkers turned.1 turned.2 closing
    (closed.2.1.closeShared closed.2.2).2.2 = link := by
  have silent : turns.map Turn.silent = turns := by
    refine (List.map_congr_left fun turn member => ?_).trans (List.map_id turns)
    simp [Turn.silent, ← unsent turn member]
  have turning := afterTurns_unbound crew link link turns
  rw [bare, silent] at turning
  rw [turning]
  dsimp only
  rw [closeWorkers_unbound _ link link closing]
  dsimp only
  rw [closeShared_unbound _ link link]

end Crew

/-- What the service answers, and what is sent to it at all, does not influence encoding. Take two
histories of a new crew over the same batches, each with its own service and its own choice of what
to send:

* turn by turn both succeed or fail alike, with the same fault or the same counts but for the
  transmission errors, after taking the same points and flushing the same records, and they leave
  the same tables with the same columns and the same rows in their buffers;
* the transmission errors of a turn that succeeds are those of its flushes that could not be sent;
* when nothing is to be sent, nothing is asked of the service, also when whatever workers are
  closed in the end, and what they share.

Proof: each of the two histories encodes what the silent history of its batches does, and that is
the same for both, because batches that differ only in what is to be sent are silent in the same
way. -/
theorem encoding_ignores_transport (routing : Routing) (workers : Nat) (layout : Layout)
    (start start' : Link) {turns turns' : List Turn}
    (same : turns.map Turn.silent = turns'.map Turn.silent) :
    let crew := Crew.make routing workers layout
    (crew.served start turns).map Served.encoding =
      (crew.served start' turns').map Served.encoding ∧
    (∀ served ∈ crew.served start turns, ∀ outcome, served.answer = .ok outcome →
      outcome.transmitErrors = served.visits.countP Visit.failed) ∧
    ((∀ turn ∈ turns, turn.transmit = false) → ∀ closing : List Nat,
      let turned := crew.afterTurns start turns
      let closed := Load.closeWorkers turned.1 turned.2 closing
      (closed.2.1.closeShared closed.2.2).2.2 = start) := by
  intro crew
  have bare : crew.unbound = crew := Crew.unbound_make routing workers layout
  refine ⟨?_, ?_, ?_⟩
  · calc (crew.served start turns).map Served.encoding
        = (crew.unbound.served start (turns.map Turn.silent)).map Served.encoding :=
          (Crew.served_unbound crew start start turns).symm
      _ = (crew.unbound.served start (turns'.map Turn.silent)).map Served.encoding := by rw [same]
      _ = (crew.served start' turns').map Served.encoding :=
          Crew.served_unbound crew start' start turns'
  · intro served member outcome answer
    exact Crew.transmitErrors_served member answer
  · intro unsent closing
    exact Crew.silence bare start unsent closing

/-- A service whose inserts all fail. -/
def Service.broken : Service :=
  (Script.empty.fail ⟨.insert, .external, "down", none⟩).service

/-- A turn that is sent to a broken service and then taken again in silence encodes the same as when
the service is agreeable and both are sent; only the transmission error differs. -/
theorem brokenService_encodes_the_same :
    let crew := Crew.make .byMeasurement 1 {}
    let broken := crew.served (.fresh .broken) [nextTurn, nextTurn.silent]
    let agreeable := crew.served (.fresh .agreeable) [nextTurn, nextTurn]
    [nextTurn, nextTurn.silent].map Turn.silent = [nextTurn, nextTurn].map Turn.silent ∧
      broken.map Served.encoding = agreeable.map Served.encoding ∧
      broken.map (fun served => served.visits.countP Visit.failed) = [1, 0] ∧
      agreeable.map (fun served => served.visits.countP Visit.failed) = [0, 0] := by
  have same : [nextTurn, nextTurn.silent].map Turn.silent = [nextTurn, nextTurn].map Turn.silent :=
    rfl
  refine ⟨same, ?_, by decide +kernel, by decide +kernel⟩
  exact (encoding_ignores_transport .byMeasurement 1 {} (.fresh .broken) (.fresh .agreeable) same).1

end SeriesBench
