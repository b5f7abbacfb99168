import SeriesBench.Proofs.Remote.Setup
import SeriesBench.Proofs.Worker.Crews

/-!
# Services that do what they are asked

With a service whose calls all succeed, a record that a writer sends is inserted through the
statement of the writer's table at once, and giving up a statement never fails. So the rows that
went into a table can be read off the journal: they are those of the records inserted through
its statement, in the order of the calls.
-/

namespace SeriesBench

/-- All calls of the service succeed. -/
structure Service.Obliging (service : Service) : Prop where
  execute : ∀ journal sql, ∃ records, service.execute journal sql = .ok records
  prepare : ∀ journal sql, service.prepare journal sql = .ok ()
  insert : ∀ journal statement record, ∃ rows, service.insert journal statement record = .ok rows
  close : ∀ journal statement, service.close journal statement = .ok ()

/-- A service that affects the rows of a record when it is inserted, and returns no others. -/
def Service.agreeable : Service where
  execute _ _ := .ok []
  prepare _ _ := .ok ()
  insert _ _ record := .ok record.rows
  close _ _ := .ok ()

/-- The agreeable service does what it is asked. -/
theorem Service.agreeable_obliging : Service.agreeable.Obliging :=
  ⟨fun _ _ => ⟨_, rfl⟩, fun _ _ => rfl, fun _ _ _ => ⟨_, rfl⟩, fun _ _ => rfl⟩

/-- The rows that an event inserts through a statement with a text. -/
def Event.rowsInto (sql : String) (event : Event) : List (List Value) :=
  match event.call with
  | .insert statement record => if statement.sql = sql then record.rowList else []
  | .execute _ | .prepare _ | .close _ => []

/-- The rows that were inserted through the statements with a text, in order. -/
def Journal.rowsInto (sql : String) (journal : Journal) : List (List Value) :=
  journal.flatMap (Event.rowsInto sql)

namespace Journal

/-- What two parts of a journal insert is inserted in turn. -/
@[simp] theorem rowsInto_append (sql : String) (first second : Journal) :
    rowsInto sql (first ++ second) = first.rowsInto sql ++ second.rowsInto sql :=
  List.flatMap_append

/-- Only events about the text insert rows through its statements. -/
theorem rowsInto_nil {sql : String} {journal : Journal}
    (none : ∀ event ∈ journal.about sql, event.rowsInto sql = []) : journal.rowsInto sql = [] := by
  rw [rowsInto, List.flatMap_eq_nil_iff]
  intro event member
  by_cases its : event.about = some sql
  · exact none event (mem_about.mpr ⟨member, its⟩)
  · unfold Event.rowsInto
    split
    · rename_i statement record call
      simp only [Event.about, call, Option.some_inj] at its
      exact if_neg its
    · rfl
    · rfl
    · rfl

end Journal

/-- What happens to a link when only some events are entered in the journal. -/
def Link.Continues (link after : Link) (events : Journal) : Prop :=
  after.service = link.service ∧ after.journal = link.journal ++ events

/-- The link goes on with nothing but events of a kind. -/
def Link.Only (kind : Event → Prop) (link after : Link) : Prop :=
  ∃ events, link.Continues after events ∧ ∀ event ∈ events, kind event

namespace Link.Only

variable {kind other : Event → Prop}

/-- A link that nothing happened to goes on with nothing but such events. -/
theorem refl (link : Link) : link.Only kind link :=
  ⟨[], ⟨rfl, by simp⟩, by simp⟩

/-- A link that goes on twice with nothing but such events goes on so in all. -/
theorem trans {first second third : Link} (one : first.Only kind second)
    (two : second.Only kind third) : first.Only kind third := by
  obtain ⟨events, ⟨service, journal⟩, every⟩ := one
  obtain ⟨more, ⟨service', journal'⟩, every'⟩ := two
  refine ⟨events ++ more, ⟨service'.trans service, ?_⟩, ?_⟩
  · rw [journal', journal, List.append_assoc]
  · intro event member
    rcases List.mem_append.mp member with old | new
    · exact every event old
    · exact every' event new

/-- Events of one kind are events of any wider kind. -/
theorem mono {link after : Link} (only : link.Only kind after)
    (wider : ∀ event, kind event → other event) : link.Only other after := by
  obtain ⟨events, continues, every⟩ := only
  exact ⟨events, continues, fun event member => wider event (every event member)⟩

end Link.Only

namespace TableWriter

/-- A record that is sent goes into the table at once. -/
theorem transmit_obliging {w : TableWriter} {link : Link} (obliging : link.service.Obliging)
    (told : w.Told link.journal) (record : Record) :
    ∃ events, link.Continues (w.transmit link record).2.2 events ∧
      events.rowsInto w.insertSql = record.rowList ∧
      ∀ sql, sql ≠ w.insertSql → events.rowsInto sql = [] := by
  cases held : w.statement with
  | some statement =>
    have named := told.named held
    rw [transmit_of_some held]
    refine ⟨_, ⟨rfl, rfl⟩, ?_, ?_⟩
    · simp [Journal.rowsInto, Event.rowsInto, named]
    · intro sql apart
      simp [Journal.rowsInto, Event.rowsInto, named, Ne.symm apart]
  | none =>
    obtain ⟨records, defines⟩ := obliging.execute link.journal w.createSql
    let begun := entered link ⟨.execute w.createSql, true⟩
    let ready := entered begun ⟨.prepare w.insertSql, true⟩
    let statement : Statement := ⟨begun.journal.prepared, w.insertSql⟩
    obtain ⟨rows, inserts⟩ := obliging.insert ready.journal statement record
    have prepares := obliging.prepare begun.journal w.insertSql
    have sent : (w.transmit link record).2.2 =
        entered ready ⟨.insert statement record, true⟩ := by
      simp only [begun, ready, statement, entered, List.append_assoc, List.cons_append,
        List.nil_append] at prepares inserts
      simp [transmit, ensureRemote, held, Link.define, Link.execute, defines, Link.definitionAnswer,
        Link.enter, Link.isOk, Link.prepare, prepares, Except.map, Link.insert, inserts, entered,
        begun, ready, statement]
    rw [sent]
    refine ⟨[⟨.execute w.createSql, true⟩, ⟨.prepare w.insertSql, true⟩,
      ⟨.insert statement record, true⟩], ⟨rfl, by simp [entered, ready, begun]⟩, ?_, ?_⟩
    · simp [Journal.rowsInto, Event.rowsInto, statement]
    · intro sql apart
      simp [Journal.rowsInto, Event.rowsInto, statement, Ne.symm apart]

/-- The remote side of a table can be set up. -/
theorem ensureRemote_obliging (w : TableWriter) {link : Link} (obliging : link.service.Obliging) :
    ∃ other after, w.ensureRemote link = (.ok (), other, after) ∧
      after.service = link.service := by
  cases held : w.statement with
  | some statement => exact ⟨w, link, by simp [ensureRemote, held], rfl⟩
  | none =>
    obtain ⟨records, defines⟩ := obliging.execute link.journal w.createSql
    have prepares := obliging.prepare (link.journal ++ [⟨.execute w.createSql, true⟩]) w.insertSql
    simp [ensureRemote, held, Link.define, Link.execute, defines, Link.definitionAnswer, Link.enter,
      Link.isOk, Link.prepare, prepares, Except.map]

/-- Sending a record succeeds. -/
theorem transmits_obliging (w : TableWriter) {link : Link} (obliging : link.service.Obliging)
    (record : Record) : Link.isOk (w.transmit link record).1 = true := by
  obtain ⟨other, after, ready, service⟩ := w.ensureRemote_obliging obliging
  obtain ⟨statement, _, sent⟩ := transmit_of_ready ready record
  rw [← service] at obliging
  obtain ⟨rows, inserts⟩ := obliging.insert after.journal statement record
  simp [sent, Link.insert, inserts, Link.isOk]

end TableWriter

/-- The link goes on with nothing but statements that are given up. -/
def Link.Closes (link after : Link) : Prop :=
  ∃ events, link.Continues after events ∧
    ∀ event ∈ events, ∃ statement, event.call = .close statement

namespace Link.Closes

/-- A link that nothing happened to goes on with closes only. -/
theorem refl (link : Link) : link.Closes link :=
  Link.Only.refl link

/-- A link that goes on twice with closes only goes on so in all. -/
theorem trans {first second third : Link} (one : first.Closes second) (two : second.Closes third) :
    first.Closes third :=
  Link.Only.trans one two

/-- A service that does what it is asked is the same service after any closes. -/
theorem obliging {link after : Link} (closes : link.Closes after)
    (obliging : link.service.Obliging) : after.service.Obliging := by
  obtain ⟨events, ⟨service, _⟩, _⟩ := closes
  rwa [service]

/-- Closing inserts nothing. -/
theorem rowsInto {link after : Link} (closes : link.Closes after) (sql : String) :
    after.journal.rowsInto sql = link.journal.rowsInto sql := by
  obtain ⟨events, ⟨_, journal⟩, closing⟩ := closes
  have none : Journal.rowsInto sql events = [] := by
    rw [Journal.rowsInto, List.flatMap_eq_nil_iff]
    intro event member
    obtain ⟨statement, call⟩ := closing event member
    simp [Event.rowsInto, call]
  rw [journal, Journal.rowsInto_append, none, List.append_nil]

/-- What was inserted when everything is closed was inserted before. -/
theorem inserted {link after : Link} (closes : link.Closes after) {event : Event}
    (member : event ∈ after.journal) {statement : Statement} {record : Record}
    (call : event.call = .insert statement record) : event ∈ link.journal := by
  obtain ⟨events, ⟨_, journal⟩, closing⟩ := closes
  rw [journal] at member
  rcases List.mem_append.mp member with old | new
  · exact old
  · obtain ⟨other, closed⟩ := closing event new
    simp [call] at closed

end Link.Closes

/-- Closing a writer succeeds. -/
theorem TableWriter.close_obliging (w : TableWriter) {link : Link}
    (obliging : link.service.Obliging) :
    (w.close link).1 = .ok () ∧ link.Closes (w.close link).2.2 := by
  unfold close
  split
  · exact ⟨rfl, .refl link⟩
  · split
    · exact ⟨rfl, .refl link⟩
    · rename_i statement _
      have succeeds := obliging.close link.journal statement
      refine ⟨succeeds, _, ⟨rfl, rfl⟩, ?_⟩
      intro event member
      exact ⟨statement, by rw [List.mem_singleton.mp member]⟩

/-- Closing the writers at some handles succeeds. -/
theorem Registry.closeAt_obliging (handles : List Nat) (r : Registry) {link : Link}
    (obliging : link.service.Obliging) :
    (r.closeAt link handles).1 = .ok () ∧ link.Closes (r.closeAt link handles).2.2 := by
  induction handles generalizing r link with
  | nil => exact ⟨rfl, .refl link⟩
  | cons handle rest ih =>
    unfold closeAt
    cases found : r.writers[handle]? with
    | none => exact ih r obliging
    | some w =>
      obtain ⟨succeeded, first⟩ := w.close_obliging obliging
      obtain ⟨later, more⟩ := ih (r.put handle (w.close link).2.1) (first.obliging obliging)
      dsimp only
      rw [succeeded]
      exact ⟨later, first.trans more⟩

/-- Closing a registry succeeds. -/
theorem Registry.close_obliging (r : Registry) {link : Link} (obliging : link.service.Obliging) :
    (r.close link).1 = .ok () ∧ link.Closes (r.close link).2.2 :=
  r.closeAt_obliging _ obliging

/-- Closing what a worker owns succeeds with an obliging service. -/
theorem Crew.closeWorker_obliging (crew : Crew) (index : Nat) {link : Link}
    (obliging : link.service.Obliging) :
    (crew.closeWorker index link).1 = .ok () ∧ link.Closes (crew.closeWorker index link).2.2 := by
  unfold closeWorker
  split
  · rename_i registry _ _
    exact registry.close_obliging obliging
  · exact ⟨rfl, .refl link⟩

/-- Closing what is shared succeeds with an obliging service. -/
theorem Crew.closeShared_obliging (crew : Crew) {link : Link} (obliging : link.service.Obliging) :
    (crew.closeShared link).1 = .ok () ∧ link.Closes (crew.closeShared link).2.2 := by
  unfold closeShared
  split
  · exact ⟨rfl, .refl link⟩
  · rename_i registry _
    exact registry.close_obliging obliging

end SeriesBench
