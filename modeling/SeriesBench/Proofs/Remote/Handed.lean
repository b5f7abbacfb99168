import SeriesBench.Proofs.Remote.Setup

/-!
# Records that are handed to the service

Which records went to the service, and through which statements, is read off the journal. A writer
adds one of them when its remote side is set up, and none when it is not, whether or not the service
then inserts it. It goes through the statement that the writer holds by then, which is the one that
it held before or, if it held none, a new one.
-/

namespace SeriesBench

/-- The record that an event inserts, with the statement it goes through. -/
def Event.inserted? (event : Event) : Option (Statement × Record) :=
  match event.call with
  | .insert statement record => some (statement, record)
  | .execute _ | .prepare _ | .close _ => none

namespace Journal

/-- The records that went to the service, in order, each with its statement. -/
def inserted (journal : Journal) : List (Statement × Record) :=
  journal.filterMap Event.inserted?

/-- The records that went through a statement, in order; none if there is no statement. -/
def through (held : Option Statement) (journal : Journal) : List Record :=
  (journal.inserted.filter fun entry => held = some entry.1).map Prod.snd

/-- Records go only through statements that were prepared. -/
def Sound (journal : Journal) : Prop :=
  ∀ entry ∈ journal.inserted, entry.1 ∈ journal.statements

variable {held : Option Statement} {journal events : Journal}

/-- What was inserted in two parts is what was inserted in both. -/
@[simp] theorem inserted_append (first second : Journal) :
    (first ++ second).inserted = first.inserted ++ second.inserted :=
  List.filterMap_append

/-- What went through a statement in two parts is what went through it in both. -/
@[simp] theorem through_append (held : Option Statement) (first second : Journal) :
    (first ++ second).through held = first.through held ++ second.through held := by
  simp [through]

/-- Nothing goes through no statement. -/
@[simp] theorem through_none (journal : Journal) : journal.through none = [] := by
  simp [through]

/-- When everything goes through one statement, that is all that goes through it. -/
theorem through_of_all (all : ∀ entry ∈ events.inserted, held = some entry.1) :
    events.through held = events.inserted.map Prod.snd := by
  rw [through, List.filter_eq_self.mpr fun entry member => decide_eq_true (all entry member)]

/-- What goes through other statements does not go through this one. -/
theorem through_of_other (other : ∀ entry ∈ events.inserted, held ≠ some entry.1) :
    events.through held = [] := by
  rw [through, List.filter_eq_nil_iff.mpr fun entry member => by simpa using other entry member]
  rfl

end Journal

namespace TableWriter

/-- What comes to the service when a writer is asked to set up its remote side or to send a record:
at most one record, through the statement that the writer holds afterwards. That is the statement
from before, or a new one for a writer that had none. -/
structure Handed (w : TableWriter) (link : Link) (record : Option Record) (other : TableWriter)
    (after : Link) : Prop where
  more : ∃ events : Journal, after.journal = link.journal ++ events ∧
    events.inserted.map Prod.snd = record.toList ∧
    ∀ entry ∈ events.inserted, other.statement = some entry.1
  statement : other.statement = w.statement ∨ w.statement = none ∧ ∃ statement,
    other.statement = some statement ∧ statement ∉ link.journal.statements ∧
      statement ∈ after.journal.statements

/-- A writer that nothing happened to has handed nothing over. -/
theorem Handed.refl (w : TableWriter) (link : Link) : Handed w link none w link :=
  ⟨⟨[], by simp, rfl, by simp [Journal.inserted]⟩, Or.inl rfl⟩

/-- What a writer hands over does not depend on its buffer. -/
theorem Handed.rebuffered {w ready other : TableWriter} {link after : Link} {record : Option Record}
    (same : Rebuffered w ready) (handed : Handed ready link record other after) :
    Handed w link record other after := by
  obtain ⟨builders, rows, rfl⟩ := same
  exact ⟨handed.more, handed.statement⟩

section Handed

variable {w other : TableWriter} {link after : Link} {record : Option Record}

/-- A writer holds a statement that was prepared, also when it was handed a record. -/
theorem Handed.prepared (handed : Handed w link record other after)
    (prepared : ∀ statement, w.statement = some statement → statement ∈ link.journal.statements) :
    ∀ statement, other.statement = some statement → statement ∈ after.journal.statements := by
  intro statement holds
  obtain ⟨events, journal, _⟩ := handed.more
  rcases handed.statement with same | ⟨_, new, its, _, registered⟩
  · rw [journal]
    exact Journal.mem_statements_append (prepared statement (same ▸ holds)) events
  · obtain rfl : new = statement := Option.some.inj (its.symm.trans holds)
    exact registered

/-- What is inserted goes through statements that were prepared. -/
theorem Handed.sound (handed : Handed w link record other after)
    (its : ∀ statement, w.statement = some statement → statement ∈ link.journal.statements)
    (sound : link.journal.Sound) : after.journal.Sound := by
  obtain ⟨events, journal, _, through⟩ := handed.more
  intro entry member
  rw [journal, Journal.inserted_append] at member
  rcases List.mem_append.mp member with old | new
  · rw [journal]
    exact Journal.mem_statements_append (sound entry old) events
  · exact handed.prepared its entry.1 (through entry new)

/-- What goes through the statement of a writer that hands over a record. Nothing went through a new
statement before, nor through none. -/
theorem Handed.through (handed : Handed w link record other after) (sound : link.journal.Sound) :
    after.journal.through other.statement =
      link.journal.through w.statement ++ record.toList := by
  obtain ⟨events, journal, records, through⟩ := handed.more
  rw [journal, Journal.through_append, Journal.through_of_all through, records]
  rcases handed.statement with same | ⟨none, new, its, fresh, _⟩
  · rw [same]
  · have before : link.journal.through other.statement = [] := by
      refine Journal.through_of_other fun entry member same => fresh ?_
      obtain rfl : new = entry.1 := Option.some.inj (its.symm.trans same)
      exact sound entry member
    rw [before, none, Journal.through_none]

end Handed

/-- Setting up the remote side hands over no record. -/
theorem handed_ensureRemote (w : TableWriter) (link : Link) :
    Handed w link none (w.ensureRemote link).2.1 (w.ensureRemote link).2.2 := by
  have ensured := ensured_ensureRemote w link
  generalize (w.ensureRemote link).1 = answer, (w.ensureRemote link).2.1 = other,
    (w.ensureRemote link).2.2 = after at ensured ⊢
  cases ensured with
  | held held => exact .refl w link
  | undefined none defined =>
    exact ⟨⟨[⟨.execute w.createSql, defined⟩], rfl, rfl, by simp [Journal.inserted, Event.inserted?]⟩,
      Or.inl rfl⟩
  | unprepared none defined =>
    exact ⟨⟨[⟨.execute w.createSql, defined⟩, ⟨.prepare w.insertSql, false⟩], by simp [entered], rfl,
      by simp [Journal.inserted, Event.inserted?]⟩, Or.inl rfl⟩
  | prepared none defined =>
    refine ⟨⟨[⟨.execute w.createSql, defined⟩, ⟨.prepare w.insertSql, true⟩], by simp [entered], rfl,
      by simp [Journal.inserted, Event.inserted?]⟩, Or.inr ⟨none, _, rfl, ?_, ?_⟩⟩
    · intro old
      exact Journal.not_mem_statements _ w.insertSql (Journal.mem_statements_append old _)
    · exact Journal.mem_statements_prepare _ w.insertSql

/-- One insert through the statement that the writer holds. -/
theorem Handed.insert {w other : TableWriter} {link after : Link}
    (handed : Handed w link none other after) {statement : Statement}
    (held : other.statement = some statement) (record : Record) (succeeded : Bool) :
    Handed w link (some record) other (entered after ⟨.insert statement record, succeeded⟩) := by
  obtain ⟨events, journal, none, _⟩ := handed.more
  have before : events.inserted = [] := by simpa using none
  have one : Journal.inserted [⟨.insert statement record, succeeded⟩] = [(statement, record)] := rfl
  refine ⟨⟨events ++ ([⟨.insert statement record, succeeded⟩] : Journal), ?_, ?_, ?_⟩, ?_⟩
  · simp [entered, journal]
  · rw [Journal.inserted_append, before, one]
    rfl
  · rw [Journal.inserted_append, before, one]
    simpa using held
  · rcases handed.statement with same | ⟨none, new, holds, fresh, registered⟩
    · exact Or.inl same
    · exact Or.inr ⟨none, new, holds, fresh, Journal.mem_statements_append registered _⟩

/-- Sending a record hands it over when the remote side is set up, and hands over nothing when it is
not. -/
theorem handed_transmit (w : TableWriter) (link : Link) (record : Record) :
    Handed w link (if Link.isOk (w.ensureRemote link).1 then some record else none)
      (w.transmit link record).2.1 (w.transmit link record).2.2 := by
  have handed := handed_ensureRemote w link
  rcases setUp : w.ensureRemote link with ⟨fault | done, other, after⟩ <;> rw [setUp] at handed
  · rw [transmit_of_refused setUp]
    exact handed
  · obtain ⟨statement, held, sent⟩ := transmit_of_ready setUp record
    rw [sent]
    exact Handed.insert handed held record _

end TableWriter

end SeriesBench
