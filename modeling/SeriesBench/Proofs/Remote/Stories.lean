import SeriesBench.Proofs.Remote.Statements
import SeriesBench.Proofs.Worker.Writing

/-!
# The story of a table in the journal

What the journal says about the insert statement of one table is a short story: preparations
that failed, then perhaps one that succeeded, then inserts through the statement that it gave,
and last, once the writer is closed, one end of that statement. `Story` is this shape,
together with what the writer remembers of it; calls about other tables do not show in it.

`Books` says it of all writers at once. It is kept when a writer is created for a new table
and when one of them talks to the service, which is all that ever happens to them.
-/

namespace SeriesBench

/-- An event that inserts a record with these fields through a statement. -/
def Event.Inserts (statement : Statement) (fields : List FieldDef) (event : Event) : Prop :=
  ∃ record succeeded, event = ⟨.insert statement record, succeeded⟩ ∧ record.fields = fields

/-- What a journal tells about the statement with a text, given the statement that the writer
has and whether the writer is closed. -/
inductive Story (sql : String) (fields : List FieldDef) (journal : Journal) :
    Option Statement → Bool → Prop where
  /-- No preparation has succeeded. -/
  | unprepared {closed : Bool}
      (events : ∀ event ∈ journal.about sql, event = ⟨.prepare sql, false⟩) :
      Story sql fields journal none closed
  /-- One preparation has succeeded, and the statement is in use. -/
  | prepared {statement : Statement} (tries inserts : List Event)
      (registered : statement ∈ journal.statements) (named : statement.sql = sql)
      (events : journal.about sql = tries ++ ⟨.prepare sql, true⟩ :: inserts)
      (failed : ∀ event ∈ tries, event = ⟨.prepare sql, false⟩)
      (through : ∀ event ∈ inserts, event.Inserts statement fields) :
      Story sql fields journal (some statement) false
  /-- The statement was given up. -/
  | ended {statement : Statement} (tries inserts : List Event) (succeeded : Bool)
      (registered : statement ∈ journal.statements) (named : statement.sql = sql)
      (events : journal.about sql =
        tries ++ ⟨.prepare sql, true⟩ :: inserts ++ [⟨.close statement, succeeded⟩])
      (failed : ∀ event ∈ tries, event = ⟨.prepare sql, false⟩)
      (through : ∀ event ∈ inserts, event.Inserts statement fields) :
      Story sql fields journal none true

namespace Story

variable {sql : String} {fields : List FieldDef} {journal : Journal}

/-- Events about other texts do not show in a story. -/
theorem append {held : Option Statement} {closed : Bool}
    (story : Story sql fields journal held closed) {more : Journal}
    (other : ∀ event ∈ more, event.about ≠ some sql) :
    Story sql fields (journal ++ more) held closed := by
  have same : Journal.about sql (journal ++ more) = journal.about sql := by
    rw [Journal.about_append, Journal.about_other other, List.append_nil]
  cases story with
  | unprepared events => exact .unprepared (same ▸ events)
  | prepared tries inserts registered named events failed through =>
    exact .prepared tries inserts (Journal.mem_statements_append registered more) named
      (same.trans events) failed through
  | ended tries inserts succeeded registered named events failed through =>
    exact .ended tries inserts succeeded (Journal.mem_statements_append registered more) named
      (same.trans events) failed through

/-- An event about the text comes last in its story. -/
theorem about_snoc (journal : Journal) {event : Event} (its : event.about = some sql) :
    Journal.about sql (journal ++ ([event] : Journal)) = journal.about sql ++ [event] := by
  have single : Journal.about sql [event] = [event] := by simp [Journal.about, its]
  rw [Journal.about_append, single]

/-- Without a statement nothing but failed preparations has happened to an open writer. -/
theorem events_of_none (story : Story sql fields journal none false) :
    ∀ event ∈ journal.about sql, event = ⟨.prepare sql, false⟩ := by
  cases story with
  | unprepared events => exact events

/-- A preparation that fails leaves the story of a writer without a statement where it is. -/
theorem tried (story : Story sql fields journal none false) :
    Story sql fields (journal ++ ([⟨.prepare sql, false⟩] : Journal)) none false := by
  refine .unprepared ?_
  rw [about_snoc journal rfl]
  intro event member
  rcases List.mem_append.mp member with old | new
  · exact story.events_of_none event old
  · exact List.mem_singleton.mp new

/-- A preparation that succeeds gives the writer its statement. -/
theorem prepare (story : Story sql fields journal none false) :
    Story sql fields (journal ++ ([⟨.prepare sql, true⟩] : Journal))
      (some ⟨journal.prepared, sql⟩) false :=
  .prepared (journal.about sql) [] (Journal.mem_statements_prepare journal sql) rfl
    (about_snoc journal rfl) story.events_of_none (by simp)

/-- An insert through the statement of the writer goes on with its story. -/
theorem insert {statement : Statement} (story : Story sql fields journal (some statement) false)
    {record : Record} (same : record.fields = fields) (succeeded : Bool) :
    Story sql fields (journal ++ ([⟨.insert statement record, succeeded⟩] : Journal))
      (some statement) false := by
  cases story with
  | prepared tries inserts registered named events failed through =>
    refine .prepared tries (inserts ++ [⟨.insert statement record, succeeded⟩])
      (Journal.mem_statements_append registered _) named ?_ failed ?_
    · have its : Event.about ⟨.insert statement record, succeeded⟩ = some sql :=
        congrArg some named
      rw [about_snoc journal its, events]
      simp
    · intro event member
      rcases List.mem_append.mp member with old | new
      · exact through event old
      · exact ⟨record, succeeded, List.mem_singleton.mp new, same⟩

/-- A close ends the story, whether it succeeds or not. -/
theorem close {statement : Statement} (story : Story sql fields journal (some statement) false)
    (succeeded : Bool) :
    Story sql fields (journal ++ ([⟨.close statement, succeeded⟩] : Journal)) none true := by
  cases story with
  | prepared tries inserts registered named events failed through =>
    refine .ended tries inserts succeeded (Journal.mem_statements_append registered _) named ?_
      failed through
    have its : Event.about ⟨.close statement, succeeded⟩ = some sql := congrArg some named
    rw [about_snoc journal its, events]

/-- A writer that never had a statement ends without a word. -/
theorem shut (story : Story sql fields journal none false) :
    Story sql fields journal none true :=
  .unprepared story.events_of_none

end Story

namespace TableWriter

/-- The journal tells the story of a writer. -/
def Told (w : TableWriter) (journal : Journal) : Prop :=
  Story w.insertSql w.fields journal w.statement w.closed

/-- A journal tells of a writer if it tells the story of what the writer holds. -/
theorem told_of_story {w : TableWriter} {journal : Journal} {held : Option Statement}
    {closed : Bool} (story : Story w.insertSql w.fields journal held closed)
    (statement : w.statement = held) (same : w.closed = closed) : w.Told journal := by
  subst statement same
  exact story

/-- The statement that a writer holds is that of its table. -/
theorem Told.named {w : TableWriter} {journal : Journal} (told : w.Told journal)
    {statement : Statement} (held : w.statement = some statement) :
    statement.sql = w.insertSql := by
  unfold Told at told
  rw [held] at told
  generalize w.closed = closed at told
  cases told with
  | prepared _ _ _ named => exact named

/-- What happens in the journal when a writer talks: it goes on with events that are about the
writer's insert statement or about none, and tells the story of the writer after that. -/
structure Spoke (w other : TableWriter) (journal after : Journal) : Prop where
  table : other.table = w.table
  columns : other.columns = w.columns
  told : other.Told after
  more : ∃ events, after = journal ++ events ∧
    ∀ event ∈ events, ∀ sql, event.about = some sql → sql = w.insertSql

/-- A writer that changes nothing but its buffer has nothing to say. -/
theorem spoke_of_rebuffered {w other : TableWriter} {journal : Journal}
    (told : w.Told journal) (same : Rebuffered w other) : Spoke w other journal journal := by
  obtain ⟨builders, rows, rfl⟩ := same
  exact ⟨rfl, rfl, told, [], by simp, by simp⟩

/-- Sending through the statement at hand is one event. -/
theorem transmit_of_some {w : TableWriter} {statement : Statement}
    (held : w.statement = some statement) (link : Link) (record : Record) :
    (w.transmit link record).2 = (w, (link.insert statement record).2) := by
  simp [transmit, ensureRemote, held]

/-- Entering a call in the journal. -/
def entered (link : Link) (event : Event) : Link :=
  { link with journal := link.journal ++ [event] }

/-- Sending through a statement that is still to be prepared: the definition may fail, then the
preparation, and only after both is the record sent. -/
theorem transmit_of_none {w : TableWriter} (held : w.statement = none) (link : Link)
    (record : Record) :
    ∃ defined, let begun := entered link ⟨.execute w.createSql, defined⟩
      (w.transmit link record).2 = (w, begun) ∨
      (w.transmit link record).2 = (w, entered begun ⟨.prepare w.insertSql, false⟩) ∨
      ∃ sent, let statement : Statement := ⟨begun.journal.prepared, w.insertSql⟩
        (w.transmit link record).2 = ({ w with statement := some statement },
          entered (entered begun ⟨.prepare w.insertSql, true⟩)
            ⟨.insert statement record, sent⟩) := by
  refine ⟨Link.isOk (link.service.execute link.journal w.createSql), ?_⟩
  have defines : (link.define w.createSql).2 =
      entered link ⟨.execute w.createSql, Link.isOk (link.service.execute link.journal w.createSql)⟩ :=
    rfl
  simp only [transmit, ensureRemote, held]
  rw [← defines]
  rcases link.define w.createSql with ⟨fault | done, begun⟩
  · exact Or.inl rfl
  · refine Or.inr ?_
    cases answer : begun.service.prepare begun.journal w.insertSql with
    | error fault =>
      refine Or.inl ?_
      simp [Link.prepare, Link.enter, answer, Link.isOk, Except.map, entered]
    | ok done =>
      let statement : Statement := ⟨begun.journal.prepared, w.insertSql⟩
      let ready := entered begun ⟨.prepare w.insertSql, true⟩
      refine Or.inr ⟨Link.isOk (ready.service.insert ready.journal statement record), ?_⟩
      simp [Link.prepare, Link.enter, answer, Link.isOk, Except.map, entered, Link.insert, ready,
        statement]

/-- What a writer says when it sends a record. -/
theorem spoke_transmit {w : TableWriter} {link : Link} (told : w.Told link.journal)
    (opened : w.closed = false) {record : Record} (fields : record.fields = w.fields) :
    Spoke w (w.transmit link record).2.1 link.journal (w.transmit link record).2.2.journal := by
  have named {statement : Statement} (held : w.statement = some statement) :
      statement.sql = w.insertSql := told.named held
  unfold Told at told
  rw [opened] at told
  cases held : w.statement with
  | some statement =>
    rw [held] at told
    rw [transmit_of_some held]
    have after := told.insert fields (Link.isOk (link.service.insert link.journal statement record))
    refine ⟨rfl, rfl, ?_, _, rfl, ?_⟩
    · exact told_of_story after held opened
    · intro event member sql about
      obtain rfl := List.mem_singleton.mp member
      exact (Option.some.inj about).symm.trans (named held)
  | none =>
    rw [held] at told
    have begin (defined : Bool) : Story w.insertSql w.fields
        (entered link ⟨.execute w.createSql, defined⟩).journal none false :=
      told.append (by simp [Event.about])
    obtain ⟨defined, broke | broke | ⟨sent, done⟩⟩ := transmit_of_none held link record
    · rw [broke]
      refine ⟨rfl, rfl, ?_, _, rfl, by simp [Event.about]⟩
      exact told_of_story (begin defined) held opened
    · rw [broke]
      refine ⟨rfl, rfl, ?_, [⟨.execute w.createSql, defined⟩, ⟨.prepare w.insertSql, false⟩],
        by simp [entered], by simp [Event.about]⟩
      exact told_of_story (begin defined).tried held opened
    · rw [done]
      refine ⟨rfl, rfl, ?_, [⟨.execute w.createSql, defined⟩, ⟨.prepare w.insertSql, true⟩,
        ⟨.insert ⟨(entered link ⟨.execute w.createSql, defined⟩).journal.prepared, w.insertSql⟩
          record, sent⟩], by simp [entered], by simp [Event.about]⟩
      exact told_of_story ((begin defined).prepare.insert fields sent) rfl opened

/-- What a writer says when it is closed: a statement that it holds is given up, once. -/
theorem spoke_close {w : TableWriter} {link : Link} (told : w.Told link.journal) :
    Spoke w (w.close link).2.1 link.journal (w.close link).2.2.journal ∧
      (w.close link).2.1.closed = true := by
  by_cases finished : w.closed = true
  · have same : w.close link = (.ok (), w, link) := by simp [close, finished]
    rw [same]
    exact ⟨⟨rfl, rfl, told, [], by simp, by simp⟩, finished⟩
  · have opened : w.closed = false := by simpa using finished
    have named {statement : Statement} (held : w.statement = some statement) :
        statement.sql = w.insertSql := told.named held
    unfold Told at told
    rw [opened] at told
    simp only [close, opened, Bool.false_eq_true, if_false]
    cases held : w.statement with
    | none =>
      rw [held] at told
      exact ⟨⟨rfl, rfl, told.shut, [], by simp, by simp⟩, rfl⟩
    | some statement =>
      rw [held] at told
      refine ⟨⟨rfl, rfl, ?_, _, rfl, ?_⟩, rfl⟩
      · exact told.close (Link.isOk (link.service.close link.journal statement))
      · intro event member sql about
        obtain rfl := List.mem_singleton.mp member
        exact (Option.some.inj about).symm.trans (named held)

/-- What a writer says when points are written to it. -/
theorem spoke_of_talk {w other : TableWriter} {link after : Link} (told : w.Told link.journal)
    (opened : w.closed = false) (talk : Ingest.Talk w link other after) :
    Spoke w other link.journal after.journal := by
  cases talk with
  | silent same => exact spoke_of_rebuffered told same
  | transmitted same record fields =>
    obtain ⟨builders, rows, rfl⟩ := same
    obtain ⟨table, columns, after, more⟩ :=
      spoke_transmit (w := { w with builders, rows }) told opened fields
    exact ⟨table, columns, after, more⟩

end TableWriter

end SeriesBench
