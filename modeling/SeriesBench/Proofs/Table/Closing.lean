import SeriesBench.Remote.Script
import SeriesBench.Proofs.Remote.Setup

/-!
# After the end of a writer

Closing a writer gives up its statement, once and for good: nothing is ever asked of that
statement again. It does not silence the writer. A closed writer still takes no points and flushes
nothing, but when it is asked to set up its remote side or to send a record, it defines its table
and prepares a statement anew, and that statement stays with the service, because closing again
does nothing.

So closing is final exactly when the remote side is not asked for afterwards. The main statement
says what any calls after the close come to, whichever they are, and the last one shows a writer
that leaves a statement behind.
-/

namespace SeriesBench

namespace TableWriter

/-- What has happened since the journal was `past` and the writer held no statement: none was
closed, at most one was prepared, which the writer holds, and inserts went through that one. -/
structure Since (past : Journal) (w : TableWriter) (journal : Journal) : Prop where
  more : ∃ events, journal = past ++ events ∧ ∀ event ∈ events,
    (∀ statement, event.call ≠ .close statement) ∧
    ∀ statement record, event.call = .insert statement record → w.statement = some statement
  statements : journal.statements = past.statements ++ w.statement.toList

namespace Since

variable {past : Journal} {w : TableWriter} {link : Link}

/-- Nothing has happened since now, if no statement is held. -/
theorem refl (none : w.statement = none) : Since past w past :=
  ⟨⟨[], by simp, by simp⟩, by simp [none]⟩

/-- An event that neither closes nor prepares a statement, and inserts through none but the one
that the writer holds. -/
theorem enter {journal : Journal} (since : Since past w journal) {event : Event}
    (closes : ∀ statement, event.call ≠ .close statement)
    (inserts : ∀ statement record, event.call = .insert statement record →
      w.statement = some statement)
    (prepares : event.prepared? = none) : Since past w (journal ++ ([event] : Journal)) where
  more := by
    obtain ⟨events, rfl, before⟩ := since.more
    refine ⟨events ++ [event], List.append_assoc _ _ _, ?_⟩
    intro other member
    rcases List.mem_append.mp member with old | new
    · exact before other old
    · obtain rfl := List.mem_singleton.mp new
      exact ⟨closes, inserts⟩
  statements := by
    have none : ([event] : Journal).filterMap Event.prepared? = [] := by simp [prepares]
    rw [Journal.statements_append, none]
    simpa using since.statements

/-- A statement is prepared for a writer that holds none. Nothing was inserted so far, for there was
no statement to insert through. -/
theorem prepare {journal : Journal} (since : Since past w journal) (none : w.statement = none)
    (sql : String) :
    Since past { w with statement := some ⟨journal.prepared, sql⟩ }
      (journal ++ ([⟨.prepare sql, true⟩] : Journal)) where
  more := by
    obtain ⟨events, rfl, before⟩ := since.more
    refine ⟨events ++ [⟨.prepare sql, true⟩], List.append_assoc _ _ _, ?_⟩
    intro other member
    rcases List.mem_append.mp member with old | new
    · refine ⟨(before other old).1, fun statement record inserts => ?_⟩
      simpa [none] using (before other old).2 statement record inserts
    · obtain rfl := List.mem_singleton.mp new
      simp
  statements := by
    have one : ([⟨.prepare sql, true⟩] : Journal).filterMap Event.prepared? = [sql] := rfl
    rw [Journal.statements_append, one, since.statements]
    simp [none]

/-- Setting up the remote side prepares at most the one statement. -/
theorem ensureRemote (since : Since past w link.journal) :
    Since past (w.ensureRemote link).2.1 (w.ensureRemote link).2.2.journal := by
  have defined (answer : Bool) :
      Since past w (entered link ⟨.execute w.createSql, answer⟩).journal :=
    since.enter (by simp) (by simp) rfl
  have ensured := ensured_ensureRemote w link
  generalize (w.ensureRemote link).1 = answer, (w.ensureRemote link).2.1 = other,
    (w.ensureRemote link).2.2 = after at ensured ⊢
  cases ensured with
  | held held => exact since
  | undefined none answer => exact defined answer
  | unprepared none answer => exact (defined answer).enter (by simp) (by simp) rfl
  | prepared none answer => exact (defined answer).prepare none w.insertSql

/-- Sending a record prepares at most the one statement, and inserts through it. -/
theorem transmit (since : Since past w link.journal) (record : Record) :
    Since past (w.transmit link record).2.1 (w.transmit link record).2.2.journal := by
  have ensured := since.ensureRemote
  rcases setUp : w.ensureRemote link with ⟨fault | done, other, after⟩ <;> rw [setUp] at ensured
  · rw [transmit_of_refused setUp]
    exact ensured
  · obtain ⟨statement, held, sent⟩ := transmit_of_ready setUp record
    rw [sent]
    exact Since.enter ensured (by simp)
      (fun other record' inserts => by simp_all) rfl

end Since

/-- Setting up the remote side asks for something when there is no statement yet. -/
theorem length_ensureRemote (w : TableWriter) (link : Link) :
    link.journal.length ≤ (w.ensureRemote link).2.2.journal.length ∧
      (w.statement = none → link.journal.length < (w.ensureRemote link).2.2.journal.length) := by
  have ensured := ensured_ensureRemote w link
  generalize (w.ensureRemote link).1 = answer, (w.ensureRemote link).2.1 = other,
    (w.ensureRemote link).2.2 = after at ensured ⊢
  cases ensured with
  | held held => simp [held]
  | undefined none defined => simp [entered]
  | unprepared none defined => simp [entered]
  | prepared none defined => simp [entered]

/-- Sending a record asks for no less than setting up the remote side. -/
theorem length_transmit (w : TableWriter) (link : Link) (record : Record) :
    (w.ensureRemote link).2.2.journal.length ≤ (w.transmit link record).2.2.journal.length := by
  rcases setUp : w.ensureRemote link with ⟨fault | done, other, after⟩
  · rw [transmit_of_refused setUp]
  · obtain ⟨statement, _, sent⟩ := transmit_of_ready setUp record
    simp [sent, Link.insert, Link.enter]

end TableWriter

/-- What a writer can be asked as long as it is there, its end included. -/
inductive LifeCall where
  | use (call : WriterCall)
  | close

namespace LifeCall

/-- Whether a call concerns the buffer only, or ends the writer. -/
def isQuiet : LifeCall → Bool
  | use (.append _) | use .flush | close => true
  | use .ensureRemote | use (.transmit _) => false

end LifeCall

namespace Ledger

open TableWriter

/-- The ledger after a call, which may be the end. -/
def lived (l : Ledger) : LifeCall → Ledger
  | .use call => l.after call
  | .close =>
    let (_, writer, link) := l.writer.close l.link
    { l with writer, link, buffered := [] }

/-- The ledger after some calls in turn, the end among them. -/
def livedAll (l : Ledger) (calls : List LifeCall) : Ledger :=
  calls.foldl lived l

variable {l : Ledger} {past : Journal}

/-- Taking a point and flushing change nothing but the buffer. -/
theorem quiet_after {call : WriterCall} (quiet : (LifeCall.use call).isQuiet = true) :
    Rebuffered l.writer (l.after call).writer ∧ (l.after call).link = l.link := by
  cases call with
  | append p =>
    have same := rebuffered_append l.writer p
    simp only [after]
    split <;> rename_i answer <;> rw [answer] at same <;> exact ⟨same, rfl⟩
  | flush =>
    have same := rebuffered_flush l.writer
    simp only [after]
    split <;> rename_i answer <;> rw [answer] at same <;> exact ⟨same, rfl⟩
  | ensureRemote => simp [LifeCall.isQuiet] at quiet
  | transmit record => simp [LifeCall.isQuiet] at quiet

/-- A call of a writer changes its buffer and its statement only. -/
theorem writer_after (l : Ledger) (call : WriterCall) :
    ∃ builders rows statement,
      (l.after call).writer = { l.writer with builders, rows, statement } := by
  by_cases quiet : (LifeCall.use call).isQuiet = true
  · obtain ⟨⟨builders, rows, same⟩, _⟩ := quiet_after (l := l) quiet
    exact ⟨builders, rows, l.writer.statement, same⟩
  · cases call with
    | append p => simp [LifeCall.isQuiet] at quiet
    | flush => simp [LifeCall.isQuiet] at quiet
    | ensureRemote =>
      obtain ⟨statement, same⟩ := ensureRemote_writer l.writer l.link
      exact ⟨l.writer.builders, l.writer.rows, statement, same⟩
    | transmit record =>
      obtain ⟨statement, same⟩ := transmit_writer l.writer l.link record
      exact ⟨l.writer.builders, l.writer.rows, statement, same⟩

/-- No call of a writer closes it. -/
theorem closed_after (l : Ledger) (call : WriterCall) :
    (l.after call).writer.closed = l.writer.closed := by
  obtain ⟨_, _, _, same⟩ := l.writer_after call
  rw [same]

/-- The statements for a table stay the same as long as its writer is open. -/
theorem statements_afterAll (l : Ledger) (calls : List WriterCall) :
    (l.afterAll calls).writer.createSql = l.writer.createSql ∧
      (l.afterAll calls).writer.insertSql = l.writer.insertSql := by
  induction calls generalizing l with
  | nil => exact ⟨rfl, rfl⟩
  | cons call rest ih =>
    obtain ⟨builders, rows, statement, same⟩ := l.writer_after call
    obtain ⟨create, insert⟩ := ih (l.after call)
    exact ⟨create.trans (by rw [same]; rfl), insert.trans (by rw [same]; rfl)⟩

/-- No call but the end gives up a statement. -/
theorem since_after (since : Since past l.writer l.link.journal) (call : WriterCall) :
    Since past (l.after call).writer (l.after call).link.journal := by
  by_cases quiet : (LifeCall.use call).isQuiet = true
  · obtain ⟨⟨_, _, same⟩, link⟩ := quiet_after (l := l) quiet
    rw [same, link]
    exact ⟨since.more, since.statements⟩
  · cases call with
    | append p => simp [LifeCall.isQuiet] at quiet
    | flush => simp [LifeCall.isQuiet] at quiet
    | ensureRemote => exact since.ensureRemote
    | transmit record => exact since.transmit record

/-- Calls without an end give up no statement, by induction on the calls. -/
theorem since_afterAll (since : Since past l.writer l.link.journal) (calls : List WriterCall) :
    Since past (l.afterAll calls).writer (l.afterAll calls).link.journal := by
  induction calls generalizing l with
  | nil => exact since
  | cons call rest ih => exact ih (since_after since call)

/-- Closing a writer that is open closes the statement that it holds, and the journal then has
one close of each statement. -/
theorem count_closes_close (opened : l.writer.closed = false)
    (since : Since [] l.writer l.link.journal) :
    (l.lived .close).writer.closed = true ∧ (l.lived .close).writer.statement = none ∧
      ∀ statement, (l.lived .close).link.journal.countP (Event.closes statement) =
        if statement ∈ (l.lived .close).link.journal.statements then 1 else 0 := by
  obtain ⟨events, same, before⟩ := since.more
  have unclosed (statement : Statement) : l.link.journal.countP (Event.closes statement) = 0 := by
    rw [List.countP_eq_zero, same]
    intro event member
    simpa [Event.closes] using (before event member).1 statement
  cases held : l.writer.statement with
  | none =>
    have shut : l.lived .close =
        { l with
          writer := { l.writer with builders := [], rows := 0, statement := none, closed := true }
          buffered := [] } := by
      simp [lived, TableWriter.close, opened, held]
    have statements : l.link.journal.statements = [] := by
      rw [since.statements, held]
      rfl
    rw [shut]
    exact ⟨rfl, rfl, fun statement => by simp [unclosed, statements]⟩
  | some statement =>
    obtain ⟨answer, shut⟩ : ∃ answer, l.lived .close =
        { l with
          writer := { l.writer with builders := [], rows := 0, statement := none, closed := true }
          link := entered l.link ⟨.close statement, answer⟩
          buffered := [] } := by
      refine ⟨Link.isOk (l.link.service.close l.link.journal statement), ?_⟩
      simp [lived, TableWriter.close, opened, held, Link.close, Link.enter, entered]
    have statements : (entered l.link ⟨.close statement, answer⟩).journal.statements =
        [statement] := by
      have closing : ([⟨.close statement, answer⟩] : Journal).filterMap Event.prepared? = [] := rfl
      rw [entered, Journal.statements_append, closing, since.statements, held]
      rfl
    rw [shut]
    refine ⟨rfl, rfl, fun other => ?_⟩
    simp only [statements]
    simp only [entered, List.countP_append, unclosed]
    by_cases its : other = statement
    · simp [its, Event.closes]
    · simp [its, Event.closes, Ne.symm its]

/-- A closed writer stays closed. -/
theorem closed_lived (closed : l.writer.closed = true) (call : LifeCall) :
    (l.lived call).writer.closed = true := by
  cases call with
  | use call => exact (closed_after l call).trans closed
  | close => simp [lived, TableWriter.close, closed]

/-- After its end, a writer that is ended again asks nothing, so no call gives up a statement. -/
theorem since_lived (closed : l.writer.closed = true) (since : Since past l.writer l.link.journal)
    (call : LifeCall) : Since past (l.lived call).writer (l.lived call).link.journal := by
  cases call with
  | use call => exact since_after since call
  | close => simpa [lived, TableWriter.close, closed] using since

/-- After its end, calls give up no statement, by induction on the calls. -/
theorem since_livedAll (closed : l.writer.closed = true)
    (since : Since past l.writer l.link.journal) (calls : List LifeCall) :
    (l.livedAll calls).writer.closed = true ∧
      Since past (l.livedAll calls).writer (l.livedAll calls).link.journal := by
  induction calls generalizing l with
  | nil => exact ⟨closed, since⟩
  | cons call rest ih => exact ih (closed_lived closed call) (since_lived closed since call)

/-- A call that concerns the buffer only, or closes a closed writer, asks nothing and leaves the
statement as it is. -/
theorem quiet_lived (closed : l.writer.closed = true) {call : LifeCall}
    (quiet : call.isQuiet = true) :
    (l.lived call).writer.statement = l.writer.statement ∧ (l.lived call).link = l.link := by
  cases call with
  | use call =>
    obtain ⟨⟨_, _, same⟩, link⟩ := quiet_after (l := l) quiet
    refine ⟨?_, link⟩
    rw [lived, same]
  | close => simp [lived, TableWriter.close, closed]

/-- Any other call asks for something when there is no statement yet. -/
theorem length_lived (closed : l.writer.closed = true) (call : LifeCall) :
    l.link.journal.length ≤ (l.lived call).link.journal.length ∧
      (call.isQuiet = false → l.writer.statement = none →
        l.link.journal.length < (l.lived call).link.journal.length) := by
  cases quiet : call.isQuiet with
  | true => simp [(quiet_lived closed quiet).2]
  | false =>
    obtain ⟨le, lt⟩ := length_ensureRemote l.writer l.link
    cases call with
    | close => simp [LifeCall.isQuiet] at quiet
    | use call =>
      cases call with
      | append p => simp [LifeCall.isQuiet] at quiet
      | flush => simp [LifeCall.isQuiet] at quiet
      | ensureRemote => exact ⟨le, fun _ => lt⟩
      | transmit record =>
        have more := length_transmit l.writer l.link record
        exact ⟨le.trans more, fun _ none => (lt none).trans_le more⟩

/-- Calls after the end only add to the journal. -/
theorem length_livedAll (closed : l.writer.closed = true) (calls : List LifeCall) :
    l.link.journal.length ≤ (l.livedAll calls).link.journal.length := by
  induction calls generalizing l with
  | nil => exact Nat.le_refl _
  | cons call rest ih => exact (length_lived closed call).1.trans (ih (closed_lived closed call))

/-- A closed writer without a statement asks for nothing exactly when its remote side is not asked
for. -/
theorem length_livedAll_eq_iff (closed : l.writer.closed = true) (none : l.writer.statement = none)
    (calls : List LifeCall) :
    (l.livedAll calls).link.journal.length = l.link.journal.length ↔
      ∀ call ∈ calls, call.isQuiet = true := by
  induction calls generalizing l with
  | nil => simp [livedAll]
  | cons call rest ih =>
    have still := closed_lived closed call
    have first : l.livedAll (call :: rest) = (l.lived call).livedAll rest := rfl
    rw [List.forall_mem_cons, first]
    cases quiet : call.isQuiet with
    | true =>
      obtain ⟨statement, link⟩ := quiet_lived closed quiet
      have later := ih still (statement.trans none)
      rw [link] at later
      simpa [quiet] using later
    | false =>
      have here := (length_lived closed call).2 quiet none
      have later := length_livedAll still rest
      simp only [Bool.false_eq_true, false_and, iff_false]
      omega

/-- What the close of a writer comes to, whatever it was asked before and is asked afterwards, and
whatever the service answers:

* it stays closed;
* a statement has been closed once if it was prepared before the close, and never if not;
* after the close nothing is closed, at most one statement is prepared, which the writer holds from
  then on, and records are inserted through that one only;
* after the close nothing is asked of the service exactly when the writer was not asked to set up
  its remote side or to send a record, and every statement has been closed exactly when the writer
  holds none.

Proof: `Since` is kept by every call that is not an end, and after the end by every call at all:
nothing is closed, at most one statement is prepared, and inserts go through that one. Before the
close it tells which statement is closed, after it what is left behind. -/
theorem close_is_final_but_for_sending (table : String) (sample : Point) (layout : Layout)
    (service : Service) (before : List WriterCall) (later : List LifeCall) :
    let atClose := ((opened table sample layout service).afterAll before).lived .close
    let last := atClose.livedAll later
    (atClose.writer.closed = true ∧ last.writer.closed = true) ∧
    (∀ statement, last.link.journal.countP (Event.closes statement) =
      if statement ∈ atClose.link.journal.statements then 1 else 0) ∧
    ∃ events, last.link.journal = atClose.link.journal ++ events ∧
      (∀ event ∈ events, (∀ statement, event.call ≠ .close statement) ∧
        ∀ statement record, event.call = .insert statement record →
          last.writer.statement = some statement) ∧
      last.link.journal.statements =
        atClose.link.journal.statements ++ last.writer.statement.toList ∧
      (∀ statement, last.writer.statement = some statement →
        statement ∉ atClose.link.journal.statements) ∧
      (events = [] ↔ ∀ call ∈ later, call.isQuiet = true) ∧
      ((∀ statement ∈ last.link.journal.statements,
        last.link.journal.countP (Event.closes statement) = 1) ↔ last.writer.statement = none) := by
  intro atClose last
  have stillOpen : ((opened table sample layout service).afterAll before).writer.closed = false :=
    (balanced_afterAll (balanced_opened table sample layout service) before).opened
  have bare : Since [] (opened table sample layout service).writer
      (opened table sample layout service).link.journal := Since.refl rfl
  have early := since_afterAll bare before
  obtain ⟨closed, none, counts⟩ := count_closes_close stillOpen early
  obtain ⟨still, since⟩ := since_livedAll closed (Since.refl none) later
  obtain ⟨events, journal, after⟩ := since.more
  have counted (statement : Statement) :
      last.link.journal.countP (Event.closes statement) =
        if statement ∈ atClose.link.journal.statements then 1 else 0 := by
    have unclosed : List.countP (Event.closes statement) events = 0 := by
      rw [List.countP_eq_zero]
      intro event member
      simpa [Event.closes] using (after event member).1 statement
    rw [journal, List.countP_append, unclosed, counts, Nat.add_zero]
  have new (statement : Statement) (held : last.writer.statement = some statement) :
      statement ∉ atClose.link.journal.statements := by
    intro old
    have distinct := last.link.journal.statements_nodup
    rw [since.statements, List.nodup_append] at distinct
    exact distinct.2.2 statement old statement (Option.mem_toList.mpr held) rfl
  refine ⟨⟨closed, still⟩, counted, events, journal, after, since.statements, new, ?_, ?_⟩
  · rw [← length_livedAll_eq_iff closed none later, journal, List.length_append,
      ← List.length_eq_zero_iff]
    omega
  · rw [since.statements]
    cases held : last.writer.statement with
    | none =>
      refine iff_of_true (fun statement member => ?_) rfl
      have old : statement ∈ atClose.link.journal.statements := by simpa using member
      rw [counted, if_pos old]
    | some statement =>
      have unclosed := counted statement
      rw [if_neg (new statement held)] at unclosed
      simp [unclosed]

/-- A writer that was set up and then closed. -/
def closedOnce : Ledger :=
  (opened "cpu" ⟨"cpu", "1", [], [⟨"user", .int64, some "7"⟩]⟩ {} Script.empty.service).livedAll
    [.use .ensureRemote, .close]

/-- The same writer, set up once more and closed again. -/
def closedTwice : Ledger :=
  closedOnce.livedAll [.use .ensureRemote, .close]

/-- A closed writer asks the service for two things more, and the second of its statements is
never closed. -/
theorem closedTwice_leaves_a_statement :
    closedOnce.writer.closed = true ∧ closedTwice.writer.closed = true ∧
      closedOnce.link.journal.length = 3 ∧ closedTwice.link.journal.length = 5 ∧
      (closedTwice.link.journal.statements.map fun statement =>
        closedTwice.link.journal.countP (Event.closes statement)) = [1, 0] := by
  decide +kernel

end Ledger

end SeriesBench
