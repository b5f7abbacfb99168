import SeriesBench.Proofs.Remote.Replies
import SeriesBench.Proofs.Table.Custody

/-!
# The protocol of one table

A writer talks to the service in a fixed order, however it is used. Until a set-up works there are
only set-ups that fail; then there are only inserts through the statement that was prepared; at the
end that statement is closed, once. A conversation runs calls of a writer and keeps everything that
was said. Each call finds the link in a state of its own, since the link is not the writer's alone
and others may have used it, and nothing is assumed about what the service answers.
-/

namespace SeriesBench

/-- The service failed a call with this fault, and what the call was made for is not there. -/
def Response.Failed (reply : Response) (fault : Fault) : Prop :=
  reply.answer = .error fault ∧ ¬ reply.Achieved

/-- A reply that achieved what it was made for did not fail. -/
theorem Response.Achieved.not_failed {reply : Response} (achieved : reply.Achieved)
    (fault : Fault) : ¬ reply.Failed fault :=
  fun failed => failed.2 achieved

/-- A call that defines nothing fails with every fault. -/
theorem Response.failed_iff {call : Call} (other : ∀ sql, call ≠ .execute sql)
    {answer : Except Fault (Option Statement)} {fault : Fault} :
    Response.Failed ⟨call, answer⟩ fault ↔ answer = .error fault := by
  refine ⟨And.left, fun failed => ⟨failed, ?_⟩⟩
  rintro (_ | _)
  · cases failed
  · exact other _ rfl

namespace TableWriter

variable {w : TableWriter} {replies : List Response} {create insert : String} {fault : Fault}

/-- A set-up that fails has a last call, which failed with the same fault, and no other did. -/
theorem SetUpFails.failed_iff (fails : SetUpFails create insert replies fault) (other : Fault) :
    (∃ reply ∈ replies, reply.Failed other) ↔ fault = other := by
  cases fails with
  | undefined refused =>
    have failed : Response.Failed ⟨.execute create, .error fault⟩ other ↔ fault = other := by
      refine ⟨fun failed => Except.error.inj failed.1, ?_⟩
      rintro rfl
      refine ⟨rfl, ?_⟩
      rintro (_ | ⟨_, existing⟩)
      exact refused existing
    simp [failed]
  | unprepared achieved =>
    simp [achieved.not_failed, Response.failed_iff]

/-- Where setting up works no reply has failed. -/
theorem SetUpWorks.not_failed {statement : Statement}
    (works : SetUpWorks create insert replies statement) (other : Fault) :
    ¬ ∃ reply ∈ replies, reply.Failed other := by
  cases works with
  | prepared achieved named => simp [achieved.not_failed, Response.failed_iff]

/-- Setting up the remote side fails exactly when one of its calls did. -/
theorem SetsUp.error_iff {answer : Except Fault Unit} {held : Option Statement}
    (setsUp : w.SetsUp replies answer held) (fault : Fault) :
    answer = .error fault ↔ ∃ reply ∈ replies, reply.Failed fault := by
  cases setsUp with
  | held _ => simp
  | failed unset fails => rw [fails.failed_iff, Except.error.injEq]
  | prepared unset works => simpa using works.not_failed fault

/-- Sending a record fails exactly when one of its calls did. -/
theorem Sends.error_iff {record : Record} {answer : Except Fault Unit} {held : Option Statement}
    (sends : w.Sends record replies answer held) (fault : Fault) :
    answer = .error fault ↔ ∃ reply ∈ replies, reply.Failed fault := by
  cases sends with
  | refused setsUp => exact setsUp.error_iff fault
  | inserted setsUp answer =>
    have none := (setsUp.error_iff fault).not.mp (by simp)
    simp only [List.mem_append, List.mem_singleton, or_and_right, exists_or, none, false_or,
      exists_eq_left]
    rw [Response.failed_iff (by simp)]
    cases answer <;> simp [Except.map]

/-- A set-up that fails leaves the writer as it was. -/
theorem unchanged_of_refused {link : Link} (refused : (w.ensureRemote link).1 = .error fault) :
    (w.ensureRemote link).2.1 = w := by
  have ensured := ensured_ensureRemote w link
  rw [refused] at ensured
  generalize (w.ensureRemote link).2.1 = other, (w.ensureRemote link).2.2 = later at ensured ⊢
  cases ensured <;> rfl

/-- Set-ups that failed, one after the other. -/
inductive Tries (create insert : String) : List Response → Prop where
  | none : Tries create insert []
  | again {said more : List Response} {fault : Fault} (before : Tries create insert said)
      (fails : SetUpFails create insert more fault) : Tries create insert (said ++ more)

/-- What is said between an open writer and the service, with the statement that the writer holds:
set-ups that failed, and then perhaps one that worked with inserts through its statement. -/
inductive Protocol (create insert : String) : List Response → Option Statement → Prop where
  | trying {said : List Response} (tries : Tries create insert said) :
      Protocol create insert said none
  | inserting {tried setUp sent : List Response} {statement : Statement}
      (tries : Tries create insert tried) (works : SetUpWorks create insert setUp statement)
      (inserts : ∀ reply ∈ sent, ∃ record, reply.call = .insert statement record) :
      Protocol create insert (tried ++ setUp ++ sent) (some statement)

namespace Protocol

variable {said : List Response}

/-- A set-up is in order at any time. -/
theorem setsUp {answer : Except Fault Unit} {held : Option Statement}
    (protocol : Protocol w.createSql w.insertSql said w.statement)
    (setsUp : w.SetsUp replies answer held) :
    Protocol w.createSql w.insertSql (said ++ replies) held := by
  cases setsUp with
  | held held => rwa [held, ← said.append_nil] at protocol
  | failed unset fails =>
    rw [unset] at protocol
    obtain ⟨tries⟩ := protocol
    exact .trying (tries.again fails)
  | @prepared unset _ statement works =>
    rw [unset] at protocol
    obtain ⟨tries⟩ := protocol
    have none : ∀ reply ∈ ([] : List Response), ∃ record,
        reply.call = .insert statement record := by simp
    simpa using Protocol.inserting tries works none

/-- One more insert through the statement that the writer holds is in order. -/
theorem more {statement : Statement} (protocol : Protocol create insert said (some statement))
    (record : Record) (answer : Except Fault (Option Statement)) :
    Protocol create insert (said ++ [⟨.insert statement record, answer⟩]) (some statement) := by
  cases protocol with
  | inserting tries works inserts =>
    rw [List.append_assoc]
    refine .inserting tries works fun reply member => ?_
    rcases List.mem_append.mp member with old | new
    · exact inserts reply old
    · obtain rfl := List.mem_singleton.mp new
      exact ⟨record, rfl⟩

/-- Sending a record is in order at any time. -/
theorem sends {record : Record} {answer : Except Fault Unit} {held : Option Statement}
    (protocol : Protocol w.createSql w.insertSql said w.statement)
    (sends : w.Sends record replies answer held) :
    Protocol w.createSql w.insertSql (said ++ replies) held := by
  cases sends with
  | refused setsUp => exact protocol.setsUp setsUp
  | inserted setsUp answer =>
    rw [← List.append_assoc]
    exact (protocol.setsUp setsUp).more record answer

end Protocol

end TableWriter

/-- A writer, and everything that was said between it and the service. -/
structure Conversation where
  writer : TableWriter
  said : List Response

namespace Conversation

open TableWriter

/-- The conversation of a writer that was just created. -/
def begun (table : String) (sample : Point) (layout : Layout) : Conversation :=
  ⟨.create table sample layout, []⟩

/-- The conversation after a call of the writer over a link in some state. -/
def after (c : Conversation) (link : Link) (call : LifeCall) : Conversation where
  writer := (c.writer.served link call).1
  said := c.said ++ link.heard (c.writer.served link call).2

/-- The conversation after some calls in turn, each over a link of its own. -/
def afterAll (c : Conversation) (steps : List (Link × LifeCall)) : Conversation :=
  steps.foldl (fun c (link, call) => c.after link call) c

/-- The conversation after calls of the open writer. -/
def used (c : Conversation) (uses : List (Link × WriterCall)) : Conversation :=
  c.afterAll (uses.map fun (link, call) => (link, .use call))

/-- The conversation after the writer is closed some times. -/
def closed (c : Conversation) (links : List Link) : Conversation :=
  c.afterAll (links.map fun link => (link, .close))

variable {c : Conversation}

/-- What is said while a writer is used is in order. -/
theorem protocol_use {said : List Response} (w : TableWriter) (link : Link) (call : WriterCall)
    (protocol : Protocol w.createSql w.insertSql said w.statement) :
    Protocol w.createSql w.insertSql (said ++ link.heard (w.served link (.use call)).2)
      (w.served link (.use call)).1.statement := by
  by_cases quiet : (LifeCall.use call).isQuiet = true
  · obtain ⟨⟨_, _, same⟩, unasked⟩ := Ledger.quiet_after (l := ⟨w, link, [], [], []⟩) quiet
    have silent : link.heard link = [] := (Link.Hears.refl link).heard_eq
    simpa [served, Ledger.lived, same, unasked, silent] using protocol
  · cases call with
    | append p => simp [LifeCall.isQuiet] at quiet
    | flush => simp [LifeCall.isQuiet] at quiet
    | ensureRemote =>
      obtain ⟨replies, hears, setsUp⟩ := setsUp_ensureRemote w link
      simp only [served, Ledger.lived, Ledger.after, hears.heard_eq]
      exact protocol.setsUp setsUp
    | transmit record =>
      obtain ⟨replies, hears, sends⟩ := sends_transmit w link record
      simp only [served, Ledger.lived, Ledger.after, hears.heard_eq]
      exact protocol.sends sends

/-- Uses of a writer keep the statements that it asks for and the order of its calls. -/
theorem protocol_used (protocol : Protocol c.writer.createSql c.writer.insertSql c.said
      c.writer.statement) (uses : List (Link × WriterCall)) :
    (c.used uses).writer.createSql = c.writer.createSql ∧
      (c.used uses).writer.insertSql = c.writer.insertSql ∧
      (c.used uses).writer.closed = c.writer.closed ∧
      Protocol c.writer.createSql c.writer.insertSql (c.used uses).said
        (c.used uses).writer.statement := by
  induction uses generalizing c with
  | nil => exact ⟨rfl, rfl, rfl, protocol⟩
  | cons use rest ih =>
    obtain ⟨link, call⟩ := use
    obtain ⟨builders, rows, statement, same⟩ := (Ledger.mk c.writer link [] [] []).writer_after call
    have next := protocol_use c.writer link call protocol
    have writer : (c.after link (.use call)).writer =
        { c.writer with builders, rows, statement } := same
    have create : (c.after link (.use call)).writer.createSql = c.writer.createSql := by
      rw [writer]
      rfl
    have insert : (c.after link (.use call)).writer.insertSql = c.writer.insertSql := by
      rw [writer]
      rfl
    have closed : (c.after link (.use call)).writer.closed = c.writer.closed := by
      rw [writer]
    have later := ih (c := c.after link (.use call)) (by rw [create, insert]; exact next)
    rwa [create, insert, closed] at later

/-- Closing a closed writer says nothing. -/
theorem said_closed (ended : c.writer.closed = true) (links : List Link) :
    (c.closed links).said = c.said := by
  induction links generalizing c with
  | nil => rfl
  | cons link rest ih =>
    have same : c.after link .close = c := by
      have nothing : c.writer.served link .close = (c.writer, link) := by
        simp [served, Ledger.lived, TableWriter.close, ended]
      simp [after, nothing, (Link.Hears.refl link).heard_eq]
    have next : (c.closed (link :: rest)) = (c.after link .close).closed rest := rfl
    rw [next, same, ih ended]

/-- What is said when a writer is closed the first time: its statement is closed if it has one. -/
theorem said_close (opened : c.writer.closed = false) (link : Link) :
    (c.after link .close).said =
      c.said ++ c.writer.statement.toList.map fun statement =>
        ⟨.close statement, link.answer (.close statement)⟩ := by
  cases held : c.writer.statement with
  | none =>
    have quiet : (c.writer.served link .close).2 = link := by
      simp [served, Ledger.lived, TableWriter.close, opened, held]
    simp [after, quiet, (Link.Hears.refl link).heard_eq]
  | some statement =>
    have asked : (c.writer.served link .close).2 = link.ask (.close statement) := by
      simp [served, Ledger.lived, TableWriter.close, opened, held]
    simp only [after, asked, (Link.Hears.ask link (.close statement)).heard_eq]
    rfl

/-- Whatever is said after a writer was used is the close of the statement that it held. -/
theorem said_closes (opened : c.writer.closed = false) (links : List Link) :
    (c.closed links).said =
      c.said ++ match links, c.writer.statement with
        | link :: _, some statement => [⟨.close statement, link.answer (.close statement)⟩]
        | _, _ => [] := by
  cases links with
  | nil => simp [closed, afterAll]
  | cons link rest =>
    have ended : (c.after link .close).writer.closed = true := by
      simp [after, served, Ledger.lived, close_writer]
    have next : (c.closed (link :: rest)) = (c.after link .close).closed rest := rfl
    rw [next, said_closed ended, said_close opened]
    cases c.writer.statement <;> rfl

/-- One table has one protocol. When a writer was created, used over whatever links and then closed
any number of times:

* until it is closed there are set-ups that fail, each a definition that fails or one that does not
  followed by a preparation that fails, and then perhaps a set-up that works followed by inserts
  through its statement; definitions and preparations carry the statements of this writer, and a
  definition of something that is there already has not failed;
* closing it says nothing but the close of the statement that it holds, the first time;
* asking for the remote side and sending a record fail with a fault exactly when a call that they
  made failed with it;
* a set-up that fails leaves the writer as it was, its schema and its buffer among the rest.

Proof: every use keeps what was said in the form of `Protocol`, which has one case for each thing
that a writer may say next. What a single call says and answers is told by `SetsUp` and `Sends`, and
read off their cases. -/
theorem table_has_one_protocol (table : String) (sample : Point) (layout : Layout)
    (uses : List (Link × WriterCall)) (closes : List Link) :
    let created := TableWriter.create table sample layout
    let c := (begun table sample layout).used uses
    (c.writer.createSql = created.createSql ∧ c.writer.insertSql = created.insertSql) ∧
    Protocol created.createSql created.insertSql c.said c.writer.statement ∧
    (c.closed closes).said =
      c.said ++ (match closes, c.writer.statement with
        | link :: _, some statement => [⟨.close statement, link.answer (.close statement)⟩]
        | _, _ => []) ∧
    ∀ link fault,
      ((c.writer.ensureRemote link).1 = .error fault ↔
        ∃ reply ∈ link.heard (c.writer.ensureRemote link).2.2, reply.Failed fault) ∧
      (∀ record, (c.writer.transmit link record).1 = .error fault ↔
        ∃ reply ∈ link.heard (c.writer.transmit link record).2.2, reply.Failed fault) ∧
      ((c.writer.ensureRemote link).1 = .error fault →
        (c.writer.ensureRemote link).2.1 = c.writer ∧
        ∀ record, (c.writer.transmit link record).2.1 = c.writer) := by
  intro created c
  have fresh : Protocol created.createSql created.insertSql [] created.statement := .trying .none
  obtain ⟨create, insert, opened, protocol⟩ :=
    protocol_used (c := begun table sample layout) fresh uses
  refine ⟨⟨create, insert⟩, protocol, said_closes opened closes, fun link fault => ⟨?_, ?_, ?_⟩⟩
  · obtain ⟨replies, hears, setsUp⟩ := setsUp_ensureRemote c.writer link
    rw [hears.heard_eq, setsUp.error_iff]
  · intro record
    obtain ⟨replies, hears, sends⟩ := sends_transmit c.writer link record
    rw [hears.heard_eq, ← sends.error_iff]
    cases (c.writer.transmit link record).1 <;> simp [Except.map]
  · intro failed
    have unchanged := unchanged_of_refused failed
    refine ⟨unchanged, fun record => ?_⟩
    rw [transmit_of_refused (Prod.ext failed rfl), unchanged]

end Conversation

end SeriesBench
