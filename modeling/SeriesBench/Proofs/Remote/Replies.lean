import SeriesBench.Proofs.Remote.Setup

/-!
# What the service says

A journal tells which calls were made and which of them succeeded, but not with what fault the
others failed. That can be told as well, because a service answers a call by the calls before it:
asked again in the state that a link was in, it says the same again. So the calls that were made
between two states of a link have their answers, and `Link.heard` lists both.

Setting up the remote side of a table and sending a record are described in these terms, with
nothing left open: which calls are made, in which order, what became of each, and what the writer
makes of it. A definition of something that is there already has achieved what it was made for,
although the service calls it a fault.
-/

namespace SeriesBench

/-- A text occurs in another if it is a run of consecutive characters of it. -/
theorem Text.occursInList_iff {part whole : List Char} :
    Text.occursInList part whole = true ↔ part <:+: whole := by
  induction whole with
  | nil => simp [Text.occursInList]
  | cons c rest ih =>
    rw [Text.occursInList, Bool.or_eq_true, ih, List.isPrefixOf_iff_prefix, List.infix_cons_iff]

/-- The service did not execute a statement or broke off a result, and the cause that it gave says
that something already exists. -/
def Fault.Existing (fault : Fault) : Prop :=
  ∃ cause, ((∃ stage, fault = .statement stage cause) ∨ fault = .stream cause) ∧
    "already exists".toList <:+: cause.toList

/-- A fault speaks of something existing exactly if the service says so in its cause. -/
theorem Fault.isAlreadyExists_iff {fault : Fault} :
    fault.isAlreadyExists = true ↔ fault.Existing := by
  cases fault <;> simp [Fault.isAlreadyExists, Fault.Existing, Text.occursIn, Text.occursInList_iff]

/-- A call with what the service said to it: a fault, or a success with the statement that it gave
if the call was to prepare one. -/
structure Response where
  call : Call
  answer : Except Fault (Option Statement)
deriving Repr, DecidableEq

/-- The call came to what it was made for: it succeeded, or what it was to define is there. -/
inductive Response.Achieved : Response → Prop where
  | succeeded (call : Call) (given : Option Statement) : Achieved ⟨call, .ok given⟩
  | existing (sql : String) {fault : Fault} (existing : fault.Existing) :
      Achieved ⟨.execute sql, .error fault⟩

namespace Link

/-- What the service says to a call when a link is in this state. -/
def answer (link : Link) : Call → Except Fault (Option Statement)
  | .execute sql => (link.execute sql).1.map fun _ => none
  | .prepare sql => (link.prepare sql).1.map some
  | .insert statement record => (link.insert statement record).1.map fun _ => none
  | .close statement => (link.close statement).1.map fun _ => none

/-- The link after a call. -/
def ask (link : Link) (call : Call) : Link :=
  link.enter call (link.answer call)

/-- The link after some calls, one after the other. -/
def askAll (link : Link) (calls : List Call) : Link :=
  calls.foldl ask link

/-- The calls with what the service says to each. -/
def replies (link : Link) : List Call → List Response
  | [] => []
  | call :: rest => ⟨call, link.answer call⟩ :: (link.ask call).replies rest

/-- What was said since the link was in this state: the calls that were made, with their answers. -/
def heard (link after : Link) : List Response :=
  link.replies ((after.journal.drop link.journal.length).map Event.call)

variable {link between after : Link}

/-- Whether an answer is a success does not depend on what is made of it. -/
theorem isOk_map (answer : Except Fault α) (f : α → β) : isOk (answer.map f) = isOk answer := by
  cases answer <;> rfl

/-- To ask for an execution is to execute. -/
@[simp] theorem ask_execute (link : Link) (sql : String) :
    link.ask (.execute sql) = (link.execute sql).2 := by
  simp [ask, answer, enter, isOk_map, execute]

/-- To ask for a preparation is to prepare. -/
@[simp] theorem ask_prepare (link : Link) (sql : String) :
    link.ask (.prepare sql) = (link.prepare sql).2 := by
  simp [ask, answer, enter, isOk_map, prepare]

/-- To ask for an insert is to insert. -/
@[simp] theorem ask_insert (link : Link) (statement : Statement) (record : Record) :
    link.ask (.insert statement record) = (link.insert statement record).2 := by
  simp [ask, answer, enter, isOk_map, insert]

/-- To ask for a close is to close. -/
@[simp] theorem ask_close (link : Link) (statement : Statement) :
    link.ask (.close statement) = (link.close statement).2 := by
  simp [ask, answer, enter, isOk_map, close]

/-- Calls that are made in two parts are made one after the other. -/
theorem askAll_append (link : Link) (calls more : List Call) :
    link.askAll (calls ++ more) = (link.askAll calls).askAll more :=
  List.foldl_append

/-- Calls that are made in two parts have the answers of both, the second part in the state that the
first leaves. -/
theorem replies_append (link : Link) (calls more : List Call) :
    link.replies (calls ++ more) = link.replies calls ++ (link.askAll calls).replies more := by
  induction calls generalizing link with
  | nil => rfl
  | cons call rest ih => simp [replies, askAll, ih (link.ask call)]

/-- Calls are entered in the journal as they are made. -/
theorem journal_askAll (link : Link) (calls : List Call) :
    ∃ events : Journal, (link.askAll calls).journal = link.journal ++ events ∧
      events.map Event.call = calls := by
  induction calls generalizing link with
  | nil => exact ⟨[], by simp [askAll], rfl⟩
  | cons call rest ih =>
    obtain ⟨events, journal, same⟩ := ih (link.ask call)
    refine ⟨⟨call, isOk (link.answer call)⟩ :: events, ?_, by simp [same]⟩
    have first : (link.ask call).journal =
        link.journal ++ ([⟨call, isOk (link.answer call)⟩] : Journal) := rfl
    rw [askAll, List.foldl_cons, ← askAll, journal, first]
    simp

/-- These calls are made, one after the other, and these are the answers. -/
structure Hears (link : Link) (replies : List Response) (after : Link) : Prop where
  calls : link.askAll (replies.map Response.call) = after
  answers : link.replies (replies.map Response.call) = replies

namespace Hears

variable {first second : List Response}

/-- Nothing is heard while nothing is asked. -/
theorem refl (link : Link) : link.Hears [] link :=
  ⟨rfl, rfl⟩

/-- One call is heard with its answer. -/
theorem ask (link : Link) (call : Call) : link.Hears [⟨call, link.answer call⟩] (link.ask call) :=
  ⟨rfl, rfl⟩

/-- What was heard up to a state and what was heard from it on is heard in turn. -/
theorem trans (one : link.Hears first between) (two : between.Hears second after) :
    link.Hears (first ++ second) after where
  calls := by rw [List.map_append, askAll_append, one.calls, two.calls]
  answers := by rw [List.map_append, replies_append, one.calls, one.answers, two.answers]

/-- What is heard can be told from the link before and after. -/
theorem heard_eq (hears : link.Hears first after) : link.heard after = first := by
  obtain ⟨events, journal, calls⟩ := link.journal_askAll (first.map Response.call)
  rw [hears.calls] at journal
  rw [heard, journal, List.drop_left, calls, hears.answers]

end Hears

/-- A definition comes to what it was made for, or the fault is another than that the thing is
there. -/
theorem define_cases (link : Link) (sql : String) :
    (Response.Achieved ⟨.execute sql, link.answer (.execute sql)⟩ ∧
        link.define sql = (.ok (), link.ask (.execute sql))) ∨
      ∃ fault, link.answer (.execute sql) = .error fault ∧ ¬ fault.Existing ∧
        link.define sql = (.error fault, link.ask (.execute sql)) := by
  rw [ask_execute]
  rcases executed : link.execute sql with ⟨fault | records, next⟩
  · have answered : link.answer (.execute sql) = .error fault := by
      simp [answer, executed, Except.map]
    by_cases existing : fault.isAlreadyExists = true
    · refine Or.inl ⟨?_, by simp [define, executed, definitionAnswer, existing]⟩
      rw [answered]
      exact .existing sql (Fault.isAlreadyExists_iff.mp existing)
    · refine Or.inr ⟨fault, answered, ?_, by simp [define, executed, definitionAnswer, existing]⟩
      rwa [← Fault.isAlreadyExists_iff]
  · refine Or.inl ⟨?_, by simp [define, executed, definitionAnswer]⟩
    have answered : link.answer (.execute sql) = .ok none := by
      simp [answer, executed, Except.map]
    rw [answered]
    exact .succeeded _ none

/-- The statement that a service gives is for the text that it was asked to prepare. -/
theorem sql_of_prepare {sql : String} {statement : Statement}
    (prepared : link.prepare sql = (.ok statement, after)) : statement.sql = sql := by
  simp only [prepare, Prod.mk.injEq] at prepared
  cases said : link.service.prepare link.journal sql with
  | error fault => simp [said, Except.map] at prepared
  | ok done =>
    have same := prepared.1
    simp only [said, Except.map, Except.ok.injEq] at same
    rw [← same]

end Link

namespace TableWriter

/-- What is said when a table cannot be set up: it cannot be defined, or it is defined and its
statement cannot be prepared. -/
inductive SetUpFails (create insert : String) : List Response → Fault → Prop where
  | undefined {fault : Fault} (refused : ¬ fault.Existing) :
      SetUpFails create insert [⟨.execute create, .error fault⟩] fault
  | unprepared {defined : Except Fault (Option Statement)} {fault : Fault}
      (achieved : Response.Achieved ⟨.execute create, defined⟩) :
      SetUpFails create insert [⟨.execute create, defined⟩, ⟨.prepare insert, .error fault⟩] fault

/-- What is said when a table is set up: it is defined, and a statement is prepared. -/
inductive SetUpWorks (create insert : String) : List Response → Statement → Prop where
  | prepared {defined : Except Fault (Option Statement)} {statement : Statement}
      (achieved : Response.Achieved ⟨.execute create, defined⟩) (named : statement.sql = insert) :
      SetUpWorks create insert
        [⟨.execute create, defined⟩, ⟨.prepare insert, .ok (some statement)⟩] statement

/-- What is said when a writer sets up its remote side, with the answer of the writer and the
statement that it holds then. A writer that holds one asks for nothing. -/
inductive SetsUp (w : TableWriter) :
    List Response → Except Fault Unit → Option Statement → Prop where
  | held {statement : Statement} (held : w.statement = some statement) :
      SetsUp w [] (.ok ()) (some statement)
  | failed (unset : w.statement = none) {replies : List Response} {fault : Fault}
      (fails : SetUpFails w.createSql w.insertSql replies fault) :
      SetsUp w replies (.error fault) none
  | prepared (unset : w.statement = none) {replies : List Response} {statement : Statement}
      (works : SetUpWorks w.createSql w.insertSql replies statement) :
      SetsUp w replies (.ok ()) (some statement)

/-- Setting up the remote side of a table says what `SetsUp` describes, with the answer and the
statement of the writer afterwards. -/
theorem setsUp_ensureRemote (w : TableWriter) (link : Link) :
    ∃ replies, link.Hears replies (w.ensureRemote link).2.2 ∧
      SetsUp w replies (w.ensureRemote link).1 (w.ensureRemote link).2.1.statement := by
  cases held : w.statement with
  | some statement =>
    have same : w.ensureRemote link = (.ok (), w, link) := by simp [ensureRemote, held]
    rw [same]
    exact ⟨[], .refl link, held ▸ .held held⟩
  | none =>
    have asked := Link.Hears.ask link (.execute w.createSql)
    obtain ⟨achieved, defines⟩ | ⟨fault, answered, refused, defines⟩ :=
      link.define_cases w.createSql
    · have prepares := Link.Hears.ask (link.ask (.execute w.createSql)) (.prepare w.insertSql)
      rw [Link.ask_prepare] at prepares
      have both := asked.trans prepares
      rcases prepared : (link.ask (.execute w.createSql)).prepare w.insertSql with
        ⟨fault | statement, ready⟩
      · have failed : w.ensureRemote link = (.error fault, w, ready) := by
          simp only [ensureRemote, held, defines, prepared]
        have answered : (link.ask (.execute w.createSql)).answer (.prepare w.insertSql) =
            .error fault := by simp only [Link.answer, prepared, Except.map]
        rw [answered, prepared] at both
        rw [failed]
        exact ⟨_, both, held ▸ .failed held (.unprepared achieved)⟩
      · have done : w.ensureRemote link =
            (.ok (), { w with statement := some statement }, ready) := by
          simp only [ensureRemote, held, defines, prepared]
        have answered : (link.ask (.execute w.createSql)).answer (.prepare w.insertSql) =
            .ok (some statement) := by simp only [Link.answer, prepared, Except.map]
        rw [answered, prepared] at both
        have named := Link.sql_of_prepare prepared
        rw [done]
        exact ⟨_, both, .prepared held (.prepared achieved named)⟩
    · have failed : w.ensureRemote link = (.error fault, w, link.ask (.execute w.createSql)) := by
        simp only [ensureRemote, held, defines]
      rw [answered] at asked
      rw [failed]
      exact ⟨_, asked, held ▸ .failed held (.undefined refused)⟩

/-- What is said when a writer sends a record, with the answer and the statement that it holds then:
the remote side is set up if need be, and once that is done there is one insert. -/
inductive Sends (w : TableWriter) (record : Record) :
    List Response → Except Fault Unit → Option Statement → Prop where
  | refused {replies : List Response} {fault : Fault} {held : Option Statement}
      (setsUp : SetsUp w replies (.error fault) held) : Sends w record replies (.error fault) held
  | inserted {replies : List Response} {statement : Statement}
      (setsUp : SetsUp w replies (.ok ()) (some statement))
      (answer : Except Fault (Option Statement)) :
      Sends w record (replies ++ [⟨.insert statement record, answer⟩]) (answer.map fun _ => ())
        (some statement)

/-- Sending a record says what `Sends` describes: what setting up says, and then at most one insert.
-/
theorem sends_transmit (w : TableWriter) (link : Link) (record : Record) :
    ∃ replies, link.Hears replies (w.transmit link record).2.2 ∧
      Sends w record replies ((w.transmit link record).1.map fun _ => ())
        (w.transmit link record).2.1.statement := by
  obtain ⟨replies, hears, setsUp⟩ := setsUp_ensureRemote w link
  rcases ensured : w.ensureRemote link with ⟨fault | done, other, ready⟩ <;>
    simp only [ensured] at hears setsUp
  · rw [transmit_of_refused ensured]
    exact ⟨replies, hears, .refused setsUp⟩
  · obtain ⟨statement, holds, sent⟩ := transmit_of_ready ensured record
    have inserts := Link.Hears.ask ready (.insert statement record)
    rw [Link.ask_insert] at inserts
    rw [holds] at setsUp
    rw [sent]
    refine ⟨_, hears.trans inserts, ?_⟩
    have same : (ready.insert statement record).1.map (fun _ => ()) =
        (ready.answer (.insert statement record)).map fun _ => () := by
      simp only [Link.answer]
      cases (ready.insert statement record).1 <;> rfl
    simp only [same, holds]
    exact .inserted setsUp _

end TableWriter

end SeriesBench
