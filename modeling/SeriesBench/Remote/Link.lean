import SeriesBench.Column.Record

/-!
# The remote service

Tables and queries live in a service behind four calls: execute a statement, prepare
one, run a prepared one on a record, close a prepared one. What the service answers may
depend on everything that was asked of it before, so a service is a function of the
journal of calls; a link is a service together with the journal so far. Every call is
entered in the journal, whether it succeeds or not.
-/

namespace SeriesBench

/-- A statement that the service has prepared; its number tells it from all others. -/
structure Statement where
  id : Nat
  sql : String
deriving Repr, DecidableEq

/-- A call of the service. -/
inductive Call where
  | execute (sql : String)
  | prepare (sql : String)
  | insert (statement : Statement) (record : Record)
  | close (statement : Statement)
deriving Repr, DecidableEq

/-- A call that was made, and whether it succeeded. -/
structure Event where
  call : Call
  succeeded : Bool
deriving Repr, DecidableEq

/-- The calls that were made, in order. -/
abbrev Journal := List Event

/-- Whether an event is a successful preparation. -/
def Event.prepares : Event → Bool
  | ⟨.prepare _, succeeded⟩ => succeeded
  | _ => false

/-- How many statements have been prepared. -/
def Journal.prepared (journal : Journal) : Nat :=
  journal.countP Event.prepares

/-- How a service answers each call, given the calls before it. -/
structure Service where
  execute : Journal → String → Except Fault (List Record)
  prepare : Journal → String → Except Fault Unit
  insert : Journal → Statement → Record → Except Fault Nat
  close : Journal → Statement → Except Fault Unit

/-- A service in use. -/
structure Link where
  service : Service
  journal : Journal

namespace Link

/-- A link over which nothing has been asked. -/
def fresh (service : Service) : Link :=
  ⟨service, []⟩

/-- Whether an answer is a success. -/
def isOk : Except Fault α → Bool
  | .ok _ => true
  | .error _ => false

/-- The link after a call and its answer. -/
def enter (link : Link) (call : Call) (answer : Except Fault α) : Link :=
  { link with journal := link.journal ++ [⟨call, isOk answer⟩] }

/-- Executes a statement; a result comes in records. -/
def execute (link : Link) (sql : String) : Except Fault (List Record) × Link :=
  let answer := link.service.execute link.journal sql
  (answer, link.enter (.execute sql) answer)

/-- Prepares a statement. Statements are numbered in the order they are prepared. -/
def prepare (link : Link) (sql : String) : Except Fault Statement × Link :=
  let answer := link.service.prepare link.journal sql
  (answer.map fun _ => ⟨link.journal.prepared, sql⟩, link.enter (.prepare sql) answer)

/-- Runs a prepared statement on a record; the answer is how many rows were affected. -/
def insert (link : Link) (statement : Statement) (record : Record) : Except Fault Nat × Link :=
  let answer := link.service.insert link.journal statement record
  (answer, link.enter (.insert statement record) answer)

/-- Closes a prepared statement. -/
def close (link : Link) (statement : Statement) : Except Fault Unit × Link :=
  let answer := link.service.close link.journal statement
  (answer, link.enter (.close statement) answer)

/-- The answer to a definition, where something that is there already is as good as
created. -/
def definitionAnswer : Except Fault (List Record) → Except Fault Unit
  | .ok _ => .ok ()
  | .error fault => if fault.isAlreadyExists then .ok () else .error fault

/-- Executes a definition. -/
def define (link : Link) (sql : String) : Except Fault Unit × Link :=
  let (answer, link) := link.execute sql
  (definitionAnswer answer, link)

/-- Creates a database. -/
def createDatabase (link : Link) (name : String) : Except Fault Unit × Link :=
  link.define ("CREATE DATABASE " ++ name)

end Link

end SeriesBench
