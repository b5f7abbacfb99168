import SeriesBench.Cli.Options
import SeriesBench.Cli.Surroundings
import SeriesBench.Query.Notation
import SeriesBench.Query.Runner

/-!
# The command that runs queries

It reads queries from a file, deals them to its workers and prints how long they took.
-/

namespace SeriesBench.Cli

/-- The command to run queries. -/
structure RunCommand where
  address : String
  database : String
  file : String
  workers : Nat
  /-- The most queries that are run; zero stands for all. -/
  limit : Nat
  printing : Bool
deriving Repr, DecidableEq

namespace RunCommand

/-- The options of the command. -/
def options : OptionTable :=
  [("log-level", .single), ("sql-endpoint", .single), ("username", .single),
    ("password", .single), ("db-name", .single), ("file", .single), ("workers", .single),
    ("max-queries", .single), ("print-responses", .flag)]

/-- The command that arguments give. -/
def ofArguments? (arguments : List String) : Option RunCommand := do
  let given ← read options arguments
  let _ ← given.value "log-level" level? "info"
  return {
    address := given.text "sql-endpoint" Address.standard
    database := given.text "db-name" standardDatabase
    file := given.text "file" standardStream
    workers := ← given.value "workers" count? 1
    limit := ← given.value "max-queries" count? 0
    printing := given.has "print-responses" }

/-- The queries to run, if they can be read. -/
def queries? (s : Surroundings) (c : RunCommand) : Option (List Query) :=
  (s.contents c.file).bind fun content => (Notation.readContent c.limit content).toOption

/-- The service to run them on, if it can be reached. -/
def service? (s : Surroundings) (c : RunCommand) : Option Service :=
  (Client.make c.address).toOption.bind fun client => s.connect (client.withDatabase c.database)

/-- The closing line of the report. -/
def clock (elapsed : Span) : String :=
  let seconds := Numeral.fixedUnits .double 6 elapsed.toDouble
  s!"Wall clock time: {seconds}sec"

/-- Runs the command. -/
def run (s : Surroundings) (c : RunCommand) : Ending :=
  if c.workers = 0 then { exit := .failure }
  else
    match queries? s c, service? s c with
    | some queries, some service =>
      let runner : Runner := ⟨c.printing, s.stopwatch⟩
      let (times, answers, _) :=
        runner.runShards .empty (.fresh service) (Runner.deal c.workers queries)
      { exit := .success
        printed := fun elapsed => answers ++ times.text ++ "\n" ++ clock elapsed ++ "\n" }
    | _, _ => { exit := .failure }

end RunCommand

end SeriesBench.Cli
