import SeriesBench.Cli.Options
import SeriesBench.Cli.Surroundings
import SeriesBench.Load.Run
import SeriesBench.Remote.Script

/-!
# The command that loads points

It reads points from a file and loads them into a database, which it creates first unless
it is told not to. A load that sends nothing needs no service, but the address must be one
all the same.
-/

namespace SeriesBench.Cli

/-- The command to load points. The partitioning is read only when the command runs. -/
structure LoadCommand where
  address : String
  database : String
  file : String
  plan : LoadPlan
  partitioning : List String
  createDatabase : Bool
deriving Repr, DecidableEq

namespace LoadCommand

/-- The options of the command. -/
def options : OptionTable :=
  [("log-level", .single), ("sql-endpoint", .single), ("username", .single),
    ("password", .single), ("db-name", .single), ("file", .single), ("batch-size", .single),
    ("workers", .single), ("routing", .single), ("scan-mode", .single),
    ("partition-by", .several), ("table-partitions", .single), ("channel-capacity", .single),
    ("do-load", .single), ("do-create-db", .single)]

/-- The routing of a name. -/
def routing? (text : String) : Option Routing :=
  (Routing.read text).toOption

/-- The intake of a name. -/
def intake? (text : String) : Option Intake :=
  (Intake.read text).toOption

/-- The command that arguments give. Several entries of the partitioning may be given at
once, with semicolons between them. -/
def ofArguments? (arguments : List String) : Option LoadCommand := do
  let given ← read options arguments
  let _ ← given.value "log-level" level? "info"
  let base : LoadPlan := {}
  let plan : LoadPlan :=
    { batchSize := ← given.value "batch-size" count? base.batchSize
      workers := ← given.value "workers" count? base.workers
      routing := ← given.value "routing" routing? base.routing
      intake := ← given.value "scan-mode" intake? base.intake
      tablePartitions := ← given.value "table-partitions" count? base.tablePartitions
      transmit := ← given.value "do-load" truth? base.transmit
      queueCapacity := ← given.value "channel-capacity" count? base.queueCapacity }
  return {
    address := given.text "sql-endpoint" Address.standard
    database := given.text "db-name" standardDatabase
    file := given.text "file" standardStream
    plan
    partitioning := (given.texts "partition-by").flatMap (Text.parts ';')
    createDatabase := ← given.value "do-create-db" truth? true }

/-- The plan of the command, if nothing is wrong with it. -/
def soundPlan? (c : LoadCommand) : Option LoadPlan :=
  match Partitioning.read c.partitioning with
  | .error _ => none
  | .ok partitioning =>
    let plan := { c.plan with partitioning }
    if plan.complaint.isNone then some plan else none

/-- The link that the load goes over, with the database created if that is wanted; none if
it cannot be had. -/
def link? (s : Surroundings) (c : LoadCommand) : Option Link :=
  match Client.make c.address with
  | .error _ => none
  | .ok client =>
    if c.plan.transmit then
      (s.connect client).bind fun service =>
        if c.createDatabase then
          match (Link.fresh service).createDatabase c.database with
          | (.ok (), link) => some link
          | (.error _, _) => none
        else some (.fresh service)
    else some (.fresh Script.empty.service)

/-- Runs the command. -/
def run (s : Surroundings) (c : LoadCommand) : Ending :=
  match c.soundPlan? with
  | none => { exit := .failure }
  | some plan =>
    match link? s c, s.contents c.file with
    | none, _ => { exit := .failure }
    | some _, none => { exit := .failure }
    | some link, some data =>
      match Load.run plan (.ofBytes data) link with
      | none => { exit := .crash }
      | some (.error _, _) => { exit := .failure }
      | some (.ok summary, _) =>
        { exit := .success
          printed := fun elapsed => ({ summary with elapsed } : Summary).text ++ "\n" }

end LoadCommand

end SeriesBench.Cli
