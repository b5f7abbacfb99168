import SeriesBench.Cli.Options
import SeriesBench.Cli.Surroundings
import SeriesBench.Query.Notation
import SeriesBench.Time.Rfc3339

/-!
# The command that generates queries

It makes queries of one shape on data of some hosts and prints them as lines, or writes
them to a file. The file is made only when the workload is sound; if a query fails after
that it stays empty.
-/

namespace SeriesBench.Cli

/-- The command to generate queries. -/
structure Generate where
  /-- Whether only the names of the shapes are to be listed. -/
  listing : Bool
  shape : Option Shape
  queries : Nat
  hosts : Nat
  seed : Nat
  start : Instant
  stop : Instant
  file : String
deriving Repr, DecidableEq

namespace Generate

/-- The options of the command. -/
def options : OptionTable :=
  [("log-level", .single), ("query-type", .single), ("queries", .single), ("scale", .single),
    ("seed", .single), ("timestamp-start", .single), ("timestamp-end", .single),
    ("file", .single), ("list", .flag)]

/-- The beginning and the end of the first day of 2016. -/
def standardStart : Instant := ⟨1451606400, 0⟩

@[inherit_doc standardStart]
def standardStop : Instant := ⟨1451692800, 0⟩

/-- The shape of a name. -/
def shape? (text : String) : Option (Option Shape) :=
  match Shape.read text with
  | .ok shape => some (some shape)
  | .error _ => none

/-- The command that arguments give. A shape is needed unless only names are listed. -/
def ofArguments? (arguments : List String) : Option Generate := do
  let given ← read options arguments
  let _ ← given.value "log-level" level? "info"
  let command : Generate :=
    { listing := given.has "list"
      shape := ← given.value "query-type" shape? none
      queries := ← given.value "queries" count? 1000
      hosts := ← given.value "scale" count? 1
      seed := ← given.value "seed" count? 123
      start := ← given.value "timestamp-start" Instant.ofRfc3339? standardStart
      stop := ← given.value "timestamp-end" Instant.ofRfc3339? standardStop
      file := given.text "file" standardStream }
  if command.listing || command.shape.isSome then some command else none

/-- The workload and the shape that queries are made of, if nothing is wrong with them. -/
def workload? (c : Generate) : Option (Workload × Shape) :=
  match Workload.make c.start c.stop c.hosts, c.shape with
  | .ok w, some shape => some (w, shape)
  | _, _ => none

/-- The file that the command writes to, if it gets that far. -/
def writes (c : Generate) : Option String :=
  if c.listing || c.workload?.isNone || c.file == standardStream then none else some c.file

/-- How the command ends when a query cannot be made. -/
def exitOf : Stop → Exit
  | .fault _ => .failure
  | .overflow => .crash

/-- The text of the queries, and how the command ends. -/
def produce (c : Generate) (w : Workload) (shape : Shape) : Exit × String :=
  match w.generateMany shape (.ofSeed (UInt64.ofNat c.seed)) c.queries with
  | .ok queries => (.success, Notation.lines queries)
  | .error stop => (exitOf stop, "")

/-- Lines of text. -/
def inLines (texts : List String) : String :=
  String.join (texts.map fun text => text ++ "\n")

/-- Runs the command. -/
def run (s : Surroundings) (c : Generate) : Ending :=
  if c.listing then { exit := .success, printed := fun _ => inLines Shape.names }
  else
    match c.workload?, c.writes with
    | none, _ => { exit := .failure }
    | some (w, shape), none =>
      let (exit, text) := c.produce w shape
      { exit, printed := fun _ => text }
    | some (w, shape), some file =>
      if s.writable file then
        let (exit, text) := c.produce w shape
        { exit, written := some (file, text) }
      else { exit := .failure }

end Generate

end SeriesBench.Cli
