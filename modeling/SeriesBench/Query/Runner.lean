import SeriesBench.Query.Grid
import SeriesBench.Query.Latency
import SeriesBench.Query.Workload
import SeriesBench.Remote.Link

/-!
# Running queries

A runner sends queries over a link one after the other and keeps the times of those that
succeed; one that fails is counted and passed over. How long an answer took is nothing
that a run decides: a stopwatch gives it for every point of the journal. If asked to, a
runner prints each answer under the description of its query.
-/

namespace SeriesBench

/-- A query that has been answered. -/
structure Answered where
  label : String
  elapsed : Span
  rows : Nat
deriving Repr, DecidableEq

/-- How queries are run. -/
structure Runner where
  /-- Whether answers are printed. -/
  printing : Bool
  /-- The time that the last call of a journal took. -/
  stopwatch : Journal → Span

namespace Runner

/-- How many rows a result has. -/
def countRows (result : List Record) : Nat :=
  result.foldl (fun sum r => sum + r.rows) 0

/-- What is printed of an answer. -/
def printed (r : Runner) (q : Query) (result : List Record) : String :=
  if r.printing then q.description ++ "\n" ++ (Grid.ofRecords result).text ++ "\n" else ""

/-- Runs a query: the answer or the fault, what is printed, and the link afterwards. -/
def run (r : Runner) (link : Link) (q : Query) : Except Fault Answered × String × Link :=
  let (answer, link) := link.execute q.sql
  match answer with
  | .error fault => (.error fault, "", link)
  | .ok result =>
    (.ok ⟨q.label, r.stopwatch link.journal, countRows result⟩, r.printed q result, link)

/-- The times after one more query. -/
def note (known : Latencies) : Except Fault Answered → Latencies
  | .ok answered => known.record answered.label answered.elapsed
  | .error _ => known.recordFailure

/-- Runs queries in order, adding to the times that are known. -/
def runFrom (r : Runner) (known : Latencies) (link : Link) :
    List Query → Latencies × String × Link
  | [] => (known, "", link)
  | q :: rest =>
    let (answer, first, link) := r.run link q
    let (known, others, link) := r.runFrom (note known answer) link rest
    (known, first ++ others, link)

/-- Runs queries in order: their times, what is printed, and the link afterwards. -/
def runAll (r : Runner) (link : Link) (queries : List Query) : Latencies × String × Link :=
  r.runFrom .empty link queries

/-- The queries that each of some runners gets when they are dealt in turn. -/
def deal (runners : Nat) (queries : List Query) : List (List Query) :=
  (List.range runners).map fun i =>
    (queries.zipIdx.filter fun (_, index) => index % runners == i).map fun (q, _) => q

/-- Runs the queries of several runners, each on its own, and adds up their times. -/
def runShards (r : Runner) (known : Latencies) (link : Link) :
    List (List Query) → Latencies × String × Link
  | [] => (known, "", link)
  | shard :: rest =>
    let (times, first, link) := r.runAll link shard
    let (known, others, link) := r.runShards (known.merge times) link rest
    (known, first ++ others, link)

end Runner

end SeriesBench
