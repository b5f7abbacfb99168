import SeriesBench.Query.Interval
import SeriesBench.Query.Shape
import SeriesBench.Random.Sample

/-!
# Query workloads

A workload turns shapes into queries on the table of cpu metrics. What varies is drawn
from one random stream, so that the same seed and the same requests give the same queries.
A request that cannot be met leaves the stream where it got to.
-/

namespace SeriesBench

/-- A query with a label for its kind and a description of its own. -/
structure Query where
  label : String
  description : String
  sql : String
deriving Repr, DecidableEq, Inhabited

/-- The time the data covers and how many hosts it is about. -/
structure Workload where
  interval : Interval
  hosts : Nat
deriving Repr, DecidableEq

namespace Workload

/-- The workload on data of some hosts between two instants. -/
def make (start stop : Instant) (hosts : Nat) : Except Fault Workload :=
  if hosts = 0 then .error (.query "scale must be at least 1")
  else (Interval.make start stop).map fun interval => ⟨interval, hosts⟩

/-- The metrics of a host, in column order. -/
def metrics : List String :=
  ["usage_user", "usage_system", "usage_idle", "usage_nice", "usage_iowait", "usage_irq",
    "usage_softirq", "usage_steal", "usage_guest", "usage_guest_nice"]

/-- What every label begins with. -/
def target : String := "Datalayers"

/-- The first so many metrics. -/
def firstMetrics (n : Nat) : Except Stop (List String) :=
  if 1 ≤ n ∧ n ≤ metrics.length then .ok (metrics.take n)
  else .error (.fault
    (.query s!"number of metrics must be between 1 and {metrics.length}, got {n}"))

/-- A function applied to each of some metrics. -/
def aggregate (function : String) (names : List String) : String :=
  String.intercalate ", " (names.map fun name => s!"{function}({name})")

/-- The name of a host. -/
def hostName (index : Nat) : String :=
  s!"host_{index}"

/-- The condition that a row is of one of some hosts. -/
def hostFilter (hosts : List Nat) : String :=
  let names := String.intercalate ", " (hosts.map fun index => s!"'{hostName index}'")
  s!"hostname IN ({names})"

/-- Some different hosts, drawn at random. -/
def randomHosts (w : Workload) (s : Random.Stream) (n : Nat) :
    Except Stop (List Nat) × Random.Stream :=
  if n = 0 then (.error (.fault (.query "number of hosts cannot be < 1")), s)
  else if w.hosts < n then
    (.error (.fault (.query s!"number of hosts ({n}) larger than total hosts ({w.hosts})")), s)
  else
    let (hosts, s) := Random.sample s w.hosts n
    (.ok hosts, s)

/-- What is made of something that is drawn, if it can be. -/
def andThen {α β : Type} (drawn : Except Stop α × Random.Stream)
    (next : α → Random.Stream → Except Stop β × Random.Stream) :
    Except Stop β × Random.Stream :=
  match drawn with
  | (.error stop, s) => (.error stop, s)
  | (.ok x, s) => next x s

/-- The condition that a row is in a window. -/
def windowFilter (window : Interval) : String :=
  s!"ts >= '{window.start.rfc3339}' AND ts < '{window.stop.rfc3339}'"

/-- A query whose description is its label and an instant. -/
def query (label : String) (instant : Instant) (sql : String) : Query :=
  ⟨label, s!"{label}: {instant.rfc3339}", sql⟩

/-- A number at the right end of a field of four characters. -/
def fourWide (n : Nat) : String :=
  Text.padLeft 4 ' ' (toString n)

/-- Some whole hours. -/
def hours (n : Nat) : Span := ⟨3600 * n, 0⟩

/-- The maximum of the first metrics for random hosts, minute by minute in a random window. -/
def maxByMinute (w : Workload) (s : Random.Stream) (hosts metrics : Nat) (range : Span) :
    Except Stop Query × Random.Stream :=
  andThen (w.interval.randomWindow s range) fun window s =>
    match firstMetrics metrics with
    | .error stop => (.error stop, s)
    | .ok names =>
      andThen (w.randomHosts s hosts) fun drawn s =>
        let label := s!"{target} {metrics} cpu metric(s), random {fourWide hosts} hosts, " ++
          s!"random {range.text} by 1m"
        (.ok (query label window.start
          ("SELECT date_trunc('minute', ts) AS minute, " ++ aggregate "max" names ++
            " FROM cpu WHERE " ++ hostFilter drawn ++ " AND " ++ windowFilter window ++
            " GROUP BY minute ORDER BY minute")), s)

/-- The maximum of one metric in the last five minutes before the end of a random window. -/
def lastFiveMinutes (w : Workload) (s : Random.Stream) : Except Stop Query × Random.Stream :=
  andThen (w.interval.randomWindow s (hours 1)) fun window s =>
    (.ok (query s!"{target} max cpu over last 5 min-intervals (random end)" window.stop
      ("SELECT date_trunc('minute', ts) AS minute, max(usage_user) FROM cpu WHERE " ++
        s!"ts < '{window.stop.rfc3339}' GROUP BY minute ORDER BY minute DESC LIMIT 5")), s)

/-- The mean of the first metrics for every host, hour by hour in a random window. -/
def meanByHour (w : Workload) (s : Random.Stream) (metrics : Nat) :
    Except Stop Query × Random.Stream :=
  match firstMetrics metrics with
  | .error stop => (.error stop, s)
  | .ok names =>
    andThen (w.interval.randomWindow s (hours 12)) fun window s =>
      let label := s!"{target} mean of {metrics} metrics, all hosts, random " ++
        (hours 12).text ++ " by 1h"
      (.ok (query label window.start
        ("SELECT date_trunc('hour', ts) AS hour, hostname, " ++ aggregate "avg" names ++
          " FROM cpu WHERE " ++ windowFilter window ++
          " GROUP BY hour, hostname ORDER BY hour, hostname")), s)

/-- The maximum of every metric for random hosts, hour by hour in a random window. -/
def maxAllByHour (w : Workload) (s : Random.Stream) (hosts : Nat) (range : Span) :
    Except Stop Query × Random.Stream :=
  andThen (w.interval.randomWindow s range) fun window s =>
    andThen (w.randomHosts s hosts) fun drawn s =>
      let label := s!"{target} max of all CPU metrics, random {fourWide hosts} hosts, " ++
        s!"random {range.text} by 1h"
      (.ok (query label window.start
        ("SELECT date_trunc('hour', ts) AS hour, " ++ aggregate "max" metrics ++
          " FROM cpu WHERE " ++ hostFilter drawn ++ " AND " ++ windowFilter window ++
          " GROUP BY hour ORDER BY hour")), s)

/-- The last row of every host. -/
def lastPerHost : Query :=
  let label := s!"{target} last row per host"
  ⟨label, label,
    "WITH ranked_cpu AS (SELECT *, ROW_NUMBER() OVER (PARTITION BY hostname ORDER BY ts DESC) " ++
      "AS row_num FROM cpu) SELECT * FROM ranked_cpu WHERE row_num = 1"⟩

/-- The rows above the threshold in a random window, for random hosts or for all. -/
def aboveThreshold (w : Workload) (s : Random.Stream) (hosts : Nat) :
    Except Stop Query × Random.Stream :=
  andThen (w.interval.randomWindow s (hours 12)) fun window s =>
    let sql := "SELECT * FROM cpu WHERE usage_user > 90.0 AND " ++ windowFilter window
    if hosts = 0 then
      (.ok (query s!"{target} CPU over threshold, all hosts" window.start sql), s)
    else
      andThen (w.randomHosts s hosts) fun drawn s =>
        (.ok (query s!"{target} CPU over threshold, {hosts} host(s)" window.start
          (sql ++ " AND " ++ hostFilter drawn)), s)

/-- A query of a shape. Hours are counted in words of 32 bits. -/
def generate (w : Workload) (s : Random.Stream) : Shape → Except Stop Query × Random.Stream
  | .maxByMinute metrics hosts n => w.maxByMinute s hosts metrics (hours (n % Nat.pow 2 32))
  | .maxAllByHour hosts => w.maxAllByHour s hosts (hours 8)
  | .meanByHour metrics => w.meanByHour s metrics
  | .aboveThreshold hosts => w.aboveThreshold s hosts
  | .lastPerHost => (.ok lastPerHost, s)
  | .lastFiveMinutes => w.lastFiveMinutes s

/-- So many queries of a shape, or why one of them cannot be made. -/
def generateMany (w : Workload) (shape : Shape) :
    Random.Stream → Nat → Except Stop (List Query)
  | _, 0 => .ok []
  | s, n + 1 =>
    match w.generate s shape with
    | (.error stop, _) => .error stop
    | (.ok first, s) => (generateMany w shape s n).map (first :: ·)

end Workload

end SeriesBench
