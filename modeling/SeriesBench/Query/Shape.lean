import SeriesBench.Fault

/-!
# Query shapes

The kinds of queries that a workload on the cpu table is made of, with their parameters,
and the catalogue of those that have a name.
-/

namespace SeriesBench

/-- A kind of query. -/
inductive Shape where
  /-- The maximum of some metrics for some hosts, minute by minute over some hours. -/
  | maxByMinute (metrics hosts hours : Nat)
  /-- The maximum of all metrics for some hosts, hour by hour. -/
  | maxAllByHour (hosts : Nat)
  /-- The mean of some metrics for every host, hour by hour. -/
  | meanByHour (metrics : Nat)
  /-- The rows above a threshold, for some hosts or, if their number is zero, for all. -/
  | aboveThreshold (hosts : Nat)
  /-- The last row of every host. -/
  | lastPerHost
  /-- The maximum of one metric in the last five minutes before a random time. -/
  | lastFiveMinutes
deriving Repr, DecidableEq, Inhabited

namespace Shape

/-- The named shapes. -/
def catalogue : List (String × Shape) :=
  [("single-groupby-1-1-1", maxByMinute 1 1 1),
    ("single-groupby-1-1-12", maxByMinute 1 1 12),
    ("single-groupby-1-8-1", maxByMinute 1 8 1),
    ("single-groupby-5-1-1", maxByMinute 5 1 1),
    ("single-groupby-5-1-12", maxByMinute 5 1 12),
    ("single-groupby-5-8-1", maxByMinute 5 8 1),
    ("cpu-max-all-1", maxAllByHour 1),
    ("cpu-max-all-8", maxAllByHour 8),
    ("double-groupby-1", meanByHour 1),
    ("double-groupby-5", meanByHour 5),
    ("double-groupby-all", meanByHour 10),
    ("high-cpu-all", aboveThreshold 0),
    ("high-cpu-1", aboveThreshold 1),
    ("lastpoint", lastPerHost),
    ("groupby-orderby-limit", lastFiveMinutes)]

/-- The names of the catalogue. -/
def names : List String :=
  catalogue.map (·.1)

/-- The shape of a name. -/
def read (text : String) : Except Fault Shape :=
  match catalogue.lookup text with
  | some shape => .ok shape
  | none => .error (.query ("unknown query type " ++ Text.quoted text))

/-- A kind and its parameters in braces. -/
def withParameters (kind : String) (parameters : List (String × Nat)) : String :=
  kind ++ " \x7b " ++
    String.intercalate ", " (parameters.map fun (name, n) => s!"{name}: {n}") ++ " \x7d"

/-- The kind and the parameters of a shape. -/
def description : Shape → String
  | maxByMinute metrics hosts hours =>
    withParameters "SingleGroupBy" [("metrics", metrics), ("hosts", hosts), ("hours", hours)]
  | maxAllByHour hosts => withParameters "CpuMaxAll" [("hosts", hosts)]
  | meanByHour metrics => withParameters "DoubleGroupBy" [("metrics", metrics)]
  | aboveThreshold hosts => withParameters "HighCpu" [("hosts", hosts)]
  | lastPerHost => "LastPoint"
  | lastFiveMinutes => "GroupByOrderByLimit"

/-- The name of a shape, or its description if it has none. -/
def text (shape : Shape) : String :=
  match catalogue.find? fun (_, other) => other == shape with
  | some (name, _) => name
  | none => shape.description

end Shape

end SeriesBench
