import SeriesBench.Text.Quoted
import SeriesBench.Text.Split

/-!
# Faults

Everything that can go wrong, by cause, with the message that reports it. Some
faults concern a single line or a single row and are counted and skipped; others
end the run. The classes at the end say which is which.
-/

namespace SeriesBench

/-- What went wrong. -/
inductive Fault where
  /-- A setting that makes no sense. -/
  | config (reason : String)
  /-- A line that does not have the shape of a point. -/
  | line (reason : String)
  /-- A line whose list of type tags is not as long as its list of columns. -/
  | tagCount (tags pairs : Nat)
  /-- A type tag that names no type. -/
  | unknownTag (text : String)
  /-- Reading the input failed after this many lines. -/
  | input (lines : Nat)
  /-- A point that is wider or narrower than its table. -/
  | width (table : String) (expected actual : Nat)
  /-- A value that does not convert to the type of its column. -/
  | value (table column text type : String)
  /-- Columns that do not make up a record. -/
  | record
  /-- An address that is no address. -/
  | endpoint (url : String)
  /-- No connection to the service. -/
  | channel
  /-- The service refused a user. -/
  | handshake (user : String)
  /-- The service refused a statement, at some stage of its execution. -/
  | statement (stage cause : String)
  /-- A result of the service broke off. -/
  | stream (cause : String)
  /-- An operation on something that is no longer in use. -/
  | illegalState (reason : String)
  /-- A worker was gone before all its batches were delivered. -/
  | workerStopped (worker : Nat)
  /-- A task of the pipeline did not come to its end. -/
  | task
  /-- Parameters that describe no query. -/
  | query (reason : String)
  /-- A file that cannot be read or written. -/
  | file (path : String)
  /-- Text that is not the expected object notation. -/
  | json
deriving Repr, DecidableEq, Inhabited

namespace Fault

/-- The message that reports a fault. -/
def message : Fault → String
  | config reason => "Invalid config, " ++ reason
  | line reason => "Malformed line: " ++ reason
  | tagCount tags pairs =>
    s!"Type tag count mismatch: {tags} type tags for {pairs} key=value pairs"
  | unknownTag text => "Unknown type tag: " ++ Text.quoted text
  | input lines => s!"Failed to scan input after line {lines}"
  | width table expected actual =>
    s!"Failed to encode point for table {table}: schema has {expected} columns, " ++
      s!"point has {actual}"
  | value table column text type =>
    "Failed to encode value " ++ Text.quoted text ++ s!" of column {table}.{column} as {type}"
  | record => "Failed to create Arrow RecordBatch"
  | endpoint url => "Invalid endpoint: " ++ url
  | channel => "Failed to create gRPC channel"
  | handshake user => "Failed to authenticate as " ++ user
  | statement stage cause => s!"Failed to transmit {stage}: {cause}"
  | stream cause => "Failed to read flight stream: " ++ cause
  | illegalState reason => "Illegal client state: " ++ reason
  | workerStopped worker => s!"Worker {worker} stopped before input was exhausted"
  | task => "Pipeline task failed"
  | query reason => "Invalid query parameters, " ++ reason
  | file path => "IO error on " ++ path
  | json => "Failed to serde Json"

/-- Faults in the form of a line: the line is dropped. -/
def isFormat : Fault → Bool
  | line .. | tagCount .. | unknownTag .. => true
  | _ => false

/-- Faults in a value: the row is dropped. -/
def isValue : Fault → Bool
  | value .. => true
  | _ => false

/-- Faults after which the run cannot go on. -/
def isFatal : Fault → Bool
  | input .. | width .. | config .. => true
  | _ => false

/-- Whether the service refused to create something because it is there already. Only
the cause that the service gave counts, not the message around it. -/
def isAlreadyExists : Fault → Bool
  | statement _ cause | stream cause => Text.occursIn "already exists" cause
  | _ => false

end Fault

end SeriesBench
