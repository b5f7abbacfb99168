import SeriesBench.Batch
import SeriesBench.Cli.Command
import SeriesBench.Cli.Generate
import SeriesBench.Cli.Load
import SeriesBench.Cli.Options
import SeriesBench.Cli.Run
import SeriesBench.Cli.Surroundings
import SeriesBench.Column.Builder
import SeriesBench.Column.Kind
import SeriesBench.Column.Record
import SeriesBench.Fault
import SeriesBench.Item
import SeriesBench.Layout
import SeriesBench.Line
import SeriesBench.Load.Pipeline
import SeriesBench.Load.Plan
import SeriesBench.Load.Run
import SeriesBench.Load.Summary
import SeriesBench.Main
import SeriesBench.Numeral.Decimal
import SeriesBench.Numeral.Floating
import SeriesBench.Numeral.Integer
import SeriesBench.Point
import SeriesBench.Query.Grid
import SeriesBench.Query.Interval
import SeriesBench.Query.Latency
import SeriesBench.Query.Notation
import SeriesBench.Query.Runner
import SeriesBench.Query.Shape
import SeriesBench.Query.Workload
import SeriesBench.Random.ChaCha
import SeriesBench.Random.Sample
import SeriesBench.Random.Stream
import SeriesBench.Remote.Client
import SeriesBench.Remote.Link
import SeriesBench.Remote.Script
import SeriesBench.Route
import SeriesBench.Scan
import SeriesBench.Table.Registry
import SeriesBench.Table.Writer
import SeriesBench.Text.Blank
import SeriesBench.Text.Classes
import SeriesBench.Text.Ligature
import SeriesBench.Text.Pictograph
import SeriesBench.Text.Quoted
import SeriesBench.Text.Split
import SeriesBench.Text.Unprintable
import SeriesBench.Text.Width
import SeriesBench.Time.Civil
import SeriesBench.Time.Instant
import SeriesBench.Time.Rfc3339
import SeriesBench.Time.Span
import SeriesBench.Time.SpanText
import SeriesBench.Worker.Crew
import SeriesBench.Worker.Ingest
import SeriesBench.Proofs.Table.Buffer
import SeriesBench.Proofs.Table.Ledger
import SeriesBench.Proofs.Table.Positions
import SeriesBench.Proofs.Line.Words
import SeriesBench.Proofs.Line.Grammar
import SeriesBench.Proofs.Line.RoundTrip
import SeriesBench.Proofs.Line.Decoded
import SeriesBench.Proofs.Line.Tidied
import SeriesBench.Proofs.Scan.Lines
import SeriesBench.Proofs.Scan.Found
import SeriesBench.Proofs.Scan.Asked
import SeriesBench.Proofs.Pool.Reuse
import SeriesBench.Proofs.Pool.Leases
import SeriesBench.Proofs.Load.Moves
import SeriesBench.Proofs.Load.Shape
import SeriesBench.Proofs.Worker.Sorting
import SeriesBench.Proofs.Load.Flight
import SeriesBench.Proofs.Load.Progress
import SeriesBench.Proofs.Load.Carriage
import SeriesBench.Proofs.Load.Dealings
import SeriesBench.Proofs.Load.Shares
import SeriesBench.Proofs.Remote.Statements
import SeriesBench.Proofs.Remote.Stories
import SeriesBench.Proofs.Remote.Books
import SeriesBench.Proofs.Table.Live
import SeriesBench.Proofs.Worker.Crews
import SeriesBench.Proofs.Load.Staff
import SeriesBench.Proofs.Load.Lifecycle
import SeriesBench.Proofs.Load.Counts
import SeriesBench.Proofs.Load.Changes
import SeriesBench.Proofs.Load.Accounts
import SeriesBench.Proofs.Load.Conservation
import SeriesBench.Proofs.Load.Steady
import SeriesBench.Proofs.Load.Exact
import SeriesBench.Proofs.Remote.Tables
import SeriesBench.Proofs.Load.Alike
import SeriesBench.Proofs.Load.Routings
import SeriesBench.Proofs.Worker.Resumed
import SeriesBench.Proofs.Worker.Kept
import SeriesBench.Proofs.Worker.Turns
import SeriesBench.Proofs.Remote.Setup
import SeriesBench.Proofs.Scan.Intakes
import SeriesBench.Proofs.Scan.Stream
import SeriesBench.Proofs.Table.Closing
import SeriesBench.Proofs.Worker.Visits
import SeriesBench.Proofs.Worker.Encoding
import SeriesBench.Proofs.Remote.Handed
import SeriesBench.Proofs.Worker.Deliveries
import SeriesBench.Proofs.Load.Endings
import SeriesBench.Proofs.Load.Misfits
import SeriesBench.Proofs.Load.Faults
import SeriesBench.Proofs.Worker.Schemas
import SeriesBench.Proofs.Worker.Holdings
import SeriesBench.Proofs.Worker.Intake
import SeriesBench.Proofs.Worker.Cuts
import SeriesBench.Proofs.Query.Recorded
import SeriesBench.Proofs.Query.Shards
import SeriesBench.Proofs.Table.Custody
import SeriesBench.Proofs.Query.HandOff
import SeriesBench.Proofs.Query.Windows
import SeriesBench.Proofs.Remote.Replies
import SeriesBench.Proofs.Table.Protocol
import SeriesBench.Proofs.Table.Declared
import SeriesBench.Proofs.Worker.InUse
import SeriesBench.Proofs.Worker.Passages
import SeriesBench.Proofs.Worker.Errands
import SeriesBench.Proofs.Worker.Dispatch
import SeriesBench.Proofs.Worker.Placement
import SeriesBench.Proofs.Load.Ownership
import SeriesBench.Proofs.Query.Fits
import SeriesBench.Proofs.Time.Calendar
import SeriesBench.Proofs.Time.Reading
import SeriesBench.Proofs.Query.Quotes
import SeriesBench.Proofs.Query.Timestamps
import SeriesBench.Proofs.Query.Samples
import SeriesBench.Proofs.Query.Requests
import SeriesBench.Proofs.Time.Durations
import SeriesBench.Proofs.Line.Trimming
import SeriesBench.Proofs.Table.Partitions
