import SeriesBench.Remote.Client
import SeriesBench.Remote.Link
import SeriesBench.Time.Span

/-!
# What commands work on

A command is a function of its surroundings: the files that it can read and write, the
services that can be reached, and the time that calls take. Its ending says what is left
to do: the status to exit with, what to print, and a file to write.
-/

namespace SeriesBench.Cli

/-- What a command finds. -/
structure Surroundings where
  /-- The content of a file, or of the standard input under the name of a hyphen, if it can
  be read. -/
  contents : String → Option (List UInt8)
  /-- Whether a file can be written. -/
  writable : String → Bool
  /-- The service that a client reaches, if there is one. -/
  connect : Client → Option Service
  /-- The time that the last call of a journal took. -/
  stopwatch : Journal → Span

/-- How a command ends. -/
inductive Exit where
  | success
  /-- The run failed. -/
  | failure
  /-- The command line is not understood. -/
  | misuse
  /-- Something cannot be represented that had to be. -/
  | crash
deriving Repr, DecidableEq

/-- The status of an exit. -/
def Exit.code : Exit → Nat
  | success => 0
  | failure => 1
  | misuse => 2
  | crash => 101

/-- What a command leaves to be done. -/
structure Ending where
  exit : Exit
  /-- What is printed, given the time that the command took. -/
  printed : Span → String := fun _ => ""
  /-- The file to be written, and its content. -/
  written : Option (String × String) := none

/-- The name of the standard input and output. -/
def standardStream : String := "-"

/-- The database of a command that is told no other. -/
def standardDatabase : String := "benchmark"

end SeriesBench.Cli
