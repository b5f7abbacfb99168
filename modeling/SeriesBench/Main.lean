import SeriesBench.Cli.Command

/-!
# The program

The first argument names the command, the others are its options. Everything that a command
decides is decided by `Command.perform`; here files are read and written, and the time is
taken. No connection to a service can be made, so a command that needs one fails.
-/

namespace SeriesBench.Cli

/-- All that is left in a stream, after what is already known of it. -/
partial def readAll (stream : IO.FS.Stream) (known : ByteArray) : IO ByteArray := do
  let block ← stream.read 65536
  if block.isEmpty then return known else readAll stream (known ++ block)

/-- The content of a file, if it can be read. -/
def contentOf (file : String) : IO (Option (List UInt8)) := do
  try
    let data ← if file == standardStream then readAll (← IO.getStdin) .empty
      else IO.FS.readBinFile file
    return some data.data.toList
  catch _ => return none

/-- Makes a file, and says whether that was possible. -/
def canWrite (file : String) : IO Bool := do
  try
    IO.FS.writeFile file ""
    return true
  catch _ => return false

/-- What a command finds here: the file it reads and whether it can write the other. -/
def surroundings (command : Command) : IO Surroundings := do
  let content ← match command.reads with
    | some file => contentOf file
    | none => pure none
  let writable ← match command.writes with
    | some file => canWrite file
    | none => pure false
  return ⟨fun _ => content, fun _ => writable, fun _ => none, fun _ => ⟨0, 0⟩⟩

/-- The span of some nanoseconds. -/
def spanOf (nanos : Nat) : Span :=
  ⟨nanos / 1000000000, nanos % 1000000000⟩

/-- Carries out a command and what it leaves to be done. -/
def carryOut (command : Command) : IO Exit := do
  let found ← surroundings command
  let begun ← IO.monoNanosNow
  let ending ← IO.lazyPure fun _ => command.perform found
  if let some (file, text) := ending.written then
    IO.FS.writeFile file text
  let ended ← IO.monoNanosNow
  IO.print (ending.printed (spanOf (ended - begun)))
  return ending.exit

/-- Runs the program with its arguments. -/
def runProgram : List String → IO Exit
  | [] => return .misuse
  | name :: arguments =>
    match Command.read? name arguments with
    | none => return .misuse
    | some command => carryOut command

end SeriesBench.Cli

/-- Runs the program and hands on the status it exits with. -/
def main (arguments : List String) : IO UInt32 := do
  let exit ← SeriesBench.Cli.runProgram arguments
  return UInt32.ofNat exit.code
