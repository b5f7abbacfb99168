import SeriesBench.Cli.Generate
import SeriesBench.Cli.Load
import SeriesBench.Cli.Run

/-!
# Commands

The commands of the program, each with options of its own.
-/

namespace SeriesBench.Cli

/-- A command with its options. -/
inductive Command where
  | generate (c : Generate)
  | load (c : LoadCommand)
  | run (c : RunCommand)
deriving Repr, DecidableEq

namespace Command

/-- The command of a name with some arguments, if there is one. -/
def read? (name : String) (arguments : List String) : Option Command :=
  if name = "generate-queries" then (Generate.ofArguments? arguments).map generate
  else if name = "load" then (LoadCommand.ofArguments? arguments).map load
  else if name = "run-queries" then (RunCommand.ofArguments? arguments).map run
  else none

/-- The file that a command may read. -/
def reads : Command → Option String
  | generate _ => none
  | load c => some c.file
  | run c => some c.file

/-- The file that a command may write. -/
def writes : Command → Option String
  | generate c => c.writes
  | load _ => none
  | run _ => none

/-- Carries out a command. -/
def perform (s : Surroundings) : Command → Ending
  | generate c => c.run s
  | load c => c.run s
  | run c => c.run s

/-- Carries out the command of a name, if its arguments are in order. -/
def performNamed (s : Surroundings) (name : String) (arguments : List String) : Ending :=
  match read? name arguments with
  | some command => command.perform s
  | none => { exit := .misuse }

end Command

end SeriesBench.Cli
