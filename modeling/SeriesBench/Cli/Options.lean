import SeriesBench.Numeral.Integer
import SeriesBench.Text.Split

/-!
# Command line options

Options have long names and are given as `--name value` or `--name=value`, flags as
`--name`. A value that does not stand in the same argument may not begin with a hyphen,
unless it is the hyphen alone. There are no arguments besides, and only an option that
collects its values may be given twice. After a bare `--` nothing may follow.
-/

namespace SeriesBench.Cli

/-- What an option takes. -/
inductive Arity where
  /-- Nothing. -/
  | flag
  /-- One value. -/
  | single
  /-- One value at a time, as often as it is given. -/
  | several
deriving Repr, DecidableEq

/-- The options of a command, by name. -/
abbrev OptionTable := List (String × Arity)

/-- The options that were given, in order; a flag has an empty value. -/
abbrev Given := List (String × String)

/-- The name in an argument that begins with two hyphens, and the value after an equals
sign. -/
def nameIn? (argument : String) : Option (String × Option String) :=
  match argument.toList with
  | '-' :: '-' :: rest =>
    match Text.cut '=' (String.ofList rest) with
    | some (name, value) => some (name, some value)
    | none => some (String.ofList rest, none)
  | _ => none

/-- Whether an argument cannot be the value of the option before it. -/
def isHyphenated (argument : String) : Bool :=
  argument.startsWith "-" && argument != "-"

/-- The options that arguments give, after those already known; none if the arguments are
not in order. -/
def readFrom (table : OptionTable) (known : Given) : List String → Option Given
  | [] => some known
  | argument :: rest =>
    if argument = "--" then if rest.isEmpty then some known else none
    else
      match nameIn? argument with
      | none => none
      | some (name, attached) =>
        match table.lookup name with
        | none => none
        | some arity =>
          if arity ≠ .several ∧ (known.lookup name).isSome then none
          else
            match arity, attached, rest with
            | .flag, none, rest => readFrom table (known ++ [(name, "")]) rest
            | .flag, some _, _ => none
            | _, some value, rest => readFrom table (known ++ [(name, value)]) rest
            | _, none, [] => none
            | _, none, value :: rest =>
              if isHyphenated value then none
              else readFrom table (known ++ [(name, value)]) rest

/-- The options that the arguments of a command give. -/
def read (table : OptionTable) (arguments : List String) : Option Given :=
  readFrom table [] arguments

namespace Given

/-- Whether a flag was given. -/
def has (given : Given) (name : String) : Bool :=
  (given.lookup name).isSome

/-- The text of an option, or its default. -/
def text (given : Given) (name default : String) : String :=
  (given.lookup name).getD default

/-- The texts of an option that was given any number of times. -/
def texts (given : Given) (name : String) : List String :=
  given.filterMap fun (other, value) => if other = name then some value else none

/-- The value of an option as a reader sees it, or its default; none if the reader
refuses it. -/
def value (given : Given) (name : String) (reader : String → Option α) (default : α) :
    Option α :=
  match given.lookup name with
  | none => some default
  | some text => reader text

end Given

/-- A number in a word of 64 bits. -/
def count? (text : String) : Option Nat :=
  Numeral.readUnsigned (Nat.pow 2 64) text

/-- A truth value. -/
def truth? (text : String) : Option Bool :=
  if text = "true" then some true else if text = "false" then some false else none

/-- The levels of logging, from the least talkative on. -/
def levels : List String := ["error", "warn", "info", "debug", "trace"]

/-- The level of logging that a text names, by a word of any case or by its number. -/
def level? (text : String) : Option String :=
  match count? text with
  | some n => if n = 0 then none else levels[n - 1]?
  | none => levels.find? fun level => level == text.map Char.toLower

end SeriesBench.Cli
