import SeriesBench.Remote.Link

/-!
# A service that follows a script

A service in memory, for running the write path and the queries without a network. A
script says which calls fail, and how; every other call succeeds. Definitions have no
result, every other statement has the one that the script holds, and an insertion
affects as many rows as its record has.
-/

namespace SeriesBench

/-- The kinds of calls that a script can tell apart. -/
inductive Operation where
  | createTable | createDatabase | query | prepare | insert | close
deriving Repr, DecidableEq

/-- The kind of call that executing a statement is. -/
def Operation.ofSql (sql : String) : Operation :=
  if "CREATE TABLE".toList.isPrefixOf sql.toList then .createTable
  else if "CREATE DATABASE".toList.isPrefixOf sql.toList then .createDatabase
  else .query

/-- The stage of a call, as its fault names it. -/
def Operation.stage : Operation → String
  | createTable | createDatabase | query => "execute"
  | prepare => "prepare"
  | insert => "insert"
  | close => "close"

/-- How a call fails: with a fault of the statement or of the stream of its result, of
which the causes are listed, or because the client is in no state to make it. -/
inductive Failure where
  | external | compute | unimplemented | cast | memory | parse | schema | exchange
  | argument | division
  | streamCompute | streamUnimplemented | streamProtocol | streamDecode | streamExternal
  | illegal
deriving Repr, DecidableEq

/-- The fault of a failure at some stage, with a detail of the cause. -/
def Failure.fault (stage detail : String) : Failure → Fault
  | external => .statement stage ("External error: " ++ detail)
  | compute => .statement stage ("Compute error: " ++ detail)
  | unimplemented => .statement stage ("Not yet implemented: " ++ detail)
  | cast => .statement stage ("Cast error: " ++ detail)
  | memory => .statement stage ("Memory error: " ++ detail)
  | parse => .statement stage ("Parser error: " ++ detail)
  | schema => .statement stage ("Schema error: " ++ detail)
  | exchange => .statement stage ("Ipc error: " ++ detail)
  | argument => .statement stage ("Invalid argument error: " ++ detail)
  | division => .statement stage "Divide by zero error"
  | streamCompute => .stream ("Arrow error: Compute error: " ++ detail)
  | streamUnimplemented => .stream ("Not yet implemented: " ++ detail)
  | streamProtocol => .stream ("Protocol error: " ++ detail)
  | streamDecode => .stream ("Decode error: " ++ detail)
  | streamExternal => .stream ("External error: " ++ detail)
  | illegal => .illegalState detail

/-- Calls of one kind fail: all of them, or those whose statement contains a text. -/
structure Rule where
  operation : Operation
  failure : Failure
  detail : String
  only : Option String
deriving Repr, DecidableEq

/-- What a service in memory does. -/
structure Script where
  rules : List Rule
  response : List Record
deriving Repr

namespace Script

/-- Nothing fails, and no statement has a result. -/
def empty : Script := ⟨[], []⟩

/-- The script without a rule for a kind of call. -/
def unfail (script : Script) (operation : Operation) : Script :=
  { script with rules := script.rules.filter fun rule => rule.operation != operation }

/-- The script with a rule, in place of any other for the same kind of call. -/
def fail (script : Script) (rule : Rule) : Script :=
  { script with rules := rule :: (script.unfail rule.operation).rules }

/-- The fault of a call on a statement, if a rule makes it fail. -/
def fault? (script : Script) (operation : Operation) (sql : String) : Option Fault :=
  (script.rules.find? fun rule =>
    rule.operation == operation && (rule.only.all fun part => Text.occursIn part sql)).map
    fun rule => rule.failure.fault operation.stage rule.detail

/-- The answer of a call that would give `value`. -/
def answer (script : Script) (operation : Operation) (sql : String) (value : α) :
    Except Fault α :=
  match script.fault? operation sql with
  | some fault => .error fault
  | none => .ok value

/-- The service that follows the script, whatever was asked before. -/
def service (script : Script) : Service where
  execute _ sql :=
    script.answer (.ofSql sql) sql (if Operation.ofSql sql = .query then script.response else [])
  prepare _ sql := script.answer .prepare sql ()
  insert _ statement record := script.answer .insert statement.sql record.rows
  close _ statement := script.answer .close statement.sql ()

end Script

end SeriesBench
