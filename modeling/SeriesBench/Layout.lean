import SeriesBench.Fault
import SeriesBench.Text.Blank
import SeriesBench.Text.Split

/-!
# Table layouts

How the tables of a load are laid out: which columns a table is partitioned by, into
how many partitions, and for how many rows room is made. The partitioning is read from
entries of the form `table:column,column`; blanks around the parts mean nothing, and the
last entry for a table counts.
-/

namespace SeriesBench

/-- The columns that tables are partitioned by, later entries before earlier ones. -/
structure Partitioning where
  entries : List (String × List String)
deriving Repr, DecidableEq, Inhabited

namespace Partitioning

/-- No table is partitioned. -/
def empty : Partitioning := ⟨[]⟩

/-- Whether no table is partitioned. -/
def isEmpty (p : Partitioning) : Bool :=
  p.entries.isEmpty

/-- The columns of a table: none if no entry names it. -/
def columns (p : Partitioning) (table : String) : List String :=
  (p.entries.lookup table).getD []

/-- The names between the commas of a text, trimmed, without blank ones. -/
def columnNames (text : String) : List String :=
  ((Text.parts ',' text).map Text.trim).filter (fun name => !name.isEmpty)

/-- What an entry says: nothing if it is blank, else a table and at least one column. -/
def readEntry (text : String) : Except Fault (Option (String × List String)) :=
  let entry := Text.trim text
  if entry.isEmpty then .ok none
  else
    match Text.cut ':' entry with
    | none => .error (.config
        ("partition spec " ++ Text.quoted entry ++ " is not table:col,col"))
    | some (table, rest) =>
      let names := columnNames rest
      if (Text.trim table).isEmpty || names.isEmpty then
        .error (.config
          ("partition spec " ++ Text.quoted entry ++ " needs a table and at least one column"))
      else .ok (some (Text.trim table, names))

/-- The partitioning that entries describe, or the fault of the first bad one. -/
def read (texts : List String) : Except Fault Partitioning := do
  let entries ← texts.mapM readEntry
  return ⟨(entries.filterMap id).reverse⟩

end Partitioning

/-- The layout of the tables of a load. -/
structure Layout where
  partitioning : Partitioning := .empty
  partitions : Nat := 8
  rowCapacity : Nat := 1250
deriving Repr, DecidableEq

end SeriesBench
