import SeriesBench.Proofs.Line.Grammar
import SeriesBench.Proofs.Line.Trimming
import SeriesBench.Proofs.Remote.Obliging
import SeriesBench.Proofs.Table.Declared

/-!
# Which tables are partitioned

An entry for the partitioning of a table names it before its first colon, and its columns behind,
between commas. Blanks around each of these names mean nothing, and neither do names that are blank
or entries that are. What an entry says is told here of the entry as it stands: it is not trimmed
before it is cut, and names that are blank are left out before the others are trimmed.

Entries are read if none of them is bad, and the last one that names a table counts. So a table is
created with a clause of partitions exactly if an entry names it.
-/

namespace SeriesBench

namespace Partitioning

/-- The columns that a text lists: what stands between its commas and is not blank, trimmed. -/
def listed (text : String) : List String :=
  ((Text.parts ',' text).filter fun part => !Text.isBlankText part).map Text.trim

/-- The table that an entry names before its first colon, and the columns that it lists behind. -/
def said (entry : String) : Option (String × List String) :=
  (Text.cut ':' entry).map fun (before, after) => (Text.trim before, listed after)

/-- Whether an entry has no colon though it is not blank, no table before its first colon, or no
column behind. -/
def isBad (entry : String) : Bool :=
  match Text.cut ':' entry with
  | none => !Text.isBlankText entry
  | some (before, after) =>
    Text.isBlankText before || (Text.parts ',' after).all Text.isBlankText

/-- An entry says of a table which columns it is partitioned by. -/
def Names (entry table : String) : Prop :=
  ∃ columns, said entry = some (table, columns)

/-- The columns that the last entry gives that names a table; none if no entry does. -/
inductive Resolves (entries : List String) (table : String) : List String → Prop where
  | named {earlier later : List String} {entry : String} {columns : List String}
      (split : entries = earlier ++ entry :: later) (saying : said entry = some (table, columns))
      (last : ∀ other ∈ later, ¬ Names other table) : Resolves entries table columns
  | unnamed (none : ∀ entry ∈ entries, ¬ Names entry table) : Resolves entries table []

/-- The columns that an entry gives are those that its text lists. -/
theorem columnNames_eq (text : String) : columnNames text = listed text := by
  rw [columnNames, listed, List.filter_map]
  refine congrArg (List.map Text.trim) (List.filter_congr fun part _ => ?_)
  rw [Text.isBlankText_eq, Function.comp_apply]

/-- Blanks at the end of a text list nothing. -/
theorem listed_trimEnd (text : String) : listed (Text.trimEnd text) = listed text := by
  rw [← columnNames_eq, ← columnNames_eq, columnNames, columnNames, Text.parts_trimEnd (by decide)]

/-- A text lists nothing exactly if all of its parts are blank. -/
theorem isEmpty_listed (text : String) :
    (listed text).isEmpty = (Text.parts ',' text).all Text.isBlankText := by
  rw [Bool.eq_iff_iff, List.isEmpty_iff]
  simp [listed, List.filter_eq_nil_iff]

/-- An entry is refused if it is bad, and else read as what it says. -/
theorem readEntry_eq (entry : String) :
    (isBad entry = false ∧ readEntry entry = .ok (said entry)) ∨
      (isBad entry = true ∧ ∃ message, readEntry entry = .error (.config message)) := by
  have cut := Text.cut_trim (by decide : Text.isBlank ':' = false) entry
  rw [isBad, said, readEntry]
  cases found : Text.cut ':' entry with
  | none =>
    rw [found, Option.map_none] at cut
    rw [Text.isBlankText_eq, cut]
    cases (Text.trim entry).isEmpty <;> simp
  | some halves =>
    obtain ⟨before, after⟩ := halves
    rw [found, Option.map_some] at cut
    have filled : (Text.trim entry).isEmpty = false := by
      rw [← Bool.not_eq_true, String.isEmpty_iff]
      intro empty
      rw [empty] at cut
      cases cut
    simp only [filled, cut, Text.trim_trimStart, columnNames_eq, listed_trimEnd, isEmpty_listed,
      ← Text.isBlankText_eq, Option.map_some]
    cases (Text.isBlankText before || (Text.parts ',' after).all Text.isBlankText) <;> simp

/-- An entry that is not bad gives a table at least one column. -/
theorem ne_nil_of_said {entry table : String} {columns : List String} (fine : isBad entry = false)
    (saying : said entry = some (table, columns)) : columns ≠ [] := by
  obtain ⟨⟨before, after⟩, cut, same⟩ := Option.map_eq_some_iff.mp saying
  obtain ⟨-, rfl⟩ := Prod.mk.inj same
  rw [isBad, cut, Bool.or_eq_false_iff, ← isEmpty_listed] at fine
  exact List.isEmpty_eq_false_iff.mp fine.2

variable {entries : List String}

/-- The partitioning that entries say, which need not all be good. -/
def gathered (entries : List String) : Partitioning :=
  ⟨(entries.filterMap said).reverse⟩

/-- Entries of which none is bad are read as they say, by induction on the entries. -/
theorem read_of_fine (fine : ∀ entry ∈ entries, isBad entry = false) :
    read entries = .ok (gathered entries) := by
  have each : entries.mapM readEntry = .ok (entries.map said) := by
    refine Line.mapM_ok_iff.mpr (List.forall₂_map_right_iff.mpr (List.forall₂_same.mpr ?_))
    intro entry member
    obtain ⟨_, saying⟩ | ⟨bad, _⟩ := readEntry_eq entry
    · exact saying
    · simp [fine entry member] at bad
  rw [read, each]
  simp [gathered, bind, Except.bind, pure, Except.pure, List.filterMap_map]

/-- Entries are refused exactly if one of them is bad. The fault is that of some entry, and entries
have no other faults. -/
theorem read_refuses_iff :
    (∃ message, read entries = .error (.config message)) ↔
      ∃ entry ∈ entries, isBad entry = true := by
  constructor
  · rintro ⟨message, refused⟩
    by_contra none
    have fine : ∀ entry ∈ entries, isBad entry = false := by simpa using none
    simp [read_of_fine fine] at refused
  · rintro ⟨entry, member, bad⟩
    cases each : entries.mapM readEntry with
    | ok saids =>
      obtain ⟨_, fine⟩ := Line.mapM_succeeds_iff.mp ⟨saids, each⟩ entry member
      obtain ⟨fine', _⟩ | ⟨_, _, refused⟩ := readEntry_eq entry
      · simp [bad] at fine'
      · simp [refused] at fine
    | error fault =>
      obtain ⟨before, first, after, _, _, failed⟩ := Line.mapM_error_iff.mp each
      obtain ⟨_, saying⟩ | ⟨_, message, refused⟩ := readEntry_eq first
      · simp [saying] at failed
      · rw [refused] at failed
        obtain rfl := Except.error.inj failed
        exact ⟨message, by rw [read, each]; rfl⟩

/-- A further entry that does not name a table changes nothing about it. -/
theorem Resolves.concat {table entry : String} {columns : List String}
    (resolves : Resolves entries table columns) (other : ¬ Names entry table) :
    Resolves (entries ++ [entry]) table columns := by
  have apart {later : List String} (last : ∀ other ∈ later, ¬ Names other table) :
      ∀ other ∈ later ++ [entry], ¬ Names other table :=
    List.forall_mem_append.mpr ⟨last, List.forall_mem_singleton.mpr other⟩
  cases resolves with
  | @named earlier later entry' _ split saying last =>
    have split' : entries ++ [entry] = earlier ++ entry' :: (later ++ [entry]) := by
      rw [split, List.append_assoc, List.cons_append]
    exact .named split' saying (apart last)
  | unnamed none => exact .unnamed (apart none)

/-- What is gathered for a table is what the last entry gives that names it, by induction from the
last entry. -/
theorem resolves_gathered (entries : List String) (table : String) :
    Resolves entries table ((gathered entries).columns table) := by
  rw [gathered, columns]
  induction entries using List.reverseRecOn with
  | nil => exact .unnamed (by simp)
  | append_singleton earlier entry ih =>
    rw [List.filterMap_append, List.reverse_append]
    cases saying : said entry with
    | none =>
      have other : ¬ Names entry table := by simp [Names, saying]
      simpa [saying] using ih.concat other
    | some pair =>
      obtain ⟨named, columns⟩ := pair
      by_cases same : table = named
      · subst same
        have alone : earlier ++ [entry] = earlier ++ entry :: [] := rfl
        simpa [saying] using Resolves.named alone saying (by simp)
      · have other : ¬ Names entry table := by simp [Names, saying, Ne.symm same]
        have apart : (table == named) = false := by simpa using same
        simpa [saying, List.lookup_cons, apart] using ih.concat other

/-- Columns are given exactly for the tables that entries name. -/
theorem Resolves.filled_iff {table : String} {columns : List String}
    (resolves : Resolves entries table columns) (fine : ∀ entry ∈ entries, isBad entry = false) :
    columns ≠ [] ↔ ∃ entry ∈ entries, Names entry table := by
  cases resolves with
  | named split saying last =>
    have member : _ ∈ entries := split ▸ List.mem_append_right _ List.mem_cons_self
    exact iff_of_true (ne_nil_of_said (fine _ member) saying) ⟨_, member, _, saying⟩
  | unnamed none => simpa using none

end Partitioning

namespace TableWriter

/-- The statement that creates a table, up to where it may be partitioned. -/
def declaration (table : String) (sample : Point) : String :=
  "CREATE TABLE IF NOT EXISTS " ++ table ++ " (" ++
    String.intercalate ", "
      ((columnsOf sample).map columnSql ++ ["timestamp key(" ++ timeColumn ++ ")"]) ++ ")"

/-- The clause that partitions a table by some columns. -/
def hashClause (columns : List String) (count : Nat) : String :=
  " PARTITION BY HASH(" ++ String.intercalate ", " columns ++ ") PARTITIONS " ++ toString count

/-- What stands at the end of the statement. -/
def engine : String :=
  " ENGINE=TimeSeries"

/-- The clause for the columns that a table may be partitioned by. -/
def partitionClause (columns : List String) (count : Nat) : String :=
  if columns = [] then "" else hashClause columns count

/-- The clause that a writer gives for partitions is the one for its columns. -/
theorem partitionSql_eq (w : TableWriter) :
    w.partitionSql = partitionClause w.partitionColumns w.partitions := by
  rw [partitionSql, partitionClause]
  by_cases none : w.partitionColumns = []
  · simp [none]
  · rw [if_neg none, if_neg (by simpa using none)]
    rfl

/-- The clause for some columns is not empty. -/
theorem hashClause_ne_empty (columns : List String) (count : Nat) :
    hashClause columns count ≠ "" := by
  intro empty
  have parts := String.append_eq_empty_iff.mp (String.append_eq_empty_iff.mp empty).1
  have start := (String.append_eq_empty_iff.mp parts.1).1
  exact absurd start (by decide)

/-- A statement has a clause of partitions only if there are columns for it. -/
theorem exists_hashClause_iff (opening : String) (columns : List String) (count : Nat) :
    (∃ columns' count', opening ++ partitionClause columns count ++ engine =
      opening ++ hashClause columns' count' ++ engine) ↔ columns ≠ [] := by
  constructor
  · rintro ⟨columns', count', same⟩ none
    have clause : partitionClause columns count = hashClause columns' count' :=
      (String.append_right_inj _).mp ((String.append_left_inj _).mp same)
    rw [partitionClause, if_pos none] at clause
    exact hashClause_ne_empty _ _ clause.symm
  · intro some
    exact ⟨columns, count, by rw [partitionClause, if_neg some]⟩

end TableWriter

open Partitioning TableWriter

/-- The statement that creates a table, after any calls on a writer for it. -/
theorem Ledger.createSql_laid (table : String) (sample : Point) (layout : Layout)
    (service : Service) (calls : List WriterCall) :
    ((opened table sample layout service).afterAll calls).writer.createSql =
      declaration table sample ++
        partitionClause (layout.partitioning.columns table) layout.partitions ++ engine := by
  obtain ⟨create, _⟩ := (opened table sample layout service).statements_afterAll calls
  rw [create, createSql_eq, partitionSql_eq]
  rfl

/-- Entries for the partitioning of tables are refused exactly if one of them is bad. Else they are
read, and for each table:

* its columns are those that the last entry lists that names it, and there are none if no entry
  does;
* the statement that creates it has a clause of partitions exactly if an entry names it, for all
  samples, layouts with this partitioning, and calls on the writer of the table;
* the clause lists those columns, and nothing stands in its place if there is none.

Proof: entries of which none is bad are gathered as they say, and the last one that names a table is
found by induction from the end. The clause of a writer is that of its columns, whatever it was
asked, and it is empty exactly if there are none. -/
theorem partitionings_are_read_exactly (entries : List String) :
    ((∃ message, Partitioning.read entries = .error (.config message)) ↔
      ∃ entry ∈ entries, isBad entry = true) ∧
    ((∀ entry ∈ entries, isBad entry = false) → ∃ p, Partitioning.read entries = .ok p ∧
      ∀ table, Resolves entries table (p.columns table) ∧
        ∀ (sample : Point) (layout : Layout) (service : Service) (calls : List WriterCall),
          let laid := { layout with partitioning := p }
          let sql := ((Ledger.opened table sample laid service).afterAll calls).writer.createSql
          let opening := declaration table sample
          let named := ∃ entry ∈ entries, Names entry table
          ((∃ columns count, sql = opening ++ hashClause columns count ++ engine) ↔ named) ∧
          (named → sql = opening ++ hashClause (p.columns table) layout.partitions ++ engine) ∧
          (¬ named → sql = opening ++ engine)) := by
  refine ⟨read_refuses_iff, fun fine => ⟨_, read_of_fine fine, fun table => ?_⟩⟩
  have resolves := resolves_gathered entries table
  refine ⟨resolves, fun sample layout service calls => ?_⟩
  intro laid sql opening named
  have filled : (gathered entries).columns table ≠ [] ↔ named := resolves.filled_iff fine
  have created : sql = opening ++
      partitionClause ((gathered entries).columns table) layout.partitions ++ engine :=
    Ledger.createSql_laid table sample laid service calls
  rw [created]
  refine ⟨(exists_hashClause_iff ..).trans filled, fun some => ?_, fun none => ?_⟩
  · rw [partitionClause, if_neg (filled.mpr some)]
  · rw [partitionClause, if_pos (not_not.mp (mt filled.mp none)), String.append_empty]

/-- Entries of which two name the processors, one names a disk, and one is blank. -/
def Partitioning.mixed : List String :=
  ["cpu:hostname", " disk : host, ,device ", "", "cpu: region"]

/-- The last entry for the processors counts, the table of the disk is partitioned by the two
columns that are not blank, and entries with a bad one among them are refused. -/
theorem a_disk_is_partitioned :
    (∃ p, Partitioning.read mixed = .ok p ∧ p.columns "cpu" = ["region"] ∧
      let laid : Layout := { partitioning := p }
      let l := (Ledger.opened "disk" Ledger.timed laid .agreeable).afterAll [.flush, .ensureRemote]
      l.writer.createSql = declaration "disk" Ledger.timed ++
        " PARTITION BY HASH(host, device) PARTITIONS 8" ++ engine) ∧
    ∃ message, Partitioning.read (":host" :: mixed) = .error (.config message) := by
  obtain ⟨p, read, each⟩ := (partitionings_are_read_exactly mixed).2 (by decide)
  have refused := (partitionings_are_read_exactly (":host" :: mixed)).1.mpr
    ⟨":host", List.mem_cons_self, by decide⟩
  have value : Partitioning.read mixed = .ok
      ⟨[("cpu", ["region"]), ("disk", ["host", "device"]), ("cpu", ["hostname"])]⟩ := by
    decide +kernel
  obtain rfl := Except.ok.inj (read.symm.trans value)
  obtain ⟨_, clause, _⟩ := (each "disk").2 Ledger.timed {} .agreeable [.flush, .ensureRemote]
  have named : ∃ entry ∈ mixed, Names entry "disk" :=
    ⟨" disk : host, ,device ", by decide, ["host", "device"], by decide +kernel⟩
  exact ⟨⟨_, read, rfl, clause named⟩, refused⟩

end SeriesBench
