import Mathlib.Data.List.Nodup
import Mathlib.Data.List.TakeWhile
import SeriesBench.Proofs.Line.Decoded
import SeriesBench.Table.Writer

/-!
# Statements in a journal

The statements that a service has prepared can be read off its journal: each successful
preparation is one, numbered in order. What was asked about a text of a statement, its
preparation, the inserts through it and its end, are the events about that text, and the
events about different texts do not touch each other.

The insert statement of a table names the table in front of its first blank. So tables whose
names hold no blank have different insert statements, whatever their columns are.
-/

namespace SeriesBench

namespace Event

/-- The text of the statement that an event is about. -/
def about (event : Event) : Option String :=
  match event.call with
  | .execute _ => none
  | .prepare sql => some sql
  | .insert statement _ => some statement.sql
  | .close statement => some statement.sql

/-- The text that an event prepares with success. -/
def prepared? : Event → Option String
  | ⟨.prepare sql, true⟩ => some sql
  | _ => none

/-- Whether an event closes a statement, with success or not. -/
def closes (statement : Statement) (event : Event) : Bool :=
  event.call = .close statement

/-- An event prepares with success exactly if there is a text that it prepares. -/
theorem prepares_eq (event : Event) : event.prepares = event.prepared?.isSome := by
  rcases event with ⟨call, _ | _⟩ <;> cases call <;> rfl

/-- An event that prepares a text with success is the one such event for it, and is about it. -/
theorem about_of_prepared {event : Event} {sql : String} (prepared : event.prepared? = some sql) :
    event.about = some sql ∧ event = ⟨.prepare sql, true⟩ := by
  rcases event with ⟨call, _ | _⟩ <;> cases call <;> simp_all [prepared?, about]

end Event

namespace Journal

/-- The statements that were prepared, in order. -/
def statements (journal : Journal) : List Statement :=
  (journal.filterMap Event.prepared?).mapIdx fun id sql => ⟨id, sql⟩

/-- The events about the statements with a text. -/
def about (sql : String) (journal : Journal) : List Event :=
  journal.filter fun event => event.about = some sql

/-- As many statements were prepared as there are texts that were. -/
theorem prepared_eq (journal : Journal) :
    journal.prepared = (journal.filterMap Event.prepared?).length := by
  induction journal with
  | nil => rfl
  | cons event rest ih =>
    unfold prepared at ih ⊢
    rw [List.countP_cons, ih, Event.prepares_eq, List.filterMap_cons]
    cases event.prepared? <;> simp

/-- The texts of the statements are those that were prepared, in order. -/
theorem texts_statements (journal : Journal) :
    journal.statements.map Statement.sql = journal.filterMap Event.prepared? := by
  apply List.ext_getElem <;> simp [statements]

/-- The statements of a second part are numbered on from those of the first. -/
theorem statements_append (first second : Journal) :
    (first ++ second).statements = first.statements ++
      (second.filterMap Event.prepared?).mapIdx fun id sql => ⟨id + first.prepared, sql⟩ := by
  simp [statements, List.mapIdx_append, prepared_eq]

/-- A statement stays prepared. -/
theorem mem_statements_append {first : Journal} {statement : Statement}
    (member : statement ∈ first.statements) (second : Journal) :
    statement ∈ (first ++ second).statements := by
  rw [statements_append]
  exact List.mem_append_left _ member

/-- A text that is prepared is prepared as the statement that the service gives. -/
theorem mem_statements_prepare (journal : Journal) (sql : String) :
    (⟨journal.prepared, sql⟩ : Statement) ∈ 
      (journal ++ ([⟨.prepare sql, true⟩] : Journal)).statements := by
  rw [statements_append]
  have one : ([⟨.prepare sql, true⟩] : Journal).filterMap Event.prepared? = [sql] := rfl
  simp [one]

/-- No statement is in the list of statements twice. -/
theorem statements_nodup (journal : Journal) : journal.statements.Nodup := by
  have ids : journal.statements.map Statement.id = List.range journal.statements.length := by
    apply List.ext_getElem <;> simp [statements]
  exact List.Nodup.of_map Statement.id (ids ▸ List.nodup_range)

/-- The number that the next statement will have is not taken yet. -/
theorem not_mem_statements (journal : Journal) (sql : String) :
    (⟨journal.prepared, sql⟩ : Statement) ∉ journal.statements := by
  intro member
  obtain ⟨i, inside, same⟩ := List.mem_mapIdx.mp member
  have number : i = journal.prepared := congrArg Statement.id same
  rw [journal.prepared_eq] at number
  omega

/-- The events about a text are those of two parts in turn. -/
@[simp] theorem about_append (sql : String) (first second : Journal) :
    (first ++ second).about sql = first.about sql ++ second.about sql :=
  List.filter_append first second

/-- An event of a journal is about a text as it is by itself. -/
theorem mem_about {sql : String} {journal : Journal} {event : Event} :
    event ∈ journal.about sql ↔ event ∈ journal ∧ event.about = some sql := by
  simp [about]

/-- Events about other texts are not about this one. -/
theorem about_other {sql : String} {journal : Journal}
    (other : ∀ event ∈ journal, event.about ≠ some sql) : journal.about sql = [] :=
  List.filter_eq_nil_iff.mpr fun event member => by simpa using other event member

/-- A statement was prepared by an event about its text. -/
theorem prepare_of_mem_statements {journal : Journal} {statement : Statement}
    (member : statement ∈ journal.statements) :
    (⟨.prepare statement.sql, true⟩ : Event) ∈ journal.about statement.sql := by
  have text : statement.sql ∈ journal.filterMap Event.prepared? := by
    rw [← texts_statements]
    exact List.mem_map_of_mem member
  obtain ⟨event, inJournal, prepared⟩ := List.mem_filterMap.mp text
  obtain ⟨about, rfl⟩ := Event.about_of_prepared prepared
  exact mem_about.mpr ⟨inJournal, about⟩

/-- How often a text was prepared shows in the events about it. -/
theorem count_texts (journal : Journal) (sql : String) :
    (journal.filterMap Event.prepared?).count sql =
      (journal.about sql).count ⟨.prepare sql, true⟩ := by
  induction journal with
  | nil => rfl
  | cons event rest ih =>
    by_cases prepared : event.prepared? = some sql
    · obtain ⟨its, rfl⟩ := Event.about_of_prepared prepared
      have first : about sql (⟨.prepare sql, true⟩ :: rest) =
          ⟨.prepare sql, true⟩ :: about sql rest := by
        simp [about, its]
      rw [first, List.filterMap_cons, prepared, List.count_cons_self, List.count_cons_self, ih]
    · have other : event ≠ ⟨.prepare sql, true⟩ := by
        rintro rfl
        exact prepared rfl
      have same : (about sql (event :: rest)).count ⟨.prepare sql, true⟩ =
          (about sql rest).count ⟨.prepare sql, true⟩ := by
        by_cases its : event.about = some sql
        · simp [about, its, other]
        · simp [about, its]
      rw [same, ← ih, List.filterMap_cons]
      cases text : event.prepared? with
      | none => rfl
      | some found =>
        have apart : found ≠ sql := by
          rintro rfl
          exact prepared text
        simp [apart]

end Journal

/-- The text that inserts a row into a table with columns of these names. -/
def insertText (table : String) (names : List String) : String :=
  let listed := String.intercalate ", " names
  let places := String.intercalate ", " (names.map fun _ => "?")
  s!"INSERT INTO {table} ({listed}) VALUES ({places})"

/-- The insert statement of a writer is the one for its table and the names of its columns. -/
theorem TableWriter.insertSql_eq (w : TableWriter) :
    w.insertSql = insertText w.table (w.columns.map (·.name)) := by
  unfold insertSql insertText
  rw [List.map_map]
  rfl

/-- The table that the text of an insert statement names: what stands behind the keywords, up
to a blank. -/
def tableIn (sql : String) : List Char :=
  (sql.toList.drop 12).takeWhile fun c => !Text.isAsciiBlank c

/-- It is what the name of the table has in front of its first blank. -/
theorem tableIn_insertText (table : String) (names : List String) :
    tableIn (insertText table names) = table.toList.takeWhile fun c => !Text.isAsciiBlank c := by
  obtain ⟨rest, spelled⟩ : ∃ rest, (insertText table names).toList =
      "INSERT INTO ".toList ++ (table.toList ++ ' ' :: rest) := by
    refine ⟨'(' :: (String.intercalate ", " names ++ (") VALUES (" ++
      (String.intercalate ", " (names.map fun _ => "?") ++ ")"))).toList, ?_⟩
    unfold insertText
    simp only [String.toList_append, List.append_assoc]
    rfl
  have keywords : "INSERT INTO ".toList.length = 12 := rfl
  rw [tableIn, spelled, ← keywords, List.drop_left, List.takeWhile_append]
  split
  · rename_i whole
    have blank : Text.isAsciiBlank ' ' = true := rfl
    have all := List.takeWhile_prefix (fun c => !Text.isAsciiBlank c) (l := table.toList)
    simp [blank, all.eq_of_length whole]
  · rfl

/-- The insert statement of a table with a plain name tells the table. -/
theorem table_of_insertText {first second : String} {names others : List String}
    (same : insertText first names = insertText second others)
    (plain : ∀ c ∈ first.toList, Text.isAsciiBlank c = false)
    (plain' : ∀ c ∈ second.toList, Text.isAsciiBlank c = false) : first = second := by
  have tables := congrArg tableIn same
  rw [tableIn_insertText, tableIn_insertText, List.takeWhile_eq_self_iff.mpr (by simpa using plain),
    List.takeWhile_eq_self_iff.mpr (by simpa using plain')] at tables
  exact String.toList_inj.mp tables

end SeriesBench
