import SeriesBench.Proofs.Remote.Stories

/-!
# The books of a load

The journal tells the story of every writer of a load at once, and nothing besides. Tables have
different names, and these hold no blank, so that no two stories are about the same text.

When all writers are closed, the books are settled: each statement was closed once and not used
after that, what was inserted through it has its columns, and no table has two of them.
-/

namespace SeriesBench

/-- The journal tells the stories of some writers, all of different tables, and is about no
other insert statements than theirs. -/
structure Books (writers : List TableWriter) (journal : Journal) : Prop where
  distinct : (writers.map TableWriter.table).Nodup
  plain : ∀ w ∈ writers, ∀ c ∈ w.table.toList, Text.isAsciiBlank c = false
  told : ∀ w ∈ writers, w.Told journal
  known : ∀ event ∈ journal, ∀ sql, event.about = some sql → ∃ w ∈ writers, w.insertSql = sql

/-- A member of a list is a given element of it or one of the others. -/
theorem mem_cut {x y : α} {before behind : List α} :
    x ∈ before ++ y :: behind ↔ x = y ∨ x ∈ before ++ behind := by
  simp only [List.mem_append, List.mem_cons]
  tauto

/-- When no two writers have the same table, the table of one of them is not that of any other. -/
theorem table_ne_of_distinct {before behind : List TableWriter} {w v : TableWriter}
    (distinct : ((before ++ w :: behind).map TableWriter.table).Nodup)
    (member : v ∈ before ++ behind) : v.table ≠ w.table := by
  rw [(List.perm_middle.map TableWriter.table).nodup_iff, List.map_cons, List.nodup_cons]
    at distinct
  exact fun same => distinct.1 (same ▸ List.mem_map_of_mem member)

namespace Books

variable {journal after : Journal} {before behind : List TableWriter} {w other : TableWriter}

/-- Writers of different tables have different insert statements. -/
theorem insertSql_ne (first : ∀ c ∈ w.table.toList, Text.isAsciiBlank c = false)
    (second : ∀ c ∈ other.table.toList, Text.isAsciiBlank c = false)
    (apart : w.table ≠ other.table) : w.insertSql ≠ other.insertSql := by
  rw [w.insertSql_eq, other.insertSql_eq]
  exact fun same => apart (table_of_insertText same first second)

/-- There is nothing in the books of nobody. -/
theorem empty : Books [] [] :=
  ⟨by simp, by simp, by simp, by simp⟩

/-- A writer for a new table has no story yet. -/
theorem create (books : Books (before ++ behind) journal) {table : String} {sample : Point}
    {layout : Layout} (plain : ∀ c ∈ table.toList, Text.isAsciiBlank c = false)
    (new : table ∉ (before ++ behind).map TableWriter.table) :
    Books (before ++ .create table sample layout :: behind) journal := by
  refine ⟨?_, ?_, ?_, ?_⟩
  · have perm : (before ++ .create table sample layout :: behind).Perm
        (.create table sample layout :: (before ++ behind)) := List.perm_middle
    rw [(perm.map TableWriter.table).nodup_iff, List.map_cons, List.nodup_cons]
    exact ⟨new, books.distinct⟩
  · intro v member
    rcases mem_cut.mp member with rfl | old
    · exact plain
    · exact books.plain v old
  · intro v member
    rcases mem_cut.mp member with rfl | old
    · refine Story.unprepared ?_
      intro event inEvents
      obtain ⟨inJournal, about⟩ := Journal.mem_about.mp inEvents
      obtain ⟨u, inWriters, same⟩ := books.known event inJournal _ about
      have apart : u.table ≠ table := by
        rintro rfl
        exact new (List.mem_map_of_mem inWriters)
      exact absurd same (insertSql_ne (books.plain u inWriters) plain apart)
    · exact books.told v old
  · intro event inJournal sql about
    obtain ⟨u, inWriters, same⟩ := books.known event inJournal sql about
    exact ⟨u, mem_cut.mpr (Or.inr inWriters), same⟩

/-- When one writer speaks, the stories of the others stay as they are. -/
theorem speak (books : Books (before ++ w :: behind) journal)
    (spoke : TableWriter.Spoke w other journal after) :
    Books (before ++ other :: behind) after := by
  obtain ⟨table, columns, told, events, rfl, its⟩ := spoke
  have own : w ∈ before ++ w :: behind := by simp
  have sameSql : other.insertSql = w.insertSql := by
    rw [w.insertSql_eq, other.insertSql_eq, table, columns]
  have tables : (before ++ other :: behind).map TableWriter.table =
      (before ++ w :: behind).map TableWriter.table := by simp [table]
  have split (v : TableWriter) (member : v ∈ before ++ other :: behind) :
      v = other ∨ v ∈ before ++ w :: behind ∧ v.table ≠ w.table := by
    refine (mem_cut.mp member).imp_right fun others => ?_
    exact ⟨mem_cut.mpr (Or.inr others), table_ne_of_distinct books.distinct others⟩
  refine ⟨tables ▸ books.distinct, ?_, ?_, ?_⟩
  · intro v member
    rcases split v member with rfl | ⟨old, _⟩
    · exact table ▸ books.plain w own
    · exact books.plain v old
  · intro v member
    rcases split v member with rfl | ⟨old, apart⟩
    · exact told
    · refine Story.append (books.told v old) ?_
      intro event inEvents about
      exact insertSql_ne (books.plain v old) (books.plain w own) apart
        (its event inEvents _ about)
  · intro event member sql about
    rcases List.mem_append.mp member with old | new
    · obtain ⟨u, inWriters, same⟩ := books.known event old sql about
      rcases mem_cut.mp inWriters with rfl | others
      · exact ⟨other, by simp, by rw [sameSql, same]⟩
      · exact ⟨u, mem_cut.mpr (Or.inr others), same⟩
    · exact ⟨other, by simp, by rw [sameSql, its event new sql about]⟩

end Books

section Settled

variable {sql : String} {fields : List FieldDef} {journal : Journal}

/-- Preparations that fail are none that succeed. -/
theorem count_tries {tries : List Event} (failed : ∀ event ∈ tries, event = ⟨.prepare sql, false⟩) :
    tries.count ⟨.prepare sql, true⟩ = 0 := by
  rw [List.count_eq_zero]
  intro member
  simpa using failed _ member

/-- Inserts are no preparations. -/
theorem count_inserts {inserts : List Event} {statement : Statement}
    (through : ∀ event ∈ inserts, event.Inserts statement fields) :
    inserts.count ⟨.prepare sql, true⟩ = 0 := by
  rw [List.count_eq_zero]
  intro member
  obtain ⟨record, succeeded, same, _⟩ := through _ member
  simp at same

/-- In a story no more than one preparation succeeds. -/
theorem Story.count_le_one {held : Option Statement} {closed : Bool}
    (story : Story sql fields journal held closed) :
    (journal.about sql).count ⟨.prepare sql, true⟩ ≤ 1 := by
  cases story with
  | unprepared events => simp [count_tries events]
  | prepared tries inserts registered named events failed through =>
    simp [events, count_tries failed, count_inserts through]
  | ended tries inserts succeeded registered named events failed through =>
    simp [events, count_tries failed, count_inserts through]

/-- No text is prepared twice. -/
theorem Books.texts_nodup {writers : List TableWriter} (books : Books writers journal) :
    (journal.statements.map Statement.sql).Nodup := by
  rw [Journal.texts_statements, List.nodup_iff_count_le_one]
  intro sql
  rw [Journal.count_texts]
  by_cases some : ∃ w ∈ writers, w.insertSql = sql
  · obtain ⟨w, member, rfl⟩ := some
    exact (books.told w member).count_le_one
  · have none : journal.about sql = [] := by
      apply Journal.about_other
      intro event inJournal about
      exact some (books.known event inJournal sql about)
    simp [none]

/-- Every statement was prepared for a writer. -/
theorem Books.named {writers : List TableWriter} (books : Books writers journal)
    {statement : Statement} (member : statement ∈ journal.statements) :
    ∃ w ∈ writers, w.insertSql = statement.sql := by
  obtain ⟨inJournal, about⟩ := Journal.mem_about.mp (Journal.prepare_of_mem_statements member)
  exact books.known _ inJournal _ about

/-- The statement that a closed writer has used is the one with its text. -/
theorem Books.ended {writers : List TableWriter} (books : Books writers journal)
    (finished : ∀ w ∈ writers, w.closed = true) {statement : Statement}
    (member : statement ∈ journal.statements) :
    ∃ w ∈ writers, w.insertSql = statement.sql ∧ ∃ tries inserts succeeded,
      journal.about statement.sql = tries ++ ⟨.prepare statement.sql, true⟩ :: inserts ++
        [⟨.close statement, succeeded⟩] ∧
      (∀ event ∈ tries, event = ⟨.prepare statement.sql, false⟩) ∧
      ∀ event ∈ inserts, event.Inserts statement w.fields := by
  have preparation := Journal.prepare_of_mem_statements member
  obtain ⟨w, inWriters, same⟩ := books.named member
  have story := books.told w inWriters
  refine ⟨w, inWriters, same, ?_⟩
  unfold TableWriter.Told at story
  rw [finished w inWriters, same] at story
  generalize w.statement = held at story
  cases story with
  | unprepared events => exact absurd (events _ preparation) (by simp)
  | @ended other tries inserts succeeded registered named events failed through =>
    obtain rfl : other = statement :=
      List.inj_on_of_nodup_map books.texts_nodup registered member named
    exact ⟨tries, inserts, succeeded, events, failed, through⟩

/-- Only the last event of a finished story closes the statement. -/
theorem closes_only_last {tries inserts : List Event} {statement : Statement}
    (failed : ∀ event ∈ tries, event = ⟨.prepare sql, false⟩)
    (through : ∀ event ∈ inserts, event.Inserts statement fields) :
    ∀ event ∈ tries ++ ⟨.prepare sql, true⟩ :: inserts, event.closes statement = false := by
  intro event member
  rcases List.mem_append.mp member with tried | later
  · rw [failed event tried]
    simp [Event.closes]
  · rcases List.mem_cons.mp later with rfl | inserted
    · simp [Event.closes]
    · obtain ⟨record, succeeded, rfl, _⟩ := through event inserted
      simp [Event.closes]

/-- An event that closes a statement is about its text. -/
theorem about_of_closes {statement : Statement} {event : Event}
    (closes : event.closes statement = true) : event.about = some statement.sql := by
  have call : event.call = .close statement := by simpa [Event.closes] using closes
  simp [Event.about, call]

/-- Once all writers are closed, each statement was closed exactly once. -/
theorem Books.closed_once {writers : List TableWriter} (books : Books writers journal)
    (finished : ∀ w ∈ writers, w.closed = true) {statement : Statement}
    (member : statement ∈ journal.statements) :
    journal.countP (Event.closes statement) = 1 := by
  obtain ⟨w, _, _, tries, inserts, succeeded, events, failed, through⟩ :=
    books.ended finished member
  have shown : journal.countP (Event.closes statement) =
      (journal.about statement.sql).countP (Event.closes statement) := by
    rw [Journal.about, List.countP_filter]
    apply List.countP_congr
    intro event _
    simp only [Bool.and_eq_true, decide_eq_true_eq]
    exact ⟨fun closes => ⟨closes, about_of_closes closes⟩, fun both => both.1⟩
  have none : (tries ++ ⟨.prepare statement.sql, true⟩ :: inserts).countP
      (Event.closes statement) = 0 := by
    rw [List.countP_eq_zero]
    intro event inside
    simp [closes_only_last failed through event inside]
  rw [shown, events, List.countP_append, none]
  simp [Event.closes]

/-- Nothing is asked of a statement after its end. The close would else not be the last event of the
story. -/
theorem Books.silent_after_close {writers : List TableWriter} (books : Books writers journal)
    (finished : ∀ w ∈ writers, w.closed = true) {statement : Statement}
    (member : statement ∈ journal.statements) {first last : Journal} {event : Event}
    (cut : journal = first ++ event :: last) (closes : event.closes statement = true) :
    ∀ later ∈ last, later.about ≠ some statement.sql := by
  obtain ⟨w, _, _, tries, inserts, succeeded, events, failed, through⟩ :=
    books.ended finished member
  have its := about_of_closes closes
  have parts : journal.about statement.sql =
      Journal.about statement.sql first ++ event :: Journal.about statement.sql last := by
    simp [cut, Journal.about, its]
  intro later inLast about
  have some : Journal.about statement.sql last ≠ [] :=
    List.ne_nil_of_mem (Journal.mem_about.mpr ⟨inLast, about⟩)
  have early : event ∈ (journal.about statement.sql).dropLast := by
    rw [parts, List.dropLast_append_of_ne_nil (by simp), List.dropLast_cons_of_ne_nil some]
    simp
  rw [events, List.dropLast_concat] at early
  simp [closes_only_last failed through event early] at closes

/-- What is inserted through a statement has its columns. -/
theorem Books.insert_fits {writers : List TableWriter} (books : Books writers journal)
    {event : Event} (member : event ∈ journal) {statement : Statement} {record : Record}
    (call : event.call = .insert statement record) :
    statement ∈ journal.statements ∧
      ∃ w ∈ writers, statement.sql = w.insertSql ∧ record.fields = w.fields := by
  have about : event.about = some statement.sql := by simp [Event.about, call]
  obtain ⟨w, inWriters, same⟩ := books.known event member _ about
  have inAbout : event ∈ journal.about w.insertSql :=
    Journal.mem_about.mpr ⟨member, about.trans (congrArg some same.symm)⟩
  have inserted {other : Statement} {inserts : List Event}
      (through : ∀ event ∈ inserts, event.Inserts other w.fields) (inside : event ∈ inserts) :
      statement = other ∧ record.fields = w.fields := by
    obtain ⟨otherRecord, succeeded, rfl, fields⟩ := through event inside
    simp only [Call.insert.injEq] at call
    exact ⟨call.1.symm, call.2 ▸ fields⟩
  have story := books.told w inWriters
  unfold TableWriter.Told at story
  generalize w.statement = held, w.closed = closed at story
  cases story with
  | unprepared events => simp [events event inAbout] at call
  | prepared tries inserts registered named events failed through =>
    rw [events] at inAbout
    rcases List.mem_append.mp inAbout with tried | later
    · simp [failed event tried] at call
    · rcases List.mem_cons.mp later with rfl | inside
      · simp at call
      · obtain ⟨rfl, fields⟩ := inserted through inside
        exact ⟨registered, w, inWriters, named, fields⟩
  | ended tries inserts succeeded registered named events failed through =>
    rw [events] at inAbout
    rcases List.mem_append.mp inAbout with earlier | last
    · rcases List.mem_append.mp earlier with tried | later
      · simp [failed event tried] at call
      · rcases List.mem_cons.mp later with rfl | inside
        · simp at call
        · obtain ⟨rfl, fields⟩ := inserted through inside
          exact ⟨registered, w, inWriters, named, fields⟩
    · obtain rfl := List.mem_singleton.mp last
      simp at call

/-- The statement of a writer names its table. -/
theorem Books.tableIn_insertSql {writers : List TableWriter} (books : Books writers journal)
    {w : TableWriter} (member : w ∈ writers) :
    tableIn w.insertSql = w.table.toList := by
  rw [w.insertSql_eq, tableIn_insertText]
  exact List.takeWhile_eq_self_iff.mpr (by simpa using books.plain w member)

/-- No two statements name the same table. -/
theorem Books.tables_nodup {writers : List TableWriter} (books : Books writers journal) :
    (journal.statements.map fun statement => tableIn statement.sql).Nodup := by
  refine List.Nodup.map_on ?_ (List.Nodup.of_map _ books.texts_nodup)
  intro first inFirst second inSecond same
  obtain ⟨w, member, text⟩ := books.named inFirst
  obtain ⟨v, other, text'⟩ := books.named inSecond
  rw [← text, ← text', books.tableIn_insertSql member, books.tableIn_insertSql other,
    String.toList_inj] at same
  obtain rfl := List.inj_on_of_nodup_map books.distinct member other same
  exact List.inj_on_of_nodup_map books.texts_nodup inFirst inSecond (text.symm.trans text')

/-- No table has two statements, whatever their columns. -/
theorem Books.one_for_table {writers : List TableWriter} (books : Books writers journal) :
    journal.statements.Pairwise fun first second => ∀ table names others,
      first.sql = insertText table names → second.sql ≠ insertText table others := by
  refine (List.pairwise_map.mp books.tables_nodup).imp ?_
  intro first second apart table names others firstText secondText
  exact apart (by rw [firstText, secondText, tableIn_insertText, tableIn_insertText])

end Settled

end SeriesBench
