import SeriesBench.Proofs.Load.Progress
import SeriesBench.Proofs.Load.Staff
import SeriesBench.Proofs.Remote.Obliging

/-!
# The life of a statement

When all actors of a load are done, the writers that are still open are closed: those of the
workers that have not failed, and the shared ones. The others were closed after their worker
failed. So at the end of every load, whatever failed in it, every statement that was prepared
was closed once and not used after that, and each table had one statement at most, through which
only records with its columns went.

Nothing is assumed of the service, of the input or of the order of steps. A call that fails is in
the journal like one that succeeds.
-/

namespace SeriesBench

namespace Load

open Pipeline

/-- Closing what some workers own shuts their registries and keeps the books. -/
theorem closeWorkers_books (indices : List Nat) (distinct : indices.Nodup) {crew : Crew}
    {link : Link} (lone : crew.shared = none)
    (left : ∀ i ∈ indices, ∀ r, crew.own[i]? = some r → r.Live)
    (finished : ∀ i ∉ indices, ∀ r, crew.own[i]? = some r → r.Shut)
    (books : Books crew.writers link.journal) :
    (closeWorkers crew link indices).2.1.shared = none ∧
      (∀ (i : Nat) (r : Registry), (closeWorkers crew link indices).2.1.own[i]? = some r → r.Shut) ∧
      Books (closeWorkers crew link indices).2.1.writers
        (closeWorkers crew link indices).2.2.journal := by
  induction indices generalizing crew link with
  | nil => exact ⟨lone, fun i r own => finished i List.not_mem_nil r own, books⟩
  | cons index rest ih =>
    have same : (closeWorkers crew link (index :: rest)).2 =
        (closeWorkers (crew.closeWorker index link).2.1 (crew.closeWorker index link).2.2 rest).2 :=
      rfl
    obtain ⟨absent, restDistinct⟩ := List.nodup_cons.mp distinct
    rw [same]
    rcases Crew.closeWorker_cases crew index link with ⟨unheld, kept⟩ | ⟨r, _, owner, closed⟩
    · rw [kept]
      have unowned : crew.own[index]? = none := unheld.resolve_left (by simp [lone])
      refine ih restDistinct lone ?_ ?_ books
      · exact fun i member => left i (List.mem_cons_of_mem _ member)
      · intro i outside r own
        have apart : i ≠ index := by
          rintro rfl
          simp [unowned] at own
        exact finished i (by simp [apart, outside]) r own
    · rw [closed]
      have its : crew.own[index]? = some r := by simpa [Crew.registryOf, lone] using owner
      have live := left index List.mem_cons_self r its
      obtain ⟨shut, _, books⟩ := Crew.books_close live owner books
      refine ih restDistinct (by simp [Crew.shared_put, lone]) ?_ ?_ books
      · intro i member other own
        rcases Crew.own_of_put own with before | ⟨_, rfl, _⟩
        · exact left i (List.mem_cons_of_mem _ member) other before
        · exact absurd member absent
      · intro i outside other own
        by_cases here : i = index
        · subst here
          have back := @Crew.own_of_put_self crew i r (r.close link).2.1 owner lone
          exact Option.some.inj (back.symm.trans own) ▸ shut
        · rcases Crew.own_of_put own with before | ⟨_, same, _⟩
          · exact finished i (by simp [here, outside]) other before
          · exact absurd same here

/-- With a shared registry the workers own nothing that could be closed. -/
theorem closeWorkers_shared {crew : Crew} (common : crew.shared.isSome) (link : Link)
    (indices : List Nat) : (closeWorkers crew link indices).2 = (crew, link) := by
  induction indices with
  | nil => rfl
  | cons index rest ih =>
    have same : (closeWorkers crew link (index :: rest)).2 =
        (closeWorkers (crew.closeWorker index link).2.1 (crew.closeWorker index link).2.2 rest).2 :=
      rfl
    rw [same]
    rcases Crew.closeWorker_cases crew index link with ⟨_, kept⟩ | ⟨_, lone, _⟩
    · rw [kept]
      exact ih
    · simp [lone] at common

/-- The workers that are left to be closed are those that have not failed. -/
theorem mem_survivors {s : Pipeline} (finished : s.isOver = true) {i : Nat} {worker : Worker}
    (member : s.workers[i]? = some worker) : i ∈ survivors s ↔ ¬ worker.duty.HasClosed := by
  have inside := (Array.getElem?_eq_some_iff.mp member).1
  simp only [survivors, List.mem_filter, List.mem_range, inside, true_and, member]
  rcases duty_of_over finished member with ended | ⟨fault, failed⟩
  · simp [ended, Duty.fault?, Duty.HasClosed]
  · simp [failed, Duty.fault?, Duty.HasClosed]

/-- Shut registries hold closed writers only. -/
theorem closed_of_shut {crew : Crew}
    (shut : ∀ r ∈ crew.registries, r.Shut) : ∀ w ∈ crew.writers, w.closed = true := by
  intro w member
  obtain ⟨r, inRegistries, inWriters⟩ := List.mem_flatMap.mp member
  exact (shut r inRegistries).closed w inWriters

/-- At the end of a load every writer is closed, and the journal tells the stories of all of
them. -/
theorem closeAll_books {s : Pipeline} (formed : s.Formed) (staffed : s.Staffed)
    (finished : s.isOver = true) :
    (∀ w ∈ (closeAll s).2.1.writers, w.closed = true) ∧
      Books (closeAll s).2.1.writers (closeAll s).2.2.journal := by
  have same : (closeAll s).2 = (Crew.closeShared (closeWorkers s.crew s.link (survivors s)).2.1
      (closeWorkers s.crew s.link (survivors s)).2.2).2 := rfl
  rw [same]
  cases shared : s.crew.shared with
  | some r =>
    rw [closeWorkers_shared (by simp [shared])]
    have owner : s.crew.registryOf 0 = some r := by simp [Crew.registryOf, shared]
    obtain ⟨shut, _, books⟩ := Crew.books_close (staffed.shared r shared) owner staffed.books
    have closed : (s.crew.closeShared s.link).2 =
        (s.crew.put 0 (r.close s.link).2.1, (r.close s.link).2.2) := by
      simp [Crew.closeShared, Crew.put, shared]
    rw [closed]
    refine ⟨closed_of_shut ?_, books⟩
    intro other member
    rcases List.mem_append.mp member with own | its
    · obtain ⟨i, found⟩ := List.mem_iff_getElem?.mp own
      rw [Array.getElem?_toList] at found
      simp only [Crew.put, shared] at found
      obtain ⟨writers, active⟩ := staffed.spare (by simp [shared]) i other found
      exact ⟨active, by simp [writers]⟩
    · obtain rfl : other = (r.close s.link).2.1 := by
        simpa [Crew.put, shared] using its
      exact shut
  | none =>
    have worker {i : Nat} {r : Registry} (own : s.crew.own[i]? = some r) :
        ∃ worker, s.workers[i]? = some worker := by
      have inside := (Array.getElem?_eq_some_iff.mp own).1
      rw [formed.own, ← formed.workers] at inside
      exact ⟨_, Array.getElem?_eq_getElem inside⟩
    obtain ⟨lone, shut, books⟩ := closeWorkers_books (survivors s)
      (List.nodup_range.filter _) shared
      (fun i member r own => by
        obtain ⟨worker, holder⟩ := worker own
        exact staffed.live i r worker own holder ((mem_survivors finished holder).mp member))
      (fun i absent r own => by
        obtain ⟨worker, holder⟩ := worker own
        have failed := (mem_survivors finished holder).not.mp absent
        exact staffed.shut i r worker own holder (not_not.mp failed))
      staffed.books
    have closed : (Crew.closeShared (closeWorkers s.crew s.link (survivors s)).2.1
        (closeWorkers s.crew s.link (survivors s)).2.2).2 =
        (closeWorkers s.crew s.link (survivors s)).2 := by
      simp only [Crew.closeShared, lone]
    rw [closed]
    refine ⟨closed_of_shut ?_, books⟩
    intro other member
    rcases List.mem_append.mp member with own | its
    · obtain ⟨i, found⟩ := List.mem_iff_getElem?.mp own
      rw [Array.getElem?_toList] at found
      exact shut i other found
    · simp [lone] at its

/-- A load reports its link as it is when everything is closed. -/
theorem link_result (s : Pipeline) : (result s).2 = (closeAll s).2.2 := by
  unfold result
  rcases closeAll s with ⟨closed, crew, link⟩
  dsimp only
  split <;> rfl

/-- The statements of a load, whatever its input, plan and schedule are, whatever the service
answers, and however it ends:

* every statement that was prepared inserts into some table, is closed exactly once, and nothing
  is inserted through it after that;
* every insert goes through a prepared statement, and the record has the columns of the text
  that the statement was prepared from;
* of each table at most one preparation succeeds.

Proof: every step keeps `Staffed`, whose books tell the story of each writer: it is prepared at most
once with success, then inserted through, then closed. Closing all that is left ends every story,
and what is claimed of a statement is read off the story of its writer. -/
theorem statements_are_closed_once {plan : LoadPlan} (sound : plan.Sound) (chunks : List Chunk)
    (service : Service) {s : Pipeline} (ends : Ends plan (.ofChunks chunks) (.fresh service) s) :
    let journal := (result s).2.journal
    (∀ statement ∈ journal.statements,
      (∃ table names, statement.sql = insertText table names) ∧
      journal.countP (Event.closes statement) = 1 ∧
      ∀ before event after, journal = before ++ event :: after → event.closes statement = true →
        ∀ later ∈ after, ∀ record, later.call ≠ .insert statement record) ∧
    (∀ event ∈ journal, ∀ statement record, event.call = .insert statement record →
      statement ∈ journal.statements ∧
      ∃ table, statement.sql = insertText table (record.fields.map FieldDef.name)) ∧
    journal.statements.Pairwise fun first second => ∀ table names others,
      first.sql = insertText table names → second.sql ≠ insertText table others := by
  obtain ⟨router, schedule, made, ran, finished⟩ := ends
  obtain ⟨formed, _, staffed⟩ := reached sound made (.ofChunks chunks) service ran
  obtain ⟨closed, books⟩ := closeAll_books formed staffed finished
  simp only [link_result]
  refine ⟨?_, ?_, books.one_for_table⟩
  · intro statement member
    obtain ⟨w, _, text⟩ := books.named member
    refine ⟨⟨w.table, _, text.symm.trans w.insertSql_eq⟩, books.closed_once closed member, ?_⟩
    intro before event after cut closes later inAfter record inserts
    refine books.silent_after_close closed member cut closes later inAfter ?_
    simp [Event.about, inserts]
  · intro event member statement record inserts
    obtain ⟨prepared, w, _, text, fields⟩ := books.insert_fits member inserts
    refine ⟨prepared, w.table, ?_⟩
    rw [text, w.insertSql_eq, fields]
    simp [TableWriter.fields, ColumnDef.field, Function.comp_def]

/-- Two workers share the two tables of the small input: each table is prepared once, whoever was
the first to have a point of it, and each of the two statements is closed once. -/
theorem smallLoad_closes_its_statements :
    ∃ s, Ends smallDealt (.ofChunks smallInput) (.fresh .agreeable) s ∧
      (result s).2.journal.statements =
        [⟨0, "INSERT INTO cpu (ts, a) VALUES (?, ?)"⟩,
          ⟨1, "INSERT INTO mem (ts, b) VALUES (?, ?)"⟩] ∧
      ∀ statement ∈ (result s).2.journal.statements,
        (result s).2.journal.countP (Event.closes statement) = 1 := by
  obtain ⟨s, ends, ran⟩ := run_ends smallDealt_sound smallDealt_makeable (.ofChunks smallInput)
    (.fresh .agreeable)
  have statements : (Load.run smallDealt (.ofChunks smallInput) (.fresh .agreeable)).map
      (fun report => report.2.journal.statements) =
        some [⟨0, "INSERT INTO cpu (ts, a) VALUES (?, ?)"⟩,
          ⟨1, "INSERT INTO mem (ts, b) VALUES (?, ?)"⟩] := by
    decide +kernel
  rw [ran, Option.map_some, Option.some_inj] at statements
  have closed := (statements_are_closed_once smallDealt_sound smallInput .agreeable ends).1
  exact ⟨s, ends, statements, fun statement member => (closed statement member).2.1⟩

end Load

end SeriesBench
