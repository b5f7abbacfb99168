import SeriesBench.Proofs.Remote.Handed
import SeriesBench.Proofs.Worker.Turns

/-!
# The statements that a registry holds

Each table of a registry is written through a statement of its own. So what goes to the service
while a registry is written to can be told apart by table: it goes through the statement that the
table's writer holds by then, and a statement that a writer holds it keeps.

This is so for every registry of a crew, whatever the service answers and whatever comes of the
batches. Registries of other workers may write to a table of the same name, but never through the
same statement.
-/

namespace SeriesBench

open TableWriter

namespace Registry

/-- The statement that a registry holds for a table. -/
def statementOf (r : Registry) (table : String) : Option Statement :=
  (r.writers.toList.find? fun w => w.table = table).bind TableWriter.statement

variable {r : Registry} {journal : Journal}

/-- The statement for a table is that of its one writer. -/
theorem statementOf_of_mem (distinct : r.made.Nodup) {w : TableWriter}
    (member : w ∈ r.writers.toList) : r.statementOf w.table = w.statement := by
  obtain ⟨before, behind, cut⟩ := List.append_of_mem member
  rw [made, cut] at distinct
  have first : (r.writers.toList.find? fun v => v.table = w.table) = some w := by
    rw [List.find?_eq_some_iff_append]
    refine ⟨by simp, before, behind, cut, fun v old => ?_⟩
    simpa using table_ne_of_distinct distinct (List.mem_append_left behind old)
  rw [statementOf, first, Option.bind_some]

/-- A table without a writer has no statement. -/
theorem statementOf_of_absent {table : String} (absent : table ∉ r.made) :
    r.statementOf table = none := by
  have missing : (r.writers.toList.find? fun v => v.table = table) = none := by
    rw [List.find?_eq_none]
    intro v member same
    exact absent (List.mem_map.mpr ⟨v, member, by simpa using same⟩)
  rw [statementOf, missing, Option.bind_none]

/-- A statement for a table is held by a writer of the table. -/
theorem holder_of_statementOf {table : String} {statement : Statement}
    (holds : r.statementOf table = some statement) :
    ∃ w ∈ r.writers.toList, w.table = table ∧ w.statement = some statement := by
  obtain ⟨w, found, held⟩ := Option.bind_eq_some_iff.mp holds
  exact ⟨w, List.mem_of_find?_eq_some found, by simpa using List.find?_some found, held⟩

/-- A registry in use whose writers hold statements that were prepared, no two of them the same. -/
structure Prepared (r : Registry) (journal : Journal) : Prop where
  live : r.Live
  known : ∀ w ∈ r.writers.toList, ∀ statement, w.statement = some statement →
    statement ∈ journal.statements
  apart : ∀ w ∈ r.writers.toList, ∀ v ∈ r.writers.toList, w.table ≠ v.table →
    ∀ statement, w.statement = some statement → v.statement ≠ some statement
  sound : journal.Sound

/-- A registry without tables holds no statements. -/
theorem prepared_empty (layout : Layout) (sound : journal.Sound) : (empty layout).Prepared journal :=
  ⟨live_empty layout, by simp [empty], by simp [empty], sound⟩

/-- What goes on elsewhere does not matter. -/
theorem Prepared.frame (prepared : r.Prepared journal) {events : Journal}
    (sound : Journal.Sound (journal ++ events)) : r.Prepared (journal ++ events) :=
  { prepared with
    known := fun w member statement holds =>
      Journal.mem_statements_append (prepared.known w member statement holds) events
    sound }

/-- Asking for a table prepares nothing. -/
theorem Prepared.obtain (prepared : r.Prepared journal) (sample : Point) :
    (r.obtain sample).2.Prepared journal := by
  rcases obtain_cases prepared.live sample with ⟨same, _⟩ | ⟨new, grown⟩
  · rwa [same]
  · have unbound : (create sample.measurement sample r.layout).statement = none := rfl
    rw [grown]
    refine ⟨live_enlarge prepared.live new, ?_, ?_, prepared.sound⟩
    · intro w member statement holds
      rcases mem_enlarge.mp member with old | rfl
      · exact prepared.known w old statement holds
      · simp [unbound] at holds
    · intro w first v second different statement holds
      rcases mem_enlarge.mp first with old | rfl
      · rcases mem_enlarge.mp second with old' | rfl
        · exact prepared.apart w old v old' different statement holds
        · simp [unbound]
      · simp [unbound] at holds

/-- Asking for a table changes no statement: a writer that is made has none. -/
theorem statementOf_obtain (live : r.Live) (sample : Point) (table : String) :
    (r.obtain sample).2.statementOf table = r.statementOf table := by
  rcases obtain_cases live sample with ⟨same, _⟩ | ⟨new, grown⟩
  · rw [same]
  · have unbound : (create sample.measurement sample r.layout).statement = none := rfl
    rw [grown]
    by_cases its : table = sample.measurement
    · subst its
      have member : create sample.measurement sample r.layout ∈
          (r.enlarge sample).writers.toList := mem_enlarge.mpr (Or.inr rfl)
      have held := statementOf_of_mem (live_enlarge live new).distinct member
      rw [statementOf_of_absent new, ← unbound]
      exact held
    · have apart : ¬ sample.measurement = table := fun same => its same.symm
      simp [statementOf, enlarge, create, apart]

variable {handle : Nat} {w other : TableWriter} {link after : Link} {record : Option Record}

/-- The statement of a writer that hands over a record is its own, be it the one from before or a new
one. -/
theorem Prepared.apart_of_handed {v : TableWriter} (prepared : r.Prepared link.journal)
    (inside : w ∈ r.writers.toList) (kept : v ∈ r.writers.toList) (different : v.table ≠ w.table)
    (handed : Handed w link record other after) :
    ∀ statement, other.statement = some statement → v.statement ≠ some statement := by
  intro statement holds same
  rcases handed.statement with unchanged | ⟨_, new, its, fresh, _⟩
  · exact prepared.apart w inside v kept different.symm statement (unchanged ▸ holds) same
  · obtain rfl : new = statement := Option.some.inj (its.symm.trans holds)
    exact fresh (prepared.known v kept new same)

/-- Putting back a writer that handed over a record. -/
theorem Prepared.put (prepared : r.Prepared link.journal) (member : r.writers[handle]? = some w)
    (table : other.table = w.table) (closed : other.closed = w.closed)
    (handed : Handed w link record other after) : (r.put handle other).Prepared after.journal := by
  obtain ⟨before, behind, cut, put⟩ := put_cut member
  have inside := mem_of_found member
  have opened := prepared.live.opened w inside
  have distinct := prepared.live.distinct
  rw [made, cut] at distinct
  have kept (v : TableWriter) (old : v ∈ before ++ behind) : v ∈ r.writers.toList :=
    cut ▸ mem_cut.mpr (Or.inr old)
  have own (v : TableWriter) (old : v ∈ before ++ behind) :=
    prepared.apart_of_handed inside (kept v old) (table_ne_of_distinct distinct old) handed
  refine ⟨live_put prepared.live member table (closed.trans opened), ?_, ?_,
    handed.sound (prepared.known w inside) prepared.sound⟩
  · intro v inWriters
    rw [put] at inWriters
    rcases mem_cut.mp inWriters with rfl | old
    · exact handed.prepared (prepared.known w inside)
    · obtain ⟨events, journal, _⟩ := handed.more
      intro statement holds
      rw [journal]
      exact Journal.mem_statements_append (prepared.known v (kept v old) statement holds) events
  · intro u first v second different statement holds
    rw [put] at first second
    rcases mem_cut.mp first with rfl | old
    · rcases mem_cut.mp second with rfl | old'
      · exact absurd rfl different
      · exact own v old' statement holds
    · rcases mem_cut.mp second with rfl | old'
      · exact fun same => own u old statement same holds
      · exact prepared.apart u (kept u old) v (kept v old') different statement holds

/-- Putting back a writer changes the statement of its table only. -/
theorem statementOf_put (live : r.Live) (member : r.writers[handle]? = some w)
    (table : other.table = w.table) (asked : String) :
    (r.put handle other).statementOf asked =
      if asked = w.table then other.statement else r.statementOf asked := by
  obtain ⟨before, behind, cut, put⟩ := put_cut member
  split
  · rename_i its
    have distinct : (r.put handle other).made.Nodup := by
      rw [made_put member table]
      exact live.distinct
    rw [its, ← table]
    exact statementOf_of_mem distinct (by simp [put])
  · rename_i apart
    have first : ¬ w.table = asked := fun same => apart same.symm
    simp [statementOf, cut, put, List.find?_append, table, first]

/-- What comes to the service while a registry is written to, given by table: the records go through
the statements that the registry then holds for their tables. The statement for a table is that from
before, or a new one for a table that had none. -/
structure Handed (r : Registry) (link : Link) (sent : String → List Record) (other : Registry)
    (after : Link) : Prop where
  more : ∃ events : Journal, after.journal = link.journal ++ events ∧
    (∀ entry ∈ events.inserted, ∃ table, other.statementOf table = some entry.1) ∧
    ∀ table, events.through (other.statementOf table) = sent table
  statement : ∀ table, other.statementOf table = r.statementOf table ∨
    r.statementOf table = none ∧
      ∀ statement, other.statementOf table = some statement → statement ∉ link.journal.statements

/-- Nothing comes to the service while nothing is written. -/
theorem Handed.refl (r : Registry) (link : Link) : r.Handed link (fun _ => []) r link where
  more := ⟨[], by simp, by simp [Journal.inserted], fun table => by
    simp [Journal.through, Journal.inserted]⟩
  statement _ := Or.inl rfl

/-- A statement that a registry holds it keeps. -/
theorem Handed.keeps {sent : String → List Record} {other : Registry}
    (handed : r.Handed link sent other after) {table : String} {statement : Statement}
    (holds : r.statementOf table = some statement) : other.statementOf table = some statement := by
  rcases handed.statement table with same | ⟨none, _⟩
  · rw [same, holds]
  · simp [none] at holds

/-- What is handed over in two steps. If a table gets its statement in the second step, what was
handed over in the first went through others, and there was nothing for this table. -/
theorem Handed.trans {sent more : String → List Record} {middle last : Registry}
    {between after : Link} (one : r.Handed link sent middle between)
    (two : middle.Handed between more last after) (sound : between.journal.Sound) :
    r.Handed link (fun table => sent table ++ more table) last after := by
  obtain ⟨events, journal, inserted, through⟩ := one.more
  obtain ⟨later, journal', inserted', through'⟩ := two.more
  have early (table : String) : events.through (last.statementOf table) = sent table := by
    rcases two.statement table with same | ⟨none, new⟩
    · rw [same, through]
    · rw [← through, none, Journal.through_none]
      refine Journal.through_of_other fun entry member same => new entry.1 same ?_
      exact sound entry (by rw [journal, Journal.inserted_append]; exact List.mem_append_right _ member)
  refine ⟨⟨events ++ later, ?_, ?_, ?_⟩, ?_⟩
  · rw [journal', journal, List.append_assoc]
  · intro entry member
    rw [Journal.inserted_append] at member
    rcases List.mem_append.mp member with old | new
    · obtain ⟨table, holds⟩ := inserted entry old
      exact ⟨table, two.keeps holds⟩
    · exact inserted' entry new
  · intro table
    rw [Journal.through_append, early, through']
  · intro table
    rcases one.statement table with same | ⟨none, new⟩ <;>
      rcases two.statement table with same' | ⟨none', new'⟩
    · exact Or.inl (same'.trans same)
    · refine Or.inr ⟨same ▸ none', fun statement holds old => new' statement holds ?_⟩
      rw [journal]
      exact Journal.mem_statements_append old events
    · exact Or.inr ⟨none, fun statement holds => new statement (same' ▸ holds)⟩
    · refine Or.inr ⟨none, fun statement holds old => new' statement holds ?_⟩
      rw [journal]
      exact Journal.mem_statements_append old events

section Restock

variable {sample : Point}
  (found : (r.obtain sample).2.writers[(r.obtain sample).1]? = some w)

include found

/-- The writer that a sample asks for holds the statement for its table. -/
theorem statementOf_found (live : r.Live) : r.statementOf w.table = w.statement := by
  rw [← statementOf_obtain live sample]
  exact statementOf_of_mem (live_obtain live sample).distinct (mem_of_found found)

/-- A writer that is put back for its table changes the statement of that table only. -/
theorem statementOf_restock (live : r.Live) (table : other.table = w.table) (asked : String) :
    (r.restock sample other).statementOf asked =
      if asked = w.table then other.statement else r.statementOf asked := by
  rw [Registry.restock, statementOf_put (live_obtain live sample) found table,
    statementOf_obtain live]

/-- What the writer of one table hands over does not go through the statement of another. -/
theorem Prepared.apart_of_found (prepared : r.Prepared link.journal)
    (handed : TableWriter.Handed w link record other after) {asked : String}
    (different : asked ≠ w.table) {statement : Statement}
    (through : other.statement = some statement) : r.statementOf asked ≠ some statement := by
  intro holds
  obtain ⟨v, member, rfl, same⟩ := holder_of_statementOf holds
  exact (prepared.obtain sample).apart_of_handed (mem_of_found found)
    (mem_obtain prepared.live sample member) different handed statement through same

/-- A registry hands over what the writer does that a sample asks for. -/
theorem Prepared.restock (prepared : r.Prepared link.journal) (table : other.table = w.table)
    (closed : other.closed = w.closed) (handed : TableWriter.Handed w link record other after) :
    (r.restock sample other).Prepared after.journal ∧
      r.Handed link (fun table => if table = w.table then record.toList else [])
        (r.restock sample other) after := by
  have statementOf := statementOf_restock found prepared.live table
  obtain ⟨events, journal, records, through⟩ := handed.more
  refine ⟨(prepared.obtain sample).put found table closed handed, ⟨⟨events, journal, ?_, ?_⟩, ?_⟩⟩
  · intro entry member
    exact ⟨w.table, by rw [statementOf, if_pos rfl, through entry member]⟩
  · intro asked
    rw [statementOf]
    split
    · rw [Journal.through_of_all through, records]
    · rename_i different
      exact Journal.through_of_other fun entry member =>
        prepared.apart_of_found found handed different (through entry member)
  · intro asked
    rw [statementOf]
    split
    · rename_i its
      rw [its, statementOf_found found prepared.live]
      rcases handed.statement with same | ⟨none, new, its, fresh, _⟩
      · exact Or.inl same
      · refine Or.inr ⟨none, fun statement holds => ?_⟩
        obtain rfl : new = statement := Option.some.inj (its.symm.trans holds)
        exact fresh
    · exact Or.inl rfl

end Restock

end Registry

namespace Ingest

/-- Whatever writing comes to, at most one record is handed over. -/
theorem Talk.handed {w other : TableWriter} {link after : Link} (talk : Talk w link other after) :
    ∃ record, Handed w link record other after := by
  cases talk with
  | silent same => exact ⟨none, (Handed.refl _ link).rebuffered same⟩
  | transmitted same record fields => exact ⟨_, (handed_transmit _ link record).rebuffered same⟩

/-- Writing groups, whatever comes of it, hands over records by table. -/
theorem handed_writeGroups {r : Registry} {link : Link} (prepared : r.Prepared link.journal)
    (transmit : Bool) (sum : Outcome) (groups : List Group) :
    let wrote := writeGroups transmit r link sum groups
    wrote.2.1.Prepared wrote.2.2.journal ∧ ∃ sent, r.Handed link sent wrote.2.1 wrote.2.2 := by
  induction groups generalizing r link sum with
  | nil => exact ⟨prepared, _, .refl r link⟩
  | cons group rest ih =>
    obtain ⟨w, found, _⟩ := Registry.found_of_obtain prepared.live group.first
    have talk := talk_writeTable transmit w link group.points
    obtain ⟨record, handed⟩ := talk.handed
    obtain ⟨back, first⟩ := prepared.restock found talk.table talk.closed handed
    rw [writeGroups_cons found]
    rcases wrote : writeTable transmit w link group.points with ⟨fault | outcome, other, between⟩ <;>
      simp only [wrote] at back first ⊢
    · exact ⟨back, _, first⟩
    · obtain ⟨last, more, later⟩ := ih back (sum + outcome)
      exact ⟨last, _, first.trans later back.sound⟩

end Ingest

namespace Crew

/-- The statement for a table in the registry that a worker writes to. -/
def statementOf (crew : Crew) (worker : Nat) (table : String) : Option Statement :=
  (crew.registryOf worker).bind fun r => r.statementOf table

/-- Every registry of a crew is in use, with statements of its own. -/
def Prepared (crew : Crew) (journal : Journal) : Prop :=
  ∀ worker r, crew.registryOf worker = some r → r.Prepared journal

/-- A new crew holds no statements. -/
theorem prepared_make (routing : Routing) (workers : Nat) (layout : Layout) {journal : Journal}
    (sound : journal.Sound) : (make routing workers layout).Prepared journal := by
  intro worker r owner
  obtain ⟨before, behind, cut, _⟩ := registries_put owner
  have member : r ∈ (make routing workers layout).registries := by simp [cut]
  rw [registries_make member]
  exact Registry.prepared_empty layout sound

variable {crew : Crew} {link : Link}

/-- A turn keeps every registry in use, with statements of its own. -/
theorem prepared_serve (prepared : crew.Prepared link.journal) (turn : Turn) :
    (crew.serve link turn).2.2.1.Prepared (crew.serve link turn).2.2.2.journal := by
  cases asked : crew.registryOf turn.worker with
  | none => rwa [serve_of_none asked]
  | some r =>
    obtain ⟨written, _, handed⟩ := Ingest.handed_writeGroups (prepared turn.worker r asked)
      turn.transmit { droppedItems := (Ingest.sort turn.items ([], 0)).2 }
      (Ingest.sort turn.items ([], 0)).1
    obtain ⟨events, journal, _⟩ := handed.more
    rw [serve_eq asked]
    intro worker found owner
    rw [registryOf_put_sharing asked] at owner
    split at owner
    · rw [← Option.some.inj owner]
      exact written
    · change found.Prepared (Ingest.writeGroups _ _ _ _ _).2.2.journal
      have sound := written.sound
      rw [journal] at sound ⊢
      exact (prepared worker found owner).frame sound

/-- Turns keep every registry in use, with statements of its own. -/
theorem prepared_afterTurns (prepared : crew.Prepared link.journal) (turns : List Turn) :
    (crew.afterTurns link turns).1.Prepared (crew.afterTurns link turns).2.journal := by
  induction turns generalizing crew link with
  | nil => exact prepared
  | cons turn rest ih => exact ih (prepared_serve prepared turn)

end Crew

end SeriesBench
