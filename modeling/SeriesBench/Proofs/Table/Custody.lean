import Mathlib.Data.List.Dedup
import SeriesBench.Proofs.Table.Closing
import SeriesBench.Proofs.Table.Live

/-!
# Who has the writers of a registry

A registry gives out handles of its writers and may be closed at any time; whoever holds a handle
may go on using the writer, before and after. The custody runs such calls in any order and writes
down which handle each request was given and when the registry was closed.

The main statement is that no writer is ever lost: whatever is done with it by those who hold it
and whatever the service answers, a writer that was made is in the registry or closed. A registry
gives one handle for a table until it is closed, and then another one. In which order writers are
closed is nothing that the statement depends on.
-/

namespace SeriesBench

namespace TableWriter

/-- The writer when it has been closed. -/
def shut (w : TableWriter) : TableWriter :=
  if w.closed then w else { w with builders := [], rows := 0, statement := none, closed := true }

/-- The statement that is given up when the writer is closed. -/
def due (w : TableWriter) : Option Statement :=
  if w.closed then none else w.statement

/-- A writer and its link after a call by someone who holds its handle. -/
def served (w : TableWriter) (link : Link) (call : LifeCall) : TableWriter × Link :=
  let l := (Ledger.mk w link [] [] []).lived call
  (l.writer, l.link)

/-- A writer that has been closed is closed, whether it was so before or not. -/
@[simp] theorem closed_shut (w : TableWriter) : w.shut.closed = true := by
  cases finished : w.closed <;> simp [shut, finished]

/-- A writer keeps its table when it is closed. -/
@[simp] theorem table_shut (w : TableWriter) : w.shut.table = w.table := by
  cases finished : w.closed <;> simp [shut, finished]

/-- A writer keeps its columns when it is closed. -/
@[simp] theorem columns_shut (w : TableWriter) : w.shut.columns = w.columns := by
  cases finished : w.closed <;> simp [shut, finished]

/-- To close a writer again changes nothing. -/
@[simp] theorem shut_shut (w : TableWriter) : w.shut.shut = w.shut := by
  rw [shut, if_pos w.closed_shut]

/-- What becomes of a writer that is closed does not depend on the service. -/
theorem close_writer (w : TableWriter) (link : Link) : (w.close link).2.1 = w.shut := by
  unfold close shut
  split
  · rfl
  · split <;> rfl

/-- Whatever is asked of a writer, it stays that of its table, under its columns, and a closed
one stays closed. -/
theorem served_same (w : TableWriter) (link : Link) (call : LifeCall) :
    (w.served link call).1.table = w.table ∧ (w.served link call).1.columns = w.columns ∧
      (w.closed = true → (w.served link call).1.closed = true) := by
  have stays (closed : w.closed = true) : (w.served link call).1.closed = true :=
    Ledger.closed_lived (l := Ledger.mk w link [] [] []) closed call
  refine ⟨?_, ?_, stays⟩ <;> cases call with
  | close => simp [served, Ledger.lived, close_writer]
  | use call =>
    by_cases quiet : (LifeCall.use call).isQuiet = true
    · obtain ⟨⟨_, _, same⟩, _⟩ := Ledger.quiet_after (l := Ledger.mk w link [] [] []) quiet
      simp [served, Ledger.lived, same]
    · cases call with
      | append p => simp [LifeCall.isQuiet] at quiet
      | flush => simp [LifeCall.isQuiet] at quiet
      | ensureRemote =>
        obtain ⟨statement, same⟩ := Ledger.ensureRemote_writer w link
        simp [served, Ledger.lived, Ledger.after, same]
      | transmit record =>
        obtain ⟨statement, same⟩ := Ledger.transmit_writer w link record
        simp [served, Ledger.lived, Ledger.after, same]

end TableWriter

/-- The statements that are due are closed in turn, whatever comes of each, and the answer is a
fault exactly when one of the closes failed. -/
structure Link.Attempted (link : Link) (due : List Statement) (answer : Except Fault Unit)
    (after : Link) : Prop where
  more : ∃ events : Journal, after.journal = link.journal ++ events ∧
    events.map Event.call = due.map Call.close ∧
    ((∃ fault, answer = .error fault) ↔ ∃ event ∈ events, event.succeeded = false)

namespace Link.Attempted

/-- Where nothing is due nothing is attempted. -/
theorem refl (link : Link) : link.Attempted [] (.ok ()) link :=
  ⟨[], by simp, rfl, by simp⟩

/-- Of two attempts after each other the first fault is kept. -/
theorem trans {link between after : Link} {due more : List Statement}
    {first later : Except Fault Unit} (one : link.Attempted due first between)
    (two : between.Attempted more later after) :
    link.Attempted (due ++ more) (first.bind fun _ => later) after := by
  obtain ⟨events, journal, calls, answered⟩ := one.more
  obtain ⟨others, journal', calls', answered'⟩ := two.more
  refine ⟨events ++ others, ?_, ?_, ?_⟩
  · rw [journal', journal, List.append_assoc]
  · rw [List.map_append, List.map_append, calls, calls']
  · have either : (∃ event ∈ events ++ others, event.succeeded = false) ↔
        (∃ fault, first = .error fault) ∨ ∃ fault, later = .error fault := by
      rw [answered, answered']
      simp [or_and_right, exists_or]
    rw [either]
    cases first <;> simp [Except.bind]

/-- The answer to the close of one writer. -/
theorem close (w : TableWriter) (link : Link) :
    link.Attempted w.due.toList (w.close link).1 (w.close link).2.2 := by
  cases finished : w.closed with
  | true =>
    have nothing : w.close link = (.ok (), w, link) := by simp [TableWriter.close, finished]
    simpa [nothing, TableWriter.due, finished] using refl link
  | false =>
    cases held : w.statement with
    | none => simpa [TableWriter.close, TableWriter.due, finished, held] using refl link
    | some statement =>
      refine ⟨[⟨.close statement, Link.isOk (link.service.close link.journal statement)⟩],
        ?_, ?_, ?_⟩
      · simp [TableWriter.close, finished, held, Link.close, Link.enter]
      · simp [TableWriter.due, finished, held]
      · cases answered : link.service.close link.journal statement <;>
          simp [TableWriter.close, finished, held, Link.close, answered, Link.isOk]

end Link.Attempted

/-- A way to go through some handles. Which of them comes first is for nobody to say. -/
structure Arrangement where
  arrange : List Nat → List Nat
  perm : ∀ handles, (arrange handles).Perm handles

/-- The handles as they are. -/
def Arrangement.straight : Arrangement :=
  ⟨id, List.Perm.refl⟩

namespace Registry

/-- The handles of the tables in use. -/
def handles (r : Registry) : List Nat :=
  r.active.map (·.2)

/-- Closes and forgets every table, in some order. -/
def closeIn (r : Registry) (order : Arrangement) (link : Link) :
    Except Fault Unit × Registry × Link :=
  let (answer, r, link) := r.closeAt link (order.arrange r.handles)
  (answer, { r with active := [] }, link)

/-- Closing a registry closes its writers in the order in which they were made. -/
theorem closeIn_straight (r : Registry) (link : Link) :
    r.closeIn .straight link = r.close link :=
  rfl

/-- A registry whose writers at some handles have been closed. -/
def shutAt (r : Registry) (handles : List Nat) : Registry :=
  { r with writers := r.writers.mapIdx fun handle w => if handle ∈ handles then w.shut else w }

/-- The writers at the given handles are closed, and all others are as before. -/
theorem getElem?_shutAt (r : Registry) (handles : List Nat) (handle : Nat) :
    (r.shutAt handles).writers[handle]? =
      r.writers[handle]?.map fun w => if handle ∈ handles then w.shut else w := by
  simp [shutAt]

/-- A writer is put back at its own handle, if there is one at it, and nowhere else. -/
theorem getElem?_put (r : Registry) (handle other : Nat) (w : TableWriter) :
    (r.put handle w).writers[other]? =
      if other = handle then r.writers[handle]?.map fun _ => w else r.writers[other]? := by
  rw [put, Array.getElem?_setIfInBounds]
  by_cases same : handle = other
  · subst same
    by_cases inside : handle < r.writers.size <;> simp [inside]
  · simp [same, Ne.symm same]

/-- Registries with the same writers at all handles are the same. -/
theorem ext_writers {r other : Registry} (layout : r.layout = other.layout)
    (active : r.active = other.active)
    (writers : ∀ handle : Nat, r.writers[handle]? = other.writers[handle]?) : r = other := by
  cases r
  cases other
  obtain rfl := layout
  obtain rfl := active
  obtain rfl := Array.ext_getElem? writers
  rfl

/-- What becomes of a registry whose writers are closed depends neither on the service nor on the
order. -/
theorem closeAt_registry (r : Registry) (link : Link) (handles : List Nat) :
    (r.closeAt link handles).2.1 = r.shutAt handles := by
  induction handles generalizing r link with
  | nil => exact ext_writers rfl rfl fun handle => by simp [closeAt, getElem?_shutAt]
  | cons handle rest ih =>
    cases found : r.writers[handle]? with
    | none =>
      have same : r.closeAt link (handle :: rest) = r.closeAt link rest := by simp [closeAt, found]
      rw [same, ih]
      refine ext_writers rfl rfl fun other => ?_
      rw [getElem?_shutAt, getElem?_shutAt]
      by_cases here : other = handle
      · simp [here, found]
      · simp [here]
    | some w =>
      have next : (r.closeAt link (handle :: rest)).2.1 =
          ((r.put handle w.shut).closeAt (w.close link).2.2 rest).2.1 := by
        simp [closeAt, found, TableWriter.close_writer]
      rw [next, ih]
      refine ext_writers rfl rfl fun other => ?_
      rw [getElem?_shutAt, getElem?_shutAt, getElem?_put]
      by_cases here : other = handle
      · simp [here, found]
      · simp [here]

/-- Closing writers leaves their tables as they are. -/
@[simp] theorem made_shutAt (r : Registry) (handles : List Nat) :
    (r.shutAt handles).made = r.made := by
  apply List.ext_getElem?
  intro handle
  simp only [made, List.getElem?_map, Array.getElem?_toList, getElem?_shutAt, Option.map_map]
  congr 1
  funext w
  simp only [Function.comp]
  split <;> simp

/-- What becomes of a registry that is closed. -/
theorem closeIn_registry (r : Registry) (order : Arrangement) (link : Link) :
    (r.closeIn order link).2.1 = { r.shutAt r.handles with active := [] } := by
  have ended : (r.closeIn order link).2.1 =
      { r.shutAt (order.arrange r.handles) with active := [] } := by
    simp [closeIn, closeAt_registry]
  rw [ended]
  refine ext_writers rfl rfl fun handle => ?_
  simp [shutAt, (order.perm r.handles).mem_iff]

/-- What closing a registry comes to when its writers are gone through in some order: each of them
is attempted, the statements that are due are closed once, in that order, and no table is in use and
no writer open afterwards. -/
structure Emptied (r : Registry) (link : Link) (handles : List Nat)
    (ended : Except Fault Unit × Registry × Link) : Prop where
  attempted : link.Attempted
    (handles.filterMap fun handle => r.writers[handle]?.bind TableWriter.due) ended.1 ended.2.2
  empty : ended.2.1.size = 0
  closed : ∀ (handle : Nat) (w : TableWriter), ended.2.1.writers[handle]? = some w →
    w.closed = true

/-- Every writer at the handles is attempted once: those that hold a statement give it up, in the
order of the handles. -/
theorem closeAt_attempted {handles : List Nat} (distinct : handles.Nodup) (r : Registry)
    (link : Link) :
    link.Attempted (handles.filterMap fun handle => r.writers[handle]?.bind TableWriter.due)
      (r.closeAt link handles).1 (r.closeAt link handles).2.2 := by
  induction handles generalizing r link with
  | nil => exact .refl link
  | cons handle rest ih =>
    obtain ⟨new, distinct⟩ := List.nodup_cons.mp distinct
    cases found : r.writers[handle]? with
    | none => simpa [closeAt, found] using ih distinct r link
    | some w =>
      have others : (rest.filterMap fun other =>
          (r.put handle (w.close link).2.1).writers[other]?.bind TableWriter.due) =
          rest.filterMap fun other => r.writers[other]?.bind TableWriter.due := by
        refine List.filterMap_congr fun other member => ?_
        have apart : other ≠ handle := fun same => new (same ▸ member)
        rw [getElem?_put, if_neg apart]
      have later := ih distinct (r.put handle (w.close link).2.1) (w.close link).2.2
      rw [others] at later
      have answer : (r.closeAt link (handle :: rest)).1 = (w.close link).1.bind fun _ =>
          ((r.put handle (w.close link).2.1).closeAt (w.close link).2.2 rest).1 := by
        cases first : (w.close link).1 <;> simp [closeAt, found, first, Except.bind]
      have due : ((handle :: rest).filterMap fun other => r.writers[other]?.bind TableWriter.due) =
          w.due.toList ++ rest.filterMap fun other => r.writers[other]?.bind TableWriter.due := by
        cases owed : w.due <;> simp [found, owed]
      rw [due, answer]
      simpa [closeAt, found] using (Link.Attempted.close w link).trans later

/-- A request is given the handle in use for the table, or a new one if there is none. -/
theorem obtain_active (r : Registry) (sample : Point) :
    (∃ handle, (sample.measurement, handle) ∈ r.active ∧ r.obtain sample = (handle, r)) ∨
      (sample.measurement ∉ r.tables ∧ r.obtain sample = (r.writers.size, r.enlarge sample)) := by
  unfold Registry.obtain
  cases found : r.active.lookup sample.measurement with
  | some handle =>
    obtain ⟨before, behind, cut, _⟩ := List.lookup_eq_some_iff.mp found
    exact Or.inl ⟨handle, by simp [cut], rfl⟩
  | none =>
    refine Or.inr ⟨?_, rfl⟩
    intro member
    obtain ⟨⟨table, handle⟩, inside, rfl⟩ := List.mem_map.mp member
    simpa using List.lookup_eq_none_iff.mp found _ inside

end Registry

/-- What can be asked of a registry, and of the writers whose handles it gave. -/
inductive RegistryCall where
  | obtain (sample : Point)
  | use (handle : Nat) (call : LifeCall)
  | close (order : Arrangement)

/-- What is remembered of a registry: a request with the handle that it was given, or a close. -/
inductive Deed where
  | obtained (sample : Point) (handle : Nat)
  | closed

/-- A registry and its link, with what is remembered of the calls before. -/
structure Custody where
  registry : Registry
  link : Link
  past : List Deed

namespace Custody

/-- The custody of a registry without tables. -/
def opened (layout : Layout) (service : Service) : Custody :=
  ⟨.empty layout, .fresh service, []⟩

/-- The custody after a call. -/
def after (c : Custody) : RegistryCall → Custody
  | .obtain sample =>
    let (handle, registry) := c.registry.obtain sample
    { c with registry, past := c.past ++ [.obtained sample handle] }
  | .use handle call =>
    match c.registry.writers[handle]? with
    | none => c
    | some w =>
      let (w, link) := w.served c.link call
      { c with registry := c.registry.put handle w, link }
  | .close order =>
    let (_, registry, link) := c.registry.closeIn order c.link
    { registry, link, past := c.past ++ [.closed] }

/-- The custody after some calls in turn. -/
def afterAll (c : Custody) (calls : List RegistryCall) : Custody :=
  calls.foldl after c

/-- The tables that were asked for since the last close, as often as they were. -/
def asked (past : List Deed) : List String :=
  past.foldl
    (fun known deed =>
      match deed with
      | .obtained sample _ => known ++ [sample.measurement]
      | .closed => [])
    []

/-- A request adds its table to those that were asked for. -/
theorem asked_obtained (past : List Deed) (sample : Point) (handle : Nat) :
    asked (past ++ [.obtained sample handle]) = asked past ++ [sample.measurement] := by
  simp [asked]

/-- Since a close nothing was asked for. -/
theorem asked_closed (past : List Deed) : asked (past ++ [.closed]) = [] := by
  simp [asked]

/-- Where a deed stands in a past that goes on with another one. -/
theorem cut_of_snoc {past before rest : List Deed} {last deed : Deed}
    (cut : past ++ [last] = before ++ deed :: rest) :
    (rest = [] ∧ past = before ∧ last = deed) ∨
      ∃ others, rest = others ++ [last] ∧ past = before ++ deed :: others := by
  rcases rest.eq_nil_or_concat' with rfl | ⟨others, other, rfl⟩
  · obtain ⟨same, single⟩ := List.append_inj' cut rfl
    exact Or.inl ⟨rfl, same, by simpa using single⟩
  · rw [← List.cons_append, ← List.append_assoc] at cut
    obtain ⟨same, single⟩ := List.append_inj' cut rfl
    obtain rfl : last = other := by simpa using single
    exact Or.inr ⟨others, rfl, same⟩

/-- Where two deeds stand in a past that goes on with another one. -/
theorem cuts_of_snoc {past before between rest : List Deed} {last deed later : Deed}
    (cut : past ++ [last] = before ++ deed :: (between ++ later :: rest)) :
    (past = before ++ deed :: between ∧ last = later) ∨
      ∃ others, past = before ++ deed :: (between ++ later :: others) := by
  rw [← List.cons_append, ← List.append_assoc] at cut
  obtain ⟨_, past, last⟩ | ⟨others, _, past⟩ := cut_of_snoc cut
  · exact Or.inl ⟨past, last⟩
  · rw [List.append_assoc, List.cons_append] at past
    exact Or.inr ⟨others, past⟩

/-- What holds of a registry and its past at any time. The tables in use are those that were asked
for since the last close; a handle that was given is that of a writer of the table; a writer was
made from the sample of the first request that was given its handle; it is in use or closed. A
handle is in use as long as the registry is not closed, and never again after that. -/
structure Kept (c : Custody) : Prop where
  distinct : c.registry.tables.Nodup
  asked : ∀ table, table ∈ c.registry.tables ↔ table ∈ asked c.past
  known : ∀ table handle, (table, handle) ∈ c.registry.active →
    c.registry.made[handle]? = some table
  given : ∀ sample handle, .obtained sample handle ∈ c.past →
    c.registry.made[handle]? = some sample.measurement
  origin : ∀ (handle : Nat) (w : TableWriter), c.registry.writers[handle]? = some w →
    ∃ sample before rest, c.past = before ++ .obtained sample handle :: rest ∧
      (∀ other, .obtained other handle ∉ before) ∧ w.table = sample.measurement ∧
      w.columns = TableWriter.columnsOf sample
  owned : ∀ (handle : Nat) (w : TableWriter), c.registry.writers[handle]? = some w →
    handle ∈ c.registry.handles ∨ w.closed = true
  standing : ∀ before sample handle rest, c.past = before ++ .obtained sample handle :: rest →
    (.closed ∉ rest → (sample.measurement, handle) ∈ c.registry.active) ∧
      (.closed ∈ rest → handle ∉ c.registry.handles)
  same : ∀ before sample handle between other answer rest,
    c.past = before ++ .obtained sample handle :: (between ++ .obtained other answer :: rest) →
    (handle = answer ↔ sample.measurement = other.measurement ∧ .closed ∉ between)

/-- What is kept holds of a registry that nobody has asked for anything. -/
theorem kept_opened (layout : Layout) (service : Service) : (opened layout service).Kept where
  distinct := by simp [opened, Registry.tables, Registry.empty]
  asked := by simp [opened, Registry.tables, Registry.empty, Custody.asked]
  known := by simp [opened, Registry.empty]
  given := by simp [opened]
  origin := by simp [opened, Registry.empty]
  owned := by simp [opened, Registry.empty]
  standing := by simp [opened]
  same := by simp [opened]

namespace Kept

variable {c : Custody}

/-- A table has one handle at a time. -/
theorem unique (kept : c.Kept) {table : String} {handle other : Nat}
    (one : (table, handle) ∈ c.registry.active) (two : (table, other) ∈ c.registry.active) :
    handle = other :=
  congrArg Prod.snd (List.inj_on_of_nodup_map kept.distinct one two rfl)

/-- A handle that is given now, compared with one that was given before. -/
theorem answer (kept : c.Kept) (other : Point) {before : List Deed} {sample : Point} {handle : Nat}
    {rest : List Deed} (cut : c.past = before ++ .obtained sample handle :: rest) :
    handle = (c.registry.obtain other).1 ↔
      sample.measurement = other.measurement ∧ .closed ∉ rest := by
  have made := kept.given sample handle (by simp [cut])
  obtain ⟨inUse, gone⟩ := kept.standing before sample handle rest cut
  obtain ⟨current, active, answered⟩ | ⟨new, answered⟩ := c.registry.obtain_active other <;>
    rw [answered]
  · constructor
    · rintro rfl
      have table := kept.known _ _ active
      refine ⟨Option.some.inj (made.symm.trans table), fun closed => gone closed ?_⟩
      exact List.mem_map.mpr ⟨_, active, rfl⟩
    · rintro ⟨table, open'⟩
      exact kept.unique (inUse open') (table ▸ active)
  · constructor
    · rintro rfl
      simp [Registry.made] at made
    · rintro ⟨table, open'⟩
      exact absurd (List.mem_map.mpr ⟨_, inUse open', table⟩) new

/-- What a request changes: its handle is in use for the table afterwards, and if it is new, its
writer was made from the sample. -/
structure Grants (r : Registry) (sample : Point) (handle : Nat) (other : Registry) : Prop where
  active : ∀ entry, entry ∈ other.active ↔ entry ∈ r.active ∨ entry = (sample.measurement, handle)
  made : other.made[handle]? = some sample.measurement
  keeps : ∀ (older : Nat) (table : String), r.made[older]? = some table →
    other.made[older]? = some table
  origin : ∀ (older : Nat) (w : TableWriter), other.writers[older]? = some w →
    r.writers[older]? = some w ∨ older = handle ∧ r.made[handle]? = none ∧
      w = .create sample.measurement sample r.layout
  fresh : handle ∈ r.handles ∨ r.made[handle]? = none
  distinct : other.tables.Nodup

/-- A request is granted: a table in use has the handle that it had, and any other gets a new one.
-/
theorem grants (kept : c.Kept) (sample : Point) :
    Grants c.registry sample (c.registry.obtain sample).1 (c.registry.obtain sample).2 := by
  obtain ⟨handle, inUse, answered⟩ | ⟨new, answered⟩ := c.registry.obtain_active sample <;>
    rw [answered]
  · constructor
    · intro entry
      constructor
      · exact Or.inl
      · rintro (old | rfl)
        · exact old
        · exact inUse
    · exact kept.known _ _ inUse
    · exact fun _ _ => id
    · exact fun _ _ => Or.inl
    · exact Or.inl (List.mem_map.mpr ⟨_, inUse, rfl⟩)
    · exact kept.distinct
  · have none : c.registry.made[c.registry.writers.size]? = none := by simp [Registry.made]
    have size : c.registry.writers.size = c.registry.made.length := by simp [Registry.made]
    constructor
    · simp [Registry.enlarge]
    · simp [Registry.made_enlarge, size]
    · intro older table old
      rw [Registry.made_enlarge]
      exact (List.getElem?_append_left (List.getElem?_eq_some_iff.mp old).1).trans old
    · intro older w found
      simp only [Registry.enlarge, Array.getElem?_push] at found
      split at found
      · rename_i its
        exact Or.inr ⟨its, none, (Option.some.inj found).symm⟩
      · exact Or.inl found
    · exact Or.inr none
    · have apart : ∀ table ∈ c.registry.tables, table ≠ sample.measurement := by
        rintro table member rfl
        exact new member
      have tables : (c.registry.enlarge sample).tables =
          c.registry.tables ++ [sample.measurement] := by simp [Registry.tables, Registry.enlarge]
      rw [tables, List.nodup_append]
      exact ⟨kept.distinct, List.nodup_singleton _, by simpa using apart⟩

/-- A request keeps everything in custody. -/
theorem obtain (kept : c.Kept) (sample : Point) : (c.after (.obtain sample)).Kept := by
  have grants := kept.grants sample
  rcases answered : c.registry.obtain sample with ⟨handle, other⟩
  rw [answered] at grants
  simp only [after, answered]
  constructor
  · exact grants.distinct
  · intro table
    rw [asked_obtained, List.mem_append, ← kept.asked table, List.mem_singleton]
    simp only [Registry.tables, List.mem_map, grants.active]
    constructor
    · rintro ⟨entry, old | rfl, rfl⟩
      · exact Or.inl ⟨entry, old, rfl⟩
      · exact Or.inr rfl
    · rintro (⟨entry, old, rfl⟩ | rfl)
      · exact ⟨entry, Or.inl old, rfl⟩
      · exact ⟨_, Or.inr rfl, rfl⟩
  · intro table older member
    rcases (grants.active _).mp member with old | new
    · exact grants.keeps older table (kept.known table older old)
    · obtain ⟨rfl, rfl⟩ := Prod.mk.inj new
      exact grants.made
  · intro asker older member
    rcases List.mem_append.mp member with old | new
    · exact grants.keeps older _ (kept.given asker older old)
    · obtain ⟨rfl, rfl⟩ : asker = sample ∧ older = handle := by simpa using new
      exact grants.made
  · intro older w found
    rcases grants.origin older w found with old | ⟨rfl, none, rfl⟩
    · obtain ⟨first, before, rest, past, unknown, made⟩ := kept.origin older w old
      exact ⟨first, before, rest ++ [.obtained sample handle], by simp [past], unknown, made⟩
    · refine ⟨sample, c.past, [], rfl, fun asker member => ?_, rfl, rfl⟩
      have given := kept.given asker older member
      simp [none] at given
  · intro older w found
    simp only [Registry.handles, List.mem_map, grants.active]
    rcases grants.origin older w found with old | ⟨rfl, _⟩
    · rcases kept.owned older w old with inUse | closed
      · obtain ⟨entry, member, rfl⟩ := List.mem_map.mp inUse
        exact Or.inl ⟨entry, Or.inl member, rfl⟩
      · exact Or.inr closed
    · exact Or.inl ⟨_, Or.inr rfl, rfl⟩
  · intro before asker older rest cut
    rcases cut_of_snoc cut with ⟨rfl, _, last⟩ | ⟨others, rfl, past⟩
    · obtain ⟨rfl, rfl⟩ := Deed.obtained.inj last
      exact ⟨fun _ => (grants.active _).mpr (Or.inr rfl), by simp⟩
    · obtain ⟨inUse, gone⟩ := kept.standing before asker older others past
      simp only [List.mem_append, List.mem_singleton, reduceCtorEq, or_false]
      refine ⟨fun still => (grants.active _).mpr (Or.inl (inUse still)), fun closed again => ?_⟩
      obtain ⟨entry, member, rfl⟩ := List.mem_map.mp again
      rcases (grants.active entry).mp member with old | rfl
      · exact gone closed (List.mem_map.mpr ⟨entry, old, rfl⟩)
      · rcases grants.fresh with inUse | none
        · exact gone closed inUse
        · have given := kept.given asker handle (by simp [past])
          simp [none] at given
  · intro before asker older between later answer rest cut
    obtain ⟨past, last⟩ | ⟨others, past⟩ := cuts_of_snoc cut
    · obtain ⟨rfl, rfl⟩ := Deed.obtained.inj last
      have compared := kept.answer sample past
      rwa [answered] at compared
    · exact kept.same before asker older between later answer others past

/-- A call of a writer keeps everything in custody. -/
theorem use (kept : c.Kept) (handle : Nat) (call : LifeCall) :
    (c.after (.use handle call)).Kept := by
  cases found : c.registry.writers[handle]? with
  | none => simpa only [after, found] using kept
  | some w =>
    obtain ⟨table, columns, closed⟩ := w.served_same c.link call
    simp only [after, found]
    generalize (w.served c.link call).1 = other, (w.served c.link call).2 = link
      at table columns closed ⊢
    have made : (c.registry.put handle other).made = c.registry.made :=
      Registry.made_put found table
    have writer : ∀ (older : Nat) (v : TableWriter),
        (c.registry.put handle other).writers[older]? = some v →
        ∃ old, c.registry.writers[older]? = some old ∧ v.table = old.table ∧
          v.columns = old.columns ∧ (old.closed = true → v.closed = true) := by
      intro older v member
      rw [Registry.getElem?_put] at member
      split at member
      · rename_i its
        simp only [found, Option.map_some, Option.some.injEq] at member
        exact ⟨w, its ▸ found, member ▸ ⟨table, columns, closed⟩⟩
      · exact ⟨v, member, rfl, rfl, id⟩
    constructor
    · exact kept.distinct
    · exact kept.asked
    · intro table older member
      rw [made]
      exact kept.known table older member
    · intro asker older member
      rw [made]
      exact kept.given asker older member
    · intro older v member
      obtain ⟨old, was, table, columns, _⟩ := writer older v member
      rw [table, columns]
      exact kept.origin older old was
    · intro older v member
      obtain ⟨old, was, _, _, closed⟩ := writer older v member
      exact (kept.owned older old was).imp_right closed
    · exact kept.standing
    · exact kept.same

/-- Closing the registry leaves no writer open. -/
theorem closed_closeIn (kept : c.Kept) (order : Arrangement) (link : Link) {handle : Nat}
    {w : TableWriter} (found : (c.registry.closeIn order link).2.1.writers[handle]? = some w) :
    w.closed = true := by
  rw [Registry.closeIn_registry, Registry.getElem?_shutAt] at found
  obtain ⟨old, was, rfl⟩ := Option.map_eq_some_iff.mp found
  split
  · exact old.closed_shut
  · rename_i unused
    exact (kept.owned handle old was).resolve_left unused

/-- Closing the registry keeps everything in custody. -/
theorem close (kept : c.Kept) (order : Arrangement) : (c.after (.close order)).Kept := by
  have closed (handle : Nat) (w : TableWriter)
      (found : (c.registry.closeIn order c.link).2.1.writers[handle]? = some w) :
      w.closed = true := kept.closed_closeIn order c.link found
  simp only [after]
  rw [Registry.closeIn_registry] at closed ⊢
  have made : (c.registry.shutAt c.registry.handles).made = c.registry.made :=
    Registry.made_shutAt c.registry c.registry.handles
  constructor
  · exact List.nodup_nil
  · intro table
    rw [asked_closed]
    rfl
  · intro table handle member
    simp at member
  · intro asker handle member
    have old : .obtained asker handle ∈ c.past := by simpa using member
    exact made ▸ kept.given asker handle old
  · intro handle w found
    rw [Registry.getElem?_shutAt] at found
    obtain ⟨old, was, rfl⟩ := Option.map_eq_some_iff.mp found
    obtain ⟨first, before, rest, past, unknown, table, columns⟩ := kept.origin handle old was
    refine ⟨first, before, rest ++ [.closed], by simp [past], unknown, ?_, ?_⟩
    · split <;> simpa using table
    · split <;> simpa using columns
  · intro handle w found
    exact Or.inr (closed handle w found)
  · intro before asker handle rest cut
    rcases cut_of_snoc cut with ⟨_, _, last⟩ | ⟨others, rfl, _⟩
    · cases last
    · exact ⟨fun still => absurd (by simp) still, fun _ => by simp [Registry.handles]⟩
  · intro before asker handle between later answer rest cut
    obtain ⟨_, last⟩ | ⟨others, past⟩ := cuts_of_snoc cut
    · cases last
    · exact kept.same before asker handle between later answer others past

/-- Every call keeps what is kept, by the lemma for its kind. -/
theorem step (kept : c.Kept) (call : RegistryCall) : (c.after call).Kept := by
  cases call with
  | obtain sample => exact kept.obtain sample
  | use handle call => exact kept.use handle call
  | close order => exact kept.close order

/-- Calls keep what is kept, however many there are, by induction on the calls. -/
theorem run (kept : c.Kept) (calls : List RegistryCall) : (c.afterAll calls).Kept := by
  induction calls generalizing c with
  | nil => exact kept
  | cons call rest ih => exact ih (kept.step call)

/-- As many tables are in use as different ones were asked for since the last close. -/
theorem size (kept : c.Kept) : c.registry.size = (Custody.asked c.past).dedup.length := by
  have same : c.registry.tables.Perm (Custody.asked c.past).dedup := by
    rw [List.perm_ext_iff_of_nodup kept.distinct (List.nodup_dedup _)]
    intro table
    rw [kept.asked, List.mem_dedup]
  rw [← same.length_eq, Registry.tables, List.length_map, Registry.size]

/-- No handle is in use twice. -/
theorem nodup_handles (kept : c.Kept) : c.registry.handles.Nodup := by
  have entries : c.registry.active.Nodup := List.Nodup.of_map _ kept.distinct
  refine entries.map_on ?_
  rintro ⟨table, handle⟩ one ⟨other, same⟩ two rfl
  have tables := (kept.known _ _ one).symm.trans (kept.known _ _ two)
  rw [Option.some.inj tables]

end Kept

/-- A registry owns every writer that it ever made. After any requests, closes of the registry in
any order and calls of writers by those who hold their handles, whatever the service answers:

* two requests were given the same handle exactly when they were for the same table and the
  registry was not closed between them;
* as many tables are in use as different ones were asked for since the last close;
* a handle that was given is that of a writer of the table, and every writer has the columns of
  the sample that it was made from, which is that of the first request that was given its handle;
* every writer is in use or closed;
* closing the registry now, in any order, attempts every writer in use: each statement that one of
  them still holds is closed once, in that order, the answer is a fault exactly when one of these
  closes fails, and no table is in use and no writer open afterwards;
* so it is, in particular, in the order in which the tables came into use.

Proof: induction over the calls, with `Kept` as what each of them keeps: it ties the tables in use
to the requests since the last close, each writer to the first request that was given its handle,
and says that a handle that is not in use is that of a closed writer. Closing is told from the
writers at the handles in use, of which no two are the same. -/
theorem writers_are_owned_or_closed (layout : Layout) (service : Service)
    (calls : List RegistryCall) :
    let c := (opened layout service).afterAll calls
    (∀ before sample handle between other answer rest,
      c.past = before ++ .obtained sample handle :: (between ++ .obtained other answer :: rest) →
      (handle = answer ↔ sample.measurement = other.measurement ∧ .closed ∉ between)) ∧
    c.registry.size = (asked c.past).dedup.length ∧
    (∀ sample handle, .obtained sample handle ∈ c.past →
      ∃ w, c.registry.writers[handle]? = some w ∧ w.table = sample.measurement) ∧
    (∀ (handle : Nat) (w : TableWriter), c.registry.writers[handle]? = some w →
      (∃ sample before rest, c.past = before ++ .obtained sample handle :: rest ∧
        (∀ other, .obtained other handle ∉ before) ∧ w.table = sample.measurement ∧
        w.columns = TableWriter.columnsOf sample) ∧
      (handle ∈ c.registry.handles ∨ w.closed = true)) ∧
    (∀ order : Arrangement, c.registry.Emptied c.link (order.arrange c.registry.handles)
      (c.registry.closeIn order c.link)) ∧
    c.registry.Emptied c.link c.registry.handles (c.registry.close c.link) := by
  intro c
  have kept : c.Kept := (kept_opened layout service).run calls
  have emptied (order : Arrangement) : c.registry.Emptied c.link
      (order.arrange c.registry.handles) (c.registry.closeIn order c.link) := by
    have distinct := (order.perm c.registry.handles).nodup_iff.mpr kept.nodup_handles
    exact ⟨Registry.closeAt_attempted distinct c.registry c.link, rfl,
      fun handle w => kept.closed_closeIn order c.link⟩
  refine ⟨kept.same, kept.size, ?_, ?_, emptied, ?_⟩
  · intro sample handle member
    simpa [Registry.made] using kept.given sample handle member
  · intro handle w found
    exact ⟨kept.origin handle w found, kept.owned handle w found⟩
  · rw [← c.registry.closeIn_straight c.link]
    exact emptied .straight

end Custody

end SeriesBench
