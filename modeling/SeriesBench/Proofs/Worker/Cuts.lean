import SeriesBench.Proofs.Worker.Intake

/-!
# Where batches are cut does not matter

A worker takes in one batch after the other. Where its items are cut into batches decides how they
are grouped, in which order the tables are visited and into how many records the rows go. It decides
nothing else: both the batches and the one batch that they were cut from come to what can be told
from the items.

What was inserted is read off the journal. The statements through which the rows go may have other
numbers, because tables are set up when their first record is sent, but each table has one.
-/

namespace SeriesBench

namespace Crew

/-- Turns are taken one after the other as long as they succeed, and what came of them adds up. -/
def serveAll (crew : Crew) (link : Link) : List Turn → Except Fault Outcome × Crew × Link
  | [] => (.ok {}, crew, link)
  | turn :: rest =>
    match crew.serve link turn with
    | (.error fault, _, crew, link) => (.error fault, crew, link)
    | (.ok outcome, _, crew, link) =>
      let (answer, crew, link) := crew.serveAll link rest
      (answer.map (outcome + ·), crew, link)

/-- The items of some batches, one batch after the other. -/
def itemsOf (batches : List (Batch Item)) : List Item :=
  batches.flatMap fun batch => batch.items.toList

variable {crew : Crew} {worker : Nat} {r : Registry} {link : Link}

/-- A worker without a registry takes in nothing. -/
theorem serveAll_of_none (none : crew.registryOf worker = none) (transmit : Bool)
    (batches : List (Batch Item)) :
    crew.serveAll link (batches.map (Turn.mk worker transmit)) = (.ok {}, crew, link) := by
  induction batches with
  | nil => rfl
  | cons batch rest ih =>
    rw [List.map_cons, serveAll, serve_of_none none]
    simp only [ih]
    rfl

/-- What comes of batches can be told from their items, wherever they are cut. -/
theorem comes_serveAll (owner : crew.registryOf worker = some r) (keeps : r.Keeps fun _ => [])
    (prepared : r.Prepared link.journal) (obliging : link.service.Obliging) (transmit : Bool)
    (batches : List (Batch Item)) :
    let served := crew.serveAll link (batches.map (Turn.mk worker transmit))
    ∃ other, served.2.1 = crew.put worker other ∧
      Ingest.Comes transmit r link ((itemsOf batches).countP Item.undecodable)
        ((itemsOf batches).filterMap Item.decoded) served.1 other served.2.2 := by
  induction batches generalizing crew r link with
  | nil => exact ⟨r, (put_self owner).symm, .refl keeps prepared⟩
  | cons batch rest ih =>
    have comes := Ingest.comes_run keeps prepared obliging transmit batch.items.toList
    have apart : itemsOf (batch :: rest) = batch.items.toList ++ itemsOf rest := rfl
    have turn : crew.serve link ⟨worker, transmit, batch⟩ = _ := serve_eq owner
    simp only [Turn.items] at turn
    rw [List.map_cons, serveAll, turn, apart, List.countP_append, List.filterMap_append]
    rcases ran : Ingest.run transmit r link batch.items.toList with
      ⟨fault | outcome, middle, between⟩ <;> simp only [ran] at comes ⊢
    · exact ⟨middle, rfl, comes.stop _ _⟩
    · cases comes with
      | took fits took =>
        obtain ⟨other, same, later⟩ := ih (registryOf_put owner middle) took.keeps took.prepared
          (took.service ▸ obliging)
        exact ⟨other, by rw [same, put_put], .append fits took later⟩

/-- The rows that a worker has inserted into a table since the link was like this: those of the
records that went through the statement it holds for the table, one record after the other. -/
def rowsSince (crew : Crew) (before after : Link) (worker : Nat) (table : String) :
    List (List Value) :=
  (Journal.through (crew.statementOf worker table)
    (after.journal.drop before.journal.length)).flatMap Record.rowList

/-- Everything that was inserted since went through the statements that a worker holds. -/
def AccountsFor (crew : Crew) (before after : Link) (worker : Nat) : Prop :=
  ∀ entry ∈ Journal.inserted (after.journal.drop before.journal.length),
    ∃ table, crew.statementOf worker table = some entry.1

/-- What was handed over since can be told from what a registry handed over. -/
theorem since_of_handed (owner : crew.registryOf worker = some r) {sent : String → List Record}
    {other : Registry} {after : Link} (handed : r.Handed link sent other after) :
    (crew.put worker other).AccountsFor link after worker ∧
      ∀ table, (crew.put worker other).rowsSince link after worker table =
        (sent table).flatMap Record.rowList := by
  obtain ⟨events, journal, inserted, through⟩ := handed.more
  have since : after.journal.drop link.journal.length = events := by simp [journal]
  have held (table : String) :
      (crew.put worker other).statementOf worker table = other.statementOf table := by
    simp [statementOf, registryOf_put owner]
  refine ⟨fun entry member => ?_, fun table => ?_⟩
  · rw [since] at member
    obtain ⟨table, holds⟩ := inserted entry member
    exact ⟨table, by rw [held, holds]⟩
  · rw [rowsSince, held, since, through]

end Crew

/-- The turn with its items cut into batches in this way. -/
def Turn.inParts (turn : Turn) (parts : List (Batch Item)) : List Turn :=
  parts.map fun batch => { turn with batch }

/-- Two ways of taking in items from the same start came to the same for the worker who took them:
the same tables with the same columns are in use, everything that was inserted belongs to one of
the worker's tables, and for each of these the same rows were inserted, in the same order. -/
structure SameIntake (start : Link) (worker : Nat) (one other : Crew × Link) : Prop where
  tables : ∀ i, (one.1.registryOf i).map Registry.tables = (other.1.registryOf i).map Registry.tables
  schemas : ∀ i,
    (one.1.registryOf i).map Registry.schemas = (other.1.registryOf i).map Registry.schemas
  accounted : one.1.AccountsFor start one.2 worker ∧ other.1.AccountsFor start other.2 worker
  rows : ∀ table,
    one.1.rowsSince start one.2 worker table = other.1.rowsSince start other.2 worker table

/-- What two registries took in of the same points came to the same. -/
theorem Ingest.TookIn.same {transmit : Bool} {crew : Crew} {worker : Nat} {r one other : Registry}
    {link after later : Link} {dropped : Nat} {points : List Point} {sum total : Outcome}
    (owner : crew.registryOf worker = some r)
    (first : TookIn transmit r link dropped points sum one after)
    (second : TookIn transmit r link dropped points total other later) :
    sum = total ∧
      SameIntake link worker (crew.put worker one, after) (crew.put worker other, later) := by
  have seen : one.schemas = other.schemas := first.schemas.trans second.schemas.symm
  obtain ⟨sent, handed, rows⟩ := first.handed
  obtain ⟨sent', handed', rows'⟩ := second.handed
  obtain ⟨accounts, since⟩ := Crew.since_of_handed owner handed
  obtain ⟨accounts', since'⟩ := Crew.since_of_handed owner handed'
  refine ⟨first.outcome.trans second.outcome.symm, ?_, ?_, ⟨accounts, accounts'⟩, ?_⟩
  · intro i
    simp only [Crew.registryOf_put_sharing owner]
    split
    · simp [Registry.tables_of_live first.keeps.live, Registry.tables_of_live second.keeps.live, seen]
    · rfl
  · intro i
    simp only [Crew.registryOf_put_sharing owner]
    split
    · simp [seen]
    · rfl
  · intro table
    rw [since, since', rows, rows']

/-- Two ways to take in the same points from the same state come to the same: both fail, or both
give the same counts and leave the same tables, schemas and rows. -/
theorem Ingest.Comes.same {transmit : Bool} {crew : Crew} {worker : Nat} {r one other : Registry}
    {link after later : Link} {dropped : Nat} {points : List Point}
    {answer answer' : Except Fault Outcome} (owner : crew.registryOf worker = some r)
    (first : Comes transmit r link dropped points answer one after)
    (second : Comes transmit r link dropped points answer' other later) :
    ((∃ fault, answer = .error fault) ↔ ∃ fault, answer' = .error fault) ∧
      ∀ sum total, answer = .ok sum → answer' = .ok total → sum = total ∧
        SameIntake link worker (crew.put worker one, after) (crew.put worker other, later) := by
  cases first with
  | took fits first =>
    cases second with
    | took _ second =>
      refine ⟨by simp, ?_⟩
      rintro sum total ⟨⟩ ⟨⟩
      exact first.same owner second
    | stopped misfit => exact absurd fits misfit
  | stopped misfit =>
    cases second with
    | took fits second => exact absurd fits misfit
    | stopped _ => exact ⟨by simp, by simp⟩

/-- Where batches are cut does not matter. Take any turns of the workers of a new crew, over any
service, none of which failed in the registry that a worker writes to, and from then on a service
whose calls succeed. When the worker takes in the items of one more turn in parts, one batch after
the other as long as they succeed:

* some part fails exactly if the turn would fail;
* if nothing fails, the counts of the parts add up to those of the turn, and both ways come to the
  same tables with the same columns and to the same rows in each of them, in the same order.

Proof: taking in some items comes to what their points come to, given the schemas of the registry,
and two takes in turn come to what the points of both come to. So parts and whole both come to what
the same points come to, and that is the same. A worker that does not exist takes in nothing either
way. -/
theorem cuts_do_not_matter (routing : Routing) (workers : Nat) (layout : Layout) (former : Service)
    (turns : List Turn) {crew : Crew} {link : Link}
    (reached : (Crew.make routing workers layout).afterTurns (.fresh former) turns = (crew, link))
    (turn : Turn)
    (untroubled :
      (Crew.make routing workers layout).failedPoints (.fresh former) turn.worker turns = [])
    {service : Service} (obliging : service.Obliging) {parts : List (Batch Item)}
    (cut : Crew.itemsOf parts = turn.items) :
    let start : Link := ⟨service, link.journal⟩
    let inParts := crew.serveAll start (turn.inParts parts)
    let whole := crew.serve start turn
    ((∃ fault, inParts.1 = .error fault) ↔ ∃ fault, whole.1 = .error fault) ∧
      ∀ sum outcome, inParts.1 = .ok sum → whole.1 = .ok outcome →
        sum = outcome ∧ SameIntake start turn.worker inParts.2 whole.2.2 := by
  intro start inParts whole
  have sound : (Link.fresh former).journal.Sound := by
    simp [Journal.Sound, Journal.inserted, Link.fresh]
  have owes := Crew.owes_afterTurns (Crew.owes_make routing workers layout) (.fresh former) turns
  have prepared := Crew.prepared_afterTurns (Crew.prepared_make routing workers layout sound) turns
  rw [reached] at owes prepared
  cases owner : crew.registryOf turn.worker with
  | none =>
    have first : inParts = (.ok {}, crew, start) :=
      Crew.serveAll_of_none owner turn.transmit parts
    have second : whole = (.ok {}, turn.batch.clear, crew, start) := Crew.serve_of_none owner
    rw [first, second]
    refine ⟨by simp, fun sum outcome one other => ⟨?_, ?_⟩⟩
    · exact Except.ok.inj (one.symm.trans other)
    · exact ⟨fun _ => rfl, fun _ => rfl, by simp [Crew.AccountsFor, Journal.inserted], fun _ => rfl⟩
  | some r =>
    obtain ⟨kept, keeps, among⟩ := owes turn.worker r owner
    obtain rfl : kept = fun _ => [] := by
      funext table
      simpa [untroubled] using among table
    have ready : r.Prepared start.journal := prepared turn.worker r owner
    obtain ⟨one, crewed, comes⟩ :=
      Crew.comes_serveAll owner keeps ready obliging turn.transmit parts
    rw [cut] at comes
    have served : whole = _ := Crew.serve_eq owner
    have parted : inParts.2 = (crew.put turn.worker one, inParts.2.2) := Prod.ext crewed rfl
    rw [served, parted]
    exact comes.same owner (Ingest.comes_run keeps ready obliging turn.transmit turn.items)

/-- The batch in two, with a point of the first table in each. -/
def mixedParts : List (Batch Item) :=
  [⟨mixedTurn.batch.items.extract 0 2, 2⟩, ⟨mixedTurn.batch.items.extract 2 4, 2⟩]

/-- Two workers who share their tables, after a turn of the other one. -/
def beforeMixed : Crew × Link :=
  (Crew.make .inTurn 2 {}).afterTurns (.fresh .agreeable)
    [{ Turn.ofColumns [("1", ["user"])] with worker := 1 }]

/-- The rows of the first table go into one record or into two. -/
theorem mixedTurn_can_be_cut :
    let start : Link := ⟨.agreeable, beforeMixed.2.journal⟩
    let inParts := beforeMixed.1.serveAll start (mixedTurn.inParts mixedParts)
    let whole := beforeMixed.1.serve start mixedTurn
    whole.1 = .ok { rows := 3, metrics := 6, droppedItems := 1 } ∧ inParts.1 = whole.1 ∧
      SameIntake start mixedTurn.worker inParts.2 whole.2.2 ∧
      whole.2.2.1.rowsSince start whole.2.2.2 mixedTurn.worker "cpu" =
        [[.timestamp 2, .int64 7], [.timestamp 4, .int64 9]] := by
  intro start inParts whole
  have outcome : whole.1 = .ok { rows := 3, metrics := 6, droppedItems := 1 } := by decide +kernel
  have sum : inParts.1 = .ok { rows := 3, metrics := 6, droppedItems := 1 } := by decide +kernel
  have same := (cuts_do_not_matter .inTurn 2 {} .agreeable
    [{ Turn.ofColumns [("1", ["user"])] with worker := 1 }]
    (show _ = (beforeMixed.1, beforeMixed.2) from rfl) mixedTurn (by decide +kernel)
    Service.agreeable_obliging (show Crew.itemsOf mixedParts = mixedTurn.items by decide)).2
    _ _ sum outcome
  exact ⟨outcome, sum.trans outcome.symm, same.2, by decide +kernel⟩

end SeriesBench
