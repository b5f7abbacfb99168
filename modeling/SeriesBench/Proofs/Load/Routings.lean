import SeriesBench.Proofs.Load.Alike

/-!
# Dealing out in turn and routing by table

A load may deal its items out to the workers in turn, who then share the writers, or route them
by table, so that each worker has writers to itself. What comes of it is the same if the points
of a table are alike: each of the two loads does what its input says, which does not mention
the routing. Only the order of a table's rows may differ, and which columns give the table
its names.
-/

namespace SeriesBench

namespace Load

open Pipeline

/-- No schedule of a load gets stuck before everybody is done, and none goes on for ever: it has at
most six steps for each line, so many for each worker, and two. -/
def NeverStuck (plan : LoadPlan) (scanner : Scanner) (link : Link) (own : Nat) : Prop :=
  ∀ router schedule s, Router.make plan.routing plan.workers = .ok router →
    (start plan router scanner link).run schedule = some s →
    schedule.length ≤ 6 * scanner.upcoming.length + own * plan.workers + 2 ∧
      (s.isOver = true ∨ ∃ actor next, s.step actor = some next)

/-- Every load comes to its end. A worker takes three steps beside those for its lines if a fault
stops it. -/
theorem neverStuck_of_sound {plan : LoadPlan} (sound : plan.Sound) (scanner : Scanner)
    (service : Service) : NeverStuck plan scanner (.fresh service) 3 := by
  intro router schedule s made ran
  have formed := formed_start sound made scanner (.fresh service)
  have length := length_le_of_run formed ran
  rw [potential_start] at length
  refine ⟨by omega, ?_⟩
  by_cases finished : s.isOver = true
  · exact .inl finished
  · have formedHere := (reached sound made scanner service ran).1
    exact .inr (exists_step formedHere (by simpa using finished))

/-- Whatever the schedule, nothing goes wrong in a load of alike points. -/
theorem even_of_run {plan : LoadPlan} (sound : plan.Sound) {chunks : List Chunk}
    (whole : ∀ chunk ∈ chunks, chunk.Whole) {service : Service} (obliging : service.Obliging)
    (alike : Alike (Scanner.pointsOf (linesOf (Chunk.bytesOf chunks)))) {router : Router}
    (made : Router.make plan.routing plan.workers = .ok router) {schedule : List Actor}
    {s : Pipeline}
    (ran : (start plan router (.ofChunks chunks) (.fresh service)).run schedule = some s) :
    let lines := linesOf (Chunk.bytesOf chunks)
    s.Formed ∧ ∃ done, Even plan (Scanner.itemsOf plan.intake lines)
      ⟨lines.length, Scanner.droppedOf plan.intake lines⟩ (Scanner.pointsOf lines) done s := by
  intro lines
  have upcoming : (Scanner.ofChunks chunks).upcoming = lines.map .line := upcoming_ofChunks whole
  have readable : .failed ∉ (Scanner.ofChunks chunks).upcoming := by simp [upcoming]
  have ahead : Scanner.linesAhead (Scanner.ofChunks chunks).upcoming = lines := by
    rw [upcoming, Scanner.linesAhead_lines]
  have tally : (Scanner.ofChunks chunks).tallyAhead plan.intake =
      ⟨lines.length, Scanner.droppedOf plan.intake lines⟩ := by
    rw [Scanner.tallyAhead, ahead]
    exact congrArg₂ Tally.mk (Nat.zero_add _) (Nat.zero_add _)
  have items : itemsOf plan (.ofChunks chunks) = Scanner.itemsOf plan.intake lines := by
    rw [itemsOf, ahead]
  have decoded : (itemsOf plan (.ofChunks chunks)).filterMap Item.decoded =
      Scanner.pointsOf lines := by
    rw [items, Scanner.decoded_itemsOf]
  have formed := formed_start sound made (.ofChunks chunks) (.fresh service)
  obtain ⟨formedHere, even⟩ := run_accounts
    (fun done s actor next formed kept moved =>
      even_move alike (fun item member => Scanner.proper_itemsOf member) decoded formed kept moved)
    formed [] (even_start readable obliging) ran
  rw [ahead, tally] at even
  exact ⟨formedHere, _, even⟩

/-- In a load of alike points no worker needs its step for a fault. -/
theorem neverStuck_of_alike {plan : LoadPlan} (sound : plan.Sound) {chunks : List Chunk}
    (whole : ∀ chunk ∈ chunks, chunk.Whole) {service : Service} (obliging : service.Obliging)
    (alike : Alike (Scanner.pointsOf (linesOf (Chunk.bytesOf chunks)))) :
    NeverStuck plan (.ofChunks chunks) (.fresh service) 2 := by
  intro router schedule s made ran
  have formed := formed_start sound made (.ofChunks chunks) (.fresh service)
  obtain ⟨formedHere, done, even⟩ := even_of_run sound whole obliging alike made ran
  refine ⟨length_le_of_lossless formed ran formedHere even.same even.lossless, ?_⟩
  exact (neverStuck_of_sound sound (.ofChunks chunks) service router schedule s made ran).2

/-- A load of alike points does what its input says, with any routing and any schedule. -/
theorem evenly_loaded {plan : LoadPlan} (sound : plan.Sound) {chunks : List Chunk}
    (whole : ∀ chunk ∈ chunks, chunk.Whole) {service : Service} (obliging : service.Obliging)
    (alike : Alike (Scanner.pointsOf (linesOf (Chunk.bytesOf chunks)))) {s : Pipeline}
    (ends : Ends plan (.ofChunks chunks) (.fresh service) s) :
    ∃ summary link, result s = (.ok summary, link) ∧
      LoadedEvenly plan (linesOf (Chunk.bytesOf chunks)) summary link.journal := by
  obtain ⟨router, schedule, made, ran, finished⟩ := ends
  obtain ⟨formedAtEnd, done, even⟩ := even_of_run sound whole obliging alike made ran
  exact loaded_of_even formedAtEnd alike even finished

/-- Two plans, of which the first deals items out in turn and the second routes them by table,
that take in items in the same form and both send their records or do not. -/
structure Counterparts (dealt routed : LoadPlan) : Prop where
  sound : dealt.Sound ∧ routed.Sound
  inTurn : dealt.routing = .inTurn
  byName : routed.routing = .byMeasurement
  intake : dealt.intake = routed.intake
  transmit : dealt.transmit = routed.transmit

/-- Two loads of some points agree: their reports count the same, into every table went the same
rows, in whatever order, and each table that the input has rows for had one statement in each
of them, if records were sent. -/
structure LoadsAgree (plan : LoadPlan) (points : List Point) (first second : Summary)
    (one two : Journal) : Prop where
  rows : first.outcome.rows = second.outcome.rows
  metrics : first.outcome.metrics = second.outcome.metrics
  droppedRows : first.outcome.droppedRows = second.outcome.droppedRows
  droppedItems : first.outcome.droppedItems = second.outcome.droppedItems
  scan : first.scan = second.scan
  tables : ∀ table, (one.rowsOfTable table).Perm (two.rowsOfTable table)
  sent : ∀ table, (one.rowsOfTable table).Perm (sentOf plan.transmit (rowsFor points table))
  prepared : plan.transmit = true → ∀ table, rowsFor points table ≠ [] →
    one.preparedFor table = 1 ∧ two.preparedFor table = 1

/-- Loads that do what the same input says agree. -/
theorem agree_of_evenly {dealt routed : LoadPlan} (counterparts : Counterparts dealt routed)
    {lines : List (List UInt8)} {first second : Summary} {one two : Journal}
    (evenly : LoadedEvenly dealt lines first one)
    (evenly' : LoadedEvenly routed lines second two) :
    LoadsAgree dealt (Scanner.pointsOf lines) first second one two := by
  have rows : first.outcome.rows = second.outcome.rows := evenly.rows.trans evenly'.rows.symm
  have dropped := evenly.droppedRows.trans evenly'.droppedRows.symm
  have sent := evenly'.sent
  have prepared := evenly'.prepared
  rw [← counterparts.transmit] at sent prepared
  constructor
  · exact rows
  · exact evenly.metrics.trans evenly'.metrics.symm
  · omega
  · rw [evenly.items, evenly'.items, counterparts.intake]
  · rw [evenly.scan, evenly'.scan, counterparts.intake]
  · exact fun table => (evenly.sent table).trans (sent table).symm
  · exact evenly.sent
  · intro sends table some
    have out : sentOf dealt.transmit (rowsFor (Scanner.pointsOf lines) table) ≠ [] := by
      simpa [sentOf, sends] using some
    exact ⟨evenly.prepared table out, prepared table out⟩

/-- Dealing the items of an input out in turn and routing them by table come to the same, with
any number of workers and any sizes in either load, if the input arrives whole, every call
succeeds, and the points of each table are alike:

* no schedule of either load gets stuck before everybody is done, and none is endless;
* whichever schedules the two loads had, both end well, and they agree;
* so it is, in particular, when both loads are run.

Proof: every step of either load keeps it `Even`, which says what was inserted of the points written
so far without mentioning who has written them, and in which order only for each writer. So at the
end each of the two loads has done what its input says, and the inputs are the same. -/
theorem routings_agree {dealt routed : LoadPlan} (counterparts : Counterparts dealt routed)
    {chunks others : List Chunk} (whole : ∀ chunk ∈ chunks, chunk.Whole)
    (whole' : ∀ chunk ∈ others, chunk.Whole) (same : Chunk.bytesOf chunks = Chunk.bytesOf others)
    {service other : Service} (obliging : service.Obliging) (obliging' : other.Obliging)
    (alike : Alike (Scanner.pointsOf (linesOf (Chunk.bytesOf chunks)))) :
    let points := Scanner.pointsOf (linesOf (Chunk.bytesOf chunks))
    NeverStuck dealt (.ofChunks chunks) (.fresh service) 2 ∧
    NeverStuck routed (.ofChunks others) (.fresh other) 2 ∧
    (∀ s t, Ends dealt (.ofChunks chunks) (.fresh service) s →
      Ends routed (.ofChunks others) (.fresh other) t →
      ∃ first second link link', result s = (.ok first, link) ∧ result t = (.ok second, link') ∧
        LoadsAgree dealt points first second link.journal link'.journal) ∧
    (Makeable dealt → Makeable routed → ∃ first second link link',
      Load.run dealt (.ofChunks chunks) (.fresh service) = some (.ok first, link) ∧
        Load.run routed (.ofChunks others) (.fresh other) = some (.ok second, link') ∧
        LoadsAgree dealt points first second link.journal link'.journal) := by
  intro points
  obtain ⟨sound, sound'⟩ := counterparts.sound
  have agree (s t : Pipeline) (ends : Ends dealt (.ofChunks chunks) (.fresh service) s)
      (ends' : Ends routed (.ofChunks others) (.fresh other) t) :
      ∃ first second link link', result s = (.ok first, link) ∧ result t = (.ok second, link') ∧
        LoadsAgree dealt points first second link.journal link'.journal := by
    obtain ⟨first, link, ok, evenly⟩ := evenly_loaded sound whole obliging alike ends
    obtain ⟨second, link', ok', evenly'⟩ :=
      evenly_loaded sound' whole' obliging' (same ▸ alike) ends'
    rw [← same] at evenly'
    exact ⟨first, second, link, link', ok, ok', agree_of_evenly counterparts evenly evenly'⟩
  refine ⟨neverStuck_of_alike sound whole obliging alike,
    neverStuck_of_alike sound' whole' obliging' (same ▸ alike), agree, ?_⟩
  intro makeable makeable'
  obtain ⟨s, ends, ran⟩ := run_ends sound makeable (.ofChunks chunks) (.fresh service)
  obtain ⟨t, ends', ran'⟩ := run_ends sound' makeable' (.ofChunks others) (.fresh other)
  obtain ⟨first, second, link, link', ok, ok', agreed⟩ := agree s t ends ends'
  exact ⟨first, second, link, link', ran.trans (congrArg some ok),
    ran'.trans (congrArg some ok'), agreed⟩

/-- The small input loaded in turn and by name: both loads end well and agree, and of the three
points of `cpu` the two that convert are inserted. -/
theorem smallLoads_agree :
    ∃ first second link link',
      Load.run smallDealt (.ofChunks smallInput) (.fresh .agreeable) = some (.ok first, link) ∧
        Load.run smallRouted (.ofChunks smallInput) (.fresh .agreeable) =
          some (.ok second, link') ∧
        LoadsAgree smallDealt (Scanner.pointsOf (linesOf (Chunk.bytesOf smallInput))) first second
          link.journal link'.journal ∧
        (link.journal.rowsOfTable "cpu").length = 2 := by
  have counterparts : Counterparts smallDealt smallRouted := by
    constructor
    · exact ⟨smallDealt_sound, smallRouted_sound⟩
    all_goals rfl
  have whole : ∀ chunk ∈ smallInput, chunk.Whole := by decide +kernel
  have alike : Alike (Scanner.pointsOf (linesOf (Chunk.bytesOf smallInput))) := by decide +kernel
  have rows : (rowsFor (Scanner.pointsOf (linesOf (Chunk.bytesOf smallInput))) "cpu").length =
      2 := by
    decide +kernel
  obtain ⟨_, _, _, ran⟩ := routings_agree counterparts whole whole rfl Service.agreeable_obliging
    Service.agreeable_obliging alike
  obtain ⟨first, second, link, link', dealt, routed, agree⟩ :=
    ran smallDealt_makeable smallRouted_makeable
  exact ⟨first, second, link, link', dealt, routed, agree, (agree.sent "cpu").length_eq.trans rows⟩

end Load

end SeriesBench
