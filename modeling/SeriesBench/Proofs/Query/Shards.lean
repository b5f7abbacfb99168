import Mathlib.Data.List.Range
import SeriesBench.Proofs.Query.Recorded

/-!
# Runners that share a service

The queries are dealt to several runners, and these work at the same time over one link: whose
query comes next is for nobody to say. A floor is such a state of affairs; it notes who had which
query answered, and how. Runners that work one after the other are the case in which each has all
its turns at once.

The main statement is that dealing changes no count, if the answer of the service depends on the
text alone. Each runner has its own queries answered, each once and in order, whatever became of
those before. When the times are added up, in any order, they tell of all queries what the times of
one runner would. The same is said of `Runner.runAll` for one runner alone, and of
`Runner.runShards` for several, one after the other.
-/

namespace SeriesBench

/-- The queries that wait for a runner, and its times so far. -/
structure Desk where
  waiting : List Query
  times : Latencies

/-- A query that a runner had answered, and how. -/
structure Exchange where
  runner : Nat
  query : Query
  reply : Reply

/-- Runners at work over one link, with the queries that were answered so far. -/
structure Floor where
  desks : List Desk
  link : Link
  served : List Exchange

namespace Floor

/-- Runners who have not begun, each with the queries that it was dealt. -/
def opened (link : Link) (shards : List (List Query)) : Floor :=
  ⟨shards.map fun shard => ⟨shard, .empty⟩, link, []⟩

/-- The next query of one of the runners, if it has one. -/
def turn (r : Runner) (f : Floor) (runner : Nat) : Floor :=
  match f.desks[runner]? with
  | some ⟨q :: rest, times⟩ =>
    let (reply, _, link) := r.run f.link q
    { desks := f.desks.set runner ⟨rest, Runner.note times reply⟩
      link
      served := f.served ++ [⟨runner, q, reply⟩] }
  | _ => f

/-- The floor after some turns. -/
def work (r : Runner) (f : Floor) (turns : List Nat) : Floor :=
  turns.foldl (turn r) f

/-- The times of each runner. -/
def times (f : Floor) : List Latencies :=
  f.desks.map Desk.times

/-- What a runner had answered. -/
def servedBy (f : Floor) (runner : Nat) : List Exchange :=
  f.served.filter fun s => s.runner == runner

/-- What was answered, in order. -/
def replies (f : Floor) : List Reply :=
  f.served.map Exchange.reply

end Floor

namespace Floor

/-- A runner that has all its turns at once does what it does alone.

Proof: by induction on the queries that wait. A turn answers the first of them as `Runner.runFrom`
does, and leaves a desk of which the rest can be said. -/
theorem work_alone (r : Runner) (waiting : List Query) {f : Floor} {runner : Nat}
    {known : Latencies} (found : f.desks[runner]? = some ⟨waiting, known⟩) :
    ∃ served, f.work r (List.replicate waiting.length runner) =
      ⟨f.desks.set runner ⟨[], (r.runFrom known f.link waiting).1⟩,
        (r.runFrom known f.link waiting).2.2, f.served ++ served⟩ := by
  induction waiting generalizing f known with
  | nil =>
    have same : f.desks.set runner ⟨[], known⟩ = f.desks := by
      obtain ⟨inside, its⟩ := List.getElem?_eq_some_iff.mp found
      rw [← its, List.set_getElem_self]
    refine ⟨[], ?_⟩
    simp [work, Runner.runFrom, same]
  | cons q rest ih =>
    rcases ran : r.run f.link q with ⟨reply, printed, link⟩
    have next : f.turn r runner =
        { desks := f.desks.set runner ⟨rest, Runner.note known reply⟩
          link
          served := f.served ++ [⟨runner, q, reply⟩] } := by
      simp [turn, found, ran]
    have there : (f.turn r runner).desks[runner]? = some ⟨rest, Runner.note known reply⟩ := by
      obtain ⟨inside, _⟩ := List.getElem?_eq_some_iff.mp found
      simp [next, inside]
    obtain ⟨served, worked⟩ := ih there
    refine ⟨⟨runner, q, reply⟩ :: served, ?_⟩
    have first : f.work r (List.replicate (q :: rest).length runner) =
        (f.turn r runner).work r (List.replicate rest.length runner) := rfl
    rw [first, worked, next]
    simp [Runner.runFrom, ran]

/-- Each runner in turn does all its queries. -/
def oneByOne (first : Nat) : List (List Query) → List Nat
  | [] => []
  | shard :: rest => List.replicate shard.length first ++ oneByOne (first + 1) rest

/-- Runners one after the other come to what `runShards` adds up.

Proof: by induction on the shards that are not begun; the desks of those before are done and are
left alone. A runner with all its turns at once is `work_alone`. -/
theorem work_oneByOne (r : Runner) (shards : List (List Query)) (f : Floor) (done : List Desk)
    (desks : f.desks = done ++ shards.map fun shard => ⟨shard, .empty⟩) (known : Latencies) :
    ∃ times, (f.work r (oneByOne done.length shards)).times = done.map Desk.times ++ times ∧
      (r.runShards known f.link shards).1 = times.foldl Latencies.merge known ∧
      (f.work r (oneByOne done.length shards)).link = (r.runShards known f.link shards).2.2 := by
  induction shards generalizing f done known with
  | nil => exact ⟨[], by simp [oneByOne, work, times, desks], rfl, rfl⟩
  | cons shard rest ih =>
    have found : f.desks[done.length]? = some ⟨shard, .empty⟩ := by simp [desks]
    obtain ⟨served, worked⟩ := work_alone r shard found
    have after : (f.work r (List.replicate shard.length done.length)).desks =
        (done ++ [⟨[], (r.runFrom .empty f.link shard).1⟩]) ++
          rest.map fun shard => ⟨shard, .empty⟩ := by
      simp [worked, desks]
    obtain ⟨times, all, sum, link⟩ := ih _ _ after (known.merge (r.runFrom .empty f.link shard).1)
    have cut : f.work r (oneByOne done.length (shard :: rest)) =
        (f.work r (List.replicate shard.length done.length)).work r
          (oneByOne (done.length + 1) rest) := by
      simp [oneByOne, work]
    rw [List.length_append, List.length_singleton] at all link
    have from' : (f.work r (List.replicate shard.length done.length)).link =
        (r.runFrom .empty f.link shard).2.2 := by rw [worked]
    rw [from'] at sum link
    refine ⟨(r.runFrom .empty f.link shard).1 :: times, ?_, ?_, ?_⟩
    · rw [cut, all]
      simp
    · simpa [Runner.runShards, Runner.runAll] using sum
    · rw [cut, link]
      simp [Runner.runShards, Runner.runAll]

/-- What several runners come to who work one after the other is what a floor comes to on which
they do so. -/
theorem runShards_eq (r : Runner) (link : Link) (shards : List (List Query)) :
    let f := (opened link shards).work r (oneByOne 0 shards)
    (r.runShards .empty link shards).1 = f.times.foldl Latencies.merge .empty ∧
      (r.runShards .empty link shards).2.2 = f.link := by
  intro f
  obtain ⟨times, all, sum, after⟩ :=
    work_oneByOne r shards (opened link shards) [] rfl .empty
  have its : f.times = times := all
  rw [its]
  exact ⟨sum, after.symm⟩

end Floor

/-- The reply that a query gets is what the service responds to its text, in some time. -/
def Query.Gets (respond : String → Except Fault (List Record)) (q : Query) (reply : Reply) : Prop :=
  ∃ elapsed, reply =
    (respond q.sql).map fun result => ⟨q.label, elapsed, Runner.countRows result⟩

/-- What is entered in the journal when a query is answered. -/
def Query.event (respond : String → Except Fault (List Record)) (q : Query) : Event :=
  ⟨.execute q.sql, Link.isOk (respond q.sql)⟩

/-- What was answered is what the service responds to the text. -/
def Exchange.Honest (respond : String → Except Fault (List Record)) (e : Exchange) : Prop :=
  e.query.Gets respond e.reply

variable {respond : String → Except Fault (List Record)}

/-- A reply is a success exactly when the service responds with one. -/
theorem Query.Gets.isOk {q : Query} {reply : Reply} (gets : q.Gets respond reply) :
    Link.isOk reply = Link.isOk (respond q.sql) := by
  obtain ⟨elapsed, rfl⟩ := gets
  cases respond q.sql <;> rfl

/-- A reply counts for the label of its query, if it is a success. -/
theorem Query.Gets.timed {q : Query} {reply : Reply} (gets : q.Gets respond reply)
    (label : String) :
    (reply.timeFor? label).isSome = (q.label == label && Link.isOk (respond q.sql)) := by
  obtain ⟨elapsed, rfl⟩ := gets
  cases respond q.sql with
  | error fault => simp [Except.map, Reply.timeFor?, Link.isOk]
  | ok result =>
    by_cases its : q.label = label <;> simp [Except.map, Reply.timeFor?, Link.isOk, its]

/-- What running a query comes to when the service responds to texts alone. -/
theorem Runner.run_of_textual (r : Runner) {link : Link}
    (textual : ∀ journal sql, link.service.execute journal sql = respond sql) (q : Query) :
    q.Gets respond (r.run link q).1 ∧
      (r.run link q).2.2 = { link with journal := link.journal ++ [q.event respond] } := by
  have answer : link.execute q.sql = (respond q.sql,
      { link with journal := link.journal ++ [q.event respond] }) := by
    simp [Link.execute, Link.enter, Query.event, textual]
  unfold Query.Gets
  cases responded : respond q.sql <;> simp [Runner.run, answer, responded, Except.map]

/-- What running queries in order comes to: each is executed once, in its place, whatever became of
those before, and the times are those known before with the replies recorded.

Proof: by induction on the queries. What the first one leaves of the link is a longer journal of the
same service. -/
theorem Runner.runFrom_of_textual (r : Runner) {link : Link}
    (textual : ∀ journal sql, link.service.execute journal sql = respond sql)
    (queries : List Query) (known : Latencies) :
    ∃ replies, List.Forall₂ (Query.Gets respond) queries replies ∧
      (r.runFrom known link queries).1 = replies.foldl Runner.note known ∧
      (r.runFrom known link queries).2.2 =
        { link with journal := link.journal ++ queries.map (Query.event respond) } := by
  induction queries generalizing link known with
  | nil => exact ⟨[], .nil, rfl, by simp [runFrom]⟩
  | cons q rest ih =>
    obtain ⟨gets, after⟩ := r.run_of_textual textual q
    rcases ran : r.run link q with ⟨reply, printed, next⟩
    simp only [ran] at gets after
    have here : ∀ journal sql, next.service.execute journal sql = respond sql := by
      rw [after]
      exact textual
    obtain ⟨replies, others, times, last⟩ := ih here (note known reply)
    refine ⟨reply :: replies, .cons gets others, ?_, ?_⟩
    · simpa [runFrom, ran] using times
    · simpa [runFrom, ran, after] using last

/-- What the shards of several runners come to who work one after the other.

Proof: by induction on the shards. The times of a shard are begun anew and tell of its replies; so
what was known, merged with them, tells of those too. -/
theorem Runner.runShards_of_textual (r : Runner) {link : Link}
    (textual : ∀ journal sql, link.service.execute journal sql = respond sql)
    (shards : List (List Query)) {known : Latencies} {heard : List Reply}
    (tells : known.Tells heard) :
    ∃ replies, List.Forall₂ (Query.Gets respond) shards.flatten replies ∧
      (r.runShards known link shards).1.Tells (heard ++ replies) ∧
      (r.runShards known link shards).2.2 =
        { link with journal := link.journal ++ shards.flatten.map (Query.event respond) } := by
  induction shards generalizing link known heard with
  | nil => exact ⟨[], .nil, by simpa [runShards] using tells, by simp [runShards]⟩
  | cons shard rest ih =>
    obtain ⟨first, answered, times, after⟩ := r.runFrom_of_textual textual shard .empty
    rcases ran : r.runFrom .empty link shard with ⟨recorded, printed, next⟩
    simp only [ran] at times after
    have here : ∀ journal sql, next.service.execute journal sql = respond sql := by
      rw [after]
      exact textual
    have told : recorded.Tells first := times ▸ .noteAll first
    obtain ⟨replies, others, all, last⟩ := ih here (tells.merge told)
    refine ⟨first ++ replies, List.rel_append answered others, ?_, ?_⟩
    · simpa [runShards, runAll, ran] using all
    · simpa [runShards, runAll, ran, after] using last

namespace Floor

/-- A floor after some turns, when the service responds to texts alone. Each runner has had the
queries at the front of its shard answered, as many as it had turns, and its times tell of them. -/
structure Shared (respond : String → Except Fault (List Record)) (start : Link)
    (shards : List (List Query)) (turns : List Nat) (f : Floor) : Prop where
  service : f.link.service = start.service
  journal : f.link.journal = start.journal ++ f.served.map fun e => e.query.event respond
  honest : ∀ e ∈ f.served, e.Honest respond ∧ e.runner < shards.length
  desks : f.desks.length = shards.length
  each : ∀ (runner : Nat) shard desk, shards[runner]? = some shard → f.desks[runner]? = some desk →
    desk.waiting = shard.drop (turns.count runner) ∧
      (f.servedBy runner).map Exchange.query = shard.take (turns.count runner) ∧
      desk.times.Tells ((f.servedBy runner).map Exchange.reply)

variable {start : Link} {shards : List (List Query)} {turns : List Nat} {f : Floor}

/-- Before any turn nothing was answered, and every runner has its whole shard to do. -/
theorem shared_opened (respond : String → Except Fault (List Record)) (start : Link)
    (shards : List (List Query)) : (opened start shards).Shared respond start shards [] := by
  constructor
  · rfl
  · simp [opened]
  · simp [opened]
  · simp [opened]
  · intro runner shard desk dealt found
    obtain rfl : ⟨shard, .empty⟩ = desk := by simpa [opened, dealt] using found
    exact ⟨rfl, rfl, .empty⟩

/-- How many turns a runner had, with one more turn of some runner. -/
theorem count_snoc (turns : List Nat) (runner other : Nat) :
    (turns ++ [runner]).count other = turns.count other + if runner = other then 1 else 0 := by
  by_cases its : runner = other <;> simp [its]

/-- A turn of a runner that has no query left. -/
theorem Shared.idle (shared : f.Shared respond start shards turns) {runner : Nat}
    (none : ∀ desk, f.desks[runner]? = some desk → desk.waiting = []) :
    f.Shared respond start shards (turns ++ [runner]) := by
  refine { shared with each := fun other shard desk dealt found => ?_ }
  obtain ⟨waiting, queries, tells⟩ := shared.each other shard desk dealt found
  rw [count_snoc]
  split
  · rename_i its
    subst its
    rw [none desk found] at waiting
    have finished : shard.length ≤ turns.count runner := List.drop_eq_nil_iff.mp waiting.symm
    rw [List.take_of_length_le finished] at queries
    have beyond : shard.length ≤ turns.count runner + 1 := by omega
    rw [none desk found, List.drop_eq_nil_of_le beyond, List.take_of_length_le beyond]
    exact ⟨rfl, queries, tells⟩
  · exact ⟨waiting, queries, tells⟩

/-- A turn in which a query is answered. -/
theorem Shared.serve (shared : f.Shared respond start shards turns) {runner : Nat} {q : Query}
    {rest : List Query} {known : Latencies} (found : f.desks[runner]? = some ⟨q :: rest, known⟩)
    {e : Exchange} (its : e.runner = runner ∧ e.query = q) (honest : e.Honest respond) {link : Link}
    (after : link =
      { f.link with journal := f.link.journal ++ [e.query.event respond] }) :
    Shared respond start shards (turns ++ [runner])
      ⟨f.desks.set runner ⟨rest, Runner.note known e.reply⟩, link, f.served ++ [e]⟩ := by
  obtain ⟨rfl, rfl⟩ := its
  obtain ⟨inside, _⟩ := List.getElem?_eq_some_iff.mp found
  have mine (runner : Nat) : Floor.servedBy ⟨f.desks.set e.runner ⟨rest, Runner.note known e.reply⟩,
      link, f.served ++ [e]⟩ runner =
      f.servedBy runner ++ if e.runner = runner then [e] else [] := by
    by_cases its : e.runner = runner <;> simp [servedBy, its]
  constructor
  · rw [after]
    exact shared.service
  · simp [after, shared.journal]
  · intro other member
    rcases List.mem_append.mp member with old | new
    · exact shared.honest other old
    · obtain rfl := List.mem_singleton.mp new
      exact ⟨honest, shared.desks ▸ inside⟩
  · simpa using shared.desks
  · intro other shard desk dealt there
    rw [count_snoc, mine]
    by_cases own : e.runner = other
    · subst own
      obtain ⟨waiting, queries, tells⟩ := shared.each e.runner shard _ dealt found
      obtain rfl : ⟨rest, Runner.note known e.reply⟩ = desk := by
        simpa [inside] using there
      have front : shard[turns.count e.runner]? = some e.query := by
        rw [← List.head?_drop, ← waiting]
        rfl
      rw [if_pos rfl, if_pos rfl]
      refine ⟨?_, ?_, ?_⟩
      · rw [← List.drop_drop, ← waiting]
        rfl
      · rw [List.map_append, queries, List.take_add_one, front]
        rfl
      · rw [List.map_append]
        exact tells.note e.reply
    · have same : f.desks[other]? = some desk := by
        rw [← there, List.getElem?_set_ne own]
      simpa [own] using shared.each other shard desk dealt same

/-- One more turn. -/
theorem Shared.turn (shared : f.Shared respond start shards turns) (r : Runner)
    (textual : ∀ journal sql, start.service.execute journal sql = respond sql) (runner : Nat) :
    (f.turn r runner).Shared respond start shards (turns ++ [runner]) := by
  unfold Floor.turn
  split
  · rename_i q rest known found
    have here : ∀ journal sql, f.link.service.execute journal sql = respond sql := by
      rw [shared.service]
      exact textual
    obtain ⟨gets, link⟩ := r.run_of_textual here q
    exact shared.serve found (e := ⟨runner, q, (r.run f.link q).1⟩) ⟨rfl, rfl⟩ gets link
  · rename_i none
    refine shared.idle fun desk found => ?_
    rcases desk with ⟨waiting | ⟨q, rest⟩, known⟩
    · rfl
    · exact absurd found (none q rest known)

/-- Any turns. -/
theorem Shared.work (shared : f.Shared respond start shards turns) (r : Runner)
    (textual : ∀ journal sql, start.service.execute journal sql = respond sql) (more : List Nat) :
    (f.work r more).Shared respond start shards (turns ++ more) := by
  induction more generalizing f turns with
  | nil => simpa [Floor.work] using shared
  | cons runner rest ih =>
    have all := ih (shared.turn r textual runner)
    rwa [List.append_assoc] at all

end Floor

/-- Elements with numbers below a bound, number by number. -/
theorem perm_sorted {α : Type} (number : α → Nat) (xs : List α) (bound : Nat) :
    ((List.range bound).map fun i => xs.filter fun x => number x == i).flatten.Perm
      (xs.filter fun x => number x < bound) := by
  induction bound with
  | zero => simp
  | succ bound ih =>
    have low : (xs.filter fun x => decide (number x < bound + 1)).filter
        (fun x => decide (number x < bound)) = xs.filter fun x => decide (number x < bound) := by
      rw [List.filter_filter]
      refine List.filter_congr fun x _ => ?_
      rw [← Bool.decide_and, decide_eq_decide]
      omega
    have last : (xs.filter fun x => decide (number x < bound + 1)).filter
        (fun x => !decide (number x < bound)) = xs.filter fun x => number x == bound := by
      rw [List.filter_filter]
      refine List.filter_congr fun x _ => ?_
      rw [← decide_not, ← Bool.decide_and, Bool.beq_eq_decide_eq, decide_eq_decide]
      omega
    have both := List.filter_append_perm (fun x => decide (number x < bound))
      (xs.filter fun x => decide (number x < bound + 1))
    rw [low, last] at both
    rw [List.range_succ, List.map_append, List.flatten_append]
    simpa using (ih.append_right _).trans both

/-- When queries are dealt in turn to some runners, each is dealt to one of them. -/
theorem Runner.perm_deal {runners : Nat} (some : 0 < runners) (queries : List Query) :
    (deal runners queries).flatten.Perm queries := by
  have sorted := perm_sorted (fun entry : Query × Nat => entry.2 % runners) queries.zipIdx runners
  have all : (queries.zipIdx.filter fun entry => decide (entry.2 % runners < runners)) =
      queries.zipIdx :=
    List.filter_eq_self.mpr fun entry _ => by simpa using Nat.mod_lt entry.2 some
  rw [all] at sorted
  have names := sorted.map Prod.fst
  rw [List.zipIdx_map_fst, List.map_flatten, List.map_map] at names
  exact names

namespace Floor

variable {start : Link} {shards : List (List Query)} {turns : List Nat} {f : Floor}

/-- What was answered is what the runners had answered. -/
theorem Shared.perm_served (shared : f.Shared respond start shards turns) :
    ((List.range shards.length).map f.servedBy).flatten.Perm f.served := by
  have sorted := perm_sorted Exchange.runner f.served shards.length
  have all : (f.served.filter fun e => decide (e.runner < shards.length)) = f.served :=
    List.filter_eq_self.mpr fun e member => by simpa using (shared.honest e member).2
  rwa [all] at sorted

/-- The times of the runners, added up in any order, tell of all that was answered. -/
theorem Shared.tells (shared : f.Shared respond start shards turns) {merged : List Latencies}
    (order : merged.Perm f.times) :
    (merged.foldl Latencies.merge .empty).Tells f.replies := by
  have each : List.Forall₂ Latencies.Tells f.times
      ((List.range shards.length).map fun runner => (f.servedBy runner).map Exchange.reply) := by
    rw [List.forall₂_iff_get]
    refine ⟨by simp [times, shared.desks], fun runner inside _ => ?_⟩
    have there : runner < f.desks.length := by simpa [times] using inside
    have dealt : runner < shards.length := shared.desks ▸ there
    simpa [times] using (shared.each runner _ _ (List.getElem?_eq_getElem dealt)
      (List.getElem?_eq_getElem there)).2.2
  obtain ⟨heard, tells, same⟩ := List.perm_comp_forall₂ order each
  have all : heard.flatten.Perm f.replies := by
    refine same.flatten.trans ?_
    have replies := shared.perm_served.map Exchange.reply
    rw [List.map_flatten, List.map_map] at replies
    exact replies
  exact (Latencies.Tells.mergeAll tells .empty).perm (by simpa using all)

/-- When every runner has had its turns, each has had its shard answered. -/
theorem Shared.finished (shared : f.Shared respond start shards turns)
    (enough : ∀ (runner : Nat) shard, shards[runner]? = some shard →
      shard.length ≤ turns.count runner)
    {runner : Nat} {shard : List Query} (dealt : shards[runner]? = some shard) :
    (f.servedBy runner).map Exchange.query = shard := by
  have inside : runner < f.desks.length :=
    shared.desks ▸ (List.getElem?_eq_some_iff.mp dealt).1
  obtain ⟨_, queries, _⟩ :=
    shared.each runner shard _ dealt (List.getElem?_eq_getElem inside)
  rw [queries, List.take_of_length_le (enough runner shard dealt)]

/-- When every runner has had its turns, the queries that were answered are those that were
dealt. -/
theorem Shared.perm_queries (shared : f.Shared respond start shards turns)
    (enough : ∀ (runner : Nat) shard, shards[runner]? = some shard →
      shard.length ≤ turns.count runner) :
    (f.served.map Exchange.query).Perm shards.flatten := by
  have queries := shared.perm_served.map Exchange.query
  rw [List.map_flatten, List.map_map] at queries
  have dealt : (List.range shards.length).map (List.map Exchange.query ∘ f.servedBy) = shards := by
    apply List.ext_getElem
    · simp
    · intro runner _ inside
      simpa using shared.finished enough (List.getElem?_eq_getElem inside)
  rw [dealt] at queries
  exact queries.symm

end Floor

/-- Times account for queries that got some replies. They count for each label the queries that
succeed, and the failures are those that do not, so that together they are as many as there are
queries; for each label the least and the greatest time are those of all that were recorded. -/
structure Latencies.AccountsFor (times : Latencies)
    (respond : String → Except Fault (List Record)) (queries : List Query)
    (replies : List Reply) : Prop where
  counts : ∀ label, (times.get? label).elim 0 LabelStats.count =
    queries.countP fun q => q.label == label && Link.isOk (respond q.sql)
  failures : times.failures = queries.countP fun q => !Link.isOk (respond q.sql)
  all : times.count + times.failures = queries.length
  covers : ∀ label stats, times.get? label = some stats → stats.Covers (timesFor label replies)

/-- What is counted among the replies can be counted among the queries. -/
theorem countP_of_gets {queries : List Query} {replies : List Reply}
    (gets : List.Forall₂ (Query.Gets respond) queries replies)
    {ofReply : Reply → Bool} {ofQuery : Query → Bool}
    (same : ∀ q reply, q.Gets respond reply → ofReply reply = ofQuery q) :
    replies.countP ofReply = queries.countP ofQuery := by
  induction gets with
  | nil => rfl
  | cons first _ ih => rw [List.countP_cons, List.countP_cons, same _ _ first, ih]

/-- Times that tell of the replies to some queries account for these, in any order.

Proof: a reply is a success, and counts for a label, exactly if that can be said of its query; so
what the times count among the replies is counted among the queries. -/
theorem Latencies.Tells.accountsFor {times : Latencies} {answered queries : List Query}
    {replies : List Reply} (tells : times.Tells replies)
    (gets : List.Forall₂ (Query.Gets respond) answered replies)
    (order : answered.Perm queries) : times.AccountsFor respond queries replies := by
  have counted {ofReply : Reply → Bool} {ofQuery : Query → Bool}
      (same : ∀ q reply, q.Gets respond reply → ofReply reply = ofQuery q) :
      replies.countP ofReply = queries.countP ofQuery :=
    (countP_of_gets gets same).trans (order.countP_eq _)
  have succeeded : times.count = queries.countP fun q => Link.isOk (respond q.sql) :=
    tells.count.trans (counted fun q reply gets => gets.isOk)
  have failed : times.failures = queries.countP fun q => !Link.isOk (respond q.sql) :=
    tells.failures.trans (counted fun q reply gets => by rw [gets.isOk])
  constructor
  · intro label
    rw [tells.countFor, timesFor, List.length_filterMap_eq_countP]
    exact counted fun q reply gets => gets.timed label
  · exact failed
  · have parts := List.length_eq_countP_add_countP
      (fun q : Query => Link.isOk (respond q.sql)) (l := queries)
    rw [succeeded, failed]
    simpa using parts.symm
  · intro label stats found
    have reports := tells.reports label
    rwa [found] at reports

/-- The replies on a floor are those to the queries that were answered on it. -/
theorem Floor.Shared.gets {start : Link} {shards : List (List Query)} {turns : List Nat}
    {f : Floor} (shared : f.Shared respond start shards turns) :
    List.Forall₂ (Query.Gets respond) (f.served.map Exchange.query)
      f.replies := by
  rw [Floor.replies, List.forall₂_map_left_iff, List.forall₂_map_right_iff, List.forall₂_same]
  exact fun e member => (shared.honest e member).1

open Floor in
/-- Dealing queries to several runners changes no count. The service responds to the text of a
query alone; the queries are dealt in any way to any number of runners, who take turns in any order
until each has had enough of them, and their times are merged in any order. Then:

* each runner has had the queries of its shard answered, each once and in order, and the service
  was asked for nothing else;
* the total accounts for all the queries, and agrees with what one runner would have recorded, had
  it been given the same answers;
* a runner alone, over any link to the service, executes its queries each once and in order,
  whatever became of those before, and its times account for them;
* so do runners one after the other, who are the case of a floor on which each has all its turns at
  once.

Proof: what a turn does to a floor is one case of `Floor.Shared`, which tells the times of each
runner by the replies that it had; so by induction it holds after all turns. What times tell does
not depend on an order and can be merged, and the replies are those to the queries that were dealt.
For runners who are not disturbed, the induction is on their queries and on the shards. -/
theorem sharding_changes_no_count (r : Runner) (link : Link)
    {respond : String → Except Fault (List Record)}
    (textual : ∀ journal sql, link.service.execute journal sql = respond sql)
    {queries : List Query} {shards : List (List Query)} (dealt : shards.flatten.Perm queries)
    {turns : List Nat}
    (enough : ∀ (runner : Nat) shard, shards[runner]? = some shard →
      shard.length ≤ turns.count runner)
    {merged : List Latencies} (order : merged.Perm ((opened link shards).work r turns).times) :
    let f := (opened link shards).work r turns
    let total := merged.foldl Latencies.merge .empty
    let alone := f.replies.foldl Runner.note .empty
    (∀ runner shard, shards[runner]? = some shard →
      (f.servedBy runner).map Exchange.query = shard) ∧
    f.link.journal = link.journal ++ (f.served.map fun e => e.query.event respond) ∧
    total.AccountsFor respond queries f.replies ∧
    (total.count = alone.count ∧ total.failures = alone.failures ∧
      ∀ label, (total.get? label).map (fun s => (s.count, s.least, s.greatest)) =
        (alone.get? label).map fun s => (s.count, s.least, s.greatest)) ∧
    (∀ (start : Link) (shard : List Query), start.service = link.service →
      let run := r.runAll start shard
      ∃ replies, List.Forall₂ (Query.Gets respond) shard replies ∧
        run.2.2.journal = start.journal ++ shard.map (Query.event respond) ∧
        run.1.AccountsFor respond shard replies) ∧
    let run := r.runShards .empty link shards
    let inTurn := (opened link shards).work r (oneByOne 0 shards)
    (∃ replies, List.Forall₂ (Query.Gets respond) shards.flatten replies ∧
      run.2.2.journal = link.journal ++ shards.flatten.map (Query.event respond) ∧
      run.1.AccountsFor respond queries replies) ∧
    run.1 = inTurn.times.foldl Latencies.merge .empty ∧ run.2.2 = inTurn.link := by
  intro f total alone
  have shared : f.Shared respond link shards turns :=
    (shared_opened respond link shards).work r textual turns
  have tells : total.Tells f.replies := shared.tells order
  have together : alone.Tells f.replies := .noteAll f.replies
  refine ⟨fun runner shard => shared.finished enough, shared.journal,
    tells.accountsFor shared.gets ((shared.perm_queries enough).trans dealt),
    ⟨tells.count.trans together.count.symm, tells.failures.trans together.failures.symm,
      tells.unique together⟩, ?_, ?_⟩
  · intro start shard same run
    have here : ∀ journal sql, start.service.execute journal sql = respond sql := by
      rw [same]
      exact textual
    obtain ⟨replies, gets, times, after⟩ := r.runFrom_of_textual here shard .empty
    have recorded : run.1.Tells replies := by
      have all : run.1 = replies.foldl Runner.note .empty := times
      rw [all]
      exact .noteAll replies
    exact ⟨replies, gets, congrArg Link.journal after, recorded.accountsFor gets (.refl shard)⟩
  · intro run inTurn
    obtain ⟨replies, gets, told, after⟩ := r.runShards_of_textual textual shards .empty
    exact ⟨⟨replies, gets, congrArg Link.journal after, told.accountsFor gets dealt⟩,
      runShards_eq r link shards⟩

/-- A service that knows one table and refuses every other text. -/
def Service.oneTable : Service where
  execute _ sql :=
    if sql = "SELECT * FROM cpu" then .ok [] else .error (.statement "execute" "no such table")
  prepare _ _ := .ok ()
  insert _ _ _ := .ok 0
  close _ _ := .ok ()

/-- Two runners get three queries, one of which fails. On the floor the second runner begins, and its
times are the first to be merged; the first runner does its queries alone, and then both do theirs,
one after the other. Whatever is run, each query is executed once. -/
theorem two_runners_change_no_count :
    let queries : List Query := [⟨"all", "", "SELECT * FROM cpu"⟩, ⟨"all", "", "SELECT * FROM mem"⟩,
      ⟨"again", "", "SELECT * FROM cpu"⟩]
    let shards := Runner.deal 2 queries
    let link : Link := .fresh .oneTable
    let r : Runner := ⟨false, fun journal => ⟨journal.length, 0⟩⟩
    let f := (Floor.opened link shards).work r [1, 0, 0]
    let total := f.times.reverse.foldl Latencies.merge .empty
    let first := r.runAll link [queries[0], queries[2]]
    let run := r.runShards .empty link shards
    shards = [[queries[0], queries[2]], [queries[1]]] ∧
      (∀ runner shard, shards[runner]? = some shard →
        (f.servedBy runner).map Exchange.query = shard) ∧
      ((total.get? "all").elim 0 LabelStats.count = 1 ∧ total.failures = 1 ∧
        total.count + total.failures = 3) ∧
      (first.2.2.journal = [⟨.execute "SELECT * FROM cpu", true⟩,
          ⟨.execute "SELECT * FROM cpu", true⟩] ∧
        first.1.failures = 0 ∧ first.1.count + first.1.failures = 2) ∧
      run.2.2.journal = [⟨.execute "SELECT * FROM cpu", true⟩,
          ⟨.execute "SELECT * FROM cpu", true⟩, ⟨.execute "SELECT * FROM mem", false⟩] ∧
        (run.1.get? "all").elim 0 LabelStats.count = 1 ∧ run.1.failures = 1 ∧
        run.1.count + run.1.failures = 3 := by
  intro queries shards link r f total first run
  have enough : ∀ (runner : Nat) shard, shards[runner]? = some shard →
      shard.length ≤ [1, 0, 0].count runner := by
    intro runner shard dealt
    have inside : runner < 2 := (List.getElem?_eq_some_iff.mp dealt).1
    obtain rfl | rfl : runner = 0 ∨ runner = 1 := by omega
    · cases dealt
      decide
    · cases dealt
      decide
  have textual : ∀ journal sql, link.service.execute journal sql =
      Service.oneTable.execute [] sql := fun _ _ => rfl
  obtain ⟨each, _, totals, _, alone, ⟨_, _, journal, inTurn⟩, _⟩ :=
    sharding_changes_no_count r link textual (Runner.perm_deal (by decide : 0 < 2) queries) enough
      (List.reverse_perm f.times)
  obtain ⟨_, _, journal', own⟩ := alone link [queries[0], queries[2]] rfl
  refine ⟨rfl, each, ⟨?_, ?_, totals.all⟩, ⟨?_, ?_, own.all⟩, ?_, ?_, ?_, inTurn.all⟩
  · exact (totals.counts "all").trans (by decide +kernel)
  · exact totals.failures.trans (by decide +kernel)
  · exact journal'.trans (by decide +kernel)
  · exact own.failures.trans (by decide +kernel)
  · exact journal.trans (by decide +kernel)
  · exact (inTurn.counts "all").trans (by decide +kernel)
  · exact inTurn.failures.trans (by decide +kernel)

end SeriesBench
