import SeriesBench.Proofs.Load.Lifecycle

/-!
# What giving up all statements answers

Every statement is given up, whatever came of those before it, and of the faults the first is
kept. Registries, workers and the load as a whole all follow this rule, so the answer of a load
that closes everything can be read off its journal: it is the answer to the first close that
failed.
-/

namespace SeriesBench

/-- Whether an event is a close that failed. -/
def Event.failsToClose : Event → Bool
  | ⟨.close _, succeeded⟩ => !succeeded
  | _ => false

/-- What the closes of a journal come to, for the service that was asked: success, or the fault
with which the service answered the first of them that failed. -/
inductive Journal.Closing (service : Service) (journal : Journal) : Except Fault Unit → Prop where
  | smooth (all : ∀ event ∈ journal, event.failsToClose = false) : Closing service journal (.ok ())
  | broken {before after : Journal} {statement : Statement} {fault : Fault}
      (cut : journal = before ++ ⟨.close statement, false⟩ :: after)
      (first : ∀ event ∈ before, event.failsToClose = false)
      (answer : service.close before statement = .error fault) :
      Closing service journal (.error fault)

/-- What the closes came to stands when others follow on success, and is settled by a fault. -/
theorem Journal.Closing.enter {service : Service} {journal : Journal} {answer : Except Fault Unit}
    (closing : journal.Closing service answer) (statement : Statement) :
    Journal.Closing service
      (journal ++ ([⟨.close statement, Link.isOk (service.close journal statement)⟩] : Journal))
      (Load.firstFault answer (service.close journal statement)) := by
  cases closing with
  | smooth all =>
    cases answered : service.close journal statement with
    | ok =>
      refine .smooth fun event member => ?_
      rcases List.mem_append.mp member with old | new
      · exact all event old
      · rw [List.mem_singleton.mp new]
        rfl
    | error fault => exact .broken rfl all answered
  | @broken before after other fault cut first answer =>
    exact .broken (by rw [cut, List.append_assoc, List.cons_append]) first answer

/-- The link goes on with nothing but statements that are given up, and this is the answer: what
all closes come to is what they came to before, or else the answer. -/
structure Link.GivesUp (link : Link) (answer : Except Fault Unit) (after : Link) : Prop where
  service : after.service = link.service
  closing : ∀ {before : Except Fault Unit}, link.journal.Closing link.service before →
    after.journal.Closing link.service (Load.firstFault before answer)

/-- Which of three faults is the first does not depend on how they are grouped. -/
theorem Load.firstFault_assoc (a b c : Except Fault Unit) :
    firstFault (firstFault a b) c = firstFault a (firstFault b c) := by
  cases a <;> rfl

namespace Link.GivesUp

/-- Nothing that is given up answers with success. -/
theorem refl (link : Link) : link.GivesUp (.ok ()) link where
  service := rfl
  closing := by
    intro before closing
    cases before <;> exact closing

/-- What is given up in two parts answers with the first fault of both. -/
theorem trans {first second third : Link} {one other : Except Fault Unit}
    (before : first.GivesUp one second) (after : second.GivesUp other third) :
    first.GivesUp (Load.firstFault one other) third where
  service := after.service.trans before.service
  closing := by
    intro answer closing
    have middle := before.closing closing
    rw [← before.service] at middle ⊢
    rw [← Load.firstFault_assoc]
    exact after.closing middle

/-- Giving up one statement. -/
theorem close (link : Link) (statement : Statement) :
    link.GivesUp (link.close statement).1 (link.close statement).2 where
  service := rfl
  closing := fun closing => closing.enter statement

end Link.GivesUp

/-- Closing a writer gives up at most its own statement. -/
theorem TableWriter.close_givesUp (w : TableWriter) (link : Link) :
    link.GivesUp (w.close link).1 (w.close link).2.2 := by
  unfold close
  split
  · exact .refl link
  · split
    · exact .refl link
    · exact .close link _

/-- Closing the writers at some handles gives up their statements in turn, by induction on the
handles. -/
theorem Registry.closeAt_givesUp (handles : List Nat) (r : Registry) (link : Link) :
    link.GivesUp (r.closeAt link handles).1 (r.closeAt link handles).2.2 := by
  induction handles generalizing r link with
  | nil => exact .refl link
  | cons handle rest ih =>
    unfold closeAt
    cases found : r.writers[handle]? with
    | none => exact ih r link
    | some w =>
      have both := (w.close_givesUp link).trans
        (ih (r.put handle (w.close link).2.1) (w.close link).2.2)
      dsimp only
      cases first : (w.close link).1 <;> simpa only [first, Load.firstFault] using both

/-- Closing a registry gives up the statements of its tables. -/
theorem Registry.close_givesUp (r : Registry) (link : Link) :
    link.GivesUp (r.close link).1 (r.close link).2.2 :=
  r.closeAt_givesUp _ link

/-- Closing what a worker owns gives up its statements. A worker that owns nothing gives up none. -/
theorem Crew.closeWorker_givesUp (crew : Crew) (index : Nat) (link : Link) :
    link.GivesUp (crew.closeWorker index link).1 (crew.closeWorker index link).2.2 := by
  unfold closeWorker
  split
  · rename_i registry _ _
    exact registry.close_givesUp link
  · exact .refl link

/-- Closing what is shared gives up its statements. -/
theorem Crew.closeShared_givesUp (crew : Crew) (link : Link) :
    link.GivesUp (crew.closeShared link).1 (crew.closeShared link).2.2 := by
  unfold closeShared
  split
  · exact .refl link
  · rename_i registry _
    exact registry.close_givesUp link

/-- The link goes on without a close that failed. -/
def Link.Unbroken (link after : Link) : Prop :=
  link.Only (fun event => event.failsToClose = false) after

/-- Sending a record closes nothing, so no close fails by it. -/
theorem TableWriter.transmit_unbroken (w : TableWriter) (link : Link) (record : Record) :
    link.Unbroken (w.transmit link record).2.2 := by
  cases held : w.statement with
  | some statement =>
    rw [transmit_of_some held]
    exact ⟨_, ⟨rfl, rfl⟩, by simp [Event.failsToClose]⟩
  | none =>
    obtain ⟨defined, failed | failed | ⟨sent, done⟩⟩ := transmit_of_none held link record
    · rw [failed]
      exact ⟨_, ⟨rfl, rfl⟩, by simp [Event.failsToClose]⟩
    · rw [failed]
      exact ⟨_, ⟨rfl, List.append_assoc _ _ _⟩, by simp [Event.failsToClose]⟩
    · rw [done]
      exact ⟨_, ⟨rfl, by simp only [entered, List.append_assoc]; rfl⟩, by simp [Event.failsToClose]⟩

/-- Writing to a table closes nothing, so no close fails by it. -/
theorem Ingest.Talk.unbroken {w other : TableWriter} {link after : Link}
    (talk : Talk w link other after) : link.Unbroken after := by
  cases talk with
  | silent same => exact Link.Only.refl link
  | transmitted same record fields => exact TableWriter.transmit_unbroken _ link record

/-- Whatever a worker writes and whatever the service answers, no close fails by it. -/
theorem Ingest.writeAt_unbroken (transmit : Bool) (r : Registry) (link : Link) (handle : Nat)
    (points : List Point) : link.Unbroken (writeAt transmit r link handle points).2.2 := by
  cases member : r.writers[handle]? with
  | none =>
    have same : (writeAt transmit r link handle points).2.2 = link := by simp [writeAt, member]
    rw [same]
    exact Link.Only.refl link
  | some w =>
    rw [writeAt_eq link points member]
    exact (talk_writeTable transmit w link points).unbroken

namespace Load

/-- Closing what some workers own gives up their statements in turn, by induction on the workers. -/
theorem closeWorkers_givesUp (crew : Crew) (link : Link) (indices : List Nat) :
    link.GivesUp (closeWorkers crew link indices).1 (closeWorkers crew link indices).2.2 := by
  induction indices generalizing crew link with
  | nil => exact .refl link
  | cons index rest ih =>
    exact (crew.closeWorker_givesUp index link).trans
      (ih (crew.closeWorker index link).2.1 (crew.closeWorker index link).2.2)

/-- What a load that closes everything answers is what its closes come to, if none of those before
has failed. -/
theorem closeAll_closing {s : Pipeline}
    (none : ∀ event ∈ s.link.journal, event.failsToClose = false) :
    (closeAll s).2.2.journal.Closing s.link.service (closeAll s).1 := by
  have both : s.link.GivesUp (closeAll s).1 (closeAll s).2.2 :=
    (closeWorkers_givesUp s.crew s.link (survivors s)).trans (Crew.closeShared_givesUp _ _)
  exact both.closing (.smooth none)

end Load

end SeriesBench
