import SeriesBench.Proofs.Remote.Stories

/-!
# Setting up the remote side

What asking for the remote side of a table comes to, with its answer: the statement was there
already, or the table is defined and the statement prepared, and either of these may fail. A
record is sent only when the remote side is set up, by one insert through the statement that the
writer then holds; otherwise sending it fails with the same fault.
-/

namespace SeriesBench

namespace TableWriter

/-- What setting up the remote side of a writer comes to: the answer, the writer and the link. -/
inductive Ensured (w : TableWriter) (link : Link) :
    Except Fault Unit → TableWriter → Link → Prop where
  /-- The statement is there already, and nothing is asked. -/
  | held {statement : Statement} (held : w.statement = some statement) :
      Ensured w link (.ok ()) w link
  /-- The table could not be defined. -/
  | undefined {fault : Fault} (none : w.statement = none) (defined : Bool) :
      Ensured w link (.error fault) w (entered link ⟨.execute w.createSql, defined⟩)
  /-- The table was defined, but the statement could not be prepared. -/
  | unprepared {fault : Fault} (none : w.statement = none) (defined : Bool) :
      Ensured w link (.error fault) w
        (entered (entered link ⟨.execute w.createSql, defined⟩) ⟨.prepare w.insertSql, false⟩)
  /-- The table was defined and the statement prepared. -/
  | prepared (none : w.statement = none) (defined : Bool) :
      Ensured w link (.ok ())
        { w with
          statement := some
            ⟨(entered link ⟨.execute w.createSql, defined⟩).journal.prepared, w.insertSql⟩ }
        (entered (entered link ⟨.execute w.createSql, defined⟩) ⟨.prepare w.insertSql, true⟩)

/-- Setting up the remote side of a table does what `Ensured` says. -/
theorem ensured_ensureRemote (w : TableWriter) (link : Link) :
    Ensured w link (w.ensureRemote link).1 (w.ensureRemote link).2.1 (w.ensureRemote link).2.2 := by
  cases held : w.statement with
  | some statement =>
    have same : w.ensureRemote link = (.ok (), w, link) := by simp [ensureRemote, held]
    rw [same]
    exact .held held
  | none =>
    rcases defines : link.define w.createSql with ⟨fault | done, begun⟩
    · have entry : entered link ⟨.execute w.createSql, _⟩ = begun := congrArg Prod.snd defines
      have failed : w.ensureRemote link = (.error fault, w, begun) := by
        simp [ensureRemote, held, defines]
      rw [failed, ← entry]
      exact .undefined held _
    · have entry : entered link ⟨.execute w.createSql, _⟩ = begun := congrArg Prod.snd defines
      cases prepares : begun.service.prepare begun.journal w.insertSql with
      | error fault =>
        have failed : w.ensureRemote link =
            (.error fault, w, entered begun ⟨.prepare w.insertSql, false⟩) := by
          simp [ensureRemote, held, defines, Link.prepare, prepares, Except.map, Link.enter,
            Link.isOk, entered]
        rw [failed, ← entry]
        exact .unprepared held _
      | ok done =>
        have ready : w.ensureRemote link =
            (.ok (), { w with statement := some ⟨begun.journal.prepared, w.insertSql⟩ },
              entered begun ⟨.prepare w.insertSql, true⟩) := by
          simp [ensureRemote, held, defines, Link.prepare, prepares, Except.map, Link.enter,
            Link.isOk, entered]
        rw [ready, ← entry]
        exact .prepared held _

/-- A writer whose remote side is set up holds a statement. -/
theorem Ensured.isSome {w other : TableWriter} {link after : Link}
    (ensured : Ensured w link (.ok ()) other after) : other.statement.isSome := by
  cases ensured with
  | held held => rw [held]; rfl
  | prepared none defined => rfl

/-- A record is not sent when the remote side could not be set up. -/
theorem transmit_of_refused {w other : TableWriter} {link after : Link} {fault : Fault}
    (refused : w.ensureRemote link = (.error fault, other, after)) (record : Record) :
    w.transmit link record = (.error fault, other, after) := by
  simp [transmit, refused]

/-- When the remote side is set up, a record is sent by one insert. -/
theorem transmit_of_ready {w other : TableWriter} {link after : Link}
    (ready : w.ensureRemote link = (.ok (), other, after)) (record : Record) :
    ∃ statement, other.statement = some statement ∧
      w.transmit link record =
        ((after.insert statement record).1, other, (after.insert statement record).2) := by
  have ensured := ensured_ensureRemote w link
  rw [ready] at ensured
  obtain ⟨statement, held⟩ := Option.isSome_iff_exists.mp ensured.isSome
  dsimp only at held
  exact ⟨statement, held, by simp [transmit, ready, held]⟩

end TableWriter

end SeriesBench
