import SeriesBench.Item
import SeriesBench.Proofs.Line.Grammar

/-!
# What a decoded point is like

Words hold no blanks, so the name of a table that was read from a line holds none, and the
text of a statement shows where it ends. A line that decodes has at least one column, and its
first word is the table of its point: undecoded it is routed as its point would be.
-/

namespace SeriesBench

namespace Line

/-- A line that decodes begins with the table and the time of its point, and the point has
columns, all of them fields. -/
theorem decode_shape {line : String} {p : Point} (decoded : decode line = .ok p) :
    (∃ rest, Text.words line = p.measurement :: p.timestamp :: rest) ∧
      p.tags = [] ∧ p.isEmpty = false := by
  have spells := decode_ok_iff.mp decoded
  obtain ⟨last, split⟩ := spells.ends
  refine ⟨⟨_, split⟩, spells.untagged, ?_⟩
  simpa [← Point.isEmpty_iff] using spells.columns_ne_nil

/-- The table of a point that was read from a line holds no blank. -/
theorem decode_plain {line : String} {p : Point} (decoded : decode line = .ok p) :
    ∀ c ∈ p.measurement.toList, Text.isAsciiBlank c = false := by
  obtain ⟨rest, spelled⟩ := (decode_shape decoded).1
  have first : p.measurement ∈ Text.words line := spelled ▸ List.mem_cons_self
  exact (Text.word_plain first).2

end Line

namespace Item

/-- A line is either decoded into a point that is not empty or is a fault. -/
theorem point?_line (text : String) :
    (∃ p, Line.decode text = .ok p ∧ (line text).point? = .ok (some p)) ∨
      ∃ fault, Line.decode text = .error fault ∧ (line text).point? = .error fault := by
  cases decoded : Line.decode text with
  | error fault => exact Or.inr ⟨fault, rfl, by simp [point?, decoded, Except.map]⟩
  | ok p =>
    refine Or.inl ⟨p, rfl, ?_⟩
    simp [point?, decoded, Except.map, nonEmpty, (Line.decode_shape decoded).2.2]

/-- A line is routed as the point that it decodes to. -/
theorem measurement_line {text : String} {p : Point} (decoded : Line.decode text = .ok p) :
    (line text).measurement = p.measurement := by
  obtain ⟨rest, spelled⟩ := (Line.decode_shape decoded).1
  simp [measurement, spelled]

end Item

end SeriesBench
