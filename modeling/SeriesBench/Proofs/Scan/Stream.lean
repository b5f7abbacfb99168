import SeriesBench.Proofs.Scan.Intakes
import SeriesBench.Proofs.Line.RoundTrip

/-!
# Written points are scanned again

A writer of lines and a scan share nothing but the form of a line and the line feed between
two of them. What the writer puts out is therefore followed here down to its bytes: no byte of
a line is the newline, so the input has the lines that were written; none of them is blank, and
trimming its end takes the line feed only.

The buffer of the writer plays no part in what it puts out. Characters that are blank in
Unicode but not in ASCII may stand in a line, and at its front too; it is the last word that
keeps the line from being passed over.
-/

namespace SeriesBench

namespace Line

/-- The points of a list that have columns. -/
def withColumns (points : List Point) : List Point :=
  points.filter fun p => !p.isEmpty

/-- The line of a point with its line feed. -/
def ended (p : Point) : String :=
  String.intercalate " " (wordsOf p) ++ "\n"

end Line

namespace Scribe

/-- Whatever the buffer holds, what is written is the line of the point, if it has one. -/
theorem write_text (s : Scribe) (p : Point) :
    (s.write p).1 = if p.isEmpty then "" else Line.ended p := by
  by_cases empty : p.isEmpty = true <;> simp [write, fill, Line.encode, Line.ended, empty]

/-- A writer puts out the lines of its points and nothing else, whatever it has written before. -/
theorem writeAll_text (s : Scribe) (points : List Point) :
    (s.writeAll points).1 = String.join ((Line.withColumns points).map Line.ended) := by
  induction points generalizing s with
  | nil => rfl
  | cons p rest ih =>
    have step : (s.writeAll (p :: rest)).1 =
        (s.write p).1 ++ ((s.write p).2.writeAll rest).1 := rfl
    rw [step, write_text, ih]
    by_cases empty : p.isEmpty = true <;> simp [Line.withColumns, empty, String.join_cons]

end Scribe

namespace Scanner

/-- The bytes of a text are those of its characters, one after the other. -/
theorem bytesOfText_eq (text : String) :
    bytesOfText text = text.toList.flatMap String.utf8EncodeChar := by
  rw [bytesOfText, String.toUTF8_eq_toByteArray, ← String.utf8Encode_toList, List.utf8Encode,
    List.toList_data_toByteArray]

/-- The bytes of a text that is put together are those of its parts. -/
theorem bytesOfText_append (first second : String) :
    bytesOfText (first ++ second) = bytesOfText first ++ bytesOfText second := by
  simp [bytesOfText]

/-- The bytes of a text are read as that text. -/
theorem textOf_bytesOfText (text : String) : textOf (bytesOfText text) = some text := by
  have same : ByteArray.mk (bytesOfText text).toArray = text.toUTF8 := by simp [bytesOfText]
  have valid : text.toUTF8.IsValidUTF8 := text.isValidUTF8
  rw [textOf, same, String.fromUTF8?, dif_pos valid]
  rfl

/-- Only the line feed has the newline among its bytes. Every byte of a longer character is at least
128. -/
theorem newline_mem_utf8EncodeChar {c : Char} (member : newline ∈ String.utf8EncodeChar c) :
    c = '\n' := by
  simp only [newline, String.utf8EncodeChar] at member
  split at member
  · have same : c.toNat = ('\n').toNat := by
      simp only [List.mem_singleton, ← UInt8.toNat_inj, UInt8.toNat_ofNat',
        UInt8.reduceToNat] at member
      change c.val.toNat = 10
      omega
    rw [← Char.ofNat_toNat c, same, Char.ofNat_toNat]
  · exfalso
    split at member <;> [skip; split at member] <;>
      simp only [List.mem_cons, List.not_mem_nil, or_false, ← UInt8.toNat_inj,
        UInt8.toNat_ofNat', UInt8.reduceToNat] at member <;>
      omega

/-- The bytes of a text without a line feed have no newline. -/
theorem newline_not_mem_bytesOfText {text : String} (clean : '\n' ∉ text.toList) :
    newline ∉ bytesOfText text := by
  intro member
  rw [bytesOfText_eq] at member
  obtain ⟨c, inText, inBytes⟩ := List.mem_flatMap.mp member
  exact clean (newline_mem_utf8EncodeChar inBytes ▸ inText)

/-- Bytes without a newline, and a newline behind them, are the first line. -/
theorem linesOf_cons {line : List UInt8} (clean : newline ∉ line) (rest : List UInt8) :
    linesOf (line ++ newline :: rest) = (line ++ [newline]) :: linesOf rest := by
  have split : (line ++ newline :: rest).splitOnP (· == newline) =
      line :: rest.splitOnP (· == newline) := by
    refine List.splitOnP_append_cons_of_forall_mem ?_ newline (by simp) rest
    intro byte member
    simpa using fun same : byte = newline => clean (same ▸ member)
  have more := List.splitOnP_ne_nil (· == newline) rest
  simp only [linesOf, completeLines, openLine, List.splitOn_eq_splitOnP, split,
    List.dropLast_cons_of_ne_nil more, List.getLast_cons more, List.map_cons, List.cons_append]

/-- The lines of texts that are written with a line feed each are these texts. -/
theorem linesOf_texts {texts : List String} (clean : ∀ text ∈ texts, '\n' ∉ text.toList) :
    linesOf (bytesOfText (String.join (texts.map (· ++ "\n")))) =
      texts.map fun text => bytesOfText (text ++ "\n") := by
  have feed : bytesOfText "\n" = [newline] := by decide
  induction texts with
  | nil => rfl
  | cons text rest ih =>
    obtain ⟨first, others⟩ := List.forall_mem_cons.mp clean
    have bytes : bytesOfText (String.join ((text :: rest).map (· ++ "\n"))) =
        bytesOfText text ++ newline :: bytesOfText (String.join (rest.map (· ++ "\n"))) := by
      simp [String.join_cons, bytesOfText_append, feed]
    rw [bytes, linesOf_cons (newline_not_mem_bytesOfText first), ih others, List.map_cons,
      bytesOfText_append, feed]

end Scanner

/-- Digits and commas are no blanks, in ASCII or beyond. -/
theorem Text.isBlank_of_digit_or_comma {c : Char} (printed : c.isDigit = true ∨ c = ',') :
    isBlank c = false := by
  rcases printed with digit | rfl
  · simp only [Char.isDigit, Bool.and_eq_true, decide_eq_true_eq, ge_iff_le,
      UInt32.le_iff_toNat_le] at digit
    have bounds : 48 ≤ c.toNat ∧ c.toNat ≤ 57 := digit
    simp only [isBlank, Bool.or_eq_false_iff, Bool.and_eq_false_iff, decide_eq_false_iff_not,
      beq_eq_false_iff_ne]
    omega
  · rfl

namespace Line

/-- The last word of a line is made of digits and commas. -/
theorem printed_lastWord {p : Point} {c : Char} (member : c ∈ (lastWord p).toList) :
    c.isDigit = true ∨ c = ',' := by
  rcases Text.mem_intercalate member with comma | ⟨numeral, isNumeral, inside⟩
  · exact .inr (by simpa using comma)
  · obtain ⟨e, -, rfl⟩ := List.mem_map.mp isNumeral
    exact .inl (Numeral.isDigit_of_mem_toString inside)

/-- The line of a point ends with its last word. -/
theorem line_eq (p : Point) :
    ∃ front, String.intercalate " " (wordsOf p) = front ++ lastWord p := by
  have split : wordsOf p =
      (p.measurement :: p.timestamp :: p.columns.map Entry.pair) ++ [lastWord p] := rfl
  rw [split, String.intercalate_append_of_ne_nil (by simp) (by simp), String.intercalate_singleton]
  exact ⟨_, rfl⟩

section

variable {p : Point} (filled : p.columns ≠ [])

include filled

/-- The last character of a line is a digit or a comma. -/
theorem line_ends : ∃ front c, (String.intercalate " " (wordsOf p)).toList = front ++ [c] ∧
    (c.isDigit = true ∨ c = ',') := by
  obtain ⟨front, whole⟩ := line_eq p
  have some : (lastWord p).toList ≠ [] := by simpa using (plain_lastWord filled).1
  refine ⟨front.toList ++ (lastWord p).toList.dropLast, (lastWord p).toList.getLast some, ?_, ?_⟩
  · rw [whole, String.toList_append, List.append_assoc, List.dropLast_append_getLast]
  · exact printed_lastWord (List.getLast_mem some)

/-- A line is not blank. -/
theorem ended_not_blank : Text.isBlankText (ended p) = false := by
  obtain ⟨front, c, whole, printed⟩ := line_ends filled
  simp [ended, Text.isBlankText, whole, Text.isBlank_of_digit_or_comma printed]

/-- Trimming the end of a line takes the line feed only. -/
theorem bare_ended : Scanner.bare (ended p) = String.intercalate " " (wordsOf p) := by
  obtain ⟨front, c, whole, printed⟩ := line_ends filled
  have kept : c ≠ '\n' ∧ c ≠ '\r' := by
    rcases printed with digit | rfl
    · constructor <;> rintro rfl <;> contradiction
    · decide
  rw [Scanner.bare, ended, String.toList_append, whole, ← String.toList_inj, String.toList_ofList,
    whole]
  simp [Text.dropTail, kept]

/-- A line holds no line feed but its last character, if its point can be read back. -/
theorem clean_line (spellable : p.Spellable) :
    '\n' ∉ (String.intercalate " " (wordsOf p)).toList := by
  intro member
  rcases Text.mem_intercalate member with between | ⟨word, inWords, inside⟩
  · exact absurd between (by decide)
  · exact absurd ((plain_wordsOf filled spellable word inWords).2 _ inside) (by decide)

/-- The line of a point that can be read back is taken, with the point's columns among the
fields. -/
theorem verdict_ended (spellable : p.Spellable) :
    Scanner.verdictOf Scanner.judgePoint (Scanner.bytesOfText (ended p)) = .take p.flat := by
  have decodes : decode (String.intercalate " " (wordsOf p)) = .ok p.flat :=
    decode_ok_iff.mpr (spells_of_spellable filled spellable)
  have some : p.flat.isEmpty = false := (decode_shape decodes).2.2
  simp [Scanner.verdictOf, Scanner.textOf_bytesOfText, ended_not_blank filled, bare_ended filled,
    Scanner.judgePoint, decodes, some]

end

end Line

namespace Scanner

/-- Where every line is taken, asking gives the unit of each line, counts it and drops none. -/
theorem yields_taken {judge : String → Verdict β} {lineOf : α → List UInt8} {unitOf : α → β}
    {xs : List α} (taken : ∀ x ∈ xs, verdictOf judge (lineOf x) = .take (unitOf x))
    (tally : Tally) :
    Yields (fun s => seek judge s.upcoming s.tally) ⟨(xs.map lineOf).map .line, tally⟩
      (xs.map unitOf) (.ok ()) ⟨[], ⟨tally.lines + xs.length, tally.dropped⟩⟩ := by
  induction xs generalizing tally with
  | nil => exact .ended rfl
  | cons x rest ih =>
    obtain ⟨first, others⟩ := List.forall_mem_cons.mp taken
    have count : tally.lines + (x :: rest).length = tally.lines + 1 + rest.length := by
      simp only [List.length_cons]
      omega
    rw [count]
    exact .more (by simp only [List.map_cons, seek, first])
      (ih others ⟨tally.lines + 1, tally.dropped⟩)

/-- The lines of an input that a writer of points has put out. -/
theorem lines_of_written {points : List Point}
    (spellable : ∀ p ∈ Line.withColumns points, p.columns ≠ [] ∧ p.Spellable) (scribe : Scribe) :
    linesOf (bytesOfText (scribe.writeAll points).1) =
      (Line.withColumns points).map fun p => bytesOfText (Line.ended p) := by
  let lineOf (p : Point) : String := String.intercalate " " (Line.wordsOf p)
  have clean : ∀ text ∈ (Line.withColumns points).map lineOf, '\n' ∉ text.toList := by
    intro text member
    obtain ⟨p, inPoints, rfl⟩ := List.mem_map.mp member
    obtain ⟨filled, words⟩ := spellable p inPoints
    exact Line.clean_line filled words
  have lines := linesOf_texts clean
  rw [List.map_map, List.map_map] at lines
  rw [Scribe.writeAll_text]
  exact lines

/-- Points that are written one after the other come back from a scan of what was written, in
order and with all columns among the fields, however the bytes arrive; those without columns
have left no trace. Every line that was written is counted, none is dropped, and then the input
is at its end and stays there. This is the only way in which the scan can go.

Proof: a line that was written is not blank, and it is read as its point, so the scan takes one line
after the other as the next point. There is no other way for it to go. -/
theorem stream_comes_back {points : List Point}
    (spellable : ∀ p ∈ points, p.columns ≠ [] → p.Spellable) (scribe : Scribe)
    {chunks : List Chunk} (whole : ∀ chunk ∈ chunks, chunk.Whole)
    (arrives : Chunk.bytesOf chunks = bytesOfText (scribe.writeAll points).1) :
    (∀ units stop last, Yields nextPoint (ofChunks chunks) units stop last ↔
      units = (Line.withColumns points).map Point.flat ∧ stop = .ok () ∧
        last = ⟨[], ⟨(Line.withColumns points).length, 0⟩⟩) ∧
    nextPoint ⟨[], ⟨(Line.withColumns points).length, 0⟩⟩ =
      (.ok none, ⟨[], ⟨(Line.withColumns points).length, 0⟩⟩) := by
  have filled : ∀ p ∈ Line.withColumns points, p.columns ≠ [] ∧ p.Spellable := by
    intro p member
    obtain ⟨inPoints, some⟩ := List.mem_filter.mp member
    have columns : p.columns ≠ [] := by simpa [← Point.isEmpty_iff] using some
    exact ⟨columns, spellable p inPoints columns⟩
  have start : ofChunks chunks =
      ⟨((Line.withColumns points).map fun p => bytesOfText (Line.ended p)).map .line, ⟨0, 0⟩⟩ := by
    rw [← lines_of_written filled scribe, ← arrives, ← upcoming_ofChunks whole]
    rfl
  have taken : ∀ p ∈ Line.withColumns points,
      verdictOf judgePoint (bytesOfText (Line.ended p)) = .take p.flat :=
    fun p member => Line.verdict_ended (filled p member).1 (filled p member).2
  have goes : Yields nextPoint (ofChunks chunks) ((Line.withColumns points).map Point.flat)
      (.ok ()) ⟨[], ⟨(Line.withColumns points).length, 0⟩⟩ := by
    rw [start, ← Nat.zero_add (Line.withColumns points).length]
    exact yields_taken taken ⟨0, 0⟩
  refine ⟨fun units stop last => ⟨?_, ?_⟩, rfl⟩
  · intro other
    obtain ⟨rfl, rfl, rfl⟩ := goes.unique other
    exact ⟨rfl, rfl, rfl⟩
  · rintro ⟨rfl, rfl, rfl⟩
    exact goes

/-- Two points whose lines begin with characters that are blank in Unicode only, and a point
without columns between them. -/
def hiddenPoints : List Point :=
  [⟨"\u00a0", "\u2003", [⟨"\x0b", .bool, none⟩], []⟩, ⟨"", " ", [], []⟩,
    ⟨"\u00a0", "\u2003", [], [⟨"", .string, some "\u3000"⟩]⟩]

/-- The bytes of these points, as a writer puts them out that has written something before, cut
in the middle of a character. -/
def hiddenChunks : List Chunk :=
  let bytes := bytesOfText ((Scribe.mk "cpu 1 user=1 3\n").writeAll hiddenPoints).1
  [.interrupted, .bytes (bytes.take 1), .interrupted, .bytes (bytes.drop 1)]

/-- Points whose lines begin with characters that are blank in Unicode only come back from a stream
that is cut in the middle of one, without the point that has no columns. -/
theorem hiddenPoints_come_back :
    (∀ p ∈ hiddenPoints, p.columns ≠ [] → p.Spellable) ∧
      (∀ chunk ∈ hiddenChunks, chunk.Whole) ∧
      Yields nextPoint (ofChunks hiddenChunks)
        [⟨"\u00a0", "\u2003", [], [⟨"\x0b", .bool, none⟩]⟩,
          ⟨"\u00a0", "\u2003", [], [⟨"", .string, some "\u3000"⟩]⟩] (.ok ()) ⟨[], ⟨2, 0⟩⟩ := by
  have spellable : ∀ p ∈ hiddenPoints, p.columns ≠ [] → p.Spellable := by decide
  have whole : ∀ chunk ∈ hiddenChunks, chunk.Whole := by decide
  have arrives : Chunk.bytesOf hiddenChunks =
      bytesOfText ((Scribe.mk "cpu 1 user=1 3\n").writeAll hiddenPoints).1 := by
    simp only [Chunk.bytesOf, Chunk.data, hiddenChunks, List.flatMap_cons, List.flatMap_nil,
      List.nil_append, List.append_nil, List.take_append_drop]
  exact ⟨spellable, whole,
    ((stream_comes_back spellable _ whole arrives).1 _ _ _).mpr ⟨by decide, rfl, by decide⟩⟩

end Scanner

end SeriesBench
