import SeriesBench.Proofs.Line.Decoded

/-!
# The lines of an input

The lines of some bytes are the pieces that end at each newline, and the piece after the last
one unless it is empty. An input that arrives in pieces gives exactly the lines of its bytes,
wherever it was cut and however often a read had to be repeated, as long as no read fails and
none comes back empty before the end.
-/

namespace SeriesBench

/-- The lines of some bytes: each with its newline, and the last one perhaps without. -/
def linesOf (data : List UInt8) : List (List UInt8) :=
  completeLines data ++ if (openLine data).isEmpty then [] else [openLine data]

/-- The bytes that a read gives. -/
def Chunk.data : Chunk → List UInt8
  | .bytes data => data
  | .interrupted | .failed => []

/-- The bytes of an input. -/
def Chunk.bytesOf (chunks : List Chunk) : List UInt8 :=
  chunks.flatMap Chunk.data

/-- A read that neither fails nor comes back empty. -/
def Chunk.Whole : Chunk → Prop
  | .bytes data => data ≠ []
  | .interrupted => True
  | .failed => False

instance : DecidablePred Chunk.Whole := fun chunk =>
  match chunk with
  | .bytes data => inferInstanceAs (Decidable (data ≠ []))
  | .interrupted => isTrue trivial
  | .failed => isFalse id

/-- Splitting a list that goes on splits what follows together with the last part. -/
theorem splitOnP_append (p : α → Bool) (xs ys : List α) :
    (xs ++ ys).splitOnP p = (xs.splitOnP p).dropLast ++
      ((xs.splitOnP p).getLast (List.splitOnP_ne_nil p xs) ++ ys).splitOnP p := by
  induction xs with
  | nil => simp
  | cons x rest ih =>
    obtain ⟨first, others, parts⟩ := List.exists_cons_of_ne_nil (List.splitOnP_ne_nil p rest)
    simp only [parts] at ih
    by_cases splits : p x = true
    · simp [List.splitOnP_cons_eq_if_modifyHead, splits, parts, ih]
    · cases others with
      | nil => simp_all [List.splitOnP_cons_eq_if_modifyHead]
      | cons second later => simp_all [List.splitOnP_cons_eq_if_modifyHead]

/-- The lines that are complete in two parts: those of the first, and those that the second
completes. -/
theorem completeLines_append (known rest : List UInt8) :
    completeLines (known ++ rest) =
      completeLines known ++ completeLines (openLine known ++ rest) := by
  simp only [completeLines, openLine, List.splitOn_eq_splitOnP]
  rw [splitOnP_append, List.dropLast_append_of_ne_nil (List.splitOnP_ne_nil _ _), List.map_append]

/-- The line that is open behind two parts is the one that the first leaves open, as the second goes
on with it. -/
theorem openLine_append (known rest : List UInt8) :
    openLine (known ++ rest) = openLine (openLine known ++ rest) := by
  simp only [openLine, List.splitOn_eq_splitOnP]
  apply Option.some.inj
  rw [← List.getLast?_eq_some_getLast, ← List.getLast?_eq_some_getLast, splitOnP_append,
    List.getLast?_append, List.getLast?_eq_some_getLast (List.splitOnP_ne_nil _ _), Option.some_or]

/-- The lines of bytes that go on: the complete ones, then those of the rest with the line
that was open. -/
theorem linesOf_append (known rest : List UInt8) :
    linesOf (known ++ rest) = completeLines known ++ linesOf (openLine known ++ rest) := by
  simp only [linesOf, completeLines_append known rest, openLine_append known rest,
    List.append_assoc]

/-- Parts that are ended by a separator each, and the last part without, are the parts put
together. -/
theorem flatten_ended {separator : α} {parts : List (List α)} (some : parts ≠ []) :
    (parts.dropLast.map (· ++ [separator])).flatten ++ parts.getLast some =
      [separator].intercalate parts := by
  induction parts with
  | nil => contradiction
  | cons part rest ih =>
    cases rest with
    | nil => simp
    | cons next rest =>
      rw [List.intercalate_cons_cons, ← ih (by simp)]
      simp

/-- The lines of some bytes put together are the bytes. -/
theorem flatten_linesOf (data : List UInt8) : (linesOf data).flatten = data := by
  have last : (if (openLine data).isEmpty then [] else [openLine data]).flatten = openLine data := by
    cases openLine data <;> simp
  rw [linesOf, List.flatten_append, last, completeLines, openLine, flatten_ended,
    List.intercalate_splitOn]

/-- The bytes after the last newline have none. -/
theorem newline_not_mem_openLine (data : List UInt8) : newline ∉ openLine data := by
  intro member
  have inParts : openLine data ∈ data.splitOnP (· == newline) := by
    simp only [openLine, List.splitOn_eq_splitOnP]
    exact List.getLast_mem _
  simpa using Text.clean_of_mem_splitOnP inParts newline member

/-- Bytes without a newline are one line, or none if there are no bytes. -/
theorem linesOf_clean {data : List UInt8} (clean : newline ∉ data) :
    linesOf data = if data.isEmpty then [] else [data] := by
  have single : data.splitOnP (· == newline) = [data] := by
    apply List.splitOnP_eq_singleton
    intro byte member
    simpa using fun same : byte = newline => clean (same ▸ member)
  simp [linesOf, completeLines, openLine, List.splitOn_eq_splitOnP, single]

/-- Asking for lines finds exactly the lines of the input, however it arrives. -/
theorem readings_eq_lines {chunks : List Chunk} (whole : ∀ chunk ∈ chunks, chunk.Whole)
    {begun : List UInt8} (clean : newline ∉ begun) :
    readings begun chunks = (linesOf (begun ++ Chunk.bytesOf chunks)).map .line := by
  induction chunks generalizing begun with
  | nil =>
    cases begun <;> simp [readings, unfinished, Chunk.bytesOf, linesOf_clean clean]
  | cons chunk rest ih =>
    have restWhole : ∀ chunk ∈ rest, chunk.Whole := fun chunk member =>
      whole chunk (List.mem_cons_of_mem _ member)
    cases chunk with
    | failed => exact (whole .failed List.mem_cons_self).elim
    | interrupted => simpa [readings, Chunk.bytesOf, Chunk.data] using ih restWhole clean
    | bytes data =>
      cases data with
      | nil => exact (whole (.bytes []) List.mem_cons_self rfl).elim
      | cons b data =>
        have later := ih restWhole (newline_not_mem_openLine (begun ++ b :: data))
        have joined : begun ++ Chunk.bytesOf (.bytes (b :: data) :: rest) =
            (begun ++ b :: data) ++ Chunk.bytesOf rest := by
          simp [Chunk.bytesOf, Chunk.data]
        rw [joined, linesOf_append, List.map_append, ← later]
        rfl

/-- A scan of an input that arrives whole finds its lines. -/
theorem upcoming_ofChunks {chunks : List Chunk} (whole : ∀ chunk ∈ chunks, chunk.Whole) :
    (Scanner.ofChunks chunks).upcoming = (linesOf (Chunk.bytesOf chunks)).map .line := by
  have clean : newline ∉ ([] : List UInt8) := List.not_mem_nil
  simpa [Scanner.ofChunks] using readings_eq_lines whole clean

end SeriesBench
