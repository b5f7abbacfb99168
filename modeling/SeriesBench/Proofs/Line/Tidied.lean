import SeriesBench.Proofs.Line.RoundTrip

/-!
# The tidy form of a line

Decoding is lenient in two ways: any run of blanks may stand between words and at both ends of a
line, and a mark may be any numeral of its type's number. Encoding knows one spelling only. So
decoding a line and encoding its point again changes exactly these two things: every other
character of a word is kept, an empty name, an empty text and the word for null included. What
comes out is a line that decodes to the same point and that stays as it is from then on.

The tidy form is said in terms of the words and marks of the line, without its point, and whether
a line is tidy already is said of its characters, without its words.
-/

namespace SeriesBench

namespace Text

/-- A text whose only ASCII blanks are single spaces, none of them at its ends. -/
structure SinglySpaced (s : String) : Prop where
  spaces : ∀ c ∈ s.toList, isAsciiBlank c = true → c = ' '
  single : ¬ [' ', ' '] <:+: s.toList
  start : s.toList.head? ≠ some ' '
  stop : s.toList.getLast? ≠ some ' '

/-- Two ways to split that agree on the elements of a list split it alike. -/
theorem splitOnP_congr {p q : α → Bool} {xs : List α} (same : ∀ x ∈ xs, p x = q x) :
    xs.splitOnP p = xs.splitOnP q := by
  induction xs with
  | nil => simp
  | cons x rest ih =>
    obtain ⟨first, others⟩ := List.forall_mem_cons.mp same
    simp only [List.splitOnP_cons_eq_if_modifyHead, first, ih others]

/-- There is an empty part where a separator stands at an end of a list or next to another one. The
induction is on the length: the first separator ends a part, and what follows it is shorter. -/
theorem nil_mem_splitOn_iff [DecidableEq α] {a : α} {xs : List α} (filled : xs ≠ []) :
    [] ∈ xs.splitOn a ↔ xs.head? = some a ∨ xs.getLast? = some a ∨ [a, a] <:+: xs := by
  constructor
  · intro empty
    induction size : xs.length using Nat.strongRecOn generalizing xs with
    | ind n ih =>
      by_cases inside : a ∈ xs
      · obtain ⟨before, after, rfl, clean⟩ := List.eq_append_cons_of_mem inside
        rw [List.splitOn_append_cons_self_of_not_mem clean] at empty
        rcases List.mem_cons.mp empty with atStart | later
        · exact .inl (by simp [← atStart])
        · by_cases ended : after = []
          · exact .inr (.inl (by simp [ended]))
          · have shorter : after.length < n := by
              simp only [List.length_append, List.length_cons] at size
              omega
            rcases ih after.length shorter ended later rfl with next | last | ⟨front, back, whole⟩
            · obtain ⟨tail, rfl⟩ := List.head?_eq_some_iff.mp next
              exact .inr (.inr ⟨before, tail, by simp⟩)
            · obtain ⟨front, rfl⟩ := List.getLast?_eq_some_iff.mp last
              exact .inr (.inl (by simp [List.getLast?_append, List.getLast?_cons]))
            · exact .inr (.inr ⟨before ++ a :: front, back, by simp [← whole]⟩)
      · rw [List.splitOn_eq_singleton inside] at empty
        exact absurd (List.mem_singleton.mp empty).symm filled
  · rintro (start | stop | ⟨before, after, rfl⟩)
    · obtain ⟨rest, rfl⟩ := List.head?_eq_some_iff.mp start
      simp [List.splitOn_cons_eq_if_modifyHead]
    · obtain ⟨front, rfl⟩ := List.getLast?_eq_some_iff.mp stop
      simp [List.splitOn_append_cons_self]
    · have whole : before ++ [a, a] ++ after = before ++ a :: ([] ++ a :: after) := by simp
      rw [whole, List.splitOn_append_cons_self, List.splitOn_append_cons_self]
      simp

/-- The parts of a text put together again give the text. -/
theorem intercalate_parts (separator : Char) (s : String) :
    String.intercalate (String.singleton separator) (parts separator s) = s := by
  rw [← String.toList_inj, String.toList_intercalate, String.toList_singleton, parts, List.map_map]
  simp [Function.comp_def, List.intercalate_splitOn]

/-- The words of a singly spaced text are its parts between the spaces. -/
theorem SinglySpaced.words_eq {s : String} (spaced : SinglySpaced s) (filled : s ≠ "") :
    words s = parts ' ' s := by
  have characters : s.toList ≠ [] := by simpa using filled
  have clean : [] ∉ s.toList.splitOn ' ' := by
    rw [nil_mem_splitOn_iff characters]
    rintro (start | stop | single)
    · exact spaced.start start
    · exact spaced.stop stop
    · exact spaced.single single
  have split : s.toList.splitOnP isAsciiBlank = s.toList.splitOn ' ' := by
    rw [List.splitOn_eq_splitOnP]
    refine splitOnP_congr fun c member => ?_
    rw [Bool.eq_iff_iff, beq_iff_eq]
    exact ⟨spaced.spaces c member, fun same => same ▸ rfl⟩
  have kept : (s.toList.splitOn ' ').filter (fun word => !word.isEmpty) = s.toList.splitOn ' ' := by
    rw [List.filter_eq_self]
    intro part member
    simpa using fun empty : part = [] => clean (empty ▸ member)
  rw [words, parts, split, kept]

/-- A text is singly spaced when putting its words together with one blank between them gives it
back. -/
theorem singlySpaced_iff {s : String} :
    SinglySpaced s ↔ String.intercalate " " (words s) = s := by
  constructor
  · intro spaced
    by_cases empty : s = ""
    · subst empty
      rfl
    · rw [spaced.words_eq empty]
      exact intercalate_parts ' ' s
  · intro whole
    have plain : ∀ word ∈ words s, word ≠ "" ∧ Plain word := fun _ => word_plain
    have spaces : ∀ c ∈ s.toList, isAsciiBlank c = true → c = ' ' := by
      intro c member blank
      rw [← whole] at member
      rcases mem_intercalate member with between | ⟨word, inWords, inside⟩
      · simpa using between
      · simp [(plain word inWords).2 c inside] at blank
    by_cases none : words s = []
    · have empty : s = "" := by simpa [none] using whole.symm
      subst empty
      exact ⟨spaces, by simp, by simp, by simp⟩
    · have filled : s.toList ≠ [] := by
        rintro empty
        obtain rfl : s = "" := by simpa using empty
        exact none rfl
      have split : parts ' ' s = words s := by
        have again : parts ' ' (String.intercalate " " (words s)) = words s := by
          refine parts_intercalate none fun word member space => ?_
          exact absurd ((plain word member).2 ' ' space) (by decide)
        rwa [whole] at again
      have clean : [] ∉ s.toList.splitOn ' ' := by
        intro empty
        have member : "" ∈ words s := split ▸ List.mem_map.mpr ⟨[], empty, rfl⟩
        exact (plain "" member).1 rfl
      rw [nil_mem_splitOn_iff filled, not_or, not_or] at clean
      exact ⟨spaces, clean.2.2, clean.1, clean.2.1⟩

end Text

namespace Line

/-- The last character of a mark. A mark is a numeral of at most seven, so this is the digit of
its number: before it there are a plus sign and zeros at most. -/
def lastDigit (mark : String) : String :=
  String.ofList mark.toList.getLast?.toList

/-- The tidy form of a line: its table, its time and its pairs as they are, between single spaces,
and behind them the digits of its marks between commas. -/
def tidied (line : String) : String :=
  String.intercalate " " ((Text.words line).dropLast ++
    [String.intercalate "," ((marks line).map lastDigit)])

/-- A line that is tidy already: single spaces between the words and none around them, and each
mark one digit. -/
structure Tidy (line : String) : Prop where
  spaced : Text.SinglySpaced line
  digits : ∀ mark ∈ marks line, mark.length = 1 ∧ ∀ c ∈ mark.toList, c.isDigit = true

end Line

/-- The last digit of a numeral below ten is its number. The digits before it count ten times, so
they are zeros. -/
theorem Numeral.Spells.lastDigit {mark : String} {n : Nat} (spells : Numeral.Spells mark n)
    (small : n < 10) : Line.lastDigit mark = toString n := by
  obtain ⟨digits, whole, nonempty, all, value⟩ := spells
  obtain ⟨front, d, rfl⟩ := (List.eq_nil_or_concat' digits).resolve_left nonempty
  have last : mark.toList.getLast? = some d := by
    rcases whole with whole | whole <;> simp [whole, List.getLast?_cons]
  have number : d.toNat - '0'.toNat = n := by
    rw [Nat.ofDigitChars_append, Nat.ofDigitChars_cons, Nat.ofDigitChars_nil] at value
    omega
  have digit : d = n.digitChar := by
    have bounds : 48 ≤ d.toNat := by
      have isDigit := all d (by simp)
      simp only [Char.isDigit, Bool.and_eq_true, decide_eq_true_eq, ge_iff_le,
        UInt32.le_iff_toNat_le] at isDigit
      exact isDigit.1
    have same : d.toNat = n.digitChar.toNat := by
      rw [Nat.toNat_digitChar_of_lt_ten small]
      have zero : '0'.toNat = 48 := rfl
      omega
    exact Char.toNat_inj.mp same
  rw [Line.lastDigit, last, digit, Nat.toString_eq_ofList_toDigits, Nat.toDigits_of_lt_base small]
  rfl

/-- A column is written as the word that spells it. -/
theorem Entry.Spells.pair_eq {word : String} {e : Entry} (spells : Entry.Spells word e) :
    e.pair = word := by
  obtain ⟨text, whole, -, value⟩ := spells
  have wire : e.wireText = text := by
    rw [wireText, value]
    split
    · rename_i null
      exact null.symm
    · rfl
  rw [pair, wire, ← String.toList_inj, whole]
  simp

/-- Lists that are related by giving the same have the same images. -/
theorem map_eq_of_forall₂ {related : α → β → Prop} {f : α → γ} {g : β → γ} {xs : List α}
    {ys : List β} (all : List.Forall₂ related xs ys) (same : ∀ x y, related x y → f x = g y) :
    xs.map f = ys.map g := by
  rw [← List.forall₂_eq_eq_eq, List.forall₂_map_left_iff, List.forall₂_map_right_iff]
  exact all.imp same

namespace Line

section

variable {line : String} {p : Point} (spells : Spells line p)

include spells

/-- All columns of a point that a line spells are fields. -/
theorem Spells.columns_eq : p.columns = p.fields := by
  simp [Point.columns, spells.untagged]

/-- So it is the point with these fields and no tags. -/
theorem Spells.point_eq : (⟨p.measurement, p.timestamp, [], p.columns⟩ : Point) = p := by
  rw [spells.columns_eq, ← spells.untagged]

/-- The last digits of the marks are the numerals of the columns' types. -/
theorem Spells.digits_eq : (marks line).map lastDigit = p.fields.map fun e => e.type.numeral :=
  map_eq_of_forall₂ spells.types fun mark e numeral =>
    numeral.lastDigit (Nat.lt_of_le_of_lt e.type.number_le (by decide))

/-- A point that a line spells is written as the tidy form of the line. -/
theorem Spells.written : String.intercalate " " (wordsOf p) = tidied line := by
  obtain ⟨last, split⟩ := spells.ends
  have pairs : middle line = p.fields.map Entry.pair := by
    simpa using map_eq_of_forall₂ spells.pairs fun word e spelled => spelled.pair_eq.symm
  have front : (Text.words line).dropLast = p.measurement :: p.timestamp :: middle line := by
    rw [split, ← List.cons_append, ← List.cons_append, List.dropLast_concat]
  rw [tidied, front, spells.digits_eq, pairs, wordsOf, spells.columns_eq]
  rfl

/-- What a line spells can be written and read back. -/
theorem Spells.point_spellable : p.Spellable := by
  apply spellable_of_spells
  rwa [spells.point_eq]

/-- The tidy form of a line spells the same point. -/
theorem Spells.tidied_spells : Spells (tidied line) p := by
  have again := spells_of_spellable spells.columns_ne_nil spells.point_spellable
  rwa [spells.point_eq, spells.written] at again

/-- The tidy form of a line is tidy. -/
theorem Spells.tidied_tidy : Tidy (tidied line) := by
  rw [← spells.written]
  constructor
  · rw [Text.singlySpaced_iff, words_line spells.columns_ne_nil spells.point_spellable]
  · rw [marks_line spells.columns_ne_nil spells.point_spellable]
    intro mark member
    obtain ⟨e, -, rfl⟩ := List.mem_map.mp member
    have single : e.type.numeral.length = 1 := by cases e.type <;> decide
    exact ⟨single, fun c digit => Numeral.isDigit_of_mem_toString digit⟩

omit spells in
/-- A tidy line is its own tidy form. -/
theorem Tidy.tidied_eq (tidy : Tidy line) (nonempty : Text.words line ≠ []) :
    tidied line = line := by
  have digits : (marks line).map lastDigit = marks line := by
    conv_rhs => rw [← List.map_id (marks line)]
    refine List.map_congr_left fun mark member => ?_
    obtain ⟨c, only⟩ := List.length_eq_one_iff.mp (tidy.digits mark member).1
    rw [lastDigit, only, id_eq, ← String.toList_inj, only]
    simp
  have last : String.intercalate "," (marks line) = (Text.words line).getLast nonempty := by
    rw [marks, List.getLastD_eq_getLast?, List.getLast?_eq_some_getLast nonempty]
    exact Text.intercalate_parts ',' _
  rw [tidied, digits, last, List.dropLast_append_getLast]
  exact Text.singlySpaced_iff.mp tidy.spaced

/-- A line is its own tidy form exactly when it is tidy. -/
theorem Spells.tidied_eq_iff : tidied line = line ↔ Tidy line := by
  constructor
  · intro same
    have tidy := spells.tidied_tidy
    rwa [same] at tidy
  · intro tidy
    obtain ⟨last, split⟩ := spells.ends
    exact tidy.tidied_eq (by simp [split])

end

/-- Encoding the point of a line gives the tidy form of the line, with the digits of the columns'
types for marks. It decodes to the same point and is what that point is encoded as again. Nothing
changes exactly when the line is tidy.

Proof: a line that is decoded spells its point, and what a point that was spelled is written as is
the tidy form of the line, which spells the same point. -/
theorem encoding_tidies {line : String} {p : Point} (decoded : decode line = .ok p) :
    encode p = some (tidied line) ∧
      (marks line).map lastDigit = p.columns.map (fun e => e.type.numeral) ∧
      decode (tidied line) = .ok p ∧
      (∀ q, decode (tidied line) = .ok q → encode q = some (tidied line)) ∧
      (tidied line = line ↔ Tidy line) := by
  have spells := decode_ok_iff.mp decoded
  have encoded : encode p = some (tidied line) := by
    simp [encode, Point.isEmpty_iff, spells.columns_ne_nil, spells.written]
  have again : decode (tidied line) = .ok p := decode_ok_iff.mpr spells.tidied_spells
  refine ⟨encoded, spells.columns_eq ▸ spells.digits_eq, again, ?_, spells.tidied_eq_iff⟩
  intro q decodedAgain
  obtain rfl : p = q := Except.ok.inj (again.symm.trans decodedAgain)
  exact encoded

/-- A line with blanks of several sorts, a name and a text that are empty, a null, an equals sign
in a text, and marks with a sign and with zeros. -/
def untidy : String := "\tcpu  1\x0ca= =nil\rß=b=c,\x0b 7,+0003,000 \n"

/-- Its point. -/
def untidyPoint : Point :=
  ⟨"cpu", "1", [], [⟨"a", .string, some ""⟩, ⟨"", .int64, none⟩, ⟨"ß", .null, some "b=c,\x0b"⟩]⟩

/-- An untidy line and its tidy form are read as the same point, and the tidy form is what that is
written as. -/
theorem untidy_is_tidied : decode untidy = .ok untidyPoint ∧
    encode untidyPoint = some "cpu 1 a= =nil ß=b=c,\x0b 7,3,0" ∧
    decode "cpu 1 a= =nil ß=b=c,\x0b 7,3,0" = .ok untidyPoint ∧ ¬ Tidy untidy := by
  have decoded : decode untidy = .ok untidyPoint := by decide
  have form : tidied untidy = "cpu 1 a= =nil ß=b=c,\x0b 7,3,0" := by decide
  obtain ⟨encoded, -, again, -, same⟩ := encoding_tidies decoded
  rw [form] at encoded again same
  exact ⟨decoded, encoded, again, fun tidy => absurd (same.mpr tidy) (by decide)⟩

end Line

end SeriesBench
