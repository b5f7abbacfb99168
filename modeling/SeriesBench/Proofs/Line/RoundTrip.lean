import SeriesBench.Proofs.Line.Grammar

/-!
# Which points survive their line

A point is written with one blank between its words and read back by cutting at any run of
blanks, at the first equals sign of each word and at the commas of the last. Encoder and
decoder share nothing but that form, so it is said here exactly which points come back: those
whose words stay whole. Nothing else is lost: names and texts may be empty, texts may hold
equals signs and commas, and whatever is no ASCII blank stays as it is.
-/

namespace SeriesBench

namespace Text

instance (s : String) : Decidable (Plain s) :=
  decidable_of_iff (s.toList.all fun c => !isAsciiBlank c) (by simp [Plain])

/-- The blanks of ASCII are the space, the tab, the line feed, the form feed and the carriage
return. -/
theorem isAsciiBlank_iff {c : Char} :
    isAsciiBlank c = true ↔ c = ' ' ∨ c = '\t' ∨ c = '\n' ∨ c = '\x0c' ∨ c = '\r' := by
  simp [isAsciiBlank, or_assoc]

/-- A digit is no blank, and neither is a character beyond ASCII. -/
theorem isAsciiBlank_of_visible {c : Char} (visible : c.isDigit = true ∨ 128 ≤ c.toNat) :
    isAsciiBlank c = false := by
  by_contra blank
  rcases isAsciiBlank_iff.mp (by simpa using blank) with rfl | rfl | rfl | rfl | rfl <;>
    exact absurd visible (by decide)

/-- A character of texts put together stands in one of them or between them. -/
theorem mem_intercalate {c : Char} {separator : String} {texts : List String}
    (member : c ∈ (String.intercalate separator texts).toList) :
    c ∈ separator.toList ∨ ∃ s ∈ texts, c ∈ s.toList := by
  induction texts with
  | nil => simp at member
  | cons s rest ih =>
    cases rest with
    | nil => exact .inr ⟨s, by simp, by simpa using member⟩
    | cons t rest =>
      rw [String.intercalate_cons_cons, String.toList_append, String.toList_append,
        List.mem_append, List.mem_append] at member
      rcases member with (first | between) | later
      · exact .inr ⟨s, by simp, first⟩
      · exact .inl between
      · rcases ih later with between | ⟨u, inRest, inside⟩
        · exact .inl between
        · exact .inr ⟨u, List.mem_cons_of_mem s inRest, inside⟩

/-- The text before the first blank is the first word, if it is not empty. -/
theorem words_cons {s : String} (nonempty : s ≠ "") (plain : Plain s) (rest : String) :
    words (s ++ " " ++ rest) = s :: words rest := by
  have whole : (s ++ " " ++ rest).toList = s.toList ++ ' ' :: rest.toList := by simp
  rw [words, whole, List.splitOnP_append_cons_of_forall_mem plain ' ' rfl]
  simp [words, nonempty]

/-- Words put together with one blank between them are read back. -/
theorem words_intercalate {texts : List String} (plain : ∀ s ∈ texts, s ≠ "" ∧ Plain s) :
    words (String.intercalate " " texts) = texts := by
  induction texts with
  | nil => rfl
  | cons s rest ih =>
    obtain ⟨⟨nonempty, clean⟩, others⟩ := List.forall_mem_cons.mp plain
    cases rest with
    | nil => simp [words, List.splitOnP_eq_singleton clean, nonempty]
    | cons t rest => rw [String.intercalate_cons_cons, words_cons nonempty clean, ih others]

/-- Parts put together with their separator are read back. -/
theorem parts_intercalate {separator : Char} {texts : List String} (some : texts ≠ [])
    (clean : ∀ s ∈ texts, separator ∉ s.toList) :
    parts separator (String.intercalate (String.singleton separator) texts) = texts := by
  rw [parts, String.toList_intercalate, String.toList_singleton, List.splitOn_intercalate]
  · simp [List.map_map, Function.comp_def]
  · simpa using clean
  · simpa using some

end Text

namespace Numeral

/-- The decimal text of a number holds digits only. -/
theorem isDigit_of_mem_toString {n : Nat} {c : Char} (member : c ∈ (toString n).toList) :
    c.isDigit = true :=
  Nat.isDigit_of_mem_toDigits (by decide) (by decide) (Nat.toList_repr ▸ member)

/-- The decimal text of a number spells it. -/
theorem spells_toString (n : Nat) : Spells (toString n) n :=
  ⟨Nat.toDigits 10 n, .inl Nat.toList_repr, Nat.toDigits_ne_nil,
    fun _ member => isDigit_of_mem_toString (Nat.toList_repr ▸ member),
    Nat.ofDigitChars_ten_toDigits⟩

end Numeral

namespace Entry

/-- A column whose word can be read back: the name holds neither a blank nor an equals sign,
and the text, if there is one, holds no blank and is not the word for null. -/
structure Spellable (e : Entry) : Prop where
  name : Text.Plain e.name ∧ '=' ∉ e.name.toList
  text : ∀ text ∈ e.text, Text.Plain text ∧ text ≠ "nil"

instance (e : Entry) : Decidable e.Spellable :=
  decidable_of_iff ((Text.Plain e.name ∧ '=' ∉ e.name.toList) ∧
      ∀ text ∈ e.text, Text.Plain text ∧ text ≠ "nil")
    ⟨fun ⟨name, text⟩ => ⟨name, text⟩, fun ⟨name, text⟩ => ⟨name, text⟩⟩

/-- The word of a column that can be read back spells it. -/
theorem Spellable.spells_pair {e : Entry} (spellable : e.Spellable) : Spells e.pair e := by
  refine ⟨e.wireText, by simp [pair], spellable.name.2, ?_⟩
  cases value : e.text with
  | none => simp [wireText, value, nullWord]
  | some text => simp [wireText, value, (spellable.text text value).2]

/-- The word of a column that can be read back is one word. -/
theorem Spellable.plain_pair {e : Entry} (spellable : e.Spellable) :
    e.pair ≠ "" ∧ Text.Plain e.pair := by
  have text : Text.Plain e.wireText := by
    cases value : e.text with
    | none => simp [wireText, value, nullWord, Text.Plain, Text.isAsciiBlank]
    | some text => simpa [wireText, value] using (spellable.text text value).1
  constructor
  · intro empty
    simpa [pair] using congrArg String.toList empty
  · intro c member
    simp only [pair, String.toList_append, List.mem_append] at member
    rcases member with (inName | sign) | inText
    · exact spellable.name.1 c inName
    · obtain rfl : c = '=' := by simpa using sign
      rfl
    · exact text c inText

/-- A column that a plain word spells can be read back. -/
theorem Spells.spellable {word : String} {e : Entry} (plain : Text.Plain word)
    (spells : Spells word e) : e.Spellable := by
  obtain ⟨text, whole, clean, value⟩ := spells
  unfold Text.Plain at plain
  rw [whole] at plain
  constructor
  · exact ⟨fun c inName => plain c (List.mem_append_left _ inName), clean⟩
  · intro found is
    rw [value] at is
    split at is
    · contradiction
    · rename_i other
      obtain rfl : text = found := by simpa using is
      exact ⟨fun c inText => plain c (by simp [inText]), other⟩

end Entry

/-- A point whose line can be read back. -/
structure Point.Spellable (p : Point) : Prop where
  measurement : p.measurement ≠ "" ∧ Text.Plain p.measurement
  timestamp : p.timestamp ≠ "" ∧ Text.Plain p.timestamp
  columns : ∀ e ∈ p.columns, e.Spellable

instance (p : Point) : Decidable p.Spellable :=
  decidable_of_iff ((p.measurement ≠ "" ∧ Text.Plain p.measurement) ∧
      (p.timestamp ≠ "" ∧ Text.Plain p.timestamp) ∧ ∀ e ∈ p.columns, e.Spellable)
    ⟨fun ⟨measurement, timestamp, columns⟩ => ⟨measurement, timestamp, columns⟩,
      fun ⟨measurement, timestamp, columns⟩ => ⟨measurement, timestamp, columns⟩⟩

/-- A point written without ASCII but for the equals signs and commas in its texts. Names and
texts may be empty. -/
structure Point.Foreign (p : Point) : Prop where
  measurement : p.measurement ≠ "" ∧ ∀ c ∈ p.measurement.toList, 128 ≤ c.toNat
  timestamp : p.timestamp ≠ "" ∧ ∀ c ∈ p.timestamp.toList, 128 ≤ c.toNat
  names : ∀ e ∈ p.columns, ∀ c ∈ e.name.toList, 128 ≤ c.toNat
  texts : ∀ e ∈ p.columns, ∀ text ∈ e.text, ∀ c ∈ text.toList, 128 ≤ c.toNat ∨ c = '=' ∨ c = ','

/-- A point that is written without ASCII can be spelled, for blanks are ASCII. -/
theorem Point.Foreign.spellable {p : Point} (foreign : p.Foreign) : p.Spellable := by
  constructor
  · exact ⟨foreign.measurement.1, fun c member =>
      Text.isAsciiBlank_of_visible (.inr (foreign.measurement.2 c member))⟩
  · exact ⟨foreign.timestamp.1, fun c member =>
      Text.isAsciiBlank_of_visible (.inr (foreign.timestamp.2 c member))⟩
  · intro e inColumns
    have names := foreign.names e inColumns
    have texts := foreign.texts e inColumns
    constructor
    · exact ⟨fun c member => Text.isAsciiBlank_of_visible (.inr (names c member)),
        fun sign => absurd (names '=' sign) (by decide)⟩
    · intro text is
      constructor
      · intro c member
        rcases texts text is c member with large | rfl | rfl
        · exact Text.isAsciiBlank_of_visible (.inr large)
        · rfl
        · rfl
      · rintro rfl
        exact absurd (texts "nil" is 'n' (by decide)) (by decide)

namespace Line

/-- The last word of a point's line. -/
def lastWord (p : Point) : String :=
  String.intercalate "," (p.columns.map fun e => e.type.numeral)

/-- The parts of the last word are the numerals of the columns' types, in order. -/
theorem parts_lastWord {p : Point} (filled : p.columns ≠ []) :
    Text.parts ',' (lastWord p) = p.columns.map fun e => e.type.numeral := by
  apply Text.parts_intercalate
  · simpa using filled
  · intro s member comma
    obtain ⟨e, -, rfl⟩ := List.mem_map.mp member
    exact absurd (Numeral.isDigit_of_mem_toString comma) (by decide)

/-- The last word of a point's line is one word. -/
theorem plain_lastWord {p : Point} (filled : p.columns ≠ []) :
    lastWord p ≠ "" ∧ Text.Plain (lastWord p) := by
  constructor
  · intro empty
    have parts := parts_lastWord filled
    rw [empty] at parts
    have blank : "" ∈ p.columns.map fun e => e.type.numeral := parts ▸ by decide
    obtain ⟨e, -, none⟩ := List.mem_map.mp blank
    cases type : e.type <;> simp [type, TypeTag.numeral, TypeTag.number] at none
  · intro c member
    rcases Text.mem_intercalate member with comma | ⟨s, isNumeral, inside⟩
    · obtain rfl : c = ',' := by simpa using comma
      rfl
    · obtain ⟨e, -, rfl⟩ := List.mem_map.mp isNumeral
      exact Text.isAsciiBlank_of_visible (.inl (Numeral.isDigit_of_mem_toString inside))

/-- The words that a point which can be read back is written in are words. -/
theorem plain_wordsOf {p : Point} (filled : p.columns ≠ []) (spellable : p.Spellable) :
    ∀ word ∈ wordsOf p, word ≠ "" ∧ Text.Plain word := by
  intro word member
  simp only [wordsOf, List.mem_cons, List.mem_append, List.mem_map, List.not_mem_nil,
    or_false] at member
  rcases member with rfl | rfl | ⟨e, inColumns, rfl⟩ | rfl
  · exact spellable.measurement
  · exact spellable.timestamp
  · exact (spellable.columns e inColumns).plain_pair
  · exact plain_lastWord filled

/-- The line of a point that can be read back has the words that the point was written in. -/
theorem words_line {p : Point} (filled : p.columns ≠ []) (spellable : p.Spellable) :
    Text.words (String.intercalate " " (wordsOf p)) = wordsOf p :=
  Text.words_intercalate (plain_wordsOf filled spellable)

/-- Its marks are the numerals of the columns' types. -/
theorem marks_line {p : Point} (filled : p.columns ≠ []) (spellable : p.Spellable) :
    marks (String.intercalate " " (wordsOf p)) = p.columns.map fun e => e.type.numeral := by
  have last : (wordsOf p).getLastD "" = lastWord p := by
    rw [wordsOf, ← List.cons_append, ← List.cons_append, List.getLastD_concat, lastWord]
  rw [← parts_lastWord filled, marks, words_line filled spellable, last]

/-- A point that can be read back is spelled by its line. -/
theorem spells_of_spellable {p : Point} (filled : p.columns ≠ []) (spellable : p.Spellable) :
    Spells (String.intercalate " " (wordsOf p)) ⟨p.measurement, p.timestamp, [], p.columns⟩ := by
  have words := words_line filled spellable
  have middle : middle (String.intercalate " " (wordsOf p)) = p.columns.map Entry.pair := by
    rw [Line.middle, words]
    simp [wordsOf]
  constructor
  · exact ⟨lastWord p, by rw [words, middle]; rfl⟩
  · rfl
  · rw [middle, List.forall₂_map_left_iff, List.forall₂_same]
    intro e member
    exact (spellable.columns e member).spells_pair
  · rw [marks_line filled spellable, List.forall₂_map_left_iff, List.forall₂_same]
    intro e _
    exact Numeral.spells_toString e.type.number

/-- A point whose columns any line spells can be read back. -/
theorem spellable_of_spells {line : String} {p : Point}
    (spells : Spells line ⟨p.measurement, p.timestamp, [], p.columns⟩) : p.Spellable := by
  obtain ⟨last, split⟩ := spells.ends
  have plain {word : String} (member : word ∈ p.measurement :: p.timestamp ::
      (middle line ++ [last])) : word ≠ "" ∧ Text.Plain word :=
    Text.word_plain (split ▸ member)
  constructor
  · exact plain (by simp)
  · exact plain (by simp)
  · intro e member
    have columns : List.Forall₂ (flip Entry.Spells) p.columns (middle line) := spells.pairs.flip
    obtain ⟨word, inMiddle, spelled⟩ := exists_of_forall₂ columns member
    exact Entry.Spells.spellable (plain (by simp [inMiddle])).2 spelled

/-- Decoding undoes encoding, up to the division into tags and fields, exactly for the points
whose words stay whole. So empty names and texts come back, and so does whatever is beyond
ASCII.

Proof: a line that is decoded is one of the grammar, and what spells the words of a point is that
each of them stays whole when the line is cut at its blanks. In the other direction these words are
put together to a line of the grammar. -/
theorem decode_encode_iff {p : Point} (filled : p.columns ≠ []) :
    ((∃ line, encode p = some line ∧
      decode line = .ok ⟨p.measurement, p.timestamp, [], p.columns⟩) ↔ p.Spellable) ∧
      (p.Foreign → p.Spellable) := by
  have written : encode p = some (String.intercalate " " (wordsOf p)) := by
    simp [encode, Point.isEmpty_iff, filled]
  refine ⟨⟨?_, ?_⟩, Point.Foreign.spellable⟩
  · rintro ⟨line, -, decoded⟩
    exact spellable_of_spells (decode_ok_iff.mp decoded)
  · intro spellable
    exact ⟨_, written, decode_ok_iff.mpr (spells_of_spellable filled spellable)⟩

/-- A point with an empty name, an empty text, a text with commas and equals signs, a null and
letters beyond ASCII. -/
def unusual : Point :=
  ⟨"température", "١٢", [⟨"", .string, some ""⟩, ⟨"größe", .string, some "a=b,,c="⟩],
    [⟨"ß", .int32, none⟩, ⟨"nil", .binary, some "\x0b"⟩]⟩

/-- A point with unusual names and texts comes back without its tags. -/
theorem unusual_comes_back : unusual.columns ≠ [] ∧ ∃ line, encode unusual = some line ∧
    decode line = .ok ⟨unusual.measurement, unusual.timestamp, [], unusual.columns⟩ := by
  have filled : unusual.columns ≠ [] := by decide
  have spellable : unusual.Spellable := by decide
  exact ⟨filled, (decode_encode_iff filled).1.mpr spellable⟩

end Line

end SeriesBench
