import SeriesBench.Proofs.Time.Reading

/-!
# Times in statements

In a statement, texts stand in single quotes, and no text holds a quote of its own. Those that can
be read as times are its timestamps. A statement is put together from parts that close all quotes
that they open, and its timestamps are those of its parts, one after the other.
-/

namespace SeriesBench

namespace Sql

/-- The mark at both ends of a quoted text. -/
def quote : Char := '\x27'

/-- The quoted texts that end in a part of a statement, and what has been read of the one that does
not, if there is one. Before the part, so much of a quoted text has been read. -/
def readQuoted : Option (List Char) → List Char → List String × Option (List Char)
  | held, [] => ([], held)
  | none, c :: rest => readQuoted (if c = quote then some [] else none) rest
  | some held, c :: rest =>
    if c = quote then
      let (texts, last) := readQuoted none rest
      (String.ofList held :: texts, last)
    else readQuoted (some (held ++ [c])) rest

/-- The quoted texts of a statement that are times. -/
def timestamps (sql : String) : List String :=
  (readQuoted none sql.toList).1.filter fun text => (Instant.ofRfc3339? text).isSome

/-- A text is read in parts: the second one is read from where the first has got to. -/
theorem readQuoted_append (held : Option (List Char)) (first second : List Char) :
    readQuoted held (first ++ second) =
      ((readQuoted held first).1 ++ (readQuoted (readQuoted held first).2 second).1,
        (readQuoted (readQuoted held first).2 second).2) := by
  induction first generalizing held with
  | nil => cases held <;> rfl
  | cons c rest ih =>
    cases held with
    | none => simp only [List.cons_append, readQuoted, ih]
    | some held =>
      simp only [List.cons_append, readQuoted]
      split <;> simp only [ih, List.cons_append]

/-- A text holds no quotes. -/
def Unquoted (text : String) : Prop := quote ∉ text.toList

instance (text : String) : Decidable (Unquoted text) :=
  inferInstanceAs (Decidable (¬ _))

/-- A text without quotes is made of parts without quotes. -/
@[simp] theorem unquoted_append {first second : String} :
    Unquoted (first ++ second) ↔ Unquoted first ∧ Unquoted second := by
  simp [Unquoted]

/-- A number is written in digits only. -/
theorem not_mem_toString {c : Char} (other : c.isDigit = false) (n : Nat) :
    c ∉ (toString n).toList := by
  intro member
  have digit := Nat.isDigit_of_mem_toDigits (b := 10) (by decide) (by decide)
    (Nat.toList_repr ▸ member)
  exact absurd digit (by simp [other])

/-- A number holds no quotes. -/
theorem unquoted_toString (n : Nat) : Unquoted (toString n) :=
  not_mem_toString (by decide) n

/-- Outside of quotes, nothing is found in a text without quotes. -/
theorem readQuoted_unquoted {text : List Char} (unquoted : quote ∉ text) :
    readQuoted none text = ([], none) := by
  induction text with
  | nil => rfl
  | cons c rest ih =>
    obtain ⟨other, unquoted⟩ := List.ne_and_not_mem_of_not_mem_cons unquoted
    rw [readQuoted, if_neg other.symm, ih unquoted]

/-- Inside of quotes, a text without quotes is held as it stands. -/
theorem readQuoted_held {text : List Char} (unquoted : quote ∉ text) (held : List Char) :
    readQuoted (some held) text = ([], some (held ++ text)) := by
  induction text generalizing held with
  | nil => simp [readQuoted]
  | cons c rest ih =>
    obtain ⟨other, unquoted⟩ := List.ne_and_not_mem_of_not_mem_cons unquoted
    rw [readQuoted, if_neg other.symm, ih unquoted, List.append_assoc, List.singleton_append]

/-- A part of a statement closes all quotes that it opens, and these are the texts in them. -/
def Quotes (part : String) (texts : List String) : Prop :=
  readQuoted none part.toList = (texts, none)

instance (part : String) (texts : List String) : Decidable (Quotes part texts) :=
  inferInstanceAs (Decidable (_ = _))

/-- Two parts that close their quotes do so together, and hold the texts of both. -/
theorem Quotes.append {first second : String} {early late : List String}
    (before : Quotes first early) (after : Quotes second late) :
    Quotes (first ++ second) (early ++ late) := by
  rw [Quotes, String.toList_append, readQuoted_append, before, after]

/-- A text without quotes closes all the quotes that it opens, for it opens none. -/
theorem quotes_unquoted {part : String} (unquoted : Unquoted part) : Quotes part [] :=
  readQuoted_unquoted unquoted

/-- A text in quotes is held. -/
theorem quotes_quoted {text : String} (unquoted : Unquoted text) :
    Quotes ("'" ++ text ++ "'") [text] := by
  have opened : readQuoted none "'".toList = ([], some []) := by decide
  have closed (held : List Char) : readQuoted (some held) "'".toList = ([.ofList held], none) := rfl
  rw [Quotes, String.toList_append, String.toList_append, readQuoted_append, readQuoted_append,
    opened, readQuoted_held unquoted, closed, List.nil_append, List.nil_append, List.nil_append,
    String.ofList_toList]

/-- What is listed with a separator between holds the texts of its parts in turn. -/
theorem quotes_intercalate {separator : String} (plain : Unquoted separator) {xs : List α}
    {part : α → String} {texts : α → List String} (quotes : ∀ x ∈ xs, Quotes (part x) (texts x)) :
    Quotes (String.intercalate separator (xs.map part)) (xs.flatMap texts) := by
  induction xs with
  | nil => rfl
  | cons x rest ih =>
    obtain ⟨first, others⟩ := List.forall_mem_cons.mp quotes
    by_cases last : rest = []
    · simpa [last] using first
    · rw [List.map_cons, String.intercalate_cons_of_ne_nil (by simpa using last)]
      simpa using (first.append (quotes_unquoted plain)).append (ih others)

/-- A part of a statement closes all quotes that it opens, and these of the texts in them are
times. -/
structure Shows (part : String) (times : List String) : Prop where
  closed : (readQuoted none part.toList).2 = none
  times : timestamps part = times

instance (part : String) (times : List String) : Decidable (Shows part times) :=
  decidable_of_iff ((readQuoted none part.toList).2 = none ∧ timestamps part = times)
    ⟨fun ⟨closed, times⟩ => ⟨closed, times⟩, fun ⟨closed, times⟩ => ⟨closed, times⟩⟩

/-- A part shows the times among the texts that it quotes. -/
theorem shows_iff {part : String} {times : List String} :
    Shows part times ↔ ∃ texts, Quotes part texts ∧
      (texts.filter fun text => (Instant.ofRfc3339? text).isSome) = times := by
  constructor
  · rintro ⟨closed, times⟩
    exact ⟨_, Prod.ext rfl closed, times⟩
  · rintro ⟨texts, quotes, times⟩
    rw [Quotes] at quotes
    exact ⟨congrArg Prod.snd quotes, by rw [timestamps, quotes, times]⟩

/-- Two parts that show times show the times of both in turn. -/
theorem Shows.append {first second : String} {early late : List String}
    (before : Shows first early) (after : Shows second late) :
    Shows (first ++ second) (early ++ late) := by
  obtain ⟨texts, quotes, rfl⟩ := shows_iff.mp before
  obtain ⟨others, quotes', rfl⟩ := shows_iff.mp after
  exact shows_iff.mpr ⟨texts ++ others, quotes.append quotes', List.filter_append ..⟩

/-- A text without quotes shows no times. -/
theorem shows_unquoted {part : String} (unquoted : Unquoted part) : Shows part [] :=
  shows_iff.mpr ⟨[], quotes_unquoted unquoted, rfl⟩

end Sql

open Sql

/-- An instant is written with digits and five marks. -/
theorem Instant.not_mem_rfc3339 {c : Char} (other : c.isDigit = false)
    (unmarked : c ∉ ['+', '-', ':', 'T', 'Z']) (t : Instant) : c ∉ t.rfc3339.toList := by
  obtain ⟨plus, minus, colon, letter, zone⟩ :
      c ≠ '+' ∧ c ≠ '-' ∧ c ≠ ':' ∧ c ≠ 'T' ∧ c ≠ 'Z' := by simpa using unmarked
  have zero : '0' ≠ c := by
    rintro rfl
    exact absurd other (by decide)
  have padded (width n : Nat) : c ∉ (Text.padLeft width '0' (toString n)).toList := by
    rw [Text.padLeft, String.toList_append, String.toList_ofList, List.mem_append, not_or]
    exact ⟨fun member => zero (List.eq_of_mem_replicate member).symm, not_mem_toString other n⟩
  have year (n : Int) : c ∉ (yearText n).toList := by
    unfold yearText
    split
    · exact padded 4 _
    · rw [String.toList_append, List.mem_append, not_or]
      refine ⟨?_, padded 4 _⟩
      split
      · simpa using minus
      · simpa using plus
  have two (n : Nat) : c ∉ (twoDigits n).toList := padded 2 n
  simp [rfc3339, dateText, clockText, year, two, minus, colon, letter, zone]

/-- The text of an instant holds no quotes. -/
theorem Instant.unquoted_rfc3339 (t : Instant) : Unquoted t.rfc3339 :=
  not_mem_rfc3339 (by decide) (by decide) t

/-- A text that does not begin with a digit is no time. -/
theorem Instant.ofRfc3339?_eq_none {text : String} {c : Char} {rest : List Char}
    (first : text.toList = c :: rest) (letter : c.isDigit = false) : ofRfc3339? text = none := by
  simp [ofRfc3339?, first, Rfc3339.takeDate, Rfc3339.takeDigits, letter]

end SeriesBench
