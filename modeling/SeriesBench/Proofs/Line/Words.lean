import Mathlib.Data.List.Basic
import SeriesBench.Line

/-!
# What single words say

Words hold no blanks. A word between the time of a line and its last word spells a column: it
is cut at its first equals sign. A part of the last word names a type: it is a numeral of at
most seven. What a word spells is said here without the functions that read it, and those
functions are shown to find exactly that.
-/

namespace SeriesBench

namespace Text

/-- What stands between two elements at which a list is split has none of them. -/
theorem clean_of_mem_splitOnP {p : α → Bool} {xs part : List α} (member : part ∈ xs.splitOnP p) :
    ∀ x ∈ part, p x = false := by
  induction xs generalizing part with
  | nil =>
    obtain rfl : part = [] := by simpa using member
    simp
  | cons x rest ih =>
    rw [List.splitOnP_cons_eq_if_modifyHead] at member
    split at member
    · rcases List.mem_cons.mp member with rfl | later
      · simp
      · exact ih later
    · rename_i kept
      cases parts : rest.splitOnP p with
      | nil => exact absurd parts (List.splitOnP_ne_nil p rest)
      | cons first others =>
        rw [parts, List.modifyHead_cons] at member
        rcases List.mem_cons.mp member with rfl | later
        · intro y inside
          rcases List.mem_cons.mp inside with rfl | inside
          · simpa using kept
          · exact ih (parts ▸ List.mem_cons_self) y inside
        · exact ih (parts ▸ List.mem_cons_of_mem first later)

/-- A text without blanks. -/
def Plain (s : String) : Prop :=
  ∀ c ∈ s.toList, isAsciiBlank c = false

/-- A word is a text without blanks that is not empty. -/
theorem word_plain {s word : String} (member : word ∈ words s) : word ≠ "" ∧ Plain word := by
  obtain ⟨part, inParts, rfl⟩ := List.mem_map.mp member
  obtain ⟨isPart, nonempty⟩ := List.mem_filter.mp inParts
  constructor
  · intro empty
    have none : part = [] := by simpa using congrArg String.toList empty
    simp [none] at nonempty
  · intro c inside
    exact clean_of_mem_splitOnP isPart c (by simpa using inside)

/-- What a text is cut into at its first separator. -/
theorem cut_eq_some_iff {separator : Char} {s before after : String} :
    cut separator s = some (before, after) ↔
      s.toList = before.toList ++ separator :: after.toList ∧ separator ∉ before.toList := by
  rw [cut, Option.map_eq_some_iff]
  constructor
  · rintro ⟨⟨b, a⟩, found, same⟩
    obtain ⟨rfl, rfl⟩ := Prod.mk.inj same
    simpa using cutList_eq_some_iff.mp found
  · rintro ⟨whole, clean⟩
    exact ⟨(before.toList, after.toList), cutList_eq_some_iff.mpr ⟨whole, clean⟩, by simp⟩

/-- A text cannot be cut exactly when the separator is not in it. -/
theorem cut_eq_none_iff {separator : Char} {s : String} :
    cut separator s = none ↔ separator ∉ s.toList := by
  constructor
  · intro uncut member
    obtain ⟨before, after, whole, clean⟩ := List.eq_append_cons_of_mem member
    have found : cut separator s = some (String.ofList before, String.ofList after) :=
      cut_eq_some_iff.mpr (by simpa using ⟨whole, clean⟩)
    simp [uncut] at found
  · intro absent
    cases found : cut separator s with
    | none => rfl
    | some halves =>
      obtain ⟨whole, _⟩ := cut_eq_some_iff.mp found
      exact absurd (by simp [whole]) absent

end Text

namespace Numeral

/-- A text is a numeral of `n`: digits that denote it, perhaps after one plus sign. -/
def Spells (s : String) (n : Nat) : Prop :=
  ∃ digits : List Char, (s.toList = digits ∨ s.toList = '+' :: digits) ∧ digits ≠ [] ∧
    (∀ c ∈ digits, c.isDigit = true) ∧ Nat.ofDigitChars 10 digits 0 = n

/-- Digits are read as the number that they denote, and nothing else is read. -/
theorem readDigits_eq_some_iff {s : List Char} {n : Nat} :
    readDigits s = some n ↔
      s ≠ [] ∧ (∀ c ∈ s, c.isDigit = true) ∧ Nat.ofDigitChars 10 s 0 = n := by
  unfold readDigits
  split
  · rename_i empty
    simp [List.isEmpty_iff.mp empty]
  · rename_i some
    have nonempty : s ≠ [] := by simpa using some
    simp [nonempty]

/-- An unsigned numeral is read exactly as what it spells, if that is below the limit. -/
theorem readUnsigned_eq_some_iff {limit n : Nat} {s : String} :
    readUnsigned limit s = some n ↔ Spells s n ∧ n < limit := by
  simp only [readUnsigned, Option.filter_eq_some_iff, decide_eq_true_eq]
  apply and_congr_left'
  split
  · rename_i rest signed
    rw [readDigits_eq_some_iff]
    constructor
    · rintro ⟨some, digits, value⟩
      exact ⟨rest, .inr signed, some, digits, value⟩
    · rintro ⟨digits, whole | whole, some, all, value⟩
      · have plus : '+'.isDigit = true := all '+' (by simp [← whole, signed])
        contradiction
      · obtain rfl : rest = digits := (List.cons.inj (signed.symm.trans whole)).2
        exact ⟨some, all, value⟩
  · rename_i unsigned
    rw [readDigits_eq_some_iff]
    constructor
    · rintro ⟨some, digits, value⟩
      exact ⟨s.toList, .inl rfl, some, digits, value⟩
    · rintro ⟨digits, rfl | whole, some, all, value⟩
      · exact ⟨some, all, value⟩
      · exact absurd whole (unsigned digits)

end Numeral

namespace TypeTag

/-- The numbers of types go up to seven. -/
theorem number_le (type : TypeTag) : type.number ≤ 7 := by
  cases type <;> decide

/-- The numbers of types are those up to seven. -/
theorem exists_number {n : Nat} (small : n ≤ 7) : ∃ type : TypeTag, type.number = n := by
  have found : ∀ n ≤ 7, (ofNumber? n).isSome := by decide
  obtain ⟨type, is⟩ := Option.isSome_iff_exists.mp (found n small)
  exact ⟨type, (ofNumber?_eq_some_iff.mp is).symm⟩

/-- A text that stands for a type: a numeral of at most seven. -/
def Named (text : String) : Prop :=
  ∃ n ≤ 7, Numeral.Spells text n

/-- A numeral stands for a type if it spells its number. -/
theorem ofNumeral?_eq_some_iff {text : String} {type : TypeTag} :
    ofNumeral? text = some type ↔ Numeral.Spells text type.number := by
  rw [ofNumeral?, Option.bind_eq_some_iff]
  constructor
  · rintro ⟨n, number, named⟩
    obtain rfl := ofNumber?_eq_some_iff.mp named
    exact (Numeral.readUnsigned_eq_some_iff.mp number).1
  · intro spelled
    have below : type.number < 256 := Nat.lt_of_le_of_lt type.number_le (by decide)
    exact ⟨type.number, Numeral.readUnsigned_eq_some_iff.mpr ⟨spelled, below⟩,
      ofNumber?_number type⟩

/-- A text is read as a type if it spells its number. -/
theorem read_ok_iff {text : String} {type : TypeTag} :
    read text = .ok type ↔ Numeral.Spells text type.number := by
  rw [← ofNumeral?_eq_some_iff, read]
  cases ofNumeral? text <;> simp

/-- A text stands for a type exactly if it is read as one. -/
theorem named_iff {text : String} : Named text ↔ ∃ type, read text = .ok type := by
  constructor
  · rintro ⟨n, small, spelled⟩
    obtain ⟨type, rfl⟩ := exists_number small
    exact ⟨type, read_ok_iff.mpr spelled⟩
  · rintro ⟨type, found⟩
    exact ⟨type.number, type.number_le, read_ok_iff.mp found⟩

/-- A text that stands for no type is refused with itself. -/
theorem read_error_iff {text : String} {fault : Fault} :
    read text = .error fault ↔ ¬ Named text ∧ fault = .unknownTag text := by
  rw [named_iff, read]
  cases ofNumeral? text <;> simp [eq_comm]

end TypeTag

namespace Entry

/-- A word spells a column: its name and its text stand around the first equals sign, and the
text `nil` is no text. -/
def Spells (word : String) (e : Entry) : Prop :=
  ∃ text : String, word.toList = e.name.toList ++ '=' :: text.toList ∧ '=' ∉ e.name.toList ∧
    e.text = if text = "nil" then none else some text

/-- A word is read as a column of a type if it spells one of that type. -/
theorem read_ok_iff {type : TypeTag} {word : String} {e : Entry} :
    read type word = .ok e ↔ e.type = type ∧ Spells word e := by
  unfold read
  cases halves : Text.cut '=' word with
  | none =>
    have absent := Text.cut_eq_none_iff.mp halves
    refine ⟨fun found => by simp at found, ?_⟩
    rintro ⟨_, text, whole, _⟩
    exact absurd (by simp [whole]) absent
  | some halves' =>
    obtain ⟨name, text⟩ := halves'
    obtain ⟨whole, clean⟩ := Text.cut_eq_some_iff.mp halves
    constructor
    · intro found
      obtain rfl : ⟨name, type, if text = nullWord then none else some text⟩ = e := by
        simpa using found
      exact ⟨rfl, text, whole, clean, rfl⟩
    · rintro ⟨rfl, other, whole', clean', value⟩
      obtain ⟨rfl, rfl⟩ : e.name = name ∧ other = text := by
        have same := halves.symm.trans (Text.cut_eq_some_iff.mpr ⟨whole', clean'⟩)
        simpa [eq_comm] using same
      change Except.ok (⟨e.name, e.type, if other = nullWord then none else some other⟩ : Entry) = _
      exact congrArg (fun text => Except.ok (⟨e.name, e.type, text⟩ : Entry)) value.symm

/-- A word is read as some column if it has an equals sign. -/
theorem read_succeeds_iff {type : TypeTag} {word : String} :
    (∃ e, read type word = .ok e) ↔ '=' ∈ word.toList := by
  rw [read]
  cases halves : Text.cut '=' word with
  | none => simpa using Text.cut_eq_none_iff.mp halves
  | some _ =>
    obtain ⟨whole, _⟩ := Text.cut_eq_some_iff.mp halves
    simp [whole]

/-- A word is refused if it has no equals sign, with a fault that quotes it. -/
theorem read_error_iff {type : TypeTag} {word : String} {fault : Fault} :
    read type word = .error fault ↔ '=' ∉ word.toList ∧
      fault = .line ("token " ++ Text.quoted word ++ " is not a key=value pair") := by
  rw [← Text.cut_eq_none_iff, read]
  cases Text.cut '=' word <;> simp [eq_comm]

end Entry

end SeriesBench
