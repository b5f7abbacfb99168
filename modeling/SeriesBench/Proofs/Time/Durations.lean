import Mathlib.Algebra.Field.Rat
import Mathlib.Algebra.Order.Field.Basic
import Mathlib.Data.List.SplitBy
import Mathlib.Tactic.FieldSimp
import Mathlib.Tactic.Linarith
import Mathlib.Tactic.Ring
import SeriesBench.Proofs.Line.RoundTrip
import SeriesBench.Proofs.Line.Trimming
import SeriesBench.Proofs.Time.Reading
import SeriesBench.Time.SpanText

/-!
# Durations that are read again

A duration is a sequence of numbers with units: decimal numbers, with or without a point, each
followed by the name of its unit. What it amounts to is their sum. The grammar is given by a reader
that knows nothing of how spans are written, and all units of the grammar, also those that no span
is written in.

A span that is written and read again is the same, to the nanosecond. So no two spans are written
alike.
-/

namespace SeriesBench

namespace Duration

/-- The nanoseconds of the units of durations. A millionth of a second has three names, with the
letter u, with the micro sign and with the Greek letter. -/
def units : List (String × Nat) :=
  [("ns", 1), ("us", 1000), ("\u00b5s", 1000), ("\u03bcs", 1000), ("ms", 1000000),
    ("s", 1000000000), ("m", 60000000000), ("h", 3600000000000)]

/-- A number with a unit: the digits before the point, those behind it, if there is a point, and the
name of the unit. -/
structure Quantity where
  whole : List Char
  decimals : Option (List Char)
  unit : String
deriving Repr, DecidableEq

namespace Quantity

/-- The digits of a number, without the point. -/
def digits (q : Quantity) : List Char :=
  q.whole ++ q.decimals.getD []

/-- A number has at least one digit, before the point or behind it, and the unit is one of
durations. -/
def IsProper (q : Quantity) : Prop :=
  q.digits ≠ [] ∧ q.digits.all Char.isDigit = true ∧ q.unit ∈ units.map Prod.fst

instance (q : Quantity) : Decidable q.IsProper :=
  inferInstanceAs (Decidable (_ ∧ _))

/-- The number that stands before a unit. -/
def number (q : Quantity) : ℚ :=
  Nat.ofDigitChars 10 q.digits 0 / 10 ^ (q.decimals.getD []).length

/-- What a quantity amounts to in nanoseconds. -/
def nanos (q : Quantity) : ℚ :=
  q.number * (units.lookup q.unit).getD 0

end Quantity

/-- The characters of numbers. -/
def isNumeric (c : Char) : Bool :=
  c.isDigit || c == '.'

/-- The quantity that a number and what follows it make, if it is one. -/
def readQuantity (text : List Char) : Option Quantity :=
  let number := text.takeWhile isNumeric
  let unit := String.ofList (text.dropWhile isNumeric)
  let q : Quantity :=
    match Text.cutList '.' number with
    | none => ⟨number, none, unit⟩
    | some (whole, decimals) => ⟨whole, some decimals, unit⟩
  if q.IsProper then some q else none

/-- The quantities that a duration consists of. A quantity ends where a number begins behind the
name of a unit. There must be at least one. -/
def read (text : String) : Option (List Quantity) :=
  let pieces := text.toList.splitBy fun a b => isNumeric a || !isNumeric b
  if pieces.isEmpty then none else pieces.mapM readQuantity

namespace Quantity

/-- What stands behind the digits before the point. -/
def fraction (q : Quantity) : List Char :=
  match q.decimals with
  | none => []
  | some decimals => '.' :: decimals

/-- How a quantity is written. -/
def text (q : Quantity) : List Char :=
  q.whole ++ q.fraction ++ q.unit.toList

variable {q : Quantity}

/-- Digits and a point are the characters of numbers. -/
theorem isNumeric_of_mem (proper : q.IsProper) :
    ∀ c ∈ q.whole ++ q.fraction, isNumeric c = true := by
  have digits := List.all_eq_true.mp proper.2.1
  intro c member
  rw [isNumeric, Bool.or_eq_true, beq_iff_eq]
  cases decimals : q.decimals with
  | none =>
    rw [fraction, decimals, List.append_nil] at member
    exact .inl (digits c (List.mem_append_left _ member))
  | some behind =>
    rw [fraction, decimals, List.mem_append, List.mem_cons] at member
    rw [Quantity.digits, decimals, Option.getD_some] at digits
    rcases member with before | rfl | after
    · exact .inl (digits c (List.mem_append_left _ before))
    · exact .inr rfl
    · exact .inl (digits c (List.mem_append_right _ after))

/-- The name of a unit is not empty and has no character of a number. -/
theorem unit_named (proper : q.IsProper) :
    q.unit.toList ≠ [] ∧ ∀ c ∈ q.unit.toList, isNumeric c = false := by
  have known : ∀ name ∈ units.map Prod.fst,
      name.toList ≠ [] ∧ (name.toList.all fun c => !isNumeric c) = true := by decide
  simpa using known _ proper.2.2

/-- A quantity that is written is read again. -/
theorem readQuantity_text (proper : q.IsProper) : readQuantity q.text = some q := by
  have numeric := isNumeric_of_mem proper
  have ends : q.unit.toList.takeWhile isNumeric = [] ∧
      q.unit.toList.dropWhile isNumeric = q.unit.toList := by
    obtain ⟨_, unit⟩ := unit_named proper
    cases name : q.unit.toList with
    | nil => exact ⟨rfl, rfl⟩
    | cons c rest =>
      have letter : isNumeric c = false := unit c (by simp [name])
      simp [letter]
  have number : q.text.takeWhile isNumeric = q.whole ++ q.fraction := by
    rw [text, List.takeWhile_append_of_pos numeric, ends.1, List.append_nil]
  have rest : q.text.dropWhile isNumeric = q.unit.toList := by
    rw [text, List.dropWhile_append_of_pos numeric, ends.2]
  have pointless : '.' ∉ q.whole := by
    intro member
    exact absurd (List.all_eq_true.mp proper.2.1 '.' (List.mem_append_left _ member)) (by decide)
  rw [readQuantity, number, rest, String.ofList_toList]
  obtain ⟨whole, decimals, unit⟩ := q
  cases decimals with
  | none =>
    have uncut : Text.cutList '.' whole = none := by
      simpa [Text.cut] using
        Text.cut_eq_none_iff.mpr (show '.' ∉ (String.ofList whole).toList by simpa using pointless)
    simp [fraction, uncut, proper]
  | some decimals =>
    have cut : Text.cutList '.' (whole ++ '.' :: decimals) = some (whole, decimals) :=
      Text.cutList_eq_some_iff.mpr ⟨rfl, pointless⟩
    simp [fraction, cut, proper]

/-- A number has a character. -/
theorem numeral_ne_nil (proper : q.IsProper) : q.whole ++ q.fraction ≠ [] := by
  intro empty
  obtain ⟨whole, fraction⟩ := List.append_eq_nil_iff.mp empty
  refine proper.1 ?_
  cases decimals : q.decimals with
  | none => rw [digits, whole, decimals, Option.getD_none, List.append_nil]
  | some decimals' => simp [Quantity.fraction, decimals] at fraction

/-- A quantity begins with its number and ends with its unit. -/
theorem isNumeric_head (proper : q.IsProper) {rest : List Char} :
    ∀ c ∈ (q.text ++ rest).head?, isNumeric c = true := by
  intro c first
  rw [text, List.append_assoc, List.head?_append_of_ne_nil _ (numeral_ne_nil proper)] at first
  exact isNumeric_of_mem proper c (List.mem_of_head? first)

/-- A quantity ends with the name of its unit, so its last character is none of a number. -/
theorem isNumeric_getLast (proper : q.IsProper) : ∀ c ∈ q.text.getLast?, isNumeric c = false := by
  obtain ⟨named, letters⟩ := unit_named proper
  intro c last
  rw [text, List.getLast?_append_of_ne_nil _ named] at last
  exact letters c (List.mem_of_getLast? last)

/-- Where a quantity is cut no other one begins. -/
theorem isChain_text (proper : q.IsProper) :
    q.text.IsChain fun a b => (isNumeric a || !isNumeric b) = true := by
  have numeric := isNumeric_of_mem proper
  obtain ⟨_, letters⟩ := unit_named proper
  refine (List.pairwise_append.mpr ⟨?_, ?_, ?_⟩).isChain
  · exact List.pairwise_of_forall_mem_list fun a first b _ => by simp [numeric a first]
  · exact List.pairwise_of_forall_mem_list fun a _ b second => by simp [letters b second]
  · exact fun a first b _ => by simp [numeric a first]

/-- Quantities that are written one after the other are cut apart again. -/
theorem splitBy_texts {quantities : List Quantity} (proper : ∀ q ∈ quantities, q.IsProper) :
    (quantities.flatMap text).splitBy (fun a b => isNumeric a || !isNumeric b) =
      quantities.map text := by
  induction quantities with
  | nil => rfl
  | cons q rest ih =>
    obtain ⟨first, others⟩ := List.forall_mem_cons.mp proper
    have apart : ∀ a ∈ q.text.getLast?, ∀ b ∈ (rest.flatMap text).head?,
        (isNumeric a || !isNumeric b) = false := by
      intro a last b next
      cases rest with
      | nil => simp at next
      | cons r rest =>
        have letter := isNumeric_getLast first a last
        have digit := isNumeric_head (others r List.mem_cons_self) b next
        simp [letter, digit]
    have filled : q.text ≠ [] := by
      rw [text]
      exact List.append_ne_nil_of_left_ne_nil (numeral_ne_nil first) _
    rw [List.flatMap_cons, List.splitBy_append apart,
      List.splitBy_of_isChain filled (isChain_text first), ih others]
    rfl

/-- Quantities that are written one after the other are read again. They are told apart because a
number begins exactly where the name of the unit before it ends. -/
theorem read_texts {quantities : List Quantity} (filled : quantities ≠ [])
    (proper : ∀ q ∈ quantities, q.IsProper) :
    read (String.ofList (quantities.flatMap text)) = some quantities := by
  have each : (quantities.map text).mapM readQuantity = some quantities := by
    clear filled
    induction quantities with
    | nil => rfl
    | cons q rest ih =>
      obtain ⟨first, others⟩ := List.forall_mem_cons.mp proper
      rw [List.map_cons, List.mapM_cons, readQuantity_text first, ih others]
      rfl
  rw [read, String.toList_ofList, splitBy_texts proper]
  simpa [filled] using each

example : read "1h.5us" = some [⟨['1'], none, "h"⟩, ⟨[], some ['5'], "us"⟩] := by decide

/-- The digits of a fraction of a unit that has so many decimals, without the zeros at their end;
none if it is zero. -/
def decimalsOf (width part : Nat) : Option (List Char) :=
  if part = 0 then none
  else some (Text.dropTail (· == '0') (Text.padLeft width '0' (toString part)).toList)

/-- What is left of a field of digits without the zeros at its end. -/
structure Trimmed (width part : Nat) (digits : List Char) : Prop where
  filled : digits ≠ []
  last : digits.getLast? ≠ some '0'
  all : ∀ c ∈ digits, c.isDigit = true
  short : digits.length ≤ width
  value : Nat.ofDigitChars 10 digits 0 * 10 ^ (width - digits.length) = part

/-- Digits that do not all vanish are trimmed by dropping the zeros at their end. -/
theorem trimmed_dropTail {width part : Nat} {digits : List Char}
    (fills : Numeral.Fills width part digits) (positive : 0 < part) :
    Trimmed width part (Text.dropTail (· == '0') digits) := by
  obtain ⟨length, all, value⟩ := fills
  obtain ⟨tail, whole, dropped⟩ := Text.exists_dropTail (· == '0') digits
  have last : ∀ some : Text.dropTail (· == '0') digits ≠ [],
      ¬ ((Text.dropTail (· == '0') digits).getLast some == '0') = true :=
    List.rdropWhile_last_not _ digits
  obtain ⟨count, rfl⟩ : ∃ count, tail = List.replicate count '0' :=
    ⟨_, List.eq_replicate_of_mem fun c member => by simpa using dropped c member⟩
  generalize Text.dropTail (· == '0') digits = kept at whole last ⊢
  subst whole
  rw [Nat.ofDigitChars_append, Nat.ofDigitChars_replicate_zero, Nat.mul_comm] at value
  rw [List.length_append, List.length_replicate] at length
  have filled : kept ≠ [] := by
    rintro rfl
    simp at value
    omega
  constructor
  · exact filled
  · rw [List.getLast?_eq_some_getLast filled]
    simpa using last filled
  · exact fun c member => all c (List.mem_append_left _ member)
  · omega
  · rwa [← length, Nat.add_sub_cancel_left]

/-- A part of a unit has no digits if it is zero, and trimmed ones otherwise. -/
theorem decimalsOf_cases {width part : Nat} (fits : part < 10 ^ width) :
    part = 0 ∧ decimalsOf width part = none ∨
      ∃ digits, decimalsOf width part = some digits ∧ Trimmed width part digits := by
  rcases Nat.eq_zero_or_pos part with zero | positive
  · exact .inl ⟨zero, if_pos zero⟩
  · have wide : 0 < width := by
      by_contra none
      rw [Nat.eq_zero_of_not_pos none, Nat.pow_zero] at fits
      omega
    exact .inr ⟨_, if_neg positive.ne', trimmed_dropTail (Numeral.fills_padLeft wide fits) positive⟩

/-- A whole number of units and a part of one that has so many decimals. -/
def ofParts (whole width part : Nat) (unit : String) : Quantity :=
  ⟨(toString whole).toList, decimalsOf width part, unit⟩

variable {whole width part : Nat} {unit : String}

/-- A quantity is proper if its unit is one of durations. -/
theorem isProper_ofParts (fits : part < 10 ^ width) (named : unit ∈ units.map Prod.fst) :
    (ofParts whole width part unit).IsProper := by
  have digits : ∀ c ∈ (toString whole).toList, c.isDigit = true :=
    fun _ => Numeral.isDigit_of_mem_toString
  have filled : (toString whole).toList ≠ [] := by
    simp [Nat.toList_repr]
  refine ⟨?_, List.all_eq_true.mpr ?_, named⟩
  · exact List.append_ne_nil_of_left_ne_nil filled _
  · rw [Quantity.digits, ofParts]
    obtain ⟨_, none⟩ | ⟨decimals, found, trimmed⟩ := decimalsOf_cases fits
    · simpa [none] using digits
    · rw [found, Option.getD_some]
      exact List.forall_mem_append.mpr ⟨digits, trimmed.all⟩

/-- The number of a quantity is its whole part and the part of one behind the point. -/
theorem number_ofParts (fits : part < 10 ^ width) :
    (ofParts whole width part unit).number = whole + part / 10 ^ width := by
  have front : Nat.ofDigitChars 10 (toString whole).toList 0 = whole := by
    rw [Nat.toString_eq_repr, Nat.toList_repr, Nat.ofDigitChars_ten_toDigits]
  rw [number, digits, ofParts]
  obtain ⟨zero, none⟩ | ⟨decimals, found, trimmed⟩ := decimalsOf_cases fits
  · rw [none, Option.getD_none, List.append_nil, front, zero]
    simp
  · rw [found, Option.getD_some, Nat.ofDigitChars_append, front,
      Nat.ofDigitChars_eq_ofDigitChars_zero, ← trimmed.value]
    obtain ⟨count, rfl⟩ := Nat.exists_eq_add_of_le trimmed.short
    rw [Nat.add_sub_cancel_left, pow_add]
    push_cast
    field_simp

/-- What a quantity amounts to, given the size of its unit. -/
theorem nanos_ofParts (fits : part < 10 ^ width) {size : Nat}
    (known : units.lookup unit = some size) :
    (ofParts whole width part unit).nanos = (whole + part / 10 ^ width) * size := by
  rw [nanos, number_ofParts fits]
  simp [ofParts, known]

/-- The fraction of a quantity, if there is one, is not empty and does not end in zero. -/
def IsTrimmed (q : Quantity) : Prop :=
  ∀ digits, q.decimals = some digits → digits ≠ [] ∧ digits.getLast? ≠ some '0'

/-- A quantity has no zeros at the end of its decimals. -/
theorem isTrimmed_ofParts (fits : part < 10 ^ width) :
    (ofParts whole width part unit).IsTrimmed := by
  intro digits same
  obtain ⟨_, none⟩ | ⟨decimals, found, trimmed⟩ := decimalsOf_cases fits
  · simp [ofParts, none] at same
  · obtain rfl : decimals = digits := by simpa [ofParts, found] using same
    exact ⟨trimmed.filled, trimmed.last⟩

end Quantity

open Quantity

/-- The form in which spans are written: hours, minutes and seconds, where a larger unit comes with
the smaller ones, or a number in a smaller unit than these. Only the last number may have a
fraction, and those behind a larger unit do not fill it. -/
structure Canonical (quantities : List Quantity) : Prop where
  units : quantities.map Quantity.unit ∈
    [["h", "m", "s"], ["m", "s"], ["s"], ["ms"], ["\u00b5s"], ["ns"]]
  trimmed : ∀ q ∈ quantities, q.IsTrimmed
  whole : ∀ q ∈ quantities.dropLast, q.decimals = none
  below : ∀ q ∈ quantities.tail, q.number < 60

/-- A text consists of quantities in this form, and they amount to so many nanoseconds. -/
structure Tells (text : String) (total : Nat) (quantities : List Quantity) : Prop
    extends Canonical quantities where
  spelled : text = String.ofList (quantities.flatMap Quantity.text)
  proper : ∀ q ∈ quantities, q.IsProper
  sum : (quantities.map Quantity.nanos).sum = total

/-- What is written behind the point are the decimals of the quantity. -/
theorem toList_fraction (whole width part : Nat) (unit : String) :
    (Span.fraction width part).toList = (ofParts whole width part unit).fraction := by
  rw [Span.fraction, fraction, ofParts, decimalsOf]
  split
  · rfl
  · simp

/-- How a quantity of these parts is written. -/
theorem text_ofParts (whole width part : Nat) (unit : String) :
    (ofParts whole width part unit).text =
      (toString whole ++ Span.fraction width part ++ unit).toList := by
  rw [String.toList_append, String.toList_append, toList_fraction whole width part unit]
  rfl

/-- A number of nanoseconds in a unit of ten to `width` of them. -/
theorem tells_inUnit {width : Nat} {name : String}
    (unit : (name, width) ∈ [("s", 9), ("ms", 6), ("\u00b5s", 3), ("ns", 0)]) (total : Nat) :
    Tells (Span.inUnit width total name) total
      [ofParts (total / 10 ^ width) width (total % 10 ^ width) name] := by
  have fits : total % 10 ^ width < 10 ^ width := Nat.mod_lt _ (Nat.pow_pos (by decide))
  obtain ⟨alone, named, size⟩ : [name] ∈ [["s"], ["ms"], ["\u00b5s"], ["ns"]] ∧
      name ∈ units.map Prod.fst ∧ units.lookup name = some (10 ^ width) := by
    have each : ∀ p ∈ [("s", 9), ("ms", 6), ("\u00b5s", 3), ("ns", 0)],
        [p.1] ∈ [["s"], ["ms"], ["\u00b5s"], ["ns"]] ∧ p.1 ∈ units.map Prod.fst ∧
          units.lookup p.1 = some (10 ^ p.2) := by decide
    exact each _ unit
  constructor
  · constructor
    · exact List.mem_of_mem_drop (i := 2) alone
    · simpa using isTrimmed_ofParts fits
    · simp
    · simp
  · rw [List.flatMap_singleton, text_ofParts, String.ofList_toList]
    rfl
  · simpa using isProper_ofParts fits named
  · rw [List.map_singleton, List.sum_singleton, nanos_ofParts fits size]
    have parts : ((total / 10 ^ width * 10 ^ width + total % 10 ^ width : Nat) : ℚ) = total := by
      rw [Nat.div_add_mod']
    push_cast at parts ⊢
    rw [← parts]
    field_simp

/-- Hours, minutes and seconds. The first of them are left out as long as there are none. -/
def clock (hours minutes seconds nanos : Nat) : List Quantity :=
  let last := ofParts seconds 9 nanos "s"
  let middle := ofParts minutes 0 0 "m"
  if 0 < hours then [ofParts hours 0 0 "h", middle, last]
  else if 0 < minutes then [middle, last]
  else [last]

section Clock

variable {hours minutes seconds nanos : Nat}

/-- Something holds of all the quantities of a clock if it holds of each that there can be. -/
theorem forall_mem_clock {P : Quantity → Prop} (first : P (ofParts hours 0 0 "h"))
    (middle : P (ofParts minutes 0 0 "m")) (last : P (ofParts seconds 9 nanos "s")) :
    ∀ q ∈ clock hours minutes seconds nanos, P q := by
  unfold clock
  split_ifs <;> simp [first, middle, last]

/-- Hours, minutes and seconds without carries make a canonical sequence. -/
theorem canonical_clock (least : minutes < 60) (less : seconds < 60) (fits : nanos < 10 ^ 9) :
    Canonical (clock hours minutes seconds nanos) := by
  have whole (n : Nat) (unit : String) : (ofParts n 0 0 unit).decimals = none := rfl
  have middle : (ofParts minutes 0 0 "m").number < 60 := by
    rw [number_ofParts (by decide)]
    simpa using least
  have last : (ofParts seconds 9 nanos "s").number < 60 := by
    have whole : (seconds : ℚ) + 1 ≤ 60 := by exact_mod_cast less
    have part : (nanos : ℚ) / 10 ^ 9 < 1 := by
      rw [div_lt_one (by positivity)]
      exact_mod_cast fits
    rw [number_ofParts fits]
    linarith
  constructor
  · unfold clock
    split_ifs <;> simp [ofParts]
  · exact forall_mem_clock (isTrimmed_ofParts (by decide)) (isTrimmed_ofParts (by decide))
      (isTrimmed_ofParts fits)
  · unfold clock
    split_ifs <;> simp [whole]
  · unfold clock
    split_ifs <;> simp [middle, last]

/-- How hours, minutes and seconds are written, one after the other. -/
theorem flatMap_clock :
    (clock hours minutes seconds nanos).flatMap Quantity.text =
      ((if 0 < hours then s!"{hours}h" else "") ++
        (if 0 < hours ∨ 0 < minutes then s!"{minutes}m" else "") ++
        toString seconds ++ Span.fraction 9 nanos ++ "s").toList := by
  have whole : Span.fraction 0 0 = "" := rfl
  have text (s : String) : toString s = s := rfl
  by_cases long : 0 < hours
  · simp [clock, long, text_ofParts, whole, text]
  · by_cases short : 0 < minutes
    · simp [clock, long, short, text_ofParts, whole, text]
    · simp [clock, long, short, text_ofParts]

/-- What hours, minutes, seconds and nanoseconds amount to in all. -/
theorem sum_clock (fits : nanos < 10 ^ 9) :
    ((clock hours minutes seconds nanos).map Quantity.nanos).sum =
      ((hours * 60 + minutes) * 60 + seconds) * 10 ^ 9 + nanos := by
  have first : (ofParts hours 0 0 "h").nanos = hours * 60 * 60 * 10 ^ 9 := by
    rw [nanos_ofParts (by decide) (show units.lookup "h" = some 3600000000000 by rfl)]
    push_cast
    ring
  have middle : (ofParts minutes 0 0 "m").nanos = minutes * 60 * 10 ^ 9 := by
    rw [nanos_ofParts (by decide) (show units.lookup "m" = some 60000000000 by rfl)]
    push_cast
    ring
  have last : (ofParts seconds 9 nanos "s").nanos = seconds * 10 ^ 9 + nanos := by
    rw [nanos_ofParts fits (show units.lookup "s" = some 1000000000 by rfl)]
    push_cast
    field_simp
    ring
  unfold clock
  split_ifs with long short
  · simp only [List.map_cons, List.map_nil, List.sum_cons, List.sum_nil, first, middle, last]
    ring
  · obtain rfl := Nat.eq_zero_of_not_pos long
    simp only [List.map_cons, List.map_nil, List.sum_cons, List.sum_nil, middle, last]
    push_cast
    ring
  · obtain rfl := Nat.eq_zero_of_not_pos long
    obtain rfl := Nat.eq_zero_of_not_pos short
    simp only [List.map_cons, List.map_nil, List.sum_cons, List.sum_nil, last]
    push_cast
    ring

end Clock

variable {s : Span}

/-- What is written in hours, minutes and seconds tells the span. -/
theorem tells_clockText (ordinary : s.nanos < 10 ^ 9) :
    Tells s.clockText s.totalNanos
      (clock (s.seconds / 3600) (s.seconds / 60 % 60) (s.seconds % 60) s.nanos) := by
  have parts : (s.seconds / 3600 * 60 + s.seconds / 60 % 60) * 60 + s.seconds % 60 = s.seconds := by
    omega
  have named : "h" ∈ units.map Prod.fst ∧ "m" ∈ units.map Prod.fst ∧ "s" ∈ units.map Prod.fst := by
    decide
  constructor
  · exact canonical_clock (Nat.mod_lt _ (by decide)) (Nat.mod_lt _ (by decide)) ordinary
  · rw [flatMap_clock, String.ofList_toList]
    rfl
  · exact forall_mem_clock (isProper_ofParts (by decide) named.1)
      (isProper_ofParts (by decide) named.2.1) (isProper_ofParts ordinary named.2.2)
  · rw [sum_clock ordinary, Span.totalNanos]
    exact_mod_cast congrArg (· * 10 ^ 9 + s.nanos) parts

/-- What a span's text consists of, by the largest unit that it reaches. -/
theorem exists_tells (ordinary : s.nanos < 10 ^ 9) :
    ∃ quantities, Tells s.text s.totalNanos quantities := by
  rw [Span.text]
  split_ifs with none
  · rw [none]
    exact ⟨_, tells_inUnit (by decide : ("s", 9) ∈ _) 0⟩
  · exact ⟨_, tells_inUnit (by decide : ("ns", 0) ∈ _) _⟩
  · exact ⟨_, tells_inUnit (by decide : ("µs", 3) ∈ _) _⟩
  · exact ⟨_, tells_inUnit (by decide : ("ms", 6) ∈ _) _⟩
  · exact ⟨_, tells_clockText ordinary⟩

/-- What a text tells is what is read from it. -/
theorem Tells.read {text : String} {total : Nat} {quantities : List Quantity}
    (tells : Tells text total quantities) : read text = some quantities := by
  have filled : quantities ≠ [] := by
    rintro rfl
    exact absurd tells.units (by decide)
  rw [tells.spelled, read_texts filled tells.proper]

end Duration

open Duration

/-- A span is written as a duration that amounts to it, to the nanosecond: in hours, minutes and
seconds or in one smaller unit, minutes and seconds that follow a larger unit below 60, and no
fraction that is empty or ends in zero. No two spans are written alike.

Proof: every span is written as quantities that tell it, by cases whether it has whole seconds, and
quantities that were written are read again. So the text tells the quantities, and they tell the
span. -/
theorem spans_are_written_exactly {s : Span} (ordinary : s.nanos < Instant.perSecond) :
    (∃ quantities, Duration.read s.text = some quantities ∧ Canonical quantities ∧
      (quantities.map Quantity.nanos).sum = s.totalNanos) ∧
    ∀ other : Span, other.nanos < Instant.perSecond → other.text = s.text → other = s := by
  obtain ⟨quantities, tells⟩ := exists_tells ordinary
  refine ⟨⟨quantities, tells.read, tells.toCanonical, tells.sum⟩, fun other regular same => ?_⟩
  obtain ⟨quantities', tells'⟩ := exists_tells regular
  obtain rfl : quantities' = quantities := by
    have read := tells'.read
    rw [same, tells.read] at read
    exact (Option.some.inj read).symm
  have total : other.totalNanos = s.totalNanos := by
    exact_mod_cast tells'.sum.symm.trans tells.sum
  obtain ⟨seconds, nanos⟩ := s
  obtain ⟨seconds', nanos'⟩ := other
  simp only [Span.totalNanos, Instant.perSecond] at total ordinary regular
  obtain ⟨rfl, rfl⟩ : seconds' = seconds ∧ nanos' = nanos := by omega
  rfl

/-- An hour, a minute and one and a half seconds, as they are written and as they are read again. -/
theorem an_hour_is_written_exactly :
    (⟨3661, 500000000⟩ : Span).text = "1h1m1.5s" ∧
      ∃ quantities, Duration.read "1h1m1.5s" = some quantities ∧ Canonical quantities ∧
        (quantities.map Quantity.nanos).sum = 3661500000000 := by
  have text : (⟨3661, 500000000⟩ : Span).text = "1h1m1.5s" := by decide
  obtain ⟨quantities, read, canonical, sum⟩ :=
    (spans_are_written_exactly (s := ⟨3661, 500000000⟩) (by decide)).1
  exact ⟨text, quantities, text ▸ read, canonical, sum.trans (by norm_num [Span.totalNanos])⟩

end SeriesBench
