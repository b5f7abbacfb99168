import Mathlib.Data.List.Forall2
import SeriesBench.Proofs.Line.Words

/-!
# The grammar of lines

Which lines decode, what point each of them spells, and with which fault each other line is
refused. A line may have several defects at once; decoding reports the first in the order in
which it looks: too few words, a mark that names no type, a number of marks that is not that
of the words between, a word that is no pair. The grammar is said without the decoder, in
terms of the words of a line and the parts of its last word.
-/

namespace SeriesBench

namespace Line

/-- The words of a line between its time and its last word. -/
def middle (line : String) : List String :=
  ((Text.words line).drop 2).dropLast

/-- The parts of a line's last word between its commas. -/
def marks (line : String) : List String :=
  Text.parts ',' ((Text.words line).getLastD "")

/-- The grammar: at least one word between the time and the last word, as many marks as such
words, each mark the numeral of a type and each such word a pair. -/
structure WellFormed (line : String) : Prop where
  enough : 4 ≤ (Text.words line).length
  agree : (marks line).length = (Text.words line).length - 3
  types : ∀ mark ∈ marks line, TypeTag.Named mark
  pairs : ∀ word ∈ middle line, '=' ∈ word.toList

/-- What a line spells: the table, the time, and a column for each word between the time and
the last word, of the type whose numeral is the mark in its place. -/
structure Spells (line : String) (p : Point) : Prop where
  ends : ∃ last, Text.words line = p.measurement :: p.timestamp :: (middle line ++ [last])
  untagged : p.tags = []
  pairs : List.Forall₂ Entry.Spells (middle line) p.fields
  types : List.Forall₂ (fun mark (e : Entry) => Numeral.Spells mark e.type.number) (marks line)
    p.fields

/-- Why a line is refused. A line may have several defects: each constructor excludes those of
the constructors before it, so a line has one fault at most. -/
inductive Refused (line : String) : Fault → Prop where
  | short (few : (Text.words line).length < 3) :
    Refused line (.line s!"expected at least 3 tokens, found {(Text.words line).length}")
  | mark {before after : List String} {bad : String} (enough : 3 ≤ (Text.words line).length)
    (found : marks line = before ++ bad :: after) (good : ∀ mark ∈ before, TypeTag.Named mark)
    (unnamed : ¬ TypeTag.Named bad) : Refused line (.unknownTag bad)
  | count (enough : 3 ≤ (Text.words line).length)
    (types : ∀ mark ∈ marks line, TypeTag.Named mark)
    (differ : (marks line).length ≠ (Text.words line).length - 3) :
    Refused line (.tagCount (marks line).length ((Text.words line).length - 3))
  | pair {before after : List String} {bad : String} (enough : 3 ≤ (Text.words line).length)
    (types : ∀ mark ∈ marks line, TypeTag.Named mark)
    (agree : (marks line).length = (Text.words line).length - 3)
    (found : middle line = before ++ bad :: after) (good : ∀ word ∈ before, '=' ∈ word.toList)
    (uncut : '=' ∉ bad.toList) :
    Refused line (.line ("token " ++ Text.quoted bad ++ " is not a key=value pair"))

/-- A line has fewer than three words, or its middle lies between its first two words and its
last. -/
theorem short_or_split (line : String) :
    (Text.words line).length < 3 ∨ ∃ measurement timestamp last,
      Text.words line = measurement :: timestamp :: (middle line ++ [last]) ∧
        marks line = Text.parts ',' last := by
  unfold middle marks
  match Text.words line with
  | [] | [_] | [_, _] => exact .inl (by simp)
  | measurement :: timestamp :: first :: rest =>
    refine .inr ⟨measurement, timestamp, (first :: rest).getLast (by simp), ?_, ?_⟩
    · simp [List.dropLast_append_getLast]
    · simp [List.getLast?_eq_some_getLast]

/-- Words with a middle decode as their middle and last word do. -/
theorem decodeWords_split (measurement timestamp last : String) (pairs : List String) :
    decodeWords (measurement :: timestamp :: (pairs ++ [last])) =
      (decodeColumns pairs last).map fun columns => ⟨measurement, timestamp, [], columns⟩ := by
  cases pairs with
  | nil => rfl
  | cons first rest =>
    have front : (first :: (rest ++ [last])).dropLast = first :: rest := by
      rw [← List.cons_append, List.dropLast_concat]
    simp [decodeWords, front]

/-- A line of less than three words is refused for that. -/
theorem decodeWords_short {words : List String} (few : words.length < 3) :
    decodeWords words = .error (.line s!"expected at least 3 tokens, found {words.length}") := by
  match words with
  | [] | [_] | [_, _] => rfl
  | _ :: _ :: _ :: _ => exact absurd few (by simp)

/-- Between the time of a line and its last word there are all but three of its words. -/
theorem length_middle (line : String) : (middle line).length = (Text.words line).length - 3 := by
  simp only [middle, List.length_dropLast, List.length_drop]
  omega

/-- Each element of a list has the partner that another list gives it. -/
theorem exists_of_forall₂ {related : α → β → Prop} {xs : List α} {ys : List β} {x : α}
    (all : List.Forall₂ related xs ys) (member : x ∈ xs) : ∃ y ∈ ys, related x y := by
  induction all with
  | nil => simp at member
  | cons here _ ih =>
    rcases List.mem_cons.mp member with rfl | later
    · exact ⟨_, List.mem_cons_self, here⟩
    · obtain ⟨y, inOthers, there⟩ := ih later
      exact ⟨y, List.mem_cons_of_mem _ inOthers, there⟩

/-- Computing with each element of a list succeeds when each computation does, and gives what
each of them gives. -/
theorem mapM_ok_iff {f : α → Except ε β} {xs : List α} {ys : List β} :
    xs.mapM f = .ok ys ↔ List.Forall₂ (fun x y => f x = .ok y) xs ys := by
  induction xs generalizing ys with
  | nil => cases ys <;> simp [pure, Except.pure]
  | cons x rest ih =>
    rw [List.mapM_cons]
    cases first : f x with
    | error fault => cases ys <;> simp [first, bind, Except.bind]
    | ok y =>
      cases others : rest.mapM f with
      | error fault => cases ys <;> simp [first, ← ih, others, bind, Except.bind]
      | ok ys' => cases ys <;> simp [first, ← ih, others, bind, Except.bind, pure, Except.pure]

/-- Computing with each element of a list fails with the fault of the first element that has
one. -/
theorem mapM_error_iff {f : α → Except ε β} {xs : List α} {fault : ε} :
    xs.mapM f = .error fault ↔
      ∃ before x after, xs = before ++ x :: after ∧ (∀ y ∈ before, ∃ v, f y = .ok v) ∧
        f x = .error fault := by
  induction xs with
  | nil => simp [pure, Except.pure]
  | cons x rest ih =>
    rw [List.mapM_cons]
    constructor
    · intro failed
      cases first : f x with
      | error found =>
        obtain rfl : found = fault := by simpa [first, bind, Except.bind] using failed
        exact ⟨[], x, rest, rfl, by simp, first⟩
      | ok y =>
        have later : rest.mapM f = .error fault := by
          cases others : rest.mapM f with
          | error found => simpa [first, others, bind, Except.bind] using failed
          | ok ys => simp [first, others, bind, Except.bind, pure, Except.pure] at failed
        obtain ⟨before, bad, after, rfl, good, isBad⟩ := ih.mp later
        refine ⟨x :: before, bad, after, rfl, ?_, isBad⟩
        exact List.forall_mem_cons.mpr ⟨⟨y, first⟩, good⟩
    · rintro ⟨before, bad, after, whole, good, isBad⟩
      cases before with
      | nil =>
        obtain ⟨rfl, rfl⟩ := List.cons.inj whole
        simp [isBad, bind, Except.bind]
      | cons y before =>
        obtain ⟨rfl, same⟩ := List.cons.inj whole
        obtain ⟨⟨v, first⟩, good⟩ := List.forall_mem_cons.mp good
        have later := ih.mpr ⟨before, bad, after, same, good, isBad⟩
        simp [first, later, bind, Except.bind]

/-- Computing with each element of a list gives a list of the same length. -/
theorem length_of_mapM_ok {f : α → Except ε β} {xs : List α} {ys : List β}
    (computed : xs.mapM f = .ok ys) : ys.length = xs.length :=
  (mapM_ok_iff.mp computed).length_eq.symm

/-- Computing with each element of a list succeeds exactly when each computation does. -/
theorem mapM_succeeds_iff {f : α → Except ε β} {xs : List α} :
    (∃ ys, xs.mapM f = .ok ys) ↔ ∀ x ∈ xs, ∃ y, f x = .ok y := by
  constructor
  · rintro ⟨ys, computed⟩ x member
    obtain ⟨y, -, fine⟩ := exists_of_forall₂ (mapM_ok_iff.mp computed) member
    exact ⟨y, fine⟩
  · intro each
    cases computed : xs.mapM f with
    | ok ys => exact ⟨ys, rfl⟩
    | error fault =>
      obtain ⟨before, x, after, rfl, -, failed⟩ := mapM_error_iff.mp computed
      obtain ⟨y, fine⟩ := each x (by simp)
      exact absurd (fine.symm.trans failed) (by simp)

/-- Types and words of the same number are read pair by pair. -/
theorem read_zip_ok_iff {types : List TypeTag} {pairs : List String} {columns : List Entry}
    (agree : types.length = pairs.length) :
    (types.zip pairs).mapM (fun (type, pair) => Entry.read type pair) = .ok columns ↔
      columns.map (·.type) = types ∧ List.Forall₂ Entry.Spells pairs columns := by
  rw [mapM_ok_iff]
  induction types generalizing pairs columns with
  | nil =>
    obtain rfl : pairs = [] := List.length_eq_zero_iff.mp agree.symm
    cases columns <;> simp
  | cons type types ih =>
    cases pairs with
    | nil => simp at agree
    | cons pair pairs =>
      cases columns with
      | nil => simp
      | cons e columns =>
        have rest := @ih pairs columns (Nat.succ.inj agree)
        rw [List.zip_cons_cons, List.forall₂_cons, rest, List.forall₂_cons, List.map_cons,
          List.cons.injEq, Entry.read_ok_iff, and_and_and_comm]

/-- Columns decode to those that the words spell and the marks give their types to. -/
theorem decodeColumns_ok_iff {pairs : List String} {last : String} {columns : List Entry} :
    decodeColumns pairs last = .ok columns ↔
      List.Forall₂ Entry.Spells pairs columns ∧
        List.Forall₂ (fun mark (e : Entry) => Numeral.Spells mark e.type.number)
          (Text.parts ',' last) columns := by
  have marked (types : List TypeTag) : (Text.parts ',' last).mapM TypeTag.read = .ok types ↔
      List.Forall₂ (fun mark (type : TypeTag) => Numeral.Spells mark type.number)
        (Text.parts ',' last) types := by
    simp only [mapM_ok_iff, TypeTag.read_ok_iff]
  constructor
  · intro decoded
    cases types : (Text.parts ',' last).mapM TypeTag.read with
    | error fault => simp [decodeColumns, types, bind, Except.bind] at decoded
    | ok found =>
      simp only [decodeColumns, types, bind, Except.bind] at decoded
      split at decoded
      · rename_i agree
        obtain ⟨rfl, spelled⟩ := (read_zip_ok_iff agree).mp decoded
        exact ⟨spelled, by simpa using (marked _).mp types⟩
      · contradiction
  · rintro ⟨spelled, numbered⟩
    have types := (marked (columns.map (·.type))).mpr (by simpa using numbered)
    have agree : (columns.map (·.type)).length = pairs.length := by
      rw [List.length_map, spelled.length_eq]
    simp only [decodeColumns, types, bind, Except.bind, agree, if_true]
    exact (read_zip_ok_iff agree).mpr ⟨rfl, spelled⟩

/-- Pairs of a type and a word fail with the first word that has no equals sign. -/
theorem read_pairs_error_iff {pairs : List (TypeTag × String)} {fault : Fault} :
    pairs.mapM (fun (type, word) => Entry.read type word) = .error fault ↔
      ∃ before bad after, pairs.map Prod.snd = before ++ bad :: after ∧
        (∀ word ∈ before, '=' ∈ word.toList) ∧ '=' ∉ bad.toList ∧
        fault = .line ("token " ++ Text.quoted bad ++ " is not a key=value pair") := by
  rw [mapM_error_iff]
  constructor
  · rintro ⟨before, ⟨type, bad⟩, after, rfl, good, failed⟩
    refine ⟨before.map Prod.snd, bad, after.map Prod.snd, by simp, ?_,
      Entry.read_error_iff.mp failed⟩
    intro word member
    obtain ⟨pair, inBefore, rfl⟩ := List.mem_map.mp member
    exact Entry.read_succeeds_iff.mp (good pair inBefore)
  · rintro ⟨_, _, _, whole, good, uncut, rfl⟩
    obtain ⟨before, tail, rfl, rfl, rest⟩ := List.map_eq_append_iff.mp whole
    obtain ⟨⟨type, bad⟩, after, rfl, rfl, rfl⟩ := List.map_eq_cons_iff.mp rest
    refine ⟨before, (type, bad), after, rfl, ?_, Entry.read_error_iff.mpr ⟨uncut, rfl⟩⟩
    intro pair inBefore
    exact Entry.read_succeeds_iff.mpr (good pair.2 (List.mem_map_of_mem inBefore))

/-- The marks of a line are read when each of them names a type. -/
theorem marks_read_iff {marks : List String} :
    (∃ types, marks.mapM TypeTag.read = .ok types) ↔ ∀ mark ∈ marks, TypeTag.Named mark := by
  simp only [mapM_succeeds_iff, TypeTag.named_iff]

/-- The types of a line are refused for the first that is none. -/
theorem marks_error_iff {marks : List String} {fault : Fault} :
    marks.mapM TypeTag.read = .error fault ↔
      ∃ before bad after, marks = before ++ bad :: after ∧
        (∀ mark ∈ before, TypeTag.Named mark) ∧ ¬ TypeTag.Named bad ∧ fault = .unknownTag bad := by
  simp only [mapM_error_iff, TypeTag.read_error_iff, TypeTag.named_iff]

/-- Columns fail by the first mark that names no type, else by the numbers of marks and words,
else by the first word that is no pair. -/
theorem decodeColumns_error_iff {pairs : List String} {last : String} {fault : Fault} :
    decodeColumns pairs last = .error fault ↔
      (∃ before bad after, Text.parts ',' last = before ++ bad :: after ∧
        (∀ mark ∈ before, TypeTag.Named mark) ∧ ¬ TypeTag.Named bad ∧ fault = .unknownTag bad) ∨
      ((∀ mark ∈ Text.parts ',' last, TypeTag.Named mark) ∧
        (((Text.parts ',' last).length ≠ pairs.length ∧
            fault = .tagCount (Text.parts ',' last).length pairs.length) ∨
          ((Text.parts ',' last).length = pairs.length ∧
            ∃ before bad after, pairs = before ++ bad :: after ∧
              (∀ word ∈ before, '=' ∈ word.toList) ∧ '=' ∉ bad.toList ∧
              fault = .line ("token " ++ Text.quoted bad ++ " is not a key=value pair")))) := by
  rw [← marks_error_iff, ← marks_read_iff, decodeColumns]
  cases types : (Text.parts ',' last).mapM TypeTag.read with
  | error found => simp [bind, Except.bind]
  | ok found =>
    have length := length_of_mapM_ok types
    simp only [bind, Except.bind, ← length, reduceCtorEq, false_or, Except.ok.injEq, exists_eq',
      true_and]
    split
    · rename_i agree
      have seconds : (found.zip pairs).map Prod.snd = pairs :=
        List.map_snd_zip (Nat.le_of_eq agree.symm)
      rw [read_pairs_error_iff, seconds]
      simp [agree]
    · rename_i differ
      simp [differ, eq_comm]

/-- A line decodes to the point that it spells, and only to that. -/
theorem decode_ok_iff {line : String} {p : Point} : decode line = .ok p ↔ Spells line p := by
  rw [decode]
  rcases short_or_split line with few | ⟨measurement, timestamp, last, split, marked⟩
  · rw [decodeWords_short few]
    constructor
    · intro decoded
      contradiction
    · rintro ⟨⟨last, split⟩, -, -, -⟩
      exact absurd few (by simp [split])
  · rw [split, decodeWords_split]
    constructor
    · intro decoded
      cases columns : decodeColumns (middle line) last with
      | error fault => simp [columns, Except.map] at decoded
      | ok found =>
        obtain rfl : ⟨measurement, timestamp, [], found⟩ = p := by
          simpa [columns, Except.map] using decoded
        obtain ⟨pairs, types⟩ := decodeColumns_ok_iff.mp columns
        exact ⟨⟨last, split⟩, rfl, pairs, marked ▸ types⟩
    · rintro ⟨⟨last', split'⟩, untagged, pairs, types⟩
      obtain ⟨rfl, rfl, -⟩ : measurement = p.measurement ∧ timestamp = p.timestamp ∧ last = last' :=
        by simpa [split'] using split.symm
      rw [marked] at types
      rw [decodeColumns_ok_iff.mpr ⟨pairs, types⟩]
      cases p
      simp_all [Except.map]

/-- A line fails with the fault that it is refused for, and only with that. -/
theorem decode_error_iff {line : String} {fault : Fault} :
    decode line = .error fault ↔ Refused line fault := by
  rw [decode]
  rcases short_or_split line with few | ⟨measurement, timestamp, last, split, marked⟩
  · rw [decodeWords_short few]
    constructor
    · intro failed
      obtain rfl := Except.error.inj failed
      exact .short few
    · intro refused
      cases refused with
      | short _ => rfl
      | mark enough | count enough | pair enough => exact absurd few (by omega)
  · have enough : 3 ≤ (Text.words line).length := by simp [split]
    have failed : decodeWords (Text.words line) = .error fault ↔
        decodeColumns (middle line) last = .error fault := by
      rw [split, decodeWords_split]
      cases decodeColumns (middle line) last <;> simp [Except.map]
    rw [failed, decodeColumns_error_iff, ← marked, length_middle]
    constructor
    · rintro (⟨before, bad, after, found, good, unnamed, rfl⟩ | ⟨types, ⟨differ, rfl⟩ |
        ⟨agree, before, bad, after, found, good, uncut, rfl⟩⟩)
      · exact .mark enough found good unnamed
      · exact .count enough types differ
      · exact .pair enough types agree found good uncut
    · intro refused
      cases refused with
      | short few => exact absurd few (by omega)
      | mark _ found good unnamed => exact .inl ⟨_, _, _, found, good, unnamed, rfl⟩
      | count _ types differ => exact .inr ⟨types, .inl ⟨differ, rfl⟩⟩
      | pair _ types agree found good uncut =>
        exact .inr ⟨types, .inr ⟨agree, _, _, _, found, good, uncut, rfl⟩⟩

/-- The point that a line spells has columns. -/
theorem Spells.columns_ne_nil {line : String} {p : Point} (spells : Spells line p) :
    p.columns ≠ [] := by
  intro none
  have fields : p.fields = [] := (List.append_eq_nil_iff.mp none).2
  have length := spells.types.length_eq
  simp [fields, marks, Text.parts, List.splitOn_ne_nil] at length

/-- A refusal is a fault in the form of a line, which makes the line count as dropped. -/
theorem Refused.isFormat {line : String} {fault : Fault} (refused : Refused line fault) :
    fault.isFormat = true := by
  cases refused <;> rfl

/-- The lines that decode are those of the grammar. -/
theorem decodes_iff_wellFormed {line : String} :
    (∃ p, decode line = .ok p) ↔ WellFormed line := by
  constructor
  · rintro ⟨p, decoded⟩
    have spells := decode_ok_iff.mp decoded
    have fields : p.fields.length ≠ 0 := by
      simpa [spells.untagged, Point.columns] using spells.columns_ne_nil
    have marked := spells.types.length_eq
    have paired := spells.pairs.length_eq
    have middle := length_middle line
    constructor
    · omega
    · omega
    · intro mark member
      obtain ⟨e, -, numeral⟩ := exists_of_forall₂ spells.types member
      exact ⟨e.type.number, e.type.number_le, numeral⟩
    · intro word member
      obtain ⟨e, -, text, whole, -⟩ := exists_of_forall₂ spells.pairs member
      simp [whole]
  · intro wellFormed
    cases decoded : decode line with
    | ok p => exact ⟨p, rfl⟩
    | error fault =>
      have enough := wellFormed.enough
      cases decode_error_iff.mp decoded with
      | short few => omega
      | mark _ found _ unnamed => exact absurd (wellFormed.types _ (by simp [found])) unnamed
      | count _ _ differ => exact absurd wellFormed.agree differ
      | pair _ _ _ found _ uncut => exact absurd (wellFormed.pairs _ (by simp [found])) uncut

/-- Decoding accepts exactly the grammar. A line of the grammar gives the one point that it
spells, which has columns; every other line is refused with the first of its defects, and that
is always a fault in the form of a line.

Proof: for each of the functions that read a line, a word, a mark or a pair there is one lemma that
says exactly when it succeeds and one that says when it fails, and those for a line are put together
from those for its parts. -/
theorem decode_is_exact (line : String) :
    ((∃ p, decode line = .ok p) ↔ WellFormed line) ∧
      (∀ p, decode line = .ok p ↔ Spells line p) ∧
      (∀ fault, decode line = .error fault ↔ Refused line fault) ∧
      (∀ p, decode line = .ok p → p.columns ≠ []) ∧
      (∀ fault, decode line = .error fault → fault.isFormat = true) :=
  ⟨decodes_iff_wellFormed, fun _ => decode_ok_iff, fun _ => decode_error_iff,
    fun _ decoded => (decode_ok_iff.mp decoded).columns_ne_nil,
    fun _ failed => (decode_error_iff.mp failed).isFormat⟩

end Line
end SeriesBench
