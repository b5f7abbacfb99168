import Mathlib.Data.List.Basic
import SeriesBench.Proofs.Scan.Lines

/-!
# What a scan finds

Every line of an input is one of three things, whichever form of items is asked for: it is
blank and passed over, it is dropped and counted, or it is an item. Asking for the next item
takes lines from the front only, counts each of them, and never changes what the scan will
have counted and found when its lines are used up.

A line that describes a point gives that point in either form: decoded while scanning, or as
a line that the worker decodes.
-/

namespace SeriesBench

namespace Verdict

/-- What is taken, if the verdict is to take it. -/
def taken? : Verdict α → Option α
  | take unit => some unit
  | skip | drop => none

/-- Whether the verdict is to drop the line. -/
def isDrop : Verdict α → Bool
  | drop => true
  | take _ | skip => false

end Verdict

namespace Item

/-- The point of an item, if it decodes to one. -/
def decoded (item : Item) : Option Point :=
  match item.point? with
  | .ok p => p
  | .error _ => none

/-- Whether an item does not decode. -/
def undecodable (item : Item) : Bool :=
  match item.point? with
  | .ok _ => false
  | .error _ => true

/-- Whether an item is a point without columns, which is passed over. -/
def columnless (item : Item) : Bool :=
  match item.point? with
  | .ok (some _) | .error _ => false
  | .ok none => true

/-- Every item decodes to a point, does not decode, or is passed over. -/
theorem length_eq_decoded (items : List Item) :
    items.length = (items.filterMap decoded).length + items.countP undecodable +
      items.countP columnless := by
  induction items with
  | nil => rfl
  | cons item rest ih =>
    rcases given : item.point? with fault | none | p <;>
      simp [decoded, undecodable, columnless, given] <;> omega

/-- An item as scans give them: it decodes to a point or does not decode, and the table of its
point is the one that it is routed by, whose name holds no blank. -/
structure Proper (item : Item) : Prop where
  told : item.undecodable = !item.decoded.isSome
  routed : ∀ p, item.decoded = some p → item.measurement = p.measurement
  plain : ∀ p, item.decoded = some p →
    ∀ c ∈ p.measurement.toList, Text.isAsciiBlank c = false

/-- A point that was read from a line is a proper item. -/
theorem proper_point {line : String} {p : Point} (read : Line.decode line = .ok p) :
    (point p).Proper := by
  have same : (point p).decoded = some p := by
    simp [decoded, point?, nonEmpty, (Line.decode_shape read).2.2]
  refine ⟨by rw [same]; rfl, ?_, ?_⟩ <;> intro q decodes <;>
    obtain rfl : p = q := Option.some.inj (same.symm.trans decodes)
  · rfl
  · exact Line.decode_plain read

/-- A line is a proper item, whether it decodes or not. -/
theorem proper_line (text : String) : (line text).Proper := by
  rcases point?_line text with ⟨p, read, point⟩ | ⟨fault, _, point⟩
  · have same : (line text).decoded = some p := by simp [decoded, point]
    refine ⟨by simp [same, undecodable, point], ?_, ?_⟩ <;> intro q decodes <;>
      obtain rfl : p = q := Option.some.inj (same.symm.trans decodes)
    · exact measurement_line read
    · exact Line.decode_plain read
  · have none : (line text).decoded = none := by simp [decoded, point]
    exact ⟨by simp [none, undecodable, point], by simp [none], by simp [none]⟩

end Item

namespace Scanner

/-- The lines up to the next pause or failure. -/
def linesAhead : List Reading → List (List UInt8)
  | .line bytes :: rest => bytes :: linesAhead rest
  | _ => []

/-- Where nothing pauses or fails, all lines are ahead. -/
theorem linesAhead_lines (lines : List (List UInt8)) : linesAhead (lines.map .line) = lines := by
  induction lines with
  | nil => rfl
  | cons bytes rest ih => rw [List.map_cons, linesAhead, ih]

/-- A line that is passed over: a text of nothing but blanks. -/
def isBlankLine (bytes : List UInt8) : Bool :=
  (textOf bytes).any Text.isBlankText

/-- The point that a line describes: it is a text, it is not blank, and it decodes. -/
def pointOf (bytes : List UInt8) : Option Point :=
  match textOf bytes with
  | some text => if Text.isBlankText text then none else (Line.decode (bare text)).toOption
  | none => none

/-- What a judge takes of some lines, in order. -/
def unitsOf (judge : String → Verdict α) (lines : List (List UInt8)) : List α :=
  lines.filterMap fun bytes => (verdictOf judge bytes).taken?

/-- How many of some lines a judge drops. -/
def dropsOf (judge : String → Verdict α) (lines : List (List UInt8)) : Nat :=
  lines.countP fun bytes => (verdictOf judge bytes).isDrop

/-- The items that some lines give, in order. -/
def itemsOf (intake : Intake) (lines : List (List UInt8)) : List Item :=
  match intake with
  | .points => (unitsOf judgePoint lines).map .point
  | .lines => (unitsOf .take lines).map .line

/-- How many of some lines are dropped while scanning. -/
def droppedOf (intake : Intake) (lines : List (List UInt8)) : Nat :=
  match intake with
  | .points => dropsOf judgePoint lines
  | .lines => dropsOf .take lines

/-- The points that some lines describe, in order. -/
def pointsOf (lines : List (List UInt8)) : List Point :=
  lines.filterMap pointOf

/-- What a scan will have counted once its lines up to the next stop are used up. -/
def tallyAhead (intake : Intake) (s : Scanner) : Tally :=
  ⟨s.tally.lines + (linesAhead s.upcoming).length,
    s.tally.dropped + droppedOf intake (linesAhead s.upcoming)⟩

/-- What seeking finds among some readings: the first unit that the judge takes, with the other
units still ahead; or none, and all lines up to the stop are used up; or a read that fails. A
line is counted when it is passed. -/
inductive Sought (judge : String → Verdict α) (upcoming : List Reading) (tally : Tally) :
    Except Fault (Option α) × Scanner → Prop where
  | taken {unit : α} {s : Scanner}
      (units : unitsOf judge (linesAhead upcoming) = unit :: unitsOf judge (linesAhead s.upcoming))
      (lines : s.tally.lines + (linesAhead s.upcoming).length =
        tally.lines + (linesAhead upcoming).length)
      (drops : s.tally.dropped + dropsOf judge (linesAhead s.upcoming) =
        tally.dropped + dropsOf judge (linesAhead upcoming))
      (tail : s.upcoming <:+ upcoming) (shorter : s.upcoming.length < upcoming.length) :
      Sought judge upcoming tally (.ok (some unit), s)
  | usedUp {s : Scanner} (units : unitsOf judge (linesAhead upcoming) = [])
      (lines : s.tally.lines = tally.lines + (linesAhead upcoming).length)
      (drops : s.tally.dropped = tally.dropped + dropsOf judge (linesAhead upcoming))
      (tail : s.upcoming <:+ upcoming) : Sought judge upcoming tally (.ok none, s)
  | failed {s : Scanner} (tail : s.upcoming <:+ upcoming) (failing : .failed ∈ upcoming) :
      Sought judge upcoming tally (.error (.input s.tally.lines), s)

/-- A line that is not taken is counted, and what is found is found behind it. -/
theorem sought_behind {judge : String → Verdict α} {bytes : List UInt8} {rest : List Reading}
    {tally : Tally} {answer : Except Fault (Option α) × Scanner}
    (passed : (verdictOf judge bytes).taken? = none)
    (found : Sought judge rest ⟨tally.lines + 1, tally.dropped + dropsOf judge [bytes]⟩ answer) :
    Sought judge (.line bytes :: rest) tally answer := by
  have behind : rest <:+ .line bytes :: rest := List.suffix_cons _ rest
  have sameUnits : unitsOf judge (linesAhead (.line bytes :: rest)) =
      unitsOf judge (linesAhead rest) := by
    simp [linesAhead, unitsOf, passed]
  have oneLine : (linesAhead (.line bytes :: rest)).length = (linesAhead rest).length + 1 := rfl
  have itsDrops : dropsOf judge (linesAhead (.line bytes :: rest)) =
      dropsOf judge (linesAhead rest) + dropsOf judge [bytes] := by
    simp [linesAhead, dropsOf, List.countP_cons]
  cases found with
  | taken units lines drops tail shorter =>
    exact .taken (sameUnits.trans units) (by simp only at lines; omega)
      (by simp only at drops; omega) (tail.trans behind) (Nat.lt_succ_of_lt shorter)
  | usedUp units lines drops tail =>
    exact .usedUp (sameUnits.trans units) (by simp only at lines; omega)
      (by simp only at drops; omega) (tail.trans behind)
  | failed tail failing => exact .failed (tail.trans behind) (List.mem_cons_of_mem _ failing)

/-- What is sought is found as `Sought` says, by induction on what is upcoming. -/
theorem seek_sought (judge : String → Verdict α) (upcoming : List Reading) (tally : Tally) :
    Sought judge upcoming tally (seek judge upcoming tally) := by
  induction upcoming generalizing tally with
  | nil => exact .usedUp rfl rfl rfl (List.suffix_refl [])
  | cons reading rest ih =>
    have behind : rest <:+ reading :: rest := List.suffix_cons reading rest
    cases reading with
    | pause => exact .usedUp rfl rfl rfl behind
    | failed => exact Sought.failed (s := ⟨rest, tally⟩) behind List.mem_cons_self
    | line bytes =>
      unfold seek
      cases verdict : verdictOf judge bytes with
      | take unit =>
        refine .taken ?_ ?_ ?_ behind (Nat.lt_succ_self _)
        · simp [linesAhead, unitsOf, verdict, Verdict.taken?]
        · simp [linesAhead]
          omega
        · simp [linesAhead, dropsOf, verdict, Verdict.isDrop]
      | skip =>
        have counted : dropsOf judge [bytes] = 0 := by simp [dropsOf, verdict, Verdict.isDrop]
        refine sought_behind (by rw [verdict]; rfl) ?_
        simpa [counted] using ih ⟨tally.lines + 1, tally.dropped⟩
      | drop =>
        have counted : dropsOf judge [bytes] = 1 := by simp [dropsOf, verdict, Verdict.isDrop]
        refine sought_behind (by rw [verdict]; rfl) ?_
        simpa [counted] using ih ⟨tally.lines + 1, tally.dropped + 1⟩

/-- What asking for the next item finds: the first item that the lines ahead have, with the
others still ahead; or none, and all lines are used up; or a read that fails. What the scan
will have counted stays the same. -/
inductive Found (s : Scanner) (intake : Intake) : Except Fault (Option Item) × Scanner → Prop where
  | item {item : Item} {next : Scanner}
      (items : itemsOf intake (linesAhead s.upcoming) =
        item :: itemsOf intake (linesAhead next.upcoming))
      (counts : next.tallyAhead intake = s.tallyAhead intake)
      (tail : next.upcoming <:+ s.upcoming)
      (shorter : next.upcoming.length < s.upcoming.length) : Found s intake (.ok (some item), next)
  | usedUp {next : Scanner} (items : itemsOf intake (linesAhead s.upcoming) = [])
      (counts : next.tally = s.tallyAhead intake) (tail : next.upcoming <:+ s.upcoming) :
      Found s intake (.ok none, next)
  | failed {next : Scanner} (tail : next.upcoming <:+ s.upcoming)
      (failing : .failed ∈ s.upcoming) :
      Found s intake (.error (.input next.tally.lines), next)

/-- The two intakes ask the same way, with a judge each. -/
theorem found_of_sought {judge : String → Verdict α} {form : α → Item} {s : Scanner}
    {intake : Intake} (items : ∀ lines, itemsOf intake lines = (unitsOf judge lines).map form)
    (dropped : ∀ lines, droppedOf intake lines = dropsOf judge lines)
    {answer : Except Fault (Option α)} {next : Scanner}
    (sought : Sought judge s.upcoming s.tally (answer, next)) :
    Found s intake (answer.map (·.map form), next) := by
  cases sought with
  | taken units lines drops tail shorter =>
    refine .item ?_ ?_ tail shorter
    · simp [items, units]
    · simp [tallyAhead, dropped, lines, drops]
  | usedUp units lines drops tail =>
    refine .usedUp (by simp [items, units]) ?_ tail
    simp [tallyAhead, dropped, ← lines, ← drops]
  | failed tail failing => exact .failed tail failing

/-- The next item is found as `Found` says, whichever the intake. -/
theorem nextItem_found (s : Scanner) (intake : Intake) :
    Found s intake (s.nextItem intake) := by
  cases intake with
  | points => exact found_of_sought (fun _ => rfl) (fun _ => rfl) (seek_sought _ _ _)
  | lines => exact found_of_sought (fun _ => rfl) (fun _ => rfl) (seek_sought _ _ _)

/-- A line that is judged by decoding is taken for the point that it describes. -/
theorem taken_judgePoint (bytes : List UInt8) :
    (verdictOf judgePoint bytes).taken? = pointOf bytes := by
  unfold verdictOf pointOf
  cases textOf bytes with
  | none => rfl
  | some text =>
    by_cases blank : Text.isBlankText text = true
    · simp [blank, Verdict.taken?]
    · cases decoded : Line.decode (bare text) with
      | error fault => simp [blank, judgePoint, decoded, Verdict.taken?, Except.toOption]
      | ok p =>
        simp [blank, judgePoint, decoded, Verdict.taken?, Except.toOption,
          (Line.decode_shape decoded).2.2]

/-- What a line describes is what the text that is taken of it decodes to. -/
theorem decoded_taken (bytes : List UInt8) :
    (verdictOf Verdict.take bytes).taken?.bind (fun text => (Item.line text).decoded) =
      pointOf bytes := by
  unfold verdictOf pointOf
  cases textOf bytes with
  | none => rfl
  | some text =>
    by_cases blank : Text.isBlankText text = true
    · simp [blank, Verdict.taken?]
    · simp only [blank, Bool.false_eq_true, if_false, Verdict.taken?, Option.bind_some]
      rcases Item.point?_line (bare text) with ⟨p, decoded, point⟩ | ⟨fault, decoded, point⟩ <;>
        simp [Item.decoded, decoded, point, Except.toOption]

/-- A point that a line describes was read from its text. -/
theorem read_of_pointOf {bytes : List UInt8} {p : Point} (described : pointOf bytes = some p) :
    ∃ text, Line.decode text = .ok p := by
  unfold pointOf at described
  split at described
  · rename_i text _
    split at described
    · contradiction
    · refine ⟨bare text, ?_⟩
      cases decoded : Line.decode (bare text) with
      | error fault => simp [decoded, Except.toOption] at described
      | ok q => simpa [decoded, Except.toOption] using described
  · contradiction

/-- Every item that lines give is a proper one. -/
theorem proper_itemsOf {intake : Intake} {lines : List (List UInt8)} {item : Item}
    (member : item ∈ itemsOf intake lines) : item.Proper := by
  cases intake with
  | points =>
    obtain ⟨p, taken, rfl⟩ := List.mem_map.mp member
    obtain ⟨bytes, _, taken⟩ := List.mem_filterMap.mp taken
    obtain ⟨text, read⟩ := read_of_pointOf ((taken_judgePoint bytes).symm.trans taken)
    exact Item.proper_point read
  | lines =>
    obtain ⟨text, _, rfl⟩ := List.mem_map.mp member
    exact Item.proper_line text

/-- The items of some lines decode to the points that the lines describe, whoever decodes
them. -/
theorem decoded_itemsOf (intake : Intake) (lines : List (List UInt8)) :
    (itemsOf intake lines).filterMap Item.decoded = pointsOf lines := by
  cases intake with
  | points =>
    have same : unitsOf judgePoint lines = pointsOf lines := by
      simp [unitsOf, pointsOf, taken_judgePoint]
    have each (p : Point) (member : p ∈ pointsOf lines) :
        (Item.decoded ∘ Item.point) p = some p := by
      obtain ⟨bytes, _, described⟩ := List.mem_filterMap.mp member
      obtain ⟨text, read⟩ := read_of_pointOf described
      simp [Item.decoded, Item.point?, Item.nonEmpty, (Line.decode_shape read).2.2]
    simp only [itemsOf, List.filterMap_map, same]
    rw [List.filterMap_congr each, List.filterMap_some]
  | lines =>
    simp only [itemsOf, unitsOf, pointsOf, List.filterMap_map, List.filterMap_filterMap]
    exact List.filterMap_congr fun bytes _ => decoded_taken bytes

/-- A scan that decodes gives no items that do not decode. -/
theorem undecodable_points (lines : List (List UInt8)) :
    (itemsOf .points lines).countP Item.undecodable = 0 := by
  simp only [itemsOf, List.countP_map, List.countP_eq_zero]
  intro p _
  simp [Item.undecodable, Item.point?]

/-- Every proper item decodes or does not. -/
theorem length_of_items {items : List Item} (proper : ∀ item ∈ items, item.Proper) :
    items.length = (items.filterMap Item.decoded).length + items.countP Item.undecodable := by
  have columns : items.countP Item.columnless = 0 := by
    rw [List.countP_eq_zero]
    intro item member
    have told := (proper item member).told
    rcases given : item.point? with fault | none | p <;>
      simp [Item.undecodable, Item.decoded, Item.columnless, given] at told ⊢
  rw [Item.length_eq_decoded items, columns, Nat.add_zero]

/-- Decoding never passes over a text that is not blank. -/
theorem judgePoint_ne_skip (line : String) : judgePoint line ≠ .skip := by
  unfold judgePoint
  cases decoded : Line.decode line with
  | error fault => simp
  | ok p => simp [(Line.decode_shape decoded).2.2]

/-- A line is blank, dropped or taken, and only one of them, for a judge that passes over
nothing by itself. -/
theorem judged_once {judge : String → Verdict α} (decisive : ∀ text, judge text ≠ .skip)
    (bytes : List UInt8) :
    [bytes].countP isBlankLine + dropsOf judge [bytes] + (unitsOf judge [bytes]).length = 1 := by
  simp only [dropsOf, unitsOf, List.countP_singleton, List.filterMap_cons, List.filterMap_nil]
  cases given : textOf bytes with
  | none => simp [isBlankLine, verdictOf, given, Verdict.isDrop, Verdict.taken?]
  | some text =>
    by_cases blank : Text.isBlankText text = true
    · simp [isBlankLine, verdictOf, given, blank, Verdict.isDrop, Verdict.taken?]
    · cases verdict : judge (bare text) with
      | skip => exact absurd verdict (decisive _)
      | _ => simp [isBlankLine, verdictOf, given, blank, verdict, Verdict.isDrop, Verdict.taken?]

/-- Blank, dropped and taken lines make up all lines. -/
theorem length_of_judged {judge : String → Verdict α} (decisive : ∀ text, judge text ≠ .skip)
    (lines : List (List UInt8)) :
    lines.length =
      lines.countP isBlankLine + dropsOf judge lines + (unitsOf judge lines).length := by
  induction lines with
  | nil => rfl
  | cons bytes rest ih =>
    have once := judged_once decisive bytes
    have apart : bytes :: rest = [bytes] ++ rest := rfl
    simp only [dropsOf, unitsOf] at ih once ⊢
    rw [apart, List.countP_append, List.countP_append, List.filterMap_append, List.length_append,
      List.length_append, ih]
    simp only [List.length_singleton]
    omega

/-- Each line is blank, dropped, or an item, and only one of them. -/
theorem length_of_lines (intake : Intake) (lines : List (List UInt8)) :
    lines.length =
      lines.countP isBlankLine + droppedOf intake lines + (itemsOf intake lines).length := by
  cases intake with
  | points =>
    simpa [itemsOf, droppedOf] using length_of_judged judgePoint_ne_skip lines
  | lines =>
    have decisive (text : String) : Verdict.take text ≠ .skip := by simp
    simpa [itemsOf, droppedOf] using length_of_judged decisive lines

end Scanner

end SeriesBench
