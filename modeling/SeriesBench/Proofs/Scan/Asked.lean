import SeriesBench.Proofs.Scan.Found

/-!
# A scan that is asked now for a line, now for a point

The two ways of asking share one place in the input and one tally, so they may be mixed. Each
question takes lines from the front, up to and including the first that answers it, or all of
them if none does; what is left is there for the questions after it. Hence the lines that were
taken and those that are left are the lines of the input, none of them twice, and each line that
was taken is blank, or was dropped, or was the last line of a question that it answered.

What a line answers is said of its text, without the scan: the text is not blank and is given
without its line end, and for a point it is to decode. The input may arrive in any pieces, with
reads to be repeated among them, as long as no read fails.
-/

namespace SeriesBench

namespace Scanner

/-- A text is another one and line feeds and carriage returns behind it, as many as there are. -/
structure Trims (text line : String) : Prop where
  cut : ∃ tail, text.toList = line.toList ++ tail ∧ ∀ c ∈ tail, c = '\n' ∨ c = '\r'
  clean : ∀ c, line.toList.getLast? = some c → c ≠ '\n' ∧ c ≠ '\r'

/-- The bytes of a line are the UTF-8 of a text that is not blank, which reads so without its
line end. -/
def ReadsAs (bytes : List UInt8) (line : String) : Prop :=
  ∃ text, textOf bytes = some text ∧ Text.isBlankText text = false ∧ Trims text line

/-- What a line answers to a question: its text, or the point that its text decodes to. -/
inductive Gives (bytes : List UInt8) : Intake → Item → Prop where
  | line {line : String} (reads : ReadsAs bytes line) : Gives bytes .lines (.line line)
  | point {line : String} {p : Point} (reads : ReadsAs bytes line)
      (decodes : Line.decode line = .ok p) : Gives bytes .points (.point p)

/-- A question among some lines: what is answered, the lines that are taken for it, and those
that are left. -/
inductive Answers (intake : Intake) (lines : List (List UInt8)) :
    Option Item → List (List UInt8) → List (List UInt8) → Prop where
  /-- The first line that gives something is taken, and all before it. -/
  | found {passed left : List (List UInt8)} {bytes : List UInt8} {item : Item}
      (split : lines = passed ++ bytes :: left)
      (skipped : ∀ line ∈ passed, ∀ other, ¬ Gives line intake other)
      (gives : Gives bytes intake item) : Answers intake lines (some item) (passed ++ [bytes]) left
  /-- No line gives anything, and all are taken. -/
  | usedUp (skipped : ∀ line ∈ lines, ∀ other, ¬ Gives line intake other) :
      Answers intake lines none lines []

/-- Questions one after the other, with all the lines that are taken for them. -/
inductive Answered : List (List UInt8) → List Intake → List (Option Item) → List (List UInt8) →
    List (List UInt8) → Prop where
  | unasked {lines : List (List UInt8)} : Answered lines [] [] [] lines
  | asked {lines taken left takenLater last : List (List UInt8)} {intake : Intake}
      {rest : List Intake} {answer : Option Item} {answers : List (Option Item)}
      (now : Answers intake lines answer taken left)
      (later : Answered left rest answers takenLater last) :
      Answered lines (intake :: rest) (answer :: answers) (taken ++ takenLater) last

/-- Asks questions one after the other. -/
def askAll (s : Scanner) : List Intake → List (Except Fault (Option Item)) × Scanner
  | [] => ([], s)
  | intake :: rest =>
    let (answer, next) := s.nextItem intake
    let (answers, last) := next.askAll rest
    (answer :: answers, last)

/-- What is cut off is the longest tail of such characters, so nothing else can be. -/
theorem trims_iff {text line : String} : Trims text line ↔ bare text = line := by
  let ends (c : Char) : Bool := c == '\n' || c == '\r'
  have parts : text.toList.reverse.dropWhile ends = (bare text).toList.reverse := by
    simp [bare, Text.dropTail, ends]
  constructor
  · rintro ⟨⟨tail, whole, cut⟩, clean⟩
    have gone : ∀ c ∈ tail.reverse, ends c = true := by
      intro c member
      simpa [ends] using cut c (List.mem_reverse.mp member)
    have kept : line.toList.reverse.dropWhile ends = line.toList.reverse := by
      cases reversed : line.toList.reverse with
      | nil => rfl
      | cons c rest =>
        have last : line.toList.getLast? = some c := by
          rw [← List.head?_reverse, reversed]
          rfl
        have stays : ends c = false := by simpa [ends] using clean c last
        rw [List.dropWhile_cons, stays]
        rfl
    rw [whole, List.reverse_append, List.dropWhile_append_of_pos gone, kept] at parts
    exact String.toList_inj.mp (List.reverse_inj.mp parts.symm)
  · rintro rfl
    constructor
    · refine ⟨(text.toList.reverse.takeWhile ends).reverse, ?_, ?_⟩
      · rw [← List.reverse_inj, List.reverse_append, List.reverse_reverse, ← parts,
          List.takeWhile_append_dropWhile]
      · intro c member
        have all := List.all_eq_true.mp (List.all_takeWhile (p := ends)) c
          (List.mem_reverse.mp member)
        simpa [ends] using all
    · intro c last
      rw [← List.head?_reverse, ← parts] at last
      have stays := List.head?_dropWhile_not ends text.toList.reverse
      rw [last] at stays
      simpa [ends] using stays

/-- A line reads as the text that is taken of it when lines are asked for. -/
theorem readsAs_iff {bytes : List UInt8} {line : String} :
    ReadsAs bytes line ↔ (verdictOf .take bytes).taken? = some line := by
  simp only [ReadsAs, trims_iff, verdictOf]
  cases textOf bytes with
  | none => simp [Verdict.taken?]
  | some text => by_cases blank : Text.isBlankText text = true <;> simp [blank, Verdict.taken?]

/-- A line describes the point that the text it reads as decodes to. -/
theorem pointOf_eq_some_iff {bytes : List UInt8} {p : Point} :
    pointOf bytes = some p ↔ ∃ line, ReadsAs bytes line ∧ Line.decode line = .ok p := by
  have decoded (line : String) : (Item.line line).decoded = some p ↔ Line.decode line = .ok p := by
    rcases Item.point?_line line with ⟨q, decodes, point⟩ | ⟨fault, decodes, point⟩ <;>
      simp [Item.decoded, decodes, point]
  simp only [← decoded_taken, Option.bind_eq_some_iff, ← readsAs_iff, decoded]

/-- What some lines give are the items that a scan of them finds. -/
theorem mem_itemsOf {intake : Intake} {lines : List (List UInt8)} {item : Item} :
    item ∈ itemsOf intake lines ↔ ∃ bytes ∈ lines, Gives bytes intake item := by
  cases intake with
  | points =>
    simp only [itemsOf, unitsOf, taken_judgePoint, List.mem_map, List.mem_filterMap,
      pointOf_eq_some_iff]
    constructor
    · rintro ⟨p, ⟨bytes, member, line, reads, decodes⟩, rfl⟩
      exact ⟨bytes, member, .point reads decodes⟩
    · rintro ⟨bytes, member, gives⟩
      cases gives with
      | point reads decodes => exact ⟨_, ⟨bytes, member, _, reads, decodes⟩, rfl⟩
  | lines =>
    simp only [itemsOf, unitsOf, List.mem_map, List.mem_filterMap, ← readsAs_iff]
    constructor
    · rintro ⟨line, ⟨bytes, member, reads⟩, rfl⟩
      exact ⟨bytes, member, .line reads⟩
    · rintro ⟨bytes, member, gives⟩
      cases gives with
      | line reads => exact ⟨_, ⟨bytes, member, reads⟩, rfl⟩

/-- Lines that are passed over have no items. -/
theorem itemsOf_eq_nil_iff {intake : Intake} {lines : List (List UInt8)} :
    itemsOf intake lines = [] ↔ ∀ line ∈ lines, ∀ item, ¬ Gives line intake item := by
  simp only [List.eq_nil_iff_forall_not_mem, mem_itemsOf, not_exists, not_and]
  exact ⟨fun none line member item => none item line member,
    fun none item line member => none line member item⟩

/-- The items of lines in two parts are those of both. -/
theorem itemsOf_append (intake : Intake) (first second : List (List UInt8)) :
    itemsOf intake (first ++ second) = itemsOf intake first ++ itemsOf intake second := by
  cases intake <;> simp [itemsOf, unitsOf]

/-- A line that gives an item has only that one. -/
theorem Gives.itemsOf_eq {intake : Intake} {bytes : List UInt8} {item : Item}
    (gives : Gives bytes intake item) : itemsOf intake [bytes] = [item] := by
  have member : item ∈ itemsOf intake [bytes] := mem_itemsOf.mpr ⟨bytes, by simp, gives⟩
  have one : (itemsOf intake [bytes]).length ≤ 1 := by
    have parts := length_of_lines intake [bytes]
    simp only [List.length_singleton] at parts
    omega
  match items : itemsOf intake [bytes] with
  | [] => simp [items] at member
  | [other] => simpa [items, eq_comm] using member
  | _ :: _ :: _ => simp [items] at one

/-- The lines that a question takes have the item that answers it, and no other. -/
theorem Answers.itemsOf_taken {intake : Intake} {lines taken left : List (List UInt8)}
    {answer : Option Item} (answers : Answers intake lines answer taken left) :
    itemsOf intake taken = answer.toList := by
  cases answers with
  | found split skipped gives =>
    rw [itemsOf_append, itemsOf_eq_nil_iff.mpr skipped, gives.itemsOf_eq]
    rfl
  | usedUp skipped => exact itemsOf_eq_nil_iff.mpr skipped

/-- A question takes lines from the front and leaves the others. -/
theorem Answers.append_eq {intake : Intake} {lines taken left : List (List UInt8)}
    {answer : Option Item} (answers : Answers intake lines answer taken left) :
    taken ++ left = lines := by
  cases answers with
  | found split => simp [split]
  | usedUp => simp

/-- Seeking takes the lines up to the first that the judge takes, or all of them. -/
inductive Seeks (judge : String → Verdict α) (lines : List (List UInt8)) (tally : Tally) :
    Except Fault (Option α) × Scanner → Prop where
  | found {passed left : List (List UInt8)} {bytes : List UInt8} {unit : α}
      (split : lines = passed ++ bytes :: left) (skipped : unitsOf judge passed = [])
      (takes : unitsOf judge [bytes] = [unit]) :
      Seeks judge lines tally (.ok (some unit), ⟨left.map .line,
        tally.lines + (passed ++ [bytes]).length,
        tally.dropped + dropsOf judge (passed ++ [bytes])⟩)
  | usedUp (skipped : unitsOf judge lines = []) :
      Seeks judge lines tally
        (.ok none, ⟨[], tally.lines + lines.length, tally.dropped + dropsOf judge lines⟩)

/-- A line that is not taken comes before what is taken behind it. -/
theorem Seeks.behind {judge : String → Verdict α} {bytes : List UInt8} {rest : List (List UInt8)}
    {tally : Tally} {answer : Except Fault (Option α) × Scanner}
    (skips : unitsOf judge [bytes] = [])
    (seeks : Seeks judge rest ⟨tally.lines + 1, tally.dropped + dropsOf judge [bytes]⟩ answer) :
    Seeks judge (bytes :: rest) tally answer := by
  have units (lines : List (List UInt8)) :
      unitsOf judge (bytes :: lines) = unitsOf judge [bytes] ++ unitsOf judge lines := by
    simp only [unitsOf, ← List.filterMap_append, List.singleton_append]
  have length (lines : List (List UInt8)) :
      tally.lines + 1 + lines.length = tally.lines + (bytes :: lines).length := by
    rw [List.length_cons]
    omega
  have drops (lines : List (List UInt8)) : tally.dropped + dropsOf judge [bytes] +
      dropsOf judge lines = tally.dropped + dropsOf judge (bytes :: lines) := by
    simp only [dropsOf, List.countP_cons, List.countP_nil]
    omega
  cases seeks with
  | @found passed left _ _ split skipped takes =>
    have further : bytes :: rest = (bytes :: passed) ++ _ :: left := congrArg (bytes :: ·) split
    have none : unitsOf judge (bytes :: passed) = [] := by rw [units, skips, skipped]; rfl
    rw [length, drops]
    exact .found further none takes
  | usedUp skipped =>
    rw [length, drops]
    exact .usedUp (by rw [units, skips, skipped]; rfl)

/-- Lines are passed over until one is judged to be something, by induction on the lines. -/
theorem seek_lines (judge : String → Verdict α) (lines : List (List UInt8)) (tally : Tally) :
    Seeks judge lines tally (seek judge (lines.map .line) tally) := by
  induction lines generalizing tally with
  | nil => exact .usedUp rfl
  | cons bytes rest ih =>
    simp only [List.map_cons, seek]
    cases verdict : verdictOf judge bytes with
    | take unit =>
      have none : dropsOf judge [bytes] = 0 := by simp [dropsOf, verdict, Verdict.isDrop]
      have first : bytes :: rest = [] ++ bytes :: rest := rfl
      have takes : unitsOf judge [bytes] = [unit] := by simp [unitsOf, verdict, Verdict.taken?]
      have here : Seeks judge (bytes :: rest) tally _ := .found first rfl takes
      simpa [none] using here
    | skip =>
      have none : dropsOf judge [bytes] = 0 := by simp [dropsOf, verdict, Verdict.isDrop]
      refine .behind (by simp [unitsOf, verdict, Verdict.taken?]) ?_
      simpa [none] using ih ⟨tally.lines + 1, tally.dropped⟩
    | drop =>
      have one : dropsOf judge [bytes] = 1 := by simp [dropsOf, verdict, Verdict.isDrop]
      refine .behind (by simp [unitsOf, verdict, Verdict.taken?]) ?_
      simpa [one] using ih ⟨tally.lines + 1, tally.dropped + 1⟩

/-- The answer to one question is found among the lines that are left, and what is taken for it
is counted. -/
theorem answers_of_seeks {judge : String → Verdict α} {form : α → Item} {intake : Intake}
    (items : ∀ lines, itemsOf intake lines = (unitsOf judge lines).map form)
    (dropped : ∀ lines, droppedOf intake lines = dropsOf judge lines)
    {lines : List (List UInt8)} {tally : Tally} {found : Except Fault (Option α)} {next : Scanner}
    (seeks : Seeks judge lines tally (found, next)) :
    ∃ answer taken left, Answers intake lines answer taken left ∧
      found.map (·.map form) = .ok answer ∧
      next = ⟨left.map .line, tally.lines + taken.length, tally.dropped + droppedOf intake taken⟩ := by
  have skipped {lines : List (List UInt8)} (none : unitsOf judge lines = []) :
      ∀ line ∈ lines, ∀ item, ¬ Gives line intake item :=
    itemsOf_eq_nil_iff.mp (by rw [items, none]; rfl)
  cases seeks with
  | @found passed left bytes unit split none takes =>
    have gives : Gives bytes intake (form unit) := by
      have member : form unit ∈ itemsOf intake [bytes] := by simp [items, takes]
      obtain ⟨other, same, gives⟩ := mem_itemsOf.mp member
      rwa [List.mem_singleton.mp same] at gives
    exact ⟨_, _, _, .found split (skipped none) gives, rfl, by rw [dropped]⟩
  | usedUp none => exact ⟨_, _, _, .usedUp (skipped none), rfl, by rw [dropped]; rfl⟩

/-- A question for the next item takes the lines up to the first that has one, and counts those that
it drops. -/
theorem nextItem_answers (intake : Intake) (lines : List (List UInt8)) (tally : Tally) :
    ∃ answer taken left, Answers intake lines answer taken left ∧
      nextItem ⟨lines.map .line, tally⟩ intake = (.ok answer, ⟨left.map .line,
        tally.lines + taken.length, tally.dropped + droppedOf intake taken⟩) := by
  cases intake with
  | points =>
    have items (lines : List (List UInt8)) :
        itemsOf .points lines = (unitsOf judgePoint lines).map .point := rfl
    obtain ⟨answer, taken, left, answers, found, next⟩ :=
      answers_of_seeks items (fun _ => rfl) (seek_lines judgePoint lines tally)
    exact ⟨answer, taken, left, answers, Prod.ext found next⟩
  | lines =>
    have items (lines : List (List UInt8)) :
        itemsOf .lines lines = (unitsOf Verdict.take lines).map .line := rfl
    obtain ⟨answer, taken, left, answers, found, next⟩ :=
      answers_of_seeks items (fun _ => rfl) (seek_lines Verdict.take lines tally)
    exact ⟨answer, taken, left, answers, Prod.ext found next⟩

/-- There is no answer exactly when no line that is left gives one. -/
theorem nextItem_none_iff (intake : Intake) (lines : List (List UInt8)) (tally : Tally) :
    (nextItem ⟨lines.map .line, tally⟩ intake).1 = .ok none ↔
      ∀ line ∈ lines, ∀ item, ¬ Gives line intake item := by
  obtain ⟨answer, taken, left, answers, asked⟩ := nextItem_answers intake lines tally
  rw [asked]
  cases answers with
  | found split skipped gives =>
    simp only [Except.ok.injEq, reduceCtorEq, false_iff]
    exact fun none => none _ (by simp [split]) _ gives
  | usedUp skipped => exact iff_of_true rfl skipped

/-- What questions take comes from the front, and the rest is left. -/
theorem Answered.append_eq {lines taken left : List (List UInt8)} {asks : List Intake}
    {answers : List (Option Item)} (answered : Answered lines asks answers taken left) :
    taken ++ left = lines := by
  induction answered with
  | unasked => rfl
  | asked now _ ih => rw [List.append_assoc, ih, now.append_eq]

/-- After a question without an answer all lines are used up. -/
theorem Answered.used_up {lines taken left : List (List UInt8)} {asks : List Intake}
    {answers : List (Option Item)} (answered : Answered lines asks answers taken left)
    (unanswered : none ∈ answers) : left = [] := by
  induction answered with
  | unasked => simp at unanswered
  | asked now later ih =>
    rcases List.mem_cons.mp unanswered with here | there
    · subst here
      cases now with
      | usedUp => exact (List.append_eq_nil_iff.mp later.append_eq).2
    · exact ih there

/-- Questions are answered in turn, and the tally tells how many lines were taken and what became
of them: each is blank, or dropped, or the item of an answer. -/
theorem askAll_answered (asks : List Intake) (lines : List (List UInt8)) (tally : Tally) :
    ∃ answers taken left dropped, Answered lines asks answers taken left ∧
      askAll ⟨lines.map .line, tally⟩ asks =
        (answers.map .ok, ⟨left.map .line, tally.lines + taken.length, tally.dropped + dropped⟩) ∧
      taken.length = taken.countP isBlankLine + dropped + (answers.filterMap id).length := by
  induction asks generalizing lines tally with
  | nil => exact ⟨[], [], lines, 0, .unasked, rfl, rfl⟩
  | cons intake rest ih =>
    obtain ⟨answer, taken, left, now, asked⟩ := nextItem_answers intake lines tally
    obtain ⟨answers, takenLater, last, dropped, later, askedLater, counted⟩ :=
      ih left ⟨tally.lines + taken.length, tally.dropped + droppedOf intake taken⟩
    refine ⟨answer :: answers, taken ++ takenLater, last, droppedOf intake taken + dropped,
      .asked now later, ?_, ?_⟩
    · simp only [askAll, asked, askedLater, List.map_cons, List.length_append, Nat.add_assoc]
    · have parts := length_of_lines intake taken
      have answered : ((answer :: answers).filterMap id).length =
          answer.toList.length + (answers.filterMap id).length := by
        cases answer <;> simp [Nat.add_comm]
      rw [now.itemsOf_taken] at parts
      rw [List.length_append, List.countP_append, answered]
      omega

/-- Asking now for lines, now for points loses nothing and repeats nothing, wherever the input was
cut. The questions are answered in turn by the lines of the input:

* what they take and what is left are the lines, which make up all bytes of the input;
* the lines taken are counted, and each is blank, dropped or the item of an answer;
* a question has no answer exactly when no line that is left gives one, and after such a question
  all lines are used up and no question has an answer or changes anything.

The answers and the tally are the same for every input of these bytes.

Proof: a question takes the lines up to the first that answers it. What was taken for several
questions comes one after the other, by induction on the questions, and all of it depends on the
bytes only, because the lines do. -/
theorem questions_take_lines_once {chunks : List Chunk} (whole : ∀ chunk ∈ chunks, chunk.Whole)
    (asks : List Intake) :
    (∃ answers taken left last, (ofChunks chunks).askAll asks = (answers.map .ok, last) ∧
      Answered (linesOf (Chunk.bytesOf chunks)) asks answers taken left ∧
      taken ++ left = linesOf (Chunk.bytesOf chunks) ∧
      (taken ++ left).flatten = Chunk.bytesOf chunks ∧
      last.tally.lines = taken.length ∧
      taken.length =
        taken.countP isBlankLine + last.tally.dropped + (answers.filterMap id).length ∧
      (∀ intake, (last.nextItem intake).1 = .ok none ↔
        ∀ line ∈ left, ∀ item, ¬ Gives line intake item) ∧
      (none ∈ answers → left = [] ∧ ∀ intake, last.nextItem intake = (.ok none, last))) ∧
    ∀ others : List Chunk, (∀ chunk ∈ others, chunk.Whole) →
      Chunk.bytesOf others = Chunk.bytesOf chunks →
        (ofChunks others).askAll asks = (ofChunks chunks).askAll asks := by
  have start {chunks : List Chunk} (whole : ∀ chunk ∈ chunks, chunk.Whole) :
      ofChunks chunks = ⟨(linesOf (Chunk.bytesOf chunks)).map .line, ⟨0, 0⟩⟩ := by
    rw [← upcoming_ofChunks whole]
    rfl
  constructor
  · obtain ⟨answers, taken, left, dropped, answered, asked, counted⟩ :=
      askAll_answered asks (linesOf (Chunk.bytesOf chunks)) ⟨0, 0⟩
    rw [Nat.zero_add, Nat.zero_add, ← start whole] at asked
    refine ⟨answers, taken, left, _, asked, answered, answered.append_eq, ?_, rfl, counted, ?_, ?_⟩
    · rw [answered.append_eq, flatten_linesOf]
    · exact fun intake => nextItem_none_iff intake left _
    · intro unanswered
      obtain rfl := answered.used_up unanswered
      refine ⟨rfl, fun intake => ?_⟩
      cases intake <;> rfl
  · intro others wholeToo sameBytes
    rw [start whole, start wholeToo, sameBytes]

/-- A blank line, a line that is no point, a line of a byte that is no UTF-8, and two lines that
are points, of which the last has no line feed. The input is cut inside a character of a blank
line and between a carriage return and its line feed. -/
def mixedChunks : List Chunk :=
  [.interrupted, .bytes ("cpu\r\r\n".toUTF8.data.toList ++ [0xe3, 0x80]),
    .bytes ([0x80, 0x0a, 0xff, 0x0a] ++ "cpu 1 a=1 4\r".toUTF8.data.toList), .interrupted,
    .bytes "\ncpu 2 a=nil 4".toUTF8.data.toList]

/-- A line, a point, a line and nothing more: five lines are taken, one of them is blank and one
is dropped. -/
theorem mixedChunks_answer_in_turn : (∀ chunk ∈ mixedChunks, chunk.Whole) ∧
    ((ofChunks mixedChunks).askAll [.lines, .points, .lines, .points]).1 =
      [.ok (some (.line "cpu")), .ok (some (.point ⟨"cpu", "1", [], [⟨"a", .float32, some "1"⟩]⟩)),
        .ok (some (.line "cpu 2 a=nil 4")), .ok none] ∧
    ∃ taken, taken = linesOf (Chunk.bytesOf mixedChunks) ∧ taken.length = 5 ∧
      taken.countP isBlankLine = 1 := by
  have whole : ∀ chunk ∈ mixedChunks, chunk.Whole := by decide
  have asked : (ofChunks mixedChunks).askAll [.lines, .points, .lines, .points] =
      ([.ok (some (.line "cpu")),
        .ok (some (.point ⟨"cpu", "1", [], [⟨"a", .float32, some "1"⟩]⟩)),
        .ok (some (.line "cpu 2 a=nil 4")), .ok none], ⟨[], ⟨5, 1⟩⟩) := by
    decide +kernel
  obtain ⟨⟨answers, taken, left, last, same, -, lines, -, counted, accounted, -, ends⟩, -⟩ :=
    questions_take_lines_once whole [.lines, .points, .lines, .points]
  obtain ⟨given, rfl⟩ := Prod.mk.inj (asked.symm.trans same)
  have answered : answers = [some (.line "cpu"),
      some (.point ⟨"cpu", "1", [], [⟨"a", .float32, some "1"⟩]⟩),
      some (.line "cpu 2 a=nil 4"), none] :=
    List.map_injective_iff.mpr (fun _ _ => Except.ok.inj) given.symm
  have used : left = [] := (ends (by simp [answered])).1
  refine ⟨whole, by rw [asked], taken, by rw [← lines, used, List.append_nil], counted.symm, ?_⟩
  rw [← counted, answered] at accounted
  simpa using accounted.symm

end Scanner

end SeriesBench
