import SeriesBench.Route
import SeriesBench.Proofs.Scan.Asked

/-!
# The two intakes of a scan

An input can be scanned for points or for lines. Whichever is asked for, a scan that is asked
again and again passes the same lines and stops at the same place: the first pause, failed read
or end of the input. The lines that it gives decode to the points that it would have given, and
a line that does not decode is counted as dropped by the one scan and left to the worker by the
other.

Nothing is assumed of the input or of how it arrives. What comes after a pause or a failed read
is left for another scan, and that part is the same for both intakes.
-/

namespace SeriesBench

namespace Scanner

/-- What asking again and again gives until there is nothing more to be had: some units, in
order, then the end of the input or a fault, and what the scan is after that. -/
inductive Yields (ask : Scanner → Except Fault (Option α) × Scanner) :
    Scanner → List α → Except Fault Unit → Scanner → Prop where
  | ended {s last : Scanner} (asked : ask s = (.ok none, last)) : Yields ask s [] (.ok ()) last
  | failed {s last : Scanner} {fault : Fault} (asked : ask s = (.error fault, last)) :
      Yields ask s [] (.error fault) last
  | more {s next last : Scanner} {unit : α} {units : List α} {stop : Except Fault Unit}
      (asked : ask s = (.ok (some unit), next)) (later : Yields ask next units stop last) :
      Yields ask s (unit :: units) stop last

namespace Yields

variable {ask : Scanner → Except Fault (Option α) × Scanner}

/-- There is one way only in which asking goes on. -/
theorem unique {s last last' : Scanner} {units units' : List α} {stop stop' : Except Fault Unit}
    (one : Yields ask s units stop last) (other : Yields ask s units' stop' last') :
    units = units' ∧ stop = stop' ∧ last = last' := by
  induction one generalizing units' with
  | ended asked =>
    cases other with
    | ended asked' =>
      obtain ⟨_, rfl⟩ := Prod.mk.inj (asked.symm.trans asked')
      exact ⟨rfl, rfl, rfl⟩
    | failed asked' => simp [asked] at asked'
    | more asked' _ => simp [asked] at asked'
  | failed asked =>
    cases other with
    | ended asked' => simp [asked] at asked'
    | failed asked' =>
      obtain ⟨same, rfl⟩ := Prod.mk.inj (asked.symm.trans asked')
      exact ⟨rfl, congrArg _ (Except.error.inj same), rfl⟩
    | more asked' _ => simp [asked] at asked'
  | more asked _ ih =>
    cases other with
    | ended asked' => simp [asked] at asked'
    | failed asked' => simp [asked] at asked'
    | more asked' later =>
      obtain ⟨same, rfl⟩ := Prod.mk.inj (asked.symm.trans asked')
      obtain rfl := Option.some.inj (Except.ok.inj same)
      obtain ⟨rfl, rfl, rfl⟩ := ih later
      exact ⟨rfl, rfl, rfl⟩

/-- Scans that answer alike go on alike. -/
theorem of_same_answer {s t last : Scanner} {units : List α} {stop : Except Fault Unit}
    (same : ask t = ask s) (yields : Yields ask s units stop last) :
    Yields ask t units stop last := by
  cases yields with
  | ended asked => exact .ended (same.trans asked)
  | failed asked => exact .failed (same.trans asked)
  | more asked later => exact .more (same.trans asked) later

end Yields

/-- How asking ends when so many lines have been counted: a failed read names their number. -/
def stopOf (lines : Nat) : List Reading → Except Fault Unit
  | .line _ :: rest => stopOf (lines + 1) rest
  | .failed :: _ => .error (.input lines)
  | .pause :: _ | [] => .ok ()

/-- What is left to be found when asking has ended. -/
def leftOf : List Reading → List Reading
  | .line _ :: rest => leftOf rest
  | .pause :: rest | .failed :: rest => rest
  | [] => []

/-- Where no read fails, asking ends with the input. -/
theorem stopOf_of_sound {upcoming : List Reading} (sound : .failed ∉ upcoming) (lines : Nat) :
    stopOf lines upcoming = .ok () := by
  induction upcoming generalizing lines with
  | nil => rfl
  | cons reading rest ih =>
    rw [List.mem_cons, not_or] at sound
    cases reading with
    | line bytes => exact ih sound.2 (lines + 1)
    | pause => rfl
    | failed => exact absurd rfl sound.1

/-- A failure is found only where a read fails. -/
theorem failed_mem_of_readings {begun : List UInt8} {chunks : List Chunk}
    (found : .failed ∈ readings begun chunks) : .failed ∈ chunks := by
  have noLine (lines : List (List UInt8)) : Reading.failed ∉ lines.map .line := by simp
  have noOpen (line : List UInt8) (others : List Reading)
      (inside : Reading.failed ∈ unfinished line others) : .failed ∈ others := by
    unfold unfinished at inside
    split at inside
    · exact inside
    · simp at inside
  induction chunks generalizing begun with
  | nil => exact absurd (noOpen begun [] found) List.not_mem_nil
  | cons chunk rest ih =>
    cases chunk with
    | interrupted => exact List.mem_cons_of_mem _ (ih found)
    | failed => exact List.mem_cons_self
    | bytes data =>
      refine List.mem_cons_of_mem _ ?_
      cases data with
      | nil =>
        rcases List.mem_append.mp found with here | later
        · simpa using noOpen begun [.pause] here
        · exact ih later
      | cons b data =>
        rcases List.mem_append.mp found with here | later
        · exact absurd here (noLine _)
        · exact ih later

/-- Asking for what a judge takes gives all that it takes of the lines ahead, and counts each of
them.

Proof: by induction on what is upcoming, as a line is either taken or what is found is found behind
it. -/
theorem yields_seek (judge : String → Verdict α) (upcoming : List Reading) (tally : Tally) :
    Yields (fun s => seek judge s.upcoming s.tally) ⟨upcoming, tally⟩
      (unitsOf judge (linesAhead upcoming)) (stopOf tally.lines upcoming)
      ⟨leftOf upcoming, tally.lines + (linesAhead upcoming).length,
        tally.dropped + dropsOf judge (linesAhead upcoming)⟩ := by
  induction upcoming generalizing tally with
  | nil => exact .ended rfl
  | cons reading rest ih =>
    cases reading with
    | pause => exact .ended rfl
    | failed => exact .failed rfl
    | line bytes =>
      have units : unitsOf judge (linesAhead (.line bytes :: rest)) =
          (verdictOf judge bytes).taken?.toList ++ unitsOf judge (linesAhead rest) := by
        cases taken : (verdictOf judge bytes).taken? <;> simp [linesAhead, unitsOf, taken]
      have length : tally.lines + (linesAhead (.line bytes :: rest)).length =
          tally.lines + 1 + (linesAhead rest).length := by
        simp only [linesAhead, List.length_cons]
        omega
      have drops : tally.dropped + dropsOf judge (linesAhead (.line bytes :: rest)) =
          tally.dropped + dropsOf judge [bytes] + dropsOf judge (linesAhead rest) := by
        simp only [linesAhead, dropsOf, List.countP_cons, List.countP_nil]
        omega
      rw [units, length, drops]
      have behind := ih ⟨tally.lines + 1, tally.dropped + dropsOf judge [bytes]⟩
      cases verdict : verdictOf judge bytes with
      | take unit =>
        have none : dropsOf judge [bytes] = 0 := by simp [dropsOf, verdict, Verdict.isDrop]
        exact .more (by simp only [seek, verdict, none, Nat.add_zero]) behind
      | skip =>
        have none : dropsOf judge [bytes] = 0 := by simp [dropsOf, verdict, Verdict.isDrop]
        exact behind.of_same_answer (by simp only [seek, verdict, none, Nat.add_zero])
      | drop =>
        have one : dropsOf judge [bytes] = 1 := by simp [dropsOf, verdict, Verdict.isDrop]
        exact behind.of_same_answer (by simp only [seek, verdict, one])

/-- How asking ends after an answer that leaves the scan here. -/
def stopAfter (next : Scanner) : Except Fault (Option α) → Except Fault Unit
  | .error fault => .error fault
  | .ok none => .ok ()
  | .ok (some _) => stopOf next.tally.lines next.upcoming

/-- An answer does not change how asking ends. -/
theorem stopOf_seek (judge : String → Verdict α) (s : Scanner) :
    stopOf s.tally.lines s.upcoming =
      stopAfter (seek judge s.upcoming s.tally).2 (seek judge s.upcoming s.tally).1 := by
  have whole := yields_seek judge s.upcoming s.tally
  rcases asked : seek judge s.upcoming s.tally with ⟨fault | none | unit, next⟩
  · exact (whole.unique (.failed asked)).2.1
  · exact (whole.unique (.ended asked)).2.1
  · exact (whole.unique (.more asked (yields_seek judge next.upcoming next.tally))).2.1

/-- Neither does asking for an item. -/
theorem stopOf_nextItem (s : Scanner) (intake : Intake) :
    stopOf s.tally.lines s.upcoming =
      stopAfter (s.nextItem intake).2 (s.nextItem intake).1 := by
  have form {α : Type} (next : Scanner) (answer : Except Fault (Option α)) (item : α → Item) :
      stopAfter next (answer.map (·.map item)) = stopAfter next answer := by
    rcases answer with fault | none | unit <;> rfl
  cases intake with
  | points =>
    rw [stopOf_seek judgePoint s]
    exact (form _ _ Item.point).symm
  | lines =>
    rw [stopOf_seek Verdict.take s]
    exact (form _ _ Item.line).symm

/-- The points that are scanned for are those that the lines decode to. -/
theorem unitsOf_judgePoint (lines : List (List UInt8)) :
    unitsOf judgePoint lines =
      (unitsOf .take lines).filterMap fun text => (Item.line text).decoded := by
  simp only [unitsOf, List.filterMap_filterMap, taken_judgePoint, decoded_taken]

/-- What a scan for points drops is what a scan for lines drops, and the lines that do not
decode. -/
theorem dropsOf_judgePoint (lines : List (List UInt8)) :
    dropsOf judgePoint lines = dropsOf .take lines +
      (unitsOf .take lines).countP fun text => (Item.line text).undecodable := by
  have asPoints : lines.length = lines.countP isBlankLine + dropsOf judgePoint lines +
      (unitsOf judgePoint lines).length := length_of_judged judgePoint_ne_skip lines
  have asLines : lines.length = lines.countP isBlankLine + dropsOf .take lines +
      (unitsOf .take lines).length := length_of_judged (by simp) lines
  have proper : ∀ item ∈ itemsOf .lines lines, item.Proper := fun _ => proper_itemsOf
  have whole := length_of_items proper
  simp only [itemsOf, List.length_map, List.filterMap_map, List.countP_map,
    Function.comp_def] at whole
  rw [unitsOf_judgePoint] at asPoints
  omega

/-- A line is routed as the point that it decodes to, whatever the routing and whoever's turn it
is. -/
theorem route_line {text : String} {p : Point} (decodes : Line.decode text = .ok p)
    (router : Router) : router.route (.line text) = router.route (.point p) := by
  unfold Router.route
  cases router.routing with
  | inTurn => rfl
  | byMeasurement =>
    dsimp only
    rw [Item.measurement_line decodes]
    rfl

/-- Of lines alone nothing is left when asking has ended. -/
theorem leftOf_lines (lines : List (List UInt8)) : leftOf (lines.map .line) = [] := by
  induction lines with
  | nil => rfl
  | cons bytes rest ih => exact ih

/-- The intakes agree on every input, however it arrives. Asked until there is no more, a scan
for points and a scan for lines both come to an end, at the same place; without a read that fails
that is no fault. If the input arrives whole it is its end, nothing is left, and all its lines are
counted. Then

* the points are those that the lines decode to, in the same order;
* both have counted the same lines, and the scan for points has dropped just as many lines more
  as there are lines that do not decode;
* no line decodes to a point without columns, and one that decodes is of its point's table, so
  that it is routed to the same worker in either form.

Proof: both scans are found by one recursion over what is upcoming, which differs between them only
in the verdict on a line. Since there is one way only to go on to the end, what these scans yield is
what any scan yields. -/
theorem intakes_agree (chunks : List Chunk) :
    let s := ofChunks chunks
    (∃ points stop last, Yields nextPoint s points stop last) ∧
    (∃ texts stop last, Yields nextLine s texts stop last) ∧
    (∀ points stop last texts stop' last', Yields nextPoint s points stop last →
      Yields nextLine s texts stop' last' →
        points = (texts.filterMap fun text => (Item.line text).decoded) ∧
        last.tally.lines = last'.tally.lines ∧
        last.tally.dropped = last'.tally.dropped +
          (texts.countP fun text => (Item.line text).undecodable) ∧
        stop = stop' ∧ last.upcoming = last'.upcoming ∧
        (.failed ∉ chunks → stop = .ok ()) ∧
        ((∀ chunk ∈ chunks, chunk.Whole) →
          last.upcoming = [] ∧ last.tally.lines = (linesOf (Chunk.bytesOf chunks)).length)) ∧
    (∀ text, (Item.line text).point? ≠ .ok none) ∧
    ∀ text p, Line.decode text = .ok p → (Item.line text).measurement = p.measurement ∧
      ∀ router : Router, router.route (.line text) = router.route (.point p) := by
  intro s
  have points := yields_seek judgePoint s.upcoming s.tally
  have texts := yields_seek Verdict.take s.upcoming s.tally
  refine ⟨⟨_, _, _, points⟩, ⟨_, _, _, texts⟩, ?_, ?_, ?_⟩
  · intro units stop last lines stop' last' asPoints asLines
    obtain ⟨rfl, rfl, rfl⟩ := points.unique asPoints
    obtain ⟨rfl, rfl, rfl⟩ := texts.unique asLines
    refine ⟨unitsOf_judgePoint _, rfl, ?_, rfl, rfl, ?_, ?_⟩
    · simp only [dropsOf_judgePoint, Nat.add_assoc]
    · intro sound
      exact stopOf_of_sound (fun found => sound (failed_mem_of_readings found)) _
    · intro whole
      have ahead : s.upcoming = (linesOf (Chunk.bytesOf chunks)).map .line :=
        upcoming_ofChunks whole
      have fresh : s.tally.lines = 0 := rfl
      rw [ahead, leftOf_lines, linesAhead_lines, fresh, Nat.zero_add]
      exact ⟨rfl, rfl⟩
  · intro text none
    rcases Item.point?_line text with ⟨p, _, point⟩ | ⟨fault, _, point⟩ <;> simp [point] at none
  · intro text p decodes
    exact ⟨Item.measurement_line decodes, route_line decodes⟩

/-- Five lines that arrive whole, in pieces. A scan for lines drops the one that is no UTF-8 and
gives three; a scan for points drops the line without columns too, and gives the other two. -/
theorem mixedChunks_are_agreed_on :
    (∀ chunk ∈ mixedChunks, chunk.Whole) ∧
    Yields nextLine (ofChunks mixedChunks) ["cpu", "cpu 1 a=1 4", "cpu 2 a=nil 4"] (.ok ())
      ⟨[], ⟨5, 1⟩⟩ ∧
    ∃ last, Yields nextPoint (ofChunks mixedChunks)
        [⟨"cpu", "1", [], [⟨"a", .float32, some "1"⟩]⟩, ⟨"cpu", "2", [], [⟨"a", .float32, none⟩]⟩]
        (.ok ()) last ∧
      last.upcoming = [] ∧ last.tally.lines = 5 ∧ last.tally.dropped = 2 := by
  have whole : ∀ chunk ∈ mixedChunks, chunk.Whole := by decide
  have lines : Yields nextLine (ofChunks mixedChunks) ["cpu", "cpu 1 a=1 4", "cpu 2 a=nil 4"]
      (.ok ()) ⟨[], ⟨5, 1⟩⟩ := by
    have yields := yields_seek Verdict.take (ofChunks mixedChunks).upcoming ⟨0, 0⟩
    have units : unitsOf Verdict.take (linesAhead (ofChunks mixedChunks).upcoming) =
        ["cpu", "cpu 1 a=1 4", "cpu 2 a=nil 4"] := by decide +kernel
    have counted : (linesAhead (ofChunks mixedChunks).upcoming).length = 5 := by decide +kernel
    have dropped : dropsOf Verdict.take (linesAhead (ofChunks mixedChunks).upcoming) = 1 := by
      decide +kernel
    have ended : stopOf 0 (ofChunks mixedChunks).upcoming = .ok () := rfl
    have left : leftOf (ofChunks mixedChunks).upcoming = [] := rfl
    rwa [units, counted, dropped, ended, left] at yields
  obtain ⟨⟨points, stop, last, asPoints⟩, -, agree, -⟩ := intakes_agree mixedChunks
  obtain ⟨rfl, counted, dropped, rfl, left, -, -⟩ := agree _ _ _ _ _ _ asPoints lines
  refine ⟨whole, lines, last, ?_, left, counted, ?_⟩
  · convert asPoints using 1
    decide +kernel
  · rw [dropped]
    decide +kernel

end Scanner

end SeriesBench
