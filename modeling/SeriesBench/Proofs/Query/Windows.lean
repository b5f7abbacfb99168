import Mathlib.Tactic.SplitIfs
import SeriesBench.Query.Workload

/-!
# Windows that can be drawn

A window is drawn between the start of an interval and the latest instant from which it still fits.
On the way to that instant, to the distance between the two, and to the end of the window that was
drawn, there are numbers that may not fit what they are kept in. Most of these come back as a fault
of the query; the others leave no answer at all.

The main statement is exactly when there is none, and that otherwise a window lies inside of its
interval or the fault is one of the query. So there is always an answer as long as the latest start
is one that the calendar has and is less than a word away from the first, and the interval does not
end in a leap second behind the last day. Nothing else that a query is made of can change that.
-/

namespace SeriesBench

namespace Random.Stream

/-- A number is drawn below its bound. If a second number is drawn for the carry, it does not take
the first one up to the bound. -/
theorem below_lt (s : Stream) (width : Width) {bound : Nat} (some : 0 < bound) :
    (s.below width bound).1 < bound := by
  have small (s : Stream) : (s.draw width).1 * bound + bound ≤ width.size * bound := by
    rw [← Nat.succ_mul]
    exact Nat.mul_le_mul_right bound (s.draw_lt width)
  have high (s : Stream) : (s.draw width).1 * bound / width.size < bound :=
    Nat.div_lt_of_lt_mul (by have := small s; omega)
  unfold below
  simp only
  split_ifs with doubt carry
  · have first := small s
    have second := high (s.draw width).2
    have parts := Nat.div_add_mod ((s.draw width).1 * bound) width.size
    refine Nat.lt_of_mul_lt_mul_left (a := width.size) ?_
    rw [Nat.mul_succ]
    omega
  · exact high s
  · exact high s

end Random.Stream

/-- The integers that fit a word of 64 bits. -/
theorem Numeral.fitsWord_iff {n : Int} :
    Numeral.fitsWord 64 n = true ↔ -9223372036854775808 ≤ n ∧ n < 9223372036854775808 := by
  simp [Numeral.fitsWord]

namespace Instant

/-- The nanoseconds from the epoch to the first instant of the calendar. -/
def calendarStart : Int := firstDay * 86400 * perSecond

/-- The nanoseconds from the epoch to the first instant behind the calendar. -/
def calendarEnd : Int := (lastDay + 1) * 86400 * perSecond

/-- The calendar begins more than two hundred thousand years before the epoch. -/
theorem calendarStart_eq : calendarStart = -8334601228800000000000 := by decide

/-- The calendar ends more than two hundred thousand years after the epoch. -/
theorem calendarEnd_eq : calendarEnd = 8210266876800000000000 := by decide

/-- An instant that a calendar clock can show: its day is one of the calendar, and its nanoseconds
are those of a second or of the leap second behind it. -/
structure Known (t : Instant) : Prop where
  representable : t.isRepresentable = true
  nanos : t.nanos < 2 * perSecond

/-- The calendar has an instant if it has its second. -/
theorem isRepresentable_iff {t : Instant} :
    t.isRepresentable = true ↔ -8334601228800 ≤ t.seconds ∧ t.seconds < 8210266876800 := by
  have first : firstDay = -96465292 := by decide
  have last : lastDay = 95026236 := by decide
  simp only [isRepresentable, day, first, last, Bool.and_eq_true, decide_eq_true_eq]
  omega

/-- An instant is told by its nanoseconds from the epoch. -/
@[simp] theorem total_ofTotal (n : Int) : (ofTotal n).total = n := by
  simp only [total, ofTotal, perSecond]
  omega

/-- The calendar has an instant if its nanoseconds lie between the ends of the calendar. -/
theorem isRepresentable_ofTotal {n : Int} :
    (ofTotal n).isRepresentable = true ↔ calendarStart ≤ n ∧ n < calendarEnd := by
  simp only [isRepresentable_iff, calendarStart_eq, calendarEnd_eq, ofTotal, perSecond]
  omega

/-- A word of nanoseconds is their number. -/
theorem total_of_word {t : Instant} {n : Int} (word : t.word? = some n) :
    n = t.total ∧ -9223372036854775808 ≤ n ∧ n < 9223372036854775808 := by
  simp only [word?, Option.ite_none_right_eq_some, Bool.and_eq_true, Option.some.injEq] at word
  obtain ⟨⟨_, fits⟩, rfl⟩ := word
  exact ⟨rfl, Numeral.fitsWord_iff.mp fits⟩

/-- Taking a span off takes off its nanoseconds. -/
theorem total_minus {t : Instant} {span : Span} (proper : span.nanos < perSecond) :
    (t.minus span).total = t.total - span.totalNanos := by
  unfold minus
  split
  · rename_i leap
    simp only [Bool.and_eq_true, inLeapSecond, decide_eq_true_eq, beq_iff_eq] at leap
    obtain ⟨leap, whole⟩ := leap
    simp only [total, Span.totalNanos, whole]
    omega
  · exact total_ofTotal _

/-- Taking a span off stays in the calendar as long as there are nanoseconds left. -/
theorem isRepresentable_minus {t : Instant} (known : t.Known) {span : Span}
    (proper : span.nanos < perSecond) :
    (t.minus span).isRepresentable = true ↔ calendarStart ≤ t.total - span.totalNanos := by
  obtain ⟨first, last⟩ := isRepresentable_iff.mp known.representable
  have nanos := known.nanos
  unfold minus
  split
  · rename_i leap
    simp only [Bool.and_eq_true, inLeapSecond, decide_eq_true_eq, beq_iff_eq] at leap
    obtain ⟨leap, whole⟩ := leap
    simp only [isRepresentable_iff, calendarStart_eq, total, Span.totalNanos, whole, perSecond]
      at leap nanos proper ⊢
    omega
  · rename_i stays
    simp only [Bool.and_eq_true, inLeapSecond, decide_eq_true_eq, beq_iff_eq] at stays
    rw [isRepresentable_ofTotal]
    simp only [calendarStart_eq, calendarEnd_eq, total, Span.totalNanos, perSecond]
      at stays nanos proper ⊢
    omega

end Instant

/-- The parameters of a query are refused. -/
def Stop.IsRefusal (stop : Stop) : Prop :=
  ∃ reason, stop = .fault (.query reason)

namespace Interval

/-- There are no bounds for the start of a window, though the window is not longer than any may be
and the interval starts at a word of nanoseconds: the latest start lies before the calendar, or it
is a word of nanoseconds as well, but so far from the first that the distance is none. -/
def Unbounded (i : Interval) (window : Span) : Prop :=
  window.totalNanos ≤ longestWindow.totalNanos ∧ i.start.word?.isSome ∧
    (i.stop.total - window.totalNanos < Instant.calendarStart ∨
      (i.stop.minus window).word?.isSome ∧
        9223372036854775808 ≤ i.stop.total - window.totalNanos - i.start.total)

/-- What becomes of the bounds of a start. -/
inductive Bounding (i : Interval) (window : Span) : Except Stop (Int × Int) → Prop
  | refused {stop : Stop} (refusal : stop.IsRefusal) (bounded : ¬ i.Unbounded window) :
    Bounding i window (.error stop)
  | unbounded (unbounded : i.Unbounded window) : Bounding i window (.error .overflow)
  | found (bounded : ¬ i.Unbounded window)
    (order : i.start.total < i.stop.total - window.totalNanos)
    (near : i.stop.total - window.totalNanos - i.start.total < 9223372036854775808)
    (word : -9223372036854775808 ≤ i.start.total) :
    Bounding i window (.ok (i.start.total, i.stop.total - window.totalNanos))

variable {i : Interval} {window : Span}

/-- What becomes of the bounds of a start. The case follows the order in which they are computed:
the length of the window, the latest start, the two as words, and the distance between them. -/
theorem bounding (stops : i.stop.Known) (proper : window.nanos < Instant.perSecond) :
    Bounding i window (i.bounds window) := by
  have early := Instant.isRepresentable_minus stops proper
  have latest := Instant.total_minus proper (t := i.stop)
  unfold bounds
  simp only [bind, Except.bind, nanosOf, throw, throwThe, MonadExceptOf.throw, pure, Except.pure]
  by_cases long : longestWindow.totalNanos < window.totalNanos
  · rw [if_pos long]
    exact .refused ⟨_, rfl⟩ fun unbounded => absurd unbounded.1 (by omega)
  rw [if_neg long]
  cases start : i.start.word? with
  | none => exact .refused ⟨_, rfl⟩ fun unbounded => by simp [Unbounded, start] at unbounded
  | some lower =>
    obtain ⟨rfl, word, _⟩ := Instant.total_of_word start
    have accepted : window.totalNanos ≤ longestWindow.totalNanos ∧ i.start.word?.isSome :=
      ⟨by omega, by simp [start]⟩
    simp only
    split_ifs with outside
    · rw [Bool.not_eq_true', ← Bool.not_eq_true, early] at outside
      exact .unbounded ⟨accepted.1, accepted.2, Or.inl (by omega)⟩
    rw [Bool.not_eq_true', Bool.not_eq_false, early] at outside
    cases ends : (i.stop.minus window).word? with
    | none =>
      refine .refused ⟨_, rfl⟩ fun ⟨_, _, away⟩ => ?_
      rcases away with before | ⟨word, _⟩
      · omega
      · simp [ends] at word
    | some upper =>
      obtain ⟨rfl, _, _⟩ := Instant.total_of_word ends
      simp only [latest]
      have far : i.Unbounded window ↔
          9223372036854775808 ≤ i.stop.total - window.totalNanos - i.start.total := by
        constructor
        · rintro ⟨_, _, before | ⟨_, away⟩⟩
          · omega
          · exact away
        · exact fun away => ⟨accepted.1, accepted.2, Or.inr ⟨by simp [ends], away⟩⟩
      split_ifs with empty wide
      · refine .refused ⟨_, rfl⟩ ?_
        rw [far]
        omega
      · rw [Bool.not_eq_true', ← Bool.not_eq_true, Numeral.fitsWord_iff] at wide
        exact .unbounded (far.mpr (by omega))
      · rw [Bool.not_eq_true', Bool.not_eq_false, Numeral.fitsWord_iff] at wide
        refine .found ?_ (by omega) wide.2 word
        rw [far]
        omega

/-- The window that is drawn ends behind the calendar. -/
def Overrun (i : Interval) (window : Span) (s : Random.Stream) : Prop :=
  let offset := (s.below .full (i.stop.total - window.totalNanos - i.start.total).toNat).1
  i.bounds window = .ok (i.start.total, i.stop.total - window.totalNanos) ∧
    Instant.calendarEnd ≤ i.start.total + offset + window.totalNanos

/-- A window lies inside of an interval, and is as long as asked for. -/
structure Encloses (i : Interval) (window : Span) (drawn : Interval) : Prop where
  start : i.start.total ≤ drawn.start.total
  length : drawn.stop.total = drawn.start.total + window.totalNanos
  stop : drawn.stop.total < i.stop.total
  representable : drawn.start.isRepresentable = true ∧ drawn.stop.isRepresentable = true

/-- What becomes of a window. -/
inductive Drawing (i : Interval) (window : Span) (s : Random.Stream) :
    Except Stop Interval × Random.Stream → Prop
  | refused {stop : Stop} (refusal : stop.IsRefusal)
    (clear : ¬ (i.Unbounded window ∨ i.Overrun window s)) : Drawing i window s (.error stop, s)
  | overflowed {after : Random.Stream} (ways : i.Unbounded window ∨ i.Overrun window s) :
    Drawing i window s (.error .overflow, after)
  | drawn {drawn : Interval} {after : Random.Stream} (encloses : i.Encloses window drawn)
    (clear : ¬ (i.Unbounded window ∨ i.Overrun window s)) : Drawing i window s (.ok drawn, after)

/-- A window that starts between the first and the latest start of an interval. -/
theorem drawing_between {s : Random.Stream} (bounded : ¬ i.Unbounded window)
    (found : i.bounds window = .ok (i.start.total, i.stop.total - window.totalNanos))
    (order : i.start.total < i.stop.total - window.totalNanos)
    (word : -9223372036854775808 ≤ i.start.total) :
    Drawing i window s
      (windowBetween s window i.start.total (i.stop.total - window.totalNanos)) := by
  unfold windowBetween
  simp only
  generalize below : s.below .full (i.stop.total - window.totalNanos - i.start.total).toNat =
    offset
  have inside : offset.1 < (i.stop.total - window.totalNanos - i.start.total).toNat :=
    below ▸ s.below_lt .full (by omega)
  have stop : (windowAt (i.start.total + offset.1) window).stop =
      .ofTotal (i.start.total + offset.1 + window.totalNanos) := by
    rw [windowAt, Instant.plus, Instant.total_ofTotal]
  have overrun : i.Overrun window s ↔
      Instant.calendarEnd ≤ i.start.total + offset.1 + window.totalNanos := by
    simp only [Overrun, found, below, true_and]
  have calendar := Instant.calendarStart_eq
  split_ifs with representable
  · rw [stop, Instant.isRepresentable_ofTotal] at representable
    refine .drawn ?_ ?_
    · constructor
      · simp only [windowAt, Instant.total_ofTotal]
        omega
      · rw [stop, windowAt, Instant.total_ofTotal, Instant.total_ofTotal]
      · rw [stop, Instant.total_ofTotal]
        omega
      · rw [stop, windowAt, Instant.isRepresentable_ofTotal, Instant.isRepresentable_ofTotal]
        omega
    · refine not_or.mpr ⟨bounded, ?_⟩
      rw [overrun]
      omega
  · rw [stop, Instant.isRepresentable_ofTotal] at representable
    refine .overflowed (Or.inr ?_)
    rw [overrun]
    omega

/-- What becomes of a window. If there are bounds, a start is drawn between them, and the window may
still end behind the calendar. -/
theorem drawing (stops : i.stop.Known) (proper : window.nanos < Instant.perSecond)
    (s : Random.Stream) : Drawing i window s (i.randomWindow s window) := by
  have bounds := bounding stops proper
  rw [randomWindow]
  cases found : i.bounds window with
  | error stop =>
    rw [found] at bounds
    have missed : ¬ i.Overrun window s := by
      rintro ⟨inside, _⟩
      rw [found] at inside
      cases inside
    cases bounds with
    | refused refusal bounded => exact .refused refusal (not_or.mpr ⟨bounded, missed⟩)
    | unbounded unbounded => exact .overflowed (Or.inl unbounded)
  | ok between =>
    rw [found] at bounds
    cases bounds with
    | found bounded order near word => exact drawing_between bounded found order word

/-- There is no window exactly when there are no bounds or the one that is drawn overruns. -/
theorem randomWindow_overflow_iff (stops : i.stop.Known)
    (proper : window.nanos < Instant.perSecond) (s : Random.Stream) :
    (i.randomWindow s window).1 = .error .overflow ↔ i.Unbounded window ∨ i.Overrun window s := by
  have drawing := drawing stops proper s
  generalize i.randomWindow s window = answer at drawing
  cases drawing with
  | refused refusal clear =>
    obtain ⟨reason, rfl⟩ := refusal
    simp [clear]
  | overflowed ways => simp [ways]
  | drawn encloses clear => simp [clear]

/-- A window that is drawn lies inside of the interval. -/
theorem encloses_of_ok (stops : i.stop.Known) (proper : window.nanos < Instant.perSecond)
    {s : Random.Stream} {drawn : Interval} (ok : (i.randomWindow s window).1 = .ok drawn) :
    i.Encloses window drawn := by
  have drawing := drawing stops proper s
  generalize i.randomWindow s window = answer at drawing ok
  cases drawing with
  | refused refusal clear => cases ok
  | overflowed ways => cases ok
  | drawn encloses clear =>
    cases ok
    exact encloses

/-- When parameters are refused, nothing is drawn. -/
theorem refusal_of_error (stops : i.stop.Known) (proper : window.nanos < Instant.perSecond)
    {s : Random.Stream} {fault : Fault}
    (failed : (i.randomWindow s window).1 = .error (.fault fault)) :
    (Stop.fault fault).IsRefusal ∧ (i.randomWindow s window).2 = s := by
  have drawing := drawing stops proper s
  generalize i.randomWindow s window = answer at drawing failed
  cases drawing with
  | refused refusal clear =>
    cases failed
    exact ⟨refusal, rfl⟩
  | overflowed ways => cases failed
  | drawn encloses clear => cases failed

/-- A start is drawn from a range that is not empty and fits a word. -/
theorem range_of_bounds (stops : i.stop.Known) (proper : window.nanos < Instant.perSecond)
    {lower upper : Int} (found : i.bounds window = .ok (lower, upper)) :
    0 < upper - lower ∧ upper - lower < 9223372036854775808 := by
  have bounding := bounding stops proper
  rw [found] at bounding
  cases bounding with
  | found bounded order near word => omega

/-- Only in an interval that ends behind the calendar can a window do so. -/
theorem Overrun.stop (stops : i.stop.Known) (proper : window.nanos < Instant.perSecond)
    {s : Random.Stream} (overrun : i.Overrun window s) : Instant.calendarEnd < i.stop.total := by
  obtain ⟨found, behind⟩ := overrun
  have range := range_of_bounds stops proper found
  have inside := s.below_lt .full
    (by omega : 0 < (i.stop.total - window.totalNanos - i.start.total).toNat)
  omega

end Interval

namespace Workload

/-- If the first metrics cannot be had, the parameters of the query are refused. -/
theorem firstMetrics_error {n : Nat} {stop : Stop} (failed : firstMetrics n = .error stop) :
    stop.IsRefusal := by
  unfold firstMetrics at failed
  split at failed
  · cases failed
  · cases failed
    exact ⟨_, rfl⟩

/-- If hosts cannot be drawn, the parameters of the query are refused. -/
theorem randomHosts_error {w : Workload} {s : Random.Stream} {n : Nat} {stop : Stop}
    (failed : (w.randomHosts s n).1 = .error stop) : stop.IsRefusal := by
  unfold randomHosts at failed
  split_ifs at failed
  · cases failed
    exact ⟨_, rfl⟩
  · cases failed
    exact ⟨_, rfl⟩

/-- What is made of something that is drawn has no answer only if that has none, as long as all
that can go wrong in making it is refused. -/
theorem andThen_error {α β : Type} {drawn : Except Stop α × Random.Stream}
    {next : α → Random.Stream → Except Stop β × Random.Stream}
    (refuses : ∀ x s stop, (next x s).1 = .error stop → stop.IsRefusal) {stop : Stop}
    (failed : (andThen drawn next).1 = .error stop) : drawn.1 = .error stop ∨ stop.IsRefusal := by
  obtain ⟨other | x, s⟩ := drawn
  · obtain rfl : other = stop := Except.error.inj failed
    exact Or.inl rfl
  · exact Or.inr (refuses x s stop failed)

/-- A query can be made of a window, or its parameters are refused. -/
structure Follows (window : Except Stop Interval) (query : Except Stop Query) : Prop where
  failed : ∀ stop, window = .error stop → query = .error stop
  otherwise : ∀ stop, query = .error stop → window = .error stop ∨ stop.IsRefusal

/-- A query leaves no answer exactly if its window leaves none. -/
theorem Follows.overflow_iff {window : Except Stop Interval} {query : Except Stop Query}
    (follows : Follows window query) : query = .error .overflow ↔ window = .error .overflow := by
  constructor
  · intro overflow
    refine (follows.otherwise _ overflow).resolve_right ?_
    rintro ⟨reason, refused⟩
    cases refused
  · exact follows.failed _

/-- A query that fails is refused, if its window can only be refused. -/
theorem Follows.refused {window : Except Stop Interval} {query : Except Stop Query}
    (follows : Follows window query)
    (refuses : ∀ fault, window = .error (.fault fault) → (Stop.fault fault).IsRefusal)
    {fault : Fault} (failed : query = .error (.fault fault)) : ∃ reason, fault = .query reason := by
  obtain ⟨reason, refused⟩ := (follows.otherwise _ failed).elim (refuses fault) id
  exact ⟨reason, Stop.fault.inj refused⟩

/-- What is made of a window follows it. -/
theorem follows_andThen {drawn : Except Stop Interval × Random.Stream}
    {next : Interval → Random.Stream → Except Stop Query × Random.Stream}
    (refuses : ∀ x s stop, (next x s).1 = .error stop → stop.IsRefusal) :
    Follows drawn.1 (andThen drawn next).1 := by
  constructor
  · intro stop failed
    obtain ⟨answer, s⟩ := drawn
    obtain rfl : answer = .error stop := failed
    rfl
  · exact fun stop failed => andThen_error refuses failed

/-- The maxima by the minute follow from their window. -/
theorem follows_maxByMinute (w : Workload) (s : Random.Stream) (hosts metrics : Nat)
    (range : Span) :
    Follows (w.interval.randomWindow s range).1 (w.maxByMinute s hosts metrics range).1 := by
  refine follows_andThen fun window s stop failed => ?_
  cases names : firstMetrics metrics with
  | error refusal =>
    rw [names] at failed
    cases failed
    exact firstMetrics_error names
  | ok names' =>
    rw [names] at failed
    have ended := andThen_error (fun drawn s stop failed => by cases failed) failed
    exact ended.elim randomHosts_error id

/-- The maxima by the hour follow from their window. -/
theorem follows_maxAllByHour (w : Workload) (s : Random.Stream) (hosts : Nat) (range : Span) :
    Follows (w.interval.randomWindow s range).1 (w.maxAllByHour s hosts range).1 := by
  refine follows_andThen fun window s stop failed => ?_
  have ended := andThen_error (fun drawn s stop failed => by cases failed) failed
  exact ended.elim randomHosts_error id

end Workload

/-- What becomes of a window of any length in an interval that was made of two instants, the second
of which a calendar clock can show.

* It has no answer exactly when the latest start leaves the calendar or lies a word of nanoseconds
  behind the first one, or the window that is drawn ends behind the calendar. So it has one if the
  latest start is in the calendar and less than a word behind the first, and the interval ends in
  the calendar.
* Otherwise a window is drawn, from a range that is not empty and fits a word; it lies inside of the
  interval and is as long as asked for. Or the parameters are refused, and nothing is drawn.
* Queries of hosts by the minute and by the hour, of any hosts and metrics, have no answer when the
  window has none, and only then. Whatever else goes wrong is refused.

Proof: `Bounding` and `Drawing` follow the computation case by case and say in each what becomes of
the window. That there is no answer in exactly two of the cases, and a refusal or a window inside of
the interval in all others, is read off them; and both queries do what their window does or are
refused. -/
theorem windows_are_drawn_or_refused {start stop : Instant} {i : Interval}
    (made : Interval.make start stop = .ok i) (known : stop.Known) {window : Span}
    (proper : window.nanos < Instant.perSecond) (s : Random.Stream) :
    ((i.randomWindow s window).1 = .error .overflow ↔ i.Unbounded window ∨ i.Overrun window s) ∧
    (Instant.calendarStart ≤ stop.total - window.totalNanos →
      stop.total - window.totalNanos - start.total < 9223372036854775808 →
      stop.total ≤ Instant.calendarEnd → (i.randomWindow s window).1 ≠ .error .overflow) ∧
    (∀ lower upper, i.bounds window = .ok (lower, upper) →
      0 < upper - lower ∧ upper - lower < 9223372036854775808) ∧
    (∀ drawn, (i.randomWindow s window).1 = .ok drawn → i.Encloses window drawn) ∧
    (∀ fault, (i.randomWindow s window).1 = .error (.fault fault) →
      (∃ reason, fault = .query reason) ∧ (i.randomWindow s window).2 = s) ∧
    ∀ w : Workload, w.interval = i → ∀ hosts metrics,
      ((w.maxByMinute s hosts metrics window).1 = .error .overflow ↔
        (i.randomWindow s window).1 = .error .overflow) ∧
      (∀ fault, (w.maxByMinute s hosts metrics window).1 = .error (.fault fault) →
        ∃ reason, fault = .query reason) ∧
      ((w.maxAllByHour s hosts window).1 = .error .overflow ↔
        (i.randomWindow s window).1 = .error .overflow) ∧
      ∀ fault, (w.maxAllByHour s hosts window).1 = .error (.fault fault) →
        ∃ reason, fault = .query reason := by
  have ends : i.start = start ∧ i.stop = stop := by
    unfold Interval.make at made
    split at made <;> cases made
    exact ⟨rfl, rfl⟩
  obtain ⟨rfl, rfl⟩ := ends
  have refuses (fault : Fault) (failed : (i.randomWindow s window).1 = .error (.fault fault)) :
      (Stop.fault fault).IsRefusal := (Interval.refusal_of_error known proper failed).1
  refine ⟨Interval.randomWindow_overflow_iff known proper s, ?_, ?_, ?_, ?_, ?_⟩
  · intro starts near ends
    rw [Ne, Interval.randomWindow_overflow_iff known proper s]
    rintro (⟨_, _, before | ⟨_, far⟩⟩ | overrun)
    · exact absurd starts (Int.not_le.mpr before)
    · exact absurd near (Int.not_lt.mpr far)
    · exact absurd ends (Int.not_le.mpr (overrun.stop known proper))
  · exact fun lower upper => Interval.range_of_bounds known proper
  · exact fun drawn => Interval.encloses_of_ok known proper
  · intro fault failed
    obtain ⟨⟨reason, refused⟩, still⟩ := Interval.refusal_of_error known proper failed
    exact ⟨⟨reason, Stop.fault.inj refused⟩, still⟩
  · rintro w rfl hosts metrics
    have byMinute := Workload.follows_maxByMinute w s hosts metrics window
    have byHour := Workload.follows_maxAllByHour w s hosts window
    exact ⟨byMinute.overflow_iff, fun fault => byMinute.refused refuses,
      byHour.overflow_iff, fun fault => byHour.refused refuses⟩

/-- A day from the epoch on. -/
def Interval.firstDay : Interval := ⟨⟨0, 0⟩, ⟨86400, 0⟩⟩

/-- There is an answer to an hour of a day, as a window and as a query by the minute or by the
hour, of any hosts and metrics; so neither of the two ways in which there would be none is taken. -/
theorem hour_of_a_day_is_answered :
    Interval.make ⟨0, 0⟩ ⟨86400, 0⟩ = .ok .firstDay ∧ (⟨86400, 0⟩ : Instant).Known ∧
      (Workload.hours 1).nanos < Instant.perSecond ∧
      (Interval.firstDay.randomWindow (.ofSeed 7) (Workload.hours 1)).1 ≠ .error .overflow ∧
      ¬ Interval.firstDay.Unbounded (Workload.hours 1) ∧
      ¬ Interval.firstDay.Overrun (Workload.hours 1) (.ofSeed 7) ∧
      (∀ drawn, (Interval.firstDay.randomWindow (.ofSeed 7) (Workload.hours 1)).1 = .ok drawn →
        Interval.firstDay.Encloses (Workload.hours 1) drawn) ∧
      ∀ scale hosts metrics,
        (Workload.maxByMinute ⟨.firstDay, scale⟩ (.ofSeed 7) hosts metrics (Workload.hours 1)).1 ≠
          .error .overflow ∧
        (Workload.maxAllByHour ⟨.firstDay, scale⟩ (.ofSeed 7) hosts (Workload.hours 1)).1 ≠
          .error .overflow := by
  have made : Interval.make ⟨0, 0⟩ ⟨86400, 0⟩ = .ok .firstDay := rfl
  have known : (⟨86400, 0⟩ : Instant).Known := ⟨by decide, by decide⟩
  have proper : (Workload.hours 1).nanos < Instant.perSecond := by decide
  obtain ⟨exactly, answered, _, encloses, _, queries⟩ :=
    windows_are_drawn_or_refused made known proper (.ofSeed 7)
  have answer := answered (by decide) (by decide) (by decide)
  obtain ⟨bounded, inCalendar⟩ := not_or.mp (mt exactly.mpr answer)
  refine ⟨made, known, proper, answer, bounded, inCalendar, encloses, ?_⟩
  intro scale hosts metrics
  obtain ⟨byMinute, _, byHour, _⟩ := queries ⟨.firstDay, scale⟩ rfl hosts metrics
  exact ⟨mt byMinute.mp answer, mt byHour.mp answer⟩

/-- Ten seconds from the epoch on. -/
def Interval.tenSeconds : Interval := ⟨⟨0, 0⟩, ⟨10, 0⟩⟩

/-- Nearly three centuries on either side of the epoch. -/
def Interval.centuries : Interval := ⟨⟨-9000000000, 0⟩, ⟨9000000000, 0⟩⟩

/-- From one second after the epoch into the leap second behind the last day. -/
def Interval.untilTheEnd : Interval := ⟨⟨1, 0⟩, ⟨8210266876799, 1500000000⟩⟩

/-- There is no answer to a window that is so long that it would have to start before the calendar,
neither from an interval nor as a query; nor to a second of centuries, nor to a window that reaches
behind the last day. -/
theorem some_windows_have_no_answer :
    (Interval.make ⟨0, 0⟩ ⟨10, 0⟩ = .ok .tenSeconds ∧
      (Interval.tenSeconds.randomWindow (.ofSeed 0) ⟨9223372036854775, 0⟩).1 = .error .overflow ∧
      (Workload.maxByMinute ⟨.tenSeconds, 1⟩ (.ofSeed 0) 1 1 ⟨9223372036854775, 0⟩).1 =
        .error .overflow ∧
      (Workload.maxAllByHour ⟨.tenSeconds, 1⟩ (.ofSeed 0) 1 ⟨9223372036854775, 0⟩).1 =
        .error .overflow) ∧
    (Interval.make ⟨-9000000000, 0⟩ ⟨9000000000, 0⟩ = .ok .centuries ∧
      (Interval.centuries.randomWindow (.ofSeed 0) ⟨1, 0⟩).1 = .error .overflow) ∧
    Interval.make ⟨1, 0⟩ ⟨8210266876799, 1500000000⟩ = .ok .untilTheEnd ∧
      (Interval.untilTheEnd.randomWindow (.ofSeed 0) ⟨8210266876799, 0⟩).1 = .error .overflow := by
  have early : (Interval.tenSeconds.randomWindow (.ofSeed 0) ⟨9223372036854775, 0⟩).1 =
      .error .overflow := by
    refine (Interval.randomWindow_overflow_iff ⟨by decide, by decide⟩ (by decide) _).mpr ?_
    exact Or.inl ⟨by decide, by decide, Or.inl (by decide)⟩
  have wide : (Interval.centuries.randomWindow (.ofSeed 0) ⟨1, 0⟩).1 = .error .overflow := by
    refine (Interval.randomWindow_overflow_iff ⟨by decide, by decide⟩ (by decide) _).mpr ?_
    exact Or.inl ⟨by decide, by decide, Or.inr (by decide)⟩
  have late : (Interval.untilTheEnd.randomWindow (.ofSeed 0) ⟨8210266876799, 0⟩).1 =
      .error .overflow := by
    refine (Interval.randomWindow_overflow_iff ⟨by decide, by decide⟩ (by decide) _).mpr ?_
    have bounds : Interval.untilTheEnd.bounds ⟨8210266876799, 0⟩ =
        .ok (1000000000, 1500000000) := by
      have short : ¬ Interval.longestWindow.totalNanos < Span.totalNanos ⟨8210266876799, 0⟩ := by
        decide
      have first : Interval.untilTheEnd.start.word? = some 1000000000 := by decide
      have latest : Interval.untilTheEnd.stop.minus ⟨8210266876799, 0⟩ = ⟨1, 500000000⟩ := by
        decide
      have last : (⟨1, 500000000⟩ : Instant).word? = some 1500000000 := by decide
      have inside : (⟨1, 500000000⟩ : Instant).isRepresentable = true := by decide
      simp only [Interval.bounds, Interval.nanosOf, if_neg short, first, latest, last, inside, bind,
        Except.bind, pure, Except.pure]
      rfl
    refine Or.inr ⟨bounds, ?_⟩
    have least : Instant.calendarEnd ≤
        Interval.untilTheEnd.start.total + (⟨8210266876799, 0⟩ : Span).totalNanos := by decide
    omega
  refine ⟨⟨rfl, early, ?_, ?_⟩, ⟨rfl, wide⟩, rfl, late⟩
  · exact (Workload.follows_maxByMinute ⟨.tenSeconds, 1⟩ _ 1 1 _).failed _ early
  · exact (Workload.follows_maxAllByHour ⟨.tenSeconds, 1⟩ _ 1 _).failed _ early

end SeriesBench
