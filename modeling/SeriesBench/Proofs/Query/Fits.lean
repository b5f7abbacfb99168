import SeriesBench.Proofs.Query.Windows

/-!
# Windows that fit

Of an interval that is known to the nanosecond, a window is refused exactly when it is not shorter
than the interval. Otherwise one is drawn, from the start of the interval on and never up to its
end, and it is as long as was asked for, to the nanosecond.

None of this depends on how a distance is drawn, as long as it is below its bound. So windows are
first made from any such draw; those that are drawn from a stream are a case of them.
-/

namespace SeriesBench

namespace Instant

/-- Outside of leap seconds, all nanoseconds that fit a word are found. The whole seconds fit as
well, because they lie between the instant and the epoch. -/
theorem word_of_fits {t : Instant} (ordinary : t.nanos < perSecond)
    (fits : Numeral.fitsWord 64 t.total = true) : t.word? = some t.total := by
  have whole : Numeral.fitsWord 64
      (if t.seconds < 0 then (t.seconds + 1) * perSecond else t.seconds * perSecond) = true := by
    obtain ⟨least, most⟩ := Numeral.fitsWord_iff.mp fits
    rw [Numeral.fitsWord_iff]
    simp only [total, perSecond] at least most ordinary ⊢
    split <;> omega
  simp [word?, whole, fits]

/-- An instant that is made from nanoseconds touches no leap second. -/
theorem nanos_ofTotal (n : Int) : (ofTotal n).nanos < perSecond := by
  simp only [ofTotal, perSecond]
  omega

/-- An instant some time before another one touches no leap second if that one does not. -/
theorem nanos_minus {t : Instant} (ordinary : t.nanos < perSecond) (span : Span) :
    (t.minus span).nanos < perSecond := by
  have none : t.inLeapSecond = false := by
    simpa [inLeapSecond] using ordinary
  simp only [minus, none, Bool.false_and, Bool.false_eq_true, if_false]
  exact nanos_ofTotal _

/-- Instants outside of leap seconds are as far from each other as their nanoseconds are. -/
theorem nanosFrom_eq {start stop : Instant} (starts : start.nanos < perSecond)
    (stops : stop.nanos < perSecond) : start.nanosFrom stop = stop.total - start.total := by
  simp [nanosFrom, inLeapSecond, Nat.not_le.mpr starts, Nat.not_le.mpr stops]

/-- An instant of the calendar that touches no leap second lies before the end of the calendar. -/
theorem total_lt_calendarEnd {t : Instant} (ordinary : t.nanos < perSecond)
    (representable : t.isRepresentable = true) : t.total < calendarEnd := by
  obtain ⟨_, last⟩ := isRepresentable_iff.mp representable
  simp only [calendarEnd_eq, total, perSecond] at ordinary ⊢
  omega

end Instant

namespace Interval

variable {i : Interval} {window : Span}

/-- The interval touches no leap second, and the bounds of the start of a window fit words, as does
the distance between them. -/
structure Measured (i : Interval) (window : Span) : Prop where
  starts : i.start.nanos < Instant.perSecond
  stops : i.stop.nanos < Instant.perSecond
  calendar : i.stop.isRepresentable = true
  proper : window.nanos < Instant.perSecond
  first : Numeral.fitsWord 64 i.start.total = true
  latest : Numeral.fitsWord 64 (i.stop.total - window.totalNanos) = true
  near : i.stop.total - window.totalNanos - i.start.total < 9223372036854775808

/-- The end of a measured interval is an instant that a clock can show. -/
theorem Measured.known (measured : i.Measured window) : i.stop.Known :=
  ⟨measured.calendar, Nat.lt_trans measured.stops (by decide)⟩

/-- An interval that touches no leap second is as long as its ends are apart. -/
theorem totalNanos_length (starts : i.start.nanos < Instant.perSecond)
    (stops : i.stop.nanos < Instant.perSecond) :
    i.length.totalNanos = (i.stop.total - i.start.total).toNat := by
  rw [length, Instant.nanosFrom_eq starts stops, Span.totalNanos, Instant.perSecond]
  exact Nat.div_add_mod' _ _

/-- A window ends as long behind its start as was asked for. -/
theorem stop_windowAt (start : Int) (window : Span) :
    (windowAt start window).stop = .ofTotal (start + window.totalNanos) := by
  rw [windowAt, Instant.plus, Instant.total_ofTotal]

/-- A window is as long as was asked for. -/
theorem length_windowAt (start : Int) (proper : window.nanos < Instant.perSecond) :
    (windowAt start window).length = window := by
  have distance : (windowAt start window).start.nanosFrom (windowAt start window).stop =
      window.totalNanos := by
    rw [stop_windowAt, windowAt,
      Instant.nanosFrom_eq (Instant.nanos_ofTotal _) (Instant.nanos_ofTotal _)]
    simp only [Instant.total_ofTotal]
    omega
  rw [Interval.length, distance]
  simp only [Int.toNat_natCast, Span.totalNanos, Instant.perSecond] at proper ⊢
  congr 1 <;> omega

/-- There are bounds for the start of a window that is shorter than the interval, and the parameters
are refused for any other. -/
theorem bounds_of_measured (measured : i.Measured window) :
    i.bounds window =
      if window.totalNanos < i.length.totalNanos then
        .ok (i.start.total, i.stop.total - window.totalNanos)
      else .error (.fault (.query "random window equal to or bigger than interval")) := by
  have latest := Instant.total_minus measured.proper (t := i.stop)
  obtain ⟨least, _⟩ := Numeral.fitsWord_iff.mp measured.latest
  have short : ¬ longestWindow.totalNanos < window.totalNanos := by
    have before := Instant.total_lt_calendarEnd measured.stops measured.calendar
    rw [Instant.calendarEnd_eq] at before
    simp only [show longestWindow.totalNanos = 9223372036854775807000000 from rfl]
    omega
  have first := Instant.word_of_fits measured.starts measured.first
  have last : (i.stop.minus window).word? = some (i.stop.total - window.totalNanos) :=
    latest ▸ Instant.word_of_fits (Instant.nanos_minus measured.stops window)
      (latest.symm ▸ measured.latest)
  have inside : (i.stop.minus window).isRepresentable = true := by
    rw [Instant.isRepresentable_minus measured.known measured.proper, Instant.calendarStart_eq]
    omega
  have shorter : window.totalNanos < i.length.totalNanos ↔
      ¬ i.stop.total - window.totalNanos ≤ i.start.total := by
    rw [totalNanos_length measured.starts measured.stops]
    omega
  simp only [bounds, nanosOf, if_neg short, first, last, inside, bind, Except.bind, pure,
    Except.pure, throw, throwThe, MonadExceptOf.throw, shorter, Bool.not_true, Bool.false_eq_true,
    if_false, ite_not]
  by_cases empty : i.stop.total - window.totalNanos ≤ i.start.total
  · simp only [if_pos empty]
  · have near := measured.near
    have fits : Numeral.fitsWord 64 (i.stop.total - window.totalNanos - i.start.total) = true :=
      Numeral.fitsWord_iff.mpr (by omega)
    simp only [if_neg empty, fits, Bool.not_true, Bool.false_eq_true, if_false]

/-- The window that starts some distance behind the first start, the distance being drawn below a
bound. -/
def windowBy (i : Interval) (window : Span) (draw : Nat → Nat) : Except Stop Interval :=
  (i.bounds window).bind fun (lower, upper) =>
    let drawn := windowAt (lower + draw (upper - lower).toNat) window
    if drawn.stop.isRepresentable then .ok drawn else .error .overflow

/-- A stream is one way to draw a distance. -/
theorem randomWindow_eq (i : Interval) (s : Random.Stream) (window : Span) :
    (i.randomWindow s window).1 = i.windowBy window fun bound => (s.below .full bound).1 := by
  unfold randomWindow windowBy
  cases i.bounds window with
  | error stop => rfl
  | ok between =>
    obtain ⟨lower, upper⟩ := between
    simp only [windowWithin, windowBetween, Except.bind]
    generalize s.below .full (upper - lower).toNat = drawn
    split <;> rfl

/-- A window fits into an interval exactly: it is there if it is shorter, it lies inside without
reaching the end, and it has its length; else the parameters are refused. -/
structure Fits (i : Interval) (window : Span) (answer : Except Stop Interval) : Prop where
  ok_iff : (∃ drawn, answer = .ok drawn) ↔ window.totalNanos < i.length.totalNanos
  refused : ¬ window.totalNanos < i.length.totalNanos →
    ∃ reason, answer = .error (.fault (.query reason))
  start : ∀ drawn, answer = .ok drawn → i.start.total ≤ drawn.start.total
  stop : ∀ drawn, answer = .ok drawn → drawn.stop.total < i.stop.total
  length : ∀ drawn, answer = .ok drawn → drawn.length = window

/-- A window that is shorter than the interval can be drawn. -/
theorem windowBy_of_shorter (measured : i.Measured window)
    (shorter : window.totalNanos < i.length.totalNanos) {draw : Nat → Nat}
    (below : ∀ bound, 0 < bound → draw bound < bound) :
    ∃ start : Int, i.start.total ≤ start ∧ start + window.totalNanos < i.stop.total ∧
      i.windowBy window draw = .ok (windowAt start window) := by
  have bounds := bounds_of_measured measured
  rw [if_pos shorter] at bounds
  have range := range_of_bounds measured.known measured.proper bounds
  have offset := below (i.stop.total - window.totalNanos - i.start.total).toNat (by omega)
  generalize drawn : draw (i.stop.total - window.totalNanos - i.start.total).toNat = distance
    at offset
  have inside : (windowAt (i.start.total + distance) window).stop.isRepresentable = true := by
    have first := Numeral.fitsWord_iff.mp measured.first
    have before := Instant.total_lt_calendarEnd measured.stops measured.calendar
    rw [stop_windowAt, Instant.isRepresentable_ofTotal, Instant.calendarStart_eq]
    omega
  refine ⟨i.start.total + distance, by omega, by omega, ?_⟩
  rw [windowBy, bounds]
  simp only [Except.bind, drawn]
  exact if_pos inside

/-- Whatever is drawn below its bound, the window fits. Proof: the latest start is the end of the
interval less the window; the distance that is drawn is less than that from the first start to it,
so the window ends before the interval does, and neither sum leaves the calendar. -/
theorem fits_windowBy (measured : i.Measured window) {draw : Nat → Nat}
    (below : ∀ bound, 0 < bound → draw bound < bound) : i.Fits window (i.windowBy window draw) := by
  by_cases shorter : window.totalNanos < i.length.totalNanos
  · obtain ⟨start, first, last, answer⟩ := windowBy_of_shorter measured shorter below
    rw [answer]
    refine ⟨⟨fun _ => shorter, fun _ => ⟨_, rfl⟩⟩, absurd shorter, ?_, ?_, ?_⟩ <;> rintro _ ⟨⟩
    · rwa [windowAt, Instant.total_ofTotal]
    · rwa [stop_windowAt, Instant.total_ofTotal]
    · exact length_windowAt start measured.proper
  · have answer : i.windowBy window draw =
        .error (.fault (.query "random window equal to or bigger than interval")) := by
      rw [windowBy, bounds_of_measured measured, if_neg shorter, Except.bind]
    refine ⟨?_, fun _ => ⟨_, answer⟩, ?_, ?_, ?_⟩ <;> simp [answer, shorter]

end Interval

/-- Whatever distance below its bound is drawn, and so from every stream, a window of an interval
fits it exactly, as long as the interval touches no leap second, and its start and the latest start
are words of nanoseconds that are less than a word apart.

Proof: a window that is drawn from a stream is made from a distance below its bound, and all of
these fit. -/
theorem windows_fit_exactly {i : Interval} {window : Span} (measured : i.Measured window) :
    (∀ draw : Nat → Nat, (∀ bound, 0 < bound → draw bound < bound) →
      i.Fits window (i.windowBy window draw)) ∧
    ∀ s, i.Fits window (i.randomWindow s window).1 := by
  refine ⟨fun draw below => Interval.fits_windowBy measured below, fun s => ?_⟩
  rw [Interval.randomWindow_eq]
  exact Interval.fits_windowBy measured fun bound some => s.below_lt .full some

/-- Some seconds before the epoch. -/
def Interval.beforeEpoch : Interval := ⟨⟨-10, 500000000⟩, ⟨-3, 250000000⟩⟩

/-- Of six seconds and three quarters before the epoch, one and a quarter can be drawn, and all of
them cannot. -/
theorem seconds_before_the_epoch_fit :
    Interval.beforeEpoch.length = ⟨6, 750000000⟩ ∧
    (∃ drawn, (Interval.beforeEpoch.randomWindow (.ofSeed 7) ⟨1, 250000000⟩).1 = .ok drawn ∧
      -9500000000 ≤ drawn.start.total ∧ drawn.stop.total < -2750000000 ∧
      drawn.length = ⟨1, 250000000⟩) ∧
    ∃ reason, (Interval.beforeEpoch.randomWindow (.ofSeed 7) ⟨6, 750000000⟩).1 =
      .error (.fault (.query reason)) := by
  have measured : Interval.beforeEpoch.Measured ⟨1, 250000000⟩ :=
    ⟨by decide, by decide, by decide, by decide, by decide, by decide, by decide⟩
  have whole : Interval.beforeEpoch.Measured ⟨6, 750000000⟩ :=
    ⟨by decide, by decide, by decide, by decide, by decide, by decide, by decide⟩
  have fits := (windows_fit_exactly measured).2 (.ofSeed 7)
  obtain ⟨drawn, ok⟩ := fits.ok_iff.mpr (by decide)
  exact ⟨rfl, ⟨drawn, ok, fits.start drawn ok, fits.stop drawn ok, fits.length drawn ok⟩,
    ((windows_fit_exactly whole).2 (.ofSeed 7)).refused (by decide)⟩

end SeriesBench
