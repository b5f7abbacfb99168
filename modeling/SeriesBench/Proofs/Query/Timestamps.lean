import SeriesBench.Proofs.Query.Fits
import SeriesBench.Proofs.Query.Quotes

/-!
# The times that a query asks for

The texts in single quotes that stand in a query are names of units, names of hosts and times. Those
that can be read as times are the bounds of a window: the first of its rows and the first behind
them. A window is drawn to the nanosecond and written rounded down to the second, but as it is whole
seconds long, both of its ends lose the same part of a second, and what is read again is exactly as
far apart as was asked for.
-/

namespace SeriesBench

open Sql

namespace Workload

/-- The list of what is asked for of the table quotes what stands before the metrics. -/
theorem quotes_selection {opening function : String} {units : List String}
    (front : Quotes opening units) (plain : Unquoted function) {names : List String}
    (known : names ⊆ metrics) :
    Quotes (opening ++ aggregate function names ++ " FROM cpu WHERE ") units := by
  have metric : ∀ name ∈ metrics, Unquoted name := by decide
  have marks : Unquoted "(" ∧ Unquoted ")" := by decide
  have columns : Quotes (aggregate function names) (names.flatMap fun _ => []) := by
    refine quotes_intercalate (by decide) fun name member => ?_
    have column : Unquoted (function ++ "(" ++ name ++ ")") := by
      simp [plain, marks, metric name (known member)]
    exact quotes_unquoted column
  have none : (names.flatMap fun _ => []) = ([] : List String) :=
    List.flatMap_eq_nil_iff.mpr fun _ _ => rfl
  rw [none] at columns
  have parts := (front.append columns).append
    (quotes_unquoted (show Unquoted " FROM cpu WHERE " by decide))
  rwa [List.append_nil, List.append_nil] at parts

/-- The list of what is asked for of the table shows no times. -/
theorem shows_selection {opening function : String} (front : Shows opening [])
    (plain : Unquoted function) {names : List String} (known : names ⊆ metrics) :
    Shows (opening ++ aggregate function names ++ " FROM cpu WHERE ") [] := by
  obtain ⟨units, quotes, none⟩ := shows_iff.mp front
  exact shows_iff.mpr ⟨units, quotes_selection quotes plain known, none⟩

/-- The name of a host is its number behind a word. -/
theorem hostName_eq (index : Nat) : hostName index = "host_" ++ toString index :=
  rfl

/-- The condition on the hosts quotes their names. -/
theorem quotes_hostFilter (hosts : List Nat) : Quotes (hostFilter hosts) (hosts.map hostName) := by
  have named (index : Nat) : Quotes ("'" ++ hostName index ++ "'") [hostName index] := by
    refine quotes_quoted ?_
    rw [hostName_eq, unquoted_append]
    exact ⟨by decide, unquoted_toString index⟩
  have names : Quotes
      (String.intercalate ", " (hosts.map fun index => "'" ++ hostName index ++ "'"))
      (hosts.flatMap fun index => [hostName index]) :=
    quotes_intercalate (by decide) fun index _ => named index
  have parts := ((quotes_unquoted (show Unquoted "hostname IN (" by decide)).append names).append
    (quotes_unquoted (show Unquoted ")" by decide))
  rwa [List.nil_append, List.append_nil, ← List.map_eq_flatMap] at parts

/-- The names of hosts are no times. -/
theorem shows_hostFilter (hosts : List Nat) : Shows (hostFilter hosts) [] := by
  have letter : 'h'.isDigit = false := by decide
  have other (index : Nat) : Instant.ofRfc3339? (hostName index) = none :=
    Instant.ofRfc3339?_eq_none (by rw [hostName_eq, String.toList_append]; rfl) letter
  exact shows_iff.mpr ⟨_, quotes_hostFilter hosts, by simp [other]⟩

end Workload

/-- An interval touches no leap second and its ends are words of nanoseconds. -/
structure Interval.Precise (i : Interval) : Prop where
  starts : i.start.nanos < Instant.perSecond
  stops : i.stop.nanos < Instant.perSecond
  first : Numeral.fitsWord 64 i.start.total = true
  last : Numeral.fitsWord 64 i.stop.total = true

namespace Instant

/-- A word of nanoseconds that is written is read as its second. Such an instant lies in one of the
eras that begin in the years 1600 and 2000, so its year has four digits. -/
theorem ofRfc3339?_of_fits {t : Instant} (ordinary : t.nanos < perSecond)
    (fits : Numeral.fitsWord 64 t.total = true) : ofRfc3339? t.rfc3339 = some t.wholeSecond := by
  have day : -110000 ≤ t.day ∧ t.day ≤ 110000 := by
    obtain ⟨least, most⟩ := Numeral.fitsWord_iff.mp fits
    simp only [total, perSecond, Instant.day] at ordinary least most ⊢
    omega
  obtain ⟨least, most⟩ := Civil.year_ofDays t.day
  exact ofRfc3339?_rfc3339 ordinary (by omega) (by omega)

end Instant

namespace Interval

/-- The end of a precise interval is an instant that a clock can show. -/
theorem Precise.known {i : Interval} (precise : i.Precise) : i.stop.Known := by
  have stops := precise.stops
  obtain ⟨least, most⟩ := Numeral.fitsWord_iff.mp precise.last
  refine ⟨Instant.isRepresentable_iff.mpr ?_, Nat.lt_trans stops (by decide)⟩
  simp only [Instant.total, Instant.perSecond] at stops least most
  omega

/-- A window that is drawn touches no leap second. -/
theorem nanos_of_ok {i drawn : Interval} {window : Span} {s : Random.Stream}
    (ok : (i.randomWindow s window).1 = .ok drawn) :
    drawn.start.nanos < Instant.perSecond ∧ drawn.stop.nanos < Instant.perSecond := by
  rw [randomWindow_eq, windowBy] at ok
  cases found : i.bounds window with
  | error stop =>
    rw [found] at ok
    cases ok
  | ok between =>
    rw [found] at ok
    simp only [Except.bind] at ok
    split at ok
    · cases ok
      exact ⟨Instant.nanos_ofTotal _, Instant.nanos_ofTotal _⟩
    · cases ok

/-- What is read of a window of whole seconds: both ends are times, they are as far apart as was
asked for, and they lie in the interval but for the part of a second that it starts with. -/
structure ReadAs (i : Interval) (range : Span) (drawn : Interval) : Prop where
  start : Instant.ofRfc3339? drawn.start.rfc3339 = some drawn.start.wholeSecond
  stop : Instant.ofRfc3339? drawn.stop.rfc3339 = some drawn.stop.wholeSecond
  length : drawn.stop.wholeSecond.total = drawn.start.wholeSecond.total + range.totalNanos
  after : i.start.wholeSecond.total ≤ drawn.start.wholeSecond.total
  before : drawn.stop.wholeSecond.total ≤ i.stop.total

/-- A window of whole seconds that was drawn is read as one of its length. Proof: both of its ends
lose the part of a second that the drawn start has, so their distance stays; the calendar has them
because both ends of the interval are words of nanoseconds. -/
theorem readAs_of_ok {i drawn : Interval} (precise : i.Precise) {seconds : Nat}
    {s : Random.Stream} (ok : (i.randomWindow s ⟨seconds, 0⟩).1 = .ok drawn) :
    i.ReadAs ⟨seconds, 0⟩ drawn := by
  have proper : (0 : Nat) < Instant.perSecond := by decide
  obtain ⟨start, length, stop, _⟩ := encloses_of_ok precise.known proper ok
  obtain ⟨starts, stops⟩ := nanos_of_ok ok
  obtain ⟨least, _⟩ := Numeral.fitsWord_iff.mp precise.first
  obtain ⟨_, most⟩ := Numeral.fitsWord_iff.mp precise.last
  have whole : (⟨seconds, 0⟩ : Span).totalNanos = seconds * 1000000000 := Nat.add_zero _
  rw [whole] at length
  constructor
  · exact Instant.ofRfc3339?_of_fits starts (Numeral.fitsWord_iff.mpr (by omega))
  · exact Instant.ofRfc3339?_of_fits stops (Numeral.fitsWord_iff.mpr (by omega))
  · rw [Instant.total_wholeSecond starts, Instant.total_wholeSecond stops, length, whole]
    omega
  · rw [Instant.total_wholeSecond starts, Instant.total_wholeSecond precise.starts]
    omega
  · rw [Instant.total_wholeSecond stops]
    omega

end Interval

/-- A query asks for the rows of a window that can be read from it. The only two times that stand in
it are those between which the rows lie, and it is described by its label and the first of them. -/
structure Query.IsAbout (q : Query) (i : Interval) (range : Span) (window : Interval) : Prop
    extends i.ReadAs range window where
  timestamps : timestamps q.sql = [window.start.rfc3339, window.stop.rfc3339]
  asks : ∃ before after, q.sql = before ++
    s!"ts >= '{window.start.rfc3339}' AND ts < '{window.stop.rfc3339}'" ++ after
  description : q.description = q.label ++ ": " ++ window.start.rfc3339

/-- A query asks for the rows before the end of a window. That is the only time that stands in it,
and it is described by its label and this time. -/
structure Query.IsUpTo (q : Query) (i : Interval) (window : Interval) : Prop where
  timestamps : timestamps q.sql = [window.stop.rfc3339]
  asks : ∃ before after, q.sql = before ++ s!"ts < '{window.stop.rfc3339}'" ++ after
  stop : Instant.ofRfc3339? window.stop.rfc3339 = some window.stop.wholeSecond
  before : window.stop.wholeSecond.total ≤ i.stop.total
  description : q.description = q.label ++ ": " ++ window.stop.rfc3339

namespace Workload

/-- The condition on the time quotes both ends of its window. -/
theorem quotes_windowFilter (window : Interval) :
    Quotes (windowFilter window) [window.start.rfc3339, window.stop.rfc3339] := by
  have least := quotes_unquoted (show Unquoted "ts >= " by decide)
  have below := quotes_unquoted (show Unquoted " AND ts < " by decide)
  have parts := ((least.append (quotes_quoted window.start.unquoted_rfc3339)).append below).append
    (quotes_quoted window.stop.unquoted_rfc3339)
  have same : windowFilter window = "ts >= " ++ ("'" ++ window.start.rfc3339 ++ "'") ++
      " AND ts < " ++ ("'" ++ window.stop.rfc3339 ++ "'") := by
    have opening : "ts >= '" = "ts >= " ++ "'" := rfl
    have between : "' AND ts < '" = "'" ++ (" AND ts < " ++ "'") := rfl
    simp only [windowFilter, toString, opening, between, String.append_assoc]
  rw [same]
  exact parts

/-- The condition on the time shows both ends of its window. -/
theorem shows_windowFilter {i window : Interval} {range : Span} (readAs : i.ReadAs range window) :
    Shows (windowFilter window) [window.start.rfc3339, window.stop.rfc3339] :=
  shows_iff.mpr ⟨_, quotes_windowFilter window, by simp [List.filter, readAs.start, readAs.stop]⟩

/-- A query with the condition that a row is in a window is about that window, if nothing around the
condition shows a time. -/
theorem isAbout_query {i window : Interval} {range : Span} (readAs : i.ReadAs range window)
    (label : String) {before after : String} (front : Shows before []) (rest : Shows after []) :
    (query label window.start (before ++ windowFilter window ++ after)).IsAbout i range window :=
  { readAs with
    timestamps := ((front.append (shows_windowFilter readAs)).append rest).times
    asks := ⟨before, after, rfl⟩
    description := rfl }

/-- Of two steps that succeed the first one did, and the second went on from its result. -/
theorem andThen_ok {α β : Type} {drawn : Except Stop α × Random.Stream}
    {next : α → Random.Stream → Except Stop β × Random.Stream} {y : β}
    (ok : (andThen drawn next).1 = .ok y) :
    ∃ x s, drawn.1 = .ok x ∧ (next x s).1 = .ok y := by
  obtain ⟨stop | x, s⟩ := drawn
  · cases ok
  · exact ⟨x, s, rfl, ok⟩

/-- The first metrics are the first ones in the order of the columns. -/
theorem firstMetrics_ok {n : Nat} {names : List String} (ok : firstMetrics n = .ok names) :
    names = metrics.take n := by
  unfold firstMetrics at ok
  split at ok
  · exact (Except.ok.inj ok).symm
  · cases ok

/-- The first metrics are metrics. -/
theorem subset_of_firstMetrics {n : Nat} {names : List String}
    (ok : firstMetrics n = .ok names) : names ⊆ metrics := by
  rw [firstMetrics_ok ok]
  exact List.take_subset n metrics

variable {w : Workload} {s : Random.Stream} {q : Query}

/-- The maxima by the minute are about the window that was drawn for them. -/
theorem isAbout_of_maxByMinute (precise : w.interval.Precise) {hosts metrics seconds : Nat}
    (ok : (w.maxByMinute s hosts metrics ⟨seconds, 0⟩).1 = .ok q) :
    ∃ window, (w.interval.randomWindow s ⟨seconds, 0⟩).1 = .ok window ∧
      q.IsAbout w.interval ⟨seconds, 0⟩ window := by
  obtain ⟨window, s, drawn, ok⟩ := andThen_ok ok
  refine ⟨window, drawn, ?_⟩
  cases found : firstMetrics metrics with
  | error stop =>
    rw [found] at ok
    cases ok
  | ok names =>
    rw [found] at ok
    obtain ⟨hosts, s, _, ok⟩ := andThen_ok ok
    obtain rfl := Except.ok.inj ok
    have front : Shows "SELECT date_trunc('minute', ts) AS minute, " [] := by decide
    have maxima := shows_selection front (show Unquoted "max" by decide)
      (subset_of_firstMetrics found)
    have both := shows_unquoted (show Unquoted " AND " by decide)
    have rest := shows_unquoted (show Unquoted " GROUP BY minute ORDER BY minute" by decide)
    exact isAbout_query (Interval.readAs_of_ok precise drawn) _
      ((maxima.append (shows_hostFilter hosts)).append both) rest

/-- The maxima by the hour are about the window that was drawn for them. -/
theorem isAbout_of_maxAllByHour (precise : w.interval.Precise) {hosts seconds : Nat}
    (ok : (w.maxAllByHour s hosts ⟨seconds, 0⟩).1 = .ok q) :
    ∃ window, (w.interval.randomWindow s ⟨seconds, 0⟩).1 = .ok window ∧
      q.IsAbout w.interval ⟨seconds, 0⟩ window := by
  obtain ⟨window, s, drawn, ok⟩ := andThen_ok ok
  obtain ⟨hosts, s, _, ok⟩ := andThen_ok ok
  obtain rfl := Except.ok.inj ok
  have front : Shows "SELECT date_trunc('hour', ts) AS hour, " [] := by decide
  have maxima := shows_selection front (show Unquoted "max" by decide) (List.Subset.refl metrics)
  have both := shows_unquoted (show Unquoted " AND " by decide)
  have rest := shows_unquoted (show Unquoted " GROUP BY hour ORDER BY hour" by decide)
  exact ⟨window, drawn, isAbout_query (Interval.readAs_of_ok precise drawn) _
    ((maxima.append (shows_hostFilter hosts)).append both) rest⟩

/-- The means by the hour are about the window that was drawn for them. -/
theorem isAbout_of_meanByHour (precise : w.interval.Precise) {metrics : Nat}
    (ok : (w.meanByHour s metrics).1 = .ok q) :
    ∃ window, (w.interval.randomWindow s (hours 12)).1 = .ok window ∧
      q.IsAbout w.interval (hours 12) window := by
  rw [meanByHour] at ok
  cases found : firstMetrics metrics with
  | error stop =>
    rw [found] at ok
    cases ok
  | ok names =>
    rw [found] at ok
    obtain ⟨window, s, drawn, ok⟩ := andThen_ok ok
    obtain rfl := Except.ok.inj ok
    have front : Shows "SELECT date_trunc('hour', ts) AS hour, hostname, " [] := by decide
    have means := shows_selection front (show Unquoted "avg" by decide)
      (subset_of_firstMetrics found)
    have rest := shows_unquoted
      (show Unquoted " GROUP BY hour, hostname ORDER BY hour, hostname" by decide)
    exact ⟨window, drawn, isAbout_query (Interval.readAs_of_ok precise drawn) _ means rest⟩

/-- The rows above the threshold are about the window that was drawn for them. -/
theorem isAbout_of_aboveThreshold (precise : w.interval.Precise) {hosts : Nat}
    (ok : (w.aboveThreshold s hosts).1 = .ok q) :
    ∃ window, (w.interval.randomWindow s (hours 12)).1 = .ok window ∧
      q.IsAbout w.interval (hours 12) window := by
  obtain ⟨window, s, drawn, ok⟩ := andThen_ok ok
  have readAs := Interval.readAs_of_ok precise drawn
  have front :=
    shows_unquoted (show Unquoted "SELECT * FROM cpu WHERE usage_user > 90.0 AND " by decide)
  refine ⟨window, drawn, ?_⟩
  simp only at ok
  split at ok
  · obtain rfl := Except.ok.inj ok
    have about := isAbout_query readAs (s!"{target} CPU over threshold, all hosts") front
      (shows_unquoted (show Unquoted "" by decide))
    rwa [String.append_empty] at about
  · obtain ⟨drawnHosts, s, _, ok⟩ := andThen_ok ok
    obtain rfl := Except.ok.inj ok
    have both := shows_unquoted (show Unquoted " AND " by decide)
    have about := isAbout_query readAs (s!"{target} CPU over threshold, {hosts} host(s)") front
      (both.append (shows_hostFilter drawnHosts))
    rwa [← String.append_assoc] at about

/-- The condition on the last time of a window quotes it. -/
theorem quotes_upTo (t : Instant) : Quotes s!"ts < '{t.rfc3339}'" [t.rfc3339] := by
  have apart : s!"ts < '{t.rfc3339}'" = "ts < " ++ ("'" ++ t.rfc3339 ++ "'") := by
    have opening : "ts < '" = "ts < " ++ "'" := rfl
    simp only [toString, opening, String.append_assoc]
  rw [apart]
  exact (quotes_unquoted (show Unquoted "ts < " by decide)).append
    (quotes_quoted t.unquoted_rfc3339)

/-- The statement for the last five minutes, with its condition on the time. -/
theorem sql_of_lastFiveMinutes (ok : (w.lastFiveMinutes s).1 = .ok q) :
    ∃ window, (w.interval.randomWindow s (hours 1)).1 = .ok window ∧
      q.sql = "SELECT date_trunc('minute', ts) AS minute, max(usage_user) FROM cpu WHERE " ++
        s!"ts < '{window.stop.rfc3339}'" ++ " GROUP BY minute ORDER BY minute DESC LIMIT 5" ∧
      Quotes q.sql ["minute", window.stop.rfc3339] ∧
      q.description = q.label ++ ": " ++ window.stop.rfc3339 := by
  obtain ⟨window, s, drawn, ok⟩ := andThen_ok ok
  obtain rfl := Except.ok.inj ok
  have front : Quotes
      "SELECT date_trunc('minute', ts) AS minute, max(usage_user) FROM cpu WHERE " ["minute"] := by
    decide
  have rest := quotes_unquoted
    (show Unquoted " GROUP BY minute ORDER BY minute DESC LIMIT 5" by decide)
  have sql : "SELECT date_trunc('minute', ts) AS minute, max(usage_user) FROM cpu WHERE " ++
      s!"ts < '{window.stop.rfc3339}' GROUP BY minute ORDER BY minute DESC LIMIT 5" =
      "SELECT date_trunc('minute', ts) AS minute, max(usage_user) FROM cpu WHERE " ++
        s!"ts < '{window.stop.rfc3339}'" ++ " GROUP BY minute ORDER BY minute DESC LIMIT 5" := by
    have ending : "' GROUP BY minute ORDER BY minute DESC LIMIT 5" =
      "'" ++ " GROUP BY minute ORDER BY minute DESC LIMIT 5" := rfl
    simp only [toString, ending, String.append_assoc]
  refine ⟨window, drawn, sql, ?_, rfl⟩
  simp only [query, sql]
  exact (front.append (quotes_upTo window.stop)).append rest

/-- The last minutes are those before the end of the window that was drawn for them. -/
theorem isUpTo_of_lastFiveMinutes (precise : w.interval.Precise)
    (ok : (w.lastFiveMinutes s).1 = .ok q) :
    ∃ window, (w.interval.randomWindow s (hours 1)).1 = .ok window ∧
      q.IsUpTo w.interval window := by
  obtain ⟨window, drawn, sql, quotes, description⟩ := sql_of_lastFiveMinutes ok
  have readAs := Interval.readAs_of_ok precise drawn
  have unit : Instant.ofRfc3339? "minute" = none := by decide
  have shows : Shows q.sql [window.stop.rfc3339] :=
    shows_iff.mpr ⟨_, quotes, by simp [List.filter, unit, readAs.stop]⟩
  exact ⟨window, drawn, shows.times, ⟨_, _, sql⟩, readAs.stop, readAs.before, description⟩

end Workload

/-- Queries of a workload, made from any stream, on an interval that touches no leap second and ends
in words of nanoseconds, ask for the window that was drawn for them: hosts by the minute and by the
hour in a range of whole seconds, all hosts and rows above the threshold in twelve hours, and the
last five minutes before the end of an hour.

Proof: a query is put together from parts that close the quotes that they open, so the times in it
are those of its window; and a window of whole seconds is read again as one of its length. -/
theorem queries_ask_for_their_windows {w : Workload} (precise : w.interval.Precise)
    (s : Random.Stream) :
    (∀ hosts metrics seconds q, (w.maxByMinute s hosts metrics ⟨seconds, 0⟩).1 = .ok q →
      ∃ window, (w.interval.randomWindow s ⟨seconds, 0⟩).1 = .ok window ∧
        q.IsAbout w.interval ⟨seconds, 0⟩ window) ∧
    (∀ hosts seconds q, (w.maxAllByHour s hosts ⟨seconds, 0⟩).1 = .ok q →
      ∃ window, (w.interval.randomWindow s ⟨seconds, 0⟩).1 = .ok window ∧
        q.IsAbout w.interval ⟨seconds, 0⟩ window) ∧
    (∀ metrics q, (w.meanByHour s metrics).1 = .ok q →
      ∃ window, (w.interval.randomWindow s ⟨43200, 0⟩).1 = .ok window ∧
        q.IsAbout w.interval ⟨43200, 0⟩ window) ∧
    (∀ hosts q, (w.aboveThreshold s hosts).1 = .ok q →
      ∃ window, (w.interval.randomWindow s ⟨43200, 0⟩).1 = .ok window ∧
        q.IsAbout w.interval ⟨43200, 0⟩ window) ∧
    ∀ q, (w.lastFiveMinutes s).1 = .ok q →
      ∃ window, (w.interval.randomWindow s ⟨3600, 0⟩).1 = .ok window ∧
        q.IsUpTo w.interval window :=
  ⟨fun _ _ _ _ => Workload.isAbout_of_maxByMinute precise,
    fun _ _ _ => Workload.isAbout_of_maxAllByHour precise,
    fun _ _ => Workload.isAbout_of_meanByHour precise,
    fun _ _ => Workload.isAbout_of_aboveThreshold precise,
    fun _ => Workload.isUpTo_of_lastFiveMinutes precise⟩

/-- Two seconds are drawn from some part of the ninth second before the epoch on, and are asked for
from the start of that second on. -/
theorem seconds_before_the_epoch_are_asked_for :
    ∃ q, (Workload.maxByMinute ⟨.beforeEpoch, 10⟩ (.ofSeed 123) 1 1 ⟨2, 0⟩).1 = .ok q ∧
      q.IsAbout .beforeEpoch ⟨2, 0⟩ ⟨⟨-9, 322959560⟩, ⟨-7, 322959560⟩⟩ ∧
      timestamps q.sql = ["1969-12-31T23:59:51Z", "1969-12-31T23:59:53Z"] := by
  have precise : Interval.beforeEpoch.Precise :=
    ⟨by decide, by decide, by decide, by decide⟩
  have kept {α : Type} {answer : Except Stop α} {x : α} (found : answer.toOption = some x) :
      answer = .ok x := by
    cases answer <;> cases found
    rfl
  have drawn : (Interval.beforeEpoch.randomWindow (.ofSeed 123) ⟨2, 0⟩).1 =
      .ok ⟨⟨-9, 322959560⟩, ⟨-7, 322959560⟩⟩ := kept (by decide +kernel)
  have made : (Workload.maxByMinute ⟨.beforeEpoch, 10⟩ (.ofSeed 123) 1 1
      ⟨2, 0⟩).1.toOption.isSome = true := by decide +kernel
  obtain ⟨q, answer⟩ := Option.isSome_iff_exists.mp made
  obtain ⟨window, same, about⟩ :=
    (queries_ask_for_their_windows precise (.ofSeed 123)).1 1 1 2 q (kept answer)
  obtain rfl := Except.ok.inj (drawn.symm.trans same)
  refine ⟨q, kept answer, about, ?_⟩
  rw [about.timestamps]
  decide +kernel

end SeriesBench
