import SeriesBench.Proofs.Query.Samples
import SeriesBench.Proofs.Query.Timestamps

/-!
# Requests that are met

Whether a request is met depends on its parameters, on the interval and on the number of hosts, and
on nothing else: not on the seed, nor on the requests that were made before, met or not. For every
shape there is a condition, and the shapes check its parts in different orders, before a window is
drawn and after. A request that fails it is refused from every stream, with one and the same fault.

A query that was made has the names of as many different hosts as were asked for, which are hosts of
the workload, and takes the first metrics in the order of the columns.
-/

namespace SeriesBench

open Sql

/-- A request for a query: a shape and its parameters, the range of a window among them. -/
inductive Request where
  | maxByMinute (hosts metrics : Nat) (range : Span)
  | maxAllByHour (hosts : Nat) (range : Span)
  | meanByHour (metrics : Nat)
  | aboveThreshold (hosts : Nat)
  | lastPerHost
  | lastFiveMinutes
deriving Repr, DecidableEq

namespace Workload

/-- The answer to a request. -/
def answer (w : Workload) (s : Random.Stream) : Request → Except Stop Query × Random.Stream
  | .maxByMinute hosts metrics range => w.maxByMinute s hosts metrics range
  | .maxAllByHour hosts range => w.maxAllByHour s hosts range
  | .meanByHour metrics => w.meanByHour s metrics
  | .aboveThreshold hosts => w.aboveThreshold s hosts
  | .lastPerHost => (.ok lastPerHost, s)
  | .lastFiveMinutes => w.lastFiveMinutes s

/-- Where the stream has got to after requests, whether they were met or not. -/
def streamAfter (w : Workload) (s : Random.Stream) (requests : List Request) : Random.Stream :=
  requests.foldl (fun s request => (w.answer s request).2) s

end Workload

/-- The request for a query of a shape. -/
def Shape.request : Shape → Request
  | maxByMinute metrics hosts n => .maxByMinute hosts metrics (Workload.hours (n % Nat.pow 2 32))
  | maxAllByHour hosts => .maxAllByHour hosts (Workload.hours 8)
  | meanByHour metrics => .meanByHour metrics
  | aboveThreshold hosts => .aboveThreshold hosts
  | lastPerHost => .lastPerHost
  | lastFiveMinutes => .lastFiveMinutes

/-- A query of a shape is the answer to the shape's request. -/
theorem Workload.generate_eq (w : Workload) (s : Random.Stream) (shape : Shape) :
    w.generate s shape = w.answer s shape.request := by
  cases shape <;> rfl

namespace Request

open Workload

/-- The nanoseconds of a range are those of a part of a second. -/
def Proper : Request → Prop
  | maxByMinute _ _ range => range.nanos < Instant.perSecond
  | maxAllByHour _ range => range.nanos < Instant.perSecond
  | _ => True

/-- The calendar has the latest start of a window of the range that is asked for. -/
def InCalendar (w : Workload) : Request → Prop
  | maxByMinute _ _ range => (w.interval.stop.minus range).isRepresentable = true
  | maxAllByHour _ range => (w.interval.stop.minus range).isRepresentable = true
  | _ => True

/-- What is asked for can be had from a workload: the window is shorter than the interval, there are
as many metrics, and as many hosts. -/
def Possible (w : Workload) : Request → Prop
  | maxByMinute hosts metrics range =>
    range.totalNanos < w.interval.length.totalNanos ∧ (1 ≤ metrics ∧ metrics ≤ 10) ∧
      1 ≤ hosts ∧ hosts ≤ w.hosts
  | maxAllByHour hosts range =>
    range.totalNanos < w.interval.length.totalNanos ∧ 1 ≤ hosts ∧ hosts ≤ w.hosts
  | meanByHour metrics =>
    (hours 12).totalNanos < w.interval.length.totalNanos ∧ 1 ≤ metrics ∧ metrics ≤ 10
  | aboveThreshold hosts =>
    (hours 12).totalNanos < w.interval.length.totalNanos ∧ hosts ≤ w.hosts
  | lastPerHost => True
  | lastFiveMinutes => (hours 1).totalNanos < w.interval.length.totalNanos

end Request

/-- Shapes ask for windows of whole hours, so their requests are proper. -/
theorem Shape.proper_request (shape : Shape) : shape.request.Proper := by
  cases shape <;> simp [request, Request.Proper, Workload.hours, Instant.perSecond]

/-- Whether a text begins as the names of hosts do. -/
def Sql.namesHost (text : String) : Bool :=
  "host_".toList.isPrefixOf text.toList

/-- The names of hosts that a statement quotes. -/
def Sql.hostNames (sql : String) : List String :=
  (readQuoted none sql.toList).1.filter namesHost

/-- A query is about so many different hosts of a workload: the condition on them stands in it, and
their names are the names of hosts that it quotes. -/
def Query.IsOfHosts (q : Query) (w : Workload) (n : Nat) : Prop :=
  ∃ hosts, Random.IsSample w.hosts n hosts ∧ (hosts.map Workload.hostName).Nodup ∧
    hostNames q.sql = hosts.map Workload.hostName ∧
    ∃ before after, q.sql = before ++ Workload.hostFilter hosts ++ after

/-- A query takes a function of each of some columns, in their order, behind what it begins with. -/
def Query.Takes (q : Query) (leading function : String) (columns : List String) : Prop :=
  ∃ rest, q.sql = "SELECT " ++ leading ++ ", " ++
    String.intercalate ", " (columns.map fun column => function ++ "(" ++ column ++ ")") ++
    " FROM cpu WHERE " ++ rest

/-- What a query is about is what was asked for: so many hosts and the first so many metrics. -/
def Request.IsMetBy (w : Workload) : Request → Query → Prop
  | maxByMinute hosts metrics _, q =>
    q.IsOfHosts w hosts ∧
      q.Takes "date_trunc('minute', ts) AS minute" "max" (Workload.metrics.take metrics)
  | maxAllByHour hosts _, q =>
    q.IsOfHosts w hosts ∧ q.Takes "date_trunc('hour', ts) AS hour" "max" Workload.metrics
  | meanByHour metrics, q =>
    hostNames q.sql = [] ∧
      q.Takes "date_trunc('hour', ts) AS hour, hostname" "avg" (Workload.metrics.take metrics)
  | aboveThreshold hosts, q =>
    if hosts = 0 then hostNames q.sql = [] ∧ ¬ "hostname".toList <:+: q.sql.toList
    else q.IsOfHosts w hosts
  | lastPerHost, q => hostNames q.sql = []
  | lastFiveMinutes, q =>
    hostNames q.sql = [] ∧ q.Takes "date_trunc('minute', ts) AS minute" "max" ["usage_user"]

namespace Interval

variable {i : Interval} {window : Span}

/-- The nanoseconds of an interval can be counted: it touches no leap second, its ends are words of
nanoseconds, and so is its length. -/
structure Counted (i : Interval) : Prop extends i.Precise where
  near : i.stop.total - i.start.total < 9223372036854775808

/-- The nanoseconds of a window that is shorter than a counted interval can be counted as well. -/
theorem Counted.measured (counted : i.Counted) (proper : window.nanos < Instant.perSecond)
    (shorter : window.totalNanos < i.length.totalNanos) : i.Measured window := by
  obtain ⟨starts, stops, first, last⟩ := counted.toPrecise
  have near := counted.near
  rw [totalNanos_length starts stops] at shorter
  obtain ⟨least, _⟩ := Numeral.fitsWord_iff.mp first
  obtain ⟨_, most⟩ := Numeral.fitsWord_iff.mp last
  exact ⟨starts, stops, counted.known.representable, proper, first,
    Numeral.fitsWord_iff.mpr (by omega), by omega⟩

/-- A window that is shorter than the interval can be drawn from every stream. -/
theorem exists_window (counted : i.Counted) (proper : window.nanos < Instant.perSecond)
    (shorter : window.totalNanos < i.length.totalNanos) (s : Random.Stream) :
    ∃ drawn after, i.randomWindow s window = (.ok drawn, after) := by
  have found : ∃ drawn, (i.randomWindow s window).1 = .ok drawn := by
    rw [randomWindow_eq]
    exact (fits_windowBy (counted.measured proper shorter)
      fun bound some => s.below_lt .full some).ok_iff.mpr shorter
  cases answered : i.randomWindow s window with
  | mk answer after =>
    rw [answered] at found
    obtain ⟨drawn, rfl⟩ := found
    exact ⟨drawn, after, rfl⟩

/-- Any other window has no bounds, and so it is not drawn from any. -/
theorem exists_stop (counted : i.Counted) (proper : window.nanos < Instant.perSecond)
    (longer : ¬ window.totalNanos < i.length.totalNanos) :
    ∃ stop, ((i.stop.minus window).isRepresentable = true → stop.IsRefusal) ∧
      ∀ s, i.randomWindow s window = (.error stop, s) := by
  have bounding := bounding counted.known proper (i := i)
  unfold randomWindow
  cases found : i.bounds window with
  | ok between =>
    rw [found] at bounding
    cases bounding with
    | found bounded order near word =>
      rw [totalNanos_length counted.starts counted.stops] at longer
      omega
  | error stop =>
    rw [found] at bounding
    refine ⟨stop, fun inside => ?_, fun _ => rfl⟩
    cases bounding with
    | refused refusal bounded => exact refusal
    | unbounded unbounded =>
      have near := counted.near
      rw [Instant.isRepresentable_minus counted.known proper] at inside
      obtain ⟨_, _, before | ⟨_, far⟩⟩ := unbounded <;> omega

end Interval

/-- Whether there is an answer depends on a condition only. If there is none then for one reason,
which is that the parameters are refused unless the calendar is left. -/
inductive Decided {ι α : Type} (possible inCalendar : Prop)
    (answers : ι → Except Stop α × Random.Stream) : Prop
  | met (holds : possible) (all : ∀ i, ∃ x after, answers i = (.ok x, after))
  | refused (fails : ¬ possible) {stop : Stop} (refusal : inCalendar → stop.IsRefusal)
    (all : ∀ i, ∃ after, answers i = (.error stop, after))

namespace Decided

variable {ι α β : Type} {first second inCalendar : Prop}

/-- Conditions that come to the same decide the same. -/
theorem congr {answers : ι → Except Stop α × Random.Stream}
    (decided : Decided first inCalendar answers) (same : first ↔ second) :
    Decided second inCalendar answers := by
  cases decided with
  | met holds all => exact .met (same.mp holds) all
  | refused fails refusal all => exact .refused (fun holds => fails (same.mpr holds)) refusal all

/-- It may be required of the calendar more than is needed. -/
theorem of_imp {possible other : Prop} {answers : ι → Except Stop α × Random.Stream}
    (decided : Decided possible inCalendar answers) (calendar : other → inCalendar) :
    Decided possible other answers := by
  cases decided with
  | met holds all => exact .met holds all
  | refused fails refusal all => exact .refused fails (fun holds => refusal (calendar holds)) all

/-- What is made of something that is drawn is decided if both steps are, the first one first. -/
theorem andThen {drawn : ι → Except Stop α × Random.Stream}
    {next : ι → α → Random.Stream → Except Stop β × Random.Stream}
    (one : Decided first inCalendar drawn)
    (two : Decided second inCalendar fun all : ι × α × Random.Stream =>
      next all.1 all.2.1 all.2.2) :
    Decided (first ∧ second) inCalendar fun i => Workload.andThen (drawn i) (next i) := by
  cases one with
  | refused fails refusal all =>
    refine .refused (fun both => fails both.1) refusal fun i => ?_
    obtain ⟨after, failed⟩ := all i
    exact ⟨after, by rw [failed, Workload.andThen]⟩
  | met holds all =>
    cases two with
    | met holds' all' =>
      refine .met ⟨holds, holds'⟩ fun i => ?_
      obtain ⟨x, after, ok⟩ := all i
      rw [ok]
      exact all' (i, x, after)
    | refused fails refusal all' =>
      refine .refused (fun both => fails both.2) refusal fun i => ?_
      obtain ⟨x, after, ok⟩ := all i
      rw [ok]
      exact all' (i, x, after)

/-- A step that always has a result decides nothing. -/
theorem always {answers : ι → Except Stop α × Random.Stream}
    (all : ∀ i, ∃ x after, answers i = (.ok x, after)) : Decided True inCalendar answers :=
  .met trivial all

end Decided

/-- A window is drawn if it is shorter than the interval. -/
theorem Interval.decided_window {i : Interval} {window : Span} (counted : i.Counted)
    (proper : window.nanos < Instant.perSecond) :
    Decided (window.totalNanos < i.length.totalNanos)
      ((i.stop.minus window).isRepresentable = true) fun s => i.randomWindow s window := by
  by_cases shorter : window.totalNanos < i.length.totalNanos
  · exact .met shorter (exists_window counted proper shorter)
  · obtain ⟨stop, refusal, all⟩ := exists_stop counted proper shorter
    exact .refused shorter refusal fun s => ⟨s, all s⟩

/-- Some hours before a word of nanoseconds are in the calendar. -/
theorem Interval.decided_hours {i : Interval} (counted : i.Counted) {n : Nat} (few : n ≤ 12) :
    Decided ((Workload.hours n).totalNanos < i.length.totalNanos) True
      fun s => i.randomWindow s (Workload.hours n) := by
  have proper : (Workload.hours n).nanos < Instant.perSecond := by
    simp [Workload.hours, Instant.perSecond]
  refine (decided_window counted proper).of_imp fun _ => ?_
  obtain ⟨least, _⟩ := Numeral.fitsWord_iff.mp counted.last
  rw [Instant.isRepresentable_minus counted.known proper, Instant.calendarStart_eq]
  simp only [Workload.hours, Span.totalNanos]
  omega

namespace Workload

/-- What is made of the first metrics is decided by their number and by what is made of them. -/
theorem decided_metrics {ι α : Type} {n : Nat} {second inCalendar : Prop}
    {stream : ι → Random.Stream} {next : List String → ι → Except Stop α × Random.Stream}
    (rest : Decided second inCalendar fun i => next (metrics.take n) i) :
    Decided ((1 ≤ n ∧ n ≤ 10) ∧ second) inCalendar fun i =>
      match firstMetrics n with
      | .error stop => (Except.error stop, stream i)
      | .ok names => next names i := by
  by_cases few : 1 ≤ n ∧ n ≤ 10
  · have first : firstMetrics n = .ok (metrics.take n) := if_pos few
    simp only [first]
    exact rest.congr (iff_and_self.mpr fun _ => few)
  · have refused : firstMetrics n = .error _ := if_neg few
    simp only [refused]
    exact .refused (fun both => few both.1) (fun _ => firstMetrics_error refused)
      fun _ => ⟨_, rfl⟩

/-- Hosts are drawn if there are that many, and at least one is asked for. The two checks come
before the draw, so the stream has no part in it. -/
theorem decided_hosts {ι : Type} (w : Workload) (n : Nat) (inCalendar : Prop)
    (stream : ι → Random.Stream) :
    Decided (1 ≤ n ∧ n ≤ w.hosts) inCalendar fun i => w.randomHosts (stream i) n := by
  unfold randomHosts
  by_cases none : n = 0
  · exact .refused (by omega) (fun _ => ⟨_, rfl⟩) fun _ => ⟨_, by rw [if_pos none]⟩
  by_cases many : w.hosts < n
  · exact .refused (by omega) (fun _ => ⟨_, rfl⟩) fun _ =>
      ⟨_, by rw [if_neg none, if_pos many]⟩
  · exact .met (by omega) fun _ => ⟨_, _, by rw [if_neg none, if_neg many]⟩

/-- The window is drawn first. The metrics are checked after that, and the hosts last. -/
theorem decided_maxByMinute {w : Workload} (counted : w.interval.Counted) (hosts metrics : Nat)
    {range : Span} (proper : range.nanos < Instant.perSecond) :
    Decided (Request.Possible w (.maxByMinute hosts metrics range))
      ((w.interval.stop.minus range).isRepresentable = true)
      fun s => w.maxByMinute s hosts metrics range := by
  unfold maxByMinute
  refine ((Interval.decided_window counted proper).andThen (decided_metrics
    (.andThen (decided_hosts w hosts _ _) (.always fun _ => ⟨_, _, rfl⟩)))).congr ?_
  simp [Request.Possible]

/-- The window is drawn first, and the hosts are checked after that. -/
theorem decided_maxAllByHour {w : Workload} (counted : w.interval.Counted) (hosts : Nat)
    {range : Span} (proper : range.nanos < Instant.perSecond) :
    Decided (Request.Possible w (.maxAllByHour hosts range))
      ((w.interval.stop.minus range).isRepresentable = true)
      fun s => w.maxAllByHour s hosts range := by
  unfold maxAllByHour
  refine ((Interval.decided_window counted proper).andThen
    (.andThen (decided_hosts w hosts _ _) (.always fun _ => ⟨_, _, rfl⟩))).congr ?_
  simp [Request.Possible]

/-- The metrics are checked before a window of twelve hours is drawn. -/
theorem decided_meanByHour {w : Workload} (counted : w.interval.Counted) (metrics : Nat) :
    Decided (Request.Possible w (.meanByHour metrics)) True fun s => w.meanByHour s metrics := by
  unfold meanByHour
  refine (decided_metrics (.andThen (Interval.decided_hours counted (by decide))
    (.always fun _ => ⟨_, _, rfl⟩))).congr ?_
  simp [Request.Possible, and_comm]

/-- A window of twelve hours is drawn first. Without a number of hosts nothing else is checked. -/
theorem decided_aboveThreshold {w : Workload} (counted : w.interval.Counted) (hosts : Nat) :
    Decided (Request.Possible w (.aboveThreshold hosts)) True
      fun s => w.aboveThreshold s hosts := by
  unfold aboveThreshold
  have window := Interval.decided_hours counted (show 12 ≤ 12 by decide)
  by_cases all : hosts = 0
  · subst all
    refine (window.andThen (.always fun _ => ⟨_, _, rfl⟩)).congr ?_
    simp [Request.Possible]
  · simp only [if_neg all]
    refine (window.andThen (.andThen (decided_hosts w hosts _ _)
      (.always fun _ => ⟨_, _, rfl⟩))).congr ?_
    simp [Request.Possible, Nat.one_le_iff_ne_zero, all]

/-- Only the window of an hour can be refused. -/
theorem decided_lastFiveMinutes {w : Workload} (counted : w.interval.Counted) :
    Decided (Request.Possible w .lastFiveMinutes) True fun s => w.lastFiveMinutes s := by
  unfold lastFiveMinutes
  refine ((Interval.decided_hours counted (by decide)).andThen
    (.always fun _ => ⟨_, _, rfl⟩)).congr ?_
  simp [Request.Possible]

/-- Whether a request is met is decided by its parameters, whichever the stream. -/
theorem decided_answer {w : Workload} (counted : w.interval.Counted) {request : Request}
    (proper : request.Proper) :
    Decided (request.Possible w) (request.InCalendar w) fun s => w.answer s request := by
  cases request with
  | maxByMinute hosts metrics range => exact decided_maxByMinute counted hosts metrics proper
  | maxAllByHour hosts range => exact decided_maxAllByHour counted hosts proper
  | meanByHour metrics => exact decided_meanByHour counted metrics
  | aboveThreshold hosts => exact decided_aboveThreshold counted hosts
  | lastPerHost => exact .always fun s => ⟨_, _, rfl⟩
  | lastFiveMinutes => exact decided_lastFiveMinutes counted

/-- Different hosts have different names, because a number is told by its digits. -/
theorem hostName_injective : Function.Injective hostName := by
  intro i j same
  rw [hostName_eq, hostName_eq, String.append_right_inj] at same
  have digits := congrArg (fun text => Nat.ofDigitChars 10 (String.toList text) 0) same
  simpa [Nat.toList_repr] using digits

/-- The hosts that were drawn are as many different ones as were asked for. -/
theorem isSample_of_randomHosts {w : Workload} {s : Random.Stream} {n : Nat} {hosts : List Nat}
    (ok : (w.randomHosts s n).1 = .ok hosts) : Random.IsSample w.hosts n hosts := by
  unfold randomHosts at ok
  split_ifs at ok with none many
  · obtain rfl := Except.ok.inj ok
    exact Random.isSample_sample (Nat.not_lt.mp many) s

/-- The name of a host begins as such names do. -/
@[simp] theorem namesHost_hostName (index : Nat) : namesHost (hostName index) = true := by
  rw [namesHost, hostName_eq, String.toList_append, List.isPrefixOf_iff_prefix]
  exact List.prefix_append _ _

/-- The text of an instant has no letter h, so it is not taken for the name of a host. -/
@[simp] theorem namesHost_rfc3339 (t : Instant) : namesHost t.rfc3339 = false := by
  have letter : 'h' ∉ t.rfc3339.toList := t.not_mem_rfc3339 (by decide) (by decide)
  rw [← Bool.not_eq_true, namesHost, List.isPrefixOf_iff_prefix]
  exact fun front => letter (front.subset (by decide))

end Workload

open Workload

/-- The names of hosts in a statement are found among the texts that it quotes. -/
theorem Sql.hostNames_eq {sql : String} {texts : List String} (quotes : Quotes sql texts) :
    hostNames sql = texts.filter namesHost := by
  rw [hostNames, quotes]

/-- The hosts that a query is about, from what stands in front of the condition on them and behind
it. -/
theorem Query.isOfHosts_of_sql {q : Query} {w : Workload} {n : Nat} {hosts : List Nat}
    (sample : Random.IsSample w.hosts n hosts) {before after : String} {early late : List String}
    (sql : q.sql = before ++ hostFilter hosts ++ after) (front : Quotes before early)
    (rest : Quotes after late) (first : early.filter namesHost = [])
    (last : late.filter namesHost = []) : q.IsOfHosts w n := by
  have quotes := (front.append (quotes_hostFilter hosts)).append rest
  have named : (hosts.map hostName).filter namesHost = hosts.map hostName := by simp
  refine ⟨hosts, sample, sample.nodup.map hostName_injective, ?_, before, after, sql⟩
  rw [hostNames_eq (sql ▸ quotes), List.filter_append, List.filter_append, first, last, named,
    List.nil_append, List.append_nil]

/-- A statement that selects a function of some columns takes them, whatever it goes on with. -/
theorem Query.takes_of_sql {q : Query} {function : String} {columns : List String}
    {opening leading condition rest : String}
    (sql : q.sql = opening ++ aggregate function columns ++ " FROM cpu WHERE " ++ condition ++ rest)
    (opens : opening = "SELECT " ++ leading ++ ", ") : q.Takes leading function columns := by
  refine ⟨condition ++ rest, ?_⟩
  rw [sql, opens, String.append_assoc]
  rfl

/-- What a statement quotes that selects from a window. -/
theorem quotes_windowed (window : Interval) {before after : String} {texts : List String}
    (front : Quotes before texts) (rest : Unquoted after) :
    Quotes (before ++ windowFilter window ++ after)
      (texts ++ [window.start.rfc3339, window.stop.rfc3339]) := by
  simpa using (front.append (quotes_windowFilter window)).append (quotes_unquoted rest)

/-- The queries that group the maxima of some hosts by a unit of time. -/
theorem Query.asks_of_maxima {q : Query} {w : Workload} {n : Nat} {hosts : List Nat}
    (sample : Random.IsSample w.hosts n hosts) {window : Interval} {names units : List String}
    (known : names ⊆ metrics) {opening leading ending : String}
    (sql : q.sql = opening ++ aggregate "max" names ++ " FROM cpu WHERE " ++ hostFilter hosts ++
      " AND " ++ windowFilter window ++ ending)
    (opens : opening = "SELECT " ++ leading ++ ", ") (front : Quotes opening units)
    (noHosts : units.filter namesHost = []) (ends : Unquoted ending) :
    q.IsOfHosts w n ∧ q.Takes leading "max" names := by
  have list := quotes_selection front (show Unquoted "max" by decide) known
  have rest := quotes_windowed window (quotes_unquoted (show Unquoted " AND " by decide)) ends
  have whole : q.sql = opening ++ aggregate "max" names ++ " FROM cpu WHERE " ++ hostFilter hosts ++
      (" AND " ++ windowFilter window ++ ending) := by
    simp only [sql, String.append_assoc]
  exact ⟨isOfHosts_of_sql sample whole list rest noHosts (by simp), takes_of_sql whole opens⟩

namespace Workload

variable {w : Workload} {s : Random.Stream} {q : Query}

/-- The maxima by the minute are those of the hosts and metrics asked for. -/
theorem isMetBy_of_maxByMinute {hosts metrics : Nat} {range : Span}
    (ok : (w.maxByMinute s hosts metrics range).1 = .ok q) :
    Request.IsMetBy w (.maxByMinute hosts metrics range) q := by
  obtain ⟨window, s, _, ok⟩ := andThen_ok ok
  cases found : firstMetrics metrics with
  | error stop =>
    rw [found] at ok
    cases ok
  | ok names =>
    rw [found] at ok
    obtain rfl := firstMetrics_ok found
    obtain ⟨drawn, s, sampled, ok⟩ := andThen_ok ok
    obtain rfl := Except.ok.inj ok
    exact Query.asks_of_maxima (isSample_of_randomHosts sampled)
      (List.take_subset metrics Workload.metrics) rfl rfl
      (show Quotes _ ["minute"] by decide) (by decide) (by decide)

/-- The maxima by the hour are those of all metrics of the hosts asked for. -/
theorem isMetBy_of_maxAllByHour {hosts : Nat} {range : Span}
    (ok : (w.maxAllByHour s hosts range).1 = .ok q) :
    Request.IsMetBy w (.maxAllByHour hosts range) q := by
  obtain ⟨window, s, _, ok⟩ := andThen_ok ok
  obtain ⟨drawn, s, sampled, ok⟩ := andThen_ok ok
  obtain rfl := Except.ok.inj ok
  exact Query.asks_of_maxima (isSample_of_randomHosts sampled) (List.Subset.refl metrics) rfl rfl
    (show Quotes _ ["hour"] by decide) (by decide) (by decide)

/-- The means by the hour are those of the metrics asked for, over all hosts. -/
theorem isMetBy_of_meanByHour {metrics : Nat} (ok : (w.meanByHour s metrics).1 = .ok q) :
    Request.IsMetBy w (.meanByHour metrics) q := by
  rw [meanByHour] at ok
  cases found : firstMetrics metrics with
  | error stop =>
    rw [found] at ok
    cases ok
  | ok names =>
    rw [found] at ok
    obtain rfl := firstMetrics_ok found
    obtain ⟨window, s, _, ok⟩ := andThen_ok ok
    obtain rfl := Except.ok.inj ok
    have front : Quotes "SELECT date_trunc('hour', ts) AS hour, hostname, " ["hour"] := by decide
    have list := quotes_selection front (show Unquoted "avg" by decide)
      (List.take_subset metrics Workload.metrics)
    have ending : Unquoted " GROUP BY hour, hostname ORDER BY hour, hostname" := by decide
    constructor
    · have unit : namesHost "hour" = false := by decide
      exact (hostNames_eq (quotes_windowed _ list ending)).trans (by simp [unit])
    · exact Query.takes_of_sql rfl rfl

/-- The rows above the threshold are those of the hosts asked for, or of all hosts if none was asked
for; then the statement does not speak of hosts at all. -/
theorem isMetBy_of_aboveThreshold {hosts : Nat} (ok : (w.aboveThreshold s hosts).1 = .ok q) :
    Request.IsMetBy w (.aboveThreshold hosts) q := by
  obtain ⟨window, s, _, ok⟩ := andThen_ok ok
  have front : Unquoted "SELECT * FROM cpu WHERE usage_user > 90.0 AND " := by decide
  have unlettered : 'h' ∉
      ("SELECT * FROM cpu WHERE usage_user > 90.0 AND " ++ windowFilter window).toList := by
    have instant (t : Instant) : 'h' ∉ t.rfc3339.toList :=
      t.not_mem_rfc3339 (by decide) (by decide)
    simp [windowFilter, toString, instant]
  simp only at ok
  split at ok
  · rename_i all
    obtain rfl := Except.ok.inj ok
    rw [Request.IsMetBy, if_pos all]
    have quotes := (quotes_unquoted front).append (quotes_windowFilter window)
    refine ⟨(hostNames_eq quotes).trans (by simp), fun inside => ?_⟩
    have letter := inside.subset (show 'h' ∈ "hostname".toList by decide)
    exact unlettered letter
  · rename_i some
    obtain ⟨drawn, s, sampled, ok⟩ := andThen_ok ok
    obtain rfl := Except.ok.inj ok
    rw [Request.IsMetBy, if_neg some]
    have list := quotes_windowed window (quotes_unquoted front) (show Unquoted " AND " by decide)
    exact Query.isOfHosts_of_sql (isSample_of_randomHosts sampled) (String.append_empty).symm list
      (quotes_unquoted (show Unquoted "" by decide)) (by simp) rfl

/-- The maxima of the last minutes are those of one metric, over all hosts. -/
theorem isMetBy_of_lastFiveMinutes (ok : (w.lastFiveMinutes s).1 = .ok q) :
    Request.IsMetBy w .lastFiveMinutes q := by
  obtain ⟨window, _, sql, quotes, _⟩ := sql_of_lastFiveMinutes ok
  have unit : namesHost "minute" = false := by decide
  exact ⟨(hostNames_eq quotes).trans (by simp [unit]), _, sql.trans (String.append_assoc ..)⟩

/-- A query that was made is about what was asked for. -/
theorem isMetBy_of_answer {request : Request} (ok : (w.answer s request).1 = .ok q) :
    request.IsMetBy w q := by
  cases request with
  | maxByMinute hosts metrics range => exact isMetBy_of_maxByMinute ok
  | maxAllByHour hosts range => exact isMetBy_of_maxAllByHour ok
  | meanByHour metrics => exact isMetBy_of_meanByHour ok
  | aboveThreshold hosts => exact isMetBy_of_aboveThreshold ok
  | lastPerHost =>
    obtain rfl := Except.ok.inj ok
    exact hostNames_eq (quotes_unquoted (unquoted_append.mpr ⟨by decide, by decide⟩))
  | lastFiveMinutes => exact isMetBy_of_lastFiveMinutes ok

/-- As many queries as were asked for, if each of them is made whatever the stream. -/
theorem generateMany_of_met {shape : Shape}
    (all : ∀ s, ∃ q after, w.generate s shape = (.ok q, after)) (s : Random.Stream) (count : Nat) :
    ∃ queries, w.generateMany shape s count = .ok queries ∧ queries.length = count ∧
      ∀ q ∈ queries, ∃ s, (w.generate s shape).1 = .ok q := by
  induction count generalizing s with
  | zero => exact ⟨[], rfl, rfl, by simp⟩
  | succ count ih =>
    obtain ⟨first, after, made⟩ := all s
    obtain ⟨others, rest, length, each⟩ := ih after
    refine ⟨first :: others, ?_, by rw [List.length_cons, length], ?_⟩
    · rw [generateMany, made]
      simp only [rest, Except.map]
    · exact List.forall_mem_cons.mpr ⟨⟨s, by rw [made]⟩, each⟩

/-- If the first of many queries is refused, so are all of them. -/
theorem generateMany_of_refused {shape : Shape} {stop : Stop} {s after : Random.Stream}
    (refused : w.generate s shape = (.error stop, after)) (count : Nat) :
    w.generateMany shape s (count + 1) = .error stop := by
  rw [generateMany, refused]

end Workload

/-- What comes of requests to a workload, as long as the nanoseconds of its interval can be counted.

* After any requests with any seed, whether they were met or not, a request is met exactly if what
  it asks for can be had, and then the query is about that: it has the names of as many different
  hosts as were asked for, and takes the first so many metrics.
* If it cannot be had there is one reason for it, the same for all streams; and if the calendar has
  the latest start of a window, the reason is that the parameters are refused.
* Of many queries of one shape all are made, or the first one is not.

Proof: for every step of making a query it is `Decided` by a condition whether it succeeds, and so
it is for steps in turn. What a query is about is read from its text, where only names of hosts
begin as such names do. -/
theorem requests_are_met_alike {w : Workload} (counted : w.interval.Counted) :
    (∀ (seed : UInt64) (earlier : List Request) (request : Request), request.Proper →
      let s := w.streamAfter (.ofSeed seed) earlier
      ((∃ q, (w.answer s request).1 = .ok q) ↔ request.Possible w) ∧
        ∀ q, (w.answer s request).1 = .ok q → request.IsMetBy w q) ∧
    (∀ request : Request, request.Proper → ¬ request.Possible w →
      ∃ stop, (request.InCalendar w → stop.IsRefusal) ∧
        ∀ s, (w.answer s request).1 = .error stop) ∧
    ∀ (shape : Shape) (s : Random.Stream) (count : Nat),
      (shape.request.Possible w →
        ∃ queries, w.generateMany shape s count = .ok queries ∧ queries.length = count ∧
          ∀ q ∈ queries, shape.request.IsMetBy w q) ∧
      (¬ shape.request.Possible w →
        ∃ stop, (w.generate s shape).1 = .error stop ∧
          w.generateMany shape s (count + 1) = .error stop) := by
  refine ⟨fun seed earlier request proper => ?_, fun request proper impossible => ?_,
    fun shape s count => ?_⟩
  · intro s
    refine ⟨?_, fun q => Workload.isMetBy_of_answer⟩
    cases Workload.decided_answer counted proper with
    | met holds all =>
      obtain ⟨q, after, made⟩ := all s
      exact ⟨fun _ => holds, fun _ => ⟨q, congrArg Prod.fst made⟩⟩
    | refused fails refusal all =>
      obtain ⟨after, refused⟩ := all s
      refine ⟨fun ⟨q, ok⟩ => ?_, fun holds => absurd holds fails⟩
      rw [refused] at ok
      cases ok
  · cases Workload.decided_answer counted proper with
    | met holds all => exact absurd holds impossible
    | @refused fails stop refusal all =>
      refine ⟨stop, refusal, fun s => ?_⟩
      obtain ⟨after, refused⟩ := all s
      rw [refused]
  · cases Workload.decided_answer counted shape.proper_request with
    | met holds all =>
      simp only [← Workload.generate_eq] at all
      refine ⟨fun _ => ?_, fun fails => absurd holds fails⟩
      obtain ⟨queries, made, length, each⟩ := Workload.generateMany_of_met all s count
      refine ⟨queries, made, length, fun q member => ?_⟩
      obtain ⟨s, ok⟩ := each q member
      rw [Workload.generate_eq] at ok
      exact Workload.isMetBy_of_answer ok
    | refused fails refusal all =>
      obtain ⟨after, refused⟩ := all s
      rw [← Workload.generate_eq] at refused
      exact ⟨fun holds => absurd holds fails, fun _ => ⟨_, by rw [refused],
        Workload.generateMany_of_refused refused count⟩⟩

/-- Ten hosts in nearly two days around the epoch. -/
def Workload.twoDays : Workload := ⟨⟨⟨-86400, 500000000⟩, ⟨86400, 0⟩⟩, 10⟩

/-- After a request for too many metrics and one for too many hosts, for which a window had been
drawn already, all ten hosts can be had in twelve hours, but nothing in a window as long as the
interval; and every query for all metrics by the hour is made. -/
theorem two_days_are_asked_for :
    let s := Workload.twoDays.streamAfter (.ofSeed 7) [.meanByHour 11, .maxAllByHour 11 ⟨1, 0⟩]
    (∃ q, (Workload.twoDays.answer s (.aboveThreshold 10)).1 = .ok q ∧
      q.IsOfHosts Workload.twoDays 10) ∧
    (¬ ∃ q, (Workload.twoDays.answer s (.maxByMinute 1 1 ⟨172799, 500000000⟩)).1 = .ok q) ∧
    (∃ stop, stop.IsRefusal ∧ ∀ s, (Workload.twoDays.answer s (.maxAllByHour 11 ⟨1, 0⟩)).1 =
      .error stop) ∧
    ∃ queries, Workload.twoDays.generateMany (.meanByHour 10) s 3 = .ok queries ∧
      queries.length = 3 := by
  intro s
  have counted : Workload.twoDays.interval.Counted :=
    { starts := by decide, stops := by decide, first := by decide, last := by decide,
      near := by decide }
  obtain ⟨each, refused, many⟩ := requests_are_met_alike counted
  obtain ⟨above, about⟩ := each 7 [.meanByHour 11, .maxAllByHour 11 ⟨1, 0⟩] (.aboveThreshold 10)
    trivial
  obtain ⟨whole, _⟩ := each 7 [.meanByHour 11, .maxAllByHour 11 ⟨1, 0⟩]
    (.maxByMinute 1 1 ⟨172799, 500000000⟩) (show 500000000 < Instant.perSecond by decide)
  obtain ⟨q, made⟩ := above.mpr ⟨by decide, by decide⟩
  obtain ⟨stop, refusal, all⟩ := refused (.maxAllByHour 11 ⟨1, 0⟩)
    (show 0 < Instant.perSecond by decide) (fun possible => absurd possible.2.2 (by decide))
  obtain ⟨queries, made', length, _⟩ := (many (.meanByHour 10) s 3).1
    ⟨by decide, by decide, by decide⟩
  exact ⟨⟨q, made, about q made⟩, whole.not.mpr fun possible => absurd possible.1 (by decide),
    ⟨stop, refusal (show Instant.isRepresentable _ = true by decide), all⟩, queries, made', length⟩

end SeriesBench
