import Mathlib.Data.List.Forall2
import Mathlib.Data.List.Induction
import Mathlib.Data.List.Perm.Basic
import Mathlib.Data.String.Basic
import SeriesBench.Query.Runner

/-!
# What latencies tell

Latencies are kept of answers that came one after the other. What they tell of them is how many
failed and, for each label, how many succeeded and the least and the greatest of their times. That
does not depend on the order of the answers, and of two runs it can be told from what the latencies
of each tell: merging is what recording all answers in one place comes to.

Sums of times are not part of this. They are rounded one after the other, so they do depend on the
order.
-/

namespace SeriesBench

/-- What became of a query. -/
abbrev Reply := Except Fault Answered

namespace Reply

/-- The time that a query of some label took, if it succeeded. -/
def timeFor? (label : String) : Reply → Option Nat
  | .ok answered => if answered.label = label then some answered.elapsed.millis else none
  | .error _ => none

end Reply

/-- The times of the answers for a label. -/
def timesFor (label : String) (replies : List Reply) : List Nat :=
  replies.filterMap (Reply.timeFor? label)

/-- The times of replies in two parts are those of both. -/
theorem timesFor_append (label : String) (xs ys : List Reply) :
    timesFor label (xs ++ ys) = timesFor label xs ++ timesFor label ys :=
  List.filterMap_append

namespace LabelStats

/-- The statistics are those of some times: how many there are, and that the least and the greatest
are among them. -/
structure Covers (s : LabelStats) (times : List Nat) : Prop where
  count : s.count = times.length
  least : s.least ∈ times ∧ ∀ time ∈ times, s.least ≤ time
  greatest : s.greatest ∈ times ∧ ∀ time ∈ times, time ≤ s.greatest

/-- One time is covered by its own statistics. -/
theorem covers_single (time : Nat) : (single time).Covers [time] := by
  constructor <;> simp [single]

/-- Statistics join as the times do. -/
theorem Covers.join {a b : LabelStats} {xs ys : List Nat} (one : a.Covers xs) (two : b.Covers ys) :
    (a.join b).Covers (xs ++ ys) := by
  constructor
  · simp [LabelStats.join, one.count, two.count]
  · constructor
    · rcases Nat.le_total a.least b.least with le | le
      · simp [LabelStats.join, Nat.min_eq_left le, one.least.1]
      · simp [LabelStats.join, Nat.min_eq_right le, two.least.1]
    · intro time member
      rcases List.mem_append.mp member with here | there
      · exact (Nat.min_le_left _ _).trans (one.least.2 time here)
      · exact (Nat.min_le_right _ _).trans (two.least.2 time there)
  · constructor
    · rcases Nat.le_total a.greatest b.greatest with le | le
      · simp [LabelStats.join, Nat.max_eq_right le, two.greatest.1]
      · simp [LabelStats.join, Nat.max_eq_left le, one.greatest.1]
    · intro time member
      rcases List.mem_append.mp member with here | there
      · exact (one.greatest.2 time here).trans (Nat.le_max_left _ _)
      · exact (two.greatest.2 time there).trans (Nat.le_max_right _ _)

/-- The order of the times does not matter. -/
theorem Covers.perm {s : LabelStats} {xs ys : List Nat} (covers : s.Covers xs) (same : xs.Perm ys) :
    s.Covers ys where
  count := covers.count.trans same.length_eq
  least := by simpa only [same.mem_iff] using covers.least
  greatest := by simpa only [same.mem_iff] using covers.greatest

/-- Statistics of the same times agree but for the sum. -/
theorem Covers.unique {a b : LabelStats} {times : List Nat} (one : a.Covers times)
    (two : b.Covers times) :
    a.count = b.count ∧ a.least = b.least ∧ a.greatest = b.greatest := by
  refine ⟨one.count.trans two.count.symm, ?_, ?_⟩
  · exact Nat.le_antisymm (one.least.2 _ two.least.1) (two.least.2 _ one.least.1)
  · exact Nat.le_antisymm (two.greatest.2 _ one.greatest.1) (one.greatest.2 _ two.greatest.1)

end LabelStats

namespace Latencies

/-- Labels in rising order, none of them twice. -/
def Rising (labels : List (String × LabelStats)) : Prop :=
  labels.Pairwise fun one two => one.1 < two.1

/-- The labels of a table to which one is added. -/
theorem mem_add {label : String} {stats : LabelStats} {labels : List (String × LabelStats)}
    {entry : String × LabelStats} (member : entry ∈ add label stats labels) :
    entry.1 = label ∨ ∃ known ∈ labels, known.1 = entry.1 := by
  induction labels with
  | nil => exact Or.inl (by simp [List.mem_singleton.mp member])
  | cons first rest ih =>
    obtain ⟨other, known⟩ := first
    unfold add at member
    split at member
    · rename_i same
      rcases List.mem_cons.mp member with rfl | old
      · exact Or.inl same.symm
      · exact Or.inr ⟨entry, List.mem_cons_of_mem _ old, rfl⟩
    · split at member
      · rcases List.mem_cons.mp member with rfl | old
        · exact Or.inl rfl
        · exact Or.inr ⟨entry, old, rfl⟩
      · rcases List.mem_cons.mp member with rfl | old
        · exact Or.inr ⟨_, List.mem_cons_self, rfl⟩
        · exact (ih old).imp_right fun ⟨known, inside, same⟩ =>
            ⟨known, List.mem_cons_of_mem _ inside, same⟩

/-- Labels stay in order when one of them is noted. -/
theorem rising_add {labels : List (String × LabelStats)} (rising : Rising labels) (label : String)
    (stats : LabelStats) : Rising (add label stats labels) := by
  induction labels with
  | nil => exact List.pairwise_singleton _ _
  | cons first rest ih =>
    obtain ⟨other, known⟩ := first
    obtain ⟨ahead, behind⟩ := List.pairwise_cons.mp rising
    unfold add
    split
    · exact List.pairwise_cons.mpr ⟨ahead, behind⟩
    · rename_i different
      split
      · rename_i less
        refine List.pairwise_cons.mpr ⟨?_, rising⟩
        intro entry member
        rcases List.mem_cons.mp member with rfl | old
        · exact less
        · exact String.lt_trans less (ahead entry old)
      · rename_i notLess
        have greater : other < label := lt_of_le_of_ne (not_lt.mp notLess) (Ne.symm different)
        refine List.pairwise_cons.mpr ⟨?_, ih behind⟩
        intro entry member
        rcases mem_add member with same | ⟨old, inside, same⟩
        · exact same ▸ greater
        · exact same ▸ ahead old inside

/-- A label that is less than all labels of a table is not in it. -/
theorem lookup_of_less {labels : List (String × LabelStats)} {label : String}
    (less : ∀ entry ∈ labels, label < entry.1) : labels.lookup label = none := by
  rw [List.lookup_eq_none_iff]
  intro entry member
  have different : label ≠ entry.1 := fun same => String.lt_irrefl label (same ▸ less entry member)
  simpa using different

/-- What is looked up is found at the first label or behind it. -/
theorem lookup_cons (other : String) (known : LabelStats) (rest : List (String × LabelStats))
    (asked : String) :
    ((other, known) :: rest).lookup asked =
      if asked = other then some known else rest.lookup asked := by
  by_cases its : asked = other
  · simp [its]
  · have apart : (asked == other) = false := beq_eq_false_iff_ne.mpr its
    rw [if_neg its, List.lookup_cons, apart]

/-- What is found in a table to which the statistics of a label are added. -/
theorem lookup_add {labels : List (String × LabelStats)} (rising : Rising labels) (label : String)
    (stats : LabelStats) (asked : String) :
    (add label stats labels).lookup asked =
      if asked = label then Option.merge LabelStats.join (labels.lookup label) (some stats)
      else labels.lookup asked := by
  induction labels with
  | nil =>
    rw [add, lookup_cons]
    rfl
  | cons first rest ih =>
    obtain ⟨other, known⟩ := first
    obtain ⟨ahead, behind⟩ := List.pairwise_cons.mp rising
    unfold add
    by_cases same : label = other
    · subst same
      rw [if_pos rfl, lookup_cons, lookup_cons, lookup_cons, if_pos rfl]
      by_cases its : asked = label
      · rw [if_pos its, if_pos its]
        rfl
      · rw [if_neg its, if_neg its, if_neg its]
    · rw [if_neg same]
      by_cases less : label < other
      · have none : ((other, known) :: rest).lookup label = none := by
          refine lookup_of_less fun entry member => ?_
          rcases List.mem_cons.mp member with rfl | old
          · exact less
          · exact String.lt_trans less (ahead entry old)
        rw [if_pos less, lookup_cons, none]
        rfl
      · rw [if_neg less, lookup_cons, lookup_cons, lookup_cons, ih behind, if_neg same]
        by_cases its : asked = other
        · have apart : asked ≠ label := fun same' => same (same'.symm.trans its)
          rw [if_pos its, if_neg apart, if_pos its]
        · rw [if_neg its, if_neg its]

/-- What is found in a table to which another one is added, label by label. The labels of the other
one rise, so none of them comes again. -/
theorem lookup_addAll {labels others : List (String × LabelStats)} (rising : Rising labels)
    (also : Rising others) (asked : String) :
    let both := others.foldl (fun labels (label, stats) => add label stats labels) labels
    Rising both ∧
      both.lookup asked =
        Option.merge LabelStats.join (labels.lookup asked) (others.lookup asked) := by
  induction others generalizing labels with
  | nil =>
    refine ⟨rising, ?_⟩
    cases found : labels.lookup asked <;> simp [found]
  | cons first rest ih =>
    obtain ⟨other, stats⟩ := first
    obtain ⟨ahead, behind⟩ := List.pairwise_cons.mp also
    obtain ⟨risen, found⟩ := ih (rising_add rising other stats) behind
    refine ⟨risen, ?_⟩
    rw [List.foldl_cons]
    simp only
    rw [found, lookup_add rising, lookup_cons]
    by_cases its : asked = other
    · rw [if_pos its, if_pos its, its, lookup_of_less ahead]
      cases labels.lookup other <;> rfl
    · rw [if_neg its, if_neg its]

/-- How many times a table holds. -/
def countIn (labels : List (String × LabelStats)) : Nat :=
  labels.foldl (fun sum (_, stats) => sum + stats.count) 0

/-- The first label counts first. -/
theorem countIn_cons (label : String) (stats : LabelStats) (rest : List (String × LabelStats)) :
    countIn ((label, stats) :: rest) = stats.count + countIn rest := by
  have shift (start : Nat) : rest.foldl (fun sum (_, stats) => sum + stats.count) start =
      start + countIn rest := by
    induction rest generalizing start with
    | nil => rfl
    | cons first others ih =>
      simp only [countIn, List.foldl_cons, Nat.zero_add]
      rw [ih, ih first.2.count, Nat.add_assoc]
  simp only [countIn, List.foldl_cons, Nat.zero_add]
  exact shift stats.count

/-- A note counts what its statistics count. -/
theorem countIn_add (label : String) (stats : LabelStats) (labels : List (String × LabelStats)) :
    countIn (add label stats labels) = countIn labels + stats.count := by
  induction labels with
  | nil => simp [add, countIn]
  | cons first rest ih =>
    obtain ⟨other, known⟩ := first
    unfold add
    split
    · simp only [countIn_cons, LabelStats.join]
      omega
    · split <;> simp only [countIn_cons, ih] <;> omega

/-- Notes for many labels count what all of their statistics count. -/
theorem countIn_addAll (labels others : List (String × LabelStats)) :
    countIn (others.foldl (fun labels (label, stats) => add label stats labels) labels) =
      countIn labels + countIn others := by
  induction others generalizing labels with
  | nil => rfl
  | cons first rest ih =>
    rw [List.foldl_cons, ih, countIn_add, countIn_cons]
    omega

/-- What is known of a label is right about its times. -/
def Reports : Option LabelStats → List Nat → Prop
  | none, times => times = []
  | some stats, times => stats.Covers times

/-- What is merged from two reports reports the times of both. -/
theorem Reports.merge {a b : Option LabelStats} {xs ys : List Nat} (one : Reports a xs)
    (two : Reports b ys) : Reports (Option.merge LabelStats.join a b) (xs ++ ys) := by
  cases a with
  | none =>
    obtain rfl : xs = [] := one
    cases b <;> exact two
  | some stats =>
    cases b with
    | none =>
      obtain rfl : ys = [] := two
      simpa [Reports] using one
    | some others => exact LabelStats.Covers.join one two

/-- A report does not depend on the order of the times. -/
theorem Reports.perm {known : Option LabelStats} {xs ys : List Nat} (reports : Reports known xs)
    (same : xs.Perm ys) : Reports known ys := by
  cases known with
  | none =>
    obtain rfl : xs = [] := reports
    exact same.nil_eq.symm
  | some stats => exact LabelStats.Covers.perm reports same

/-- The latencies are those of some replies. -/
structure Tells (l : Latencies) (replies : List Reply) : Prop where
  rising : Rising l.labels
  reports : ∀ label, Reports (l.get? label) (timesFor label replies)
  count : l.count = replies.countP Link.isOk
  failures : l.failures = replies.countP fun reply => !Link.isOk reply

namespace Tells

/-- Latencies of nothing tell of no replies. -/
theorem empty : Latencies.empty.Tells [] := by
  constructor
  · exact List.Pairwise.nil
  · exact fun _ => rfl
  · rfl
  · rfl

/-- What the latencies of one reply tell. -/
theorem single (reply : Reply) : (Runner.note .empty reply).Tells [reply] := by
  cases reply with
  | error fault =>
    constructor
    · exact List.Pairwise.nil
    · exact fun _ => rfl
    · rfl
    · rfl
  | ok answered =>
    constructor
    · exact List.pairwise_singleton _ _
    · intro label
      have found : (Runner.note .empty (.ok answered)).get? label =
          if label = answered.label then some (.single answered.elapsed.millis) else none :=
        lookup_cons _ _ _ _
      rw [found]
      by_cases its : label = answered.label
      · rw [if_pos its]
        simpa [Reports, timesFor, Reply.timeFor?, its] using LabelStats.covers_single _
      · rw [if_neg its]
        simp [Reports, timesFor, Reply.timeFor?, Ne.symm its]
    · rfl
    · rfl

/-- The order of the replies does not matter. -/
theorem perm {l : Latencies} {xs ys : List Reply} (tells : l.Tells xs) (same : xs.Perm ys) :
    l.Tells ys := by
  constructor
  · exact tells.rising
  · exact fun label => (tells.reports label).perm (same.filterMap _)
  · exact tells.count.trans (same.countP_eq _)
  · exact tells.failures.trans (same.countP_eq _)

/-- Merged latencies tell what each of them tells. -/
theorem merge {l other : Latencies} {xs ys : List Reply} (one : l.Tells xs) (two : other.Tells ys) :
    (l.merge other).Tells (xs ++ ys) := by
  have both (label : String) := lookup_addAll one.rising two.rising label
  constructor
  · exact (both "").1
  · intro label
    have found : (l.merge other).get? label =
        Option.merge LabelStats.join (l.get? label) (other.get? label) := (both label).2
    rw [found, timesFor_append]
    exact (one.reports label).merge (two.reports label)
  · rw [List.countP_append, ← one.count, ← two.count]
    exact countIn_addAll l.labels other.labels
  · rw [List.countP_append, ← one.failures, ← two.failures]
    rfl

/-- Recording a reply is merging with the latencies of that one. -/
theorem note {l : Latencies} {replies : List Reply} (tells : l.Tells replies)
    (reply : Reply) : (Runner.note l reply).Tells (replies ++ [reply]) := by
  have merged : Runner.note l reply = l.merge (Runner.note .empty reply) := by
    cases reply <;> rfl
  rw [merged]
  exact tells.merge (single reply)

/-- Recording replies in turn. -/
theorem noteAll (replies : List Reply) : (replies.foldl Runner.note .empty).Tells replies := by
  induction replies using List.reverseRecOn with
  | nil => exact empty
  | append_singleton replies reply ih =>
    rw [List.foldl_append]
    exact ih.note reply

/-- Latencies that are merged in turn, each of some replies. -/
theorem mergeAll {parts : List Latencies} {heard : List (List Reply)}
    (each : List.Forall₂ Tells parts heard) {l : Latencies} {replies : List Reply}
    (tells : l.Tells replies) :
    (parts.foldl Latencies.merge l).Tells (replies ++ heard.flatten) := by
  induction each generalizing l replies with
  | nil => simpa using tells
  | cons first _ ih => simpa using ih (tells.merge first)

/-- The count of a label is that of its times. -/
theorem countFor {l : Latencies} {replies : List Reply} (tells : l.Tells replies) (label : String) :
    (l.get? label).elim 0 LabelStats.count = (timesFor label replies).length := by
  have reports := tells.reports label
  cases found : l.get? label with
  | none =>
    rw [found] at reports
    simpa using congrArg List.length reports.symm
  | some stats =>
    rw [found] at reports
    exact reports.count

/-- Latencies that tell of the same replies agree, but for the sums. -/
theorem unique {l other : Latencies} {replies : List Reply} (one : l.Tells replies)
    (two : other.Tells replies) (label : String) :
    (l.get? label).map (fun s => (s.count, s.least, s.greatest)) =
      (other.get? label).map (fun s => (s.count, s.least, s.greatest)) := by
  have here := one.reports label
  have there := two.reports label
  cases found : l.get? label <;> cases found' : other.get? label <;> rw [found] at here <;>
    rw [found'] at there
  · have nothing : timesFor label replies = [] := here
    exact absurd (nothing ▸ there.least.1) List.not_mem_nil
  · have nothing : timesFor label replies = [] := there
    exact absurd (nothing ▸ here.least.1) List.not_mem_nil
  · obtain ⟨count, least, greatest⟩ := LabelStats.Covers.unique here there
    simp [count, least, greatest]

end Tells

end Latencies

end SeriesBench
