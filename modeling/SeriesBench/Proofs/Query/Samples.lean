import Mathlib.Data.List.Nodup
import Mathlib.Data.List.Perm.Subperm
import SeriesBench.Proofs.Query.Windows
import SeriesBench.Random.Sample

/-!
# Samples are distinct

Whichever way some numbers below a length are drawn, there are as many as were asked for, they are
below the length, and none comes twice. Each of the three ways has an invariant of its own. Few of
many are a sample of a length that grows with every draw. A shuffle keeps the numbers and only moves
them. A draw by refusal finds a number that is not taken, because fewer are taken than there are.
-/

namespace SeriesBench.Random

/-- So many different numbers below a length. -/
structure IsSample (length amount : Nat) (drawn : List Nat) : Prop where
  count : drawn.length = amount
  nodup : drawn.Nodup
  below : ∀ n ∈ drawn, n < length

/-- A number that is drawn joins a sample, also if it is there already: the number that takes its
place is too large to be there. -/
theorem IsSample.joinDrawn {greatest amount n : Nat} {drawn : List Nat}
    (sample : IsSample greatest amount drawn) (small : n ≤ greatest) :
    IsSample (greatest + 1) (amount + 1) (joinDrawn drawn n greatest) := by
  obtain ⟨count, nodup, below⟩ := sample
  have fresh : greatest ∉ drawn := fun member => Nat.lt_irrefl _ (below greatest member)
  have replaced : (drawn.map fun m => if m = n then greatest else m).Nodup := by
    refine List.Nodup.map_on (fun a inside b inside' same => ?_) nodup
    grind
  have gone : n ∉ drawn.map fun m => if m = n then greatest else m := by
    grind
  constructor
  · simp [Random.joinDrawn, count]
  · exact List.nodup_append.mpr ⟨replaced, List.pairwise_singleton _ n, by grind⟩
  · intro m member
    have := below
    simp only [Random.joinDrawn, List.mem_append, List.mem_map, List.mem_singleton] at member
    grind

/-- Drawing few numbers adds as many to a sample as are wanted, by induction on how many that is. -/
theorem isSample_drawFew {greatest amount : Nat} {drawn : List Nat}
    (sample : IsSample greatest amount drawn) (s : Stream) (wanted : Nat) :
    IsSample (greatest + wanted) (amount + wanted) (drawFew s drawn greatest wanted).1 := by
  induction wanted generalizing s drawn greatest amount with
  | zero => exact sample
  | succ wanted ih =>
    have small := s.below_lt .half (Nat.succ_pos greatest)
    have next := ih (sample.joinDrawn (Nat.le_of_lt_succ small)) (s.below .half (greatest + 1)).2
    rwa [Nat.add_assoc, Nat.add_comm 1, Nat.add_assoc, Nat.add_comm 1] at next

/-- Exchanging two places of an array permutes it. -/
theorem exchange_perm {a : Array Nat} {i j : Nat} (first : i < a.size) (second : j < a.size) :
    (exchange a i j).Perm a := by
  have swap : exchange a i j = a.swap i j := by
    simp [exchange, Array.swap, Array.getD, Array.setIfInBounds, first, second]
  exact swap ▸ Array.swap_perm first second

/-- Shuffling an array permutes it, by induction on how many places are still to be filled. -/
theorem shuffle_perm {a : Array Nat} {place wanted : Nat} (room : place + wanted ≤ a.size)
    (s : Stream) : (shuffle s a place wanted).1.Perm a := by
  induction wanted generalizing s a place with
  | zero => exact .refl a
  | succ wanted ih =>
    have offset := s.below_lt .half (show 0 < a.size - place by omega)
    simp only [shuffle]
    generalize s.below .half (a.size - place) = drawn at offset ⊢
    have moved : (exchange a place (place + drawn.1)).Perm a :=
      exchange_perm (by omega) (by omega)
    have size := moved.size_eq
    exact (ih (by omega) drawn.2).trans moved

/-- What stands at the front of a shuffled array is a sample of its places. -/
theorem isSample_shuffle {length amount : Nat} (enough : amount ≤ length) (s : Stream) :
    IsSample length amount
      ((shuffle s (Array.range length) 0 amount).1.extract 0 amount).toList := by
  have range : 0 + amount ≤ (Array.range length).size := by simpa using enough
  have perm := (shuffle_perm range s).toList
  rw [Array.toList_range] at perm
  rw [Array.toList_extract, List.extract_eq_take_drop, List.drop_zero, Nat.sub_zero]
  constructor
  · rw [List.length_take, perm.length_eq, List.length_range]
    exact Nat.min_eq_left enough
  · exact (perm.nodup_iff.mpr List.nodup_range).sublist (List.take_sublist ..)
  · exact fun n member => List.mem_range.mp (perm.mem_iff.mp (List.mem_of_mem_take member))

/-- A number that is drawn is less than its bound. -/
theorem uniform?_lt {s : Stream} {width : Width} {bound n : Nat} (positive : 0 < bound)
    (drawn : (s.uniform? width bound).1 = some n) : n < bound := by
  have small := s.draw_lt width
  unfold Stream.uniform? at drawn
  simp only at drawn
  split at drawn
  · obtain rfl := Option.some.inj drawn
    exact Nat.div_lt_of_lt_mul (Nat.mul_lt_mul_of_pos_right small positive)
  · cases drawn

/-- A number below the length that is not taken. -/
def Free (taken : Std.HashSet Nat) (length n : Nat) : Prop :=
  n < length ∧ n ∉ taken

/-- The least number that is not taken is free, if any is. -/
theorem free_leastFree {taken : Std.HashSet Nat} {length n : Nat} (free : Free taken length n) :
    Free taken length (leastFree taken length) := by
  unfold leastFree
  cases found : (List.range length).find? fun n => !taken.contains n with
  | none =>
    have taken := List.find?_eq_none.mp found n (List.mem_range.mpr free.1)
    simp [free.2] at taken
  | some least =>
    have untaken := List.find?_some found
    exact ⟨List.mem_range.mp (List.mem_of_find?_eq_some found), by simpa using untaken⟩

/-- As long as there is a number that is not taken, one is drawn. -/
theorem free_drawFree {taken : Std.HashSet Nat} {length n : Nat} (free : Free taken length n)
    (width : Width) (patience : Nat) (s : Stream) :
    Free taken length (drawFree width length taken patience s).1 := by
  induction patience generalizing s with
  | zero => exact free_leastFree free
  | succ patience ih =>
    simp only [drawFree]
    split
    · rename_i m after drawn
      split
      · exact ih after
      · rename_i untaken
        have below := uniform?_lt (Nat.zero_lt_of_lt free.1) (congrArg Prod.fst drawn)
        exact ⟨below, by simpa using untaken⟩
    · exact ih _

/-- If fewer numbers are taken than there are, one is not. -/
theorem exists_free {taken : Std.HashSet Nat} {length : Nat} {members : List Nat}
    (lists : ∀ n, n ∈ taken ↔ n ∈ members) (fewer : members.length < length) :
    ∃ n, Free taken length n := by
  by_contra none
  have full : List.range length ⊆ members := by
    intro n member
    by_contra outside
    exact none ⟨n, List.mem_range.mp member, fun inside => outside ((lists n).mp inside)⟩
  have most := (List.nodup_range.subperm full).length_le
  rw [List.length_range] at most
  omega

/-- Numbers that are drawn by refusal are a sample, and none of them was taken before. -/
theorem isSample_drawDistinct {length wanted : Nat} {taken : Std.HashSet Nat} {members : List Nat}
    (lists : ∀ n, n ∈ taken ↔ n ∈ members) (enough : members.length + wanted ≤ length)
    (width : Width) (s : Stream) :
    IsSample length wanted (drawDistinct width length s taken wanted).1 ∧
      ∀ n ∈ (drawDistinct width length s taken wanted).1, n ∉ taken := by
  induction wanted generalizing s taken members with
  | zero => exact ⟨⟨rfl, List.nodup_nil, by simp [drawDistinct]⟩, by simp [drawDistinct]⟩
  | succ wanted ih =>
    obtain ⟨free, isFree⟩ := exists_free lists (Nat.lt_of_lt_of_le (by omega) enough)
    have ⟨below, untaken⟩ := free_drawFree isFree width patience s
    simp only [drawDistinct]
    generalize drawFree width length taken patience s = first at below untaken
    have lists' : ∀ n, n ∈ taken.insert first.1 ↔ n ∈ first.1 :: members := by
      simp [lists, @eq_comm _ first.1]
    have enough' : (first.1 :: members).length + wanted ≤ length := by
      rw [List.length_cons]
      omega
    obtain ⟨⟨count, nodup, others⟩, apart⟩ := ih lists' enough' first.2
    simp only [Std.HashSet.mem_insert, not_or, beq_iff_eq] at apart
    constructor
    · constructor
      · rw [List.length_cons, count]
      · exact List.nodup_cons.mpr ⟨fun again => (apart first.1 again).1 rfl, nodup⟩
      · exact List.forall_mem_cons.mpr ⟨below, others⟩
    · exact List.forall_mem_cons.mpr ⟨untaken, fun n member => (apart n member).2⟩

/-- A sample of a length that has enough numbers is one, from every stream. Whether it is shuffled
for is decided in two ways, by the number of indices. -/
theorem isSample_sample {length amount : Nat} (enough : amount ≤ length) (s : Stream) :
    IsSample length amount (sample s length amount).1 := by
  have untaken : ∀ n, n ∈ (∅ : Std.HashSet Nat) ↔ n ∈ ([] : List Nat) := by simp
  have refusal (width : Width) : IsSample length amount (drawDistinct width length s ∅ amount).1 :=
    (isSample_drawDistinct untaken (by simpa using enough) width s).1
  have few : IsSample length amount (drawFew s [] (length - amount) amount).1 := by
    have none : IsSample (length - amount) 0 [] := ⟨rfl, List.nodup_nil, by simp⟩
    simpa [Nat.sub_add_cancel enough] using isSample_drawFew none s amount
  unfold sample
  split_ifs
  · exact refusal .full
  · exact isSample_shuffle enough s
  · exact few
  · exact isSample_shuffle enough s
  · exact refusal .half

end SeriesBench.Random
