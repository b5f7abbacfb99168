import Mathlib.Data.List.DropRight
import SeriesBench.Proofs.Line.Words
import SeriesBench.Text.Blank

/-!
# Trimming texts that are cut

It makes no difference whether a text is trimmed before it is cut at a separator that is no blank,
or its parts are after. So what a text says between separators, up to blanks around, can be told of
the text as it stands.
-/

namespace SeriesBench

namespace Text

/-- What stands from an element on that is kept is not looked at. -/
theorem dropWhile_append_cons {drop : α → Bool} {x : α} (kept : drop x = false) (xs ys : List α) :
    (xs ++ x :: ys).dropWhile drop = xs.dropWhile drop ++ x :: ys := by
  rw [List.dropWhile_append]
  split_ifs with gone
  · simp [List.isEmpty_iff.mp gone, kept]
  · rfl

/-- What is dropped at the end lies behind the last element that is kept. -/
theorem dropTail_append_cons {drop : α → Bool} {x : α} (kept : drop x = false) (xs ys : List α) :
    dropTail drop (xs ++ x :: ys) = xs ++ x :: dropTail drop ys := by
  have reversed : (xs ++ x :: ys).reverse = ys.reverse ++ x :: xs.reverse := by simp
  rw [dropTail, reversed, dropWhile_append_cons kept, dropTail]
  simp

/-- What is dropped of a list is all to be dropped. -/
theorem exists_dropTail (drop : α → Bool) (xs : List α) :
    ∃ tail, xs = dropTail drop xs ++ tail ∧ ∀ x ∈ tail, drop x = true :=
  ⟨xs.rtakeWhile drop, List.rdropWhile_append_rtakeWhile.symm, fun _ => List.mem_rtakeWhile_imp⟩

/-- An end that is dropped altogether may as well not be there. -/
theorem dropTail_append {drop : α → Bool} {tail : List α} (gone : ∀ x ∈ tail, drop x = true)
    (xs : List α) : dropTail drop (xs ++ tail) = dropTail drop xs := by
  have gone' : ∀ x ∈ tail.reverse, drop x = true := by simpa using gone
  rw [dropTail, dropTail, List.reverse_append, List.dropWhile_append_of_pos gone']

variable {separator : Char} {s : String}

/-- The text without the blanks before it. -/
def trimStart (s : String) : String :=
  String.ofList (s.toList.dropWhile isBlank)

/-- The text without the blanks behind it. -/
def trimEnd (s : String) : String :=
  String.ofList (dropTail isBlank s.toList)

/-- To trim the start first changes nothing. -/
theorem trim_trimStart (s : String) : trim (trimStart s) = trim s := by
  rw [trim, trimStart, String.toList_ofList, List.dropWhile_idempotent, trim]

/-- Blanks behind a text do not matter when it is trimmed. -/
theorem trim_append {tail : List Char} (blank : ∀ c ∈ tail, isBlank c = true) (text : List Char) :
    trim (String.ofList (text ++ tail)) = trim (String.ofList text) := by
  simp only [trim, String.toList_ofList, List.dropWhile_append]
  split_ifs with none
  · rw [List.isEmpty_iff.mp none, List.dropWhile_eq_nil_iff.mpr blank]
  · rw [dropTail_append blank]

/-- Nothing is left of a text exactly if it is blank. -/
theorem isBlankText_eq (s : String) : isBlankText s = (trim s).isEmpty := by
  rw [Bool.eq_iff_iff, isBlankText, List.all_eq_true, String.isEmpty_iff, trim]
  constructor
  · intro blank
    rw [List.dropWhile_eq_nil_iff.mpr blank]
    rfl
  · intro empty
    have rest : dropTail isBlank (s.toList.dropWhile isBlank) = [] := by simpa using empty
    have blank := List.dropWhile_eq_nil_iff.mpr (List.rdropWhile_eq_nil_iff.mp rest)
    rw [List.dropWhile_idempotent] at blank
    exact List.dropWhile_eq_nil_iff.mp blank

/-- Trimming leaves the place where a text is cut, and what is cut is trimmed at its outer ends. -/
theorem cut_trim (ink : isBlank separator = false) (s : String) :
    cut separator (trim s) =
      (cut separator s).map fun (before, after) => (trimStart before, trimEnd after) := by
  have inside {part : List Char} : part.dropWhile isBlank ⊆ part :=
    (List.dropWhile_sublist isBlank).subset
  cases found : cut separator s with
  | none =>
    have absent := cut_eq_none_iff.mp found
    refine cut_eq_none_iff.mpr fun member => absent (inside ?_)
    rw [trim, String.toList_ofList] at member
    exact (List.rdropWhile_prefix isBlank _).subset member
  | some halves =>
    obtain ⟨before, after⟩ := halves
    obtain ⟨whole, clean⟩ := cut_eq_some_iff.mp found
    refine cut_eq_some_iff.mpr ⟨?_, ?_⟩
    · rw [trim, whole, dropWhile_append_cons ink, dropTail_append_cons ink, trimStart, trimEnd]
      simp only [String.toList_ofList]
    · rw [trimStart, String.toList_ofList]
      exact fun member => clean (inside member)

/-- What is put behind a text belongs to its last part. -/
theorem exists_last_part (separator : Char) (text : List Char) :
    ∃ front last, ∀ tail : List Char, separator ∉ tail →
      (text ++ tail).splitOn separator = front ++ [last ++ tail] := by
  have single {part : List Char} (clean : separator ∉ part) : part.splitOn separator = [part] :=
    List.splitOnP_eq_singleton fun c member => by simpa using ne_of_mem_of_not_mem member clean
  by_cases member : separator ∈ text
  · obtain ⟨later, earlier, reversed, clean⟩ :=
      List.eq_append_cons_of_mem (List.mem_reverse.mpr member)
    have split : text = earlier.reverse ++ separator :: later.reverse := by
      simpa using congrArg List.reverse reversed
    refine ⟨earlier.reverse.splitOn separator, later.reverse, fun tail absent => ?_⟩
    have clean' : separator ∉ later.reverse ++ tail := by simp [clean, absent]
    rw [split, List.append_assoc, List.cons_append, ← single clean']
    exact List.splitOnP_append_cons _ _ (beq_self_eq_true separator)
  · exact ⟨[], text, fun tail absent => single (by simp [member, absent])⟩

/-- Blanks behind a text do not matter when its parts are trimmed. -/
theorem parts_trimEnd (ink : isBlank separator = false) (s : String) :
    (parts separator (trimEnd s)).map trim = (parts separator s).map trim := by
  obtain ⟨tail, whole, blank⟩ := exists_dropTail isBlank s.toList
  have absent : separator ∉ tail := fun member => by simp [blank separator member] at ink
  obtain ⟨front, last, split⟩ := exists_last_part separator (dropTail isBlank s.toList)
  have short := split [] List.not_mem_nil
  rw [List.append_nil, List.append_nil] at short
  rw [parts, parts, trimEnd, String.toList_ofList, short, whole, split tail absent]
  simp only [List.map_append, List.map_cons, List.map_nil, trim_append blank]

end Text

end SeriesBench
