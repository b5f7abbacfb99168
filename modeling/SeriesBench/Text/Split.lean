/-!
# Cutting text into parts

Two ways to cut a text: at every occurrence of a separator, which keeps empty
parts, and at runs of blanks, which keeps only the words between them. A third
operation cuts once, at the first separator, and a last one asks whether a text
occurs in another. All work on the list of characters of the text, so nothing here
depends on how a text is stored.
-/

namespace SeriesBench.Text

/-- The blanks that separate words: space, tab, line feed, form feed and carriage
return. A vertical tab and every character beyond ASCII belong to words. -/
def isAsciiBlank (c : Char) : Bool :=
  c == ' ' || c == '\t' || c == '\n' || c == '\x0c' || c == '\r'

/-- The words of a text: its maximal runs of characters that are no ASCII blanks,
in order. A blank text has none. -/
def words (s : String) : List String :=
  ((s.toList.splitOnP isAsciiBlank).filter (fun word => !word.isEmpty)).map String.ofList

/-- The parts of a text between the occurrences of `separator`, empty ones
included; there is one more part than there are separators. -/
def parts (separator : Char) (s : String) : List String :=
  (s.toList.splitOn separator).map String.ofList

/-- What stands before and after the first `separator`, if there is one. -/
def cutList (separator : Char) : List Char → Option (List Char × List Char)
  | [] => none
  | c :: rest =>
    if c = separator then some ([], rest)
    else (cutList separator rest).map fun (before, after) => (c :: before, after)

/-- What stands before and after the first `separator` of a text, if it has one. -/
def cut (separator : Char) (s : String) : Option (String × String) :=
  (cutList separator s.toList).map fun (before, after) =>
    (String.ofList before, String.ofList after)

/-- Whether `part` occurs in a list as a run of consecutive elements. -/
def occursInList (part : List Char) : List Char → Bool
  | [] => part.isEmpty
  | c :: rest => part.isPrefixOf (c :: rest) || occursInList part rest

/-- Whether a text occurs in another. -/
def occursIn (part whole : String) : Bool :=
  occursInList part.toList whole.toList

/-- Cutting loses nothing but the separator, and the first part holds none. -/
theorem cutList_eq_some_iff {separator : Char} {s before after : List Char} :
    cutList separator s = some (before, after) ↔
      s = before ++ separator :: after ∧ separator ∉ before := by
  induction s generalizing before with
  | nil => simp [cutList]
  | cons c rest ih =>
    by_cases found : c = separator
    · subst found
      cases before with
      | nil => simp [cutList]
      | cons d before => simp +contextual [cutList, eq_comm]
    · cases before with
      | nil => simp [cutList, found]
      | cons d before =>
        simp only [cutList, found, if_false, Option.map_eq_some_iff, Prod.mk.injEq,
          List.cons.injEq, List.cons_append, List.mem_cons, not_or]
        constructor
        · rintro ⟨⟨b, a⟩, cut, ⟨rfl, rfl⟩, rfl⟩
          have ⟨whole, clean⟩ := ih.1 cut
          exact ⟨⟨rfl, whole⟩, fun same => found same.symm, clean⟩
        · rintro ⟨⟨rfl, whole⟩, _, clean⟩
          exact ⟨(before, after), ih.2 ⟨whole, clean⟩, ⟨rfl, rfl⟩, rfl⟩

end SeriesBench.Text
