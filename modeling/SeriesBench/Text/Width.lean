import SeriesBench.Text.Classes
import SeriesBench.Text.Ligature

/-!
# Displayed width

How many columns of a fixed-width display a text takes. By itself a character takes one, a
wide one two, a weightless one none, and two characters have widths of their own. In a text
a character may be part of a sequence that is shown as one, and a selector after it may ask
for another form of it; so a text is measured from its end, and every character sees what it
needs to know of the text behind it. Control characters take one column.

`displayWidth_eq_length` says that the width is the number of characters as long as all of
them are among the first 161.
-/

namespace SeriesBench.Text

/-- The columns that a character takes by itself. -/
def charWidth (n : Nat) : Nat :=
  if n ≤ 0xa0 then 1
  else if n == 0x17a4 then 2
  else if n == 0x17d8 then 3
  else if isWeightless n then 0
  else if inRanges wideRanges n then 2
  else 1

/-- The forms that a selector asks for in the character before it. -/
inductive Form where
  | text
  | picture
  /-- As wide as an ideograph. -/
  | full
deriving Repr, DecidableEq

/-- The form that a character asks for. -/
def Form.ofSelector? (n : Nat) : Option Form :=
  if n == 0xfe0e then some .text
  else if n == 0xfe0f then some .picture
  else if n == 0xfe01 then some .full
  else none

/-- The quotation marks that have a form as wide as an ideograph. -/
def isWideningQuote (n : Nat) : Bool :=
  n == 0x2018 || n == 0x2019 || n == 0x201c || n == 0x201d

/-- What is known of the text after a character: what it begins with, and the form that a
selector there asks for. -/
structure Ahead where
  sequel : Sequel
  form : Option Form
deriving Repr, DecidableEq

namespace Ahead

/-- What is known of a text that begins with a sequence. -/
def of (sequel : Sequel) : Ahead :=
  ⟨sequel, none⟩

/-- What is known before a selector. A sequence of letters can go on before it, and so can
one of pictures if the selector asks for a picture. -/
def select (a : Ahead) (form : Form) : Ahead :=
  let goesOn := a.sequel.isOfLetters ||
    (form == .picture && a.form.isNone && a.sequel.awaitsPicture)
  ⟨if goesOn then a.sequel else .other, some form⟩

/-- The sequence that a character meets that no selector has changed. -/
def unselected (a : Ahead) : Sequel :=
  if a.form.isNone || a.sequel.isOfLetters then a.sequel else .other

/-- The columns that a character adds in front of a text, and what is known then. -/
def measure (a : Ahead) (n : Nat) : Int × Ahead :=
  if a.form == some .picture && isSelectable n then
    (if a.sequel.awaitsPicture then 0 else 2, of .picture)
  else if n ≤ 0xa0 then (1, of .other)
  else
    match Form.ofSelector? n with
    | some form => (0, a.select form)
    | none =>
      if a.form == some .text && isNarrowable n then (1, of .other)
      else if a.form == some .full && isWideningQuote n then (2, of .other)
      else
        match a.unselected.across n with
        | some sequel => (0, of sequel)
        | none =>
          match a.unselected.extend n with
          | some (width, sequel) => (width, of sequel)
          | none => (charWidth n, of (.opening n))

end Ahead

/-- The columns that some characters take, and what is known of them from before. -/
def measureFromEnd (cs : List Char) : Int × Ahead :=
  cs.foldr (fun c (sum, ahead) =>
    let (width, ahead) := ahead.measure c.toNat
    (sum + width, ahead)) (0, .of .other)

/-- The columns that a text takes. -/
def displayWidth (s : String) : Nat :=
  (measureFromEnd s.toList).1.toNat

/-- One of the first characters takes one column, whatever stands behind it. -/
theorem measure_basic {n : Nat} (h : n ≤ 0xa0) :
    (Ahead.of .other).measure n = (1, .of .other) := by
  simp [Ahead.measure, Ahead.of, h]

/-- A text of the first characters is measured character by character. -/
theorem measureFromEnd_basic (cs : List Char) (h : ∀ c ∈ cs, c.toNat ≤ 0xa0) :
    measureFromEnd cs = ((cs.length : Int), Ahead.of .other) := by
  induction cs with
  | nil => rfl
  | cons c rest ih =>
    have tail := ih fun c hc => h c (List.mem_cons_of_mem _ hc)
    simp only [measureFromEnd, List.foldr_cons] at tail ⊢
    simp [tail, measure_basic (h c List.mem_cons_self)]

/-- A text of the first characters takes as many columns as it has characters. -/
theorem displayWidth_eq_length (s : String) (h : ∀ c ∈ s.toList, c.toNat ≤ 0xa0) :
    displayWidth s = s.length := by
  simp [displayWidth, measureFromEnd_basic _ h, String.length_toList]

end SeriesBench.Text
