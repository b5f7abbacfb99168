import SeriesBench.Text.Classes
import SeriesBench.Text.Pictograph

/-!
# Sequences shown as one

Some characters are shown together with what follows them, as one picture or one shape of
letters, and the whole is narrower than its parts. A sequence is recognised from its end:
`Sequel` says what the text after a character begins with, `Sequel.opening` what a character
opens when it is the last of a sequence, and `Sequel.extend` how a character before it
belongs to it. The pictures are flags, pictures with a skin tone, and pictures made of
several that a joiner links; the letters belong to eight scripts.
-/

namespace SeriesBench.Text

/-- What the text after a character begins with, as far as it can make one with it. -/
inductive Sequel where
  /-- Nothing of the kind. -/
  | other
  /-- A skin tone. -/
  | skinTone
  /-- A letter of a flag. -/
  | flagLetter
  /-- Two or more letters of flags. -/
  | flagLetters
  /-- A picture. -/
  | picture
  /-- A joiner before a picture. -/
  | joined
  /-- The frame of a key cap, joined. -/
  | joinedKeycap
  /-- A letter of a flag, joined. -/
  | joinedFlagLetter
  /-- Letters of flags in pairs, joined. -/
  | joinedFlags
  /-- Letters of flags in pairs and one before them, joined. -/
  | joinedFlagsAndLetter
  /-- The end of a tag, joined, with so many letters before it. -/
  | tagLetters (count : Nat)
  /-- So many digits of a tag, and more of it, joined. -/
  | tagDigits (count : Nat)
  /-- A Kirat Rai vowel sign that makes one with the sign of another vowel. -/
  | vowelSign
  /-- Two such vowel signs, or the one sign for both. -/
  | vowelSigns
  /-- The Arabic letter that bends into a lam before it. -/
  | alef
  /-- The Hebrew letter lamed, perhaps with a joiner before it. -/
  | lamed (linked : Bool)
  /-- The Buginese letter ya, perhaps with a joiner before it. -/
  | ya (linked : Bool)
  /-- The Buginese letter ya, joined to a vowel sign before it. -/
  | yaWithVowel
  /-- A Tifinagh consonant, perhaps with a joiner before it. -/
  | consonant (linked : Bool)
  /-- A Tifinagh consonant and the mark that doubles it with another. -/
  | markedConsonant
  /-- A Lisu letter that ends a tone. -/
  | toneEnd
  /-- The Old Turkic letter i, perhaps with a joiner before it. -/
  | orkhonI (linked : Bool)
  /-- A Khmer letter that goes below another. -/
  | lowerLetter
deriving Repr, DecidableEq

/-- The code point of the joiner, which takes no column. -/
def joiner : Nat := 0x200d

/-- The letters that bend into a lam before them. -/
def alefRanges : List (Nat × Nat) := [
  (0x622, 0x623), (0x625, 0x625), (0x627, 0x627), (0x671, 0x673), (0x675, 0x675),
  (0x773, 0x774), (0x870, 0x882)]

/-- The forms of lam. -/
def lamRanges : List (Nat × Nat) := [
  (0x644, 0x644), (0x6b5, 0x6b8), (0x76a, 0x76a), (0x8a6, 0x8a6), (0x8c7, 0x8c7)]

/-- The Khmer letters that take no width when they go below another. -/
def lowerLetterRanges : List (Nat × Nat) := [
  (0x1780, 0x1782), (0x1784, 0x1787), (0x1789, 0x178c), (0x178e, 0x1793), (0x1795, 0x1798),
  (0x179b, 0x179d), (0x17a0, 0x17a0), (0x17a2, 0x17a2), (0x17a7, 0x17a7), (0x17ab, 0x17ac),
  (0x17af, 0x17af)]

/-- The marks that are never seen and part no sequence of letters. -/
def unseenMarkRanges : List (Nat × Nat) := [
  (0x34f, 0x34f), (0x17b4, 0x17b5), (0x180b, 0x180d), (0x180f, 0x180f), (0xfe00, 0xfe0f),
  (0xe0100, 0xe01ef)]

/-- The Tifinagh consonants. -/
def isConsonant (n : Nat) : Bool :=
  (0x2d31 ≤ n && n ≤ 0x2d65) || n == 0x2d6f

/-- The Tifinagh mark that doubles a consonant with another. -/
def consonantMark : Nat := 0x2d7f

namespace Sequel

/-- What a character is the last of. -/
def opening (n : Nat) : Sequel :=
  if isPicture n then picture
  else if isSkinTone n then skinTone
  else if isFlagLetter n then flagLetter
  else if inRanges alefRanges n then alef
  else if n == 0x5dc then lamed false
  else if n == 0x1a10 then ya false
  else if isConsonant n then consonant false
  else if n == 0xa4fc || n == 0xa4fd then toneEnd
  else if n == 0x10c03 then orkhonI false
  else if inRanges lowerLetterRanges n then lowerLetter
  else if n == 0x16d67 then vowelSign
  else if n == 0x16d68 then vowelSigns
  else other

/-- Whether letters make the sequence: such a one lets selectors through. -/
def isOfLetters : Sequel → Bool
  | alef | lamed _ | ya _ | yaWithVowel | consonant _ | markedConsonant | toneEnd | orkhonI _
  | lowerLetter => true
  | _ => false

/-- Whether a joiner stands ready to take in a character that a selector makes a picture. -/
def awaitsPicture : Sequel → Bool
  | joined | joinedKeycap => true
  | _ => false

/-- The sequence of letters with a joiner before it. -/
def join : Sequel → Sequel
  | lamed _ => lamed true
  | ya _ => ya true
  | consonant _ => consonant true
  | orkhonI _ => orkhonI true
  | sequel => sequel

/-- How a sequence of letters looks across a character that does not part it. The Arabic one
has a rule of its own in `extend`. -/
def across (sequel : Sequel) (n : Nat) : Option Sequel :=
  if !sequel.isOfLetters || sequel == alef then none
  else if n == joiner then some sequel.join
  else if inRanges unseenMarkRanges n then some sequel
  else none

/-- The columns that a character adds as a part of the sequence, which may be fewer than
none, and the sequence with it; nothing if the character is no part of it. -/
def extend (sequel : Sequel) (n : Nat) : Option (Int × Sequel) :=
  match sequel with
  | other | joinedKeycap => none
  | skinTone =>
    if takesSkinTone n then some (0, picture)
    else if n == joiner then some (0, joined) else none
  | flagLetter => if isFlagLetter n then some (1, flagLetters) else none
  | flagLetters =>
    if isFlagLetter n then some (1, flagLetters)
    else if n == joiner then some (0, joined) else none
  | picture => if n == joiner then some (0, joined) else none
  | joined =>
    if isPicture n then some (0, picture)
    else if isSkinTone n then some (0, skinTone)
    else if isFlagLetter n then some (1, joinedFlagLetter)
    else if n == 0x20e3 then some (0, joinedKeycap)
    else if n == 0xe007f then some (0, tagLetters 0) else none
  | joinedFlagLetter => if isFlagLetter n then some (-1, joinedFlags) else none
  | joinedFlags =>
    if isFlagLetter n then some (3, joinedFlagsAndLetter)
    else if n == joiner then some (0, joined) else none
  | joinedFlagsAndLetter =>
    if isFlagLetter n then some (-1, joinedFlags)
    else if n == joiner then some (0, joined) else none
  | tagLetters count =>
    if isTagLetter n && count < 6 then some (0, tagLetters (count + 1))
    else if isTagDigit n && count < 5 then some (0, tagDigits 1)
    else if n == 0x1f3f4 && 3 ≤ count then some (0, picture) else none
  | tagDigits count =>
    if isTagDigit n && count < 3 then some (0, tagDigits (count + 1))
    else if n == 0x1f3f4 && count == 3 then some (0, picture) else none
  | vowelSign =>
    if n == 0x16d63 || n == 0x16d69 then some (0, other)
    else if n == 0x16d67 then some (0, vowelSigns)
    else if n == 0x16d68 then some (1, vowelSign) else none
  | vowelSigns => if n == 0x16d63 then some (0, other) else none
  | alef =>
    if inRanges lamRanges n then some (0, other)
    else if isJoinedAcross n then some (0, alef) else none
  | lamed linked => if linked && n == 0x5d0 then some (0, other) else none
  | ya linked => if linked && n == 0x1a17 then some (0, yaWithVowel) else none
  | yaWithVowel => if n == 0x1a15 then some (0, other) else none
  | consonant linked =>
    if n == consonantMark then some (1, markedConsonant)
    else if linked && isConsonant n then some (0, other) else none
  | markedConsonant => if isConsonant n then some (-1, other) else none
  | toneEnd => if 0xa4f8 ≤ n && n ≤ 0xa4fb then some (0, other) else none
  | orkhonI linked => if linked && n == 0x10c32 then some (0, other) else none
  | lowerLetter => if n == 0x17d2 then some (-1, other) else none

end Sequel

end SeriesBench.Text
