import ChangeRelay.Text.Normal.CombiningClass
import ChangeRelay.Text.Normal.Decomposition

/-!
# The composed normal form of text

Texts that look the same can consist of different characters.  In the normal
form of a text every character is decomposed as far as possible, marks stand in
the order of their classes, and a character is composed again with the marks
after it where that is possible.
-/

namespace ChangeRelay.Text.Normal

/-! ## Syllables of Hangul -/

/-- The first syllable. -/
def firstSyllable : Nat := 0xAC00

/-- The last syllable. -/
def lastSyllable : Nat := 0xD7A3

/-- The code point before the first leading consonant, and those before the
first vowel and the first trailing consonant.  A syllable without a trailing
consonant counts as one with the code point before the first. -/
def firstLead : Nat := 0x1100

/-- The first vowel. -/
def firstVowel : Nat := 0x1161

/-- The code point before the first trailing consonant. -/
def noTrail : Nat := 0x11A7

/-- The parts of a syllable. -/
def decomposeSyllable (syllable : Nat) : List Char :=
  let index := syllable - firstSyllable
  let lead := Char.ofNat (firstLead + index / 588)
  let vowel := Char.ofNat (firstVowel + index % 588 / 28)
  if index % 28 = 0 then [lead, vowel] else [lead, vowel, Char.ofNat (noTrail + index % 28)]

/-- The syllable of a consonant and a vowel, or of a syllable and the consonant
after it. -/
def composeSyllable? (first second : Char) : Option Char :=
  let a := first.toNat
  let b := second.toNat
  if firstLead ≤ a ∧ a < firstLead + 19 ∧ firstVowel ≤ b ∧ b < firstVowel + 21 then
    some (Char.ofNat (firstSyllable + ((a - firstLead) * 21 + (b - firstVowel)) * 28))
  else if firstSyllable ≤ a ∧ a ≤ lastSyllable ∧ (a - firstSyllable) % 28 = 0
      ∧ noTrail < b ∧ b < noTrail + 28 then
    some (Char.ofNat (a + (b - noTrail)))
  else none

/-! ## Decomposition -/

/-- What is left of a character after so many steps of decomposition.  No
character takes more than three. -/
def decomposeChar : (steps : Nat) → Char → List Char
  | 0, c => [c]
  | steps + 1, c =>
      if firstSyllable ≤ c.toNat ∧ c.toNat ≤ lastSyllable then decomposeSyllable c.toNat
      else
        match CodeTable.expansion? decompositions c with
        | some parts => parts.flatMap (decomposeChar steps)
        | none => [c]

/-- Put a character in front of text whose marks are in order. -/
def insertMark (c : Char) : List Char → List Char
  | [] => [c]
  | d :: rest =>
      if combiningClass d ≠ 0 ∧ combiningClass d < combiningClass c then d :: insertMark c rest
      else c :: d :: rest

/-- A text decomposed as far as possible, with its marks in order. -/
def decompose (text : List Char) : List Char :=
  (text.flatMap (decomposeChar 3)).foldr insertMark []

/-! ## Composition -/

/-- The character that two characters are composed to. -/
def composePair? (first second : Char) : Option Char :=
  match composeSyllable? first second with
  | some syllable => some syllable
  | none =>
      let found := decompositions.find? fun expansion =>
        expansion.images == [first.toNat, second.toNat]
          && !anyContains compositionExclusions expansion.point
      found.map fun expansion => Char.ofNat expansion.point

/-- Compose a character with what follows it.  `between` has the characters that
were passed over, the last one first; a mark is composed only if none of them
has its class or a higher one. -/
def composeFrom (base : Char) (between : List Char) : List Char → List Char
  | [] => base :: between.reverse
  | c :: rest =>
      let isReached := between.all fun d => combiningClass d < combiningClass c
      match if isReached then composePair? base c else none with
      | some composed => composeFrom composed between rest
      | none =>
          if combiningClass c = 0 then base :: between.reverse ++ composeFrom c [] rest
          else composeFrom base (c :: between) rest

/-- Compose a text.  Marks that stand before any other character stay. -/
def compose : List Char → List Char
  | [] => []
  | c :: rest => if combiningClass c = 0 then composeFrom c [] rest else c :: compose rest

end Normal

/-- The composed normal form of a text. -/
def normalForm (text : List Char) : List Char :=
  Normal.compose (Normal.decompose text)

end ChangeRelay.Text
