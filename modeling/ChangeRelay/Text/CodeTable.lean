import ChangeRelay.Text.Digits
import ChangeRelay.Text.Parts

/-!
# Tables of code points

A property of characters is kept as ranges of code points, each given by its
first and its last member.  Large tables of the Unicode character database are
kept as rows of text.  A row has entries between blanks, and all numbers are
hexadecimal:

* `61-7A` is a range, and `AA` a range of one;
* `41-5A>61` maps a range to as many code points from 61 on, and `100=12E>101`
  maps every second one of a range to the one as far away;
* `DF>73+73` maps a code point to several.
-/

namespace ChangeRelay.Text

/-- Whether one of the ranges contains a code point. -/
def anyContains (ranges : List (Nat × Nat)) (point : Nat) : Bool :=
  ranges.any fun range => range.1 ≤ point && point ≤ range.2

namespace CodeTable

/-- The entries of some rows. -/
def entries (rows : List String) : List (List Char) :=
  rows.flatMap fun row => segments ' ' row.toList

/-- The number that hexadecimal digits spell; other characters do not count. -/
def readHex (digits : List Char) : Nat :=
  ofDigits 16 (digits.filterMap hexDigit?)

/-- The entry in front of a mark, and what follows the mark. -/
def splitAt (mark : Char) (entry : List Char) : List Char × List Char :=
  (entry.takeWhile (· != mark), (entry.dropWhile (· != mark)).drop 1)

/-- The ends of a range. -/
def readRange (separator : Char) (entry : List Char) : Nat × Nat :=
  match splitAt separator entry with
  | (point, []) => (readHex point, readHex point)
  | (first, last) => (readHex first, readHex last)

/-- The ranges in some rows. -/
def ranges (rows : List String) : List (Nat × Nat) :=
  (entries rows).map (readRange '-')

/-! ## Maps to one code point each -/

/-- Every `step`-th code point from `first` to `last` is mapped to one that is as
far from it as `image` is from `first`. -/
structure Run where
  first : Nat
  last : Nat
  step : Nat
  image : Nat
deriving DecidableEq, Repr

/-- The run that an entry stands for. -/
def readRun (entry : List Char) : Run :=
  let (source, image) := splitAt '>' entry
  if source.contains '=' then
    let (first, last) := readRange '=' source
    ⟨first, last, 2, readHex image⟩
  else
    let (first, last) := readRange '-' source
    ⟨first, last, 1, readHex image⟩

/-- The runs in some rows. -/
def runs (rows : List String) : List Run :=
  (entries rows).map readRun

/-- Whether a run maps a code point. -/
def Run.contains (run : Run) (point : Nat) : Bool :=
  run.first ≤ point && point ≤ run.last && (point - run.first) % run.step == 0

/-- The character that a character is mapped to. -/
def image? (runs : List Run) (c : Char) : Option Char :=
  (runs.find? (·.contains c.toNat)).map fun run => Char.ofNat (run.image + (c.toNat - run.first))

/-! ## Maps to several code points -/

/-- A code point that is mapped to several. -/
structure Expansion where
  point : Nat
  images : List Nat
deriving DecidableEq, Repr

/-- The expansion that an entry stands for. -/
def readExpansion (entry : List Char) : Expansion :=
  let (point, images) := splitAt '>' entry
  ⟨readHex point, (segments '+' images).map readHex⟩

/-- The expansions in some rows. -/
def expansions (rows : List String) : List Expansion :=
  (entries rows).map readExpansion

/-- The characters that a character is mapped to. -/
def expansion? (expansions : List Expansion) (c : Char) : Option (List Char) :=
  (expansions.find? (·.point == c.toNat)).map fun expansion => expansion.images.map Char.ofNat

end CodeTable

end ChangeRelay.Text
