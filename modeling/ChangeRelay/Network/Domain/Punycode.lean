import ChangeRelay.Network.Percent

/-!
# Labels in ASCII characters

A label with characters beyond ASCII is written in two parts: its ASCII
characters, and after the last hyphen the others.  The second part is a list of
numbers; each says how far to count until the next character is put in, where
counting goes through all places of the label for one code point after another.
Numbers are written in digits of base 36, the lowest one first, and a digit
below a threshold ends its number.  The threshold adapts to the numbers so far.
-/

namespace ChangeRelay.Network.Domain.Punycode

/-! ## Thresholds and digits -/

/-- The code point from which counting starts. -/
def firstPoint : Nat :=
  128

/-- The bias before any number. -/
def firstBias : Nat :=
  72

/-- The threshold of the digit at a weight. -/
def threshold (bias weight : Nat) : Nat :=
  min 26 (max 1 (weight - bias))

/-- Divide as long as a number is large; the weight grows with every division. -/
def reduce : (steps : Nat) → (weight delta : Nat) → Nat × Nat
  | 0, weight, delta => (weight, delta)
  | steps + 1, weight, delta =>
      if 455 < delta then reduce steps (weight + 36) (delta / 35) else (weight, delta)

/-- The bias after a number, with the length of the label then. -/
def adapt (delta length : Nat) (isFirst : Bool) : Nat :=
  let damped := if isFirst then delta / 700 else delta / 2
  let (weight, left) := reduce damped 0 (damped + damped / length)
  weight + 36 * left / (left + 38)

/-- The value of a digit of base 36. -/
def digit? (c : Char) : Option Nat :=
  if 'a' ≤ c ∧ c ≤ 'z' then some (c.toNat - 'a'.toNat)
  else if 'A' ≤ c ∧ c ≤ 'Z' then some (c.toNat - 'A'.toNat)
  else if '0' ≤ c ∧ c ≤ '9' then some (c.toNat - '0'.toNat + 26)
  else none

/-- The digit with a value below 36. -/
def digit (value : Nat) : Char :=
  if value < 26 then Char.ofNat ('a'.toNat + value) else Char.ofNat ('0'.toNat + (value - 26))

/-! ## Reading -/

/-- Numbers have to stay below this bound. -/
def numberBound : Nat :=
  4294967296

/-- The number in front of some digits, and the digits after it. -/
def readNumber? (bias : Nat) (total scale weight : Nat) : List Char → Option (Nat × List Char)
  | [] => none
  | c :: rest => do
      let value ← digit? c
      let next := total + value * scale
      let limit := threshold bias weight
      if numberBound ≤ next then none
      else if value < limit then return (next, rest)
      else readNumber? bias next (scale * (36 - limit)) (weight + 36) rest

/-- Put in one character after another.  Every number takes a character of the
text, so `fuel` of its length is enough. -/
def insertAll? : (fuel : Nat) → (label : List Char) → (point place bias : Nat) →
    List Char → Option (List Char)
  | _, label, _, _, _, [] => some label
  | 0, _, _, _, _, _ => none
  | fuel + 1, label, point, place, bias, digits => do
      let (delta, rest) ← readNumber? bias 0 1 36 digits
      let length := label.length + 1
      let nextPoint := point + (place + delta) / length
      let nextPlace := (place + delta) % length
      if nextPoint.isValidChar then
        let longer := label.insertIdx nextPlace (Char.ofNat nextPoint)
        insertAll? fuel longer nextPoint (nextPlace + 1) (adapt delta length (place == 0)) rest
      else none

/-- A written label in front of its last hyphen and after it.  All of it is the
second part if nothing stands in front of a hyphen. -/
def splitWritten (text : List Char) : List Char × List Char :=
  let back := text.reverse.takeWhile (· ≠ '-')
  match text.take (text.length - back.length - 1) with
  | [] => ([], text)
  | basic => (basic, back.reverse)

/-- The label that is written in this way. -/
def decode? (text : List Char) : Option (List Char) :=
  let (basic, digits) := splitWritten text
  insertAll? digits.length basic firstPoint 0 firstBias digits

/-! ## Writing -/

/-- The digits of a number. -/
def writeNumber (bias : Nat) : (fuel : Nat) → (number weight : Nat) → List Char
  | 0, _, _ => []
  | fuel + 1, number, weight =>
      let limit := threshold bias weight
      if number < limit then [digit number]
      else
        digit (limit + (number - limit) % (36 - limit))
          :: writeNumber bias fuel ((number - limit) / (36 - limit)) (weight + 36)

/-- What is kept while the characters of a label are counted through. -/
structure Count where
  delta : Nat
  bias : Nat
  /-- How many characters are written. -/
  written : Nat
  isFirst : Bool
  output : List Char

/-- Count a character of the label while `point` is written. -/
def Count.pass (point : Nat) (count : Count) (c : Char) : Count :=
  if c.toNat < point then { count with delta := count.delta + 1 }
  else if c.toNat = point then
    { delta := 0
      bias := adapt count.delta (count.written + 1) count.isFirst
      written := count.written + 1
      isFirst := false
      output := count.output ++ writeNumber count.bias (count.delta + 1) count.delta 36 }
  else count

/-- Write all characters with these code points, which increase. -/
def writeAll (label : List Char) : (previous : Nat) → List Nat → Count → Count
  | _, [], count => count
  | previous, point :: points, count =>
      let reached :=
        { count with delta := count.delta + (point - previous) * (count.written + 1) }
      let passed := label.foldl (Count.pass point) reached
      writeAll label (point + 1) points { passed with delta := passed.delta + 1 }

/-- A label as it is written. -/
def encode (label : List Char) : List Char :=
  let basic := label.filter (·.toNat < firstPoint)
  let others := (label.map Char.toNat).filter (firstPoint ≤ ·)
  let points := (others.mergeSort).eraseDups
  let front := if basic.isEmpty then [] else basic ++ ['-']
  front ++ (writeAll label firstPoint points ⟨0, firstBias, basic.length, true, []⟩).output

end ChangeRelay.Network.Domain.Punycode
