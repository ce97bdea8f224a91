import ChangeRelay.Json.Basic
import ChangeRelay.Text.Digits

/-!
# Numbers in JSON text

An integer that fits in 64 bits stays an integer.  Every other number becomes
a binary64 value; of its digits only those that fit in 64 bits count.

Where text breaks off it may only lack its end.  So a reader of text does not
just fail: its `Trouble` says whether the text ended too early or is wrong.
-/

namespace ChangeRelay.Json

open Text

/-- Why text could not be read. -/
inductive Trouble where
  /-- The text ended where more was needed. -/
  | cutOff
  | fault
deriving DecidableEq, Repr

/-! ## The value of a number -/

/-- The largest integer that digits are gathered into. -/
def digitLimit : Nat :=
  18446744073709551615

/-- Digits gathered in front while the result stays within `digitLimit`, with
the digits that are left over. -/
def gatherDigits (gathered : Nat) : List Nat → Nat × List Nat
  | [] => (gathered, [])
  | digit :: rest =>
      if digitLimit < gathered * 10 + digit then (gathered, digit :: rest)
      else gatherDigits (gathered * 10 + digit) rest

/-- A number literal by its parts. -/
structure NumberLiteral where
  negative : Bool
  whole : List Nat
  fraction : Option (List Nat)
  exponent : Option (Bool × List Nat)

namespace NumberLiteral

/-- The exponent written in the literal, as a signed number. -/
def writtenExponent (literal : NumberLiteral) : Int :=
  match literal.exponent with
  | none => 0
  | some (negative, digits) =>
      if negative then -(ofDigits 10 digits : Int) else ofDigits 10 digits

/-- The value of a literal; `none` when it is beyond the finite range. -/
def value? (literal : NumberLiteral) : Option JsonNumber := do
  let (whole, excess) := gatherDigits 0 literal.whole
  let (digits, dropped) := gatherDigits whole (literal.fraction.getD [])
  let places := (literal.fraction.getD []).length - dropped.length
  if literal.fraction.isNone ∧ literal.exponent.isNone ∧ excess.isEmpty then
    if ¬ literal.negative then
      return .int digits
    if 0 < digits ∧ digits ≤ 9223372036854775808 then
      return .int (-digits)
  let magnitude ←
    Binary64.ofDecimal? digits (literal.writtenExponent + excess.length - places)
  return .real (if literal.negative then magnitude.negate else magnitude)

end NumberLiteral

/-! ## Reading a number -/

/-- The trouble with a number in which a digit is missing before this text. -/
def digitMissing (text : List Char) : Trouble :=
  if text.isEmpty then .cutOff else .fault

/-- At least one digit in front of a text. -/
def readDigits (text : List Char) : Except Trouble (List Nat × List Char) :=
  match spanDigits decimalDigit? text with
  | ([], rest) => .error (digitMissing rest)
  | found => .ok found

/-- The whole part of a number: one zero, or digits that start with another
digit. -/
def readWhole (text : List Char) : Except Trouble (List Nat × List Char) :=
  match readDigits text with
  | .ok (0 :: _ :: _, _) => .error .fault
  | found => found

/-- The optional fraction of a number. -/
def readFraction : List Char → Except Trouble (Option (List Nat) × List Char)
  | '.' :: rest => (readDigits rest).map fun (digits, after) => (some digits, after)
  | rest => .ok (none, rest)

/-- The optional sign of an exponent. -/
def readExponentSign : List Char → Bool × List Char
  | '-' :: rest => (true, rest)
  | '+' :: rest => (false, rest)
  | rest => (false, rest)

/-- The optional exponent of a number. -/
def readExponent : List Char → Except Trouble (Option (Bool × List Nat) × List Char)
  | [] => .ok (none, [])
  | c :: rest =>
      if c = 'e' ∨ c = 'E' then
        let (negative, unsigned) := readExponentSign rest
        (readDigits unsigned).map fun (digits, after) => (some (negative, digits), after)
      else .ok (none, c :: rest)

/-- The number literal in front of a text. -/
def readNumber (text : List Char) : Except Trouble (NumberLiteral × List Char) := do
  let (negative, unsigned) :=
    match text with
    | '-' :: rest => (true, rest)
    | _ => (false, text)
  let (whole, afterWhole) ← readWhole unsigned
  let (fraction, afterFraction) ← readFraction afterWhole
  let (exponent, after) ← readExponent afterFraction
  return (⟨negative, whole, fraction, exponent⟩, after)

end ChangeRelay.Json
