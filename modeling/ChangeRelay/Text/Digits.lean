/-!
# Digits

Values of single digits, runs of digits at the front of a text, and decimal
texts of a fixed width.  Only ASCII digits count.
-/

namespace ChangeRelay.Text

/-- The value of a decimal digit. -/
def decimalDigit? (c : Char) : Option Nat :=
  if '0' ≤ c ∧ c ≤ '9' then some (c.toNat - '0'.toNat) else none

/-- The value of a hexadecimal digit of either case. -/
def hexDigit? (c : Char) : Option Nat :=
  if '0' ≤ c ∧ c ≤ '9' then some (c.toNat - '0'.toNat)
  else if 'a' ≤ c ∧ c ≤ 'f' then some (c.toNat - 'a'.toNat + 10)
  else if 'A' ≤ c ∧ c ≤ 'F' then some (c.toNat - 'A'.toNat + 10)
  else none

/-- The decimal digit of a value below ten. -/
def decimalDigit (value : Nat) : Char :=
  Char.ofNat ('0'.toNat + value % 10)

/-- A hexadecimal digit in lower case, for a value below sixteen. -/
def hexDigit (value : Nat) : Char :=
  if value < 10 then decimalDigit value else Char.ofNat ('a'.toNat + (value - 10))

/-- The digits in front and the text after them, for any notion of digit. -/
def spanDigits (digit? : Char → Option Nat) : List Char → List Nat × List Char
  | [] => ([], [])
  | c :: rest =>
      match digit? c with
      | none => ([], c :: rest)
      | some digit =>
          let (digits, after) := spanDigits digit? rest
          (digit :: digits, after)

/-- The number that digits spell in a base. -/
def ofDigits (base : Nat) (digits : List Nat) : Nat :=
  digits.foldl (fun total digit => total * base + digit) 0

/-- The last `width` decimal digits of a number, leading zeros included. -/
def fixedWidth : Nat → Nat → List Char
  | 0, _ => []
  | width + 1, value => fixedWidth width (value / 10) ++ [decimalDigit value]

/-- Exactly `width` digits in front of a text, as a number. -/
def readFixedWidth? : Nat → List Char → Option (Nat × List Char)
  | width, text =>
      let digits := (text.take width).filterMap decimalDigit?
      if digits.length = width then some (ofDigits 10 digits, text.drop width) else none

/-- The text after an expected character. -/
def skip? (expected : Char) : List Char → Option (List Char)
  | [] => none
  | c :: rest => if c = expected then some rest else none

end ChangeRelay.Text
