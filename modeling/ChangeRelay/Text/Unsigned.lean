import ChangeRelay.Text.Digits

/-!
# Unsigned decimal numbers

Reading goes from left to right and stops at the first fault: a character that
is no digit, or a digit with which the number leaves its range.  One plus sign
in front is allowed.
-/

namespace ChangeRelay.Text

/-- Why a text is no unsigned number. -/
inductive UnsignedFault where
  | empty
  | invalidDigit
  | tooLarge
deriving DecidableEq, Repr

/-- The fault as it is shown. -/
def UnsignedFault.message : UnsignedFault → String
  | empty => "cannot parse integer from empty string"
  | invalidDigit => "invalid digit found in string"
  | tooLarge => "number too large to fit in target type"

/-- The largest number of 64 bits. -/
def largest64 : Nat :=
  18446744073709551615

/-- Digits that continue a number, with the largest number allowed. -/
def continueUnsigned (largest total : Nat) : List Char → Except UnsignedFault Nat
  | [] => .ok total
  | c :: rest =>
      match decimalDigit? c with
      | none => .error .invalidDigit
      | some digit =>
          if largest < total * 10 + digit then .error .tooLarge
          else continueUnsigned largest (total * 10 + digit) rest

/-- The number that a text spells, with the largest number allowed. -/
def readUnsigned (largest : Nat) (text : String) : Except UnsignedFault Nat :=
  match text.toList with
  | [] => .error .empty
  | ['+'] => .error .invalidDigit
  | '+' :: digits => continueUnsigned largest 0 digits
  | digits => continueUnsigned largest 0 digits

end ChangeRelay.Text
