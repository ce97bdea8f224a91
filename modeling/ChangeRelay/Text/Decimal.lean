import ChangeRelay.Text.Digits

/-!
# Texts of decimal numbers

Whether a text is a decimal number: digits with a point in front, behind or
among them, perhaps a sign and an exponent, or the word for an infinite number
or for no number.
-/

namespace ChangeRelay.Text

/-- A text without a sign in front. -/
def dropSign : List Char → List Char
  | '+' :: rest | '-' :: rest => rest
  | rest => rest

/-- The words for values that have no digits. -/
def unwrittenNumbers : List String :=
  ["inf", "infinity", "nan"]

/-- Whether a text is empty or an exponent. -/
def isExponent : List Char → Bool
  | [] => true
  | mark :: rest =>
      let (digits, after) := spanDigits decimalDigit? (dropSign rest)
      mark ∈ ['e', 'E'] && !digits.isEmpty && after.isEmpty

/-- The digits of a fraction after its point, and the text after them. -/
def spanFraction : List Char → List Nat × List Char
  | '.' :: rest => spanDigits decimalDigit? rest
  | rest => ([], rest)

/-- Whether a text is a decimal number. -/
def isDecimal (text : List Char) : Bool :=
  let unsigned := dropSign text
  let (whole, afterWhole) := spanDigits decimalDigit? unsigned
  let (fraction, after) := spanFraction afterWhole
  (!(whole.isEmpty && fraction.isEmpty) && isExponent after)
    || unwrittenNumbers.any fun word => unsigned.map Char.toLower = word.toList

end ChangeRelay.Text
