import ChangeRelay.Text.Digits

/-!
# Percent codes

Characters that may not stand in a part of an address are written as the bytes
of their UTF-8 form, each as a percent sign and two hexadecimal digits.  Which
characters may stand is different for every part.
-/

namespace ChangeRelay.Network.Percent

open Text

/-- A hexadecimal digit in upper case, for a value below sixteen. -/
def upperHexDigit (value : Nat) : Char :=
  if value < 10 then decimalDigit value else Char.ofNat ('A'.toNat + (value - 10))

/-- The code of one byte. -/
def encodeByte (byte : UInt8) : List Char :=
  ['%', upperHexDigit (byte.toNat / 16), upperHexDigit (byte.toNat % 16)]

/-- The code of one character. -/
def encodeChar (c : Char) : List Char :=
  (String.utf8EncodeChar c).flatMap encodeByte

/-- A text in which the characters that may not stand are coded. -/
def encode (mayStand : Char → Bool) (text : List Char) : List Char :=
  text.flatMap fun c => if mayStand c then [c] else encodeChar c

/-- Whether a character is a letter or a digit of ASCII. -/
def isAlphanumeric (c : Char) : Bool :=
  ('a' ≤ c && c ≤ 'z') || ('A' ≤ c && c ≤ 'Z') || ('0' ≤ c && c ≤ '9')

/-- A value in a form: only letters, digits and four marks stand, and a blank
is a plus sign. -/
def encodeForm (text : String) : String :=
  String.ofList <| text.toList.flatMap fun c =>
    if isAlphanumeric c || c ∈ ['*', '-', '.', '_'] then [c]
    else if c = ' ' then ['+']
    else encodeChar c

/-- The bytes of a text with its codes resolved. -/
def decodeBytes : List Char → List UInt8
  | [] => []
  | '%' :: high :: low :: rest =>
      match hexDigit? high, hexDigit? low with
      | some upper, some lower => UInt8.ofNat (upper * 16 + lower) :: decodeBytes rest
      | _, _ => String.utf8EncodeChar '%' ++ decodeBytes (high :: low :: rest)
  | c :: rest => String.utf8EncodeChar c ++ decodeBytes rest

/-- A text with its codes resolved, if the result is valid UTF-8. -/
def decode? (text : List Char) : Option (List Char) :=
  (String.fromUTF8? ⟨(decodeBytes text).toArray⟩).map String.toList

end ChangeRelay.Network.Percent
