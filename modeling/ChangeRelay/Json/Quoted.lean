import ChangeRelay.Json.Numeral

/-!
# Quoted text in JSON text

A quoted text is read in two ways.  `readQuoted` gives the text that it stands
for.  `skipQuoted` only looks for its end, and takes surrogates as they come;
a text that is not needed may hold half of a pair.
-/

namespace ChangeRelay.Json

open Text

/-- The number written in four hexadecimal digits. -/
def hexUnit? (a b c d : Char) : Option Nat := do
  return (((← hexDigit? a) * 16 + (← hexDigit? b)) * 16 + (← hexDigit? c)) * 16
    + (← hexDigit? d)

/-- Whether a unit is the first half of a surrogate pair. -/
def isLead (unit : Nat) : Bool :=
  0xD800 ≤ unit && unit < 0xDC00

/-- Whether a unit is the second half of a surrogate pair. -/
def isTrail (unit : Nat) : Bool :=
  0xDC00 ≤ unit && unit < 0xE000

/-- The character that a surrogate pair stands for. -/
def pairedChar (lead trail : Nat) : Char :=
  Char.ofNat ((lead - 0xD800) * 0x400 + (trail - 0xDC00) + 0x10000)

/-- The character that a one-letter escape stands for. -/
def shortEscape? : Char → Option Char
  | '"' => some '"'
  | '\\' => some '\\'
  | '/' => some '/'
  | 'b' => some '\x08'
  | 'f' => some '\x0c'
  | 'n' => some '\n'
  | 'r' => some '\r'
  | 't' => some '\t'
  | _ => none

/-- The trouble with an escape whose four digits cannot be read from a text. -/
def unitMissing (text : List Char) : Trouble :=
  if (text.map Char.utf8Size).foldr (· + ·) 0 < 4 then .cutOff else .fault

/-- The unit in the four digits in front of a text. -/
def readUnit : List Char → Except Trouble Nat
  | a :: b :: c :: d :: rest =>
      match hexUnit? a b c d with
      | some unit => .ok unit
      | none => .error (unitMissing (a :: b :: c :: d :: rest))
  | text => .error (unitMissing text)

/-- A character in front of what reading on gives. -/
def before (c : Char) (read : Except Trouble (List Char × List Char)) :
    Except Trouble (List Char × List Char) :=
  read.map fun (text, rest) => (c :: text, rest)

/-- The rest of a quoted text after its opening quote, with the text after the
closing quote.  `lead` is the first half of a surrogate pair that waits for the
other half. -/
def readQuoted (lead : Option Nat) : List Char → Except Trouble (List Char × List Char)
  | [] => .error .cutOff
  | ['\\'] => .error .cutOff
  | '\\' :: 'u' :: a :: b :: c :: d :: rest =>
      match readUnit (a :: b :: c :: d :: rest), lead with
      | .error trouble, _ => .error trouble
      | .ok unit, none =>
          if isLead unit then readQuoted (some unit) rest
          else if isTrail unit then .error .fault
          else before (Char.ofNat unit) (readQuoted none rest)
      | .ok unit, some first =>
          if isTrail unit then before (pairedChar first unit) (readQuoted none rest)
          else .error .fault
  | '\\' :: 'u' :: rest => .error (unitMissing rest)
  | '\\' :: c :: rest =>
      match shortEscape? c, lead with
      | some plain, none => before plain (readQuoted none rest)
      | _, _ => .error .fault
  | c :: rest =>
      if lead.isSome ∨ c.toNat < 0x20 ∨ c = '\\' then .error .fault
      else if c = '"' then .ok ([], rest)
      else before c (readQuoted none rest)

/-- The text after the closing quote of a quoted text. -/
def skipQuoted : List Char → Except Trouble (List Char)
  | [] => .error .cutOff
  | ['\\'] => .error .cutOff
  | '\\' :: 'u' :: a :: b :: c :: d :: rest =>
      match readUnit (a :: b :: c :: d :: rest) with
      | .error trouble => .error trouble
      | .ok _ => skipQuoted rest
  | '\\' :: 'u' :: rest => .error (unitMissing rest)
  | '\\' :: c :: rest => if (shortEscape? c).isSome then skipQuoted rest else .error .fault
  | c :: rest =>
      if c.toNat < 0x20 then .error .fault
      else if c = '"' then .ok rest
      else skipQuoted rest

end ChangeRelay.Json
