import ChangeRelay.Calendar.Instant
import ChangeRelay.Text.Digits

/-!
# Timestamps

Instants are written and read as RFC 3339 texts, and no other form is read.
Reading takes any offset smaller than a day and moves the time to UTC; of the
fraction of a second the first nine digits count.  Writing is in UTC, with a
fixed number of digits in the fraction, and cuts what does not fit.

A year outside of 0 to 9999 is written with its sign and at least four digits,
and read back from that form.
-/

namespace ChangeRelay.Calendar

open Text

/-- How fine a timestamp is written. -/
inductive Precision where
  | seconds
  | microseconds
deriving DecidableEq, Repr

/-- The nanoseconds in one unit of the last place. -/
def Precision.unit : Precision → Nat
  | .seconds => 1000000000
  | .microseconds => 1000

namespace Instant

/-! ## Writing -/

/-- Digits of a year: four at least. -/
def yearDigits (size : Nat) : List Char :=
  if size < 10000 then fixedWidth 4 size else (toString size).toList

/-- A year, with a sign outside of 0 to 9999. -/
def yearText (year : Int) : List Char :=
  if year < 0 then '-' :: yearDigits year.natAbs
  else if 9999 < year then '+' :: yearDigits year.natAbs
  else yearDigits year.natAbs

/-- The fraction of a second. -/
def fractionText (nanosecond : Nat) : Precision → List Char
  | .seconds => []
  | .microseconds => '.' :: fixedWidth 6 (nanosecond / 1000)

/-- The timestamp of an instant. -/
def toTimestamp (precision : Precision) (instant : Instant) : String :=
  String.ofList <|
    yearText instant.date.year ++ '-' :: fixedWidth 2 instant.date.month
      ++ '-' :: fixedWidth 2 instant.date.day
      ++ 'T' :: fixedWidth 2 instant.clock.hour
      ++ ':' :: fixedWidth 2 instant.clock.minute
      ++ ':' :: fixedWidth 2 instant.second
      ++ fractionText instant.nanosecond precision ++ ['Z']

/-! ## Reading -/

/-- A year: four digits, or a sign and at least four digits. -/
def readYear? (text : List Char) : Option (Int × List Char) :=
  match text with
  | '+' :: rest => signed 1 rest
  | '-' :: rest => signed (-1) rest
  | _ => (readFixedWidth? 4 text).map fun (year, rest) => ((year : Int), rest)
where
  signed (sign : Int) (rest : List Char) : Option (Int × List Char) :=
    let (digits, after) := spanDigits decimalDigit? rest
    if digits.length < 4 then none else some (sign * ofDigits 10 digits, after)

/-- The digits of a fraction as nanoseconds. -/
def nanoseconds (digits : List Nat) : Nat :=
  ofDigits 10 ((digits ++ List.replicate 9 0).take 9)

/-- The optional fraction of a second. -/
def readFraction? : List Char → Option (Nat × List Char)
  | '.' :: rest =>
      match spanDigits decimalDigit? rest with
      | ([], _) => none
      | (digits, after) => some (nanoseconds digits, after)
  | rest => some (0, rest)

/-- The offset at the end of a timestamp. -/
def readOffset? : List Char → Option Offset
  | ['Z'] | ['z'] => some ⟨0, by decide⟩
  | sign :: rest => do
      let (hours, afterHours) ← readFixedWidth? 2 rest
      let (minutes, after) ← readFixedWidth? 2 (← skip? ':' afterHours)
      if size : hours < 24 ∧ minutes < 60 then
        if ¬ after.isEmpty then none
        else if sign = '+' then some ⟨hours * 60 + minutes, by omega⟩
        else if sign = '-' then some ⟨-(hours * 60 + minutes), by omega⟩
        else none
      else none
  | [] => none

/-- The instant with these local fields at an offset, if the date and the time
of day exist. -/
def ofFields? (year : Int) (month day hour minute second nanosecond : Nat) (offset : Offset) :
    Option Instant :=
  if date : IsDate year month day then
    if time : hour < 24 ∧ minute < 60 ∧ second ≤ 60 ∧ nanosecond < 1000000000 then
      let utc := toUtc ⟨year, month, day, date⟩ ⟨hour, minute, time.1, time.2.1⟩ offset
      some ⟨utc.1, utc.2, second, nanosecond, time.2.2.1, time.2.2.2⟩
    else none
  else none

/-- The instant that a timestamp names.  Only the form of RFC 3339 is read: a text with blanks
between its parts, or with a blank in place of the `T`, names no instant here, though a more
relaxed reader takes it.  Years have no bounds. -/
def ofTimestamp? (text : String) : Option Instant := do
  let (year, afterYear) ← readYear? text.toList
  let (month, afterMonth) ← readFixedWidth? 2 (← skip? '-' afterYear)
  let (day, afterDay) ← readFixedWidth? 2 (← skip? '-' afterMonth)
  let (hour, afterHour) ← readFixedWidth? 2 (← skip? 'T' afterDay <|> skip? 't' afterDay)
  let (minute, afterMinute) ← readFixedWidth? 2 (← skip? ':' afterHour)
  let (second, afterSecond) ← readFixedWidth? 2 (← skip? ':' afterMinute)
  let (nanosecond, afterFraction) ← readFraction? afterSecond
  let offset ← readOffset? afterFraction
  ofFields? year month day hour minute second nanosecond offset

end Instant

end ChangeRelay.Calendar
