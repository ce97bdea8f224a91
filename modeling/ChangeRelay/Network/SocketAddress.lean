import ChangeRelay.Text.Digits

/-!
# Socket addresses

An internet address with a port.  Version 6 addresses are written in brackets,
with a scope when it is not zero; of the longest runs of zero groups the first
one is shortened to two colons, if it has two groups at least.  An address that
embeds a version 4 address keeps the dotted form of it.

Reading accepts any number of leading zeros in a port and in a scope, up to
four digits in a group, and no leading zero in a version 4 address.
-/

namespace ChangeRelay.Network

open Text

/-- A version 4 address. -/
structure Ipv4 where
  first : UInt8
  second : UInt8
  third : UInt8
  fourth : UInt8
deriving DecidableEq, Repr

/-- A version 6 address: eight groups. -/
structure Ipv6 where
  groups : List UInt16
  length_groups : groups.length = 8
deriving DecidableEq

/-- An address with a port. -/
inductive SocketAddress where
  | v4 (address : Ipv4) (port : UInt16)
  | v6 (address : Ipv6) (scope : UInt32) (port : UInt16)
deriving DecidableEq

/-! ## Writing -/

namespace Ipv4

/-- The dotted form. -/
def text (address : Ipv4) : String :=
  toString address.first ++ "." ++ toString address.second ++ "." ++ toString address.third
    ++ "." ++ toString address.fourth

/-- The two groups that hold the address inside a version 6 address. -/
def groups (address : Ipv4) : List UInt16 :=
  [address.first.toUInt16 * 256 + address.second.toUInt16,
    address.third.toUInt16 * 256 + address.fourth.toUInt16]

end Ipv4

namespace Ipv6

/-- One group, without leading zeros. -/
def groupText (group : UInt16) : String :=
  String.ofList (Nat.toDigits 16 group.toNat)

/-- Groups with colons between them. -/
def groupsText (groups : List UInt16) : String :=
  String.intercalate ":" (groups.map groupText)

/-- How many groups in front are zero. -/
def leadingZeros (groups : List UInt16) : Nat :=
  (groups.takeWhile (· == 0)).length

/-- Start and length of the first of the longest runs of zero groups. -/
def longestZeroRun (groups : List UInt16) : Nat × Nat :=
  (List.range groups.length).foldl
    (fun best start =>
      let length := leadingZeros (groups.drop start)
      if best.2 < length then (start, length) else best)
    (0, 0)

/-- The version 4 address that the address maps, if it does. -/
def mapped? (address : Ipv6) : Option Ipv4 :=
  match address.groups with
  | [0, 0, 0, 0, 0, 0xffff, high, low] =>
      some ⟨(high / 256).toUInt8, high.toUInt8, (low / 256).toUInt8, low.toUInt8⟩
  | _ => none

/-- The groups, with the longest run of zeros shortened. -/
def compressed (address : Ipv6) : String :=
  let (start, length) := longestZeroRun address.groups
  if 1 < length then
    groupsText (address.groups.take start) ++ "::"
      ++ groupsText (address.groups.drop (start + length))
  else groupsText address.groups

/-- The shortest form. -/
def text (address : Ipv6) : String :=
  match address.mapped? with
  | some embedded => "::ffff:" ++ embedded.text
  | none => address.compressed

end Ipv6

namespace SocketAddress

/-- The address as it is shown. -/
def text : SocketAddress → String
  | v4 address port => address.text ++ ":" ++ toString port
  | v6 address scope port =>
      let suffix := if scope = 0 then "" else "%" ++ toString scope
      "[" ++ address.text ++ suffix ++ "]:" ++ toString port

end SocketAddress

/-! ## Reading -/

/-- A number in front of a text: at least one digit, at most `width` of them if
a width is given, and no more than `largest`. -/
def readNumber? (digit? : Char → Option Nat) (base : Nat) (width : Option Nat)
    (largest : Nat) (text : List Char) : Option (Nat × List Char) :=
  let (digits, rest) := spanDigits digit? text
  let value := ofDigits base digits
  if digits.isEmpty ∨ width.any (· < digits.length) ∨ largest < value then none
  else some (value, rest)

/-- A decimal number, with any number of leading zeros. -/
def readDecimal? (largest : Nat) (text : List Char) : Option (Nat × List Char) :=
  readNumber? decimalDigit? 10 none largest text

/-- One part of a version 4 address. -/
def readOctet? (text : List Char) : Option (UInt8 × List Char) :=
  match text with
  | '0' :: c :: _ =>
      if (decimalDigit? c).isSome then none else some (0, text.drop 1)
  | _ => (readNumber? decimalDigit? 10 (some 3) 255 text).map fun (value, rest) =>
      (UInt8.ofNat value, rest)

/-- A version 4 address in front of a text. -/
def readIpv4? (text : List Char) : Option (Ipv4 × List Char) := do
  let (first, afterFirst) ← readOctet? text
  let (second, afterSecond) ← readOctet? (← skip? '.' afterFirst)
  let (third, afterThird) ← readOctet? (← skip? '.' afterSecond)
  let (fourth, rest) ← readOctet? (← skip? '.' afterThird)
  return (⟨first, second, third, fourth⟩, rest)

/-- One group of a version 6 address. -/
def readGroup? (text : List Char) : Option (UInt16 × List Char) :=
  (readNumber? hexDigit? 16 (some 4) 65535 text).map fun (value, rest) =>
    (UInt16.ofNat value, rest)

/-- Groups in front of a text, as many as there are and at most `room` of them.
The last two may be written as a version 4 address; the truth value says
whether they are. -/
def readGroups : (room : Nat) → (isFirst : Bool) → List Char → List UInt16 × Bool × List Char
  | 0, _, text => ([], false, text)
  | room + 1, isFirst, text =>
      let start? := if isFirst then some text else skip? ':' text
      match if 0 < room then start?.bind readIpv4? else none with
      | some (embedded, rest) => (embedded.groups, true, rest)
      | none =>
          match start?.bind readGroup? with
          | none => ([], false, text)
          | some (group, rest) =>
              let (groups, embeds, after) := readGroups room false rest
              (group :: groups, embeds, after)

/-- A version 6 address in front of a text. -/
def readIpv6? (text : List Char) : Option (Ipv6 × List Char) :=
  let (front, embeds, afterFront) := readGroups 8 true text
  if whole : front.length = 8 then some (⟨front, whole⟩, afterFront)
  else if embeds then none
  else do
    let afterColons ← skip? ':' (← skip? ':' afterFront)
    let (back, _, rest) := readGroups (7 - front.length) true afterColons
    let zeros := List.replicate (8 - front.length - back.length) 0
    if whole : (front ++ zeros ++ back).length = 8 then
      return (⟨front ++ zeros ++ back, whole⟩, rest)
    else none

/-- The scope of a version 6 address, zero when there is none. -/
def readScope? : List Char → Option (UInt32 × List Char)
  | '%' :: rest =>
      (readDecimal? 4294967295 rest).map fun (scope, after) => (UInt32.ofNat scope, after)
  | text => some (0, text)

/-- The port at the end of a text. -/
def readPort? (text : List Char) : Option UInt16 := do
  let (port, rest) ← readDecimal? 65535 (← skip? ':' text)
  if rest.isEmpty then return UInt16.ofNat port else none

namespace SocketAddress

/-- The address that a text names. -/
def ofText? (text : String) : Option SocketAddress :=
  match text.toList with
  | '[' :: bracketed => do
      let (address, afterAddress) ← readIpv6? bracketed
      let (scope, afterScope) ← readScope? afterAddress
      let port ← readPort? (← skip? ']' afterScope)
      return .v6 address scope port
  | plain => do
      let (address, rest) ← readIpv4? plain
      return .v4 address (← readPort? rest)

end SocketAddress

end ChangeRelay.Network
