import ChangeRelay.Network.Domain
import ChangeRelay.Network.SocketAddress

/-!
# Hosts

A host is a version 6 address in brackets, a version 4 address, or a name.  A
name whose last label is a number has to be a version 4 address, and each part
of such an address may be octal or hexadecimal, and may stand for several of
its bytes when it is the last one.  Names are of ASCII characters.
-/

namespace ChangeRelay.Network.Host

open Text

/-! ## Version 4 addresses -/

/-- A number as it may stand in a version 4 address. -/
def readPart? (text : List Char) : Option Nat :=
  let readIn (digit? : Char → Option Nat) (base : Nat) (digits : List Char) : Option Nat :=
    (digits.mapM digit?).map (ofDigits base)
  match text with
  | [] => none
  | '0' :: 'x' :: digits | '0' :: 'X' :: digits => readIn hexDigit? 16 digits
  | '0' :: digits =>
      readIn (fun c => (decimalDigit? c).filter (· < 8)) 8 digits
  | digits => readIn decimalDigit? 10 digits

/-- The labels of a name, without the empty one that a final dot makes. -/
def labels (name : List Char) : List (List Char) :=
  let all := segments '.' name
  if 1 < all.length ∧ all.getLast? = some [] then all.dropLast else all

/-- Whether a name has to be a version 4 address. -/
def endsInNumber (name : List Char) : Bool :=
  match (labels name).getLast? with
  | none => false
  | some last =>
      (!last.isEmpty && last.all fun c => (decimalDigit? c).isSome) || (readPart? last).isSome

/-- The version 4 address that numbers stand for: each is one byte, and the last
one is all the bytes that are left. -/
def ofParts? (parts : List Nat) : Option Ipv4 :=
  let front := parts.dropLast
  let last := parts.getLast?.getD 0
  let room := Nat.pow 256 (5 - parts.length)
  if parts.isEmpty ∨ 4 < parts.length ∨ front.any (255 < ·) ∨ room ≤ last then none
  else
    let places := [16777216, 65536, 256]
    let value := (List.zipWith (· * ·) front places).foldr (· + ·) last
    some ⟨.ofNat (value / 16777216), .ofNat (value / 65536), .ofNat (value / 256), .ofNat value⟩

/-! ## Hosts -/

/-- A letter of ASCII in lower case. -/
def lowerAscii (c : Char) : Char :=
  if 'A' ≤ c ∧ c ≤ 'Z' then Char.ofNat (c.toNat + 32) else c

/-- The written form of the version 6 address after an opening bracket. -/
def bracketed? (text : List Char) : Option String :=
  match readIpv6? text with
  | some (address, [']']) => some ("[" ++ address.compressed ++ "]")
  | _ => none

/-- The written form of the host that a text names. -/
def canonical? (text : List Char) : Option String :=
  match text with
  | '[' :: rest => bracketed? rest
  | text => do
      let name ← Domain.toAscii? (← Percent.decode? text)
      if name.isEmpty then none
      else if endsInNumber name then
        let address ← ofParts? (← (labels name).mapM readPart?)
        return address.text
      else return String.ofList name

/-- Whether a character is printable ASCII. -/
def isPrintable (c : Char) : Bool :=
  ' ' ≤ c && c < '\x7f'

/-- Whether a character may stand in a host of any form. -/
def mayStandAnywhere (c : Char) : Bool :=
  c ∉ ['\x00', '\t', '\n', '\r', ' ', '#', '/', ':', '<', '>', '?', '@', '[', '\\', ']', '^', '|']

/-- The written form of a host of any form, which may be empty. -/
def unrestricted? (text : List Char) : Option String :=
  match text with
  | '[' :: rest => bracketed? rest
  | text =>
      if text.all mayStandAnywhere then some (String.ofList (Percent.encode isPrintable text))
      else none

end ChangeRelay.Network.Host
