import ChangeRelay.Network.SocketAddress
import ChangeRelay.Text.Parts
import ChangeRelay.Text.Unsigned

/-!
# The address of the cluster around the program

A program that runs inside of a cluster finds the address of the cluster in two
variables, one with a host and one with a port.  An internet address is always a
usable host.  Any other text has to make a URL, with the port behind it unless
it is the usual one.

A URL is taken from its host to its end.  The host ends with the first slash,
question mark or number sign, a question mark begins a query, and after a number
sign nothing matters any more.
-/

namespace ChangeRelay.Cluster

open Network

/-! ## Faults -/

/-- Why a text makes no URL. -/
inductive UrlFault where
  | tooLong
  /-- A character has no place in a URL. -/
  | character
  /-- Host and port have not the form of them. -/
  | authority
  /-- There is no host. -/
  | form
deriving DecidableEq, Repr

/-- The fault in words. -/
def UrlFault.message : UrlFault → String
  | tooLong => "uri too long"
  | character => "invalid uri character"
  | authority => "invalid authority"
  | form => "invalid format"

/-- Why the variables give no address. -/
inductive AddressFault where
  /-- One of the variables is not set. -/
  | unset
  | port (fault : Text.UnsignedFault)
  | url (fault : UrlFault)
deriving DecidableEq, Repr

/-- The fault in words. -/
def AddressFault.message : AddressFault → String
  | unset => "failed to read an incluster environment variable: environment variable not found"
  | port fault => "failed to parse cluster port: " ++ fault.message
  | url fault => "failed to parse cluster url: " ++ fault.message

/-! ## The host of a URL -/

/-- Whether a character is a letter, a digit or one of the signs that may stand
anywhere in the host of a URL. -/
def isHostChar (c : Char) : Bool :=
  c.isAlphanum
    || c ∈ ['!', '$', '&', '\'', '(', ')', '*', '+', ',', '-', '.', ';', '=', '_', '~']

/-- Whether a character ends the host of a URL. -/
def endsHost (c : Char) : Bool :=
  c ∈ ['/', '?', '#']

/-- How many colons there may be in one part of the host. -/
def colonLimit : Nat :=
  8

/-- What is known of a host so far. -/
structure Survey where
  /-- How many colons there are after the last bracket or sign of a user. -/
  colons : Nat
  /-- Whether there is a percent sign after the last bracket or sign of a user. -/
  hasPercent : Bool
  hasOpening : Bool
  hasClosing : Bool
  /-- Whether the last character is the sign of a user. -/
  endsWithUser : Bool
deriving DecidableEq, Repr

/-- Nothing is known. -/
def Survey.start : Survey :=
  ⟨0, false, false, false, false⟩

/-- Go on with a character of the host. -/
def Survey.next (c : Char) (survey : Survey) : Except UrlFault Survey :=
  let after := { survey with endsWithUser := c = '@' }
  if c = ':' then
    if colonLimit ≤ survey.colons then .error .authority
    else .ok { after with colons := survey.colons + 1 }
  else if c = '[' then
    if survey.hasPercent || survey.hasOpening then .error .authority
    else .ok { after with hasOpening := true }
  else if c = ']' then
    if !survey.hasOpening || survey.hasClosing then .error .authority
    else .ok { after with hasClosing := true, colons := 0, hasPercent := false }
  else if c = '@' then .ok { after with colons := 0, hasPercent := false }
  else if c = '%' then .ok { after with hasPercent := true }
  else if isHostChar c then .ok after
  else .error .character

/-- Whether a host can be as it was found. -/
def Survey.isSound (survey : Survey) : Bool :=
  survey.hasOpening == survey.hasClosing && survey.colons ≤ 1 && !survey.endsWithUser
    && !survey.hasPercent

/-- Check a host. -/
def checkHost (host : List Char) : Except UrlFault Unit := do
  let survey ← host.foldlM (fun survey c => survey.next c) Survey.start
  if !survey.isSound then throw .authority
  if host.isEmpty then throw .form

/-! ## The rest of a URL -/

/-- Whether a character may stand in the path of a URL. -/
def isPathChar (c : Char) : Bool :=
  ' ' < c && c ∉ ['#', '<', '>', '?', '\x60']

/-- Whether a character may stand in the query of a URL. -/
def isQueryChar (c : Char) : Bool :=
  ' ' < c && c ∉ ['"', '#', '<', '>']

/-- Check what follows the host of a URL. -/
def checkRest (rest : List Char) : Except UrlFault Unit :=
  let relevant := rest.takeWhile (· ≠ '#')
  let path := relevant.takeWhile (· ≠ '?')
  let query := relevant.drop (path.length + 1)
  if path.all isPathChar && query.all isQueryChar then .ok () else .error .character

/-! ## Addresses -/

/-- The port of an address that is not written. -/
def usualPort : Nat :=
  443

/-- The longest URL, in bytes. -/
def longestUrl : Nat :=
  65534

/-- What stands in front of the host of a URL. -/
def scheme : String :=
  "https://"

/-- Whether a text is an internet address. -/
def isInternetAddress (host : String) : Bool :=
  (readIpv4? host.toList).any (fun (_, rest) => rest.isEmpty)
    || (readIpv6? host.toList).any fun (_, rest) => rest.isEmpty

/-- Check that a host and a port make a URL. -/
def checkUrl (host : String) (port : Nat) : Except UrlFault Unit :=
  if isInternetAddress host then .ok ()
  else
    let written := if port = usualPort then host else host ++ ":" ++ toString port
    let text := written.toList
    let name := text.takeWhile fun c => !endsHost c
    if longestUrl < Text.byteCount (scheme ++ written).toList then .error .tooLong
    else do
      checkHost name
      checkRest (text.drop name.length)

/-- The variable with the host. -/
def hostVariable : String :=
  "KUBERNETES_SERVICE_HOST"

/-- The variable with the port. -/
def portVariable : String :=
  "KUBERNETES_SERVICE_PORT"

/-- The largest port. -/
def largestPort : Nat :=
  65535

/-- Check the address in the variables. -/
def checkAddress (lookup : String → Option String) : Except AddressFault Unit :=
  match lookup hostVariable, lookup portVariable with
  | some host, some port => do
      let number ← (Text.readUnsigned largestPort port).mapError .port
      (checkUrl host number).mapError .url
  | _, _ => .error .unset

end ChangeRelay.Cluster
