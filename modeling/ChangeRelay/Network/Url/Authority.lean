import ChangeRelay.Network.Url.Path

/-!
# Authorities of addresses

Behind two slashes an address may have credentials, a host and a port.
-/

namespace ChangeRelay.Network.Url

open Text

/-! ## Credentials -/

/-- The name and the password of a user, with codes where a character may not
stand. -/
structure Credentials where
  username : String
  password : Option String
deriving DecidableEq, Repr

namespace Credentials

/-- The credentials as they stand in front of a host. -/
def text (credentials : Credentials) : String :=
  credentials.username ++ (credentials.password.map (":" ++ ·)).getD "" ++ "@"

/-- The credentials that a text in front of an at sign stands for; an empty name
without a password, or with an empty one, is none. -/
def ofText? (text : List Char) : Option Credentials :=
  let encode (part : List Char) : String :=
    String.ofList (Percent.encode mayStandInCredentials part)
  let username := text.takeWhile (· ≠ ':')
  match username, text.drop (username.length + 1) with
  | [], [] => none
  | _, [] => some ⟨encode username, none⟩
  | _, password => some ⟨encode username, some (encode password)⟩

/-- Whether the codes of a text stand for UTF-8. -/
def isReadable (text : String) : Bool :=
  (Percent.decode? text.toList).isSome

/-- Whether credentials can be taken out of their address: the name has to be
readable, and there has to be a name or a readable password. -/
def areUsable (credentials : Credentials) : Bool :=
  isReadable credentials.username
    && (credentials.username ≠ "" || credentials.password.any isReadable)

end Credentials

/-! ## Hosts and ports -/

/-- The text of a host and the text after it; `isEnd` says what ends an
authority.  Between brackets a colon belongs to the host. -/
def spanHost (isEnd : Char → Bool) (inside : Bool) : List Char → List Char × List Char
  | [] => ([], [])
  | c :: rest =>
      if isEnd c || (c = ':' && !inside) then ([], c :: rest)
      else
        let (host, after) := spanHost isEnd (c = '[' || (inside && c ≠ ']')) rest
        (c :: host, after)

/-- The port in front of a text, and the text after it, which is a path. -/
def readPort? (text : List Char) : Option (Option Nat × List Char) :=
  let (digits, rest) := spanDigits decimalDigit? text
  let port := ofDigits 10 digits
  if rest.head?.all (· ∈ ['/', '\\']) ∧ port ≤ 65535 then
    some (if digits.isEmpty then none else some port, rest)
  else none

/-- The port after a host, and the text after it. -/
def readPortAfterHost? : List Char → Option (Option Nat × List Char)
  | ':' :: rest => readPort? rest
  | rest => some (none, rest)

/-! ## Authorities -/

/-- What stands between two slashes and the path of an address. -/
structure Authority where
  credentials : Option Credentials
  host : String
  port : Option Nat
deriving DecidableEq, Repr

namespace Authority

/-- The authority as it is shown. -/
def text (authority : Authority) : String :=
  "//" ++ (authority.credentials.map Credentials.text).getD "" ++ authority.host
    ++ (authority.port.map fun port => ":" ++ toString port).getD ""

/-- The text in front of the last at sign of an authority, if there is one, and
the text after it. -/
def cutCredentials (isEnd : Char → Bool) (text : List Char) : Option (List Char) × List Char :=
  let inside := text.takeWhile (!isEnd ·)
  if inside.contains '@' then
    let host := (inside.reverse.takeWhile (· ≠ '@')).reverse
    let front := inside.take (inside.length - host.length - 1)
    (some front, text.drop (front.length + 1))
  else (none, text)

/-- The authority in front of a text, and the text after it.  `isLast` says that
the address ends with the text.  A host is read by `readHost?`; if it may be
empty, it stands without credentials and without a port, and a lone at sign ends
the address. -/
def read? (isEnd : Char → Bool) (isLast : Bool) (readHost? : List Char → Option String)
    (text : List Char) : Option (Authority × List Char) := do
  let (front, rest) := cutCredentials isEnd text
  let credentials := front.bind Credentials.ofText?
  let isLoneSign := front = some [] && (if rest.isEmpty then !isLast else rest.head?.any isEnd)
  let (hostText, afterHost) := spanHost isEnd false rest
  let host ← readHost? hostText
  let (port, path) ← readPortAfterHost? afterHost
  if isLoneSign ∨ (host = "" ∧ (credentials.isSome ∨ afterHost.head? = some ':')) then none
  else return (⟨credentials, host, port⟩, path)

end Authority

end ChangeRelay.Network.Url
