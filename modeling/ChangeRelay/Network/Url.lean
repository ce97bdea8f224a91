import ChangeRelay.Network.Url.Authority

/-!
# Addresses of web resources

An address has a scheme, for most schemes a host, a path, and perhaps a query
and a fragment.  Reading brings an address into its normal form: scheme and
host in lower case, a port only when it is not the usual one, no dot segments
in the path, and percent codes where a character may not stand.
-/

namespace ChangeRelay.Network

open Text

/-- The address of a web resource. -/
structure Url where
  scheme : String
  authority : Option Url.Authority
  path : String
  query : Option String
  fragment : Option String
deriving DecidableEq, Repr

namespace Url

/-- The address as it is shown.  A path without a host in front of it must not
look like one with a host. -/
def text (url : Url) : String :=
  let front :=
    match url.authority with
    | some authority => authority.text
    | none => if url.path.startsWith "//" then "/." else ""
  url.scheme ++ ":" ++ front ++ url.path
    ++ (url.query.map ("?" ++ ·)).getD ""
    ++ (url.fragment.map ("#" ++ ·)).getD ""

/-- The host of an address, empty if none is named. -/
def host (url : Url) : String :=
  (url.authority.map Authority.host).getD ""

/-- The address without its credentials, if they can be taken out. -/
def withoutCredentials (url : Url) : Url :=
  let drop (authority : Authority) : Authority :=
    if authority.credentials.any Credentials.areUsable then
      { authority with credentials := none }
    else authority
  { url with authority := url.authority.map drop }

/-! ## Schemes -/

/-- The kinds of schemes. -/
inductive SchemeKind where
  /-- Addresses always have a host; this port is the usual one. -/
  | hosted (usualPort : Nat)
  | file
  /-- Nothing is known about the scheme. -/
  | unknown
deriving DecidableEq, Repr

/-- The kind of a scheme. -/
def SchemeKind.ofScheme : String → SchemeKind
  | "http" | "ws" => .hosted 80
  | "https" | "wss" => .hosted 443
  | "ftp" => .hosted 21
  | "file" => .file
  | _ => .unknown

/-- Whether a character may go on in a scheme. -/
def continuesScheme (c : Char) : Bool :=
  Percent.isAlphanumeric c || c ∈ ['+', '-', '.']

/-- The scheme of an address, in lower case, and the text after its colon. -/
def readScheme? (text : List Char) : Option (String × List Char) :=
  let scheme := text.takeWhile continuesScheme
  match text.drop scheme.length with
  | ':' :: rest =>
      if scheme.head?.any isLetter then some (String.ofList (scheme.map Host.lowerAscii), rest)
      else none
  | _ => none

/-! ## Reading -/

/-- A text in which all slashes lean one way. -/
def straighten (text : List Char) : List Char :=
  text.map fun c => if c = '\\' then '/' else c

/-- The authority and the path of an address that always has a host, from the
text after the colon. -/
def readHosted? (usualPort : Nat) (text : List Char) : Option (Option Authority × String) := do
  let inside := (straighten text).dropWhile (· = '/')
  let (authority, rest) ← Authority.read? (· = '/') true Host.canonical? inside
  let port := authority.port.filter (· ≠ usualPort)
  return (some { authority with port }, normalPath (rest.drop 1))

/-- The authority and the path of the address of a file, from the text after the
colon.  The authority is always there, and its host may be empty. -/
def readFile? (text : List Char) : Option (Option Authority × String) := do
  let at_ (host : String) : Option Authority := some ⟨none, host, none⟩
  match straighten text with
  | '/' :: '/' :: inside =>
      let hostText := inside.takeWhile (· ≠ '/')
      if hostText.isEmpty ∨ isDrive hostText then return (at_ "", (filePath inside).1)
      else
        let host ← Host.canonical? hostText
        let rest := inside.drop hostText.length
        if host = "localhost" then return (at_ "", (filePath rest).1)
        else
          let (path, namesDrive) := filePath (rest.drop 1)
          return (at_ (if namesDrive then "" else host), path)
  | '/' :: rest => return (at_ "", (filePath rest).1)
  | rest => return (at_ "", (filePath rest).1)

/-- The authority and the path of any other address, from the text after the
colon; `isLast` says that the address ends with it. -/
def readUnknown? (isLast : Bool) (text : List Char) : Option (Option Authority × String) :=
  match text with
  | '/' :: '/' :: inside => do
      let (authority, rest) ← Authority.read? (· = '/') isLast Host.unrestricted? inside
      let path :=
        match rest with
        | [] => ""
        | '/' :: afterSlash => normalPath afterSlash
        | others => normalPath others
      return (some authority, path)
  | '/' :: afterSlash => some (none, normalPath afterSlash)
  | rootless => some (none, String.ofList (Percent.encode Host.isPrintable rootless))

/-- A text without control characters and blanks around it, and without line
breaks and tabs in it. -/
def strip (text : List Char) : List Char :=
  let isMargin (c : Char) : Bool := c ≤ ' '
  (((text.dropWhile isMargin).reverse.dropWhile isMargin).reverse).filter
    fun c => c ∉ ['\t', '\n', '\r']

/-- The text after a mark in front, if the mark is there. -/
def afterMark? (mark : Char) (text : List Char) : Option (List Char) :=
  if text.head? = some mark then some (text.drop 1) else none

/-- The address that a text names. -/
def ofText? (text : String) : Option Url := do
  let (scheme, afterScheme) ← readScheme? (strip text.toList)
  let front := afterScheme.takeWhile fun c => c ≠ '?' && c ≠ '#'
  let tail := afterScheme.drop front.length
  let queryPart := tail.takeWhile (· ≠ '#')
  let kind := SchemeKind.ofScheme scheme
  let (authority, path) ←
    match kind with
    | .hosted usualPort => readHosted? usualPort front
    | .file => readFile? front
    | .unknown => readUnknown? tail.isEmpty front
  let encode (mayStand : Char → Bool) (part : List Char) : String :=
    String.ofList (Percent.encode mayStand part)
  return { scheme, authority, path
           query := (afterMark? '?' queryPart).map (encode (mayStandInQuery (kind ≠ .unknown)))
           fragment := (afterMark? '#' (tail.drop queryPart.length)).map
             (encode mayStandInFragment) }

end Url

end ChangeRelay.Network
