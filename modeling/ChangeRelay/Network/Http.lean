import ChangeRelay.Json.Basic
import ChangeRelay.Network.Url

/-!
# HTTP exchanges

A request is built from texts, which can fail; a built request is answered or
not.  Only `http` and `https` addresses can be asked.  Credentials in an address
are not part of the address that is asked.

A client adds headers of its own to what it is given: the credentials of the
address, what it accepts, the host, the length of the body.  Which these are is
left to the client.
-/

namespace ChangeRelay.Network.Http

/-! ## Requests and responses -/

/-- What a request asks for. -/
inductive Method where
  | head
  | post
deriving DecidableEq, Repr

/-- The name of a method. -/
def Method.name : Method → String
  | head => "HEAD"
  | post => "POST"

/-- A request that can be sent. -/
structure Request where
  method : Method
  url : Url
  /-- The headers that the client adds by itself. -/
  ownHeaders : List (String × String)
  /-- The headers that the client was given, names in lower case. -/
  headers : List (String × String)
  body : Option Json
deriving DecidableEq

/-- The answer to a request. -/
structure Response where
  status : Nat
  body : String
deriving DecidableEq, Repr

namespace Response

/-- Whether the request was carried out. -/
def isSuccess (response : Response) : Bool :=
  200 ≤ response.status && response.status < 300

/-- Whether the server itself is at fault. -/
def isServerError (response : Response) : Bool :=
  500 ≤ response.status && response.status < 600

end Response

/-- The standard phrase of a status. -/
def reasonPhrase? : Nat → Option String
  | 100 => some "Continue"
  | 101 => some "Switching Protocols"
  | 102 => some "Processing"
  | 103 => some "Early Hints"
  | 200 => some "OK"
  | 201 => some "Created"
  | 202 => some "Accepted"
  | 203 => some "Non Authoritative Information"
  | 204 => some "No Content"
  | 205 => some "Reset Content"
  | 206 => some "Partial Content"
  | 207 => some "Multi-Status"
  | 208 => some "Already Reported"
  | 226 => some "IM Used"
  | 300 => some "Multiple Choices"
  | 301 => some "Moved Permanently"
  | 302 => some "Found"
  | 303 => some "See Other"
  | 304 => some "Not Modified"
  | 305 => some "Use Proxy"
  | 307 => some "Temporary Redirect"
  | 308 => some "Permanent Redirect"
  | 400 => some "Bad Request"
  | 401 => some "Unauthorized"
  | 402 => some "Payment Required"
  | 403 => some "Forbidden"
  | 404 => some "Not Found"
  | 405 => some "Method Not Allowed"
  | 406 => some "Not Acceptable"
  | 407 => some "Proxy Authentication Required"
  | 408 => some "Request Timeout"
  | 409 => some "Conflict"
  | 410 => some "Gone"
  | 411 => some "Length Required"
  | 412 => some "Precondition Failed"
  | 413 => some "Payload Too Large"
  | 414 => some "URI Too Long"
  | 415 => some "Unsupported Media Type"
  | 416 => some "Range Not Satisfiable"
  | 417 => some "Expectation Failed"
  | 418 => some "I'm a teapot"
  | 421 => some "Misdirected Request"
  | 422 => some "Unprocessable Entity"
  | 423 => some "Locked"
  | 424 => some "Failed Dependency"
  | 425 => some "Too Early"
  | 426 => some "Upgrade Required"
  | 428 => some "Precondition Required"
  | 429 => some "Too Many Requests"
  | 431 => some "Request Header Fields Too Large"
  | 451 => some "Unavailable For Legal Reasons"
  | 500 => some "Internal Server Error"
  | 501 => some "Not Implemented"
  | 502 => some "Bad Gateway"
  | 503 => some "Service Unavailable"
  | 504 => some "Gateway Timeout"
  | 505 => some "HTTP Version Not Supported"
  | 506 => some "Variant Also Negotiates"
  | 507 => some "Insufficient Storage"
  | 508 => some "Loop Detected"
  | 510 => some "Not Extended"
  | 511 => some "Network Authentication Required"
  | _ => none

/-- A status with its phrase. -/
def statusText (status : Nat) : String :=
  toString status ++ " " ++ (reasonPhrase? status).getD "<unknown status code>"

/-! ## Failures -/

/-- Why there is no response. -/
inductive Failure where
  /-- The request could not be built, perhaps because of this address. -/
  | notBuilt (url : Option Url)
  /-- The request was sent and not answered. -/
  | notAnswered (url : Url)
deriving DecidableEq, Repr

/-- The failure as it is shown. -/
def Failure.message : Failure → String
  | notBuilt none => "builder error"
  | notBuilt (some url) => "builder error for url (" ++ url.text ++ ")"
  | notAnswered url => "error sending request for url (" ++ url.text ++ ")"

/-! ## Building -/

/-- Whether a character may stand in the name of a header. -/
def mayStandInName (c : Char) : Bool :=
  Percent.isAlphanumeric c
    || c ∈ ['!', '#', '$', '%', '&', '\'', '*', '+', '-', '.', '^', '_', '\x60', '|', '~']

/-- The longest name of a header, in bytes. -/
def longestName : Nat :=
  65535

/-- Whether a text is the name of a header. -/
def isHeaderName (name : String) : Bool :=
  !name.isEmpty && name.toList.all mayStandInName && name.utf8ByteSize ≤ longestName

/-- Whether a text is the value of a header: it has no control characters. -/
def isHeaderValue (value : String) : Bool :=
  value.toList.all fun c => (' ' ≤ c && c ≠ '\x7f') || c = '\t'

/-- The header of a name and a value as it is sent. -/
def readHeader? (header : String × String) : Option (String × String) :=
  if isHeaderName header.1 && isHeaderValue header.2 then
    some (String.ofList (header.1.toList.map Host.lowerAscii), header.2)
  else none

/-- The longest address that can be sent, in bytes. -/
def longestAddress : Nat :=
  65534

/-- Whether an address can be sent: its host has to have plain characters. -/
def isSendable (url : Url) : Bool :=
  url.host.toList.all (· ∉ ['"', '\x60', '\x7b', '\x7d'])
    && url.text.utf8ByteSize ≤ longestAddress

/-- The headers that come with a JSON body. -/
def bodyHeaders (body : Option Json) : List (String × String) :=
  body.toList.map fun _ => ("content-type", "application/json")

/-! ## Exchanges -/

/-- A client and the network behind it. -/
structure Transport where
  /-- The headers that the client adds by itself when it is given an address as it is
  written, with its credentials, and some headers and perhaps a body. -/
  ownHeaders : Method → Url → List (String × String) → Option Json → List (String × String)
  /-- How the network answers a request, if it does. -/
  answer? : Request → Option Response

/-- The absence of a network: nothing is added to a request, and nothing answers it. -/
def Transport.absent : Transport :=
  ⟨fun _ _ _ _ => [], fun _ => none⟩

/-- The request of a client for an address as it is written, with the headers and the body
that the client is given. -/
def Transport.prepare (transport : Transport) (method : Method) (written : Url)
    (given : List (String × String)) (body : Option Json) : Request :=
  ⟨method, written.withoutCredentials, transport.ownHeaders method written given body, given, body⟩

/-- The request for an address, with some headers and perhaps a JSON body,
which brings its content type in front of the other headers. -/
def build (transport : Transport) (method : Method) (address : String)
    (headers : List (String × String)) (body : Option Json) : Except Failure Request := do
  let some written := Url.ofText? address | throw (.notBuilt none)
  if written.host = "" then throw (.notBuilt (some written))
  let some read := headers.mapM readHeader? | throw (.notBuilt none)
  let url := written.withoutCredentials
  unless url.scheme ∈ ["http", "https"] ∧ isSendable url do throw (.notBuilt (some url))
  return transport.prepare method written (bodyHeaders body ++ read) body

/-- The response to a request over a network. -/
def send (transport : Transport) (request : Request) : Except Failure Response :=
  match transport.answer? request with
  | some response => .ok response
  | none => .error (.notAnswered request.url)

end ChangeRelay.Network.Http
