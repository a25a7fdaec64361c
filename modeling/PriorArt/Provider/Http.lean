import PriorArt.Json.Printer
import PriorArt.Provider.Address
import PriorArt.Provider.ContentType
import PriorArt.Provider.Framing

/-!
# Calls over HTTP

A call posts a JSON value to an address and takes the text of the reply. A reply whose head is not
well formed is as good as none.
-/

namespace PriorArt

/-- A request as it is received: the address that it was sent to, its headers and the bytes after
them. -/
structure HttpRequest where
  address : Address
  headers : Headers
  body : List UInt8

/-- What becomes of a request: bytes are sent back before the connection is closed, or nothing
happens in time. -/
inductive HttpReply where
  | sent (bytes : List UInt8)
  | silence

/-! ## Replies -/

namespace HttpReply

/-- No response comes before the connection is closed. -/
def closed : HttpReply := .sent []

/-- A response with one of these statuses only announces another one. -/
def isInformational (status : Nat) : Bool :=
  status < 200 && status ≠ 101

/-- The head of a response that is not only announced, and the bytes after it. The fuel bounds the
number of heads. -/
def finalHead? : Nat → List UInt8 → Option (Head × List UInt8)
  | 0, _ => none
  | fuel + 1, bytes => do
    let (head, rest) ← Head.read? bytes
    if isInformational head.status then finalHead? fuel rest else some (head, rest)

def isFailure (status : Nat) : Bool :=
  400 ≤ status && status ≤ 599

def contentTypeName : String := "content-type"

def charsetOf (headers : Headers) : Charset :=
  match Head.valuesOf contentTypeName headers with
  | value :: _ => if value.toList.all Headers.isPlain then ContentType.charset value else .utf8
  | [] => .utf8

def retryAfterName : String := "retry-after"

/-- The failure of a request that has no response. -/
def unanswered (address : Address) : String :=
  "error sending request for url (" ++ address.text ++ ")"

/-- The text of a response to a request to an address, if it is no failure. -/
def text (address : Address) : HttpReply → Except Failure String
  | .silence => .error (.timeout (unanswered address))
  | .sent bytes =>
    let framed := do
      let (head, rest) ← finalHead? (bytes.length + 1) bytes
      return (head, ← Framing.ofHead? head, rest)
    match framed with
    | none => .error (.connection (unanswered address))
    | some (head, framing, rest) =>
      match framing.body? rest with
      | none => .error (.connection "error decoding response body")
      | some body =>
        let text := (charsetOf head.headers).decodeMarked body
        if isFailure head.status then
          let retryAfter := Headers.retryAfter? (Head.valuesOf retryAfterName head.headers)
          .error (.status head.status retryAfter text)
        else .ok text

end HttpReply

/-! ## Requests -/

/-- The means to call one service. There is no address if the one that was given cannot be
read. -/
structure HttpClient where
  address : Option Address
  headers : Headers

namespace HttpClient

/-- The content type of a request, unless the headers give another. -/
def defaultContentType : String × String := ("content-type", "application/json")

def credentialsName : String := "authorization"

/-- The client for an address with the headers that its configuration gives. Credentials in the
address are for requests without others. -/
def create (address : String) (headers : Headers) : HttpClient :=
  let address := Address.read? address
  let fallbacks := match address.bind (·.credentials) with
    | some credentials => [(credentialsName, credentials.headerValue), defaultContentType]
    | none => [defaultContentType]
  { address
    headers := headers ++ fallbacks.filter fun header => (headers.lookup header.1).isNone }

/-- The headers of a request and the bytes after them. Headers that name a coding ask for chunks,
and those that tell a length bound the bytes. There are none if the length is not reached. -/
def framed? (headers : Headers) (body : List UInt8) : Option (Headers × List UInt8) :=
  let length := Framing.commonLength? (headers.lookup Framing.lengthName).toList
  match headers.lookup Framing.codingName, length with
  | some coding, length =>
    let headers : Headers :=
      if length.isSome then headers.filter (·.1 ≠ Framing.lengthName) else headers
    let coding :=
      if Framing.isChunked coding then coding
      else coding ++ ", " ++ String.ofList Framing.chunkedCoding
    some (headers.insert Framing.codingName coding, Framing.inChunk body)
  | none, some length => if length ≤ body.length then some (headers, body.take length) else none
  | none, none => some (headers.insert Framing.lengthName (toString body.length), body)

/-- The address that a call goes to. -/
def destination (client : HttpClient) : Except Failure Address :=
  match client.address with
  | none => .error (.connection "builder error")
  | some address =>
    if address.isCallable then .ok address
    else .error (.connection ("builder error for url (" ++ address.text ++ ")"))

/-- The request that a call with a JSON value sends. A service waits in vain for bytes that a header
tells of and that do not come. -/
def request (client : HttpClient) (body : Json) : Except Failure HttpRequest :=
  client.destination.bind fun address =>
    match framed? client.headers (Utf8.encode body.compact) with
    | some (headers, body) => .ok ⟨address, headers, body⟩
    | none => .error (.timeout (HttpReply.unanswered address))

def answer (client : HttpClient) (reply : HttpReply) : Except Failure String :=
  client.destination.bind fun address => reply.text address

end HttpClient

end PriorArt
