import HttpClient.Http1.Head

/-!
# Where the body of a response ends

The request method, the status and the headers say how a body is delimited: not at all, by its
length, in chunks, or by the end of the connection. They also say whether the connection can
carry another request afterwards.
-/

namespace HttpClient.Http1

/-- How a body is delimited. -/
inductive Framing
  | empty
  | length (n : Nat)
  | chunked
  | untilClose
  deriving DecidableEq, Repr

/-- A response that only precedes the one that answers the request. -/
def isInterim (status : Status) : Bool := status < 200 && status ≠ 101

/-- A response after which the connection speaks no HTTP any more. -/
def endsProtocol (method : Method) (status : Status) : Bool :=
  status = 101 || method = "CONNECT" && 200 ≤ status && status < 300

/-- True for responses that never have a body. -/
def isBodiless (method : Method) (status : Status) : Bool :=
  status = 204 || status = 304 || method = "HEAD" || endsProtocol method status

/-- The pieces of a list that is separated by commas, without blanks around them. -/
def listPieces (value : List Char) : List (List Char) :=
  (Ascii.splitAt ',' value).map (Ascii.trimBy Ascii.isBlank)

/-- True when a coding list ends with `chunked`. -/
def endsChunked (value : HeaderValue) : Bool :=
  value.chars?.any fun cs =>
    (listPieces cs).getLast?.any fun piece => Ascii.sameLetters (String.ofList piece) "chunked"

/-- The longest body that can be announced. -/
def maxLength : Nat := Nat.pow 2 64 - 3

/-- The length that all `Content-Length` headers agree on. -/
def agreedLength? (values : List HeaderValue) : Option Nat := do
  let pieces ← values.mapM fun value => value.chars?.map listPieces
  let lengths ← pieces.flatten.mapM Head.word64?
  let length ← lengths.head?
  if lengths.all (· = length) && length ≤ maxLength then some length else none

/-- How the body of a response is delimited, unless its headers make no sense. -/
def framing? (method : Method) (head : Head) : Option Framing :=
  let codings := head.headers.values "transfer-encoding"
  let lengths := head.headers.values "content-length"
  if isBodiless method head.status then some .empty
  else
    match codings.getLast? with
    | some coding =>
      if head.version = .http10 then none
      else some (if endsChunked coding then .chunked else .untilClose)
    | none =>
      if lengths.isEmpty then some .untilClose
      else (agreedLength? lengths).map fun n => if n = 0 then .empty else .length n

/-- True when a list of connection options names one. -/
def namesOption (value : HeaderValue) (option : String) : Bool :=
  value.chars?.any fun cs =>
    (listPieces cs).any fun piece => Ascii.sameLetters (String.ofList piece) option

/-- True when the connection outlives a response. The newer version keeps it from the start;
each `Connection` header ends what is kept if it names `close`, and keeps what is ended if it
names `keep-alive`. -/
def keepsAlive (method : Method) (head : Head) : Bool :=
  let values := head.headers.values "connection"
  let kept := values.foldl (fun kept value =>
    if kept then !namesOption value "close" else namesOption value "keep-alive")
    (head.version == .http11)
  kept && !endsProtocol method head.status

end HttpClient.Http1
