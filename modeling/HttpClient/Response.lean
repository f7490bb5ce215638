import HttpClient.Header.Fields
import HttpClient.Url.Basic

/-!
# Response heads

What a server sends before a body, and what it says about the connection and the body.
-/

namespace HttpClient

/-- The versions of the protocol that responses come in. -/
inductive Version
  | http10
  | http11
  deriving DecidableEq, Repr

/-- The name of a version on the status line. -/
def Version.name : Version → String
  | http10 => "HTTP/1.0"
  | http11 => "HTTP/1.1"

/-- A response head as it is received. -/
structure Head where
  status : Status
  version : Version := .http11
  headers : Fields := {}
  deriving DecidableEq, Repr

namespace Head

/-- True when the `Connection` headers list an option, in any letter case. -/
def hasOption (h : Head) (option : String) : Bool :=
  ((h.headers.values "connection").filterMap HeaderValue.chars?).any fun value =>
    (Ascii.splitAt ',' value).any fun piece =>
      Ascii.sameLetters (String.ofList (Ascii.trimBy Ascii.isBlank piece)) option

/-- True when the server will not keep the connection open: the older version keeps it only
where it says so, the newer one unless it says otherwise. -/
def wantsClose (h : Head) : Bool :=
  match h.version with
  | .http10 => !h.hasOption "keep-alive"
  | .http11 => h.hasOption "close"

/-- The number that digits denote, if it fits into 64 bits. -/
def word64? (digits : List Char) : Option Nat :=
  if digits.isEmpty || !digits.all Char.isDigit then none
  else
    let n := digits.foldl (fun n c => 10 * n + (c.toNat - 48)) 0
    if n < Nat.pow 2 64 then some n else none

/-- The length of the body that the first `Content-Length` names; a plus sign may precede. -/
def contentLength? (h : Head) : Option Nat := do
  let value ← h.headers.first? "content-length"
  let digits ← value.chars?
  match digits with
  | '+' :: rest => word64? rest
  | _ => word64? digits

end Head

/-- The head of the response to a request, and the URL that it came from. -/
structure ResponseHead extends Head where
  url : Url
  deriving DecidableEq, Repr

end HttpClient
