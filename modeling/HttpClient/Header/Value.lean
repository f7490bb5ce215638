import HttpClient.Text.Ascii
import HttpClient.Text.Utf8

/-!
# Header names and values

A name is a token, kept in lower case. A value is a byte string without control characters
other than the tab, and may be marked sensitive so that it is never shown.
-/

namespace HttpClient

/-- Why a piece of a message head is refused. -/
inductive HeadError
  | invalidHeaderName
  | invalidHeaderValue
  | invalidMethod
  | invalidStatus
  deriving DecidableEq, Repr

/-- The text of each reason. -/
def HeadError.message : HeadError → String
  | invalidHeaderName => "invalid HTTP header name"
  | invalidHeaderValue => "failed to parse header value"
  | invalidMethod => "invalid HTTP method"
  | invalidStatus => "invalid status code"

/-- The name of each reason. -/
def HeadError.name : HeadError → String
  | invalidHeaderName => "InvalidHeaderName"
  | invalidHeaderValue => "InvalidHeaderValue"
  | invalidMethod => "InvalidMethod"
  | invalidStatus => "InvalidStatusCode"

/-- A request method, case-sensitive. -/
abbrev Method := String

/-- A response status. -/
abbrev Status := Nat

/-- The token that a text is. -/
def token? (s : String) : Option String :=
  if s.toList.isEmpty || !s.toList.all Ascii.isTokenChar then none else some s

/-- A method is a token. -/
def Method.parse (s : String) : Except HeadError Method :=
  match token? s with
  | some s => .ok s
  | none => .error .invalidMethod

/-- A status has three digits. -/
def Status.ofNat (n : Nat) : Except HeadError Status :=
  if 100 ≤ n ∧ n ≤ 999 then .ok n else .error .invalidStatus

/-- A header name in lower case. -/
def headerName (bytes : Bytes) : Except HeadError String :=
  match token? (String.ofList (bytes.map Ascii.char)) with
  | some s => .ok (Ascii.lower s)
  | none => .error .invalidHeaderName

/-- The value of a header field. -/
structure HeaderValue where
  bytes : Bytes
  /-- A sensitive value is left out of texts made for people. -/
  sensitive : Bool := false
  deriving DecidableEq, Repr

namespace HeaderValue

/-- Bytes that a value may contain. -/
def isLegal (b : UInt8) : Bool := (32 ≤ b && b != 127) || b == 9

/-- The value with these bytes. -/
def ofBytes (bytes : Bytes) : Except HeadError HeaderValue :=
  if bytes.all isLegal then .ok { bytes := bytes } else .error .invalidHeaderValue

/-- The value of an ASCII text. -/
def ofAscii (text : String) : HeaderValue := { bytes := Ascii.bytes text }

/-- The characters of a value that is all visible ASCII. -/
def chars? (v : HeaderValue) : Option (List Char) := Ascii.ofVisible? v.bytes

/-- The text of a value that is all visible ASCII. -/
def text? (v : HeaderValue) : Option String := v.chars?.map String.ofList

/-- The same value, marked sensitive. -/
def hidden (v : HeaderValue) : HeaderValue := { v with sensitive := true }

end HeaderValue

end HttpClient
