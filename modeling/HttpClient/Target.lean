import HttpClient.Error

/-!
# Connection targets

Where a connection leads: a scheme, a host and a port. The port is always explicit, so URLs
that name the default port and URLs that leave it out have one target.
-/

namespace HttpClient

/-- The two schemes that requests are sent over. -/
inductive HttpScheme
  | http
  | https
  deriving DecidableEq, Repr

/-- The name of a scheme. -/
def HttpScheme.name : HttpScheme → String
  | http => "http"
  | https => "https"

/-- The port of a scheme when none is named. -/
def HttpScheme.defaultPort : HttpScheme → Nat
  | http => 80
  | https => 443

/-- The scheme of a name of either case. -/
def HttpScheme.parse? (name : String) : Option HttpScheme :=
  if Ascii.sameLetters name "http" then some http
  else if Ascii.sameLetters name "https" then some https
  else none

/-- Where a connection leads. -/
structure Target where
  scheme : HttpScheme
  /-- The host in lower case, an IPv6 address in brackets. -/
  hostText : String
  port : Nat
  deriving DecidableEq, Repr

namespace Target

/-- The target of a scheme, a host and a port that may be left out. -/
def make (scheme host : String) (port : Option Nat) : Except Error Target :=
  match HttpScheme.parse? scheme with
  | none => .error (.of .builder (.text ("unsupported scheme: " ++ scheme)))
  | some scheme =>
    if host.isEmpty then .error (.of .builder (.text "target host is empty"))
    else .ok ⟨scheme, Ascii.lower host, port.getD scheme.defaultPort⟩

/-- The target of a URL. -/
def ofUrl (url : Url) : Except Error Target :=
  match url.hostText? with
  | none => .error (.badScheme url)
  | some host => (make url.scheme host url.port).mapError (·.withUrl url)

/-- The host without brackets. -/
def host (t : Target) : String :=
  String.ofList ((t.hostText.toList.dropWhile (· == '[')).reverse.dropWhile (· == ']')).reverse

/-- True for targets that need an encrypted transport. -/
def isSecure (t : Target) : Bool := t.scheme == .https

/-- What the `Host` header says. -/
def authority (t : Target) : String :=
  if t.port = t.scheme.defaultPort then t.hostText else t.hostText ++ ":" ++ toString t.port

/-- The text of a target. -/
def render (t : Target) : String := t.scheme.name ++ "://" ++ t.hostText ++ ":" ++ toString t.port

end Target

/-- The URL itself, if requests can be sent to it. -/
def Url.forRequest (url : Url) : Except Error Url :=
  if url.hostText?.isSome && url.isHttp then .ok url else .error (.badScheme url)

/-- Reads a URL that requests can be sent to. -/
def Url.parseForRequest (parse : String → Except UrlError Url) (text : String) : Except Error Url :=
  match parse text with
  | .error reason => .error (.of .builder (.badUrl reason))
  | .ok url => url.forRequest

end HttpClient
