import HttpClient.Error
import HttpClient.Header.Fields
import HttpClient.Target

/-!
# Redirects

Which redirects are followed, and what becomes of the request: some statuses turn it into a
plain fetch, and credentials never go to another origin.
-/

namespace HttpClient

/-- What is done about a redirect. -/
inductive RedirectAction
  | follow
  /-- The response is for the caller. -/
  | stop
  | fail (cause : Cause)
  deriving DecidableEq, Repr

/-- Which redirects are followed. -/
inductive RedirectPolicy
  | none
  | limited (max : Nat)
  /-- Decides from the status, the next URL and the URLs requested so far. -/
  | custom (decide : Status → Url → List Url → RedirectAction)

namespace RedirectPolicy

/-- What is done about a redirect; `previous` are the URLs requested so far. -/
def check (p : RedirectPolicy) (status : Status) (next : Url) (previous : List Url) :
    RedirectAction :=
  match p with
  | none => .stop
  | limited max => if max < previous.length then .fail .tooManyRedirects else .follow
  | custom decide => decide status next previous

/-- False for the policy that leaves every redirect to the caller. -/
def isFollow (p : RedirectPolicy) : Bool :=
  match p with
  | none => false
  | _ => true

/-- The text of a policy. -/
def text (p : RedirectPolicy) : String :=
  match p with
  | none => "Policy(None)"
  | limited max => "Policy(Limit(" ++ toString max ++ "))"
  | custom _ => "Policy(Custom)"

end RedirectPolicy

namespace Redirect

/-- Statuses that send the client to the URL in `Location`. -/
def isRedirectStatus (status : Status) : Bool := [301, 302, 303, 307, 308].contains status

theorem isRedirectStatus_iff (status : Status) :
    isRedirectStatus status = true ↔ status ∈ [301, 302, 303, 307, 308] := List.contains_iff_mem

/-- True for statuses after which the request becomes a plain fetch. -/
def switchesToGet (status : Status) (strict302 : Bool) : Bool :=
  status == 301 || status == 303 || (status == 302 && !strict302)

/-- The headers that describe a body. -/
def bodyHeaders : List String :=
  ["content-length", "content-type", "content-encoding", "transfer-encoding"]

/-- The headers that carry credentials or ask for them. -/
def sensitiveHeaders : List String :=
  ["authorization", "cookie", "cookie2", "proxy-authorization", "www-authenticate"]

/-- The parts of a request that redirects change. -/
structure Content where
  method : Method
  headers : Fields
  body : Option Bytes
  deriving DecidableEq, Repr

/-- The request after a redirect with a status. -/
def adjust (status : Status) (strict302 : Bool) (c : Content) : Content :=
  if switchesToGet status strict302 then
    { method := if c.method = "HEAD" then "HEAD" else "GET"
      headers := c.headers.eraseAll bodyHeaders
      body := none }
  else c

/-- True when two URLs differ in host or port. -/
def isCrossHost (next previous : Url) : Bool :=
  next.hostText? != previous.hostText? || next.effectivePort? != previous.effectivePort?

/-- The headers that may go to the next URL. -/
def dropSensitive (headers : Fields) (next previous : Url) : Fields :=
  if isCrossHost next previous then headers.eraseAll sensitiveHeaders else headers

end Redirect

end HttpClient
